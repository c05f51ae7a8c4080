import Mathlib.Data.List.Sort
import OverlayGateway.Proofs.Json.RoundTrip
import OverlayGateway.Proofs.Management.Refinement
import OverlayGateway.Proofs.Remote
/-!
The listing of a table is a payload. Whoever takes the data out of an answered listing and sends
them on as mappings sends the table that was listed: the same addresses with the same identities,
whatever texts they are. An identity alone is read from its own document as well.
-/

set_option autoImplicit false
set_option relaxedAutoImplicit false

namespace OverlayGateway

open Json Text

/-! ### Identities -/

theorem Json.Value.reading_strings (texts : List String) :
    (Value.strings texts).reading = .array (texts.map readingOfText) true := by
  rw [Value.strings, Value.reading, Value.itemReadings_eq_map, List.map_map]
  rfl

namespace Identity

/-- The members that are read from the document of an identity, the user first. -/
def memberReadings (identity : Identity) : List (Option String × Reading) :=
  [(some "user", readingOfText identity.user),
    (some "groups", .array (identity.groups.map readingOfText) true)]

theorem reading_document (identity : Identity) :
    identity.document.reading = .object identity.memberReadings true := by
  rw [document, Value.reading, Value.memberReadings_eq_map, members]
  simp only [List.map_cons, List.map_nil, Value.reading_strings]
  rfl

theorem reading_listed (identity : Identity) :
    identity.listed.reading = .object identity.memberReadings.reverse true := by
  rw [listed, Value.reading, Value.memberReadings_eq_map]
  simp only [List.map_cons, List.map_nil, Value.reading_strings]
  rfl

/-- The members of an identity give it in either order. -/
theorem isReadFrom_of_perm {identity : Identity} {members : List (Option String × Reading)}
    (h : members.Perm identity.memberReadings) : IsReadFrom (.object members true) identity := by
  have hkeys : (fieldKeys fields members).Perm ["user", "groups"] := (h.filterMap _).filter _
  have hnames : ∀ member ∈ members, member.1 = some "user" ∨ member.1 = some "groups" := by
    intro member hmember
    have hwritten := h.mem_iff.1 hmember
    rw [memberReadings, List.mem_pair] at hwritten
    exact hwritten.imp (congrArg Prod.fst) (congrArg Prod.fst)
  have huser (reading : Reading) : (some "user", reading) ∈ members ↔
      reading = readingOfText identity.user := by
    rw [h.mem_iff, memberReadings]
    simp
  have hgroups (reading : Reading) : (some "groups", reading) ∈ members ↔
      reading = .array (identity.groups.map readingOfText) true := by
    rw [h.mem_iff, memberReadings]
    simp
  refine Or.inl ⟨members, rfl, ?keys, ?distinct, ⟨?user, ?others⟩, ?groups, ?absent⟩
  case keys =>
    intro member hmember hnone
    rcases hnames member hmember with hname | hname
    · exact absurd (hnone.symm.trans hname) (Option.some_ne_none _).symm
    · exact absurd (hnone.symm.trans hname) (Option.some_ne_none _).symm
  case distinct =>
    rw [hkeys.nodup_iff]
    decide
  case user => exact (huser _).2 rfl
  case others => exact fun reading hreading ↦ (huser reading).1 hreading
  case groups => exact fun reading hreading ↦ Or.inr ((hgroups reading).1 hreading)
  case absent => exact fun hnone ↦ absurd ((hgroups _).2 rfl) (hnone _)

theorem ofDocument_document (identity : Identity) :
    ofDocument (utf8 identity.document.text) = .ok identity := by
  have hread := isReadFrom_of_perm (List.Perm.refl identity.memberReadings)
  rw [ofDocument, Value.readDocument_text, reading_document, Json.decode_eq_ok_iff,
    Identity.decode_eq_ok_iff]
  exact ⟨hread, rfl⟩

theorem isReadFrom_listed (identity : Identity) : IsReadFrom identity.listed.reading identity := by
  rw [reading_listed]
  exact isReadFrom_of_perm (List.reverse_perm _)

end Identity

/-! ### Tables -/

namespace MappingTable

/-- The members that list some entries. -/
def listedMembers (entries : List (String × Identity)) : List (String × Value) :=
  entries.map fun entry ↦ (entry.1, entry.2.listed)

theorem exists_document_eq (table : MappingTable) : ∃ entries,
    entries.Perm table.entries ∧ table.document = .object (listedMembers entries) := by
  have hlisted : (table.entries.map fun entry ↦ (entry.1, Value.sorted entry.2.members)) =
      listedMembers table.entries :=
    List.map_congr_left fun entry _ ↦ congrArg (Prod.mk entry.1) entry.2.sorted_members
  refine ⟨table.entries.mergeSort fun a b ↦ decide (a.1 ≤ b.1), List.mergeSort_perm _ _, ?_⟩
  have hsorted : table.document = Value.sorted (listedMembers table.entries) :=
    congrArg Value.sorted hlisted
  rw [hsorted, Value.sorted, listedMembers, listedMembers]
  rw [List.map_mergeSort]
  exact fun _ _ _ _ ↦ rfl

/-- What lists entries gives those entries. -/
theorem areEntries_listedMembers (entries : List (String × Identity)) :
    AreEntries (Value.object (listedMembers entries)).reading entries := by
  refine Or.inr ⟨_, rfl, ?_⟩
  rw [Value.memberReadings_eq_map, listedMembers, List.map_map, List.forall₂_map_left_iff,
    List.forall₂_same]
  exact fun entry _ ↦ ⟨rfl, entry.2.isReadFrom_listed⟩

/-- The bytes of a JSON text are an object in which exactly one member has a key, with a value. -/
def HasMember (bytes : List UInt8) (key : String) (value : Reading) : Prop :=
  ∃ members, readDocument bytes = ⟨.object members true, true⟩ ∧
    ∀ reading, (some key, reading) ∈ members ↔ reading = value

theorem HasMember.eq {bytes : List UInt8} {key : String} {first second : Reading}
    (hfirst : HasMember bytes key first) (hsecond : HasMember bytes key second) :
    first = second := by
  obtain ⟨members, hread, hmember⟩ := hfirst
  obtain ⟨others, hagain, hother⟩ := hsecond
  rw [hread] at hagain
  cases hagain
  exact (hother first).1 ((hmember first).2 rfl)

/-- The bytes of a JSON text wrap data: an object with the data as its mappings, and nothing
else. -/
def Wraps (bytes : List UInt8) (data : Reading) : Prop :=
  readDocument bytes = ⟨.object [(some "mappings", data)] true, true⟩

theorem wraps_text (data : Value) :
    Wraps (utf8 (Value.object [("mappings", data)]).text) data.reading := by
  rw [Wraps, Value.readDocument_text]
  rfl

theorem areBody_of_wraps {bytes : List UInt8} {data : Reading} (h : Wraps bytes data)
    {entries : List (String × Identity)} (hentries : AreEntries data entries) :
    AreBody bytes entries := by
  have hmem (reading : Reading) :
      (some "mappings", reading) ∈ [(some "mappings", data)] ↔ reading = data := by
    simp
  rw [AreBody, h]
  refine ⟨rfl, Or.inl ⟨_, rfl, ?keys, ?distinct, fun reading hreading ↦ ?present, ?absent⟩⟩
  case keys =>
    rw [List.forall_mem_singleton]
    exact Option.some_ne_none _
  case distinct => exact List.nodup_singleton "mappings"
  case present =>
    rw [(hmem reading).1 hreading]
    exact hentries
  case absent => exact fun hnone ↦ absurd ((hmem data).2 rfl) (hnone data)

/-- A listing that is sent as mappings is the table that was listed. -/
theorem exists_ofRemote_of_wraps {table : MappingTable} {bytes : List UInt8}
    (h : Wraps bytes table.document.reading) :
    ∃ payload, ofRemote bytes = .ok payload ∧ payload.entries.Perm table.entries := by
  obtain ⟨entries, hperm, hdocument⟩ := table.exists_document_eq
  rw [hdocument] at h
  have hbody := areBody_of_wraps h (areEntries_listedMembers entries)
  refine ⟨ofList entries, ofRemote_eq_ok_iff.2 ⟨entries, hbody, rfl⟩, ?_⟩
  refine perm_entries_of_get?_eq fun key ↦ ?_
  rw [get?_ofList, last?_of_perm hperm]

theorem merge_empty_perm (payload : MappingTable) :
    (MappingSync.merge .empty (.ok payload)).table.entries.Perm payload.entries := by
  refine perm_entries_of_get?_eq fun key ↦ ?_
  refine (get?_merge_entries .empty payload key).trans ?_
  rw [get?_empty, Option.or_none]

end MappingTable

/-! ### Listings -/

namespace Management

open Http MappingTable

variable {settings : SyncSettings} {visit : Visit} {table : MappingTable}

theorem hasMember_listing (hpath : visit.request.path = "/admin/user-mappings")
    (hget : visit.request.method = "GET") :
    HasMember (visit.serve settings table).response.body.toList "data" table.document.reading := by
  rw [(isDocument_serve_listing hpath hget).body, toList_toUTF8, HasMember, Value.readDocument_text]
  refine ⟨_, rfl, fun reading ↦ ?_⟩
  simp [Value.memberReadings]

/-- A listing comes back as the table. A GET of the mappings is answered with an object that has one
member `data`, which can be wrapped as the mappings of a payload; and whichever text wraps it is
decoded as a payload with the entries of the table, in some order, which are also those of an empty
table after they are merged into it. Every identity is read from its own document, so that its
document is written again. -/
theorem listing_round_trip (settings : SyncSettings) (table : MappingTable) :
    (∀ visit : Visit, visit.request.path = "/admin/user-mappings" →
      visit.request.method = "GET" →
      let body := (visit.serve settings table).response.body.toList
      (∃ data : Value, HasMember body "data" data.reading ∧
        Wraps (utf8 (Value.object [("mappings", data)]).text) data.reading) ∧
      ∀ data bytes, HasMember body "data" data → Wraps bytes data →
        ∃ payload, ofRemote bytes = .ok payload ∧ payload.entries.Perm table.entries ∧
          (MappingSync.merge .empty (.ok payload)).table.entries.Perm table.entries) ∧
    ∀ identity : Identity, ∃ decoded,
      Identity.ofDocument (utf8 identity.document.text) = .ok decoded ∧ decoded = identity ∧
        decoded.document.text = identity.document.text := by
  refine ⟨fun visit hpath hget ↦ ?_, fun identity ↦ ?_⟩
  · have hlisting := @hasMember_listing settings visit table hpath hget
    refine ⟨⟨table.document, hlisting, wraps_text table.document⟩,
      fun data bytes hdata hwraps ↦ ?_⟩
    rw [hdata.eq hlisting] at hwraps
    obtain ⟨payload, hpayload, hperm⟩ := exists_ofRemote_of_wraps hwraps
    exact ⟨payload, hpayload, hperm, (merge_empty_perm payload).trans hperm⟩
  · exact ⟨identity, identity.ofDocument_document, rfl, rfl⟩

/-- A table of one entry, with a quote, a backslash, control characters and a character beyond the
first plane. -/
def sampleTable : MappingTable :=
  .ofList [("10.0.0.1\"", ⟨"al\\ice\x01", ["\n", "é😀", ""]⟩)]

/-- The listing of such a table, wrapped, is that table. -/
theorem listing_round_trip_sample :
    let visit := sampleVisit "GET" "/admin/user-mappings" ""
    visit.request.path = "/admin/user-mappings" ∧ visit.request.method = "GET" ∧
      ∃ data : Value,
        HasMember (visit.serve {} sampleTable).response.body.toList "data" data.reading ∧
        ∃ payload, ofRemote (utf8 (Value.object [("mappings", data)]).text) = .ok payload ∧
          payload.entries = sampleTable.entries := by
  intro visit
  obtain ⟨hlisting, _⟩ := listing_round_trip {} sampleTable
  obtain ⟨⟨data, hdata, hwraps⟩, hsent⟩ := hlisting visit rfl rfl
  obtain ⟨payload, hpayload, hperm, _⟩ := hsent _ _ hdata hwraps
  exact ⟨rfl, rfl, data, hdata, payload, hpayload, List.perm_singleton.1 hperm⟩

end Management

end OverlayGateway
