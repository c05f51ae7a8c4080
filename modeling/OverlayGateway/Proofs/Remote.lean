import Mathlib.Data.Finset.Card
import OverlayGateway.MappingSync
import OverlayGateway.Proofs.Identity.Document
import OverlayGateway.Proofs.MappingTable.Merge
/-!
What the remote source sends. An answer counts with status 200 and a body that decodes to its end;
every entry of it has to be there as an identity, and of two entries with one address the later one
counts. Whatever else happens is one failure.
-/

set_option autoImplicit false
set_option relaxedAutoImplicit false

namespace OverlayGateway

open Json

/-! ### Entries -/

namespace MappingTable

/-- A member gives an identity to an address. -/
def GivesEntry (member : Option String × Reading) (entry : String × Identity) : Prop :=
  member.1 = some entry.1 ∧ Identity.IsReadFrom member.2 entry.2

/-- Whether entries are read from a value: one from each member of an object, none from `null`. -/
def AreEntries (value : Reading) (entries : List (String × Identity)) : Prop :=
  value = .null ∧ entries = [] ∨
    ∃ members, value = .object members true ∧ List.Forall₂ GivesEntry members entries

/-- Whether the value of an answer gives entries: as the member `mappings` of an object, none if it
is not there, or as the only item of an array. -/
def AreSent (value : Reading) (entries : List (String × Identity)) : Prop :=
  (∃ members, value = .object members true ∧ (∀ member ∈ members, member.1 ≠ none) ∧
    (fieldKeys [remoteField] members).Nodup ∧
    (∀ reading, (some "mappings", reading) ∈ members → AreEntries reading entries) ∧
    ((∀ reading, (some "mappings", reading) ∉ members) → entries = [])) ∨
  value = .array [] true ∧ entries = [] ∨
  ∃ item, value = .array [item] true ∧ AreEntries item entries

variable {value : Reading} {entries : List (String × Identity)}

theorem decode_remoteField_eq_ok_iff :
    remoteField.decode value = .ok entries ↔ AreEntries value entries := by
  have hentry : DecodesMember Identity.decode = GivesEntry := by
    funext member entry
    rw [DecodesMember, GivesEntry, Identity.decode_eq_ok_iff]
  simp only [remoteField, map_eq_ok_iff, orNull_eq_ok_iff, asMapOf_eq_ok_iff, hentry, AreEntries]
  constructor
  · rintro ⟨_, ⟨rfl, rfl⟩ | ⟨_, found, hfound, rfl⟩, rfl⟩
    · exact Or.inl ⟨rfl, rfl⟩
    · exact Or.inr hfound
  · rintro (⟨rfl, rfl⟩ | ⟨members, rfl, hmembers⟩)
    · exact ⟨none, Or.inl ⟨rfl, rfl⟩, rfl⟩
    · exact ⟨some entries, Or.inr ⟨by simp, entries, ⟨members, rfl, hmembers⟩, rfl⟩, rfl⟩

theorem absent_remoteField_iff : remoteField.absent = some entries ↔ entries = [] := by
  simp [remoteField, eq_comm]

theorem decodeRemote_eq_ok_iff {payload : MappingTable} :
    decodeRemote value = .ok payload ↔
      ∃ entries, AreSent value entries ∧ payload = ofList entries := by
  have hrecord (entries : List (String × Identity)) :
      asRecord "MappingsResponse" [remoteField] value = .ok [entries] ↔ AreSent value entries := by
    have hname : remoteField.name = "mappings" := rfl
    rw [asRecord_eq_ok_iff (by decide), AreSent]
    simp only [shows_iff, List.forall₂_cons, List.forall₂_nil_left_iff, and_true,
      RecordField.holds_iff, places_singleton_iff, decode_remoteField_eq_ok_iff,
      absent_remoteField_iff, hname]
    grind
  unfold decodeRemote
  rw [bind_eq_ok_iff]
  constructor
  · rintro ⟨values, hvalues, hpayload⟩
    split at hpayload
    · cases hpayload
      exact ⟨_, (hrecord _).1 hvalues, rfl⟩
    · cases hpayload
  · rintro ⟨entries, hentries, rfl⟩
    exact ⟨[entries], (hrecord entries).2 hentries, rfl⟩

/-- Whether entries make up a whole body. -/
def AreBody (bytes : List UInt8) (entries : List (String × Identity)) : Prop :=
  (readDocument bytes).clean = true ∧ AreSent (readDocument bytes).value entries

theorem ofRemote_eq_ok_iff {bytes : List UInt8} {payload : MappingTable} :
    ofRemote bytes = .ok payload ↔ ∃ entries, AreBody bytes entries ∧ payload = ofList entries := by
  rw [ofRemote, decode_eq_ok_iff, decodeRemote_eq_ok_iff]
  constructor
  · rintro ⟨⟨entries, hsent, rfl⟩, hclean⟩
    exact ⟨entries, ⟨hclean, hsent⟩, rfl⟩
  · rintro ⟨entries, ⟨hclean, hsent⟩, rfl⟩
    exact ⟨⟨entries, hsent, rfl⟩, hclean⟩

/-- A member stands among the mappings of a body. -/
def StandsIn (member : Option String × Reading) (bytes : List UInt8) : Prop :=
  ∃ members entryMembers closed closedInside, (readDocument bytes).value = .object members closed ∧
    (some "mappings", .object entryMembers closedInside) ∈ members ∧ member ∈ entryMembers

/-- One member of the mappings that gives no identity spoils all of them. -/
theorem not_areBody_of_standsIn {bytes : List UInt8} {member : Option String × Reading}
    (hmember : StandsIn member bytes)
    (hunread : ∀ identity, ¬ Identity.IsReadFrom member.2 identity) : ¬ AreBody bytes entries := by
  obtain ⟨members, entryMembers, closed, closedInside, hvalue, hmappings, hmem⟩ := hmember
  rintro ⟨_, hsent⟩
  rw [hvalue] at hsent
  rcases hsent with ⟨_, hobject, _, _, hall, _⟩ | ⟨harray, _⟩ | ⟨_, harray, _⟩
  · cases hobject
    rcases hall _ hmappings with ⟨hnull, _⟩ | ⟨_, hobject, hgives⟩
    · cases hnull
    · cases hobject
      obtain ⟨entry, _, hentry⟩ := exists_of_forall₂ hgives hmem
      exact hunread entry.2 hentry.2
  · cases harray
  · cases harray

/-! ### The table of some entries -/

theorem get?_ofList (entries : List (String × Identity)) (key : String) :
    (ofList entries).get? key = last? entries key := by
  rw [ofList, get?_merge, get?_empty, Option.or_none]

theorem mem_keys_ofList {entries : List (String × Identity)} {key : String} :
    key ∈ (ofList entries).entries.map Prod.fst ↔ key ∈ entries.map Prod.fst := by
  have hget : (ofList entries).entries.lookup key = entries.reverse.lookup key :=
    get?_ofList entries key
  rw [← not_iff_not, ← lookup_eq_none_iff, hget, lookup_eq_none_iff, List.map_reverse,
    List.mem_reverse]

/-- A table has as many entries as there are addresses among those that it is made of. -/
theorem size_ofList (entries : List (String × Identity)) :
    (ofList entries).size = (entries.map Prod.fst).toFinset.card := by
  have hkeys : ((ofList entries).entries.map Prod.fst).toFinset =
      (entries.map Prod.fst).toFinset := by
    ext key
    rw [List.mem_toFinset, List.mem_toFinset, mem_keys_ofList]
  rw [← hkeys, List.toFinset_card_of_nodup (ofList entries).nodup, List.length_map, size]

end MappingTable

/-! ### Answers -/

namespace Remote

open MappingTable

/-- The remote source answers a query with a whole body that holds entries. -/
inductive Sends (reply : Transport Id) (endpoint token : String) :
    List (String × Identity) → Prop
  | intro {url : Url} {bytes : List UInt8} {entries : List (String × Identity)}
      (hurl : Url.parse endpoint = .ok url) (hreply : reply ⟨url, token⟩ = .ok ⟨200, .ok bytes⟩)
      (hbody : AreBody bytes entries) : Sends reply endpoint token entries

/-- The remote source cannot be asked, does not answer, or not with a whole body that holds
entries. -/
inductive Fails (reply : Transport Id) (endpoint token : String) : Failure → Prop
  | malformed {error : UrlError} (hurl : Url.parse endpoint = .error error) :
      Fails reply endpoint token (malformedEndpoint endpoint error)
  | unanswered {url : Url} {cause : String} (hurl : Url.parse endpoint = .ok url)
      (hreply : reply ⟨url, token⟩ = .error cause) : Fails reply endpoint token (unanswered cause)
  | unsuccessful {url : Url} {received : Received} (hurl : Url.parse endpoint = .ok url)
      (hreply : reply ⟨url, token⟩ = .ok received) (hstatus : received.status ≠ 200) :
      Fails reply endpoint token (unsuccessful received)
  | broken {url : Url} {cause : String} (hurl : Url.parse endpoint = .ok url)
      (hreply : reply ⟨url, token⟩ = .ok ⟨200, .error cause⟩) :
      Fails reply endpoint token (undecoded cause)
  | undecoded {url : Url} {bytes : List UInt8} {fault : Fault}
      (hurl : Url.parse endpoint = .ok url) (hreply : reply ⟨url, token⟩ = .ok ⟨200, .ok bytes⟩)
      (hnone : ∀ entries, ¬ AreBody bytes entries) (hfault : ofRemote bytes = .error fault) :
      Fails reply endpoint token (undecoded (faultText fault))

variable {reply : Transport Id} {endpoint token : String}

/-- What a source gives that is asked at a URL. -/
theorem fetch_of_url {url : Url} (hurl : Url.parse endpoint = .ok url) :
    fetch reply endpoint token =
      match reply ⟨url, token⟩ with
      | .error cause => .error (unanswered cause)
      | .ok received => table received := by
  unfold fetch
  rw [hurl]
  rfl

theorem Sends.fetch_eq {entries : List (String × Identity)}
    (h : Sends reply endpoint token entries) :
    fetch reply endpoint token = .ok (ofList entries) := by
  cases h with
  | intro hurl hreply hbody =>
    have hdecoded := ofRemote_eq_ok_iff.2 ⟨entries, hbody, rfl⟩
    rw [fetch_of_url hurl, hreply]
    simp [table, hdecoded, Except.mapError]

theorem Fails.fetch_eq {failure : Failure} (h : Fails reply endpoint token failure) :
    fetch reply endpoint token = .error failure := by
  cases h with
  | malformed hurl =>
    unfold fetch
    rw [hurl]
    rfl
  | unanswered hurl hreply => rw [fetch_of_url hurl, hreply]
  | unsuccessful hurl hreply hstatus =>
    rw [fetch_of_url hurl, hreply]
    exact if_pos hstatus
  | broken hurl hreply =>
    rw [fetch_of_url hurl, hreply]
    simp [table]
  | undecoded hurl hreply _ hfault =>
    rw [fetch_of_url hurl, hreply]
    simp [table, hfault, Except.mapError]

/-- A body that is no payload is one failure, whatever is wrong with it. -/
theorem exists_fails_of_not_areBody {url : Url} {bytes : List UInt8}
    (hurl : Url.parse endpoint = .ok url) (hreply : reply ⟨url, token⟩ = .ok ⟨200, .ok bytes⟩)
    (hnone : ∀ entries, ¬ AreBody bytes entries) :
    ∃ fault, Fails reply endpoint token (undecoded (faultText fault)) := by
  cases hdecoded : ofRemote bytes with
  | ok payload =>
    obtain ⟨entries, hbody, _⟩ := ofRemote_eq_ok_iff.1 hdecoded
    exact absurd hbody (hnone entries)
  | error fault => exact ⟨fault, .undecoded hurl hreply hnone hdecoded⟩

/-- There is no third way. -/
theorem sends_or_fails (reply : Transport Id) (endpoint token : String) :
    (∃ entries, Sends reply endpoint token entries) ∨
      ∃ failure, Fails reply endpoint token failure := by
  cases hurl : Url.parse endpoint with
  | error error => exact Or.inr ⟨_, .malformed hurl⟩
  | ok url =>
    cases hreply : reply ⟨url, token⟩ with
    | error cause => exact Or.inr ⟨_, .unanswered hurl hreply⟩
    | ok received =>
      by_cases hstatus : received.status = 200
      case neg => exact Or.inr ⟨_, .unsuccessful hurl hreply hstatus⟩
      obtain ⟨status, body⟩ := received
      subst hstatus
      cases body with
      | error cause => exact Or.inr ⟨_, .broken hurl hreply⟩
      | ok bytes =>
        by_cases hbody : ∃ entries, AreBody bytes entries
        · exact Or.inl (hbody.imp fun _ h ↦ .intro hurl hreply h)
        · obtain ⟨fault, hfails⟩ :=
            exists_fails_of_not_areBody hurl hreply (not_exists.1 hbody)
          exact Or.inr ⟨_, hfails⟩

end Remote

end OverlayGateway
