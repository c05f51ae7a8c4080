import OverlayGateway.Proofs.Management.Writes
import OverlayGateway.Proofs.Remote
/-!
What one merge does. It takes all that the source sent or nothing: an entry that is sent replaces
the one with its address, all other entries stay. The order in which the entries of a payload come
does not count, so merging a payload again changes nothing, and after several merges each address
has the identity of the latest payload that knows it.
-/

set_option autoImplicit false
set_option relaxedAutoImplicit false

namespace OverlayGateway.MappingSync

open MappingTable Json

/-- One merge from a source that gives `fetched`. -/
def once (settings : SyncSettings) (table : MappingTable) (fetched : Fetched) : Merge :=
  (fetchOnce (m := Id) settings (pure fetched) table).run

/-- One merge from the endpoint of the configured server, when the network gives `reply`. -/
def onceFrom (settings : SyncSettings) (table : MappingTable) (reply : Remote.Transport Id) :
    Merge :=
  (fetchOnce settings (Remote.fetch reply (Remote.endpoint settings) settings.apiToken) table).run

/-- The table after some merges, in order. -/
def onceAll (settings : SyncSettings) (table : MappingTable) (fetches : List Fetched) :
    MappingTable :=
  fetches.foldl (fun table fetched ↦ (once settings table fetched).table) table

/-- What the latest payload that knows a key has for it. -/
def latest? (fetches : List Fetched) (key : String) : Option Identity :=
  fetches.reverse.findSome? fun fetched ↦ (payload? fetched).bind fun payload ↦ payload.get? key

variable {settings : SyncSettings} {table : MappingTable}

theorem isConfigured_eq_true (hdomain : settings.serverDomain ≠ "")
    (htoken : settings.apiToken ≠ "") : settings.isConfigured = true := by
  simp [SyncSettings.isConfigured, hdomain, htoken]

/-! ### One merge -/

theorem fetchOnce_of_unconfigured (h : settings.serverDomain = "" ∨ settings.apiToken = "")
    {m : Type → Type} [Monad m] (fetch : m Fetched) :
    fetchOnce settings fetch table = pure ⟨.ok 0, table, []⟩ := by
  have hunconfigured : ¬ settings.isConfigured = true := by
    rcases h with h | h <;> simp [SyncSettings.isConfigured, h]
  exact if_neg hunconfigured

section Configured

variable (hconfigured : settings.isConfigured = true)
include hconfigured

theorem once_eq (fetched : Fetched) : once settings table fetched = merge table fetched := by
  unfold once fetchOnce
  rw [if_pos hconfigured]
  rfl

theorem onceFrom_eq {reply : Remote.Transport Id} {fetched : Fetched}
    (hfetch : Remote.fetch reply (Remote.endpoint settings) settings.apiToken = fetched) :
    onceFrom settings table reply = merge table fetched := by
  rw [← once_eq hconfigured, ← hfetch]
  rfl

theorem get?_once (fetched : Fetched) (key : String) :
    (once settings table fetched).table.get? key =
      ((payload? fetched).bind fun payload ↦ payload.get? key).or (table.get? key) := by
  rw [once_eq hconfigured]
  cases fetched with
  | error failure => rfl
  | ok payload => exact table.get?_merge_entries payload key

/-- The entries of a payload may come in any order. -/
theorem once_of_perm {payload reordered : MappingTable}
    (h : reordered.entries.Perm payload.entries) :
    (once settings table (.ok reordered)).result = (once settings table (.ok payload)).result ∧
      (once settings table (.ok reordered)).table.get? =
        (once settings table (.ok payload)).table.get? := by
  rw [once_eq hconfigured, once_eq hconfigured]
  refine ⟨congrArg Except.ok h.length_eq, funext fun key ↦ ?_⟩
  show (table.merge reordered.entries).get? key = (table.merge payload.entries).get? key
  rw [get?_merge, get?_merge_entries, last?_of_perm h]

/-! ### Many merges -/

theorem get?_onceAll (fetches : List Fetched) (key : String) :
    ∀ table : MappingTable, (onceAll settings table fetches).get? key =
      (latest? fetches key).or (table.get? key) := by
  induction fetches with
  | nil => exact fun _ ↦ rfl
  | cons fetched fetches ih =>
    intro table
    refine (ih (once settings table fetched).table).trans ?_
    rw [get?_once hconfigured, ← Option.or_assoc, latest?, latest?, List.reverse_cons,
      List.findSome?_append, List.findSome?_singleton]

end Configured

/-- A merge is all or nothing. Without a server or a token the source is not asked, and nothing
changes. Otherwise the remote source fails, for one of the reasons that there are, and the table
stays as it is; or it sends entries, as many are merged as there are addresses among them, and the
last entry of each address counts. What is merged does not depend on the order of the payload, and
after many merges the latest payload that knows an address counts. -/
theorem merge_law (settings : SyncSettings) (table : MappingTable) :
    (settings.serverDomain = "" ∨ settings.apiToken = "" →
      ∀ (m : Type → Type) [Monad m] (fetch : m Fetched),
        fetchOnce settings fetch table = pure ⟨.ok 0, table, []⟩) ∧
    (settings.serverDomain ≠ "" → settings.apiToken ≠ "" →
      (∀ reply : Remote.Transport Id,
        let Sends := Remote.Sends reply (Remote.endpoint settings) settings.apiToken
        let Fails := Remote.Fails reply (Remote.endpoint settings) settings.apiToken
        let merged := onceFrom settings table reply
        ((∃ failure, Fails failure) ↔ ¬ ∃ entries, Sends entries) ∧
        (∀ failure, merged.result = .error failure ↔ Fails failure) ∧
        (∀ failure, Fails failure → merged = ⟨.error failure, table, []⟩) ∧
        (∀ url bytes member, Url.parse (Remote.endpoint settings) = .ok url →
          reply ⟨url, settings.apiToken⟩ = .ok ⟨200, .ok bytes⟩ → StandsIn member bytes →
          (∀ identity, ¬ Identity.IsReadFrom member.2 identity) → ∃ fault,
            merged = ⟨.error (Remote.undecoded (Remote.faultText fault)), table, []⟩) ∧
        ∀ entries, Sends entries →
          merged = once settings table (.ok (ofList entries)) ∧
          merged.result = .ok (entries.map Prod.fst).toFinset.card ∧
          ∀ key, merged.table.get? key = (last? entries key).or (table.get? key)) ∧
      (∀ payload reordered : MappingTable, reordered.entries.Perm payload.entries →
        (once settings table (.ok reordered)).result = (once settings table (.ok payload)).result ∧
        (once settings table (.ok reordered)).table.get? =
          (once settings table (.ok payload)).table.get?) ∧
      (∀ fetches key, (onceAll settings table fetches).get? key =
        (latest? fetches key).or (table.get? key)) ∧
      (∀ fetched,
        (once settings (once settings table fetched).table fetched).result =
          (once settings table fetched).result ∧
        (onceAll settings table [fetched, fetched]).get? =
          (onceAll settings table [fetched]).get?) ∧
      ∀ (first second : MappingTable) key,
        (onceAll settings table [.ok first, .ok second]).get? key =
          (second.get? key).or ((first.get? key).or (table.get? key))) := by
  refine ⟨fun h m _ fetch ↦ fetchOnce_of_unconfigured h fetch, fun hdomain htoken ↦ ?_⟩
  have hconfigured := isConfigured_eq_true hdomain htoken
  refine ⟨fun reply ↦ ?source, fun _ _ ↦ once_of_perm hconfigured,
    fun fetches key ↦ get?_onceAll hconfigured fetches key table, fun fetched ↦ ?twice,
    fun first second key ↦ ?both⟩
  case source =>
    intro Sends Fails merged
    have hfails (failure : Failure) (h : Fails failure) :
        merged = ⟨.error failure, table, []⟩ := onceFrom_eq hconfigured h.fetch_eq
    have hsends (entries : List (String × Identity)) (h : Sends entries) :
        merged = merge table (.ok (ofList entries)) := onceFrom_eq hconfigured h.fetch_eq
    refine ⟨⟨?_, ?_⟩, fun failure ↦ ⟨fun hresult ↦ ?_, fun h ↦ by rw [hfails failure h]⟩, hfails,
      fun url bytes member hurl hreply hmember hunread ↦ ?_, fun entries h ↦ ⟨?_, ?_, fun key ↦ ?_⟩⟩
    · rintro ⟨failure, h⟩ ⟨entries, hentries⟩
      have hsame := (hfails failure h).symm.trans (hsends entries hentries)
      cases congrArg Merge.result hsame
    · exact (Remote.sends_or_fails reply _ _).resolve_left
    · rcases Remote.sends_or_fails reply (Remote.endpoint settings) settings.apiToken with
        ⟨entries, hentries⟩ | ⟨other, hother⟩
      · rw [hsends entries hentries] at hresult
        cases hresult
      · rw [hfails other hother] at hresult
        cases hresult
        exact hother
    · obtain ⟨fault, h⟩ := Remote.exists_fails_of_not_areBody hurl hreply
        fun entries ↦ not_areBody_of_standsIn hmember hunread
      exact ⟨fault, hfails _ h⟩
    · rw [hsends entries h, once_eq hconfigured]
    · rw [hsends entries h]
      exact congrArg Except.ok (size_ofList entries)
    · rw [hsends entries h, ← get?_ofList]
      exact table.get?_merge_entries (ofList entries) key
  case twice =>
    refine ⟨?_, funext fun key ↦ ?_⟩
    · rw [once_eq hconfigured, once_eq hconfigured]
      cases fetched <;> rfl
    rw [get?_onceAll hconfigured, get?_onceAll hconfigured]
    cases h : (payload? fetched).bind fun payload ↦ payload.get? key <;> simp [latest?, h]
  case both =>
    rw [get?_onceAll hconfigured, ← Option.or_assoc]
    cases h : second.get? key <;> simp [latest?, payload?, h]

def sampleSettings : SyncSettings := { serverDomain := "[fd00::1]", apiToken := "token" }

/-- A body that names an address twice. -/
def sampleBody : List UInt8 :=
  Text.utf8 "\x7b\"mappings\":\x7b\"10.0.0.1\":[\"alice\"],\"10.0.0.1\":[\"bob\"]\x7d\x7d"

theorem exists_areBody_sample : ∃ entries, AreBody sampleBody entries ∧
    (ofList entries).entries = [("10.0.0.1", ⟨"bob", []⟩)] := by
  have hentries : (ofRemote sampleBody).toOption.map MappingTable.entries =
      some [("10.0.0.1", ⟨"bob", []⟩)] := by
    decide +kernel
  obtain ⟨payload, hpayload, hsame⟩ := Option.map_eq_some_iff.1 hentries
  obtain ⟨entries, hbody, rfl⟩ := ofRemote_eq_ok_iff.1 (toOption_eq_some_iff.1 hpayload)
  exact ⟨entries, hbody, hsame⟩

theorem parse_endpoint_sample : Url.parse (Remote.endpoint sampleSettings) =
    .ok {
      scheme := "https"
      location := .hierarchical { host := .v6 ⟨#v[0xFD00, 0, 0, 0, 0, 0, 0, 1]⟩, port := none }
        ["api", "users", "network_ip"] } := by
  rfl

/-- No settings, a network without the server, and an address that is sent twice. -/
theorem merge_law_sample :
    let reply : Remote.Transport Id := fun _ ↦ .ok ⟨200, .ok sampleBody⟩
    (({} : SyncSettings).serverDomain = "" ∧
      ∀ fetch : Id Fetched, fetchOnce {} fetch .empty = pure ⟨.ok 0, .empty, []⟩) ∧
    (sampleSettings.serverDomain ≠ "" ∧ sampleSettings.apiToken ≠ "" ∧
      onceFrom sampleSettings .empty Remote.unreachable =
        ⟨.error (Remote.unanswered "error sending request"), .empty, []⟩) ∧
    (∃ entries,
      Remote.Sends reply (Remote.endpoint sampleSettings) sampleSettings.apiToken entries) ∧
    (onceFrom sampleSettings .empty reply).result = .ok 1 ∧
    (onceFrom sampleSettings .empty reply).table.get? "10.0.0.1" = some ⟨"bob", []⟩ := by
  intro reply
  have hdomain : sampleSettings.serverDomain ≠ "" := by decide
  have htoken : sampleSettings.apiToken ≠ "" := by decide
  obtain ⟨hquiet, _⟩ := merge_law {} .empty
  obtain ⟨_, hconfigured⟩ := merge_law sampleSettings .empty
  obtain ⟨hsource, _⟩ := hconfigured hdomain htoken
  have hfailed := (hsource Remote.unreachable).2.2.1 _ (.unanswered parse_endpoint_sample rfl)
  obtain ⟨entries, hbody, hentries⟩ := exists_areBody_sample
  have hsends : Remote.Sends reply (Remote.endpoint sampleSettings) sampleSettings.apiToken
      entries := .intro parse_endpoint_sample rfl hbody
  obtain ⟨_, _, _, _, hmerged⟩ := hsource reply
  obtain ⟨_, hcount, hget⟩ := hmerged entries hsends
  refine ⟨⟨rfl, hquiet (Or.inl rfl) Id⟩, ⟨hdomain, htoken, hfailed⟩, ⟨entries, hsends⟩, ?_, ?_⟩
  · rw [hcount, ← size_ofList, size, hentries]
    rfl
  · rw [hget, ← get?_ofList, get?, hentries]
    rfl

end OverlayGateway.MappingSync
