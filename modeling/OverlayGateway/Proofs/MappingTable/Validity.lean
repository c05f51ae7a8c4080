import OverlayGateway.Proofs.Gateway.Exchange
import OverlayGateway.Proofs.Management.NewMapping
import OverlayGateway.Proofs.Management.Writes
import OverlayGateway.Proofs.Periodic.Shutdown
/-!
Which identities a table can come to hold. A mapping that is added by hand has neither a blank
address nor a blank user, while what the remote source sends is merged as it is. So the entries of
a table are all named as long as those that the source sends are, and a caller with an entry is
presented with its user.
-/

set_option autoImplicit false
set_option relaxedAutoImplicit false

namespace OverlayGateway

open Http

/-- A change that does not put a blank address or a blank user into a table. -/
def Write.NonBlank (write : Write) : Prop :=
  ∀ identity, write.identity = some identity →
    Text.isBlankText write.key = false ∧ Text.isBlankText identity.user = false

namespace MappingTable

/-- A table without a blank address and without a blank user. -/
def NonBlank (table : MappingTable) : Prop :=
  ∀ key identity, table.get? key = some identity →
    Text.isBlankText key = false ∧ Text.isBlankText identity.user = false

theorem nonBlank_empty : empty.NonBlank := by
  intro key identity h
  cases h

theorem NonBlank.perform {table : MappingTable} {write : Write} (htable : table.NonBlank)
    (hwrite : write.NonBlank) : (table.perform write).NonBlank := by
  obtain ⟨key, identity⟩ := write
  intro other found hfound
  cases identity with
  | none =>
    simp only [MappingTable.perform, get?_remove] at hfound
    split at hfound
    · cases hfound
    · exact htable other found hfound
  | some identity =>
    simp only [MappingTable.perform, get?_set] at hfound
    split at hfound
    · rename_i hkey
      cases hfound
      exact hkey ▸ hwrite _ rfl
    · exact htable other found hfound

theorem NonBlank.performAll {writes : List Write} :
    ∀ {table : MappingTable}, table.NonBlank → (∀ write ∈ writes, write.NonBlank) →
      (table.performAll writes).NonBlank := by
  induction writes with
  | nil => exact fun htable _ ↦ htable
  | cons write writes ih =>
    intro table htable hwrites
    rw [List.forall_mem_cons] at hwrites
    exact ih (htable.perform hwrites.1) hwrites.2

/-- The changes of a merge are as good as the table that is merged. -/
theorem NonBlank.writes {payload : MappingTable} (h : payload.NonBlank) {write : Write}
    (hwrite : write ∈ payload.writes) : write.NonBlank := by
  intro identity hidentity
  obtain ⟨found, hfound, hget⟩ := mem_writes_iff.1 hwrite
  rw [hidentity] at hfound
  cases hfound
  exact h write.key identity hget

theorem performAll_append (table : MappingTable) (first second : List Write) :
    table.performAll (first ++ second) = (table.performAll first).performAll second :=
  List.foldl_append

/-! ### Events -/

/-- What may change the table while the gateway runs: a request to the management API, with the
answer of the remote source if the request has it asked, and a tick of the periodic merging. -/
inductive Event where
  | request (fetched : MappingSync.Fetched) (interfaces : Directory) (peer : String)
      (request : Request)
  | tick (fetch : Periodic.Fetch)

/-- The table after an event. -/
def after (settings : SyncSettings) (table : MappingTable) : Event → MappingTable
  | .request fetched interfaces peer request =>
    Management.tableAfter settings fetched interfaces peer request table
  | .tick fetch => if settings.isConfigured then (Periodic.merge table fetch).1 else table

/-- The table after some events, which is empty when the gateway starts. -/
def history (settings : SyncSettings) (events : List Event) : MappingTable :=
  events.foldl (after settings) empty

namespace Event

/-- The table that an event merges. -/
def merged? (settings : SyncSettings) : Event → Option MappingTable
  | .request fetched _ _ asking => Management.merged? settings fetched asking
  | .tick fetch => if settings.isConfigured then MappingSync.payload? fetch.answer else none

/-- The change that an event makes by hand. -/
def asked? : Event → Option Write
  | .request _ _ _ asking => Management.asked? asking
  | .tick _ => none

/-- The changes that an event makes. -/
def writes (settings : SyncSettings) (event : Event) : List Write :=
  event.asked?.toList ++ (event.merged? settings).elim [] MappingTable.writes

end Event

theorem history_append (settings : SyncSettings) (past events : List Event) :
    history settings (past ++ events) =
      events.foldl (after settings) (history settings past) :=
  List.foldl_append

theorem table_tick (table : MappingTable) (fetch : Periodic.Fetch) :
    (Periodic.merge table fetch).1 = (MappingSync.merge table fetch.answer).table := by
  unfold Periodic.merge
  cases fetch.answer <;> rfl

/-- Periodic merging goes on with a history by one tick for each of its fetches. -/
theorem table_run (settings : SyncSettings) (past : List Event) (script : Nat → Periodic.Fetch)
    (firedAt : Nat) (choices : List Periodic.Turn) :
    ∃ count, (Periodic.run settings script firedAt choices (history settings past)).table =
      history settings (past ++ (List.range count).map fun number ↦ .tick (script number)) := by
  cases hconfigured : settings.isConfigured with
  | false =>
    refine ⟨0, ?_⟩
    rw [Periodic.run, hconfigured, List.range_zero, List.map_nil, List.append_nil]
    rfl
  | true =>
    obtain ⟨count, _, htable, _⟩ := (Periodic.goes_run (Periodic.interval settings) script firedAt
      choices (.first (history settings past))).consists
    refine ⟨count, ?_⟩
    rw [(Periodic.run_of_configured hconfigured script firedAt choices _).2.1, htable,
      Periodic.Pending.table_after, history_append, List.foldl_map, List.foldl_map]
    simp only [after, hconfigured, if_true, Periodic.Pending.first, Nat.zero_add]

/-- An event changes the table by its own changes and by nothing else. -/
theorem after_eq (settings : SyncSettings) (table : MappingTable) (event : Event) :
    after settings table event = table.performAll (event.writes settings) := by
  cases event with
  | request fetched interfaces peer request => exact Management.tableAfter_eq
  | tick fetch =>
    rw [after, table_tick, MappingSync.table_merge, Event.writes, Event.merged?, Event.asked?]
    split <;> rfl

/-- What an event merges is in the table afterwards. -/
theorem get?_after_of_merged {settings : SyncSettings} {event : Event} {payload : MappingTable}
    (hmerged : event.merged? settings = some payload) (table : MappingTable) {key : String}
    {identity : Identity} (hpayload : payload.get? key = some identity) :
    (after settings table event).get? key = some identity := by
  rw [after_eq, Event.writes, hmerged, performAll_append, Option.elim_some,
    ← merge_eq_performAll, get?_merge_entries, hpayload]
  rfl

/-- A mapping that is added by hand has neither a blank address nor a blank user. -/
theorem nonBlank_of_asked {request : Request} {write : Write}
    (h : Management.asked? request = some write) : write.NonBlank := by
  unfold Management.asked? at h
  split at h
  · split at h
    · split at h
      · rename_i mapping hmapping
        cases h
        intro identity hidentity
        cases hidentity
        have haccepted := Management.newMapping_eq_ok_iff.1 hmapping
        exact ⟨haccepted.address, haccepted.user⟩
      · cases h
    · cases h
  · split at h
    · obtain ⟨key, _, rfl⟩ := Option.map_eq_some_iff.1 h
      intro identity hidentity
      cases hidentity
    · cases h
  · cases h

/-- The changes of an event are as good as what it merges. -/
theorem Event.nonBlank_writes {settings : SyncSettings} {event : Event}
    (hmerged : ∀ payload, event.merged? settings = some payload → payload.NonBlank) {write : Write}
    (hwrite : write ∈ event.writes settings) : write.NonBlank := by
  rcases List.mem_append.1 hwrite with hasked | hpayload
  · cases event with
    | request fetched interfaces peer asking => exact nonBlank_of_asked (Option.mem_toList.1 hasked)
    | tick fetch => cases hasked
  · cases hpayloads : event.merged? settings with
    | none =>
      rw [hpayloads] at hpayload
      cases hpayload
    | some payload =>
      rw [hpayloads] at hpayload
      exact (hmerged payload hpayloads).writes hpayload

/-- Changes that come from events whose merges are good, in any order and mixed in any way. -/
theorem nonBlank_performAll_of_events {settings : SyncSettings} {events : List Event}
    (hmerged : ∀ event ∈ events, ∀ payload, event.merged? settings = some payload →
      payload.NonBlank) {writes : List Write}
    (hwrites : ∀ write ∈ writes, ∃ event ∈ events, write ∈ event.writes settings) :
    (empty.performAll writes).NonBlank := by
  refine nonBlank_empty.performAll fun write hwrite ↦ ?_
  obtain ⟨event, hevent, hmem⟩ := hwrites write hwrite
  exact Event.nonBlank_writes (hmerged event hevent) hmem

/-- The table after some events is the one after all of their changes. -/
theorem history_eq (settings : SyncSettings) (events : List Event) :
    history settings events = empty.performAll (events.flatMap (Event.writes settings)) := by
  have hevents : ∀ table : MappingTable, events.foldl (after settings) table =
      table.performAll (events.flatMap (Event.writes settings)) := by
    induction events with
    | nil => exact fun _ ↦ rfl
    | cons event events ih =>
      intro table
      rw [List.flatMap_cons, performAll_append, ← after_eq]
      exact ih (after settings table event)
  exact hevents empty

/-! ### Callers with an entry -/

/-- A caller with an entry is presented with the user of the entry, unless it names the header
itself for its connection. -/
theorem carries_user_of_mapped {gateway : Gateway} {token : String → Except Failure String}
    {reply : Gateway.Call → Gateway.Reply} {connection : Option String} {table : MappingTable}
    {peer : Ip.Socket} {request : Request} {call : Gateway.Call} {identity : Identity}
    (hmode : gateway.policy.mode = .auth)
    (hcall : call ∈ (gateway.exchange token reply connection table peer request).calls)
    (hmapped : table.get? peer.address.canonical.text = some identity)
    (hnamed : Impersonation.userHeader ∉ Forwarding.connectionNames request.headers) :
    call.headers.Carries Impersonation.userHeader
      (if identity.user = "" then [] else [identity.user]) := by
  obtain ⟨headers, hheaders, hsent⟩ := (Gateway.became_of_mem_calls hcall).headers
  have himpersonation : Impersonation.isImpersonation Impersonation.userHeader = true := by decide
  have hcarries := Gateway.carries_authenticated hmode hheaders himpersonation
  have hresolved : (Impersonation.resolve gateway.policy table
      peer.address.canonical.text).identity = identity := by
    rw [Impersonation.resolve, hmapped]
  have htext : (Impersonation.text? identity peer.address.canonical.text
      Impersonation.userHeader).toList = if identity.user = "" then [] else [identity.user] := by
    rw [Impersonation.text?, if_pos rfl]
    split <;> rfl
  rw [hresolved, htext] at hcarries
  refine hcarries.of_values_eq ?_
  rw [hsent, Gateway.values_callHeaders _ _ (by decide),
    Gateway.connectionNames_authenticated hheaders, if_neg hnamed]

/-- Every table that comes about is without blanks if and only if every table that is merged is. In
that case not even a part of the changes, in whatever order, leaves a blank behind. And where there
is none, a caller with an entry in `auth` mode is never forwarded without its user, unless it names
that header for its connection. What the periodic merging makes of a table comes about in the same
way, by a tick for each of its fetches. -/
theorem nonBlank_history_iff (settings : SyncSettings) (events : List Event) :
    ((∀ past, past <+: events → (history settings past).NonBlank) ↔
      ∀ event ∈ events, ∀ payload, event.merged? settings = some payload → payload.NonBlank) ∧
    ((∀ event ∈ events, ∀ payload, event.merged? settings = some payload → payload.NonBlank) →
      ∀ writes, (∀ write ∈ writes, ∃ event ∈ events, write ∈ event.writes settings) →
        (empty.performAll writes).NonBlank) ∧
    (∀ past, past <+: events → (history settings past).NonBlank →
      ∀ (gateway : Gateway) (token : String → Except Failure String)
        (reply : Gateway.Call → Gateway.Reply) (connection : Option String) (peer : Ip.Socket)
        (request : Request) (call : Gateway.Call) (identity : Identity),
        gateway.policy.mode = .auth →
        call ∈ (gateway.exchange token reply connection (history settings past) peer
          request).calls →
        (history settings past).get? peer.address.canonical.text = some identity →
        Impersonation.userHeader ∉ Forwarding.connectionNames request.headers →
        identity.user ≠ "" ∧
          call.headers.Carries Impersonation.userHeader [identity.user]) ∧
    ∀ (script : Nat → Periodic.Fetch) (firedAt : Nat) (choices : List Periodic.Turn), ∃ count,
      (Periodic.run settings script firedAt choices (history settings events)).table =
        history settings (events ++ (List.range count).map fun number ↦ .tick (script number)) := by
  refine ⟨⟨?blank, ?merged⟩, fun hmerged _ ↦ nonBlank_performAll_of_events hmerged, ?presented,
    table_run settings events⟩
  case blank =>
    intro hpast event hevent payload hmerged key identity hpayload
    -- what the event merges stands in the table right after it
    obtain ⟨before, rest, rfl⟩ := List.append_of_mem hevent
    refine hpast (before ++ [event]) ⟨rest, by simp⟩ key identity ?_
    rw [history_append]
    exact get?_after_of_merged hmerged _ hpayload
  case merged =>
    intro hmerged past hpast
    rw [history_eq]
    refine nonBlank_performAll_of_events (fun event hevent ↦ hmerged event (hpast.subset hevent))
      fun write hwrite ↦ ?_
    exact List.mem_flatMap.1 hwrite
  case presented =>
    intro past _ hnonBlank gateway token reply connection peer request call identity hmode hcall
      hmapped hnamed
    have huser : identity.user ≠ "" := by
      rintro hempty
      have hblank := (hnonBlank _ _ hmapped).2
      rw [hempty] at hblank
      exact absurd hblank (by decide)
    have hcarries := carries_user_of_mapped hmode hcall hmapped hnamed
    rw [if_neg huser] at hcarries
    exact ⟨huser, hcarries⟩

/-- A tick that merges one entry, with a user and without one. -/
theorem nonBlank_history_sample :
    let settings : SyncSettings := { serverDomain := "netmaker.example", apiToken := "token" }
    let tick (user : String) : Event := .tick ⟨.ok (ofList [("10.0.0.1", ⟨user, []⟩)]), 0⟩
    (∀ past, past <+: [tick "alice"] → (history settings past).NonBlank) ∧
      ¬ ∀ past, past <+: [tick ""] → (history settings past).NonBlank := by
  intro settings tick
  have hmerged (user : String) :
      (tick user).merged? settings = some (ofList [("10.0.0.1", ⟨user, []⟩)]) := rfl
  constructor
  · refine (nonBlank_history_iff settings [tick "alice"]).1.2 fun event hevent payload hpayload ↦ ?_
    rw [List.mem_singleton.1 hevent, hmerged, Option.some.injEq] at hpayload
    rw [← hpayload]
    intro key identity hentry
    rw [get?_eq_some_iff] at hentry
    obtain ⟨rfl, rfl⟩ : key = "10.0.0.1" ∧ identity = ⟨"alice", []⟩ := by
      simpa [ofList, merge, set, remove, empty] using hentry
    decide
  · intro hpast
    have hblank := (nonBlank_history_iff settings [tick ""]).1.1 hpast (tick "")
      (List.mem_singleton_self _) _ (hmerged "") "10.0.0.1" ⟨"", []⟩ (by decide)
    exact absurd hblank.2 (by decide)

end MappingTable

end OverlayGateway
