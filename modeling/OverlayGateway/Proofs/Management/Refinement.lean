import OverlayGateway.Proofs.Http.Message
import OverlayGateway.Proofs.Management.NewMapping
import OverlayGateway.Proofs.Management.Writes
import OverlayGateway.Proofs.MappingTable.Listing
import OverlayGateway.Proofs.Url.Percent
/-!
The management API as a finite map. A request asks for one of three changes or for none: a mapping
is put, a key is dropped, or the mappings of the remote source are laid over those that are there.
The table after any requests is the map after the changes that they asked for, and the listing shows
that map.
-/

set_option autoImplicit false
set_option relaxedAutoImplicit false

namespace OverlayGateway.Management

open Http Json

/-! ### Changes of a map -/

/-- A finite map from address texts to identities. -/
abbrev Mappings := String → Option Identity

inductive Change where
  | put (mapping : NewMapping)
  | drop (key : String)
  | overlay (payload : MappingTable)

def Change.apply : Change → Mappings → Mappings
  | .put mapping, map => fun key ↦ if key = mapping.address then some mapping.identity else map key
  | .drop dropped, map => fun key ↦ if key = dropped then none else map key
  | .overlay payload, map => fun key ↦ (payload.get? key).or (map key)

/-- A request, with everything else that its answer depends on apart from the table. -/
structure Visit where
  fetched : MappingSync.Fetched
  interfaces : Directory
  peer : String
  request : Request

namespace Visit

def serve (visit : Visit) (settings : SyncSettings) (table : MappingTable) : Served :=
  (Management.serve (m := Id) settings (pure visit.fetched) visit.interfaces table visit.peer
    visit.request).run

/-- The changes that a visit may ask for. -/
inductive Asks (settings : SyncSettings) (visit : Visit) : Change → Prop
  | put {mapping : NewMapping} (hpath : visit.request.path = "/admin/user-mappings")
      (hmethod : visit.request.method = "POST") (haccepted : Accepted visit.request mapping) :
      Asks settings visit (.put mapping)
  | drop {segment key : String} (hpath : visit.request.path = "/admin/user-mappings/" ++ segment)
      (hsegment : segment ≠ "" ∧ '/' ∉ segment.toList) (hmethod : visit.request.method = "DELETE")
      (hkey : Text.ofUtf8? (Percent.decodeText segment) = some key) :
      Asks settings visit (.drop key)
  | overlay {payload : MappingTable} (hpath : visit.request.path = "/admin/sync-external-api")
      (hmethod : visit.request.method = "POST") (hconfigured : settings.isConfigured = true)
      (hfetched : visit.fetched = .ok payload) : Asks settings visit (.overlay payload)

/-- The change that a visit asks for, if it asks for one. -/
def change? (settings : SyncSettings) (visit : Visit) : Option Change :=
  match Route.ofPath? visit.request.path with
  | some .mappings =>
    if visit.request.method = "POST" then (newMapping visit.request).toOption.map .put else none
  | some (.mapping segment) =>
    if visit.request.method = "DELETE" then
      (Text.ofUtf8? (Percent.decodeText segment)).map .drop
    else none
  | some .syncNow =>
    if visit.request.method = "POST" ∧ settings.isConfigured = true then
      visit.fetched.toOption.map .overlay
    else none
  | _ => none

variable {settings : SyncSettings} {visit : Visit} {table : MappingTable}

theorem change?_eq_some_iff {change : Change} :
    visit.change? settings = some change ↔ visit.Asks settings change := by
  constructor
  · intro h
    unfold change? at h
    split at h
    · rename_i hroute
      split at h
      · rename_i hmethod
        obtain ⟨mapping, hmapping, rfl⟩ := Option.map_eq_some_iff.1 h
        exact .put (Route.ofPath?_eq_mappings_iff.1 hroute) hmethod
          (newMapping_eq_ok_iff.1 (toOption_eq_some_iff.1 hmapping))
      · cases h
    · rename_i segment hroute
      obtain ⟨hpath, hsegment⟩ := Route.ofPath?_eq_mapping_iff.1 hroute
      split at h
      · rename_i hmethod
        obtain ⟨key, hkey, rfl⟩ := Option.map_eq_some_iff.1 h
        exact .drop hpath hsegment hmethod hkey
      · cases h
    · rename_i hroute
      split at h
      · rename_i hmethod
        obtain ⟨payload, hpayload, rfl⟩ := Option.map_eq_some_iff.1 h
        exact .overlay (Route.ofPath?_eq_syncNow_iff.1 hroute) hmethod.1 hmethod.2
          (toOption_eq_some_iff.1 hpayload)
      · cases h
    · cases h
  · intro h
    unfold change?
    cases h with
    | put hpath hmethod haccepted =>
      rw [Route.ofPath?_eq_mappings_iff.2 hpath]
      simp only [hmethod, if_true, newMapping_eq_ok_iff.2 haccepted]
      rfl
    | drop hpath hsegment hmethod hkey =>
      rw [Route.ofPath?_eq_mapping_iff.2 ⟨hpath, hsegment⟩]
      simp only [hmethod, if_true, hkey]
      rfl
    | overlay hpath hmethod hconfigured hfetched =>
      rw [Route.ofPath?_eq_syncNow_iff.2 hpath]
      simp only [hmethod, hconfigured, and_self, if_true, hfetched]
      rfl

/-- The changes of a visit, key by key, are those of the change that it asks for. -/
theorem writes_eq : Management.writes settings visit.fetched visit.request =
    match visit.change? settings with
    | some (.put mapping) => [⟨mapping.address, some mapping.identity⟩]
    | some (.drop key) => [⟨key, none⟩]
    | some (.overlay payload) => payload.writes
    | none => [] := by
  unfold Management.writes asked? merged? change?
  cases hroute : Route.ofPath? visit.request.path with
  | none => simp
  | some route =>
    cases route with
    | health => simp
    | ready => simp
    | overlayStatus => simp
    | mappings =>
      by_cases hmethod : visit.request.method = "POST"
      · cases newMapping visit.request <;> simp [hmethod, Except.toOption]
      · simp [hmethod]
    | mapping segment =>
      by_cases hmethod : visit.request.method = "DELETE"
      · cases hkey : Text.ofUtf8? (Percent.decodeText segment) <;> simp [hmethod, hkey]
      · simp [hmethod]
    | syncNow =>
      by_cases hmethod : visit.request.method = "POST"
      · cases settings.isConfigured <;> cases visit.fetched <;>
          simp [hmethod, MappingSync.payload?, Except.toOption]
      · simp [hmethod]

theorem table_serve : (visit.serve settings table).table =
    table.performAll (Management.writes settings visit.fetched visit.request) :=
  tableAfter_eq

/-- A visit changes the map as it asks for. -/
theorem get?_serve : (visit.serve settings table).table.get? =
    match visit.change? settings with
    | some change => change.apply table.get?
    | none => table.get? := by
  funext key
  rw [table_serve, writes_eq]
  cases visit.change? settings with
  | none => rfl
  | some change =>
    cases change with
    | put mapping =>
      refine (table.get?_set mapping.address key mapping.identity).trans ?_
      simp only [Change.apply, eq_comm]
    | drop dropped =>
      refine (table.get?_remove dropped key).trans ?_
      simp only [Change.apply, eq_comm]
    | overlay payload =>
      dsimp only
      rw [← MappingTable.merge_eq_performAll, MappingTable.get?_merge_entries]
      rfl

/-- A visit that asks for no change leaves the table as it is. -/
theorem table_serve_of_no_change (h : ∀ change, ¬ visit.Asks settings change) :
    (visit.serve settings table).table = table := by
  have hnone : visit.change? settings = none :=
    Option.eq_none_iff_forall_ne_some.2 fun change hchange ↦
      h change (change?_eq_some_iff.1 hchange)
  rw [table_serve, writes_eq, hnone]
  rfl

end Visit

/-! ### Runs -/

/-- The table after some visits, in order. -/
def tableAfterAll (settings : SyncSettings) (table : MappingTable) (visits : List Visit) :
    MappingTable :=
  visits.foldl (fun table visit ↦ (visit.serve settings table).table) table

/-- The map after a visit. -/
def step (settings : SyncSettings) (map : Mappings) (visit : Visit) : Mappings :=
  match visit.change? settings with
  | some change => change.apply map
  | none => map

theorem get?_tableAfterAll (settings : SyncSettings) (visits : List Visit) :
    ∀ table : MappingTable, (tableAfterAll settings table visits).get? =
      visits.foldl (step settings) table.get? := by
  induction visits with
  | nil => exact fun _ ↦ rfl
  | cons visit visits ih =>
    intro table
    refine (ih (visit.serve settings table).table).trans ?_
    rw [Visit.get?_serve]
    rfl

/-! ### Answers -/

section Answers

variable {settings : SyncSettings} {visit : Visit} {table : MappingTable}

/-- A request by a method of its route is answered as the route answers it. -/
theorem response_serve {route : Route} (hroute : Route.ofPath? visit.request.path = some route)
    (hmethod : visit.request.method ∈ route.methods) :
    (visit.serve settings table).response =
      (serveRoute (m := Id) settings (pure visit.fetched) visit.interfaces table visit.request
        route).run.response.finished visit.request.method := by
  unfold Visit.serve Management.serve
  rw [hroute]
  dsimp only
  rw [if_pos (List.contains_iff_mem.2 hmethod)]
  rfl

theorem status_of_newMapping_error {request : Request} {failure : Failure}
    (h : newMapping request = .error failure) : failure.status = 400 := by
  have hmisformed : ∃ details, failure = misformed details := by
    unfold newMapping at h
    grind
  obtain ⟨details, rfl⟩ := hmisformed
  rfl

theorem status_serve_of_unrouted (hroute : Route.ofPath? visit.request.path = none) :
    (visit.serve settings table).response.status = 404 := by
  unfold Visit.serve Management.serve
  rw [hroute]
  exact Response.status_unrouted visit.request.path

theorem status_serve_of_notMem_methods {route : Route}
    (hroute : Route.ofPath? visit.request.path = some route)
    (hmethod : visit.request.method ∉ route.methods) :
    (visit.serve settings table).response.status = 405 := by
  unfold Visit.serve Management.serve
  rw [hroute]
  dsimp only
  rw [if_neg (mt List.contains_iff_mem.1 hmethod)]
  exact Response.status_finished (methodNotAllowed route) visit.request.method

theorem status_asSyncFailure (failure : Failure) : (asSyncFailure failure).status = 500 := by
  cases failure <;> rfl

theorem status_syncNow :
    (syncNow (m := Id) settings (pure visit.fetched) table).run.response.status = 200 ↔
      settings.isConfigured = true ∧ ∃ payload, visit.fetched = .ok payload := by
  unfold syncNow MappingSync.fetchOnce
  cases settings.isConfigured with
  | false => simp [Failure.answer, Response.json, Failure.status]
  | true =>
    cases hfetched : visit.fetched with
    | error failure =>
      have hstatus := status_asSyncFailure failure
      simp [MappingSync.merge, Failure.answer, Response.json, hstatus]
    | ok payload => simp [MappingSync.merge, ok, Response.json]

theorem status_add : (add visit.request table).response.status = 200 ↔
    ∃ mapping, Accepted visit.request mapping := by
  simp only [← newMapping_eq_ok_iff]
  unfold add
  cases hmapping : newMapping visit.request with
  | error failure =>
    have hstatus := status_of_newMapping_error hmapping
    simp [Failure.answer, Response.json, hstatus]
  | ok mapping => simp [ok, Response.json]

theorem Visit.Asks.routed {change : Change} (h : visit.Asks settings change) :
    ∃ route, Route.ofPath? visit.request.path = some route ∧
      visit.request.method ∈ route.methods := by
  cases h with
  | put hpath hmethod _ =>
    exact ⟨_, Route.ofPath?_eq_mappings_iff.2 hpath, by rw [hmethod]; decide⟩
  | drop hpath hsegment hmethod _ =>
    exact ⟨_, Route.ofPath?_eq_mapping_iff.2 ⟨hpath, hsegment⟩, by
      rw [hmethod]; exact List.mem_singleton_self _⟩
  | overlay hpath hmethod _ _ =>
    exact ⟨_, Route.ofPath?_eq_syncNow_iff.2 hpath, by rw [hmethod]; decide⟩

/-- A visit that asks for a change does so by a method of its route. -/
theorem Visit.Asks.mem_methods {change : Change} (h : visit.Asks settings change) {route : Route}
    (hroute : Route.ofPath? visit.request.path = some route) :
    visit.request.method ∈ route.methods := by
  obtain ⟨other, hrouted, hallowed⟩ := h.routed
  rw [hroute, Option.some_inj] at hrouted
  exact hrouted ▸ hallowed

/-- A POST succeeds if and only if it asks for a change. -/
theorem status_serve_post (hpost : visit.request.method = "POST") :
    (visit.serve settings table).response.status = 200 ↔
      ∃ change, visit.Asks settings change := by
  cases hroute : Route.ofPath? visit.request.path with
  | none =>
    rw [status_serve_of_unrouted hroute]
    refine iff_of_false (by decide) ?_
    rintro ⟨change, hasks⟩
    obtain ⟨route, hrouted, _⟩ := hasks.routed
    rw [hroute] at hrouted
    cases hrouted
  | some route =>
    by_cases hmethod : visit.request.method ∈ route.methods
    case neg =>
      rw [status_serve_of_notMem_methods hroute hmethod]
      refine iff_of_false (by decide) ?_
      rintro ⟨change, hasks⟩
      exact hmethod (hasks.mem_methods hroute)
    rw [response_serve hroute hmethod, Response.status_finished]
    rw [hpost] at hmethod
    cases route with
    | health => exact absurd hmethod (by decide)
    | ready => exact absurd hmethod (by decide)
    | overlayStatus => exact absurd hmethod (by decide)
    | mapping segment => exact absurd (List.mem_singleton.1 hmethod) (by decide)
    | mappings =>
      have hpath := Route.ofPath?_eq_mappings_iff.1 hroute
      simp only [serveRoute, hpost, if_true]
      refine status_add.trans ⟨?_, ?_⟩
      · rintro ⟨mapping, haccepted⟩
        exact ⟨.put mapping, .put hpath hpost haccepted⟩
      rintro ⟨change, hasks⟩
      cases hasks with
      | put _ _ haccepted => exact ⟨_, haccepted⟩
      | drop _ _ hdelete _ => exact absurd (hpost.symm.trans hdelete) (by decide)
      | overlay hother _ _ _ => exact absurd (hpath.symm.trans hother) (by decide)
    | syncNow =>
      have hpath := Route.ofPath?_eq_syncNow_iff.1 hroute
      refine status_syncNow.trans ⟨?_, ?_⟩
      · rintro ⟨hconfigured, payload, hfetched⟩
        exact ⟨.overlay payload, .overlay hpath hpost hconfigured hfetched⟩
      rintro ⟨change, hasks⟩
      cases hasks with
      | put hother _ _ => exact absurd (hother.symm.trans hpath) (by decide)
      | drop _ _ hdelete _ => exact absurd (hpost.symm.trans hdelete) (by decide)
      | overlay _ _ hconfigured hfetched => exact ⟨hconfigured, _, hfetched⟩

/-- A new mapping is echoed. -/
theorem isDocument_serve_put {mapping : NewMapping} (h : visit.Asks settings (.put mapping)) :
    Response.IsDocument 200 (.object [("groups", .strings mapping.identity.groups),
        ("ip", .string mapping.address), ("status", .string "mapping_added"),
        ("user", .string mapping.identity.user)])
      (visit.serve settings table).response := by
  cases h with
  | put hpath hmethod haccepted =>
    have hroute := Route.ofPath?_eq_mappings_iff.2 hpath
    have hsorted : Value.sorted [("status", .string "mapping_added"),
        ("ip", .string mapping.address), ("user", .string mapping.identity.user),
        ("groups", .strings mapping.identity.groups)] =
        .object [("groups", .strings mapping.identity.groups), ("ip", .string mapping.address),
          ("status", .string "mapping_added"), ("user", .string mapping.identity.user)] := by
      simp [Value.sorted, List.mergeSort]
    rw [response_serve hroute (by rw [hmethod]; decide), hmethod, ← hsorted]
    simp only [serveRoute, hmethod, if_true]
    show Response.IsDocument _ _ ((add visit.request table).response.finished "POST")
    rw [add, newMapping_eq_ok_iff.2 haccepted]
    exact Response.isDocument_finished (by decide) (by decide) 200 _

/-- The key that a DELETE drops is named in the answer. -/
theorem isDocument_serve_drop {key : String} (h : visit.Asks settings (.drop key)) :
    Response.IsDocument 200
      (.object [("ip", .string key), ("status", .string "mapping_removed")])
      (visit.serve settings table).response := by
  cases h with
  | @drop segment _ hpath hsegment hmethod hkey =>
    have hroute := Route.ofPath?_eq_mapping_iff.2 ⟨hpath, hsegment⟩
    have hallowed : visit.request.method ∈ (Route.mapping segment).methods := by
      rw [hmethod]
      exact List.mem_singleton_self _
    rw [response_serve hroute hallowed, hmethod, ← Value.sorted_pair (by decide)]
    show Response.IsDocument _ _ ((remove segment table).response.finished "DELETE")
    rw [remove, hkey]
    exact Response.isDocument_finished (by decide) (by decide) 200 _

/-- A GET of the mappings is answered with the listing of the table. -/
theorem isDocument_serve_listing (hpath : visit.request.path = "/admin/user-mappings")
    (hget : visit.request.method = "GET") :
    Response.IsDocument 200
      (.object [("data", table.document), ("status", .string "user_mappings")])
      (visit.serve settings table).response := by
  have hroute := Route.ofPath?_eq_mappings_iff.2 hpath
  have hnotPost : ¬ visit.request.method = "POST" := by
    rw [hget]
    decide
  rw [response_serve hroute (by rw [hget]; decide), hget, ← Value.sorted_pair (by decide)]
  simp only [serveRoute, hnotPost, if_false]
  exact Response.isDocument_finished (by decide) (by decide) 200 _

/-- The listing shows the map. -/
theorem isDocument_serve_list (hpath : visit.request.path = "/admin/user-mappings")
    (hget : visit.request.method = "GET") :
    ∃ members, Response.IsDocument 200
        (.object [("data", .object members), ("status", .string "user_mappings")])
        (visit.serve settings table).response ∧
      MappingTable.Lists members table.get? := by
  obtain ⟨members, hdocument, hlists⟩ := table.lists_document
  refine ⟨members, ?_, hlists⟩
  rw [← hdocument]
  exact isDocument_serve_listing hpath hget

/-- An encoded key is a segment from which the key is read. -/
theorem asks_drop_of_encoded {isEncoded : Char → Bool} (hpercent : isEncoded '%' = true)
    (hslash : isEncoded '/' = true) {key : String} (hkey : key ≠ "")
    (hpath : visit.request.path = "/admin/user-mappings/" ++
      String.ofList (Percent.encode isEncoded key.toList))
    (hdelete : visit.request.method = "DELETE") : visit.Asks settings (.drop key) := by
  have hdecoded := Percent.decodeText_encode hpercent key
  refine .drop hpath ⟨?_, ?_⟩ hdelete (by rw [hdecoded, Text.ofUtf8?_utf8])
  · intro hempty
    rw [hempty] at hdecoded
    have hsame : Text.utf8 "" = Text.utf8 key := hdecoded
    have htext := congrArg Text.ofUtf8? hsame
    rw [Text.ofUtf8?_utf8, Text.ofUtf8?_utf8, Option.some_inj] at htext
    exact hkey htext.symm
  · rw [String.toList_ofList]
    intro hmem
    rcases Percent.of_mem_encode hmem with ⟨_, hplain⟩ | hescape
    · rw [hslash] at hplain
      cases hplain
    · exact absurd hescape (by decide)

end Answers

/-- After any requests the table is the map that their changes make of the one before, and requests
that ask for no change leave the table as it is. The listing shows the map. A POST succeeds if and
only if it asks for a change, a new mapping is echoed, and a DELETE of an encoded key drops that key
and no other. Listings, echoes and removals are whole JSON documents with the status 200. -/
theorem table_refines_map (settings : SyncSettings) :
    (∀ visits table, (tableAfterAll settings table visits).get? =
      visits.foldl (step settings) table.get?) ∧
    (∀ (visit : Visit) change,
      visit.change? settings = some change ↔ visit.Asks settings change) ∧
    (∀ (visit : Visit) table, (∀ change, ¬ visit.Asks settings change) →
      (visit.serve settings table).table = table) ∧
    (∀ (visit : Visit) table, visit.request.path = "/admin/user-mappings" →
      visit.request.method = "GET" →
        ∃ members, Response.IsDocument 200
            (.object [("data", .object members), ("status", .string "user_mappings")])
            (visit.serve settings table).response ∧
          MappingTable.Lists members table.get?) ∧
    (∀ (visit : Visit) table, visit.request.method = "POST" →
      ((visit.serve settings table).response.status = 200 ↔
        ∃ change, visit.Asks settings change)) ∧
    (∀ (visit : Visit) table mapping, visit.Asks settings (.put mapping) →
      Response.IsDocument 200 (.object [("groups", .strings mapping.identity.groups),
          ("ip", .string mapping.address), ("status", .string "mapping_added"),
          ("user", .string mapping.identity.user)])
        (visit.serve settings table).response) ∧
    ∀ (visit : Visit) (isEncoded : Char → Bool) (key : String), isEncoded '%' = true →
      isEncoded '/' = true → key ≠ "" → visit.request.method = "DELETE" →
        visit.request.path = "/admin/user-mappings/" ++
          String.ofList (Percent.encode isEncoded key.toList) →
        visit.Asks settings (.drop key) ∧ ∀ table,
          Response.IsDocument 200
            (.object [("ip", .string key), ("status", .string "mapping_removed")])
            (visit.serve settings table).response ∧
          (visit.serve settings table).table.get? key = none ∧
          ∀ other, other ≠ key →
            (visit.serve settings table).table.get? other = table.get? other := by
  refine ⟨get?_tableAfterAll settings, fun _ _ ↦ Visit.change?_eq_some_iff,
    fun _ _ ↦ Visit.table_serve_of_no_change, fun _ _ ↦ isDocument_serve_list,
    fun _ _ ↦ status_serve_post, fun _ _ _ ↦ isDocument_serve_put, ?delete⟩
  intro visit isEncoded key hpercent hslash hkey hdelete hpath
  have hasks : visit.Asks settings (.drop key) :=
    asks_drop_of_encoded hpercent hslash hkey hpath hdelete
  refine ⟨hasks, fun table ↦ ⟨isDocument_serve_drop hasks, ?_⟩⟩
  rw [Visit.get?_serve, Visit.change?_eq_some_iff.2 hasks]
  exact ⟨if_pos rfl, fun other hother ↦ if_neg hother⟩

def sampleVisit (method path body : String) : Visit where
  fetched := .error (.sync "unreachable")
  interfaces := {}
  peer := ""
  request :=
    { method, path
      headers := Headers.empty.insertText .contentType "application/json"
      body := body.toUTF8 }

/-- A new mapping, the listing with it, and the removal of a key with a slash. -/
theorem table_refines_map_sample :
    let mapping : NewMapping := ⟨"10.0.0.1", ⟨"alice", []⟩⟩
    let add := sampleVisit "POST" "/admin/user-mappings"
      "\x7b\"ip\":\"10.0.0.1\",\"user\":\"alice\"\x7d"
    let added := (add.serve {} .empty).table
    let list := sampleVisit "GET" "/admin/user-mappings" ""
    let drop := sampleVisit "DELETE" "/admin/user-mappings/10.0.0.1%2F8" ""
    let isEncoded : Char → Bool := fun c ↦ c = '%' || c = '/'
    (add.Asks {} (.put mapping) ∧
      (add.serve {} .empty).response.status = 200 ∧
      (add.serve {} .empty).response.headers.Carries .contentType ["application/json"] ∧
      (add.serve {} .empty).response.body = ("\x7b\"groups\":[],\"ip\":\"10.0.0.1\"," ++
        "\"status\":\"mapping_added\",\"user\":\"alice\"\x7d").toUTF8) ∧
    ((∀ change, ¬ list.Asks {} change) ∧ (list.serve {} added).table = added ∧
      (list.serve {} added).response.status = 200 ∧
      (list.serve {} added).response.headers.Carries .contentType ["application/json"] ∧
      (list.serve {} added).response.body =
        ("\x7b\"data\":\x7b\"10.0.0.1\":\x7b\"groups\":[],\"user\":\"alice\"\x7d\x7d," ++
          "\"status\":\"user_mappings\"\x7d").toUTF8) ∧
    isEncoded '%' = true ∧ isEncoded '/' = true ∧
      drop.request.path = "/admin/user-mappings/" ++
        String.ofList (Percent.encode isEncoded "10.0.0.1/8".toList) ∧
      drop.Asks {} (.drop "10.0.0.1/8") ∧
      (drop.serve {} .empty).table.get? "10.0.0.1/8" = none ∧
      (drop.serve {} .empty).response.status = 200 ∧
      (drop.serve {} .empty).response.body =
        "\x7b\"ip\":\"10.0.0.1/8\",\"status\":\"mapping_removed\"\x7d".toUTF8 := by
  intro mapping add added list drop isEncoded
  obtain ⟨hafter, hchange, hquiet, hlisted, hpost, hecho, hdropped⟩ := table_refines_map {}
  have hadd : add.Asks {} (.put mapping) := by
    refine (hchange add _).1 ?_
    have hmapping : newMapping add.request = .ok mapping :=
      toOption_eq_some_iff.1 (by decide +kernel)
    exact (congrArg (fun result ↦ (result.toOption.map Change.put)) hmapping)
  have hlist : ∀ change, ¬ list.Asks {} change := by
    intro change hasks
    have hnone : list.change? {} = none := rfl
    rw [(hchange list change).2 hasks] at hnone
    cases hnone
  have hpath : drop.request.path = "/admin/user-mappings/" ++
      String.ofList (Percent.encode isEncoded "10.0.0.1/8".toList) := by decide
  refine ⟨⟨hadd, ?echo⟩, ⟨hlist, hquiet list added hlist, ?listing⟩, rfl, rfl, hpath, ?removal⟩
  case echo =>
    have hdocument := hecho add .empty mapping hadd
    refine ⟨(hpost add .empty rfl).2 ⟨_, hadd⟩, hdocument.contentType, hdocument.body.trans ?_⟩
    exact congrArg String.toUTF8 (by decide)
  case listing =>
    obtain ⟨members, hdocument, hlists⟩ := hlisted list added rfl rfl
    have hmap : added.get? =
        fun key ↦ if key = "10.0.0.1" then some mapping.identity else none := by
      refine (hafter [add] .empty).trans ?_
      rw [List.foldl_cons, List.foldl_nil, step, (hchange add _).2 hadd]
      rfl
    have hone : MappingTable.Lists [("10.0.0.1", mapping.identity.listed)] added.get? := by
      rw [hmap]
      refine ⟨List.pairwise_singleton _ _, List.nodup_singleton _, fun key value ↦ ?_⟩
      by_cases hkey : key = "10.0.0.1" <;> simp [hkey]
    rw [hlists.unique hone] at hdocument
    refine ⟨hdocument.status, hdocument.contentType, hdocument.body.trans ?_⟩
    exact congrArg String.toUTF8 (by decide)
  case removal =>
    obtain ⟨hdrop, hgone⟩ := hdropped drop isEncoded "10.0.0.1/8" rfl rfl (by decide) rfl hpath
    obtain ⟨hdocument, hnone, -⟩ := hgone .empty
    refine ⟨hdrop, hnone, hdocument.status, hdocument.body.trans ?_⟩
    exact congrArg String.toUTF8 (by decide)

end OverlayGateway.Management
