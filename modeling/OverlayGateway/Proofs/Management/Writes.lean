import OverlayGateway.Management
import OverlayGateway.Proofs.MappingTable.Merge
/-!
The changes that the management API makes to the table, one key at a time. Which ones a request
makes is decided by the request and the answer of the remote source; the table it finds plays no
part. The mappings and the merging have one path each; below the mappings, the last segment of a
path is the key of one of them, as it stands in the path.
-/

set_option autoImplicit false
set_option relaxedAutoImplicit false

namespace OverlayGateway

namespace MappingSync

/-- The table that a remote source sent, if it sent one. -/
def payload? : Fetched → Option MappingTable
  | .ok payload => some payload
  | .error _ => none

theorem table_merge (table : MappingTable) (fetched : Fetched) :
    (merge table fetched).table =
      table.performAll ((payload? fetched).elim [] MappingTable.writes) := by
  cases fetched with
  | error failure => rfl
  | ok payload => exact table.merge_eq_performAll payload

end MappingSync

namespace Management

/-! ### Routes -/

namespace Route

theorem mappingSegment?_eq_some_iff {path segment : String} :
    mappingSegment? path = some segment ↔
      path = "/admin/user-mappings/" ++ segment ∧ segment ≠ "" ∧ '/' ∉ segment.toList := by
  have hstart : mappingsPath.toList ++ ['/'] = "/admin/user-mappings/".toList := by decide
  unfold mappingSegment?
  dsimp only
  rw [hstart]
  generalize "/admin/user-mappings/" = start
  constructor
  · intro h
    split at h
    · rename_i hcond
      cases h
      simp only [Bool.and_eq_true, List.isPrefixOf_iff_prefix, decide_eq_true_eq,
        Bool.not_eq_true', List.contains_eq_mem, decide_eq_false_iff_not] at hcond
      obtain ⟨⟨⟨rest, hrest⟩, hne⟩, hslash⟩ := hcond
      rw [← hrest, List.drop_left] at hne hslash
      rw [← hrest, List.drop_left, String.toList_ofList]
      refine ⟨?_, by simpa using hne, hslash⟩
      rw [← String.toList_inj, String.toList_append, String.toList_ofList, hrest]
    · cases h
  · rintro ⟨rfl, hne, hslash⟩
    rw [String.toList_append, List.drop_left, if_pos, String.ofList_toList]
    simp [hslash, hne]

theorem ofPath?_eq_mappings_iff {path : String} :
    ofPath? path = some .mappings ↔ path = "/admin/user-mappings" := by
  unfold ofPath? mappingsPath
  grind [Option.map_eq_some_iff]

theorem ofPath?_eq_syncNow_iff {path : String} :
    ofPath? path = some .syncNow ↔ path = "/admin/sync-external-api" := by
  unfold ofPath? mappingsPath
  grind [Option.map_eq_some_iff]

theorem ofPath?_eq_mapping_iff {path segment : String} :
    ofPath? path = some (.mapping segment) ↔
      path = "/admin/user-mappings/" ++ segment ∧ segment ≠ "" ∧ '/' ∉ segment.toList := by
  have hfixed : mappingSegment? "/health" = none ∧ mappingSegment? "/ready" = none ∧
      mappingSegment? "/netclient/status" = none ∧ mappingSegment? "/admin/user-mappings" = none ∧
      mappingSegment? "/admin/sync-external-api" = none := by decide
  rw [← mappingSegment?_eq_some_iff]
  unfold ofPath? mappingsPath
  grind [Option.map_eq_some_iff]

end Route

/-! ### Changes -/

open Http

/-- The table that a request merges: what the remote source sent, if the request asks it. -/
def merged? (settings : SyncSettings) (fetched : MappingSync.Fetched) (request : Request) :
    Option MappingTable :=
  if Route.ofPath? request.path = some .syncNow ∧ request.method = "POST" ∧
      settings.isConfigured = true then
    MappingSync.payload? fetched
  else none

/-- The change that a request asks for itself: a new mapping, or the end of one. -/
def asked? (request : Request) : Option Write :=
  match Route.ofPath? request.path with
  | some .mappings =>
    if request.method = "POST" then
      match newMapping request with
      | .ok mapping => some ⟨mapping.address, some mapping.identity⟩
      | .error _ => none
    else none
  | some (.mapping segment) =>
    if request.method = "DELETE" then
      (Text.ofUtf8? (Percent.decodeText segment)).map fun key ↦ ⟨key, none⟩
    else none
  | _ => none

/-- The changes that a request makes. -/
def writes (settings : SyncSettings) (fetched : MappingSync.Fetched) (request : Request) :
    List Write :=
  (asked? request).toList ++ (merged? settings fetched request).elim [] MappingTable.writes

/-- The table after a request, when the remote source answers with `fetched`. -/
def tableAfter (settings : SyncSettings) (fetched : MappingSync.Fetched)
    (interfaces : Directory) (peer : String) (request : Request) (table : MappingTable) :
    MappingTable :=
  (serve (m := Id) settings (pure fetched) interfaces table peer request).run.table

section Served

variable {settings : SyncSettings} {fetched : MappingSync.Fetched} {interfaces : Directory}
  {peer : String} {request : Request} {table : MappingTable}

theorem tableAfter_of_unrouted (hroute : Route.ofPath? request.path = none) :
    tableAfter settings fetched interfaces peer request table = table := by
  unfold tableAfter serve
  simp [hroute]

theorem tableAfter_of_route {route : Route} (hroute : Route.ofPath? request.path = some route) :
    tableAfter settings fetched interfaces peer request table =
      if route.methods.contains request.method then
        (serveRoute (m := Id) settings (pure fetched) interfaces table request route).run.table
      else table := by
  unfold tableAfter serve
  rw [hroute]
  dsimp only
  split <;> rfl

theorem table_add :
    (add request table).table =
      table.performAll (match newMapping request with
        | .ok mapping => [⟨mapping.address, some mapping.identity⟩]
        | .error _ => []) := by
  unfold add
  cases newMapping request <;> rfl

theorem table_remove (segment : String) :
    (remove segment table).table =
      table.performAll ((Text.ofUtf8? (Percent.decodeText segment)).map fun key ↦
        (⟨key, none⟩ : Write)).toList := by
  unfold remove
  cases Text.ofUtf8? (Percent.decodeText segment) <;> rfl

theorem table_syncNow :
    (syncNow (m := Id) settings (pure fetched) table).run.table =
      if settings.isConfigured then (MappingSync.merge table fetched).table else table := by
  unfold syncNow MappingSync.fetchOnce
  cases settings.isConfigured with
  | false => rfl
  | true => cases fetched <;> rfl

/-- By one of the methods of its route, a request makes its changes. -/
theorem table_serveRoute {route : Route} (hroute : Route.ofPath? request.path = some route)
    (hmethod : request.method ∈ route.methods) :
    (serveRoute (m := Id) settings (pure fetched) interfaces table request route).run.table =
      table.performAll (writes settings fetched request) := by
  unfold writes asked? merged?
  rw [hroute]
  cases route with
  | health => rfl
  | ready => rfl
  | overlayStatus => rfl
  | mappings =>
    by_cases hpost : request.method = "POST"
    · simp only [serveRoute, hpost, if_true]
      refine table_add.trans ?_
      cases newMapping request <;> rfl
    · simp only [serveRoute, hpost, if_false]
      rfl
  | mapping segment =>
    have hdelete : request.method = "DELETE" := List.mem_singleton.1 hmethod
    simp only [hdelete, if_true]
    refine (table_remove segment).trans ?_
    cases Text.ofUtf8? (Percent.decodeText segment) <;> rfl
  | syncNow =>
    have hpost : request.method = "POST" := List.mem_singleton.1 hmethod
    refine table_syncNow.trans ?_
    cases hconfigured : settings.isConfigured with
    | false =>
      simp only [Bool.false_eq_true, and_false, if_false]
      rfl
    | true =>
      simp only [hpost, if_true, and_self]
      exact MappingSync.table_merge table fetched

/-- By another method it makes none. -/
theorem writes_of_notMem_methods {route : Route}
    (hroute : Route.ofPath? request.path = some route) (hmethod : request.method ∉ route.methods) :
    writes settings fetched request = [] := by
  unfold writes asked? merged?
  rw [hroute]
  cases route with
  | health => rfl
  | ready => rfl
  | overlayStatus => rfl
  | mappings =>
    have hpost : request.method ≠ "POST" := fun h ↦ hmethod (by simp [h, Route.methods])
    simp [hpost]
  | mapping segment =>
    have hdelete : request.method ≠ "DELETE" := fun h ↦ hmethod (List.mem_singleton.2 h)
    simp [hdelete]
  | syncNow =>
    have hpost : request.method ≠ "POST" := fun h ↦ hmethod (List.mem_singleton.2 h)
    simp [hpost]

/-- A request changes the table by its own changes and by nothing else. -/
theorem tableAfter_eq :
    tableAfter settings fetched interfaces peer request table =
      table.performAll (writes settings fetched request) := by
  cases hroute : Route.ofPath? request.path with
  | none =>
    rw [tableAfter_of_unrouted hroute, writes, asked?, merged?, hroute]
    rfl
  | some route =>
    rw [tableAfter_of_route hroute]
    split
    · rename_i hmethod
      exact table_serveRoute hroute (List.contains_iff_mem.1 hmethod)
    · rename_i hmethod
      rw [writes_of_notMem_methods hroute (mt List.contains_iff_mem.2 hmethod)]
      rfl

end Served

end Management

end OverlayGateway
