import OverlayGateway.Forwarding
import OverlayGateway.Proofs.Http.Headers
/-!
What becomes of each header on the way to the API server. Outside the few names that forwarding
itself writes, a header keeps its values unless it describes the connection or a readable
`Connection` value names it. Collections that agree are forwarded alike.
-/

set_option autoImplicit false
set_option relaxedAutoImplicit false

namespace OverlayGateway.Forwarding

open Http

/-- The names that forwarding writes or drops whatever the `Connection` values say. -/
def rewritten : List HeaderName := [.host, .contentLength, .xForwardedFor] ++ hopByHop

theorem values_stripHopByHop (headers : Headers) (name : HeaderName) :
    (stripHopByHop headers).values name =
      if name ∈ connectionNames headers ∨ name ∈ hopByHop then [] else headers.values name := by
  rw [stripHopByHop, Headers.values_eraseWhere]
  simp

theorem values_appendForwardedFor_of_ne (headers : Headers) (address : String)
    {name : HeaderName} (hname : name ≠ .xForwardedFor) :
    (appendForwardedFor headers address).values name = headers.values name := by
  simp only [appendForwardedFor]
  split
  · exact Headers.values_insert_of_ne _ _ hname
  · rfl

/-- A header that forwarding does not write itself keeps its values, or is dropped with all of them
because a `Connection` value names it. -/
theorem values_requestHeaders (headers : Headers) (peer : String) {name : HeaderName}
    (hname : name ∉ rewritten) :
    (requestHeaders headers peer).values name =
      if name ∈ connectionNames headers then [] else headers.values name := by
  simp only [rewritten, List.mem_append, List.mem_cons, List.not_mem_nil, or_false,
    not_or] at hname
  obtain ⟨⟨hhost, hlength, hforwarded⟩, hhop⟩ := hname
  rw [requestHeaders, values_appendForwardedFor_of_ne _ _ hforwarded,
    Headers.values_erase_of_ne _ hlength, Headers.values_erase_of_ne _ hhost,
    values_stripHopByHop]
  simp [hhop]

/-- Of the names that forwarding writes or drops, only one is left with a value. -/
theorem values_requestHeaders_of_mem (headers : Headers) (peer : String) {name : HeaderName}
    (hname : name ∈ rewritten) (hforwarded : name ≠ .xForwardedFor) :
    (requestHeaders headers peer).values name = [] := by
  rw [requestHeaders, values_appendForwardedFor_of_ne _ _ hforwarded]
  by_cases hlength : name = .contentLength
  · rw [hlength, Headers.values_erase_self]
  · rw [Headers.values_erase_of_ne _ hlength]
    by_cases hhost : name = .host
    · rw [hhost, Headers.values_erase_self]
    · have hhop : name ∈ hopByHop := by
        simp only [rewritten, List.cons_append, List.nil_append, List.mem_cons] at hname
        exact ((hname.resolve_left hhost).resolve_left hlength).resolve_left hforwarded
      rw [Headers.values_erase_of_ne _ hhost, values_stripHopByHop, if_pos (Or.inr hhop)]

/-! ### Upgrades -/

/-- An upgrade changes two headers of what is sent without one. -/
theorem values_upgradeHeaders_of_ne (headers : Headers) (peer : String) {name : HeaderName}
    (hconnection : name ≠ .connection) (hupgrade : name ≠ .upgrade) :
    (upgradeHeaders headers peer).values name = (requestHeaders headers peer).values name := by
  rw [upgradeHeaders]
  split
  · rfl
  · rw [Headers.values_insert_of_ne _ _ hconnection, Headers.values_insert_of_ne _ _ hupgrade]

theorem values_upgradeHeaders (headers : Headers) (peer : String) {name : HeaderName}
    (hname : name ∉ rewritten) :
    (upgradeHeaders headers peer).values name =
      if name ∈ connectionNames headers then [] else headers.values name := by
  have hconnection : name ≠ .connection := by
    rintro rfl
    exact hname (by simp [rewritten, hopByHop])
  have hupgrade : name ≠ .upgrade := by
    rintro rfl
    exact hname (by simp [rewritten, hopByHop])
  rw [values_upgradeHeaders_of_ne _ _ hconnection hupgrade]
  exact values_requestHeaders headers peer hname

theorem values_upgradeHeaders_upgrade {headers : Headers} {protocol : HeaderValue}
    (h : headers.get? .upgrade = some protocol) (peer : String) :
    (upgradeHeaders headers peer).values .upgrade = [protocol] := by
  have hne : HeaderName.upgrade ≠ .connection := by decide
  rw [upgradeHeaders, h]
  dsimp only
  rw [Headers.values_insert_of_ne _ _ hne, Headers.values_insert_self]

theorem carries_upgradeHeaders_connection {headers : Headers} {protocol : HeaderValue}
    (h : headers.get? .upgrade = some protocol) (peer : String) :
    (upgradeHeaders headers peer).Carries .connection ["Upgrade"] := by
  rw [upgradeHeaders, h]
  dsimp only
  rw [Headers.Carries, Headers.values_insert_self]
  rfl

/-! ### What the `Connection` and `Upgrade` values decide -/

theorem connectionTokens_congr {first second : Headers}
    (h : first.values .connection = second.values .connection) :
    connectionTokens first = connectionTokens second := by
  rw [connectionTokens, connectionTokens, h]

theorem connectionNames_congr {first second : Headers}
    (h : first.values .connection = second.values .connection) :
    connectionNames first = connectionNames second := by
  rw [connectionNames, connectionNames, connectionTokens_congr h]

theorem isUpgrade_congr {first second : Headers}
    (hconnection : first.values .connection = second.values .connection)
    (hupgrade : first.values .upgrade = second.values .upgrade) :
    isUpgrade first = isUpgrade second := by
  have hcontains : first.contains .upgrade = second.contains .upgrade := by
    rw [Bool.eq_iff_iff, Headers.contains_iff, Headers.contains_iff, hupgrade]
  rw [isUpgrade, isUpgrade, hcontains, connectionTokens_congr hconnection]

theorem exists_get?_of_isUpgrade {headers : Headers} (h : isUpgrade headers = true) :
    ∃ protocol, headers.get? .upgrade = some protocol := by
  rw [isUpgrade, Bool.and_eq_true, Headers.contains_iff] at h
  exact ⟨_, List.head?_eq_some_head h.1⟩

/-! ### Agreement -/

theorem agree_stripHopByHop {first second : Headers} (h : first.Agree second) :
    (stripHopByHop first).Agree (stripHopByHop second) := by
  rw [stripHopByHop, stripHopByHop, connectionNames_congr (h .connection)]
  exact h.eraseWhere _

theorem agree_appendForwardedFor {first second : Headers} (h : first.Agree second)
    (address : String) :
    (appendForwardedFor first address).Agree (appendForwardedFor second address) := by
  simp only [appendForwardedFor]
  rw [h .xForwardedFor]
  split
  · exact h.insert _ _
  · exact h

theorem agree_requestHeaders {first second : Headers} (h : first.Agree second) (peer : String) :
    (requestHeaders first peer).Agree (requestHeaders second peer) :=
  agree_appendForwardedFor (((agree_stripHopByHop h).erase .host).erase .contentLength) peer

theorem agree_upgradeHeaders {first second : Headers} (h : first.Agree second) (peer : String) :
    (upgradeHeaders first peer).Agree (upgradeHeaders second peer) := by
  rw [upgradeHeaders, upgradeHeaders, h.get?_eq]
  split
  · exact agree_requestHeaders h peer
  · exact ((agree_requestHeaders h peer).insert _ _).insert _ _

end OverlayGateway.Forwarding
