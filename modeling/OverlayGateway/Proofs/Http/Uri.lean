import OverlayGateway.Http.Uri
import OverlayGateway.Proofs.Result
/-!
What the target of a request can carry. Its path and its query hold no control, no space and no
delimiter, whichever form the target has; everything beyond ASCII may stand in both.
-/

set_option autoImplicit false
set_option relaxedAutoImplicit false

namespace OverlayGateway.Http.Uri

/-- A path and a query of which every character may stand in a target. -/
structure Carried (path : String) (query : Option String) : Prop where
  path : ∀ c ∈ path.toList, isPathChar c = true
  query : ∀ text, query = some text → ∀ c ∈ text.toList, isQueryChar c = true

theorem carried_of_readPath {cs : List Char} {path : String} {query : Option String}
    (h : readPath cs = .ok (path, query)) : Carried path query := by
  unfold readPath at h
  dsimp only at h
  split at h
  · cases h
  · rename_i hpath
    rw [Bool.not_eq_true', Bool.not_eq_false, List.all_eq_true] at hpath
    split at h
    · cases h
      refine ⟨?_, nofun⟩
      rwa [String.toList_ofList]
    · split at h
      · rename_i hquery
        cases h
        rw [List.all_eq_true] at hquery
        refine ⟨by rwa [String.toList_ofList], ?_⟩
        rintro text ⟨⟩
        rwa [String.toList_ofList]
      · cases h

/-- The path of a target is a slash where it is left out behind a scheme or in front of a query. -/
theorem Carried.of_rawPath {uri : Uri} (h : Carried uri.rawPath uri.query) :
    Carried uri.path uri.query := by
  refine ⟨?_, h.query⟩
  unfold Uri.path
  split
  · intro c hc
    rw [List.mem_singleton.1 hc]
    rfl
  · exact h.path

theorem carried_of_parse {s : String} {uri : Uri} (h : parse s = .ok uri) :
    Carried uri.path uri.query := by
  refine Carried.of_rawPath ?_
  unfold parse at h
  dsimp only at h
  split at h
  · cases h
  · split at h
    · cases h
    · split at h
      · cases h
        refine ⟨fun c hc ↦ ?_, nofun⟩
        rw [List.mem_singleton.1 hc]
        rfl
      · split at h
        · obtain ⟨⟨path, query⟩, hread, huri⟩ := bind_eq_ok_iff.1 h
          cases huri
          exact carried_of_readPath hread
        · obtain ⟨⟨scheme, rest⟩, _, h⟩ := bind_eq_ok_iff.1 h
          obtain ⟨_, _, h⟩ := bind_eq_ok_iff.1 h
          cases scheme with
          | none =>
            dsimp only at h
            split at h
            · cases h
              exact ⟨nofun, nofun⟩
            · cases h
          | some scheme =>
            dsimp only at h
            split at h
            · cases h
            · split at h
              · cases h
              · obtain ⟨⟨path, query⟩, hread, huri⟩ := bind_eq_ok_iff.1 h
                cases huri
                exact carried_of_readPath hread

end OverlayGateway.Http.Uri
