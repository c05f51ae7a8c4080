import OverlayGateway.Proofs.Gateway.Exchange
import OverlayGateway.Proofs.Url.Below
import OverlayGateway.Proofs.Url.Trail
/-!
Where the requests that are proxied end up. The path of a request is admitted as it stands, while
the path of the call is taken piece by piece, so two dots lead up from where the path was admitted.
A call stays on the surface that is proxied unless the path of its request leaves more than it
enters again.
-/

set_option autoImplicit false
set_option relaxedAutoImplicit false

namespace OverlayGateway.Gateway

open Http

/-- The first segments of the surface that is proxied. -/
def roots : List String := ["api", "apis", "version", "metrics"]

/-- Whether the path of a URL goes on from that of a base with a segment of the surface. -/
def Confined (base url : Url) : Prop :=
  ∃ root ∈ roots, ∃ rest,
    url.pathText = Url.dropSlashesEnd base.pathText ++ "/" ++ root ++ rest ∧ Url.EndsSegment rest

/-- Where the path of a request leads, wherever it starts. -/
def trail (gateway : Gateway) (request : Request) : Url.Trail :=
  Url.Trail.follow {} (Url.callerPieces gateway.apiServer.scheme request.path)

theorem plain_root : ∀ root ∈ roots, Url.Plain root.toList := by
  decide

/-- An admitted path starts with a segment of the surface. -/
theorem root_of_admits {path : String} (h : admits path = true) :
    ∃ root ∈ roots, ∃ rest, path = "/" ++ root ++ rest ∧ Url.EndsSegment rest := by
  have hbelow (root : String) (hroot : ("/" ++ root ++ "/").toList.isPrefixOf path.toList = true) :
      ∃ rest, path = "/" ++ root ++ rest ∧ Url.EndsSegment rest := by
    obtain ⟨more, hmore⟩ := List.isPrefixOf_iff_prefix.1 hroot
    refine ⟨"/" ++ String.ofList more, ?_, Or.inr ⟨_, rfl⟩⟩
    rw [← String.toList_inj, ← hmore]
    simp [String.toList_append]
  simp only [admits, Bool.or_eq_true, List.contains_iff_mem, List.mem_cons, List.not_mem_nil,
    or_false, List.any_cons, List.any_nil, Bool.or_false, Bool.and_eq_true] at h
  rcases h with (rfl | rfl | rfl | rfl) | ⟨hroot, _⟩ | ⟨hroot, _⟩
  · exact ⟨"api", by decide, "", rfl, Or.inl rfl⟩
  · exact ⟨"apis", by decide, "", rfl, Or.inl rfl⟩
  · exact ⟨"version", by decide, "", rfl, Or.inl rfl⟩
  · exact ⟨"metrics", by decide, "", rfl, Or.inl rfl⟩
  · exact ⟨"api", by decide, hbelow "api" hroot⟩
  · exact ⟨"apis", by decide, hbelow "apis" hroot⟩

/-- The first piece of an admitted path is a segment of the surface. -/
theorem callerPieces_of_admits {scheme path : String} (hscheme : Url.IsHttp scheme)
    (h : admits path = true) :
    ∃ root ∈ roots, ∃ rest, Url.callerPieces scheme path = root.toList :: rest := by
  obtain ⟨root, hroot, rest, rfl, hrest⟩ := root_of_admits h
  have hne : root ≠ "" := by
    have hroots : "" ∉ roots := by decide
    exact fun hempty ↦ hroots (hempty ▸ hroot)
  exact ⟨root, hroot, Url.exists_callerPieces_eq_cons hscheme (plain_root root hroot) hne hrest⟩

section Base

variable {base : Url} {authority : Url.Authority} {segments : List String}

theorem allPlain_root {root : String} (h : root ∈ roots) : Url.AllPlain [root] := by
  intro segment hsegment
  rw [List.mem_singleton.1 hsegment]
  exact plain_root root h

/-- A URL below a base is confined if its segments are those of the base and one of the surface. -/
theorem confined_below_iff (hscheme : Url.IsHttp base.scheme)
    (hlocation : base.location = .hierarchical authority segments)
    (hplain : Url.AllPlain segments) (path : String) (query : Option String) :
    Confined base (base.below path query) ↔
      ∃ root ∈ roots, Url.trimmed segments ++ [root] <+:
        Url.walkAll base.scheme (Url.trimmed segments) (Url.callerPieces base.scheme path) := by
  have hpath : (base.below path query).pathText = Url.segmentsText
      (Url.walkAll base.scheme (Url.trimmed segments) (Url.callerPieces base.scheme path)) := by
    rw [Url.pathText, Url.location_below hscheme hlocation hplain]
  have hwalked : Url.AllPlain
      (Url.walkAll base.scheme (Url.trimmed segments) (Url.callerPieces base.scheme path)) :=
    Url.allPlain_walkAll hscheme
      (fun piece hpiece c hc ↦ (Text.of_mem_piecesWhere hpiece hc).2) hplain.trimmed
  unfold Confined
  refine exists_congr fun root ↦ and_congr_right fun hroot ↦ ?_
  have htext : Url.segmentsText (Url.trimmed segments ++ [root]) =
      Url.dropSlashesEnd base.pathText ++ "/" ++ root := by
    rw [Url.segmentsText_concat, Url.dropSlashesEnd_pathText hlocation hplain]
  rw [hpath, Url.isPrefix_iff_segmentsText (hplain.trimmed.append (allPlain_root hroot)) hwalked,
    htext]

end Base

/-- A path without two dots enters a segment of the surface first and leaves nothing. -/
theorem trail_of_no_double_dot {gateway : Gateway} {request : Request}
    (hscheme : Url.IsHttp gateway.apiServer.scheme) (hadmitted : admits request.path = true)
    (hdots : ∀ piece ∈ Url.callerPieces gateway.apiServer.scheme request.path,
      Url.isDoubleDot piece = false) :
    (gateway.trail request).ups = 0 ∧ ∃ root ∈ roots, [root] <+: (gateway.trail request).down := by
  obtain ⟨root, hroot, rest, hpieces⟩ := callerPieces_of_admits hscheme hadmitted
  unfold trail
  rw [hpieces] at hdots ⊢
  have hstep := fun isLast ↦ Url.Trail.step_of_plain {} (plain_root root hroot) isLast
  cases rest with
  | nil =>
    rw [Url.Trail.follow, hstep]
    exact ⟨rfl, root, hroot, List.prefix_refl _⟩
  | cons next rest =>
    have hfollow := Url.Trail.down_isPrefix_follow (Url.Trail.enter {} [root])
      (fun piece hpiece ↦ hdots piece (List.mem_cons_of_mem _ hpiece))
    rw [Url.Trail.follow_cons_cons, hstep]
    exact ⟨hfollow.1, root, hroot, hfollow.2⟩

/-- A call goes to the surface that is proxied if and only if the path of its request, having left
segments of the base, enters the same ones again and then the surface. Without two dots in any
spelling it leaves none, so the call is confined. -/
theorem confined_iff {gateway : Gateway} {text : String} {token : String → Except Failure String}
    {reply : Call → Reply} {connection : Option String} {table : MappingTable} {peer : Ip.Socket}
    {request : Request} {call : Call} (hparse : Url.parse text = .ok gateway.apiServer)
    (hscheme : Url.IsHttp gateway.apiServer.scheme)
    (hcall : call ∈ (gateway.exchange token reply connection table peer request).calls) :
    (Confined gateway.apiServer call.url ↔
      ∃ root ∈ roots,
        (gateway.trail request).lost (Url.trimmed gateway.apiServer.segments) ++ [root] <+:
          (gateway.trail request).down) ∧
    ((∀ piece ∈ Url.callerPieces gateway.apiServer.scheme request.path,
        Url.isDoubleDot piece = false) →
      Confined gateway.apiServer call.url) := by
  have hbecame := became_of_mem_calls hcall
  obtain ⟨authority, segments, hlocation, hplain⟩ := Url.allPlain_of_parse hparse hscheme
  have hsegments : gateway.apiServer.segments = segments := by rw [Url.segments, hlocation]
  have hleads : Url.walkAll gateway.apiServer.scheme (Url.trimmed segments)
        (Url.callerPieces gateway.apiServer.scheme request.path) =
      (gateway.trail request).leads (Url.trimmed segments) := by
    rw [trail, ← Url.Trail.walkAll_leads hscheme.isFile]
    simp [Url.Trail.leads, Url.Trail.kept]
  have hconfined : Confined gateway.apiServer call.url ↔
      ∃ root ∈ roots,
        (gateway.trail request).lost (Url.trimmed gateway.apiServer.segments) ++ [root] <+:
          (gateway.trail request).down := by
    rw [hbecame.url, confined_below_iff hscheme hlocation hplain, hleads, hsegments]
    simp only [Url.Trail.append_isPrefix_leads_iff]
  refine ⟨hconfined, fun hdots ↦ hconfined.2 ?_⟩
  obtain ⟨hups, root, hroot, hdown⟩ := trail_of_no_double_dot hscheme hbecame.admitted hdots
  refine ⟨root, hroot, ?_⟩
  rw [Url.Trail.lost_of_ups_eq_zero hups, List.nil_append]
  exact hdown

/-- A path is proxied as it stands, and left for one that is not proxied if two dots lead there. -/
theorem confined_sample :
    (∃ call ∈ sampleCalls { method := "GET", path := "/api//v1/./pods" },
      Confined sample.apiServer call.url) ∧
    ∃ call ∈ sampleCalls { method := "GET", path := "/api/%2e%2E/healthz" },
      ¬ Confined sample.apiServer call.url := by
  have hparse : Url.parse "https://[fd00::1]:6443" = .ok sample.apiServer := by rfl
  constructor
  · refine (List.exists_mem_of_length_pos (by decide)).imp fun call hcall ↦ ⟨hcall, ?_⟩
    exact (confined_iff hparse (Or.inr rfl) hcall).2 (by decide)
  · refine (List.exists_mem_of_length_pos (by decide)).imp fun call hcall ↦ ⟨hcall, ?_⟩
    intro hconfined
    exact absurd ((confined_iff hparse (Or.inr rfl) hcall).1.1 hconfined) (by decide)

end OverlayGateway.Gateway
