import Mathlib.Data.List.Infix
import OverlayGateway.Proofs.Text.Split
import OverlayGateway.Proofs.Url.Percent
import OverlayGateway.Url.Parse
/-!
The segments of `http` and `https` URLs. A path is only ever extended by plain segments, which hold
no separator, nothing that would be encoded and no spelling of dots, so the segments of a URL that
was read are plain. Plain segments stand for themselves when they are taken once more.
-/

set_option autoImplicit false
set_option relaxedAutoImplicit false

namespace OverlayGateway.Url

/-- The schemes of the API server. -/
def IsHttp (scheme : String) : Prop := scheme = "http" ∨ scheme = "https"

theorem IsHttp.isFile {scheme : String} (h : IsHttp scheme) : isFile scheme = false := by
  rcases h with rfl | rfl <;> decide

theorem IsHttp.isSpecial {scheme : String} (h : IsHttp scheme) : isSpecial scheme = true := by
  rcases h with rfl | rfl <;> decide

theorem IsHttp.isSlash_iff {scheme : String} (h : IsHttp scheme) (c : Char) :
    isSlash scheme c = true ↔ c = '/' ∨ c = '\\' := by
  simp [isSlash, h.isSpecial]

/-- A segment that stands for itself. -/
structure Plain (segment : List Char) : Prop where
  safe : ∀ c ∈ segment, Percent.inPath c = false ∧ c ≠ '/' ∧ c ≠ '\\'
  notSingleDot : isSingleDot segment = false
  notDoubleDot : isDoubleDot segment = false

/-- Whether a character stands for itself in a segment. -/
def isSafe (c : Char) : Bool := !Percent.inPath c && c != '/' && c != '\\'

theorem isSafe_iff (c : Char) :
    isSafe c = true ↔ Percent.inPath c = false ∧ c ≠ '/' ∧ c ≠ '\\' := by
  simp [isSafe, and_assoc]

theorem plain_iff (segment : List Char) :
    Plain segment ↔
      (segment.all isSafe && !isSingleDot segment && !isDoubleDot segment) = true := by
  simp only [Bool.and_eq_true, List.all_eq_true, isSafe_iff, Bool.not_eq_true']
  constructor
  · intro h
    exact ⟨⟨h.safe, h.notSingleDot⟩, h.notDoubleDot⟩
  · rintro ⟨⟨hsafe, hsingle⟩, hdouble⟩
    exact ⟨hsafe, hsingle, hdouble⟩

instance (segment : List Char) : Decidable (Plain segment) :=
  decidable_of_iff _ (plain_iff segment).symm

theorem not_inPath_of_isEscape {c : Char} (h : Percent.isEscape c = true) :
    Percent.inPath c = false ∧ c ≠ '/' ∧ c ≠ '\\' := by
  have hall : ('%' :: "0123456789ABCDEF".toList).all isSafe = true := by decide
  simp only [Percent.isEscape, Bool.or_eq_true, decide_eq_true_eq, List.contains_iff_mem] at h
  exact (isSafe_iff c).1 (List.all_eq_true.1 hall c (List.mem_cons.2 h))

/-! ### Dots -/

/-- The spellings of one dot and of two dots, in lower case. -/
def dots : List (List Char) :=
  [['.'], ['%', '2', 'e'], ['.', '.'], ['.', '%', '2', 'e'], ['%', '2', 'e', '.'],
    ['%', '2', 'e', '%', '2', 'e']]

theorem lower_mem_dots {segment : List Char}
    (h : isSingleDot segment = true ∨ isDoubleDot segment = true) :
    segment.map Char.toLower ∈ dots := by
  simp only [isSingleDot, isDoubleDot, List.mem_cons, List.not_mem_nil, or_false,
    decide_eq_true_eq, ← String.toList_inj, Text.toList_lower, String.toList_ofList] at h
  simp only [dots, List.mem_cons, List.not_mem_nil, or_false]
  rcases h with (h | h) | h | h | h | h <;> rw [h] <;> decide

/-- In a spelling of dots, a percent sign starts the encoding of a dot. -/
theorem escape_of_mem_dots {segment pre post : List Char} {x y : Char}
    (h : segment.map Char.toLower ∈ dots) (hsegment : segment = pre ++ '%' :: x :: y :: post) :
    x.toLower = '2' ∧ y.toLower = 'e' := by
  have hescapes : ∀ spelling ∈ dots, ∀ suffix ∈ spelling.tails, suffix.head? = some '%' →
      suffix.take 3 = ['%', '2', 'e'] := by
    decide
  have hsuffix : '%' :: x.toLower :: y.toLower :: post.map Char.toLower <:+
      segment.map Char.toLower := by
    rw [hsegment, List.map_append]
    exact List.suffix_append _ _
  have htake := hescapes _ h _ ((List.mem_tails _ _).2 hsuffix) rfl
  simp only [List.take_succ_cons, List.take_zero, List.cons.injEq, and_true, true_and] at htake
  exact htake

/-- An encoded segment that spells dots is encoded nowhere. -/
theorem safe_of_encode_mem_dots {segment : List Char}
    (h : (Percent.encode Percent.inPath segment).map Char.toLower ∈ dots) :
    ∀ c ∈ segment, Percent.inPath c = false := by
  intro c hc
  cases hpath : Percent.inPath c with
  | false => rfl
  | true =>
    obtain ⟨before, after, rfl⟩ := List.append_of_mem hc
    obtain ⟨b, rest, hescape, hascii⟩ := Percent.encodeChar_eq_cons hpath
    have hencoded : Percent.encode Percent.inPath (before ++ c :: after) =
        Percent.encode Percent.inPath before ++
          '%' :: Percent.digit (b.toNat / 16) :: Percent.digit (b.toNat % 16) ::
            (rest ++ Percent.encode Percent.inPath after) := by
      rw [Percent.encode_append, Percent.encode_cons, hescape]
      rfl
    obtain ⟨hhigh, hlow⟩ := escape_of_mem_dots h hencoded
    -- only the byte of a dot is written like this, and a dot is not encoded
    have htwo : ∀ n : Fin 16, (Percent.digit n.val).toLower = '2' → n.val = 2 := by decide
    have hfourteen : ∀ n : Fin 16, (Percent.digit n.val).toLower = 'e' → n.val = 14 := by decide
    have hb := b.toNat_lt
    have hhigh : b.toNat / 16 = 2 := htwo ⟨_, by omega⟩ hhigh
    have hlow : b.toNat % 16 = 14 := hfourteen ⟨_, by omega⟩ hlow
    have hdot : c = '.' := by
      have hvalue : b.toNat = '.'.toNat := (by omega : b.toNat = 46)
      exact Char.toNat_inj.1 ((hascii (by omega)).trans hvalue)
    rw [hdot] at hpath
    cases hpath

/-- Encoding makes no spelling of dots out of a segment that was none. -/
theorem plain_encode {segment : List Char} (hslash : ∀ c ∈ segment, c ≠ '/' ∧ c ≠ '\\')
    (hsingle : isSingleDot segment = false) (hdouble : isDoubleDot segment = false) :
    Plain (Percent.encode Percent.inPath segment) := by
  have hnone : ¬ (isSingleDot (Percent.encode Percent.inPath segment) = true ∨
      isDoubleDot (Percent.encode Percent.inPath segment) = true) := by
    intro hdots
    have hsafe := safe_of_encode_mem_dots (lower_mem_dots hdots)
    rw [Percent.encode_of_forall hsafe, hsingle, hdouble] at hdots
    exact hdots.elim Bool.false_ne_true Bool.false_ne_true
  rw [not_or, Bool.not_eq_true, Bool.not_eq_true] at hnone
  refine ⟨fun c hc ↦ ?_, hnone.1, hnone.2⟩
  rcases Percent.of_mem_encode hc with ⟨hmem, hpath⟩ | hescape
  · exact ⟨hpath, hslash c hmem⟩
  · exact not_inPath_of_isEscape hescape

/-! ### Taking segments -/

section Walk

variable {scheme : String}

/-- Segments that are all plain. -/
def AllPlain (segments : List String) : Prop := ∀ segment ∈ segments, Plain segment.toList

theorem AllPlain.append {front back : List String} (hfront : AllPlain front)
    (hback : AllPlain back) : AllPlain (front ++ back) := by
  intro segment hsegment
  rcases List.mem_append.1 hsegment with h | h
  · exact hfront segment h
  · exact hback segment h

theorem AllPlain.of_sublist {front back : List String} (h : AllPlain back)
    (hsublist : front.Sublist back) : AllPlain front :=
  fun segment hsegment ↦ h segment (hsublist.subset hsegment)

theorem allPlain_trailing (isLast : Bool) : AllPlain (if isLast then [""] else []) := by
  intro segment hsegment
  cases isLast with
  | true =>
    rw [if_pos rfl, List.mem_singleton] at hsegment
    rw [hsegment]
    decide
  | false => cases hsegment

theorem isPrefix_goUp (segments : List String) : goUp segments <+: segments := by
  unfold goUp
  split
  · exact List.prefix_refl segments
  · exact List.dropLast_prefix segments

theorem segmentText_of_not_file (hscheme : isFile scheme = false) (isFirst : Bool)
    (segment : List Char) :
    segmentText scheme isFirst segment =
      String.ofList (Percent.encode Percent.inPath segment) := by
  rw [segmentText, hscheme]
  rfl

theorem allPlain_walk (hscheme : IsHttp scheme) {segments : List String}
    (hsegments : AllPlain segments) {segment : List Char}
    (hsegment : ∀ c ∈ segment, isSlash scheme c = false) (isLast : Bool) :
    AllPlain (walk scheme segments segment isLast) := by
  unfold walk
  split
  · exact (hsegments.of_sublist (isPrefix_goUp segments).sublist).append (allPlain_trailing isLast)
  · rename_i hdouble
    split
    · exact hsegments.append (allPlain_trailing isLast)
    · rename_i hsingle
      refine hsegments.append fun text htext ↦ ?_
      rw [List.mem_singleton.1 htext, segmentText_of_not_file hscheme.isFile, String.toList_ofList]
      refine plain_encode (fun c hc ↦ ?_) (Bool.eq_false_iff.2 hsingle)
        (Bool.eq_false_iff.2 hdouble)
      have hslash := hsegment c hc
      rw [← Bool.not_eq_true, hscheme.isSlash_iff, not_or] at hslash
      exact hslash

theorem walkAll_cons_cons (scheme : String) (segments : List String) (piece next : List Char)
    (rest : List (List Char)) :
    walkAll scheme segments (piece :: next :: rest) =
      walkAll scheme (walk scheme segments piece false) (next :: rest) := rfl

theorem allPlain_walkAll (hscheme : IsHttp scheme) {pieces : List (List Char)}
    (hpieces : ∀ piece ∈ pieces, ∀ c ∈ piece, isSlash scheme c = false) {segments : List String}
    (hsegments : AllPlain segments) : AllPlain (walkAll scheme segments pieces) := by
  induction pieces generalizing segments with
  | nil => exact hsegments
  | cons piece rest ih =>
    rw [List.forall_mem_cons] at hpieces
    cases rest with
    | nil => exact allPlain_walk hscheme hsegments hpieces.1 true
    | cons next rest =>
      rw [walkAll_cons_cons]
      exact ih hpieces.2 (allPlain_walk hscheme hsegments hpieces.1 false)

theorem segmentsOf_eq_walked (hscheme : IsHttp scheme) (cs : List Char) :
    segmentsOf scheme cs = walked scheme cs := by
  rw [segmentsOf, hscheme.isSpecial, hscheme.isFile, Bool.not_true, Bool.and_false,
    if_neg Bool.false_ne_true, if_neg Bool.false_ne_true]

theorem allPlain_segmentsOf (hscheme : IsHttp scheme) (cs : List Char) :
    AllPlain (segmentsOf scheme cs) := by
  rw [segmentsOf_eq_walked hscheme]
  refine allPlain_walkAll hscheme (fun piece hpiece c hc ↦ ?_) (fun _ h ↦ nomatch h)
  exact (Text.of_mem_piecesWhere hpiece hc).2

/-- Plain segments stand for themselves. -/
theorem walk_of_plain (hscheme : IsHttp scheme) (segments : List String) {segment : String}
    (hsegment : Plain segment.toList) (isLast : Bool) :
    walk scheme segments segment.toList isLast = segments ++ [segment] := by
  have hencode : Percent.encode Percent.inPath segment.toList = segment.toList :=
    Percent.encode_of_forall fun c hc ↦ (hsegment.safe c hc).1
  rw [walk, hsegment.notDoubleDot, hsegment.notSingleDot, segmentText_of_not_file hscheme.isFile,
    hencode, String.ofList_toList]
  rfl

theorem walkAll_append_of_plain (hscheme : IsHttp scheme) {front : List String}
    (hfront : AllPlain front) (segments : List String) {pieces : List (List Char)}
    (hpieces : pieces ≠ []) :
    walkAll scheme segments (front.map String.toList ++ pieces) =
      walkAll scheme (segments ++ front) pieces := by
  induction front generalizing segments with
  | nil => rw [List.map_nil, List.nil_append, List.append_nil]
  | cons segment front ih =>
    have hstep : walkAll scheme segments ((segment :: front).map String.toList ++ pieces) =
        walkAll scheme (walk scheme segments segment.toList false)
          (front.map String.toList ++ pieces) := by
      obtain ⟨next, rest, hrest⟩ := List.exists_cons_of_ne_nil
        (List.append_ne_nil_of_right_ne_nil (front.map String.toList) hpieces)
      rw [List.map_cons, List.cons_append, hrest, walkAll_cons_cons]
    rw [hstep, walk_of_plain hscheme _ (hfront segment List.mem_cons_self),
      ih (hfront.of_sublist (List.sublist_cons_self _ _)), List.append_assoc,
      List.singleton_append]

end Walk

/-! ### Reading -/

theorem location_of_parse {text : String} {url : Url} (h : parse text = .ok url) :
    ∃ isLast rest, readLocation url.scheme isLast rest = .ok url.location := by
  unfold parse at h
  split at h
  · cases h
  · rename_i scheme rest _
    simp only at h
    generalize (cutFragment rest).2 = fragment at h
    generalize cutQuery (inQueryOf scheme) (cutFragment rest).1 = front at h
    cases hlocation : readLocation scheme (front.2.isNone && fragment.isNone) front.1 with
    | error error =>
      rw [hlocation] at h
      cases h
    | ok location =>
      rw [hlocation] at h
      cases h
      exact ⟨_, _, hlocation⟩

theorem segments_of_readHierarchy {scheme : String} {isLast : Bool} {cs : List Char}
    {location : Location} (h : readHierarchy scheme isLast cs = .ok location) :
    ∃ authority path, location = .hierarchical authority (segmentsOf scheme path) := by
  unfold readHierarchy at h
  cases hauthority : readAuthority scheme isLast cs with
  | error error =>
    rw [hauthority] at h
    cases h
  | ok read =>
    rw [hauthority] at h
    cases h
    exact ⟨read.1, read.2, rfl⟩

/-- The segments of an `http` or `https` URL that was read are plain. -/
theorem allPlain_of_parse {text : String} {url : Url} (hparse : parse text = .ok url)
    (hscheme : IsHttp url.scheme) :
    ∃ authority segments, url.location = .hierarchical authority segments ∧
      AllPlain segments := by
  obtain ⟨isLast, rest, hlocation⟩ := location_of_parse hparse
  unfold readLocation at hlocation
  rw [hscheme.isFile, hscheme.isSpecial, if_neg Bool.false_ne_true, if_pos rfl] at hlocation
  obtain ⟨authority, path, hsegments⟩ := segments_of_readHierarchy hlocation
  exact ⟨authority, _, hsegments, allPlain_segmentsOf hscheme path⟩

end OverlayGateway.Url
