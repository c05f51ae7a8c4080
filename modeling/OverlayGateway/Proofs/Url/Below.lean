import OverlayGateway.Proofs.Url.Segments
/-!
The path of an `http` or `https` URL below a base. It is taken from the segments of the base, empty
ones at its end left out, piece by piece. Since no segment holds a slash, one text of segments
starts with another, up to a slash or its end, exactly if the one list starts with the other.
-/

set_option autoImplicit false
set_option relaxedAutoImplicit false

namespace OverlayGateway.Url

/-- The segments of the path of a URL, which an opaque path does not have. -/
def segments (url : Url) : List String :=
  match url.location with
  | .hierarchical _ segments => segments
  | .rooted _ segments => segments
  | .opaquePath _ => []

/-- The segments without the empty ones at their end. -/
def trimmed (segments : List String) : List String :=
  (segments.reverse.dropWhile (· = "")).reverse

/-- The pieces of the path of a request. -/
def callerPieces (scheme path : String) : List (List Char) :=
  Text.piecesWhere (isSlash scheme)
    ((dropSlashesStart path).toList.filter fun c ↦ !isIgnored c)

/-! ### Texts of segments -/

theorem toList_segmentsText (segments : List String) :
    (segmentsText segments).toList = segments.flatMap fun segment ↦ '/' :: segment.toList := by
  simp [segmentsText, String.toList_join, List.flatMap_map, String.toList_append]

theorem segmentsText_append (front back : List String) :
    segmentsText (front ++ back) = segmentsText front ++ segmentsText back := by
  rw [segmentsText, List.map_append, String.join_append]
  rfl

theorem Plain.slash_notMem {segment : List Char} (h : Plain segment) : '/' ∉ segment :=
  fun hslash ↦ (h.safe '/' hslash).2.1 rfl

theorem AllPlain.trimmed {segments : List String} (h : AllPlain segments) :
    AllPlain (trimmed segments) := by
  refine h.of_sublist ?_
  have hsublist := (List.dropWhile_sublist (fun segment ↦ decide (segment = ""))
    (l := segments.reverse)).reverse
  rw [List.reverse_reverse] at hsublist
  exact hsublist

theorem dropSlashesEnd_append_slash (s : String) :
    dropSlashesEnd (s ++ "/") = dropSlashesEnd s := by
  simp [dropSlashesEnd, String.toList_append]

theorem dropSlashesEnd_of_getLast? {s : String} (h : s.toList.getLast? ≠ some '/') :
    dropSlashesEnd s = s := by
  have hkeep : s.toList.reverse.dropWhile (· == '/') = s.toList.reverse := by
    rw [← List.head?_reverse] at h
    cases hreverse : s.toList.reverse with
    | nil => rfl
    | cons c cs =>
      rw [hreverse, List.head?_cons, ne_eq, Option.some.injEq] at h
      exact List.dropWhile_cons_of_neg (by simpa using h)
  rw [dropSlashesEnd, hkeep, List.reverse_reverse, String.ofList_toList]

theorem segmentsText_concat (segments : List String) (segment : String) :
    segmentsText (segments ++ [segment]) = segmentsText segments ++ "/" ++ segment := by
  rw [segmentsText_append, String.append_assoc]
  simp [segmentsText]

/-- The induction goes from the end of the path, where the slashes are dropped. -/
theorem dropSlashesEnd_segmentsText_reverse {backwards : List String} (h : AllPlain backwards) :
    dropSlashesEnd (segmentsText backwards.reverse) =
      segmentsText (backwards.dropWhile (· = "")).reverse := by
  induction backwards with
  | nil => rfl
  | cons segment backwards ih =>
    have hrest : AllPlain backwards := h.of_sublist (List.sublist_cons_self _ _)
    rw [List.reverse_cons, segmentsText_concat]
    by_cases hempty : segment = ""
    · rw [hempty, String.append_empty, dropSlashesEnd_append_slash, ih hrest,
        List.dropWhile_cons_of_pos (by simp)]
    · have hlast : (segmentsText backwards.reverse ++ "/" ++ segment).toList.getLast? ≠
          some '/' := by
        have hne : segment.toList ≠ [] := by simpa using hempty
        rw [String.toList_append, List.getLast?_append_of_ne_nil _ hne]
        intro hslash
        exact (h segment List.mem_cons_self).slash_notMem (List.mem_of_getLast? hslash)
      rw [List.dropWhile_cons_of_neg (by simpa using hempty), List.reverse_cons,
        segmentsText_concat]
      exact dropSlashesEnd_of_getLast? hlast

/-- Slashes at the end of a path are the empty segments at its end. -/
theorem dropSlashesEnd_segmentsText {segments : List String} (h : AllPlain segments) :
    dropSlashesEnd (segmentsText segments) = segmentsText (trimmed segments) := by
  have hbackwards : AllPlain segments.reverse :=
    fun segment hsegment ↦ h segment (List.mem_reverse.1 hsegment)
  have hreverse := dropSlashesEnd_segmentsText_reverse hbackwards
  rw [List.reverse_reverse] at hreverse
  exact hreverse

/-! ### Pieces of a path below a base -/

theorem Plain.not_isIgnored {segment : List Char} (h : Plain segment) :
    ∀ c ∈ segment, (!isIgnored c) = true := by
  intro c hc
  have hsafe := (h.safe c hc).1
  rw [Bool.not_eq_true', ← Bool.not_eq_true]
  intro hignored
  simp only [isIgnored, Bool.or_eq_true, decide_eq_true_eq] at hignored
  rcases hignored with (rfl | rfl) | rfl <;> cases hsafe

theorem Plain.not_isSlash {segment : List Char} (h : Plain segment) {scheme : String}
    (hscheme : IsHttp scheme) : ∀ c ∈ segment, isSlash scheme c = false := by
  intro c hc
  rw [← Bool.not_eq_true, hscheme.isSlash_iff, not_or]
  exact (h.safe c hc).2

theorem filter_of_allPlain {segments : List String} (h : AllPlain segments) :
    (segmentsText segments).toList.filter (fun c ↦ !isIgnored c) =
      (segmentsText segments).toList := by
  rw [List.filter_eq_self]
  intro c hc
  rw [toList_segmentsText, List.mem_flatMap] at hc
  obtain ⟨segment, hsegment, hc⟩ := hc
  rcases List.mem_cons.1 hc with rfl | hc
  · decide
  · exact (h segment hsegment).not_isIgnored c hc

/-- Segments and a text behind a slash start with a slash, whether there are segments or not. -/
theorem exists_slash_cons (segments : List String) (cs : List Char) :
    ∃ back, (segments.flatMap fun segment ↦ '/' :: segment.toList) ++ '/' :: cs =
      '/' :: back := by
  cases segments with
  | nil => exact ⟨cs, rfl⟩
  | cons segment segments => exact ⟨_, rfl⟩

/-- The pieces of plain segments and of the text behind them. -/
theorem piecesWhere_segments {scheme : String} (hscheme : IsHttp scheme) {segments : List String}
    (h : AllPlain segments) (cs : List Char) :
    Text.piecesWhere (isSlash scheme)
        ((segments.flatMap fun segment ↦ '/' :: segment.toList) ++ '/' :: cs) =
      [] :: (segments.map String.toList ++ Text.piecesWhere (isSlash scheme) cs) := by
  have hslash : isSlash scheme '/' = true := (hscheme.isSlash_iff _).2 (Or.inl rfl)
  induction segments with
  | nil => exact Text.piecesWhere_cons_of_sep hslash cs
  | cons segment segments ih =>
    have hrest := ih (h.of_sublist (List.sublist_cons_self _ _))
    have hsegment := (h segment List.mem_cons_self).not_isSlash hscheme
    obtain ⟨back, hback⟩ := exists_slash_cons segments cs
    rw [hback, Text.piecesWhere_cons_of_sep hslash, List.cons.injEq] at hrest
    rw [List.flatMap_cons, List.append_assoc, hback, List.cons_append,
      Text.piecesWhere_cons_of_sep hslash, Text.piecesWhere_append_cons hsegment hslash, hrest.2]
    rfl

/-- Plain segments are taken as they are, and then the pieces of the text behind them. -/
theorem walked_segments {scheme : String} (hscheme : IsHttp scheme) {segments : List String}
    (h : AllPlain segments) (cs : List Char) :
    walked scheme ((segments.flatMap fun segment ↦ '/' :: segment.toList) ++ '/' :: cs) =
      walkAll scheme segments (Text.piecesWhere (isSlash scheme) cs) := by
  have hslash : isSlash scheme '/' = true := (hscheme.isSlash_iff _).2 (Or.inl rfl)
  have hpieces := piecesWhere_segments hscheme h cs
  obtain ⟨back, hback⟩ := exists_slash_cons segments cs
  rw [hback, Text.piecesWhere_cons_of_sep hslash, List.cons.injEq] at hpieces
  rw [walked, hback, dropSlash, if_pos hslash, hpieces.2,
    walkAll_append_of_plain hscheme h [] (Text.piecesWhere_ne_nil _ _), List.nil_append]

theorem dropSlashesEnd_pathText {base : Url} {authority : Authority} {segments : List String}
    (hlocation : base.location = .hierarchical authority segments) (hplain : AllPlain segments) :
    dropSlashesEnd base.pathText = segmentsText (trimmed segments) := by
  rw [pathText, hlocation]
  exact dropSlashesEnd_segmentsText hplain

theorem location_below {base : Url} (hscheme : IsHttp base.scheme) {authority : Authority}
    {segments : List String} (hlocation : base.location = .hierarchical authority segments)
    (hplain : AllPlain segments) (path : String) (query : Option String) :
    (base.below path query).location = .hierarchical authority
      (walkAll base.scheme (trimmed segments) (callerPieces base.scheme path)) := by
  have hchars : (dropSlashesEnd base.pathText ++ "/" ++ dropSlashesStart path).toList.filter
        (fun c ↦ !isIgnored c) =
      ((trimmed segments).flatMap fun segment ↦ '/' :: segment.toList) ++
        '/' :: (dropSlashesStart path).toList.filter fun c ↦ !isIgnored c := by
    rw [dropSlashesEnd_pathText hlocation hplain, String.toList_append, String.toList_append,
      List.filter_append, List.filter_append, filter_of_allPlain hplain.trimmed,
      toList_segmentsText, List.append_assoc]
    rfl
  unfold below
  simp only [hlocation, hchars]
  rw [segmentsOf_eq_walked hscheme, walked_segments hscheme hplain.trimmed]
  rfl

/-! ### Texts that start with the text of segments -/

/-- Whether a text is empty or starts with a slash, so that a segment ends in front of it. -/
def EndsSegment (s : String) : Prop := s = "" ∨ ∃ rest, s = "/" ++ rest

/-- A plain segment at the start of the path of a request is its first piece. -/
theorem exists_callerPieces_eq_cons {scheme : String} (hscheme : IsHttp scheme)
    {segment rest : String} (hsegment : Plain segment.toList) (hne : segment ≠ "")
    (hrest : EndsSegment rest) :
    ∃ more, callerPieces scheme ("/" ++ segment ++ rest) = segment.toList :: more := by
  have hdrop : (dropSlashesStart ("/" ++ segment ++ rest)).toList =
      segment.toList ++ rest.toList := by
    obtain ⟨c, cs, hchars⟩ := List.exists_cons_of_ne_nil (by simpa using hne : segment.toList ≠ [])
    have hc : c ≠ '/' := (hsegment.safe c (hchars ▸ List.mem_cons_self)).2.1
    simp [dropSlashesStart, String.toList_append, hchars, hc]
  have hslash : isSlash scheme '/' = true := (hscheme.isSlash_iff _).2 (Or.inl rfl)
  rw [callerPieces, hdrop, List.filter_append, List.filter_eq_self.2 hsegment.not_isIgnored]
  rcases hrest with rfl | ⟨back, rfl⟩
  · refine ⟨[], ?_⟩
    simpa using Text.piecesWhere_of_forall (hsegment.not_isSlash hscheme)
  · refine ⟨Text.piecesWhere (isSlash scheme) (back.toList.filter fun c ↦ !isIgnored c), ?_⟩
    rw [← Text.piecesWhere_append_cons (hsegment.not_isSlash hscheme) hslash,
      String.toList_append]
    rfl

theorem segmentsText_cons (segment : String) (segments : List String) :
    segmentsText (segment :: segments) = "/" ++ (segment ++ segmentsText segments) := by
  rw [← String.append_assoc]
  simp [segmentsText, String.join_cons]

theorem endsSegment_segmentsText (segments : List String) :
    EndsSegment (segmentsText segments) := by
  cases segments with
  | nil => exact Or.inl rfl
  | cons segment segments => exact Or.inr ⟨_, segmentsText_cons segment segments⟩

theorem EndsSegment.append {s t : String} (hs : EndsSegment s) (ht : EndsSegment t) :
    EndsSegment (s ++ t) := by
  rcases hs with rfl | ⟨rest, rfl⟩
  · rw [String.empty_append]
    exact ht
  · exact Or.inr ⟨rest ++ t, String.append_assoc⟩

theorem takeWhile_segment {segment back : String} (hsegment : '/' ∉ segment.toList)
    (hback : EndsSegment back) :
    (segment ++ back).toList.takeWhile (· ≠ '/') = segment.toList := by
  have hinside : ∀ c ∈ segment.toList, decide (c ≠ '/') = true := by
    intro c hc
    rw [decide_eq_true_eq]
    rintro rfl
    exact hsegment hc
  rw [String.toList_append, List.takeWhile_append_of_pos hinside]
  rcases hback with rfl | ⟨rest, rfl⟩
  · simp
  · simp [String.toList_append]

/-- A segment and what follows it are told apart by the first slash. -/
theorem segment_append_inj {first second front back : String} (hfirst : '/' ∉ first.toList)
    (hsecond : '/' ∉ second.toList) (hfront : EndsSegment front) (hback : EndsSegment back)
    (h : first ++ front = second ++ back) : first = second ∧ front = back := by
  have hsegment : first = second := by
    rw [← String.toList_inj, ← takeWhile_segment hfirst hfront, h,
      takeWhile_segment hsecond hback]
  rw [hsegment] at h
  exact ⟨hsegment, String.append_right_inj second |>.1 h⟩

theorem isPrefix_iff_segmentsText {front segments : List String} (hfront : AllPlain front)
    (hsegments : AllPlain segments) :
    front <+: segments ↔
      ∃ rest, segmentsText segments = segmentsText front ++ rest ∧ EndsSegment rest := by
  constructor
  · rintro ⟨back, rfl⟩
    exact ⟨segmentsText back, segmentsText_append front back, endsSegment_segmentsText back⟩
  · rintro ⟨rest, htext, hrest⟩
    induction front generalizing segments with
    | nil => exact List.nil_prefix
    | cons segment front ih =>
      rw [segmentsText_cons, String.append_assoc] at htext
      cases segments with
      | nil =>
        have hchars := congrArg String.toList htext
        rw [String.toList_append] at hchars
        cases hchars
      | cons other segments =>
        rw [segmentsText_cons, String.append_right_inj, String.append_assoc] at htext
        obtain ⟨rfl, hback⟩ := segment_append_inj
          (hsegments other List.mem_cons_self).slash_notMem
          (hfront segment List.mem_cons_self).slash_notMem (endsSegment_segmentsText segments)
          ((endsSegment_segmentsText front).append hrest) htext
        have hmore := ih (hfront.of_sublist (List.sublist_cons_self _ _))
          (hsegments.of_sublist (List.sublist_cons_self _ _)) hback
        exact (List.prefix_cons_inj other).2 hmore

end OverlayGateway.Url
