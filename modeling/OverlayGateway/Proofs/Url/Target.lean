import OverlayGateway.Proofs.Http.Uri
import OverlayGateway.Proofs.Url.Below
import OverlayGateway.Proofs.Url.Decoding
/-!
What a URL below a base keeps of the base and of the target of a request. Scheme, user info, host
and port are those of the base whatever the path says, since the path starts behind them with a
slash. A query is there if and only if the target has one, and is decoded to the same bytes. A path
without dot segments and backslashes goes on from the base as it stands, slash by slash, up to
encoding.
-/

set_option autoImplicit false
set_option relaxedAutoImplicit false

namespace OverlayGateway.Url

/-- The authority of a URL, if it has one. -/
def authority? (url : Url) : Option Authority :=
  match url.location with
  | .hierarchical authority _ => some authority
  | .rooted _ _ | .opaquePath _ => none

/-! ### Characters of a target -/

/-- Where neither a tab nor a line end may stand, nothing is ignored. -/
theorem not_isIgnored_of_accepted {accepts : Char → Bool} (htab : accepts '\t' = false)
    (hline : accepts '\n' = false) (hreturn : accepts '\r' = false) {c : Char}
    (hc : accepts c = true) : isIgnored c = false := by
  have hne {other : Char} (hother : accepts other = false) : c ≠ other := by
    intro heq
    rw [heq, hother] at hc
    exact Bool.false_ne_true hc
  simp [isIgnored, hne htab, hne hline, hne hreturn]

theorem filter_of_not_isIgnored {cs : List Char} (h : ∀ c ∈ cs, isIgnored c = false) :
    cs.filter (fun c ↦ !isIgnored c) = cs :=
  List.filter_eq_self.2 fun c hc ↦ by rw [h c hc]; rfl

/-! ### Authority and query -/

section Base

variable {base : Url} {path : String} {query : Option String}

theorem authority?_below (base : Url) (path : String) (query : Option String) :
    (base.below path query).authority? = base.authority? := by
  unfold authority? below
  dsimp only
  cases base.location <;> rfl

theorem walk_ne_nil (scheme : String) (segments : List String) (piece : List Char) :
    walk scheme segments piece true ≠ [] := by
  unfold walk
  split
  · simp
  · split <;> simp

theorem walkAll_ne_nil (scheme : String) (segments : List String) {pieces : List (List Char)}
    (h : pieces ≠ []) : walkAll scheme segments pieces ≠ [] := by
  induction pieces generalizing segments with
  | nil => exact absurd rfl h
  | cons piece rest ih =>
    cases rest with
    | nil => exact walk_ne_nil scheme segments piece
    | cons next rest => exact ih _ (List.cons_ne_nil _ _)

/-- The text of a URL below a base goes on behind scheme and authority with a slash. -/
theorem text_below {authority : Authority} {segments : List String}
    (hscheme : IsHttp base.scheme) (hlocation : base.location = .hierarchical authority segments)
    (hplain : AllPlain segments) (path : String) (query : Option String) :
    ∃ rest, (base.below path query).text =
      base.scheme ++ "://" ++ authority.text ++ "/" ++ rest := by
  have hpieces : callerPieces base.scheme path ≠ [] := Text.piecesWhere_ne_nil _ _
  obtain ⟨segment, more, hsegments⟩ := List.exists_cons_of_ne_nil
    (walkAll_ne_nil base.scheme (trimmed segments) hpieces)
  have hwalked := location_below hscheme hlocation hplain path query
  rw [hsegments] at hwalked
  have hbase : (base.below path query).scheme = base.scheme := rfl
  rw [text, pathText, hwalked, hbase]
  dsimp only [Location.front]
  rw [segmentsText_cons]
  simp only [String.append_assoc]
  exact ⟨_, rfl⟩

theorem decodeText_queryOf {scheme query : String} (hscheme : IsHttp scheme)
    (hquery : ∀ c ∈ query.toList, Http.Uri.isQueryChar c = true) :
    Percent.decodeText (queryOf scheme query) = Percent.decodeText query := by
  have hkept := filter_of_not_isIgnored fun c hc ↦
    not_isIgnored_of_accepted rfl rfl rfl (hquery c hc)
  have hset : inQueryOf scheme = Percent.inSpecialQuery := by
    rw [inQueryOf, hscheme.isSpecial, if_pos rfl]
  rw [queryOf, hkept, hset]
  exact Percent.decodeText_ofList_encode Percent.sparesEscapes_inSpecialQuery query

/-! ### Dot segments -/

/-- Whether a segment of a path is one dot or two dots once it is decoded. -/
def IsDots (segment : String) : Prop :=
  Percent.decodeText segment = Text.utf8 "." ∨ Percent.decodeText segment = Text.utf8 ".."

instance (segment : String) : Decidable (IsDots segment) := inferInstanceAs (Decidable (_ ∨ _))

/-- A letter with a small form in ASCII is in ASCII itself. -/
theorem lt_of_toLower {c : Char} (h : c.toLower.toNat < 128) : c.toNat < 128 := by
  unfold Char.toLower at h
  split at h
  · rename_i hcapital
    exact Nat.lt_of_le_of_lt (UInt32.le_iff_toNat_le.1 hcapital.2) (by decide)
  · exact h

/-- A sign and a digit are their own small forms only; a letter is also that of its capital. -/
theorem eq_or_of_toLower {c : Char} (h : c.toLower ∈ ['.', '%', '2', 'e']) :
    c = c.toLower ∨ c = 'E' ∧ c.toLower = 'e' := by
  have hall : ∀ m : Fin 128, (Char.ofNat m.val).toLower ∈ ['.', '%', '2', 'e'] →
      Char.ofNat m.val = (Char.ofNat m.val).toLower ∨
        Char.ofNat m.val = 'E' ∧ (Char.ofNat m.val).toLower = 'e' := by
    decide
  have hascii : (['.', '%', '2', 'e'].all fun d ↦ d.toNat < 128) = true := by decide
  have hc := hall ⟨c.toNat, lt_of_toLower (of_decide_eq_true (List.all_eq_true.1 hascii _ h))⟩
  rw [Char.ofNat_toNat] at hc
  exact hc h

theorem eq_of_toLower {c d : Char} (h : c.toLower = d) (hd : d ∈ ['.', '%', '2']) : c = d := by
  subst h
  rcases eq_or_of_toLower (List.mem_append_left ['e'] hd) with hsame | ⟨_, he⟩
  · exact hsame
  · rw [he] at hd
    exact absurd hd (by decide)

theorem hexValue?_of_toLower {c : Char} (h : c.toLower = 'e') : Text.hexValue? c = some 14 := by
  have hmem : c.toLower ∈ ['.', '%', '2', 'e'] := by
    rw [h]
    decide
  rcases eq_or_of_toLower hmem with hsame | ⟨rfl, _⟩
  · rw [hsame, h]
    rfl
  · rfl

theorem decode_dot {c : Char} (h : c.toLower = '.') (cs : List Char) :
    Percent.decode (Text.bytes (c :: cs)) = 0x2E :: Percent.decode (Text.bytes cs) := by
  rw [eq_of_toLower h (by decide), Text.bytes_cons]
  exact Percent.decode_cons_of_ne (by decide) _

theorem decode_escaped_dot {a b c : Char} (ha : a.toLower = '%') (hb : b.toLower = '2')
    (hc : c.toLower = 'e') (cs : List Char) :
    Percent.decode (Text.bytes (a :: b :: c :: cs)) = 0x2E :: Percent.decode (Text.bytes cs) := by
  rw [eq_of_toLower ha (by decide), eq_of_toLower hb (by decide)]
  exact Percent.decode_of_escapes ⟨'2', c, 2, 14, rfl, rfl, hexValue?_of_toLower hc, rfl⟩

/-- Every spelling of a dot segment is decoded to one. -/
theorem isDots_of_spelling {piece : List Char}
    (h : isSingleDot piece = true ∨ isDoubleDot piece = true) : IsDots (String.ofList piece) := by
  have hlower := lower_mem_dots h
  unfold IsDots
  rw [Percent.decodeText, Text.utf8_eq_bytes, String.toList_ofList]
  simp only [dots, List.mem_cons, List.not_mem_nil, or_false, List.map_eq_cons_iff,
    List.map_eq_nil_iff] at hlower
  rcases hlower with ⟨a, _, rfl, ha, rfl⟩ | ⟨a, _, rfl, ha, b, _, rfl, hb, c, _, rfl, hc, rfl⟩ |
    ⟨a, _, rfl, ha, d, _, rfl, hd, rfl⟩ |
    ⟨d, _, rfl, hd, a, _, rfl, ha, b, _, rfl, hb, c, _, rfl, hc, rfl⟩ |
    ⟨a, _, rfl, ha, b, _, rfl, hb, c, _, rfl, hc, d, _, rfl, hd, rfl⟩ |
    ⟨a, _, rfl, ha, b, _, rfl, hb, c, _, rfl, hc, d, _, rfl, hd, e, _, rfl, he, f, _, rfl, hf, rfl⟩
  · exact Or.inl (decode_dot ha _)
  · exact Or.inl (decode_escaped_dot ha hb hc _)
  · exact Or.inr (by rw [decode_dot ha, decode_dot hd]; rfl)
  · exact Or.inr (by rw [decode_dot hd, decode_escaped_dot ha hb hc]; rfl)
  · exact Or.inr (by rw [decode_escaped_dot ha hb hc, decode_dot hd]; rfl)
  · exact Or.inr (by rw [decode_escaped_dot ha hb hc, decode_escaped_dot hd he hf]; rfl)

/-- Without dot segments, every piece of a path is encoded and becomes a segment. -/
theorem walkAll_of_not_dots {scheme : String} (hscheme : IsHttp scheme)
    {pieces : List (List Char)} (hdots : ∀ piece ∈ pieces, ¬ IsDots (String.ofList piece))
    (segments : List String) :
    walkAll scheme segments pieces =
      segments ++ pieces.map fun piece ↦ String.ofList (Percent.encode Percent.inPath piece) := by
  have hwalk (segments : List String) (piece : List Char)
      (hpiece : ¬ IsDots (String.ofList piece)) (isLast : Bool) :
      walk scheme segments piece isLast =
        segments ++ [String.ofList (Percent.encode Percent.inPath piece)] := by
    have hnone := mt isDots_of_spelling hpiece
    rw [not_or] at hnone
    rw [walk, if_neg hnone.2, if_neg hnone.1, segmentText_of_not_file hscheme.isFile]
  induction pieces generalizing segments with
  | nil => rw [List.map_nil, List.append_nil, walkAll]
  | cons piece rest ih =>
    rw [List.forall_mem_cons] at hdots
    cases rest with
    | nil => exact hwalk segments piece hdots.1 true
    | cons next rest =>
      rw [walkAll_cons_cons, hwalk segments piece hdots.1 false, ih hdots.2, List.append_assoc]
      rfl

end Base

/-! ### Paths that go on from the base -/

/-- No slash comes of encoding another character. -/
theorem slash_notMem_encodeChar {isEncoded : Char → Bool} {c : Char} (hc : c ≠ '/') :
    ∀ d ∈ Percent.encodeChar isEncoded c, (d == '/') = false := by
  intro d hd
  rw [beq_eq_false_iff_ne]
  rintro rfl
  have hmem : '/' ∈ Percent.encode isEncoded [c] := by
    rwa [Percent.encode, List.flatMap_singleton]
  rcases Percent.of_mem_encode hmem with ⟨hsame, _⟩ | hescape
  · exact hc (List.mem_singleton.1 hsame).symm
  · cases hescape

/-- Encoding a text encodes each of its pieces. -/
theorem pieces_encode {isEncoded : Char → Bool} (hslash : isEncoded '/' = false)
    (cs : List Char) :
    Text.pieces '/' (Percent.encode isEncoded cs) =
      (Text.pieces '/' cs).map (Percent.encode isEncoded) := by
  induction cs with
  | nil => rfl
  | cons c cs ih =>
    obtain ⟨piece, rest, hcs⟩ := List.exists_cons_of_ne_nil
      (Text.piecesWhere_ne_nil (· == '/') cs)
    have hpieces : Text.pieces '/' cs = piece :: rest := hcs
    rw [hpieces, List.map_cons] at ih
    by_cases hc : c = '/'
    · subst hc
      have hback : Text.pieces '/' ('/' :: cs) = [] :: Text.pieces '/' cs :=
        @Text.piecesWhere_cons_of_sep (· == '/') '/' rfl cs
      have hfront : Text.pieces '/' ('/' :: Percent.encode isEncoded cs) =
          [] :: Text.pieces '/' (Percent.encode isEncoded cs) :=
        @Text.piecesWhere_cons_of_sep (· == '/') '/' rfl _
      rw [Percent.encode_cons, Percent.encodeChar_of_not hslash, List.singleton_append, hfront, ih,
        hback, hpieces]
      rfl
    · have hback : Text.pieces '/' (c :: cs) = (c :: piece) :: rest :=
        @Text.piecesWhere_cons_of_not_sep (· == '/') c (beq_eq_false_iff_ne.2 hc) _ _ _ hcs
      rw [Percent.encode_cons, hback, List.map_cons, Percent.encode_cons]
      exact Text.piecesWhere_append_of_forall (slash_notMem_encodeChar hc) ih

theorem flatMap_cons_eq_cons_intercalate {sep : Char} {parts : List (List Char)} (h : parts ≠ []) :
    parts.flatMap (List.cons sep) = sep :: [sep].intercalate parts := by
  induction parts with
  | nil => exact absurd rfl h
  | cons part parts ih =>
    cases parts with
    | nil => simp
    | cons next parts =>
      rw [List.flatMap_cons, ih (List.cons_ne_nil _ _), List.intercalate_cons_cons]
      simp

/-- The pieces of a text as segments make the text again, behind a slash. -/
theorem segmentsText_pieces (cs : List Char) :
    segmentsText ((Text.pieces '/' cs).map String.ofList) = "/" ++ String.ofList cs := by
  have hflat : (segmentsText ((Text.pieces '/' cs).map String.ofList)).toList =
      (Text.pieces '/' cs).flatMap (List.cons '/') := by
    rw [toList_segmentsText, List.flatMap_map]
    exact List.flatMap_congr fun piece _ ↦ by rw [String.toList_ofList]
  have hne : Text.pieces '/' cs ≠ [] := Text.piecesWhere_ne_nil _ _
  rw [← String.toList_inj, hflat, flatMap_cons_eq_cons_intercalate hne, Text.intercalate_pieces,
    String.toList_append, String.toList_ofList (l := cs)]
  rfl

section Path

variable {base : Url} {authority : Authority} {segments : List String}

theorem not_inPath_of_allPlain {segments : List String} (h : AllPlain segments) :
    ∀ c ∈ (segmentsText segments).toList, Percent.inPath c = false := by
  intro c hc
  rw [toList_segmentsText, List.mem_flatMap] at hc
  obtain ⟨segment, hsegment, hc⟩ := hc
  rcases List.mem_cons.1 hc with rfl | hc
  · rfl
  · exact ((h segment hsegment).safe c hc).1

theorem dropSlashesStart_slash_append {rest : String} (h : rest.toList.head? ≠ some '/') :
    dropSlashesStart ("/" ++ rest) = rest := by
  have hkeep : rest.toList.dropWhile (· == '/') = rest.toList := by
    cases hchars : rest.toList with
    | nil => rfl
    | cons c cs =>
      rw [hchars, List.head?_cons, ne_eq, Option.some.injEq] at h
      exact List.dropWhile_cons_of_neg (by simpa using h)
  have hchars : ("/" ++ rest).toList = '/' :: rest.toList := String.toList_append
  rw [dropSlashesStart, hchars, List.dropWhile_cons_of_pos rfl, hkeep, String.ofList_toList]

/-- A path with one slash in front, without dot segments and without what separates or is ignored
otherwise, goes on from that of the base. -/
theorem pathText_below (hscheme : IsHttp base.scheme)
    (hlocation : base.location = .hierarchical authority segments) (hplain : AllPlain segments)
    {rest : String} (hsingle : rest.toList.head? ≠ some '/')
    (hkept : ∀ c ∈ rest.toList, isIgnored c = false) (hbackslash : '\\' ∉ rest.toList)
    (hdots : ∀ segment ∈ Text.split '/' rest, ¬ IsDots segment) (query : Option String) :
    (base.below ("/" ++ rest) query).pathText = String.ofList (Percent.encode Percent.inPath
      (dropSlashesEnd base.pathText ++ ("/" ++ rest)).toList) := by
  have hpieces : callerPieces base.scheme ("/" ++ rest) = Text.pieces '/' rest.toList := by
    rw [callerPieces, dropSlashesStart_slash_append hsingle, filter_of_not_isIgnored hkept]
    refine Text.piecesWhere_congr fun c hc ↦ ?_
    have hne : c ≠ '\\' := fun heq ↦ hbackslash (heq ▸ hc)
    rw [Bool.eq_iff_iff, hscheme.isSlash_iff, or_iff_left hne, beq_iff_eq]
  have hnone : ∀ piece ∈ Text.pieces '/' rest.toList, ¬ IsDots (String.ofList piece) :=
    fun piece hpiece ↦ hdots _ (List.mem_map_of_mem hpiece)
  have hsegments : (Text.pieces '/' rest.toList).map
        (fun piece ↦ String.ofList (Percent.encode Percent.inPath piece)) =
      (Text.pieces '/' (Percent.encode Percent.inPath rest.toList)).map String.ofList := by
    rw [pieces_encode (by decide), List.map_map]
    rfl
  rw [pathText, location_below hscheme hlocation hplain, hpieces,
    walkAll_of_not_dots hscheme hnone, hsegments]
  dsimp only
  rw [segmentsText_append, segmentsText_pieces, dropSlashesEnd_pathText hlocation hplain,
    String.toList_append, Percent.encode_append,
    Percent.encode_of_forall (not_inPath_of_allPlain hplain.trimmed), String.toList_append,
    Percent.encode_append, String.ofList_append, String.ofList_append, String.ofList_toList]
  rfl

/-- A path with a single slash in front that holds no dot segment, however it is encoded, and no
backslash. -/
structure Straight (path : String) : Prop where
  rooted : ∃ rest, path = "/" ++ rest ∧ rest.toList.head? ≠ some '/'
  notDots : ∀ segment ∈ Text.split '/' path, ¬ IsDots segment
  noBackslash : '\\' ∉ path.toList

/-- What a URL keeps of a base and of the path and the query that are put below it. The path is
compared as a whole and segment by segment. -/
structure Keeps (base : Url) (path : String) (query : Option String) (url : Url) : Prop where
  scheme : url.scheme = base.scheme
  authority : ∃ authority, base.authority? = some authority ∧ url.authority? = some authority ∧
    ∃ rest, url.text = base.scheme ++ "://" ++ authority.text ++ "/" ++ rest
  query : url.query.map Percent.decodeText = query.map Percent.decodeText
  path : Straight path →
    Percent.decodeText url.pathText =
        Percent.decodeText (dropSlashesEnd base.pathText ++ path) ∧
      (Text.split '/' url.pathText).map Percent.decodeText =
        (Text.split '/' (dropSlashesEnd base.pathText ++ path)).map Percent.decodeText

/-- An encoded text has the pieces of the text, and both are decoded to the same bytes. -/
theorem decodeText_pieces_encode (s : String) :
    (Text.split '/' (String.ofList (Percent.encode Percent.inPath s.toList))).map
        Percent.decodeText =
      (Text.split '/' s).map Percent.decodeText := by
  rw [Text.split, Text.split, String.toList_ofList, pieces_encode (by decide), List.map_map,
    List.map_map, List.map_map]
  refine List.map_congr_left fun piece _ ↦ ?_
  have hpiece := Percent.decodeText_ofList_encode Percent.sparesEscapes_inPath (String.ofList piece)
  rw [String.toList_ofList] at hpiece
  exact hpiece

theorem pathText_below_of_straight (hscheme : IsHttp base.scheme)
    (hlocation : base.location = .hierarchical authority segments) (hplain : AllPlain segments)
    {path : String} (hpath : ∀ c ∈ path.toList, Http.Uri.isPathChar c = true)
    (hstraight : Straight path) (query : Option String) :
    (base.below path query).pathText = String.ofList (Percent.encode Percent.inPath
      (dropSlashesEnd base.pathText ++ path).toList) := by
  obtain ⟨rest, rfl, hsingle⟩ := hstraight.rooted
  have hchars : ("/" ++ rest).toList = '/' :: rest.toList := String.toList_append
  have hmem {c : Char} (hc : c ∈ rest.toList) : c ∈ ("/" ++ rest).toList :=
    hchars ▸ List.mem_cons_of_mem _ hc
  refine pathText_below hscheme hlocation hplain hsingle
    (fun c hc ↦ not_isIgnored_of_accepted rfl rfl rfl (hpath c (hmem hc)))
    (fun hbackslash ↦ hstraight.noBackslash (hmem hbackslash)) (fun segment hsegment ↦ ?_) query
  have hpieces : Text.pieces '/' ('/' :: rest.toList) = [] :: Text.pieces '/' rest.toList :=
    @Text.piecesWhere_cons_of_sep (· == '/') '/' rfl _
  refine hstraight.notDots segment ?_
  rw [Text.split, hchars, hpieces, List.map_cons]
  exact List.mem_cons_of_mem _ hsegment

/-- Below an `http` or `https` URL, no target of a request leads to another host or with other user
info, and what the target asks for is passed on up to encoding. -/
theorem keeps_below {text : String} {base : Url} (hparse : parse text = .ok base)
    (hscheme : IsHttp base.scheme) {target : String} {uri : Http.Uri}
    (htarget : Http.Uri.parse target = .ok uri) :
    Keeps base uri.path uri.query (base.below uri.path uri.query) := by
  obtain ⟨authority, segments, hlocation, hplain⟩ := allPlain_of_parse hparse hscheme
  have hcarried := Http.Uri.carried_of_parse htarget
  have hauthority : base.authority? = some authority := by rw [authority?, hlocation]
  refine ⟨rfl, ⟨authority, hauthority, ?authority, ?text⟩, ?query, fun hstraight ↦ ?path⟩
  case authority => rw [authority?_below, hauthority]
  case text => exact text_below hscheme hlocation hplain uri.path uri.query
  case query =>
    show (uri.query.map (queryOf base.scheme)).map Percent.decodeText = _
    cases hquery : uri.query with
    | none => rfl
    | some query =>
      exact congrArg some (decodeText_queryOf hscheme (hcarried.query query hquery))
  case path =>
    rw [pathText_below_of_straight hscheme hlocation hplain hcarried.path hstraight]
    exact ⟨Percent.decodeText_ofList_encode Percent.sparesEscapes_inPath _,
      decodeText_pieces_encode _⟩

/-- A target that tries to name a host of its own, and one whose path goes on from the base. -/
theorem keeps_below_sample :
    ∃ base hostile plain, parse "https://u:p@[fd00::1]:6443/k8s//" = .ok base ∧
      Http.Uri.parse "//a.example\\@b.example:1/é" = .ok hostile ∧
      Http.Uri.parse "/api/%41@b:c?q='%20" = .ok plain ∧ Straight plain.path ∧
      Keeps base hostile.path hostile.query (base.below hostile.path hostile.query) ∧
      Keeps base plain.path plain.query (base.below plain.path plain.query) := by
  obtain ⟨base, hbase, hscheme⟩ : ∃ base,
      parse "https://u:p@[fd00::1]:6443/k8s//" = .ok base ∧ IsHttp base.scheme :=
    ⟨_, rfl, Or.inr rfl⟩
  obtain ⟨hostile, hhostile⟩ : ∃ hostile,
      Http.Uri.parse "//a.example\\@b.example:1/é" = .ok hostile := ⟨_, rfl⟩
  obtain ⟨plain, hplain, hpath⟩ : ∃ plain,
      Http.Uri.parse "/api/%41@b:c?q='%20" = .ok plain ∧ plain.path = "/api/%41@b:c" :=
    ⟨_, rfl, rfl⟩
  have hstraight : Straight plain.path := by
    rw [hpath]
    exact ⟨⟨"api/%41@b:c", rfl, by decide⟩, by decide, by decide⟩
  exact ⟨base, hostile, plain, hbase, hhostile, hplain, hstraight,
    keeps_below hbase hscheme hhostile, keeps_below hbase hscheme hplain⟩

end Path

end OverlayGateway.Url
