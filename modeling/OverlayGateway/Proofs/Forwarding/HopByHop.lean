import Mathlib.Data.List.Forall2
import OverlayGateway.Proofs.Forwarding
/-!
Headers that are meant for one hop. Those with one of eight names are, and those that a readable
`Connection` value names in any case of the letters; they lose all their values, and every other
header keeps its own. Taken away one after the other, they come to the same in any order, and a
token that is no name takes nothing away. So the order of names, values and tokens makes no
difference, and the second time there is nothing left to take away.
-/

set_option autoImplicit false
set_option relaxedAutoImplicit false

namespace OverlayGateway

open Http

/-! ### Names that a `Connection` value names -/

theorem Http.HeaderName.ofString?_eq_some_iff {s : String} {name : HeaderName} :
    HeaderName.ofString? s = some name ↔ Text.lower s = name.text := by
  unfold HeaderName.ofString?
  constructor
  · intro h
    split at h
    · rw [← Option.some.inj h]
    · cases h
  · intro h
    have hname : isName (Text.lower s) = true := h ▸ name.wellFormed
    rw [dif_pos hname, Option.some_inj]
    exact HeaderName.ext_text h

namespace Forwarding

/-- Whether a header describes the one connection that it came by: its name is one of those that
always do, or one of the tokens of a readable `Connection` value in any case of its letters. -/
def IsHopByHop (headers : Headers) (name : HeaderName) : Prop :=
  name ∈ hopByHop ∨ ∃ value ∈ headers.values .connection, ∃ text, value.readable? = some text ∧
    ∃ token ∈ Text.split ',' text, Text.lower (Text.trim token) = name.text

theorem mem_connectionNames_iff {headers : Headers} {name : HeaderName} :
    name ∈ connectionNames headers ↔
      ∃ value ∈ headers.values .connection, ∃ text, value.readable? = some text ∧
        ∃ token ∈ Text.split ',' text, Text.lower (Text.trim token) = name.text := by
  simp only [connectionNames, connectionTokens, List.mem_filterMap, List.mem_flatMap,
    List.mem_map, HeaderName.ofString?_eq_some_iff]
  constructor
  · rintro ⟨_, ⟨text, ⟨value, hvalue, htext⟩, token, htoken, rfl⟩, hname⟩
    exact ⟨value, hvalue, text, htext, token, htoken, hname⟩
  · rintro ⟨value, hvalue, text, htext, token, htoken, hname⟩
    exact ⟨_, ⟨text, ⟨value, hvalue, htext⟩, token, htoken, rfl⟩, hname⟩

theorem isHopByHop_iff {headers : Headers} {name : HeaderName} :
    IsHopByHop headers name ↔ name ∈ connectionNames headers ∨ name ∈ hopByHop := by
  rw [IsHopByHop, mem_connectionNames_iff]
  exact or_comm

theorem values_stripHopByHop_of_isHopByHop {headers : Headers} {name : HeaderName}
    (h : IsHopByHop headers name) : (stripHopByHop headers).values name = [] := by
  rw [values_stripHopByHop, if_pos (isHopByHop_iff.1 h)]

theorem values_stripHopByHop_of_not_isHopByHop {headers : Headers} {name : HeaderName}
    (h : ¬ IsHopByHop headers name) :
    (stripHopByHop headers).values name = headers.values name := by
  rw [values_stripHopByHop, if_neg (mt isHopByHop_iff.2 h)]

/-! ### One header after the other -/

/-- Takes away the header that a text names in any case of its letters, and nothing if the text is
no name. -/
def eraseNamed (headers : Headers) (text : String) : Headers :=
  match HeaderName.ofString? text with
  | some name => headers.erase name
  | none => headers

/-- The headers that some texts name are taken away, whatever the order of the texts. -/
theorem foldl_eraseNamed (texts : List String) (headers : Headers) :
    texts.foldl eraseNamed headers =
      headers.eraseWhere fun name ↦ (texts.filterMap HeaderName.ofString?).contains name := by
  induction texts generalizing headers with
  | nil => simp [Headers.eraseWhere]
  | cons text texts ih =>
    rw [List.foldl_cons, ih, eraseNamed]
    cases htext : HeaderName.ofString? text with
    | none => rw [List.filterMap_cons_none htext]
    | some name =>
      dsimp only
      rw [List.filterMap_cons_some htext, Headers.erase, Headers.eraseWhere_eraseWhere]
      congr 1

theorem foldl_eraseNamed_of_perm {texts : List String} {headers : Headers}
    (h : texts.Perm (connectionTokens headers ++ hopByHop.map HeaderName.text)) :
    texts.foldl eraseNamed headers = stripHopByHop headers := by
  have halways : (hopByHop.map HeaderName.text).filterMap HeaderName.ofString? = hopByHop := by
    decide
  have hnames : (texts.filterMap HeaderName.ofString?).Perm
      (connectionNames headers ++ hopByHop) := by
    have hfilter := h.filterMap HeaderName.ofString?
    rwa [List.filterMap_append, halways] at hfilter
  rw [foldl_eraseNamed, stripHopByHop]
  congr 1
  funext name
  rw [Bool.eq_iff_iff, List.contains_iff_mem, hnames.mem_iff]
  simp

/-- The second time there is nothing left to take away. -/
theorem stripHopByHop_stripHopByHop (headers : Headers) :
    stripHopByHop (stripHopByHop headers) = stripHopByHop headers := by
  have hnone : connectionNames (stripHopByHop headers) = [] := by
    have hconnection : (stripHopByHop headers).values .connection = [] :=
      values_stripHopByHop_of_isHopByHop (Or.inl List.mem_cons_self)
    rw [connectionNames, connectionTokens, hconnection]
    rfl
  rw [stripHopByHop, hnone, stripHopByHop, Headers.eraseWhere_eraseWhere]
  congr 1
  funext name
  rw [List.contains_nil, Bool.false_or, Bool.or_assoc, Bool.or_self]

/-! ### Order -/

/-- The tokens of one `Connection` value, none if it is not readable. -/
def tokensOf (value : HeaderValue) : List String :=
  value.readable?.toList.flatMap fun text ↦ (Text.split ',' text).map Text.trim

/-- The headers that the tokens of one `Connection` value name; a token that is no name, as the
empty one, stands for none. -/
def namesOf (value : HeaderValue) : List HeaderName :=
  (tokensOf value).filterMap HeaderName.ofString?

/-- Two collections have the same values under every name, but for the order of the `Connection`
values, the order and the case of their tokens, and tokens that are no names. -/
structure Rearranged (first second : Headers) : Prop where
  others : ∀ name ≠ .connection, first.values name = second.values name
  connection : ∃ values, (first.values .connection).Perm values ∧
    List.Forall₂ (fun value other ↦ (namesOf value).Perm (namesOf other)) values
      (second.values .connection)

theorem connectionTokens_eq (headers : Headers) :
    connectionTokens headers = (headers.values .connection).flatMap tokensOf := by
  unfold connectionTokens tokensOf
  induction headers.values .connection with
  | nil => rfl
  | cons value values ih =>
    cases hvalue : value.readable? with
    | none => rw [List.filterMap_cons_none hvalue, ih, List.flatMap_cons, hvalue]; rfl
    | some text =>
      rw [List.filterMap_cons_some hvalue, List.flatMap_cons, ih, List.flatMap_cons, hvalue]
      simp

theorem connectionNames_eq (headers : Headers) :
    connectionNames headers = (headers.values .connection).flatMap namesOf := by
  rw [connectionNames, connectionTokens_eq, List.filterMap_flatMap]
  rfl

theorem Rearranged.connectionNames_perm {first second : Headers} (h : Rearranged first second) :
    (connectionNames first).Perm (connectionNames second) := by
  obtain ⟨values, hperm, hnames⟩ := h.connection
  rw [connectionNames_eq, connectionNames_eq]
  refine (hperm.flatMap_right _).trans ?_
  generalize second.values .connection = others at hnames
  clear hperm
  induction hnames with
  | nil => exact .nil
  | cons hfirst _ ih =>
    rw [List.flatMap_cons, List.flatMap_cons]
    exact hfirst.append ih

theorem Rearranged.agree {first second : Headers} (h : Rearranged first second) :
    (stripHopByHop first).Agree (stripHopByHop second) := by
  intro name
  simp only [values_stripHopByHop, h.connectionNames_perm.mem_iff]
  by_cases hname : name = .connection
  · have hhop : name ∈ hopByHop := hname ▸ List.mem_cons_self
    rw [if_pos (Or.inr hhop), if_pos (Or.inr hhop)]
  · rw [h.others name hname]

/-- The headers that are taken away are those that are hop by hop, and every other one keeps all its
values in order. Taking away what the tokens of the readable `Connection` values and the eight names
that always count stand for, one after the other and in any order, comes to the same, where a token
that is no name takes nothing away. The second time nothing is left to take away, and collections
that are rearranged are left in agreement. -/
theorem hopByHop_stripped (headers : Headers) :
    (∀ name, (IsHopByHop headers name → (stripHopByHop headers).values name = []) ∧
        (¬ IsHopByHop headers name →
          (stripHopByHop headers).values name = headers.values name)) ∧
      stripHopByHop (stripHopByHop headers) = stripHopByHop headers ∧
      (∀ texts : List String,
        texts.Perm (connectionTokens headers ++ hopByHop.map HeaderName.text) →
          texts.foldl eraseNamed headers = stripHopByHop headers) ∧
      ∀ other, Rearranged headers other →
        (stripHopByHop headers).Agree (stripHopByHop other) :=
  ⟨fun _ ↦ ⟨values_stripHopByHop_of_isHopByHop, values_stripHopByHop_of_not_isHopByHop⟩,
    stripHopByHop_stripHopByHop headers, fun _ ↦ foldl_eraseNamed_of_perm,
    fun _ ↦ Rearranged.agree⟩

/-- A token in capitals names a header, one with a blank inside names none, and neither does a value
with a byte beyond ASCII; the same tokens in another order, with an empty one among them, leave the
same headers. -/
theorem hopByHop_stripped_sample :
    let trace : HeaderName := ⟨"x-trace", by decide⟩
    let one : HeaderValue := ⟨Text.utf8 "one", by decide, false⟩
    let two : HeaderValue := ⟨Text.utf8 "two", by decide, false⟩
    let tokens : HeaderValue := ⟨Text.utf8 "X-Trace, user agent", by decide, false⟩
    let retold : HeaderValue := ⟨Text.utf8 "\t,x-tracE", by decide, false⟩
    let foreign : HeaderValue := ⟨Text.utf8 "allow,é", by decide, false⟩
    let base : Headers := ⟨[(trace, one), (.allow, two), (.te, one), (.allow, one)]⟩
    let headers := (base.append .connection tokens).append .connection foreign
    let other := (base.append .connection foreign).append .connection retold
    Rearranged headers other ∧ (stripHopByHop headers).Agree (stripHopByHop other) ∧
      (stripHopByHop headers).values trace = [] ∧
      (stripHopByHop headers).values .allow = [two, one] ∧
      (connectionTokens headers ++ hopByHop.map HeaderName.text).reverse.foldl eraseNamed headers =
        ⟨[(.allow, two), (.allow, one)]⟩ := by
  intro trace one two tokens retold foreign base headers other
  obtain ⟨hvalues, -, herased, hagree⟩ := hopByHop_stripped headers
  have hrearranged : Rearranged headers other := by
    refine ⟨fun name hname ↦ ?_, [foreign, tokens], ?_, .cons (.refl _) (.cons ?_ .nil)⟩
    · simp only [headers, other, Headers.values_append_of_ne _ _ hname]
    · exact .swap foreign tokens []
    · decide +kernel
  refine ⟨hrearranged, hagree other hrearranged, (hvalues trace).1 ?_, (hvalues .allow).2 ?_, ?_⟩
  · exact isHopByHop_iff.2 (by decide)
  · exact mt isHopByHop_iff.1 (by decide)
  · rw [herased _ (List.reverse_perm _)]
    decide

end Forwarding

end OverlayGateway
