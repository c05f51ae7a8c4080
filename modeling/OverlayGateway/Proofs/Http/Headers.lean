import OverlayGateway.Http.Headers
/-!
Header collections as functions from names to values. Every operation is determined by the values
that it finds under the names, so collections that agree name by name stay in agreement, whatever
the order in which their names come.
-/

set_option autoImplicit false
set_option relaxedAutoImplicit false

namespace OverlayGateway.Http

theorem HeaderValue.bytes_of_ofString? {text : String} {value : HeaderValue}
    (h : HeaderValue.ofString? text = some value) : value.bytes = Text.utf8 text := by
  simp only [HeaderValue.ofString?, HeaderValue.ofBytes?] at h
  split at h
  · cases h
    rfl
  · cases h

namespace Headers

/-! ### Values after an operation -/

theorem values_insert (headers : Headers) (name other : HeaderName) (value : HeaderValue) :
    (headers.insert name value).values other =
      if other = name then [value] else headers.values other := by
  by_cases h : other = name
  · rw [if_pos h, h, values_insert_self]
  · rw [if_neg h, values_insert_of_ne headers value h]

theorem contains_iff (headers : Headers) (name : HeaderName) :
    headers.contains name = true ↔ headers.values name ≠ [] := by
  simp [contains, values, List.filterMap_eq_nil_iff]

theorem eraseWhere_eraseWhere (headers : Headers) (first second : HeaderName → Bool) :
    (headers.eraseWhere first).eraseWhere second =
      headers.eraseWhere fun name ↦ first name || second name := by
  simp [eraseWhere, List.filter_filter, Bool.and_comm]

/-- Whether the values of a name are the encodings of some texts, in order. -/
def Carries (headers : Headers) (name : HeaderName) (texts : List String) : Prop :=
  (headers.values name).map HeaderValue.bytes = texts.map Text.utf8

theorem Carries.of_values_eq {headers other : Headers} {name : HeaderName} {texts : List String}
    (h : headers.Carries name texts) (hvalues : other.values name = headers.values name) :
    other.Carries name texts := by
  rw [Carries, hvalues]
  exact h

theorem carries_insert (headers : Headers) (name : HeaderName) {value : HeaderValue}
    {text : String} (h : value.bytes = Text.utf8 text) :
    (headers.insert name value).Carries name [text] := by
  rw [Carries, values_insert_self]
  exact congrArg (fun bytes ↦ [bytes]) h

theorem carries_nil_iff (headers : Headers) (name : HeaderName) :
    headers.Carries name [] ↔ headers.values name = [] := by
  simp [Carries]

/-- A name without values carries no text. -/
theorem not_carries_singleton {headers : Headers} {name : HeaderName} {text : String}
    (h : headers.values name = []) : ¬ headers.Carries name [text] := by
  simp [Carries, h]

/-! ### Agreement -/

/-- Two collections have the same values under every name, up to the names that are hidden. -/
def AgreeOff (hidden : HeaderName → Bool) (first second : Headers) : Prop :=
  ∀ name, hidden name = false → first.values name = second.values name

/-- Two collections have the same values under every name. -/
def Agree (first second : Headers) : Prop := ∀ name, first.values name = second.values name

theorem AgreeOff.eraseWhere {hidden : HeaderName → Bool} {first second : Headers}
    (h : first.AgreeOff hidden second) :
    (first.eraseWhere hidden).Agree (second.eraseWhere hidden) := by
  intro name
  rw [values_eraseWhere, values_eraseWhere]
  cases hname : hidden name
  · simpa using h name hname
  · rfl

theorem Agree.eraseWhere {first second : Headers} (h : first.Agree second)
    (drop : HeaderName → Bool) : (first.eraseWhere drop).Agree (second.eraseWhere drop) := by
  intro name
  rw [values_eraseWhere, values_eraseWhere, h name]

theorem Agree.erase {first second : Headers} (h : first.Agree second) (name : HeaderName) :
    (first.erase name).Agree (second.erase name) :=
  h.eraseWhere _

theorem Agree.insert {first second : Headers} (h : first.Agree second) (name : HeaderName)
    (value : HeaderValue) : (first.insert name value).Agree (second.insert name value) := by
  intro other
  rw [values_insert, values_insert, h other]

theorem Agree.get?_eq {first second : Headers} (h : first.Agree second) (name : HeaderName) :
    first.get? name = second.get? name := by
  rw [get?, get?, h name]

theorem Agree.contains_eq {first second : Headers} (h : first.Agree second) (name : HeaderName) :
    first.contains name = second.contains name := by
  rw [Bool.eq_iff_iff, contains_iff, contains_iff, h name]

end Headers

end OverlayGateway.Http
