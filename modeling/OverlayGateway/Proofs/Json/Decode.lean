import Mathlib.Data.List.Forall2
import OverlayGateway.Json.Decode
import OverlayGateway.Proofs.Result
/-!
What decoders accept. A decoder succeeds on exactly those values that have the shape it asks for:
the whole list or object is there, and each part of it decodes.
-/

set_option autoImplicit false
set_option relaxedAutoImplicit false

namespace OverlayGateway.Json

variable {α β : Type}

theorem within_eq_ok_iff {step : Step} {result : Except Fault α} {value : α} :
    within step result = .ok value ↔ result = .ok value := by
  cases result <;> simp [within, Except.mapError]

theorem atEnd_eq_ok_iff {closed : Bool} {value found : α} :
    atEnd closed value = .ok found ↔ closed = true ∧ value = found := by
  cases closed <;> simp [atEnd]

theorem asText_eq_ok_iff {value : Reading} {text : String} :
    asText value = .ok text ↔ value = .string (some text) := by
  unfold asText
  split
  · simp
  · rename_i hother
    exact ⟨fun h ↦ (by cases h), fun h ↦ absurd h (hother text)⟩

theorem orNull_of_ne_null (decode : Decoder α) {value : Reading} (h : value ≠ .null) :
    orNull decode value = (decode value).map some := by
  cases value <;> first | rfl | exact absurd rfl h

theorem orNull_eq_ok_iff {decode : Decoder α} {value : Reading} {found : Option α} :
    orNull decode value = .ok found ↔
      value = .null ∧ found = none ∨
        value ≠ .null ∧ ∃ decoded, decode value = .ok decoded ∧ found = some decoded := by
  by_cases h : value = .null
  · subst h
    simp [orNull, eq_comm]
  · rw [orNull_of_ne_null decode h, map_eq_ok_iff]
    simp [h, eq_comm]

/-! ### Lists and maps -/

theorem exists_of_forall₂ {R : α → β → Prop} {items : List α} {values : List β}
    (h : List.Forall₂ R items values) {item : α} (hmem : item ∈ items) :
    ∃ value ∈ values, R item value := by
  induction h with
  | nil => cases hmem
  | cons hfirst _ ih =>
    rcases List.mem_cons.1 hmem with rfl | hmem
    · exact ⟨_, List.mem_cons_self, hfirst⟩
    · obtain ⟨value, hvalue, hrelated⟩ := ih hmem
      exact ⟨value, List.mem_cons_of_mem _ hvalue, hrelated⟩

/-- A value decodes to another one. -/
def Decodes (decode : Decoder α) (reading : Reading) (value : α) : Prop :=
  decode reading = .ok value

/-- A member decodes to an entry under its key. -/
def DecodesMember (decode : Decoder α) (member : Option String × Reading) (entry : String × α) :
    Prop :=
  member.1 = some entry.1 ∧ decode member.2 = .ok entry.2

theorem eachItem_eq_ok_iff {decode : Decoder α} {items : List Reading} :
    ∀ {index : Nat} {values : List α}, eachItem decode index items = .ok values ↔
      List.Forall₂ (Decodes decode) items values := by
  induction items with
  | nil => simp [eachItem, eq_comm]
  | cons item items ih =>
    intro index values
    simp only [eachItem, bind_eq_ok_iff, within_eq_ok_iff, ih, List.forall₂_cons_left_iff]
    constructor
    · rintro ⟨first, hfirst, rest, hrest, hvalues⟩
      cases hvalues
      exact ⟨first, rest, hfirst, hrest, rfl⟩
    · rintro ⟨first, rest, hfirst, hrest, rfl⟩
      exact ⟨first, hfirst, rest, hrest, rfl⟩

theorem asListOf_eq_ok_iff {decode : Decoder α} {value : Reading} {values : List α} :
    asListOf decode value = .ok values ↔
      ∃ items, value = .array items true ∧ List.Forall₂ (Decodes decode) items values := by
  cases value with
  | array items closed =>
    simp only [asListOf, bind_eq_ok_iff, atEnd_eq_ok_iff, eachItem_eq_ok_iff, Reading.array.injEq]
    grind
  | null => simp [asListOf]
  | bool value => simp [asListOf]
  | number numeral => simp [asListOf]
  | string text => simp [asListOf]
  | object members closed => simp [asListOf]
  | broken => simp [asListOf]

theorem eachMember_eq_ok_iff {decode : Decoder α} {members : List (Option String × Reading)} :
    ∀ {entries : List (String × α)}, eachMember decode members = .ok entries ↔
      List.Forall₂ (DecodesMember decode) members entries := by
  induction members with
  | nil => simp [eachMember, eq_comm]
  | cons member members ih =>
    intro entries
    obtain ⟨key, reading⟩ := member
    cases key with
    | none => simp [eachMember, DecodesMember, List.forall₂_cons_left_iff]
    | some key =>
      simp only [eachMember, bind_eq_ok_iff, within_eq_ok_iff, ih, List.forall₂_cons_left_iff]
      constructor
      · rintro ⟨first, hfirst, rest, hrest, hentries⟩
        cases hentries
        exact ⟨(key, first), rest, ⟨rfl, hfirst⟩, hrest, rfl⟩
      · rintro ⟨⟨name, first⟩, rest, ⟨hname, hfirst⟩, hrest, rfl⟩
        cases hname
        exact ⟨first, hfirst, rest, hrest, rfl⟩

theorem asMapOf_eq_ok_iff {decode : Decoder α} {value : Reading} {entries : List (String × α)} :
    asMapOf decode value = .ok entries ↔
      ∃ members, value = .object members true ∧
        List.Forall₂ (DecodesMember decode) members entries := by
  cases value with
  | object members closed =>
    simp only [asMapOf, bind_eq_ok_iff, atEnd_eq_ok_iff, eachMember_eq_ok_iff,
      Reading.object.injEq]
    grind
  | null => simp [asMapOf]
  | bool value => simp [asMapOf]
  | number numeral => simp [asMapOf]
  | string text => simp [asMapOf]
  | array items closed => simp [asMapOf]
  | broken => simp [asMapOf]

theorem decode_eq_ok_iff {decode : Decoder α} {document : Document} {value : α} :
    document.decode decode = .ok value ↔ decode document.value = .ok value ∧ document.clean := by
  simp only [Document.decode, bind_eq_ok_iff, atEnd_eq_ok_iff]
  grind

end OverlayGateway.Json
