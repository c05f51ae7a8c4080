import OverlayGateway.Identity
import OverlayGateway.Proofs.Json.Record
/-!
What identities are read from. The user is a text; the groups are an array of texts, and none if
they are `null` or not there. Both may stand among the members of an object or, in this order, in an
array.
-/

set_option autoImplicit false
set_option relaxedAutoImplicit false

namespace OverlayGateway

open Json

/-! ### Texts -/

/-- A text as it is read. -/
def readingOfText (text : String) : Reading := .string (some text)

/-- Whether groups are read from a value. -/
def AreGroups (value : Reading) (groups : List String) : Prop :=
  value = .null ∧ groups = [] ∨ value = .array (groups.map readingOfText) true

namespace Texts

theorem ofOne_eq_ok_iff {value : Reading} {text : String} :
    ofOne value = .ok (.one text) ↔ value = readingOfText text := by
  simp [ofOne, map_eq_ok_iff, asText_eq_ok_iff, readingOfText]

theorem forall₂_asText_iff {items : List Reading} {texts : List String} :
    List.Forall₂ (Decodes asText) items texts ↔ items = texts.map readingOfText := by
  induction items generalizing texts with
  | nil => cases texts <;> simp
  | cons item items ih =>
    cases texts with
    | nil => simp
    | cons text texts =>
      rw [List.forall₂_cons, ih, List.map_cons, List.cons.injEq, Decodes, asText_eq_ok_iff,
        readingOfText]

theorem ofMany_eq_ok_iff {value : Reading} {groups : List String} :
    ofMany value = .ok (.many groups) ↔ AreGroups value groups := by
  simp only [ofMany, map_eq_ok_iff, orNull_eq_ok_iff, asListOf_eq_ok_iff, forall₂_asText_iff,
    Texts.many.injEq, AreGroups]
  constructor
  · rintro ⟨_, ⟨rfl, rfl⟩ | ⟨_, texts, ⟨_, rfl, rfl⟩, rfl⟩, rfl⟩
    · exact Or.inl ⟨rfl, rfl⟩
    · exact Or.inr rfl
  · rintro (⟨rfl, rfl⟩ | rfl)
    · exact ⟨none, Or.inl ⟨rfl, rfl⟩, rfl⟩
    · exact ⟨some groups, Or.inr ⟨by simp, groups, ⟨_, rfl, rfl⟩, rfl⟩, rfl⟩

/-! ### Fields of texts -/

/-- A field with one text, which has to be there. -/
def textField (name : String) : RecordField Texts := ⟨name, ofOne, none⟩

/-- The field with the groups, which need not be there. -/
def groupsField : RecordField Texts := ⟨"groups", ofMany, some (.many [])⟩

/-- Whether the members of an object give a text under a name. -/
def HasText (members : List (Option String × Reading)) (name text : String) : Prop :=
  (some name, readingOfText text) ∈ members ∧
    ∀ reading, (some name, reading) ∈ members → reading = readingOfText text

/-- Whether the members of an object give groups, which are none where they are not mentioned. -/
def HasGroups (members : List (Option String × Reading)) (groups : List String) : Prop :=
  (∀ reading, (some "groups", reading) ∈ members → AreGroups reading groups) ∧
    ((∀ reading, (some "groups", reading) ∉ members) → groups = [])

theorem holds_textField_iff {members : List (Option String × Reading)} {name text : String} :
    (textField name).Holds members (.one text) ↔ HasText members name text := by
  constructor
  · rintro ⟨hpresent, habsent⟩
    have hall (reading : Reading) (hmem : (some name, reading) ∈ members) :
        reading = readingOfText text := ofOne_eq_ok_iff.1 (hpresent reading hmem)
    by_cases hnone : ∀ reading, (some name, reading) ∉ members
    · cases habsent hnone
    · obtain ⟨reading, hmem⟩ := not_forall_not.1 hnone
      exact ⟨hall reading hmem ▸ hmem, hall⟩
  · rintro ⟨hmem, hall⟩
    exact ⟨fun reading hreading ↦ ofOne_eq_ok_iff.2 (hall reading hreading),
      fun hnone ↦ absurd hmem (hnone _)⟩

theorem decode_groupsField_iff {value : Reading} {groups : List String} :
    groupsField.decode value = .ok (.many groups) ↔ AreGroups value groups :=
  ofMany_eq_ok_iff

theorem absent_groupsField_iff {groups : List String} :
    groupsField.absent = some (.many groups) ↔ groups = [] := by
  simp [groupsField, eq_comm]

theorem holds_groupsField_iff {members : List (Option String × Reading)} {groups : List String} :
    groupsField.Holds members (.many groups) ↔ HasGroups members groups := by
  rw [RecordField.holds_iff, absent_groupsField_iff]
  simp only [decode_groupsField_iff]
  rfl

/-- Whether the last items of an array give groups. -/
def EndsInGroups (items : List Reading) (groups : List String) : Prop :=
  items = [] ∧ groups = [] ∨ ∃ last, items = [last] ∧ AreGroups last groups

theorem places_textField_iff {name text : String} {fields : List (RecordField Texts)}
    {items : List Reading} {values : List Texts} :
    Places (textField name :: fields) items (.one text :: values) ↔
      ∃ rest, items = readingOfText text :: rest ∧ Places fields rest values := by
  constructor
  · intro h
    cases h with
    | absent hvalue _ => cases hvalue
    | item hvalue hrest =>
      rw [ofOne_eq_ok_iff.1 hvalue]
      exact ⟨_, rfl, hrest⟩
  · rintro ⟨rest, rfl, hrest⟩
    exact .item (ofOne_eq_ok_iff.2 rfl) hrest

theorem places_groupsField_iff {items : List Reading} {groups : List String} :
    Places [groupsField] items [.many groups] ↔ EndsInGroups items groups := by
  rw [places_singleton_iff, absent_groupsField_iff]
  simp only [decode_groupsField_iff]
  rfl

end Texts

/-! ### Identities -/

namespace Identity

open Texts

/-- Whether an identity is read from a value. -/
def IsReadFrom (value : Reading) (identity : Identity) : Prop :=
  (∃ members, value = .object members true ∧ (∀ member ∈ members, member.1 ≠ none) ∧
    (fieldKeys fields members).Nodup ∧ HasText members "user" identity.user ∧
    HasGroups members identity.groups) ∨
  ∃ rest, value = .array (readingOfText identity.user :: rest) true ∧
    EndsInGroups rest identity.groups

theorem decode_eq_asRecord {value : Reading} {identity : Identity} :
    decode value = .ok identity ↔
      asRecord "UserMapping" fields value = .ok [.one identity.user, .many identity.groups] := by
  unfold decode
  rw [bind_eq_ok_iff]
  constructor
  · rintro ⟨values, hrecord, hvalues⟩
    split at hvalues
    · cases hvalues
      exact hrecord
    · cases hvalues
  · exact fun hrecord ↦ ⟨_, hrecord, rfl⟩

theorem decode_eq_ok_iff {value : Reading} {identity : Identity} :
    decode value = .ok identity ↔ IsReadFrom value identity := by
  have hfields : fields = [textField "user", groupsField] := rfl
  rw [decode_eq_asRecord, asRecord_eq_ok_iff (by decide), IsReadFrom]
  simp only [shows_iff, hfields, List.forall₂_cons, List.forall₂_nil_left_iff, and_true,
    holds_textField_iff, holds_groupsField_iff, places_textField_iff, places_groupsField_iff]
  grind

end Identity

end OverlayGateway
