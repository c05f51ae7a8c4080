import OverlayGateway.Proofs.Identity.Document
import OverlayGateway.Proofs.Json.RoundTrip
/-!
Which texts are identities. Among the well-formed texts it is those of an object with one user and
at most one mention of groups, whatever other members it has, and those of an array with the user
and, behind it, nothing or the groups. So the order of the members does not matter, nor what the
others are.

The members of one name are looked at together, as the values under that name in their order
(`valuesOf`). A name that is mentioned twice has two of them, which is no user and no groups.
-/

set_option autoImplicit false
set_option relaxedAutoImplicit false

namespace OverlayGateway

namespace Json

/-- Whether the members of a value have texts for names, if it has members. -/
def Reading.IsNamed : Reading → Prop
  | .object members _ => ∀ member ∈ members, member.1 ≠ none
  | _ => True

/-- A text is a JSON text of some value, whose own members have texts for names. -/
def WellFormed (bytes : List UInt8) (value : Reading) : Prop :=
  SpellsText bytes value ∧ value.IsNamed

/-- The values of the members of one name, in order. -/
def valuesOf (members : List (Option String × Reading)) (name : String) : List Reading :=
  (members.filter fun member ↦ member.1 = some name).map Prod.snd

section ValuesOf

variable {members others : List (Option String × Reading)} {name : String}

theorem mem_valuesOf_iff {reading : Reading} :
    reading ∈ valuesOf members name ↔ (some name, reading) ∈ members := by
  simp [valuesOf]

theorem count_names (members : List (Option String × Reading)) (name : String) :
    (members.filterMap Prod.fst).count name = (valuesOf members name).length := by
  induction members with
  | nil => rfl
  | cons member members ih =>
    obtain ⟨key, reading⟩ := member
    cases key with
    | none => simpa [valuesOf] using ih
    | some key =>
      by_cases hkey : key = name
      · subst hkey
        simpa [valuesOf] using ih
      · simpa [valuesOf, hkey] using ih

/-- No field is named twice if there is at most one value under the name of each. -/
theorem nodup_fieldKeys_iff {α : Type} {fields : List (RecordField α)} :
    (fieldKeys fields members).Nodup ↔
      ∀ name, isField fields name = true → (valuesOf members name).length ≤ 1 := by
  rw [List.nodup_iff_count]
  refine forall_congr' fun name ↦ ?_
  cases hfield : isField fields name with
  | true =>
    rw [fieldKeys, List.count_filter hfield, count_names]
    simp
  | false =>
    have hnone : name ∉ fieldKeys fields members := by
      simp [fieldKeys, hfield]
    rw [List.count_eq_zero_of_not_mem hnone]
    simp

theorem valuesOf_filter {isKnown : Option String × Reading → Bool}
    (h : ∀ reading, isKnown (some name, reading) = true) :
    valuesOf (members.filter isKnown) name = valuesOf members name := by
  rw [valuesOf, valuesOf, List.filter_filter]
  congr 1
  refine List.filter_congr fun member _ ↦ ?_
  obtain ⟨key, reading⟩ := member
  by_cases hkey : key = some name
  · simp [hkey, h reading]
  · simp [hkey]

theorem valuesOf_perm (h : members.Perm others) :
    (valuesOf members name).Perm (valuesOf others name) :=
  (h.filter _).map _

end ValuesOf

end Json

open Json

namespace Identity

open Texts

/-- Which identity a value stands for. -/
inductive Gives : Reading → Identity → Prop
  | object {members : List (Option String × Reading)} {user : String} {groups : List String}
      (huser : valuesOf members "user" = [readingOfText user])
      (hgroups : EndsInGroups (valuesOf members "groups") groups) :
      Gives (.object members true) ⟨user, groups⟩
  | array {user : String} {rest : List Reading} {groups : List String}
      (h : EndsInGroups rest groups) :
      Gives (.array (readingOfText user :: rest) true) ⟨user, groups⟩

/-- The members of an object that are fields of an identity. -/
def isKnown (member : Option String × Reading) : Bool :=
  member.1 = some "user" || member.1 = some "groups"

section Members

variable {members others : List (Option String × Reading)} {identity : Identity}

theorem hasText_iff {name text : String} (h : (valuesOf members name).length ≤ 1) :
    HasText members name text ↔ valuesOf members name = [readingOfText text] := by
  simp only [HasText, ← mem_valuesOf_iff]
  match hvalues : valuesOf members name with
  | [] => simp
  | [value] => simp [eq_comm]
  | _ :: _ :: _ =>
    rw [hvalues] at h
    simp at h

theorem hasGroups_iff {groups : List String} (h : (valuesOf members "groups").length ≤ 1) :
    HasGroups members groups ↔ EndsInGroups (valuesOf members "groups") groups := by
  simp only [HasGroups, ← mem_valuesOf_iff, EndsInGroups]
  match hvalues : valuesOf members "groups" with
  | [] => simp
  | [value] => simp
  | _ :: _ :: _ =>
    rw [hvalues] at h
    simp at h

theorem length_le_of_endsInGroups {items : List Reading} {groups : List String}
    (h : EndsInGroups items groups) : items.length ≤ 1 := by
  rcases h with ⟨rfl, _⟩ | ⟨last, rfl, _⟩ <;> simp

theorem isField_iff {name : String} :
    isField fields name = true ↔ name = "user" ∨ name = "groups" := by
  simp [isField, fields, @eq_comm _ name]

/-- The two ways to say what an object gives: member by member, and by the values of each name. -/
theorem isReadFrom_object_iff (hnamed : ∀ member ∈ members, member.1 ≠ none) :
    IsReadFrom (.object members true) identity ↔
      valuesOf members "user" = [readingOfText identity.user] ∧
        EndsInGroups (valuesOf members "groups") identity.groups := by
  have hnodup : (fieldKeys fields members).Nodup ↔
      (valuesOf members "user").length ≤ 1 ∧ (valuesOf members "groups").length ≤ 1 := by
    simp only [nodup_fieldKeys_iff, isField_iff, forall_eq_or_imp, forall_eq]
  constructor
  · rintro (⟨found, hfound, -, hdistinct, huser, hgroups⟩ | ⟨rest, harray, -⟩)
    · cases hfound
      obtain ⟨husers, hmentions⟩ := hnodup.1 hdistinct
      exact ⟨(hasText_iff husers).1 huser, (hasGroups_iff hmentions).1 hgroups⟩
    · cases harray
  · rintro ⟨huser, hgroups⟩
    have husers : (valuesOf members "user").length ≤ 1 := by simp [huser]
    have hmentions := length_le_of_endsInGroups hgroups
    exact Or.inl ⟨members, rfl, hnamed, hnodup.2 ⟨husers, hmentions⟩, (hasText_iff husers).2 huser,
      (hasGroups_iff hmentions).2 hgroups⟩

theorem isReadFrom_iff {value : Reading} (h : value.IsNamed) :
    IsReadFrom value identity ↔ Gives value identity := by
  constructor
  · intro hread
    have hform := hread
    rcases hform with ⟨members, rfl, -⟩ | ⟨rest, rfl, hgroups⟩
    · obtain ⟨huser, hgroups⟩ := (isReadFrom_object_iff h).1 hread
      exact .object huser hgroups
    · exact .array hgroups
  · intro hgives
    cases hgives with
    | object huser hgroups => exact (isReadFrom_object_iff h).2 ⟨huser, hgroups⟩
    | array hgroups => exact Or.inr ⟨_, rfl, hgroups⟩

theorem endsInGroups_of_perm {items rest : List Reading} {groups : List String}
    (h : items.Perm rest) (hgroups : EndsInGroups items groups) : EndsInGroups rest groups := by
  rcases hgroups with ⟨rfl, hnone⟩ | ⟨last, rfl, hlast⟩
  · exact Or.inl ⟨List.nil_perm.1 h, hnone⟩
  · exact Or.inr ⟨last, (List.singleton_perm.1 h).symm, hlast⟩

/-- Objects that differ in nothing but the order of their members and in members of other names give
the same. -/
theorem gives_of_perm (h : (members.filter isKnown).Perm (others.filter isKnown))
    (hgives : Gives (.object members true) identity) : Gives (.object others true) identity := by
  have hvalues (name : String) (hknown : ∀ reading, isKnown (some name, reading) = true) :
      (valuesOf members name).Perm (valuesOf others name) := by
    rw [← valuesOf_filter hknown, ← @valuesOf_filter others name isKnown hknown]
    exact valuesOf_perm h
  cases hgives with
  | object huser hgroups =>
    have husers := hvalues "user" fun _ ↦ rfl
    rw [huser] at husers
    exact .object (List.singleton_perm.1 husers).symm
      (endsInGroups_of_perm (hvalues "groups" fun _ ↦ rfl) hgroups)

end Members

/-! ### Texts -/

theorem decode_eq_ok_iff_gives {value : Reading} (h : value.IsNamed) {identity : Identity} :
    decode value = .ok identity ↔ Gives value identity :=
  decode_eq_ok_iff.trans (isReadFrom_iff h)

theorem ofDocument_eq_ok_iff {bytes : List UInt8} {value : Reading} (h : WellFormed bytes value)
    {identity : Identity} : ofDocument bytes = .ok identity ↔ Gives value identity := by
  have hread := (readDocument_iff.2 h.1).1
  rw [ofDocument, hread, Json.decode_eq_ok_iff, decode_eq_ok_iff_gives h.2]
  simp

theorem exists_wellFormed {bytes : List UInt8} {identity : Identity}
    (h : ofDocument bytes = .ok identity) : ∃ value, WellFormed bytes value := by
  obtain ⟨hdecoded, hclean⟩ := Json.decode_eq_ok_iff.1 h
  have hread : readDocument bytes = ⟨(readDocument bytes).value, true⟩ := by
    rw [← hclean]
  rcases decode_eq_ok_iff.1 hdecoded with ⟨members, hvalue, hnamed, -⟩ | ⟨rest, hvalue, -⟩
  · rw [hvalue] at hread
    exact ⟨_, readDocument_iff.1 ⟨hread, rfl⟩, hnamed⟩
  · rw [hvalue] at hread
    exact ⟨_, readDocument_iff.1 ⟨hread, rfl⟩, trivial⟩

/-- A well-formed text is an identity exactly if its value gives one, and then it is that one; every
other well-formed text is refused, and so is whatever is no well-formed text. Objects with the same
members for the user and for the groups, in any order and among any other members, come to the
same. -/
theorem accepted_exactly :
    (∀ bytes value, WellFormed bytes value →
      (∀ identity, ofDocument bytes = .ok identity ↔ Gives value identity) ∧
        ((∀ identity, ¬ Gives value identity) → ∃ fault, ofDocument bytes = .error fault)) ∧
      (∀ bytes identity, ofDocument bytes = .ok identity → ∃ value, WellFormed bytes value) ∧
      ∀ bytes otherBytes members others, WellFormed bytes (.object members true) →
        WellFormed otherBytes (.object others true) →
          (members.filter isKnown).Perm (others.filter isKnown) →
            (ofDocument bytes).toOption = (ofDocument otherBytes).toOption := by
  refine ⟨fun bytes value h ↦ ⟨fun identity ↦ ofDocument_eq_ok_iff h, fun hnone ↦ ?_⟩,
    fun bytes identity ↦ exists_wellFormed, fun bytes otherBytes members others h hother hperm ↦ ?_⟩
  · cases hresult : ofDocument bytes with
    | ok identity => exact absurd ((ofDocument_eq_ok_iff h).1 hresult) (hnone identity)
    | error fault => exact ⟨fault, rfl⟩
  · refine Option.ext fun identity ↦ ?_
    rw [toOption_eq_some_iff, toOption_eq_some_iff, ofDocument_eq_ok_iff h,
      ofDocument_eq_ok_iff hother]
    exact ⟨gives_of_perm hperm, gives_of_perm hperm.symm⟩

/-- The groups may stand first, between blanks, and another member may have any name and any value;
a second user is refused, also if it is the same. -/
theorem accepted_exactly_sample :
    let groups : String × Value := ("groups", .strings ["dev"])
    let user : String × Value := ("user", .string "ann")
    let unknown : String × Value := ("a\tb", .array [.nat 10, .object [user]])
    let bytes := Text.utf8 (Value.object [unknown, user, groups]).text
    let other := [0x20] ++ (Text.utf8 (Value.object [groups, user]).text ++ [0x0D, 0x0A])
    let twice := Text.utf8 (Value.object [user, user]).text
    ofDocument bytes = .ok ⟨"ann", ["dev"]⟩ ∧ ofDocument other = .ok ⟨"ann", ["dev"]⟩ ∧
      ∃ fault, ofDocument twice = .error fault := by
  intro groups user unknown bytes other twice
  obtain ⟨haccepted, -, hsame⟩ := accepted_exactly
  have hbytes : WellFormed bytes (Value.object [unknown, user, groups]).reading :=
    ⟨(Value.spells_text _).spellsText,
      by simp [Reading.IsNamed, Value.reading, Value.memberReadings]⟩
  have hother : WellFormed other (Value.object [groups, user]).reading :=
    ⟨.padded (by simp [AreBlank, isBlankByte]) (Value.spells_text _)
        (by simp [AreBlank, isBlankByte]),
      by simp [Reading.IsNamed, Value.reading, Value.memberReadings]⟩
  have htwice : WellFormed twice (Value.object [user, user]).reading :=
    ⟨(Value.spells_text _).spellsText,
      by simp [Reading.IsNamed, Value.reading, Value.memberReadings]⟩
  have hgives : Gives (Value.object [unknown, user, groups]).reading ⟨"ann", ["dev"]⟩ :=
    .object rfl (Or.inr ⟨_, rfl, Or.inr rfl⟩)
  have hnone : ∀ identity, ¬ Gives (Value.object [user, user]).reading identity := by
    intro identity hgives
    cases hgives with
    | object huser _ => cases huser
  have hfound := ((haccepted _ _ hbytes).1 _).2 hgives
  have hequal := hsame _ _ _ _ hbytes hother (.swap _ _ [])
  refine ⟨hfound, ?_, (haccepted _ _ htwice).2 hnone⟩
  rw [← toOption_eq_some_iff, ← hequal, hfound]
  rfl

end Identity

end OverlayGateway
