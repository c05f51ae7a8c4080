import Mathlib.Tactic.MkIffOfInductiveProp
import OverlayGateway.Proofs.Json.Decode
import OverlayGateway.Proofs.Result
/-!
Records as decoders accept them. As an object, a record has its fields among the members, each at
most once, in any order and between members of other names; a field that is not there has the value
for an absent one, if there is such a value. As an array, a record has its fields in order, and only
absent ones may be left out at the end.
-/

set_option autoImplicit false
set_option relaxedAutoImplicit false

namespace OverlayGateway.Json

variable {α : Type}

/-- Whether a record has a field of some name. -/
def isField (fields : List (RecordField α)) (key : String) : Bool :=
  fields.any fun field ↦ field.name = key

/-- The keys of members that are fields of a record. -/
def fieldKeys (fields : List (RecordField α)) (members : List (Option String × Reading)) :
    List String :=
  (members.filterMap Prod.fst).filter (isField fields)

/-- What the members of an object say about one field: every member with its name decodes to the
value, and without such a member the value is the one for an absent field. -/
@[mk_iff]
structure RecordField.Holds (field : RecordField α) (members : List (Option String × Reading))
    (value : α) : Prop where
  present : ∀ reading, (some field.name, reading) ∈ members → field.decode reading = .ok value
  absent : (∀ reading, (some field.name, reading) ∉ members) → field.absent = some value

/-- The members of an object make up a record: all keys are texts, no field is named twice, and each
field has its value. -/
@[mk_iff]
structure Shows (fields : List (RecordField α)) (members : List (Option String × Reading))
    (values : List α) : Prop where
  keys : ∀ member ∈ members, member.1 ≠ none
  distinct : (fieldKeys fields members).Nodup
  values : List.Forall₂ (fun field value ↦ field.Holds members value) fields values

/-- The fields among members, in the order of the members. -/
inductive Picks (fields : List (RecordField α)) :
    List (Option String × Reading) → List (String × α) → Prop
  | nil : Picks fields [] []
  | skip {key : String} {reading : Reading} {members : List (Option String × Reading)}
      {picked : List (String × α)} (hunknown : fields.find? (fun field ↦ field.name = key) = none)
      (rest : Picks fields members picked) : Picks fields ((some key, reading) :: members) picked
  | take {key : String} {reading : Reading} {members : List (Option String × Reading)}
      {picked : List (String × α)} {field : RecordField α} {value : α}
      (hfield : fields.find? (fun field ↦ field.name = key) = some field)
      (hvalue : field.decode reading = .ok value) (rest : Picks fields members picked) :
      Picks fields ((some key, reading) :: members) ((key, value) :: picked)

section Fields

variable {fields : List (RecordField α)} {members : List (Option String × Reading)}
  {picked : List (String × α)}

theorem isField_eq_false_iff {key : String} :
    isField fields key = false ↔ fields.find? (fun field ↦ field.name = key) = none := by
  simp [isField]

theorem isField_of_find? {key : String} {field : RecordField α}
    (h : fields.find? (fun field ↦ field.name = key) = some field) : isField fields key = true := by
  rw [← Bool.not_eq_false, isField_eq_false_iff, h]
  simp

theorem fieldKeys_cons (key : String) (reading : Reading)
    (members : List (Option String × Reading)) :
    fieldKeys fields ((some key, reading) :: members) =
      if isField fields key then key :: fieldKeys fields members else fieldKeys fields members := by
  simp [fieldKeys, List.filter_cons]

theorem Picks.keys (h : Picks fields members picked) :
    picked.map Prod.fst = fieldKeys fields members := by
  induction h with
  | nil => rfl
  | skip hunknown rest ih =>
    rw [fieldKeys_cons, isField_eq_false_iff.2 hunknown, ih]
    rfl
  | take hfield hvalue rest ih =>
    rw [fieldKeys_cons, isField_of_find? hfield, List.map_cons, ih]
    rfl

theorem Picks.key_ne_none (h : Picks fields members picked) :
    ∀ member ∈ members, member.1 ≠ none := by
  induction h with
  | nil => simp
  | skip hunknown rest ih => simpa using ih
  | take hfield hvalue rest ih => simpa using ih

/-- What is picked under a key are the values of the members with that key. -/
theorem Picks.mem_iff (h : Picks fields members picked) {key : String} {field : RecordField α}
    (hfield : fields.find? (fun field ↦ field.name = key) = some field) {value : α} :
    (key, value) ∈ picked ↔
      ∃ reading, (some key, reading) ∈ members ∧ field.decode reading = .ok value := by
  induction h with
  | nil => simp
  | @skip other reading members picked hunknown rest ih =>
    have hne : key ≠ other := by
      rintro rfl
      rw [hunknown] at hfield
      cases hfield
    simp [ih, hne]
  | @take other reading members picked found first hfound hvalue rest ih =>
    by_cases hkey : key = other
    · subst hkey
      rw [hfound, Option.some_inj] at hfield
      subst hfield
      constructor
      · intro hmem
        rcases List.mem_cons.1 hmem with hhead | hmem
        · cases hhead
          exact ⟨reading, List.mem_cons_self, hvalue⟩
        · obtain ⟨found, hfound, hdecode⟩ := ih.1 hmem
          exact ⟨found, List.mem_cons_of_mem _ hfound, hdecode⟩
      · rintro ⟨found, hfound, hdecode⟩
        rcases List.mem_cons.1 hfound with hhead | hfound
        · cases hhead
          rw [hvalue, Except.ok.injEq] at hdecode
          rw [hdecode]
          exact List.mem_cons_self
        · exact List.mem_cons_of_mem _ (ih.2 ⟨found, hfound, hdecode⟩)
    · simp [ih, hkey]

/-- Members of fields decode. -/
theorem Picks.exists_decode (h : Picks fields members picked) {key : String} {reading : Reading}
    (hmem : (some key, reading) ∈ members) {field : RecordField α}
    (hfield : fields.find? (fun field ↦ field.name = key) = some field) :
    ∃ value, field.decode reading = .ok value := by
  induction h with
  | nil => cases hmem
  | skip hunknown rest ih =>
    rcases List.mem_cons.1 hmem with hhead | hmem
    · cases hhead
      rw [hunknown] at hfield
      cases hfield
    · exact ih hmem
  | take hfound hvalue rest ih =>
    rcases List.mem_cons.1 hmem with hhead | hmem
    · cases hhead
      rw [hfound, Option.some_inj] at hfield
      exact ⟨_, hfield ▸ hvalue⟩
    · exact ih hmem

/-- Members are picked where all keys are texts and those of fields decode. -/
theorem exists_picks (hkeys : ∀ member ∈ members, member.1 ≠ none)
    (hdecodes : ∀ key reading field, (some key, reading) ∈ members →
      fields.find? (fun field ↦ field.name = key) = some field →
        ∃ value, field.decode reading = .ok value) :
    ∃ picked, Picks fields members picked := by
  induction members with
  | nil => exact ⟨[], .nil⟩
  | cons member members ih =>
    rw [List.forall_mem_cons] at hkeys
    obtain ⟨picked, hpicked⟩ := ih hkeys.2 fun key reading field hmem ↦
      hdecodes key reading field (List.mem_cons_of_mem _ hmem)
    obtain ⟨key, reading⟩ := member
    cases key with
    | none => exact absurd rfl hkeys.1
    | some key =>
      cases hfind : fields.find? (fun field ↦ field.name = key) with
      | none => exact ⟨picked, .skip hfind hpicked⟩
      | some field =>
        obtain ⟨value, hvalue⟩ := hdecodes key reading field List.mem_cons_self hfind
        exact ⟨(key, value) :: picked, .take hfind hvalue hpicked⟩

/-- Behind fields already seen, the fields among the members are picked, none of them twice. -/
theorem eachField_eq_ok_iff {result : List (String × α)} : ∀ {seen : List (String × α)},
    eachField fields seen members = .ok result ↔
      ∃ picked, Picks fields members picked ∧ result = picked.reverse ++ seen ∧
        (picked.map Prod.fst).Nodup ∧ ∀ key ∈ picked.map Prod.fst, key ∉ seen.map Prod.fst := by
  induction members with
  | nil =>
    intro seen
    rw [eachField, Except.ok.injEq]
    constructor
    · rintro rfl
      exact ⟨[], .nil, rfl, List.nodup_nil, by simp⟩
    · rintro ⟨picked, hpicked, rfl, _⟩
      cases hpicked
      rfl
  | cons member members ih =>
    intro seen
    obtain ⟨key, reading⟩ := member
    cases key with
    | none =>
      refine ⟨fun h ↦ (by cases h), ?_⟩
      rintro ⟨picked, hpicked, _⟩
      cases hpicked
    | some key =>
      rw [eachField]
      cases hfind : fields.find? (fun field ↦ field.name = key) with
      | none =>
        dsimp only
        rw [ih]
        constructor
        · rintro ⟨picked, hpicked, hrest⟩
          exact ⟨picked, .skip hfind hpicked, hrest⟩
        · rintro ⟨picked, hpicked, hrest⟩
          cases hpicked with
          | skip _ rest => exact ⟨picked, rest, hrest⟩
          | take hfield _ _ => rw [hfind] at hfield; cases hfield
      | some field =>
        have hseen : (seen.any fun entry ↦ entry.1 = key) = true ↔ key ∈ seen.map Prod.fst := by
          simp
        dsimp only
        split
        · rename_i htwice
          refine ⟨fun h ↦ (by cases h), ?_⟩
          rintro ⟨picked, hpicked, _, _, hnew⟩
          cases hpicked with
          | skip hunknown _ => rw [hfind] at hunknown; cases hunknown
          | take _ _ _ => exact absurd (hseen.1 htwice) (hnew key List.mem_cons_self)
        · rename_i honce
          have hnot : key ∉ seen.map Prod.fst := mt hseen.2 honce
          simp only [bind_eq_ok_iff, within_eq_ok_iff, ih]
          constructor
          · rintro ⟨value, hvalue, picked, hpicked, rfl, hnodup, hnew⟩
            refine ⟨(key, value) :: picked, .take hfind hvalue hpicked, by simp, ?_, ?_⟩
            · refine List.nodup_cons.2 ⟨fun hmem ↦ ?_, hnodup⟩
              exact hnew key hmem List.mem_cons_self
            · refine List.forall_mem_cons.2 ⟨hnot, fun other hmem hother ↦ ?_⟩
              exact hnew other hmem (List.mem_cons_of_mem _ hother)
          · rintro ⟨picked, hpicked, rfl, hnodup, hnew⟩
            cases hpicked with
            | skip hunknown _ => rw [hfind] at hunknown; cases hunknown
            | @take _ _ _ picked found value hfield hvalue rest =>
              rw [hfind, Option.some_inj] at hfield
              subst hfield
              obtain ⟨hfirst, hnodup⟩ := List.nodup_cons.1 hnodup
              refine ⟨value, hvalue, picked, rest, by simp, hnodup, fun other hmem hother ↦ ?_⟩
              rcases List.mem_cons.1 hother with rfl | hother
              · exact hfirst hmem
              · exact hnew other (List.mem_cons_of_mem _ hmem) hother

theorem complete_eq_ok_iff {seen : List (String × α)} :
    ∀ {values : List α}, complete seen fields = .ok values ↔
      List.Forall₂ (fun field value ↦ (seen.lookup field.name).or field.absent = some value) fields
        values := by
  induction fields with
  | nil =>
    intro values
    rw [complete, Except.ok.injEq, List.forall₂_nil_left_iff]
    exact eq_comm
  | cons field fields ih =>
    intro values
    rw [complete, List.forall₂_cons_left_iff]
    cases hfound : (seen.lookup field.name).or field.absent with
    | none => simp
    | some value =>
      simp only [map_eq_ok_iff, ih, Option.some_inj]
      constructor
      · rintro ⟨rest, hrest, rfl⟩
        exact ⟨value, rest, rfl, hrest, rfl⟩
      · rintro ⟨_, rest, rfl, hrest, rfl⟩
        exact ⟨rest, hrest, rfl⟩

/-- What was picked for a field is what the members say about it. -/
theorem Picks.holds_iff (h : Picks fields members picked)
    (hdistinct : (fieldKeys fields members).Nodup) {field : RecordField α}
    (hfield : fields.find? (fun other ↦ other.name = field.name) = some field) {value : α} :
    (picked.reverse.lookup field.name).or field.absent = some value ↔
      field.Holds members value := by
  have hnodup : (picked.reverse.map Prod.fst).Nodup := by
    rw [List.map_reverse, h.keys]
    exact (List.reverse_perm _).nodup_iff.2 hdistinct
  have hlookup (value : α) : picked.reverse.lookup field.name = some value ↔
      ∃ reading, (some field.name, reading) ∈ members ∧ field.decode reading = .ok value := by
    rw [lookup_eq_some_iff hnodup, List.mem_reverse, h.mem_iff hfield]
  cases hfound : picked.reverse.lookup field.name with
  | some first =>
    obtain ⟨reading, hmem, hdecode⟩ := (hlookup first).1 hfound
    rw [Option.some_or, Option.some_inj]
    constructor
    · rintro rfl
      refine ⟨fun other hother ↦ ?_, fun hnone ↦ absurd hmem (hnone reading)⟩
      obtain ⟨value, hvalue⟩ := h.exists_decode hother hfield
      have hsame := (hlookup value).2 ⟨other, hother, hvalue⟩
      rw [hfound, Option.some_inj] at hsame
      rw [hsame, hvalue]
    · intro hholds
      have hvalue := hholds.present reading hmem
      rw [hdecode, Except.ok.injEq] at hvalue
      exact hvalue
  | none =>
    have hnone (reading : Reading) : (some field.name, reading) ∉ members := by
      intro hmem
      obtain ⟨value, hvalue⟩ := h.exists_decode hmem hfield
      have hsome := (hlookup value).2 ⟨reading, hmem, hvalue⟩
      rw [hfound] at hsome
      cases hsome
    rw [Option.none_or]
    exact ⟨fun habsent ↦ ⟨fun reading hmem ↦ absurd hmem (hnone reading), fun _ ↦ habsent⟩,
      fun hholds ↦ hholds.absent hnone⟩

theorem find?_name (hnames : (fields.map RecordField.name).Nodup) {field : RecordField α}
    (hmem : field ∈ fields) : fields.find? (fun other ↦ other.name = field.name) = some field := by
  induction fields with
  | nil => cases hmem
  | cons first fields ih =>
    rw [List.map_cons, List.nodup_cons] at hnames
    rcases List.mem_cons.1 hmem with rfl | hmem
    · simp
    · have hne : first.name ≠ field.name := fun h ↦ hnames.1 (h ▸ List.mem_map_of_mem hmem)
      rw [List.find?_cons_of_neg (by simpa using hne), ih hnames.2 hmem]

theorem forall₂_congr_left {R S : RecordField α → α → Prop} {values : List α}
    (h : ∀ field ∈ fields, ∀ value, R field value ↔ S field value) :
    List.Forall₂ R fields values ↔ List.Forall₂ S fields values := by
  induction fields generalizing values with
  | nil => simp
  | cons field fields ih =>
    rw [List.forall_mem_cons] at h
    simp only [List.forall₂_cons_left_iff, h.1, ih h.2]

/-- The fields of an object make up a record. -/
theorem completed_eq_ok_iff (hnames : (fields.map RecordField.name).Nodup) {values : List α} :
    (∃ seen, eachField fields [] members = .ok seen ∧ complete seen fields = .ok values) ↔
      Shows fields members values := by
  have hseen {picked : List (String × α)} (hpicked : Picks fields members picked)
      (hdistinct : (fieldKeys fields members).Nodup) :
      complete (picked.reverse ++ []) fields = .ok values ↔
        List.Forall₂ (fun field value ↦ field.Holds members value) fields values := by
    rw [List.append_nil, complete_eq_ok_iff]
    exact forall₂_congr_left fun field hfield _ ↦
      hpicked.holds_iff hdistinct (find?_name hnames hfield)
  constructor
  · rintro ⟨seen, heach, hcomplete⟩
    obtain ⟨picked, hpicked, rfl, hnodup, _⟩ := eachField_eq_ok_iff.1 heach
    have hdistinct := hpicked.keys ▸ hnodup
    exact ⟨hpicked.key_ne_none, hdistinct, (hseen hpicked hdistinct).1 hcomplete⟩
  · rintro ⟨hkeys, hdistinct, hvalues⟩
    obtain ⟨picked, hpicked⟩ : ∃ picked, Picks fields members picked := by
      refine exists_picks hkeys fun key reading field hmem hfind ↦ ?_
      have hname : field.name = key := by simpa using List.find?_some hfind
      obtain ⟨value, _, hholds⟩ := exists_of_forall₂ hvalues (List.mem_of_find?_eq_some hfind)
      exact ⟨value, hholds.present reading (hname ▸ hmem)⟩
    refine ⟨_, eachField_eq_ok_iff.2 ⟨picked, hpicked, rfl, ?_, by simp⟩,
      (hseen hpicked hdistinct).2 hvalues⟩
    exact hpicked.keys ▸ hdistinct

end Fields

/-! ### Records as arrays -/

/-- Items are the fields of a record in order; at the end absent fields may be left out. -/
inductive Places : List (RecordField α) → List Reading → List α → Prop
  | nil : Places [] [] []
  | absent {field : RecordField α} {fields : List (RecordField α)} {value : α} {values : List α}
      (hvalue : field.absent = some value) (rest : Places fields [] values) :
      Places (field :: fields) [] (value :: values)
  | item {field : RecordField α} {fields : List (RecordField α)} {item : Reading}
      {items : List Reading} {value : α} {values : List α}
      (hvalue : field.decode item = .ok value) (rest : Places fields items values) :
      Places (field :: fields) (item :: items) (value :: values)

theorem eachPlace_eq_ok_iff {record : String} {total : Nat} {fields : List (RecordField α)} :
    ∀ {index : Nat} {items : List Reading} {values : List α},
      eachPlace record total true index fields items = .ok (values, []) ↔
        Places fields items values := by
  induction fields with
  | nil =>
    intro index items values
    rw [eachPlace, Except.ok.injEq, Prod.mk.injEq]
    constructor
    · rintro ⟨rfl, rfl⟩
      exact .nil
    · rintro ⟨⟩
      exact ⟨rfl, rfl⟩
  | cons field fields ih =>
    intro index items values
    cases items with
    | nil =>
      cases habsent : field.absent with
      | none =>
        simp only [eachPlace, habsent]
        refine ⟨fun h ↦ (by cases h), fun h ↦ ?_⟩
        cases h with
        | absent hvalue _ => rw [habsent] at hvalue; cases hvalue
      | some value =>
        simp only [eachPlace, habsent, Bool.not_true, Bool.false_eq_true, if_false, bind_eq_ok_iff]
        constructor
        · rintro ⟨⟨rest, extra⟩, hrest, hvalues⟩
          cases hvalues
          exact .absent habsent (ih.1 hrest)
        · intro h
          cases h with
          | @absent _ _ first values hvalue rest =>
            rw [habsent, Option.some_inj] at hvalue
            exact ⟨(values, []), ih.2 rest, by rw [hvalue]; rfl⟩
    | cons item items =>
      simp only [eachPlace, bind_eq_ok_iff, within_eq_ok_iff]
      constructor
      · rintro ⟨first, hfirst, ⟨rest, extra⟩, hrest, hvalues⟩
        cases hvalues
        exact .item hfirst (ih.1 hrest)
      · intro h
        cases h with
        | @item _ _ _ _ first values hvalue rest =>
          exact ⟨first, hvalue, (values, []), ih.2 rest, rfl⟩

/-- The last field of a record stands at the end, or is absent. -/
theorem places_singleton_iff {field : RecordField α} {items : List Reading} {value : α} :
    Places [field] items [value] ↔
      items = [] ∧ field.absent = some value ∨
        ∃ item, items = [item] ∧ field.decode item = .ok value := by
  constructor
  · intro h
    cases h with
    | absent hvalue _ => exact Or.inl ⟨rfl, hvalue⟩
    | item hvalue hrest =>
      cases hrest
      exact Or.inr ⟨_, rfl, hvalue⟩
  · rintro (⟨rfl, habsent⟩ | ⟨item, rfl, hvalue⟩)
    · exact .absent habsent .nil
    · exact .item hvalue .nil

/-- A record is an object or an array that holds its fields. -/
theorem asRecord_eq_ok_iff {record : String} {fields : List (RecordField α)}
    (hnames : (fields.map RecordField.name).Nodup) {value : Reading} {values : List α} :
    asRecord record fields value = .ok values ↔
      (∃ members, value = .object members true ∧ Shows fields members values) ∨
        ∃ items, value = .array items true ∧ Places fields items values := by
  cases value with
  | object members closed =>
    simp only [asRecord, bind_eq_ok_iff, atEnd_eq_ok_iff, ← completed_eq_ok_iff hnames]
    grind
  | array items closed =>
    simp only [asRecord, bind_eq_ok_iff, atEnd_eq_ok_iff, Bool.and_eq_true, List.isEmpty_iff]
    constructor
    · rintro ⟨⟨found, extra⟩, hplaces, ⟨rfl, rfl⟩, rfl⟩
      exact Or.inr ⟨items, rfl, eachPlace_eq_ok_iff.1 hplaces⟩
    · rintro (⟨members, hobject, _⟩ | ⟨_, harray, hplaces⟩)
      · cases hobject
      · cases harray
        exact ⟨(values, []), eachPlace_eq_ok_iff.2 hplaces, ⟨rfl, rfl⟩, rfl⟩
  | null => simp [asRecord]
  | bool value => simp [asRecord]
  | number numeral => simp [asRecord]
  | string text => simp [asRecord]
  | broken => simp [asRecord]

end OverlayGateway.Json
