import OverlayGateway.Management
import OverlayGateway.Proofs.Identity.Document
/-!
Which requests bring a new mapping. The body has to be declared as JSON, short enough and there to
its end; it has to hold an address, a user and possibly groups, and neither the address nor the user
may be blank. What is mapped is the address as it was sent.
-/

set_option autoImplicit false
set_option relaxedAutoImplicit false

namespace OverlayGateway.Management

open Http Json Texts

/-- Whether a mapping is read from a value: an address, a user and groups, which are none if they
are `null` or not there, among the members of an object or in this order in an array. -/
def IsReadFrom (value : Reading) (mapping : NewMapping) : Prop :=
  (∃ members, value = .object members true ∧ (∀ member ∈ members, member.1 ≠ none) ∧
    (fieldKeys newMappingFields members).Nodup ∧ HasText members "ip" mapping.address ∧
    HasText members "user" mapping.identity.user ∧ HasGroups members mapping.identity.groups) ∨
  ∃ rest, value = .array
      (readingOfText mapping.address :: readingOfText mapping.identity.user :: rest) true ∧
    EndsInGroups rest mapping.identity.groups

theorem decodeNewMapping_eq_asRecord {value : Reading} {mapping : NewMapping} :
    decodeNewMapping value = .ok mapping ↔
      asRecord "AddMappingRequest" newMappingFields value =
        .ok [.one mapping.address, .one mapping.identity.user, .many mapping.identity.groups] := by
  unfold decodeNewMapping
  rw [bind_eq_ok_iff]
  constructor
  · rintro ⟨values, hrecord, hvalues⟩
    split at hvalues
    · cases hvalues
      exact hrecord
    · cases hvalues
  · exact fun hrecord ↦ ⟨_, hrecord, rfl⟩

theorem decodeNewMapping_eq_ok_iff {value : Reading} {mapping : NewMapping} :
    decodeNewMapping value = .ok mapping ↔ IsReadFrom value mapping := by
  have hfields : newMappingFields = [textField "ip", textField "user", groupsField] := rfl
  rw [decodeNewMapping_eq_asRecord, asRecord_eq_ok_iff (by decide), IsReadFrom]
  simp only [shows_iff, hfields, List.forall₂_cons, List.forall₂_nil_left_iff, and_true,
    holds_textField_iff, holds_groupsField_iff, places_textField_iff, places_groupsField_iff]
  grind

/-- A request whose body is taken for a mapping. -/
structure Accepted (request : Request) (mapping : NewMapping) : Prop where
  declared : declaresJson request.headers = true
  short : request.body.size ≤ maxBody
  whole : request.bodyFault = none
  clean : (readDocument request.body.toList).clean = true
  read : IsReadFrom (readDocument request.body.toList).value mapping
  address : Text.isBlankText mapping.address = false
  user : Text.isBlankText mapping.identity.user = false

theorem newMapping_eq_ok_iff {request : Request} {mapping : NewMapping} :
    newMapping request = .ok mapping ↔ Accepted request mapping := by
  have hdecode : (readDocument request.body.toList).decode decodeNewMapping = .ok mapping ↔
      IsReadFrom (readDocument request.body.toList).value mapping ∧
        (readDocument request.body.toList).clean = true := by
    rw [decode_eq_ok_iff, decodeNewMapping_eq_ok_iff]
  constructor
  · intro h
    unfold newMapping at h
    split at h
    · cases h
    · rename_i hdeclared
      split at h
      · cases h
      · rename_i hshort
        split at h
        · cases h
        · rename_i hwhole
          split at h
          · cases h
          · cases h
          · rename_i found hfound
            split at h
            · cases h
            · rename_i haddress
              split at h
              · cases h
              · rename_i huser
                cases h
                obtain ⟨hread, hclean⟩ := hdecode.1 hfound
                exact {
                  declared := by simpa using hdeclared
                  short := Nat.not_lt.1 hshort
                  whole := Option.eq_none_iff_forall_ne_some.2 hwhole
                  clean := hclean
                  read := hread
                  address := Bool.eq_false_iff.2 haddress
                  user := Bool.eq_false_iff.2 huser }
  · intro h
    have hdecoded := hdecode.2 ⟨h.read, h.clean⟩
    unfold newMapping
    simp only [h.declared, Bool.not_true, Bool.false_eq_true, if_false,
      if_neg (Nat.not_lt.2 h.short), h.whole, hdecoded, h.address, h.user]

end OverlayGateway.Management
