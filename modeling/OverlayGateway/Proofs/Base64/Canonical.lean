import Mathlib.Algebra.Group.Nat.Defs
import OverlayGateway.Proofs.Base64.RoundTrip
/-!
Which symbols are base64 at all. They are symbols of the alphabet, filled up to whole groups of four
with at most two pads, and the last of them has no bits that belong to no byte
(`exists_encode_eq_iff`). Blanks, missing or further pads and bits left over make them something
that no bytes are encoded to.
-/

set_option autoImplicit false
set_option relaxedAutoImplicit false

namespace OverlayGateway.Base64

/-- Symbols with six-bit values, then pads. A pad stands for two bits of the last value that are
behind the last byte, and these are zero. -/
structure Canonical (cs : List UInt8) (values : List Nat) (pads : Nat) : Prop where
  symbols : cs = values.map symbol ++ List.replicate pads pad
  small : ∀ n ∈ values, n < 64
  groups : (values.length + pads) % 4 = 0
  pads_le : pads ≤ 2
  bits : ∀ last ∈ values.getLast?, last % 4 ^ pads = 0

namespace Canonical

variable {cs : List UInt8} {values : List Nat} {pads w x y z : Nat}

theorem nil : Canonical [] [] 0 := ⟨rfl, by simp, rfl, by simp, by simp⟩

/-- The pads are what the last group lacks. -/
theorem pads_eq (h : Canonical cs values pads) : pads = (4 - values.length % 4) % 4 := by
  have hgroups := h.groups
  have hle := h.pads_le
  omega

/-- A full group can stand in front of others. -/
theorem cons_group (h : Canonical cs values pads) (hw : w < 64) (hx : x < 64) (hy : y < 64)
    (hz : z < 64) :
    Canonical (symbol w :: symbol x :: symbol y :: symbol z :: cs) (w :: x :: y :: z :: values)
      pads where
  symbols := by
    rw [h.symbols]
    rfl
  small := by simpa [hw, hx, hy, hz] using h.small
  groups := by
    have hgroups := h.groups
    simp only [List.length_cons]
    omega
  pads_le := h.pads_le
  bits := by
    cases values with
    | nil =>
      rw [h.pads_eq]
      simp [Nat.mod_one]
    | cons n values => simpa using h.bits

/-- Behind a full group, the others are as they would be alone. -/
theorem of_cons_group (h : Canonical cs (w :: x :: y :: z :: values) pads) :
    Canonical (values.map symbol ++ List.replicate pads pad) values pads where
  symbols := rfl
  small n hn := h.small n (by simp [hn])
  groups := by
    have hgroups := h.groups
    simp only [List.length_cons] at hgroups
    omega
  pads_le := h.pads_le
  bits last hlast := by
    have hne : values ≠ [] := by
      rintro rfl
      cases hlast
    refine h.bits last ?_
    rwa [List.getLast?_cons_of_ne_nil, List.getLast?_cons_of_ne_nil, List.getLast?_cons_of_ne_nil,
      List.getLast?_cons_of_ne_nil] <;> simp [hne]

end Canonical

theorem exists_canonical_encode (bytes : List UInt8) :
    ∃ values pads, Canonical (encode bytes) values pads := by
  induction bytes using encode.induct with
  | case1 a b c rest ih =>
    obtain ⟨values, pads, h⟩ := ih
    have ha := a.toNat_lt
    have hb := b.toNat_lt
    have hc := c.toNat_lt
    exact ⟨_, pads, h.cons_group (by omega) (by omega) (by omega) (by omega)⟩
  | case2 a b =>
    have ha := a.toNat_lt
    have hb := b.toNat_lt
    refine ⟨[a.toNat / 4, a.toNat % 4 * 16 + b.toNat / 16, b.toNat % 16 * 4], 1, rfl, ?_, by simp,
      by omega, ?_⟩
    · simp only [List.forall_mem_cons, List.not_mem_nil, false_imp_iff, implies_true, and_true]
      omega
    · simp only [List.getLast?_cons_cons, List.getLast?_singleton, Option.mem_some_iff, forall_eq']
      omega
  | case3 a =>
    have ha := a.toNat_lt
    refine ⟨[a.toNat / 4, a.toNat % 4 * 16], 2, rfl, ?_, by simp, by omega, ?_⟩
    · simp only [List.forall_mem_cons, List.not_mem_nil, false_imp_iff, implies_true, and_true]
      omega
    · simp only [List.getLast?_cons_cons, List.getLast?_singleton, Option.mem_some_iff, forall_eq']
      omega
  | case4 => exact ⟨[], 0, .nil⟩

theorem Canonical.exists_encode {values : List Nat} : ∀ {cs : List UInt8} {pads : Nat},
    Canonical cs values pads → ∃ bytes, encode bytes = cs := by
  -- groups of four from the front; the last one is full or padded
  match values with
  | w :: x :: y :: z :: values =>
    intro cs pads h
    obtain ⟨bytes, hbytes⟩ := h.of_cons_group.exists_encode
    obtain ⟨hw, hx, hy, hz⟩ : w < 64 ∧ x < 64 ∧ y < 64 ∧ z < 64 := by
      have hsmall := h.small
      simp only [List.forall_mem_cons] at hsmall
      exact ⟨hsmall.1, hsmall.2.1, hsmall.2.2.1, hsmall.2.2.2.1⟩
    refine ⟨quad w x y z ++ bytes, ?_⟩
    rw [encode_quad hw hx hy hz, hbytes, h.symbols]
    rfl
  | [w, x, y] =>
    intro cs pads h
    obtain ⟨hw, hx, hy⟩ : w < 64 ∧ x < 64 ∧ y < 64 := by simpa using h.small
    have hpads : pads = 1 := h.pads_eq
    have hbits : y % 4 = 0 := by simpa [hpads] using h.bits
    refine ⟨_, (encode_two hw hx hy hbits).trans ?_⟩
    rw [h.symbols, hpads]
    rfl
  | [w, x] =>
    intro cs pads h
    obtain ⟨hw, hx⟩ : w < 64 ∧ x < 64 := by simpa using h.small
    have hpads : pads = 2 := h.pads_eq
    have hbits : x % 16 = 0 := by simpa [hpads] using h.bits
    refine ⟨_, (encode_one hw hx hbits).trans ?_⟩
    rw [h.symbols, hpads]
    rfl
  | [w] =>
    intro cs pads h
    have hpads : pads = 3 := h.pads_eq
    exact absurd (hpads ▸ h.pads_le) (by decide)
  | [] =>
    intro cs pads h
    refine ⟨[], ?_⟩
    rw [h.symbols, h.pads_eq]
    rfl

theorem exists_encode_eq_iff {cs : List UInt8} :
    (∃ bytes, encode bytes = cs) ↔ ∃ values pads, Canonical cs values pads := by
  constructor
  · rintro ⟨bytes, rfl⟩
    exact exists_canonical_encode bytes
  · rintro ⟨values, pads, h⟩
    exact h.exists_encode

end OverlayGateway.Base64
