import OverlayGateway.Base64
import OverlayGateway.Proofs.Result
/-!
Base64 is read exactly as it is written: some symbols decode to bytes if and only if they are the
ones that the bytes encode to (`decode_eq_ok_iff`). Four symbols are three bytes
(`encode_quad`, `quad_bytes`), and a last group that is padded has no bits left over, which is what
makes the symbols of some bytes the only ones.
-/

set_option autoImplicit false
set_option relaxedAutoImplicit false

namespace OverlayGateway.Base64

/-! ### Symbols -/

theorem value?_symbol {n : Nat} (h : n < 64) : value? (symbol n) = some n := by
  have hsymbols : ∀ m : Fin 64, value? (symbol m.val) = some m.val := by decide
  exact hsymbols ⟨n, h⟩

theorem symbol_ne_pad {n : Nat} (h : n < 64) : symbol n ≠ pad := by
  have hsymbols : ∀ m : Fin 64, symbol m.val ≠ pad := by decide
  exact hsymbols ⟨n, h⟩

theorem value?_eq_some_iff {c : UInt8} {n : Nat} : value? c = some n ↔ n < 64 ∧ c = symbol n := by
  constructor
  · intro h
    have hbytes : ∀ b : Fin 256, ((value? (UInt8.ofNat b.val)).all fun n ↦
        decide (n < 64 ∧ UInt8.ofNat b.val = symbol n)) = true := by
      decide +kernel
    have hbyte := hbytes ⟨c.toNat, c.toNat_lt⟩
    rw [UInt8.ofNat_toNat, h] at hbyte
    simpa using hbyte
  · rintro ⟨hn, rfl⟩
    exact value?_symbol hn

theorem valueAt_eq_ok_iff {offset : Nat} {c : UInt8} {n : Nat} :
    valueAt offset c = .ok n ↔ n < 64 ∧ c = symbol n := by
  rw [← value?_eq_some_iff, valueAt]
  cases value? c <;> simp

/-! ### Groups -/

section Groups

variable {w x y z : Nat}

theorem toNat_first (hw : w < 64) (hx : x < 64) :
    (UInt8.ofNat (w * 4 + x / 16)).toNat = w * 4 + x / 16 :=
  UInt8.toNat_ofNat_of_lt' (show w * 4 + x / 16 < 256 by omega)

theorem toNat_second (x : Nat) (hy : y < 64) :
    (UInt8.ofNat (x % 16 * 16 + y / 4)).toNat = x % 16 * 16 + y / 4 :=
  UInt8.toNat_ofNat_of_lt' (show x % 16 * 16 + y / 4 < 256 by omega)

theorem toNat_third (y : Nat) (hz : z < 64) :
    (UInt8.ofNat (y % 4 * 64 + z)).toNat = y % 4 * 64 + z :=
  UInt8.toNat_ofNat_of_lt' (show y % 4 * 64 + z < 256 by omega)

variable (hw : w < 64) (hx : x < 64)
include hw hx

/-- The bytes of a group have the group's symbols. -/
theorem encode_quad (hy : y < 64) (hz : z < 64) (rest : List UInt8) :
    encode (quad w x y z ++ rest) =
      symbol w :: symbol x :: symbol y :: symbol z :: encode rest := by
  have hsymbols : (w * 4 + x / 16) / 4 = w ∧
      (w * 4 + x / 16) % 4 * 16 + (x % 16 * 16 + y / 4) / 16 = x ∧
      (x % 16 * 16 + y / 4) % 16 * 4 + (y % 4 * 64 + z) / 64 = y ∧ (y % 4 * 64 + z) % 64 = z := by
    omega
  obtain ⟨hfirst, hsecond, hthird, hfourth⟩ := hsymbols
  simp only [quad, List.cons_append, List.nil_append, encode, toNat_first hw hx, toNat_second x hy,
    toNat_third y hz, hfirst, hsecond, hthird, hfourth]

theorem encode_two (hy : y < 64) (hbits : y % 4 = 0) :
    encode [UInt8.ofNat (w * 4 + x / 16), UInt8.ofNat (x % 16 * 16 + y / 4)] =
      [symbol w, symbol x, symbol y, pad] := by
  have hsymbols : (w * 4 + x / 16) / 4 = w ∧
      (w * 4 + x / 16) % 4 * 16 + (x % 16 * 16 + y / 4) / 16 = x ∧
      (x % 16 * 16 + y / 4) % 16 * 4 = y := by
    omega
  obtain ⟨hfirst, hsecond, hthird⟩ := hsymbols
  simp only [encode, toNat_first hw hx, toNat_second x hy, hfirst, hsecond, hthird]

theorem encode_one (hbits : x % 16 = 0) :
    encode [UInt8.ofNat (w * 4 + x / 16)] = [symbol w, symbol x, pad, pad] := by
  have hsymbols : (w * 4 + x / 16) / 4 = w ∧ (w * 4 + x / 16) % 4 * 16 = x := by omega
  obtain ⟨hfirst, hsecond⟩ := hsymbols
  simp only [encode, toNat_first hw hx, hfirst, hsecond]

end Groups

/-! ### The last group -/

/-- The last group is symbols and then pads, of which there are none in the first two places. -/
theorem lastValues_eq_ok {offset pads : Nat} {cs : List UInt8} :
    ∀ {index : Nat} {values : List Nat}, lastValues offset index cs = .ok (values, pads) →
      (∀ n ∈ values, n < 64) ∧ cs = values.map symbol ++ List.replicate pads pad ∧
        (pads ≠ 0 → 2 ≤ index + values.length) := by
  induction cs with
  | nil =>
    intro index values h
    cases h
    simp
  | cons c cs ih =>
    intro index values h
    rw [lastValues] at h
    split at h
    · rename_i hpad
      split at h
      · cases h
      · split at h
        · rename_i hindex hall
          cases h
          have hpads : cs = List.replicate cs.length pad := by
            simpa [List.eq_replicate_iff] using hall
          refine ⟨by simp, ?_, fun _ ↦ by omega⟩
          rw [hpad, List.map_nil, List.nil_append, List.replicate_succ, ← hpads]
        · cases h
    · obtain ⟨n, hn, h⟩ := bind_eq_ok_iff.1 h
      obtain ⟨⟨others, found⟩, hothers, h⟩ := bind_eq_ok_iff.1 h
      cases h
      obtain ⟨hsmall, rfl, hpads⟩ := ih hothers
      obtain ⟨hlimit, rfl⟩ := valueAt_eq_ok_iff.1 hn
      refine ⟨List.forall_mem_cons.2 ⟨hlimit, hsmall⟩, rfl, fun h ↦ ?_⟩
      have hplaces := hpads h
      rw [List.length_cons]
      omega

theorem encode_of_decodeLast {offset : Nat} {cs bytes : List UInt8} (hshort : cs.length ≤ 4)
    (h : decodeLast offset cs = .ok bytes) : encode bytes = cs := by
  obtain ⟨⟨values, pads⟩, hvalues, h⟩ := bind_eq_ok_iff.1 h
  obtain ⟨hsmall, rfl, hpads⟩ := lastValues_eq_ok hvalues
  rw [List.length_append, List.length_map, List.length_replicate] at hshort
  dsimp only at h
  split at h
  · cases h
  split at h
  · cases h
  rename_i hone hgroup
  match values with
  | [] =>
    have hnone : pads = 0 := by simpa using hpads
    cases h
    rw [hnone]
    rfl
  | [w] => exact absurd rfl hone
  | [w, x] =>
    obtain ⟨hw, hx⟩ : w < 64 ∧ x < 64 := by simpa using hsmall
    have htwo : pads = 2 := by
      simp only [List.length_cons, List.length_nil, ne_eq, Decidable.not_not] at hgroup hshort
      omega
    dsimp only at h
    split at h
    · rename_i hbits
      cases h
      rw [encode_one hw hx hbits, htwo]
      rfl
    · cases h
  | [w, x, y] =>
    obtain ⟨hw, hx, hy⟩ : w < 64 ∧ x < 64 ∧ y < 64 := by simpa using hsmall
    have hlast : pads = 1 := by
      simp only [List.length_cons, List.length_nil, ne_eq, Decidable.not_not] at hgroup hshort
      omega
    dsimp only at h
    split at h
    · rename_i hbits
      cases h
      rw [encode_two hw hx hy hbits, hlast]
      rfl
    · cases h
  | [w, x, y, z] =>
    obtain ⟨hw, hx, hy, hz⟩ : w < 64 ∧ x < 64 ∧ y < 64 ∧ z < 64 := by simpa using hsmall
    have hnone : pads = 0 := by
      simp only [List.length_cons, List.length_nil] at hshort
      omega
    cases h
    rw [← List.append_nil (quad w x y z), encode_quad hw hx hy hz, hnone]
    rfl
  | _ :: _ :: _ :: _ :: _ :: _ =>
    simp only [List.length_cons] at hshort
    omega

theorem lastValues_symbols {offset pads : Nat} {values : List Nat} (hsmall : ∀ n ∈ values, n < 64) :
    ∀ {index : Nat}, (pads ≠ 0 → 2 ≤ index + values.length) →
      lastValues offset index (values.map symbol ++ List.replicate pads pad) =
        .ok (values, pads) := by
  induction values with
  | nil =>
    intro index hpads
    cases pads with
    | zero => rfl
    | succ pads =>
      have hindex : ¬ index < 2 := by
        have hplaces := hpads (Nat.succ_ne_zero _)
        rw [List.length_nil] at hplaces
        omega
      rw [List.map_nil, List.nil_append, List.replicate_succ, lastValues, if_pos rfl,
        if_neg hindex]
      simp
  | cons n values ih =>
    intro index hpads
    rw [List.forall_mem_cons] at hsmall
    have hrest := @ih hsmall.2 (index + 1) fun h ↦ by
      have hplaces := hpads h
      rw [List.length_cons] at hplaces
      omega
    rw [List.map_cons, List.cons_append, lastValues, if_neg (symbol_ne_pad hsmall.1), hrest,
      valueAt_eq_ok_iff.2 ⟨hsmall.1, rfl⟩]
    rfl

section LastGroup

variable {w x y z : Nat} (hw : w < 64) (hx : x < 64) (offset : Nat)
include hw hx

theorem decodeLast_quad (hy : y < 64) (hz : z < 64) :
    decodeLast offset [symbol w, symbol x, symbol y, symbol z] = .ok (quad w x y z) := by
  have hvalues : lastValues offset 0 [symbol w, symbol x, symbol y, symbol z] =
      .ok ([w, x, y, z], 0) :=
    @lastValues_symbols offset 0 [w, x, y, z] (by simp [hw, hx, hy, hz]) 0 (by simp)
  exact bind_eq_ok_iff.2 ⟨_, hvalues, by simp [pure, Except.pure]⟩

theorem decodeLast_two (hy : y < 64) (hbits : y % 4 = 0) :
    decodeLast offset [symbol w, symbol x, symbol y, pad] =
      .ok [UInt8.ofNat (w * 4 + x / 16), UInt8.ofNat (x % 16 * 16 + y / 4)] := by
  have hvalues : lastValues offset 0 [symbol w, symbol x, symbol y, pad] =
      .ok ([w, x, y], 1) :=
    @lastValues_symbols offset 1 [w, x, y] (by simp [hw, hx, hy]) 0 (by simp)
  exact bind_eq_ok_iff.2 ⟨_, hvalues, by simp [hbits, pure, Except.pure]⟩

theorem decodeLast_one (hbits : x % 16 = 0) :
    decodeLast offset [symbol w, symbol x, pad, pad] = .ok [UInt8.ofNat (w * 4 + x / 16)] := by
  have hvalues : lastValues offset 0 [symbol w, symbol x, pad, pad] = .ok ([w, x], 2) :=
    @lastValues_symbols offset 2 [w, x] (by simp [hw, hx]) 0 (by simp)
  exact bind_eq_ok_iff.2 ⟨_, hvalues, by simp [hbits, pure, Except.pure]⟩

end LastGroup

/-! ### Texts -/

theorem encode_of_decodeFrom {offset : Nat} {cs bytes : List UInt8}
    (h : decodeFrom offset cs = .ok bytes) : encode bytes = cs := by
  induction offset, cs using decodeFrom.induct generalizing bytes with
  | case1 offset a b c d e rest ih =>
    rw [decodeFrom] at h
    obtain ⟨w, hfirst, h⟩ := bind_eq_ok_iff.1 h
    obtain ⟨x, hsecond, h⟩ := bind_eq_ok_iff.1 h
    obtain ⟨y, hthird, h⟩ := bind_eq_ok_iff.1 h
    obtain ⟨z, hfourth, h⟩ := bind_eq_ok_iff.1 h
    obtain ⟨others, hothers, h⟩ := bind_eq_ok_iff.1 h
    cases h
    obtain ⟨hw, rfl⟩ := valueAt_eq_ok_iff.1 hfirst
    obtain ⟨hx, rfl⟩ := valueAt_eq_ok_iff.1 hsecond
    obtain ⟨hy, rfl⟩ := valueAt_eq_ok_iff.1 hthird
    obtain ⟨hz, rfl⟩ := valueAt_eq_ok_iff.1 hfourth
    rw [encode_quad hw hx hy hz, ih hothers]
  | case2 offset cs hshort =>
    have hlength : cs.length ≤ 4 := by
      match cs with
      | [] | [_] | [_, _] | [_, _, _] | [_, _, _, _] => simp
      | a :: b :: c :: d :: e :: rest => exact (hshort a b c d e rest rfl).elim
    rw [decodeFrom.eq_def] at h
    split at h
    · exact (hshort _ _ _ _ _ _ rfl).elim
    · exact encode_of_decodeLast hlength h

theorem ofNat_of_eq {n : Nat} {b : UInt8} (h : n = b.toNat) : UInt8.ofNat n = b := by
  rw [h, UInt8.ofNat_toNat]

/-- The symbols of three bytes are a group of them. -/
theorem quad_bytes (a b c : UInt8) :
    quad (a.toNat / 4) (a.toNat % 4 * 16 + b.toNat / 16) (b.toNat % 16 * 4 + c.toNat / 64)
      (c.toNat % 64) = [a, b, c] := by
  have hb := b.toNat_lt
  have hc := c.toNat_lt
  rw [quad, @ofNat_of_eq _ a (by omega), @ofNat_of_eq _ b (by omega), @ofNat_of_eq _ c (by omega)]

theorem decodeFrom_encode (bytes : List UInt8) (offset : Nat) :
    decodeFrom offset (encode bytes) = .ok bytes := by
  induction bytes using encode.induct generalizing offset with
  | case1 a b c rest ih =>
    have ha := a.toNat_lt
    have hb := b.toNat_lt
    have hc := c.toNat_lt
    have hw : a.toNat / 4 < 64 := by omega
    have hx : a.toNat % 4 * 16 + b.toNat / 16 < 64 := by omega
    have hy : b.toNat % 16 * 4 + c.toNat / 64 < 64 := by omega
    have hz : c.toNat % 64 < 64 := by omega
    have hgroup := quad_bytes a b c
    have hrest := ih (offset + 4)
    rw [encode]
    cases hsymbols : encode rest with
    | nil =>
      rw [hsymbols] at hrest
      cases hrest
      rw [decodeFrom.eq_def]
      dsimp only
      rw [decodeLast_quad hw hx offset hy hz, hgroup]
    | cons e symbols =>
      rw [hsymbols] at hrest
      rw [decodeFrom, valueAt_eq_ok_iff.2 ⟨hw, rfl⟩, valueAt_eq_ok_iff.2 ⟨hx, rfl⟩,
        valueAt_eq_ok_iff.2 ⟨hy, rfl⟩, valueAt_eq_ok_iff.2 ⟨hz, rfl⟩, hrest]
      exact congrArg (fun group ↦ Except.ok (group ++ rest)) hgroup
  | case2 a b =>
    have ha := a.toNat_lt
    have hb := b.toNat_lt
    rw [encode, decodeFrom.eq_def]
    dsimp only
    rw [decodeLast_two (by omega) (by omega) offset (by omega) (by omega),
      @ofNat_of_eq _ a (by omega), @ofNat_of_eq _ b (by omega)]
  | case3 a =>
    have ha := a.toNat_lt
    rw [encode, decodeFrom.eq_def]
    dsimp only
    rw [decodeLast_one (by omega) (by omega) offset (by omega), @ofNat_of_eq _ a (by omega)]
  | case4 => rfl

theorem length_encode_mod (bytes : List UInt8) : (encode bytes).length % 4 = 0 := by
  induction bytes using encode.induct with
  | case1 a b c rest ih =>
    simp only [encode, List.length_cons]
    omega
  | case2 a b => simp [encode]
  | case3 a => simp [encode]
  | case4 => rfl

/-- Some symbols stand for the bytes that are encoded to them, and for no others. -/
theorem decode_eq_ok_iff {cs bytes : List UInt8} : decode cs = .ok bytes ↔ encode bytes = cs := by
  constructor
  · intro h
    unfold decode at h
    split at h
    · split at h
      · cases h
      · exact encode_of_decodeFrom h
    · rename_i hnil
      cases h
      exact (List.getLast?_eq_none_iff.1 hnil).symm
  · rintro rfl
    have hlength := length_encode_mod bytes
    unfold decode
    split
    · rw [if_neg (by omega)]
      exact decodeFrom_encode bytes 0
    · rename_i hnil
      have hdecoded := decodeFrom_encode bytes 0
      rw [List.getLast?_eq_none_iff.1 hnil] at hdecoded
      exact hdecoded

end OverlayGateway.Base64
