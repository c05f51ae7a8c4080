import OverlayGateway.Ip.Parse
import OverlayGateway.Proofs.Text.Visible
/-!
The text of an address denotes it, so no two addresses have the same text. Each reader takes from
what was written, with more text behind it, the part that the writer wrote: the digits of a number
end where no digit follows, a group ends at a colon, and the zero groups that were left out are as
many as the groups around them leave room for.
-/

set_option autoImplicit false
set_option relaxedAutoImplicit false

namespace OverlayGateway.Ip

/-! ### Numbers -/

theorem readOctet?_write (octet : UInt8) {rest : List Char}
    (hrest : rest.takeWhile Char.isDigit = []) :
    readOctet? (Nat.toDigits 10 octet.toNat ++ rest) = some (octet, rest) := by
  have hdigits : ∀ c ∈ Nat.toDigits 10 octet.toNat, c.isDigit = true :=
    fun c hc ↦ Nat.isDigit_of_mem_toDigits (by decide) (by decide) hc
  obtain ⟨htake, hdrop⟩ := takeWhile_digits hdigits hrest
  have hvalue : (Nat.toDigits 10 octet.toNat).foldl (fun n c ↦ n * 10 + (c.toNat - '0'.toNat)) 0 =
      octet.toNat := by
    have h := Nat.ofDigitChars_toDigits (b := 10) (n := octet.toNat) (by decide) (by decide)
    simpa only [Nat.ofDigitChars_eq_foldl, Nat.mul_comm] using h
  have hlt := octet.toNat_lt
  have hlength : (Nat.toDigits 10 octet.toNat).length ≤ 3 :=
    (Nat.length_toDigits_le_iff (by decide) (by decide)).2 (by omega)
  have hzero : ¬ ((Nat.toDigits 10 octet.toNat).head? = some '0' ∧
      1 < (Nat.toDigits 10 octet.toNat).length) := by
    rintro ⟨hhead, hlong⟩
    by_cases hn : octet.toNat = 0
    · rw [hn] at hlong
      exact absurd hlong (by decide)
    · exact head?_toDigits (by decide) (by decide) (by omega) hhead
  unfold readOctet?
  simp only [htake, hdrop, hvalue]
  rw [if_neg, UInt8.ofNat_toNat]
  rintro (hnil | hlong | hlarge | hleading)
  · exact Nat.toDigits_ne_nil hnil
  · omega
  · omega
  · exact hzero hleading

/-! ### Version 4 -/

theorem V4.toList_text (address : V4) :
    address.text.toList = Nat.toDigits 10 address.a.toNat ++ '.' ::
      (Nat.toDigits 10 address.b.toNat ++ '.' :: (Nat.toDigits 10 address.c.toNat ++ '.' ::
        Nat.toDigits 10 address.d.toNat)) := by
  simp [V4.text, Decimal.write, String.intercalate_cons_of_ne_nil]

theorem readV4?_text (address : V4) {rest : List Char}
    (hrest : rest.takeWhile Char.isDigit = []) :
    readV4? (address.text.toList ++ rest) = some (address, rest) := by
  have hdot (cs : List Char) : ('.' :: cs).takeWhile Char.isDigit = [] := rfl
  rw [V4.toList_text]
  simp [readV4?, readOctet?_write, hdot, hrest, readChar?]

theorem readV4?_whole (address : V4) : readV4? address.text.toList = some (address, []) := by
  rw [← List.append_nil address.text.toList]
  exact readV4?_text address rfl

/-! ### Groups of version 6 -/

theorem hexValue?_digitChar {d : Nat} (h : d < 16) : Text.hexValue? d.digitChar = some d := by
  have hdigits : ∀ m : Fin 16, Text.hexValue? m.val.digitChar = some m.val := by decide
  exact hdigits ⟨d, h⟩

theorem foldl_hexValue? (n : Nat) :
    (Nat.toDigits 16 n).foldl (fun n c ↦ n * 16 + (Text.hexValue? c).getD 0) 0 = n := by
  induction n using Nat.strongRecOn with
  | _ n ih =>
    rw [Nat.toDigits_eq_if (by decide)]
    split
    · rename_i hsmall
      simp [hexValue?_digitChar hsmall]
    · rename_i hlarge
      rw [List.foldl_append, ih (n / 16) (by omega)]
      simp [hexValue?_digitChar (Nat.mod_lt n (by decide))]
      omega

def isHex (c : Char) : Bool := (Text.hexValue? c).isSome

theorem readGroup?_write (group : UInt16) {rest : List Char} (hrest : rest.takeWhile isHex = []) :
    readGroup? (Nat.toDigits 16 group.toNat ++ rest) = some (group, rest) := by
  have hdigits : ∀ c ∈ Nat.toDigits 16 group.toNat, isHex c = true := by
    intro c hc
    obtain ⟨d, hd, rfl⟩ := mem_toDigits (by decide) hc
    rw [isHex, hexValue?_digitChar hd]
    rfl
  obtain ⟨htake, hdrop⟩ := takeWhile_digits hdigits hrest
  have hlt := group.toNat_lt
  have hlength : (Nat.toDigits 16 group.toNat).length ≤ 4 :=
    (Nat.length_toDigits_le_iff (by decide) (by decide)).2 (by omega)
  unfold isHex at htake hdrop
  unfold readGroup?
  simp only [htake, hdrop, foldl_hexValue?]
  rw [if_neg, UInt16.ofNat_toNat]
  rintro (hnil | hlong)
  · exact Nat.toDigits_ne_nil hnil
  · omega

/-- The groups with a colon in front of each. -/
def tailChars (groups : List UInt16) : List Char :=
  groups.flatMap fun group ↦ ':' :: Nat.toDigits 16 group.toNat

theorem toList_groupsText (group : UInt16) (groups : List UInt16) :
    (groupsText (group :: groups)).toList = Nat.toDigits 16 group.toNat ++ tailChars groups := by
  induction groups generalizing group with
  | nil => simp [groupsText, tailChars]
  | cons next groups ih =>
    have h := ih next
    unfold groupsText at h ⊢
    rw [List.map_cons, String.intercalate_cons_of_ne_nil (by simp), String.toList_append,
      String.toList_append, h]
    simp [tailChars]

theorem readV4?_eq_none {cs : List Char} (h : (cs.dropWhile Char.isDigit).head? ≠ some '.') :
    readV4? cs = none := by
  have hdot : readChar? '.' (cs.dropWhile Char.isDigit) = none := by
    cases hcs : cs.dropWhile Char.isDigit with
    | nil => rfl
    | cons c rest =>
      rw [hcs] at h
      exact if_neg fun hc ↦ h (congrArg some hc)
  unfold readV4?
  cases hoctet : readOctet? cs with
  | none => rfl
  | some read =>
    have hrest : read.2 = cs.dropWhile Char.isDigit := by
      unfold readOctet? at hoctet
      dsimp only at hoctet
      split at hoctet
      · cases hoctet
      · cases hoctet
        rfl
    simp [hrest, hdot]

/-! ### Texts of version 6 -/

/-- What may follow groups: nothing, or the place of the groups that are left out. -/
def Stops (rest : List Char) : Prop := rest = [] ∨ ∃ more, rest = ':' :: ':' :: more

theorem Stops.takeWhile {rest : List Char} (h : Stops rest) {isPart : Char → Bool}
    (hcolon : isPart ':' = false) (groups : List UInt16) :
    (tailChars groups ++ rest).takeWhile isPart = [] := by
  cases groups with
  | nil =>
    rcases h with rfl | ⟨more, rfl⟩
    · rfl
    · simp [tailChars, hcolon]
  | cons group groups => simp [tailChars, hcolon]

theorem readGroups_of_stops (limit : Nat) (first : Bool) {rest : List Char} (h : Stops rest) :
    readGroups limit first rest = ([], false, rest) := by
  cases limit with
  | zero => rfl
  | succ limit =>
    rcases h with rfl | ⟨more, rfl⟩
    · cases first <;> simp [readGroups, readSeparator?, readChar?, readV4?, readOctet?, readGroup?]
    · cases first <;>
        simp [readGroups, readSeparator?, readChar?, readV4?, readOctet?, readGroup?,
          Text.hexValue?]

theorem head?_tailChars_append {rest : List Char} (h : Stops rest) (groups : List UInt16) :
    (tailChars groups ++ rest).head? ≠ some '.' := by
  cases groups with
  | nil => rcases h with rfl | ⟨more, rfl⟩ <;> simp [tailChars]
  | cons group groups => simp [tailChars]

/-- A group that is not followed by a dot does not begin a version 4 address. -/
theorem readV4?_group (group : UInt16) {rest : List Char}
    (hstart : rest.takeWhile Char.isDigit = []) (hdot : rest.head? ≠ some '.') :
    readV4? (Nat.toDigits 16 group.toNat ++ rest) = none := by
  have hdigits : ∀ c ∈ Nat.toDigits 16 group.toNat, c ≠ '.' := by
    intro c hc
    obtain ⟨d, hd, rfl⟩ := mem_toDigits (by decide) hc
    have hall : ∀ m : Fin 16, m.val.digitChar ≠ '.' := by decide
    exact hall ⟨d, hd⟩
  refine readV4?_eq_none ?_
  generalize Nat.toDigits 16 group.toNat = digits at hdigits ⊢
  induction digits with
  | nil =>
    have hdrop := List.takeWhile_append_dropWhile (p := Char.isDigit) (l := rest)
    rw [hstart, List.nil_append] at hdrop
    rwa [List.nil_append, hdrop]
  | cons c cs ih =>
    rw [List.forall_mem_cons] at hdigits
    rw [List.cons_append, List.dropWhile_cons]
    split
    · exact ih hdigits.2
    · exact fun h ↦ hdigits.1 (Option.some.inj h)

/-- One group is read, and then the ones after it. -/
theorem readGroups_group {limit : Nat} {first : Bool} {cs rest : List Char} {group : UInt16}
    (hseparator : readSeparator? first cs = some (Nat.toDigits 16 group.toNat ++ rest))
    (hhex : rest.takeWhile isHex = []) (hdigit : rest.takeWhile Char.isDigit = [])
    (hdot : rest.head? ≠ some '.') :
    readGroups (limit + 1) first cs =
      (group :: (readGroups limit false rest).1, (readGroups limit false rest).2) := by
  have hv4 : (if 0 < limit then (readSeparator? first cs).bind readV4? else none) = none := by
    split
    · rw [hseparator, Option.bind_some, readV4?_group group hdigit hdot]
    · rfl
  rw [readGroups, hv4, hseparator, Option.bind_some, readGroup?_write group hhex]

theorem readGroups_tailChars {rest : List Char} (h : Stops rest) {groups : List UInt16} :
    ∀ {limit : Nat}, groups.length ≤ limit →
      readGroups limit false (tailChars groups ++ rest) = (groups, false, rest) := by
  induction groups with
  | nil => exact fun {limit} _ ↦ readGroups_of_stops limit false h
  | cons group groups ih =>
    intro limit hlimit
    obtain ⟨limit, rfl⟩ : ∃ less, limit = less + 1 :=
      ⟨limit - 1, by rw [List.length_cons] at hlimit; omega⟩
    have hseparator : readSeparator? false (tailChars (group :: groups) ++ rest) =
        some (Nat.toDigits 16 group.toNat ++ (tailChars groups ++ rest)) := by
      simp [tailChars, readSeparator?, readChar?]
    rw [readGroups_group hseparator (h.takeWhile (by decide) groups)
      (h.takeWhile (by decide) groups) (head?_tailChars_append h groups),
      ih (Nat.le_of_succ_le_succ hlimit)]

theorem readGroups_groupsText {rest : List Char} (h : Stops rest) {groups : List UInt16}
    {limit : Nat} (hlimit : groups.length ≤ limit) :
    readGroups limit true ((groupsText groups).toList ++ rest) = (groups, false, rest) := by
  cases groups with
  | nil => exact readGroups_of_stops limit true h
  | cons group groups =>
    obtain ⟨limit, rfl⟩ : ∃ less, limit = less + 1 :=
      ⟨limit - 1, by rw [List.length_cons] at hlimit; omega⟩
    rw [toList_groupsText, List.append_assoc, readGroups_group rfl (h.takeWhile (by decide) groups)
      (h.takeWhile (by decide) groups) (head?_tailChars_append h groups),
      readGroups_tailChars h (Nat.le_of_succ_le_succ hlimit)]

theorem readV4?_groupsText {rest : List Char} (h : Stops rest) (groups : List UInt16) :
    readV4? ((groupsText groups).toList ++ rest) = none := by
  cases groups with
  | nil =>
    refine readV4?_eq_none ?_
    rcases h with rfl | ⟨more, rfl⟩ <;> simp [groupsText]
  | cons group groups =>
    rw [toList_groupsText, List.append_assoc]
    exact readV4?_group group (h.takeWhile (by decide) groups) (head?_tailChars_append h groups)

/-! ### The groups that are left out -/

theorem longestZeros_le (groups : List UInt16) :
    (longestZeros groups).1 + (longestZeros groups).2 ≤ groups.length := by
  induction groups with
  | nil => exact Nat.le_refl 0
  | cons group groups ih =>
    have hhere := (List.takeWhile_prefix (· == 0) (l := group :: groups)).length_le
    unfold longestZeros
    dsimp only
    split
    · simpa using hhere
    · simp only [List.length_cons]
      omega

/-- The groups that are left out are zeros. -/
theorem longestZeros_slice (groups : List UInt16) :
    (groups.drop (longestZeros groups).1).take (longestZeros groups).2 =
      List.replicate (longestZeros groups).2 0 := by
  induction groups with
  | nil => rfl
  | cons group groups ih =>
    unfold longestZeros
    dsimp only
    split
    · rw [List.drop_zero, ← List.prefix_iff_eq_take.1 (List.takeWhile_prefix _)]
      refine List.eq_replicate_of_mem fun found hfound ↦ ?_
      exact eq_of_beq (List.all_eq_true.1 List.all_takeWhile found hfound)
    · rw [List.drop_succ_cons]
      exact ih

theorem take_zeros_drop (groups : List UInt16) :
    groups.take (longestZeros groups).1 ++ List.replicate (longestZeros groups).2 0 ++
      groups.drop ((longestZeros groups).1 + (longestZeros groups).2) = groups := by
  rw [← longestZeros_slice, List.append_assoc, ← List.drop_drop, List.take_append_drop,
    List.take_append_drop]

theorem ofList?_eq_some {groups : List UInt16} {address : V6}
    (h : address.groups.toList = groups) : V6.ofList? groups = some address := by
  obtain ⟨⟨array, hsize⟩⟩ := address
  subst h
  simp [V6.ofList?, hsize]

/-- Where `count` groups are left out, zeros are read. -/
theorem readV6?_leftOut {front back : List UInt16} {count : Nat} (hcount : 0 < count)
    (hlength : front.length + count + back.length = 8) {address : V6}
    (hgroups : address.groups.toList = front ++ List.replicate count 0 ++ back) :
    readV6? ((groupsText front).toList ++ ':' :: ':' :: (groupsText back).toList) =
      some (address, []) := by
  have hback : readGroups (8 - (front.length + 1)) true (groupsText back).toList =
      (back, false, []) := by
    rw [← List.append_nil (groupsText back).toList]
    exact readGroups_groupsText (Or.inl rfl) (by omega)
  have hzeros : 8 - front.length - back.length = count := by omega
  rw [readV6?, readGroups_groupsText (Or.inr ⟨_, rfl⟩) (by omega)]
  simp only [hback, hzeros, ofList?_eq_some hgroups]
  rw [if_neg (by omega), if_neg Bool.false_ne_true]
  rfl

theorem toList_leftOut (front back : List UInt16) :
    (groupsText front ++ "::" ++ groupsText back).toList =
      (groupsText front).toList ++ ':' :: ':' :: (groupsText back).toList := by
  simp

theorem readV6?_groupedText (address : V6) :
    readV6? address.groupedText.toList = some (address, []) := by
  have hlength : address.groups.toList.length = 8 := by simp
  have hbounds := longestZeros_le address.groups.toList
  have hzeros := take_zeros_drop address.groups.toList
  unfold V6.groupedText
  dsimp only
  split
  · rename_i hcount
    rw [toList_leftOut]
    refine readV6?_leftOut (Nat.zero_lt_of_lt hcount) ?_ hzeros.symm
    rw [List.length_take, List.length_drop]
    omega
  · rw [← List.append_nil (groupsText _).toList, readV6?,
      readGroups_groupsText (Or.inl rfl) (by omega)]
    dsimp only
    rw [if_pos hlength, ofList?_eq_some rfl]
    rfl

theorem readV4?_groupedText (address : V6) : readV4? address.groupedText.toList = none := by
  unfold V6.groupedText
  dsimp only
  split
  · rw [toList_leftOut]
    exact readV4?_groupsText (Or.inr ⟨_, rfl⟩) _
  · rw [← List.append_nil (groupsText _).toList]
    exact readV4?_groupsText (Or.inl rfl) _

/-! ### Mapped addresses -/

/-- The version 6 address that maps one of version 4. -/
def V4.mapped (address : V4) : V6 :=
  ⟨⟨#[0, 0, 0, 0, 0, 0xFFFF, address.highGroup, address.lowGroup], rfl⟩⟩

theorem toNat_group (high low : UInt8) :
    (high.toUInt16 <<< 8 ||| low.toUInt16).toNat = high.toNat * 256 + low.toNat := by
  have hhigh := high.toNat_lt
  have hor := Nat.shiftLeft_add_eq_or_of_lt (i := 8) low.toNat_lt high.toNat
  have hshift : (high.toUInt16 <<< 8).toNat = high.toNat <<< 8 := by
    simp [Nat.shiftLeft_eq]
    omega
  rw [UInt16.toNat_or, hshift, UInt8.toNat_toUInt16, ← hor, Nat.shiftLeft_eq]

theorem toNat_highByte (group : UInt16) : (group >>> 8).toUInt8.toNat = group.toNat / 256 := by
  have hgroup := group.toNat_lt
  have hshift : (group >>> 8).toNat = group.toNat / 256 := by
    simp [Nat.shiftRight_eq_div_pow]
  rw [UInt16.toNat_toUInt8, hshift, Nat.mod_eq_of_lt (by omega)]

theorem group_of_bytes (group : UInt16) :
    (group >>> 8).toUInt8.toUInt16 <<< 8 ||| group.toUInt8.toUInt16 = group := by
  rw [← UInt16.toNat_inj, toNat_group, toNat_highByte, UInt16.toNat_toUInt8]
  omega

theorem bytes_of_group (high low : UInt8) :
    ((high.toUInt16 <<< 8 ||| low.toUInt16) >>> 8).toUInt8 = high ∧
      (high.toUInt16 <<< 8 ||| low.toUInt16).toUInt8 = low := by
  have hlow := low.toNat_lt
  refine ⟨UInt8.toNat_inj.1 ?_, UInt8.toNat_inj.1 ?_⟩
  · rw [toNat_highByte, toNat_group]
    omega
  · rw [UInt16.toNat_toUInt8, toNat_group]
    omega

theorem V4.ofGroups_groups (address : V4) :
    V4.ofGroups address.highGroup address.lowGroup = address := by
  obtain ⟨a, b, c, d⟩ := address
  simp only [V4.ofGroups, V4.highGroup, V4.lowGroup, bytes_of_group]

theorem V4.groups_ofGroups (high low : UInt16) :
    (V4.ofGroups high low).highGroup = high ∧ (V4.ofGroups high low).lowGroup = low :=
  ⟨group_of_bytes high, group_of_bytes low⟩

theorem V6.ext_toList {first second : V6} (h : first.groups.toList = second.groups.toList) :
    first = second := by
  obtain ⟨first⟩ := first
  obtain ⟨second⟩ := second
  rw [V6.mk.injEq]
  exact Vector.toList_inj.1 h

theorem V4.toList_mapped (address : V4) : address.mapped.groups.toList =
    [0, 0, 0, 0, 0, 0xFFFF, address.highGroup, address.lowGroup] := rfl

@[simp] theorem V6.mapped?_mapped (address : V4) : address.mapped.mapped? = some address :=
  congrArg some address.ofGroups_groups

theorem V6.mapped?_eq_some_iff {address : V6} {inner : V4} :
    address.mapped? = some inner ↔ address = inner.mapped := by
  constructor
  · intro h
    unfold V6.mapped? at h
    split at h
    · rename_i high low hgroups
      obtain ⟨hhigh, hlow⟩ := V4.groups_ofGroups high low
      rw [← Option.some.inj h]
      refine V6.ext_toList ?_
      rw [hgroups, V4.toList_mapped, hhigh, hlow]
    · cases h
  · rintro rfl
    exact mapped?_mapped inner

/-- The version 4 address stands for the last two groups. -/
theorem readGroups_mapped (address : V4) :
    readGroups 7 true ("ffff:".toList ++ address.text.toList) =
      ([0xFFFF, address.highGroup, address.lowGroup], true, []) := by
  have htext := readV4?_whole address
  have hffff : "ffff:".toList = Nat.toDigits 16 (0xFFFF : UInt16).toNat ++ [':'] := by decide
  rw [hffff, List.append_assoc, readGroups_group rfl rfl rfl (by simp)]
  simp [readGroups, readSeparator?, readChar?, htext]

theorem readV6?_mapped (address : V4) :
    readV6? ("::ffff:".toList ++ address.text.toList) = some (address.mapped, []) := by
  have hcolons : "::ffff:".toList ++ address.text.toList =
      ':' :: ':' :: ("ffff:".toList ++ address.text.toList) := rfl
  rw [hcolons, readV6?, readGroups_of_stops 8 true (Or.inr ⟨_, rfl⟩)]
  simp only [List.length_nil, Nat.zero_add, Nat.reduceSub, readGroups_mapped]
  simp [ofList?_eq_some address.toList_mapped]

/-! ### Addresses -/

theorem readV6?_text (address : V6) : readV6? address.text.toList = some (address, []) := by
  unfold V6.text
  split
  · rename_i inner hmapped
    rw [String.toList_append, readV6?_mapped, V6.mapped?_eq_some_iff.1 hmapped]
  · exact readV6?_groupedText address

theorem readV4?_text_v6 (address : V6) : readV4? address.text.toList = none := by
  unfold V6.text
  split
  · rw [String.toList_append]
    exact readV4?_eq_none (by simp)
  · exact readV4?_groupedText address

/-- The text of an address denotes it. -/
theorem Address.parse?_text (address : Address) : Address.parse? address.text = some address := by
  unfold Address.parse? readAddress?
  cases address with
  | v4 address =>
    rw [Address.text, readV4?_whole]
  | v6 address => rw [Address.text, readV4?_text_v6, readV6?_text, Option.map_some]

theorem Address.text_injective : Function.Injective Address.text := by
  intro first second h
  rw [← Option.some_inj, ← parse?_text first, h, parse?_text]

end OverlayGateway.Ip
