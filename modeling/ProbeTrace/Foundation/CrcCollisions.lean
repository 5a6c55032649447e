import Mathlib
import ProbeTrace.Foundation.CrcPolynomial

/-!
Which strings have the same check. Strings of one length collide or not whatever stands before
and behind them, and every value of the register is the check of equally many strings of each
length: as many as there are beginnings, each of which has one ending of the register's width.
-/
namespace Crc
variable {w : Nat}

/-! Strings of one length. -/

/-- The start goes through the clocks of the string, and the string adds its own check. -/
theorem check_start (poly start : BitVec w) (bytes : List UInt8) :
    check poly start bytes = (clock poly)^[8 * bytes.length] start ^^^ check poly 0 bytes := by
  induction bytes generalizing start with
  | nil => exact (BitVec.xor_zero ..).symm
  | cons c bytes ih =>
      have split : update poly start c = (clock poly)^[8] start ^^^ update poly 0 c := by
        have zero : (0 : BitVec w) ^^^ feed w c = feed w c := BitVec.zero_xor
        rw [update, update, zero, iterate_clock_xor]
      have later : 8 * (c :: bytes).length = 8 * bytes.length + 8 := rfl
      calc check poly start (c :: bytes)
          = check poly (update poly start c) bytes := rfl
        _ = (clock poly)^[8 * bytes.length] (update poly start c) ^^^ check poly 0 bytes := ih _
        _ = (clock poly)^[8 * (c :: bytes).length] start ^^^
              ((clock poly)^[8 * bytes.length] (update poly 0 c) ^^^ check poly 0 bytes) := by
            rw [split, iterate_clock_xor, later, Function.iterate_add_apply, BitVec.xor_assoc]
        _ = (clock poly)^[8 * (c :: bytes).length] start ^^^ check poly 0 (c :: bytes) := by
            rw [← ih]
            rfl

/-- Whether two strings of one length collide does not depend on the start. -/
theorem check_same_iff (poly start start' : BitVec w) {s t : List UInt8}
    (length : s.length = t.length) :
    check poly start s = check poly start t ↔ check poly start' s = check poly start' t := by
  rw [check_start poly start s, check_start poly start t, check_start poly start' s,
    check_start poly start' t, length, BitVec.xor_right_inj, BitVec.xor_right_inj]

/-- Different registers stay different. -/
theorem check_start_injective {poly a b : BitVec w} (odd : poly.getLsbD 0 = true)
    {bytes : List UInt8} (same : check poly a bytes = check poly b bytes) : a = b := by
  rw [check_start poly a, check_start poly b, BitVec.xor_left_inj] at same
  have zero : (clock poly)^[8 * bytes.length] (a ^^^ b) = 0 := by
    rw [iterate_clock_xor, same, BitVec.xor_self]
    rfl
  exact BitVec.xor_eq_zero_iff.mp (iterate_clock_eq_zero odd zero)

/-- Strings of one length collide exactly when they do between others. -/
theorem check_between_iff {poly start : BitVec w} (odd : poly.getLsbD 0 = true)
    (front back : List UInt8) {s t : List UInt8} (length : s.length = t.length) :
    check poly start (front ++ s ++ back) = check poly start (front ++ t ++ back) ↔
      check poly start s = check poly start t := by
  rw [check_append, check_append poly start (front ++ t), check_append, check_append poly start front t,
    check_same_iff poly start (check poly start front) length]
  constructor
  · exact check_start_injective odd
  · intro same
    rw [same]

/-! Every value equally often. -/

def byteEquiv : UInt8 ≃ Fin 256 where
  toFun := UInt8.toFin
  invFun := UInt8.ofFin
  left_inv _ := rfl
  right_inv _ := rfl

instance finiteByte : Finite UInt8 := Finite.of_equiv _ byteEquiv.symm

theorem card_strings (n : Nat) : Nat.card {s : List UInt8 // s.length = n} = 256 ^ n := by
  have bytes : Nat.card UInt8 = 256 := by
    rw [Nat.card_congr byteEquiv, Nat.card_fin]
  calc Nat.card {s : List UInt8 // s.length = n}
      = Nat.card (Fin n → UInt8) := Nat.card_congr (Equiv.vectorEquivFin UInt8 n)
    _ = 256 ^ n := by rw [Nat.card_fun, bytes, Nat.card_fin]

/-- As many bytes as the register holds reach every value of it, each once. -/
theorem check_bijective {poly : BitVec w} (odd : poly.getLsbD 0 = true) {k : Nat}
    (width : 8 * k = w) (start : BitVec w) :
    Function.Bijective fun s : {s : List UInt8 // s.length = k} => check poly start s.1 := by
  have wide : 8 ≤ w := by
    have pos := BitVec.lt_of_getLsbD odd
    omega
  rw [Nat.bijective_iff_injective_and_card]
  constructor
  · intro s t same
    apply Subtype.ext
    by_contra ne
    have lengths := s.2.trans t.2.symm
    have bits_length : (bits s.1).length = (bits t.1).length := by
      rw [length_bits, length_bits, lengths]
    have window : ∀ i, (bits s.1)[i]? ≠ (bits t.1)[i]? → 0 ≤ i ∧ i < 0 + w := by
      intro i differ
      refine ⟨Nat.zero_le i, ?_⟩
      by_contra beyond
      refine differ ?_
      have outside : 8 * k ≤ i := by omega
      rw [List.getElem?_eq_none (by rw [length_bits, s.2]; exact outside),
        List.getElem?_eq_none (by rw [length_bits, t.2]; exact outside)]
    have distinct : bitSerial poly start (bits s.1) ≠ bitSerial poly start (bits t.1) :=
      bitSerial_window odd bits_length (fun h => ne (bits_injective lengths h)) window
    rw [← check_eq_bitSerial wide, ← check_eq_bitSerial wide] at distinct
    exact distinct same
  · have registers : Nat.card (BitVec w) = 2 ^ w := by
      rw [Nat.card_congr BitVec.equivFin.toEquiv, Nat.card_fin]
    rw [card_strings, registers, ← width, Nat.pow_mul]

/-- After any beginning, one ending of the register's width gives a value. -/
theorem exists_unique_ending {poly : BitVec w} (odd : poly.getLsbD 0 = true) {k : Nat}
    (width : 8 * k = w) (start r : BitVec w) (front : List UInt8) :
    ∃! back : List UInt8, back.length = k ∧ check poly start (front ++ back) = r := by
  obtain ⟨back, value, only⟩ := (check_bijective odd width (check poly start front)).existsUnique r
  refine ⟨back.1, ⟨back.2, (check_append ..).trans value⟩, ?_⟩
  intro other isEnding
  have same := only ⟨other, isEnding.1⟩ ((check_append ..).symm.trans isEnding.2)
  exact congrArg Subtype.val same

/-- The strings of a length with a given check, by their beginnings. -/
theorem card_check {poly : BitVec w} (odd : poly.getLsbD 0 = true) {k n : Nat}
    (width : 8 * k = w) (long : k ≤ n) (start r : BitVec w) :
    Nat.card {s : List UInt8 // s.length = n ∧ check poly start s = r} = 256 ^ (n - k) := by
  rw [← card_strings]
  refine Nat.card_congr (Equiv.ofBijective (fun s => ⟨s.1.take (n - k), ?_⟩) ⟨?_, ?_⟩)
  · rw [List.length_take, s.2.1]
    exact Nat.min_eq_left (Nat.sub_le n k)
  · intro s t same
    have front : s.1.take (n - k) = t.1.take (n - k) := congrArg Subtype.val same
    have ending : ∀ u : {s : List UInt8 // s.length = n ∧ check poly start s = r},
        (u.1.drop (n - k)).length = k ∧
          check poly start (u.1.take (n - k) ++ u.1.drop (n - k)) = r := by
      intro u
      refine ⟨?_, ?_⟩
      · rw [List.length_drop, u.2.1]
        omega
      · rw [List.take_append_drop]
        exact u.2.2
    have one := exists_unique_ending odd width start r (t.1.take (n - k))
    have back := one.unique (front ▸ ending s) (ending t)
    apply Subtype.ext
    rw [← List.take_append_drop (n - k) s.1, ← List.take_append_drop (n - k) t.1, back]
    exact congrArg (· ++ _) front
  · intro front
    obtain ⟨back, isEnding, -⟩ := exists_unique_ending odd width start r front.1
    refine ⟨⟨front.1 ++ back, ?_, isEnding.2⟩, ?_⟩
    · rw [List.length_append, front.2, isEnding.1]
      exact Nat.sub_add_cancel long
    · apply Subtype.ext
      exact List.take_left' front.2

end Crc
