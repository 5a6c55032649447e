import Mathlib
import ProbeTrace.Foundation.Crc

/-!
What a check means: a register holds a polynomial over the field of two elements, one
clock multiplies it by X, and the check of a message is the remainder of the message by
the generator. Checks of messages that differ within one register's width differ when
the generator is not divisible by X.
-/
namespace Crc
open Polynomial
variable {w : Nat}

/-! Messages, bit by bit. -/

/-- The register after one bit of the message came in. -/
def clockBit (poly crc : BitVec w) (b : Bool) : BitVec w :=
  (crc <<< 1) ^^^ if crc.msb ^^ b then poly else 0

def bitSerial (poly start : BitVec w) (bits : List Bool) : BitVec w :=
  bits.foldl (clockBit poly) start

/-- The bits of a byte, the most significant one first. -/
def byteBits (c : UInt8) : List Bool := [7, 6, 5, 4, 3, 2, 1, 0].map c.toBitVec.getLsbD

def bits (bytes : List UInt8) : List Bool := bytes.flatMap byteBits

/-! Polynomials. -/

noncomputable def ofBit (b : Bool) : (ZMod 2)[X] := if b then 1 else 0

/-- Bit `i` is the coefficient of the `i`th power. -/
noncomputable def ofRegister (v : BitVec w) : (ZMod 2)[X] :=
  ∑ i ∈ Finset.range w, ofBit (v.getLsbD i) * X ^ i

/-- The first bit is the coefficient of the highest power. -/
noncomputable def ofMessage (bits : List Bool) : (ZMod 2)[X] :=
  bits.foldl (fun p b => p * X + ofBit b) 0

noncomputable def generator (poly : BitVec w) : (ZMod 2)[X] := X ^ w + ofRegister poly

theorem ofBit_xor (a b : Bool) : ofBit (a ^^ b) = ofBit a + ofBit b := by
  cases a <;> cases b <;> simp [ofBit, CharTwo.add_self_eq_zero]

theorem coeff_ofBit_mul (b : Bool) (i j : Nat) :
    (ofBit b * X ^ i).coeff j = if b && decide (j = i) then 1 else 0 := by
  cases b with
  | false => simp [ofBit]
  | true => simp [ofBit, coeff_X_pow]

theorem coeff_ofRegister (v : BitVec w) (i : Nat) :
    (ofRegister v).coeff i = if v.getLsbD i then 1 else 0 := by
  simp only [ofRegister, finsetSum_coeff, coeff_ofBit_mul]
  by_cases inside : i < w
  · rw [Finset.sum_eq_single i]
    · simp
    · intro j _ ne
      simp [Ne.symm ne]
    · intro absent
      exact absurd (Finset.mem_range.mpr inside) absent
  · rw [BitVec.getLsbD_of_ge v i (Nat.not_lt.mp inside)]
    apply Finset.sum_eq_zero
    intro j mem
    have ne : i ≠ j := by
      rintro rfl
      exact inside (Finset.mem_range.mp mem)
    simp [ne]

theorem degree_ofRegister (v : BitVec w) : (ofRegister v).degree < w := by
  rw [degree_lt_iff_coeff_zero]
  intro i outside
  rw [coeff_ofRegister, BitVec.getLsbD_of_ge v i outside]
  rfl

theorem ofRegister_xor (a b : BitVec w) :
    ofRegister (a ^^^ b) = ofRegister a + ofRegister b := by
  simp only [ofRegister, BitVec.getLsbD_xor, ofBit_xor, add_mul, Finset.sum_add_distrib]

theorem ofRegister_ite (b : Bool) (v : BitVec w) :
    ofRegister (if b then v else 0) = ofBit b * ofRegister v := by
  cases b with
  | true => simp [ofBit]
  | false => simp [ofBit, ofRegister]

/-- The bit that is shifted out has left for the power `w`. -/
theorem ofRegister_shiftLeft (a : BitVec w) :
    ofRegister (a <<< 1) = X * ofRegister a + ofBit a.msb * X ^ w := by
  ext i
  rw [coeff_add, coeff_ofBit_mul, coeff_ofRegister]
  cases i with
  | zero =>
      have top : w = 0 → a.msb = false := by
        rintro rfl
        exact BitVec.msb_zero_length a
      by_cases empty : w = 0
      · simp [empty, top]
      · simp [Ne.symm empty]
  | succ i =>
      rw [coeff_X_mul, coeff_ofRegister]
      by_cases last : i + 1 = w
      · have top : a.msb = a.getLsbD i := by
          rw [BitVec.msb_eq_getLsbD_last, show w - 1 = i by omega]
        rw [top]
        cases bit : a.getLsbD i with
        | false => simp [last]
        | true => simp [last, CharTwo.add_self_eq_zero]
      · by_cases inside : i < w
        · simp [last, inside, show i + 1 < w by omega]
        · simp [last, BitVec.getLsbD_of_ge a i (by omega), show ¬ i + 1 < w by omega]

theorem monic_generator (poly : BitVec w) : (generator poly).Monic :=
  monic_X_pow_add (degree_ofRegister poly)

theorem degree_generator (poly : BitVec w) : (generator poly).degree = w := by
  rw [generator, add_comm, degree_add_eq_right_of_degree_lt, degree_X_pow]
  rw [degree_X_pow]
  exact degree_ofRegister poly

theorem ofRegister_clockBit (poly crc : BitVec w) (b : Bool) :
    ofRegister (clockBit poly crc b) =
      ofRegister crc * X + ofBit b * X ^ w + ofBit (crc.msb ^^ b) * generator poly := by
  have twice : ofBit b + ofBit (crc.msb ^^ b) = ofBit crc.msb := by
    rw [ofBit_xor, add_comm, add_assoc, CharTwo.add_self_eq_zero, add_zero]
  rw [clockBit, ofRegister_xor, ofRegister_shiftLeft, ofRegister_ite, generator, ← twice]
  ring

theorem ofRegister_clock (poly crc : BitVec w) :
    ofRegister (clock poly crc) = ofRegister crc * X + ofBit crc.msb * generator poly := by
  rw [clock, ofRegister_xor, ofRegister_shiftLeft, ofRegister_ite, generator]
  ring

/-! Congruence. -/

theorem modByMonic_ofRegister (poly v : BitVec w) :
    ofRegister v %ₘ generator poly = ofRegister v := by
  rw [modByMonic_eq_self_iff (monic_generator poly), degree_generator]
  exact degree_ofRegister v

theorem ofRegister_injective {a b : BitVec w} (same : ofRegister a = ofRegister b) : a = b := by
  apply BitVec.eq_of_getLsbD_eq
  intro i _
  have coeff := congrArg (fun p => p.coeff i) same
  simp only [coeff_ofRegister] at coeff
  cases ha : a.getLsbD i <;> cases hb : b.getLsbD i <;> simp [ha, hb] at coeff ⊢

/-- A register congruent to a polynomial is its remainder. -/
theorem ofRegister_eq_remainder {poly v : BitVec w} {p : (ZMod 2)[X]}
    (congruent : generator poly ∣ ofRegister v - p) : ofRegister v = p %ₘ generator poly := by
  rw [← modByMonic_ofRegister poly v]
  exact modByMonic_eq_of_dvd_sub (monic_generator poly) congruent

theorem register_ext {poly a b : BitVec w} {p : (ZMod 2)[X]}
    (ha : generator poly ∣ ofRegister a - p) (hb : generator poly ∣ ofRegister b - p) : a = b :=
  ofRegister_injective ((ofRegister_eq_remainder ha).trans (ofRegister_eq_remainder hb).symm)

/-! The remainder of a message. -/

theorem ofMessage_append_singleton (bits : List Bool) (b : Bool) :
    ofMessage (bits ++ [b]) = ofMessage bits * X + ofBit b := by
  rw [ofMessage, List.foldl_append]
  rfl

/-- The polynomial the register holds the remainder of. -/
noncomputable def dividend (start : BitVec w) (bits : List Bool) : (ZMod 2)[X] :=
  ofRegister start * X ^ bits.length + ofMessage bits * X ^ w

theorem bitSerial_congruent (poly start : BitVec w) (bits : List Bool) :
    generator poly ∣ ofRegister (bitSerial poly start bits) - dividend start bits := by
  induction bits using List.reverseRecOn with
  | nil =>
      have same : dividend start [] = ofRegister start := by
        simp [dividend, ofMessage]
      rw [same, bitSerial, List.foldl_nil, sub_self]
      exact dvd_zero _
  | append_singleton bits b ih =>
      have next : bitSerial poly start (bits ++ [b]) = clockBit poly (bitSerial poly start bits) b := by
        rw [bitSerial, List.foldl_append]
        rfl
      have split : ofRegister (bitSerial poly start (bits ++ [b])) - dividend start (bits ++ [b]) =
          (ofRegister (bitSerial poly start bits) - dividend start bits) * X +
            ofBit ((bitSerial poly start bits).msb ^^ b) * generator poly := by
        rw [next, ofRegister_clockBit, dividend, dividend, ofMessage_append_singleton,
          List.length_append, List.length_singleton]
        ring
      rw [split]
      exact dvd_add (dvd_mul_of_dvd_left ih X) (dvd_mul_left _ _)

/-- The register ends with the remainder of the message. -/
theorem bitSerial_remainder (poly start : BitVec w) (bits : List Bool) :
    ofRegister (bitSerial poly start bits) = dividend start bits %ₘ generator poly :=
  ofRegister_eq_remainder (bitSerial_congruent poly start bits)

/-! Bytes. -/

theorem ofRegister_feed (wide : 8 ≤ w) (c : UInt8) :
    ofRegister (feed w c) * X ^ 8 = ofMessage (byteBits c) * X ^ w := by
  have byte : ofMessage (byteBits c) = ofRegister c.toBitVec := by
    simp only [byteBits, List.map_cons, List.map_nil, ofMessage, List.foldl_cons, List.foldl_nil,
      ofRegister, Finset.sum_range_succ, Finset.sum_range_zero]
    ring
  have raised : ofRegister (feed w c) = ofRegister c.toBitVec * X ^ (w - 8) := by
    ext i
    rw [coeff_ofRegister, coeff_mul_X_pow', feed]
    by_cases high : w - 8 ≤ i
    · rw [if_pos high, coeff_ofRegister]
      by_cases inside : i < w
      · simp [inside, show ¬ i < w - 8 by omega]
      · simp [inside, BitVec.getLsbD_of_ge c.toBitVec (i - (w - 8)) (by omega)]
    · simp [show i < w - 8 by omega, high]
  rw [byte, raised, mul_assoc, ← pow_add, show w - 8 + 8 = w by omega]

theorem iterate_clock_congruent (poly v : BitVec w) (n : Nat) :
    generator poly ∣ ofRegister ((clock poly)^[n] v) - ofRegister v * X ^ n := by
  induction n with
  | zero => simp
  | succ n ih =>
      have split : ofRegister ((clock poly)^[n + 1] v) - ofRegister v * X ^ (n + 1) =
          (ofRegister ((clock poly)^[n] v) - ofRegister v * X ^ n) * X +
            ofBit ((clock poly)^[n] v).msb * generator poly := by
        rw [Function.iterate_succ_apply', ofRegister_clock]
        ring
      rw [split]
      exact dvd_add (dvd_mul_of_dvd_left ih X) (dvd_mul_left _ _)

/-- A byte that enters at once is the same as its bits one by one. -/
theorem update_eq_bitSerial (wide : 8 ≤ w) (poly crc : BitVec w) (c : UInt8) :
    update poly crc c = bitSerial poly crc (byteBits c) := by
  apply register_ext (iterate_clock_congruent poly (crc ^^^ feed w c) 8)
  have dividend : ofRegister (crc ^^^ feed w c) * X ^ 8 = dividend crc (byteBits c) := by
    rw [ofRegister_xor, add_mul, ofRegister_feed wide]
    rfl
  rw [dividend]
  exact bitSerial_congruent poly crc (byteBits c)

theorem check_eq_bitSerial (wide : 8 ≤ w) (poly start : BitVec w) (bytes : List UInt8) :
    check poly start bytes = bitSerial poly start (bits bytes) := by
  induction bytes generalizing start with
  | nil => rfl
  | cons c bytes ih =>
      rw [check, List.foldl_cons, bits, List.flatMap_cons, bitSerial, List.foldl_append]
      rw [update_eq_bitSerial wide]
      exact ih (bitSerial poly start (byteBits c))

theorem length_bits (bytes : List UInt8) : (bits bytes).length = 8 * bytes.length := by
  induction bytes with
  | nil => rfl
  | cons c bytes ih =>
      have cons : bits (c :: bytes) = byteBits c ++ bits bytes := rfl
      have eight : (byteBits c).length = 8 := rfl
      rw [cons, List.length_append, ih, eight, List.length_cons]
      ring

theorem byteBits_injective {c d : UInt8} (same : byteBits c = byteBits d) : c = d := by
  apply UInt8.toBitVec_inj.mp
  apply BitVec.eq_of_getLsbD_eq
  simp only [byteBits, List.map_cons, List.map_nil, List.cons.injEq, and_true] at same
  intro i inside
  interval_cases i <;> simp only [same]

theorem bits_injective {s t : List UInt8} (length : s.length = t.length)
    (same : bits s = bits t) : s = t := by
  induction s generalizing t with
  | nil => exact (List.length_eq_zero_iff.mp length.symm).symm
  | cons c s ih =>
      cases t with
      | nil => cases length
      | cons d t =>
          have halves := List.append_inj same rfl
          rw [byteBits_injective halves.1, ih (Nat.succ.inj length) halves.2]

theorem bits_getElem? (bytes : List UInt8) (i : Nat) :
    (bits bytes)[i]? = bytes[i / 8]?.bind fun c => (byteBits c)[i % 8]? := by
  induction bytes generalizing i with
  | nil => rfl
  | cons c bytes ih =>
      have cons : bits (c :: bytes) = byteBits c ++ bits bytes := rfl
      have eight : (byteBits c).length = 8 := rfl
      rw [cons]
      by_cases first : i < 8
      · rw [List.getElem?_append_left (by rwa [eight]), Nat.div_eq_of_lt first,
          Nat.mod_eq_of_lt first]
        rfl
      · rw [List.getElem?_append_right (by omega), ih, eight]
        rw [show i / 8 = (i - 8) / 8 + 1 by omega, show i % 8 = (i - 8) % 8 by omega]
        rfl

/-! Messages that differ within a window. -/

theorem coeff_ofMessage (bits : List Bool) (i : Nat) :
    (ofMessage bits).coeff i = if bits.reverse.getD i false then 1 else 0 := by
  induction bits using List.reverseRecOn generalizing i with
  | nil => simp [ofMessage]
  | append_singleton bits b ih =>
      rw [ofMessage_append_singleton, coeff_add, List.reverse_append]
      cases i with
      | zero => cases b <;> simp [ofBit]
      | succ i =>
          rw [coeff_mul_X, ih]
          cases b <;> simp [ofBit, coeff_one]

theorem isCoprime_generator_X {poly : BitVec w} (odd : poly.getLsbD 0 = true) :
    IsCoprime (generator poly) X := by
  have pos : w ≠ 0 := (BitVec.lt_of_getLsbD odd).ne'
  have constant : (generator poly).coeff 0 = 1 := by
    rw [generator, coeff_add, coeff_ofRegister, odd, coeff_X_pow, if_neg (Ne.symm pos)]
    simp
  refine ⟨1, -divX (generator poly), ?_⟩
  have split := divX_mul_X_add (generator poly)
  rw [constant] at split
  calc 1 * generator poly + -divX (generator poly) * X
      = (divX (generator poly) * X + C 1) - divX (generator poly) * X := by rw [split]; ring
    _ = 1 := by simp

/-- A nonzero polynomial whose powers lie within a window has a nonzero remainder. -/
theorem not_dvd_window {poly : BitVec w} (odd : poly.getLsbD 0 = true) {p : (ZMod 2)[X]}
    (nonzero : p ≠ 0) (low : Nat) (window : ∀ i, p.coeff i ≠ 0 → low ≤ i ∧ i < low + w) :
    ¬ generator poly ∣ p * X ^ w := by
  intro divides
  have shifted : X ^ low ∣ p := by
    rw [X_pow_dvd_iff]
    intro i below
    by_contra coeff
    exact absurd (window i coeff).1 (Nat.not_le.mpr below)
  obtain ⟨q, rfl⟩ := shifted
  have small : q.degree < w := by
    rw [degree_lt_iff_coeff_zero]
    intro i high
    by_contra coeff
    have inside := window (low + i) (by rwa [mul_comm, add_comm, coeff_mul_X_pow])
    omega
  have divides' : generator poly ∣ X ^ (low + w) * q := by
    rwa [show X ^ (low + w) * q = X ^ low * q * X ^ w by ring]
  have left := (isCoprime_generator_X odd).pow_right.dvd_of_dvd_mul_left divides'
  rw [← degree_generator poly] at small
  exact (monic_generator poly).not_dvd_of_degree_lt (right_ne_zero_of_mul nonzero) small left

theorem coeff_difference (s t : List Bool) (i : Nat) :
    (ofMessage s - ofMessage t).coeff i = 0 ↔
      s.reverse.getD i false = t.reverse.getD i false := by
  rw [coeff_sub, coeff_ofMessage, coeff_ofMessage]
  cases s.reverse.getD i false <;> cases t.reverse.getD i false <;> simp

/-- A difference of two messages, read off a coefficient. -/
theorem getElem?_ne_of_coeff {s t : List Bool} (length : s.length = t.length) {i : Nat}
    (coeff : (ofMessage s - ofMessage t).coeff i ≠ 0) :
    i < s.length ∧ s[s.length - 1 - i]? ≠ t[s.length - 1 - i]? := by
  rw [ne_eq, coeff_difference, List.getD_eq_getElem?_getD, List.getD_eq_getElem?_getD] at coeff
  by_cases inside : i < s.length
  · refine ⟨inside, ?_⟩
    rw [List.getElem?_reverse inside, List.getElem?_reverse (length ▸ inside), ← length] at coeff
    intro same
    exact coeff (by rw [same])
  · rw [List.getElem?_eq_none (by simpa using inside),
      List.getElem?_eq_none (by simpa [← length] using inside)] at coeff
    exact absurd rfl coeff

theorem ofMessage_injective {s t : List Bool} (length : s.length = t.length)
    (same : ofMessage s - ofMessage t = 0) : s = t := by
  apply List.reverse_injective
  apply List.ext_getElem (by simpa using length)
  intro i hs ht
  have coeff := (coeff_difference s t i).mp (by rw [same, coeff_zero])
  rwa [List.getD_eq_getElem _ _ hs, List.getD_eq_getElem _ _ ht] at coeff

/-- Messages that differ, and only within as many bits as the register has. -/
theorem bitSerial_window {poly start : BitVec w} (odd : poly.getLsbD 0 = true)
    {s t : List Bool} (length : s.length = t.length) (ne : s ≠ t) {first : Nat}
    (window : ∀ i, s[i]? ≠ t[i]? → first ≤ i ∧ i < first + w) :
    bitSerial poly start s ≠ bitSerial poly start t := by
  intro same
  have split : ofRegister (bitSerial poly start t) - dividend start t -
      (ofRegister (bitSerial poly start t) - dividend start s) =
        (ofMessage s - ofMessage t) * X ^ w := by
    rw [dividend, dividend, length]
    ring
  have divides : generator poly ∣ (ofMessage s - ofMessage t) * X ^ w := by
    rw [← split]
    exact dvd_sub (bitSerial_congruent poly start t) (same ▸ bitSerial_congruent poly start s)
  refine not_dvd_window odd (fun zero => ne (ofMessage_injective length zero))
    (s.length - first - w) ?_ divides
  intro i coeff
  obtain ⟨inside, differ⟩ := getElem?_ne_of_coeff length coeff
  have := window _ differ
  omega

end Crc
