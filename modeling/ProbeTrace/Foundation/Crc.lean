import Mathlib.Data.BitVec
import Mathlib.Logic.Function.Iterate

/-!
Cyclic redundancy checks without reflection, one bit at a time: at every clock the
register is shifted to the left and takes the polynomial when a one leaves it. A clock
is linear over exclusive or, and loses nothing when the polynomial is odd, so that the
last byte of a string can be told from the check.
-/
namespace Crc
variable {w : Nat}

def clock (poly crc : BitVec w) : BitVec w :=
  (crc <<< 1) ^^^ if crc.msb then poly else 0

/-- A byte enters at the high end of the register. -/
def feed (w : Nat) (c : UInt8) : BitVec w := c.toBitVec.setWidth w <<< (w - 8)

def update (poly crc : BitVec w) (c : UInt8) : BitVec w := (clock poly)^[8] (crc ^^^ feed w c)

/-- The check of a string of bytes. -/
def check (poly start : BitVec w) (bytes : List UInt8) : BitVec w :=
  bytes.foldl (update poly) start

theorem check_append (poly start : BitVec w) (front back : List UInt8) :
    check poly start (front ++ back) = check poly (check poly start front) back :=
  List.foldl_append

/-! Linearity. -/

theorem clock_xor (poly a b : BitVec w) :
    clock poly (a ^^^ b) = clock poly a ^^^ clock poly b := by
  unfold clock
  rw [BitVec.msb_xor, BitVec.shiftLeft_xor_distrib]
  -- the polynomial goes in twice when both registers lose a one
  have taken : (if a.msb ^^ b.msb then poly else 0) =
      (if a.msb then poly else 0) ^^^ (if b.msb then poly else 0) := by
    cases a.msb <;> cases b.msb <;> simp
  rw [taken]
  ac_rfl

theorem iterate_clock_xor (poly : BitVec w) (n : Nat) (a b : BitVec w) :
    (clock poly)^[n] (a ^^^ b) = (clock poly)^[n] a ^^^ (clock poly)^[n] b := by
  induction n generalizing a b with
  | zero => rfl
  | succ n ih =>
      rw [Function.iterate_succ_apply, clock_xor, ih, ← Function.iterate_succ_apply,
        ← Function.iterate_succ_apply]

/-! An odd polynomial. -/

theorem clock_eq_zero {poly a : BitVec w} (odd : poly.getLsbD 0 = true)
    (zero : clock poly a = 0) : a = 0 := by
  have pos : 0 < w := BitVec.lt_of_getLsbD odd
  have top : a.msb = false := by
    have low := congrArg (fun v => v.getLsbD 0) zero
    cases top : a.msb with
    | false => rfl
    | true => simp [clock, top, odd] at low
  apply BitVec.eq_of_getLsbD_eq
  intro i hi
  by_cases last : i + 1 = w
  · rw [BitVec.msb_eq_getLsbD_last] at top
    rw [show i = w - 1 by omega, top]
    exact BitVec.getLsbD_zero.symm
  · have next := congrArg (fun v => v.getLsbD (i + 1)) zero
    simpa [clock, top, hi, show i + 1 < w by omega] using next

theorem iterate_clock_eq_zero {poly : BitVec w} (odd : poly.getLsbD 0 = true) {n : Nat}
    {a : BitVec w} (zero : (clock poly)^[n] a = 0) : a = 0 := by
  induction n generalizing a with
  | zero => exact zero
  | succ n ih => exact clock_eq_zero odd (ih zero)

theorem feed_injective (wide : 8 ≤ w) {c d : UInt8} (same : feed w c = feed w d) : c = d := by
  apply UInt8.toBitVec_inj.mp
  apply BitVec.eq_of_getLsbD_eq
  intro i hi
  have bit := congrArg (fun v => v.getLsbD (w - 8 + i)) same
  have high : ¬ w - 8 + i < w - 8 := by omega
  simpa [feed, high, show w - 8 + i < w by omega, show i < w by omega] using bit

/-- No two bytes take the register to the same value. -/
theorem update_injective {poly : BitVec w} (odd : poly.getLsbD 0 = true) (wide : 8 ≤ w)
    {crc : BitVec w} {c d : UInt8} (same : update poly crc c = update poly crc d) : c = d := by
  unfold update at same
  rw [iterate_clock_xor, iterate_clock_xor poly 8 crc (feed w d), BitVec.xor_right_inj] at same
  have zero : (clock poly)^[8] (feed w c ^^^ feed w d) = 0 := by
    rw [iterate_clock_xor, same, BitVec.xor_self]
    rfl
  exact feed_injective wide (BitVec.xor_eq_zero_iff.mp (iterate_clock_eq_zero odd zero))

/-- Strings that differ in the last byte alone have different checks. -/
theorem check_last {poly : BitVec w} (odd : poly.getLsbD 0 = true) (wide : 8 ≤ w)
    {start : BitVec w} {front : List UInt8} {c d : UInt8}
    (same : check poly start (front ++ [c]) = check poly start (front ++ [d])) : c = d := by
  rw [check_append, check_append] at same
  exact update_injective odd wide same

end Crc
