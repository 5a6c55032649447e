import ProbeTrace.Foundation.CrcPolynomial
import ProbeTrace.Metatheory.NameHash

/-!
probe_id_hash as a polynomial remainder, and what follows for names that differ in few
places.
-/
namespace ProbeTrace
open Polynomial

/-! The loop. -/

theorem hashLoop_iff {cfg : Config} {mem : Nat → UInt8} {n : Nat} (short : n ≤ 255)
    {taskName : Nat} {crc result : BitVec 16} {reads : List Nat} :
    HashLoop cfg mem (UInt8.ofNat n) taskName crc reads result ↔
      reads = List.range' taskName n ∧
        result = Crc.check 0x1021 crc ((List.range' taskName n).map mem) := by
  induction n generalizing taskName crc reads with
  | zero =>
      constructor
      · intro h
        cases h with
        | done => exact ⟨rfl, rfl⟩
        | turn nonzero => exact absurd rfl nonzero
      · rintro ⟨rfl, rfl⟩
        exact .done taskName _
  | succ n ih =>
      have nonzero : UInt8.ofNat (n + 1) ≠ 0 := by
        intro zero
        have narrowed := congrArg UInt8.toNat zero
        simp only [UInt8.toNat_ofNat', UInt8.toNat_zero] at narrowed
        omega
      have counted : UInt8.ofNat (n + 1) - 1 = UInt8.ofNat n := by
        rw [UInt8.ofNat_add]
        exact UInt8.add_sub_cancel ..
      rw [List.range'_succ, List.map_cons, Crc.check, List.foldl_cons, ← probeIdHashStep_eq cfg]
      constructor
      · intro h
        generalize hl : UInt8.ofNat (n + 1) = length at h nonzero counted
        cases h with
        | done => exact absurd rfl nonzero
        | turn _ rest =>
            rw [counted] at rest
            obtain ⟨rfl, rfl⟩ := (ih (by omega)).mp rest
            exact ⟨rfl, rfl⟩
      · rintro ⟨rfl, rfl⟩
        refine .turn nonzero ?_
        rw [counted]
        exact (ih (by omega)).mpr ⟨rfl, rfl⟩

theorem generator_eq : Crc.generator (0x1021 : BitVec 16) = X ^ 16 + X ^ 12 + X ^ 5 + 1 := by
  have bits : Crc.ofRegister (0x1021 : BitVec 16) = X ^ 12 + X ^ 5 + 1 := by
    simp only [Crc.ofRegister, Crc.ofBit, Finset.sum_range_succ]
    simp
    ring
  rw [Crc.generator, bits]
  ring

/-- The hash of a string that is followed by anything. -/
theorem probeIdHash_eq (cfg : Config) {taskName : CString} (pos : 1 ≤ taskName.length)
    (short : taskName.length ≤ 255) (rest : CString) (s : State) :
    probeIdHash cfg (some (taskName ++ rest)) (UInt8.ofNat taskName.length) s =
      (Crc.bitSerial 0x1021 0xFFFF (Crc.bits taskName), s) := by
  have counter : (UInt8.ofNat taskName.length).toNat = taskName.length := by
    rw [UInt8.toNat_ofNat']
    omega
  have nonzero : (UInt8.ofNat taskName.length != 0) = true := by
    rw [bne_iff_ne]
    intro zero
    rw [zero, UInt8.toNat_zero] at counter
    omega
  have within : taskName.length ≤ (taskName ++ rest).length := by
    rw [List.length_append]
    omega
  rw [probeIdHash, Option.isSome_some, traceAssert_true, nonzero, traceAssert_true, Option.getD_some,
    counter, probeIdHashLoop_eq cfg _ within, List.take_left,
    Crc.check_eq_bitSerial (by decide)]

/-! The check. -/

/-- The hash of the string is its CRC-16/IBM-3740: the register after its bits were fed into
it, which is the remainder of the message, and what the loop computes from the bytes. -/
structure Ibm3740 (cfg : Config) (taskName : CString) (crc : BitVec 16) : Prop where
  hash : ∀ (rest : CString) (s : State),
    probeIdHash cfg (some (taskName ++ rest)) (UInt8.ofNat taskName.length) s = (crc, s)
  serial : crc = Crc.bitSerial 0x1021 0xFFFF (Crc.bits taskName)
  remainder : Crc.ofRegister crc =
    (Crc.ofRegister (0xFFFF : BitVec 16) * X ^ (8 * taskName.length) +
      Crc.ofMessage (Crc.bits taskName) * X ^ 16) %ₘ (X ^ 16 + X ^ 12 + X ^ 5 + 1)
  loop : ∀ (mem : Nat → UInt8) (p : Nat) (reads : List Nat) (result : BitVec 16),
    (∀ (i : Nat) (inside : i < taskName.length), mem (p + i) = taskName[i]) →
    (HashLoop cfg mem (UInt8.ofNat taskName.length) p 0xFFFF reads result ↔
      reads = List.range' p taskName.length ∧ result = crc)

theorem probe_id_hash_ibm3740 (cfg : Config) {taskName : CString} (pos : 1 ≤ taskName.length)
    (short : taskName.length ≤ 255) : ∃ crc, Ibm3740 cfg taskName crc := by
  refine ⟨Crc.bitSerial 0x1021 0xFFFF (Crc.bits taskName), ?_, rfl, ?_, ?_⟩
  · exact probeIdHash_eq cfg pos short
  · rw [Crc.bitSerial_remainder, Crc.dividend, Crc.length_bits, generator_eq]
  · intro mem p reads result content
    have bytes : (List.range' p taskName.length).map mem = taskName := by
      apply List.ext_getElem
      · simp
      · intro i _ inside
        simp [content i inside]
    rw [hashLoop_iff short, bytes, Crc.check_eq_bitSerial (by decide)]

theorem probe_id_hash_ibm3740_digits :
    ∃ crc, Ibm3740 Config.tests [49, 50, 51, 52, 53, 54, 55, 56, 57] crc :=
  probe_id_hash_ibm3740 Config.tests (by decide) (by decide)

/-- The ids the tests expect of the names A to D. -/
example : [[65], [66], [67], [68]].map (nameHash Config.tests) =
    [0xB915, 0x8976, 0x9957, 0xE9B0] := by
  decide

/-! Names that differ locally. -/

/-- The names differ within two adjacent bytes, or within sixteen consecutive bits. -/
def DifferLocally (s t : CString) : Prop :=
  (∃ first, ∀ i, s[i]? ≠ t[i]? → first ≤ i ∧ i < first + 2) ∨
    ∃ first, ∀ i, (Crc.bits s)[i]? ≠ (Crc.bits t)[i]? → first ≤ i ∧ i < first + 16

/-- Names such as Task00 to Task99. -/
theorem DifferLocally.middle (front back : CString) (a b c d : UInt8) :
    DifferLocally (front ++ a :: b :: back) (front ++ c :: d :: back) := by
  refine .inl ⟨front.length, ?_⟩
  intro i differ
  by_contra outside
  apply differ
  by_cases before : i < front.length
  · rw [List.getElem?_append_left before, List.getElem?_append_left before]
  · obtain ⟨j, rfl⟩ : ∃ j, i = front.length + (j + 2) := ⟨i - front.length - 2, by omega⟩
    rw [List.getElem?_append_right (by omega), List.getElem?_append_right (by omega),
      Nat.add_sub_cancel_left]
    rfl

theorem DifferLocally.window {s t : CString} (h : DifferLocally s t) :
    ∃ first, ∀ i, (Crc.bits s)[i]? ≠ (Crc.bits t)[i]? → first ≤ i ∧ i < first + 16 := by
  cases h with
  | inr bits => exact bits
  | inl bytes =>
      obtain ⟨first, window⟩ := bytes
      refine ⟨8 * first, ?_⟩
      intro i differ
      rw [Crc.bits_getElem?, Crc.bits_getElem?] at differ
      have := window (i / 8) fun same => differ (by rw [same])
      omega

theorem local_names_distinct (cfg : Config) {s t : CString} (pos : 1 ≤ s.length)
    (short : s.length ≤ 255) (length : s.length = t.length) (ne : s ≠ t)
    (near : DifferLocally s t) (st : State) :
    (probeIdHash cfg (some s) (UInt8.ofNat s.length) st).1 ≠
      (probeIdHash cfg (some t) (UInt8.ofNat t.length) st).1 := by
  have hash : ∀ n : CString, 1 ≤ n.length → n.length ≤ 255 →
      (probeIdHash cfg (some n) (UInt8.ofNat n.length) st).1 =
        Crc.bitSerial 0x1021 0xFFFF (Crc.bits n) := by
    intro n pos short
    have eq := probeIdHash_eq cfg pos short [] st
    rw [List.append_nil] at eq
    rw [eq]
  have bits : (Crc.bits s).length = (Crc.bits t).length := by
    rw [Crc.length_bits, Crc.length_bits, length]
  obtain ⟨first, window⟩ := near.window
  rw [hash s pos short, hash t (length ▸ pos) (length ▸ short)]
  exact Crc.bitSerial_window (by decide) bits (fun same => ne (Crc.bits_injective length same))
    window

/-- Task07 and Task42. -/
theorem local_names_distinct_tasks :
    (probeIdHash Config.tests (some [84, 97, 115, 107, 48, 55]) 6 (State.init Config.tests)).1 ≠
      (probeIdHash Config.tests (some [84, 97, 115, 107, 52, 50]) 6 (State.init Config.tests)).1 := by
  have near : DifferLocally [84, 97, 115, 107, 48, 55] [84, 97, 115, 107, 52, 50] :=
    DifferLocally.middle [84, 97, 115, 107] [] 48 55 52 50
  exact local_names_distinct Config.tests (s := [84, 97, 115, 107, 48, 55])
    (t := [84, 97, 115, 107, 52, 50]) (by decide) (by decide) rfl (by decide) near
    (State.init Config.tests)

end ProbeTrace
