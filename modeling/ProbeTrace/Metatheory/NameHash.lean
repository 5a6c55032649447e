import ProbeTrace.Model.Hash
import ProbeTrace.Model.Manifest

/-!
probe_id_hash is the check of the bytes it reads. Its length is narrowed to eight bits,
and the kernel cuts the name of a task, so that of a long name it reads the beginning
only.
-/
namespace ProbeTrace

/-! One byte. -/

/-- What the loop adds to the shifted register for the byte it computes first. -/
def tableEntry (x : BitVec 8) : BitVec 16 :=
  let y := x ^^^ (x >>> 4)
  (y.setWidth 16 <<< 12) ^^^ (y.setWidth 16 <<< 5) ^^^ y.setWidth 16

theorem tableEntry_eq (x : BitVec 8) :
    (Crc.clock (0x1021 : BitVec 16))^[8] (x.setWidth 16 <<< 8) = tableEntry x := by
  decide +kernel +revert

/-- The low half of the register only moves up. -/
theorem clock_low (x : BitVec 8) :
    (Crc.clock (0x1021 : BitVec 16))^[8] (x.setWidth 16) = x.setWidth 16 <<< 8 := by
  decide +kernel +revert

theorem charToInt_setWidth (cfg : Config) (c : UInt8) :
    (charToInt cfg c).setWidth 8 = c.toBitVec := by
  unfold charToInt
  split
  · ext i hi
    simp [BitVec.getElem_signExtend, show i < 32 by omega, hi]
  · simp

theorem probeIdHashStep_eq_table (cfg : Config) (crc : BitVec 16) (c : UInt8) :
    probeIdHashStep cfg crc c =
      (crc <<< 8) ^^^ tableEntry ((crc >>> 8).setWidth 8 ^^^ c.toBitVec) := by
  have high : ((crc.setWidth 32 >>> 8) ^^^ charToInt cfg c).setWidth 8 =
      (crc >>> 8).setWidth 8 ^^^ c.toBitVec := by
    rw [BitVec.setWidth_xor, charToInt_setWidth]
    congr 1
  unfold probeIdHashStep tableEntry
  dsimp only
  rw [high]
  generalize (crc >>> 8).setWidth 8 ^^^ c.toBitVec = x
  have folded : (x.setWidth 32 ^^^ (x.setWidth 32 >>> 4)).setWidth 8 = x ^^^ (x >>> 4) := by
    ext i hi
    simp [show 4 + i < 32 by omega, show i < 32 by omega]
  rw [folded]
  generalize x ^^^ (x >>> 4) = y
  ext i hi
  simp

/-- The two halves of the register when a byte has entered. -/
theorem feed_halves (crc : BitVec 16) (c : UInt8) : crc ^^^ Crc.feed 16 c =
    (((crc >>> 8).setWidth 8 ^^^ c.toBitVec).setWidth 16 <<< 8) ^^^
      (crc.setWidth 8).setWidth 16 := by
  unfold Crc.feed
  ext i hi
  by_cases low : i < 8
  · simp [low, hi]
  · simp [low, hi, show i - 8 < 8 by omega, show 8 + (i - 8) = i by omega,
      show i - 8 < 16 by omega]

theorem probeIdHashStep_eq (cfg : Config) (crc : BitVec 16) (c : UInt8) :
    probeIdHashStep cfg crc c = Crc.update 0x1021 crc c := by
  have low : (crc.setWidth 8).setWidth 16 <<< 8 = crc <<< 8 := by
    ext i hi
    by_cases below : i < 8
    · simp [below]
    · simp [below, show i - 8 < 8 by omega, show i - 8 < 16 by omega]
  rw [probeIdHashStep_eq_table, Crc.update, feed_halves, Crc.iterate_clock_xor, tableEntry_eq,
    clock_low, low, BitVec.xor_comm]

/-! The string. -/

/-- The loop reads the first `n` bytes, if there are as many. -/
theorem probeIdHashLoop_eq (cfg : Config) (crc : BitVec 16) {name : CString} {n : Nat}
    (within : n ≤ name.length) :
    probeIdHashLoop cfg crc name n = Crc.check 0x1021 crc (name.take n) := by
  induction name generalizing crc n with
  | nil =>
      obtain rfl : n = 0 := Nat.le_zero.mp within
      rfl
  | cons c name ih =>
      cases n with
      | zero => rfl
      | succ n =>
          rw [probeIdHashLoop, ih _ (Nat.le_of_succ_le_succ within), probeIdHashStep_eq]
          rfl

theorem strlen8_toNat (name : CString) : (strlen8 name).toNat = name.length % 256 := by
  simp [strlen8]

/-- The id of a name, by the narrowed length. -/
theorem nameHash_eq (cfg : Config) (name : CString) :
    nameHash cfg name = if HashFails cfg name then 0
      else crc16Ibm3740 (name.take (name.length % 256)) := by
  rw [nameHash, probeIdHashLoop_eq, strlen8_toNat, crc16Ibm3740]
  rw [strlen8_toNat]
  exact Nat.mod_le ..

/-- The id of a name of up to 255 bytes is the check of all of them. -/
theorem nameHash_short (cfg : Config) {name : CString} (pos : 0 < name.length)
    (short : name.length ≤ 255) : nameHash cfg name = crc16Ibm3740 name := by
  have length : name.length % 256 = name.length := Nat.mod_eq_of_lt (by omega)
  have passes : ¬ HashFails cfg name := by
    rintro ⟨-, zero⟩
    have narrowed := strlen8_toNat name
    rw [zero, length] at narrowed
    simp at narrowed
    omega
  rw [nameHash_eq, if_neg passes, length, List.take_length]

/-- The last byte of a name the kernel cuts, or whose length is narrowed, is not read. -/
theorem createdHash_last (cfg : Config) (front : CString) (c d : UInt8)
    (long : ¬ (front.length + 1 < cfg.maxTaskNameLen ∧ front.length + 1 ≤ 255)) :
    createdHash cfg (front ++ [c]) = createdHash cfg (front ++ [d]) := by
  unfold createdHash
  by_cases cut : cfg.maxTaskNameLen - 1 ≤ front.length
  · rw [List.take_append_of_le_length cut, List.take_append_of_le_length cut]
  · have whole : ∀ e : UInt8, (front ++ [e]).take (cfg.maxTaskNameLen - 1) = front ++ [e] :=
      fun e => List.take_of_length_le (by simp; omega)
    have narrowed : (front.length + 1) % 256 ≤ front.length := by omega
    have fails : HashFails cfg (front ++ [c]) ↔ HashFails cfg (front ++ [d]) := by
      simp [HashFails, strlen8]
    rw [whole, whole, nameHash_eq, nameHash_eq, List.length_append, List.length_append,
      List.length_singleton, List.length_singleton, List.take_append_of_le_length narrowed,
      List.take_append_of_le_length narrowed]
    simp only [fails]

end ProbeTrace
