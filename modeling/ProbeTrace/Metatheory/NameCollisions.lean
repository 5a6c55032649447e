import ProbeTrace.Foundation.CrcCollisions
import ProbeTrace.Metatheory.NameHash

/-!
Which names share a probe id. Names that share one are traced under one manifest entry, and
excluding one of them excludes all: so which they are matters when names are chosen.
-/
namespace ProbeTrace

section
variable (cfg : Config)

/-- The id of a name of up to 255 bytes. -/
theorem hashTaskName_short {name : CString} (pos : 0 < name.length) (short : name.length ≤ 255)
    (st : State) : (hashTaskName cfg name st).1 = Crc.check 0x1021 0xFFFF name := by
  rw [hashTaskName_eq, nameHash_short cfg pos short]
  rfl

/-- Parts of names collide in every context or in none: what stands before and behind them in
both names neither makes them share an id nor tells them apart. -/
theorem collisions_contextual (front back : CString) {s t : CString} (pos : 0 < s.length)
    (length : s.length = t.length) (short : (front ++ s ++ back).length ≤ 255) (st : State) :
    (hashTaskName cfg (front ++ s ++ back) st).1 = (hashTaskName cfg (front ++ t ++ back) st).1 ↔
      (hashTaskName cfg s st).1 = (hashTaskName cfg t st).1 := by
  have longer : (front ++ t ++ back).length = (front ++ s ++ back).length := by
    simp only [List.length_append, length]
  have part : s.length ≤ (front ++ s ++ back).length := by
    simp only [List.length_append]
    omega
  have shortPart := Nat.le_trans part short
  rw [hashTaskName_short cfg (Nat.lt_of_lt_of_le pos part) short,
    hashTaskName_short cfg (longer ▸ Nat.lt_of_lt_of_le pos part) (longer ▸ short),
    hashTaskName_short cfg pos shortPart, hashTaskName_short cfg (length ▸ pos) (length ▸ shortPart)]
  exact Crc.check_between_iff (by decide) front back length

/-- AB and CD between Task and 7. -/
theorem collisions_contextual_task :
    (hashTaskName Config.tests ([84, 97, 115, 107] ++ [65, 66] ++ [55])
          (State.init Config.tests)).1 =
        (hashTaskName Config.tests ([84, 97, 115, 107] ++ [67, 68] ++ [55])
          (State.init Config.tests)).1 ↔
      (hashTaskName Config.tests [65, 66] (State.init Config.tests)).1 =
        (hashTaskName Config.tests [67, 68] (State.init Config.tests)).1 :=
  collisions_contextual Config.tests [84, 97, 115, 107] [55] (s := [65, 66]) (t := [67, 68])
    (by decide) rfl (by decide) (State.init Config.tests)

/-- How many names of `n` bytes have an id, and how one is found. -/
structure IdUniform (n : Nat) (id : BitVec 16) : Prop where
  count : Nat.card {name : CString // name.length = n ∧ ∀ st, (hashTaskName cfg name st).1 = id} =
    256 ^ (n - 2)
  ending : ∀ front : CString, front.length + 2 = n → ∃! back : CString, back.length = 2 ∧
    ∀ st, (hashTaskName cfg (front ++ back) st).1 = id

/-- Ids are uniform over the names of a length: each belongs to as many of them, and any
beginning has one ending of two bytes that gives it. -/
theorem ids_uniform {n : Nat} (long : 2 ≤ n) (short : n ≤ 255) (id : BitVec 16) :
    IdUniform cfg n id := by
  have value : ∀ {name : CString}, name.length = n →
      ((∀ st, (hashTaskName cfg name st).1 = id) ↔ Crc.check 0x1021 0xFFFF name = id) := by
    intro name length
    have pos : 0 < name.length := by omega
    constructor
    · intro all
      rw [← hashTaskName_short cfg pos (length ▸ short) (State.init cfg)]
      exact all _
    · intro same st
      rw [hashTaskName_short cfg pos (length ▸ short)]
      exact same
  have odd : (0x1021 : BitVec 16).getLsbD 0 = true := by decide
  constructor
  · rw [← Crc.card_check odd (k := 2) rfl long 0xFFFF id]
    refine Nat.card_congr (Equiv.subtypeEquivRight fun name => ?_)
    exact and_congr_right fun length => value length
  · intro front length
    obtain ⟨back, isEnding, only⟩ :=
      Crc.exists_unique_ending odd (k := 2) rfl 0xFFFF id front
    have whole : ∀ other : CString, other.length = 2 → (front ++ other).length = n := by
      intro other two
      rw [List.length_append, two, length]
    refine ⟨back, ⟨isEnding.1, (value (whole back isEnding.1)).mpr isEnding.2⟩, ?_⟩
    intro other isOther
    exact only other ⟨isOther.1, (value (whole other isOther.1)).mp isOther.2⟩

/-- The names of six bytes, such as Task00. -/
theorem ids_uniform_six : IdUniform Config.tests 6 0xB915 :=
  ids_uniform Config.tests (by decide) (by decide) 0xB915

end

end ProbeTrace
