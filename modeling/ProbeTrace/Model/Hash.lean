import ProbeTrace.Model.State

/-!
probe_id_hash, with C's integer promotions written out: an `int` is a 32-bit
vector, an assignment to a narrower type truncates, and a `char` is extended by
its sign where the platform's char is signed.
-/
namespace ProbeTrace

def charToInt (cfg : Config) (c : UInt8) : BitVec 32 :=
  if cfg.charIsSigned then c.toBitVec.signExtend 32 else c.toBitVec.setWidth 32

/-- The body of the loop in probe_id_hash. -/
def probeIdHashStep (cfg : Config) (crc : BitVec 16) (c : UInt8) : BitVec 16 :=
  let x : BitVec 8 := ((crc.setWidth 32 >>> 8) ^^^ charToInt cfg c).setWidth 8
  let x : BitVec 8 := (x.setWidth 32 ^^^ (x.setWidth 32 >>> 4)).setWidth 8
  ((crc.setWidth 32 <<< 8) ^^^ ((x.setWidth 32 <<< 12).setWidth 16).setWidth 32 ^^^
    ((x.setWidth 32 <<< 5).setWidth 16).setWidth 32 ^^^ (x.setWidth 16).setWidth 32).setWidth 16

/-- The loop; past the string it would read the terminating NUL. -/
def probeIdHashLoop (cfg : Config) : BitVec 16 → CString → Nat → BitVec 16
  | crc, _, 0 => crc
  | crc, [], n + 1 => probeIdHashLoop cfg (probeIdHashStep cfg crc 0) [] n
  | crc, c :: name, n + 1 => probeIdHashLoop cfg (probeIdHashStep cfg crc c) name n

/-- The loop as it runs: the eight-bit counter, the address read next, the register, then
the addresses read and the result. -/
inductive HashLoop (cfg : Config) (mem : Nat → UInt8) :
    UInt8 → Nat → BitVec 16 → List Nat → BitVec 16 → Prop
  | done (taskName : Nat) (crc : BitVec 16) : HashLoop cfg mem 0 taskName crc [] crc
  | turn {length : UInt8} {taskName : Nat} {crc result : BitVec 16} {reads : List Nat} :
      length ≠ 0 →
      HashLoop cfg mem (length - 1) (taskName + 1) (probeIdHashStep cfg crc (mem taskName))
        reads result →
      HashLoop cfg mem length taskName crc (taskName :: reads) result

def probeIdHash (cfg : Config) (taskName : Option CString) (length : UInt8) (s : State) :
    BitVec 16 × State :=
  traceAssert cfg taskName.isSome "Task name must not be NULL" s (fun s => (0, s)) fun s =>
  traceAssert cfg (length != 0) "Task name length == 0" s (fun s => (0, s)) fun s =>
  (probeIdHashLoop cfg 0xFFFF (taskName.getD []) length.toNat, s)

/-- STRLEN narrowed to the uint8_t parameter. -/
def strlen8 (name : CString) : UInt8 := UInt8.ofNat name.length

/-- The call `probe_id_hash(name, STRLEN(name))`. -/
def hashTaskName (cfg : Config) (name : CString) (s : State) : BitVec 16 × State :=
  probeIdHash cfg (some name) (strlen8 name) s

/-- The assert on the length fails: it is compiled in and the narrowed length is 0. -/
def HashFails (cfg : Config) (name : CString) : Prop :=
  cfg.useTraceAssert = true ∧ strlen8 name = 0

instance (cfg : Config) (name : CString) : Decidable (HashFails cfg name) :=
  inferInstanceAs (Decidable (_ ∧ _))

/-- The id of a name, which does not depend on the state. -/
def nameHash (cfg : Config) (name : CString) : BitVec 16 :=
  if HashFails cfg name then 0
  else probeIdHashLoop cfg 0xFFFF name (strlen8 name).toNat

/-- The hash of the name the kernel keeps of a creation name. -/
def createdHash (cfg : Config) (name : CString) : BitVec 16 :=
  nameHash cfg (name.take (cfg.maxTaskNameLen - 1))

theorem hashTaskName_eq (cfg : Config) (name : CString) (s : State) :
    hashTaskName cfg name s =
      (nameHash cfg name,
        if HashFails cfg name then
          s.prvTraceError ("TRACE_ASSERT: " ++ "Task name length == 0")
        else s) := by
  unfold hashTaskName probeIdHash nameHash HashFails
  rw [Option.isSome_some, traceAssert_true]
  unfold traceAssert
  by_cases ha : cfg.useTraceAssert = true <;> by_cases h : strlen8 name = 0 <;>
    simp [ha, h]

theorem hashTaskName_passes {cfg : Config} {name : CString} (h : ¬ HashFails cfg name)
    (s : State) : hashTaskName cfg name s = (nameHash cfg name, s) := by
  rw [hashTaskName_eq, if_neg h]

end ProbeTrace
