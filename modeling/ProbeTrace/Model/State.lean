import ProbeTrace.Foundation.MessageBuffer
import ProbeTrace.Foundation.SlotTable
import ProbeTrace.Model.Config

/-!
The data of modality_probe_trace.c and of what it calls: the library's static
variables, the kernel's task control blocks, the message buffers, and the probe
library seen through the calls made to it. Pointers are options, with `none` for
NULL. Fields named as ghosts are not in the program; they record history that
the theorems speak about and no modelled function reads.
-/
namespace ProbeTrace

/-- The address of a task control block. -/
abbrev TaskHandle := Nat

/-- Where a probe lives: an offset into g_probe_storage or a heap block. -/
inductive Storage
  | probeStorage (offset : Nat)
  | heap (block : Nat)
  deriving DecidableEq, Repr

/-- A probe pointer is the address the probe was initialized at. -/
abbrev Probe := Storage

/-- The contents of a modality_probe_causal_snapshot, opaque to the library. -/
abbrev Snapshot := Nat

/-- A control message. The read it came from and the destination reported for it
are ghosts. -/
structure Message where
  bytes : List UInt8
  read : Nat
  destination : BitVec 32
  deriving DecidableEq, Repr

def Message.size (m : Message) : Nat := m.bytes.length

/-- tcb_probe_s -/
structure TcbProbe where
  tcb : Option TaskHandle := none
  probe : Option Probe := none
  snapshot : Snapshot := 0
  controlMsgBuffer : Option Nat := none
  taskLocalBuffer : Option Nat := none
  deriving DecidableEq, Repr

/-- What the library uses of a task control block. The probe its registration
allocated is a ghost. -/
structure Tcb where
  uxTaskNumber : BitVec 32 := 0
  pxTaskTag : Option Probe := none
  pcTaskName : CString := []
  registered : Option Probe := none

/-- The calls that the tracing functions make to the probe library; those of mpt_record_event
and its siblings, in which the application records events of its own, are left out. A probe
argument is the pointer passed; the slot is the one whose snapshot field is passed. -/
inductive Call
  | initializeProbe (storage : Storage) (size : Nat) (probeId : BitVec 32)
  | produceSnapshot (probe : Option Probe) (slot : Nat) (result : Option Snapshot)
  | mergeSnapshot (probe : Option Probe) (slot : Nat) (snapshot : Snapshot)
  | recordEvent (probe : Option Probe) (id : BitVec 32) (payload : Option (BitVec 32))
  | processControlMessage (probe : Option Probe) (msg : Message)
  | report (probe : Probe)
  | announceMutators (probe : Probe)
  deriving DecidableEq, Repr

/-- Where the IO task stands in its loop body. -/
inductive IoPoint
  | read
  | send (target : BitVec 32) (numBytes : Nat) (i : Nat)
  | report
  deriving DecidableEq, Repr

structure State where
  isEnabled : Bool
  errorMsg : Option String
  filterMask : BitVec 16
  currentTcb : Option TaskHandle
  prevTcb : Option TaskHandle
  tcbProbes : List TcbProbe
  excludedTaskProbeIds : List (BitVec 16)
  nextStorageIndex : Nat
  ioTaskHandle : Option TaskHandle
  ioBuffer : List UInt8
  ioPoint : IoPoint
  iters : BitVec 16
  -- the kernel
  tcbs : TaskHandle → Tcb
  pxCurrentTcb : Option TaskHandle
  tasks : List TaskHandle
  started : Bool
  nextBlock : Nat
  nextBuffer : Nat
  messageBuffers : Nat → MessageBuffer Message
  criticalNesting : Int
  -- the probe library
  probeIds : Probe → Option (BitVec 32)
  calls : List Call
  -- ghosts
  errors : List String
  excludedNames : List CString
  reads : Nat
  sends : List (Nat × Message × Bool)
  fault : Bool

/-- The static initial values, before anything has run. -/
def State.init (cfg : Config) : State where
  isEnabled := false
  errorMsg := none
  filterMask := 0xFFFF
  currentTcb := none
  prevTcb := none
  tcbProbes := List.replicate cfg.maxProbes {}
  excludedTaskProbeIds := List.replicate cfg.maxExcludedTasks 0
  nextStorageIndex := 0
  ioTaskHandle := none
  ioBuffer := List.replicate cfg.ioTaskBufferSize 0
  ioPoint := .read
  iters := 0
  tcbs := fun _ => {}
  pxCurrentTcb := none
  tasks := []
  started := false
  nextBlock := 0
  nextBuffer := 0
  messageBuffers := fun _ => { capacity := 0, queue := [] }
  criticalNesting := 0
  probeIds := fun _ => none
  calls := []
  errors := []
  excludedNames := []
  reads := 0
  sends := []
  fault := false

/-- What the calls leaving the library return during one operation. Each call
site is reached at most once in an operation. -/
structure External where
  malloc : Bool := true
  initializeProbe : Bool := true
  produceSnapshot : Option Snapshot := some 0
  mergeSnapshot : Bool := true
  recordEvent : Bool := true
  messageBufferCreate : Bool := true
  mallocTaskBuffer : Bool := true
  processControlMessage : Bool := true

/-- All of them succeed. -/
def External.Succeeds (env : External) : Prop :=
  env.malloc = true ∧ env.initializeProbe = true ∧ env.produceSnapshot.isSome = true ∧
    env.mergeSnapshot = true ∧ env.recordEvent = true ∧ env.messageBufferCreate = true ∧
    env.mallocTaskBuffer = true ∧ env.processControlMessage = true

instance (env : External) : Decidable env.Succeeds :=
  inferInstanceAs (Decidable (_ ∧ _))

namespace State

/-! Operations of the kernel and of the probe library. -/

def enterCriticalSection (s : State) : State :=
  { s with criticalNesting := s.criticalNesting + 1 }

def exitCriticalSection (s : State) : State :=
  { s with criticalNesting := s.criticalNesting - 1 }

@[simp] theorem enter_isEnabled (s : State) :
    s.enterCriticalSection.isEnabled = s.isEnabled := rfl

@[simp] theorem enter_currentTcb (s : State) :
    s.enterCriticalSection.currentTcb = s.currentTcb := rfl

@[simp] theorem enter_prevTcb (s : State) : s.enterCriticalSection.prevTcb = s.prevTcb := rfl

@[simp] theorem exit_enterCriticalSection (s : State) :
    s.enterCriticalSection.exitCriticalSection = s := by
  simp [enterCriticalSection, exitCriticalSection]

def uxTaskGetTaskNumber (s : State) : Option TaskHandle → BitVec 32
  | some task => (s.tcbs task).uxTaskNumber
  | none => 0

def modifyTcb (s : State) (task : TaskHandle) (f : Tcb → Tcb) : State :=
  { s with tcbs := Function.update s.tcbs task (f (s.tcbs task)) }

def vTaskSetTaskNumber (s : State) (task : TaskHandle) (uxHandle : BitVec 32) : State :=
  s.modifyTcb task fun tcb => { tcb with uxTaskNumber := uxHandle }

def pcTaskGetName (s : State) (task : TaskHandle) : CString :=
  (s.tcbs task).pcTaskName

def vTaskSetApplicationTaskTag (s : State) (task : TaskHandle) (tag : Option Probe) : State :=
  s.modifyTcb task fun tcb => { tcb with pxTaskTag := tag }

def tcbProbe (s : State) (i : Nat) : TcbProbe := s.tcbProbes.getD i {}

def modifyTcbProbe (s : State) (i : Nat) (f : TcbProbe → TcbProbe) : State :=
  { s with tcbProbes := s.tcbProbes.set i (f (s.tcbProbe i)) }

def logCall (s : State) (c : Call) : State := { s with calls := s.calls ++ [c] }

/-- modality_probe_initialize; a successful call leaves the id in the probe. -/
def modalityProbeInitialize (env : External) (storage : Storage) (size : Nat)
    (probeId : BitVec 32) (s : State) : Option Probe × State :=
  let s := s.logCall (.initializeProbe storage size probeId)
  if env.initializeProbe then
    (some storage, { s with probeIds := Function.update s.probeIds storage (some probeId) })
  else (none, s)

/-- modality_probe_produce_snapshot into the snapshot field of slot `i`. -/
def modalityProbeProduceSnapshot (env : External) (probe : Option Probe) (i : Nat)
    (s : State) : State :=
  let s := s.logCall (.produceSnapshot probe i env.produceSnapshot)
  match env.produceSnapshot with
  | some v => s.modifyTcbProbe i fun e => { e with snapshot := v }
  | none => s

/-- modality_probe_merge_snapshot of the snapshot field of slot `i`. -/
def modalityProbeMergeSnapshot (probe : Option Probe) (i : Nat) (s : State) : State :=
  s.logCall (.mergeSnapshot probe i (s.tcbProbe i).snapshot)

/-- modality_probe_record_event, or with a payload
modality_probe_record_event_with_payload. -/
def modalityProbeRecordEvent (probe : Option Probe) (id : BitVec 32)
    (payload : Option (BitVec 32)) (s : State) : State :=
  s.logCall (.recordEvent probe id payload)

/-! Enabling, errors and the accessors of the task number word. -/

def vTraceDisable (s : State) : State := { s with isEnabled := false }

def prvTraceError (msg : String) (s : State) : State :=
  let s := s.vTraceDisable
  let s := if s.errorMsg = none then { s with errorMsg := some msg } else s
  { s with errors := s.errors ++ [msg] }

@[simp] theorem prvTraceError_errors (msg : String) (s : State) :
    (s.prvTraceError msg).errors = s.errors ++ [msg] := by
  unfold prvTraceError vTraceDisable
  dsimp only
  split <;> rfl

@[simp] theorem prvTraceError_isEnabled (msg : String) (s : State) :
    (s.prvTraceError msg).isEnabled = false := by
  unfold prvTraceError vTraceDisable
  dsimp only
  split <;> rfl

@[simp] theorem prvTraceError_errorMsg (msg : String) (s : State) :
    (s.prvTraceError msg).errorMsg = s.errorMsg.or (some msg) := by
  unfold prvTraceError vTraceDisable
  cases s.errorMsg <;> simp

@[simp] theorem prvTraceError_calls (msg : String) (s : State) :
    (s.prvTraceError msg).calls = s.calls := by
  unfold prvTraceError vTraceDisable
  dsimp only
  split <;> rfl

/-- Everything else is as it was. -/
theorem prvTraceError_eq (msg : String) (s : State) :
    s.prvTraceError msg = { s with
      isEnabled := false, errorMsg := s.errorMsg.or (some msg), errors := s.errors ++ [msg] } := by
  unfold prvTraceError vTraceDisable
  cases s.errorMsg <;> simp

def prvTraceGetFilterMask (s : State) : BitVec 16 := s.filterMask

def prvTraceGetCurrentTaskHandle (s : State) : Option TaskHandle := s.pxCurrentTcb

def prvTraceGetTaskProbeId (s : State) (task : Option TaskHandle) : BitVec 16 :=
  traceReadLower16 (s.uxTaskGetTaskNumber task)

def prvTraceSetTaskProbeId (task : TaskHandle) (probeId : BitVec 16) (s : State) : State :=
  s.vTaskSetTaskNumber task (traceWriteLower16 (s.uxTaskGetTaskNumber (some task)) probeId)

def prvTraceGetTaskFilter (s : State) (task : Option TaskHandle) : BitVec 16 :=
  traceReadUpper16 (s.uxTaskGetTaskNumber task)

def prvTraceSetTaskFilter (task : TaskHandle) (filter : BitVec 16) (s : State) : State :=
  s.vTaskSetTaskNumber task (traceWriteUpper16 (s.uxTaskGetTaskNumber (some task)) filter)

/-- get_tcb_probe; a NULL task matches the first free slot. -/
def getTcbProbe (s : State) (task : Option TaskHandle) : Option Nat :=
  SlotTable.find TcbProbe.tcb s.tcbProbes task

end State

/-- TRACE_ASSERT(eval, msg, ret). When asserts are compiled in, a false `eval`
records the error and leaves the function by `ret`; otherwise `k` continues. -/
def traceAssert {α : Type} (cfg : Config) (eval : Bool) (msg : String) (s : State)
    (ret k : State → α) : α :=
  if cfg.useTraceAssert && !eval then ret (s.prvTraceError ("TRACE_ASSERT: " ++ msg))
  else k s

theorem traceAssert_true {α : Type} (cfg : Config) (msg : String) (s : State)
    (ret k : State → α) : traceAssert cfg true msg s ret k = k s := by
  simp [traceAssert]

theorem traceAssert_cases {α : Type} (cfg : Config) (eval : Bool) (msg : String) (s : State)
    (ret k : State → α) :
    (cfg.useTraceAssert = true ∧ eval = false ∧
      traceAssert cfg eval msg s ret k = ret (s.prvTraceError ("TRACE_ASSERT: " ++ msg))) ∨
    ((cfg.useTraceAssert = true → eval = true) ∧ traceAssert cfg eval msg s ret k = k s) := by
  cases ha : cfg.useTraceAssert <;> cases eval <;> simp [traceAssert, ha]

/-- What holds of both continuations of an assert holds of the assert. -/
theorem traceAssert_induction {α : Type} {P : α → Prop} {cfg : Config} {eval : Bool}
    {msg : String} {s : State} {ret k : State → α}
    (failed : cfg.useTraceAssert = true → eval = false →
      P (ret (s.prvTraceError ("TRACE_ASSERT: " ++ msg))))
    (passed : (cfg.useTraceAssert = true → eval = true) → P (k s)) :
    P (traceAssert cfg eval msg s ret k) := by
  rcases traceAssert_cases cfg eval msg s ret k with ⟨ha, he, h⟩ | ⟨ha, h⟩
  · rw [h]
    exact failed ha he
  · rw [h]
    exact passed ha

end ProbeTrace
