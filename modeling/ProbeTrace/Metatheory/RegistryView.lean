import ProbeTrace.Metatheory.Effects

/-!
The registry: the part of the state that only registration, exclusion and the
kernel's task list write. Slots are seen without their snapshots. Every function
of the library either leaves the registry alone or acts on it as one of the
functions below.
-/
namespace ProbeTrace

def TcbProbe.masked (e : TcbProbe) : TcbProbe := { e with snapshot := 0 }

structure Registry where
  slots : List TcbProbe
  tcbs : TaskHandle → Tcb
  tasks : List TaskHandle
  excludedTaskProbeIds : List (BitVec 16)
  excludedNames : List CString
  nextStorageIndex : Nat
  nextBlock : Nat
  nextBuffer : Nat
  probeIds : Probe → Option (BitVec 32)

def State.registry (s : State) : Registry where
  slots := s.tcbProbes.map TcbProbe.masked
  tcbs := s.tcbs
  tasks := s.tasks
  excludedTaskProbeIds := s.excludedTaskProbeIds
  excludedNames := s.excludedNames
  nextStorageIndex := s.nextStorageIndex
  nextBlock := s.nextBlock
  nextBuffer := s.nextBuffer
  probeIds := s.probeIds

/-! Reading the registry. -/

theorem getTcbProbe_eq (s : State) (task : Option TaskHandle) :
    s.getTcbProbe task = SlotTable.find TcbProbe.tcb s.registry.slots task := by
  simp only [State.getTcbProbe, SlotTable.find, State.registry, List.findIdx?_map]
  rfl

theorem slots_getElem? (s : State) (i : Nat) :
    s.registry.slots[i]? = s.tcbProbes[i]?.map TcbProbe.masked :=
  List.getElem?_map

theorem tcbProbe_of_slots {s : State} {i : Nat} {e : TcbProbe}
    (h : s.registry.slots[i]? = some e) : (s.tcbProbe i).masked = e := by
  rw [slots_getElem?] at h
  cases hs : s.tcbProbes[i]? with
  | none => simp [hs] at h
  | some e' => simpa [State.tcbProbe, List.getD_eq_getElem?_getD, hs] using h

theorem tcbProbe_fields {s : State} {i : Nat} {e : TcbProbe}
    (h : s.registry.slots[i]? = some e) :
    (s.tcbProbe i).tcb = e.tcb ∧ (s.tcbProbe i).probe = e.probe ∧
      (s.tcbProbe i).controlMsgBuffer = e.controlMsgBuffer ∧
      (s.tcbProbe i).taskLocalBuffer = e.taskLocalBuffer := by
  rw [← tcbProbe_of_slots h]
  exact ⟨rfl, rfl, rfl, rfl⟩

def Registry.taskId (r : Registry) (task : TaskHandle) : BitVec 16 :=
  traceReadLower16 (r.tcbs task).uxTaskNumber

def Registry.filter (r : Registry) (task : TaskHandle) : BitVec 16 :=
  traceReadUpper16 (r.tcbs task).uxTaskNumber

theorem filter_eq (s : State) (task : TaskHandle) :
    s.prvTraceGetTaskFilter (some task) = s.registry.filter task := rfl

/-! What leaves the registry alone. -/

@[simp] theorem prvTraceError_registry (msg : String) (s : State) :
    (s.prvTraceError msg).registry = s.registry := by
  rw [State.prvTraceError_eq]
  rfl

/-- A write to a slot that changes no more than its snapshot. -/
theorem modifyTcbProbe_registry {s : State} {i : Nat} {f : TcbProbe → TcbProbe}
    (hf : ∀ e, (f e).masked = e.masked) : (s.modifyTcbProbe i f).registry = s.registry := by
  have slots : (s.tcbProbes.set i (f (s.tcbProbe i))).map TcbProbe.masked =
      s.tcbProbes.map TcbProbe.masked := by
    rw [List.map_set, hf]
    by_cases hi : i < s.tcbProbes.length
    · have bound : i < (s.tcbProbes.map TcbProbe.masked).length := by simpa using hi
      have at_i : (s.tcbProbe i).masked = (s.tcbProbes.map TcbProbe.masked)[i] := by
        simp [State.tcbProbe, List.getD_eq_getElem?_getD, hi]
      rw [at_i, List.set_getElem_self]
    · exact List.set_eq_of_length_le (by simpa using hi)
  simp only [State.registry, State.modifyTcbProbe, slots]

theorem tcbProbe_masked (s : State) (i : Nat) :
    (s.tcbProbe i).masked = s.registry.slots.getD i {} := by
  rw [State.tcbProbe, List.getD_eq_getElem?_getD, List.getD_eq_getElem?_getD, slots_getElem?]
  cases s.tcbProbes[i]? <;> rfl

theorem modalityProbeProduceSnapshot_registry (env : External) (probe : Option Probe)
    (i : Nat) (s : State) :
    (s.modalityProbeProduceSnapshot env probe i).registry = s.registry := by
  unfold State.modalityProbeProduceSnapshot
  cases env.produceSnapshot with
  | none => rfl
  | some v =>
      exact modifyTcbProbe_registry (s := s.logCall (.produceSnapshot probe i (some v)))
        fun _ => rfl

theorem registry_hookEffect : HookEffect fun s t => t.registry = s.registry where
  refl _ := rfl
  trans h k := k.trans h
  enter _ := rfl
  exit _ := rfl
  error := prvTraceError_registry
  record _ _ _ _ := rfl
  produce := modalityProbeProduceSnapshot_registry
  merge _ _ _ := rfl
  switched new s := by
    unfold prvTraceSwitchedTcb
    split <;> rfl
  fault _ := rfl

theorem registry_controlEffect : ControlEffect fun s t => t.registry = s.registry where
  refl _ := rfl
  trans h k := k.trans h
  enter _ := rfl
  exit _ := rfl
  error := prvTraceError_registry
  receive _ _ _ := rfl
  send _ _ _ _ _ := rfl
  process _ _ _ := rfl
  report _ _ := rfl
  announce _ _ := rfl
  buffer _ _ := rfl
  iters _ _ := rfl
  point _ _ _ := rfl

/-! What acts on the registry. -/

namespace Registry

def exclude (cfg : Config) (pcName : CString) (r : Registry) : Registry :=
  { r with
    excludedNames := r.excludedNames ++ [pcName]
    excludedTaskProbeIds := match r.excludedTaskProbeIds.findIdx? (fun id => id == 0) with
      | some i => r.excludedTaskProbeIds.set i (nameHash cfg pcName)
      | none => r.excludedTaskProbeIds }

def modifyTcb (r : Registry) (task : TaskHandle) (f : Tcb → Tcb) : Registry :=
  { r with tcbs := Function.update r.tcbs task (f (r.tcbs task)) }

def setFilter (task : TaskHandle) (filter : BitVec 16) (r : Registry) : Registry :=
  r.modifyTcb task fun tcb =>
    { tcb with uxTaskNumber := traceWriteUpper16 tcb.uxTaskNumber filter }

def deleteTask (task : TaskHandle) (r : Registry) : Registry :=
  { r with tasks := r.tasks.erase task }

def addTask (cfg : Config) (new : NewTask) (name : CString) (r : Registry) : Registry :=
  { r with
    tcbs := Function.update r.tcbs new.handle
      { uxTaskNumber := new.taskNumber, pxTaskTag := none
        pcTaskName := name.take (cfg.maxTaskNameLen - 1) }
    tasks := new.handle :: r.tasks }

/-- The id a task gets from its name. -/
def idOf (cfg : Config) (r : Registry) (task : TaskHandle) : BitVec 16 :=
  nameHash cfg (r.tcbs task).pcTaskName

/-- The id is set and the filter cleared. -/
def nameTask (cfg : Config) (task : TaskHandle) (r : Registry) : Registry :=
  r.modifyTcb task fun tcb => { tcb with
    uxTaskNumber :=
      traceWriteUpper16 (traceWriteLower16 tcb.uxTaskNumber (r.idOf cfg task)) 0 }

/-- The storage the next probe gets. -/
def storage (cfg : Config) (r : Registry) : Storage :=
  if cfg.staticAllocation then .probeStorage r.nextStorageIndex else .heap r.nextBlock

def takeStorage (cfg : Config) (r : Registry) : Registry :=
  if cfg.staticAllocation then
    { r with nextStorageIndex := (r.nextStorageIndex + cfg.taskProbeSize) % 2 ^ cfg.sizeWidth }
  else { r with nextBlock := r.nextBlock + 1 }

def setProbeId (probe : Probe) (id : BitVec 16) (r : Registry) : Registry :=
  { r with probeIds := Function.update r.probeIds probe (some (id.setWidth 32)) }

/-- The task is named and its probe is initialized. -/
def allocate (cfg : Config) (task : TaskHandle) (r : Registry) : Registry :=
  ((r.nameTask cfg task).takeStorage cfg).setProbeId (r.storage cfg) (r.idOf cfg task)

def modifySlot (r : Registry) (i : Nat) (f : TcbProbe → TcbProbe) : Registry :=
  { r with slots := r.slots.set i (f (r.slots.getD i {})) }

def putTask (i : Nat) (task : TaskHandle) (probe : Probe) (r : Registry) : Registry :=
  r.modifySlot i fun e => { e with tcb := some task, probe := some probe }

/-- Both buffers are asked for; the slot gets them if both are there. -/
def addBuffers (env : External) (i : Nat) (r : Registry) : Registry :=
  let taken := { r with
    nextBuffer := if env.messageBufferCreate then r.nextBuffer + 1 else r.nextBuffer
    nextBlock := if env.mallocTaskBuffer then r.nextBlock + 1 else r.nextBlock }
  if env.messageBufferCreate && env.mallocTaskBuffer then
    taken.modifySlot i fun e => { e with
      controlMsgBuffer := some r.nextBuffer, taskLocalBuffer := some r.nextBlock }
  else taken

def fillSlot (cfg : Config) (env : External) (i : Nat) (task : TaskHandle) (probe : Probe)
    (r : Registry) : Registry :=
  if cfg.includeControlPlaneBuffer then (r.putTask i task probe).addBuffers env i
  else r.putTask i task probe

/-- The tag and the filter of a task that was given a probe. -/
def markTask (cfg : Config) (task : TaskHandle) (probe : Probe) (r : Registry) : Registry :=
  r.modifyTcb task fun tcb =>
    { uxTaskNumber := traceWriteUpper16 tcb.uxTaskNumber 0xFFFF
      pxTaskTag := if cfg.placeProbeInTcbAppTag then some probe else tcb.pxTaskTag
      pcTaskName := tcb.pcTaskName
      registered := some probe }

end Registry

end ProbeTrace
