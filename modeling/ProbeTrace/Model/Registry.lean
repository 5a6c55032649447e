import ProbeTrace.Model.Hash

/-!
The registry of probes: allocation, the slot table, exclusion by name, the task
creation hook, and enabling and disabling.
-/
namespace ProbeTrace

def isTaskExcluded (s : State) (probeId : BitVec 16) : Bool :=
  s.excludedTaskProbeIds.any (fun id => id == probeId)

def allocStorage (cfg : Config) (env : External) (sizeBytes : Nat) (s : State) :
    Option Storage × State :=
  if cfg.staticAllocation then
    if (s.nextStorageIndex + sizeBytes) % 2 ^ cfg.sizeWidth ≤ cfg.storageSize then
      (some (.probeStorage s.nextStorageIndex),
        { s with nextStorageIndex := (s.nextStorageIndex + sizeBytes) % 2 ^ cfg.sizeWidth })
    else (none, s)
  else if env.malloc then
    (some (.heap s.nextBlock), { s with nextBlock := s.nextBlock + 1 })
  else (none, s)

def allocProbe (cfg : Config) (env : External) (sizeBytes : Nat) (probeId : BitVec 32)
    (s : State) : Option Probe × State :=
  match allocStorage cfg env sizeBytes s with
  | (none, s) =>
      (none, s.prvTraceError "Failed to allocate probe storage, increase MPT_CFG_STORAGE_SIZE")
  | (some storage, s) =>
      if probeId ≠ 0 then
        let (probe, s) := s.modalityProbeInitialize env storage sizeBytes probeId
        traceAssert cfg env.initializeProbe "Failed to initialize Modality probe" s
          (fun s => (none, s)) fun s => (probe, s)
      else (none, s)

/-- xMessageBufferCreate, a fresh empty buffer or NULL. -/
def allocMessageBuffer (cfg : Config) (env : External) (s : State) : Option Nat × State :=
  if env.messageBufferCreate then
    (some s.nextBuffer,
      { s with
        nextBuffer := s.nextBuffer + 1
        messageBuffers := Function.update s.messageBuffers s.nextBuffer
          { capacity := cfg.controlPlaneBufferSize, queue := [] } })
  else (none, s)

/-- TRACE_MALLOC of the task local buffer, a fresh block or NULL. -/
def allocTaskLocalBuffer (env : External) (s : State) : Option Nat × State :=
  if env.mallocTaskBuffer then
    (some s.nextBlock, { s with nextBlock := s.nextBlock + 1 })
  else (none, s)

def errorIfNull (pointer : Option Nat) (msg : String) (s : State) : State :=
  if pointer = none then s.prvTraceError msg else s

/-- The control plane part of add_tcb_probe, for the slot that was filled. -/
def addControlPlaneBuffers (cfg : Config) (env : External) (i : Nat) (s : State) : State :=
  let (buffer, s) := allocMessageBuffer cfg env s
  let (taskLocalBuffer, s) := allocTaskLocalBuffer env s
  let s := errorIfNull buffer "Failed to allocate probe control plane message buffer" s
  let s := errorIfNull taskLocalBuffer
    "Failed to allocate probe task local control plane buffer" s
  if buffer ≠ none ∧ taskLocalBuffer ≠ none then
    s.modifyTcbProbe i fun e =>
      { e with controlMsgBuffer := buffer, taskLocalBuffer := taskLocalBuffer }
  else s

def addTcbProbe (cfg : Config) (env : External) (task : TaskHandle) (probe : Probe)
    (s : State) : State :=
  match s.getTcbProbe none with
  | some i =>
      let s := s.modalityProbeProduceSnapshot env (some probe) i
      traceAssert cfg env.produceSnapshot.isSome "Failed to produce Modality probe snapshot"
        s id fun s =>
      let s := s.modifyTcbProbe i fun e => { e with tcb := some task, probe := some probe }
      if cfg.includeControlPlaneBuffer then addControlPlaneBuffers cfg env i s else s
  | none =>
      s.prvTraceError "No more TCB probe slots available, increase MPT_CFG_MAX_PROBES"

/-- The start of prvTraceRegisterTaskProbe: the hash of the task's name becomes its
id and its filter is cleared. -/
def nameTask (cfg : Config) (task : TaskHandle) (s : State) : BitVec 16 × State :=
  let (probeId, s) := hashTaskName cfg (s.pcTaskGetName task) s
  let s := s.prvTraceSetTaskProbeId task probeId
  (probeId, s.prvTraceSetTaskFilter task 0)

/-- Up to the allocation of a probe, which an excluded task does not get. -/
def nameAndAlloc (cfg : Config) (env : External) (task : TaskHandle) (s : State) :
    Option Probe × State :=
  let (probeId, s) := nameTask cfg task s
  if isTaskExcluded s probeId then (none, s)
  else allocProbe cfg env cfg.taskProbeSize (probeId.setWidth 32) s

def placeProbeInTag (cfg : Config) (task : TaskHandle) (probe : Probe) (s : State) : State :=
  if cfg.placeProbeInTcbAppTag then s.vTaskSetApplicationTaskTag task (some probe) else s

/-- The ghost that names the probe a task was registered with. -/
def State.noteRegistered (task : TaskHandle) (probe : Probe) (s : State) : State :=
  s.modifyTcb task fun tcb => { tcb with registered := some probe }

/-- What follows when a probe was allocated. -/
def attachProbe (cfg : Config) (env : External) (task : TaskHandle) (uxPriority : BitVec 32)
    (probe : Probe) (s : State) : State :=
  let s := State.noteRegistered task probe s
  let s := addTcbProbe cfg env task probe s
  let s := placeProbeInTag cfg task probe s
  let s := s.prvTraceSetTaskFilter task 0xFFFF
  let s := s.modalityProbeRecordEvent (some probe) TraceEvent.taskCreate (some uxPriority)
  traceAssert cfg env.recordEvent "Failed to record initial task creation event" s id fun s =>
  s.exitCriticalSection

def prvTraceRegisterTaskProbe (cfg : Config) (env : External) (task : TaskHandle)
    (uxPriority : BitVec 32) (s : State) : State :=
  let s := s.enterCriticalSection
  if s.isEnabled then
    match nameAndAlloc cfg env task s with
    | (some probe, s) => attachProbe cfg env task uxPriority probe s
    | (none, s) => s.exitCriticalSection
  else s.exitCriticalSection

/-- The ghost that lists the names passed to vTraceExcludeTask. -/
def State.noteExcluded (pcName : CString) (s : State) : State :=
  { s with excludedNames := s.excludedNames ++ [pcName] }

/-- The loop of vTraceExcludeTask and the error after it. -/
def storeExcludedId (probeId : BitVec 16) (s : State) : State :=
  match s.excludedTaskProbeIds.findIdx? (fun id => id == 0) with
  | some i => { s with excludedTaskProbeIds := s.excludedTaskProbeIds.set i probeId }
  | none => s.prvTraceError
      "No more excluded task slots available, increase MPT_CFG_MAX_EXCLUDED_TASKS"

def vTraceExcludeTask (cfg : Config) (pcName : CString) (s : State) : State :=
  let s := s.enterCriticalSection
  let (probeId, s) := hashTaskName cfg pcName s
  let s := storeExcludedId probeId s
  (State.noteExcluded pcName s).exitCriticalSection

/-- What the kernel chooses for a new task: the address of its control block, the
value it leaves in the task number word, and whether the task becomes current at
once, as it may before the scheduler runs. -/
structure NewTask where
  handle : TaskHandle
  taskNumber : BitVec 32
  becomesCurrent : Bool
  deriving DecidableEq, Repr

/-- A new control block, with the name cut to configMAX_TASK_NAME_LEN - 1 bytes. -/
def State.addTask (cfg : Config) (new : NewTask) (name : CString) (s : State) : State :=
  { s with
    tcbs := Function.update s.tcbs new.handle
      { uxTaskNumber := new.taskNumber, pxTaskTag := none
        pcTaskName := name.take (cfg.maxTaskNameLen - 1) }
    tasks := new.handle :: s.tasks
    pxCurrentTcb := if new.becomesCurrent then some new.handle else s.pxCurrentTcb }

/-- xTaskCreate: the kernel fills in the control block and calls traceTASK_CREATE. -/
def xTaskCreate (cfg : Config) (env : External) (new : NewTask) (name : CString)
    (uxPriority : BitVec 32) (s : State) : State :=
  prvTraceRegisterTaskProbe cfg env new.handle uxPriority (s.addTask cfg new name)

/-- xTaskCreate for the IO task, or `none` when the kernel fails to create it. -/
def createIo (cfg : Config) (env : External) (io : Option NewTask) (s : State) : State :=
  match io with
  | some new => { xTaskCreate cfg env new cfg.ioTaskName cfg.ioTaskPriority s with
      ioTaskHandle := some new.handle }
  | none => s

/-- The block of vTraceEnable that excludes and creates the IO task. -/
def createIoTask (cfg : Config) (env : External) (io : Option NewTask) (s : State) : State :=
  let s := vTraceExcludeTask cfg cfg.ioTaskName s
  let s := createIo cfg env io s
  if s.ioTaskHandle = none then s.prvTraceError "Failed to create ModalityProbeIo task" else s

/-- The part of vTraceEnable under MPT_CFG_INCLUDE_IO_TASK. -/
def includeIoTask (cfg : Config) (env : External) (io : Option NewTask) (s : State) : State :=
  if cfg.includeIoTask && s.ioTaskHandle == none then createIoTask cfg env io s else s

def State.setEnabled (s : State) : State := { s with isEnabled := true }

def vTraceEnable (cfg : Config) (env : External) (io : Option NewTask) (s : State) : State :=
  if s.isEnabled then s
  else
    traceAssert cfg (s.prvTraceGetCurrentTaskHandle == none)
      "vTraceEnable should be called before vTaskStartScheduler()" s id fun s =>
    let s := s.enterCriticalSection
    let s := includeIoTask cfg env io s
    s.setEnabled.exitCriticalSection

def xTraceIsEnabled (s : State) : Bool := s.isEnabled

def pcTraceGetError (s : State) : Option String := s.errorMsg

/-- vTraceProbeIterator with a function that is not NULL. -/
def vTraceProbeIterator (cfg : Config) (pvIteratorFunction : Probe → State → State)
    (s : State) : State :=
  (List.range cfg.maxProbes).foldl
    (fun s i => match (s.tcbProbe i).probe with
      | some probe => pvIteratorFunction probe s
      | none => s) s

end ProbeTrace
