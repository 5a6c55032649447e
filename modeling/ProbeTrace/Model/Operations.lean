import ProbeTrace.Foundation.Sections
import ProbeTrace.Model.ControlPlane

/-!
The operations of the library one by one, with the critical sections each goes through:
its TRACE_ENTER_CRITICAL_SECTION and TRACE_EXIT_CRITICAL_SECTION in the order in which they
are executed in a given state. A failed TRACE_ASSERT leaves the function it stands in.
-/
namespace ProbeTrace
open Sections

/-! Registration, exclusion and enabling. -/

def vTraceExcludeTaskSections : List Section := [.enter, .exit]

def prvTraceRegisterTaskProbeSections (cfg : Config) (env : External) (task : TaskHandle)
    (s : State) : List Section :=
  let s := s.enterCriticalSection
  .enter :: if s.isEnabled then
    match nameAndAlloc cfg env task s with
    | (some _, s) =>
        traceAssert cfg env.recordEvent "Failed to record initial task creation event" s
          (fun _ => []) fun _ => [.exit]
    | (none, _) => [.exit]
  else [.exit]

def createIoTaskSections (cfg : Config) (env : External) (io : Option NewTask) (s : State) :
    List Section :=
  let s' := vTraceExcludeTask cfg cfg.ioTaskName s
  vTraceExcludeTaskSections ++
    match io with
    | some new => prvTraceRegisterTaskProbeSections cfg env new.handle
        (s'.addTask cfg new cfg.ioTaskName)
    | none => []

def includeIoTaskSections (cfg : Config) (env : External) (io : Option NewTask) (s : State) :
    List Section :=
  if cfg.includeIoTask && s.ioTaskHandle == none then createIoTaskSections cfg env io s else []

def vTraceEnableSections (cfg : Config) (env : External) (io : Option NewTask) (s : State) :
    List Section :=
  if s.isEnabled then []
  else
    traceAssert cfg (s.prvTraceGetCurrentTaskHandle == none)
      "vTraceEnable should be called before vTaskStartScheduler()" s (fun _ => []) fun s =>
    let s := s.enterCriticalSection
    .enter :: (includeIoTaskSections cfg env io s ++ [.exit])

/-! The recording functions. -/

def prvTraceProduceSnapshotSections (cfg : Config) (env : External) (s : State) :
    List Section :=
  let s := s.enterCriticalSection
  .enter :: if s.isEnabled && s.currentTcb.isSome then
    let tcbProbe := s.getTcbProbe s.currentTcb
    traceAssert cfg tcbProbe.isSome "No tcb_probe_s associated with the current task (1)"
      s (fun _ => []) fun s =>
    match tcbProbe with
    | some _ =>
        traceAssert cfg env.produceSnapshot.isSome "Failed to produce Modality probe snapshot"
          s (fun _ => []) fun _ => [.exit]
    | none => [.exit]
  else [.exit]

/-- Nothing follows the dereference of a failed lookup. -/
def prvTraceMergeSnapshotSections (cfg : Config) (env : External) (s : State) : List Section :=
  let s := s.enterCriticalSection
  .enter :: if s.isEnabled && s.currentTcb.isSome && s.prevTcb.isSome then
    let curr := s.getTcbProbe s.currentTcb
    traceAssert cfg curr.isSome "No tcb_probe_s associated with the current task (2)"
      s (fun _ => []) fun s =>
    let prev := s.getTcbProbe s.prevTcb
    traceAssert cfg prev.isSome "No tcb_probe_s associated with the previous task"
      s (fun _ => []) fun s =>
    match curr, prev with
    | some _, some _ =>
        traceAssert cfg env.mergeSnapshot "Failed to merge Modality probe snapshot"
          s (fun _ => []) fun _ => [.exit]
    | _, _ => []
  else [.exit]

/-- Those of prvTraceLogEvent and prvTraceLogEventWithPayload. -/
def logEventSections (cfg : Config) (env : External) (noSlot failed : String) (s : State) :
    List Section :=
  let s := s.enterCriticalSection
  .enter :: if s.isEnabled && s.currentTcb.isSome then
    let tcbProbe := s.getTcbProbe s.currentTcb
    traceAssert cfg tcbProbe.isSome noSlot s (fun _ => []) fun s =>
    match tcbProbe with
    | some _ => traceAssert cfg env.recordEvent failed s (fun _ => []) fun _ => [.exit]
    | none => [.exit]
  else [.exit]

def prvTraceLogEventSections (cfg : Config) (env : External) : State → List Section :=
  logEventSections cfg env "No tcb_probe_s associated with the current task (3)"
    "Failed to log Modality event"

def prvTraceLogEventWithPayloadSections (cfg : Config) (env : External) :
    State → List Section :=
  logEventSections cfg env "No tcb_probe_s associated with the current task (4)"
    "Failed to log Modality event with payload"

/-! The control plane, and the two functions of the IO task. -/

def pvTraceGetControlPlaneBufferSections : List Section := [.enter, .exit]

def vTraceProcessControlPlaneMessagesSections (cfg : Config) (s : State) : List Section :=
  let s := s.enterCriticalSection
  let tcbProbe := currentTcbProbe s
  let s := s.exitCriticalSection
  [.enter, .exit] ++
    match (receiveMessage cfg tcbProbe s).1 with
    | some msg => if msg.size ≠ 0 then [.enter, .exit] else []
    | none => []

def ioTaskProbeReportIterFnSections : List Section := [.enter, .exit]

def ioTaskProbeMutatorAnnouncementIterFnSections : List Section := [.enter, .exit]

/-! The wrappers of the probe library's functions. -/

inductive PayloadType
  | i8
  | u8
  | i16
  | u16
  | i32
  | u32
  | bool
  | f32
  deriving DecidableEq, Repr

/-- mpt_record_event, mpt_record_event_with_time, and the functions that MPT_WP_API_WRAPPER
and MPT_WP_WT_API_WRAPPER define. -/
inductive MptFunction
  | recordEvent
  | recordEventWithTime
  | recordEventWithPayload (type : PayloadType)
  | recordEventWithPayloadWithTime (type : PayloadType)
  deriving DecidableEq, Repr

/-- Their common body. The wrapped function returns `err`; it works on the probe that the
caller passes, of which the library's state holds no more than the address. -/
def mptApiWrapper (err : Nat) (s : State) : Nat × State :=
  let s := s.enterCriticalSection
  (err, s.exitCriticalSection)

def mptApiWrapperSections : List Section := [.enter, .exit]

/-! All operations. -/

inductive Operation
  | enable (env : External) (io : Option NewTask)
  | disable
  | exclude (pcName : CString)
  | getBuffer
  | process (env : External)
  | register (env : External) (task : TaskHandle) (uxPriority : BitVec 32)
  | produce (env : External)
  | merge (env : External)
  | log (env : External) (id : BitVec 32)
  | logWithPayload (env : External) (id payload : BitVec 32)
  | report (w : IoWrite) (probe : Probe)
  | announce (w : IoWrite) (probe : Probe)
  | record (function : MptFunction) (err : Nat)

def Operation.run (cfg : Config) : Operation → State → State
  | .enable env io => vTraceEnable cfg env io
  | .disable => State.vTraceDisable
  | .exclude pcName => vTraceExcludeTask cfg pcName
  | .getBuffer => fun s => (pvTraceGetControlPlaneBuffer s).2
  | .process env => vTraceProcessControlPlaneMessages cfg env
  | .register env task uxPriority => prvTraceRegisterTaskProbe cfg env task uxPriority
  | .produce env => prvTraceProduceSnapshot cfg env
  | .merge env => prvTraceMergeSnapshot cfg env
  | .log env id => prvTraceLogEvent cfg env id
  | .logWithPayload env id payload => prvTraceLogEventWithPayload cfg env id payload
  | .report w probe => ioTaskProbeReportIterFn cfg w probe
  | .announce w probe => ioTaskProbeMutatorAnnouncementIterFn cfg w probe
  | .record _ err => fun s => (mptApiWrapper err s).2

def Operation.sections (cfg : Config) (s : State) : Operation → List Section
  | .enable env io => vTraceEnableSections cfg env io s
  | .disable => []
  | .exclude _ => vTraceExcludeTaskSections
  | .getBuffer => pvTraceGetControlPlaneBufferSections
  | .process _ => vTraceProcessControlPlaneMessagesSections cfg s
  | .register env task _ => prvTraceRegisterTaskProbeSections cfg env task s
  | .produce env => prvTraceProduceSnapshotSections cfg env s
  | .merge env => prvTraceMergeSnapshotSections cfg env s
  | .log env _ => prvTraceLogEventSections cfg env s
  | .logWithPayload env _ _ => prvTraceLogEventWithPayloadSections cfg env s
  | .report _ _ => ioTaskProbeReportIterFnSections
  | .announce _ _ => ioTaskProbeMutatorAnnouncementIterFnSections
  | .record _ _ => mptApiWrapperSections

end ProbeTrace
