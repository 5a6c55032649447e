import ProbeTrace.Model.Registry

/-!
The recording functions and the kernel trace hooks of modality_probe_freertos.h.
-/
namespace ProbeTrace

def prvTraceProduceSnapshot (cfg : Config) (env : External) (s : State) : State :=
  let s := s.enterCriticalSection
  if s.isEnabled && s.currentTcb.isSome then
    let tcbProbe := s.getTcbProbe s.currentTcb
    traceAssert cfg tcbProbe.isSome "No tcb_probe_s associated with the current task (1)"
      s id fun s =>
    match tcbProbe with
    | some i =>
        let s := s.modalityProbeProduceSnapshot env (s.tcbProbe i).probe i
        traceAssert cfg env.produceSnapshot.isSome "Failed to produce Modality probe snapshot"
          s id fun s =>
        s.exitCriticalSection
    | none => s.exitCriticalSection
  else s.exitCriticalSection

/-- Without asserts a failed lookup is dereferenced; the model only marks the fault. -/
def prvTraceMergeSnapshot (cfg : Config) (env : External) (s : State) : State :=
  let s := s.enterCriticalSection
  if s.isEnabled && s.currentTcb.isSome && s.prevTcb.isSome then
    let curr := s.getTcbProbe s.currentTcb
    traceAssert cfg curr.isSome "No tcb_probe_s associated with the current task (2)"
      s id fun s =>
    let prev := s.getTcbProbe s.prevTcb
    traceAssert cfg prev.isSome "No tcb_probe_s associated with the previous task"
      s id fun s =>
    match curr, prev with
    | some i, some j =>
        let s := s.modalityProbeMergeSnapshot (s.tcbProbe i).probe j
        traceAssert cfg env.mergeSnapshot "Failed to merge Modality probe snapshot"
          s id fun s =>
        s.exitCriticalSection
    | _, _ => { s with fault := true }
  else s.exitCriticalSection

/-- The common body of prvTraceLogEvent and prvTraceLogEventWithPayload. -/
def logEvent (cfg : Config) (env : External) (noSlot failed : String) (id' : BitVec 32)
    (payload : Option (BitVec 32)) (s : State) : State :=
  let s := s.enterCriticalSection
  if s.isEnabled && s.currentTcb.isSome then
    let tcbProbe := s.getTcbProbe s.currentTcb
    traceAssert cfg tcbProbe.isSome noSlot s id fun s =>
    match tcbProbe with
    | some i =>
        let s := s.modalityProbeRecordEvent (s.tcbProbe i).probe id' payload
        traceAssert cfg env.recordEvent failed s id fun s =>
        s.exitCriticalSection
    | none => s.exitCriticalSection
  else s.exitCriticalSection

def prvTraceLogEvent (cfg : Config) (env : External) (id : BitVec 32) : State → State :=
  logEvent cfg env "No tcb_probe_s associated with the current task (3)"
    "Failed to log Modality event" id none

def prvTraceLogEventWithPayload (cfg : Config) (env : External) (id payload : BitVec 32) :
    State → State :=
  logEvent cfg env "No tcb_probe_s associated with the current task (4)"
    "Failed to log Modality event with payload" id (some payload)

def prvTraceSwitchedTcb (pNewTcb : Option TaskHandle) (s : State) : BitVec 32 × State :=
  if s.currentTcb ≠ pNewTcb then
    (1, { s with prevTcb := s.currentTcb, currentTcb := pNewTcb })
  else (0, s)

/-- TRACE_GET_TASK_FILTER(TRACE_GET_CURRENT_TASK()) & TRACE_GET_FILTER_MASK(), the
test every hook but traceTASK_CREATE starts with. -/
def filterGate (s : State) : Bool :=
  s.prvTraceGetTaskFilter s.prvTraceGetCurrentTaskHandle &&& s.prvTraceGetFilterMask != 0

/-! The task hooks. -/

def traceTaskCreate (cfg : Config) (env : External) (pxNewTcb : Option TaskHandle)
    (uxPriority : BitVec 32) (s : State) : State :=
  match pxNewTcb with
  | some task => prvTraceRegisterTaskProbe cfg env task uxPriority s
  | none => s

def traceTaskSuspend (cfg : Config) (env : External) (pxTaskToSuspend : TaskHandle)
    (s : State) : State :=
  if filterGate s then
    prvTraceLogEventWithPayload cfg env TraceEvent.taskSuspend
      ((s.prvTraceGetTaskProbeId (some pxTaskToSuspend)).setWidth 32) s
  else s

def traceTaskDelay (cfg : Config) (env : External) (xTicksToDelay : BitVec 32)
    (s : State) : State :=
  if filterGate s then
    prvTraceLogEventWithPayload cfg env TraceEvent.taskDelay xTicksToDelay s
  else s

def traceTaskDelayUntil (cfg : Config) (env : External) (xTimeToWake : BitVec 32)
    (s : State) : State :=
  if filterGate s then
    prvTraceLogEventWithPayload cfg env TraceEvent.taskDelayUntil xTimeToWake s
  else s

/-- `uxPriority` is the priority the current control block has at this moment. -/
def traceTaskSwitchedIn (cfg : Config) (env : External) (uxPriority : BitVec 32)
    (s : State) : State :=
  if filterGate s then
    let (didSwitch, s) := prvTraceSwitchedTcb s.pxCurrentTcb s
    let s := if didSwitch ≠ 0 then prvTraceMergeSnapshot cfg env s else s
    prvTraceLogEventWithPayload cfg env TraceEvent.taskSwitchedIn uxPriority s
  else s

def traceTaskSwitchedOut (cfg : Config) (env : External) (s : State) : State :=
  if filterGate s then
    prvTraceProduceSnapshot cfg env (prvTraceLogEvent cfg env TraceEvent.taskSwitchedOut s)
  else s

/-! The queue hooks. -/

/-- ucQueueType; queueQUEUE_TYPE_SET has the value of queueQUEUE_TYPE_BASE. -/
inductive QueueType
  | base
  | mutex
  | countingSemaphore
  | binarySemaphore
  | recursiveMutex
  | other (ucQueueType : UInt8)
  deriving DecidableEq, Repr

structure Queue where
  ucQueueType : QueueType
  uxMessagesWaiting : BitVec 32
  deriving DecidableEq, Repr

/-- The common body of the queue hooks: the event for each kind of queue, where a
hook without a mutex branch passes `none`. -/
def queueHook (cfg : Config) (env : External) (base semaphore : BitVec 32)
    (mutex : Option (BitVec 32)) (pxQueue : Queue) (s : State) : State :=
  if filterGate s then
    match pxQueue.ucQueueType with
    | .base => prvTraceLogEventWithPayload cfg env base pxQueue.uxMessagesWaiting s
    | .binarySemaphore | .countingSemaphore =>
        prvTraceLogEventWithPayload cfg env semaphore pxQueue.uxMessagesWaiting s
    | .mutex | .recursiveMutex =>
        match mutex with
        | some id => prvTraceLogEvent cfg env id s
        | none => s
    | .other _ => s
  else s

open TraceEvent

/-- `toBack` is the test xCopyPosition == queueSEND_TO_BACK. -/
def traceQueueSend (cfg : Config) (env : External) (toBack : Bool) : Queue → State → State :=
  queueHook cfg env (if toBack then queueSend else queueSendFront) semaphoreGive
    (some mutexGive)

def traceQueueSendFailed (cfg : Config) (env : External) (toBack : Bool) :
    Queue → State → State :=
  queueHook cfg env (if toBack then queueSendFailed else queueSendFrontFailed)
    semaphoreGiveFailed (some mutexGiveFailed)

def traceBlockingOnQueueSend (cfg : Config) (env : External) (toBack : Bool) :
    Queue → State → State :=
  queueHook cfg env (if toBack then queueSendBlocked else queueSendFrontBlocked)
    semaphoreGiveBlocked (some mutexGiveBlocked)

def traceQueueSendFromIsr (cfg : Config) (env : External) (toBack : Bool) :
    Queue → State → State :=
  queueHook cfg env (if toBack then queueSendFromIsr else queueSendFrontFromIsr)
    semaphoreGiveFromIsr none

def traceQueueSendFromIsrFailed (cfg : Config) (env : External) (toBack : Bool) :
    Queue → State → State :=
  queueHook cfg env (if toBack then queueSendFromIsrFailed else queueSendFrontFromIsrFailed)
    semaphoreGiveFromIsrFailed none

def traceQueueReceive (cfg : Config) (env : External) : Queue → State → State :=
  queueHook cfg env queueReceive semaphoreTake (some mutexTake)

def traceQueueReceiveFailed (cfg : Config) (env : External) : Queue → State → State :=
  queueHook cfg env queueReceiveFailed semaphoreTakeFailed (some mutexTakeFailed)

def traceBlockingOnQueueReceive (cfg : Config) (env : External) : Queue → State → State :=
  queueHook cfg env queueReceiveBlocked semaphoreTakeBlocked (some mutexTakeBlocked)

def traceQueueReceiveFromIsr (cfg : Config) (env : External) : Queue → State → State :=
  queueHook cfg env queueReceiveFromIsr semaphoreTakeFromIsr none

def traceQueueReceiveFromIsrFailed (cfg : Config) (env : External) : Queue → State → State :=
  queueHook cfg env queueReceiveFromIsrFailed semaphoreTakeFromIsrFailed none

/-- A kernel hook taken outside of a context switch, with its arguments. -/
inductive Hook
  | taskSuspend (pxTaskToSuspend : TaskHandle)
  | taskDelay (xTicksToDelay : BitVec 32)
  | taskDelayUntil (xTimeToWake : BitVec 32)
  | queueSend (toBack : Bool) (pxQueue : Queue)
  | queueSendFailed (toBack : Bool) (pxQueue : Queue)
  | blockingOnQueueSend (toBack : Bool) (pxQueue : Queue)
  | queueSendFromIsr (toBack : Bool) (pxQueue : Queue)
  | queueSendFromIsrFailed (toBack : Bool) (pxQueue : Queue)
  | queueReceive (pxQueue : Queue)
  | queueReceiveFailed (pxQueue : Queue)
  | blockingOnQueueReceive (pxQueue : Queue)
  | queueReceiveFromIsr (pxQueue : Queue)
  | queueReceiveFromIsrFailed (pxQueue : Queue)
  deriving DecidableEq, Repr

def Hook.run (cfg : Config) (env : External) : Hook → State → State
  | .taskSuspend task => traceTaskSuspend cfg env task
  | .taskDelay ticks => traceTaskDelay cfg env ticks
  | .taskDelayUntil time => traceTaskDelayUntil cfg env time
  | .queueSend toBack q => traceQueueSend cfg env toBack q
  | .queueSendFailed toBack q => traceQueueSendFailed cfg env toBack q
  | .blockingOnQueueSend toBack q => traceBlockingOnQueueSend cfg env toBack q
  | .queueSendFromIsr toBack q => traceQueueSendFromIsr cfg env toBack q
  | .queueSendFromIsrFailed toBack q => traceQueueSendFromIsrFailed cfg env toBack q
  | .queueReceive q => traceQueueReceive cfg env q
  | .queueReceiveFailed q => traceQueueReceiveFailed cfg env q
  | .blockingOnQueueReceive q => traceBlockingOnQueueReceive cfg env q
  | .queueReceiveFromIsr q => traceQueueReceiveFromIsr cfg env q
  | .queueReceiveFromIsrFailed q => traceQueueReceiveFromIsrFailed cfg env q

end ProbeTrace
