import ProbeTrace.Model.System

/-!
What a kernel hook records. Every hook of a task or queue tests the filter and
then makes at most one record, whose id and payload depend on the hook's
arguments and, for a suspension, on the id of the task suspended.
-/
namespace ProbeTrace

/-- An event id and, for an event with a payload, the payload. -/
abbrev EventRecord := BitVec 32 × Option (BitVec 32)

/-- prvTraceLogEvent, or prvTraceLogEventWithPayload when there is a payload. -/
def logRecord (cfg : Config) (env : External) : EventRecord → State → State
  | (id, none) => prvTraceLogEvent cfg env id
  | (id, some payload) => prvTraceLogEventWithPayload cfg env id payload

def queueRecord (base semaphore : BitVec 32) (mutex : Option (BitVec 32)) (q : Queue) :
    Option EventRecord :=
  match q.ucQueueType with
  | .base => some (base, some q.uxMessagesWaiting)
  | .binarySemaphore | .countingSemaphore => some (semaphore, some q.uxMessagesWaiting)
  | .mutex | .recursiveMutex => mutex.map fun id => (id, none)
  | .other _ => none

open TraceEvent in
/-- The record of a hook, given the ids of the tasks. -/
def hookRecord (taskId : TaskHandle → BitVec 16) : Hook → Option EventRecord
  | .taskSuspend task => some (taskSuspend, some ((taskId task).setWidth 32))
  | .taskDelay ticks => some (taskDelay, some ticks)
  | .taskDelayUntil time => some (taskDelayUntil, some time)
  | .queueSend toBack q =>
      queueRecord (if toBack then queueSend else queueSendFront) semaphoreGive
        (some mutexGive) q
  | .queueSendFailed toBack q =>
      queueRecord (if toBack then queueSendFailed else queueSendFrontFailed)
        semaphoreGiveFailed (some mutexGiveFailed) q
  | .blockingOnQueueSend toBack q =>
      queueRecord (if toBack then queueSendBlocked else queueSendFrontBlocked)
        semaphoreGiveBlocked (some mutexGiveBlocked) q
  | .queueSendFromIsr toBack q =>
      queueRecord (if toBack then queueSendFromIsr else queueSendFrontFromIsr)
        semaphoreGiveFromIsr none q
  | .queueSendFromIsrFailed toBack q =>
      queueRecord
        (if toBack then queueSendFromIsrFailed else queueSendFrontFromIsrFailed)
        semaphoreGiveFromIsrFailed none q
  | .queueReceive q => queueRecord queueReceive semaphoreTake (some mutexTake) q
  | .queueReceiveFailed q =>
      queueRecord queueReceiveFailed semaphoreTakeFailed (some mutexTakeFailed) q
  | .blockingOnQueueReceive q =>
      queueRecord queueReceiveBlocked semaphoreTakeBlocked (some mutexTakeBlocked) q
  | .queueReceiveFromIsr q =>
      queueRecord queueReceiveFromIsr semaphoreTakeFromIsr none q
  | .queueReceiveFromIsrFailed q =>
      queueRecord queueReceiveFromIsrFailed semaphoreTakeFromIsrFailed none q

/-- The ids of the tasks in a state. -/
def State.taskId (s : State) (task : TaskHandle) : BitVec 16 :=
  s.prvTraceGetTaskProbeId (some task)

/-- Make a record if there is one. -/
def logRecord? (cfg : Config) (env : External) (r : Option EventRecord) (s : State) : State :=
  match r with
  | some r => logRecord cfg env r s
  | none => s

theorem queueHook_eq (cfg : Config) (env : External) (base semaphore : BitVec 32)
    (mutex : Option (BitVec 32)) (q : Queue) (s : State) :
    queueHook cfg env base semaphore mutex q s =
      if filterGate s then logRecord? cfg env (queueRecord base semaphore mutex q) s
      else s := by
  unfold queueHook queueRecord
  cases hq : q.ucQueueType with
  | base | binarySemaphore | countingSemaphore | other _ => rfl
  | mutex | recursiveMutex => cases mutex <;> rfl

theorem Hook.run_eq (cfg : Config) (env : External) (h : Hook) (s : State) :
    h.run cfg env s =
      if filterGate s then logRecord? cfg env (hookRecord s.taskId h) s else s := by
  cases h with
  | taskSuspend _ | taskDelay _ | taskDelayUntil _ => rfl
  | queueSend _ _ | queueSendFailed _ _ | blockingOnQueueSend _ _ | queueSendFromIsr _ _
  | queueSendFromIsrFailed _ _ | queueReceive _ | queueReceiveFailed _
  | blockingOnQueueReceive _ | queueReceiveFromIsr _ | queueReceiveFromIsrFailed _ =>
      simp only [Hook.run, traceQueueSend, traceQueueSendFailed, traceBlockingOnQueueSend,
        traceQueueSendFromIsr, traceQueueSendFromIsrFailed, traceQueueReceive,
        traceQueueReceiveFailed, traceBlockingOnQueueReceive, traceQueueReceiveFromIsr,
        traceQueueReceiveFromIsrFailed, queueHook_eq, hookRecord]

/-- What holds of a state and of every record made in it holds after a hook. -/
theorem Hook.run_induction {P : State → Prop} (cfg : Config) (env : External) (h : Hook)
    {s : State} (silent : P s)
    (record : ∀ noSlot failed id payload, P (logEvent cfg env noSlot failed id payload s)) :
    P (h.run cfg env s) := by
  rw [Hook.run_eq]
  split
  · cases hookRecord s.taskId h with
    | none => exact silent
    | some r =>
        obtain ⟨id, payload⟩ := r
        cases payload with
        | none => exact record ..
        | some payload => exact record ..
  · exact silent

end ProbeTrace
