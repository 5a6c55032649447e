import ProbeTrace.Foundation.Run
import ProbeTrace.Model.ControlPlane

/-!
The system the library is part of: the application, the kernel and the IO task
act in any order, each action being one call of the library, one kernel event
with the hooks it takes, or one piece of the IO task's loop body. An action
carries what the code outside of the repository contributes to it.
-/
namespace ProbeTrace

/-- The actions. The application's own events (mpt_record_event and its siblings), which go to
the probe the application passes whether tracing is on or off, change no state of the library and
are left out. -/
inductive Op
  | enable (env : External) (io : Option NewTask)
  | disable
  | exclude (pcName : CString)
  | create (env : External) (new : NewTask) (name : CString) (uxPriority : BitVec 32)
  | delete (task : TaskHandle)
  | start (env : External) (next : TaskHandle) (uxPriority : BitVec 32)
  | switch (out in' : External) (next : TaskHandle) (uxPriority : BitVec 32)
  | hook (env : External) (h : Hook)
  | setFilter (task : TaskHandle) (filter : BitVec 16)
  | ioRead (r : IoRead)
  | ioSend
  | ioReport (reports announcements : Probe → IoWrite)
  | process (env : External)
  | getBuffer

namespace State

/-- A deleted task's control block may be handed out again. -/
def deleteTask (s : State) (task : TaskHandle) : State :=
  { s with tasks := s.tasks.erase task }

def select (s : State) (next : TaskHandle) : State :=
  { s with pxCurrentTcb := some next }

end State

/-- The lone traceTASK_SWITCHED_IN of vTaskStartScheduler. -/
def startScheduler (cfg : Config) (env : External) (next : TaskHandle)
    (uxPriority : BitVec 32) (s : State) : State :=
  traceTaskSwitchedIn cfg env uxPriority { s.select next with started := true }

/-- traceTASK_SWITCHED_OUT, the choice of the next task, traceTASK_SWITCHED_IN. -/
def contextSwitch (cfg : Config) (out in' : External) (next : TaskHandle)
    (uxPriority : BitVec 32) (s : State) : State :=
  traceTaskSwitchedIn cfg in' uxPriority ((traceTaskSwitchedOut cfg out s).select next)

def step (cfg : Config) (s : State) : Op → State
  | .enable env io => vTraceEnable cfg env io s
  | .disable => s.vTraceDisable
  | .exclude pcName => vTraceExcludeTask cfg pcName s
  | .create env new name uxPriority => xTaskCreate cfg env new name uxPriority s
  | .delete task => s.deleteTask task
  | .start env next uxPriority => startScheduler cfg env next uxPriority s
  | .switch out in' next uxPriority => contextSwitch cfg out in' next uxPriority s
  | .hook env h => h.run cfg env s
  | .setFilter task filter => s.prvTraceSetTaskFilter task filter
  | .ioRead r => match s.ioPoint with
      | .read => ioRead cfg r s
      | .send _ _ _ | .report => s
  | .ioSend => ioSend cfg s
  | .ioReport reports announcements => ioReport cfg reports announcements s
  | .process env => vTraceProcessControlPlaneMessages cfg env s
  | .getBuffer => (pvTraceGetControlPlaneBuffer s).2

/-- A control block the kernel may use for a new task. -/
def NewTask.Fresh (s : State) (new : NewTask) : Prop :=
  new.handle ∉ s.tasks ∧ s.pxCurrentTcb ≠ some new.handle ∧
    (new.becomesCurrent = true → s.started = false)

instance (s : State) (new : NewTask) : Decidable (new.Fresh s) :=
  inferInstanceAs (Decidable (_ ∧ _))

/-- A read returns at most what the IO task's buffer holds. -/
def IoRead.Fits (cfg : Config) (r : IoRead) : Prop :=
  r.numBytes.toNat ≤ r.data.length ∧ r.data.length ≤ cfg.ioTaskBufferSize

instance (cfg : Config) (r : IoRead) : Decidable (r.Fits cfg) :=
  inferInstanceAs (Decidable (_ ∧ _))

/-- What the kernel and the drivers promise about an action. -/
def Op.Legal (cfg : Config) (s : State) : Op → Prop
  | .enable _ io => ∀ new ∈ io, new.Fresh s
  | .create _ new _ _ => new.Fresh s
  | .delete task => task ∈ s.tasks
  | .start _ next _ => s.started = false ∧ next ∈ s.tasks
  | .switch _ _ next _ => s.started = true ∧ next ∈ s.tasks
  | .hook _ (.taskSuspend task) => task ∈ s.tasks
  | .setFilter task _ => task ∈ s.tasks
  | .ioRead r => r.Fits cfg
  | _ => True

instance (cfg : Config) (s : State) (op : Op) : Decidable (op.Legal cfg s) :=
  match op with
  | .enable _ io => inferInstanceAs (Decidable (∀ new ∈ io, new.Fresh s))
  | .create _ new _ _ => inferInstanceAs (Decidable (new.Fresh s))
  | .delete task => inferInstanceAs (Decidable (task ∈ s.tasks))
  | .start _ next _ => inferInstanceAs (Decidable (s.started = false ∧ next ∈ s.tasks))
  | .switch _ _ next _ => inferInstanceAs (Decidable (s.started = true ∧ next ∈ s.tasks))
  | .hook _ h => match h with
      | .taskDelay _ | .taskDelayUntil _ | .queueSend _ _ | .queueSendFailed _ _
      | .blockingOnQueueSend _ _ | .queueSendFromIsr _ _ | .queueSendFromIsrFailed _ _
      | .queueReceive _ | .queueReceiveFailed _ | .blockingOnQueueReceive _
      | .queueReceiveFromIsr _ | .queueReceiveFromIsrFailed _ => isTrue trivial
      | .taskSuspend task => inferInstanceAs (Decidable (task ∈ s.tasks))
  | .setFilter task _ => inferInstanceAs (Decidable (task ∈ s.tasks))
  | .ioRead r => inferInstanceAs (Decidable (r.Fits cfg))
  | .disable | .exclude _ | .ioSend | .ioReport _ _ | .process _ | .getBuffer => isTrue trivial

def Op.IsDelete : Op → Prop
  | .delete _ => True
  | _ => False

instance (op : Op) : Decidable op.IsDelete :=
  match op with
  | .delete _ => isTrue trivial
  | .enable _ _ | .disable | .exclude _ | .create _ _ _ _ | .start _ _ _ | .switch _ _ _ _
  | .hook _ _ | .setFilter _ _ | .ioRead _ | .ioSend | .ioReport _ _ | .process _
  | .getBuffer => isFalse id

def Op.IsSetFilter : Op → Prop
  | .setFilter _ _ => True
  | _ => False

instance (op : Op) : Decidable op.IsSetFilter :=
  match op with
  | .setFilter _ _ => isTrue trivial
  | .enable _ _ | .disable | .exclude _ | .create _ _ _ _ | .delete _ | .start _ _ _
  | .switch _ _ _ _ | .hook _ _ | .ioRead _ | .ioSend | .ioReport _ _ | .process _
  | .getBuffer => isFalse id

/-- The word of a task the kernel makes is zero. -/
def Op.ZeroNumbers : Op → Prop
  | .create _ new _ _ => new.taskNumber = 0
  | .enable _ (some new) => new.taskNumber = 0
  | _ => True

instance (op : Op) : Decidable op.ZeroNumbers :=
  match op with
  | .create _ new _ _ => inferInstanceAs (Decidable (new.taskNumber = 0))
  | .enable _ (some new) => inferInstanceAs (Decidable (new.taskNumber = 0))
  | .enable _ none | .disable | .exclude _ | .delete _ | .start _ _ _ | .switch _ _ _ _
  | .hook _ _ | .setFilter _ _ | .ioRead _ | .ioSend | .ioReport _ _ | .process _
  | .getBuffer => isTrue trivial

/-- The action uses the address for a new task. -/
def Op.Creates (task : TaskHandle) : Op → Prop
  | .create _ new _ _ => new.handle = task
  | .enable _ (some new) => new.handle = task
  | _ => False

/-- A run from the initial state whose actions are legal and permitted by `ok`. -/
abbrev Reaches (cfg : Config) (ok : State → Op → Prop) (ops : List Op) (s : State) : Prop :=
  Transition.Run (step cfg) (fun s op => op.Legal cfg s ∧ ok s op) (State.init cfg) ops s

end ProbeTrace
