import ProbeTrace.Metatheory.FailedRegistration
import ProbeTrace.Metatheory.Focus
import ProbeTrace.Metatheory.RegistryCoherence
import ProbeTrace.Metatheory.Schedule

/-!
Runs in which tracing goes on: it is enabled before the first task is created and nothing
stops or disturbs it. In every state of such a run the slots, the filters and the tasks
agree, and what is known of a task stays true.
-/
namespace ProbeTrace

/-! The runs. -/

/-- The calls made to the probe library succeed. -/
def External.ProbeCallsSucceed (env : External) : Prop :=
  env.initializeProbe = true ∧ env.produceSnapshot.isSome = true ∧ env.mergeSnapshot = true ∧
    env.recordEvent = true ∧ env.processControlMessage = true

instance (env : External) : Decidable env.ProbeCallsSucceed :=
  inferInstanceAs (Decidable (_ ∧ _))

def Op.ProbeCallsSucceed : Op → Prop
  | .enable env _ | .create env _ _ _ | .start env _ _ | .hook env _ | .process env =>
      env.ProbeCallsSucceed
  | .switch out in' _ _ => out.ProbeCallsSucceed ∧ in'.ProbeCallsSucceed
  | .disable | .exclude _ | .delete _ | .setFilter _ _ | .ioRead _ | .ioSend | .ioReport _ _
  | .getBuffer => True

instance (op : Op) : Decidable op.ProbeCallsSucceed :=
  match op with
  | .enable env _ | .create env _ _ _ | .start env _ _ | .hook env _ | .process env =>
      inferInstanceAs (Decidable env.ProbeCallsSucceed)
  | .switch out in' _ _ =>
      inferInstanceAs (Decidable (out.ProbeCallsSucceed ∧ in'.ProbeCallsSucceed))
  | .disable | .exclude _ | .delete _ | .setFilter _ _ | .ioRead _ | .ioSend | .ioReport _ _
  | .getBuffer => isTrue trivial

/-- Tracing is not disabled, no task is deleted, no filter is written by the application, and
tasks are created with tracing on. -/
def Op.Continues (s : State) : Op → Prop
  | .disable | .delete _ | .setFilter _ _ => False
  | .create _ _ _ _ => s.isEnabled = true
  | .enable _ _ | .exclude _ | .start _ _ _ | .switch _ _ _ _ | .hook _ _ | .ioRead _ | .ioSend
  | .ioReport _ _ | .process _ | .getBuffer => True

instance (s : State) (op : Op) : Decidable (op.Continues s) :=
  match op with
  | .disable | .delete _ | .setFilter _ _ => isFalse id
  | .create _ _ _ _ => inferInstanceAs (Decidable (s.isEnabled = true))
  | .enable _ _ | .exclude _ | .start _ _ _ | .switch _ _ _ _ | .hook _ _ | .ioRead _ | .ioSend
  | .ioReport _ _ | .process _ | .getBuffer => isTrue trivial

/-- Besides, the kernel leaves zero in the words of new tasks, and no error is recorded. -/
structure Uninterrupted (cfg : Config) (s : State) (op : Op) : Prop where
  continues : op.Continues s
  zero : op.ZeroNumbers
  succeeds : op.ProbeCallsSucceed
  noError : (step cfg s op).errors = s.errors

instance (cfg : Config) (s : State) (op : Op) : Decidable (Uninterrupted cfg s op) :=
  decidable_of_iff (op.Continues s ∧ op.ZeroNumbers ∧ op.ProbeCallsSucceed ∧
    (step cfg s op).errors = s.errors)
    ⟨fun h => ⟨h.1, h.2.1, h.2.2.1, h.2.2.2⟩,
      fun h => ⟨h.continues, h.zero, h.succeeds, h.noError⟩⟩

namespace Op.Continues
variable {s : State} {op : Op}

theorem not_delete (h : op.Continues s) : ¬ op.IsDelete := by
  cases op with
  | delete task => exact absurd h id
  | _ => exact id

theorem not_setFilter (h : op.Continues s) : ¬ op.IsSetFilter := by
  cases op with
  | setFilter task filter => exact absurd h id
  | _ => exact id

theorem filterKept (h : op.Continues s) : FilterKept s op := by
  cases op with
  | setFilter task filter => exact absurd h id
  | _ => trivial

end Op.Continues

/-! The invariant. -/

/-- The library and the kernel agree on the tasks, and tracing is on once there are any. -/
structure Steady (cfg : Config) (s : State) : Prop where
  sound : Sound cfg s.registry
  live : Live s.registry
  coherent : Coherent cfg s.registry
  focused : Focused s
  enabled : s.isEnabled = true ∨ s.tasks = []
  mask : s.filterMask = 0xFFFF

theorem steady_init (cfg : Config) : Steady cfg (State.init cfg) where
  sound := .init cfg
  live := live_init cfg
  coherent := .init cfg
  focused := focused_init cfg
  enabled := .inr rfl
  mask := rfl

/-- A call of vTraceEnable without an error leaves tracing on. -/
theorem vTraceEnable_isEnabled {cfg : Config} {env : External} {io : Option NewTask} {s : State}
    (noError : (vTraceEnable cfg env io s).errors = s.errors) :
    (vTraceEnable cfg env io s).isEnabled = true := by
  cases vTraceEnable_cases cfg env io s with
  | inl same => rw [same.2, same.1]
  | inr off =>
      cases off with
      | inl refused =>
          obtain ⟨-, -, msg, eq⟩ := refused
          rw [eq, State.prvTraceError_errors] at noError
          exact absurd (List.append_right_eq_self.mp noError) (List.cons_ne_nil msg [])
      | inr enables =>
          rw [enables.2.2]
          rfl

theorem isEnabled_step {cfg : Config} {s : State} {op : Op} (continues : op.Continues s)
    (noError : (step cfg s op).errors = s.errors) (on : s.isEnabled = true) :
    (step cfg s op).isEnabled = true := by
  by_cases enable : op.IsEnable
  · obtain ⟨env, io, isOp⟩ := enable
    subst isOp
    exact vTraceEnable_isEnabled noError
  · cases step_latched cfg s op enable with
    | inl latched => exact (latched.errors_iff on).mp noError
    | inr disable =>
        subst disable
        exact absurd continues id

/-- A task that gets a probe without an error gets a slot. -/
theorem settles_of_noError {cfg : Config} {s : State} {op : Op} (continues : op.Continues s)
    (noError : (step cfg s op).errors = s.errors) : Settles cfg s op := by
  cases op with
  | create env new name uxPriority =>
      intro on gets
      have stays : (xTaskCreate cfg env new name uxPriority s).isEnabled = true :=
        isEnabled_step continues noError on
      cases prvTraceRegisterTaskProbe_cases cfg env new.handle uxPriority
          (s := s.addTask cfg new name) on with
      | inl found =>
          obtain ⟨i, registers⟩ := found
          exact registers.finds
      | inr unfound =>
          cases unfound with
          | inl nowhere => exact absurd (nowhere.isEnabled.symm.trans stays) Bool.false_ne_true
          | inr nothing => exact absurd gets nothing.gets
  | _ => trivial

/-- Before tracing is on there are no tasks, and only vTraceEnable makes one. -/
theorem enabled_step {cfg : Config} {s : State} {op : Op}
    (enabled : s.isEnabled = true ∨ s.tasks = []) (continues : op.Continues s)
    (noError : (step cfg s op).errors = s.errors) :
    (step cfg s op).isEnabled = true ∨ (step cfg s op).tasks = [] := by
  cases enabled with
  | inl on => exact .inl (isEnabled_step continues noError on)
  | inr none =>
      have kept : (step cfg s op).registry.tasks = s.registry.tasks →
          (step cfg s op).isEnabled = true ∨ (step cfg s op).tasks = [] :=
        fun same => .inr (same.trans none)
      cases step_registry cfg s op with
      | same registry => exact kept (congrArg Registry.tasks registry)
      | excluded pcName registry =>
          rw [registry] at kept
          exact kept rfl
      | filtered task filter isOp registry =>
          subst isOp
          exact absurd continues id
      | ioCreated env new isOp registry =>
          subst isOp
          exact .inl (vTraceEnable_isEnabled noError)
      | deleted task isOp registry =>
          subst isOp
          exact absurd continues id
      | created env new name uxPriority isOp off registry =>
          subst isOp
          exact .inl (isEnabled_step continues noError continues)
      | registersIn env new name uxPriority i isOp on outcome
      | registersNowhere env new name uxPriority isOp on outcome
      | registersNothing env new name uxPriority isOp on outcome =>
          exact .inl (isEnabled_step continues noError on)

theorem mask_step {cfg : Config} {s : State} {op : Op} (legal : op.Legal cfg s) :
    (step cfg s op).filterMask = s.filterMask := by
  cases step_scheduler legal with
  | same view => exact congrArg SchedulerView.filterMask view
  | created new creates fresh view => exact congrArg SchedulerView.filterMask view
  | selected env next uxPriority v view registry outcome =>
      obtain ⟨prev, -, after⟩ := traceTaskSwitchedIn_scheduler cfg env uxPriority v
      have unmasked : v.filterMask = s.filterMask := congrArg SchedulerView.filterMask view
      rw [outcome, ← unmasked]
      refine (congrArg SchedulerView.filterMask after).trans ?_
      split
      · rfl
      · rfl

theorem steady_step {cfg : Config} {s : State} {op : Op} (h : Steady cfg s)
    (legal : op.Legal cfg s) (allowed : Uninterrupted cfg s op) : Steady cfg (step cfg s op) where
  sound := sound_step h.sound (live_of_noStale h.live legal)
  live := live_step h.sound h.live legal allowed.continues.not_delete
  coherent := coherent_step h.sound h.live h.coherent legal allowed.continues.not_delete
    allowed.continues.not_setFilter allowed.zero
    (settles_of_noError allowed.continues allowed.noError)
  focused := focused_step h.focused legal allowed.continues.filterKept
  enabled := enabled_step h.enabled allowed.continues allowed.noError
  mask := (mask_step legal).trans h.mask

/-! What is known of the tasks. -/

/-- The tasks of a state, as the scheduler is told about them. -/
def State.roster (s : State) : Roster where
  traced task := s.prvTraceGetTaskFilter (some task) != 0
  taskId := s.taskId
  probe task := (s.tcbs task).registered
  slot task := (s.getTcbProbe (some task)).getD 0

/-- The roster is right about the tasks there are. -/
structure Roster.Lists (tasks : Roster) (s : State) : Prop where
  traced : ∀ task ∈ s.tasks, tasks.traced task = s.roster.traced task
  taskId : ∀ task ∈ s.tasks, tasks.taskId task = s.roster.taskId task
  probe : ∀ task ∈ s.tasks, tasks.probe task = s.roster.probe task
  slot : ∀ task i, s.getTcbProbe (some task) = some i → tasks.slot task = i

theorem roster_lists (s : State) : s.roster.Lists s where
  traced _ _ := rfl
  taskId _ _ := rfl
  probe _ _ := rfl
  slot _ _ found := congrArg (Option.getD · 0) found

/-- A roster that is right later is right now. -/
theorem lists_back {cfg : Config} {s : State} {op : Op} {tasks : Roster} (h : Steady cfg s)
    (legal : op.Legal cfg s) (continues : op.Continues s)
    (later : tasks.Lists (step cfg s op)) : tasks.Lists s := by
  have stays : ∀ task ∈ s.tasks, task ∈ (step cfg s op).tasks :=
    fun task mem => tasks_step continues.not_delete mem
  have tcb : ∀ task ∈ s.tasks, (step cfg s op).tcbs task = s.tcbs task := by
    intro task mem
    cases tcb_step cfg (not_creates_of_mem legal mem) with
    | inl same => exact same
    | inr written =>
        obtain ⟨filter, isOp, -⟩ := written
        subst isOp
        exact absurd continues id
  refine ⟨fun task mem => ?_, fun task mem => ?_, fun task mem => ?_, fun task i found => ?_⟩
  · rw [later.traced task (stays task mem)]
    exact congrArg (fun tcb : Tcb => traceReadUpper16 tcb.uxTaskNumber != 0) (tcb task mem)
  · rw [later.taskId task (stays task mem)]
    exact congrArg (fun tcb : Tcb => traceReadLower16 tcb.uxTaskNumber) (tcb task mem)
  · rw [later.probe task (stays task mem)]
    exact congrArg Tcb.registered (tcb task mem)
  · refine later.slot task i ?_
    have sound := sound_step h.sound (live_of_noStale h.live legal)
    rw [getTcbProbe_eq] at found ⊢
    obtain ⟨e, at_i, isTask⟩ := h.sound.table.isPacked.find_iff.mp found
    exact sound.table.isPacked.find_iff.mpr ⟨e, slot_step h.sound at_i isTask, isTask⟩

end ProbeTrace
