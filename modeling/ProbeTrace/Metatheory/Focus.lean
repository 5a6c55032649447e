import ProbeTrace.Metatheory.HookCalls
import ProbeTrace.Metatheory.RegistrySound

/-!
The kernel's current task and g_current_tcb. The hooks test the filter of the first and
record into the probe of the second; they are the same task as long as nobody opens the
filter of the current task after its switch-in was skipped.
-/
namespace ProbeTrace

/-! What an action does to the two. -/

theorem scheduler_registerEffect : RegisterEffect fun s t => t.schedulerView = s.schedulerView where
  refl _ := rfl
  trans h k := k.trans h
  enter _ := rfl
  exit _ := rfl
  error := prvTraceError_scheduler
  log _ _ _ := rfl
  tcb _ _ _ := rfl
  slot _ _ _ := rfl
  storage cfg env n s := by
    unfold allocStorage
    split <;> split <;> rfl
  probeIds _ _ := rfl
  messageBuffer cfg env s := by
    unfold allocMessageBuffer
    split <;> rfl
  taskBuffer env s := by
    unfold allocTaskLocalBuffer
    split <;> rfl
  exclude _ _ _ := rfl

theorem scheduler_controlEffect : ControlEffect fun s t => t.schedulerView = s.schedulerView where
  refl _ := rfl
  trans h k := k.trans h
  enter _ := rfl
  exit _ := rfl
  error := prvTraceError_scheduler
  receive _ _ _ := rfl
  send _ _ _ _ _ := rfl
  process _ _ _ := rfl
  report _ _ := rfl
  announce _ _ := rfl
  buffer _ _ := rfl
  iters _ _ := rfl
  point _ _ _ := rfl

/-- The kernel may make a new task the current one. -/
def SchedulerView.create (new : NewTask) (v : SchedulerView) : SchedulerView :=
  { v with pxCurrentTcb := if new.becomesCurrent then some new.handle else v.pxCurrentTcb }

theorem xTaskCreate_scheduler (cfg : Config) (env : External) (new : NewTask) (name : CString)
    (uxPriority : BitVec 32) (s : State) :
    (xTaskCreate cfg env new name uxPriority s).schedulerView = s.schedulerView.create new :=
  scheduler_registerEffect.prvTraceRegisterTaskProbe cfg env new.handle uxPriority
    (s.addTask cfg new name)

theorem createIoTask_scheduler (cfg : Config) (env : External) (io : Option NewTask) (s : State) :
    (createIoTask cfg env io s).schedulerView = s.schedulerView ∨
      ∃ new, io = some new ∧
        (createIoTask cfg env io s).schedulerView = s.schedulerView.create new := by
  have excluded : (vTraceExcludeTask cfg cfg.ioTaskName s).schedulerView = s.schedulerView :=
    scheduler_registerEffect.vTraceExcludeTask cfg cfg.ioTaskName s
  have checked : (createIoTask cfg env io s).schedulerView =
      (createIo cfg env io (vTraceExcludeTask cfg cfg.ioTaskName s)).schedulerView := by
    unfold createIoTask
    dsimp only
    split
    · exact prvTraceError_scheduler ..
    · rfl
  rw [checked]
  generalize vTraceExcludeTask cfg cfg.ioTaskName s = r at excluded ⊢
  cases io with
  | none => exact .inl excluded
  | some new =>
      have created := xTaskCreate_scheduler cfg env new cfg.ioTaskName cfg.ioTaskPriority r
      rw [excluded] at created
      exact .inr ⟨new, rfl, created⟩

theorem vTraceEnable_scheduler (cfg : Config) (env : External) (io : Option NewTask) (s : State) :
    (vTraceEnable cfg env io s).schedulerView = s.schedulerView ∨
      ∃ new, io = some new ∧
        (vTraceEnable cfg env io s).schedulerView = s.schedulerView.create new := by
  rcases vTraceEnable_cases cfg env io s with ⟨-, h⟩ | ⟨-, -, msg, h⟩ | ⟨-, -, h⟩
  · rw [h]
    exact .inl rfl
  · rw [h]
    exact .inl (prvTraceError_scheduler msg s)
  · have included : (vTraceEnable cfg env io s).schedulerView =
        (includeIoTask cfg env io s.enterCriticalSection).schedulerView := by
      rw [h]
      rfl
    rw [included]
    unfold includeIoTask
    split
    · exact createIoTask_scheduler cfg env io s.enterCriticalSection
    · exact .inl rfl

/-- After traceTASK_SWITCHED_IN with an open filter the two are the same task. -/
theorem traceTaskSwitchedIn_scheduler (cfg : Config) (env : External) (uxPriority : BitVec 32)
    (s : State) : ∃ prev, (prev = s.currentTcb ∨ prev = s.prevTcb) ∧
      (traceTaskSwitchedIn cfg env uxPriority s).schedulerView =
        if filterGate s then
          { s.schedulerView with currentTcb := s.pxCurrentTcb, prevTcb := prev }
        else s.schedulerView := by
  have switched : ∃ prev, (prev = s.currentTcb ∨ prev = s.prevTcb) ∧
      (prvTraceSwitchedTcb s.pxCurrentTcb s).2.schedulerView =
        { s.schedulerView with currentTcb := s.pxCurrentTcb, prevTcb := prev } := by
    unfold prvTraceSwitchedTcb
    split
    · exact ⟨s.currentTcb, .inl rfl, rfl⟩
    · rename_i same
      refine ⟨s.prevTcb, .inr rfl, ?_⟩
      rw [← not_not.mp same]
      rfl
  unfold traceTaskSwitchedIn
  split
  · obtain ⟨prev, origin, view⟩ := switched
    refine ⟨prev, origin, ?_⟩
    dsimp only
    generalize (prvTraceSwitchedTcb s.pxCurrentTcb s).1 = didSwitch
    generalize (prvTraceSwitchedTcb s.pxCurrentTcb s).2 = r at view ⊢
    rw [← view]
    have logged : ∀ u : State, u.schedulerView = r.schedulerView →
        (prvTraceLogEventWithPayload cfg env TraceEvent.taskSwitchedIn uxPriority
          u).schedulerView = r.schedulerView :=
      fun u same => (scheduler_recordEffect.logEvent ..).view.trans same
    split
    · exact logged _ (scheduler_recordEffect.prvTraceMergeSnapshot cfg env r).view
    · exact logged r rfl
  · exact ⟨s.prevTcb, .inr rfl, rfl⟩

/-- The scheduler's side of the state after the action `op` in the state `s`. -/
inductive SchedulerMove (cfg : Config) (s : State) (op : Op) (t : State) : Prop
  | same (view : t.schedulerView = s.schedulerView)
  | created (new : NewTask) (creates : op.Creates new.handle) (fresh : new.Fresh s)
      (view : t.schedulerView = s.schedulerView.create new)
  | selected (env : External) (next : TaskHandle) (uxPriority : BitVec 32) (v : State)
      (view : v.schedulerView = { s.schedulerView with pxCurrentTcb := some next, started := true })
      (registry : v.registry = s.registry) (outcome : t = traceTaskSwitchedIn cfg env uxPriority v)

theorem traceTaskSwitchedOut_same (cfg : Config) (env : External) (s : State) :
    SameScheduler s (traceTaskSwitchedOut cfg env s) :=
  scheduler_recordEffect.traceTaskSwitchedOut cfg env s

theorem step_scheduler {cfg : Config} {s : State} {op : Op} (legal : op.Legal cfg s) :
    SchedulerMove cfg s op (step cfg s op) := by
  cases op with
  | enable env io =>
      rcases vTraceEnable_scheduler cfg env io s with h | ⟨new, rfl, h⟩
      · exact .same h
      · exact .created new rfl (legal new rfl) h
  | create env new name uxPriority =>
      exact .created new rfl legal (xTaskCreate_scheduler cfg env new name uxPriority s)
  | exclude pcName => exact .same (scheduler_registerEffect.vTraceExcludeTask cfg pcName s)
  | disable | delete _ | setFilter _ _ | getBuffer => exact .same rfl
  | start env next uxPriority =>
      exact .selected env next uxPriority { s.select next with started := true } rfl rfl rfl
  | switch out in' next uxPriority =>
      obtain ⟨view, registry⟩ := traceTaskSwitchedOut_same cfg out s
      refine .selected in' next uxPriority ((traceTaskSwitchedOut cfg out s).select next)
        ?_ registry rfl
      have started : s.started = true := legal.1
      change { (traceTaskSwitchedOut cfg out s).schedulerView with
        pxCurrentTcb := some next } = _
      rw [view]
      simp [State.schedulerView, started]
  | hook env h => exact .same (scheduler_recordEffect.run cfg env h s).view
  | ioRead r =>
      refine .same ?_
      unfold step
      dsimp only
      split
      · exact scheduler_controlEffect.ioRead cfg r s
      · rfl
      · rfl
  | ioSend => exact .same (scheduler_controlEffect.ioSend cfg s)
  | ioReport reports announcements =>
      exact .same (scheduler_controlEffect.ioReport cfg reports announcements s)
  | process env =>
      exact .same (scheduler_controlEffect.vTraceProcessControlPlaneMessages cfg env s)

/-! The invariant. -/

structure Focused (s : State) : Prop where
  notStarted : s.started = false → s.currentTcb = none
  gate : filterGate s = true → s.currentTcb = none ∨ s.currentTcb = s.pxCurrentTcb

theorem focused_init (cfg : Config) : Focused (State.init cfg) where
  notStarted _ := rfl
  gate _ := .inl rfl

/-- A filter that is opened belongs to a task that is not running, or that was switched in
with an open filter, or no task was. -/
def FilterKept (s : State) : Op → Prop
  | .setFilter task filter => filter = 0 ∨ s.pxCurrentTcb ≠ some task ∨ s.currentTcb = none ∨
      s.currentTcb = some task
  | _ => True

instance (s : State) (op : Op) : Decidable (FilterKept s op) := by
  unfold FilterKept
  split <;> infer_instance

/-- The test of the hooks, from the parts it reads. -/
theorem filterGate_congr {s t : State} (px : t.pxCurrentTcb = s.pxCurrentTcb)
    (mask : t.filterMask = s.filterMask)
    (tcb : ∀ task, s.pxCurrentTcb = some task → t.tcbs task = s.tcbs task) :
    filterGate t = filterGate s := by
  unfold filterGate State.prvTraceGetTaskFilter State.prvTraceGetCurrentTaskHandle
    State.prvTraceGetFilterMask
  rw [px, mask]
  cases current : s.pxCurrentTcb with
  | none => rfl
  | some task =>
      simp only [State.uxTaskGetTaskNumber, tcb task current]

theorem not_creates_current {cfg : Config} {s : State} {op : Op} (legal : op.Legal cfg s)
    {task : TaskHandle} (current : s.pxCurrentTcb = some task) : ¬ op.Creates task := by
  cases op with
  | enable env io =>
      cases io with
      | none => exact id
      | some new => exact fun same => (legal new rfl).2.1 (same ▸ current)
  | create env new name uxPriority => exact fun same => legal.2.1 (same ▸ current)
  | disable | exclude _ | delete _ | start _ _ _ | switch _ _ _ _ | hook _ _
  | setFilter _ _ | ioRead _ | ioSend | ioReport _ _ | process _ | getBuffer => exact id

/-- The filter of the current task, unless it is written. -/
theorem currentTcb_step (cfg : Config) {s : State} {op : Op} (legal : op.Legal cfg s)
    {task : TaskHandle} (current : s.pxCurrentTcb = some task) :
    (step cfg s op).tcbs task = s.tcbs task ∨ ∃ filter, op = .setFilter task filter := by
  rcases tcb_step cfg (not_creates_current legal current) with same | ⟨filter, isOp, -⟩
  · exact .inl same
  · exact .inr ⟨filter, isOp⟩

/-- Writing zero closes the filter. -/
theorem filterGate_setFilter_zero (task : TaskHandle) {s : State}
    (current : s.pxCurrentTcb = some task) :
    filterGate (s.prvTraceSetTaskFilter task 0) = false := by
  have px : (s.prvTraceSetTaskFilter task 0).pxCurrentTcb = some task := current
  have filter : (s.prvTraceSetTaskFilter task 0).prvTraceGetTaskFilter (some task) = 0 := by
    rw [filter_eq]
    change traceReadUpper16 (((s.registry.setFilter task 0).tcbs task).uxTaskNumber) = 0
    rw [Registry.setFilter_tcbs_self]
    exact readUpper_writeUpper ..
  unfold filterGate State.prvTraceGetCurrentTaskHandle
  rw [px, filter]
  simp

theorem focused_step {cfg : Config} {s : State} {op : Op} (h : Focused s)
    (legal : op.Legal cfg s) (kept : FilterKept s op) : Focused (step cfg s op) := by
  cases step_scheduler legal with
  | same view =>
      have current : (step cfg s op).currentTcb = s.currentTcb :=
        congrArg SchedulerView.currentTcb view
      have px : (step cfg s op).pxCurrentTcb = s.pxCurrentTcb :=
        congrArg SchedulerView.pxCurrentTcb view
      refine ⟨fun off => current.trans (h.notStarted
        ((congrArg SchedulerView.started view).symm.trans off)), fun gate => ?_⟩
      rw [current, px]
      -- the gate opens only by a write to the filter of the current task
      by_cases written : ∃ task filter, s.pxCurrentTcb = some task ∧ op = .setFilter task filter
      · obtain ⟨task, filter, running, rfl⟩ := written
        rcases kept with rfl | away | off | same
        · rw [step, filterGate_setFilter_zero task running] at gate
          cases gate
        · exact absurd running away
        · exact .inl off
        · exact .inr (same.trans running.symm)
      · refine h.gate ?_
        rwa [filterGate_congr px (congrArg SchedulerView.filterMask view)] at gate
        intro task running
        rcases currentTcb_step cfg legal running with same | ⟨filter, isOp⟩
        · exact same
        · exact absurd ⟨task, filter, running, isOp⟩ written
  | created new creates fresh view =>
      have current : (step cfg s op).currentTcb = s.currentTcb :=
        congrArg SchedulerView.currentTcb view
      have px := congrArg SchedulerView.pxCurrentTcb view
      change (step cfg s op).pxCurrentTcb = ite .. at px
      refine ⟨fun off => current.trans (h.notStarted
        ((congrArg SchedulerView.started view).symm.trans off)), fun gate => ?_⟩
      by_cases becomes : new.becomesCurrent = true
      · exact .inl (current.trans (h.notStarted (fresh.2.2 becomes)))
      · rw [if_neg becomes] at px
        rw [current, px]
        refine h.gate ?_
        rwa [filterGate_congr px (congrArg SchedulerView.filterMask view)] at gate
        intro task running
        rcases currentTcb_step cfg legal running with same | ⟨filter, rfl⟩
        · exact same
        · exact absurd creates id
  | selected env next uxPriority v view registry outcome =>
      obtain ⟨prev, -, after⟩ := traceTaskSwitchedIn_scheduler cfg env uxPriority v
      rw [outcome]
      have started : v.started = true := congrArg SchedulerView.started view
      by_cases gate : filterGate v = true
      · rw [if_pos gate] at after
        have px := congrArg SchedulerView.pxCurrentTcb after
        refine ⟨fun off => ?_, fun _ => .inr ((congrArg SchedulerView.currentTcb after).trans
          px.symm)⟩
        have on := (congrArg SchedulerView.started after).trans started
        rw [show (traceTaskSwitchedIn cfg env uxPriority v).started = true from on] at off
        cases off
      · rw [if_neg gate] at after
        refine ⟨fun off => ?_, fun open' => ?_⟩
        · have on := (congrArg SchedulerView.started after).trans started
          rw [show (traceTaskSwitchedIn cfg env uxPriority v).started = true from on] at off
          cases off
        · have closed : traceTaskSwitchedIn cfg env uxPriority v = v := by
            unfold traceTaskSwitchedIn
            rw [if_neg gate]
          rw [closed] at open'
          exact absurd open' gate

theorem focused_of_run {cfg : Config} {ok : State → Op → Prop} {ops : List Op} {s : State}
    (kept : ∀ (s : State) (op : Op), ok s op → FilterKept s op) (h : Reaches cfg ok ops s) :
    Focused s := by
  refine h.invariant (P := Focused) ?_ (focused_init cfg)
  rintro s op focused ⟨legal, permitted⟩
  exact focused_step focused legal (kept s op permitted)

/-- What a hook calls is for the kernel's current task. -/
theorem hook_onlyFor {cfg : Config} {s v : State} {op : Op} {env : External} {k : KernelHook}
    (h : Focused s) (taken : HookTaken cfg s op v env k) :
    v.registry = s.registry ∧ CallsOnlyFor v.pxCurrentTcb v (k.run cfg env v) := by
  have own : ∀ {t : State}, (filterGate s = true → CallsOnlyFor s.currentTcb s t) →
      (filterGate s ≠ true → t = s) → CallsOnlyFor s.pxCurrentTcb s t := by
    intro t opened closed
    by_cases gate : filterGate s = true
    · rcases h.gate gate with none | same
      · obtain ⟨new, calls, only⟩ := opened gate
        refine ⟨new, calls, fun c mem => ?_⟩
        obtain ⟨own, isOwn, -⟩ := only c mem
        rw [none] at isOwn
        cases isOwn
      · exact same ▸ opened gate
    · rw [closed gate]
      exact .none rfl
  cases taken with
  | start env next uxPriority => exact ⟨rfl, traceTaskSwitchedIn_onlyFor ..⟩
  | switchedOut out in' next uxPriority =>
      refine ⟨rfl, own (fun _ => traceTaskSwitchedOut_onlyFor ..) fun closed => ?_⟩
      unfold KernelHook.run traceTaskSwitchedOut
      exact if_neg closed
  | switchedIn out in' next uxPriority =>
      exact ⟨(traceTaskSwitchedOut_same cfg out s).registry, traceTaskSwitchedIn_onlyFor ..⟩
  | inTask env k =>
      refine ⟨rfl, own (fun gate => ?_) fun closed => ?_⟩
      · exact k.run_induction cfg env (P := CallsOnlyFor s.currentTcb s) (.none rfl)
          fun _ _ _ _ => logEvent_onlyFor ..
      · rw [KernelHook.run, Hook.run_eq, if_neg closed]

end ProbeTrace
