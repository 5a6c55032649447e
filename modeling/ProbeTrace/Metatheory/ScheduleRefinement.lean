import ProbeTrace.Metatheory.Uninterrupted

/-!
The hooks against the scheduler's specification. As long as nothing disturbs tracing, the
hooks make the calls that the scheduler asks for: g_current_tcb is the traced task that
runs, or else the one traced before, and the slot of the task traced before holds the
snapshot it produced when it was switched out.
-/
namespace ProbeTrace

/-! Recording functions whose calls succeed do nothing but make them. -/

def State.logAll (s : State) (new : List Call) : State := { s with calls := s.calls ++ new }

theorem logAll_nil (s : State) : s.logAll [] = s := by
  rw [State.logAll, List.append_nil]

theorem logAll_append (s : State) (new more : List Call) :
    s.logAll (new ++ more) = (s.logAll new).logAll more := by
  simp only [State.logAll, List.append_assoc]

theorem logRecord_succeeds {cfg : Config} {env : External} (ok : env.recordEvent = true)
    (record : EventRecord) {s : State} {i : Nat} (focus : s.focus = some i) :
    logRecord cfg env record s = s.logAll [recordCall s record.1 record.2 i] := by
  have logged : ∀ noSlot failed id payload, logEvent cfg env noSlot failed id payload s =
      s.logAll [recordCall s id payload i] := by
    intro noSlot failed id payload
    rw [logEvent_focus cfg env noSlot failed id payload focus, ok, leave_true]
    exact (s.logCall (recordCall s id payload i)).exit_enterCriticalSection
  obtain ⟨id, payload⟩ := record
  cases payload with
  | none => exact logged ..
  | some payload => exact logged ..

/-- Before the scheduler has started nothing is recorded. -/
theorem logRecord_idle (cfg : Config) (env : External) (record : EventRecord) {s : State}
    (idle : s.currentTcb = none) : logRecord cfg env record s = s := by
  have skipped : ∀ noSlot failed id payload,
      logEvent cfg env noSlot failed id payload s = s := by
    intro noSlot failed id payload
    simp only [logEvent, State.enter_currentTcb, idle, Option.isSome_none, Bool.and_false]
    exact s.exit_enterCriticalSection
  obtain ⟨id, payload⟩ := record
  cases payload with
  | none => exact skipped ..
  | some payload => exact skipped ..

theorem prvTraceProduceSnapshot_succeeds {cfg : Config} {env : External} {snapshot : Snapshot}
    (ok : env.produceSnapshot = some snapshot) {s : State} {i : Nat} (focus : s.focus = some i) :
    prvTraceProduceSnapshot cfg env s =
      (s.logAll [produceCall env s i]).modifyTcbProbe i fun e => { e with snapshot := snapshot } := by
  rw [prvTraceProduceSnapshot_focus cfg env focus, ok]
  refine (leave_true ..).trans ?_
  simp only [State.modalityProbeProduceSnapshot, produceCall, ok]
  exact State.exit_enterCriticalSection ((s.logAll [.produceSnapshot (s.tcbProbe i).probe i
    (some snapshot)]).modifyTcbProbe i fun e => { e with snapshot := snapshot })

theorem prvTraceMergeSnapshot_succeeds {cfg : Config} {env : External}
    (ok : env.mergeSnapshot = true) {s : State} {i j : Nat} (focus : s.focus = some i)
    (prev : s.prevFocus = some j) :
    prvTraceMergeSnapshot cfg env s = s.logAll [mergeCall s i j] := by
  rw [prvTraceMergeSnapshot_focus cfg env focus prev, ok, leave_true]
  exact (s.logCall (mergeCall s i j)).exit_enterCriticalSection

/-! States in which the hooks do their work. -/

/-- The tables are in order, tracing is on and the roster is right. -/
structure Ready (cfg : Config) (tasks : Roster) (s : State) : Prop where
  sound : Sound cfg s.registry
  live : Live s.registry
  coherent : Coherent cfg s.registry
  mask : s.filterMask = 0xFFFF
  enabled : s.isEnabled = true
  lists : tasks.Lists s

theorem Steady.ready {cfg : Config} {s : State} {tasks : Roster} (h : Steady cfg s)
    (lists : tasks.Lists s) {task : TaskHandle} (mem : task ∈ s.tasks) : Ready cfg tasks s where
  sound := h.sound
  live := h.live
  coherent := h.coherent
  mask := h.mask
  enabled := h.enabled.resolve_right (List.ne_nil_of_mem mem)
  lists := lists

theorem roster_eq {s t : State} (registry : t.registry = s.registry) : t.roster = s.roster := by
  have tcbs : t.tcbs = s.tcbs := congrArg Registry.tcbs registry
  have slots : t.getTcbProbe = s.getTcbProbe := by
    funext task
    rw [getTcbProbe_eq, getTcbProbe_eq, registry]
  have ids : t.taskId = s.taskId := by
    funext task
    simp only [State.taskId, State.prvTraceGetTaskProbeId, State.uxTaskGetTaskNumber, tcbs]
  simp only [State.roster, ids, State.prvTraceGetTaskFilter, State.uxTaskGetTaskNumber, tcbs,
    slots]

/-- The test of the hooks is passed exactly when a traced task runs. -/
theorem filterGate_traced {tasks : Roster} {s : State} (mask : s.filterMask = 0xFFFF)
    (lists : tasks.Lists s) (listed : ∀ task, s.pxCurrentTcb = some task → task ∈ s.tasks) :
    filterGate s = (s.pxCurrentTcb.filter tasks.traced).isSome := by
  simp only [filterGate, State.prvTraceGetCurrentTaskHandle, State.prvTraceGetFilterMask, mask]
  cases current : s.pxCurrentTcb with
  | none =>
      rw [State.prvTraceGetTaskFilter, State.uxTaskGetTaskNumber, readUpper_zero]
      rfl
  | some task =>
      have traced := lists.traced task (listed task current)
      have unmasked : s.prvTraceGetTaskFilter (some task) &&& 0xFFFF =
          s.prvTraceGetTaskFilter (some task) := BitVec.and_allOnes
      rw [unmasked, Option.isSome_filter]
      exact traced.symm

namespace Ready
variable {cfg : Config} {tasks : Roster} {s t : State}

/-- It does not depend on more than the registry, the switch and the mask. -/
theorem same (h : Ready cfg tasks s) (registry : t.registry = s.registry)
    (mask : t.filterMask = s.filterMask) (enabled : t.isEnabled = s.isEnabled) :
    Ready cfg tasks t where
  sound := registry ▸ h.sound
  live := registry ▸ h.live
  coherent := registry ▸ h.coherent
  mask := mask.trans h.mask
  enabled := enabled.trans h.enabled
  lists := by
    have listed : t.tasks = s.tasks := congrArg Registry.tasks registry
    refine ⟨?_, ?_, ?_, ?_⟩
    · rw [listed, roster_eq registry]
      exact h.lists.traced
    · rw [listed, roster_eq registry]
      exact h.lists.taskId
    · rw [listed, roster_eq registry]
      exact h.lists.probe
    · intro task i found
      rw [getTcbProbe_eq, registry, ← getTcbProbe_eq] at found
      exact h.lists.slot task i found

/-- A traced task has a slot, with its probe. -/
theorem slot (h : Ready cfg tasks s) {task : TaskHandle} (mem : task ∈ s.tasks)
    (traced : tasks.traced task = true) :
    s.getTcbProbe (some task) = some (tasks.slot task) ∧
      (s.tcbProbe (tasks.slot task)).probe = tasks.probe task := by
  have opened : s.registry.filter task ≠ 0 := by
    rw [h.lists.traced task mem] at traced
    exact bne_iff_ne.mp traced
  obtain ⟨i, e, at_i, isTask⟩ := (h.coherent.filter task).mp opened
  have found : s.getTcbProbe (some task) = some i := by
    rw [getTcbProbe_eq]
    exact h.sound.table.isPacked.find_iff.mpr ⟨e, at_i, isTask⟩
  rw [h.lists.slot task i found]
  refine ⟨found, ?_⟩
  rw [(tcbProbe_fields at_i).2.1, h.lists.probe task mem]
  exact (h.live i e task at_i isTask).2.symm

theorem gate (h : Ready cfg tasks s)
    (listed : ∀ task, s.pxCurrentTcb = some task → task ∈ s.tasks) :
    filterGate s = (s.pxCurrentTcb.filter tasks.traced).isSome :=
  filterGate_traced h.mask h.lists listed

theorem focus (h : Ready cfg tasks s) {task : TaskHandle} (mem : task ∈ s.tasks)
    (traced : tasks.traced task = true) (current : s.currentTcb = some task) :
    s.focus = some (tasks.slot task) :=
  focus_eq_some.mpr ⟨h.enabled, task, current, (h.slot mem traced).1⟩

end Ready

/-! The relation to the scheduler. -/

/-- The slot of the task traced before holds the snapshot the scheduler knows of. -/
def BatonKept (tasks : Roster) (s : State) (m : Schedule) : Prop :=
  ∀ task snapshot, m.baton = some (task, snapshot) → task ∈ s.tasks ∧
    tasks.traced task = true ∧ (s.tcbProbe (tasks.slot task)).snapshot = snapshot

/-- Between a switch-out and the switch-in that follows it. -/
structure Passed (tasks : Roster) (s : State) (m : Schedule) : Prop where
  currentTcb : s.currentTcb = m.baton.map Prod.fst
  baton : BatonKept tasks s m

structure Follows (tasks : Roster) (s : State) (m : Schedule) : Prop where
  running : m.running = if s.started then s.pxCurrentTcb else none
  listed : ∀ task, m.running = some task → task ∈ s.tasks
  currentTcb : s.currentTcb = (m.tracedTask tasks).or (m.baton.map Prod.fst)
  baton : BatonKept tasks s m

theorem follows_init (cfg : Config) (tasks : Roster) : Follows tasks (State.init cfg) {} where
  running := rfl
  listed _ none := (Option.some_ne_none _ none.symm).elim
  currentTcb := rfl
  baton _ _ none := (Option.some_ne_none _ none.symm).elim

theorem Follows.switched {tasks : Roster} {s : State} {m : Schedule} (h : Follows tasks s m)
    (started : s.started = true) : m.running = s.pxCurrentTcb :=
  h.running.trans (if_pos started)

theorem tracedTask_some {tasks : Roster} {m : Schedule} {task : TaskHandle}
    (h : m.tracedTask tasks = some task) : m.running = some task ∧ tasks.traced task = true :=
  Option.filter_eq_some_iff.mp h

/-- What the scheduler takes for the traced task is the focus of the hooks. -/
theorem Follows.focus {cfg : Config} {tasks : Roster} {s : State} {m : Schedule}
    (h : Follows tasks s m) (ready : Ready cfg tasks s) {task : TaskHandle}
    (runs : m.tracedTask tasks = some task) :
    s.focus = some (tasks.slot task) ∧
      (s.tcbProbe (tasks.slot task)).probe = tasks.probe task := by
  obtain ⟨running, traced⟩ := tracedTask_some runs
  have mem := h.listed task running
  have current : s.currentTcb = some task := by
    rw [h.currentTcb, runs]
    rfl
  exact ⟨ready.focus mem traced current, (ready.slot mem traced).2⟩

/-- A switch-out records and leaves a snapshot behind. -/
theorem switchedOut_follows {cfg : Config} {tasks : Roster} {out : External} {s : State}
    {m : Schedule} (ready : Ready cfg tasks s) (h : Follows tasks s m)
    (started : s.started = true) (ok : out.ProbeCallsSucceed) :
    (traceTaskSwitchedOut cfg out s).calls = s.calls ++ m.switchedOut tasks out ∧
      Passed tasks (traceTaskSwitchedOut cfg out s) (m.handOver tasks out) ∧
      (traceTaskSwitchedOut cfg out s).isEnabled = s.isEnabled := by
  have running := h.switched started
  have gate := ready.gate fun task current => h.listed task (running.trans current)
  rw [← running] at gate
  obtain ⟨snapshot, produced⟩ := Option.isSome_iff_exists.mp ok.2.1
  cases runs : m.tracedTask tasks with
  | none =>
      have closed : traceTaskSwitchedOut cfg out s = s := by
        refine if_neg ?_
        rw [gate, show m.running.filter tasks.traced = none from runs]
        exact Bool.false_ne_true
      simp only [Schedule.switchedOut, Schedule.handOver, runs, closed, List.append_nil]
      refine ⟨trivial, ⟨?_, h.baton⟩, trivial⟩
      rw [h.currentTcb, runs, Option.none_or]
  | some task =>
      obtain ⟨isRunning, traced⟩ := tracedTask_some runs
      obtain ⟨focus, probe⟩ := h.focus ready runs
      have opened : filterGate s = true := by
        rw [gate, show m.running.filter tasks.traced = some task from runs]
        rfl
      have recorded : prvTraceLogEvent cfg out TraceEvent.taskSwitchedOut s =
          s.logAll [tasks.record task (TraceEvent.taskSwitchedOut, none)] := by
        rw [Roster.record, ← probe]
        exact logRecord_succeeds ok.2.2.2.1 (TraceEvent.taskSwitchedOut, none) focus
      have left : traceTaskSwitchedOut cfg out s = ((s.logAll (m.switchedOut tasks out)).modifyTcbProbe
          (tasks.slot task) fun e => { e with snapshot := snapshot }) := by
        refine (if_pos opened).trans ?_
        have focus' : (s.logAll [tasks.record task (TraceEvent.taskSwitchedOut, none)]).focus =
            some (tasks.slot task) := focus
        have calls : m.switchedOut tasks out = [tasks.record task (TraceEvent.taskSwitchedOut,
            none), tasks.produce task out.produceSnapshot] := by
          simp only [Schedule.switchedOut, runs]
        rw [recorded, prvTraceProduceSnapshot_succeeds produced focus', ← logAll_append, calls,
          Roster.produce, ← probe]
        rfl
      have inside : tasks.slot task < s.tcbProbes.length := by
        obtain ⟨-, t, -, found⟩ := focus_eq_some.mp focus
        exact SlotTable.find_lt found
      rw [left]
      refine ⟨rfl, ⟨?_, ?_⟩, rfl⟩
      · simp only [Schedule.handOver, runs, produced]
        exact h.currentTcb.trans (by rw [runs]; rfl)
      · intro source v isBaton
        simp only [Schedule.handOver, runs, produced, Option.some.injEq, Prod.mk.injEq] at isBaton
        obtain ⟨isTask, isSnapshot⟩ := isBaton
        subst isTask isSnapshot
        refine ⟨h.listed task isRunning, traced, ?_⟩
        simp only [State.modifyTcbProbe, State.tcbProbe, State.logAll, List.getD_eq_getElem?_getD,
          List.getElem?_set_self inside, Option.getD_some]

/-- prvTraceSwitchedTCB with another task. -/
def State.enterTask (s : State) (next : TaskHandle) : State :=
  { s with prevTcb := s.currentTcb, currentTcb := some next }

/-- The merge of a switch-in between two tasks. -/
theorem mergeSnapshot_received {cfg : Config} {tasks : Roster} {env : External}
    {next : TaskHandle} {s : State} {m : Schedule} (ready : Ready cfg tasks s)
    (h : Passed tasks s m) (mem : next ∈ s.tasks) (traced : tasks.traced next = true)
    (other : s.currentTcb ≠ some next) (ok : env.ProbeCallsSucceed) :
    prvTraceMergeSnapshot cfg env (s.enterTask next) =
      (s.enterTask next).logAll (m.received tasks next) := by
  have entered : Ready cfg tasks (s.enterTask next) := ready.same rfl rfl rfl
  cases isBaton : m.baton with
  | none =>
      have first : (s.enterTask next).prevTcb = none := by
        refine h.currentTcb.trans ?_
        rw [isBaton]
        rfl
      simp only [Schedule.received, isBaton, logAll_nil]
      exact prvTraceMergeSnapshot_first cfg env first
  | some baton =>
      obtain ⟨source, snapshot⟩ := baton
      obtain ⟨listed, isTraced, kept⟩ := h.baton source snapshot isBaton
      have previous : s.currentTcb = some source := by
        rw [h.currentTcb, isBaton]
        rfl
      have ne : source ≠ next := fun same => other (previous.trans (congrArg some same))
      have listed' : next ∈ (s.enterTask next).tasks := mem
      have focus := entered.focus listed' traced rfl
      have prev : (s.enterTask next).prevFocus = some (tasks.slot source) :=
        Option.bind_eq_some_iff.mpr ⟨source, previous, (entered.slot listed isTraced).1⟩
      have merged : mergeCall (s.enterTask next) (tasks.slot next) (tasks.slot source) =
          tasks.merge next source snapshot := by
        rw [mergeCall, (entered.slot listed' traced).2]
        exact congrArg (Call.mergeSnapshot _ _) kept
      simp only [Schedule.received, isBaton, if_neg ne]
      rw [prvTraceMergeSnapshot_succeeds ok.2.2.1 focus prev, merged]

/-- A switch-in of a traced task. -/
theorem switchedIn_eq {cfg : Config} {tasks : Roster} {env : External} {next : TaskHandle}
    (uxPriority : BitVec 32) {s : State} {m : Schedule} (ready : Ready cfg tasks s)
    (h : Passed tasks s m) (current : s.pxCurrentTcb = some next) (mem : next ∈ s.tasks)
    (traced : tasks.traced next = true) (ok : env.ProbeCallsSucceed) :
    ∃ prev, traceTaskSwitchedIn cfg env uxPriority s =
      ({ s with prevTcb := prev, currentTcb := some next } : State).logAll
        (m.switchedIn tasks next uxPriority) := by
  have opened : filterGate s = true := by
    rw [ready.gate fun task isTask => Option.some.inj (current.symm.trans isTask) ▸ mem, current,
      Option.isSome_filter]
    exact traced
  have calls : m.switchedIn tasks next uxPriority = m.received tasks next ++
      [tasks.record next (TraceEvent.taskSwitchedIn, some uxPriority)] := if_pos traced
  have recorded : ∀ t : State, Ready cfg tasks t → t.tasks = s.tasks →
      t.currentTcb = some next →
      prvTraceLogEventWithPayload cfg env TraceEvent.taskSwitchedIn uxPriority t =
        t.logAll [tasks.record next (TraceEvent.taskSwitchedIn, some uxPriority)] := by
    intro t ready' listed isCurrent
    have mem' : next ∈ t.tasks := listed ▸ mem
    rw [Roster.record, ← (ready'.slot mem' traced).2]
    exact logRecord_succeeds ok.2.2.2.1 (TraceEvent.taskSwitchedIn, some uxPriority)
      (ready'.focus mem' traced isCurrent)
  by_cases same : s.currentTcb = some next
  · refine ⟨s.prevTcb, ?_⟩
    have unmoved : prvTraceSwitchedTcb s.pxCurrentTcb s = (0, s) := by
      rw [prvTraceSwitchedTcb, current, same]
      exact if_neg fun other => other rfl
    have own : m.received tasks next = [] := by
      cases isBaton : m.baton with
      | none => simp only [Schedule.received, isBaton]
      | some baton =>
          have isNext : baton.1 = next := by
            have previous := h.currentTcb
            rw [same, isBaton] at previous
            exact (Option.some.inj previous).symm
          simp only [Schedule.received, isBaton, if_pos isNext]
    refine (if_pos opened).trans ?_
    rw [unmoved, calls, own, List.nil_append, ← same]
    exact recorded s ready rfl same
  · refine ⟨s.currentTcb, ?_⟩
    have moved : prvTraceSwitchedTcb s.pxCurrentTcb s = (1, s.enterTask next) := by
      rw [current]
      exact if_pos same
    refine (if_pos opened).trans ?_
    rw [moved, calls, logAll_append]
    change prvTraceLogEventWithPayload cfg env TraceEvent.taskSwitchedIn uxPriority
      (prvTraceMergeSnapshot cfg env (s.enterTask next)) = _
    rw [mergeSnapshot_received ready h mem traced same ok]
    exact recorded _ (ready.same rfl rfl rfl) rfl rfl

/-- A switch-in merges what the task traced before left behind, and records. -/
theorem switchedIn_follows {cfg : Config} {tasks : Roster} {env : External} {next : TaskHandle}
    (uxPriority : BitVec 32) {s : State} {m : Schedule} (ready : Ready cfg tasks s)
    (h : Passed tasks s m) (current : s.pxCurrentTcb = some next) (started : s.started = true)
    (mem : next ∈ s.tasks) (ok : env.ProbeCallsSucceed) :
    (traceTaskSwitchedIn cfg env uxPriority s).calls =
        s.calls ++ m.switchedIn tasks next uxPriority ∧
      Follows tasks (traceTaskSwitchedIn cfg env uxPriority s) (m.select next) := by
  have running : (m.select next).running = if s.started then s.pxCurrentTcb else none := by
    rw [started, current]
    rfl
  have listed : ∀ task, (m.select next).running = some task → task ∈ s.tasks :=
    fun task isTask => Option.some.inj isTask ▸ mem
  cases traced : tasks.traced next with
  | true =>
      obtain ⟨prev, entered⟩ := switchedIn_eq uxPriority ready h current mem traced ok
      rw [entered]
      refine ⟨rfl, running, listed, ?_, h.baton⟩
      have runs : (m.select next).tracedTask tasks = some next :=
        Option.filter_eq_some_iff.mpr ⟨rfl, traced⟩
      rw [runs]
      rfl
  | false =>
      have closed : traceTaskSwitchedIn cfg env uxPriority s = s := by
        refine if_neg ?_
        rw [ready.gate fun task isTask => Option.some.inj (current.symm.trans isTask) ▸ mem,
          current, Option.isSome_filter]
        exact Bool.eq_false_iff.mp traced
      have silent : m.switchedIn tasks next uxPriority = [] :=
        if_neg (Bool.eq_false_iff.mp traced)
      rw [closed, silent, List.append_nil]
      refine ⟨rfl, running, listed, ?_, h.baton⟩
      have idle : (m.select next).tracedTask tasks = none :=
        Option.filter_eq_none_iff.mpr fun task isTask =>
          Option.some.inj isTask ▸ Bool.eq_false_iff.mp traced
      rw [idle, Option.none_or]
      exact h.currentTcb

/-! The other hooks. -/

theorem hookRecord_congr {ids ids' : TaskHandle → BitVec 16} {h : Hook}
    (same : ∀ task, h = .taskSuspend task → ids task = ids' task) :
    hookRecord ids h = hookRecord ids' h := by
  cases h with
  | taskSuspend task => simp only [hookRecord, same task rfl]
  | _ => rfl

theorem hook_follows {cfg : Config} {tasks : Roster} {env : External} {h : Hook} {s : State}
    {m : Schedule} (steady : Steady cfg s) (lists : tasks.Lists s) (follows : Follows tasks s m)
    (legal : (Op.hook env h).Legal cfg s) (ok : env.ProbeCallsSucceed) :
    h.run cfg env s = s.logAll (m.hook tasks h) := by
  rw [Hook.run_eq]
  cases started : s.started with
  | false =>
      have idle := steady.focused.notStarted started
      have stopped : m.running = none := by
        rw [follows.running, started]
        rfl
      have silent : m.hook tasks h = [] := by
        simp only [Schedule.hook, Schedule.tracedTask, stopped, Option.filter_none]
      rw [silent, logAll_nil]
      split
      · cases hookRecord s.taskId h with
        | none => rfl
        | some record => exact logRecord_idle cfg env record idle
      · rfl
  | true =>
      have running := follows.switched started
      have gate := filterGate_traced steady.mask lists fun task current =>
        follows.listed task (running.trans current)
      rw [← running] at gate
      cases runs : m.tracedTask tasks with
      | none =>
          have silent : m.hook tasks h = [] := by simp only [Schedule.hook, runs]
          rw [silent, logAll_nil, if_neg]
          rw [gate, show m.running.filter tasks.traced = none from runs]
          exact Bool.false_ne_true
      | some task =>
          have mem := follows.listed task (tracedTask_some runs).1
          obtain ⟨focus, probe⟩ := follows.focus (steady.ready lists mem) runs
          have ids : hookRecord s.taskId h = hookRecord tasks.taskId h := by
            refine hookRecord_congr fun suspended isSuspend => ?_
            subst isSuspend
            exact (lists.taskId suspended legal).symm
          rw [if_pos (by rw [gate, show m.running.filter tasks.traced = some task from runs]; rfl),
            ids]
          cases recorded : hookRecord tasks.taskId h with
          | none =>
              simp only [Schedule.hook, runs, recorded]
              exact (logAll_nil s).symm
          | some record =>
              have calls : m.hook tasks h = [tasks.record task record] := by
                simp only [Schedule.hook, runs, recorded]
              rw [calls, Roster.record, ← probe]
              exact logRecord_succeeds ok.2.2.2.1 record focus

/-! Actions that take no hook of the running task. -/

theorem Follows.aside {tasks : Roster} {s t : State} {m : Schedule} (h : Follows tasks s m)
    (running : (if t.started then t.pxCurrentTcb else none) =
      if s.started then s.pxCurrentTcb else none)
    (current : t.currentTcb = s.currentTcb) (stays : ∀ task ∈ s.tasks, task ∈ t.tasks)
    (slots : ∀ task ∈ s.tasks, tasks.traced task = true →
      t.tcbProbe (tasks.slot task) = s.tcbProbe (tasks.slot task)) : Follows tasks t m where
  running := h.running.trans running.symm
  listed task isTask := stays task (h.listed task isTask)
  currentTcb := current.trans h.currentTcb
  baton task snapshot isBaton := by
    obtain ⟨listed, traced, kept⟩ := h.baton task snapshot isBaton
    exact ⟨stays task listed, traced, by rw [slots task listed traced, kept]⟩

theorem running_same {s t : State} (view : t.schedulerView = s.schedulerView) :
    (if t.started then t.pxCurrentTcb else none) =
      if s.started then s.pxCurrentTcb else none := by
  rw [show t.started = s.started from congrArg SchedulerView.started view,
    show t.pxCurrentTcb = s.pxCurrentTcb from congrArg SchedulerView.pxCurrentTcb view]

/-- A new task does not run at once when the scheduler has started. -/
theorem running_created {s t : State} {new : NewTask} (fresh : new.Fresh s)
    (view : t.schedulerView = s.schedulerView.create new) :
    (if t.started then t.pxCurrentTcb else none) =
      if s.started then s.pxCurrentTcb else none := by
  have started : t.started = s.started := congrArg SchedulerView.started view
  have px : t.pxCurrentTcb = if new.becomesCurrent then some new.handle else s.pxCurrentTcb :=
    congrArg SchedulerView.pxCurrentTcb view
  rw [started, px]
  cases runs : s.started with
  | false => rfl
  | true =>
      have waits : ¬ new.becomesCurrent = true := fun becomes =>
        Bool.false_ne_true ((fresh.2.2 becomes).symm.trans runs)
      rw [if_neg waits]

theorem free_ne_used {s : State} {i j : Nat} {task : TaskHandle}
    (free : s.getTcbProbe none = some i) (used : s.getTcbProbe (some task) = some j) : i ≠ j := by
  intro same
  subst same
  obtain ⟨⟨e, at_i, isFree⟩, -⟩ := SlotTable.find_eq_some_iff.mp free
  obtain ⟨⟨e', at_i', isUsed⟩, -⟩ := SlotTable.find_eq_some_iff.mp used
  rw [at_i, Option.some.injEq] at at_i'
  rw [← at_i', isFree] at isUsed
  exact Option.some_ne_none task isUsed.symm

/-- A registration writes to a free slot. -/
theorem created_slots {cfg : Config} {env : External} {new : NewTask} {name : CString}
    {uxPriority : BitVec 32} {s : State} (on : s.isEnabled = true)
    (settles : Settles cfg s (.create env new name uxPriority)) {j : Nat} {task : TaskHandle}
    (found : s.getTcbProbe (some task) = some j) :
    (xTaskCreate cfg env new name uxPriority s).tcbProbe j = s.tcbProbe j := by
  cases prvTraceRegisterTaskProbe_cases cfg env new.handle uxPriority
      (s := s.addTask cfg new name) on with
  | inl registers =>
      obtain ⟨i, outcome⟩ := registers
      have first : s.getTcbProbe none = some i := outcome.first
      exact outcome.others j (free_ne_used first found).symm
  | inr unfound =>
      cases unfound with
      | inl nowhere => exact absurd (settles on nowhere.gets) nowhere.finds
      | inr nothing => exact nothing.slots j

/-- vTraceEnable and vTraceExcludeTask make no calls and write to no slot. -/
theorem idle_enableEffect :
    EnableEffect fun s t => t.tcbProbes = s.tcbProbes ∧ t.calls = s.calls where
  refl _ := ⟨rfl, rfl⟩
  trans h k := ⟨k.1.trans h.1, k.2.trans h.2⟩
  enter _ := ⟨rfl, rfl⟩
  exit _ := ⟨rfl, rfl⟩
  error msg s := by
    rw [State.prvTraceError_eq]
    exact ⟨rfl, rfl⟩
  exclude _ _ _ := ⟨rfl, rfl⟩
  addTask _ _ _ _ := ⟨rfl, rfl⟩
  ioTask _ _ := ⟨rfl, rfl⟩
  enabled _ := ⟨rfl, rfl⟩

/-- A call of the IO task. -/
def Call.ofIoTask : Call → Bool
  | .processControlMessage _ _ | .report _ | .announceMutators _ => true
  | .initializeProbe _ _ _ | .produceSnapshot _ _ _ | .mergeSnapshot _ _ _
  | .recordEvent _ _ _ => false

/-- The IO task makes calls of its own and writes to no slot. -/
structure Aside (s t : State) : Prop where
  tcbProbes : t.tcbProbes = s.tcbProbes
  calls : ∃ new, t.calls = s.calls ++ new ∧ ∀ c ∈ new, c.ofIoTask = true

namespace Aside
variable {s r t : State}

theorem same (tcbProbes : t.tcbProbes = s.tcbProbes) (calls : t.calls = s.calls) : Aside s t :=
  ⟨tcbProbes, [], by rw [calls, List.append_nil], fun _ none => absurd none List.not_mem_nil⟩

theorem one {c : Call} (own : c.ofIoTask = true) (s : State) : Aside s (s.logCall c) :=
  ⟨rfl, [c], rfl, fun _ mem => List.mem_singleton.mp mem ▸ own⟩

theorem trans (h : Aside s r) (k : Aside r t) : Aside s t := by
  obtain ⟨new, calls, own⟩ := h.calls
  obtain ⟨more, calls', own'⟩ := k.calls
  refine ⟨k.tcbProbes.trans h.tcbProbes, new ++ more, ?_, fun c mem => ?_⟩
  · rw [calls', calls, List.append_assoc]
  · cases List.mem_append.mp mem with
    | inl here => exact own c here
    | inr later => exact own' c later

end Aside

theorem aside_controlEffect : ControlEffect Aside where
  refl _ := .same rfl rfl
  trans := .trans
  enter _ := .same rfl rfl
  exit _ := .same rfl rfl
  error msg s := by
    rw [State.prvTraceError_eq]
    exact .same rfl rfl
  receive _ _ _ := .same rfl rfl
  send _ _ _ _ _ := .same rfl rfl
  process _ _ s := .one rfl s
  report _ s := .one rfl s
  announce _ s := .one rfl s
  buffer _ _ := .same rfl rfl
  iters _ _ := .same rfl rfl
  point _ _ _ := .same rfl rfl

/-! Whole runs. -/

/-- The calls an action makes, those of a registration and of the IO task apart. -/
def hookCalls (cfg : Config) (s : State) (op : Op) : List Call :=
  match op with
  | .create _ _ _ _ | .ioRead _ | .ioSend | .ioReport _ _ | .process _ => []
  | .enable _ _ | .disable | .exclude _ | .delete _ | .start _ _ _ | .switch _ _ _ _ | .hook _ _
  | .setFilter _ _ | .getBuffer => (step cfg s op).calls.drop s.calls.length

theorem drop_calls {s t : State} {new : List Call} (h : t.calls = s.calls ++ new) :
    t.calls.drop s.calls.length = new := by
  rw [h, List.drop_left]

/-- The IO task leaves the relation alone. -/
theorem Follows.ofIoTask {tasks : Roster} {s t : State} {m : Schedule} (h : Follows tasks s m)
    (view : t.schedulerView = s.schedulerView) (registry : t.registry = s.registry)
    (aside : Aside s t) : Follows tasks t m := by
  have listed : t.tasks = s.tasks := congrArg Registry.tasks registry
  refine h.aside (running_same view) (congrArg SchedulerView.currentTcb view) ?_ ?_
  · rw [listed]
    exact fun task mem => mem
  · intro task mem traced
    rw [State.tcbProbe, aside.tcbProbes]
    rfl

/-- One action: the hooks make the calls the scheduler asks for. -/
theorem schedule_step {cfg : Config} {tasks : Roster} {s : State} {m : Schedule} {op : Op}
    (steady : Steady cfg s) (lists : tasks.Lists s) (legal : op.Legal cfg s)
    (allowed : Uninterrupted cfg s op) (h : Follows tasks s m) :
    hookCalls cfg s op = m.calls tasks op ∧ Follows tasks (step cfg s op) (m.step tasks op) := by
  have stays : ∀ task ∈ s.tasks, task ∈ (step cfg s op).tasks :=
    fun task mem => tasks_step allowed.continues.not_delete mem
  have idle : (step cfg s op).tcbProbes = s.tcbProbes → ∀ task ∈ s.tasks,
      tasks.traced task = true →
      (step cfg s op).tcbProbe (tasks.slot task) = s.tcbProbe (tasks.slot task) := by
    intro same task mem traced
    rw [State.tcbProbe, same]
    rfl
  cases op with
  | enable env io =>
      obtain ⟨slots, calls⟩ := idle_enableEffect.vTraceEnable cfg env io s
      refine ⟨drop_calls (calls.trans (List.append_nil _).symm), ?_⟩
      cases vTraceEnable_scheduler cfg env io s with
      | inl same =>
          exact h.aside (running_same same) (congrArg SchedulerView.currentTcb same) stays
            (idle slots)
      | inr created =>
          obtain ⟨new, isNew, view⟩ := created
          exact h.aside (running_created (legal new isNew) view)
            (congrArg SchedulerView.currentTcb view) stays (idle slots)
  | exclude pcName =>
      obtain ⟨slots, calls⟩ := idle_enableEffect.vTraceExcludeTask cfg pcName s
      have view := scheduler_registerEffect.vTraceExcludeTask cfg pcName s
      exact ⟨drop_calls (calls.trans (List.append_nil _).symm), h.aside (running_same view)
        (congrArg SchedulerView.currentTcb view) stays (idle slots)⟩
  | create env new name uxPriority =>
      have view := xTaskCreate_scheduler cfg env new name uxPriority s
      refine ⟨rfl, h.aside (running_created legal view) (congrArg SchedulerView.currentTcb view)
        stays fun task mem traced => ?_⟩
      exact created_slots allowed.continues
        (settles_of_noError allowed.continues allowed.noError)
        ((steady.ready lists mem).slot mem traced).1
  | start env next uxPriority =>
      have ready : Ready cfg tasks { s.select next with started := true } :=
        (steady.ready lists legal.2).same rfl rfl rfl
      have stopped : m.tracedTask tasks = none := by
        rw [Schedule.tracedTask, h.running, legal.1]
        rfl
      have passed : Passed tasks { s.select next with started := true } m := by
        refine ⟨h.currentTcb.trans ?_, h.baton⟩
        rw [stopped, Option.none_or]
      obtain ⟨calls, follows⟩ := switchedIn_follows uxPriority ready passed rfl rfl legal.2
        allowed.succeeds
      exact ⟨drop_calls calls, follows⟩
  | switch out in' next uxPriority =>
      have ready := steady.ready lists legal.2
      obtain ⟨view, registry⟩ := traceTaskSwitchedOut_same cfg out s
      obtain ⟨calls, passed, enabled⟩ :=
        switchedOut_follows ready h legal.1 allowed.succeeds.1
      have listed : (traceTaskSwitchedOut cfg out s).tasks = s.tasks :=
        congrArg Registry.tasks registry
      have ready' : Ready cfg tasks ((traceTaskSwitchedOut cfg out s).select next) :=
        ready.same registry (congrArg SchedulerView.filterMask view) enabled
      obtain ⟨calls', follows⟩ := switchedIn_follows uxPriority ready' ⟨passed.1, passed.2⟩ rfl
        ((congrArg SchedulerView.started view).trans legal.1) (listed ▸ legal.2)
        allowed.succeeds.2
      refine ⟨drop_calls ?_, follows⟩
      refine calls'.trans ?_
      change (traceTaskSwitchedOut cfg out s).calls ++ _ = _
      rw [calls, List.append_assoc]
      rfl
  | hook env k =>
      have logged := hook_follows steady lists h legal allowed.succeeds
      refine ⟨drop_calls (congrArg State.calls logged), ?_⟩
      rw [show step cfg s (.hook env k) = s.logAll (m.hook tasks k) from logged]
      exact ⟨h.running, h.listed, h.currentTcb, h.baton⟩
  | disable | delete _ | setFilter _ _ => exact absurd allowed.continues id
  | ioRead r =>
      refine ⟨rfl, ?_⟩
      rw [step]
      split
      · exact h.ofIoTask (scheduler_controlEffect.ioRead cfg r s)
          (registry_controlEffect.ioRead cfg r s) (aside_controlEffect.ioRead cfg r s)
      · exact h
      · exact h
  | ioSend =>
      exact ⟨rfl, h.ofIoTask (scheduler_controlEffect.ioSend cfg s)
        (registry_controlEffect.ioSend cfg s) (aside_controlEffect.ioSend cfg s)⟩
  | ioReport reports announcements =>
      exact ⟨rfl, h.ofIoTask (scheduler_controlEffect.ioReport cfg reports announcements s)
        (registry_controlEffect.ioReport cfg reports announcements s)
        (aside_controlEffect.ioReport cfg reports announcements s)⟩
  | process env =>
      exact ⟨rfl, h.ofIoTask
        (scheduler_controlEffect.vTraceProcessControlPlaneMessages cfg env s)
        (registry_controlEffect.vTraceProcessControlPlaneMessages cfg env s)
        (aside_controlEffect.vTraceProcessControlPlaneMessages cfg env s)⟩
  | getBuffer =>
      exact ⟨drop_calls (List.append_nil s.calls).symm, h.ofIoTask rfl rfl (.same rfl rfl)⟩

/-- A run, with what is known in each of its states. -/
theorem uninterrupted_run {cfg : Config} {ops : List Op} {s : State}
    (h : Reaches cfg (Uninterrupted cfg) ops s) :
    Steady cfg s ∧ Transition.Run (step cfg) (fun r op => (op.Legal cfg r ∧
      Uninterrupted cfg r op) ∧ Steady cfg r ∧ s.roster.Lists r) (State.init cfg) ops s := by
  have steady : ∀ r op, Steady cfg r → op.Legal cfg r ∧ Uninterrupted cfg r op →
      Steady cfg (step cfg r op) := fun r op h allowed => steady_step h allowed.1 allowed.2
  have strong := h.strengthen steady (steady_init cfg)
  refine ⟨h.invariant steady (steady_init cfg), ?_⟩
  have back := strong.backward (P := s.roster.Lists) (fun r op allowed later =>
    lists_back allowed.2 allowed.1.1 allowed.1.2.continues later) (roster_lists s)
  refine back.2.mono fun r op allowed => ⟨allowed.1.1, allowed.1.2, ?_⟩
  exact lists_back allowed.1.2 allowed.1.1.1 allowed.1.1.2.continues allowed.2

/-- What the hooks do of the scheduler's bidding in a run. -/
structure RefinesSchedule (cfg : Config) (ops : List Op) (s : State) : Prop where
  calls : Transition.outputs (step cfg) (hookCalls cfg) (State.init cfg) ops =
    Transition.outputs (Schedule.step s.roster) (Schedule.calls s.roster) {} ops
  own : ∀ task, s.prvTraceGetTaskFilter (some task) ≠ 0 → ∃ probe,
    s.roster.probe task = some probe ∧ s.getTcbProbe (some task) = some (s.roster.slot task) ∧
      ∀ other, s.roster.probe other = some probe → other = task

/-- A traced task has a probe and a slot of its own. -/
theorem Steady.own {cfg : Config} {s : State} (h : Steady cfg s) {task : TaskHandle}
    (traced : s.prvTraceGetTaskFilter (some task) ≠ 0) : ∃ probe,
    s.roster.probe task = some probe ∧ s.getTcbProbe (some task) = some (s.roster.slot task) ∧
      ∀ other, s.roster.probe other = some probe → other = task := by
  obtain ⟨i, e, at_i, isTask⟩ := (h.coherent.filter task).mp traced
  obtain ⟨probe, isProbe, -⟩ := h.sound.table.probe i e task at_i isTask
  have found : s.getTcbProbe (some task) = some i := by
    rw [getTcbProbe_eq]
    exact h.sound.table.isPacked.find_iff.mpr ⟨e, at_i, isTask⟩
  refine ⟨probe, (h.live i e task at_i isTask).2.trans isProbe, ?_, fun other isOther => ?_⟩
  · rw [found, (roster_lists s).slot task i found]
  · have registered : (s.registry.tcbs other).registered = some probe := isOther
    obtain ⟨j, e', at_j, isOwner⟩ :=
      (h.coherent.registered other).mp (Option.isSome_iff_exists.mpr ⟨probe, registered⟩)
    have same : j = i := h.sound.table.probes j i e' e probe at_j at_i
      ((h.live j e' other at_j isOwner).2.symm.trans registered) isProbe
    subst same
    rw [at_i, Option.some.injEq] at at_j
    subst at_j
    exact Option.some.inj (isOwner.symm.trans isTask)

/-- In an uninterrupted run the hooks make exactly the calls the scheduler asks for. -/
theorem hooks_refine_schedule {cfg : Config} {ops : List Op} {s : State}
    (h : Reaches cfg (Uninterrupted cfg) ops s) : RefinesSchedule cfg ops s := by
  obtain ⟨steady, run⟩ := uninterrupted_run h
  refine ⟨(run.simulates (R := Follows s.roster) ?_ (follows_init cfg s.roster)).1,
    fun task traced => steady.own traced⟩
  intro r m op allowed follows
  exact schedule_step allowed.2.1 allowed.2.2 allowed.1.1 allowed.1.2 follows

/-- Two traced tasks and the untraced IO task run in turn; a third one is created while they
run, and is selected twice. -/
def mixedRun : List Op :=
  [.enable {} (some ⟨0, 0, false⟩), .create {} ⟨1, 0, true⟩ [65] 1,
    .create {} ⟨2, 0, false⟩ [66] 1, .start {} 1 1, .hook {} (.taskDelay 5),
    .switch { produceSnapshot := some 7 } {} 0 1, .hook {} (.taskDelay 6), .switch {} {} 2 1,
    .create {} ⟨3, 0, false⟩ [67] 1, .switch { produceSnapshot := some 8 } {} 3 1,
    .switch { produceSnapshot := some 9 } {} 3 1, .switch {} {} 1 1]

theorem hooks_refine_schedule_mixed : RefinesSchedule Config.tests mixedRun
    (mixedRun.foldl (step Config.tests) (State.init Config.tests)) :=
  hooks_refine_schedule (Transition.Run.of_check (by decide +kernel))

end ProbeTrace
