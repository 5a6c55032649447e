import ProbeTrace.Foundation.CausalLog
import ProbeTrace.Metatheory.ScheduleRefinement

/-!
The order of events across probes. Each probe's log orders its own events, and the
snapshots join the logs: as long as nothing disturbs tracing, whatever was recorded before
an event leads to it, from log to log.
-/
namespace ProbeTrace
open CausalLog

/-! The trace of a run. -/

/-- A call, and whether it was made while a task was registered. -/
structure Entry where
  registers : Bool
  call : Call
  deriving DecidableEq, Repr

def Op.registers : Op → Bool
  | .create _ _ _ _ => true
  | .enable _ _ | .disable | .exclude _ | .delete _ | .start _ _ _ | .switch _ _ _ _ | .hook _ _
  | .setFilter _ _ | .ioRead _ | .ioSend | .ioReport _ _ | .process _ | .getBuffer => false

def newEntries (cfg : Config) (s : State) (op : Op) : List Entry :=
  ((step cfg s op).calls.drop s.calls.length).map (Entry.mk op.registers)

/-- All calls of a run, in the order in which they were made. -/
def traceEntries (cfg : Config) (ops : List Op) : List Entry :=
  Transition.outputs (step cfg) (newEntries cfg) (State.init cfg) ops

/-- The logs of the probes, joined by the snapshots of the slots. Of the snapshots produced,
those of a switch-out are in the log of the probe that produced them. -/
def probeLogs : Reading Entry Probe Nat Snapshot where
  log e := match e.call with
    | .recordEvent probe _ _ | .mergeSnapshot probe _ _ => probe
    | .produceSnapshot probe _ _ => if e.registers then none else probe
    | .initializeProbe _ _ _ | .processControlMessage _ _ | .report _ | .announceMutators _ => none
  writes e := match e.call with
    | .produceSnapshot _ slot (some _) => some slot
    | .produceSnapshot _ _ none | .recordEvent _ _ _ | .mergeSnapshot _ _ _
    | .initializeProbe _ _ _ | .processControlMessage _ _ | .report _ | .announceMutators _ => none
  reads e := match e.call with
    | .mergeSnapshot _ slot _ => some slot
    | .produceSnapshot _ _ _ | .recordEvent _ _ _ | .initializeProbe _ _ _
    | .processControlMessage _ _ | .report _ | .announceMutators _ => none
  value e := match e.call with
    | .produceSnapshot _ _ result => result
    | .mergeSnapshot _ _ snapshot => some snapshot
    | .recordEvent _ _ _ | .initializeProbe _ _ _ | .processControlMessage _ _ | .report _
    | .announceMutators _ => none

/-- A record of an event other than TASK_CREATE. -/
def HookEvent (e : Entry) : Prop :=
  ∃ probe id payload, e.call = .recordEvent probe id payload ∧ id ≠ TraceEvent.taskCreate

/-- The events recorded are in the trace, each leads to every later one, and a snapshot that
is merged is one that was produced at a switch-out. -/
structure CausallyComplete (cfg : Config) (ops : List Op) (s : State) : Prop where
  calls : (traceEntries cfg ops).map Entry.call = s.calls
  joined : ∀ i k e e', i < k → (traceEntries cfg ops)[i]? = some e →
    (traceEntries cfg ops)[k]? = some e' → HookEvent e → HookEvent e' →
    Path probeLogs (traceEntries cfg ops) i k
  merged : ∀ (k : Nat) (e : Entry) probe slot snapshot, (traceEntries cfg ops)[k]? = some e →
    e.call = .mergeSnapshot probe slot snapshot → ∃ i, Delivers probeLogs (traceEntries cfg ops) i k

/-! Calls are only added. -/

theorem calls_hookEffect : HookEffect fun s t => s.calls <+: t.calls where
  refl _ := List.prefix_refl _
  trans h k := h.trans k
  enter _ := List.prefix_refl _
  exit _ := List.prefix_refl _
  error msg s := by rw [State.prvTraceError_calls]
  record _ _ _ _ := List.prefix_append _ _
  produce env probe i s := by
    rw [modalityProbeProduceSnapshot_calls]
    exact List.prefix_append _ _
  merge _ _ _ := List.prefix_append _ _
  switched new s := by
    rw [prvTraceSwitchedTcb]
    split
    · exact List.prefix_refl _
    · exact List.prefix_refl _
  fault _ := List.prefix_refl _

theorem calls_registerEffect : RegisterEffect fun s t => s.calls <+: t.calls where
  refl _ := List.prefix_refl _
  trans h k := h.trans k
  enter _ := List.prefix_refl _
  exit _ := List.prefix_refl _
  error msg s := by rw [State.prvTraceError_calls]
  log _ _ _ := List.prefix_append _ _
  tcb _ _ _ := List.prefix_refl _
  storage cfg env n s := by
    rw [allocStorage]
    split <;> split <;> exact List.prefix_refl _
  probeIds _ _ := List.prefix_refl _
  slot _ _ _ := List.prefix_refl _
  messageBuffer cfg env s := by
    rw [allocMessageBuffer]
    split <;> exact List.prefix_refl _
  taskBuffer env s := by
    rw [allocTaskLocalBuffer]
    split <;> exact List.prefix_refl _
  exclude _ _ _ := List.prefix_refl _

theorem Aside.grows {s t : State} (h : Aside s t) : s.calls <+: t.calls := by
  obtain ⟨new, calls, -⟩ := h.calls
  exact ⟨new, calls.symm⟩

theorem calls_step (cfg : Config) (s : State) (op : Op) : s.calls <+: (step cfg s op).calls := by
  cases op with
  | enable env io =>
      rw [step, (idle_enableEffect.vTraceEnable cfg env io s).2]
  | disable | delete _ | setFilter _ _ | getBuffer => exact List.prefix_refl _
  | exclude pcName => exact calls_registerEffect.vTraceExcludeTask cfg pcName s
  | create env new name uxPriority =>
      exact calls_registerEffect.prvTraceRegisterTaskProbe cfg env new.handle uxPriority
        (s.addTask cfg new name)
  | start env next uxPriority =>
      exact calls_hookEffect.startScheduler cfg env next uxPriority (List.prefix_refl _)
  | switch out in' next uxPriority =>
      exact calls_hookEffect.contextSwitch cfg out in' next uxPriority s
        fun _ => List.prefix_refl _
  | hook env h => exact calls_hookEffect.run cfg env h s
  | ioRead r =>
      rw [step]
      split
      · exact (aside_controlEffect.ioRead cfg r s).grows
      · exact List.prefix_refl _
      · exact List.prefix_refl _
  | ioSend => exact (aside_controlEffect.ioSend cfg s).grows
  | ioReport reports announcements =>
      exact (aside_controlEffect.ioReport cfg reports announcements s).grows
  | process env => exact (aside_controlEffect.vTraceProcessControlPlaneMessages cfg env s).grows

/-! The causal past and the scheduler. -/

theorem not_hookEvent {e : Entry} (other : ∀ probe id payload,
    e.call = .recordEvent probe id payload → id = TraceEvent.taskCreate) : ¬ HookEvent e := by
  intro isHook
  obtain ⟨probe, id, payload, same, isNot⟩ := isHook
  exact isNot (other probe id payload same)

/-- Between two traced tasks the past is on offer in the slot of the first. -/
def Offers (tasks : Roster) (m : Schedule) (entries : List Entry) : Prop :=
  match m.baton with
  | some (task, snapshot) => ∃ probe, tasks.probe task = some probe ∧
      Offered probeLogs HookEvent entries probe (tasks.slot task) (some snapshot)
  | none => CausalLog.Quiet probeLogs HookEvent entries

/-- The past is in the log of the traced task that runs. -/
def Carries (tasks : Roster) (m : Schedule) (entries : List Entry) : Prop :=
  match m.tracedTask tasks with
  | some task => ∃ probe, tasks.probe task = some probe ∧
      Held probeLogs HookEvent entries probe
  | none => Offers tasks m entries

theorem Carries.causal {tasks : Roster} {m : Schedule} {entries : List Entry}
    (h : Carries tasks m entries) : Causal probeLogs HookEvent entries := by
  rw [Carries] at h
  split at h
  · obtain ⟨probe, -, held⟩ := h
    exact held.causal
  · rw [Offers] at h
    split at h
    · obtain ⟨probe, -, offered⟩ := h
      exact offered.causal
    · exact h.causal

theorem carries_nil (tasks : Roster) : Carries tasks {} [] := CausalLog.Quiet.nil

/-- The entries of calls that are not made in a registration. -/
def hookEntries (calls : List Call) : List Entry := calls.map (Entry.mk false)

section Scheduler
variable {tasks : Roster} {m : Schedule} {entries : List Entry}

theorem hook_carries (h : Hook) (carries : Carries tasks m entries) :
    Carries tasks m (entries ++ hookEntries (m.hook tasks h)) := by
  cases runs : m.tracedTask tasks with
  | none =>
      simp only [Schedule.hook, runs, hookEntries, List.map_nil, List.append_nil]
      exact carries
  | some task =>
      simp only [Carries, runs] at carries ⊢
      obtain ⟨probe, isProbe, held⟩ := carries
      refine ⟨probe, isProbe, ?_⟩
      cases recorded : hookRecord tasks.taskId h with
      | none =>
          simp only [Schedule.hook, runs, recorded, hookEntries, List.map_nil, List.append_nil]
          exact held
      | some record =>
          simp only [Schedule.hook, runs, recorded]
          exact held.record rfl isProbe

theorem switchedOut_offers {out : External} {snapshot : Snapshot}
    (produced : out.produceSnapshot = some snapshot) (carries : Carries tasks m entries) :
    Offers tasks (m.handOver tasks out) (entries ++ hookEntries (m.switchedOut tasks out)) := by
  cases runs : m.tracedTask tasks with
  | none =>
      simp only [Carries, runs] at carries
      simp only [Schedule.handOver, Schedule.switchedOut, runs, hookEntries, List.map_nil,
        List.append_nil]
      exact carries
  | some task =>
      simp only [Carries, runs] at carries
      obtain ⟨probe, isProbe, held⟩ := carries
      simp only [Offers, Schedule.handOver, Schedule.switchedOut, runs, produced]
      refine ⟨probe, isProbe, ?_⟩
      have isLog : probeLogs.log ⟨false, tasks.record task (TraceEvent.taskSwitchedOut, none)⟩ =
          some probe := isProbe
      have isLog' : probeLogs.log ⟨false, tasks.produce task (some snapshot)⟩ = some probe :=
        isProbe
      have recorded := held.record rfl isLog
      have offered := recorded.offer rfl isLog' rfl
      rw [List.append_assoc] at offered
      exact offered

/-- A task takes the past over from another one, or goes on with its own. -/
theorem received_holds {next : TaskHandle} {probe : Probe}
    (isProbe : tasks.probe next = some probe) (uxPriority : BitVec 32)
    (offers : Offers tasks m entries) : Held probeLogs HookEvent (entries ++ hookEntries
      (m.received tasks next ++ [tasks.record next (TraceEvent.taskSwitchedIn, some uxPriority)]))
      probe := by
  have record : ∀ {past}, Held probeLogs HookEvent past probe → Held probeLogs HookEvent (past ++
      hookEntries [tasks.record next (TraceEvent.taskSwitchedIn, some uxPriority)]) probe :=
    fun held => held.record rfl isProbe
  cases isBaton : m.baton with
  | none =>
      simp only [Offers, isBaton] at offers
      simp only [Schedule.received, isBaton, List.nil_append]
      exact offers.start rfl isProbe
  | some baton =>
      obtain ⟨source, snapshot⟩ := baton
      simp only [Offers, isBaton] at offers
      obtain ⟨own, isOwn, offered⟩ := offers
      by_cases same : source = next
      · simp only [Schedule.received, isBaton, if_pos same, List.nil_append]
        obtain rfl : probe = own := Option.some.inj (isProbe.symm.trans (same ▸ isOwn))
        exact record offered.held
      · simp only [Schedule.received, isBaton, if_neg same]
        have isLog : probeLogs.log ⟨false, tasks.merge next source snapshot⟩ = some probe :=
          isProbe
        have received := record (offered.receive rfl rfl isLog)
        rw [List.append_assoc] at received
        exact received

theorem switchedIn_carries {next : TaskHandle}
    (own : tasks.traced next = true → ∃ probe, tasks.probe next = some probe)
    (uxPriority : BitVec 32) (offers : Offers tasks m entries) :
    Carries tasks (m.select next)
      (entries ++ hookEntries (m.switchedIn tasks next uxPriority)) := by
  cases traced : tasks.traced next with
  | true =>
      obtain ⟨probe, isProbe⟩ := own traced
      have runs : (m.select next).tracedTask tasks = some next :=
        Option.filter_eq_some_iff.mpr ⟨rfl, traced⟩
      have calls : m.switchedIn tasks next uxPriority = m.received tasks next ++
          [tasks.record next (TraceEvent.taskSwitchedIn, some uxPriority)] := if_pos traced
      rw [calls]
      simp only [Carries, runs]
      exact ⟨probe, isProbe, received_holds isProbe uxPriority offers⟩
  | false =>
      have idle : (m.select next).tracedTask tasks = none :=
        Option.filter_eq_none_iff.mpr fun task isTask =>
          Option.some.inj isTask ▸ Bool.eq_false_iff.mp traced
      have silent : m.switchedIn tasks next uxPriority = [] :=
        if_neg (Bool.eq_false_iff.mp traced)
      rw [silent, hookEntries, List.map_nil, List.append_nil]
      simp only [Carries, idle]
      exact offers

/-- An entry that is no event of a hook and touches neither the log nor the slot of the task
that has the past. -/
theorem Carries.skip {e : Entry} (carries : Carries tasks m entries)
    (plain : probeLogs.reads e = none) (unmarked : ¬ HookEvent e)
    (other : ∀ task probe, (m.tracedTask tasks).or (m.baton.map Prod.fst) = some task →
      tasks.probe task = some probe →
      probeLogs.log e ≠ some probe ∧ probeLogs.writes e ≠ some (tasks.slot task)) :
    Carries tasks m (entries ++ [e]) := by
  cases runs : m.tracedTask tasks with
  | some task =>
      simp only [Carries, runs] at carries ⊢
      obtain ⟨probe, isProbe, held⟩ := carries
      rw [runs] at other
      exact ⟨probe, isProbe, held.skip plain unmarked (other task probe rfl isProbe).1⟩
  | none =>
      simp only [Carries, runs] at carries ⊢
      rw [runs] at other
      cases isBaton : m.baton with
      | none =>
          simp only [Offers, isBaton] at carries ⊢
          exact carries.skip plain unmarked
      | some baton =>
          obtain ⟨task, snapshot⟩ := baton
          simp only [Offers, isBaton] at carries ⊢
          rw [isBaton] at other
          obtain ⟨probe, isProbe, offered⟩ := carries
          obtain ⟨log, slot⟩ := other task probe rfl isProbe
          exact ⟨probe, isProbe, offered.skip plain unmarked log slot⟩

theorem Carries.skips {new : List Entry} (carries : Carries tasks m entries)
    (each : ∀ e ∈ new, probeLogs.reads e = none ∧ ¬ HookEvent e ∧
      ∀ task probe, (m.tracedTask tasks).or (m.baton.map Prod.fst) = some task →
        tasks.probe task = some probe →
        probeLogs.log e ≠ some probe ∧ probeLogs.writes e ≠ some (tasks.slot task)) :
    Carries tasks m (entries ++ new) := by
  induction new generalizing entries with
  | nil =>
      rw [List.append_nil]
      exact carries
  | cons e new ih =>
      obtain ⟨plain, unmarked, other⟩ := each e List.mem_cons_self
      have rest := ih (carries.skip plain unmarked other) fun e' mem => each e' (.tail _ mem)
      rw [List.append_assoc] at rest
      exact rest

end Scheduler

/-! The task that has the past. -/

theorem Follows.holder {tasks : Roster} {s : State} {m : Schedule} (h : Follows tasks s m)
    {task : TaskHandle} (has : (m.tracedTask tasks).or (m.baton.map Prod.fst) = some task) :
    task ∈ s.tasks ∧ tasks.traced task = true := by
  cases Option.or_eq_some_iff.mp has with
  | inl runs =>
      obtain ⟨running, traced⟩ := tracedTask_some runs
      exact ⟨h.listed task running, traced⟩
  | inr left =>
      obtain ⟨⟨source, snapshot⟩, isBaton, isTask⟩ := Option.map_eq_some_iff.mp left.2
      subst isTask
      obtain ⟨listed, traced, -⟩ := h.baton source snapshot isBaton
      exact ⟨listed, traced⟩

/-- Its probe lies in storage that was handed out. -/
theorem Ready.allocated {cfg : Config} {tasks : Roster} {s : State} (h : Ready cfg tasks s)
    {task : TaskHandle} (mem : task ∈ s.tasks) (traced : tasks.traced task = true) :
    ∃ probe, tasks.probe task = some probe ∧ Allocated cfg s.registry probe := by
  obtain ⟨found, isProbe⟩ := h.slot mem traced
  rw [getTcbProbe_eq] at found
  obtain ⟨⟨e, at_i, isTask⟩, -⟩ := SlotTable.find_eq_some_iff.mp found
  obtain ⟨probe, own, allocated⟩ := h.sound.table.probe _ e task at_i isTask
  refine ⟨probe, ?_, allocated⟩
  rw [← isProbe, (tcbProbe_fields at_i).2.1, own]

/-! One action. -/

/-- A registration starts a log of its own and writes to a slot that was free. -/
theorem created_carries {cfg : Config} {tasks : Roster} {s : State} {m : Schedule}
    {entries : List Entry} {env : External} {new : NewTask} {name : CString}
    {uxPriority : BitVec 32} (steady : Steady cfg s) (lists : tasks.Lists s)
    (allowed : Uninterrupted cfg s (.create env new name uxPriority)) (follows : Follows tasks s m)
    (carries : Carries tasks m entries) :
    Carries tasks m (entries ++ newEntries cfg s (.create env new name uxPriority)) := by
  have on : s.isEnabled = true := allowed.continues
  cases prvTraceRegisterTaskProbe_cases cfg env new.handle uxPriority
      (s := s.addTask cfg new name) on with
  | inl registers =>
      obtain ⟨i, outcome⟩ := registers
      have created := congrArg (List.map (Entry.mk true)) (drop_calls outcome.calls)
      rw [show newEntries cfg s (.create env new name uxPriority) = _ from created]
      have unused : ∀ task probe, (m.tracedTask tasks).or (m.baton.map Prod.fst) = some task →
          tasks.probe task = some probe →
          (s.addTask cfg new name).registry.storage cfg ≠ probe ∧ i ≠ tasks.slot task := by
        intro task probe has isProbe
        obtain ⟨mem, traced⟩ := follows.holder has
        have ready := steady.ready lists mem
        constructor
        · obtain ⟨own, isOwn, allocated⟩ := ready.allocated mem traced
          obtain rfl : own = probe := Option.some.inj (isOwn.symm.trans isProbe)
          intro same
          subst same
          exact storage_fresh cfg s.registry allocated
        · exact free_ne_used outcome.first (ready.slot mem traced).1
      refine carries.skips fun e mem => ?_
      simp only [List.map_cons, List.map_nil, List.mem_cons, List.not_mem_nil, or_false] at mem
      cases mem with
      | inl first =>
          subst first
          exact ⟨rfl, not_hookEvent fun _ _ _ same => Call.noConfusion same,
            fun _ _ _ _ => ⟨(Option.some_ne_none _).symm, (Option.some_ne_none _).symm⟩⟩
      | inr later =>
          cases later with
          | inl second =>
              subst second
              refine ⟨rfl, not_hookEvent fun _ _ _ same => Call.noConfusion same,
                fun task probe has isProbe => ⟨(Option.some_ne_none _).symm, ?_⟩⟩
              cases env.produceSnapshot with
              | none => exact (Option.some_ne_none _).symm
              | some snapshot =>
                  exact fun same => (unused task probe has isProbe).2 (Option.some.inj same)
          | inr third =>
              subst third
              refine ⟨rfl, not_hookEvent fun _ _ _ same => ?_,
                fun task probe has isProbe => ⟨?_, (Option.some_ne_none _).symm⟩⟩
              · exact (Call.recordEvent.inj same).2.1.symm
              · exact fun same => (unused task probe has isProbe).1 (Option.some.inj same)
  | inr unfound =>
      cases unfound with
      | inl nowhere =>
          exact absurd (settles_of_noError allowed.continues allowed.noError on nowhere.gets)
            nowhere.finds
      | inr nothing =>
          have silent : newEntries cfg s (.create env new name uxPriority) = [] :=
            congrArg (List.map (Entry.mk true))
              (drop_calls ((nothing.calls allowed.succeeds.1).trans (List.append_nil _).symm))
          rw [silent, List.append_nil]
          exact carries

/-- The IO task stays out of the logs and the slots. -/
theorem aside_carries {tasks : Roster} {s t : State} {m : Schedule} {entries : List Entry}
    (aside : Aside s t) (carries : Carries tasks m entries) :
    Carries tasks m (entries ++ hookEntries (t.calls.drop s.calls.length)) := by
  obtain ⟨new, calls, own⟩ := aside.calls
  rw [drop_calls calls]
  refine carries.skips fun e mem => ?_
  obtain ⟨c, isNew, isEntry⟩ := List.mem_map.mp mem
  subst isEntry
  have ofIoTask := own c isNew
  cases c with
  | processControlMessage _ _ | report _ | announceMutators _ =>
      exact ⟨rfl, not_hookEvent fun _ _ _ same => Call.noConfusion same,
        fun _ _ _ _ => ⟨(Option.some_ne_none _).symm, (Option.some_ne_none _).symm⟩⟩
  | initializeProbe _ _ _ | produceSnapshot _ _ _ | mergeSnapshot _ _ _ | recordEvent _ _ _ =>
      exact absurd ofIoTask Bool.false_ne_true

theorem causal_step {cfg : Config} {tasks : Roster} {s : State} {m : Schedule}
    {entries : List Entry} {op : Op} (steady : Steady cfg s) (lists : tasks.Lists s)
    (legal : op.Legal cfg s) (allowed : Uninterrupted cfg s op) (follows : Follows tasks s m)
    (carries : Carries tasks m entries) :
    Carries tasks (m.step tasks op) (entries ++ newEntries cfg s op) := by
  have asked := congrArg hookEntries (schedule_step steady lists legal allowed follows).1
  have quiet : newEntries cfg s op = [] → Carries tasks m (entries ++ newEntries cfg s op) := by
    intro silent
    rw [silent, List.append_nil]
    exact carries
  cases op with
  | enable _ _ | exclude _ | getBuffer => exact quiet asked
  | disable | delete _ | setFilter _ _ => exact absurd allowed.continues id
  | create env new name uxPriority => exact created_carries steady lists allowed follows carries
  | start env next uxPriority =>
      have ready := steady.ready lists legal.2
      have stopped : m.tracedTask tasks = none := by
        rw [Schedule.tracedTask, follows.running, legal.1]
        rfl
      have offers : Offers tasks m entries := by
        simp only [Carries, stopped] at carries
        exact carries
      rw [show newEntries cfg s (.start env next uxPriority) = _ from asked]
      refine switchedIn_carries (fun traced => ?_) uxPriority offers
      obtain ⟨probe, isProbe, -⟩ := ready.allocated legal.2 traced
      exact ⟨probe, isProbe⟩
  | switch out in' next uxPriority =>
      have ready := steady.ready lists legal.2
      obtain ⟨snapshot, produced⟩ := Option.isSome_iff_exists.mp allowed.succeeds.1.2.1
      have offers := switchedOut_offers produced carries
      rw [show newEntries cfg s (.switch out in' next uxPriority) = _ from asked, Schedule.calls,
        hookEntries, List.map_append, ← List.append_assoc]
      refine switchedIn_carries (fun traced => ?_) uxPriority offers
      obtain ⟨probe, isProbe, -⟩ := ready.allocated legal.2 traced
      exact ⟨probe, isProbe⟩
  | hook env h =>
      rw [show newEntries cfg s (.hook env h) = _ from asked]
      exact hook_carries h carries
  | ioRead r =>
      refine aside_carries ?_ carries
      rw [step]
      split
      · exact aside_controlEffect.ioRead cfg r s
      · exact .same rfl rfl
      · exact .same rfl rfl
  | ioSend => exact aside_carries (aside_controlEffect.ioSend cfg s) carries
  | ioReport reports announcements =>
      exact aside_carries (aside_controlEffect.ioReport cfg reports announcements s) carries
  | process env =>
      exact aside_carries (aside_controlEffect.vTraceProcessControlPlaneMessages cfg env s) carries

/-! Whole runs. -/

/-- What is known of a run so far. -/
structure Recorded (tasks : Roster) (s : State) (m : Schedule) (entries : List Entry) : Prop where
  calls : entries.map Entry.call = s.calls
  follows : Follows tasks s m
  carries : Carries tasks m entries

theorem recorded_init (cfg : Config) (tasks : Roster) : Recorded tasks (State.init cfg) {} [] where
  calls := rfl
  follows := follows_init cfg tasks
  carries := carries_nil tasks

theorem recorded_step {cfg : Config} {tasks : Roster} {s : State} {m : Schedule}
    {entries : List Entry} {op : Op} (steady : Steady cfg s) (lists : tasks.Lists s)
    (legal : op.Legal cfg s) (allowed : Uninterrupted cfg s op) (h : Recorded tasks s m entries) :
    Recorded tasks (step cfg s op) (m.step tasks op) (entries ++ newEntries cfg s op) where
  calls := by
    obtain ⟨new, grown⟩ := calls_step cfg s op
    rw [List.map_append, h.calls, newEntries, drop_calls grown.symm, List.map_map,
      show Entry.call ∘ Entry.mk op.registers = id from rfl, List.map_id, grown]
  follows := (schedule_step steady lists legal allowed h.follows).2
  carries := causal_step steady lists legal allowed h.follows h.carries

/-- In an uninterrupted run every recorded event leads to every later one. -/
theorem events_causally_complete {cfg : Config} {ops : List Op} {s : State}
    (h : Reaches cfg (Uninterrupted cfg) ops s) : CausallyComplete cfg ops s := by
  obtain ⟨-, run⟩ := uninterrupted_run h
  have recorded : Recorded s.roster s (ops.foldl (Schedule.step s.roster) {})
      ([] ++ traceEntries cfg ops) := by
    refine run.accumulates (R := Recorded s.roster) ?_ (recorded_init cfg s.roster)
    intro r m entries op allowed recorded
    exact recorded_step allowed.2.1 allowed.2.2 allowed.1.1 allowed.1.2 recorded
  have causal := recorded.carries.causal
  refine ⟨recorded.calls, causal.joined, fun k e probe slot snapshot at_k merges => ?_⟩
  refine causal.delivered k e slot at_k ?_
  simp only [probeLogs, merges]

theorem events_causally_complete_mixed : CausallyComplete Config.tests mixedRun
    (mixedRun.foldl (step Config.tests) (State.init Config.tests)) :=
  events_causally_complete (Transition.Run.of_check (by decide +kernel))

end ProbeTrace
