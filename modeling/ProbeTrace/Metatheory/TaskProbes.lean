import ProbeTrace.Metatheory.ControlMoves
import ProbeTrace.Metatheory.Focus

/-!
A task's events, snapshots and control messages go to its own probe: with filters that
change while tasks run, and with control blocks whose address is used again.
-/
namespace ProbeTrace

/-! Events and snapshots of the running task. -/

/-- Every hook records into the probe of the task that runs, and a snapshot it produces
goes from that probe into that task's slot. -/
def OwnProbes (cfg : Config) (s : State) : Prop :=
  ∀ (op : Op) (v : State) (env : External) (k : KernelHook), HookTaken cfg s op v env k →
    ∃ new, (k.run cfg env v).calls = v.calls ++ new ∧ ∀ c ∈ new, ∃ task own,
      v.pxCurrentTcb = some task ∧ (v.tcbs task).registered = some own ∧ c.probe = some own ∧
      ∀ slot ∈ c.producesInto, v.getTcbProbe (some task) = some slot

theorem OwnProbes.of_focused {cfg : Config} {s : State} (sound : Sound cfg s.registry)
    (live : Live s.registry) (h : Focused s) : OwnProbes cfg s := by
  intro op v env k taken
  obtain ⟨registry, new, calls, only⟩ := hook_onlyFor h taken
  refine ⟨new, calls, fun c mem => ?_⟩
  obtain ⟨task, current, i, found, probe, slot⟩ := only c mem
  have found' : SlotTable.find TcbProbe.tcb s.registry.slots (some task) = some i := by
    rw [← registry, ← getTcbProbe_eq, found]
  obtain ⟨⟨e, he, tcb⟩, -⟩ := SlotTable.find_eq_some_iff.mp found'
  obtain ⟨own, hp, -⟩ := sound.table.probe i e task he tcb
  have registered : (v.registry.tcbs task).registered = some own := by
    rw [registry]
    exact (live i e task he tcb).2.trans hp
  refine ⟨task, own, current, registered, ?_, fun j mem => by rw [found, slot j mem]⟩
  rw [probe, (tcbProbe_fields (registry ▸ he)).2.1, hp]

/-- Actions that delete no task and open no filter of a task whose switch-in was skipped. -/
def Undisturbed (s : State) (op : Op) : Prop :=
  ¬ op.IsDelete ∧ FilterKept s op

instance (s : State) (op : Op) : Decidable (Undisturbed s op) :=
  inferInstanceAs (Decidable (_ ∧ _))

/-- No event is recorded in another task's probe. -/
theorem own_probes {cfg : Config} {ops : List Op} {s : State}
    (h : Reaches cfg (fun s op => Undisturbed s op) ops s) : OwnProbes cfg s := by
  obtain ⟨sound, live⟩ := registry_of_run (fun _ _ permitted => permitted.1) h
  exact .of_focused sound live (focused_of_run (fun _ _ permitted => permitted.2) h)

/-- A filter is written of a registered task only. -/
def Op.FiltersRegistered (s : State) : Op → Prop
  | .setFilter task _ => (s.tcbs task).registered.isSome = true
  | _ => True

instance (s : State) (op : Op) : Decidable (op.FiltersRegistered s) :=
  match op with
  | .enable _ _ | .disable | .exclude _ | .create _ _ _ _ | .delete _ | .start _ _ _
  | .switch _ _ _ _ | .hook _ _ | .ioRead _ | .ioSend | .ioReport _ _ | .process _
  | .getBuffer => isTrue trivial
  | .setFilter task _ => inferInstanceAs (Decidable ((s.tcbs task).registered.isSome = true))

/-- Two traced tasks; the filter of the second is closed while the first runs, and the
second is switched in. -/
def skipSwitchIn : List Op :=
  [.enable {} (some { handle := 0, taskNumber := 0, becomesCurrent := false }),
    .create {} { handle := 1, taskNumber := 0, becomesCurrent := true } [65] 1,
    .create {} { handle := 2, taskNumber := 0, becomesCurrent := false } [66] 1,
    .start {} 1 1, .setFilter 2 0, .switch {} {} 2 1]

theorem own_probes_skipped :
    OwnProbes Config.tests (skipSwitchIn.foldl (step Config.tests) (State.init Config.tests)) :=
  own_probes (Transition.Run.of_check (by decide +kernel))

/-- Once the second task opens its own filter, its delay is recorded for the first. -/
theorem delay_recorded_elsewhere :
    ¬ ∀ (cfg : Config) (ops : List Op) (s : State),
      Reaches cfg (fun s op => ¬ op.IsDelete ∧ op.ZeroNumbers ∧ op.FiltersRegistered s) ops s →
      s.isEnabled = true → s.errors = [] → OwnProbes cfg s := by
  intro always
  have own := always Config.tests (skipSwitchIn ++ [Op.setFilter 2 0xFFFF])
    ((skipSwitchIn ++ [Op.setFilter 2 0xFFFF]).foldl (step Config.tests)
      (State.init Config.tests))
    (Transition.Run.of_check (by decide +kernel)) (by decide +kernel) (by decide +kernel)
  obtain ⟨new, calls, only⟩ := own _ _ _ _ (.inTask {} (.taskDelay 5))
  have made : new = [.recordEvent (some (.heap 0)) TraceEvent.taskDelay (some 5)] :=
    List.append_cancel_left (calls.symm.trans (by decide +kernel))
  rw [made] at only
  obtain ⟨task, probe, current, registered, call, -⟩ := only _ (List.mem_singleton_self _)
  have current' : some 2 = some task := by
    rw [← current]
    decide +kernel
  injection current' with isTask
  subst isTask
  have registered' : some (Storage.heap 2) = some probe := by
    rw [← registered]
    decide +kernel
  rw [← registered'] at call
  cases call

/-! Control blocks that are used again. -/

/-- What is recorded and processed for a registered task uses the probe of its last
registration. -/
structure RegisteredProbes (cfg : Config) (s : State) : Prop where
  hooks : ∀ (op : Op) (v : State) (env : External) (k : KernelHook), HookTaken cfg s op v env k →
    ∃ new, (k.run cfg env v).calls = v.calls ++ new ∧ ∀ c ∈ new, ∀ task own,
      v.pxCurrentTcb = some task → (v.tcbs task).registered = some own → c.probe = some own
  messages : ∀ env : External, ∃ new,
    (vTraceProcessControlPlaneMessages cfg env s).calls = s.calls ++ new ∧ ∀ c ∈ new,
      ∀ task own, s.pxCurrentTcb = some task → (s.tcbs task).registered = some own →
        c.probe = some own

/-- The slot found for a registered task holds its probe. -/
theorem Sound.probe_of_found {cfg : Config} {s : State} (h : Sound cfg s.registry)
    {task : TaskHandle} {own : Probe} {i : Nat} (found : s.getTcbProbe (some task) = some i)
    (registered : (s.tcbs task).registered = some own) : (s.tcbProbe i).probe = some own := by
  rw [getTcbProbe_eq] at found
  obtain ⟨⟨e, he, tcb⟩, -⟩ := SlotTable.find_eq_some_iff.mp found
  rw [(tcbProbe_fields he).2.1]
  exact h.owners.slot i e task own he tcb registered

theorem RegisteredProbes.of_focused {cfg : Config} {s : State} (sound : Sound cfg s.registry)
    (h : Focused s) : RegisteredProbes cfg s where
  hooks op v env k taken := by
    obtain ⟨registry, new, calls, only⟩ := hook_onlyFor h taken
    refine ⟨new, calls, fun c mem task own current registered => ?_⟩
    obtain ⟨task', current', i, found, probe, -⟩ := only c mem
    obtain rfl : task = task' := Option.some.inj (current.symm.trans current')
    have sound' : Sound cfg v.registry := registry ▸ sound
    exact probe.trans (sound'.probe_of_found found registered)
  messages env := by
    rcases process_calls cfg env s with same | ⟨i, msg, found, calls⟩
    · exact ⟨[], by rw [same, List.append_nil], fun _ mem => by cases mem⟩
    · refine ⟨_, calls, fun c mem task own current registered => ?_⟩
      rw [List.mem_singleton.mp mem]
      rw [current] at found
      exact sound.probe_of_found found registered

/-- Actions that register no task at an address that still has a slot, and open no filter
of a task whose switch-in was skipped. -/
def Separate (cfg : Config) (s : State) (op : Op) : Prop :=
  NoStaleSlot cfg s op ∧ FilterKept s op

instance (cfg : Config) (s : State) (op : Op) : Decidable (Separate cfg s op) :=
  inferInstanceAs (Decidable (_ ∧ _))

/-- A recreated task uses its own probe. -/
theorem registered_probes {cfg : Config} {ops : List Op} {s : State}
    (h : Reaches cfg (Separate cfg) ops s) : RegisteredProbes cfg s := by
  have sound : Sound cfg s.registry := by
    refine h.invariant (P := fun s => Sound cfg s.registry) ?_ (.init cfg)
    rintro s op sound ⟨legal, fresh, -⟩
    exact sound_step sound fresh
  exact .of_focused sound (focused_of_run (fun _ _ permitted => permitted.2) h)

/-- A task is deleted and a task of the given name is created at its address. -/
def recreate (before after : CString) : List Op :=
  [.enable {} (some { handle := 0, taskNumber := 0, becomesCurrent := false }),
    .exclude [88],
    .create {} { handle := 1, taskNumber := 0, becomesCurrent := false } before 1,
    .create {} { handle := 2, taskNumber := 0, becomesCurrent := false } [66] 1,
    .start {} 2 1, .delete 1,
    .create {} { handle := 1, taskNumber := 0, becomesCurrent := false } after 1,
    .switch {} {} 1 1]

/-- The first task was excluded. -/
theorem registered_probes_recreated :
    RegisteredProbes Config.tests
      ((recreate [88] [65]).foldl (step Config.tests) (State.init Config.tests)) :=
  registered_probes (Transition.Run.of_check (by decide +kernel))

/-- The first task was traced: the second one's delay is recorded in the first one's
probe. -/
theorem recreated_records_elsewhere :
    ¬ ∀ (cfg : Config) (ops : List Op) (s : State),
      Reaches cfg (fun _ op => ¬ op.IsSetFilter ∧ op.ZeroNumbers) ops s →
      s.isEnabled = true → s.errors = [] → RegisteredProbes cfg s := by
  intro always
  have own := (always Config.tests (recreate [65] [65])
    ((recreate [65] [65]).foldl (step Config.tests) (State.init Config.tests))
    (Transition.Run.of_check (by decide +kernel)) (by decide +kernel) (by decide +kernel)).hooks
  obtain ⟨new, calls, only⟩ := own _ _ _ _ (.inTask {} (.taskDelay 5))
  have made : new = [.recordEvent (some (.heap 0)) TraceEvent.taskDelay (some 5)] :=
    List.append_cancel_left (calls.symm.trans (by decide +kernel))
  rw [made] at only
  have call := only _ (List.mem_singleton_self _) 1 (.heap 4) (by decide +kernel)
    (by decide +kernel)
  cases call

end ProbeTrace
