import ProbeTrace.Metatheory.StepCalls

/-!
The end of a trace. With asserts compiled in, vTraceEnable refuses once the kernel has a
current task; so tracing that is off then is off for good, whatever tracing function is called,
and the trace is what it was. Of the tracing functions' calls only the IO task's reports and the
tasks' control messages go on.
-/
namespace ProbeTrace

/-- The call is made for the probe of a slot: a report of the IO task, or a control message
of the slot's task. -/
def Call.Serves (slots : List TcbProbe) : Call → Prop
  | .report probe | .announceMutators probe => ∃ e ∈ slots, e.probe = some probe
  | .processControlMessage probe _ => ∃ e ∈ slots, e.tcb.isSome = true ∧ e.probe = probe
  | .initializeProbe _ _ _ | .produceSnapshot _ _ _ | .mergeSnapshot _ _ _
  | .recordEvent _ _ _ => False

/-- Slots, snapshots, probes and the allocators are as they were; the new calls serve the
slots. -/
structure TraceFrozen (s t : State) : Prop where
  tcbProbes : t.tcbProbes = s.tcbProbes
  probeIds : t.probeIds = s.probeIds
  nextStorageIndex : t.nextStorageIndex = s.nextStorageIndex
  nextBlock : t.nextBlock = s.nextBlock
  nextBuffer : t.nextBuffer = s.nextBuffer
  calls : ∃ new, t.calls = s.calls ++ new ∧ ∀ c ∈ new, c.Serves s.tcbProbes

/-- Tracing is off and the trace is frozen. -/
structure TraceOver (s t : State) : Prop where
  off : xTraceIsEnabled t = false
  frozen : TraceFrozen s t

namespace TraceFrozen
variable {s r t : State}

theorem noCalls {s : List Call} {slots : List TcbProbe} :
    ∃ new, s = s ++ new ∧ ∀ c ∈ new, Call.Serves slots c :=
  ⟨[], (List.append_nil s).symm, fun _ none => absurd none List.not_mem_nil⟩

theorem of_registry (registry : t.registry = s.registry) (tcbProbes : t.tcbProbes = s.tcbProbes)
    (calls : ∃ new, t.calls = s.calls ++ new ∧ ∀ c ∈ new, c.Serves s.tcbProbes) :
    TraceFrozen s t :=
  ⟨tcbProbes, congrArg Registry.probeIds registry, congrArg Registry.nextStorageIndex registry,
    congrArg Registry.nextBlock registry, congrArg Registry.nextBuffer registry, calls⟩

theorem same (registry : t.registry = s.registry) (tcbProbes : t.tcbProbes = s.tcbProbes)
    (calls : t.calls = s.calls) : TraceFrozen s t :=
  of_registry registry tcbProbes (calls ▸ noCalls)

theorem refl (s : State) : TraceFrozen s s := same rfl rfl rfl

theorem trans (h : TraceFrozen s r) (k : TraceFrozen r t) : TraceFrozen s t where
  tcbProbes := k.tcbProbes.trans h.tcbProbes
  probeIds := k.probeIds.trans h.probeIds
  nextStorageIndex := k.nextStorageIndex.trans h.nextStorageIndex
  nextBlock := k.nextBlock.trans h.nextBlock
  nextBuffer := k.nextBuffer.trans h.nextBuffer
  calls := by
    obtain ⟨new, calls, serve⟩ := h.calls
    obtain ⟨more, calls', serve'⟩ := k.calls
    rw [h.tcbProbes] at serve'
    refine ⟨new ++ more, by rw [calls', calls, List.append_assoc], fun c mem => ?_⟩
    cases List.mem_append.mp mem with
    | inl here => exact serve c here
    | inr later => exact serve' c later

end TraceFrozen

/-! What the actions do while tracing is off. -/

theorem frozen_enableEffect : EnableEffect TraceFrozen where
  refl := .refl
  trans := .trans
  enter _ := .same rfl rfl rfl
  exit _ := .same rfl rfl rfl
  error msg s := by
    rw [State.prvTraceError_eq]
    exact .same rfl rfl rfl
  exclude s ids names := ⟨rfl, rfl, rfl, rfl, rfl, TraceFrozen.noCalls⟩
  addTask cfg new name s := ⟨rfl, rfl, rfl, rfl, rfl, TraceFrozen.noCalls⟩
  ioTask _ _ := .same rfl rfl rfl
  enabled _ := .same rfl rfl rfl

/-- A found slot is one of the slots. -/
theorem tcbProbe_mem {s : State} {task : TaskHandle} {i : Nat}
    (found : s.getTcbProbe (some task) = some i) :
    s.tcbProbe i ∈ s.tcbProbes ∧ (s.tcbProbe i).tcb = some task := by
  rw [getTcbProbe_eq] at found
  have lt := SlotTable.find_lt found
  obtain ⟨⟨e, slot, tcb⟩, -⟩ := SlotTable.find_eq_some_iff.mp found
  have bound : i < s.tcbProbes.length := by
    simpa [State.registry] using lt
  refine ⟨?_, (tcbProbe_fields slot).1.trans tcb⟩
  rw [State.tcbProbe, List.getD_eq_getElem?_getD, List.getElem?_eq_getElem bound]
  exact List.getElem_mem bound

theorem process_frozen (cfg : Config) (env : External) {s : State} {task : TaskHandle}
    (current : s.pxCurrentTcb = some task) :
    TraceFrozen s (vTraceProcessControlPlaneMessages cfg env s) := by
  refine .of_registry (registry_controlEffect.vTraceProcessControlPlaneMessages cfg env s)
    (aside_controlEffect.vTraceProcessControlPlaneMessages cfg env s).tcbProbes ?_
  cases process_calls cfg env s with
  | inl same =>
      rw [same]
      exact TraceFrozen.noCalls
  | inr handed =>
      obtain ⟨i, msg, found, calls⟩ := handed
      rw [current] at found
      obtain ⟨mem, tcb⟩ := tcbProbe_mem found
      refine ⟨_, calls, fun c isNew => ?_⟩
      rw [List.mem_singleton.mp isNew]
      exact ⟨s.tcbProbe i, mem, by rw [tcb]; rfl, rfl⟩

theorem registeredProbes_slots {cfg : Config} {s : State} {probe : Probe}
    (mem : probe ∈ registeredProbes cfg s) : ∃ e ∈ s.tcbProbes, e.probe = some probe := by
  obtain ⟨i, -, own⟩ := List.mem_filterMap.mp mem
  cases slot : s.tcbProbes[i]? with
  | none =>
      rw [State.tcbProbe, List.getD_eq_getElem?_getD, slot] at own
      exact absurd own.symm (Option.some_ne_none probe)
  | some e =>
      rw [State.tcbProbe, List.getD_eq_getElem?_getD, slot] at own
      exact ⟨e, List.mem_of_getElem? slot, own⟩

theorem ioReport_frozen (cfg : Config) (reports announcements : Probe → IoWrite) (s : State) :
    TraceFrozen s (ioReport cfg reports announcements s) := by
  refine .of_registry (registry_controlEffect.ioReport cfg reports announcements s)
    (aside_controlEffect.ioReport cfg reports announcements s).tcbProbes ?_
  by_cases point : s.ioPoint = .report
  · have calls := (ioReport_end cfg reports announcements point).1
    rw [List.append_assoc] at calls
    refine ⟨_, calls, fun c mem => ?_⟩
    cases List.mem_append.mp mem with
    | inl reported =>
        obtain ⟨probe, isProbe, same⟩ := List.mem_map.mp reported
        subst same
        exact registeredProbes_slots isProbe
    | inr announced =>
        split at announced
        · obtain ⟨probe, isProbe, same⟩ := List.mem_map.mp announced
          subst same
          exact registeredProbes_slots isProbe
        · exact absurd announced List.not_mem_nil
  · have idle : ioReport cfg reports announcements s = s := by
      unfold ioReport
      split
      · exact absurd ‹_› point
      · rfl
      · rfl
    rw [idle]
    exact TraceFrozen.noCalls

theorem frozen_of_hook {s t : State} (trace : SameTrace s t) (registry : t.registry = s.registry) :
    TraceFrozen s t :=
  .same registry trace.tcbProbes trace.calls

/-- A switch-in changes no more than the tasks' focus. -/
theorem switchedIn_frozen (cfg : Config) (env : External) (uxPriority : BitVec 32) {s : State}
    (off : s.isEnabled = false) : TraceFrozen s (traceTaskSwitchedIn cfg env uxPriority s) :=
  frozen_of_hook (KernelHook.run_disabled cfg env (.taskSwitchedIn uxPriority) off)
    (registry_hookEffect.traceTaskSwitchedIn cfg env uxPriority s)

theorem step_frozen {cfg : Config} {s : State} {op : Op} {task : TaskHandle}
    (off : s.isEnabled = false) (current : s.pxCurrentTcb = some task) :
    TraceFrozen s (step cfg s op) := by
  cases op with
  | enable env io => exact frozen_enableEffect.vTraceEnable cfg env io s
  | exclude pcName => exact frozen_enableEffect.vTraceExcludeTask cfg pcName s
  | disable | getBuffer => exact .same rfl rfl rfl
  | delete _ | setFilter _ _ => exact ⟨rfl, rfl, rfl, rfl, rfl, TraceFrozen.noCalls⟩
  | create env new name uxPriority =>
      have skipped := prvTraceRegisterTaskProbe_disabled cfg env new.handle uxPriority
        (s := s.addTask cfg new name) off
      rw [step, xTaskCreate, skipped]
      exact ⟨rfl, rfl, rfl, rfl, rfl, TraceFrozen.noCalls⟩
  | start env next uxPriority =>
      exact .trans (r := { s.select next with started := true }) (.same rfl rfl rfl)
        (switchedIn_frozen cfg env uxPriority off)
  | switch out in' next uxPriority =>
      have quiet := frozen_of_hook (KernelHook.run_disabled cfg out .taskSwitchedOut off)
        (registry_hookEffect.traceTaskSwitchedOut cfg out s)
      have stillOff : (traceTaskSwitchedOut cfg out s).isEnabled = false :=
        (latched_hookEffect.traceTaskSwitchedOut cfg out s).keepsOff.off off
      have selected : TraceFrozen s ((traceTaskSwitchedOut cfg out s).select next) :=
        quiet.trans (.same rfl rfl rfl)
      exact selected.trans (switchedIn_frozen cfg in' uxPriority stillOff)
  | hook env h =>
      exact frozen_of_hook (KernelHook.run_disabled cfg env (.inTask h) off)
        (registry_hookEffect.run cfg env h s)
  | ioRead r =>
      unfold step
      dsimp only
      split
      · exact .same (registry_controlEffect.ioRead cfg r s)
          (aside_controlEffect.ioRead cfg r s).tcbProbes (ioRead_calls cfg r s)
      · exact .refl s
      · exact .refl s
  | ioSend =>
      exact .same (registry_controlEffect.ioSend cfg s) (aside_controlEffect.ioSend cfg s).tcbProbes
        (ioSend_calls cfg s)
  | ioReport reports announcements => exact ioReport_frozen cfg reports announcements s
  | process env => exact process_frozen cfg env current

/-! The current task and the guard of vTraceEnable. -/

/-- Once there is a current task there always is one. -/
theorem current_step {cfg : Config} {s : State} {op : Op} (legal : op.Legal cfg s)
    (current : s.pxCurrentTcb ≠ none) : (step cfg s op).pxCurrentTcb ≠ none := by
  cases step_scheduler legal with
  | same view =>
      exact fun none => current ((congrArg SchedulerView.pxCurrentTcb view).symm.trans none)
  | created new creates fresh view =>
      have px : (step cfg s op).pxCurrentTcb =
          if new.becomesCurrent then some new.handle else s.pxCurrentTcb :=
        congrArg SchedulerView.pxCurrentTcb view
      rw [px]
      split
      · exact Option.some_ne_none _
      · exact current
  | selected env next uxPriority v view registry outcome =>
      obtain ⟨prev, -, switched⟩ := traceTaskSwitchedIn_scheduler cfg env uxPriority v
      have kept : (traceTaskSwitchedIn cfg env uxPriority v).pxCurrentTcb = v.pxCurrentTcb := by
        refine (congrArg SchedulerView.pxCurrentTcb switched).trans ?_
        split <;> rfl
      have px : v.pxCurrentTcb = some next := congrArg SchedulerView.pxCurrentTcb view
      rw [outcome, kept, px]
      exact Option.some_ne_none next

/-- vTraceEnable refuses while there is a current task. -/
theorem off_step {cfg : Config} {s : State} {op : Op} (asserts : cfg.useTraceAssert = true)
    (off : s.isEnabled = false) (current : s.pxCurrentTcb ≠ none) :
    (step cfg s op).isEnabled = false := by
  by_cases enable : op.IsEnable
  · obtain ⟨env, io, isOp⟩ := enable
    subst isOp
    cases vTraceEnable_cases cfg env io s with
    | inl on => exact absurd (off.symm.trans on.1) Bool.false_ne_true
    | inr rest =>
        cases rest with
        | inl refused =>
            obtain ⟨-, -, msg, eq⟩ := refused
            rw [step, eq, State.prvTraceError_isEnabled]
        | inr enables => exact absurd (enables.2.1 asserts) current
  · exact (step_keepsOff cfg s op enable).off off

/-- From a state with tracing off and a current task, the trace is over. -/
theorem trace_over {cfg : Config} {ok : State → Op → Prop} {s t : State} {ops : List Op}
    (asserts : cfg.useTraceAssert = true)
    (run : Transition.Run (step cfg) (fun s op => op.Legal cfg s ∧ ok s op) s ops t)
    (off : xTraceIsEnabled s = false) (current : s.pxCurrentTcb ≠ none) : TraceOver s t := by
  have ended := run.invariant
    (P := fun t => TraceOver s t ∧ t.pxCurrentTcb ≠ none) ?_ ⟨⟨off, .refl s⟩, current⟩
  · exact ended.1
  intro r op inv allowed
  obtain ⟨task, isTask⟩ := Option.ne_none_iff_exists'.mp inv.2
  exact ⟨⟨off_step asserts inv.1.off inv.2, inv.1.frozen.trans (step_frozen inv.1.off isTask)⟩,
    current_step allowed.1 inv.2⟩

/-- Enable tracing, create a task, disable tracing. -/
def traceOff : List Op :=
  [.enable {} (some { handle := 0, taskNumber := 0, becomesCurrent := false }),
    .create {} { handle := 1, taskNumber := 0, becomesCurrent := true } [65] 1, .disable]

/-- Create a further task, try to enable tracing again, and delay the task. -/
def goOn : List Op :=
  [.create {} { handle := 2, taskNumber := 0, becomesCurrent := true } [66] 1, .enable {} none,
    .hook {} (.taskDelay 5)]

theorem trace_over_disabled :
    TraceOver (traceOff.foldl (step Config.tests) (State.init Config.tests))
      (goOn.foldl (step Config.tests)
        (traceOff.foldl (step Config.tests) (State.init Config.tests))) := by
  have run : Transition.Run (step Config.tests) (fun s op => op.Legal Config.tests s ∧ True)
      (traceOff.foldl (step Config.tests) (State.init Config.tests)) goOn
      (goOn.foldl (step Config.tests)
        (traceOff.foldl (step Config.tests) (State.init Config.tests))) :=
    Transition.Run.of_check (by decide +kernel)
  exact trace_over rfl run (by decide +kernel) (by decide +kernel)

end ProbeTrace
