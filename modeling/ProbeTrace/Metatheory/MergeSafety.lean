import ProbeTrace.Metatheory.Unregistered

/-!
The merge of snapshots is the only place that uses a slot without testing the lookup.
An assert stops it, and otherwise the invariant of the tasks without a slot does.
-/
namespace ProbeTrace

theorem fault_logEffect : LogEffect fun s t => t.fault = s.fault where
  refl _ := rfl
  trans h k := k.trans h
  enter _ := rfl
  exit _ := rfl
  error msg s := by rw [State.prvTraceError_eq]
  record _ _ _ _ := rfl
  produce env probe i s := by
    simp only [State.modalityProbeProduceSnapshot]
    split <;> rfl

theorem fault_registerEffect : RegisterEffect fun s t => t.fault = s.fault where
  refl _ := rfl
  trans h k := k.trans h
  enter _ := rfl
  exit _ := rfl
  error msg s := by rw [State.prvTraceError_eq]
  log _ _ _ := rfl
  tcb _ _ _ := rfl
  storage cfg env n s := by
    simp only [allocStorage]
    split <;> split <;> rfl
  probeIds _ _ := rfl
  slot _ _ _ := rfl
  messageBuffer cfg env s := by
    simp only [allocMessageBuffer]
    split <;> rfl
  taskBuffer env s := by
    simp only [allocTaskLocalBuffer]
    split <;> rfl
  exclude _ _ _ := rfl

theorem fault_enableEffect : EnableEffect fun s t => t.fault = s.fault where
  refl _ := rfl
  trans h k := k.trans h
  enter _ := rfl
  exit _ := rfl
  error msg s := by rw [State.prvTraceError_eq]
  exclude _ _ _ := rfl
  addTask _ _ _ _ := rfl
  ioTask _ _ := rfl
  enabled _ := rfl

theorem fault_controlEffect : ControlEffect fun s t => t.fault = s.fault where
  refl _ := rfl
  trans h k := k.trans h
  enter _ := rfl
  exit _ := rfl
  error msg s := by rw [State.prvTraceError_eq]
  receive _ _ _ := rfl
  send _ _ _ _ _ := rfl
  process _ _ _ := rfl
  report _ _ := rfl
  announce _ _ := rfl
  buffer _ _ := rfl
  iters _ _ := rfl
  point _ _ _ := rfl

/-- The lookups of the merge succeed, or their asserts are compiled in. -/
def LookupsSucceed (cfg : Config) (s : State) : Prop :=
  cfg.useTraceAssert = true ∨ (s.currentTcb.isSome = true → (s.getTcbProbe s.currentTcb).isSome = true) ∧
    (s.prevTcb.isSome = true → (s.getTcbProbe s.prevTcb).isSome = true)

theorem prvTraceMergeSnapshot_fault (cfg : Config) (env : External) {s : State}
    (found : LookupsSucceed cfg s) : (prvTraceMergeSnapshot cfg env s).fault = s.fault := by
  simp only [prvTraceMergeSnapshot]
  split
  · rename_i merges
    simp only [State.enter_isEnabled, State.enter_currentTcb, State.enter_prevTcb,
      Bool.and_eq_true] at merges
    have current : s.enterCriticalSection.getTcbProbe s.enterCriticalSection.currentTcb =
        s.getTcbProbe s.currentTcb := rfl
    have prev : s.enterCriticalSection.getTcbProbe s.enterCriticalSection.prevTcb =
        s.getTcbProbe s.prevTcb := rfl
    rw [current]
    have failed : ∀ msg : String, (id (s.enterCriticalSection.prvTraceError msg)).fault =
        s.fault := by
      intro msg
      rw [id_eq, State.prvTraceError_eq]
      rfl
    refine traceAssert_induction (P := fun t : State => t.fault = s.fault)
      (fun _ _ => failed _) (fun currentFound => ?_)
    rw [prev]
    refine traceAssert_induction (P := fun t : State => t.fault = s.fault)
      (fun _ _ => failed _) (fun prevFound => ?_)
    have both : (s.getTcbProbe s.currentTcb).isSome = true ∧
        (s.getTcbProbe s.prevTcb).isSome = true := by
      cases found with
      | inl asserts => exact ⟨currentFound asserts, prevFound asserts⟩
      | inr found => exact ⟨found.1 merges.1.2, found.2 merges.2⟩
    obtain ⟨i, hi⟩ := Option.isSome_iff_exists.mp both.1
    obtain ⟨j, hj⟩ := Option.isSome_iff_exists.mp both.2
    rw [hi, hj]
    refine traceAssert_induction (P := fun t : State => t.fault = s.fault)
      (fun _ _ => ?_) (fun _ => rfl)
    rw [id_eq, State.prvTraceError_eq]
    rfl
  · rfl

theorem getTcbProbe_isSome {s : State} {t : TaskHandle} (has : HasSlot s.registry t) :
    (s.getTcbProbe (some t)).isSome = true := by
  obtain ⟨i, e, at_i, tcb⟩ := has
  rw [getTcbProbe_eq]
  exact SlotTable.find_isSome_iff.mpr ⟨e, List.mem_of_getElem? at_i, tcb⟩

theorem Guarded.lookups (cfg : Config) {s : State} (h : Guarded s) : LookupsSucceed cfg s := by
  refine .inr ⟨fun some => ?_, fun some => ?_⟩
  · obtain ⟨t, current⟩ := Option.isSome_iff_exists.mp some
    rw [current]
    exact getTcbProbe_isSome (h.currentTcb t current)
  · obtain ⟨t, prev⟩ := Option.isSome_iff_exists.mp some
    rw [prev]
    exact getTcbProbe_isSome (h.prevTcb t prev)

/-- The switch of the traced task keeps the invariant behind an open gate. -/
theorem Guarded.switched {s : State} (h : Guarded s) (gate : filterGate s = true) :
    Guarded (prvTraceSwitchedTcb s.pxCurrentTcb s).2 := by
  obtain ⟨t, running, opened⟩ := filterGate_filter gate
  simp only [prvTraceSwitchedTcb]
  split
  · refine ⟨h.filter, fun u isCurrent => ?_, h.currentTcb⟩
    have same : t = u := Option.some.inj (running.symm.trans isCurrent)
    exact same ▸ h.filter t opened
  · exact h

theorem traceTaskSwitchedIn_fault (cfg : Config) (env : External) (uxPriority : BitVec 32)
    {s : State} (safe : cfg.useTraceAssert = true ∨ Guarded s) :
    (traceTaskSwitchedIn cfg env uxPriority s).fault = s.fault := by
  simp only [traceTaskSwitchedIn]
  split
  · rename_i gate
    have lookups : LookupsSucceed cfg (prvTraceSwitchedTcb s.pxCurrentTcb s).2 := by
      cases safe with
      | inl asserts => exact .inl asserts
      | inr guarded => exact (guarded.switched gate).lookups cfg
    have kept : (prvTraceSwitchedTcb s.pxCurrentTcb s).2.fault = s.fault := by
      simp only [prvTraceSwitchedTcb]
      split <;> rfl
    generalize prvTraceSwitchedTcb s.pxCurrentTcb s = p at lookups kept ⊢
    refine (fault_logEffect.logEvent ..).trans ?_
    split
    · exact (prvTraceMergeSnapshot_fault cfg env lookups).trans kept
    · exact kept
  · rfl

theorem Guarded.of_same {s t : State} (h : Guarded s) (registry : t.registry = s.registry)
    (current : t.currentTcb = s.currentTcb) (prev : t.prevTcb = s.prevTcb) : Guarded t := by
  refine ⟨fun u => ?_, fun u => ?_, fun u => ?_⟩
  · rw [registry]
    exact h.filter u
  · rw [registry, current]
    exact h.currentTcb u
  · rw [registry, prev]
    exact h.prevTcb u

theorem step_fault (cfg : Config) {s : State} (op : Op)
    (safe : cfg.useTraceAssert = true ∨ Guarded s) : (step cfg s op).fault = s.fault := by
  cases op with
  | enable env io => exact fault_enableEffect.vTraceEnable cfg env io s
  | disable => rfl
  | exclude pcName => exact fault_enableEffect.vTraceExcludeTask cfg pcName s
  | create env new name uxPriority =>
      exact fault_registerEffect.prvTraceRegisterTaskProbe cfg env new.handle uxPriority _
  | delete task => rfl
  | start env next uxPriority =>
      exact traceTaskSwitchedIn_fault cfg env uxPriority
        (safe.imp_right fun guarded => guarded.of_same rfl rfl rfl)
  | switch out in' next uxPriority =>
      obtain ⟨view, registry⟩ := traceTaskSwitchedOut_same cfg out s
      have kept : (traceTaskSwitchedOut cfg out s).fault = s.fault :=
        fault_logEffect.traceTaskSwitchedOut cfg out s
      refine (traceTaskSwitchedIn_fault cfg in' uxPriority ?_).trans kept
      exact safe.imp_right fun guarded => guarded.of_same registry
        (congrArg SchedulerView.currentTcb view) (congrArg SchedulerView.prevTcb view)
  | hook env h => exact fault_logEffect.run cfg env h s
  | setFilter task filter => rfl
  | ioRead r =>
      simp only [step]
      split
      · exact fault_controlEffect.ioRead cfg r s
      · rfl
      · rfl
  | ioSend => exact fault_controlEffect.ioSend cfg s
  | ioReport reports announcements =>
      exact fault_controlEffect.ioReport cfg reports announcements s
  | process env => exact fault_controlEffect.vTraceProcessControlPlaneMessages cfg env s
  | getBuffer => exact fault_controlEffect.pvTraceGetControlPlaneBuffer s

/-- vTraceEnable, vTraceDisable, vTraceExcludeTask, creations and switches; the kernel leaves
zero in the words of new tasks. -/
def Op.Switches : Op → Prop
  | .enable _ io => ∀ new ∈ io, new.taskNumber = 0
  | .create _ new _ _ => new.taskNumber = 0
  | .disable | .exclude _ | .start _ _ _ | .switch _ _ _ _ => True
  | .delete _ | .hook _ _ | .setFilter _ _ | .ioRead _ | .ioSend | .ioReport _ _ | .process _
  | .getBuffer => False

instance (op : Op) : Decidable op.Switches :=
  match op with
  | .enable _ io => inferInstanceAs (Decidable (∀ new ∈ io, new.taskNumber = 0))
  | .create _ new _ _ => inferInstanceAs (Decidable (new.taskNumber = 0))
  | .disable | .exclude _ | .start _ _ _ | .switch _ _ _ _ => isTrue trivial
  | .delete _ | .hook _ _ | .setFilter _ _ | .ioRead _ | .ioSend | .ioReport _ _ | .process _
  | .getBuffer => isFalse id

/-- Where asserts are compiled out, a task that gets a probe gets a slot. -/
def SettlesUnchecked (cfg : Config) (s : State) (op : Op) : Prop :=
  cfg.useTraceAssert = false → Settles cfg s op

instance (cfg : Config) (s : State) (op : Op) : Decidable (SettlesUnchecked cfg s op) :=
  inferInstanceAs (Decidable (_ → _))

theorem opensNoFilter_of_switches {cfg : Config} {s : State} {op : Op} (switches : op.Switches)
    (settles : Settles cfg s op) : OpensNoFilter cfg s op := by
  cases op with
  | enable env io =>
      cases io with
      | none => trivial
      | some new =>
          refine fun _ => .inr ?_
          rw [switches new rfl]
          exact readUpper_zero
  | create env new name uxPriority =>
      refine .inr ?_
      have zero : new.taskNumber = 0 := switches
      cases on : s.isEnabled with
      | true => exact settles on
      | false =>
          rw [zero]
          exact readUpper_zero
  | disable | exclude _ | start _ _ _ | switch _ _ _ _ => trivial
  | delete _ | hook _ _ | setFilter _ _ | ioRead _ | ioSend | ioReport _ _ | process _
  | getBuffer => exact switches.elim

/-- No merge dereferences a lookup that failed. -/
theorem merge_never_faults {cfg : Config} {ops : List Op} {s : State}
    (reached : Reaches cfg (fun s op => op.Switches ∧ SettlesUnchecked cfg s op) ops s) :
    s.fault = false := by
  have strong : s.fault = false ∧ (cfg.useTraceAssert = true ∨ Guarded s) := by
    refine reached.invariant (P := fun s => s.fault = false ∧
      (cfg.useTraceAssert = true ∨ Guarded s)) ?_ ⟨rfl, .inr (guarded_init cfg)⟩
    intro s op safe permitted
    refine ⟨(step_fault cfg op safe.2).trans safe.1, ?_⟩
    cases asserts : cfg.useTraceAssert with
    | true => exact .inl rfl
    | false =>
        cases safe.2 with
        | inl compiled =>
            rw [asserts] at compiled
            cases compiled
        | inr guarded =>
            exact .inr (guarded_step guarded permitted.1
              (opensNoFilter_of_switches permitted.2.1 (permitted.2.2 asserts)))
  exact strong.1

/-- The tests' configuration without asserts. -/
def Config.unchecked : Config := { Config.tests with useTraceAssert := false }

theorem merge_never_faults_two : ((createTasks 2 ++ [Op.start {} 1 1, .switch {} {} 2 1]).foldl
    (step Config.unchecked) (State.init Config.unchecked)).fault = false := by
  have reached : Reaches Config.unchecked
      (fun s op => op.Switches ∧ SettlesUnchecked Config.unchecked s op)
      (createTasks 2 ++ [Op.start {} 1 1, .switch {} {} 2 1]) _ :=
    Transition.Run.of_check (by decide +kernel)
  exact merge_never_faults reached

/-- A fifth task gets no slot, tracing is enabled again, and the task is switched out. -/
theorem merge_dereferences_null :
    ¬ ∀ (cfg : Config) (ops : List Op) (s : State),
      Reaches cfg (fun _ op => op.Switches) ops s → s.fault = false := by
  intro always
  have faulted := always Config.unchecked
    (createTasks 5 ++ [Op.enable {} none, .start {} 5 1, .switch {} {} 1 1])
    ((createTasks 5 ++ [Op.enable {} none, .start {} 5 1, .switch {} {} 1 1]).foldl
      (step Config.unchecked) (State.init Config.unchecked))
    (Transition.Run.of_check (by decide +kernel))
  revert faulted
  decide +kernel

end ProbeTrace
