import ProbeTrace.Metatheory.Focus
import ProbeTrace.Metatheory.RegistryCoherence

/-!
Tasks without a slot. The hooks take a task for traced by its filter alone, and look its
slot up later; both agree as long as no task keeps an open filter without a slot.
-/
namespace ProbeTrace

/-! Slots stay. -/

theorem hasSlot_iff_mem (r : Registry) (t : TaskHandle) :
    HasSlot r t ↔ some t ∈ r.slots.map TcbProbe.tcb := by
  rw [List.mem_map]
  constructor
  · intro has
    obtain ⟨i, e, at_i, tcb⟩ := has
    exact ⟨e, List.mem_of_getElem? at_i, tcb⟩
  · intro member
    obtain ⟨e, mem, tcb⟩ := member
    obtain ⟨i, at_i⟩ := List.mem_iff_getElem?.mp mem
    exact ⟨i, e, at_i, tcb⟩

instance (r : Registry) (t : TaskHandle) : Decidable (HasSlot r t) :=
  decidable_of_iff _ (hasSlot_iff_mem r t).symm

theorem modifySlot_map {β : Type} {g : TcbProbe → β} {f : TcbProbe → TcbProbe}
    (keeps : ∀ e, g (f e) = g e) (i : Nat) (r : Registry) :
    (r.modifySlot i f).slots.map g = r.slots.map g := by
  rw [Registry.modifySlot, List.map_set, keeps]
  by_cases inside : i < r.slots.length
  · have bound : i < (r.slots.map g).length := by rwa [List.length_map]
    have here : g (r.slots.getD i {}) = (r.slots.map g)[i] := by
      rw [List.getElem_map, List.getD_eq_getElem?_getD, List.getElem?_eq_getElem inside]
      rfl
    rw [here, List.set_getElem_self]
  · exact List.set_eq_of_length_le (by rwa [List.length_map, ← Nat.not_lt])

/-- The task of a slot and its probe. -/
def TcbProbe.entry (e : TcbProbe) : Option TaskHandle × Option Probe := (e.tcb, e.probe)

/-- Filling a slot writes one entry. -/
theorem fillSlot_entry (cfg : Config) (env : External) (i : Nat) (task : TaskHandle)
    (probe : Probe) (r : Registry) : (r.fillSlot cfg env i task probe).slots.map TcbProbe.entry =
      (r.slots.map TcbProbe.entry).set i (some task, some probe) := by
  have put : (r.putTask i task probe).slots.map TcbProbe.entry =
      (r.slots.map TcbProbe.entry).set i (some task, some probe) := List.map_set
  simp only [Registry.fillSlot]
  split
  · simp only [Registry.addBuffers]
    split
    · refine (modifySlot_map ?_ i _).trans put
      intro e
      rfl
    · exact put
  · exact put

/-- The slots after a registration that filled one. -/
theorem registersIn_entry {cfg : Config} {env : External} {task : TaskHandle}
    {uxPriority : BitVec 32} {i : Nat} {s t : State}
    (h : RegistersIn cfg env task uxPriority i s t) :
    t.registry.slots.map TcbProbe.entry =
      (s.registry.slots.map TcbProbe.entry).set i (some task, some (s.registry.storage cfg)) := by
  rw [h.registry]
  refine (fillSlot_entry cfg env i task _ _).trans ?_
  have slots : (s.registry.allocate cfg task).slots = s.registry.slots := by
    simp [Registry.allocate, Registry.setProbeId, Registry.nameTask, Registry.modifyTcb]
  rw [slots]

/-- The task has a slot now, with the probe it was given. -/
theorem registersIn_slot {cfg : Config} {env : External} {task : TaskHandle}
    {uxPriority : BitVec 32} {i : Nat} {s t : State}
    (h : RegistersIn cfg env task uxPriority i s t) :
    ∃ e, t.registry.slots[i]? = some e ∧ e.tcb = some task ∧
      e.probe = some (s.registry.storage cfg) := by
  have first := h.first
  rw [getTcbProbe_eq] at first
  have inside : i < (s.registry.slots.map TcbProbe.entry).length := by
    rw [List.length_map]
    exact SlotTable.find_lt first
  have entry := congrArg (fun entries => entries[i]?) (registersIn_entry h)
  simp only [List.getElem?_set_self inside, List.getElem?_map, Option.map_eq_some_iff] at entry
  obtain ⟨e, at_i, fields⟩ := entry
  exact ⟨e, at_i, congrArg Prod.fst fields, congrArg Prod.snd fields⟩

theorem registersIn_hasSlot {cfg : Config} {env : External} {task : TaskHandle}
    {uxPriority : BitVec 32} {i : Nat} {s t : State}
    (h : RegistersIn cfg env task uxPriority i s t) :
    HasSlot t.registry task ∧ ∀ u, HasSlot s.registry u → HasSlot t.registry u := by
  have first := h.first
  rw [getTcbProbe_eq] at first
  obtain ⟨⟨e₀, he₀, free⟩, -⟩ := SlotTable.find_eq_some_iff.mp first
  constructor
  · obtain ⟨e, at_i, tcb, -⟩ := registersIn_slot h
    exact ⟨i, e, at_i, tcb⟩
  · intro u has
    obtain ⟨j, e, at_j, tcb⟩ := has
    have ne : i ≠ j := by
      intro same
      rw [same, at_j, Option.some.injEq] at he₀
      rw [← he₀, tcb] at free
      cases free
    have entry := congrArg (fun entries => entries[j]?) (registersIn_entry h)
    simp only [List.getElem?_set_ne ne, List.getElem?_map, at_j, Option.map_some,
      Option.map_eq_some_iff] at entry
    obtain ⟨e', at_j', fields⟩ := entry
    exact ⟨j, e', at_j', (congrArg Prod.fst fields).trans tcb⟩

/-- No action takes a slot away. -/
theorem hasSlot_step (cfg : Config) (s : State) (op : Op) {t : TaskHandle}
    (has : HasSlot s.registry t) : HasSlot (step cfg s op).registry t := by
  cases step_registry cfg s op with
  | same registry | excluded _ registry | ioCreated _ _ _ registry | deleted _ _ registry
  | filtered _ _ _ registry | created _ _ _ _ _ _ registry =>
      rw [registry]
      exact has
  | registersIn env new name uxPriority i isOp on outcome =>
      exact (registersIn_hasSlot (s := s.addTask cfg new name) outcome).2 t has
  | registersNowhere env new name uxPriority isOp on outcome =>
      rw [outcome.registry]
      obtain ⟨i, e, at_i, tcb⟩ := has
      refine ⟨i, e, ?_, tcb⟩
      rw [← at_i]
      simp [Registry.allocate, Registry.setProbeId, Registry.nameTask, Registry.modifyTcb,
        Registry.markTask, addTask_registry, Registry.addTask]
  | registersNothing env new name uxPriority isOp on outcome =>
      rw [outcome.registry]
      obtain ⟨i, e, at_i, tcb⟩ := has
      refine ⟨i, e, ?_, tcb⟩
      rw [← at_i]
      split <;> simp [Registry.nameTask, Registry.modifyTcb, addTask_registry, Registry.addTask]

/-! The invariant. -/

/-- An open filter, g_current_tcb and g_prev_tcb belong to tasks with slots. -/
structure Guarded (s : State) : Prop where
  filter : ∀ t, s.registry.filter t ≠ 0 → HasSlot s.registry t
  currentTcb : ∀ t, s.currentTcb = some t → HasSlot s.registry t
  prevTcb : ∀ t, s.prevTcb = some t → HasSlot s.registry t

theorem guarded_init (cfg : Config) : Guarded (State.init cfg) where
  filter _ opened := absurd readUpper_zero opened
  currentTcb _ none := nomatch none
  prevTcb _ none := nomatch none

/-- This call of vTraceEnable goes on to create the IO task. -/
def CreatesIoTask (cfg : Config) (s : State) : Prop :=
  s.isEnabled = false ∧ GuardPasses cfg s ∧ cfg.includeIoTask = true ∧ s.ioTaskHandle = none

instance (cfg : Config) (s : State) : Decidable (CreatesIoTask cfg s) := by
  unfold CreatesIoTask GuardPasses
  infer_instance

/-- A new task that the library does not register has no open filter: the kernel left the
upper half of its word zero, where the creation hook does not clear it. -/
def OpensNoFilter (cfg : Config) (s : State) : Op → Prop
  | .create env new name _ => HasSlot s.registry new.handle ∨
      if s.isEnabled then GetsProbe cfg env new.handle (s.registry.addTask cfg new name) →
        FindsSlot cfg env s.registry
      else traceReadUpper16 new.taskNumber = 0
  | .enable _ (some new) => CreatesIoTask cfg s → HasSlot s.registry new.handle ∨
      traceReadUpper16 new.taskNumber = 0
  | .setFilter task filter => filter = 0 ∨ HasSlot s.registry task
  | _ => True

instance (cfg : Config) (s : State) (op : Op) : Decidable (OpensNoFilter cfg s op) :=
  match op with
  | .create _ new _ _ => inferInstanceAs (Decidable (HasSlot s.registry new.handle ∨
      if s.isEnabled then _ → _ else _))
  | .enable _ (some _) => inferInstanceAs (Decidable (CreatesIoTask cfg s → _ ∨ _))
  | .setFilter _ _ => inferInstanceAs (Decidable (_ ∨ _))
  | .enable _ none | .disable | .exclude _ | .delete _ | .start _ _ _ | .switch _ _ _ _
  | .hook _ _ | .ioRead _ | .ioSend | .ioReport _ _ | .process _ | .getBuffer => isTrue trivial

/-- Any other call leaves the registry alone. -/
theorem vTraceEnable_skips (cfg : Config) (env : External) (io : Option NewTask) {s : State}
    (none : ¬ CreatesIoTask cfg s) : (vTraceEnable cfg env io s).registry = s.registry ∧
      (vTraceEnable cfg env io s).ioTaskHandle = s.ioTaskHandle := by
  cases vTraceEnable_cases cfg env io s with
  | inl same =>
      rw [same.2]
      exact ⟨rfl, rfl⟩
  | inr off =>
      cases off with
      | inl refused =>
          obtain ⟨-, -, msg, eq⟩ := refused
          rw [eq, State.prvTraceError_eq]
          exact ⟨rfl, rfl⟩
      | inr enables =>
          obtain ⟨off, guard, eq⟩ := enables
          have skipped : includeIoTask cfg env io s.enterCriticalSection =
              s.enterCriticalSection := by
            refine if_neg fun included => none ⟨off, guard, ?_⟩
            rw [Bool.and_eq_true, beq_iff_eq] at included
            exact included
          rw [eq, skipped]
          exact ⟨rfl, rfl⟩

/-- The filter of a task the kernel has just made. -/
theorem addTask_filter (cfg : Config) (new : NewTask) (name : CString) (r : Registry) :
    (r.addTask cfg new name).filter new.handle = traceReadUpper16 new.taskNumber := by
  rw [Registry.filter, Registry.addTask_tcbs_self]

/-- A new task's filter is open after its creation only with a slot. -/
theorem created_filter {cfg : Config} {s : State} {env : External} {new : NewTask}
    {name : CString} {uxPriority : BitVec 32}
    (settles : if s.isEnabled then
        GetsProbe cfg env new.handle (s.registry.addTask cfg new name) →
          FindsSlot cfg env s.registry
      else traceReadUpper16 new.taskNumber = 0)
    (opened : (xTaskCreate cfg env new name uxPriority s).registry.filter new.handle ≠ 0) :
    HasSlot (xTaskCreate cfg env new name uxPriority s).registry new.handle := by
  cases on : s.isEnabled with
  | false =>
      rw [on] at settles
      have skipped := prvTraceRegisterTaskProbe_disabled cfg env new.handle uxPriority
        (s := s.addTask cfg new name) on
      rw [xTaskCreate, skipped, addTask_registry, addTask_filter] at opened
      exact absurd settles opened
  | true =>
      rw [on] at settles
      have registered := prvTraceRegisterTaskProbe_cases cfg env new.handle uxPriority
        (s := s.addTask cfg new name) on
      rw [xTaskCreate] at opened ⊢
      generalize prvTraceRegisterTaskProbe cfg env new.handle uxPriority
        (s.addTask cfg new name) = t at registered opened ⊢
      cases registered with
      | inl found =>
          obtain ⟨i, outcome⟩ := found
          exact (registersIn_hasSlot outcome).1
      | inr unfound =>
          cases unfound with
          | inl nowhere => exact absurd (settles nowhere.gets) nowhere.finds
          | inr nothing =>
              refine absurd ?_ opened
              have tcbs : t.registry.tcbs = ((s.addTask cfg new name).registry.nameTask cfg
                  new.handle).tcbs := by
                rw [nothing.registry]
                split
                · exact Registry.takeStorage_tcbs ..
                · rfl
              rw [Registry.filter, tcbs, Registry.nameTask_tcbs_self]
              exact readUpper_writeUpper ..

/-- The IO task is created while tracing is off. -/
theorem ioCreated_filter {cfg : Config} {s : State} {env : External} {new : NewTask}
    (kept : (vTraceEnable cfg env (some new) s).registry.tcbs new.handle =
      s.registry.tcbs new.handle →
      HasSlot (vTraceEnable cfg env (some new) s).registry new.handle)
    (zero : traceReadUpper16 new.taskNumber = 0)
    (opened : (vTraceEnable cfg env (some new) s).registry.filter new.handle ≠ 0) :
    HasSlot (vTraceEnable cfg env (some new) s).registry new.handle := by
  cases vTraceEnable_outcome cfg env (some new) s with
  | inl same => exact kept (by rw [same])
  | inr block =>
      cases block.2 with
      | inl excluded => exact kept (by rw [excluded]; rfl)
      | inr created =>
          obtain ⟨new', isNew, registry⟩ := created
          obtain rfl : new = new' := Option.some.inj isNew
          rw [registry, addTask_filter] at opened
          exact absurd zero opened

/-- A task whose filter is open after an action has a slot. -/
theorem filter_step {cfg : Config} {s : State} {op : Op} (h : Guarded s)
    (allowed : OpensNoFilter cfg s op) {t : TaskHandle}
    (opened : (step cfg s op).registry.filter t ≠ 0) :
    HasSlot (step cfg s op).registry t := by
  have kept : (step cfg s op).registry.tcbs t = s.registry.tcbs t →
      HasSlot (step cfg s op).registry t := by
    intro same
    refine hasSlot_step cfg s op (h.filter t ?_)
    rwa [Registry.filter, same] at opened
  have had : HasSlot s.registry t → HasSlot (step cfg s op).registry t :=
    hasSlot_step cfg s op
  by_cases creates : op.Creates t
  · cases op with
    | enable env io =>
        cases io with
        | none => exact absurd creates id
        | some new =>
            obtain rfl : new.handle = t := creates
            by_cases io : CreatesIoTask cfg s
            · cases allowed io with
              | inl has => exact had has
              | inr zero => exact ioCreated_filter kept zero opened
            · have same := (vTraceEnable_skips cfg env (some new) io).1
              exact kept (congrFun (congrArg Registry.tcbs same) _)
    | create env new name uxPriority =>
        obtain rfl : new.handle = t := creates
        cases allowed with
        | inl has => exact had has
        | inr settles => exact created_filter settles opened
    | _ => exact absurd creates id
  · cases tcb_step cfg creates with
    | inl same => exact kept same
    | inr written =>
        obtain ⟨filter, rfl, tcb⟩ := written
        cases allowed with
        | inl zero =>
            subst zero
            refine absurd ?_ opened
            rw [Registry.filter, show (step cfg s (.setFilter t 0)).registry.tcbs t = _ from tcb]
            exact readUpper_writeUpper ..
        | inr has => exact had has

/-- An open gate is that of a current task with an open filter. -/
theorem filterGate_filter {s : State} (gate : filterGate s = true) :
    ∃ t, s.pxCurrentTcb = some t ∧ s.registry.filter t ≠ 0 := by
  simp only [filterGate, State.prvTraceGetCurrentTaskHandle, bne_iff_ne] at gate
  cases current : s.pxCurrentTcb with
  | none =>
      rw [current] at gate
      refine absurd ?_ gate
      rw [State.prvTraceGetTaskFilter, State.uxTaskGetTaskNumber, readUpper_zero]
      exact BitVec.zero_and
  | some t =>
      rw [current, filter_eq] at gate
      refine ⟨t, rfl, fun zero => gate ?_⟩
      rw [zero]
      exact BitVec.zero_and

theorem guarded_step {cfg : Config} {s : State} {op : Op} (h : Guarded s)
    (legal : op.Legal cfg s) (allowed : OpensNoFilter cfg s op) : Guarded (step cfg s op) := by
  have keeps : ∀ t, HasSlot s.registry t → HasSlot (step cfg s op).registry t :=
    fun t => hasSlot_step cfg s op
  have unmoved : (step cfg s op).currentTcb = s.currentTcb →
      (step cfg s op).prevTcb = s.prevTcb → Guarded (step cfg s op) := by
    intro current prev
    refine ⟨fun t => filter_step h allowed, fun t isCurrent => ?_, fun t isPrev => ?_⟩
    · exact keeps t (h.currentTcb t (current ▸ isCurrent))
    · exact keeps t (h.prevTcb t (prev ▸ isPrev))
  cases step_scheduler legal with
  | same view =>
      exact unmoved (congrArg SchedulerView.currentTcb view) (congrArg SchedulerView.prevTcb view)
  | created new creates fresh view =>
      exact unmoved (congrArg SchedulerView.currentTcb view) (congrArg SchedulerView.prevTcb view)
  | selected env next uxPriority v view registry outcome =>
      have current : v.currentTcb = s.currentTcb := congrArg SchedulerView.currentTcb view
      have prev : v.prevTcb = s.prevTcb := congrArg SchedulerView.prevTcb view
      obtain ⟨last, origin, after⟩ := traceTaskSwitchedIn_scheduler cfg env uxPriority v
      rw [← outcome] at after
      by_cases gate : filterGate v = true
      · rw [if_pos gate] at after
        obtain ⟨t, running, opened⟩ := filterGate_filter gate
        rw [registry] at opened
        refine ⟨fun t => filter_step h allowed, fun u isCurrent => ?_, fun u isPrev => ?_⟩
        · have now : (step cfg s op).currentTcb = v.pxCurrentTcb :=
            congrArg SchedulerView.currentTcb after
          rw [isCurrent, running, Option.some.injEq] at now
          exact keeps u (h.filter u (now ▸ opened))
        · have now : (step cfg s op).prevTcb = last := congrArg SchedulerView.prevTcb after
          rw [isPrev] at now
          cases origin with
          | inl wasCurrent =>
              exact keeps u (h.currentTcb u (by rw [← current, ← wasCurrent, ← now]))
          | inr wasPrev => exact keeps u (h.prevTcb u (by rw [← prev, ← wasPrev, ← now]))
      · rw [if_neg gate] at after
        exact unmoved ((congrArg SchedulerView.currentTcb after).trans current)
          ((congrArg SchedulerView.prevTcb after).trans prev)

theorem guarded_of_run {cfg : Config} {ok : State → Op → Prop} {ops : List Op} {s : State}
    (allowed : ∀ s op, ok s op → OpensNoFilter cfg s op) (reached : Reaches cfg ok ops s) :
    Guarded s := by
  refine reached.invariant (P := Guarded) ?_ (guarded_init cfg)
  intro s op guarded permitted
  exact guarded_step guarded permitted.1 (allowed s op permitted.2)

/-! Hooks of tasks without a slot. -/

/-- Behind a closed gate a hook does nothing. -/
theorem KernelHook.run_closed (cfg : Config) (env : External) (k : KernelHook) {s : State}
    (other : ∀ pxNewTcb uxPriority, k ≠ .taskCreate pxNewTcb uxPriority)
    (closed : filterGate s = false) : k.run cfg env s = s := by
  have shut : ¬ filterGate s = true := by
    rw [closed]
    exact Bool.false_ne_true
  cases k with
  | taskCreate pxNewTcb uxPriority => exact absurd rfl (other pxNewTcb uxPriority)
  | taskSwitchedIn uxPriority => exact if_neg shut
  | taskSwitchedOut => exact if_neg shut
  | inTask h => rw [KernelHook.run, Hook.run_eq, if_neg shut]

/-- No slot of g_tcb_probes is the task's. -/
def State.Slotless (s : State) (t : TaskHandle) : Prop := ∀ e ∈ s.tcbProbes, e.tcb ≠ some t

theorem slotless_iff (s : State) (task : TaskHandle) :
    s.Slotless task ↔ ¬ HasSlot s.registry task := by
  rw [hasSlot_iff]
  constructor
  · intro none has
    obtain ⟨e, mem, tcb⟩ := has
    exact none e mem tcb
  · exact fun without e mem tcb => without ⟨e, mem, tcb⟩

/-- A task without a slot is not traced, and no hook it takes has an effect. -/
structure OnlyRegisteredTraced (cfg : Config) (s : State) : Prop where
  filter : ∀ t, s.Slotless t → s.prvTraceGetTaskFilter (some t) = 0
  unseen : ∀ t, s.Slotless t → s.currentTcb ≠ some t ∧ s.prevTcb ≠ some t
  hooks : ∀ t, s.Slotless t → s.pxCurrentTcb = some t → ∀ (env : External) (k : KernelHook),
    (∀ pxNewTcb uxPriority, k ≠ .taskCreate pxNewTcb uxPriority) → k.run cfg env s = s

theorem OnlyRegisteredTraced.of_guarded (cfg : Config) {s : State} (h : Guarded s) :
    OnlyRegisteredTraced cfg s := by
  have without : ∀ t, s.Slotless t → ¬ HasSlot s.registry t := fun t => (slotless_iff s t).mp
  have closed : ∀ t, s.Slotless t → s.prvTraceGetTaskFilter (some t) = 0 := by
    intro t none
    by_contra opened
    exact without t none (h.filter t opened)
  refine ⟨closed, fun t none => ⟨?_, ?_⟩, fun t none running env k other => ?_⟩
  · exact fun isCurrent => without t none (h.currentTcb t isCurrent)
  · exact fun isPrev => without t none (h.prevTcb t isPrev)
  · refine k.run_closed cfg env other ?_
    simp only [filterGate, State.prvTraceGetCurrentTaskHandle, running, closed t none]
    exact bne_eq_false_iff_eq.mpr BitVec.zero_and

/-- In every run that opens no filter of a task without a slot, such a task is untraced. -/
theorem only_registered_traced {cfg : Config} {ops : List Op} {s : State}
    (reached : Reaches cfg (OpensNoFilter cfg) ops s) : OnlyRegisteredTraced cfg s :=
  .of_guarded cfg (guarded_of_run (fun _ _ allowed => allowed) reached)

/-- A word left by the kernel is cleared by the creation hook of an enabled library. -/
theorem only_registered_traced_excluded : OnlyRegisteredTraced Config.tests
    ([.enable {} (some ⟨9, 0x1234, true⟩), .exclude [65],
      .create {} ⟨1, 0xFFFF0000, true⟩ [65] 1, .create {} ⟨2, 0xFFFF0000, true⟩ [66] 1,
      Op.start {} 1 1].foldl (step Config.tests) (State.init Config.tests)) := by
  have reached : Reaches Config.tests (OpensNoFilter Config.tests)
      [.enable {} (some ⟨9, 0x1234, true⟩), .exclude [65],
        .create {} ⟨1, 0xFFFF0000, true⟩ [65] 1, .create {} ⟨2, 0xFFFF0000, true⟩ [66] 1,
        .start {} 1 1] _ := Transition.Run.of_check (by decide +kernel)
  exact only_registered_traced reached

/-- A task created while tracing is off keeps what the kernel left in its word. -/
theorem created_off_traced :
    ¬ ∀ (cfg : Config) (ops : List Op) (s : State),
      Reaches cfg (fun _ op => ¬ op.IsDelete ∧ ¬ op.IsSetFilter) ops s →
      OnlyRegisteredTraced cfg s := by
  intro always
  have traced := always Config.tests [.create {} ⟨1, 0xFFFF0000, true⟩ [65] 1]
    ([Op.create {} ⟨1, 0xFFFF0000, true⟩ [65] 1].foldl (step Config.tests)
      (State.init Config.tests)) (Transition.Run.of_check (by decide +kernel))
  have closed := traced.filter 1 (by unfold State.Slotless; decide +kernel)
  revert closed
  decide +kernel

end ProbeTrace
