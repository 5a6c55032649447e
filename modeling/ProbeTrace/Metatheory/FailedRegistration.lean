import ProbeTrace.Metatheory.Unregistered

/-!
What a registration that fails leaves behind. It leaves nothing when it stops before
alloc_storage; every later failure keeps what was acquired until then.
-/
namespace ProbeTrace

/-! Whether a registration records an error, seen from the enabled flag. -/

/-- An assert that fails turns tracing off. -/
theorem traceAssert_isEnabled (cfg : Config) (eval : Bool) (msg : String) (s : State)
    (k : State → State) : (traceAssert cfg eval msg s id k).isEnabled = true ↔
      (cfg.useTraceAssert = true → eval = true) ∧ (k s).isEnabled = true := by
  cases traceAssert_cases cfg eval msg s id k with
  | inl failed =>
      obtain ⟨asserts, fails, eq⟩ := failed
      rw [eq, id_eq, State.prvTraceError_isEnabled, fails]
      simp [asserts]
  | inr passed =>
      rw [passed.2]
      exact ⟨fun on => ⟨passed.1, on⟩, fun all => all.2⟩

theorem addControlPlaneBuffers_isEnabled (cfg : Config) (env : External) (i : Nat)
    (s : State) : (addControlPlaneBuffers cfg env i s).isEnabled =
      (s.isEnabled && env.messageBufferCreate && env.mallocTaskBuffer) := by
  cases hb : env.messageBufferCreate <;> cases hl : env.mallocTaskBuffer <;>
    simp [addControlPlaneBuffers, allocMessageBuffer, allocTaskLocalBuffer, errorIfNull, hb, hl,
      State.modifyTcbProbe]

/-- Both control plane buffers are allocated, where there are any. -/
def BuffersMade (cfg : Config) (env : External) : Prop :=
  cfg.includeControlPlaneBuffer = true →
    env.messageBufferCreate = true ∧ env.mallocTaskBuffer = true

instance (cfg : Config) (env : External) : Decidable (BuffersMade cfg env) :=
  inferInstanceAs (Decidable (_ → _))

theorem modalityProbeProduceSnapshot_isEnabled (env : External) (probe : Option Probe)
    (i : Nat) (s : State) :
    (s.modalityProbeProduceSnapshot env probe i).isEnabled = s.isEnabled :=
  (modalityProbeProduceSnapshot_same env probe i s).isEnabled

theorem addTcbProbe_isEnabled (cfg : Config) (env : External) (task : TaskHandle)
    (probe : Probe) (s : State) : (addTcbProbe cfg env task probe s).isEnabled = true ↔
      s.isEnabled = true ∧ FindsSlot cfg env s.registry ∧ BuffersMade cfg env := by
  have found := getTcbProbe_eq s none
  simp only [addTcbProbe, FindsSlot]
  rw [← found]
  cases s.getTcbProbe none with
  | none => simp
  | some i =>
      have produced := modalityProbeProduceSnapshot_isEnabled env (some probe) i s
      simp only [traceAssert_isEnabled, Option.isSome_some, true_and]
      cases control : cfg.includeControlPlaneBuffer with
      | false =>
          simp only [BuffersMade, control, Bool.false_eq_true, if_false, false_implies, and_true,
            State.modifyTcbProbe, produced]
          exact and_comm
      | true =>
          simp only [BuffersMade, control, if_true, true_implies,
            addControlPlaneBuffers_isEnabled, Bool.and_eq_true, State.modifyTcbProbe, produced]
          exact ⟨fun on => ⟨on.2.1.1, on.1, on.2.1.2, on.2.2⟩,
            fun all => ⟨all.2.1, ⟨all.1, all.2.2.1⟩, all.2.2.2⟩⟩

theorem attachProbe_isEnabled (cfg : Config) (env : External) (task : TaskHandle)
    (uxPriority : BitVec 32) (probe : Probe) (s : State) :
    (attachProbe cfg env task uxPriority probe s).isEnabled = true ↔
      s.isEnabled = true ∧ FindsSlot cfg env s.registry ∧ BuffersMade cfg env ∧
        (cfg.useTraceAssert = true → env.recordEvent = true) := by
  have added := addTcbProbe_isEnabled cfg env task probe (State.noteRegistered task probe s)
  have before : (State.noteRegistered task probe s).isEnabled = s.isEnabled := rfl
  have table : FindsSlot cfg env (State.noteRegistered task probe s).registry =
      FindsSlot cfg env s.registry := rfl
  rw [before, table] at added
  have placed := (placeProbeInTag_frame cfg task probe
    (addTcbProbe cfg env task probe (State.noteRegistered task probe s))).2.2.2
  simp only [attachProbe]
  generalize placeProbeInTag cfg task probe
    (addTcbProbe cfg env task probe (State.noteRegistered task probe s)) = r at placed ⊢
  rw [← placed] at added
  have recorded : ((r.prvTraceSetTaskFilter task 0xFFFF).modalityProbeRecordEvent (some probe)
      TraceEvent.taskCreate (some uxPriority)).exitCriticalSection.isEnabled = r.isEnabled := rfl
  rw [traceAssert_isEnabled, recorded, added]
  exact ⟨fun on => ⟨on.2.1, on.2.2.1, on.2.2.2, on.1⟩, fun all => ⟨all.2.2.2, all.1, all.2.1, all.2.2.1⟩⟩

/-- With a name, storage and a probe library that works no error is recorded. -/
theorem nameAndAlloc_isEnabled {cfg : Config} {env : External} {task : TaskHandle} {s : State}
    (hashes : ¬ HashFails cfg (s.pcTaskGetName task))
    (available : StorageAvailable cfg env s.registry) (initialized : env.initializeProbe = true) :
    (nameAndAlloc cfg env task s).2.isEnabled = s.isEnabled := by
  obtain ⟨-, registry⟩ := nameTask_eq cfg task s
  have kept : (nameTask cfg task s).2.isEnabled = s.isEnabled := by
    simp only [nameTask, hashTaskName_passes hashes]
    rfl
  have stored := (allocStorage_eq cfg env (nameTask cfg task s).2).1
  have enabled : (allocStorage cfg env cfg.taskProbeSize (nameTask cfg task s).2).2.isEnabled =
      (nameTask cfg task s).2.isEnabled := by
    simp only [allocStorage]
    split <;> split <;> rfl
  have takes : StorageAvailable cfg env (nameTask cfg task s).2.registry := by
    rw [registry]
    exact available
  rw [if_pos takes] at stored
  simp only [nameAndAlloc]
  generalize nameTask cfg task s = p at kept stored enabled ⊢
  simp only [allocProbe]
  generalize allocStorage cfg env cfg.taskProbeSize p.2 = q at stored enabled ⊢
  obtain ⟨storage, r⟩ := q
  cases stored
  split
  · exact kept
  · dsimp only
    split
    · simp only [State.modalityProbeInitialize, initialized, if_true, traceAssert_true]
      exact enabled.trans kept
    · exact enabled.trans kept

/-- A registration that gets a probe records an error unless everything else succeeds. -/
theorem register_isEnabled {cfg : Config} {env : External} {task : TaskHandle}
    {uxPriority : BitVec 32} {s : State} (on : s.isEnabled = true)
    (gets : GetsProbe cfg env task s.registry) :
    (prvTraceRegisterTaskProbe cfg env task uxPriority s).isEnabled = true ↔
      FindsSlot cfg env s.registry ∧ BuffersMade cfg env ∧
        (cfg.useTraceAssert = true → env.recordEvent = true) := by
  have hashes : ¬ HashFails cfg (s.enterCriticalSection.pcTaskGetName task) := by
    intro fails
    exact gets.2.1 (if_pos fails)
  have kept := nameAndAlloc_isEnabled (s := s.enterCriticalSection) hashes gets.1.2 gets.2.2
  have same := sameSlots_allocEffect.nameAndAlloc cfg env task s.enterCriticalSection
  have probe : (nameAndAlloc cfg env task s.enterCriticalSection).1 =
      some (s.registry.storage cfg) := by
    cases nameAndAlloc_cases cfg env task s.enterCriticalSection with
    | inl allocated => exact allocated.2.1
    | inr nothing => exact absurd gets nothing.1
  simp only [prvTraceRegisterTaskProbe, State.enter_isEnabled, on, if_true]
  generalize nameAndAlloc cfg env task s.enterCriticalSection = p at kept same probe ⊢
  obtain ⟨storage, r⟩ := p
  cases probe
  have table : FindsSlot cfg env r.registry = FindsSlot cfg env s.registry := by
    have slots : r.registry.slots = s.registry.slots :=
      congrArg (List.map TcbProbe.masked) same.tcbProbes
    rw [FindsSlot, slots, FindsSlot]
  have enabled : r.isEnabled = true := kept.trans on
  dsimp only
  rw [attachProbe_isEnabled, table, enabled]
  exact ⟨fun all => all.2, fun all => ⟨rfl, all⟩⟩

/-- A registration for which everything is there records no error, also where the task is
excluded. -/
theorem register_succeeds {cfg : Config} {env : External} {task : TaskHandle}
    {uxPriority : BitVec 32} {s : State} (on : s.isEnabled = true)
    (hashes : ¬ HashFails cfg (s.pcTaskGetName task))
    (available : StorageAvailable cfg env s.registry) (room : (s.getTcbProbe none).isSome = true)
    (succeeds : env.Succeeds) :
    (prvTraceRegisterTaskProbe cfg env task uxPriority s).isEnabled = true := by
  obtain ⟨-, initialized, produced, -, recorded, created, allocated, -⟩ := succeeds
  by_cases gets : GetsProbe cfg env task s.registry
  · refine (register_isEnabled on gets).mpr ⟨⟨?_, fun _ => produced⟩, fun _ => ⟨created, allocated⟩,
      fun _ => recorded⟩
    rwa [← getTcbProbe_eq]
  · have kept := nameAndAlloc_isEnabled (s := s.enterCriticalSection) hashes available initialized
    have probe : (nameAndAlloc cfg env task s.enterCriticalSection).1 = none := by
      cases nameAndAlloc_cases cfg env task s.enterCriticalSection with
      | inl allocated => exact absurd allocated.1 gets
      | inr nothing => exact nothing.2.1
    simp only [prvTraceRegisterTaskProbe, State.enter_isEnabled, on, if_true]
    generalize nameAndAlloc cfg env task s.enterCriticalSection = p at kept probe ⊢
    obtain ⟨storage, r⟩ := p
    cases probe
    exact kept.trans on

/-- Errors and the enabled flag move together. -/
theorem Latched.errors_iff {s t : State} (h : Latched s t) (on : s.isEnabled = true) :
    t.errors = s.errors ↔ t.isEnabled = true := by
  cases h with
  | inl same => exact ⟨fun _ => same.isEnabled.trans on, fun _ => same.errors⟩
  | inr failed =>
      obtain ⟨⟨msg, rest, errors, -⟩, off⟩ := failed
      rw [errors, off]
      simp

/-! What a registration leaves. -/

/-- The task is traced: its filter is open and a slot holds its probe. -/
def UsableEntry (task : TaskHandle) (s : State) : Prop :=
  s.prvTraceGetTaskFilter (some task) ≠ 0 ∧
    ∃ e ∈ s.tcbProbes, e.tcb = some task ∧ e.probe.isSome = true

/-- The state after a registration holds nothing of it but the id. The library never frees a
block or a buffer, so that it has released all it obtained exactly when it obtained none. -/
structure NoLastingEffect (task : TaskHandle) (s t : State) : Prop where
  filter : t.prvTraceGetTaskFilter (some task) = 0
  tag : (t.tcbs task).pxTaskTag = (s.tcbs task).pxTaskTag
  noSlot : t.Slotless task
  slots : ∀ i, (s.tcbProbe i).tcb ≠ some task → t.tcbProbe i = s.tcbProbe i
  index : t.nextStorageIndex = s.nextStorageIndex
  blocks : t.nextBlock = s.nextBlock
  buffers : t.nextBuffer = s.nextBuffer

/-- Everything a registration needs succeeds. -/
def RegistrationSucceeds (cfg : Config) (env : External) (task : TaskHandle) (r : Registry) :
    Prop :=
  GetsProbe cfg env task r ∧ FindsSlot cfg env r ∧ BuffersMade cfg env ∧
    (cfg.useTraceAssert = true → env.recordEvent = true)

/-- It stops before any storage is taken, and no slot is left from a deleted task. -/
def RegistrationDeclines (cfg : Config) (env : External) (task : TaskHandle) (r : Registry) :
    Prop :=
  ¬ TakesStorage cfg env task r ∧ ¬ HasSlot r task

instance (cfg : Config) (env : External) (task : TaskHandle) (r : Registry) :
    Decidable (RegistrationSucceeds cfg env task r) :=
  inferInstanceAs (Decidable (_ ∧ _))

instance (cfg : Config) (env : External) (task : TaskHandle) (r : Registry) :
    Decidable (RegistrationDeclines cfg env task r) :=
  inferInstanceAs (Decidable (_ ∧ _))

theorem markTask_filter (cfg : Config) (task : TaskHandle) (probe : Probe) (r : Registry) :
    (r.markTask cfg task probe).filter task = 0xFFFF := by
  rw [Registry.filter, Registry.markTask_tcbs_self]
  exact readUpper_writeUpper ..

/-- A registration that filled a slot. -/
theorem registersIn_usable {cfg : Config} {env : External} {task : TaskHandle}
    {uxPriority : BitVec 32} {i : Nat} {s t : State}
    (h : RegistersIn cfg env task uxPriority i s t) : UsableEntry task t := by
  constructor
  · rw [filter_eq, h.registry, markTask_filter]
    decide
  · obtain ⟨e, at_i, tcb, probe⟩ := registersIn_slot h
    rw [slots_getElem?, Option.map_eq_some_iff] at at_i
    obtain ⟨e', at_i', masked⟩ := at_i
    refine ⟨e', List.mem_of_getElem? at_i', ?_, ?_⟩
    · exact (congrArg TcbProbe.tcb masked).trans tcb
    · have same : e'.masked.probe = e.probe := by rw [masked]
      rw [show e'.probe = e.probe from same, probe]
      rfl

/-- A registration without a probe. -/
theorem registersNothing_effect {cfg : Config} {env : External} {task : TaskHandle} {s t : State}
    (h : RegistersNothing cfg env task s t) :
    t.prvTraceGetTaskFilter (some task) = 0 ∧
      (NoLastingEffect task s t ↔ RegistrationDeclines cfg env task s.registry) := by
  have tcbs : t.registry.tcbs = (s.registry.nameTask cfg task).tcbs := by
    rw [h.registry]
    split
    · exact Registry.takeStorage_tcbs ..
    · rfl
  have self : t.registry.tcbs task = _ :=
    (congrFun tcbs task).trans (s.registry.nameTask_tcbs_self cfg task)
  have filter : t.prvTraceGetTaskFilter (some task) = 0 := by
    rw [filter_eq, Registry.filter, self]
    exact readUpper_writeUpper ..
  have tag : (t.registry.tcbs task).pxTaskTag = (s.registry.tcbs task).pxTaskTag := by rw [self]
  have slots : t.registry.slots = s.registry.slots := by
    rw [h.registry]
    split
    · exact Registry.takeStorage_slots ..
    · rfl
  have slotless : t.Slotless task ↔ ¬ HasSlot s.registry task := by
    rw [slotless_iff, HasSlot, slots, HasSlot]
  refine ⟨filter, fun clean => ⟨fun takes => ?_, slotless.mp clean.noSlot⟩, fun declines => ?_⟩
  · have registry := h.registry
    rw [if_pos takes] at registry
    refine Registry.takeStorage_consumes cfg (s.registry.nameTask cfg task) ⟨?_, ?_⟩
    · rw [← registry]
      exact clean.index
    · rw [← registry]
      exact clean.blocks
  · have registry := h.registry
    rw [if_neg declines.1] at registry
    exact
      { filter := filter
        tag := tag
        noSlot := slotless.mpr declines.2
        slots := fun i _ => h.slots i
        index := congrArg Registry.nextStorageIndex registry
        blocks := congrArg Registry.nextBlock registry
        buffers := congrArg Registry.nextBuffer registry }

/-- A registration that fails leaves nothing behind exactly when it declines before it
takes storage. -/
theorem failed_registration_iff (cfg : Config) (env : External) (task : TaskHandle)
    (uxPriority : BitVec 32) {s : State} (on : s.isEnabled = true) :
    ((prvTraceRegisterTaskProbe cfg env task uxPriority s).errors ≠ s.errors ∨
        ¬ UsableEntry task (prvTraceRegisterTaskProbe cfg env task uxPriority s) →
      NoLastingEffect task s (prvTraceRegisterTaskProbe cfg env task uxPriority s)) ↔
      RegistrationSucceeds cfg env task s.registry ∨
        RegistrationDeclines cfg env task s.registry := by
  have latched := latched_registerEffect.prvTraceRegisterTaskProbe cfg env task uxPriority s
  have errors := latched.errors_iff on
  have enabled : GetsProbe cfg env task s.registry →
      ((prvTraceRegisterTaskProbe cfg env task uxPriority s).isEnabled = true ↔
        FindsSlot cfg env s.registry ∧ BuffersMade cfg env ∧
          (cfg.useTraceAssert = true → env.recordEvent = true)) := register_isEnabled on
  have cases := prvTraceRegisterTaskProbe_cases cfg env task uxPriority on
  generalize prvTraceRegisterTaskProbe cfg env task uxPriority s = t at *
  cases cases with
  | inl filled =>
      obtain ⟨i, outcome⟩ := filled
      have usable := registersIn_usable outcome
      have lasting : ¬ NoLastingEffect task s t := fun clean => usable.1 clean.filter
      constructor
      · intro leaves
        refine .inl ⟨outcome.gets, (enabled outcome.gets).mp (errors.mp ?_)⟩
        by_contra recorded
        exact lasting (leaves (.inl recorded))
      · intro condition
        cases condition with
        | inl succeeds =>
            have clean := errors.mpr ((enabled outcome.gets).mpr succeeds.2)
            exact fun fails => absurd fails (by simp [clean, usable])
        | inr declines => exact absurd outcome.gets.1 declines.1
  | inr unfilled =>
      cases unfilled with
      | inl nowhere =>
          have recorded : t.errors ≠ s.errors := by
            intro same
            have on' := errors.mp same
            rw [nowhere.isEnabled] at on'
            cases on'
          have lasting : ¬ NoLastingEffect task s t := by
            intro clean
            have closed := clean.filter
            rw [filter_eq, nowhere.registry, markTask_filter] at closed
            exact absurd closed (by decide)
          refine iff_of_false (fun leaves => lasting (leaves (.inl recorded))) ?_
          intro condition
          cases condition with
          | inl succeeds => exact nowhere.finds succeeds.2.1
          | inr declines => exact declines.1 nowhere.gets.1
      | inr nothing =>
          obtain ⟨closed, clean⟩ := registersNothing_effect nothing
          have unusable : ¬ UsableEntry task t := fun usable => usable.1 closed
          constructor
          · exact fun leaves => .inr (clean.mp (leaves (.inr unusable)))
          · intro condition
            cases condition with
            | inl succeeds => exact absurd succeeds.1 nothing.gets
            | inr declines => exact fun _ => clean.mpr declines

/-- Tracing is enabled, "A" is excluded, and the kernel has just made a task "A". -/
def excludedTask : State :=
  (([.enable {} (some ⟨9, 0, true⟩), .exclude [65]].foldl (step Config.tests)
    (State.init Config.tests)).addTask Config.tests ⟨1, 0xFFFF0000, false⟩ [65])

theorem failed_registration_iff_excluded :
    NoLastingEffect 1 excludedTask (prvTraceRegisterTaskProbe Config.tests {} 1 1 excludedTask) :=
  (failed_registration_iff Config.tests {} 1 1 (by decide +kernel)).mpr
    (.inr (by decide +kernel)) (.inr fun usable => usable.1 (by decide +kernel))

/-- Four tasks fill the slots, and the kernel has just made a fifth one. -/
def fifthTask : State :=
  ((createTasks 4).foldl (step Config.tests) (State.init Config.tests)).addTask Config.tests
    ⟨5, 0, false⟩ [69]

theorem fifth_registration_lasts :
    ¬ ∀ (cfg : Config) (env : External) (task : TaskHandle) (uxPriority : BitVec 32) (s : State),
      s.isEnabled = true →
      (prvTraceRegisterTaskProbe cfg env task uxPriority s).errors ≠ s.errors ∨
        ¬ UsableEntry task (prvTraceRegisterTaskProbe cfg env task uxPriority s) →
      NoLastingEffect task s (prvTraceRegisterTaskProbe cfg env task uxPriority s) := by
  intro leaves
  have clean := leaves Config.tests {} 5 1 fifthTask (by decide +kernel) (.inl (by decide +kernel))
  have closed := clean.filter
  revert closed
  decide +kernel

end ProbeTrace
