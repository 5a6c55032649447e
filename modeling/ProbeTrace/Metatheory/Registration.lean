import ProbeTrace.Metatheory.RegistryView

/-!
What exclusion, creation and registration do to the registry.
-/
namespace ProbeTrace

theorem vTraceExcludeTask_registry (cfg : Config) (pcName : CString) (s : State) :
    (vTraceExcludeTask cfg pcName s).registry = s.registry.exclude cfg pcName := by
  have stored : ∀ t : State, t.registry = s.registry →
      (State.noteExcluded pcName
        (storeExcludedId (nameHash cfg pcName) t)).exitCriticalSection.registry =
        s.registry.exclude cfg pcName := by
    intro t same
    rw [← same]
    unfold storeExcludedId Registry.exclude
    cases h : t.excludedTaskProbeIds.findIdx? (fun id => id == 0) with
    | some i => simp only [h, State.registry, State.noteExcluded, State.exitCriticalSection]
    | none =>
        simp only [h, State.prvTraceError_eq, State.registry, State.noteExcluded,
          State.exitCriticalSection]
  have hashed : (hashTaskName cfg pcName s.enterCriticalSection).2.registry = s.registry := by
    rw [hashTaskName_eq]
    dsimp only
    split
    · rw [prvTraceError_registry]
      rfl
    · rfl
  have id : (hashTaskName cfg pcName s.enterCriticalSection).1 = nameHash cfg pcName := by
    rw [hashTaskName_eq]
  unfold vTraceExcludeTask
  dsimp only
  rw [id]
  exact stored _ hashed

theorem nameTask_eq (cfg : Config) (task : TaskHandle) (s : State) :
    (nameTask cfg task s).1 = s.registry.idOf cfg task ∧
      (nameTask cfg task s).2.registry = s.registry.nameTask cfg task := by
  have twice : ∀ (t : State) (id : BitVec 16),
      ((t.prvTraceSetTaskProbeId task id).prvTraceSetTaskFilter task 0).registry =
        t.registry.modifyTcb task fun tcb => { tcb with
          uxTaskNumber := traceWriteUpper16 (traceWriteLower16 tcb.uxTaskNumber id) 0 } := by
    intro t id
    simp only [State.prvTraceSetTaskProbeId, State.prvTraceSetTaskFilter,
      State.vTaskSetTaskNumber, State.modifyTcb, State.uxTaskGetTaskNumber, State.registry,
      Registry.modifyTcb, Function.update_self, Function.update_idem]
  unfold nameTask
  rw [hashTaskName_eq]
  refine ⟨rfl, ?_⟩
  dsimp only
  rw [twice]
  split
  · rw [prvTraceError_registry]
    rfl
  · rfl

/-! Allocation. -/

def StorageAvailable (cfg : Config) (env : External) (r : Registry) : Prop :=
  if cfg.staticAllocation then
    (r.nextStorageIndex + cfg.taskProbeSize) % 2 ^ cfg.sizeWidth ≤ cfg.storageSize
  else env.malloc = true

instance (cfg : Config) (env : External) (r : Registry) :
    Decidable (StorageAvailable cfg env r) := by
  unfold StorageAvailable
  infer_instance

/-- Storage is taken for the task's probe. -/
def TakesStorage (cfg : Config) (env : External) (task : TaskHandle) (r : Registry) : Prop :=
  r.idOf cfg task ∉ r.excludedTaskProbeIds ∧ StorageAvailable cfg env r

/-- The task gets a probe. -/
def GetsProbe (cfg : Config) (env : External) (task : TaskHandle) (r : Registry) : Prop :=
  TakesStorage cfg env task r ∧ r.idOf cfg task ≠ 0 ∧ env.initializeProbe = true

instance (cfg : Config) (env : External) (task : TaskHandle) (r : Registry) :
    Decidable (TakesStorage cfg env task r) := inferInstanceAs (Decidable (_ ∧ _))

instance (cfg : Config) (env : External) (task : TaskHandle) (r : Registry) :
    Decidable (GetsProbe cfg env task r) := inferInstanceAs (Decidable (_ ∧ _))

theorem allocStorage_eq (cfg : Config) (env : External) (s : State) :
    (allocStorage cfg env cfg.taskProbeSize s).1 =
        (if StorageAvailable cfg env s.registry then some (s.registry.storage cfg) else none) ∧
      (allocStorage cfg env cfg.taskProbeSize s).2.registry =
        (if StorageAvailable cfg env s.registry then s.registry.takeStorage cfg
        else s.registry) ∧
      (allocStorage cfg env cfg.taskProbeSize s).2.calls = s.calls := by
  unfold allocStorage StorageAvailable Registry.storage Registry.takeStorage
  by_cases static : cfg.staticAllocation = true
  · simp only [static, if_true]
    by_cases fits : (s.nextStorageIndex + cfg.taskProbeSize) % 2 ^ cfg.sizeWidth ≤ cfg.storageSize
    · simp [State.registry, fits]
    · simp [State.registry, fits]
  · by_cases malloc : env.malloc = true
    · simp [State.registry, static, malloc]
    · simp [State.registry, static, malloc]

theorem isTaskExcluded_iff (s : State) (probeId : BitVec 16) :
    isTaskExcluded s probeId = true ↔ probeId ∈ s.registry.excludedTaskProbeIds := by
  simp [isTaskExcluded, State.registry]

theorem setWidth_ne_zero {id : BitVec 16} : id.setWidth 32 ≠ 0 ↔ id ≠ 0 := by
  bv_omega

theorem nameTask_calls (cfg : Config) (task : TaskHandle) (s : State) :
    (nameTask cfg task s).2.calls = s.calls := by
  unfold nameTask
  rw [hashTaskName_eq]
  by_cases fails : HashFails cfg (s.pcTaskGetName task)
  · simp only [fails, if_true, State.prvTraceError_eq, State.prvTraceSetTaskFilter,
      State.prvTraceSetTaskProbeId, State.vTaskSetTaskNumber, State.modifyTcb]
  · simp only [fails, if_false, State.prvTraceSetTaskFilter, State.prvTraceSetTaskProbeId,
      State.vTaskSetTaskNumber, State.modifyTcb]

theorem modalityProbeInitialize_eq (env : External) (probe : Probe) (size : Nat)
    (id : BitVec 16) (s : State) :
    (s.modalityProbeInitialize env probe size (id.setWidth 32)).1 =
        (if env.initializeProbe then some probe else none) ∧
      (s.modalityProbeInitialize env probe size (id.setWidth 32)).2.registry =
        (if env.initializeProbe then s.registry.setProbeId probe id else s.registry) ∧
      (s.modalityProbeInitialize env probe size (id.setWidth 32)).2.calls =
        s.calls ++ [.initializeProbe probe size (id.setWidth 32)] := by
  unfold State.modalityProbeInitialize
  cases env.initializeProbe <;> exact ⟨rfl, rfl, rfl⟩

/-- Initializing a probe in storage that was just taken. -/
theorem allocProbe_eq (cfg : Config) (env : External) (id : BitVec 16) (s : State) :
    (allocProbe cfg env cfg.taskProbeSize (id.setWidth 32) s).1 =
        (if StorageAvailable cfg env s.registry ∧ id ≠ 0 ∧ env.initializeProbe = true then
          some (s.registry.storage cfg) else none) ∧
      (allocProbe cfg env cfg.taskProbeSize (id.setWidth 32) s).2.registry =
        (if StorageAvailable cfg env s.registry then
          if id ≠ 0 ∧ env.initializeProbe = true then
            (s.registry.takeStorage cfg).setProbeId (s.registry.storage cfg) id
          else s.registry.takeStorage cfg
        else s.registry) ∧
      (allocProbe cfg env cfg.taskProbeSize (id.setWidth 32) s).2.calls = s.calls ++
        (if StorageAvailable cfg env s.registry ∧ id ≠ 0 then
          [.initializeProbe (s.registry.storage cfg) cfg.taskProbeSize (id.setWidth 32)]
        else []) := by
  obtain ⟨stored, registry, calls⟩ := allocStorage_eq cfg env s
  unfold allocProbe
  cases hs : allocStorage cfg env cfg.taskProbeSize s with
  | mk storage t =>
      rw [hs] at stored registry calls
      dsimp only at stored registry calls
      by_cases available : StorageAvailable cfg env s.registry
      · rw [if_pos available] at stored registry
        subst stored
        by_cases zero : id = 0
        · simp [zero, available, registry, calls]
        · have zero' : id ≠ 0#16 := zero
          have nonzero : id.setWidth 32 ≠ 0 := setWidth_ne_zero.mpr zero
          obtain ⟨probe, initialized, called⟩ :=
            modalityProbeInitialize_eq env (s.registry.storage cfg) cfg.taskProbeSize id t
          rw [registry] at initialized
          rw [calls] at called
          dsimp only
          rw [if_pos nonzero]
          cases hi : t.modalityProbeInitialize env (s.registry.storage cfg) cfg.taskProbeSize
            (id.setWidth 32) with
          | mk probe? u =>
              rw [hi] at probe initialized called
              dsimp only at probe initialized called ⊢
              rcases traceAssert_cases cfg env.initializeProbe
                "Failed to initialize Modality probe" u (fun s => ((none : Option Probe), s))
                (fun s => (probe?, s)) with ⟨-, failed, h⟩ | ⟨-, h⟩
              · rw [h]
                simp [failed, available, zero', called, initialized]
              · rw [h]
                cases ok : env.initializeProbe <;>
                  simp [available, zero', called, probe, initialized, ok]
      · rw [if_neg available] at stored registry
        subst stored
        simp [available, registry, calls]

/-- The first part of a registration. -/
theorem nameAndAlloc_cases (cfg : Config) (env : External) (task : TaskHandle) (s : State) :
    (GetsProbe cfg env task s.registry ∧
      (nameAndAlloc cfg env task s).1 = some (s.registry.storage cfg) ∧
      (nameAndAlloc cfg env task s).2.registry = s.registry.allocate cfg task ∧
      (nameAndAlloc cfg env task s).2.calls = s.calls ++ [.initializeProbe
        (s.registry.storage cfg) cfg.taskProbeSize ((s.registry.idOf cfg task).setWidth 32)]) ∨
    (¬ GetsProbe cfg env task s.registry ∧ (nameAndAlloc cfg env task s).1 = none ∧
      (nameAndAlloc cfg env task s).2.registry =
        (if TakesStorage cfg env task s.registry then
          (s.registry.nameTask cfg task).takeStorage cfg
        else s.registry.nameTask cfg task) ∧
      (env.initializeProbe = true → (nameAndAlloc cfg env task s).2.calls = s.calls)) := by
  obtain ⟨named, registry⟩ := nameTask_eq cfg task s
  have calls := nameTask_calls cfg task s
  have excluded := isTaskExcluded_iff (nameTask cfg task s).2 (s.registry.idOf cfg task)
  obtain ⟨probe, allocated, called⟩ :=
    allocProbe_eq cfg env (s.registry.idOf cfg task) (nameTask cfg task s).2
  rw [registry] at excluded probe allocated
  rw [registry, calls] at called
  unfold nameAndAlloc
  dsimp only
  rw [named]
  by_cases member : s.registry.idOf cfg task ∈ s.registry.excludedTaskProbeIds
  · rw [if_pos (excluded.mpr member)]
    exact .inr ⟨fun h => h.1.1 member, rfl, by rw [registry, if_neg fun h => h.1 member],
      fun _ => calls⟩
  · rw [if_neg fun h => member (excluded.mp h)]
    by_cases gets : StorageAvailable cfg env (s.registry.nameTask cfg task) ∧
        s.registry.idOf cfg task ≠ 0 ∧ env.initializeProbe = true
    · refine .inl ⟨⟨⟨member, gets.1⟩, gets.2⟩, ?_, ?_, ?_⟩
      · rw [probe, if_pos gets]
        rfl
      · rw [allocated, if_pos gets.1, if_pos gets.2]
        rfl
      · rw [called, if_pos ⟨gets.1, gets.2.1⟩]
        rfl
    · refine .inr ⟨fun h => gets ⟨h.1.2, h.2⟩, ?_, ?_, ?_⟩
      · rw [probe, if_neg gets]
      · rw [allocated]
        by_cases avail : StorageAvailable cfg env (s.registry.nameTask cfg task)
        · rw [if_pos avail, if_neg fun h => gets ⟨avail, h⟩, if_pos ⟨member, avail⟩]
        · rw [if_neg avail, if_neg fun h => avail h.2]
      · intro ok
        rw [called, if_neg fun h => gets ⟨h.1, h.2, ok⟩, List.append_nil]

/-! Filling a slot. -/

/-- A write to a slot, seen without snapshots. -/
theorem modifyTcbProbe_registry_eq {f g : TcbProbe → TcbProbe}
    (hf : ∀ e, (f e).masked = g e.masked) (i : Nat) (s : State) :
    (s.modifyTcbProbe i f).registry = s.registry.modifySlot i g := by
  have slots : (s.tcbProbes.set i (f (s.tcbProbe i))).map TcbProbe.masked =
      s.registry.slots.set i (g (s.registry.slots.getD i {})) := by
    rw [List.map_set, hf, tcbProbe_masked]
    rfl
  simp only [State.registry, State.modifyTcbProbe, Registry.modifySlot, slots]

theorem modifyTcbProbe_other {i j : Nat} (hj : j ≠ i) (f : TcbProbe → TcbProbe) (s : State) :
    (s.modifyTcbProbe i f).tcbProbe j = s.tcbProbe j := by
  simp only [State.tcbProbe, State.modifyTcbProbe, List.getD_eq_getElem?_getD,
    List.getElem?_set_ne (Ne.symm hj)]

theorem addControlPlaneBuffers_eq (cfg : Config) (env : External) (i : Nat) (s : State) :
    (addControlPlaneBuffers cfg env i s).registry = s.registry.addBuffers env i ∧
      (addControlPlaneBuffers cfg env i s).calls = s.calls ∧
      (addControlPlaneBuffers cfg env i s).messageBuffers =
        (if env.messageBufferCreate then Function.update s.messageBuffers s.nextBuffer
          { capacity := cfg.controlPlaneBufferSize, queue := [] } else s.messageBuffers) ∧
      ∀ j, j ≠ i → (addControlPlaneBuffers cfg env i s).tcbProbe j = s.tcbProbe j := by
  unfold addControlPlaneBuffers Registry.addBuffers
  cases hb : env.messageBufferCreate <;> cases hl : env.mallocTaskBuffer
  · simp [allocMessageBuffer, allocTaskLocalBuffer, errorIfNull, hb, hl, State.prvTraceError_eq,
      State.registry, State.tcbProbe]
  · simp [allocMessageBuffer, allocTaskLocalBuffer, errorIfNull, hb, hl, State.prvTraceError_eq,
      State.registry, State.tcbProbe]
  · simp [allocMessageBuffer, allocTaskLocalBuffer, errorIfNull, hb, hl, State.prvTraceError_eq,
      State.registry, State.tcbProbe]
  · simp only [allocMessageBuffer, allocTaskLocalBuffer, errorIfNull, hb, hl, if_true,
      reduceCtorEq, if_false, ne_eq, not_false_eq_true, and_self, Bool.and_self]
    refine ⟨?_, rfl, rfl, fun j hj => ?_⟩
    · rw [modifyTcbProbe_registry_eq (g := fun e => { e with
        controlMsgBuffer := some s.nextBuffer, taskLocalBuffer := some s.nextBlock })
        fun _ => rfl]
      rfl
    · rw [modifyTcbProbe_other hj]
      rfl

/-- A slot is free, and its first snapshot does not fail an assert. -/
def FindsSlot (cfg : Config) (env : External) (r : Registry) : Prop :=
  (SlotTable.find TcbProbe.tcb r.slots none).isSome = true ∧
    (cfg.useTraceAssert = true → env.produceSnapshot.isSome = true)

instance (cfg : Config) (env : External) (r : Registry) : Decidable (FindsSlot cfg env r) :=
  inferInstanceAs (Decidable (_ ∧ _))

/-- The message buffers after a slot was filled. -/
def newMessageBuffers (cfg : Config) (env : External) (s : State) :
    Nat → MessageBuffer Message :=
  if cfg.includeControlPlaneBuffer && env.messageBufferCreate then
    Function.update s.messageBuffers s.nextBuffer
      { capacity := cfg.controlPlaneBufferSize, queue := [] }
  else s.messageBuffers

/-- A registration that fills slot `i`, seen from the slot table. -/
structure FillsSlot (cfg : Config) (env : External) (task : TaskHandle) (probe : Probe)
    (i : Nat) (s t : State) : Prop where
  first : s.getTcbProbe none = some i
  registry : t.registry = s.registry.fillSlot cfg env i task probe
  messageBuffers : t.messageBuffers = newMessageBuffers cfg env s
  others : ∀ j, j ≠ i → t.tcbProbe j = s.tcbProbe j

theorem modalityProbeProduceSnapshot_other (env : External) (probe : Option Probe)
    {i j : Nat} (hj : j ≠ i) (s : State) :
    (s.modalityProbeProduceSnapshot env probe i).tcbProbe j = s.tcbProbe j := by
  unfold State.modalityProbeProduceSnapshot
  cases env.produceSnapshot with
  | none => rfl
  | some v => exact modifyTcbProbe_other hj _ (s.logCall _)

theorem modalityProbeProduceSnapshot_frame (env : External) (probe : Option Probe) (i : Nat)
    (s : State) :
    (s.modalityProbeProduceSnapshot env probe i).calls =
        s.calls ++ [.produceSnapshot probe i env.produceSnapshot] ∧
      (s.modalityProbeProduceSnapshot env probe i).messageBuffers = s.messageBuffers ∧
      (s.modalityProbeProduceSnapshot env probe i).nextBuffer = s.nextBuffer := by
  unfold State.modalityProbeProduceSnapshot
  cases env.produceSnapshot <;> exact ⟨rfl, rfl, rfl⟩

theorem addTcbProbe_cases (cfg : Config) (env : External) (task : TaskHandle) (probe : Probe)
    (s : State) :
    (FindsSlot cfg env s.registry ∧ ∃ i,
      FillsSlot cfg env task probe i s (addTcbProbe cfg env task probe s) ∧
      (addTcbProbe cfg env task probe s).calls =
        s.calls ++ [.produceSnapshot (some probe) i env.produceSnapshot]) ∨
    (¬ FindsSlot cfg env s.registry ∧
      (addTcbProbe cfg env task probe s).registry = s.registry ∧
      (addTcbProbe cfg env task probe s).messageBuffers = s.messageBuffers ∧
      (addTcbProbe cfg env task probe s).isEnabled = false) := by
  have found := getTcbProbe_eq s none
  unfold addTcbProbe FindsSlot
  rw [← found]
  cases hi : s.getTcbProbe none with
  | none =>
      refine .inr ⟨fun h => by simp at h, prvTraceError_registry _ s, ?_, s.prvTraceError_isEnabled _⟩
      rw [State.prvTraceError_eq]
  | some i =>
      dsimp only
      obtain ⟨called, buffers, nextBuffer⟩ :=
        modalityProbeProduceSnapshot_frame env (some probe) i s
      have registry := modalityProbeProduceSnapshot_registry env (some probe) i s
      have others : ∀ j, j ≠ i →
          (s.modalityProbeProduceSnapshot env (some probe) i).tcbProbe j = s.tcbProbe j :=
        fun j hj => modalityProbeProduceSnapshot_other env (some probe) hj s
      generalize s.modalityProbeProduceSnapshot env (some probe) i = r at *
      rcases traceAssert_cases cfg env.produceSnapshot.isSome
        "Failed to produce Modality probe snapshot" r id _ with ⟨asserts, none, h⟩ | ⟨passed, h⟩
      · refine .inr ⟨fun ok => ?_, ?_, ?_, ?_⟩
        · rw [none] at ok
          exact absurd (ok.2 asserts) (by simp)
        · rw [h]
          exact (prvTraceError_registry _ r).trans registry
        · rw [h, id_eq, State.prvTraceError_eq, ← buffers]
        · rw [h]
          exact r.prvTraceError_isEnabled _
      · refine .inl ⟨⟨rfl, passed⟩, i, ?_⟩
        rw [h]
        have put := modifyTcbProbe_registry_eq (g := fun e =>
          { e with tcb := some task, probe := some probe })
          (f := fun e => { e with tcb := some task, probe := some probe }) (fun _ => rfl) i r
        have putOthers : ∀ j, j ≠ i → (r.modifyTcbProbe i fun e =>
            { e with tcb := some task, probe := some probe }).tcbProbe j = s.tcbProbe j :=
          fun j hj => (modifyTcbProbe_other hj _ r).trans (others j hj)
        rw [registry] at put
        by_cases control : cfg.includeControlPlaneBuffer = true
        · obtain ⟨added, kept, made, rest⟩ := addControlPlaneBuffers_eq cfg env i
            (r.modifyTcbProbe i fun e => { e with tcb := some task, probe := some probe })
          rw [if_pos control]
          refine ⟨⟨hi, ?_, ?_, fun j hj => (rest j hj).trans (putOthers j hj)⟩, ?_⟩
          · rw [added, put, Registry.fillSlot, if_pos control]
            rfl
          · rw [made, newMessageBuffers, control, Bool.true_and]
            change (if _ then Function.update r.messageBuffers r.nextBuffer _ else
              r.messageBuffers) = _
            rw [buffers, nextBuffer]
          · rw [kept]
            exact called
        · rw [if_neg control]
          refine ⟨⟨hi, ?_, ?_, putOthers⟩, called⟩
          · rw [put, Registry.fillSlot, if_neg control]
            rfl
          · simp only [newMessageBuffers, control]
            exact buffers

/-! The registration as a whole. -/

theorem modifyTcb_registry (task : TaskHandle) (f : Tcb → Tcb) (s : State) :
    (s.modifyTcb task f).registry = s.registry.modifyTcb task f := rfl

theorem fillSlot_modifyTcb (cfg : Config) (env : External) (i : Nat) (task task' : TaskHandle)
    (probe : Probe) (f : Tcb → Tcb) (r : Registry) :
    (r.modifyTcb task' f).fillSlot cfg env i task probe =
      (r.fillSlot cfg env i task probe).modifyTcb task' f := by
  unfold Registry.fillSlot Registry.addBuffers
  by_cases control : cfg.includeControlPlaneBuffer = true
  · rw [if_pos control, if_pos control]
    by_cases both : (env.messageBufferCreate && env.mallocTaskBuffer) = true
    · simp only [both, if_true]
      rfl
    · simp only [both]
      rfl
  · rw [if_neg control, if_neg control]
    rfl

theorem modifyTcb_modifyTcb (r : Registry) (task : TaskHandle) (f g : Tcb → Tcb) :
    (r.modifyTcb task f).modifyTcb task g = r.modifyTcb task fun tcb => g (f tcb) := by
  simp only [Registry.modifyTcb, Function.update_self, Function.update_idem]

theorem placeProbeInTag_registry (cfg : Config) (task : TaskHandle) (probe : Probe)
    (s : State) : (placeProbeInTag cfg task probe s).registry =
      s.registry.modifyTcb task fun tcb => { tcb with
        pxTaskTag := if cfg.placeProbeInTcbAppTag then some probe else tcb.pxTaskTag } := by
  unfold placeProbeInTag
  cases cfg.placeProbeInTcbAppTag with
  | true => rfl
  | false =>
      simp only [Bool.false_eq_true, if_false, Registry.modifyTcb]
      rw [show s.registry.tcbs = s.tcbs from rfl, Function.update_eq_self]
      rfl

/-- A registration that fills slot `i`. -/
structure RegistersIn (cfg : Config) (env : External) (task : TaskHandle)
    (uxPriority : BitVec 32) (i : Nat) (s t : State) : Prop where
  gets : GetsProbe cfg env task s.registry
  finds : FindsSlot cfg env s.registry
  first : s.getTcbProbe none = some i
  registry : t.registry = ((s.registry.allocate cfg task).fillSlot cfg env i task
    (s.registry.storage cfg)).markTask cfg task (s.registry.storage cfg)
  messageBuffers : t.messageBuffers = newMessageBuffers cfg env s
  others : ∀ j, j ≠ i → t.tcbProbe j = s.tcbProbe j
  calls : t.calls = s.calls ++
    [.initializeProbe (s.registry.storage cfg) cfg.taskProbeSize
        ((s.registry.idOf cfg task).setWidth 32),
      .produceSnapshot (some (s.registry.storage cfg)) i env.produceSnapshot,
      .recordEvent (some (s.registry.storage cfg)) TraceEvent.taskCreate (some uxPriority)]

/-- A registration whose probe gets no slot. -/
structure RegistersNowhere (cfg : Config) (env : External) (task : TaskHandle)
    (s t : State) : Prop where
  gets : GetsProbe cfg env task s.registry
  finds : ¬ FindsSlot cfg env s.registry
  registry : t.registry = (s.registry.allocate cfg task).markTask cfg task
    (s.registry.storage cfg)
  messageBuffers : t.messageBuffers = s.messageBuffers
  isEnabled : t.isEnabled = false

/-- A registration that allocates no probe. -/
structure RegistersNothing (cfg : Config) (env : External) (task : TaskHandle)
    (s t : State) : Prop where
  gets : ¬ GetsProbe cfg env task s.registry
  registry : t.registry = if TakesStorage cfg env task s.registry then
    (s.registry.nameTask cfg task).takeStorage cfg else s.registry.nameTask cfg task
  messageBuffers : t.messageBuffers = s.messageBuffers
  slots : ∀ j, t.tcbProbe j = s.tcbProbe j
  calls : env.initializeProbe = true → t.calls = s.calls

/-- What allocating a probe leaves alone of the slots and the message buffers. -/
structure SameSlots (s t : State) : Prop where
  tcbProbes : t.tcbProbes = s.tcbProbes
  messageBuffers : t.messageBuffers = s.messageBuffers
  nextBuffer : t.nextBuffer = s.nextBuffer

theorem sameSlots_allocEffect : AllocEffect SameSlots where
  refl _ := ⟨rfl, rfl, rfl⟩
  trans h k := ⟨k.tcbProbes.trans h.tcbProbes, k.messageBuffers.trans h.messageBuffers,
    k.nextBuffer.trans h.nextBuffer⟩
  enter _ := ⟨rfl, rfl, rfl⟩
  exit _ := ⟨rfl, rfl, rfl⟩
  error msg s := by
    rw [State.prvTraceError_eq]
    exact ⟨rfl, rfl, rfl⟩
  log _ _ _ := ⟨rfl, rfl, rfl⟩
  tcb _ _ _ := ⟨rfl, rfl, rfl⟩
  storage cfg env n s := by
    unfold allocStorage
    split <;> split <;> exact ⟨rfl, rfl, rfl⟩
  probeIds _ _ := ⟨rfl, rfl, rfl⟩

theorem placeProbeInTag_frame (cfg : Config) (task : TaskHandle) (probe : Probe) (s : State) :
    (placeProbeInTag cfg task probe s).calls = s.calls ∧
      (placeProbeInTag cfg task probe s).tcbProbes = s.tcbProbes ∧
      (placeProbeInTag cfg task probe s).messageBuffers = s.messageBuffers ∧
      (placeProbeInTag cfg task probe s).isEnabled = s.isEnabled := by
  unfold placeProbeInTag
  split <;> exact ⟨rfl, rfl, rfl, rfl⟩

/-- The second part of a registration, after the slot: the tag, the filter and the
TASK_CREATE record. -/
theorem attachProbe_after (cfg : Config) (env : External) (task : TaskHandle)
    (uxPriority : BitVec 32) (probe : Probe) (s : State) {t : State}
    (ht : t = addTcbProbe cfg env task probe (State.noteRegistered task probe s)) :
    (attachProbe cfg env task uxPriority probe s).registry =
        ((t.registry.modifyTcb task fun tcb => { tcb with
          pxTaskTag := if cfg.placeProbeInTcbAppTag then some probe else tcb.pxTaskTag }).setFilter
            task 0xFFFF) ∧
      (attachProbe cfg env task uxPriority probe s).calls = t.calls ++
        [.recordEvent (some probe) TraceEvent.taskCreate (some uxPriority)] ∧
      (attachProbe cfg env task uxPriority probe s).tcbProbes = t.tcbProbes ∧
      (attachProbe cfg env task uxPriority probe s).messageBuffers = t.messageBuffers ∧
      (t.isEnabled = false → (attachProbe cfg env task uxPriority probe s).isEnabled = false) := by
  obtain ⟨calls, slots, buffers, enabled⟩ := placeProbeInTag_frame cfg task probe t
  have registry := placeProbeInTag_registry cfg task probe t
  unfold attachProbe
  dsimp only
  rw [← ht]
  generalize placeProbeInTag cfg task probe t = u at *
  have marked : (u.prvTraceSetTaskFilter task 0xFFFF).registry =
      u.registry.setFilter task 0xFFFF := rfl
  rw [registry] at marked
  rcases traceAssert_cases cfg env.recordEvent "Failed to record initial task creation event"
    ((u.prvTraceSetTaskFilter task 0xFFFF).modalityProbeRecordEvent (some probe)
      TraceEvent.taskCreate (some uxPriority)) id (fun s => s.exitCriticalSection)
    with ⟨-, -, h⟩ | ⟨-, h⟩
  · rw [h, id_eq]
    refine ⟨(prvTraceError_registry _ _).trans marked, ?_, ?_, ?_, fun _ => ?_⟩
    · rw [State.prvTraceError_calls, ← calls]
      rfl
    · rw [State.prvTraceError_eq, ← slots]
      rfl
    · rw [State.prvTraceError_eq, ← buffers]
      rfl
    · rw [State.prvTraceError_isEnabled]
  · rw [h]
    refine ⟨marked, ?_, slots, buffers, fun off => enabled.trans off⟩
    rw [← calls]
    rfl

/-- What a registration does while tracing is on. -/
theorem prvTraceRegisterTaskProbe_cases (cfg : Config) (env : External) (task : TaskHandle)
    (uxPriority : BitVec 32) {s : State} (on : s.isEnabled = true) :
    (∃ i, RegistersIn cfg env task uxPriority i s
      (prvTraceRegisterTaskProbe cfg env task uxPriority s)) ∨
    RegistersNowhere cfg env task s (prvTraceRegisterTaskProbe cfg env task uxPriority s) ∨
    RegistersNothing cfg env task s (prvTraceRegisterTaskProbe cfg env task uxPriority s) := by
  have same := sameSlots_allocEffect.nameAndAlloc cfg env task s.enterCriticalSection
  have cases := nameAndAlloc_cases cfg env task s.enterCriticalSection
  have entered : s.enterCriticalSection.registry = s.registry := rfl
  have enteredCalls : s.enterCriticalSection.calls = s.calls := rfl
  rw [entered, enteredCalls] at cases
  unfold prvTraceRegisterTaskProbe
  simp only [State.enter_isEnabled, on, if_true]
  cases hn : nameAndAlloc cfg env task s.enterCriticalSection with
  | mk probe u =>
      rw [hn] at same cases
      dsimp only at same cases ⊢
      have slots : ∀ j, u.tcbProbe j = s.tcbProbe j := fun j => by
        rw [State.tcbProbe, same.tcbProbes]
        rfl
      rcases cases with ⟨gets, rfl, registry, calls⟩ | ⟨gets, rfl, registry, calls⟩
      · dsimp only
        have noted : (State.noteRegistered task (s.registry.storage cfg) u).registry =
            (s.registry.allocate cfg task).modifyTcb task fun tcb =>
              { tcb with registered := some (s.registry.storage cfg) } := by
          rw [State.noteRegistered, modifyTcb_registry, registry]
        have finds : FindsSlot cfg env (State.noteRegistered task (s.registry.storage cfg) u).registry
            ↔ FindsSlot cfg env s.registry := by
          have table : (State.noteRegistered task (s.registry.storage cfg) u).registry.slots =
              s.registry.slots := by
            change u.tcbProbes.map _ = _
            rw [same.tcbProbes]
            rfl
          rw [FindsSlot, table, FindsSlot]
        obtain ⟨marked, called, table, buffers, off⟩ := attachProbe_after cfg env task uxPriority
          (s.registry.storage cfg) u rfl
        rcases addTcbProbe_cases cfg env task (s.registry.storage cfg)
          (State.noteRegistered task (s.registry.storage cfg) u) with
          ⟨found, i, fills, added⟩ | ⟨missing, unchanged, kept, failed⟩
        · refine .inl ⟨i, gets, finds.mp found, ?_, ?_, ?_, ?_, ?_⟩
          · have := fills.first
            rw [getTcbProbe_eq] at this ⊢
            rw [← this]
            change _ = SlotTable.find TcbProbe.tcb (u.tcbProbes.map _) none
            rw [same.tcbProbes]
            rfl
          · rw [marked, fills.registry, noted, fillSlot_modifyTcb, modifyTcb_modifyTcb,
              Registry.setFilter, modifyTcb_modifyTcb]
            rfl
          · rw [buffers, fills.messageBuffers]
            change (if _ then Function.update u.messageBuffers u.nextBuffer _ else
              u.messageBuffers) = _
            rw [same.messageBuffers, same.nextBuffer]
            rfl
          · intro j hj
            rw [State.tcbProbe, table, ← slots j]
            exact fills.others j hj
          · rw [called, added]
            change (u.calls ++ _) ++ _ = _
            rw [calls, List.append_assoc, List.append_assoc]
            rfl
        · refine .inr (.inl ⟨gets, fun h => missing (finds.mpr h), ?_, ?_, off failed⟩)
          · rw [marked, unchanged, noted, modifyTcb_modifyTcb, Registry.setFilter,
              modifyTcb_modifyTcb]
            rfl
          · rw [buffers, kept]
            exact same.messageBuffers
      · exact .inr (.inr ⟨gets, registry, same.messageBuffers, slots, calls⟩)

end ProbeTrace
