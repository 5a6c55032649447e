import ProbeTrace.Metatheory.RegistrySteps

/-!
What every run keeps of g_tcb_probes and the storage of the probes in it, also one in which a new
task has the handle of a deleted one. Such a task gets a slot and a probe of its own, although
lookups find the older slot; the probes stay apart because their storage is never handed out twice.
-/
namespace ProbeTrace

/-- The probe lies in storage that was handed out. -/
def Allocated (cfg : Config) (r : Registry) : Probe → Prop
  | .probeStorage offset =>
      cfg.staticAllocation = true ∧ offset + cfg.taskProbeSize ≤ r.nextStorageIndex
  | .heap block => block < r.nextBlock

structure Slots (cfg : Config) (r : Registry) : Prop where
  length : r.slots.length = cfg.maxProbes
  packed : SlotTable.Prefix TcbProbe.tcb {} r.slots
  probe : ∀ (i : Nat) (e : TcbProbe) (t : TaskHandle), r.slots[i]? = some e →
    e.tcb = some t → ∃ probe, e.probe = some probe ∧ Allocated cfg r probe
  probes : SlotTable.Distinct TcbProbe.probe r.slots
  buffer : ∀ (i : Nat) (e : TcbProbe) (b : Nat), r.slots[i]? = some e →
    e.controlMsgBuffer = some b → b < r.nextBuffer ∧ e.taskLocalBuffer.isSome = true
  buffers : SlotTable.Distinct TcbProbe.controlMsgBuffer r.slots
  index : r.nextStorageIndex ≤ cfg.storageSize
  size : r.nextStorageIndex ≠ 0 → cfg.taskProbeSize ≤ cfg.storageSize

/-! Storage. -/

theorem Allocated.mono {cfg : Config} {r r' : Registry} {probe : Probe}
    (h : Allocated cfg r probe) (index : r.nextStorageIndex ≤ r'.nextStorageIndex)
    (block : r.nextBlock ≤ r'.nextBlock) : Allocated cfg r' probe := by
  cases probe with
  | probeStorage offset => exact ⟨h.1, h.2.trans index⟩
  | heap b => exact Nat.lt_of_lt_of_le h block

theorem storage_fresh (cfg : Config) (r : Registry) : ¬ Allocated cfg r (r.storage cfg) := by
  unfold Registry.storage
  split
  · rintro ⟨-, h⟩
    have := cfg.taskProbeSize_pos
    omega
  · exact Nat.lt_irrefl _

namespace Registry

@[simp] theorem takeStorage_slots (cfg : Config) (r : Registry) :
    (r.takeStorage cfg).slots = r.slots := by
  unfold takeStorage
  split <;> rfl

@[simp] theorem takeStorage_tcbs (cfg : Config) (r : Registry) :
    (r.takeStorage cfg).tcbs = r.tcbs := by
  unfold takeStorage
  split <;> rfl

@[simp] theorem takeStorage_tasks (cfg : Config) (r : Registry) :
    (r.takeStorage cfg).tasks = r.tasks := by
  unfold takeStorage
  split <;> rfl

@[simp] theorem takeStorage_probeIds (cfg : Config) (r : Registry) :
    (r.takeStorage cfg).probeIds = r.probeIds := by
  unfold takeStorage
  split <;> rfl

@[simp] theorem takeStorage_nextBuffer (cfg : Config) (r : Registry) :
    (r.takeStorage cfg).nextBuffer = r.nextBuffer := by
  unfold takeStorage
  split <;> rfl

@[simp] theorem takeStorage_excludedTaskProbeIds (cfg : Config) (r : Registry) :
    (r.takeStorage cfg).excludedTaskProbeIds = r.excludedTaskProbeIds := by
  unfold takeStorage
  split <;> rfl

@[simp] theorem takeStorage_excludedNames (cfg : Config) (r : Registry) :
    (r.takeStorage cfg).excludedNames = r.excludedNames := by
  unfold takeStorage
  split <;> rfl

/-- Taking storage shows in the allocator. -/
theorem takeStorage_consumes (cfg : Config) (r : Registry) :
    ¬ ((r.takeStorage cfg).nextStorageIndex = r.nextStorageIndex ∧
      (r.takeStorage cfg).nextBlock = r.nextBlock) := by
  have pos := cfg.taskProbeSize_pos
  have lt := cfg.taskProbeSize_lt
  unfold takeStorage
  split
  · rintro ⟨same, -⟩
    dsimp only at same
    by_cases wraps : r.nextStorageIndex + cfg.taskProbeSize < 2 ^ cfg.sizeWidth
    · rw [Nat.mod_eq_of_lt wraps] at same
      omega
    · have below := Nat.mod_lt (r.nextStorageIndex + cfg.taskProbeSize)
        (Nat.two_pow_pos cfg.sizeWidth)
      rw [Nat.mod_eq_sub_mod (by omega), Nat.mod_eq_of_lt (by omega)] at same
      omega
  · rintro ⟨-, same⟩
    exact Nat.succ_ne_self _ same

end Registry

/-- What taking available storage means for the counters. -/
structure Advances (cfg : Config) (r r' : Registry) : Prop where
  index : r.nextStorageIndex ≤ r'.nextStorageIndex
  block : r.nextBlock ≤ r'.nextBlock
  fits : r'.nextStorageIndex ≤ cfg.storageSize
  size : r'.nextStorageIndex ≠ 0 → cfg.taskProbeSize ≤ cfg.storageSize

/-! The slot table. -/

/-- The entry a registration puts into a free slot. -/
def Registry.newSlot (cfg : Config) (env : External) (task : TaskHandle) (probe : Probe)
    (r : Registry) : TcbProbe :=
  if cfg.includeControlPlaneBuffer && (env.messageBufferCreate && env.mallocTaskBuffer) then
    { tcb := some task, probe := some probe
      controlMsgBuffer := some r.nextBuffer, taskLocalBuffer := some r.nextBlock }
  else { tcb := some task, probe := some probe }

theorem fillSlot_slots (cfg : Config) (env : External) {i : Nat} (task : TaskHandle)
    (probe : Probe) {r : Registry} (free : r.slots[i]? = some {}) :
    (r.fillSlot cfg env i task probe).slots = r.slots.set i (r.newSlot cfg env task probe) := by
  have empty : r.slots.getD i {} = {} := by
    rw [List.getD_eq_getElem?_getD, free]
    rfl
  have lt : i < r.slots.length := (List.getElem?_eq_some_iff.mp free).1
  unfold Registry.fillSlot Registry.addBuffers Registry.newSlot Registry.putTask
    Registry.modifySlot
  by_cases control : cfg.includeControlPlaneBuffer = true
  · by_cases both : (env.messageBufferCreate && env.mallocTaskBuffer) = true
    · simp only [control, both, if_true, Bool.and_self, empty, List.set_set]
      simp [lt]
    · simp [control, both, free]
  · simp [control, free]

structure FillFrame (cfg : Config) (r r' : Registry) : Prop where
  tcbs : r'.tcbs = r.tcbs
  tasks : r'.tasks = r.tasks
  probeIds : r'.probeIds = r.probeIds
  excludedTaskProbeIds : r'.excludedTaskProbeIds = r.excludedTaskProbeIds
  excludedNames : r'.excludedNames = r.excludedNames
  nextStorageIndex : r'.nextStorageIndex = r.nextStorageIndex
  nextBlock : r.nextBlock ≤ r'.nextBlock
  nextBuffer : r.nextBuffer ≤ r'.nextBuffer

theorem fillSlot_frame (cfg : Config) (env : External) (i : Nat) (task : TaskHandle)
    (probe : Probe) (r : Registry) : FillFrame cfg r (r.fillSlot cfg env i task probe) := by
  unfold Registry.fillSlot Registry.addBuffers Registry.putTask Registry.modifySlot
  by_cases control : cfg.includeControlPlaneBuffer = true
  · cases env.messageBufferCreate <;> cases env.mallocTaskBuffer <;>
      simp only [control, if_true] <;>
      exact ⟨rfl, rfl, rfl, rfl, rfl, rfl, by simp, by simp⟩
  · rw [if_neg control]
    exact ⟨rfl, rfl, rfl, rfl, rfl, rfl, Nat.le_refl _, Nat.le_refl _⟩

theorem newSlot_fields (cfg : Config) (env : External) (task : TaskHandle) (probe : Probe)
    (r : Registry) : (r.newSlot cfg env task probe).tcb = some task ∧
      (r.newSlot cfg env task probe).probe = some probe := by
  unfold Registry.newSlot
  split <;> exact ⟨rfl, rfl⟩

/-- The buffers of a new slot are new. -/
theorem newSlot_buffer {cfg : Config} {env : External} {task : TaskHandle} {probe : Probe}
    {r : Registry} {b : Nat} (i : Nat)
    (h : (r.newSlot cfg env task probe).controlMsgBuffer = some b) :
    b = r.nextBuffer ∧ b < (r.fillSlot cfg env i task probe).nextBuffer ∧
      (r.newSlot cfg env task probe).taskLocalBuffer.isSome = true := by
  unfold Registry.newSlot at h ⊢
  unfold Registry.fillSlot Registry.addBuffers Registry.putTask Registry.modifySlot
  by_cases both : (cfg.includeControlPlaneBuffer &&
      (env.messageBufferCreate && env.mallocTaskBuffer)) = true
  · rw [if_pos both] at h ⊢
    simp only [Bool.and_eq_true] at both
    obtain ⟨control, create, malloc⟩ := both
    obtain rfl : r.nextBuffer = b := by simpa using h
    simp [control, create, malloc]
  · rw [if_neg both] at h
    cases h

section
variable {cfg : Config} {r r' : Registry} {s t : State} {op : Op} {i : Nat} {e : TcbProbe}

theorem init_slots (cfg : Config) :
    (State.init cfg).registry.slots = List.replicate cfg.maxProbes {} := by
  simp only [State.registry, State.init, List.map_replicate]
  rfl

namespace Slots

theorem init (cfg : Config) : Slots cfg (State.init cfg).registry := by
  have free : ∀ (i : Nat) (e : TcbProbe),
      (State.init cfg).registry.slots[i]? = some e → e = {} := by
    intro i e slot
    rw [init_slots] at slot
    exact List.eq_of_mem_replicate (List.mem_of_getElem? slot)
  refine ⟨?_, ?_, ?_, ?_, ?_, ?_, Nat.zero_le _, fun h => absurd rfl h⟩
  · rw [init_slots, List.length_replicate]
  · rw [init_slots]
    exact (SlotTable.packed_replicate _ rfl).rest_free
  · intro i e t slot tcb
    rw [free i e slot] at tcb
    cases tcb
  · intro i j e e' probe slot _ own _
    rw [free i e slot] at own
    cases own
  · intro i e b slot buffer
    rw [free i e slot] at buffer
    cases buffer
  · intro i j e e' b slot _ buffer _
    rw [free i e slot] at buffer
    cases buffer

theorem same (h : Slots cfg r) (slots : r'.slots = r.slots) (advance : Advances cfg r r')
    (nextBuffer : r'.nextBuffer = r.nextBuffer) : Slots cfg r' where
  length := slots ▸ h.length
  packed := slots ▸ h.packed
  probe i e t slot tcb := by
    obtain ⟨probe, isProbe, allocated⟩ := h.probe i e t (slots ▸ slot) tcb
    exact ⟨probe, isProbe, allocated.mono advance.index advance.block⟩
  probes := slots ▸ h.probes
  buffer i e b slot isBuffer := nextBuffer ▸ h.buffer i e b (slots ▸ slot) isBuffer
  buffers := slots ▸ h.buffers
  index := advance.fits
  size := advance.size

/-- Nothing is filled or taken. -/
theorem frame (h : Slots cfg r) (slots : r'.slots = r.slots)
    (index : r'.nextStorageIndex = r.nextStorageIndex) (block : r'.nextBlock = r.nextBlock)
    (nextBuffer : r'.nextBuffer = r.nextBuffer) : Slots cfg r' :=
  h.same slots ⟨Nat.le_of_eq index.symm, Nat.le_of_eq block.symm, index ▸ h.index,
    index ▸ h.size⟩ nextBuffer

theorem free (h : Slots cfg r) (slot : r.slots[i]? = some e) (unused : e.tcb = none) : e = {} :=
  h.packed i i e e slot unused (Nat.le_refl i) slot

theorem used (h : Slots cfg r) {f : TcbProbe → Option β} (slot : r.slots[i]? = some e)
    (empty : f {} = none) {b : β} (holds : f e = some b) : ∃ task, e.tcb = some task := by
  cases tcb : e.tcb with
  | some task => exact ⟨task, rfl⟩
  | none =>
      rw [h.free slot tcb, empty] at holds
      exact absurd holds.symm (Option.some_ne_none b)

theorem probe_allocated (h : Slots cfg r) (slot : r.slots[i]? = some e) {probe : Probe}
    (own : e.probe = some probe) : Allocated cfg r probe := by
  obtain ⟨task, tcb⟩ := h.used slot (f := TcbProbe.probe) rfl own
  obtain ⟨probe', own', allocated⟩ := h.probe i e task slot tcb
  exact Option.some.inj (own.symm.trans own') ▸ allocated

/-- Available storage is taken once: the counters do not wrap. -/
theorem advances (h : Slots cfg r) (env : External) (available : StorageAvailable cfg env r) :
    Advances cfg r (r.takeStorage cfg) ∧ Allocated cfg (r.takeStorage cfg) (r.storage cfg) := by
  have indexFits := h.index
  have sizeFits := h.size
  have lt := cfg.storageSize_lt
  have sizeLt := cfg.taskProbeSize_lt
  unfold StorageAvailable at available
  unfold Registry.takeStorage Registry.storage
  by_cases static : cfg.staticAllocation = true
  · rw [if_pos static] at available
    simp only [static, if_true]
    -- the sum does not wrap: the size was already checked, or it is the first allocation
    have half : 2 ^ (cfg.sizeWidth - 1) + 2 ^ (cfg.sizeWidth - 1) ≤ 2 ^ cfg.sizeWidth ∨
        cfg.sizeWidth = 0 := by
      cases hw : cfg.sizeWidth with
      | zero => exact .inr rfl
      | succ w =>
          left
          rw [Nat.add_sub_cancel, Nat.pow_succ]
          omega
    have noWrap : r.nextStorageIndex + cfg.taskProbeSize < 2 ^ cfg.sizeWidth := by
      by_cases first : r.nextStorageIndex = 0
      · rw [first, Nat.zero_add]
        exact sizeLt
      · have := sizeFits first
        rcases half with half | zero
        · omega
        · rw [zero] at lt sizeLt
          have := cfg.storageSize_pos
          simp at lt
          omega
    rw [Nat.mod_eq_of_lt noWrap] at available ⊢
    refine ⟨⟨Nat.le_add_right _ _, Nat.le_refl _, available, fun _ => by omega⟩, static, ?_⟩
    exact Nat.le_refl _
  · simp only [static]
    exact ⟨⟨Nat.le_refl _, Nat.le_succ _, indexFits, sizeFits⟩, Nat.lt_succ_self _⟩

theorem takeStorage (h : Slots cfg r) (env : External) (available : StorageAvailable cfg env r) :
    Slots cfg (r.takeStorage cfg) :=
  h.same (Registry.takeStorage_slots cfg r) (h.advances env available).1
    (Registry.takeStorage_nextBuffer cfg r)

theorem nameTask (h : Slots cfg r) (task : TaskHandle) : Slots cfg (r.nameTask cfg task) :=
  h.frame rfl rfl rfl rfl

/-- The registry after the probe was initialized, before the slot. -/
theorem allocate (h : Slots cfg r) {env : External} {task : TaskHandle}
    (gets : GetsProbe cfg env task r) :
    Slots cfg (r.allocate cfg task) ∧ Advances cfg r (r.allocate cfg task) ∧
      Allocated cfg (r.allocate cfg task) (r.storage cfg) ∧
      (r.allocate cfg task).slots = r.slots := by
  have named := h.nameTask task
  obtain ⟨advance, allocated⟩ := named.advances env gets.1.2
  exact ⟨(named.takeStorage env gets.1.2).frame rfl rfl rfl rfl,
    ⟨advance.index, advance.block, advance.fits, advance.size⟩,
    allocated.mono (Nat.le_refl _) (Nat.le_refl _),
    Registry.takeStorage_slots cfg (r.nameTask cfg task)⟩

/-- The first free slot is filled, with a probe that is in no slot. -/
theorem fillSlot (h : Slots cfg r) (env : External) (task : TaskHandle) {probe : Probe}
    (first : SlotTable.find TcbProbe.tcb r.slots none = some i)
    (allocated : Allocated cfg r probe)
    (new : ∀ (j : Nat) (e : TcbProbe), r.slots[j]? = some e → e.probe ≠ some probe) :
    (r.fillSlot cfg env i task probe).slots = r.slots.set i (r.newSlot cfg env task probe) ∧
      Slots cfg (r.fillSlot cfg env i task probe) := by
  obtain ⟨⟨e₀, slot, unused⟩, -⟩ := SlotTable.find_eq_some_iff.mp first
  have slots := fillSlot_slots cfg env task probe (h.free slot unused ▸ slot)
  have frame := fillSlot_frame cfg env i task probe r
  obtain ⟨newTcb, newProbe⟩ := newSlot_fields cfg env task probe r
  refine ⟨slots, ?_, ?_, fun j e t at_j tcb => ?_, ?_, fun j e b at_j isBuffer => ?_, ?_,
    frame.nextStorageIndex ▸ h.index, frame.nextStorageIndex ▸ h.size⟩
  · rw [slots, List.length_set]
    exact h.length
  · exact slots ▸ h.packed.set first newTcb
  · have mono : ∀ {p : Probe}, Allocated cfg r p → Allocated cfg (r.fillSlot cfg env i task probe) p :=
      fun old => old.mono (Nat.le_of_eq frame.nextStorageIndex.symm) frame.nextBlock
    cases SlotTable.getElem?_set_cases (slots ▸ at_j) with
    | inl isNew => exact ⟨probe, isNew.2 ▸ newProbe, mono allocated⟩
    | inr old =>
        obtain ⟨own, isOwn, before⟩ := h.probe j e t old.2 tcb
        exact ⟨own, isOwn, mono before⟩
  · refine slots ▸ h.probes.set fun j e p at_j isNew => ?_
    rw [← Option.some.inj (newProbe.symm.trans isNew)]
    exact new j e at_j
  · cases SlotTable.getElem?_set_cases (slots ▸ at_j) with
    | inl isNew =>
        rw [isNew.2] at isBuffer ⊢
        exact (newSlot_buffer i isBuffer).2
    | inr old =>
        obtain ⟨less, isLocal⟩ := h.buffer j e b old.2 isBuffer
        exact ⟨Nat.lt_of_lt_of_le less frame.nextBuffer, isLocal⟩
  · refine slots ▸ h.buffers.set fun j e b at_j isNew isBuffer => ?_
    have less := (h.buffer j e b at_j isBuffer).1
    rw [(newSlot_buffer i isNew).1] at less
    exact Nat.lt_irrefl _ less

/-- A registration that fills a slot. -/
theorem registered (h : Slots cfg s.registry) {env : External} {task : TaskHandle}
    {uxPriority : BitVec 32} (outcome : RegistersIn cfg env task uxPriority i s t) :
    SlotTable.find TcbProbe.tcb s.registry.slots none = some i ∧
      t.registry.slots = s.registry.slots.set i
        ((s.registry.allocate cfg task).newSlot cfg env task (s.registry.storage cfg)) ∧
      Slots cfg t.registry := by
  have first := outcome.first
  rw [getTcbProbe_eq] at first
  obtain ⟨allocatedSlots, -, allocated, slots⟩ := h.allocate outcome.gets
  have new : ∀ (j : Nat) (e : TcbProbe), (s.registry.allocate cfg task).slots[j]? = some e →
      e.probe ≠ some (s.registry.storage cfg) :=
    fun j e slot own => storage_fresh cfg s.registry (h.probe_allocated (slots ▸ slot) own)
  obtain ⟨filled, sound⟩ := allocatedSlots.fillSlot env _ (slots ▸ first) allocated new
  rw [outcome.registry]
  exact ⟨first, slots ▸ filled, sound.frame rfl rfl rfl rfl⟩

end Slots

theorem slots_step (h : Slots cfg s.registry) (op : Op) : Slots cfg (step cfg s op).registry := by
  cases step_registry cfg s op with
  | same registry => exact registry ▸ h
  | excluded _ registry | ioCreated _ _ _ registry | deleted _ _ registry
  | filtered _ _ _ registry | created _ _ _ _ _ _ registry =>
      rw [registry]
      exact h.frame rfl rfl rfl rfl
  | registersIn env new name uxPriority i isOp on outcome =>
      have added : Slots cfg (s.addTask cfg new name).registry := h.frame rfl rfl rfl rfl
      exact (added.registered outcome).2.2
  | registersNowhere env new name uxPriority isOp on outcome =>
      have added : Slots cfg (s.addTask cfg new name).registry := h.frame rfl rfl rfl rfl
      rw [outcome.registry]
      exact (added.allocate outcome.gets).1.frame rfl rfl rfl rfl
  | registersNothing env new name uxPriority isOp on outcome =>
      have added : Slots cfg (s.addTask cfg new name).registry := h.frame rfl rfl rfl rfl
      rw [outcome.registry]
      split
      · rename_i takes
        exact (added.nameTask new.handle).takeStorage env takes.2
      · exact added.nameTask new.handle

theorem slots_reached (cfg : Config) (ops : List Op) :
    Slots cfg (ops.foldl (step cfg) (State.init cfg)).registry :=
  have run : Transition.Run (step cfg) (fun _ _ => True) (State.init cfg) ops _ :=
    .free (fun _ _ => trivial) _ ops
  run.invariant (P := fun s => Slots cfg s.registry) (fun _ op table _ => slots_step table op)
    (.init cfg)

/-- An action leaves the slots alone or fills the first free one. -/
theorem Slots.move (h : Slots cfg s.registry) (op : Op) :
    (step cfg s op).registry.slots = s.registry.slots ∨
      ∃ i e, SlotTable.find TcbProbe.tcb s.registry.slots none = some i ∧
        (step cfg s op).registry.slots = s.registry.slots.set i e := by
  cases step_registry cfg s op with
  | same registry | excluded _ registry | ioCreated _ _ _ registry | deleted _ _ registry
  | filtered _ _ _ registry | created _ _ _ _ _ _ registry =>
      exact .inl ((congrArg Registry.slots registry).trans rfl)
  | registersIn env new name uxPriority i isOp on outcome =>
      have added : Slots cfg (s.addTask cfg new name).registry := h.frame rfl rfl rfl rfl
      obtain ⟨first, slots, -⟩ := added.registered outcome
      exact .inr ⟨i, _, first, slots⟩
  | registersNowhere env new name uxPriority isOp on outcome =>
      rw [outcome.registry]
      exact .inl (Registry.takeStorage_slots cfg _)
  | registersNothing env new name uxPriority isOp on outcome =>
      rw [outcome.registry]
      split
      · exact .inl (Registry.takeStorage_slots cfg _)
      · exact .inl rfl

/-- A used slot is never written again. -/
theorem Slots.kept (h : Slots cfg s.registry) (op : Op) {task : TaskHandle}
    (slot : s.registry.slots[i]? = some e) (tcb : e.tcb = some task) :
    (step cfg s op).registry.slots[i]? = some e := by
  cases h.move op with
  | inl same => exact same ▸ slot
  | inr fills =>
      obtain ⟨j, e', first, slots⟩ := fills
      obtain ⟨⟨e₀, at_j, unused⟩, -⟩ := SlotTable.find_eq_some_iff.mp first
      have ne : j ≠ i := by
        intro same
        have isFree : e₀ = e := Option.some.inj (at_j.symm.trans (same ▸ slot))
        exact absurd (tcb.symm.trans (isFree ▸ unused)) (Option.some_ne_none task)
      rw [slots, List.getElem?_set_ne ne]
      exact slot

/-- The slot of a task is found for good. -/
theorem Slots.found (h : Slots cfg s.registry) (op : Op) {task : TaskHandle}
    (found : SlotTable.find TcbProbe.tcb s.registry.slots (some task) = some i) :
    SlotTable.find TcbProbe.tcb (step cfg s op).registry.slots (some task) = some i := by
  cases h.move op with
  | inl same => exact same ▸ found
  | inr fills =>
      obtain ⟨j, e', first, slots⟩ := fills
      exact slots ▸ h.packed.find_set rfl first found

end

end ProbeTrace
