import ProbeTrace.Metatheory.Slots

/-!
The invariants of the registry. `Table` adds to the slots that no task has two, `Owners` speaks
about the probe each task was registered with. They hold in every run in which a task that gets a
probe has no slot yet, whether or not tasks are deleted; without deletions that condition holds by
itself.
-/
namespace ProbeTrace

structure Table (cfg : Config) (r : Registry) : Prop extends Slots cfg r where
  tasks : SlotTable.Distinct TcbProbe.tcb r.slots

structure Owners (cfg : Config) (r : Registry) : Prop where
  allocated : ∀ (t : TaskHandle) (probe : Probe), (r.tcbs t).registered = some probe →
    Allocated cfg r probe
  probeId : ∀ (t : TaskHandle) (probe : Probe), (r.tcbs t).registered = some probe →
    r.probeIds probe = some ((r.taskId t).setWidth 32) ∧ r.taskId t = r.idOf cfg t
  slot : ∀ (i : Nat) (e : TcbProbe) (t : TaskHandle) (probe : Probe), r.slots[i]? = some e →
    e.tcb = some t → (r.tcbs t).registered = some probe → e.probe = some probe

namespace Table
variable {cfg : Config} {r r' : Registry}

theorem init (cfg : Config) : Table cfg (State.init cfg).registry where
  toSlots := .init cfg
  tasks := by
    rw [init_slots]
    exact (SlotTable.packed_replicate _ rfl).distinct

theorem isPacked (h : Table cfg r) : SlotTable.Packed TcbProbe.tcb {} r.slots :=
  ⟨h.packed, h.tasks⟩

/-- Nothing is filled or taken. -/
theorem same (h : Table cfg r) (slots : r'.slots = r.slots)
    (index : r'.nextStorageIndex = r.nextStorageIndex) (block : r'.nextBlock = r.nextBlock)
    (nextBuffer : r'.nextBuffer = r.nextBuffer) : Table cfg r' where
  toSlots := h.toSlots.frame slots index block nextBuffer
  tasks := slots ▸ h.tasks

/-- Filling the first free slot for a task that has none with a new probe. -/
theorem fillSlot (h : Table cfg r) (env : External) {i : Nat} {task : TaskHandle}
    {probe : Probe} (first : SlotTable.find TcbProbe.tcb r.slots none = some i)
    (fresh : SlotTable.find TcbProbe.tcb r.slots (some task) = none)
    (allocated : Allocated cfg r probe)
    (new : ∀ (j : Nat) (e : TcbProbe), r.slots[j]? = some e → e.probe ≠ some probe) :
    Table cfg (r.fillSlot cfg env i task probe) := by
  obtain ⟨slots, filled⟩ := h.toSlots.fillSlot env task first allocated new
  have newTcb := (newSlot_fields cfg env task probe r).1
  refine ⟨filled, slots ▸ h.tasks.set fun j e t slot isNew own => ?_⟩
  exact SlotTable.find_eq_none_iff.mp fresh j e slot (own.trans (isNew.symm.trans newTcb))

end Table

/-! The owners. -/

namespace Registry

theorem nameTask_tcbs_self (cfg : Config) (task : TaskHandle) (r : Registry) :
    (r.nameTask cfg task).tcbs task = { r.tcbs task with
      uxTaskNumber := traceWriteUpper16
        (traceWriteLower16 (r.tcbs task).uxTaskNumber (r.idOf cfg task)) 0 } :=
  Function.update_self ..

theorem nameTask_tcbs_other (cfg : Config) {task t : TaskHandle} (ht : t ≠ task)
    (r : Registry) : (r.nameTask cfg task).tcbs t = r.tcbs t :=
  Function.update_of_ne ht ..

theorem setFilter_tcbs_self (task : TaskHandle) (filter : BitVec 16) (r : Registry) :
    (r.setFilter task filter).tcbs task = { r.tcbs task with
      uxTaskNumber := traceWriteUpper16 (r.tcbs task).uxTaskNumber filter } :=
  Function.update_self ..

theorem setFilter_tcbs_other {task t : TaskHandle} (ht : t ≠ task) (filter : BitVec 16)
    (r : Registry) : (r.setFilter task filter).tcbs t = r.tcbs t :=
  Function.update_of_ne ht ..

theorem markTask_tcbs_self (cfg : Config) (task : TaskHandle) (probe : Probe) (r : Registry) :
    (r.markTask cfg task probe).tcbs task =
      { uxTaskNumber := traceWriteUpper16 (r.tcbs task).uxTaskNumber 0xFFFF
        pxTaskTag := if cfg.placeProbeInTcbAppTag then some probe else (r.tcbs task).pxTaskTag
        pcTaskName := (r.tcbs task).pcTaskName
        registered := some probe } :=
  Function.update_self ..

theorem markTask_tcbs_other (cfg : Config) {task t : TaskHandle} (ht : t ≠ task)
    (probe : Probe) (r : Registry) : (r.markTask cfg task probe).tcbs t = r.tcbs t :=
  Function.update_of_ne ht ..

theorem addTask_tcbs_self (cfg : Config) (new : NewTask) (name : CString) (r : Registry) :
    (r.addTask cfg new name).tcbs new.handle =
      { uxTaskNumber := new.taskNumber, pxTaskTag := none
        pcTaskName := name.take (cfg.maxTaskNameLen - 1) } :=
  Function.update_self ..

theorem addTask_tcbs_other (cfg : Config) {new : NewTask} {t : TaskHandle}
    (ht : t ≠ new.handle) (name : CString) (r : Registry) :
    (r.addTask cfg new name).tcbs t = r.tcbs t :=
  Function.update_of_ne ht ..

end Registry

namespace Owners
variable {cfg : Config} {r r' : Registry}

theorem init (cfg : Config) : Owners cfg (State.init cfg).registry where
  allocated _ _ h := by cases h
  probeId _ _ h := by cases h
  slot _ _ _ _ _ _ h := by cases h

/-- Every task that still has its probe has it with the same id and name. -/
theorem transfer (h : Owners cfg r)
    (keep : ∀ (t : TaskHandle) (probe : Probe), (r'.tcbs t).registered = some probe →
      (r.tcbs t).registered = some probe ∧ r'.taskId t = r.taskId t ∧
        (r'.tcbs t).pcTaskName = (r.tcbs t).pcTaskName)
    (slots : r'.slots = r.slots) (probeIds : r'.probeIds = r.probeIds)
    (index : r.nextStorageIndex ≤ r'.nextStorageIndex) (block : r.nextBlock ≤ r'.nextBlock) :
    Owners cfg r' where
  allocated t probe ht := (h.allocated t probe (keep t probe ht).1).mono index block
  probeId t probe ht := by
    obtain ⟨registered, id, name⟩ := keep t probe ht
    obtain ⟨hid, hname⟩ := h.probeId t probe registered
    rw [probeIds, id]
    exact ⟨hid, by rw [hname, Registry.idOf, Registry.idOf, name]⟩
  slot i e t probe he ht registered := by
    rw [slots] at he
    exact h.slot i e t probe he ht (keep t probe registered).1

theorem addTask (h : Owners cfg r) (new : NewTask) (name : CString) :
    Owners cfg (r.addTask cfg new name) := by
  refine h.transfer ?_ rfl rfl (Nat.le_refl _) (Nat.le_refl _)
  intro t probe registered
  by_cases ht : t = new.handle
  · rw [ht, Registry.addTask_tcbs_self] at registered
    cases registered
  · have other := r.addTask_tcbs_other cfg ht name
    rw [other] at registered
    exact ⟨registered, by rw [Registry.taskId, other]; rfl, by rw [other]⟩

theorem setFilter (h : Owners cfg r) (task : TaskHandle) (filter : BitVec 16) :
    Owners cfg (r.setFilter task filter) := by
  refine h.transfer ?_ rfl rfl (Nat.le_refl _) (Nat.le_refl _)
  intro t probe registered
  by_cases ht : t = task
  · subst ht
    have self := r.setFilter_tcbs_self t filter
    rw [self] at registered
    refine ⟨registered, ?_, by rw [self]⟩
    rw [Registry.taskId, self, readLower_writeUpper]
    rfl
  · have other := r.setFilter_tcbs_other ht filter
    rw [other] at registered
    exact ⟨registered, by rw [Registry.taskId, other]; rfl, by rw [other]⟩

/-- A task without a probe is named. -/
theorem nameTask (h : Owners cfg r) {task : TaskHandle}
    (unregistered : (r.tcbs task).registered = none) : Owners cfg (r.nameTask cfg task) := by
  refine h.transfer ?_ rfl rfl (Nat.le_refl _) (Nat.le_refl _)
  intro t probe registered
  by_cases ht : t = task
  · rw [ht, Registry.nameTask_tcbs_self] at registered
    rw [show (r.tcbs task).registered = none from unregistered] at registered
    cases registered
  · have other := r.nameTask_tcbs_other cfg ht
    rw [other] at registered
    exact ⟨registered, by rw [Registry.taskId, other]; rfl, by rw [other]⟩

theorem takeStorage (h : Owners cfg r) (advance : Advances cfg r (r.takeStorage cfg)) :
    Owners cfg (r.takeStorage cfg) := by
  refine h.transfer ?_ (by simp) (by simp) advance.index advance.block
  intro t probe registered
  rw [Registry.takeStorage_tcbs] at registered
  exact ⟨registered, by simp [Registry.taskId], by simp⟩

/-- A task is marked with the probe that was just initialized for it. -/
theorem register (h : Owners cfg r) {task : TaskHandle} {probe : Probe}
    (fresh : ¬ Allocated cfg r probe) (tcbs : r'.tcbs = (r.nameTask cfg task).tcbs)
    (probeIds : r'.probeIds =
      Function.update r.probeIds probe (some ((r.idOf cfg task).setWidth 32)))
    (index : r.nextStorageIndex ≤ r'.nextStorageIndex) (block : r.nextBlock ≤ r'.nextBlock)
    (allocated : Allocated cfg r' probe)
    (slots : ∀ (i : Nat) (e : TcbProbe) (t : TaskHandle), r'.slots[i]? = some e →
      e.tcb = some t → (t = task ∧ e.probe = some probe) ∨ (t ≠ task ∧ r.slots[i]? = some e)) :
    Owners cfg (r'.markTask cfg task probe) := by
  have self := r'.markTask_tcbs_self cfg task probe
  rw [tcbs, Registry.nameTask_tcbs_self] at self
  have other : ∀ t, t ≠ task → (r'.markTask cfg task probe).tcbs t = r.tcbs t := by
    intro t ht
    rw [Registry.markTask_tcbs_other cfg ht, tcbs, Registry.nameTask_tcbs_other cfg ht]
  constructor
  · intro t p registered
    by_cases ht : t = task
    · rw [ht, self] at registered
      obtain rfl : probe = p := by simpa using registered
      exact allocated
    · rw [other t ht] at registered
      exact (h.allocated t p registered).mono index block
  · intro t p registered
    by_cases ht : t = task
    · rw [ht, self] at registered
      obtain rfl : probe = p := by simpa using registered
      have id : (r'.markTask cfg task probe).taskId task = r.idOf cfg task := by
        rw [Registry.taskId, self]
        simp
      have name : (r'.markTask cfg task probe).idOf cfg task = r.idOf cfg task := by
        rw [Registry.idOf, self]
        rfl
      rw [ht, id, name]
      refine ⟨?_, rfl⟩
      change r'.probeIds probe = _
      rw [probeIds, Function.update_self]
    · rw [other t ht] at registered
      have old := h.allocated t p registered
      obtain ⟨hid, hname⟩ := h.probeId t p registered
      have ne : p ≠ probe := by
        rintro rfl
        exact fresh old
      have id : (r'.markTask cfg task probe).taskId t = r.taskId t := by
        rw [Registry.taskId, other t ht]
        rfl
      have name : (r'.markTask cfg task probe).idOf cfg t = r.idOf cfg t := by
        rw [Registry.idOf, other t ht]
        rfl
      rw [id, name]
      refine ⟨?_, hname⟩
      change r'.probeIds p = _
      rw [probeIds, Function.update_of_ne ne, hid]
  · intro i e t p he htcb registered
    rcases slots i e t he htcb with ⟨rfl, hp⟩ | ⟨ht, he⟩
    · rw [self] at registered
      obtain rfl : probe = p := by simpa using registered
      exact hp
    · rw [other t ht] at registered
      exact h.slot i e t p he htcb registered

end Owners

/-! Both along a run. -/

structure Sound (cfg : Config) (r : Registry) : Prop where
  table : Table cfg r
  owners : Owners cfg r

/-- A task that gets a probe in this action has no slot yet. -/
def NoStaleSlot (cfg : Config) (s : State) : Op → Prop
  | .create env new name _ => s.isEnabled = true →
      GetsProbe cfg env new.handle (s.registry.addTask cfg new name) →
      SlotTable.find TcbProbe.tcb s.registry.slots (some new.handle) = none
  | _ => True

instance (cfg : Config) (s : State) (op : Op) : Decidable (NoStaleSlot cfg s op) := by
  unfold NoStaleSlot
  split <;> infer_instance

namespace Sound
variable {cfg : Config} {r : Registry}

theorem init (cfg : Config) : Sound cfg (State.init cfg).registry :=
  ⟨.init cfg, .init cfg⟩

theorem addTask (h : Sound cfg r) (new : NewTask) (name : CString) :
    Sound cfg (r.addTask cfg new name) :=
  ⟨h.table.same rfl rfl rfl rfl, h.owners.addTask new name⟩

theorem exclude (h : Sound cfg r) (pcName : CString) : Sound cfg (r.exclude cfg pcName) :=
  ⟨h.table.same rfl rfl rfl rfl,
    h.owners.transfer (fun _ _ registered => ⟨registered, rfl, rfl⟩) rfl rfl (Nat.le_refl _)
      (Nat.le_refl _)⟩

theorem deleteTask (h : Sound cfg r) (task : TaskHandle) : Sound cfg (r.deleteTask task) :=
  ⟨h.table.same rfl rfl rfl rfl,
    h.owners.transfer (fun _ _ registered => ⟨registered, rfl, rfl⟩) rfl rfl (Nat.le_refl _)
      (Nat.le_refl _)⟩

theorem setFilter (h : Sound cfg r) (task : TaskHandle) (filter : BitVec 16) :
    Sound cfg (r.setFilter task filter) :=
  ⟨h.table.same rfl rfl rfl rfl, h.owners.setFilter task filter⟩

theorem nameTask (h : Sound cfg r) {task : TaskHandle}
    (unregistered : (r.tcbs task).registered = none) : Sound cfg (r.nameTask cfg task) :=
  ⟨h.table.same rfl rfl rfl rfl, h.owners.nameTask unregistered⟩

theorem takeStorage (h : Sound cfg r) (env : External) (available : StorageAvailable cfg env r) :
    Sound cfg (r.takeStorage cfg) := by
  have advance := (h.table.advances env available).1
  have tasks : SlotTable.Distinct TcbProbe.tcb (r.takeStorage cfg).slots := by
    rw [Registry.takeStorage_slots]
    exact h.table.tasks
  exact ⟨⟨h.table.toSlots.takeStorage env available, tasks⟩, h.owners.takeStorage advance⟩

/-- The registry after the probe was initialized, before the slot. -/
theorem allocate (h : Sound cfg r) {env : External} {task : TaskHandle}
    (gets : GetsProbe cfg env task r) :
    Table cfg (r.allocate cfg task) ∧ Allocated cfg (r.allocate cfg task) (r.storage cfg) ∧
      Advances cfg r (r.allocate cfg task) ∧ (r.allocate cfg task).slots = r.slots := by
  obtain ⟨table, advance, allocated, slots⟩ := h.table.toSlots.allocate gets
  exact ⟨⟨table, slots ▸ h.table.tasks⟩, allocated, advance, slots⟩

theorem allocate_tcbs (cfg : Config) (task : TaskHandle) (r : Registry) :
    (r.allocate cfg task).tcbs = (r.nameTask cfg task).tcbs := by
  change ((r.nameTask cfg task).takeStorage cfg).tcbs = _
  rw [Registry.takeStorage_tcbs]

theorem allocate_probeIds (cfg : Config) (task : TaskHandle) (r : Registry) :
    (r.allocate cfg task).probeIds = Function.update r.probeIds (r.storage cfg)
      (some ((r.idOf cfg task).setWidth 32)) := by
  change Function.update ((r.nameTask cfg task).takeStorage cfg).probeIds _ _ = _
  rw [Registry.takeStorage_probeIds]
  rfl

/-- The task gets a probe but no slot. -/
theorem registerNowhere (h : Sound cfg r) {env : External} {task : TaskHandle}
    (gets : GetsProbe cfg env task r)
    (fresh : SlotTable.find TcbProbe.tcb r.slots (some task) = none) :
    Sound cfg ((r.allocate cfg task).markTask cfg task (r.storage cfg)) := by
  obtain ⟨table, allocated, advance, slots⟩ := h.allocate gets
  refine ⟨table.same rfl rfl rfl rfl,
    h.owners.register (storage_fresh cfg r) (allocate_tcbs cfg task r)
      (allocate_probeIds cfg task r) advance.index advance.block allocated ?_⟩
  intro i e t he ht
  rw [slots] at he
  refine .inr ⟨?_, he⟩
  rintro rfl
  exact SlotTable.find_eq_none_iff.mp fresh i e he ht

/-- The task gets a probe and the first free slot. -/
theorem registerIn (h : Sound cfg r) {env : External} {task : TaskHandle} {i : Nat}
    (gets : GetsProbe cfg env task r)
    (first : SlotTable.find TcbProbe.tcb r.slots none = some i)
    (fresh : SlotTable.find TcbProbe.tcb r.slots (some task) = none) :
    Sound cfg (((r.allocate cfg task).fillSlot cfg env i task (r.storage cfg)).markTask cfg task
      (r.storage cfg)) := by
  obtain ⟨table, allocated, advance, slots⟩ := h.allocate gets
  have frame := fillSlot_frame cfg env i task (r.storage cfg) (r.allocate cfg task)
  have new : ∀ (j : Nat) (e : TcbProbe), (r.allocate cfg task).slots[j]? = some e →
      e.probe ≠ some (r.storage cfg) := by
    intro j e he hp
    rw [slots] at he
    exact storage_fresh cfg r (h.table.probe_allocated he hp)
  have filled := table.fillSlot env (slots ▸ first) (slots ▸ fresh) allocated new
  refine ⟨filled.same rfl rfl rfl rfl,
    h.owners.register (storage_fresh cfg r) (frame.tcbs.trans (allocate_tcbs cfg task r))
      (frame.probeIds.trans (allocate_probeIds cfg task r))
      (advance.index.trans (Nat.le_of_eq frame.nextStorageIndex.symm))
      (advance.block.trans frame.nextBlock)
      (allocated.mono (Nat.le_of_eq frame.nextStorageIndex.symm) frame.nextBlock) ?_⟩
  obtain ⟨⟨e₀, he₀, free₀⟩, -⟩ := SlotTable.find_eq_some_iff.mp first
  have free : (r.allocate cfg task).slots[i]? = some {} := by
    rw [slots, he₀, h.table.free he₀ free₀]
  intro j e t he ht
  rw [fillSlot_slots cfg env task _ free, slots] at he
  obtain ⟨newTcb, newProbe⟩ := newSlot_fields cfg env task (r.storage cfg) (r.allocate cfg task)
  by_cases hj : j = i
  · subst hj
    rw [List.getElem?_set_self (SlotTable.find_lt first), Option.some.injEq] at he
    subst he
    rw [newTcb, Option.some.injEq] at ht
    exact .inl ⟨ht.symm, newProbe⟩
  · rw [List.getElem?_set_ne (Ne.symm hj)] at he
    refine .inr ⟨?_, he⟩
    rintro rfl
    exact SlotTable.find_eq_none_iff.mp fresh j e he ht

end Sound

theorem sound_step {cfg : Config} {s : State} {op : Op} (h : Sound cfg s.registry)
    (fresh : NoStaleSlot cfg s op) : Sound cfg (step cfg s op).registry := by
  cases step_registry cfg s op with
  | same registry => rwa [registry]
  | excluded pcName registry =>
      rw [registry]
      exact h.exclude pcName
  | ioCreated env new isOp registry =>
      rw [registry]
      exact (h.exclude cfg.ioTaskName).addTask new cfg.ioTaskName
  | deleted task isOp registry =>
      rw [registry]
      exact h.deleteTask task
  | filtered task filter isOp registry =>
      rw [registry]
      exact h.setFilter task filter
  | created env new name uxPriority isOp off registry =>
      rw [registry]
      exact h.addTask new name
  | registersIn env new name uxPriority i isOp on outcome =>
      subst isOp
      have first := outcome.first
      rw [getTcbProbe_eq] at first
      rw [outcome.registry]
      exact (h.addTask new name).registerIn outcome.gets first (fresh on outcome.gets)
  | registersNowhere env new name uxPriority isOp on outcome =>
      subst isOp
      rw [outcome.registry]
      exact (h.addTask new name).registerNowhere outcome.gets (fresh on outcome.gets)
  | registersNothing env new name uxPriority isOp on outcome =>
      have unregistered : ((s.registry.addTask cfg new name).tcbs new.handle).registered =
          none := by
        rw [Registry.addTask_tcbs_self]
      have named := (h.addTask new name).nameTask unregistered
      rw [outcome.registry, addTask_registry]
      split
      · rename_i takes
        exact named.takeStorage env takes.2
      · exact named

/-! What a step leaves of a task and of its slot. -/

/-- The slots after a task was registered in slot `i`. -/
theorem slots_of_registersIn {cfg : Config} {env : External} {task : TaskHandle}
    {uxPriority : BitVec 32} {i : Nat} {s t : State} (sound : Sound cfg s.registry)
    (h : RegistersIn cfg env task uxPriority i s t) :
    t.registry.slots = s.registry.slots.set i
      ((s.registry.allocate cfg task).newSlot cfg env task (s.registry.storage cfg)) :=
  (sound.table.toSlots.registered h).2.1

theorem slot_of_registered {cfg : Config} {env : External} {task : TaskHandle}
    {uxPriority : BitVec 32} {i : Nat} {s t : State} (sound : Sound cfg s.registry)
    (h : RegistersIn cfg env task uxPriority i s t) : t.registry.slots[i]? =
      some ((s.registry.allocate cfg task).newSlot cfg env task (s.registry.storage cfg)) := by
  have first := h.first
  rw [getTcbProbe_eq] at first
  rw [slots_of_registersIn sound h]
  exact List.getElem?_set_self (SlotTable.find_lt first)

/-- The control blocks after a task was registered, in a slot or nowhere. -/
theorem registered_tcbs (cfg : Config) (task : TaskHandle) (probe : Probe) {r r' : Registry}
    (tcbs : r'.tcbs = (r.nameTask cfg task).tcbs) :
    (r'.markTask cfg task probe).tcbs task =
      { uxTaskNumber := traceWriteUpper16 (traceWriteUpper16 (traceWriteLower16
          (r.tcbs task).uxTaskNumber (r.idOf cfg task)) 0) 0xFFFF
        pxTaskTag := if cfg.placeProbeInTcbAppTag then some probe else (r.tcbs task).pxTaskTag
        pcTaskName := (r.tcbs task).pcTaskName
        registered := some probe } ∧
      ∀ t, t ≠ task → (r'.markTask cfg task probe).tcbs t = r.tcbs t := by
  constructor
  · rw [Registry.markTask_tcbs_self, tcbs, Registry.nameTask_tcbs_self]
  · intro t ht
    rw [Registry.markTask_tcbs_other cfg ht, tcbs, Registry.nameTask_tcbs_other cfg ht]

theorem fillSlot_tcbs (cfg : Config) (env : External) (i : Nat) (task : TaskHandle)
    (r : Registry) :
    ((r.allocate cfg task).fillSlot cfg env i task (r.storage cfg)).tcbs =
      (r.nameTask cfg task).tcbs :=
  (fillSlot_frame ..).tcbs.trans (Sound.allocate_tcbs cfg task r)

theorem tasks_step {cfg : Config} {s : State} {op : Op} (kept : ¬ op.IsDelete) {task : TaskHandle}
    (mem : task ∈ s.tasks) : task ∈ (step cfg s op).tasks := by
  change task ∈ (step cfg s op).registry.tasks
  have old : task ∈ s.registry.tasks := mem
  cases step_registry cfg s op with
  | same registry | excluded _ registry | filtered _ _ _ registry =>
      rw [registry]
      exact old
  | ioCreated env new isOp registry =>
      rw [registry]
      exact List.mem_cons_of_mem _ old
  | deleted t isOp registry =>
      subst isOp
      exact absurd trivial kept
  | created env new name uxPriority isOp off registry =>
      rw [registry]
      exact List.mem_cons_of_mem _ old
  | registersIn env new name uxPriority i isOp on outcome =>
      rw [outcome.registry]
      change task ∈ (Registry.fillSlot ..).tasks
      rw [(fillSlot_frame ..).tasks]
      change task ∈ (Registry.takeStorage ..).tasks
      rw [Registry.takeStorage_tasks]
      exact List.mem_cons_of_mem _ old
  | registersNowhere env new name uxPriority isOp on outcome =>
      rw [outcome.registry]
      change task ∈ (Registry.takeStorage ..).tasks
      rw [Registry.takeStorage_tasks]
      exact List.mem_cons_of_mem _ old
  | registersNothing env new name uxPriority isOp on outcome =>
      rw [outcome.registry]
      split
      · rw [Registry.takeStorage_tasks]
        exact List.mem_cons_of_mem _ old
      · exact List.mem_cons_of_mem _ old

theorem not_creates_of_mem {cfg : Config} {s : State} {op : Op} (legal : op.Legal cfg s)
    {task : TaskHandle} (mem : task ∈ s.tasks) : ¬ op.Creates task := by
  cases op with
  | enable env io =>
      cases io with
      | none => exact id
      | some new => exact fun same => (legal new rfl).1 (same ▸ mem)
  | create env new name uxPriority => exact fun same => legal.1 (same ▸ mem)
  | disable | exclude _ | delete _ | start _ _ _ | switch _ _ _ _ | hook _ _
  | setFilter _ _ | ioRead _ | ioSend | ioReport _ _ | process _ | getBuffer => exact id

/-- The control block of a task changes by a write to its filter, or when its address is
used for a new task. -/
theorem tcb_step (cfg : Config) {s : State} {op : Op} {task : TaskHandle}
    (other : ¬ op.Creates task) :
    (step cfg s op).tcbs task = s.tcbs task ∨
      ∃ filter, op = .setFilter task filter ∧ (step cfg s op).tcbs task =
        { s.tcbs task with
          uxTaskNumber := traceWriteUpper16 (s.tcbs task).uxTaskNumber filter } := by
  change (step cfg s op).registry.tcbs task = s.registry.tcbs task ∨ _
  cases step_registry cfg s op with
  | same registry =>
      left
      rw [registry]
  | excluded _ registry | deleted _ _ registry =>
      left
      rw [registry]
      rfl
  | ioCreated env new isOp registry =>
      subst isOp
      left
      have ne : task ≠ new.handle := Ne.symm other
      rw [registry, Registry.addTask_tcbs_other cfg ne]
      rfl
  | filtered t filter isOp registry =>
      by_cases ht : task = t
      · subst ht
        refine .inr ⟨filter, isOp, ?_⟩
        change (step cfg s op).registry.tcbs task = _
        rw [registry, Registry.setFilter_tcbs_self]
        rfl
      · left
        rw [registry, Registry.setFilter_tcbs_other ht]
  | created env new name uxPriority isOp off registry =>
      subst isOp
      left
      have ne : task ≠ new.handle := Ne.symm other
      rw [registry, Registry.addTask_tcbs_other cfg ne]
  | registersIn env new name uxPriority i isOp on outcome =>
      subst isOp
      left
      have ne : task ≠ new.handle := Ne.symm other
      rw [outcome.registry, ← s.registry.addTask_tcbs_other cfg ne name]
      exact (registered_tcbs cfg new.handle _
        (fillSlot_tcbs cfg env i new.handle (s.registry.addTask cfg new name))).2 task ne
  | registersNowhere env new name uxPriority isOp on outcome =>
      subst isOp
      left
      have ne : task ≠ new.handle := Ne.symm other
      rw [outcome.registry, ← s.registry.addTask_tcbs_other cfg ne name]
      exact (registered_tcbs cfg new.handle _
        (Sound.allocate_tcbs cfg new.handle (s.registry.addTask cfg new name))).2 task ne
  | registersNothing env new name uxPriority isOp on outcome =>
      subst isOp
      left
      have ne : task ≠ new.handle := Ne.symm other
      rw [outcome.registry, ← s.registry.addTask_tcbs_other cfg ne name]
      split
      · rw [Registry.takeStorage_tcbs, Registry.nameTask_tcbs_other cfg ne]
        rfl
      · rw [Registry.nameTask_tcbs_other cfg ne]
        rfl

/-- A used slot is never written again. -/
theorem slot_step {cfg : Config} {s : State} {op : Op} (sound : Sound cfg s.registry) {i : Nat}
    {e : TcbProbe} {task : TaskHandle} (slot : s.registry.slots[i]? = some e)
    (tcb : e.tcb = some task) : (step cfg s op).registry.slots[i]? = some e :=
  sound.table.toSlots.kept op slot tcb

/-! Without deletions. -/

/-- Every slot belongs to a task that exists and holds the probe it was registered
with. -/
def Live (r : Registry) : Prop :=
  ∀ (i : Nat) (e : TcbProbe) (t : TaskHandle), r.slots[i]? = some e → e.tcb = some t →
    t ∈ r.tasks ∧ (r.tcbs t).registered = e.probe

theorem live_init (cfg : Config) : Live (State.init cfg).registry := by
  intro i e t he ht
  obtain ⟨probe, -, allocated⟩ := (Table.init cfg).probe i e t he ht
  cases probe with
  | probeStorage offset =>
      have := cfg.taskProbeSize_pos
      have fits : offset + cfg.taskProbeSize ≤ 0 := allocated.2
      omega
  | heap block => exact absurd allocated (Nat.not_lt_zero _)

theorem Live.find_none {r : Registry} (h : Live r) {task : TaskHandle} (absent : task ∉ r.tasks) :
    SlotTable.find TcbProbe.tcb r.slots (some task) = none :=
  SlotTable.find_eq_none_iff.mpr fun i e he ht => absent (h i e task he ht).1

/-- A change that concerns no task with a slot. -/
theorem Live.of_others {r r' : Registry} (h : Live r) {task : TaskHandle}
    (none : SlotTable.find TcbProbe.tcb r.slots (some task) = none)
    (slots : r'.slots = r.slots) (tasks : ∀ t ∈ r.tasks, t ∈ r'.tasks)
    (tcbs : ∀ t, t ≠ task → (r'.tcbs t).registered = (r.tcbs t).registered) : Live r' := by
  intro i e t he ht
  rw [slots] at he
  obtain ⟨mem, registered⟩ := h i e t he ht
  have ne : t ≠ task := by
    rintro rfl
    exact SlotTable.find_eq_none_iff.mp none i e he ht
  exact ⟨tasks t mem, (tcbs t ne).trans registered⟩

theorem Live.same {r r' : Registry} (h : Live r) (slots : r'.slots = r.slots)
    (tasks : r'.tasks = r.tasks)
    (tcbs : ∀ t, (r'.tcbs t).registered = (r.tcbs t).registered) : Live r' := by
  intro i e t he ht
  rw [slots] at he
  rw [tasks, tcbs]
  exact h i e t he ht

theorem Live.addTask {r : Registry} (h : Live r) (cfg : Config) {new : NewTask}
    (absent : new.handle ∉ r.tasks) (name : CString) : Live (r.addTask cfg new name) :=
  h.of_others (h.find_none absent) rfl (fun _ mem => List.mem_cons_of_mem _ mem)
    fun t ht => by rw [r.addTask_tcbs_other cfg ht]

theorem registered_nameTask (cfg : Config) (task t : TaskHandle) (r : Registry) :
    ((r.nameTask cfg task).tcbs t).registered = (r.tcbs t).registered := by
  by_cases ht : t = task
  · rw [ht, Registry.nameTask_tcbs_self]
  · rw [Registry.nameTask_tcbs_other cfg ht]

theorem registered_setFilter (task t : TaskHandle) (filter : BitVec 16) (r : Registry) :
    ((r.setFilter task filter).tcbs t).registered = (r.tcbs t).registered := by
  by_cases ht : t = task
  · rw [ht, Registry.setFilter_tcbs_self]
  · rw [Registry.setFilter_tcbs_other ht]

theorem live_of_noStale {cfg : Config} {s : State} {op : Op} (h : Live s.registry)
    (legal : op.Legal cfg s) : NoStaleSlot cfg s op := by
  cases op with
  | create env new name uxPriority => exact fun _ _ => h.find_none legal.1
  | enable _ _ | disable | exclude _ | delete _ | start _ _ _ | switch _ _ _ _ | hook _ _
  | setFilter _ _ | ioRead _ | ioSend | ioReport _ _ | process _ | getBuffer => trivial

theorem live_step {cfg : Config} {s : State} {op : Op} (sound : Sound cfg s.registry)
    (h : Live s.registry) (legal : op.Legal cfg s) (kept : ¬ op.IsDelete) :
    Live (step cfg s op).registry := by
  cases step_registry cfg s op with
  | same registry => rwa [registry]
  | excluded pcName registry =>
      rw [registry]
      exact h
  | ioCreated env new isOp registry =>
      subst isOp
      rw [registry]
      exact Live.addTask (r := s.registry.exclude cfg cfg.ioTaskName) h cfg
        (legal new rfl).1 cfg.ioTaskName
  | deleted task isOp registry =>
      subst isOp
      exact absurd trivial kept
  | filtered task filter isOp registry =>
      rw [registry]
      exact h.same rfl rfl fun t => registered_setFilter task t filter s.registry
  | created env new name uxPriority isOp off registry =>
      subst isOp
      rw [registry]
      exact h.addTask cfg legal.1 name
  | registersIn env new name uxPriority i isOp on outcome =>
      subst isOp
      have added := h.addTask cfg legal.1 name
      have slots := slots_of_registersIn (sound.addTask new name) outcome
      obtain ⟨self, other⟩ := registered_tcbs cfg new.handle (s.registry.storage cfg)
        (fillSlot_tcbs cfg env i new.handle (s.registry.addTask cfg new name))
      have frame := fillSlot_frame cfg env i new.handle (s.registry.storage cfg)
        ((s.registry.addTask cfg new name).allocate cfg new.handle)
      have tasks : (step cfg s (.create env new name uxPriority)).registry.tasks =
          new.handle :: s.registry.tasks := by
        rw [outcome.registry]
        change (Registry.fillSlot ..).tasks = _
        rw [(fillSlot_frame ..).tasks]
        change (Registry.takeStorage ..).tasks = _
        rw [Registry.takeStorage_tasks]
        rfl
      intro j e t he ht
      rw [slots] at he
      rw [tasks]
      obtain ⟨newTcb, newProbe⟩ := newSlot_fields cfg env new.handle
        ((s.addTask cfg new name).registry.storage cfg)
        ((s.addTask cfg new name).registry.allocate cfg new.handle)
      by_cases hj : j = i
      · subst hj
        rw [List.getElem?_set_self (by
          have first := outcome.first
          rw [getTcbProbe_eq] at first
          exact SlotTable.find_lt first), Option.some.injEq] at he
        subst he
        rw [newTcb, Option.some.injEq] at ht
        subst ht
        refine ⟨List.mem_cons_self, ?_⟩
        rw [newProbe, outcome.registry]
        exact congrArg Tcb.registered self
      · rw [List.getElem?_set_ne (Ne.symm hj)] at he
        obtain ⟨mem, registered⟩ := h j e t he ht
        have ne : t ≠ new.handle := by
          rintro rfl
          exact legal.1 mem
        refine ⟨List.mem_cons_of_mem _ mem, ?_⟩
        rw [outcome.registry, ← registered, ← s.registry.addTask_tcbs_other cfg ne name]
        exact congrArg Tcb.registered (other t ne)
  | registersNowhere env new name uxPriority isOp on outcome =>
      subst isOp
      have added := h.addTask cfg legal.1 name
      obtain ⟨self, other⟩ := registered_tcbs cfg new.handle (s.registry.storage cfg)
        (Sound.allocate_tcbs cfg new.handle (s.registry.addTask cfg new name))
      rw [outcome.registry]
      refine added.of_others (h.find_none legal.1) ?_ ?_ fun t ht => ?_
      · exact ((sound.addTask new name).allocate outcome.gets).2.2.2
      · intro t mem
        change t ∈ (Registry.takeStorage ..).tasks
        rw [Registry.takeStorage_tasks]
        exact mem
      · exact congrArg Tcb.registered (other t ht)
  | registersNothing env new name uxPriority isOp on outcome =>
      subst isOp
      have added := h.addTask cfg legal.1 name
      rw [outcome.registry, addTask_registry]
      split
      · exact added.same (by simp [Registry.nameTask, Registry.modifyTcb])
          (by simp [Registry.nameTask, Registry.modifyTcb])
          fun t => by rw [Registry.takeStorage_tcbs, registered_nameTask]
      · exact added.same rfl rfl fun t => registered_nameTask ..

/-- Without deletions the registry is sound and its slots belong to tasks. -/
theorem registry_of_run {cfg : Config} {ok : State → Op → Prop} {ops : List Op} {s : State}
    (kept : ∀ (s : State) (op : Op), ok s op → ¬ op.IsDelete) (h : Reaches cfg ok ops s) :
    Sound cfg s.registry ∧ Live s.registry := by
  refine h.invariant (P := fun s => Sound cfg s.registry ∧ Live s.registry) ?_
    ⟨.init cfg, live_init cfg⟩
  rintro s op ⟨sound, live⟩ ⟨legal, permitted⟩
  exact ⟨sound_step sound (live_of_noStale live legal),
    live_step sound live legal (kept s op permitted)⟩

end ProbeTrace
