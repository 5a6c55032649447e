import ProbeTrace.Metatheory.Slots

/-!
The life of the slot table. Slots are filled in order, each once in a run, and deleting a task
frees none: MPT_CFG_MAX_PROBES bounds the tasks that are ever traced, not those that are traced
at one time. When the table is full, the next task that gets a probe turns tracing off.
-/
namespace ProbeTrace

/-- The slots an action fills. -/
def slotsFilled (cfg : Config) (s : State) (op : Op) : List Nat :=
  (List.range cfg.maxProbes).filter fun i =>
    (s.tcbProbe i).tcb.isNone && ((step cfg s op).tcbProbe i).tcb.isSome

/-- What a run leaves of the slot table. -/
structure SlotLifetime (cfg : Config) (ops : List Op) (s : State) : Prop where
  in_order : Transition.outputs (step cfg) (slotsFilled cfg) (State.init cfg) ops =
    List.range (Transition.outputs (step cfg) (slotsFilled cfg) (State.init cfg) ops).length
  used : ∀ i, i < cfg.maxProbes → ((s.tcbProbe i).tcb.isSome ↔
    i < (Transition.outputs (step cfg) (slotsFilled cfg) (State.init cfg) ops).length)
  bound : (Transition.outputs (step cfg) (slotsFilled cfg) (State.init cfg) ops).length ≤
    cfg.maxProbes
  exhausted : (Transition.outputs (step cfg) (slotsFilled cfg) (State.init cfg) ops).length =
    cfg.maxProbes → ∀ env new name uxPriority, s.isEnabled = true →
      GetsProbe cfg env new.handle (s.registry.addTask cfg new name) →
      Failed s (step cfg s (.create env new name uxPriority))

/-- The first `n` slots are used. -/
structure Filled (cfg : Config) (n : Nat) (s : State) : Prop where
  table : Slots cfg s.registry
  bound : n ≤ cfg.maxProbes
  used : ∀ i, i < cfg.maxProbes → ((s.tcbProbe i).tcb.isSome ↔ i < n)

section
variable {cfg : Config} {n : Nat} {s : State} {op : Op}

theorem filled_init (cfg : Config) : Filled cfg 0 (State.init cfg) where
  table := .init cfg
  bound := Nat.zero_le _
  used i bound := by
    rw [State.tcbProbe, State.init, List.getD_eq_getElem?_getD, List.getElem?_replicate,
      if_pos bound]
    exact iff_of_false Bool.false_ne_true (Nat.not_lt_zero i)

/-- A slot of the table, seen in the registry. -/
theorem slot_of_lt (table : Slots cfg s.registry) {i : Nat} (bound : i < cfg.maxProbes) :
    s.registry.slots[i]? = some (s.tcbProbe i).masked := by
  have length : i < s.tcbProbes.length := by
    rw [← table.length, State.registry, List.length_map] at bound
    exact bound
  rw [slots_getElem?, List.getElem?_eq_getElem length, State.tcbProbe,
    List.getD_eq_getElem?_getD, List.getElem?_eq_getElem length]
  rfl

/-- Of the slots of a table, one has the number `i`. -/
theorem filter_range_eq {m i : Nat} (bound : i < m) :
    (List.range m).filter (fun j => decide (j = i)) = [i] := by
  have once : (List.range m).count i = 1 :=
    List.nodup_range.count.trans (if_pos (List.mem_range.mpr bound))
  calc (List.range m).filter (fun j => decide (j = i))
      = List.replicate ((List.range m).count i) i := List.filter_beq i
    _ = [i] := by rw [once]; rfl

/-- The first free slot is the one after the used ones. -/
theorem Filled.first (h : Filled cfg n s) {i : Nat} (free : s.getTcbProbe none = some i) :
    i = n ∧ n < cfg.maxProbes := by
  rw [getTcbProbe_eq] at free
  have bound : i < cfg.maxProbes := h.table.length ▸ SlotTable.find_lt free
  obtain ⟨⟨e, slot, unused⟩, before⟩ := SlotTable.find_eq_some_iff.mp free
  have least : n ≤ i := by
    refine Nat.le_of_not_lt fun less => ?_
    have isUsed := (h.used i bound).mpr less
    rw [(tcbProbe_fields slot).1, unused] at isUsed
    exact Bool.false_ne_true isUsed
  have greatest : i ≤ n := by
    refine Nat.le_of_not_lt fun less => ?_
    have inTable := Nat.lt_trans less bound
    refine before n less _ (slot_of_lt h.table inTable) ?_
    have unusedSlot : ¬ (s.tcbProbe n).tcb.isSome = true :=
      fun isUsed => Nat.lt_irrefl n ((h.used n inTable).mp isUsed)
    exact Option.not_isSome_iff_eq_none.mp unusedSlot
  have same := Nat.le_antisymm greatest least
  exact ⟨same, same ▸ bound⟩

/-- Nothing is filled when the slots have the tasks they had. -/
theorem slotsFilled_same (cfg : Config)
    (same : ∀ i, ((step cfg s op).tcbProbe i).tcb = (s.tcbProbe i).tcb) :
    slotsFilled cfg s op = [] := by
  rw [slotsFilled, List.filter_eq_nil_iff]
  intro i _
  rw [same i]
  cases (s.tcbProbe i).tcb with
  | none | some _ => exact Bool.false_ne_true

theorem Filled.same (h : Filled cfg n s)
    (same : ∀ i, ((step cfg s op).tcbProbe i).tcb = (s.tcbProbe i).tcb) :
    slotsFilled cfg s op = [] ∧ Filled cfg n (step cfg s op) := by
  refine ⟨slotsFilled_same cfg same, slots_step h.table op, h.bound, fun i bound => ?_⟩
  rw [same i]
  exact h.used i bound

theorem tcb_of_slots {t : State} (slots : t.registry.slots = s.registry.slots) (i : Nat) :
    (t.tcbProbe i).tcb = (s.tcbProbe i).tcb := by
  have masked : (t.tcbProbe i).masked = (s.tcbProbe i).masked := by
    rw [tcbProbe_masked, tcbProbe_masked, slots]
  show (t.tcbProbe i).masked.tcb = (s.tcbProbe i).masked.tcb
  rw [masked]

/-- An action fills the next slot or none. -/
theorem filled_step (h : Filled cfg n s) (op : Op) :
    slotsFilled cfg s op = [] ∧ Filled cfg n (step cfg s op) ∨
      slotsFilled cfg s op = [n] ∧ Filled cfg (n + 1) (step cfg s op) := by
  have keeps : (step cfg s op).registry.slots = s.registry.slots →
      slotsFilled cfg s op = [] ∧ Filled cfg n (step cfg s op) :=
    fun slots => h.same (tcb_of_slots slots)
  cases step_registry cfg s op with
  | same registry => exact .inl (keeps (congrArg Registry.slots registry))
  | excluded _ registry | ioCreated _ _ _ registry | deleted _ _ registry
  | filtered _ _ _ registry | created _ _ _ _ _ _ registry =>
      refine .inl (keeps ?_)
      rw [registry]
      rfl
  | registersNowhere env new name uxPriority isOp on outcome =>
      refine .inl (keeps ?_)
      rw [outcome.registry]
      exact Registry.takeStorage_slots ..
  | registersNothing env new name uxPriority isOp on outcome =>
      exact .inl (h.same fun i => congrArg TcbProbe.tcb (outcome.slots i))
  | registersIn env new name uxPriority i isOp on outcome =>
      obtain ⟨isNext, room⟩ := h.first (i := i) outcome.first
      subst isNext
      have added : Slots cfg (s.addTask cfg new name).registry := h.table.frame rfl rfl rfl rfl
      have slots := (added.registered outcome).2.1
      have inTable : i < s.registry.slots.length := h.table.length.symm ▸ room
      have filled : ((step cfg s op).tcbProbe i).tcb = some new.handle := by
        have slot := (congrArg (fun table => table[i]?) slots).trans
          (List.getElem?_set_self inTable)
        exact (tcbProbe_fields slot).1.trans (newSlot_fields ..).1
      have others : ∀ j, j ≠ i → ((step cfg s op).tcbProbe j).tcb = (s.tcbProbe j).tcb :=
        fun j other => congrArg TcbProbe.tcb (outcome.others j other)
      have free : (s.tcbProbe i).tcb.isNone = true := by
        rw [← Option.not_isSome, Bool.not_eq_true', Bool.eq_false_iff]
        exact fun isUsed => Nat.lt_irrefl i ((h.used i room).mp isUsed)
      refine .inr ⟨?_, slots_step h.table op, room, fun j bound => ?_⟩
      · have only : ∀ j ∈ List.range cfg.maxProbes, ((s.tcbProbe j).tcb.isNone &&
            ((step cfg s op).tcbProbe j).tcb.isSome) = decide (j = i) := by
          intro j _
          by_cases same : j = i
          · subst same
            rw [filled, free, decide_eq_true rfl]
            rfl
          · rw [others j same, decide_eq_false same]
            cases (s.tcbProbe j).tcb with
            | none | some _ => rfl
        rw [slotsFilled, List.filter_congr only]
        exact filter_range_eq room
      · by_cases same : j = i
        · subst same
          rw [filled]
          exact iff_of_true rfl (Nat.lt_succ_self j)
        · rw [others j same, h.used j bound, Nat.lt_succ_iff_lt_or_eq]
          exact ⟨.inl, fun either => either.resolve_right same⟩

/-- A full table fails the next registration. -/
theorem full_table_fails (h : Filled cfg cfg.maxProbes s) {env : External} {new : NewTask}
    {name : CString} {uxPriority : BitVec 32} (on : s.isEnabled = true)
    (gets : GetsProbe cfg env new.handle (s.registry.addTask cfg new name)) :
    Failed s (step cfg s (.create env new name uxPriority)) := by
  have off : (step cfg s (.create env new name uxPriority)).isEnabled = false := by
    cases prvTraceRegisterTaskProbe_cases cfg env new.handle uxPriority
        (s := s.addTask cfg new name) on with
    | inl registers =>
        obtain ⟨i, outcome⟩ := registers
        exact absurd (h.first (i := i) outcome.first).2 (Nat.lt_irrefl _)
    | inr rest =>
        cases rest with
        | inl nowhere => exact nowhere.isEnabled
        | inr nothing => exact absurd gets nothing.gets
  cases xTaskCreate_latched cfg env new name uxPriority s with
  | inl same =>
      have stillOn := same.isEnabled.trans on
      exact absurd (off.symm.trans stillOn) Bool.false_ne_true
  | inr failed => exact failed

/-- Slots are filled in order, once each. -/
theorem slots_fill_in_order (cfg : Config) (ops : List Op) :
    SlotLifetime cfg ops (ops.foldl (step cfg) (State.init cfg)) := by
  have run : Transition.Run (step cfg) (fun _ _ => True) (State.init cfg) ops _ :=
    .free (fun _ _ => trivial) _ ops
  obtain ⟨n, outputs, filled⟩ := run.counted (f := id) (R := Filled cfg)
    (fun n s op h _ => filled_step h op) (filled_init cfg)
  rw [List.map_id] at outputs
  have length : (Transition.outputs (step cfg) (slotsFilled cfg) (State.init cfg) ops).length = n := by
    rw [outputs, List.length_range]
  constructor
  · rw [length, outputs]
  · rw [length]
    exact filled.used
  · rw [length]
    exact filled.bound
  · rw [length]
    intro full env new name uxPriority on gets
    exact full_table_fails (full ▸ filled) on gets

end

end ProbeTrace
