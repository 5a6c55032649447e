import ProbeTrace.Metatheory.RegistrySound

/-!
The four places that say a task is traced: the slot table, the filter and the id in
the task number word, and the application tag. They agree as long as every task
that gets a probe also gets a slot; add_tcb_probe has no way to tell its caller
that it did not find one.
-/
namespace ProbeTrace

/-! The invariant. -/

def HasSlot (r : Registry) (task : TaskHandle) : Prop :=
  ∃ (i : Nat) (e : TcbProbe), r.slots[i]? = some e ∧ e.tcb = some task

structure Coherent (cfg : Config) (r : Registry) : Prop where
  filter : ∀ t, r.filter t ≠ 0 ↔ HasSlot r t
  tag : cfg.placeProbeInTcbAppTag = true → ∀ t, (r.tcbs t).pxTaskTag = (r.tcbs t).registered
  registered : ∀ t, (r.tcbs t).registered.isSome = true ↔ HasSlot r t

/-- A task that gets a probe in this action gets a slot. -/
def Settles (cfg : Config) (s : State) : Op → Prop
  | .create env new name _ => s.isEnabled = true →
      GetsProbe cfg env new.handle (s.registry.addTask cfg new name) →
      FindsSlot cfg env s.registry
  | _ => True

instance (cfg : Config) (s : State) (op : Op) : Decidable (Settles cfg s op) :=
  match op with
  | .create env new name _ => inferInstanceAs (Decidable (s.isEnabled = true →
      GetsProbe cfg env new.handle (s.registry.addTask cfg new name) →
      FindsSlot cfg env s.registry))
  | .enable _ _ | .disable | .exclude _ | .delete _ | .start _ _ _ | .switch _ _ _ _
  | .hook _ _ | .setFilter _ _ | .ioRead _ | .ioSend | .ioReport _ _ | .process _
  | .getBuffer => isTrue trivial

namespace Coherent
variable {cfg : Config} {r r' : Registry}

theorem not_hasSlot_init (cfg : Config) (t : TaskHandle) :
    ¬ HasSlot (State.init cfg).registry t := by
  rintro ⟨i, e, he, ht⟩
  exact absurd (live_init cfg i e t he ht).1 List.not_mem_nil

theorem init (cfg : Config) : Coherent cfg (State.init cfg).registry where
  filter t := iff_of_false (fun h => h readUpper_zero) (not_hasSlot_init cfg t)
  tag _ _ := rfl
  registered t := iff_of_false (by simp [State.registry, State.init]) (not_hasSlot_init cfg t)

/-- One task changes, and still has no slot and no probe. -/
theorem of_task (h : Coherent cfg r) {task : TaskHandle}
    (absent : SlotTable.find TcbProbe.tcb r.slots (some task) = none)
    (slots : r'.slots = r.slots) (other : ∀ t, t ≠ task → r'.tcbs t = r.tcbs t)
    (filter : r'.filter task = 0)
    (tag : (r'.tcbs task).pxTaskTag = none) (registered : (r'.tcbs task).registered = none) :
    Coherent cfg r' := by
  have slot : ∀ t, HasSlot r' t ↔ HasSlot r t := by
    intro t
    rw [HasSlot, slots, HasSlot]
  have noSlot : ¬ HasSlot r' task := by
    rw [slot]
    rintro ⟨i, e, he, ht⟩
    exact SlotTable.find_eq_none_iff.mp absent i e he ht
  constructor
  · intro t
    by_cases ht : t = task
    · subst ht
      exact iff_of_false (fun h => h filter) noSlot
    · rw [slot, ← h.filter t, Registry.filter, other t ht]
      rfl
  · intro place t
    by_cases ht : t = task
    · rw [ht, tag, registered]
    · rw [other t ht]
      exact h.tag place t
  · intro t
    by_cases ht : t = task
    · subst ht
      exact iff_of_false (by simp [registered]) noSlot
    · rw [slot, other t ht]
      exact h.registered t

theorem addTask (h : Coherent cfg r) (live : Live r) {new : NewTask}
    (absent : new.handle ∉ r.tasks) (zero : new.taskNumber = 0) (name : CString) :
    Coherent cfg (r.addTask cfg new name) := by
  have self := r.addTask_tcbs_self cfg new name
  refine h.of_task (live.find_none absent) rfl
    (fun t ht => r.addTask_tcbs_other cfg ht name) ?_ ?_ ?_
  · rw [Registry.filter, self, zero]
    exact readUpper_zero
  · rw [self]
  · rw [self]

/-- A task that just got its probe gets a slot with it. -/
theorem register (h : Coherent cfg r) {task : TaskHandle} (probe : Probe) {i : Nat}
    {e : TcbProbe} (first : SlotTable.find TcbProbe.tcb r.slots none = some i)
    (slots : r'.slots = r.slots.set i e) (tcb : e.tcb = some task)
    (self : (r'.tcbs task).registered = some probe)
    (tag : cfg.placeProbeInTcbAppTag = true → (r'.tcbs task).pxTaskTag = some probe)
    (filter : r'.filter task ≠ 0) (other : ∀ t, t ≠ task → r'.tcbs t = r.tcbs t) :
    Coherent cfg r' := by
  obtain ⟨⟨e₀, he₀, free₀⟩, -⟩ := SlotTable.find_eq_some_iff.mp first
  have at_i : r'.slots[i]? = some e := by
    rw [slots]
    exact List.getElem?_set_self (SlotTable.find_lt first)
  have hasSlot : HasSlot r' task := ⟨i, e, at_i, tcb⟩
  have slot : ∀ t, t ≠ task → (HasSlot r' t ↔ HasSlot r t) := by
    intro t ht
    constructor
    · rintro ⟨j, e', he', ht'⟩
      have hj : j ≠ i := by
        rintro rfl
        rw [at_i, Option.some.injEq] at he'
        subst he'
        rw [tcb, Option.some.injEq] at ht'
        exact ht ht'.symm
      rw [slots, List.getElem?_set_ne (Ne.symm hj)] at he'
      exact ⟨j, e', he', ht'⟩
    · rintro ⟨j, e', he', ht'⟩
      have hj : j ≠ i := by
        rintro rfl
        rw [he₀, Option.some.injEq] at he'
        subst he'
        rw [free₀] at ht'
        cases ht'
      refine ⟨j, e', ?_, ht'⟩
      rw [slots, List.getElem?_set_ne (Ne.symm hj)]
      exact he'
  constructor
  · intro t
    by_cases ht : t = task
    · subst ht
      exact iff_of_true filter hasSlot
    · rw [slot t ht, ← h.filter t, Registry.filter, other t ht]
      rfl
  · intro place t
    by_cases ht : t = task
    · rw [ht, self]
      exact tag place
    · rw [other t ht]
      exact h.tag place t
  · intro t
    by_cases ht : t = task
    · subst ht
      exact iff_of_true (by simp [self]) hasSlot
    · rw [slot t ht, other t ht]
      exact h.registered t

end Coherent

theorem coherent_step {cfg : Config} {s : State} {op : Op} (sound : Sound cfg s.registry)
    (live : Live s.registry) (h : Coherent cfg s.registry) (legal : op.Legal cfg s)
    (kept : ¬ op.IsDelete) (unfiltered : ¬ op.IsSetFilter) (zero : op.ZeroNumbers)
    (settles : Settles cfg s op) : Coherent cfg (step cfg s op).registry := by
  cases step_registry cfg s op with
  | same registry => rwa [registry]
  | excluded pcName registry =>
      rw [registry]
      exact ⟨h.filter, h.tag, h.registered⟩
  | ioCreated env new isOp registry =>
      subst isOp
      rw [registry]
      exact Coherent.addTask (r := s.registry.exclude cfg cfg.ioTaskName)
        ⟨h.filter, h.tag, h.registered⟩ live (legal new rfl).1 zero cfg.ioTaskName
  | deleted task isOp registry =>
      subst isOp
      exact absurd trivial kept
  | filtered task filter isOp registry =>
      subst isOp
      exact absurd trivial unfiltered
  | created env new name uxPriority isOp off registry =>
      subst isOp
      rw [registry]
      exact h.addTask live legal.1 zero name
  | registersIn env new name uxPriority i isOp on outcome =>
      subst isOp
      have added := h.addTask live legal.1 zero name
      have first := outcome.first
      rw [getTcbProbe_eq] at first
      obtain ⟨self, other⟩ := registered_tcbs cfg new.handle
        ((s.addTask cfg new name).registry.storage cfg)
        (fillSlot_tcbs cfg env i new.handle (s.addTask cfg new name).registry)
      refine added.register ((s.addTask cfg new name).registry.storage cfg) first
        (slots_of_registersIn (s := s.addTask cfg new name) (sound.addTask new name) outcome)
        (newSlot_fields ..).1 ?_ ?_ ?_ ?_
      · rw [outcome.registry]
        exact congrArg Tcb.registered self
      · intro place
        rw [outcome.registry]
        refine (congrArg Tcb.pxTaskTag self).trans ?_
        rw [if_pos place]
      · rw [outcome.registry]
        change traceReadUpper16 (Tcb.uxTaskNumber _) ≠ 0
        rw [congrArg Tcb.uxTaskNumber self, readUpper_writeUpper]
        decide
      · intro t ht
        rw [outcome.registry]
        exact other t ht
  | registersNowhere env new name uxPriority isOp on outcome =>
      subst isOp
      exact absurd (settles on outcome.gets) outcome.finds
  | registersNothing env new name uxPriority isOp on outcome =>
      subst isOp
      have fresh := live.find_none legal.1
      have self := (s.registry.addTask cfg new name).nameTask_tcbs_self cfg new.handle
      rw [s.registry.addTask_tcbs_self cfg new name] at self
      have tcbs : (step cfg s (.create env new name uxPriority)).registry.tcbs =
          ((s.registry.addTask cfg new name).nameTask cfg new.handle).tcbs := by
        rw [outcome.registry, addTask_registry]
        split <;> simp
      refine h.of_task fresh ?_ ?_ ?_ ?_ ?_
      · rw [outcome.registry, addTask_registry]
        split <;> simp [Registry.nameTask, Registry.modifyTcb, Registry.addTask]
      · intro t ht
        rw [tcbs, Registry.nameTask_tcbs_other cfg ht, Registry.addTask_tcbs_other cfg ht]
      · rw [Registry.filter, tcbs, self]
        exact readUpper_writeUpper ..
      · rw [tcbs, self]
      · rw [tcbs, self]

/-! The state. -/

/-- The probes an iteration over the probes visits, in order. -/
def iteratorVisits (cfg : Config) (s : State) : List Call :=
  (vTraceProbeIterator cfg (fun probe s => s.logCall (.report probe)) s).calls.drop
    s.calls.length

structure RegistryCoherent (cfg : Config) (s : State) : Prop where
  occupied_prefix : ∀ (i j : Nat) (e e' : TcbProbe), s.tcbProbes[i]? = some e →
    s.tcbProbes[j]? = some e' → i ≤ j → e'.tcb.isSome = true → e.tcb.isSome = true
  tcb_distinct : ∀ (i j : Nat) (e e' : TcbProbe) (t : TaskHandle), s.tcbProbes[i]? = some e →
    s.tcbProbes[j]? = some e' → e.tcb = some t → e'.tcb = some t → i = j
  probe_isSome : ∀ e ∈ s.tcbProbes, e.tcb.isSome = true → e.probe.isSome = true
  filter_iff : ∀ t, s.prvTraceGetTaskFilter (some t) ≠ 0 ↔ ∃ e ∈ s.tcbProbes, e.tcb = some t
  probeId : ∀ e ∈ s.tcbProbes, ∀ t probe, e.tcb = some t → e.probe = some probe →
    s.probeIds probe = some ((s.prvTraceGetTaskProbeId (some t)).setWidth 32) ∧
      s.prvTraceGetTaskProbeId (some t) = nameHash cfg (s.pcTaskGetName t)
  tag_iff : cfg.placeProbeInTcbAppTag = true → ∀ t,
    (s.tcbs t).pxTaskTag.isSome = true ↔ ∃ e ∈ s.tcbProbes, e.tcb = some t
  tag_eq : cfg.placeProbeInTcbAppTag = true → ∀ e ∈ s.tcbProbes, ∀ t, e.tcb = some t →
    (s.tcbs t).pxTaskTag = e.probe
  visits : cfg.placeProbeInTcbAppTag = true → ∃ probes : List Probe,
    iteratorVisits cfg s = probes.map Call.report ∧ probes.Nodup ∧
      ∀ probe, probe ∈ probes ↔ ∃ t, (s.tcbs t).pxTaskTag = some probe

theorem iteratorVisits_eq (cfg : Config) (s : State) :
    iteratorVisits cfg s = (registeredProbes cfg s).map Call.report := by
  have one : ∀ (probe : Probe) (s : State), Reported [.report probe] s (s.logCall (.report probe)) :=
    fun _ _ => ⟨rfl, rfl, rfl⟩
  rw [iteratorVisits, (vTraceProbeIterator_reported cfg one s).calls, List.drop_left]

theorem mem_tcbProbes {s : State} {e : TcbProbe} (h : e ∈ s.tcbProbes) :
    ∃ i : Nat, s.registry.slots[i]? = some e.masked := by
  obtain ⟨i, hi⟩ := List.mem_iff_getElem?.mp h
  refine ⟨i, ?_⟩
  rw [slots_getElem?, hi]
  rfl

theorem slot_of_getElem? {s : State} {i : Nat} {e : TcbProbe} (h : s.tcbProbes[i]? = some e) :
    s.registry.slots[i]? = some e.masked := by
  rw [slots_getElem?, h]
  rfl

theorem hasSlot_iff (s : State) (t : TaskHandle) :
    HasSlot s.registry t ↔ ∃ e ∈ s.tcbProbes, e.tcb = some t := by
  constructor
  · rintro ⟨i, e, he, ht⟩
    rw [slots_getElem?] at he
    cases hs : s.tcbProbes[i]? with
    | none => simp [hs] at he
    | some e' =>
        rw [hs] at he
        obtain rfl : e'.masked = e := by simpa using he
        exact ⟨e', List.mem_of_getElem? hs, ht⟩
  · rintro ⟨e, he, ht⟩
    obtain ⟨i, hi⟩ := mem_tcbProbes he
    exact ⟨i, e.masked, hi, ht⟩

/-- What the invariants say about the state itself. -/
theorem RegistryCoherent.of_registry {cfg : Config} {s : State} (sound : Sound cfg s.registry)
    (live : Live s.registry) (h : Coherent cfg s.registry) : RegistryCoherent cfg s where
  occupied_prefix i j e e' he he' hij used := by
    have used' : e'.masked.tcb.isSome = true := used
    have before : e.masked.tcb.isSome = true :=
      sound.table.isPacked.used_prefix rfl (slot_of_getElem? he) (slot_of_getElem? he') used' hij
    exact before
  tcb_distinct i j e e' t he he' ht ht' :=
    sound.table.tasks i j e.masked e'.masked t (slot_of_getElem? he)
      (slot_of_getElem? he') ht ht'
  probe_isSome e he used := by
    obtain ⟨i, hi⟩ := mem_tcbProbes he
    obtain ⟨t, ht⟩ := Option.isSome_iff_exists.mp used
    obtain ⟨probe, hp, -⟩ := sound.table.probe i e.masked t hi ht
    exact Option.isSome_iff_exists.mpr ⟨probe, hp⟩
  filter_iff t := (h.filter t).trans (hasSlot_iff s t)
  probeId e he t probe ht hp := by
    obtain ⟨i, hi⟩ := mem_tcbProbes he
    exact sound.owners.probeId t probe ((live i e.masked t hi ht).2.trans hp)
  tag_iff place t := by
    rw [show (s.tcbs t).pxTaskTag = (s.tcbs t).registered from h.tag place t]
    exact (h.registered t).trans (hasSlot_iff s t)
  tag_eq place e he t ht := by
    obtain ⟨i, hi⟩ := mem_tcbProbes he
    exact (h.tag place t).trans (live i e.masked t hi ht).2
  visits place := by
    refine ⟨registeredProbes cfg s, iteratorVisits_eq cfg s, ?_, ?_⟩
    · refine List.Nodup.filterMap ?_ List.nodup_range
      intro i j probe hi hj
      have slot : ∀ k, probe ∈ (s.tcbProbe k).probe → ∃ e, s.registry.slots[k]? = some e ∧
          e.probe = some probe := by
        intro k hk
        cases hs : s.registry.slots[k]? with
        | none =>
            have absent : s.tcbProbe k = {} := by
              rw [slots_getElem?] at hs
              have : s.tcbProbes[k]? = none := by simpa using hs
              rw [State.tcbProbe, List.getD_eq_getElem?_getD, this]
              rfl
            rw [absent] at hk
            cases hk
        | some e => exact ⟨e, rfl, (tcbProbe_fields hs).2.1.symm.trans hk⟩
      obtain ⟨e, he, hp⟩ := slot i hi
      obtain ⟨e', he', hp'⟩ := slot j hj
      exact sound.table.probes i j e e' probe he he' hp hp'
    · intro probe
      rw [registeredProbes, List.mem_filterMap]
      constructor
      · rintro ⟨i, hi, hp⟩
        rw [List.mem_range, ← sound.table.length] at hi
        have he := List.getElem?_eq_getElem hi
        have hp' := (tcbProbe_fields he).2.1.symm.trans hp
        obtain ⟨t, ht⟩ := sound.table.used he (f := TcbProbe.probe) rfl hp'
        exact ⟨t, (h.tag place t).trans ((live i _ t he ht).2.trans hp')⟩
      · rintro ⟨t, ht⟩
        have registered : (s.registry.tcbs t).registered = some probe :=
          (h.tag place t).symm.trans ht
        obtain ⟨i, e, he, htcb⟩ := (h.registered t).mp (by rw [registered]; rfl)
        have lt := (List.getElem?_eq_some_iff.mp he).1
        rw [sound.table.length] at lt
        refine ⟨i, List.mem_range.mpr lt, (tcbProbe_fields he).2.1.trans ?_⟩
        exact (live i e t he htcb).2.symm.trans registered

/-- Actions of the kernel and of an application that leaves filters alone, in which
every task that gets a probe gets a slot. -/
def Settled (cfg : Config) (s : State) (op : Op) : Prop :=
  ¬ op.IsDelete ∧ ¬ op.IsSetFilter ∧ op.ZeroNumbers ∧ Settles cfg s op

instance (cfg : Config) (s : State) (op : Op) : Decidable (Settled cfg s op) :=
  inferInstanceAs (Decidable (_ ∧ _))

theorem coherent_of_run {cfg : Config} {ops : List Op} {s : State}
    (h : Reaches cfg (Settled cfg) ops s) : Coherent cfg s.registry := by
  have strong : Sound cfg s.registry ∧ Live s.registry ∧ Coherent cfg s.registry := by
    refine h.invariant (P := fun s => Sound cfg s.registry ∧ Live s.registry ∧
      Coherent cfg s.registry) ?_ ⟨.init cfg, live_init cfg, .init cfg⟩
    rintro s op ⟨sound, live, coherent⟩ ⟨legal, kept, unfiltered, zero, settles⟩
    exact ⟨sound_step sound (live_of_noStale live legal), live_step sound live legal kept,
      coherent_step sound live coherent legal kept unfiltered zero settles⟩
  exact strong.2.2

/-- Slots, filters, ids and tags agree in every state of such a run. -/
theorem registry_coherent {cfg : Config} {ops : List Op} {s : State}
    (h : Reaches cfg (Settled cfg) ops s) : RegistryCoherent cfg s := by
  obtain ⟨sound, live⟩ := registry_of_run (fun _ _ permitted => permitted.1) h
  exact .of_registry sound live (coherent_of_run h)

/-- Enable tracing and create `n` tasks, named by one letter each. -/
def createTasks (n : Nat) : List Op :=
  .enable {} (some { handle := 0, taskNumber := 0, becomesCurrent := false }) ::
    (List.range n).map fun i =>
      .create {} { handle := i + 1, taskNumber := 0, becomesCurrent := false }
        [UInt8.ofNat (65 + i)] 1

/-- Four tasks fill the four slots of the tests. -/
theorem registry_coherent_four :
    RegistryCoherent Config.tests
      ((createTasks 4).foldl (step Config.tests) (State.init Config.tests)) :=
  registry_coherent (Transition.Run.of_check (by decide +kernel))

/-- A fifth task is left with an open filter and no slot. -/
theorem fifth_task_without_slot :
    ¬ ∀ (cfg : Config) (ops : List Op) (s : State),
      Reaches cfg (fun _ op => ¬ op.IsDelete ∧ ¬ op.IsSetFilter ∧ op.ZeroNumbers) ops s →
      RegistryCoherent cfg s := by
  intro always
  have coherent := always Config.tests (createTasks 5)
    ((createTasks 5).foldl (step Config.tests) (State.init Config.tests))
    (Transition.Run.of_check (by decide +kernel))
  obtain ⟨e, mem, slot⟩ := (coherent.filter_iff 5).mp (by decide +kernel)
  have none : ∀ e ∈ ((createTasks 5).foldl (step Config.tests)
      (State.init Config.tests)).tcbProbes, e.tcb ≠ some 5 := by decide +kernel
  exact none e mem slot

end ProbeTrace
