import ProbeTrace.Metatheory.RegistrySound

/-!
Which created tasks are traced. The exclusion table holds the nonzero hashes of the
excluded names; zero marks its free entries, is the hash no probe is allocated for, and
is matched by the search of the table, so that tasks whose name hashes to zero are
treated apart.
-/
namespace ProbeTrace

/-! The table. -/

namespace Registry

/-- The entry that is written: the first zero. -/
theorem exclude_ids (cfg : Config) (r : Registry) (pcName : CString) {i : Nat}
    (first : r.excludedTaskProbeIds.findIdx? (fun id => id == 0) = some i) :
    (r.exclude cfg pcName).excludedTaskProbeIds =
      r.excludedTaskProbeIds.set i (nameHash cfg pcName) := by
  simp only [exclude, first]

theorem exclude_keeps (cfg : Config) (r : Registry) (pcName : CString) {id : BitVec 16}
    (mem : id ∈ r.excludedTaskProbeIds) (nonzero : id ≠ 0) :
    id ∈ (r.exclude cfg pcName).excludedTaskProbeIds := by
  cases first : r.excludedTaskProbeIds.findIdx? (fun id => id == 0) with
  | none => simpa only [exclude, first] using mem
  | some i =>
      obtain ⟨lt, free, -⟩ := List.findIdx?_eq_some_iff_getElem.mp first
      have zero : r.excludedTaskProbeIds[i] = 0 := by simpa using free
      rw [r.exclude_ids cfg pcName first]
      obtain ⟨j, hj, rfl⟩ := List.mem_iff_getElem.mp mem
      have ne : i ≠ j := by
        rintro rfl
        exact nonzero zero
      refine List.mem_iff_getElem.mpr ⟨j, by simpa using hj, ?_⟩
      rw [List.getElem_set_ne ne]

theorem exclude_stores (cfg : Config) (r : Registry) (pcName : CString)
    (room : 0 ∈ r.excludedTaskProbeIds) :
    nameHash cfg pcName ∈ (r.exclude cfg pcName).excludedTaskProbeIds := by
  cases first : r.excludedTaskProbeIds.findIdx? (fun id => id == 0) with
  | none =>
      rw [List.findIdx?_eq_none_iff] at first
      simpa using first 0 room
  | some i =>
      obtain ⟨lt, -, -⟩ := List.findIdx?_eq_some_iff_getElem.mp first
      rw [r.exclude_ids cfg pcName first]
      exact List.mem_iff_getElem.mpr ⟨i, by simpa using lt, by simp⟩

theorem mem_exclude {cfg : Config} (r : Registry) {pcName : CString} {id : BitVec 16}
    (mem : id ∈ (r.exclude cfg pcName).excludedTaskProbeIds) :
    id ∈ r.excludedTaskProbeIds ∨ id = nameHash cfg pcName := by
  cases first : r.excludedTaskProbeIds.findIdx? (fun id => id == 0) with
  | none => exact .inl (by simpa only [exclude, first] using mem)
  | some i =>
      rw [r.exclude_ids cfg pcName first] at mem
      exact List.mem_or_eq_of_mem_set mem

end Registry

structure ExclusionTable (cfg : Config) (r : Registry) : Prop where
  stored : ∀ name ∈ r.excludedNames, nameHash cfg name ≠ 0 →
    nameHash cfg name ∈ r.excludedTaskProbeIds
  named : ∀ id ∈ r.excludedTaskProbeIds, id ≠ 0 →
    ∃ name ∈ r.excludedNames, nameHash cfg name = id

namespace ExclusionTable
variable {cfg : Config} {r r' : Registry}

theorem init (cfg : Config) : ExclusionTable cfg (State.init cfg).registry where
  stored name mem := by cases mem
  named id mem nonzero := absurd (List.eq_of_mem_replicate mem) nonzero

theorem same (h : ExclusionTable cfg r) (ids : r'.excludedTaskProbeIds = r.excludedTaskProbeIds)
    (names : r'.excludedNames = r.excludedNames) : ExclusionTable cfg r' := by
  constructor
  · rw [ids, names]
    exact h.stored
  · rw [ids, names]
    exact h.named

/-- A free entry takes the hash of the excluded name. -/
theorem exclude (h : ExclusionTable cfg r) (room : 0 ∈ r.excludedTaskProbeIds)
    (pcName : CString) : ExclusionTable cfg (r.exclude cfg pcName) := by
  have names : (r.exclude cfg pcName).excludedNames = r.excludedNames ++ [pcName] := rfl
  constructor
  · intro name mem nonzero
    rw [names] at mem
    rcases List.mem_append.mp mem with old | new
    · exact r.exclude_keeps cfg pcName (h.stored name old nonzero) nonzero
    · rw [List.mem_singleton.mp new]
      exact r.exclude_stores cfg pcName room
  · intro id mem nonzero
    rw [names]
    rcases r.mem_exclude mem with old | rfl
    · obtain ⟨name, mem, hash⟩ := h.named id old nonzero
      exact ⟨name, List.mem_append_left _ mem, hash⟩
    · exact ⟨pcName, List.mem_append_right _ (List.mem_singleton_self _), rfl⟩

theorem mem_iff (h : ExclusionTable cfg r) {id : BitVec 16} (nonzero : id ≠ 0) :
    id ∈ r.excludedTaskProbeIds ↔ ∃ name ∈ r.excludedNames, nameHash cfg name = id := by
  constructor
  · exact fun mem => h.named id mem nonzero
  · rintro ⟨name, mem, rfl⟩
    exact h.stored name mem nonzero

end ExclusionTable

/-- What an action does to the table. -/
theorem step_exclusion (cfg : Config) (s : State) (op : Op) :
    ((step cfg s op).excludedTaskProbeIds = s.excludedTaskProbeIds ∧
      (step cfg s op).excludedNames = s.excludedNames) ∨
    ∃ pcName, (step cfg s op).excludedTaskProbeIds =
        (s.registry.exclude cfg pcName).excludedTaskProbeIds ∧
      (step cfg s op).excludedNames = (s.registry.exclude cfg pcName).excludedNames ∧
      ((step cfg s op).errors = s.errors → 0 ∈ s.excludedTaskProbeIds) := by
  have fields : ∀ r : Registry, (step cfg s op).registry = r →
      (step cfg s op).excludedTaskProbeIds = r.excludedTaskProbeIds ∧
        (step cfg s op).excludedNames = r.excludedNames :=
    fun r registry => ⟨congrArg Registry.excludedTaskProbeIds registry,
      congrArg Registry.excludedNames registry⟩
  cases step_registry cfg s op with
  | same registry => exact .inl (fields _ registry)
  | excluded pcName registry room =>
      obtain ⟨ids, names⟩ := fields _ registry
      exact .inr ⟨pcName, ids, names, room⟩
  | ioCreated env new isOp registry room =>
      obtain ⟨ids, names⟩ := fields _ registry
      exact .inr ⟨cfg.ioTaskName, ids, names, room⟩
  | deleted _ _ registry | filtered _ _ _ registry | created _ _ _ _ _ _ registry =>
      exact .inl (fields _ registry)
  | registersIn env new name uxPriority i isOp on outcome =>
      have frame := fillSlot_frame cfg env i new.handle
        ((s.addTask cfg new name).registry.storage cfg)
        ((s.addTask cfg new name).registry.allocate cfg new.handle)
      obtain ⟨ids, names⟩ := fields _ outcome.registry
      exact .inl ⟨ids.trans (frame.excludedTaskProbeIds.trans
          (Registry.takeStorage_excludedTaskProbeIds ..)),
        names.trans (frame.excludedNames.trans (Registry.takeStorage_excludedNames ..))⟩
  | registersNowhere env new name uxPriority isOp on outcome =>
      obtain ⟨ids, names⟩ := fields _ outcome.registry
      exact .inl ⟨ids.trans (Registry.takeStorage_excludedTaskProbeIds ..),
        names.trans (Registry.takeStorage_excludedNames ..)⟩
  | registersNothing env new name uxPriority isOp on outcome =>
      obtain ⟨ids, names⟩ := fields _ outcome.registry
      refine .inl ⟨ids.trans ?_, names.trans ?_⟩
      · split
        · exact Registry.takeStorage_excludedTaskProbeIds ..
        · rfl
      · split
        · exact Registry.takeStorage_excludedNames ..
        · rfl

/-- An entry that is not zero stays. -/
theorem excludedId_step {cfg : Config} {s : State} {op : Op} {id : BitVec 16}
    (mem : id ∈ s.excludedTaskProbeIds) (nonzero : id ≠ 0) :
    id ∈ (step cfg s op).excludedTaskProbeIds := by
  rcases step_exclusion cfg s op with ⟨ids, -⟩ | ⟨pcName, ids, -, -⟩
  · rwa [ids]
  · rw [ids]
    exact s.registry.exclude_keeps cfg pcName mem nonzero

theorem exclusionTable_step {cfg : Config} {s : State} {op : Op}
    (h : ExclusionTable cfg s.registry) (quiet : (step cfg s op).errors = s.errors) :
    ExclusionTable cfg (step cfg s op).registry := by
  rcases step_exclusion cfg s op with ⟨ids, names⟩ | ⟨pcName, ids, names, room⟩
  · exact h.same ids names
  · exact (h.exclude (room quiet) pcName).same ids names

/-- Actions that record no error. -/
def Quiet (cfg : Config) (s : State) (op : Op) : Prop := (step cfg s op).errors = []

instance (cfg : Config) (s : State) (op : Op) : Decidable (Quiet cfg s op) :=
  inferInstanceAs (Decidable (_ = _))

theorem errors_of_quiet {cfg : Config} {s : State} {op : Op} (quiet : Quiet cfg s op) :
    s.errors = [] := by
  obtain ⟨new, errors, -⟩ := step_appends cfg s op
  rw [show (step cfg s op).errors = [] from quiet] at errors
  exact (List.append_eq_nil_iff.mp errors.symm).1

theorem exclusionTable_of_run {cfg : Config} {ok : State → Op → Prop} {ops : List Op}
    {s : State} (quiet : ∀ (s : State) (op : Op), ok s op → Quiet cfg s op)
    (h : Reaches cfg ok ops s) : ExclusionTable cfg s.registry := by
  refine h.invariant (P := fun s => ExclusionTable cfg s.registry) ?_ (.init cfg)
  rintro s op table ⟨-, permitted⟩
  have none := quiet s op permitted
  exact exclusionTable_step table (Eq.trans none (errors_of_quiet none).symm)

/-! One creation. -/

/-- The task got a slot, an open filter and a TASK_CREATE record. -/
def TracedBy (s t : State) (task : TaskHandle) (uxPriority : BitVec 32) : Prop :=
  ∃ own : Probe, (∃ e ∈ t.tcbProbes, e.tcb = some task ∧ e.probe = some own) ∧
    t.prvTraceGetTaskFilter (some task) = 0xFFFF ∧
    ∃ before, t.calls = s.calls ++ before ++
      [.recordEvent (some own) TraceEvent.taskCreate (some uxPriority)]

/-- No probe storage was consumed and the filter is closed. -/
structure Skipped (s t : State) (task : TaskHandle) : Prop where
  nextStorageIndex : t.nextStorageIndex = s.nextStorageIndex
  nextBlock : t.nextBlock = s.nextBlock
  filter : t.prvTraceGetTaskFilter (some task) = 0

/-- No name excluded so far has the hash of the created task's name. -/
def NotExcluded (cfg : Config) (s t : State) (task : TaskHandle) : Prop :=
  ∀ name ∈ s.excludedNames, nameHash cfg name ≠ nameHash cfg (t.pcTaskGetName task)

/-- The created task is traced exactly when it was not excluded. -/
structure FollowsExclusion (cfg : Config) (s t : State) (task : TaskHandle)
    (uxPriority : BitVec 32) : Prop where
  traced : TracedBy s t task uxPriority ↔ NotExcluded cfg s t task
  skipped : ¬ NotExcluded cfg s t task → Skipped s t task

theorem idOf_addTask (cfg : Config) (new : NewTask) (name : CString) (r : Registry) :
    (r.addTask cfg new name).idOf cfg new.handle = createdHash cfg name := by
  rw [Registry.idOf, Registry.addTask_tcbs_self, createdHash]

theorem not_tracedBy (s : State) {t : State} {task : TaskHandle} (uxPriority : BitVec 32)
    (filter : t.prvTraceGetTaskFilter (some task) = 0) : ¬ TracedBy s t task uxPriority := by
  rintro ⟨own, -, open', -⟩
  rw [filter] at open'
  cases open'

/-- The control block of a created task that allocates no probe. -/
theorem registersNothing_tcb {cfg : Config} {env : External} {new : NewTask} {name : CString}
    {s t : State} (h : RegistersNothing cfg env new.handle (s.addTask cfg new name) t) :
    t.tcbs new.handle =
      { uxTaskNumber := traceWriteUpper16
          (traceWriteLower16 new.taskNumber (createdHash cfg name)) 0
        pxTaskTag := none
        pcTaskName := name.take (cfg.maxTaskNameLen - 1)
        registered := none } := by
  have self := (s.registry.addTask cfg new name).nameTask_tcbs_self cfg new.handle
  rw [s.registry.addTask_tcbs_self cfg new name, idOf_addTask] at self
  have tcbs : t.registry.tcbs = ((s.registry.addTask cfg new name).nameTask cfg new.handle).tcbs := by
    rw [h.registry]
    split
    · rw [Registry.takeStorage_tcbs]
      rfl
    · rfl
  exact (congrFun tcbs new.handle).trans self

/-- The outcome of a creation that allocates no probe. -/
theorem registersNothing_fields {cfg : Config} {env : External} {new : NewTask} {name : CString}
    {s t : State} (h : RegistersNothing cfg env new.handle (s.addTask cfg new name) t) :
    t.prvTraceGetTaskFilter (some new.handle) = 0 ∧
      t.pcTaskGetName new.handle = name.take (cfg.maxTaskNameLen - 1) := by
  have tcb := registersNothing_tcb h
  constructor
  · refine (congrArg (fun tcb : Tcb => traceReadUpper16 tcb.uxTaskNumber) tcb).trans ?_
    exact readUpper_writeUpper ..
  · exact congrArg Tcb.pcTaskName tcb

/-- The outcome of a creation that fills a slot. -/
theorem registersIn_fields {cfg : Config} {env : External} {new : NewTask} {name : CString}
    {uxPriority : BitVec 32} {i : Nat} {s t : State} (sound : Sound cfg s.registry)
    (h : RegistersIn cfg env new.handle uxPriority i (s.addTask cfg new name) t) :
    TracedBy s t new.handle uxPriority ∧
      t.pcTaskGetName new.handle = name.take (cfg.maxTaskNameLen - 1) := by
  have self := (registered_tcbs cfg new.handle ((s.addTask cfg new name).registry.storage cfg)
    (fillSlot_tcbs cfg env i new.handle (s.addTask cfg new name).registry)).1
  rw [addTask_registry, s.registry.addTask_tcbs_self cfg new name] at self
  have tcb := congrArg (fun r : Registry => r.tcbs new.handle) h.registry
  have slot := slot_of_registered (s := s.addTask cfg new name) (sound.addTask new name) h
  refine ⟨⟨(s.addTask cfg new name).registry.storage cfg, ?_, ?_, ?_⟩, ?_⟩
  · rw [slots_getElem?] at slot
    cases at_i : t.tcbProbes[i]? with
    | none => simp [at_i] at slot
    | some e =>
        rw [at_i, Option.map_some, Option.some.injEq] at slot
        exact ⟨e, List.mem_of_getElem? at_i,
          (congrArg TcbProbe.tcb slot).trans (newSlot_fields ..).1,
          (congrArg TcbProbe.probe slot).trans (newSlot_fields ..).2⟩
  · rw [filter_eq, Registry.filter]
    refine (congrArg (fun tcb : Tcb => traceReadUpper16 tcb.uxTaskNumber) (tcb.trans self)).trans ?_
    exact readUpper_writeUpper ..
  · refine ⟨[.initializeProbe ((s.addTask cfg new name).registry.storage cfg) cfg.taskProbeSize
        (((s.addTask cfg new name).registry.idOf cfg new.handle).setWidth 32),
      .produceSnapshot (some ((s.addTask cfg new name).registry.storage cfg)) i
        env.produceSnapshot], ?_⟩
    rw [h.calls, List.append_assoc]
    rfl
  · exact congrArg Tcb.pcTaskName (tcb.trans self)

/-- The kernel's creations and an application that excludes tasks; no error is recorded. -/
def Excludes (cfg : Config) (s : State) (op : Op) : Prop :=
  ¬ op.IsDelete ∧ Quiet cfg s op

instance (cfg : Config) (s : State) (op : Op) : Decidable (Excludes cfg s op) :=
  inferInstanceAs (Decidable (_ ∧ _))

/-- A creation whose outside calls succeed. -/
structure Creation (cfg : Config) (s : State) (env : External) (new : NewTask) (name : CString)
    (uxPriority : BitVec 32) : Prop where
  fresh : new.Fresh s
  isEnabled : s.isEnabled = true
  succeeds : env.Succeeds
  storage : StorageAvailable cfg env s.registry
  excludes : Excludes cfg s (.create env new name uxPriority)

/-- A registration that allocates a probe and finds no slot records an error. -/
theorem registersNowhere_records {cfg : Config} {env : External} {task : TaskHandle}
    {s u t : State} (h : RegistersNowhere cfg env task u t) (on : s.isEnabled = true)
    (latched : Latched s t) : t.errors ≠ s.errors := by
  intro same
  rcases latched with kept | failed
  · have off := h.isEnabled
    rw [kept.isEnabled, on] at off
    cases off
  · obtain ⟨msg, rest, errors, -⟩ := failed.errors
    rw [same] at errors
    exact List.cons_ne_nil _ _ (List.self_eq_append_right.mp errors)

/-- What a creation does, by the hash of the name. -/
theorem creation_cases {cfg : Config} {s : State} (sound : Sound cfg s.registry)
    {env : External} {new : NewTask} {name : CString} {uxPriority : BitVec 32}
    (h : Creation cfg s env new name uxPriority) :
    (step cfg s (.create env new name uxPriority)).pcTaskGetName new.handle =
        name.take (cfg.maxTaskNameLen - 1) ∧
      if createdHash cfg name ∉ s.excludedTaskProbeIds ∧ createdHash cfg name ≠ 0 then
        TracedBy s (step cfg s (.create env new name uxPriority)) new.handle uxPriority
      else
        (step cfg s (.create env new name uxPriority)).prvTraceGetTaskFilter
          (some new.handle) = 0 ∧
        (Skipped s (step cfg s (.create env new name uxPriority)) new.handle ↔
          createdHash cfg name ∈ s.excludedTaskProbeIds) := by
  have added : Latched s (step cfg s (.create env new name uxPriority)) :=
    xTaskCreate_latched cfg env new name uxPriority s
  have quiet := h.excludes.2
  have errors := errors_of_quiet quiet
  have takes : TakesStorage cfg env new.handle (s.addTask cfg new name).registry ↔
      createdHash cfg name ∉ s.excludedTaskProbeIds := by
    rw [TakesStorage, addTask_registry, idOf_addTask]
    exact ⟨fun both => both.1, fun fresh => ⟨fresh, h.storage⟩⟩
  have gets : GetsProbe cfg env new.handle (s.addTask cfg new name).registry ↔
      createdHash cfg name ∉ s.excludedTaskProbeIds ∧ createdHash cfg name ≠ 0 := by
    rw [GetsProbe, takes, addTask_registry, idOf_addTask]
    exact ⟨fun all => ⟨all.1, all.2.1⟩, fun both => ⟨both.1, both.2, h.succeeds.2.1⟩⟩
  rcases prvTraceRegisterTaskProbe_cases cfg env new.handle uxPriority
    (s := s.addTask cfg new name) h.isEnabled with ⟨i, outcome⟩ | outcome | outcome
  · obtain ⟨traced, kept⟩ := registersIn_fields sound outcome
    refine ⟨kept, ?_⟩
    rw [if_pos (gets.mp outcome.gets)]
    exact traced
  · refine absurd (Eq.trans quiet errors.symm) ?_
    exact registersNowhere_records outcome h.isEnabled added
  · obtain ⟨filter, kept⟩ := registersNothing_fields outcome
    refine ⟨kept, ?_⟩
    rw [if_neg fun both => outcome.gets (gets.mpr both)]
    refine ⟨filter, ?_⟩
    have registry := outcome.registry
    by_cases excluded : createdHash cfg name ∈ s.excludedTaskProbeIds
    · rw [if_neg fun taken => takes.mp taken excluded] at registry
      refine iff_of_true ⟨?_, ?_, filter⟩ excluded
      · exact congrArg Registry.nextStorageIndex registry
      · exact congrArg Registry.nextBlock registry
    · rw [if_pos (takes.mpr excluded)] at registry
      refine iff_of_false (fun skipped => ?_) excluded
      refine Registry.takeStorage_consumes cfg (((s.addTask cfg new name).registry).nameTask cfg new.handle)
        ⟨?_, ?_⟩
      · exact (congrArg Registry.nextStorageIndex registry).symm.trans skipped.nextStorageIndex
      · exact (congrArg Registry.nextBlock registry).symm.trans skipped.nextBlock

/-- A task whose name does not hash to zero is traced exactly when it was not excluded; one
whose name does is skipped as it should be only if a name with that hash was excluded and
the table has a free entry. -/
theorem creation_follows_exclusion_iff {cfg : Config} {ops : List Op} {s : State}
    (h : Reaches cfg (Excludes cfg) ops s) {env : External} {new : NewTask} {name : CString}
    {uxPriority : BitVec 32} (creation : Creation cfg s env new name uxPriority) :
    FollowsExclusion cfg s (step cfg s (.create env new name uxPriority)) new.handle uxPriority ↔
      createdHash cfg name ≠ 0 ∨
        (∃ excluded ∈ s.excludedNames, nameHash cfg excluded = 0) ∧
          0 ∈ s.excludedTaskProbeIds := by
  obtain ⟨sound, -⟩ := registry_of_run (fun _ _ permitted => permitted.1) h
  have table := exclusionTable_of_run (fun _ _ permitted => permitted.2) h
  obtain ⟨kept, outcome⟩ := creation_cases sound creation
  have notExcluded : NotExcluded cfg s (step cfg s (.create env new name uxPriority)) new.handle ↔
      ¬ ∃ excluded ∈ s.excludedNames, nameHash cfg excluded = createdHash cfg name := by
    rw [NotExcluded, kept]
    simp [createdHash]
  generalize step cfg s (.create env new name uxPriority) = t at kept outcome notExcluded ⊢
  by_cases zero : createdHash cfg name = 0
  · rw [if_neg fun both => both.2 zero, zero] at outcome
    rw [zero] at notExcluded
    obtain ⟨filter, skipped⟩ := outcome
    have untraced := not_tracedBy s uxPriority filter
    constructor
    · intro follows
      have excluded := not_not.mp (mt notExcluded.mpr (mt follows.traced.mpr untraced))
      exact .inr ⟨excluded, skipped.mp (follows.skipped fun none => notExcluded.mp none excluded)⟩
    · rintro (nonzero | ⟨excluded, room⟩)
      · exact absurd zero nonzero
      · exact ⟨iff_of_false untraced fun none => notExcluded.mp none excluded,
          fun _ => skipped.mpr room⟩
  · refine iff_of_true ?_ (.inl zero)
    have mem := table.mem_iff zero
    by_cases excluded : createdHash cfg name ∈ s.excludedTaskProbeIds
    · rw [if_neg fun both => both.1 excluded] at outcome
      obtain ⟨filter, skipped⟩ := outcome
      exact ⟨iff_of_false (not_tracedBy s uxPriority filter) fun none => notExcluded.mp none (mem.mp excluded),
        fun _ => skipped.mpr excluded⟩
    · rw [if_pos ⟨excluded, zero⟩] at outcome
      have none := notExcluded.mpr fun some => excluded (mem.mpr some)
      exact ⟨iff_of_true outcome none, fun some => absurd none some⟩

/-- Enable tracing and exclude the task named by 88. -/
def excludeOne : List Op :=
  [.enable {} (some { handle := 0, taskNumber := 0, becomesCurrent := false }), .exclude [88]]

def afterExclusion : State := excludeOne.foldl (step Config.tests) (State.init Config.tests)

def firstTask : NewTask where
  handle := 1
  taskNumber := 0
  becomesCurrent := true

theorem creation_follows_exclusion_iff_excluded :
    FollowsExclusion Config.tests afterExclusion
      (step Config.tests afterExclusion (.create {} firstTask [88] 1)) 1 1 := by
  have reached : Reaches Config.tests (Excludes Config.tests) excludeOne afterExclusion :=
    Transition.Run.of_check (by decide +kernel)
  have creation : Creation Config.tests afterExclusion {} firstTask [88] 1 :=
    ⟨by decide +kernel, by decide +kernel, by decide +kernel, by decide +kernel, by decide +kernel⟩
  exact (creation_follows_exclusion_iff reached creation).mpr (.inl (by decide +kernel))

/-- The name ABKt hashes to zero: its task was not excluded and is not traced. -/
theorem zero_hash_untraced :
    ¬ ∀ (cfg : Config) (ops : List Op) (s : State) (env : External) (new : NewTask)
      (name : CString) (uxPriority : BitVec 32), Reaches cfg (Excludes cfg) ops s →
      Creation cfg s env new name uxPriority →
      (∀ n ∈ name :: s.excludedNames, n ≠ [] ∧ n.length ≤ 255) →
      FollowsExclusion cfg s (step cfg s (.create env new name uxPriority)) new.handle
        uxPriority := by
  intro always
  have follows := always Config.tests excludeOne afterExclusion {} firstTask [65, 66, 75, 116] 1
    (Transition.Run.of_check (by decide +kernel))
    ⟨by decide +kernel, by decide +kernel, by decide +kernel, by decide +kernel,
      by decide +kernel⟩ (by decide +kernel)
  have none : NotExcluded Config.tests afterExclusion
      (step Config.tests afterExclusion (.create {} firstTask [65, 66, 75, 116] 1)) 1 := by
    unfold NotExcluded
    decide +kernel
  exact not_tracedBy afterExclusion 1 (by decide +kernel) (follows.traced.mpr none)

end ProbeTrace
