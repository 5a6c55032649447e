import ProbeTrace.Metatheory.Exclusion
import ProbeTrace.Metatheory.FailedRegistration

/-!
Enabling and disabling before the scheduler runs. The assert of vTraceEnable takes a
current task for a running scheduler, and the kernel has one from the first creation on,
which may be that of the IO task.
-/
namespace ProbeTrace

/-- The kernel's current task is set as soon as the first task is created. -/
def KernelSets (s : State) (new : NewTask) : Prop :=
  s.pxCurrentTcb = none → new.becomesCurrent = true

instance (s : State) (new : NewTask) : Decidable (KernelSets s new) :=
  inferInstanceAs (Decidable (_ → _))

/-- An application's setup before it starts the scheduler, with enough slots and storage. -/
def SetsUp (cfg : Config) (s : State) : Op → Prop
  | .enable _ io => CreatesIoTask cfg s → io.isSome = true ∧
      (∀ new ∈ io, KernelSets s new) ∧ 0 ∈ s.excludedTaskProbeIds
  | .disable => True
  | .exclude _ => 0 ∈ s.excludedTaskProbeIds
  | .create env new _ _ => env.Succeeds ∧ KernelSets s new ∧ (s.isEnabled = true →
      StorageAvailable cfg env s.registry ∧ (s.getTcbProbe none).isSome = true)
  | .delete _ | .start _ _ _ | .switch _ _ _ _ | .hook _ _ | .setFilter _ _ | .ioRead _
  | .ioSend | .ioReport _ _ | .process _ | .getBuffer => False

instance (cfg : Config) (s : State) (op : Op) : Decidable (SetsUp cfg s op) :=
  match op with
  | .enable _ _ => inferInstanceAs (Decidable (CreatesIoTask cfg s → _ ∧ _ ∧ _))
  | .disable => isTrue trivial
  | .exclude _ => inferInstanceAs (Decidable (0 ∈ s.excludedTaskProbeIds))
  | .create env new _ _ => inferInstanceAs (Decidable (env.Succeeds ∧ KernelSets s new ∧
      (s.isEnabled = true → _ ∧ _)))
  | .delete _ | .start _ _ _ | .switch _ _ _ _ | .hook _ _ | .setFilter _ _ | .ioRead _
  | .ioSend | .ioReport _ _ | .process _ | .getBuffer => isFalse id

/-- Where asserts are compiled in, tracing is enabled only before the first creation, and
no name that is hashed is empty. -/
def EnablesEarly (cfg : Config) (s : State) : Op → Prop
  | .enable _ _ => (s.isEnabled = false → GuardPasses cfg s) ∧
      (CreatesIoTask cfg s → ¬ HashFails cfg cfg.ioTaskName)
  | .exclude pcName => ¬ HashFails cfg pcName
  | .create _ _ name _ =>
      s.isEnabled = true → ¬ HashFails cfg (name.take (cfg.maxTaskNameLen - 1))
  | _ => True

instance (cfg : Config) (s : State) : Decidable (GuardPasses cfg s) :=
  inferInstanceAs (Decidable (_ → _))

instance (cfg : Config) (s : State) (op : Op) : Decidable (EnablesEarly cfg s op) :=
  match op with
  | .enable _ _ => inferInstanceAs (Decidable ((s.isEnabled = false → GuardPasses cfg s) ∧
      (CreatesIoTask cfg s → ¬ HashFails cfg cfg.ioTaskName)))
  | .exclude pcName => inferInstanceAs (Decidable (¬ HashFails cfg pcName))
  | .create _ _ name _ => inferInstanceAs (Decidable (s.isEnabled = true →
      ¬ HashFails cfg (name.take (cfg.maxTaskNameLen - 1))))
  | .disable | .delete _ | .start _ _ _ | .switch _ _ _ _ | .hook _ _ | .setFilter _ _
  | .ioRead _ | .ioSend | .ioReport _ _ | .process _ | .getBuffer => isTrue trivial

/-! What is counted over a run. -/

/-- What xTraceIsEnabled returns after a call of vTraceEnable. -/
def enableResults (cfg : Config) (s : State) : Op → List Bool
  | .enable env io => [xTraceIsEnabled (vTraceEnable cfg env io s)]
  | _ => []

/-- The tasks that vTraceEnable creates. -/
def ioTasksCreated (cfg : Config) (s : State) : Op → List TaskHandle
  | .enable env io => (vTraceEnable cfg env io s).tasks.take
      ((vTraceEnable cfg env io s).tasks.length - s.tasks.length)
  | _ => []

/-- The slots of a table that are written to. -/
def filledSlots (before after : List (BitVec 16)) : List Nat :=
  (List.range before.length).filter fun i => after[i]? != before[i]?

/-- The exclusion slots that vTraceEnable fills. -/
def enableExclusions (cfg : Config) (s : State) : Op → List Nat
  | .enable env io => filledSlots s.excludedTaskProbeIds
      (vTraceEnable cfg env io s).excludedTaskProbeIds
  | _ => []

/-- What the tracing of an application's setup is to do. -/
structure ToggledFreely (cfg : Config) (ops : List Op) (s : State) : Prop where
  noError : s.errors = [] ∧ pcTraceGetError s = none
  enabled : ∀ result ∈ Transition.outputs (step cfg) (enableResults cfg) (State.init cfg) ops,
    result = true
  ioTask : (Transition.outputs (step cfg) (ioTasksCreated cfg) (State.init cfg) ops).length ≤ 1
  exclusion : (Transition.outputs (step cfg) (enableExclusions cfg) (State.init cfg)
    ops).length ≤ 1

/-! No error, and tracing on. -/

/-- A call of vTraceEnable in which nothing fails. -/
theorem vTraceEnable_succeeds {cfg : Config} {env : External} {io : Option NewTask} {s : State}
    (sets : SetsUp cfg s (.enable env io)) (early : EnablesEarly cfg s (.enable env io)) :
    (vTraceEnable cfg env io s).errors = s.errors ∧
      (vTraceEnable cfg env io s).isEnabled = true := by
  cases vTraceEnable_cases cfg env io s with
  | inl same =>
      rw [same.2]
      exact ⟨rfl, same.1⟩
  | inr off =>
      cases off with
      | inl refused => exact absurd (early.1 refused.1) refused.2.1
      | inr enables =>
          obtain ⟨off, passes, eq⟩ := enables
          have included := (includeIoTask_errors cfg env io
            (s := s.enterCriticalSection) off).mpr (by
              intro fails
              have creates : CreatesIoTask cfg s := ⟨off, passes, fails.1, fails.2.1⟩
              have made := sets creates
              cases fails.2.2 with
              | inl none =>
                  rw [none] at made
                  cases made.1
              | inr block =>
                  cases block with
                  | inl empty => exact early.2 creates empty
                  | inr full => exact full made.2.2)
          rw [eq]
          exact ⟨included, rfl⟩

theorem xTaskCreate_succeeds {cfg : Config} {env : External} {new : NewTask} {name : CString}
    {uxPriority : BitVec 32} {s : State} (succeeds : env.Succeeds)
    (hashes : s.isEnabled = true → ¬ HashFails cfg (name.take (cfg.maxTaskNameLen - 1)))
    (room : s.isEnabled = true →
      StorageAvailable cfg env s.registry ∧ (s.getTcbProbe none).isSome = true) :
    (xTaskCreate cfg env new name uxPriority s).errors = s.errors := by
  cases on : s.isEnabled with
  | false =>
      rw [xTaskCreate, prvTraceRegisterTaskProbe_disabled cfg env new.handle uxPriority
        (s := s.addTask cfg new name) on]
      rfl
  | true =>
      have latched := latched_registerEffect.prvTraceRegisterTaskProbe cfg env new.handle
        uxPriority (s.addTask cfg new name)
      have named : (s.addTask cfg new name).pcTaskGetName new.handle =
          name.take (cfg.maxTaskNameLen - 1) := by
        simp only [State.pcTaskGetName, State.addTask, Function.update_self]
      refine (latched.errors_iff on).mpr (register_succeeds on ?_ (room on).1 (room on).2 succeeds)
      rw [named]
      exact hashes on

theorem setUp_errors {cfg : Config} {s : State} {op : Op} (sets : SetsUp cfg s op)
    (early : EnablesEarly cfg s op) : (step cfg s op).errors = s.errors := by
  cases op with
  | enable env io => exact (vTraceEnable_succeeds sets early).1
  | disable => rfl
  | exclude pcName => exact (vTraceExcludeTask_errors cfg pcName s).mpr ⟨early, sets⟩
  | create env new name uxPriority => exact xTaskCreate_succeeds sets.1 early sets.2.2
  | delete _ | start _ _ _ | switch _ _ _ _ | hook _ _ | setFilter _ _ | ioRead _
  | ioSend | ioReport _ _ | process _ | getBuffer => exact sets.elim

theorem setUp_enabled {cfg : Config} {s : State} {op : Op} (sets : SetsUp cfg s op)
    (early : EnablesEarly cfg s op) : ∀ result ∈ enableResults cfg s op, result = true := by
  cases op with
  | enable env io =>
      intro result mem
      rw [List.mem_singleton.mp mem]
      exact (vTraceEnable_succeeds sets early).2
  | _ => exact fun _ none => nomatch none

/-! The IO task. -/

theorem filledSlots_same (ids : List (BitVec 16)) : filledSlots ids ids = [] := by
  rw [filledSlots, List.filter_eq_nil_iff]
  intro i _
  simp

theorem filledSlots_set (ids : List (BitVec 16)) (i : Nat) (id : BitVec 16) :
    (filledSlots ids (ids.set i id)).length ≤ 1 := by
  have only : ∀ j ∈ filledSlots ids (ids.set i id), j ∈ [i] := by
    intro j mem
    rw [filledSlots, List.mem_filter, bne_iff_ne] at mem
    rw [List.mem_singleton]
    by_contra other
    exact mem.2 (List.getElem?_set_ne (fun same => other same.symm))
  exact ((List.nodup_range.filter _).subperm only).length_le

/-- An exclusion fills one slot at most. -/
theorem filledSlots_exclude (cfg : Config) (pcName : CString) (r : Registry) :
    (filledSlots r.excludedTaskProbeIds
      (r.exclude cfg pcName).excludedTaskProbeIds).length ≤ 1 := by
  cases first : r.excludedTaskProbeIds.findIdx? (fun id => id == 0) with
  | none =>
      have full : (r.exclude cfg pcName).excludedTaskProbeIds = r.excludedTaskProbeIds := by
        simp only [Registry.exclude, first]
      rw [full, filledSlots_same]
      exact Nat.zero_le 1
  | some i =>
      rw [r.exclude_ids cfg pcName first]
      exact filledSlots_set _ i _

theorem createIoTask_handle (cfg : Config) (env : External) (new : NewTask) (s : State) :
    (createIoTask cfg env (some new) s).ioTaskHandle = some new.handle := by
  have created : (createIo cfg env (some new)
      (vTraceExcludeTask cfg cfg.ioTaskName s)).ioTaskHandle = some new.handle := rfl
  simp only [createIoTask]
  rw [if_neg]
  · exact created
  · rw [created]
    exact Option.some_ne_none _

/-- The call that creates the IO task. -/
theorem vTraceEnable_creates {cfg : Config} (env : External) (new : NewTask) {s : State}
    (creates : CreatesIoTask cfg s) :
    (vTraceEnable cfg env (some new) s).registry =
        (s.registry.exclude cfg cfg.ioTaskName).addTask cfg new cfg.ioTaskName ∧
      (vTraceEnable cfg env (some new) s).ioTaskHandle = some new.handle := by
  obtain ⟨off, guard, included, none⟩ := creates
  have block : includeIoTask cfg env (some new) s.enterCriticalSection =
      createIoTask cfg env (some new) s.enterCriticalSection := by
    refine if_pos ?_
    rw [Bool.and_eq_true, beq_iff_eq]
    exact ⟨included, none⟩
  have created := createIoTask_registry cfg env (some new) (s := s.enterCriticalSection) off
  have handle := createIoTask_handle cfg env new s.enterCriticalSection
  cases vTraceEnable_cases cfg env (some new) s with
  | inl same =>
      rw [same.1] at off
      cases off
  | inr rest =>
      cases rest with
      | inl refused => exact absurd guard refused.2.1
      | inr enables =>
          rw [enables.2.2, block]
          exact ⟨created, handle⟩

theorem ioTaskHandle_registerEffect :
    RegisterEffect fun s t => t.ioTaskHandle = s.ioTaskHandle where
  refl _ := rfl
  trans h k := k.trans h
  enter _ := rfl
  exit _ := rfl
  error msg s := by rw [State.prvTraceError_eq]
  log _ _ _ := rfl
  tcb _ _ _ := rfl
  storage cfg env n s := by
    simp only [allocStorage]
    split <;> split <;> rfl
  probeIds _ _ := rfl
  slot _ _ _ := rfl
  messageBuffer cfg env s := by
    simp only [allocMessageBuffer]
    split <;> rfl
  taskBuffer env s := by
    simp only [allocTaskLocalBuffer]
    split <;> rfl
  exclude _ _ _ := rfl

/-- Once there is an IO task, there is one. -/
theorem ioTask_stays {cfg : Config} {s : State} {op : Op} (sets : SetsUp cfg s op)
    (exists' : s.ioTaskHandle ≠ none) : ioTasksCreated cfg s op = [] ∧
      enableExclusions cfg s op = [] ∧ (step cfg s op).ioTaskHandle ≠ none := by
  cases op with
  | enable env io =>
      have skips : ¬ CreatesIoTask cfg s := fun creates => exists' creates.2.2.2
      obtain ⟨registry, handle⟩ := vTraceEnable_skips cfg env io skips
      have tasks : (vTraceEnable cfg env io s).tasks = s.tasks :=
        congrArg Registry.tasks registry
      have excluded : (vTraceEnable cfg env io s).excludedTaskProbeIds =
          s.excludedTaskProbeIds := congrArg Registry.excludedTaskProbeIds registry
      refine ⟨?_, ?_, ?_⟩
      · rw [ioTasksCreated, tasks, Nat.sub_self, List.take_zero]
      · rw [enableExclusions, excluded, filledSlots_same]
      · rw [step, handle]
        exact exists'
  | disable => exact ⟨rfl, rfl, exists'⟩
  | exclude pcName =>
      refine ⟨rfl, rfl, ?_⟩
      rw [step, vTraceExcludeTask_ioTaskHandle]
      exact exists'
  | create env new name uxPriority =>
      have kept := ioTaskHandle_registerEffect.prvTraceRegisterTaskProbe cfg env new.handle
        uxPriority (s.addTask cfg new name)
      exact ⟨rfl, rfl, fun none => exists' (kept.symm.trans none)⟩
  | delete _ | start _ _ _ | switch _ _ _ _ | hook _ _ | setFilter _ _ | ioRead _
  | ioSend | ioReport _ _ | process _ | getBuffer => exact sets.elim

/-- The call that creates it is the only one to create a task or to exclude one. -/
theorem ioTask_once {cfg : Config} {s : State} {op : Op} (sets : SetsUp cfg s op) :
    (ioTasksCreated cfg s op = [] ∧ enableExclusions cfg s op = []) ∨
    (ioTasksCreated cfg s op).length = 1 ∧ (enableExclusions cfg s op).length ≤ 1 ∧
      (step cfg s op).ioTaskHandle ≠ none := by
  cases op with
  | enable env io =>
      by_cases creates : CreatesIoTask cfg s
      · cases io with
        | none => cases (sets creates).1
        | some new =>
            obtain ⟨registry, handle⟩ := vTraceEnable_creates env new creates
            have tasks : (vTraceEnable cfg env (some new) s).tasks = new.handle :: s.tasks :=
              congrArg Registry.tasks registry
            have excluded : (vTraceEnable cfg env (some new) s).excludedTaskProbeIds =
                (s.registry.exclude cfg cfg.ioTaskName).excludedTaskProbeIds :=
              congrArg Registry.excludedTaskProbeIds registry
            refine .inr ⟨?_, ?_, ?_⟩
            · rw [ioTasksCreated, tasks, List.length_cons, Nat.add_sub_cancel_left]
              rfl
            · rw [enableExclusions, excluded]
              exact filledSlots_exclude cfg cfg.ioTaskName s.registry
            · rw [step, handle]
              exact Option.some_ne_none _
      · obtain ⟨registry, -⟩ := vTraceEnable_skips cfg env io creates
        have tasks : (vTraceEnable cfg env io s).tasks = s.tasks :=
          congrArg Registry.tasks registry
        have excluded : (vTraceEnable cfg env io s).excludedTaskProbeIds =
            s.excludedTaskProbeIds := congrArg Registry.excludedTaskProbeIds registry
        refine .inl ⟨?_, ?_⟩
        · rw [ioTasksCreated, tasks, Nat.sub_self, List.take_zero]
        · rw [enableExclusions, excluded, filledSlots_same]
  | _ => exact .inl ⟨rfl, rfl⟩

/-! The whole setup. -/

/-- A setup that enables tracing early toggles it freely. -/
theorem toggled_freely {cfg : Config} {ops : List Op} {s : State}
    (run : Reaches cfg (fun s op => SetsUp cfg s op ∧ EnablesEarly cfg s op) ops s) :
    ToggledFreely cfg ops s where
  noError := by
    have none : s.errors = [] := by
      refine run.invariant (P := fun s => s.errors = []) ?_ rfl
      intro s op none allowed
      exact (setUp_errors allowed.2.1 allowed.2.2).trans none
    refine ⟨none, ?_⟩
    rw [pcTraceGetError, errorMsg_eq_head run, none]
    rfl
  enabled := run.outputs_forall fun s op allowed => setUp_enabled allowed.2.1 allowed.2.2
  ioTask := by
    refine run.emits_once (D := fun s => s.ioTaskHandle ≠ none) ?_ ?_
    · intro s op created allowed
      have stays := ioTask_stays allowed.2.1 created
      exact ⟨stays.1, stays.2.2⟩
    · intro s op allowed
      cases ioTask_once allowed.2.1 with
      | inl nothing => exact .inl nothing.1
      | inr creates => exact .inr ⟨creates.1, creates.2.2⟩
  exclusion := by
    refine run.emits_once (D := fun s => s.ioTaskHandle ≠ none) ?_ ?_
    · intro s op created allowed
      exact (ioTask_stays allowed.2.1 created).2
    · intro s op allowed
      cases ioTask_once allowed.2.1 with
      | inl nothing => exact .inl nothing.2
      | inr creates =>
          cases Nat.le_one_iff_eq_zero_or_eq_one.mp creates.2.1 with
          | inl none => exact .inl (List.eq_nil_of_length_eq_zero none)
          | inr one => exact .inr ⟨one, creates.2.2⟩

/-- A setup whose calls of vTraceEnable come before the application's first creation. -/
def earlySetup : List Op :=
  [.disable, .exclude [66], .enable {} (some ⟨9, 0, true⟩), .enable {} none, .exclude [67],
    .create {} ⟨1, 0, true⟩ [65] 1, .create {} ⟨2, 0, false⟩ [66] 1, .disable]

theorem toggled_freely_early : ToggledFreely Config.tests earlySetup
    (earlySetup.foldl (step Config.tests) (State.init Config.tests)) := by
  have run : Reaches Config.tests
      (fun s op => SetsUp Config.tests s op ∧ EnablesEarly Config.tests s op) earlySetup _ :=
    Transition.Run.of_check (by decide +kernel)
  exact toggled_freely run

/-- The IO task of the first call is the current task that the second call finds. -/
theorem second_enabling_refused :
    ¬ ∀ (cfg : Config) (ops : List Op) (s : State),
      Reaches cfg (SetsUp cfg) ops s → ToggledFreely cfg ops s := by
  intro always
  have toggled := always Config.tests
    [.enable {} (some ⟨9, 0, true⟩), .disable, .enable {} (some ⟨8, 0, true⟩)]
    ([Op.enable {} (some ⟨9, 0, true⟩), .disable, .enable {} (some ⟨8, 0, true⟩)].foldl
      (step Config.tests) (State.init Config.tests))
    (Transition.Run.of_check (by decide +kernel))
  have none := toggled.noError.1
  revert none
  decide +kernel

end ProbeTrace
