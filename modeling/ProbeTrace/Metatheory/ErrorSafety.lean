import ProbeTrace.Metatheory.ErrorLatch

/-!
After an error. An operation that records an error returns with tracing off, and
while tracing is off the kernel hooks leave the trace alone. The exception is
vTraceEnable itself, which enables tracing after the errors of the block that
creates the IO task; the main theorem says for which calls.
-/
namespace ProbeTrace

/-! While tracing is off. -/

/-- What the kernel hooks write when tracing is on: slots with their snapshots,
the logs of the probes, the allocators, and the words and tags of the tasks. -/
structure SameTrace (s s' : State) : Prop where
  tcbProbes : s'.tcbProbes = s.tcbProbes
  calls : s'.calls = s.calls
  nextStorageIndex : s'.nextStorageIndex = s.nextStorageIndex
  nextBlock : s'.nextBlock = s.nextBlock
  tcbs : s'.tcbs = s.tcbs

theorem SameTrace.refl (s : State) : SameTrace s s := ⟨rfl, rfl, rfl, rfl, rfl⟩

theorem SameTrace.of_eq {s s' : State} (h : s' = s) : SameTrace s s' := h ▸ .refl s

theorem logEvent_disabled (cfg : Config) (env : External) (noSlot failed : String)
    (id' : BitVec 32) (payload : Option (BitVec 32)) {s : State} (off : s.isEnabled = false) :
    logEvent cfg env noSlot failed id' payload s = s := by
  simp [logEvent, off]

theorem prvTraceProduceSnapshot_disabled (cfg : Config) (env : External) {s : State}
    (off : s.isEnabled = false) : prvTraceProduceSnapshot cfg env s = s := by
  simp [prvTraceProduceSnapshot, off]

theorem prvTraceMergeSnapshot_disabled (cfg : Config) (env : External) {s : State}
    (off : s.isEnabled = false) : prvTraceMergeSnapshot cfg env s = s := by
  simp [prvTraceMergeSnapshot, off]

theorem prvTraceRegisterTaskProbe_disabled (cfg : Config) (env : External)
    (task : TaskHandle) (uxPriority : BitVec 32) {s : State} (off : s.isEnabled = false) :
    prvTraceRegisterTaskProbe cfg env task uxPriority s = s := by
  simp [prvTraceRegisterTaskProbe, off]

/-- The kernel trace hooks, as the kernel calls them. -/
inductive KernelHook
  | taskCreate (pxNewTcb : Option TaskHandle) (uxPriority : BitVec 32)
  | taskSwitchedIn (uxPriority : BitVec 32)
  | taskSwitchedOut
  | inTask (h : Hook)

def KernelHook.run (cfg : Config) (env : External) : KernelHook → State → State
  | .taskCreate pxNewTcb uxPriority => traceTaskCreate cfg env pxNewTcb uxPriority
  | .taskSwitchedIn uxPriority => traceTaskSwitchedIn cfg env uxPriority
  | .taskSwitchedOut => traceTaskSwitchedOut cfg env
  | .inTask h => h.run cfg env

theorem prvTraceSwitchedTcb_trace (new : Option TaskHandle) (s : State) :
    SameTrace s (prvTraceSwitchedTcb new s).2 ∧
      (prvTraceSwitchedTcb new s).2.isEnabled = s.isEnabled := by
  unfold prvTraceSwitchedTcb
  split <;> exact ⟨⟨rfl, rfl, rfl, rfl, rfl⟩, rfl⟩

theorem traceTaskSwitchedOut_disabled (cfg : Config) (env : External) {s : State}
    (off : s.isEnabled = false) : traceTaskSwitchedOut cfg env s = s := by
  rw [traceTaskSwitchedOut, prvTraceLogEvent, logEvent_disabled _ _ _ _ _ _ off,
    prvTraceProduceSnapshot_disabled cfg env off, ite_self]

/-- Only the current and the previous task may be noted. -/
theorem traceTaskSwitchedIn_disabled (cfg : Config) (env : External) (uxPriority : BitVec 32)
    {s : State} (off : s.isEnabled = false) :
    traceTaskSwitchedIn cfg env uxPriority s = (prvTraceSwitchedTcb s.pxCurrentTcb s).2 ∨
      traceTaskSwitchedIn cfg env uxPriority s = s := by
  have off' := (prvTraceSwitchedTcb_trace s.pxCurrentTcb s).2.trans off
  unfold traceTaskSwitchedIn
  split
  · left
    dsimp only
    rw [prvTraceMergeSnapshot_disabled cfg env off', ite_self, prvTraceLogEventWithPayload,
      logEvent_disabled _ _ _ _ _ _ off']
  · exact .inr rfl

/-- A kernel hook called while tracing is off changes nothing of the trace. -/
theorem KernelHook.run_disabled (cfg : Config) (env : External) (k : KernelHook) {s : State}
    (off : s.isEnabled = false) : SameTrace s (k.run cfg env s) := by
  cases k with
  | taskCreate pxNewTcb uxPriority =>
      cases pxNewTcb with
      | none => exact .refl s
      | some task =>
          exact .of_eq (prvTraceRegisterTaskProbe_disabled cfg env task uxPriority off)
  | taskSwitchedIn uxPriority =>
      cases traceTaskSwitchedIn_disabled cfg env uxPriority off with
      | inl noted =>
          rw [KernelHook.run, noted]
          exact (prvTraceSwitchedTcb_trace s.pxCurrentTcb s).1
      | inr nothing => exact .of_eq nothing
  | taskSwitchedOut => exact .of_eq (traceTaskSwitchedOut_disabled cfg env off)
  | inTask h =>
      exact h.run_induction cfg env (.refl s) fun noSlot failed id payload =>
        .of_eq (logEvent_disabled cfg env noSlot failed id payload off)

/-! Errors along a run. -/

/-- Errors are only added, and the message kept is the first one. -/
def Appends (s t : State) : Prop :=
  ∃ new, t.errors = s.errors ++ new ∧ t.errorMsg = s.errorMsg.or new.head?

theorem Appends.trans {s r t : State} (h : Appends s r) (k : Appends r t) : Appends s t := by
  obtain ⟨new, hErrors, hMsg⟩ := h
  obtain ⟨more, kErrors, kMsg⟩ := k
  refine ⟨new ++ more, ?_, ?_⟩
  · rw [kErrors, hErrors, List.append_assoc]
  · rw [kMsg, hMsg, List.head?_append, Option.or_assoc]

theorem Latched.appends {s t : State} (h : Latched s t) : Appends s t := by
  cases h with
  | inl same => exact ⟨[], by simp [same.errors], by simp [same.errorMsg]⟩
  | inr failed =>
      obtain ⟨msg, rest, hErrors, hMsg⟩ := failed.errors
      exact ⟨msg :: rest, hErrors, by simpa using hMsg⟩

/-- How a step other than vTraceEnable moves the switch. -/
structure KeepsOff (s t : State) : Prop where
  failed : t.errors ≠ s.errors → t.isEnabled = false
  off : s.isEnabled = false → t.isEnabled = false

theorem Latched.keepsOff {s t : State} (h : Latched s t) : KeepsOff s t := by
  cases h with
  | inl same => exact ⟨fun h => absurd same.errors h, fun h => by rw [same.isEnabled, h]⟩
  | inr failed => exact ⟨fun _ => failed.isEnabled, fun _ => failed.isEnabled⟩

def Op.IsEnable (op : Op) : Prop := ∃ env io, op = .enable env io

theorem step_latched (cfg : Config) (s : State) (op : Op) (enable : ¬ op.IsEnable) :
    Latched s (step cfg s op) ∨ op = .disable := by
  cases op with
  | enable env io => exact absurd ⟨env, io, rfl⟩ enable
  | disable => exact .inr rfl
  | exclude _ => exact .inl (vTraceExcludeTask_latched ..)
  | create _ _ _ _ => exact .inl (xTaskCreate_latched ..)
  | delete _ | setFilter _ _ | getBuffer => exact .inl (.same rfl rfl rfl)
  | start _ next _ =>
      exact .inl (latched_hookEffect.startScheduler _ _ next _ (.same rfl rfl rfl))
  | switch _ _ next _ =>
      exact .inl (latched_hookEffect.contextSwitch _ _ _ next _ s fun _ => .same rfl rfl rfl)
  | hook env h => exact .inl (latched_hookEffect.run cfg env h s)
  | ioRead r =>
      refine .inl ?_
      unfold step
      dsimp only
      split
      · exact latched_controlEffect.ioRead cfg r s
      · exact .refl s
      · exact .refl s
  | ioSend => exact .inl (latched_controlEffect.ioSend cfg s)
  | ioReport _ _ => exact .inl (latched_controlEffect.ioReport ..)
  | process _ => exact .inl (latched_controlEffect.vTraceProcessControlPlaneMessages ..)

theorem step_keepsOff (cfg : Config) (s : State) (op : Op) (enable : ¬ op.IsEnable) :
    KeepsOff s (step cfg s op) := by
  rcases step_latched cfg s op enable with latched | rfl
  · exact latched.keepsOff
  · exact ⟨fun _ => rfl, fun _ => rfl⟩

/-- The first assert of vTraceEnable passes. -/
def GuardPasses (cfg : Config) (s : State) : Prop :=
  cfg.useTraceAssert = true → s.pxCurrentTcb = none

theorem vTraceEnable_cases (cfg : Config) (env : External) (io : Option NewTask) (s : State) :
    (s.isEnabled = true ∧ vTraceEnable cfg env io s = s) ∨
    (s.isEnabled = false ∧ ¬ GuardPasses cfg s ∧
      ∃ msg, vTraceEnable cfg env io s = s.prvTraceError msg) ∨
    (s.isEnabled = false ∧ GuardPasses cfg s ∧ vTraceEnable cfg env io s =
      (includeIoTask cfg env io s.enterCriticalSection).setEnabled.exitCriticalSection) := by
  cases he : s.isEnabled with
  | true => exact .inl ⟨rfl, by simp [vTraceEnable, he]⟩
  | false =>
      refine .inr ?_
      unfold vTraceEnable GuardPasses
      rw [he, if_neg (by simp)]
      rcases traceAssert_cases cfg (s.prvTraceGetCurrentTaskHandle == none)
        "vTraceEnable should be called before vTaskStartScheduler()" s id _
        with ⟨asserts, guard, h⟩ | ⟨guard, h⟩
      · refine .inl ⟨rfl, ?_, _, h⟩
        intro none
        simp [State.prvTraceGetCurrentTaskHandle, none asserts] at guard
      · refine .inr ⟨rfl, ?_, h⟩
        simpa [State.prvTraceGetCurrentTaskHandle] using guard

/-- Excluding a task, and enabling: the IO task is created while tracing is off, so that
nothing is registered. -/
structure EnableEffect (R : State → State → Prop) : Prop where
  refl : ∀ s, R s s
  trans : ∀ {s r t}, R s r → R r t → R s t
  enter : ∀ s, R s s.enterCriticalSection
  exit : ∀ s, R s s.exitCriticalSection
  error : ∀ msg s, R s (s.prvTraceError msg)
  exclude : ∀ (s : State) ids names, R s { s with
    excludedTaskProbeIds := ids, excludedNames := names }
  addTask : ∀ cfg new name s, R s (State.addTask cfg new name s)
  ioTask : ∀ (s : State) handle, R s { s with ioTaskHandle := handle }
  enabled : ∀ s : State, R s s.setEnabled

namespace EnableEffect
variable {R : State → State → Prop}

theorem vTraceExcludeTask (h : EnableEffect R) (cfg : Config) (pcName : CString) (s : State) :
    R s (vTraceExcludeTask cfg pcName s) := by
  have hashed : R s (hashTaskName cfg pcName s.enterCriticalSection).2 := by
    rw [hashTaskName_eq]
    refine h.trans (h.enter s) ?_
    dsimp only
    split
    · exact h.error _ _
    · exact h.refl _
  have stored : ∀ id t, R t (storeExcludedId id t) := by
    intro id t
    simp only [storeExcludedId]
    split
    · exact h.exclude t _ t.excludedNames
    · exact h.error _ t
  have noted : ∀ t : State, R t (State.noteExcluded pcName t).exitCriticalSection :=
    fun t => h.trans (h.exclude t t.excludedTaskProbeIds _) (h.exit _)
  exact h.trans (h.trans hashed (stored _ _)) (noted _)

theorem createIoTask (h : EnableEffect R) (cfg : Config) (env : External)
    (io : Option NewTask) {s : State} (off : s.isEnabled = false) :
    R s (createIoTask cfg env io s) := by
  have excluded := h.vTraceExcludeTask cfg cfg.ioTaskName s
  have off' := (vTraceExcludeTask_latched cfg cfg.ioTaskName s).keepsOff.off off
  simp only [ProbeTrace.createIoTask]
  generalize ProbeTrace.vTraceExcludeTask cfg cfg.ioTaskName s = r at excluded off' ⊢
  have created : R s (createIo cfg env io r) := by
    cases io with
    | none => exact excluded
    | some new =>
        have skipped := prvTraceRegisterTaskProbe_disabled cfg env new.handle cfg.ioTaskPriority
          (s := r.addTask cfg new cfg.ioTaskName) off'
        simp only [createIo, xTaskCreate, skipped]
        exact h.trans (h.trans excluded (h.addTask cfg new cfg.ioTaskName r)) (h.ioTask _ _)
  split
  · exact h.trans created (h.error _ _)
  · exact created

theorem vTraceEnable (h : EnableEffect R) (cfg : Config) (env : External)
    (io : Option NewTask) (s : State) : R s (vTraceEnable cfg env io s) := by
  cases vTraceEnable_cases cfg env io s with
  | inl same =>
      rw [same.2]
      exact h.refl s
  | inr off =>
      cases off with
      | inl refused =>
          obtain ⟨-, -, msg, eq⟩ := refused
          rw [eq]
          exact h.error msg s
      | inr enables =>
          obtain ⟨off, -, eq⟩ := enables
          have included : R s (includeIoTask cfg env io s.enterCriticalSection) := by
            simp only [includeIoTask]
            split
            · exact h.trans (h.enter s) (h.createIoTask cfg env io off)
            · exact h.enter s
          rw [eq]
          exact h.trans included (h.trans (h.enabled _) (h.exit _))

end EnableEffect

theorem vTraceEnable_appends (cfg : Config) (env : External) (io : Option NewTask)
    (s : State) : Appends s (vTraceEnable cfg env io s) := by
  rcases vTraceEnable_cases cfg env io s with ⟨-, h⟩ | ⟨-, -, msg, h⟩ | ⟨-, -, h⟩
  · rw [h]
    exact (Latched.refl s).appends
  · rw [h]
    exact (Latched.error msg s).appends
  · rw [h]
    exact (includeIoTask_latched cfg env io s.enterCriticalSection).appends

theorem step_appends (cfg : Config) (s : State) (op : Op) : Appends s (step cfg s op) := by
  by_cases enable : op.IsEnable
  · obtain ⟨env, io, rfl⟩ := enable
    exact vTraceEnable_appends cfg env io s
  · rcases step_latched cfg s op enable with latched | rfl
    · exact latched.appends
    · exact ⟨[], by simp [step, State.vTraceDisable], by simp [step, State.vTraceDisable]⟩

/-- The error message is the first one ever recorded. -/
theorem errorMsg_eq_head {cfg : Config} {ok : State → Op → Prop} {ops : List Op} {s : State}
    (h : Reaches cfg ok ops s) : s.errorMsg = s.errors.head? := by
  refine h.invariant (P := fun s => s.errorMsg = s.errors.head?) ?_ rfl
  intro s op first _
  obtain ⟨new, hErrors, hMsg⟩ := step_appends cfg s op
  rw [hMsg, hErrors, List.head?_append, first]

/-- A run of `ops` from `s` without vTraceEnable keeps tracing off. -/
theorem off_of_run {cfg : Config} {ok : State → Op → Prop} {ops : List Op} {s t : State}
    (h : Transition.Run (step cfg) (fun s op => ok s op ∧ ¬ op.IsEnable) s ops t)
    (off : s.isEnabled = false) : t.isEnabled = false :=
  h.invariant (P := fun s => s.isEnabled = false)
    (fun s op off ok => (step_keepsOff cfg s op ok.2).off off) off

/-! Which calls of vTraceEnable record an error on the way to enabling. -/

theorem storeExcludedId_errors (probeId : BitVec 16) (s : State) :
    (storeExcludedId probeId s).errors =
      s.errors ++ if 0 ∈ s.excludedTaskProbeIds then [] else
        ["No more excluded task slots available, increase MPT_CFG_MAX_EXCLUDED_TASKS"] := by
  unfold storeExcludedId
  cases hf : s.excludedTaskProbeIds.findIdx? (fun id => id == 0) with
  | some i =>
      obtain ⟨hi, found, -⟩ := List.findIdx?_eq_some_iff_getElem.mp hf
      have zero : s.excludedTaskProbeIds[i] = 0 := by simpa using found
      have mem : (0 : BitVec 16) ∈ s.excludedTaskProbeIds := zero ▸ List.getElem_mem hi
      rw [if_pos mem, List.append_nil]
  | none =>
      rw [List.findIdx?_eq_none_iff] at hf
      have absent : (0 : BitVec 16) ∉ s.excludedTaskProbeIds := fun mem => by
        simpa using hf 0 mem
      rw [if_neg absent]
      exact s.prvTraceError_errors _

theorem vTraceExcludeTask_errors (cfg : Config) (pcName : CString) (s : State) :
    (vTraceExcludeTask cfg pcName s).errors = s.errors ↔
      ¬ HashFails cfg pcName ∧ 0 ∈ s.excludedTaskProbeIds := by
  unfold vTraceExcludeTask
  simp only [hashTaskName_eq, State.exitCriticalSection, State.noteExcluded,
    storeExcludedId_errors]
  by_cases hash : HashFails cfg pcName <;> by_cases mem : 0 ∈ s.excludedTaskProbeIds <;>
    simp [hash, State.enterCriticalSection]

/-- The block that creates the IO task is run and fails. -/
def IoTaskFails (cfg : Config) (io : Option NewTask) (s : State) : Prop :=
  cfg.includeIoTask = true ∧ s.ioTaskHandle = none ∧
    (io = none ∨ HashFails cfg cfg.ioTaskName ∨ 0 ∉ s.excludedTaskProbeIds)

theorem vTraceExcludeTask_ioTaskHandle (cfg : Config) (pcName : CString) (s : State) :
    (vTraceExcludeTask cfg pcName s).ioTaskHandle = s.ioTaskHandle := by
  have stored : ∀ (probeId : BitVec 16) (t : State),
      (storeExcludedId probeId t).ioTaskHandle = t.ioTaskHandle := by
    intro probeId t
    unfold storeExcludedId
    split
    · rfl
    · rw [State.prvTraceError_eq]
  unfold vTraceExcludeTask
  simp only [hashTaskName_eq, State.exitCriticalSection, State.noteExcluded, stored]
  split
  · rw [State.prvTraceError_eq]
    rfl
  · rfl

theorem createIoTask_errors (cfg : Config) (env : External) (io : Option NewTask) {s : State}
    (off : s.isEnabled = false) (first : s.ioTaskHandle = none) :
    (createIoTask cfg env io s).errors = (vTraceExcludeTask cfg cfg.ioTaskName s).errors ++
      if io = none then ["Failed to create ModalityProbeIo task"] else [] := by
  have handle := (vTraceExcludeTask_ioTaskHandle cfg cfg.ioTaskName s).trans first
  have off' := (vTraceExcludeTask_latched cfg cfg.ioTaskName s).keepsOff.off off
  unfold createIoTask
  cases io with
  | none => simp [createIo, handle]
  | some new =>
      have created : xTaskCreate cfg env new cfg.ioTaskName cfg.ioTaskPriority
          (vTraceExcludeTask cfg cfg.ioTaskName s) =
          (vTraceExcludeTask cfg cfg.ioTaskName s).addTask cfg new cfg.ioTaskName :=
        prvTraceRegisterTaskProbe_disabled cfg env new.handle cfg.ioTaskPriority off'
      simp [createIo, created, State.addTask]

theorem includeIoTask_errors (cfg : Config) (env : External) (io : Option NewTask) {s : State}
    (off : s.isEnabled = false) :
    (includeIoTask cfg env io s).errors = s.errors ↔ ¬ IoTaskFails cfg io s := by
  unfold includeIoTask IoTaskFails
  by_cases run : cfg.includeIoTask = true ∧ s.ioTaskHandle = none
  · have excluded := vTraceExcludeTask_errors cfg cfg.ioTaskName s
    obtain ⟨new, appended, -⟩ := (vTraceExcludeTask_latched cfg cfg.ioTaskName s).appends
    rw [if_pos (by simp [run]), createIoTask_errors cfg env io off run.2]
    rw [appended, List.append_right_eq_self] at excluded
    rw [appended, List.append_assoc, List.append_right_eq_self, List.append_eq_nil_iff, excluded]
    cases io <;> simp [run]
  · rw [if_neg (by simpa using run)]
    simp only [true_iff]
    exact fun h => run ⟨h.1, h.2.1⟩

/-! Operations. -/

/-- One whole turn of the IO task's loop. -/
def ioIteration (cfg : Config) (r : IoRead) (reports announcements : Probe → IoWrite) :
    List Op :=
  .ioRead r :: (List.replicate cfg.maxProbes .ioSend ++ [.ioReport reports announcements])

/-- A single action, or a turn of the IO task's loop. -/
def IsOperation (cfg : Config) (ops : List Op) : Prop :=
  (∃ op, ops = [op]) ∨ ∃ r reports announcements, ops = ioIteration cfg r reports announcements

/-- A call of vTraceEnable that records an error and enables tracing after it. -/
def EnableFails (cfg : Config) (s : State) (ops : List Op) : Prop :=
  ∃ env io, ops = [.enable env io] ∧ s.isEnabled = false ∧ GuardPasses cfg s ∧
    IoTaskFails cfg io s

/-- Tracing is off, the error message is the first one recorded, and until
vTraceEnable is called no kernel hook changes the trace. -/
structure TracingOff (cfg : Config) (s : State) : Prop where
  off : xTraceIsEnabled s = false
  isSome : (pcTraceGetError s).isSome
  first : pcTraceGetError s = s.errors.head?
  quiet : ∀ (ops : List Op) (t : State),
    Transition.Run (step cfg) (fun s op => op.Legal cfg s ∧ ¬ op.IsEnable) s ops t →
    ∀ (env : External) (k : KernelHook), SameTrace t (k.run cfg env t)

theorem TracingOff.of_off {cfg : Config} {s : State} (off : s.isEnabled = false)
    (errors : s.errors ≠ []) (first : s.errorMsg = s.errors.head?) : TracingOff cfg s where
  off := off
  isSome := by
    rw [pcTraceGetError, first]
    exact List.isSome_head?.mpr errors
  first := first
  quiet _ _ run env k := k.run_disabled cfg env (off_of_run run off)

theorem KeepsOff.trans {s r t : State} (h : KeepsOff s r) (k : KeepsOff r t) :
    KeepsOff s t where
  failed changed := by
    by_cases same : r.errors = s.errors
    · exact k.failed (by rwa [same])
    · exact k.off (h.failed same)
  off := k.off ∘ h.off

theorem run_keepsOff {cfg : Config} {ok : State → Op → Prop} {ops : List Op} {s t : State}
    (h : Transition.Run (step cfg) ok s ops t) (enable : ∀ op ∈ ops, ¬ op.IsEnable) :
    KeepsOff s t := by
  induction h with
  | nil s => exact ⟨fun h => absurd rfl h, id⟩
  | cons _ _ ih =>
      have rest := ih fun op mem => enable op (List.mem_cons_of_mem _ mem)
      exact (step_keepsOff cfg _ _ (enable _ List.mem_cons_self)).trans rest

theorem run_appends {cfg : Config} {ok : State → Op → Prop} {ops : List Op} {s t : State}
    (h : Transition.Run (step cfg) ok s ops t) : Appends s t :=
  h.relates (fun s => (Latched.refl s).appends) Appends.trans
    fun s op _ => step_appends cfg s op

theorem ioIteration_no_enable (cfg : Config) (r : IoRead) (reports announcements : Probe → IoWrite) :
    ∀ op ∈ ioIteration cfg r reports announcements, ¬ op.IsEnable := by
  intro op mem enable
  obtain ⟨env, io, rfl⟩ := enable
  simp [ioIteration] at mem

/-- An operation that is not such a call of vTraceEnable returns with tracing off
if it recorded an error. -/
theorem off_of_operation {cfg : Config} {ok : State → Op → Prop} {ops : List Op} {s t : State}
    (operation : IsOperation cfg ops) (run : Transition.Run (step cfg) ok s ops t)
    (fails : ¬ EnableFails cfg s ops) (changed : t.errors ≠ s.errors) :
    t.isEnabled = false := by
  rcases operation with ⟨op, rfl⟩ | ⟨r, reports, announcements, rfl⟩
  · have final := run.final_eq
    rw [List.foldl_cons, List.foldl_nil] at final
    by_cases enable : op.IsEnable
    · obtain ⟨env, io, rfl⟩ := enable
      rw [final] at changed ⊢
      change (vTraceEnable cfg env io s).errors ≠ s.errors at changed
      change (vTraceEnable cfg env io s).isEnabled = false
      rcases vTraceEnable_cases cfg env io s with ⟨-, h⟩ | ⟨-, -, msg, h⟩ | ⟨off, guard, h⟩
      · exact absurd (congrArg State.errors h) changed
      · rw [h, State.prvTraceError_isEnabled]
      · refine absurd ?_ fails
        refine ⟨env, io, rfl, off, guard, ?_⟩
        by_contra io_ok
        rw [h] at changed
        exact changed ((includeIoTask_errors cfg env io (s := s.enterCriticalSection) off).mpr io_ok)
    · rw [final] at changed ⊢
      exact (step_keepsOff cfg s op enable).failed changed
  · exact (run_keepsOff run (ioIteration_no_enable cfg r reports announcements)).failed changed

/-- Whether an error recorded during an operation leaves tracing off. -/
theorem error_leaves_tracing_off_iff {cfg : Config} {before operation : List Op} {s t : State}
    (reached : Reaches cfg (fun _ _ => True) before s) (one : IsOperation cfg operation)
    (run : Transition.Run (step cfg) (fun s op => op.Legal cfg s) s operation t) :
    (t.errors ≠ s.errors → TracingOff cfg t) ↔ ¬ EnableFails cfg s operation := by
  constructor
  · rintro holds ⟨env, io, rfl, off, guard, ioFails⟩
    have final := run.final_eq
    rw [List.foldl_cons, List.foldl_nil] at final
    have enabled : step cfg s (.enable env io) =
        (includeIoTask cfg env io s.enterCriticalSection).setEnabled.exitCriticalSection := by
      rcases vTraceEnable_cases cfg env io s with ⟨on, -⟩ | ⟨-, blocked, -⟩ | ⟨-, -, h⟩
      · rw [off] at on
        cases on
      · exact absurd guard blocked
      · exact h
    have changed : t.errors ≠ s.errors := by
      rw [final, enabled]
      intro same
      exact (includeIoTask_errors cfg env io (s := s.enterCriticalSection) off).mp same ioFails
    have on : t.isEnabled = true := by
      rw [final, enabled]
      rfl
    have := (holds changed).off
    rw [xTraceIsEnabled, on] at this
    cases this
  · intro fails changed
    obtain ⟨new, hErrors, hMsg⟩ := run_appends run
    have first := errorMsg_eq_head reached
    refine .of_off (off_of_operation one run fails changed) ?_ ?_
    · rw [hErrors]
      intro empty
      rw [List.append_eq_nil_iff] at empty
      exact changed (by rw [hErrors, empty.2, List.append_nil])
    · rw [hMsg, hErrors, List.head?_append, first]

/-- Tracing is enabled and a traced task is current. -/
def enabledRun : List Op :=
  [.enable {} (some ⟨0, 0, false⟩), .create {} ⟨1, 0, true⟩ [65] 1, .start {} 1 1]

/-- A failed read of the IO task turns tracing off. -/
theorem error_leaves_tracing_off_iff_read :
    xTraceIsEnabled (enabledRun.foldl (step Config.tests) (State.init Config.tests)) = true ∧
      TracingOff Config.tests (step Config.tests
        (enabledRun.foldl (step Config.tests) (State.init Config.tests))
        (.ioRead { status := -1, numBytes := 0, data := [], destination := none })) := by
  have reached : Reaches Config.tests (fun _ _ => True) enabledRun
      (enabledRun.foldl (step Config.tests) (State.init Config.tests)) :=
    Transition.Run.of_check (by decide +kernel)
  refine ⟨by decide +kernel, (error_leaves_tracing_off_iff reached (.inl ⟨_, rfl⟩)
    (.cons (by decide +kernel) (.nil _))).mpr ?_ (by decide +kernel)⟩
  rintro ⟨_, _, h, _⟩
  cases h

/-- Tracing is on after vTraceEnable could not create the IO task. -/
theorem tracing_on_after_error :
    ¬ ∀ (cfg : Config) (before operation : List Op) (s t : State),
      Reaches cfg (fun _ _ => True) before s → IsOperation cfg operation →
      Transition.Run (step cfg) (fun s op => op.Legal cfg s) s operation t →
      t.errors ≠ s.errors → TracingOff cfg t := by
  intro always
  have off := (always Config.tests [] [.enable {} none] (State.init Config.tests)
    (step Config.tests (State.init Config.tests) (.enable {} none)) (.nil _) (.inl ⟨_, rfl⟩)
    (.cons (by decide) (.nil _)) (by decide)).off
  have on : xTraceIsEnabled
      (step Config.tests (State.init Config.tests) (.enable {} none)) = true := by decide
  rw [on] at off
  cases off

end ProbeTrace
