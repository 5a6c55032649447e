import ProbeTrace.Foundation.Additions
import ProbeTrace.Metatheory.ErrorSafety
import ProbeTrace.Metatheory.Announcements
import ProbeTrace.Metatheory.ControlMoves
import ProbeTrace.Metatheory.HookCalls
import ProbeTrace.Metatheory.Registration

/-!
The error texts tell the truth. Every text that is ever recorded, and so what pcTraceGetError
returns, names something that had happened: a table or the storage was full, a lookup found
nothing, or a call that leaves the library failed.
-/
namespace ProbeTrace

/-! The causes, function by function. -/

inductive NameCause (cfg : Config) (name : CString) : String → Prop
  | empty : HashFails cfg name → NameCause cfg name ("TRACE_ASSERT: " ++ "Task name length == 0")

/-- vTraceExcludeTask -/
inductive ExcludeCause (cfg : Config) (pcName : CString) (s : State) : String → Prop
  | name {msg : String} : NameCause cfg pcName msg → ExcludeCause cfg pcName s msg
  | full : (∀ id ∈ s.excludedTaskProbeIds, id ≠ 0) → ExcludeCause cfg pcName s
      "No more excluded task slots available, increase MPT_CFG_MAX_EXCLUDED_TASKS"

/-- vTraceEnable -/
inductive EnableCause (cfg : Config) (io : Option NewTask) (s : State) : String → Prop
  | late : cfg.useTraceAssert = true → s.pxCurrentTcb ≠ none → EnableCause cfg io s
      ("TRACE_ASSERT: " ++ "vTraceEnable should be called before vTaskStartScheduler()")
  | ioTask {msg : String} : cfg.includeIoTask = true → s.ioTaskHandle = none →
      ExcludeCause cfg cfg.ioTaskName s msg → EnableCause cfg io s msg
  | notCreated : cfg.includeIoTask = true → s.ioTaskHandle = none → io = none →
      EnableCause cfg io s "Failed to create ModalityProbeIo task"

/-- alloc_probe, add_tcb_probe and the first event. -/
inductive ProbeCause (cfg : Config) (env : External) (s : State) : String → Prop
  | storage : ¬ StorageAvailable cfg env s.registry → ProbeCause cfg env s
      "Failed to allocate probe storage, increase MPT_CFG_STORAGE_SIZE"
  | probe : cfg.useTraceAssert = true → env.initializeProbe = false →
      ProbeCause cfg env s ("TRACE_ASSERT: " ++ "Failed to initialize Modality probe")
  | slots : (∀ e ∈ s.tcbProbes, e.tcb ≠ none) → ProbeCause cfg env s
      "No more TCB probe slots available, increase MPT_CFG_MAX_PROBES"
  | snapshot : cfg.useTraceAssert = true → env.produceSnapshot = none →
      ProbeCause cfg env s ("TRACE_ASSERT: " ++ "Failed to produce Modality probe snapshot")
  | messageBuffer : cfg.includeControlPlaneBuffer = true → env.messageBufferCreate = false →
      ProbeCause cfg env s "Failed to allocate probe control plane message buffer"
  | taskBuffer : cfg.includeControlPlaneBuffer = true → env.mallocTaskBuffer = false →
      ProbeCause cfg env s "Failed to allocate probe task local control plane buffer"
  | record : cfg.useTraceAssert = true → env.recordEvent = false →
      ProbeCause cfg env s ("TRACE_ASSERT: " ++ "Failed to record initial task creation event")

/-- prvTraceRegisterTaskProbe, for a task of this name. -/
inductive RegisterCause (cfg : Config) (env : External) (name : CString) (s : State) :
    String → Prop
  | name {msg : String} : NameCause cfg name msg → RegisterCause cfg env name s msg
  | probe {msg : String} : nameHash cfg name ∉ s.excludedTaskProbeIds → ProbeCause cfg env s msg →
      RegisterCause cfg env name s msg

/-- A lookup of a task in the slots that finds none. -/
def Unregistered (s : State) (task : Option TaskHandle) : Prop :=
  task ≠ none ∧ ∀ e ∈ s.tcbProbes, e.tcb ≠ task

/-- A recording function with these texts, `task` being the traced task. -/
inductive LogCause (cfg : Config) (env : External) (noSlot failed : String)
    (task : Option TaskHandle) (s : State) : String → Prop
  | slot : cfg.useTraceAssert = true → Unregistered s task →
      LogCause cfg env noSlot failed task s ("TRACE_ASSERT: " ++ noSlot)
  | record : cfg.useTraceAssert = true → env.recordEvent = false →
      LogCause cfg env noSlot failed task s ("TRACE_ASSERT: " ++ failed)

/-- prvTraceLogEvent -/
def LogEventCause (cfg : Config) (env : External) : Option TaskHandle → State → String → Prop :=
  LogCause cfg env "No tcb_probe_s associated with the current task (3)"
    "Failed to log Modality event"

/-- prvTraceLogEventWithPayload -/
def LogPayloadCause (cfg : Config) (env : External) : Option TaskHandle → State → String → Prop :=
  LogCause cfg env "No tcb_probe_s associated with the current task (4)"
    "Failed to log Modality event with payload"

/-- traceTASK_SWITCHED_OUT of `prev`: the event and then prvTraceProduceSnapshot. -/
inductive SwitchedOutCause (cfg : Config) (env : External) (prev : Option TaskHandle)
    (s : State) : String → Prop
  | event {msg : String} : LogEventCause cfg env prev s msg → SwitchedOutCause cfg env prev s msg
  | slot : cfg.useTraceAssert = true → Unregistered s prev → SwitchedOutCause cfg env prev s
      ("TRACE_ASSERT: " ++ "No tcb_probe_s associated with the current task (1)")
  | snapshot : cfg.useTraceAssert = true → env.produceSnapshot = none →
      SwitchedOutCause cfg env prev s
        ("TRACE_ASSERT: " ++ "Failed to produce Modality probe snapshot")

/-- traceTASK_SWITCHED_IN for `next` when `prev` was traced before: prvTraceMergeSnapshot and
then the event. -/
inductive SwitchedInCause (cfg : Config) (env : External) (prev : Option TaskHandle)
    (next : TaskHandle) (s : State) : String → Prop
  | slot : cfg.useTraceAssert = true → Unregistered s (some next) →
      SwitchedInCause cfg env prev next s
        ("TRACE_ASSERT: " ++ "No tcb_probe_s associated with the current task (2)")
  | previous : cfg.useTraceAssert = true → Unregistered s prev →
      SwitchedInCause cfg env prev next s
        ("TRACE_ASSERT: " ++ "No tcb_probe_s associated with the previous task")
  | merge : cfg.useTraceAssert = true → env.mergeSnapshot = false →
      SwitchedInCause cfg env prev next s
        ("TRACE_ASSERT: " ++ "Failed to merge Modality probe snapshot")
  | event {msg : String} : LogPayloadCause cfg env (some next) s msg →
      SwitchedInCause cfg env prev next s msg

/-- The hooks that only record. -/
inductive HookCause (cfg : Config) (env : External) (h : Hook) (s : State) : String → Prop
  | event {id' : BitVec 32} {msg : String} : hookRecord s.taskId h = some (id', none) →
      LogEventCause cfg env s.currentTcb s msg → HookCause cfg env h s msg
  | payload {id' value : BitVec 32} {msg : String} :
      hookRecord s.taskId h = some (id', some value) →
      LogPayloadCause cfg env s.currentTcb s msg → HookCause cfg env h s msg

/-- The functions the IO task passes to the iterator. -/
inductive IterCause (cfg : Config) (failed writeFailed : String) (w : IoWrite) : String → Prop
  | generate : cfg.useTraceAssert = true → w.generated = false →
      IterCause cfg failed writeFailed w ("TRACE_ASSERT: " ++ failed)
  | write : w.sizeBytes ≠ 0 → w.status ≠ 0 → IterCause cfg failed writeFailed w writeFailed

/-- What an action that records an error text came upon. -/
inductive Cause (cfg : Config) (s : State) : Op → String → Prop
  | enable {env : External} {io : Option NewTask} {msg : String} : s.isEnabled = false →
      EnableCause cfg io s msg → Cause cfg s (.enable env io) msg
  | exclude {pcName : CString} {msg : String} : ExcludeCause cfg pcName s msg →
      Cause cfg s (.exclude pcName) msg
  | create {env : External} {new : NewTask} {name : CString} {uxPriority : BitVec 32}
      {msg : String} : s.isEnabled = true →
      RegisterCause cfg env (name.take (cfg.maxTaskNameLen - 1)) s msg →
      Cause cfg s (.create env new name uxPriority) msg
  | start {env : External} {next : TaskHandle} {uxPriority : BitVec 32} {msg : String} :
      s.isEnabled = true → SwitchedInCause cfg env s.currentTcb next s msg →
      Cause cfg s (.start env next uxPriority) msg
  | switchedOut {out in' : External} {next : TaskHandle} {uxPriority : BitVec 32} {msg : String} :
      s.isEnabled = true → SwitchedOutCause cfg out s.currentTcb s msg →
      Cause cfg s (.switch out in' next uxPriority) msg
  | switchedIn {out in' : External} {next : TaskHandle} {uxPriority : BitVec 32} {msg : String} :
      s.isEnabled = true → SwitchedInCause cfg in' s.currentTcb next s msg →
      Cause cfg s (.switch out in' next uxPriority) msg
  | hook {env : External} {h : Hook} {msg : String} : s.isEnabled = true →
      HookCause cfg env h s msg → Cause cfg s (.hook env h) msg
  | read {r : IoRead} : s.ioPoint = .read → r.status ≠ 0 → Cause cfg s (.ioRead r)
      "TRACE_IO_READ returned an error"
  | report {reports announcements : Probe → IoWrite} {probe : Probe} {msg : String} :
      probe ∈ registeredProbes cfg s →
      IterCause cfg "Failed to generate Modality probe report"
        "TRACE_IO_WRITE returned an error (1)" (reports probe) msg →
      Cause cfg s (.ioReport reports announcements) msg
  | announce {reports announcements : Probe → IoWrite} {probe : Probe} {msg : String} :
      announcementDue cfg s = true → probe ∈ registeredProbes cfg s →
      IterCause cfg "Failed to generate Modality mutator announcement"
        "TRACE_IO_WRITE returned an error (2)" (announcements probe) msg →
      Cause cfg s (.ioReport reports announcements) msg
  | process {env : External} {m : Message} :
      (receiveMessage cfg (currentTcbProbe s) s).1 = some m → m.size ≠ 0 →
      cfg.useTraceAssert = true → env.processControlMessage = false → Cause cfg s (.process env)
        ("TRACE_ASSERT: " ++ "Failed to process Modality probe control message")

/-- From `s` to `t` only such texts are recorded. -/
abbrev AddsErrors (P : String → Prop) : State → State → Prop := Additions.Adds State.errors P

/-- Along a sequence of actions: each action only adds to the recorded texts, and each text it
adds has its cause in this very action and the state it is taken in. The text that is kept is the
first. -/
structure ErrorsCaused (cfg : Config) (ops : List Op) : Prop where
  caused : ∀ before op after, ops = before ++ op :: after →
    AddsErrors (Cause cfg (before.foldl (step cfg) (State.init cfg)) op)
      (before.foldl (step cfg) (State.init cfg))
      ((before ++ [op]).foldl (step cfg) (State.init cfg))
  first : pcTraceGetError (ops.foldl (step cfg) (State.init cfg)) =
    (ops.foldl (step cfg) (State.init cfg)).errors.head?

section
variable {cfg : Config} {env : External} {s r t : State} {P : String → Prop}

theorem errors_error {msg : String} (s : State) (kind : P msg) :
    AddsErrors P s (s.prvTraceError msg) := .one (State.prvTraceError_errors msg s) kind

theorem assert_errors {eval : Bool} {msg : String} {k : State → State}
    (failed : cfg.useTraceAssert = true → eval = false → P ("TRACE_ASSERT: " ++ msg))
    (before : AddsErrors P s r)
    (passed : (cfg.useTraceAssert = true → eval = true) → AddsErrors P s (k r)) :
    AddsErrors P s (traceAssert cfg eval msg r id k) :=
  traceAssert_induction (fun asserts no => before.trans (errors_error r (failed asserts no))) passed

/-! Names and exclusion. -/

theorem hashTaskName_causes (cfg : Config) (name : CString) (s : State) :
    AddsErrors (NameCause cfg name) s (hashTaskName cfg name s).2 := by
  rw [hashTaskName_eq]
  dsimp only
  split
  · exact errors_error s (.empty ‹_›)
  · exact .none rfl

theorem exclude_causes (cfg : Config) (pcName : CString) (s : State) :
    AddsErrors (ExcludeCause cfg pcName s) s (vTraceExcludeTask cfg pcName s) := by
  have hashed : AddsErrors (ExcludeCause cfg pcName s) s
      (hashTaskName cfg pcName s.enterCriticalSection).2 :=
    (hashTaskName_causes cfg pcName s.enterCriticalSection).mono fun _ => .name
  have table : (hashTaskName cfg pcName s.enterCriticalSection).2.excludedTaskProbeIds =
      s.excludedTaskProbeIds := by
    rw [hashTaskName_eq]
    dsimp only
    split
    · rw [State.prvTraceError_eq]
      rfl
    · rfl
  have stored : AddsErrors (ExcludeCause cfg pcName s)
      (hashTaskName cfg pcName s.enterCriticalSection).2
      (storeExcludedId (hashTaskName cfg pcName s.enterCriticalSection).1
        (hashTaskName cfg pcName s.enterCriticalSection).2) := by
    simp only [storeExcludedId]
    split
    · exact .none rfl
    · rename_i full
      refine errors_error _ (.full fun id mem zero => ?_)
      rw [table, List.findIdx?_eq_none_iff] at full
      rw [zero] at mem
      exact Bool.false_ne_true ((full 0 mem).symm.trans rfl)
  exact hashed.trans (stored.trans (.none rfl))

/-! Lookups. -/

/-- A lookup that finds nothing, in any state with the same registry. -/
theorem absent_of_none {k : Option TaskHandle} (found : r.getTcbProbe k = none)
    (slots : r.registry.slots = s.registry.slots) : ∀ e ∈ s.tcbProbes, e.tcb ≠ k := by
  rw [getTcbProbe_eq, slots, ← getTcbProbe_eq, State.getTcbProbe] at found
  intro e mem
  obtain ⟨i, at_i⟩ := List.mem_iff_getElem?.mp mem
  exact SlotTable.find_eq_none_iff.mp found i e at_i

/-! Registration. -/

theorem allocProbe_errors (cfg : Config) (env : External) (probeId : BitVec 32) (r : State)
    (storage : ¬ StorageAvailable cfg env r.registry →
      P "Failed to allocate probe storage, increase MPT_CFG_STORAGE_SIZE")
    (failed : cfg.useTraceAssert = true → env.initializeProbe = false →
      P ("TRACE_ASSERT: " ++ "Failed to initialize Modality probe")) :
    AddsErrors P r (allocProbe cfg env cfg.taskProbeSize probeId r).2 := by
  have stored := (allocStorage_eq cfg env r).1
  have same : (allocStorage cfg env cfg.taskProbeSize r).2.errors = r.errors := by
    simp only [allocStorage]
    split
    · split
      · rfl
      · rfl
    · split
      · rfl
      · rfl
  simp only [allocProbe]
  cases outcome : allocStorage cfg env cfg.taskProbeSize r with
  | mk storage? u =>
      rw [outcome] at stored same
      cases storage? with
      | none =>
          have unavailable : ¬ StorageAvailable cfg env r.registry := by
            intro available
            rw [if_pos available] at stored
            exact Option.some_ne_none _ stored.symm
          exact (Additions.Adds.none same).trans (errors_error u (storage unavailable))
      | some storage' =>
          dsimp only
          split
          · have initialized : AddsErrors P r
                (u.modalityProbeInitialize env storage' cfg.taskProbeSize probeId).2 := by
              refine .none (Eq.trans ?_ same)
              simp only [State.modalityProbeInitialize]
              split
              · rfl
              · rfl
            exact traceAssert_induction (P := fun p : Option Probe × State => AddsErrors P r p.2)
              (fun asserts no => initialized.trans (errors_error _ (failed asserts no)))
              fun _ => initialized
          · exact .none same

theorem addControlPlaneBuffers_errors (cfg : Config) (env : External) (i : Nat) (r : State)
    (messageBuffer : env.messageBufferCreate = false →
      P "Failed to allocate probe control plane message buffer")
    (taskBuffer : env.mallocTaskBuffer = false →
      P "Failed to allocate probe task local control plane buffer") :
    AddsErrors P r (addControlPlaneBuffers cfg env i r) := by
  have created : (allocMessageBuffer cfg env r).2.errors = r.errors := by
    simp only [allocMessageBuffer]
    split
    · rfl
    · rfl
  have allocated : ∀ u : State, (allocTaskLocalBuffer env u).2.errors = u.errors := by
    intro u
    simp only [allocTaskLocalBuffer]
    split
    · rfl
    · rfl
  have nothing : (allocMessageBuffer cfg env r).1 = none → env.messageBufferCreate = false := by
    intro null
    by_contra succeeds
    rw [Bool.not_eq_false] at succeeds
    rw [allocMessageBuffer, if_pos succeeds] at null
    exact Option.some_ne_none _ null
  have nothing' : ∀ u : State, (allocTaskLocalBuffer env u).1 = none →
      env.mallocTaskBuffer = false := by
    intro u null
    by_contra succeeds
    rw [Bool.not_eq_false] at succeeds
    rw [allocTaskLocalBuffer, if_pos succeeds] at null
    exact Option.some_ne_none _ null
  have reported : ∀ (pointer : Option Nat) (msg : String) (u : State), (pointer = none → P msg) →
      AddsErrors P u (errorIfNull pointer msg u) := by
    intro pointer msg u kind
    simp only [errorIfNull]
    split
    · exact errors_error u (kind ‹_›)
    · exact .none rfl
  have before : AddsErrors P r
      (allocTaskLocalBuffer env (allocMessageBuffer cfg env r).2).2 :=
    .none ((allocated _).trans created)
  have first := before.trans (reported (allocMessageBuffer cfg env r).1
    "Failed to allocate probe control plane message buffer" _
    fun null => messageBuffer (nothing null))
  have second := first.trans (reported
    (allocTaskLocalBuffer env (allocMessageBuffer cfg env r).2).1
    "Failed to allocate probe task local control plane buffer" _
    fun null => taskBuffer (nothing' _ null))
  refine second.trans ?_
  simp only [addControlPlaneBuffers]
  split
  · exact .none rfl
  · exact .none rfl

theorem modalityProbeProduceSnapshot_errors (env : External) (probe : Option Probe) (i : Nat)
    (r : State) : (r.modalityProbeProduceSnapshot env probe i).errors = r.errors :=
  (modalityProbeProduceSnapshot_same env probe i r).errors

theorem addTcbProbe_errors (cfg : Config) (env : External) (task : TaskHandle) (probe : Probe)
    {r : State} (slots : r.registry.slots = s.registry.slots) :
    AddsErrors (ProbeCause cfg env s) r (addTcbProbe cfg env task probe r) := by
  simp only [addTcbProbe]
  cases found : r.getTcbProbe none with
  | none => exact errors_error r (.slots (absent_of_none found slots))
  | some i =>
      have produced := modalityProbeProduceSnapshot_errors env (some probe) i r
      refine assert_errors (fun asserts no => .snapshot asserts ?_) (.none produced) fun _ => ?_
      · exact Option.isSome_eq_false_iff.mp no |> Option.isNone_iff_eq_none.mp
      · have filled : AddsErrors (ProbeCause cfg env s) r
            ((r.modalityProbeProduceSnapshot env (some probe) i).modifyTcbProbe i
              fun e => { e with tcb := some task, probe := some probe }) := .none produced
        split
        · rename_i included
          exact filled.trans (addControlPlaneBuffers_errors cfg env i _ (.messageBuffer included)
            (.taskBuffer included))
        · exact filled

theorem attachProbe_errors (cfg : Config) (env : External) (task : TaskHandle)
    (uxPriority : BitVec 32) (probe : Probe) {r : State}
    (slots : r.registry.slots = s.registry.slots) :
    AddsErrors (ProbeCause cfg env s) r (attachProbe cfg env task uxPriority probe r) := by
  have added : AddsErrors (ProbeCause cfg env s) r
      (addTcbProbe cfg env task probe (State.noteRegistered task probe r)) :=
    addTcbProbe_errors cfg env task probe (r := State.noteRegistered task probe r) slots
  have tagged : ∀ u : State, (placeProbeInTag cfg task probe u).errors = u.errors := by
    intro u
    simp only [placeProbeInTag]
    split
    · rfl
    · rfl
  have marked := added.trans (Additions.Adds.none (tagged _))
  simp only [attachProbe]
  exact assert_errors (fun asserts no => .record asserts no) marked fun _ => marked

/-- A registration, for the task of a state with this table and this storage. -/
theorem register_causes (cfg : Config) (env : External) (task : TaskHandle)
    (uxPriority : BitVec 32) (s : State) :
    AddsErrors (RegisterCause cfg env (s.pcTaskGetName task) s) s
      (prvTraceRegisterTaskProbe cfg env task uxPriority s) := by
  have named : AddsErrors (RegisterCause cfg env (s.pcTaskGetName task) s) s
      (nameTask cfg task s.enterCriticalSection).2 :=
    (hashTaskName_causes cfg (s.pcTaskGetName task) s.enterCriticalSection).mono fun _ => .name
  obtain ⟨isHash, registry⟩ := nameTask_eq cfg task s.enterCriticalSection
  have notExcluded : ¬ isTaskExcluded (nameTask cfg task s.enterCriticalSection).2
      (nameTask cfg task s.enterCriticalSection).1 = true →
      nameHash cfg (s.pcTaskGetName task) ∉ s.excludedTaskProbeIds := by
    intro no mem
    rw [isTaskExcluded_iff, isHash, registry] at no
    exact no mem
  have allocated : AddsErrors (RegisterCause cfg env (s.pcTaskGetName task) s) s
      (nameAndAlloc cfg env task s.enterCriticalSection).2 := by
    simp only [nameAndAlloc]
    split
    · exact named
    · have included := notExcluded ‹_›
      refine named.trans (allocProbe_errors cfg env _ _
        (fun unavailable => .probe included (.storage ?_))
        fun asserts fails => .probe included (.probe asserts fails))
      rw [registry] at unavailable
      exact unavailable
  have included : ∀ (probe : Probe) (r : State),
      nameAndAlloc cfg env task s.enterCriticalSection = (some probe, r) →
      nameHash cfg (s.pcTaskGetName task) ∉ s.excludedTaskProbeIds := by
    intro probe r outcome
    refine notExcluded fun excluded => ?_
    have skipped : nameAndAlloc cfg env task s.enterCriticalSection =
        (none, (nameTask cfg task s.enterCriticalSection).2) := if_pos excluded
    cases skipped.symm.trans outcome
  have slots : (nameAndAlloc cfg env task s.enterCriticalSection).2.registry.slots =
      s.registry.slots := by
    have same := (sameSlots_allocEffect.nameAndAlloc cfg env task s.enterCriticalSection).tcbProbes
    exact congrArg (List.map TcbProbe.masked) same
  simp only [prvTraceRegisterTaskProbe]
  split
  · cases outcome : nameAndAlloc cfg env task s.enterCriticalSection with
    | mk probe r =>
        rw [outcome] at allocated slots
        cases probe with
        | none => exact allocated
        | some probe =>
            have attached := attachProbe_errors cfg env task uxPriority probe slots
            exact allocated.trans (attached.mono fun _ => .probe (included probe r outcome))
  · exact .none rfl

/-! Enabling. -/

theorem enable_causes (cfg : Config) (env : External) (io : Option NewTask) {s : State}
    (off : s.isEnabled = false) :
    AddsErrors (EnableCause cfg io s) s (vTraceEnable cfg env io s) := by
  have excluded : cfg.includeIoTask = true → s.ioTaskHandle = none →
      AddsErrors (EnableCause cfg io s) s
        (vTraceExcludeTask cfg cfg.ioTaskName s.enterCriticalSection) := by
    intro included noTask
    refine (exclude_causes cfg cfg.ioTaskName s.enterCriticalSection).mono fun _ cause => ?_
    cases cause with
    | name named => exact .ioTask included noTask (.name named)
    | full ids => exact .ioTask included noTask (.full ids)
  have included : AddsErrors (EnableCause cfg io s) s
      (includeIoTask cfg env io s.enterCriticalSection) := by
    simp only [includeIoTask]
    split
    · rename_i creates
      obtain ⟨isIncluded, noHandle⟩ := Bool.and_eq_true_iff.mp creates
      have noTask : s.ioTaskHandle = none := beq_iff_eq.mp noHandle
      have off' := (vTraceExcludeTask_latched cfg cfg.ioTaskName
        s.enterCriticalSection).keepsOff.off off
      have handle : (vTraceExcludeTask cfg cfg.ioTaskName s.enterCriticalSection).ioTaskHandle =
          none := (vTraceExcludeTask_ioTaskHandle ..).trans noTask
      have before := excluded isIncluded noTask
      simp only [createIoTask]
      generalize vTraceExcludeTask cfg cfg.ioTaskName s.enterCriticalSection = r
        at before off' handle ⊢
      cases io with
      | none =>
          have skipped : createIo cfg env none r = r := rfl
          rw [skipped, if_pos handle]
          exact before.trans (errors_error r (.notCreated isIncluded noTask rfl))
      | some new =>
          have skipped := prvTraceRegisterTaskProbe_disabled cfg env new.handle cfg.ioTaskPriority
            (s := r.addTask cfg new cfg.ioTaskName) off'
          have created : (createIo cfg env (some new) r).errors = r.errors := by
            simp only [createIo, xTaskCreate, skipped]
            rfl
          have isSome : (createIo cfg env (some new) r).ioTaskHandle ≠ none := Option.some_ne_none _
          rw [if_neg isSome]
          exact before.trans (.none created)
    · exact .none rfl
  simp only [vTraceEnable, off, Bool.false_eq_true, if_false]
  refine assert_errors (fun asserts late => .late asserts fun noTask => ?_) (.none rfl)
    fun _ => included
  rw [State.prvTraceGetCurrentTaskHandle, noTask] at late
  exact Bool.false_ne_true late.symm

/-! The recording functions. -/

/-- A failed lookup of the traced task, where one is traced. -/
theorem unregistered_of_none {task : Option TaskHandle} (traced : r.currentTcb.isSome = true)
    (current : r.currentTcb = task) (slots : r.registry.slots = s.registry.slots)
    (found : (r.getTcbProbe r.currentTcb).isSome = false) : Unregistered s task := by
  rw [current] at traced found
  refine ⟨fun none => ?_, absent_of_none (Option.isNone_iff_eq_none.mp ?_) slots⟩
  · rw [none] at traced
    exact Bool.false_ne_true traced
  · exact Option.isSome_eq_false_iff.mp found

theorem logEvent_causes (cfg : Config) (env : External) (noSlot failed : String)
    (id' : BitVec 32) (payload : Option (BitVec 32)) {task : Option TaskHandle}
    (current : r.currentTcb = task) (slots : r.registry.slots = s.registry.slots) :
    AddsErrors (LogCause cfg env noSlot failed task s) r
      (logEvent cfg env noSlot failed id' payload r) := by
  simp only [logEvent]
  split
  · rename_i tests
    have traced := (Bool.and_eq_true_iff.mp tests).2
    refine assert_errors (fun asserts no => .slot asserts ?_) (.none rfl) fun _ => ?_
    · exact unregistered_of_none traced current slots no
    · split
      · exact assert_errors (fun asserts no => .record asserts no) (.none rfl) fun _ => .none rfl
      · exact .none rfl
  · exact .none rfl

theorem prvTraceProduceSnapshot_causes (cfg : Config) (env : External) {prev : Option TaskHandle}
    (current : r.currentTcb = prev) (slots : r.registry.slots = s.registry.slots) :
    AddsErrors (SwitchedOutCause cfg env prev s) r (prvTraceProduceSnapshot cfg env r) := by
  simp only [prvTraceProduceSnapshot]
  split
  · rename_i tests
    have traced := (Bool.and_eq_true_iff.mp tests).2
    refine assert_errors (fun asserts no => .slot asserts ?_) (.none rfl) fun _ => ?_
    · exact unregistered_of_none traced current slots no
    · split
      · rename_i i _
        have produced : AddsErrors (SwitchedOutCause cfg env prev s) r
            (r.enterCriticalSection.modalityProbeProduceSnapshot env
              (r.enterCriticalSection.tcbProbe i).probe i) :=
          .none (modalityProbeProduceSnapshot_errors ..)
        refine assert_errors (fun asserts no => .snapshot asserts ?_) produced fun _ => produced
        exact Option.isNone_iff_eq_none.mp (Option.isSome_eq_false_iff.mp no)
      · exact .none rfl
  · exact .none rfl

theorem prvTraceMergeSnapshot_causes (cfg : Config) (env : External) {prev : Option TaskHandle}
    {next : TaskHandle} (current : r.currentTcb = some next) (before : r.prevTcb = prev)
    (slots : r.registry.slots = s.registry.slots) :
    AddsErrors (SwitchedInCause cfg env prev next s) r (prvTraceMergeSnapshot cfg env r) := by
  simp only [prvTraceMergeSnapshot]
  split
  · rename_i tests
    have traced := (Bool.and_eq_true_iff.mp tests).2
    refine assert_errors (fun asserts no => .slot asserts ?_) (.none rfl) fun _ => ?_
    · exact unregistered_of_none (Bool.and_eq_true_iff.mp (Bool.and_eq_true_iff.mp tests).1).2
        current slots no
    · refine assert_errors (fun asserts no => .previous asserts ?_) (.none rfl) fun _ => ?_
      · have absent : r.getTcbProbe r.prevTcb = none :=
          Option.isNone_iff_eq_none.mp (Option.isSome_eq_false_iff.mp no)
        rw [before] at absent
        refine ⟨fun none => ?_, absent_of_none absent slots⟩
        have isSome : r.prevTcb.isSome = true := traced
        rw [before, none] at isSome
        exact Bool.false_ne_true isSome
      · split
        · exact assert_errors (fun asserts no => .merge asserts no) (.none rfl) fun _ => .none rfl
        · exact .none rfl
  · exact .none rfl

theorem traceTaskSwitchedOut_causes (cfg : Config) (env : External) (s : State) :
    AddsErrors (SwitchedOutCause cfg env s.currentTcb s) s (traceTaskSwitchedOut cfg env s) := by
  simp only [traceTaskSwitchedOut]
  split
  · have same : SameScheduler s (prvTraceLogEvent cfg env TraceEvent.taskSwitchedOut s) :=
      scheduler_recordEffect.logEvent ..
    have logged : AddsErrors (LogEventCause cfg env s.currentTcb s) s
        (prvTraceLogEvent cfg env TraceEvent.taskSwitchedOut s) :=
      logEvent_causes cfg env _ _ _ none rfl rfl
    exact (logged.mono fun _ => .event).trans (prvTraceProduceSnapshot_causes cfg env
      (congrArg SchedulerView.currentTcb same.view) (congrArg Registry.slots same.registry))
  · exact .none rfl

/-- `s` is the state before the switch; in between the current task was chosen. -/
theorem traceTaskSwitchedIn_causes (cfg : Config) (env : External) (uxPriority : BitVec 32)
    {next : TaskHandle} (current : r.pxCurrentTcb = some next)
    (slots : r.registry.slots = s.registry.slots) :
    AddsErrors (SwitchedInCause cfg env r.currentTcb next s) r
      (traceTaskSwitchedIn cfg env uxPriority r) := by
  have payload : ∀ u : State, u.currentTcb = some next → u.registry.slots = s.registry.slots →
      AddsErrors (SwitchedInCause cfg env r.currentTcb next s) u
        (prvTraceLogEventWithPayload cfg env TraceEvent.taskSwitchedIn uxPriority u) := by
    intro u isNext slots
    have logged : AddsErrors (LogPayloadCause cfg env (some next) s) u
        (prvTraceLogEventWithPayload cfg env TraceEvent.taskSwitchedIn uxPriority u) :=
      logEvent_causes cfg env _ _ _ (some uxPriority) isNext slots
    exact logged.mono fun _ => .event
  have isNext := prvTraceSwitchedTcb_currentTcb (some next) r
  have registry : (prvTraceSwitchedTcb (some next) r).2.registry = r.registry :=
    registry_hookEffect.switched (some next) r
  have switched : (prvTraceSwitchedTcb (some next) r).2.errors = r.errors ∧
      ((prvTraceSwitchedTcb (some next) r).1 ≠ 0 →
        (prvTraceSwitchedTcb (some next) r).2.prevTcb = r.currentTcb) := by
    simp only [prvTraceSwitchedTcb]
    split
    · exact ⟨rfl, fun _ => rfl⟩
    · exact ⟨rfl, fun no => absurd rfl no⟩
  simp only [traceTaskSwitchedIn, current]
  split
  · generalize (prvTraceSwitchedTcb (some next) r).1 = didSwitch at switched ⊢
    generalize (prvTraceSwitchedTcb (some next) r).2 = u at isNext registry switched ⊢
    have start : AddsErrors (SwitchedInCause cfg env r.currentTcb next s) r u := .none switched.1
    have slots' := (congrArg Registry.slots registry).trans slots
    by_cases did : didSwitch ≠ 0
    · have same : SameScheduler u (prvTraceMergeSnapshot cfg env u) :=
        scheduler_recordEffect.prvTraceMergeSnapshot ..
      have merged := prvTraceMergeSnapshot_causes cfg env isNext (switched.2 did) slots'
      rw [if_pos did]
      exact (start.trans merged).trans (payload _
        ((congrArg SchedulerView.currentTcb same.view).trans isNext)
        ((congrArg Registry.slots same.registry).trans slots'))
    · rw [if_neg did]
      exact start.trans (payload u isNext slots')
  · exact .none rfl

theorem hook_causes (cfg : Config) (env : External) (h : Hook) (s : State) :
    AddsErrors (HookCause cfg env h s) s (h.run cfg env s) := by
  rw [Hook.run_eq]
  split
  · cases isRecord : hookRecord s.taskId h with
    | none => exact .none rfl
    | some r =>
        obtain ⟨id', payload⟩ := r
        cases payload with
        | none =>
            have logged : AddsErrors (LogEventCause cfg env s.currentTcb s) s
                (prvTraceLogEvent cfg env id' s) := logEvent_causes cfg env _ _ _ none rfl rfl
            exact logged.mono fun _ => .event isRecord
        | some value =>
            have logged : AddsErrors (LogPayloadCause cfg env s.currentTcb s) s
                (prvTraceLogEventWithPayload cfg env id' value s) :=
              logEvent_causes cfg env _ _ _ (some value) rfl rfl
            exact logged.mono fun _ => .payload isRecord
  · exact .none rfl

/-! While tracing is off. -/

theorem switchedIn_off (cfg : Config) (env : External) (uxPriority : BitVec 32)
    (off : s.isEnabled = false) : (traceTaskSwitchedIn cfg env uxPriority s).errors = s.errors := by
  cases traceTaskSwitchedIn_disabled cfg env uxPriority off with
  | inl noted =>
      rw [noted, prvTraceSwitchedTcb]
      split
      · rfl
      · rfl
  | inr nothing => rw [nothing]

theorem hook_off (cfg : Config) (env : External) (h : Hook) (off : s.isEnabled = false) :
    (h.run cfg env s).errors = s.errors :=
  h.run_induction (P := fun t => t.errors = s.errors) cfg env rfl fun noSlot failed id' payload =>
    congrArg State.errors (logEvent_disabled cfg env noSlot failed id' payload off)

/-! The control plane. -/

theorem iter_causes (cfg : Config) (call : Probe → Call) (failed writeFailed : String)
    (w : IoWrite) (probe : Probe) (r : State) :
    AddsErrors (IterCause cfg failed writeFailed w) r
      (ioTaskProbeIter cfg call failed writeFailed w probe r) := by
  simp only [ioTaskProbeIter]
  refine assert_errors (fun asserts no => .generate asserts no) (.none rfl) fun _ => ?_
  split
  · rename_i fails
    exact errors_error _ (.write fails.1 fails.2)
  · exact .none rfl

/-- An iteration over the probes of the slots records what its function does for them. -/
theorem iterator_causes (cfg : Config) {f : Probe → State → State} {call : Probe → Call}
    {Q : Probe → String → Prop} (each : ∀ probe u, AddsErrors (Q probe) u (f probe u))
    (one : ∀ probe u, Reported [call probe] u (f probe u)) (r : State) :
    AddsErrors (fun msg => ∃ probe ∈ registeredProbes cfg r, Q probe msg) r
      (vTraceProbeIterator cfg f r) := by
  unfold vTraceProbeIterator registeredProbes
  induction List.range cfg.maxProbes generalizing r with
  | nil => exact .none rfl
  | cons i is ih =>
      rw [List.foldl_cons, List.filterMap_cons]
      cases own : (r.tcbProbe i).probe with
      | none => exact ih r
      | some probe =>
          have here := (each probe r).mono (Q := fun msg => ∃ p ∈ probe :: is.filterMap
            fun j => (r.tcbProbe j).probe, Q p msg) fun msg caused =>
              ⟨probe, List.mem_cons_self, caused⟩
          have later := ih (f probe r)
          simp only [State.tcbProbe, (one probe r).tcbProbes] at later
          refine here.trans (later.mono fun msg caused => ?_)
          obtain ⟨p, mem, isCause⟩ := caused
          exact ⟨p, List.mem_cons_of_mem _ mem, isCause⟩

theorem ioReport_causes (cfg : Config) (reports announcements : Probe → IoWrite) (s : State) :
    AddsErrors (Cause cfg s (.ioReport reports announcements)) s
      (ioReport cfg reports announcements s) := by
  have sent := sendReports_reported cfg reports s
  have reported : AddsErrors (Cause cfg s (.ioReport reports announcements)) s
      (sendReports cfg reports s) := by
    refine (iterator_causes cfg (Q := fun probe => IterCause cfg
      "Failed to generate Modality probe report" "TRACE_IO_WRITE returned an error (1)"
      (reports probe)) (fun probe u => iter_causes cfg .report _ _ (reports probe) probe u)
      (fun probe u => ioTaskProbeIter_reported ..) s).mono fun msg caused => ?_
    obtain ⟨probe, mem, cause⟩ := caused
    exact .report mem cause
  have announced : AddsErrors (Cause cfg s (.ioReport reports announcements))
      (sendReports cfg reports s) (sendAnnouncements cfg announcements (sendReports cfg reports s)) := by
    simp only [sendAnnouncements]
    split
    · rename_i due
      rw [announcementDue_sendReports] at due
      refine (iterator_causes cfg (Q := fun probe => IterCause cfg
        "Failed to generate Modality mutator announcement" "TRACE_IO_WRITE returned an error (2)"
        (announcements probe))
        (fun probe u => iter_causes cfg .announceMutators _ _ (announcements probe) probe u)
        (fun probe u => ioTaskProbeIter_reported ..) { sendReports cfg reports s with iters := 0 }).mono
        fun msg caused => ?_
      obtain ⟨probe, mem, cause⟩ := caused
      refine .announce due ?_ cause
      simp only [registeredProbes, State.tcbProbe, sent.tcbProbes] at mem
      exact mem
    · exact .none rfl
  simp only [ioReport]
  split
  · exact (reported.trans announced).trans (.none rfl)
  · exact .none rfl
  · exact .none rfl

theorem process_causes (cfg : Config) (env : External) (s : State) :
    AddsErrors (Cause cfg s (.process env)) s (vTraceProcessControlPlaneMessages cfg env s) := by
  have received : (receiveMessage cfg (currentTcbProbe s) s).2.errors = s.errors := by
    simp only [receiveMessage]
    split
    · rfl
    · rfl
  rw [process_unfold]
  generalize (receiveMessage cfg (currentTcbProbe s) s).2 = u at received ⊢
  have start : AddsErrors (Cause cfg s (.process env)) s u := .none received
  simp only [handOver]
  split
  · rename_i m isMessage
    split
    · exact assert_errors (fun asserts no => .process isMessage ‹_› asserts no) start fun _ => start
    · exact start
  · exact start

theorem ioRead_causes (cfg : Config) (r : IoRead) {s : State} (point : s.ioPoint = .read) :
    AddsErrors (Cause cfg s (.ioRead r)) s (ioRead cfg r s) := by
  have noted : AddsErrors (Cause cfg s (.ioRead r)) s (if r.status ≠ 0 then
      State.prvTraceError "TRACE_IO_READ returned an error" { s with ioBuffer := r.data }
      else { s with ioBuffer := r.data }) := by
    split
    · exact (Additions.Adds.none rfl).trans
        (errors_error { s with ioBuffer := r.data } (.read point ‹_›))
    · exact .none rfl
  simp only [ioRead]
  generalize (if r.status ≠ 0 then _ else _ : State) = u at noted ⊢
  split
  · split
    · split
      · exact noted
      · exact noted
    · exact noted
  · exact noted

theorem ioSend_errors (cfg : Config) (s : State) : (ioSend cfg s).errors = s.errors := by
  have sent : ∀ target numBytes i, (sendToSlot cfg target numBytes i s).errors = s.errors := by
    intro target numBytes i
    simp only [sendToSlot]
    split
    · split
      · rfl
      · rfl
    · rfl
  simp only [ioSend]
  split
  · exact sent _ _ _
  · rfl
  · rfl

/-! Actions and their sequences. -/

theorem create_causes (cfg : Config) (env : External) (new : NewTask) (name : CString)
    (uxPriority : BitVec 32) (s : State) :
    AddsErrors (Cause cfg s (.create env new name uxPriority)) s
      (step cfg s (.create env new name uxPriority)) := by
  cases on : s.isEnabled with
  | false =>
      have off : (s.addTask cfg new name).isEnabled = false := on
      exact .none ((congrArg State.errors
        (prvTraceRegisterTaskProbe_disabled cfg env new.handle uxPriority off)).trans rfl)
  | true =>
      have causes := register_causes cfg env new.handle uxPriority (s.addTask cfg new name)
      have isName : (s.addTask cfg new name).pcTaskGetName new.handle =
          name.take (cfg.maxTaskNameLen - 1) := by
        show (Function.update s.tcbs new.handle _ new.handle).pcTaskName = _
        rw [Function.update_self]
      rw [isName] at causes
      refine Additions.Adds.mono (s := s) causes fun msg cause => .create on ?_
      -- The new task changes neither the slots nor the storage.
      cases cause with
      | name named => exact .name named
      | probe included caused =>
          refine .probe included ?_
          cases caused with
          | storage unavailable => exact .storage unavailable
          | probe asserts fails => exact .probe asserts fails
          | slots used => exact .slots used
          | snapshot asserts fails => exact .snapshot asserts fails
          | messageBuffer isCompiled fails => exact .messageBuffer isCompiled fails
          | taskBuffer isCompiled fails => exact .taskBuffer isCompiled fails
          | record asserts fails => exact .record asserts fails

theorem start_causes (cfg : Config) (env : External) (next : TaskHandle)
    (uxPriority : BitVec 32) (s : State) :
    AddsErrors (Cause cfg s (.start env next uxPriority)) s
      (step cfg s (.start env next uxPriority)) := by
  cases on : s.isEnabled with
  | false =>
      exact .none (switchedIn_off cfg env uxPriority (s := { s.select next with started := true }) on)
  | true =>
      have causes : AddsErrors (SwitchedInCause cfg env s.currentTcb next s) s
          (step cfg s (.start env next uxPriority)) :=
        traceTaskSwitchedIn_causes (r := { s.select next with started := true }) cfg env uxPriority
          rfl rfl
      exact causes.mono fun _ => .start on

theorem switch_causes (cfg : Config) (out in' : External) (next : TaskHandle)
    (uxPriority : BitVec 32) (s : State) :
    AddsErrors (Cause cfg s (.switch out in' next uxPriority)) s
      (step cfg s (.switch out in' next uxPriority)) := by
  cases on : s.isEnabled with
  | false =>
      have switchesIn : step cfg s (.switch out in' next uxPriority) =
          traceTaskSwitchedIn cfg in' uxPriority (s.select next) := by
        rw [step, contextSwitch, traceTaskSwitchedOut_disabled cfg out on]
      exact .none ((congrArg State.errors switchesIn).trans
        (switchedIn_off cfg in' uxPriority (s := s.select next) on))
  | true =>
      have same : SameScheduler s (traceTaskSwitchedOut cfg out s) :=
        scheduler_recordEffect.traceTaskSwitchedOut ..
      have first := (traceTaskSwitchedOut_causes cfg out s).mono
        (Q := Cause cfg s (.switch out in' next uxPriority)) fun _ => .switchedOut on
      have second : AddsErrors (SwitchedInCause cfg in' (traceTaskSwitchedOut cfg out s).currentTcb
          next s) (traceTaskSwitchedOut cfg out s) (step cfg s (.switch out in' next uxPriority)) :=
        traceTaskSwitchedIn_causes (r := (traceTaskSwitchedOut cfg out s).select next) cfg in'
          uxPriority rfl (congrArg Registry.slots same.registry)
      have current : (traceTaskSwitchedOut cfg out s).currentTcb = s.currentTcb :=
        congrArg SchedulerView.currentTcb same.view
      rw [current] at second
      exact first.trans (second.mono fun _ => .switchedIn on)

theorem step_causes (cfg : Config) (s : State) (op : Op) :
    AddsErrors (Cause cfg s op) s (step cfg s op) := by
  cases op with
  | enable env io =>
      cases on : s.isEnabled with
      | true =>
          have nothing : vTraceEnable cfg env io s = s := by rw [vTraceEnable, if_pos on]
          exact .none (congrArg State.errors nothing)
      | false => exact (enable_causes cfg env io on).mono fun _ => .enable on
  | exclude pcName => exact (exclude_causes cfg pcName s).mono fun _ => .exclude
  | disable | delete _ | setFilter _ _ | getBuffer => exact .none rfl
  | create env new name uxPriority => exact create_causes cfg env new name uxPriority s
  | start env next uxPriority => exact start_causes cfg env next uxPriority s
  | switch out in' next uxPriority => exact switch_causes cfg out in' next uxPriority s
  | hook env h =>
      cases on : s.isEnabled with
      | false => exact .none (hook_off cfg env h on)
      | true => exact (hook_causes cfg env h s).mono fun _ => .hook on
  | ioRead r =>
      unfold step
      dsimp only
      split
      · exact ioRead_causes cfg r ‹_›
      · exact .none rfl
      · exact .none rfl
  | ioSend => exact .none (ioSend_errors cfg s)
  | ioReport reports announcements => exact ioReport_causes cfg reports announcements s
  | process env => exact process_causes cfg env s

/-- Every error text is recorded by an action that has its cause. -/
theorem errors_caused (cfg : Config) (ops : List Op) : ErrorsCaused cfg ops where
  caused before op after _ := by
    rw [List.foldl_append]
    exact step_causes cfg _ op
  first := by
    have kept : ∀ s : State, s.errorMsg = s.errors.head? →
        (ops.foldl (step cfg) s).errorMsg = (ops.foldl (step cfg) s).errors.head? := by
      induction ops with
      | nil => exact fun _ first => first
      | cons op ops ih =>
          intro s first
          obtain ⟨new, added, msg⟩ := step_appends cfg s op
          refine ih (step cfg s op) ?_
          rw [msg, added, List.head?_append, first]
    exact kept (State.init cfg) rfl

end

end ProbeTrace
