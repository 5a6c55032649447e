import ProbeTrace.Foundation.CallDiscipline
import ProbeTrace.Metatheory.SlotLifetime
import ProbeTrace.Metatheory.StepCalls

/-!
How the tracing functions use the probe library, over whole runs. Every probe is initialized once, in
storage that was never used before; the first event recorded in it is TASK_CREATE, which is
recorded in it once; and only then is it merged into, reported, announced or handed messages.
No call is made with a NULL probe.
-/
namespace ProbeTrace
open CallDiscipline

def InitializedIn (calls : List Call) (probe : Probe) : Prop :=
  ∃ size probeId, .initializeProbe probe size probeId ∈ calls

def CreatedIn (calls : List Call) (probe : Probe) : Prop :=
  ∃ payload, .recordEvent (some probe) TraceEvent.taskCreate payload ∈ calls

/-- What a call needs of the calls before it. -/
def Call.Ready (before : List Call) : Call → Prop
  | .initializeProbe storage _ _ => ∀ c ∈ before, c.probe ≠ some storage
  | .produceSnapshot probe _ _ => ∃ p, probe = some p ∧ InitializedIn before p
  | .recordEvent probe id _ => ∃ p, probe = some p ∧ InitializedIn before p ∧
      (CreatedIn before p ↔ id ≠ TraceEvent.taskCreate)
  | .mergeSnapshot probe _ _ | .processControlMessage probe _ =>
      ∃ p, probe = some p ∧ CreatedIn before p
  | .report probe | .announceMutators probe => CreatedIn before probe

/-- A call that is made for a probe after its creation. -/
def Call.isLater : Call → Bool
  | .initializeProbe _ _ _ => false
  | .recordEvent _ id _ => id != TraceEvent.taskCreate
  | .produceSnapshot _ _ _ | .mergeSnapshot _ _ _ | .processControlMessage _ _ | .report _
  | .announceMutators _ => true

/-- The probe was initialized and its creation recorded. -/
structure Known (calls : List Call) (probe : Probe) : Prop where
  isInitialized : InitializedIn calls probe
  isCreated : CreatedIn calls probe

/-- A later call for a known probe. -/
def ServedIn (calls : List Call) (c : Call) : Prop :=
  c.isLater = true ∧ ∃ probe, c.probe = some probe ∧ Known calls probe

/-- The calls of a run. -/
structure ProbeProtocol (s : State) : Prop where
  disciplined : Disciplined Call.Ready s.calls
  initialized : ∀ probe, CreatedIn s.calls probe → (s.probeIds probe).isSome = true

/-- The protocol as an invariant. -/
structure ProtocolSound (cfg : Config) (s : State) : Prop where
  table : Slots cfg s.registry
  log : Disciplined Call.Ready s.calls
  allocated : ∀ c ∈ s.calls, ∀ probe, c.probe = some probe → Allocated cfg s.registry probe
  slots : ∀ (i : Nat) (e : TcbProbe) (probe : Probe), s.registry.slots[i]? = some e →
    e.probe = some probe → Known s.calls probe
  ids : ∀ probe, CreatedIn s.calls probe → (s.probeIds probe).isSome = true

section
variable {cfg : Config} {s r t : State} {op : Op} {calls new : List Call} {probe : Probe}
  {task : Option TaskHandle}

theorem Known.append (h : Known calls probe) (new : List Call) : Known (calls ++ new) probe := by
  obtain ⟨⟨size, probeId, isInit⟩, payload, isCreate⟩ := h
  exact ⟨⟨size, probeId, List.mem_append_left _ isInit⟩, payload, List.mem_append_left _ isCreate⟩

theorem ServedIn.ready {c : Call} (h : ServedIn calls c) : c.Ready calls := by
  obtain ⟨later, probe, isProbe, known⟩ := h
  cases c with
  | initializeProbe _ _ _ => exact absurd later Bool.false_ne_true
  | produceSnapshot _ _ _ => exact ⟨probe, isProbe, known.isInitialized⟩
  | recordEvent _ _ _ =>
      exact ⟨probe, isProbe, known.isInitialized, iff_of_true known.isCreated (bne_iff_ne.mp later)⟩
  | mergeSnapshot _ _ _ | processControlMessage _ _ => exact ⟨probe, isProbe, known.isCreated⟩
  | report _ | announceMutators _ => exact Option.some.inj isProbe ▸ known.isCreated

theorem ServedIn.append {c : Call} (h : ServedIn calls c) (new : List Call) :
    ServedIn (calls ++ new) c := by
  obtain ⟨later, probe, isProbe, known⟩ := h
  exact ⟨later, probe, isProbe, known.append new⟩

/-- Later calls create no probe. -/
theorem createdIn_append (later : ∀ c ∈ new, c.isLater = true) :
    CreatedIn (calls ++ new) probe ↔ CreatedIn calls probe := by
  constructor
  · intro created
    obtain ⟨payload, mem⟩ := created
    cases List.mem_append.mp mem with
    | inl old => exact ⟨payload, old⟩
    | inr isNew =>
        have kind : TraceEvent.taskCreate != TraceEvent.taskCreate := later _ isNew
        exact absurd kind (by decide)
  · intro created
    obtain ⟨payload, mem⟩ := created
    exact ⟨payload, List.mem_append_left _ mem⟩

/-- What the actions other than a registration leave alone of the registry. -/
structure SameProbes (r r' : Registry) : Prop where
  slots : r'.slots = r.slots
  probeIds : r'.probeIds = r.probeIds
  nextStorageIndex : r'.nextStorageIndex = r.nextStorageIndex
  nextBlock : r'.nextBlock = r.nextBlock

theorem sameProbes_of_eq {r r' : Registry} (same : r' = r) : SameProbes r r' :=
  same ▸ ⟨rfl, rfl, rfl, rfl⟩

/-- An action whose calls are all served. -/
theorem ProtocolSound.serve (h : ProtocolSound cfg s) (table : Slots cfg t.registry)
    (same : SameProbes s.registry t.registry)
    (served : Additions.Adds State.calls (ServedIn s.calls) s t) : ProtocolSound cfg t := by
  obtain ⟨new, calls, all⟩ := served
  have later : ∀ c ∈ new, c.isLater = true := fun c mem => (all c mem).1
  have kept : ∀ probe, Allocated cfg s.registry probe → Allocated cfg t.registry probe :=
    fun probe allocated => allocated.mono (Nat.le_of_eq same.nextStorageIndex.symm)
      (Nat.le_of_eq same.nextBlock.symm)
  refine ⟨table, ?_, fun c mem probe isProbe => ?_, fun i e probe slot own => ?_,
    fun probe created => ?_⟩
  · rw [calls]
    exact h.log.append (P := ServedIn) (fun _ _ => ServedIn.ready)
      (fun _ _ c' served => served.append [c']) all
  · rw [calls] at mem
    cases List.mem_append.mp mem with
    | inl old => exact kept probe (h.allocated c old probe isProbe)
    | inr isNew =>
        obtain ⟨-, probe', isProbe', known⟩ := all c isNew
        obtain rfl : probe' = probe := Option.some.inj (isProbe'.symm.trans isProbe)
        obtain ⟨payload, mem⟩ := known.isCreated
        exact kept probe' (h.allocated _ mem probe' rfl)
  · rw [same.slots] at slot
    rw [calls]
    exact (h.slots i e probe slot own).append new
  · rw [calls, createdIn_append later] at created
    have kept : t.probeIds = s.probeIds := same.probeIds
    rw [kept]
    exact h.ids probe created

/-- The probe of a slot that a task's lookup finds. -/
theorem ProtocolSound.found (h : ProtocolSound cfg s) {own : TaskHandle} {i : Nat}
    (found : s.getTcbProbe (some own) = some i) :
    ∃ probe, (s.tcbProbe i).probe = some probe ∧ Known s.calls probe := by
  rw [getTcbProbe_eq] at found
  obtain ⟨⟨e, slot, tcb⟩, -⟩ := SlotTable.find_eq_some_iff.mp found
  obtain ⟨probe, isProbe, -⟩ := h.table.probe i e own slot tcb
  exact ⟨probe, (tcbProbe_fields slot).2.1.trans isProbe, h.slots i e probe slot isProbe⟩

/-! Hooks. -/

theorem logEvent_later (cfg : Config) (env : External) (noSlot failed : String)
    {id' : BitVec 32} (other : id' ≠ TraceEvent.taskCreate) (payload : Option (BitVec 32))
    (s : State) : AddsCalls Call.isLater s (logEvent cfg env noSlot failed id' payload s) := by
  refine ⟨_, logEvent_calls .., fun c mem => ?_⟩
  rw [Option.mem_toList, Option.map_eq_some_iff] at mem
  obtain ⟨i, -, isCall⟩ := mem
  rw [← isCall]
  exact bne_iff_ne.mpr other

theorem produce_later (cfg : Config) (env : External) (s : State) :
    AddsCalls Call.isLater s (prvTraceProduceSnapshot cfg env s) := by
  refine ⟨_, prvTraceProduceSnapshot_calls .., fun c mem => ?_⟩
  rw [Option.mem_toList, Option.map_eq_some_iff] at mem
  obtain ⟨i, -, isCall⟩ := mem
  rw [← isCall]
  rfl

theorem merge_later (cfg : Config) (env : External) (s : State) :
    AddsCalls Call.isLater s (prvTraceMergeSnapshot cfg env s) := by
  cases prvTraceMergeSnapshot_calls cfg env s with
  | inl same => exact .none same
  | inr merged =>
      obtain ⟨i, j, -, calls⟩ := merged
      exact .one calls rfl

theorem switchedOut_later (cfg : Config) (env : External) (s : State) :
    AddsCalls Call.isLater s (traceTaskSwitchedOut cfg env s) := by
  simp only [traceTaskSwitchedOut]
  split
  · have logged : AddsCalls Call.isLater s
        (prvTraceLogEvent cfg env TraceEvent.taskSwitchedOut s) :=
      logEvent_later cfg env _ _ (by decide) none s
    exact logged.trans (produce_later ..)
  · exact .none rfl

theorem switchedIn_later (cfg : Config) (env : External) (uxPriority : BitVec 32) (s : State) :
    AddsCalls Call.isLater s (traceTaskSwitchedIn cfg env uxPriority s) := by
  have logged : ∀ u, AddsCalls Call.isLater u
      (prvTraceLogEventWithPayload cfg env TraceEvent.taskSwitchedIn uxPriority u) :=
    fun u => logEvent_later cfg env _ _ (by decide) (some uxPriority) u
  have switched : AddsCalls Call.isLater s (prvTraceSwitchedTcb s.pxCurrentTcb s).2 := by
    simp only [prvTraceSwitchedTcb]
    split
    · exact .none rfl
    · exact .none rfl
  simp only [traceTaskSwitchedIn]
  split
  · refine switched.trans ?_
    split
    · exact (merge_later ..).trans (logged _)
    · exact logged _
  · exact .none rfl

/-- No hook of a task or a queue records TASK_CREATE. -/
theorem hookRecord_id (taskId : TaskHandle → BitVec 16) (h : Hook) {r : EventRecord}
    (isRecord : hookRecord taskId h = some r) : r.1 ≠ TraceEvent.taskCreate := by
  have queue : ∀ {base semaphore : BitVec 32} {mutex : Option (BitVec 32)} {q : Queue},
      base ≠ TraceEvent.taskCreate → semaphore ≠ TraceEvent.taskCreate →
      mutex ≠ some TraceEvent.taskCreate → queueRecord base semaphore mutex q = some r →
      r.1 ≠ TraceEvent.taskCreate := by
    intro base semaphore mutex q isBase isSemaphore isMutex isRecord
    simp only [queueRecord] at isRecord
    cases kind : q.ucQueueType with
    | base =>
        rw [kind] at isRecord
        rw [← Option.some.inj isRecord]
        exact isBase
    | binarySemaphore | countingSemaphore =>
        rw [kind] at isRecord
        rw [← Option.some.inj isRecord]
        exact isSemaphore
    | mutex | recursiveMutex =>
        rw [kind] at isRecord
        obtain ⟨id, mem, isRecord⟩ := Option.map_eq_some_iff.mp isRecord
        rw [← isRecord]
        exact fun same => isMutex (same ▸ mem)
    | other _ =>
        rw [kind] at isRecord
        exact absurd isRecord.symm (Option.some_ne_none r)
  cases h with
  | taskSuspend _ | taskDelay _ | taskDelayUntil _ =>
      rw [← Option.some.inj isRecord]
      exact of_decide_eq_true rfl
  | queueSend toBack _ | queueSendFailed toBack _ | blockingOnQueueSend toBack _
  | queueSendFromIsr toBack _ | queueSendFromIsrFailed toBack _ =>
      cases toBack with
      | false | true =>
          refine queue ?_ ?_ ?_ isRecord
          · decide
          · decide
          · decide
  | queueReceive _ | queueReceiveFailed _ | blockingOnQueueReceive _ | queueReceiveFromIsr _
  | queueReceiveFromIsrFailed _ =>
      refine queue ?_ ?_ ?_ isRecord
      · decide
      · decide
      · decide

theorem hook_later (cfg : Config) (env : External) (h : Hook) (s : State) :
    AddsCalls Call.isLater s (h.run cfg env s) := by
  rw [Hook.run_eq]
  split
  · cases isRecord : hookRecord s.taskId h with
    | none => exact .none rfl
    | some r =>
        have other := hookRecord_id s.taskId h isRecord
        obtain ⟨id', payload⟩ := r
        cases payload with
        | none => exact logEvent_later cfg env _ _ other none s
        | some payload => exact logEvent_later cfg env _ _ other (some payload) s
  · exact .none rfl

theorem hook_only (cfg : Config) (env : External) (h : Hook) (s : State) :
    CallsOnlyFor s.currentTcb s (h.run cfg env s) :=
  Hook.run_induction (P := CallsOnlyFor s.currentTcb s) cfg env h (.none rfl)
    fun noSlot failed id payload => logEvent_onlyFor cfg env noSlot failed id payload s

/-- The calls a hook makes for a task are served. -/
theorem ProtocolSound.hook (h : ProtocolSound cfg s) (only : CallsOnlyFor task s t)
    (later : AddsCalls Call.isLater s t) : Additions.Adds State.calls (ServedIn s.calls) s t := by
  obtain ⟨new, calls, owned⟩ := only
  obtain ⟨new', calls', kind⟩ := later
  obtain rfl : new' = new := List.append_cancel_left (calls'.symm.trans calls)
  refine ⟨new', calls, fun c mem => ⟨kind c mem, ?_⟩⟩
  obtain ⟨own, -, i, found, isProbe, -⟩ := owned c mem
  obtain ⟨probe, own', known⟩ := h.found found
  exact ⟨probe, isProbe.trans own', known⟩

/-! The other actions. -/

theorem ProtocolSound.process (h : ProtocolSound cfg s) (env : External) :
    Additions.Adds State.calls (ServedIn s.calls) s
      (vTraceProcessControlPlaneMessages cfg env s) := by
  have kept : (receiveMessage cfg (currentTcbProbe s) s).2.calls = s.calls := by
    simp only [receiveMessage]
    split
    · rfl
    · rfl
  rw [process_unfold]
  cases received : (receiveMessage cfg (currentTcbProbe s) s).1 with
  | none => exact .none kept
  | some msg =>
      have buffers : ∃ b, (currentTcbProbe s).controlMsgBuffer = some b := by
        simp only [receiveMessage] at received
        split at received
        · exact ⟨_, ‹_›⟩
        · exact absurd received.symm (Option.some_ne_none msg)
      obtain ⟨b, buffer⟩ := buffers
      have looked : ∃ i, s.getTcbProbe s.pxCurrentTcb = some i ∧
          (s.tcbProbe i).controlMsgBuffer = some b := by
        cases found : s.getTcbProbe s.pxCurrentTcb with
        | none =>
            have absent : currentTcbProbe s = {} := by
              rw [currentTcbProbe, State.prvTraceGetCurrentTaskHandle, found]
            rw [absent] at buffer
            exact absurd buffer.symm (Option.some_ne_none b)
        | some i => exact ⟨i, rfl, currentTcbProbe_eq found ▸ buffer⟩
      obtain ⟨i, found, buffer⟩ := looked
      -- a free slot, which NULL would match, has no buffer
      have current : ∃ own, s.pxCurrentTcb = some own := by
        rw [getTcbProbe_eq] at found
        obtain ⟨⟨e, slot, tcb⟩, -⟩ := SlotTable.find_eq_some_iff.mp found
        obtain ⟨own, isOwn⟩ := h.table.used (f := TcbProbe.controlMsgBuffer) slot rfl
          ((tcbProbe_fields slot).2.2.1.symm.trans buffer)
        exact ⟨own, tcb.symm.trans isOwn⟩
      obtain ⟨own, isOwn⟩ := current
      rw [isOwn] at found
      obtain ⟨probe, isProbe, known⟩ := h.found found
      refine ⟨_, ((handOver_eq ..).1).trans (congrArg (· ++ _) kept), fun c mem => ?_⟩
      rw [currentTcbProbe_eq (isOwn ▸ found), isProbe] at mem
      split at mem
      · rw [List.mem_singleton.mp mem]
        exact ⟨rfl, probe, rfl, known⟩
      · exact absurd mem List.not_mem_nil

theorem ProtocolSound.registered (h : ProtocolSound cfg s) {probe : Probe}
    (mem : probe ∈ registeredProbes cfg s) : Known s.calls probe := by
  obtain ⟨i, index, own⟩ := List.mem_filterMap.mp mem
  have slot := slot_of_lt h.table (List.mem_range.mp index)
  exact h.slots i _ probe slot own

theorem ProtocolSound.report (h : ProtocolSound cfg s) (reports announcements : Probe → IoWrite) :
    Additions.Adds State.calls (ServedIn s.calls) s (ioReport cfg reports announcements s) := by
  cases point : s.ioPoint with
  | read | send _ _ _ =>
      have idle : ioReport cfg reports announcements s = s := by rw [ioReport, point]
      rw [idle]
      exact .none rfl
  | report =>
      have calls := (ioReport_end cfg reports announcements point).1
      rw [List.append_assoc] at calls
      refine ⟨_, calls, fun c mem => ?_⟩
      cases List.mem_append.mp mem with
      | inl isReport =>
          obtain ⟨probe, mem, isCall⟩ := List.mem_map.mp isReport
          rw [← isCall]
          exact ⟨rfl, probe, rfl, h.registered mem⟩
      | inr isAnnouncement =>
          split at isAnnouncement
          · obtain ⟨probe, mem, isCall⟩ := List.mem_map.mp isAnnouncement
            rw [← isCall]
            exact ⟨rfl, probe, rfl, h.registered mem⟩
          · exact absurd isAnnouncement List.not_mem_nil

/-- What is served in a state is served in one with the same calls. -/
theorem ProtocolSound.same (h : ProtocolSound cfg s) (registry : t.registry = s.registry)
    (calls : t.calls = s.calls) : ProtocolSound cfg t :=
  h.serve (registry ▸ h.table) (sameProbes_of_eq registry) (.none calls)

theorem step_sameProbes (cfg : Config) (s : State) {op : Op}
    (other : ∀ env new name uxPriority, op ≠ .create env new name uxPriority) :
    SameProbes s.registry (step cfg s op).registry := by
  cases step_registry cfg s op with
  | same registry => exact sameProbes_of_eq registry
  | excluded _ registry | ioCreated _ _ _ registry | deleted _ _ registry
  | filtered _ _ _ registry =>
      rw [registry]
      exact ⟨rfl, rfl, rfl, rfl⟩
  | created env new name uxPriority isOp | registersIn env new name uxPriority _ isOp
  | registersNowhere env new name uxPriority isOp
  | registersNothing env new name uxPriority isOp => exact (other _ _ _ _ isOp).elim

/-! Registrations. -/

/-- A call that produces the first snapshot of the probe. -/
def ProducesFor (probe : Probe) (c : Call) : Prop :=
  ∃ slot result, c = .produceSnapshot (some probe) slot result

theorem addTcbProbe_produces (cfg : Config) (env : External) (task : TaskHandle) (probe : Probe)
    (s : State) : Additions.Adds State.calls (ProducesFor probe) s
      (addTcbProbe cfg env task probe s) := by
  simp only [addTcbProbe]
  split
  · rename_i i found
    have produced : Additions.Adds State.calls (ProducesFor probe) s
        (s.modalityProbeProduceSnapshot env (some probe) i) :=
      .one (modalityProbeProduceSnapshot_calls ..) ⟨i, _, rfl⟩
    refine traceAssert_induction
      (P := fun t => Additions.Adds State.calls (ProducesFor probe) s t)
      (fun _ _ => produced.trans (.none (State.prvTraceError_calls ..))) fun _ => ?_
    refine produced.trans ?_
    split
    · exact .none (addControlPlaneBuffers_eq ..).2.1
    · exact .none rfl
  · exact .none (State.prvTraceError_calls ..)

/-- A registration that gets no probe makes no call but the initialization that failed. -/
theorem nameAndAlloc_initializes (cfg : Config) (env : External) (task : TaskHandle) (s : State) :
    (nameAndAlloc cfg env task s).2.calls = s.calls ∨
      TakesStorage cfg env task s.registry ∧ ∃ size probeId,
        (nameAndAlloc cfg env task s).2.calls =
          s.calls ++ [.initializeProbe (s.registry.storage cfg) size probeId] := by
  obtain ⟨named, registry⟩ := nameTask_eq cfg task s
  have calls := nameTask_calls cfg task s
  have excluded := isTaskExcluded_iff (nameTask cfg task s).2 (s.registry.idOf cfg task)
  have called := (allocProbe_eq cfg env (s.registry.idOf cfg task) (nameTask cfg task s).2).2.2
  rw [registry] at excluded called
  rw [calls] at called
  simp only [nameAndAlloc, named]
  by_cases member : s.registry.idOf cfg task ∈ s.registry.excludedTaskProbeIds
  · rw [if_pos (excluded.mpr member)]
    exact .inl calls
  · rw [if_neg fun h => member (excluded.mp h), called]
    by_cases starts : StorageAvailable cfg env (s.registry.nameTask cfg task) ∧
        s.registry.idOf cfg task ≠ 0
    · rw [if_pos starts]
      exact .inr ⟨⟨member, starts.1⟩, _, _, rfl⟩
    · rw [if_neg starts]
      exact .inl (List.append_nil _)

/-- The calls of a registration. -/
theorem register_logs (cfg : Config) (env : External) (task : TaskHandle) (uxPriority : BitVec 32)
    {s : State} (on : s.isEnabled = true) :
    (GetsProbe cfg env task s.registry ∧ ∃ size probeId middle,
      (prvTraceRegisterTaskProbe cfg env task uxPriority s).calls =
        s.calls ++ [.initializeProbe (s.registry.storage cfg) size probeId] ++ middle ++
          [.recordEvent (some (s.registry.storage cfg)) TraceEvent.taskCreate (some uxPriority)] ∧
      ∀ c ∈ middle, ProducesFor (s.registry.storage cfg) c) ∨
    (¬ GetsProbe cfg env task s.registry ∧
      ((prvTraceRegisterTaskProbe cfg env task uxPriority s).calls = s.calls ∨
        TakesStorage cfg env task s.registry ∧ ∃ size probeId,
          (prvTraceRegisterTaskProbe cfg env task uxPriority s).calls =
            s.calls ++ [.initializeProbe (s.registry.storage cfg) size probeId])) := by
  have initializes := nameAndAlloc_initializes cfg env task s.enterCriticalSection
  have outcome := nameAndAlloc_cases cfg env task s.enterCriticalSection
  simp only [prvTraceRegisterTaskProbe, State.enter_isEnabled, on, if_true]
  cases allocated : nameAndAlloc cfg env task s.enterCriticalSection with
  | mk probe u =>
      rw [allocated] at initializes outcome
      cases outcome with
      | inl gets =>
          obtain ⟨gets, isProbe, -, calls⟩ := gets
          refine .inl ⟨gets, cfg.taskProbeSize, (s.registry.idOf cfg task).setWidth 32, ?_⟩
          have isSome : probe = some (s.registry.storage cfg) := isProbe
          subst isSome
          obtain ⟨-, called, -⟩ := attachProbe_after cfg env task uxPriority
            (s.registry.storage cfg) u rfl
          obtain ⟨middle, produced, all⟩ := addTcbProbe_produces cfg env task
            (s.registry.storage cfg) (State.noteRegistered task (s.registry.storage cfg) u)
          refine ⟨middle, ?_, all⟩
          refine called.trans (congrArg (· ++ _) (produced.trans (congrArg (· ++ middle) ?_)))
          exact calls
      | inr nothing =>
          obtain ⟨gets, isNone, -, -⟩ := nothing
          have isNone' : probe = none := isNone
          subst isNone'
          exact .inr ⟨gets, initializes⟩

/-- A registration's first call is ready: its storage was never used before. -/
theorem ProtocolSound.log_started (h : ProtocolSound cfg s) {storage : Storage}
    (unused : ¬ Allocated cfg s.registry storage) (size : Nat) (probeId : BitVec 32) :
    Disciplined Call.Ready (s.calls ++ [.initializeProbe storage size probeId]) :=
  have fresh : (Call.initializeProbe storage size probeId).Ready s.calls :=
    fun c mem isProbe => unused (h.allocated c mem storage isProbe)
  h.log.snoc fresh

/-- So are those that follow, up to the creation event. -/
theorem ProtocolSound.log_created (h : ProtocolSound cfg s) {storage : Storage}
    (unused : ¬ Allocated cfg s.registry storage) (size : Nat) (probeId : BitVec 32)
    {middle : List Call} (produced : ∀ c ∈ middle, ProducesFor storage c)
    (payload : Option (BitVec 32)) :
    Disciplined Call.Ready (s.calls ++ [.initializeProbe storage size probeId] ++ middle ++
      [.recordEvent (some storage) TraceEvent.taskCreate payload]) := by
  have fresh : ∀ c ∈ s.calls, c.probe ≠ some storage :=
    fun c mem isProbe => unused (h.allocated c mem storage isProbe)
  have isInit : ∀ new, InitializedIn
      (s.calls ++ [.initializeProbe storage size probeId] ++ new) storage :=
    fun new => ⟨size, probeId, List.mem_append_left _ (List.mem_append_right _
      (List.mem_singleton_self _))⟩
  have reports := (h.log_started unused size probeId).append
    (P := fun log c => InitializedIn log storage ∧ ProducesFor storage c)
    (fun log c both => ?_) (fun log c c' both => ?_)
    (fun c mem => ⟨List.append_nil (_ ++ [_]) ▸ isInit [], produced c mem⟩)
  · refine reports.snoc ⟨storage, rfl, isInit middle, ?_⟩
    refine iff_of_false (fun created => ?_) fun no => no rfl
    obtain ⟨payload', mem⟩ := created
    cases List.mem_append.mp mem with
    | inl before =>
        cases List.mem_append.mp before with
        | inl old => exact fresh _ old rfl
        | inr here => exact Call.noConfusion (List.mem_singleton.mp here)
    | inr between =>
        obtain ⟨slot, result, isProduce⟩ := produced _ between
        exact Call.noConfusion isProduce
  · obtain ⟨isInit, slot, result, isProduce⟩ := both
    rw [isProduce]
    exact ⟨storage, rfl, isInit⟩
  · obtain ⟨⟨size, probeId, isInit⟩, produces⟩ := both
    exact ⟨⟨size, probeId, List.mem_append_left _ isInit⟩, produces⟩

/-- A registration's effect on the protocol, whatever it comes to: calls for new storage, and
at most one new slot, for a probe whose creation is recorded. -/
theorem ProtocolSound.grow (h : ProtocolSound cfg s) {storage : Storage} {new : List Call}
    (table : Slots cfg t.registry) (calls : t.calls = s.calls ++ new)
    (log : Disciplined Call.Ready t.calls) (ours : ∀ c ∈ new, c.probe = some storage)
    (taken : new ≠ [] → Allocated cfg t.registry storage)
    (index : s.nextStorageIndex ≤ t.nextStorageIndex) (block : s.nextBlock ≤ t.nextBlock)
    (slots : ∀ (i : Nat) (e : TcbProbe) (probe : Probe), t.registry.slots[i]? = some e →
      e.probe = some probe → s.registry.slots[i]? = some e ∨
        probe = storage ∧ Known t.calls storage)
    (kept : ∀ probe, (s.probeIds probe).isSome = true → (t.probeIds probe).isSome = true)
    (named : CreatedIn new storage → (t.probeIds storage).isSome = true) :
    ProtocolSound cfg t := by
  refine ⟨table, log, fun c mem probe isProbe => ?_, fun i e probe slot own => ?_,
    fun probe created => ?_⟩
  · rw [calls] at mem
    cases List.mem_append.mp mem with
    | inl old => exact (h.allocated c old probe isProbe).mono index block
    | inr isNew =>
        obtain rfl : storage = probe := Option.some.inj ((ours c isNew).symm.trans isProbe)
        exact taken (List.ne_nil_of_mem isNew)
  · cases slots i e probe slot own with
    | inl old =>
        rw [calls]
        exact (h.slots i e probe old own).append new
    | inr ownStorage => exact ownStorage.1 ▸ ownStorage.2
  · obtain ⟨payload, mem⟩ := created
    rw [calls] at mem
    cases List.mem_append.mp mem with
    | inl old => exact kept probe (h.ids probe ⟨payload, old⟩)
    | inr isNew =>
        obtain rfl : storage = probe := Option.some.inj ((ours _ isNew).symm.trans rfl)
        exact named ⟨payload, isNew⟩

/-- What a registration that initializes a probe leaves of the registry. -/
structure Initializes (cfg : Config) (r r' : Registry) : Prop where
  index : r.nextStorageIndex ≤ r'.nextStorageIndex
  block : r.nextBlock ≤ r'.nextBlock
  allocated : Allocated cfg r' (r.storage cfg)
  kept : ∀ probe, (r.probeIds probe).isSome = true → (r'.probeIds probe).isSome = true
  named : (r'.probeIds (r.storage cfg)).isSome = true

theorem initializes_allocate {r : Registry} (table : Slots cfg r) {env : External}
    {task : TaskHandle} (gets : GetsProbe cfg env task r) :
    Initializes cfg r (r.allocate cfg task) := by
  obtain ⟨-, advance, allocated, -⟩ := table.allocate gets
  refine ⟨advance.index, advance.block, allocated, fun probe isSome => ?_, ?_⟩
  · rw [Sound.allocate_probeIds, Function.update_apply]
    split
    · rfl
    · exact isSome
  · rw [Sound.allocate_probeIds, Function.update_self]
    rfl

theorem Initializes.frame {r r' r'' : Registry} (h : Initializes cfg r r')
    (probeIds : r''.probeIds = r'.probeIds) (index : r''.nextStorageIndex = r'.nextStorageIndex)
    (block : r'.nextBlock ≤ r''.nextBlock) : Initializes cfg r r'' where
  index := index ▸ h.index
  block := h.block.trans block
  allocated := h.allocated.mono (Nat.le_of_eq index.symm) block
  kept := probeIds ▸ h.kept
  named := probeIds ▸ h.named

theorem ProtocolSound.create (h : ProtocolSound cfg s) (env : External) (new : NewTask)
    (name : CString) (uxPriority : BitVec 32) :
    ProtocolSound cfg (step cfg s (.create env new name uxPriority)) := by
  have table := slots_step h.table (.create env new name uxPriority)
  have added : ProtocolSound cfg (s.addTask cfg new name) :=
    h.serve (h.table.frame rfl rfl rfl rfl) ⟨rfl, rfl, rfl, rfl⟩ (.none rfl)
  have isStep : step cfg s (.create env new name uxPriority) = prvTraceRegisterTaskProbe cfg env
      new.handle uxPriority (s.addTask cfg new name) := rfl
  rw [isStep] at table ⊢
  generalize s.addTask cfg new name = u at added table ⊢
  cases on : u.isEnabled with
  | false =>
      rw [prvTraceRegisterTaskProbe_disabled cfg env new.handle uxPriority on] at table ⊢
      exact added
  | true =>
      have outcome := prvTraceRegisterTaskProbe_cases cfg env new.handle uxPriority on
      have logs := register_logs cfg env new.handle uxPriority on
      have unused := storage_fresh cfg u.registry
      generalize prvTraceRegisterTaskProbe cfg env new.handle uxPriority u = t at table outcome logs
      cases logs with
      | inl gets =>
          obtain ⟨gets, size, probeId, middle, calls, produced⟩ := gets
          have log := added.log_created unused size probeId produced (some uxPriority)
          rw [← calls] at log
          rw [List.append_assoc, List.append_assoc] at calls
          have known : Known t.calls (u.registry.storage cfg) := by
            rw [calls]
            refine ⟨⟨size, probeId, ?_⟩, some uxPriority, ?_⟩
            · exact List.mem_append_right _ (List.mem_append_left _ (List.mem_singleton_self _))
            · exact List.mem_append_right _ (List.mem_append_right _
                (List.mem_append_right _ (List.mem_singleton_self _)))
          have ours : ∀ c ∈ [.initializeProbe (u.registry.storage cfg) size probeId] ++ (middle ++
              [.recordEvent (some (u.registry.storage cfg)) TraceEvent.taskCreate (some uxPriority)]),
              c.probe = some (u.registry.storage cfg) := by
            intro c mem
            cases List.mem_append.mp mem with
            | inl isInit =>
                rw [List.mem_singleton.mp isInit]
                rfl
            | inr rest =>
                cases List.mem_append.mp rest with
                | inl between =>
                    obtain ⟨slot, result, isProduce⟩ := produced c between
                    rw [isProduce]
                    rfl
                | inr last =>
                    rw [List.mem_singleton.mp last]
                    rfl
          have allocate := initializes_allocate added.table gets
          have initializes : Initializes cfg u.registry t.registry := by
            rcases outcome with ⟨i, outcome⟩ | outcome | outcome
            · have frame := fillSlot_frame cfg env i new.handle (u.registry.storage cfg)
                (u.registry.allocate cfg new.handle)
              rw [outcome.registry]
              exact allocate.frame frame.probeIds frame.nextStorageIndex frame.nextBlock
            · rw [outcome.registry]
              exact allocate.frame rfl rfl (Nat.le_refl _)
            · exact absurd gets outcome.gets
          refine added.grow table calls log ours (fun _ => initializes.allocated) initializes.index
            initializes.block (fun j e probe slot own => ?_) initializes.kept
            fun _ => initializes.named
          rcases outcome with ⟨i, outcome⟩ | outcome | outcome
          · have slots := (added.table.registered outcome).2.1
            cases SlotTable.getElem?_set_cases (slots ▸ slot) with
            | inl isNew =>
                have ownStorage := (newSlot_fields cfg env new.handle (u.registry.storage cfg)
                  (u.registry.allocate cfg new.handle)).2
                rw [← isNew.2] at ownStorage
                exact .inr ⟨Option.some.inj (own.symm.trans ownStorage), known⟩
            | inr old => exact .inl old.2
          · have slots : t.registry.slots = u.registry.slots := by
              rw [outcome.registry]
              exact Registry.takeStorage_slots cfg (u.registry.nameTask cfg new.handle)
            exact .inl (slots ▸ slot)
          · exact absurd gets outcome.gets
      | inr nothing =>
          obtain ⟨gets, logs⟩ := nothing
          have registry : t.registry = if TakesStorage cfg env new.handle u.registry then
              (u.registry.nameTask cfg new.handle).takeStorage cfg
              else u.registry.nameTask cfg new.handle := by
            rcases outcome with ⟨i, outcome⟩ | outcome | outcome
            · exact absurd outcome.gets gets
            · exact absurd outcome.gets gets
            · exact outcome.registry
          have slots : t.registry.slots = u.registry.slots := by
            rw [registry]
            split
            · exact Registry.takeStorage_slots cfg (u.registry.nameTask cfg new.handle)
            · rfl
          have probeIds : t.probeIds = u.probeIds := by
            have ids := congrArg Registry.probeIds registry
            split at ids
            · exact ids.trans (Registry.takeStorage_probeIds cfg _)
            · exact ids
          have named := added.table.nameTask new.handle
          have counters : u.nextStorageIndex ≤ t.registry.nextStorageIndex ∧
              u.nextBlock ≤ t.registry.nextBlock ∧ (TakesStorage cfg env new.handle u.registry →
                Allocated cfg t.registry (u.registry.storage cfg)) := by
            rw [registry]
            split
            · rename_i takes
              obtain ⟨advance, allocated⟩ := named.advances env takes.2
              exact ⟨advance.index, advance.block, fun _ => allocated⟩
            · exact ⟨Nat.le_refl _, Nat.le_refl _, fun takes => absurd takes ‹_›⟩
          have kept : ∀ probe, (u.probeIds probe).isSome = true →
              (t.probeIds probe).isSome = true := fun probe isSome => probeIds ▸ isSome
          cases logs with
          | inl same =>
              have none : t.calls = u.calls ++ [] := same.trans (List.append_nil _).symm
              have log : Disciplined Call.Ready t.calls := same ▸ added.log
              have created : CreatedIn [] (u.registry.storage cfg) →
                  (t.probeIds (u.registry.storage cfg)).isSome = true := by
                intro created
                obtain ⟨_, mem⟩ := created
                exact absurd mem List.not_mem_nil
              exact added.grow table none log (fun _ mem => absurd mem List.not_mem_nil)
                (fun some => absurd rfl some) counters.1 counters.2.1
                (fun i e probe slot own => .inl (slots ▸ slot)) kept created
          | inr starts =>
              obtain ⟨takes, size, probeId, calls⟩ := starts
              have log : Disciplined Call.Ready t.calls :=
                calls ▸ added.log_started unused size probeId
              refine added.grow table calls log (fun c mem => ?_) (fun _ => counters.2.2 takes)
                counters.1 counters.2.1 (fun i e probe slot own => .inl (slots ▸ slot)) kept
                fun created => ?_
              · rw [List.mem_singleton.mp mem]
                rfl
              · obtain ⟨payload, mem⟩ := created
                exact Call.noConfusion (List.mem_singleton.mp mem)

/-- Every action keeps the protocol. -/
theorem protocol_step (h : ProtocolSound cfg s) (op : Op) : ProtocolSound cfg (step cfg s op) := by
  have table := slots_step h.table op
  have silent : ∀ {u : State}, AddsCalls (fun _ => false) s u →
      Additions.Adds State.calls (ServedIn s.calls) s u :=
    fun none => none.mono fun _ made => absurd made Bool.false_ne_true
  cases op with
  | create env new name uxPriority => exact h.create env new name uxPriority
  | enable env io =>
      exact h.serve table (step_sameProbes cfg s fun _ _ _ _ => Op.noConfusion)
        (silent (step_calls cfg s (.enable env io)))
  | disable | exclude _ | delete _ | setFilter _ _ | ioRead _ | ioSend | getBuffer =>
      exact h.serve table (step_sameProbes cfg s fun _ _ _ _ => Op.noConfusion)
        (silent (step_calls cfg s _))
  | start env next uxPriority =>
      have selected : ProtocolSound cfg { s.select next with started := true } := h.same rfl rfl
      have served := selected.hook (traceTaskSwitchedIn_onlyFor cfg env uxPriority _)
        (switchedIn_later cfg env uxPriority _)
      exact h.serve table (step_sameProbes cfg s fun _ _ _ _ => Op.noConfusion) served
  | switch out in' next uxPriority =>
      have registry : (traceTaskSwitchedOut cfg out s).registry = s.registry :=
        registry_hookEffect.traceTaskSwitchedOut cfg out s
      have left : ProtocolSound cfg (traceTaskSwitchedOut cfg out s) :=
        h.serve (registry ▸ h.table) (sameProbes_of_eq registry)
          (h.hook (traceTaskSwitchedOut_onlyFor cfg out s) (switchedOut_later cfg out s))
      have selected : ProtocolSound cfg ((traceTaskSwitchedOut cfg out s).select next) :=
        left.same rfl rfl
      refine selected.serve table (sameProbes_of_eq ?_)
        (selected.hook (traceTaskSwitchedIn_onlyFor cfg in' uxPriority _)
          (switchedIn_later cfg in' uxPriority _))
      exact registry_hookEffect.traceTaskSwitchedIn cfg in' uxPriority _
  | hook env k =>
      exact h.serve table (step_sameProbes cfg s fun _ _ _ _ => Op.noConfusion)
        (h.hook (hook_only cfg env k s) (hook_later cfg env k s))
  | ioReport reports announcements =>
      exact h.serve table (step_sameProbes cfg s fun _ _ _ _ => Op.noConfusion)
        (h.report reports announcements)
  | process env =>
      exact h.serve table (step_sameProbes cfg s fun _ _ _ _ => Op.noConfusion) (h.process env)

/-- The tracing functions use the probe library by its protocol in every run. -/
theorem probe_calls_disciplined (cfg : Config) (ops : List Op) :
    ProbeProtocol (ops.foldl (step cfg) (State.init cfg)) := by
  have start : ProtocolSound cfg (State.init cfg) := by
    refine ⟨.init cfg, disciplined_nil, fun _ none => absurd none List.not_mem_nil,
      fun i e probe slot own => ?_, fun _ created => ?_⟩
    · have empty : e = {} := by
        obtain ⟨e', slot', isMasked⟩ := Option.map_eq_some_iff.mp
          ((slots_getElem? (State.init cfg) i).symm.trans slot)
        rw [← isMasked, List.eq_of_mem_replicate (List.mem_of_getElem? slot')]
        rfl
      rw [empty] at own
      exact absurd own.symm (Option.some_ne_none probe)
    · obtain ⟨_, mem⟩ := created
      exact absurd mem List.not_mem_nil
  have run : Transition.Run (step cfg) (fun _ _ => True) (State.init cfg) ops _ :=
    .free (fun _ _ => trivial) _ ops
  have sound := run.invariant (P := ProtocolSound cfg) (fun s op sound _ => protocol_step sound op)
    start
  exact ⟨sound.log, sound.ids⟩

end

end ProbeTrace
