import ProbeTrace.Metatheory.ControlMoves
import ProbeTrace.Metatheory.HookCalls
import ProbeTrace.Metatheory.RegistryCoherence
import ProbeTrace.Model.Manifest

/-!
Records and the manifest. The program that generates the manifest compares names from
which it has removed the prefix with a list that still has it on the mutex events, so that
those alone get a payload in the manifest and none in a record.
-/
namespace ProbeTrace

/-! The generated entries. -/

theorem parseDefinition_fold (values : List (Text × Nat)) (ids : List Nat)
    (events : List ManifestEvent)
    (fresh : ∀ item ∈ values, definesEvent item.1 = true → item.2 ∉ ids)
    (distinct : ((values.filter fun item => definesEvent item.1).map Prod.snd).Nodup) :
    (values.foldlM parseDefinition (ids, events)).map Prod.snd = .ok (events ++
      (values.filter fun item => definesEvent item.1).map fun item =>
        manifestEvent item.1 item.2) := by
  induction values generalizing ids events with
  | nil => simp only [List.foldlM_nil, List.filter_nil, List.map_nil, List.append_nil]; rfl
  | cons item values ih =>
      cases defines : definesEvent item.1 with
      | false =>
          rw [List.filter_cons_of_neg (by simp [defines])] at distinct ⊢
          rw [List.foldlM_cons, parseDefinition, if_neg (by simp [defines])]
          exact ih ids events (fun other mem => fresh other (.tail item mem)) distinct
      | true =>
          rw [List.filter_cons_of_pos (by simp [defines])] at distinct ⊢
          rw [List.map_cons, List.nodup_cons] at distinct
          have unseen := fresh item List.mem_cons_self defines
          have later : ∀ other ∈ values, definesEvent other.1 = true →
              other.2 ∉ item.2 :: ids := by
            intro other mem isEvent seen
            cases List.mem_cons.mp seen with
            | inl same =>
                refine distinct.1 (List.mem_map.mpr ⟨other, ?_, same⟩)
                exact List.mem_filter.mpr ⟨mem, isEvent⟩
            | inr before => exact fresh other (.tail item mem) isEvent before
          have rest := ih (item.2 :: ids) (events ++ [manifestEvent item.1 item.2]) later
            distinct.2
          rw [List.append_assoc] at rest
          rw [List.foldlM_cons, parseDefinition, if_pos defines, if_neg unseen, List.map_cons]
          exact rest

/-- A header without duplicate ids gets one entry for each event. -/
theorem parse_distinct (values : List (Text × Nat))
    (distinct : ((values.filter fun item => definesEvent item.1).map Prod.snd).Nodup) :
    parseFreertosTraceEventDefinitions values = .ok
      ((values.filter fun item => definesEvent item.1).map fun item =>
        manifestEvent item.1 item.2) :=
  parseDefinition_fold values [] [] (fun _ _ _ => List.not_mem_nil) distinct

/-- The events that are passed on, none when the program exits. -/
def eventsOf (values : List (Text × Nat)) : List ManifestEvent :=
  match parseFreertosTraceEventDefinitions values with
  | .ok events => events
  | .error _ => []

theorem eventsOf_distinct (values : List (Text × Nat))
    (distinct : ((values.filter fun item => definesEvent item.1).map Prod.snd).Nodup) :
    eventsOf values = (values.filter fun item => definesEvent item.1).map fun item =>
      manifestEvent item.1 item.2 := by
  rw [eventsOf, parse_distinct values distinct]

/-- The events in the manifest. -/
def manifestEvents : List ManifestEvent := eventsOf headerValues

open TraceEvent in
/-- The names of the header, evaluated: every definition but the top is an event, and every
event but one gets a payload. -/
theorem definitions_evaluated : ∀ item ∈ traceEventDefinitions,
    definesEvent item.1 = (item.2 != idTop) ∧
      (manifestEvent item.1 item.2.toNat).hasPayload = (item.2 != taskSwitchedOut) := by
  decide +kernel

/-- The ids of the events. -/
def eventIds : List (BitVec 32) :=
  (traceEventDefinitions.filter fun item => definesEvent item.1).map Prod.snd

theorem eventIds_eq : eventIds = traceEventDefinitions.tail.map Prod.snd := by
  have same : traceEventDefinitions.filter (fun item => definesEvent item.1) =
      traceEventDefinitions.filter fun item => item.2 != TraceEvent.idTop :=
    List.filter_congr fun item mem => (definitions_evaluated item mem).1
  have events : (traceEventDefinitions.map Prod.snd).filter (fun id => id != TraceEvent.idTop) =
      traceEventDefinitions.tail.map Prod.snd := by decide +kernel
  rw [eventIds, same, ← events, List.filter_map]
  rfl

theorem headerIds_eq :
    (headerValues.filter fun item => definesEvent item.1).map Prod.snd =
      eventIds.map BitVec.toNat := by
  rw [headerValues, List.filter_map, List.map_map, eventIds, List.map_map]
  rfl

theorem headerIds_distinct :
    ((headerValues.filter fun item => definesEvent item.1).map Prod.snd).Nodup := by
  rw [headerIds_eq, eventIds_eq]
  decide +kernel

theorem manifestEvents_eq : manifestEvents =
    (headerValues.filter fun item => definesEvent item.1).map fun item =>
      manifestEvent item.1 item.2 :=
  eventsOf_distinct headerValues headerIds_distinct

/-- The id of a record is in the manifest, and the record has a payload exactly when the
entry says so. -/
def RecordAgrees (record : EventRecord) : Prop :=
  ∃ event ∈ manifestEvents, event.id = record.1.toNat ∧
    (record.2.isSome = true ↔ event.hasPayload = true)

open TraceEvent in
/-- The manifest gives a payload to every event but one. -/
theorem recordAgrees_iff (record : EventRecord) : RecordAgrees record ↔
    record.1 ∈ eventIds ∧ (record.2.isSome = true ↔ record.1 ≠ taskSwitchedOut) := by
  have payloads : ∀ item ∈ traceEventDefinitions,
      ((manifestEvent item.1 item.2.toNat).hasPayload = true ↔ item.2 ≠ taskSwitchedOut) := by
    intro item mem
    rw [(definitions_evaluated item mem).2, bne_iff_ne]
  constructor
  · intro agrees
    obtain ⟨event, mem, id, payload⟩ := agrees
    rw [manifestEvents_eq, headerValues, List.filter_map, List.map_map, List.mem_map] at mem
    obtain ⟨item, mem, rfl⟩ := mem
    have same : item.2 = record.1 := BitVec.eq_of_toNat_eq id
    rw [← same]
    refine ⟨List.mem_map.mpr ⟨item, mem, rfl⟩, ?_⟩
    rw [List.mem_filter] at mem
    exact payload.trans (payloads item mem.1)
  · intro listed
    obtain ⟨item, mem, same⟩ := List.mem_map.mp listed.1
    have defined := List.mem_filter.mp mem
    refine ⟨manifestEvent item.1 item.2.toNat, ?_, congrArg BitVec.toNat same, ?_⟩
    · rw [manifestEvents_eq, headerValues, List.filter_map, List.map_map, List.mem_map]
      exact ⟨item, mem, rfl⟩
    · rw [payloads item defined.1, same]
      exact listed.2

/-! The records of the hooks. -/

/-- The queue is a mutex, recursive or not. -/
def Queue.isMutex (q : Queue) : Bool :=
  q.ucQueueType == .mutex || q.ucQueueType == .recursiveMutex

/-- The hook is called for a mutex and has a branch for it. -/
def Hook.ofMutex : Hook → Bool
  | .queueSend _ q | .queueSendFailed _ q | .blockingOnQueueSend _ q | .queueReceive q
  | .queueReceiveFailed q | .blockingOnQueueReceive q => q.isMutex
  | .taskSuspend _ | .taskDelay _ | .taskDelayUntil _ | .queueSendFromIsr _ _
  | .queueSendFromIsrFailed _ _ | .queueReceiveFromIsr _ | .queueReceiveFromIsrFailed _ => false

/-- The id of an event that has a payload in the manifest. -/
def HasPayload (id : BitVec 32) : Prop := id ∈ eventIds ∧ id ≠ TraceEvent.taskSwitchedOut

instance (id : BitVec 32) : Decidable (HasPayload id) :=
  decidable_of_iff (id ∈ traceEventDefinitions.tail.map Prod.snd ∧ id ≠ TraceEvent.taskSwitchedOut)
    (by rw [HasPayload, eventIds_eq])

theorem HasPayload.agrees_iff {id : BitVec 32} (h : HasPayload id)
    (payload : Option (BitVec 32)) : RecordAgrees (id, payload) ↔ payload.isSome = true := by
  rw [recordAgrees_iff]
  constructor
  · intro agrees
    exact agrees.2.mpr h.2
  · intro some
    exact ⟨h.1, fun _ => h.2, fun _ => some⟩

theorem queueRecord_agrees {base semaphore : BitVec 32} {mutex : Option (BitVec 32)} {q : Queue}
    {record : EventRecord}
    (ids : HasPayload base ∧ HasPayload semaphore ∧ HasPayload (mutex.getD base))
    (made : queueRecord base semaphore mutex q = some record) :
    RecordAgrees record ↔ q.isMutex = false := by
  simp only [queueRecord] at made
  simp only [Queue.isMutex]
  cases kind : q.ucQueueType with
  | base =>
      rw [kind] at made
      cases made
      exact iff_of_true ((ids.1.agrees_iff _).mpr rfl) rfl
  | binarySemaphore | countingSemaphore =>
      rw [kind] at made
      cases made
      exact iff_of_true ((ids.2.1.agrees_iff _).mpr rfl) rfl
  | mutex | recursiveMutex =>
      rw [kind] at made
      dsimp only at made
      rw [Option.map_eq_some_iff] at made
      obtain ⟨id, isMutex, rfl⟩ := made
      rw [isMutex] at ids
      have payload : HasPayload id := ids.2.2
      rw [payload.agrees_iff]
      exact iff_of_false Bool.false_ne_true (by decide)
  | other _ =>
      rw [kind] at made
      cases made

/-- A hook whose queue has no mutex branch makes no record of a mutex. -/
theorem queueRecord_noMutex {base semaphore : BitVec 32} {q : Queue} {record : EventRecord}
    (made : queueRecord base semaphore none q = some record) : q.isMutex = false := by
  simp only [queueRecord] at made
  simp only [Queue.isMutex]
  cases kind : q.ucQueueType with
  | base | binarySemaphore | countingSemaphore | other _ => rfl
  | mutex | recursiveMutex =>
      rw [kind] at made
      cases made

/-- A record agrees with the manifest unless it is one of a mutex. -/
theorem hookRecord_agrees {taskId : TaskHandle → BitVec 16} {h : Hook} {record : EventRecord}
    (made : hookRecord taskId h = some record) : RecordAgrees record ↔ h.ofMutex = false := by
  have always : ∀ {id payload}, HasPayload id → some (id, some payload) = some record →
      (RecordAgrees record ↔ false = false) := by
    intro id payload listed same
    cases same
    exact iff_of_true ((listed.agrees_iff _).mpr rfl) rfl
  cases h with
  | taskSuspend task => exact always (by decide +kernel) made
  | taskDelay ticks => exact always (by decide +kernel) made
  | taskDelayUntil time => exact always (by decide +kernel) made
  | queueSend toBack q | queueSendFailed toBack q | blockingOnQueueSend toBack q =>
      exact queueRecord_agrees (by cases toBack <;> decide +kernel) made
  | queueReceive q | queueReceiveFailed q | blockingOnQueueReceive q =>
      exact queueRecord_agrees (by decide +kernel) made
  | queueSendFromIsr toBack q | queueSendFromIsrFailed toBack q =>
      have agrees := queueRecord_agrees (by cases toBack <;> decide +kernel) made
      exact iff_of_true (agrees.mpr (queueRecord_noMutex made)) rfl
  | queueReceiveFromIsr q | queueReceiveFromIsrFailed q =>
      have agrees := queueRecord_agrees (by decide +kernel) made
      exact iff_of_true (agrees.mpr (queueRecord_noMutex made)) rfl

/-! The records in the logs. -/

def Call.recorded : Call → Option EventRecord
  | .recordEvent _ id payload => some (id, payload)
  | .initializeProbe _ _ _ | .produceSnapshot _ _ _ | .mergeSnapshot _ _ _
  | .processControlMessage _ _ | .report _ | .announceMutators _ => none

/-- The records appended to the logs of all probes, in order. -/
def State.records (s : State) : List EventRecord := s.calls.filterMap Call.recorded

theorem records_logCall (c : Call) (s : State) :
    (s.logCall c).records = s.records ++ c.recorded.toList := by
  simp only [State.records, State.logCall, List.filterMap_append, List.filterMap_cons,
    List.filterMap_nil]
  cases c.recorded <;> rfl

theorem records_of_calls {s t : State} {new : List Call} (h : t.calls = s.calls ++ new) :
    t.records = s.records ++ new.filterMap Call.recorded := by
  rw [State.records, h, List.filterMap_append]
  rfl

theorem records_error (msg : String) (s : State) : (s.prvTraceError msg).records = s.records := by
  rw [State.records, State.prvTraceError_calls]
  rfl

theorem records_silent {c : Call} (silent : c.recorded = none) (s : State) :
    (s.logCall c).records = s.records := by
  rw [records_logCall, silent]
  exact List.append_nil _

theorem records_controlEffect : ControlEffect fun s t => t.records = s.records where
  refl _ := rfl
  trans h k := k.trans h
  enter _ := rfl
  exit _ := rfl
  error := records_error
  report _ s := records_silent rfl s
  announce _ s := records_silent rfl s
  buffer _ _ := rfl
  iters _ _ := rfl
  receive _ _ _ := rfl
  send _ _ _ _ _ := rfl
  process _ _ s := records_silent rfl s
  point _ _ _ := rfl

theorem records_enableEffect : EnableEffect fun s t => t.records = s.records where
  refl _ := rfl
  trans h k := k.trans h
  enter _ := rfl
  exit _ := rfl
  error := records_error
  exclude _ _ _ := rfl
  addTask _ _ _ _ := rfl
  ioTask _ _ := rfl
  enabled _ := rfl

/-- From `s` to `t` only records are appended that agree with the manifest. -/
def AddsRecords (s t : State) : Prop :=
  ∃ new, t.records = s.records ++ new ∧ ∀ record ∈ new, RecordAgrees record

namespace AddsRecords
variable {s r t : State}

theorem same (h : t.records = s.records) : AddsRecords s t :=
  ⟨[], by rw [h, List.append_nil], fun _ none => nomatch none⟩

theorem one {record : EventRecord} (h : t.records = s.records ++ [record])
    (agrees : RecordAgrees record) : AddsRecords s t := by
  refine ⟨[record], h, ?_⟩
  intro other mem
  rwa [List.mem_singleton.mp mem]

theorem trans (h : AddsRecords s r) (k : AddsRecords r t) : AddsRecords s t := by
  obtain ⟨new, added, agree⟩ := h
  obtain ⟨new', added', agree'⟩ := k
  refine ⟨new ++ new', by rw [added', added, List.append_assoc], ?_⟩
  intro record mem
  cases List.mem_append.mp mem with
  | inl mem => exact agree record mem
  | inr mem => exact agree' record mem

end AddsRecords

/-! Registration records the creation. -/

theorem nameAndAlloc_records (cfg : Config) (env : External) (task : TaskHandle) (s : State) :
    (nameAndAlloc cfg env task s).2.records = s.records := by
  have named : (nameTask cfg task s).2.records = s.records := by
    rw [State.records, nameTask_calls]
    rfl
  simp only [nameAndAlloc]
  split
  · exact named
  · have allocated := records_of_calls (allocProbe_eq cfg env (nameTask cfg task s).1
      (nameTask cfg task s).2).2.2
    rw [allocated, named]
    split
    · exact List.append_nil _
    · exact List.append_nil _

theorem addTcbProbe_records (cfg : Config) (env : External) (task : TaskHandle) (probe : Probe)
    (s : State) : (addTcbProbe cfg env task probe s).records = s.records := by
  simp only [addTcbProbe]
  cases s.getTcbProbe none with
  | none => exact records_error _ s
  | some i =>
      have produced : (s.modalityProbeProduceSnapshot env (some probe) i).records = s.records := by
        rw [records_of_calls (modalityProbeProduceSnapshot_calls env (some probe) i s)]
        exact List.append_nil _
      refine traceAssert_induction (P := fun r : State => r.records = s.records)
        (fun _ _ => (records_error _ _).trans produced) (fun _ => ?_)
      split
      · rw [State.records, (addControlPlaneBuffers_eq cfg env i _).2.1]
        exact produced
      · exact produced

theorem register_adds (cfg : Config) (env : External) (task : TaskHandle)
    (uxPriority : BitVec 32) (s : State) :
    AddsRecords s (prvTraceRegisterTaskProbe cfg env task uxPriority s) := by
  have alloc := nameAndAlloc_records cfg env task s.enterCriticalSection
  simp only [prvTraceRegisterTaskProbe]
  split
  · cases hn : nameAndAlloc cfg env task s.enterCriticalSection with
    | mk probe r =>
        rw [hn] at alloc
        cases probe with
        | none => exact .same alloc
        | some probe =>
            have recorded := records_of_calls
              (attachProbe_after cfg env task uxPriority probe r rfl).2.1
            have added : (addTcbProbe cfg env task probe
                (State.noteRegistered task probe r)).records = s.records :=
              (addTcbProbe_records ..).trans alloc
            rw [added] at recorded
            have payload : HasPayload TraceEvent.taskCreate := by decide +kernel
            exact .one recorded ((payload.agrees_iff _).mpr rfl)
  · exact .same rfl

/-! The hooks. -/

theorem logEvent_records (cfg : Config) (env : External) (noSlot failed : String)
    (id' : BitVec 32) (payload : Option (BitVec 32)) (s : State) :
    (logEvent cfg env noSlot failed id' payload s).records =
      s.records ++ if s.focus.isSome then [(id', payload)] else [] := by
  rw [records_of_calls (logEvent_calls ..)]
  cases s.focus with
  | none => rfl
  | some i => rfl

theorem logEvent_adds (cfg : Config) (env : External) (noSlot failed : String)
    {record : EventRecord} (agrees : RecordAgrees record) (s : State) :
    AddsRecords s (logEvent cfg env noSlot failed record.1 record.2 s) := by
  have records := logEvent_records cfg env noSlot failed record.1 record.2 s
  by_cases focus : s.focus.isSome
  · rw [if_pos focus] at records
    exact .one records agrees
  · rw [if_neg focus, List.append_nil] at records
    exact .same records

theorem prvTraceProduceSnapshot_records (cfg : Config) (env : External) (s : State) :
    (prvTraceProduceSnapshot cfg env s).records = s.records := by
  rw [records_of_calls (prvTraceProduceSnapshot_calls cfg env s)]
  cases s.focus with
  | none => exact List.append_nil _
  | some i => exact List.append_nil _

theorem prvTraceMergeSnapshot_records (cfg : Config) (env : External) (s : State) :
    (prvTraceMergeSnapshot cfg env s).records = s.records := by
  cases prvTraceMergeSnapshot_calls cfg env s with
  | inl same =>
      rw [State.records, same]
      rfl
  | inr merges =>
      obtain ⟨i, j, -, calls⟩ := merges
      rw [records_of_calls calls]
      exact List.append_nil _

theorem traceTaskSwitchedOut_adds (cfg : Config) (env : External) (s : State) :
    AddsRecords s (traceTaskSwitchedOut cfg env s) := by
  have agrees : RecordAgrees (TraceEvent.taskSwitchedOut, none) := by
    rw [recordAgrees_iff, eventIds_eq]
    decide +kernel
  simp only [traceTaskSwitchedOut]
  split
  · exact (logEvent_adds cfg env _ _ agrees s).trans (.same (prvTraceProduceSnapshot_records ..))
  · exact .same rfl

theorem traceTaskSwitchedIn_adds (cfg : Config) (env : External) (uxPriority : BitVec 32)
    (s : State) : AddsRecords s (traceTaskSwitchedIn cfg env uxPriority s) := by
  have payload : HasPayload TraceEvent.taskSwitchedIn := by decide +kernel
  have agrees : RecordAgrees (TraceEvent.taskSwitchedIn, some uxPriority) :=
    (payload.agrees_iff _).mpr rfl
  have switched : (prvTraceSwitchedTcb s.pxCurrentTcb s).2.records = s.records := by
    simp only [prvTraceSwitchedTcb]
    split <;> rfl
  simp only [traceTaskSwitchedIn]
  split
  · refine .trans (.same switched) ?_
    split
    · exact .trans (.same (prvTraceMergeSnapshot_records ..)) (logEvent_adds cfg env _ _ agrees _)
    · exact logEvent_adds cfg env _ _ agrees _
  · exact .same rfl

/-- The action is a hook that logs a record of a mutex. -/
def LogsMutex (s : State) : Op → Prop
  | .hook _ h => h.ofMutex = true ∧ filterGate s = true ∧ s.focus.isSome = true
  | _ => False

instance (s : State) (op : Op) : Decidable (LogsMutex s op) :=
  match op with
  | .hook _ h => inferInstanceAs (Decidable (h.ofMutex = true ∧ filterGate s = true ∧
      s.focus.isSome = true))
  | .enable _ _ | .disable | .exclude _ | .create _ _ _ _ | .delete _ | .start _ _ _
  | .switch _ _ _ _ | .setFilter _ _ | .ioRead _ | .ioSend | .ioReport _ _ | .process _
  | .getBuffer => isFalse id

theorem queueRecord_mutex {q : Queue} (isMutex : q.isMutex = true)
    (base semaphore id : BitVec 32) :
    queueRecord base semaphore (some id) q = some (id, none) := by
  simp only [Queue.isMutex] at isMutex
  simp only [queueRecord]
  cases kind : q.ucQueueType with
  | mutex | recursiveMutex => rfl
  | base | binarySemaphore | countingSemaphore | other _ =>
      rw [kind] at isMutex
      cases isMutex

theorem hookRecord_ofMutex {taskId : TaskHandle → BitVec 16} {h : Hook}
    (ofMutex : h.ofMutex = true) : (hookRecord taskId h).isSome = true := by
  cases h with
  | queueSend _ q | queueSendFailed _ q | blockingOnQueueSend _ q | queueReceive q
  | queueReceiveFailed q | blockingOnQueueReceive q =>
      simp only [hookRecord]
      rw [queueRecord_mutex ofMutex]
      rfl
  | taskSuspend _ | taskDelay _ | taskDelayUntil _ | queueSendFromIsr _ _
  | queueSendFromIsrFailed _ _ | queueReceiveFromIsr _ | queueReceiveFromIsrFailed _ =>
      cases ofMutex

theorem hook_records (cfg : Config) (env : External) (h : Hook) (s : State) :
    (h.run cfg env s).records = s.records ++
      if filterGate s = true ∧ s.focus.isSome = true then (hookRecord s.taskId h).toList
      else [] := by
  rw [Hook.run_eq]
  by_cases gate : filterGate s = true
  · rw [if_pos gate]
    cases hookRecord s.taskId h with
    | none =>
        rw [Option.toList_none, ite_self, List.append_nil]
        rfl
    | some record =>
        have logged : (logRecord cfg env record s).records =
            s.records ++ if s.focus.isSome then [record] else [] := by
          obtain ⟨id, payload⟩ := record
          cases payload with
          | none => exact logEvent_records ..
          | some payload => exact logEvent_records ..
        simp only [logRecord?, logged, gate, true_and, Option.toList_some]
  · rw [if_neg gate, if_neg fun both => gate both.1, List.append_nil]

/-! Whole runs. -/

def RecordsAgree (s : State) : Prop := ∀ record ∈ s.records, RecordAgrees record

theorem step_adds (cfg : Config) {s : State} {op : Op} (quiet : ¬ LogsMutex s op) :
    AddsRecords s (step cfg s op) := by
  cases op with
  | enable env io => exact .same (records_enableEffect.vTraceEnable cfg env io s)
  | exclude pcName => exact .same (records_enableEffect.vTraceExcludeTask cfg pcName s)
  | create env new name uxPriority =>
      exact .trans (.same rfl) (register_adds cfg env new.handle uxPriority _)
  | disable | delete _ | setFilter _ _ => exact .same rfl
  | start env next uxPriority =>
      exact .trans (.same rfl) (traceTaskSwitchedIn_adds cfg env uxPriority _)
  | switch out in' next uxPriority =>
      have selected : AddsRecords (traceTaskSwitchedOut cfg out s)
          ((traceTaskSwitchedOut cfg out s).select next) := .same rfl
      exact (traceTaskSwitchedOut_adds cfg out s).trans
        (selected.trans (traceTaskSwitchedIn_adds cfg in' uxPriority _))
  | hook env h =>
      have records := hook_records cfg env h s
      by_cases logs : filterGate s = true ∧ s.focus.isSome = true
      · rw [if_pos logs] at records
        refine ⟨_, records, ?_⟩
        intro record mem
        rw [Option.mem_toList] at mem
        refine (hookRecord_agrees mem).mpr ?_
        cases ofMutex : h.ofMutex with
        | false => rfl
        | true => exact absurd ⟨ofMutex, logs⟩ quiet
      · rw [if_neg logs, List.append_nil] at records
        exact .same records
  | ioRead r =>
      simp only [step]
      split
      · exact .same (records_controlEffect.ioRead cfg r s)
      · exact .same rfl
      · exact .same rfl
  | ioSend => exact .same (records_controlEffect.ioSend cfg s)
  | ioReport reports announcements =>
      exact .same (records_controlEffect.ioReport cfg reports announcements s)
  | process env => exact .same (records_controlEffect.vTraceProcessControlPlaneMessages cfg env s)
  | getBuffer => exact .same (records_controlEffect.pvTraceGetControlPlaneBuffer s)

theorem step_logsMutex (cfg : Config) {s : State} {op : Op} (logs : LogsMutex s op) :
    ∃ record, (step cfg s op).records = s.records ++ [record] ∧ ¬ RecordAgrees record := by
  cases op with
  | hook env h =>
      have records := hook_records cfg env h s
      have some : (hookRecord s.taskId h).isSome = true := hookRecord_ofMutex logs.1
      obtain ⟨record, made⟩ := Option.isSome_iff_exists.mp some
      rw [if_pos logs.2, made] at records
      refine ⟨record, records, ?_⟩
      rw [hookRecord_agrees made, logs.1]
      exact Bool.noConfusion
  | _ => exact logs.elim

/-- All records agree with the manifest exactly when no hook logs one of a mutex. -/
theorem records_agree_iff {cfg : Config} {ops : List Op} {s : State}
    (run : Reaches cfg (fun _ _ => True) ops s) :
    RecordsAgree s ↔ Reaches cfg (fun s op => ¬ LogsMutex s op) ops s := by
  refine run.holds_iff (P := RecordsAgree) ?_ ?_ fun _ none => nomatch none
  · intro s op agree allowed
    constructor
    · intro all
      refine ⟨allowed.1, fun logs => ?_⟩
      obtain ⟨record, added, not⟩ := step_logsMutex cfg logs
      exact not (all record (added ▸ List.mem_append_right _ (.head _)))
    · intro quiet
      obtain ⟨new, added, agree'⟩ := step_adds cfg quiet.2
      intro record mem
      rw [added] at mem
      cases List.mem_append.mp mem with
      | inl mem => exact agree record mem
      | inr mem => exact agree' record mem
  · intro s op disagree _ all
    refine disagree fun record mem => all record ?_
    by_cases logs : LogsMutex s op
    · obtain ⟨other, added, -⟩ := step_logsMutex cfg logs
      exact added ▸ List.mem_append_left _ mem
    · obtain ⟨new, added, -⟩ := step_adds cfg logs
      exact added ▸ List.mem_append_left _ mem

/-- Two tasks and a queue. -/
def queueRun : List Op :=
  createTasks 2 ++ [.start {} 1 1, .hook {} (.queueSend true ⟨.base, 0⟩), .switch {} {} 2 1,
    .hook {} (.queueReceiveFailed ⟨.binarySemaphore, 0⟩),
    .hook {} (.queueSendFromIsr true ⟨.mutex, 0⟩)]

theorem records_agree_iff_queue :
    RecordsAgree (queueRun.foldl (step Config.tests) (State.init Config.tests)) := by
  have run : Reaches Config.tests (fun _ _ => True) queueRun _ :=
    Transition.Run.of_check (by decide +kernel)
  have quiet : Reaches Config.tests (fun s op => ¬ LogsMutex s op) queueRun _ :=
    Transition.Run.of_check (by decide +kernel)
  exact (records_agree_iff run).mpr quiet

/-- A task gives a mutex. -/
def mutexRun : List Op :=
  createTasks 1 ++ [.start {} 1 1, .hook {} (.queueSend true ⟨.mutex, 0⟩)]

/-- The record has no payload, and its entry has one. -/
theorem mutex_record_disagrees :
    ¬ ∀ (cfg : Config) (ops : List Op) (s : State), Reaches cfg (fun _ _ => True) ops s →
      s.isEnabled = true → RecordsAgree s := by
  intro always
  have run : Reaches Config.tests (fun _ _ => True) mutexRun
      (mutexRun.foldl (step Config.tests) (State.init Config.tests)) :=
    Transition.Run.of_check (by decide +kernel)
  have last : (TraceEvent.mutexGive, none) ∈
      (mutexRun.foldl (step Config.tests) (State.init Config.tests)).records :=
    List.mem_of_getLast? (by decide +kernel)
  have agrees := always Config.tests mutexRun _ run (by decide +kernel) _ last
  have payload := ((recordAgrees_iff _).mp agrees).2
  revert payload
  decide +kernel

end ProbeTrace
