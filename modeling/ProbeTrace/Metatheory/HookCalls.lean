import ProbeTrace.Metatheory.RegistryView
import ProbeTrace.Metatheory.ErrorSafety

/-!
The calls the recording functions make. The destination of a record is the slot of
g_current_tcb, called the focus here, whatever the kernel's current task is.
-/
namespace ProbeTrace

/-- The slot the recording functions use, if tracing is on. -/
def State.focus (s : State) : Option Nat :=
  if s.isEnabled then s.currentTcb.bind fun t => s.getTcbProbe (some t) else none

/-- The slot of the task traced before. -/
def State.prevFocus (s : State) : Option Nat :=
  s.prevTcb.bind fun t => s.getTcbProbe (some t)

theorem focus_eq_some {s : State} {i : Nat} : s.focus = some i ↔
    s.isEnabled = true ∧ ∃ t, s.currentTcb = some t ∧ s.getTcbProbe (some t) = some i := by
  unfold State.focus
  by_cases on : s.isEnabled = true
  · rw [if_pos on, Option.bind_eq_some_iff]
    exact ⟨fun h => ⟨on, h⟩, fun h => h.2⟩
  · rw [if_neg on]
    exact ⟨fun h => (by cases h), fun h => absurd h.1 on⟩

/-! The parts of the state the recording functions do not write. -/

structure SchedulerView where
  currentTcb : Option TaskHandle
  prevTcb : Option TaskHandle
  pxCurrentTcb : Option TaskHandle
  started : Bool
  filterMask : BitVec 16

def State.schedulerView (s : State) : SchedulerView where
  currentTcb := s.currentTcb
  prevTcb := s.prevTcb
  pxCurrentTcb := s.pxCurrentTcb
  started := s.started
  filterMask := s.filterMask

structure SameScheduler (s t : State) : Prop where
  view : t.schedulerView = s.schedulerView
  registry : t.registry = s.registry

theorem prvTraceError_scheduler (msg : String) (s : State) :
    (s.prvTraceError msg).schedulerView = s.schedulerView := by
  rw [State.prvTraceError_eq]
  rfl

theorem modalityProbeProduceSnapshot_scheduler (env : External) (probe : Option Probe) (i : Nat)
    (s : State) :
    (s.modalityProbeProduceSnapshot env probe i).schedulerView = s.schedulerView := by
  unfold State.modalityProbeProduceSnapshot
  cases env.produceSnapshot <;> rfl

theorem scheduler_recordEffect : RecordEffect SameScheduler where
  refl _ := ⟨rfl, rfl⟩
  trans h k := ⟨k.view.trans h.view, k.registry.trans h.registry⟩
  enter _ := ⟨rfl, rfl⟩
  exit _ := ⟨rfl, rfl⟩
  error msg s := ⟨prvTraceError_scheduler msg s, prvTraceError_registry msg s⟩
  record _ _ _ _ := ⟨rfl, rfl⟩
  produce env probe i s := ⟨modalityProbeProduceSnapshot_scheduler env probe i s,
    modalityProbeProduceSnapshot_registry env probe i s⟩
  merge _ _ _ := ⟨rfl, rfl⟩
  fault _ := ⟨rfl, rfl⟩

/-! The calls. -/

def recordCall (s : State) (id : BitVec 32) (payload : Option (BitVec 32)) (i : Nat) : Call :=
  .recordEvent (s.tcbProbe i).probe id payload

def produceCall (env : External) (s : State) (i : Nat) : Call :=
  .produceSnapshot (s.tcbProbe i).probe i env.produceSnapshot

def mergeCall (s : State) (i j : Nat) : Call :=
  .mergeSnapshot (s.tcbProbe i).probe j (s.tcbProbe j).snapshot

/-- The end of a recording function: the assert on the library's result, and the exit. -/
def leave (cfg : Config) (eval : Bool) (msg : String) (s : State) : State :=
  traceAssert cfg eval msg s id fun s => s.exitCriticalSection

theorem leave_calls (cfg : Config) (eval : Bool) (msg : String) (s : State) :
    (leave cfg eval msg s).calls = s.calls := by
  rcases traceAssert_cases cfg eval msg s id fun s => s.exitCriticalSection
    with ⟨-, -, h⟩ | ⟨-, h⟩
  · rw [leave, h]
    exact State.prvTraceError_calls ..
  · rw [leave, h]
    rfl

theorem leave_true (cfg : Config) (msg : String) (s : State) :
    leave cfg true msg s = s.exitCriticalSection :=
  traceAssert_true ..

/-- Without a focus a recording function does nothing or reports an error. -/
def Declines (s t : State) : Prop :=
  t = s ∨ ∃ msg, t = s.enterCriticalSection.prvTraceError msg

theorem Declines.calls {s t : State} (h : Declines s t) : t.calls = s.calls := by
  rcases h with rfl | ⟨msg, rfl⟩
  · rfl
  · exact State.prvTraceError_calls ..

theorem leave_declines (cfg : Config) (msg : String) (s : State) :
    Declines s (leave cfg false msg s.enterCriticalSection) := by
  rcases traceAssert_cases cfg false msg s.enterCriticalSection id fun s => s.exitCriticalSection
    with ⟨-, -, h⟩ | ⟨-, h⟩
  · exact .inr ⟨_, h⟩
  · exact .inl (h.trans s.exit_enterCriticalSection)

/-! Recording an event. -/

theorem logEvent_focus (cfg : Config) (env : External) (noSlot failed : String)
    (id' : BitVec 32) (payload : Option (BitVec 32)) {s : State} {i : Nat}
    (focus : s.focus = some i) : logEvent cfg env noSlot failed id' payload s =
      leave cfg env.recordEvent failed
        (s.enterCriticalSection.logCall (recordCall s id' payload i)) := by
  obtain ⟨on, t, current, found⟩ := focus_eq_some.mp focus
  have looked : s.enterCriticalSection.getTcbProbe (some t) = some i := found
  unfold logEvent
  simp only [State.enter_isEnabled, State.enter_currentTcb, on, current, looked,
    Option.isSome_some, Bool.and_self, if_true, traceAssert_true]
  rfl

theorem logEvent_unfocused (cfg : Config) (env : External) (noSlot failed : String)
    (id' : BitVec 32) (payload : Option (BitVec 32)) {s : State} (focus : s.focus = none) :
    Declines s (logEvent cfg env noSlot failed id' payload s) := by
  unfold logEvent
  dsimp only
  split
  · rename_i ready
    rw [State.enter_isEnabled, State.enter_currentTcb, Bool.and_eq_true] at ready
    obtain ⟨t, current⟩ := Option.isSome_iff_exists.mp ready.2
    have none : s.enterCriticalSection.getTcbProbe s.enterCriticalSection.currentTcb = none := by
      rw [State.focus, if_pos ready.1, current, Option.bind_some] at focus
      rw [State.enter_currentTcb, current]
      exact focus
    rw [none]
    exact leave_declines ..
  · exact .inl s.exit_enterCriticalSection

theorem logEvent_calls (cfg : Config) (env : External) (noSlot failed : String)
    (id' : BitVec 32) (payload : Option (BitVec 32)) (s : State) :
    (logEvent cfg env noSlot failed id' payload s).calls =
      s.calls ++ (s.focus.map (recordCall s id' payload)).toList := by
  cases focus : s.focus with
  | none =>
      rw [(logEvent_unfocused cfg env noSlot failed id' payload focus).calls]
      simp
  | some i =>
      rw [logEvent_focus cfg env noSlot failed id' payload focus, leave_calls]
      rfl

/-! Producing a snapshot. -/

theorem prvTraceProduceSnapshot_focus (cfg : Config) (env : External) {s : State} {i : Nat}
    (focus : s.focus = some i) : prvTraceProduceSnapshot cfg env s =
      leave cfg env.produceSnapshot.isSome "Failed to produce Modality probe snapshot"
        (s.enterCriticalSection.modalityProbeProduceSnapshot env (s.tcbProbe i).probe i) := by
  obtain ⟨on, t, current, found⟩ := focus_eq_some.mp focus
  have looked : s.enterCriticalSection.getTcbProbe (some t) = some i := found
  unfold prvTraceProduceSnapshot
  simp only [State.enter_isEnabled, State.enter_currentTcb, on, current, looked,
    Option.isSome_some, Bool.and_self, if_true, traceAssert_true]
  rfl

theorem prvTraceProduceSnapshot_unfocused (cfg : Config) (env : External) {s : State}
    (focus : s.focus = none) : Declines s (prvTraceProduceSnapshot cfg env s) := by
  unfold prvTraceProduceSnapshot
  dsimp only
  split
  · rename_i ready
    rw [State.enter_isEnabled, State.enter_currentTcb, Bool.and_eq_true] at ready
    obtain ⟨t, current⟩ := Option.isSome_iff_exists.mp ready.2
    have none : s.enterCriticalSection.getTcbProbe s.enterCriticalSection.currentTcb = none := by
      rw [State.focus, if_pos ready.1, current, Option.bind_some] at focus
      rw [State.enter_currentTcb, current]
      exact focus
    rw [none]
    exact leave_declines ..
  · exact .inl s.exit_enterCriticalSection

theorem modalityProbeProduceSnapshot_calls (env : External) (probe : Option Probe) (i : Nat)
    (s : State) : (s.modalityProbeProduceSnapshot env probe i).calls =
      s.calls ++ [.produceSnapshot probe i env.produceSnapshot] := by
  unfold State.modalityProbeProduceSnapshot
  cases env.produceSnapshot <;> rfl

theorem prvTraceProduceSnapshot_calls (cfg : Config) (env : External) (s : State) :
    (prvTraceProduceSnapshot cfg env s).calls =
      s.calls ++ (s.focus.map (produceCall env s)).toList := by
  cases focus : s.focus with
  | none =>
      rw [(prvTraceProduceSnapshot_unfocused cfg env focus).calls]
      simp
  | some i =>
      rw [prvTraceProduceSnapshot_focus cfg env focus, leave_calls,
        modalityProbeProduceSnapshot_calls]
      rfl

/-! Merging the snapshot of the task traced before. -/

theorem prvTraceMergeSnapshot_focus (cfg : Config) (env : External) {s : State} {i j : Nat}
    (focus : s.focus = some i) (prev : s.prevFocus = some j) :
    prvTraceMergeSnapshot cfg env s =
      leave cfg env.mergeSnapshot "Failed to merge Modality probe snapshot"
        (s.enterCriticalSection.logCall (mergeCall s i j)) := by
  obtain ⟨on, t, current, found⟩ := focus_eq_some.mp focus
  obtain ⟨p, previous, foundPrev⟩ := Option.bind_eq_some_iff.mp prev
  have looked : s.enterCriticalSection.getTcbProbe (some t) = some i := found
  have lookedPrev : s.enterCriticalSection.getTcbProbe (some p) = some j := foundPrev
  unfold prvTraceMergeSnapshot
  simp only [State.enter_isEnabled, State.enter_currentTcb, State.enter_prevTcb, on, current,
    previous, looked, lookedPrev, Option.isSome_some, Bool.and_self, if_true, traceAssert_true]
  rfl

theorem prvTraceMergeSnapshot_first (cfg : Config) (env : External) {s : State}
    (prev : s.prevTcb = none) : prvTraceMergeSnapshot cfg env s = s := by
  unfold prvTraceMergeSnapshot
  simp [prev]

theorem prvTraceMergeSnapshot_calls (cfg : Config) (env : External) (s : State) :
    (prvTraceMergeSnapshot cfg env s).calls = s.calls ∨
      ∃ i j, s.focus = some i ∧
        (prvTraceMergeSnapshot cfg env s).calls = s.calls ++ [mergeCall s i j] := by
  let P (t : State) : Prop := t.calls = s.calls ∨
    ∃ i j, s.focus = some i ∧ t.calls = s.calls ++ [mergeCall s i j]
  have failed : ∀ msg, P (s.enterCriticalSection.prvTraceError msg) :=
    fun _ => .inl (State.prvTraceError_calls ..)
  unfold prvTraceMergeSnapshot
  dsimp only
  split
  · rename_i ready
    simp only [State.enter_isEnabled, State.enter_currentTcb, Bool.and_eq_true] at ready
    obtain ⟨t, current⟩ := Option.isSome_iff_exists.mp ready.1.2
    refine traceAssert_induction (P := P) (fun _ _ => failed _) fun _ => ?_
    refine traceAssert_induction (P := P) (fun _ _ => failed _) fun _ => ?_
    split
    · rename_i i j found _
      rw [State.enter_currentTcb, current] at found
      exact .inr ⟨i, j, focus_eq_some.mpr ⟨ready.1.1, t, current, found⟩, leave_calls ..⟩
    · exact .inl rfl
  · exact .inl rfl

/-! The calls of the hooks. -/

/-- The probe a call is made for. -/
def Call.probe : Call → Option Probe
  | .initializeProbe storage _ _ => some storage
  | .produceSnapshot probe _ _ | .mergeSnapshot probe _ _ | .recordEvent probe _ _
  | .processControlMessage probe _ => probe
  | .report probe | .announceMutators probe => some probe

/-- The slot a snapshot is produced into. -/
def Call.producesInto : Call → Option Nat
  | .produceSnapshot _ slot _ => some slot
  | .initializeProbe _ _ _ | .mergeSnapshot _ _ _ | .recordEvent _ _ _
  | .processControlMessage _ _ | .report _ | .announceMutators _ => none

/-- The call is made for the probe of the task's slot, and a snapshot goes into that
slot. -/
def CallFor (s : State) (task : TaskHandle) (c : Call) : Prop :=
  ∃ i, s.getTcbProbe (some task) = some i ∧ c.probe = (s.tcbProbe i).probe ∧
    ∀ slot ∈ c.producesInto, slot = i

/-- From `s` to `t` calls are made for `task` only. -/
def CallsOnlyFor (task : Option TaskHandle) (s t : State) : Prop :=
  ∃ new, t.calls = s.calls ++ new ∧ ∀ c ∈ new, ∃ own, task = some own ∧ CallFor s own c

theorem callFor_of_registry {s t : State} (h : t.registry = s.registry) {task : TaskHandle}
    {c : Call} (k : CallFor t task c) : CallFor s task c := by
  obtain ⟨i, found, probe, slot⟩ := k
  have masked : (t.tcbProbe i).masked = (s.tcbProbe i).masked := by
    rw [tcbProbe_masked, tcbProbe_masked, h]
  have same : (t.tcbProbe i).masked.probe = (s.tcbProbe i).masked.probe := by rw [masked]
  refine ⟨i, ?_, probe.trans same, slot⟩
  rw [← found, getTcbProbe_eq, getTcbProbe_eq, h]

namespace CallsOnlyFor
variable {task : Option TaskHandle} {s r t : State}

theorem none (h : t.calls = s.calls) : CallsOnlyFor task s t :=
  ⟨[], by rw [h, List.append_nil], fun _ mem => by cases mem⟩

theorem trans (h : CallsOnlyFor task s r) (same : SameScheduler s r)
    (k : CallsOnlyFor task r t) : CallsOnlyFor task s t := by
  obtain ⟨new, calls, only⟩ := h
  obtain ⟨new', calls', only'⟩ := k
  refine ⟨new ++ new', by rw [calls', calls, List.append_assoc], ?_⟩
  intro c mem
  rcases List.mem_append.mp mem with mem | mem
  · exact only c mem
  · obtain ⟨own, isOwn, call⟩ := only' c mem
    exact ⟨own, isOwn, callFor_of_registry same.registry call⟩

/-- One call for the focus. -/
theorem focus {f : Nat → Call}
    (calls : t.calls = s.calls ++ (s.focus.map f).toList)
    (probe : ∀ i, (f i).probe = (s.tcbProbe i).probe)
    (slot : ∀ i, ∀ j ∈ (f i).producesInto, j = i) : CallsOnlyFor s.currentTcb s t := by
  refine ⟨_, calls, ?_⟩
  intro c mem
  rw [Option.mem_toList, Option.map_eq_some_iff] at mem
  obtain ⟨i, focus, rfl⟩ := mem
  obtain ⟨-, own, current, found⟩ := focus_eq_some.mp focus
  exact ⟨own, current, i, found, probe i, slot i⟩

end CallsOnlyFor

theorem logEvent_onlyFor (cfg : Config) (env : External) (noSlot failed : String)
    (id' : BitVec 32) (payload : Option (BitVec 32)) (s : State) :
    CallsOnlyFor s.currentTcb s (logEvent cfg env noSlot failed id' payload s) :=
  .focus (logEvent_calls ..) (fun _ => rfl) fun _ _ mem => by cases mem

theorem prvTraceProduceSnapshot_onlyFor (cfg : Config) (env : External) (s : State) :
    CallsOnlyFor s.currentTcb s (prvTraceProduceSnapshot cfg env s) :=
  .focus (prvTraceProduceSnapshot_calls ..) (fun _ => rfl) fun i j mem => by
    injection mem with same
    exact same.symm

theorem prvTraceMergeSnapshot_onlyFor (cfg : Config) (env : External) (s : State) :
    CallsOnlyFor s.currentTcb s (prvTraceMergeSnapshot cfg env s) := by
  rcases prvTraceMergeSnapshot_calls cfg env s with same | ⟨i, j, focus, calls⟩
  · exact .none same
  · refine .focus (f := fun i => mergeCall s i j) ?_ (fun _ => rfl) fun _ _ mem => by cases mem
    rw [calls, focus]
    rfl

theorem traceTaskSwitchedOut_onlyFor (cfg : Config) (env : External) (s : State) :
    CallsOnlyFor s.currentTcb s (traceTaskSwitchedOut cfg env s) := by
  have logged : SameScheduler s (prvTraceLogEvent cfg env TraceEvent.taskSwitchedOut s) :=
    scheduler_recordEffect.logEvent ..
  unfold traceTaskSwitchedOut
  split
  · refine (logEvent_onlyFor ..).trans logged ?_
    have produced := prvTraceProduceSnapshot_onlyFor cfg env
      (prvTraceLogEvent cfg env TraceEvent.taskSwitchedOut s)
    rwa [show (prvTraceLogEvent cfg env TraceEvent.taskSwitchedOut s).currentTcb = s.currentTcb from
      congrArg SchedulerView.currentTcb logged.view] at produced
  · exact .none rfl

theorem prvTraceSwitchedTcb_currentTcb (new : Option TaskHandle) (s : State) :
    (prvTraceSwitchedTcb new s).2.currentTcb = new := by
  unfold prvTraceSwitchedTcb
  split
  · rfl
  · rename_i same
    exact not_not.mp same

theorem traceTaskSwitchedIn_onlyFor (cfg : Config) (env : External) (uxPriority : BitVec 32)
    (s : State) : CallsOnlyFor s.pxCurrentTcb s (traceTaskSwitchedIn cfg env uxPriority s) := by
  have current := prvTraceSwitchedTcb_currentTcb s.pxCurrentTcb s
  have registry : (prvTraceSwitchedTcb s.pxCurrentTcb s).2.registry = s.registry :=
    registry_hookEffect.switched s.pxCurrentTcb s
  have calls : (prvTraceSwitchedTcb s.pxCurrentTcb s).2.calls = s.calls := by
    unfold prvTraceSwitchedTcb
    split <;> rfl
  unfold traceTaskSwitchedIn
  split
  · dsimp only
    generalize (prvTraceSwitchedTcb s.pxCurrentTcb s).1 = didSwitch
    generalize (prvTraceSwitchedTcb s.pxCurrentTcb s).2 = r at current registry calls ⊢
    have recorded : ∀ u, SameScheduler r u → CallsOnlyFor r.currentTcb r u →
        CallsOnlyFor r.currentTcb r
          (prvTraceLogEventWithPayload cfg env TraceEvent.taskSwitchedIn uxPriority u) := by
      intro u same only
      refine only.trans same ?_
      have logged : CallsOnlyFor u.currentTcb u
          (prvTraceLogEventWithPayload cfg env TraceEvent.taskSwitchedIn uxPriority u) :=
        logEvent_onlyFor ..
      rwa [show u.currentTcb = r.currentTcb from
        congrArg SchedulerView.currentTcb same.view] at logged
    have only : CallsOnlyFor r.currentTcb r
        (prvTraceLogEventWithPayload cfg env TraceEvent.taskSwitchedIn uxPriority
          (if didSwitch ≠ 0 then prvTraceMergeSnapshot cfg env r else r)) := by
      split
      · exact recorded _ (scheduler_recordEffect.prvTraceMergeSnapshot cfg env r)
          (prvTraceMergeSnapshot_onlyFor cfg env r)
      · exact recorded r (scheduler_recordEffect.refl r) (.none rfl)
    obtain ⟨new, appended, owned⟩ := only
    refine ⟨new, by rw [appended, calls], ?_⟩
    intro c mem
    obtain ⟨own, isOwn, call⟩ := owned c mem
    exact ⟨own, current.symm.trans isOwn, callFor_of_registry registry call⟩
  · exact .none rfl

/-- The hooks a kernel action takes, each with the state it is called in. -/
inductive HookTaken (cfg : Config) (s : State) : Op → State → External → KernelHook → Prop
  | start (env : External) (next : TaskHandle) (uxPriority : BitVec 32) :
      HookTaken cfg s (.start env next uxPriority) { s.select next with started := true } env
        (.taskSwitchedIn uxPriority)
  | switchedOut (out in' : External) (next : TaskHandle) (uxPriority : BitVec 32) :
      HookTaken cfg s (.switch out in' next uxPriority) s out .taskSwitchedOut
  | switchedIn (out in' : External) (next : TaskHandle) (uxPriority : BitVec 32) :
      HookTaken cfg s (.switch out in' next uxPriority)
        ((traceTaskSwitchedOut cfg out s).select next) in' (.taskSwitchedIn uxPriority)
  | inTask (env : External) (h : Hook) : HookTaken cfg s (.hook env h) s env (.inTask h)

end ProbeTrace
