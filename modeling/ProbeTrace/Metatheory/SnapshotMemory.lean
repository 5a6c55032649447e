import ProbeTrace.Foundation.AccessLog
import ProbeTrace.Metatheory.ControlMoves
import ProbeTrace.Metatheory.ScheduleRefinement

/-!
The snapshots of the slots as a memory. modality_probe_produce_snapshot writes the snapshot of
a slot and modality_probe_merge_snapshot reads one; in every run each read returns what the
last write before it stored, whatever fails, is deleted or is turned off in between.
-/
namespace ProbeTrace

/-- A successful produce writes the slot's snapshot, a merge reads it. -/
def snapshotAccesses : Accesses Call Nat Snapshot where
  writes
    | .produceSnapshot _ slot (some snapshot) => some (slot, snapshot)
    | .produceSnapshot _ _ none | .initializeProbe _ _ _ | .mergeSnapshot _ _ _
    | .recordEvent _ _ _ | .processControlMessage _ _ | .report _ | .announceMutators _ => none
  reads
    | .mergeSnapshot _ slot snapshot => some (slot, snapshot)
    | .initializeProbe _ _ _ | .produceSnapshot _ _ _ | .recordEvent _ _ _
    | .processControlMessage _ _ | .report _ | .announceMutators _ => none

def State.snapshots (s : State) : Nat → Snapshot := fun i => (s.tcbProbe i).snapshot

/-- The slots hold what the calls stored, and the merges passed it. -/
abbrev Recalls (s : State) : Prop := snapshotAccesses.Mirrors (fun _ => 0) s.snapshots s.calls

/-- No snapshot is read or written from `s` to `t`. -/
structure SameSnapshots (s t : State) : Prop where
  snapshots : t.snapshots = s.snapshots
  calls : ∃ new, t.calls = s.calls ++ new ∧
    ∀ c ∈ new, snapshotAccesses.writes c = none ∧ snapshotAccesses.reads c = none

namespace SameSnapshots
variable {s r t : State}

theorem same (snapshots : t.snapshots = s.snapshots) (calls : t.calls = s.calls) :
    SameSnapshots s t :=
  ⟨snapshots, [], by rw [calls, List.append_nil], fun _ none => absurd none List.not_mem_nil⟩

theorem refl (s : State) : SameSnapshots s s := same rfl rfl

theorem log {c : Call} (writes : snapshotAccesses.writes c = none)
    (reads : snapshotAccesses.reads c = none) (s : State) : SameSnapshots s (s.logCall c) :=
  ⟨rfl, [c], rfl, fun _ mem => List.mem_singleton.mp mem ▸ ⟨writes, reads⟩⟩

theorem error (msg : String) (s : State) : SameSnapshots s (s.prvTraceError msg) := by
  rw [State.prvTraceError_eq]
  exact same rfl rfl

theorem trans (h : SameSnapshots s r) (k : SameSnapshots r t) : SameSnapshots s t := by
  obtain ⟨new, calls, silent⟩ := h.calls
  obtain ⟨more, calls', silent'⟩ := k.calls
  refine ⟨k.snapshots.trans h.snapshots, new ++ more, ?_, fun c mem => ?_⟩
  · rw [calls', calls, List.append_assoc]
  · cases List.mem_append.mp mem with
    | inl here => exact silent c here
    | inr later => exact silent' c later

theorem recalls (h : SameSnapshots s t) (recalls : Recalls s) : Recalls t := by
  obtain ⟨new, calls, silent⟩ := h.calls
  rw [Recalls, h.snapshots, calls]
  exact Accesses.Mirrors.skips recalls silent

end SameSnapshots

/-! What touches no snapshot. -/

theorem snapshots_controlEffect : ControlEffect SameSnapshots where
  refl := .refl
  trans := .trans
  enter _ := .same rfl rfl
  exit _ := .same rfl rfl
  error := .error
  receive _ _ _ := .same rfl rfl
  send _ _ _ _ _ := .same rfl rfl
  process _ _ s := .log rfl rfl s
  report _ s := .log rfl rfl s
  announce _ s := .log rfl rfl s
  buffer _ _ := .same rfl rfl
  iters _ _ := .same rfl rfl
  point _ _ _ := .same rfl rfl

theorem snapshots_enableEffect : EnableEffect SameSnapshots where
  refl := .refl
  trans := .trans
  enter _ := .same rfl rfl
  exit _ := .same rfl rfl
  error := .error
  exclude _ _ _ := .same rfl rfl
  addTask _ _ _ _ := .same rfl rfl
  ioTask _ _ := .same rfl rfl
  enabled _ := .same rfl rfl

theorem leave_snapshots (cfg : Config) (eval : Bool) (msg : String) (s : State) :
    SameSnapshots s (leave cfg eval msg s) :=
  traceAssert_induction (fun _ _ => .error _ s) fun _ => .same rfl rfl

theorem declines_snapshots {s t : State} (h : Declines s t) : SameSnapshots s t := by
  cases h with
  | inl same => exact same ▸ .refl s
  | inr failed =>
      obtain ⟨msg, eq⟩ := failed
      rw [eq]
      exact .trans (r := s.enterCriticalSection) (.same rfl rfl) (.error ..)

theorem logEvent_snapshots (cfg : Config) (env : External) (noSlot failed : String)
    (id' : BitVec 32) (payload : Option (BitVec 32)) (s : State) :
    SameSnapshots s (logEvent cfg env noSlot failed id' payload s) := by
  cases focus : s.focus with
  | none => exact declines_snapshots (logEvent_unfocused cfg env noSlot failed id' payload focus)
  | some i =>
      rw [logEvent_focus cfg env noSlot failed id' payload focus]
      have recorded : SameSnapshots s
          (s.enterCriticalSection.logCall (recordCall s id' payload i)) :=
        .trans (r := s.enterCriticalSection) (.same rfl rfl) (.log rfl rfl _)
      exact recorded.trans (leave_snapshots ..)

/-! The writes. -/

theorem snapshots_set {s : State} {i : Nat} (bound : i < s.tcbProbes.length) (v : Snapshot) :
    (s.modifyTcbProbe i fun e => { e with snapshot := v }).snapshots =
      Function.update s.snapshots i v := by
  funext j
  by_cases same : j = i
  · subst same
    rw [Function.update_self, State.snapshots, State.tcbProbe, State.modifyTcbProbe,
      List.getD_eq_getElem?_getD, List.getElem?_set_self bound]
    rfl
  · rw [Function.update_of_ne same, State.snapshots, modifyTcbProbe_other same]
    rfl

theorem produce_recalls {s : State} {i : Nat} (recalls : Recalls s)
    (bound : i < s.tcbProbes.length) (env : External) (probe : Option Probe) :
    Recalls (s.modalityProbeProduceSnapshot env probe i) := by
  unfold State.modalityProbeProduceSnapshot
  cases env.produceSnapshot with
  | none => exact (SameSnapshots.log rfl rfl s).recalls recalls
  | some v =>
      change snapshotAccesses.Mirrors _
        (State.modifyTcbProbe (s.logCall _) i _).snapshots (s.calls ++ [_])
      rw [snapshots_set (s := s.logCall _) bound]
      exact recalls.write rfl rfl

/-- A slot that is found is in the table. -/
theorem getTcbProbe_lt {s : State} {task : Option TaskHandle} {i : Nat}
    (found : s.getTcbProbe task = some i) : i < s.tcbProbes.length :=
  SlotTable.find_lt found

theorem prvTraceProduceSnapshot_recalls (cfg : Config) (env : External) {s : State}
    (recalls : Recalls s) : Recalls (prvTraceProduceSnapshot cfg env s) := by
  cases focus : s.focus with
  | none =>
      exact (declines_snapshots (prvTraceProduceSnapshot_unfocused cfg env focus)).recalls recalls
  | some i =>
      rw [prvTraceProduceSnapshot_focus cfg env focus]
      obtain ⟨-, task, -, found⟩ := focus_eq_some.mp focus
      have produced := produce_recalls (s := s.enterCriticalSection) recalls
        (getTcbProbe_lt found) env (s.tcbProbe i).probe
      exact (leave_snapshots ..).recalls produced

/-! The reads. -/

theorem merge_recalls {s : State} (recalls : Recalls s) (probe : Option Probe) (j : Nat) :
    Recalls (s.modalityProbeMergeSnapshot probe j) :=
  recalls.read (k := j) rfl rfl

theorem prvTraceMergeSnapshot_recalls (cfg : Config) (env : External) {s : State}
    (recalls : Recalls s) : Recalls (prvTraceMergeSnapshot cfg env s) := by
  have entered : Recalls s.enterCriticalSection := recalls
  have failed : ∀ msg, Recalls (s.enterCriticalSection.prvTraceError msg) :=
    fun msg => (SameSnapshots.error msg s.enterCriticalSection).recalls entered
  unfold prvTraceMergeSnapshot
  dsimp only
  split
  · refine traceAssert_induction (P := Recalls) (fun _ _ => failed _) fun _ => ?_
    refine traceAssert_induction (P := Recalls) (fun _ _ => failed _) fun _ => ?_
    split
    · rename_i i j _ _
      exact (leave_snapshots ..).recalls (merge_recalls entered _ j)
    · exact recalls
  · exact recalls

/-! The hooks. -/

theorem traceTaskSwitchedOut_recalls (cfg : Config) (env : External) {s : State}
    (recalls : Recalls s) : Recalls (traceTaskSwitchedOut cfg env s) := by
  unfold traceTaskSwitchedOut
  split
  · exact prvTraceProduceSnapshot_recalls cfg env ((logEvent_snapshots ..).recalls recalls)
  · exact recalls

theorem traceTaskSwitchedIn_recalls (cfg : Config) (env : External) (uxPriority : BitVec 32)
    {s : State} (recalls : Recalls s) : Recalls (traceTaskSwitchedIn cfg env uxPriority s) := by
  have switched : Recalls (prvTraceSwitchedTcb s.pxCurrentTcb s).2 := by
    unfold prvTraceSwitchedTcb
    split
    · exact recalls
    · exact recalls
  unfold traceTaskSwitchedIn
  split
  · dsimp only
    refine (logEvent_snapshots ..).recalls ?_
    split
    · exact prvTraceMergeSnapshot_recalls cfg env switched
    · exact switched
  · exact recalls

/-! Registration. -/

theorem nameAndAlloc_snapshots (cfg : Config) (env : External) (task : TaskHandle) (s : State) :
    SameSnapshots s (nameAndAlloc cfg env task s).2 := by
  have slots := (sameSlots_allocEffect.nameAndAlloc cfg env task s).tcbProbes
  have same : (nameAndAlloc cfg env task s).2.snapshots = s.snapshots := by
    funext i
    rw [State.snapshots, State.tcbProbe, slots]
    rfl
  have named := nameTask_calls cfg task s
  refine ⟨same, ?_⟩
  simp only [nameAndAlloc]
  split
  · exact (SameSnapshots.same (s := s) (t := { s with calls := s.calls }) rfl rfl).calls.imp
      fun new h => ⟨named.trans h.1, h.2⟩
  · have called := (allocProbe_eq cfg env (nameTask cfg task s).1 (nameTask cfg task s).2).2.2
    rw [named] at called
    refine ⟨_, called, fun c mem => ?_⟩
    split at mem
    · rw [List.mem_singleton.mp mem]
      exact ⟨rfl, rfl⟩
    · exact absurd mem List.not_mem_nil

/-- A write to a slot that leaves its snapshot alone. -/
theorem modifyTcbProbe_snapshots {f : TcbProbe → TcbProbe} (kept : ∀ e, (f e).snapshot = e.snapshot)
    (i : Nat) (s : State) : (s.modifyTcbProbe i f).snapshots = s.snapshots := by
  funext j
  by_cases same : j = i
  · subst same
    by_cases bound : j < s.tcbProbes.length
    · rw [State.snapshots, State.tcbProbe, State.modifyTcbProbe, List.getD_eq_getElem?_getD,
        List.getElem?_set_self bound]
      exact kept _
    · have unchanged : s.tcbProbes.set j (f (s.tcbProbe j)) = s.tcbProbes :=
        List.set_eq_of_length_le (Nat.le_of_not_lt bound)
      rw [State.snapshots, State.tcbProbe, State.modifyTcbProbe]
      exact congrArg (fun slots => (List.getD slots j {}).snapshot) unchanged
  · rw [State.snapshots, modifyTcbProbe_other same]
    rfl

theorem addControlPlaneBuffers_snapshots (cfg : Config) (env : External) (i : Nat) (s : State) :
    SameSnapshots s (addControlPlaneBuffers cfg env i s) := by
  refine .same ?_ (addControlPlaneBuffers_eq cfg env i s).2.1
  have unlessNull : ∀ (pointer : Option Nat) (msg : String) (t : State),
      (errorIfNull pointer msg t).snapshots = t.snapshots := by
    intro pointer msg t
    unfold errorIfNull
    split
    · exact (SameSnapshots.error msg t).snapshots
    · rfl
  have allocated : (allocTaskLocalBuffer env (allocMessageBuffer cfg env s).2).2.snapshots =
      s.snapshots := by
    unfold allocTaskLocalBuffer allocMessageBuffer
    split
    · split <;> rfl
    · split <;> rfl
  simp only [addControlPlaneBuffers]
  split
  · rw [modifyTcbProbe_snapshots, unlessNull, unlessNull, allocated]
    exact fun _ => rfl
  · rw [unlessNull, unlessNull, allocated]

theorem addTcbProbe_recalls (cfg : Config) (env : External) (task : TaskHandle) (probe : Probe)
    {s : State} (recalls : Recalls s) : Recalls (addTcbProbe cfg env task probe s) := by
  unfold addTcbProbe
  cases free : s.getTcbProbe none with
  | none => exact (SameSnapshots.error _ s).recalls recalls
  | some i =>
      have produced := produce_recalls recalls (getTcbProbe_lt free) env (some probe)
      refine traceAssert_induction (P := Recalls)
        (fun _ _ => (SameSnapshots.error ..).recalls produced) fun _ => ?_
      have put : SameSnapshots (s.modalityProbeProduceSnapshot env (some probe) i)
          (State.modifyTcbProbe (s.modalityProbeProduceSnapshot env (some probe) i) i
            fun e => { e with tcb := some task, probe := some probe }) := by
        refine .same (modifyTcbProbe_snapshots ?_ i _) rfl
        exact fun _ => rfl
      dsimp only
      split
      · exact (put.trans (addControlPlaneBuffers_snapshots ..)).recalls produced
      · exact put.recalls produced

theorem attachProbe_recalls (cfg : Config) (env : External) (task : TaskHandle)
    (uxPriority : BitVec 32) (probe : Probe) {s : State} (recalls : Recalls s) :
    Recalls (attachProbe cfg env task uxPriority probe s) := by
  have added := addTcbProbe_recalls cfg env task probe (s := State.noteRegistered task probe s)
    recalls
  obtain ⟨-, calls, slots, -, -⟩ := attachProbe_after cfg env task uxPriority probe s rfl
  have after : SameSnapshots (addTcbProbe cfg env task probe (State.noteRegistered task probe s))
      (attachProbe cfg env task uxPriority probe s) := by
    refine ⟨?_, _, calls, fun c mem => ?_⟩
    · funext i
      rw [State.snapshots, State.tcbProbe, slots]
      rfl
    · rw [List.mem_singleton.mp mem]
      exact ⟨rfl, rfl⟩
  exact after.recalls added

theorem register_recalls (cfg : Config) (env : External) (task : TaskHandle)
    (uxPriority : BitVec 32) {s : State} (recalls : Recalls s) :
    Recalls (prvTraceRegisterTaskProbe cfg env task uxPriority s) := by
  have alloc := (nameAndAlloc_snapshots cfg env task s.enterCriticalSection).recalls recalls
  simp only [prvTraceRegisterTaskProbe]
  split
  · cases outcome : nameAndAlloc cfg env task s.enterCriticalSection with
    | mk probe r =>
        rw [outcome] at alloc
        cases probe with
        | none => exact alloc
        | some probe => exact attachProbe_recalls cfg env task uxPriority probe alloc
  · exact recalls

/-! The run. -/

theorem step_recalls {cfg : Config} {s : State} (recalls : Recalls s) (op : Op) :
    Recalls (step cfg s op) := by
  cases op with
  | enable env io => exact (snapshots_enableEffect.vTraceEnable cfg env io s).recalls recalls
  | exclude pcName => exact (snapshots_enableEffect.vTraceExcludeTask cfg pcName s).recalls recalls
  | create env new name uxPriority =>
      exact register_recalls cfg env new.handle uxPriority (s := s.addTask cfg new name) recalls
  | disable | delete _ | setFilter _ _ | getBuffer => exact recalls
  | start env next uxPriority =>
      exact traceTaskSwitchedIn_recalls cfg env uxPriority
        (s := { s.select next with started := true }) recalls
  | switch out in' next uxPriority =>
      exact traceTaskSwitchedIn_recalls cfg in' uxPriority
        (s := (traceTaskSwitchedOut cfg out s).select next)
        (traceTaskSwitchedOut_recalls cfg out recalls)
  | hook env h =>
      exact h.run_induction cfg env (P := Recalls) recalls fun noSlot failed id payload =>
        (logEvent_snapshots cfg env noSlot failed id payload s).recalls recalls
  | ioRead r =>
      unfold step
      dsimp only
      split
      · exact (snapshots_controlEffect.ioRead cfg r s).recalls recalls
      · exact recalls
      · exact recalls
  | ioSend => exact (snapshots_controlEffect.ioSend cfg s).recalls recalls
  | ioReport reports announcements =>
      exact (snapshots_controlEffect.ioReport cfg reports announcements s).recalls recalls
  | process env =>
      exact (snapshots_controlEffect.vTraceProcessControlPlaneMessages cfg env s).recalls recalls

/-- The snapshots are a memory in every run. -/
theorem snapshot_memory {cfg : Config} {ops : List Op} {s : State}
    (reached : Reaches cfg (fun _ _ => True) ops s) :
    snapshotAccesses.Mirrors (fun _ => 0) s.snapshots s.calls := by
  refine reached.invariant (P := Recalls) (fun s op recalls _ => step_recalls recalls op) ?_
  have zero : (State.init cfg).snapshots = fun _ => 0 := by
    funext i
    rw [State.snapshots, State.tcbProbe, State.init, List.getD_eq_getElem?_getD,
      List.getElem?_replicate]
    split <;> rfl
  rw [Recalls, zero]
  exact .nil _

theorem snapshot_memory_mixed : snapshotAccesses.Mirrors (fun _ => 0)
    (mixedRun.foldl (step Config.tests) (State.init Config.tests)).snapshots
    (mixedRun.foldl (step Config.tests) (State.init Config.tests)).calls := by
  have reached : Reaches Config.tests (fun _ _ => True) mixedRun
      (mixedRun.foldl (step Config.tests) (State.init Config.tests)) :=
    Transition.Run.of_check (by decide +kernel)
  exact snapshot_memory reached

end ProbeTrace
