import ProbeTrace.Foundation.TableScan
import ProbeTrace.Metatheory.Slots
import ProbeTrace.Metatheory.StepCalls
import ProbeTrace.Model.ReportPass

/-!
The IO task's passes over the probes while other tasks run. Every probe that was registered
when a pass began is reported in it once, in the order of the slots, and no probe twice; a pass
nobody interrupts is vTraceProbeIterator.
-/
namespace ProbeTrace

/-- The probe a call serves in this kind of pass. -/
def Pass.served (pass : Pass) : Call → Option Probe
  | .report probe => if pass = .reports then some probe else none
  | .announceMutators probe => if pass = .announcements then some probe else none
  | .initializeProbe _ _ _ | .produceSnapshot _ _ _ | .mergeSnapshot _ _ _
  | .recordEvent _ _ _ | .processControlMessage _ _ => none

/-- The probes this kind of pass was made for, in order. -/
def Pass.servedBy (pass : Pass) (s : State) : List Probe := s.calls.filterMap pass.served

/-- The probe of each slot. -/
def State.probes (s : State) (i : Nat) : Option Probe := (s.tcbProbe i).probe

/-- Since `s` the pass has served the first `n` slots. -/
def Collected (pass : Pass) (s t : State) (n : Nat) : Prop :=
  ∃ seen, pass.servedBy t = pass.servedBy s ++ seen ∧
    TableScan.Between s.probes t.probes n seen

/-- All that was registered was served, nothing else and nothing twice. -/
def ServedAll (cfg : Config) (pass : Pass) (s t : State) : Prop :=
  ∃ seen, pass.servedBy t = pass.servedBy s ++ seen ∧
    (registeredProbes cfg s).Sublist seen ∧ seen.Sublist (registeredProbes cfg t) ∧ seen.Nodup

/-- From `s` to `t` the IO task came from its control messages to the end of its loop body. -/
structure PassComplete (cfg : Config) (s t : State) : Prop where
  reports : ServedAll cfg .reports s t
  announcements : if announcementDue cfg s then ServedAll cfg .announcements s t
    else Pass.announcements.servedBy t = Pass.announcements.servedBy s
  iters : t.iters = (if announcementDue cfg s then 0 else s.iters) + 1
  point : t.ioPoint = .read

section
variable {cfg : Config} {s t : State} {pass : Pass} {n : Nat}

/-! Serving. -/

theorem served_call (pass pass' : Pass) (probe : Probe) :
    pass.served (pass'.call probe) = if pass = pass' then some probe else none := by
  cases pass' with
  | reports | announcements => rfl

theorem servedBy_call {probe : Probe} {pass' : Pass}
    (calls : t.calls = s.calls ++ [pass'.call probe]) :
    pass.servedBy t = pass.servedBy s ++ if pass = pass' then [probe] else [] := by
  rw [Pass.servedBy, calls, List.filterMap_append, List.filterMap_cons, served_call]
  split
  · rename_i none
    split at none
    · exact absurd none (Option.some_ne_none probe)
    · rw [if_neg ‹_›]
      rfl
  · rename_i some
    split at some
    · rw [if_pos ‹_›, Option.some.inj some]
      rfl
    · exact absurd some.symm (Option.some_ne_none _)

/-- An action of another task serves nothing. -/
theorem servedBy_other {op : Op} (other : op.ofIoTask = false) (pass : Pass) :
    pass.servedBy (step cfg s op) = pass.servedBy s := by
  have silent : ∀ c, op.Makes c = true → pass.served c = none := by
    intro c makes
    cases c with
    | initializeProbe _ _ _ | produceSnapshot _ _ _ | mergeSnapshot _ _ _ | recordEvent _ _ _
    | processControlMessage _ _ => rfl
    | report probe | announceMutators probe =>
        cases op with
        | ioReport _ _ => exact absurd other.symm Bool.false_ne_true
        | enable _ _ | disable | exclude _ | create _ _ _ _ | delete _ | start _ _ _
        | switch _ _ _ _ | hook _ _ | setFilter _ _ | ioRead _ | ioSend | process _
        | getBuffer => exact absurd makes Bool.false_ne_true
  obtain ⟨new, calls, kind⟩ := step_calls cfg s op
  have none : new.filterMap pass.served = [] := by
    rw [List.filterMap_eq_nil_iff]
    intro c mem
    exact silent c (kind c mem)
  rw [Pass.servedBy, calls, List.filterMap_append, none, List.append_nil]
  rfl

theorem iterFn_reported (cfg : Config) (pass : Pass) (w : IoWrite) (probe : Probe) (s : State) :
    Reported [pass.call probe] s (pass.iterFn cfg w probe s) := by
  cases pass with
  | reports | announcements => exact ioTaskProbeIter_reported ..

theorem iterFn_registry (cfg : Config) (pass : Pass) (w : IoWrite) (probe : Probe) (s : State) :
    (pass.iterFn cfg w probe s).registry = s.registry := by
  cases pass with
  | reports => exact registry_controlEffect.ioTaskProbeIter cfg registry_controlEffect.report ..
  | announcements =>
      exact registry_controlEffect.ioTaskProbeIter cfg registry_controlEffect.announce ..

/-- What the turn at slot `i` does. -/
structure Visits (pass : Pass) (i : Nat) (s t : State) : Prop where
  served : pass.servedBy t = pass.servedBy s ++ (s.probes i).toList
  others : ∀ pass', pass' ≠ pass → pass'.servedBy t = pass'.servedBy s
  tcbProbes : t.tcbProbes = s.tcbProbes
  registry : t.registry = s.registry
  iters : t.iters = s.iters

theorem visitSlot_visits (cfg : Config) (pass : Pass) (w : IoWrite) (i : Nat) (s : State) :
    Visits pass i s (visitSlot (pass.iterFn cfg w) i s) := by
  unfold visitSlot
  cases own : (s.tcbProbe i).probe with
  | none =>
      refine ⟨?_, fun _ _ => rfl, rfl, rfl, rfl⟩
      rw [State.probes, own]
      exact (List.append_nil _).symm
  | some probe =>
      have reported := iterFn_reported cfg pass w probe s
      refine ⟨?_, fun pass' other => ?_, reported.tcbProbes, iterFn_registry .., reported.iters⟩
      · rw [servedBy_call reported.calls, if_pos rfl, State.probes, own]
        rfl
      · rw [servedBy_call reported.calls, if_neg other, List.append_nil]

theorem Visits.probes {i : Nat} (h : Visits pass i s t) : t.probes = s.probes := by
  funext j
  rw [State.probes, State.tcbProbe, h.tcbProbes]
  rfl

/-! What was collected. -/

theorem Collected.start (pass : Pass) (s : State) : Collected pass s s 0 :=
  ⟨[], (List.append_nil _).symm, .start _ _⟩

theorem Collected.visit {r : State} (h : Collected pass s r n)
    (grows : TableScan.Grows s.probes r.probes) (visits : Visits pass n r t) :
    Collected pass s t (n + 1) := by
  obtain ⟨seen, served, between⟩ := h
  refine ⟨seen ++ (r.probes n).toList, ?_, ?_⟩
  · rw [visits.served, served, List.append_assoc]
  · rw [visits.probes]
    exact between.visit grows

theorem Collected.kept {r : State} (h : Collected pass s r n)
    (served : pass.servedBy t = pass.servedBy r) (grows : TableScan.Grows r.probes t.probes) :
    Collected pass s t n := by
  obtain ⟨seen, isServed, between⟩ := h
  exact ⟨seen, served.trans isServed, between.grow grows⟩

/-- No probe is in two slots. -/
theorem Slots.distinct (table : Slots cfg s.registry) (i j : Nat) (probe : Probe)
    (at_i : s.probes i = some probe) (at_j : s.probes j = some probe) : i = j := by
  have slot : ∀ {k : Nat}, s.probes k = some probe →
      s.registry.slots[k]? = some (s.tcbProbe k).masked := by
    intro k own
    rw [slots_getElem?]
    cases at_k : s.tcbProbes[k]? with
    | none =>
        rw [State.probes, State.tcbProbe, List.getD_eq_getElem?_getD, at_k] at own
        exact absurd own.symm (Option.some_ne_none probe)
    | some e =>
        rw [State.tcbProbe, List.getD_eq_getElem?_getD, at_k]
        rfl
  exact table.probes i j _ _ probe (slot at_i) (slot at_j) at_i at_j

theorem Collected.all (h : Collected pass s t cfg.maxProbes) (table : Slots cfg t.registry) :
    ServedAll cfg pass s t := by
  obtain ⟨seen, served, between⟩ := h
  exact ⟨seen, served, between.old, between.new,
    between.new.nodup (TableScan.entries_nodup table.distinct cfg.maxProbes)⟩

/-- A slot that has a probe keeps it. -/
theorem probes_step (table : Slots cfg s.registry) (op : Op) :
    TableScan.Grows s.probes (step cfg s op).probes := by
  intro i probe own
  cases slot : s.tcbProbes[i]? with
  | none =>
      rw [State.probes, State.tcbProbe, List.getD_eq_getElem?_getD, slot] at own
      exact absurd own.symm (Option.some_ne_none probe)
  | some e =>
      have isSlot : s.registry.slots[i]? = some e.masked := by
        rw [slots_getElem?, slot]
        rfl
      have isProbe : e.masked.probe = some probe :=
        (tcbProbe_fields isSlot).2.1.symm.trans own
      cases tcb : e.masked.tcb with
      | none =>
          rw [table.free isSlot tcb] at isProbe
          exact absurd isProbe.symm (Option.some_ne_none probe)
      | some task =>
          have later : (step cfg s op).registry.slots[i]? = some e.masked :=
            table.kept op isSlot tcb
          exact (tcbProbe_fields later).2.1.trans isProbe

/-! The stages of the loop body. -/

/-- How far the IO task is, from `s` on. -/
inductive PassStage (cfg : Config) (s t : State) : PassPoint → Prop
  | reporting (i : Nat) (bound : i ≤ cfg.maxProbes) (reported : Collected .reports s t i)
      (silent : Pass.announcements.servedBy t = Pass.announcements.servedBy s)
      (iters : t.iters = s.iters) : PassStage cfg s t (.visiting .reports i)
  | announcing (i : Nat) (bound : i ≤ cfg.maxProbes) (due : announcementDue cfg s = true)
      (reported : Collected .reports s t cfg.maxProbes) (announced : Collected .announcements s t i)
      (iters : t.iters = 0) : PassStage cfg s t (.visiting .announcements i)
  | ended (complete : PassComplete cfg s t) : PassStage cfg s t .outside

structure Passing (cfg : Config) (s : State) (p : Sliced) : Prop where
  table : Slots cfg p.state.registry
  grows : TableScan.Grows s.probes p.state.probes
  stage : PassStage cfg s p.state p.point

/-- Other tasks act while the IO task is in a pass. -/
theorem PassStage.other {point : PassPoint} {op : Op} (h : PassStage cfg s t point)
    (table : Slots cfg t.registry) (inPass : point ≠ .outside) (notIo : op.ofIoTask = false) :
    PassStage cfg s (step cfg t op) point := by
  have grows : TableScan.Grows t.probes (step cfg t op).probes := probes_step table op
  have iters : (step cfg t op).iters = t.iters := by
    refine step_iters cfg t op fun reports announcements isOp => ?_
    rw [isOp] at notIo
    exact Bool.false_ne_true notIo.symm
  cases h with
  | reporting i bound reported silent same =>
      exact .reporting i bound (reported.kept (servedBy_other notIo _) grows)
        ((servedBy_other notIo _).trans silent) (iters.trans same)
  | announcing i bound due reported announced zero =>
      exact .announcing i bound due (reported.kept (servedBy_other notIo _) grows)
        (announced.kept (servedBy_other notIo _) grows) (iters.trans zero)
  | ended complete => exact absurd rfl inPass

theorem announcementDue_iters (same : t.iters = s.iters) :
    announcementDue cfg t = announcementDue cfg s := by
  rw [announcementDue, same]
  rfl

/-- The first turn begins the reports. -/
theorem passTurn_begins (w : IoWrite) (point : s.ioPoint = .report) :
    passTurn cfg w ⟨s, .outside⟩ = ⟨s, .visiting .reports 0⟩ := by
  rw [passTurn]
  dsimp only
  rw [point]

/-- The IO task takes its next turn. -/
theorem passing_turn {p : Sliced} (h : Passing cfg s p) (inPass : p.point ≠ .outside)
    (w : IoWrite) : Passing cfg s (passTurn cfg w p) := by
  obtain ⟨r, point⟩ := p
  obtain ⟨table, grows, stage⟩ := h
  cases stage with
  | ended complete => exact absurd rfl inPass
  | reporting i bound reported silent same =>
      by_cases more : i < cfg.maxProbes
      · have visits := visitSlot_visits cfg .reports w i r
        rw [passTurn_visiting, if_pos more]
        exact ⟨visits.registry ▸ table, visits.probes ▸ grows,
          .reporting (i + 1) more (reported.visit grows visits)
            ((visits.others _ (Pass.noConfusion)).trans silent) (visits.iters.trans same)⟩
      · obtain rfl : i = cfg.maxProbes := Nat.le_antisymm bound (Nat.le_of_not_lt more)
        have due : announcementDue cfg r = announcementDue cfg s := announcementDue_iters same
        rw [passTurn_visiting, if_neg more, endPass, due]
        split
        · exact ⟨table, grows, .announcing 0 (Nat.zero_le _) ‹_› reported
            ⟨[], by rw [List.append_nil]; exact silent, .start _ _⟩ rfl⟩
        · refine ⟨table, grows, .ended ⟨reported.all table, ?_, ?_, rfl⟩⟩
          · rw [if_neg ‹_›]
            exact silent
          · rw [if_neg ‹_›]
            exact congrArg (· + 1) same
  | announcing i bound due reported announced zero =>
      by_cases more : i < cfg.maxProbes
      · have visits := visitSlot_visits cfg .announcements w i r
        have grown : TableScan.Grows r.probes (visitSlot (Pass.announcements.iterFn cfg w) i r).probes :=
          visits.probes ▸ .refl _
        rw [passTurn_visiting, if_pos more]
        exact ⟨visits.registry ▸ table, visits.probes ▸ grows,
          .announcing (i + 1) more due
            (reported.kept (visits.others _ (Pass.noConfusion)) grown)
            (announced.visit grows visits) (visits.iters.trans zero)⟩
      · obtain rfl : i = cfg.maxProbes := Nat.le_antisymm bound (Nat.le_of_not_lt more)
        rw [passTurn_visiting, if_neg more, endPass]
        refine ⟨table, grows, .ended ⟨reported.all table, ?_, ?_, rfl⟩⟩
        · rw [if_pos due]
          exact announced.all table
        · rw [if_pos due]
          exact congrArg (· + 1) zero

/-! Whole passes. -/

/-- In a pass the IO task goes on, or another task acts. -/
def Slice.Permitted (p : Sliced) : Slice → Prop
  | .turn _ => p.point ≠ .outside
  | .other op => p.point ≠ .outside ∧ op.ofIoTask = false

instance (p : Sliced) (slice : Slice) : Decidable (slice.Permitted p) :=
  match slice with
  | .turn _ => inferInstanceAs (Decidable (_ ≠ _))
  | .other _ => inferInstanceAs (Decidable (_ ∧ _))

/-- A pass over the probes is complete whatever the other tasks do meanwhile. -/
theorem report_pass_complete (ops : List Op) {slices : List Slice}
    (run : Transition.Run (sliceStep cfg) (fun p slice => slice.Permitted p)
      ⟨ops.foldl (step cfg) (State.init cfg), .visiting .reports 0⟩ slices ⟨t, .outside⟩) :
    PassComplete cfg (ops.foldl (step cfg) (State.init cfg)) t := by
  have table := slots_reached cfg ops
  generalize ops.foldl (step cfg) (State.init cfg) = s at run table
  have passing : Passing cfg s ⟨t, .outside⟩ := by
    refine run.invariant (P := Passing cfg s) ?_
      ⟨table, .refl _, .reporting 0 (Nat.zero_le _) (.start ..) rfl rfl⟩
    intro p slice passing permitted
    cases slice with
    | turn w => exact passing_turn passing permitted w
    | other op =>
        obtain ⟨inPass, notIo⟩ := permitted
        exact ⟨slots_step passing.table op, passing.grows.trans (probes_step passing.table op),
          passing.stage.other passing.table inPass notIo⟩
  cases passing.stage with
  | ended complete => exact complete

end

theorem Sliced.of_point {p : Sliced} {point : PassPoint} (isPoint : p.point = point) :
    p = ⟨p.state, point⟩ := by
  rw [← isPoint]

/-- Enable tracing, create a task, and read no control message. -/
def idleOps : List Op :=
  [.enable {} (some { handle := 0, taskNumber := 0, becomesCurrent := false }),
    .create {} { handle := 1, taskNumber := 0, becomesCurrent := true } [65] 1, idleRead]

def idleState : State := idleOps.foldl (step Config.tests) (State.init Config.tests)

/-- Another task is created before the third turn. -/
def interrupted : List Slice :=
  [.turn {}, .turn {},
    .other (.create {} { handle := 2, taskNumber := 0, becomesCurrent := true } [66] 1),
    .turn {}, .turn {}, .turn {}]

def interruptedEnd : Sliced :=
  interrupted.foldl (sliceStep Config.tests) ⟨idleState, .visiting .reports 0⟩

theorem report_pass_complete_interrupted :
    PassComplete Config.tests idleState interruptedEnd.state := by
  have ends : interruptedEnd = ⟨interruptedEnd.state, .outside⟩ :=
    Sliced.of_point (by decide +kernel)
  have run : Transition.Run (sliceStep Config.tests)
      (fun p slice => slice.Permitted p) ⟨idleState, .visiting .reports 0⟩
      interrupted interruptedEnd :=
    Transition.Run.of_check (by decide +kernel)
  rw [ends] at run
  exact report_pass_complete idleOps run

end ProbeTrace
