import ProbeTrace.Metatheory.ReportPass

/-!
The two grains of the IO task's passes agree. A run of turns that nobody interrupts, from the
first slot to the end of the loop body, is the one action ioReport, and every such action is
one of these runs.
-/
namespace ProbeTrace

/-- A run of turns, each inside a pass. -/
abbrev PassRun (cfg : Config) (p : Sliced) (turns : List IoWrite) (p' : Sliced) : Prop :=
  Transition.Run (sliceStep cfg) (fun p slice => slice.Permitted p) p (turns.map .turn) p'

/-- The slots from `i` on are visited, one for each element of the list. -/
def visitAll (cfg : Config) (pass : Pass) : List IoWrite → Nat → State → State
  | [], _, s => s
  | w :: ws, i, s => visitAll cfg pass ws (i + 1) (visitSlot (pass.iterFn cfg w) i s)

section
variable {cfg : Config} {s t : State} {pass : Pass} {turns ws : List IoWrite} {i : Nat}

theorem passRun_outside {p : Sliced} :
    PassRun cfg ⟨s, .outside⟩ turns p ↔ turns = [] ∧ p = ⟨s, .outside⟩ := by
  constructor
  · intro run
    cases turns with
    | nil =>
        cases run with
        | nil => exact ⟨rfl, rfl⟩
    | cons w turns =>
        cases run with
        | cons inPass rest => exact absurd rfl inPass
  · intro ended
    rw [ended.1, ended.2]
    exact .nil _

theorem passRun_cons {w : IoWrite} {p : Sliced} :
    PassRun cfg ⟨s, .visiting pass i⟩ (w :: turns) p ↔
      PassRun cfg (passTurn cfg w ⟨s, .visiting pass i⟩) turns p := by
  constructor
  · intro run
    cases run with
    | cons _ rest => exact rest
  · exact fun rest => .cons PassPoint.noConfusion rest

/-- A pass visits the rest of its slots and ends. -/
theorem passRun_iff (bound : i ≤ cfg.maxProbes) :
    PassRun cfg ⟨s, .visiting pass i⟩ turns ⟨t, .outside⟩ ↔
      ∃ ws w rest, turns = ws ++ w :: rest ∧ ws.length = cfg.maxProbes - i ∧
        PassRun cfg (endPass cfg (visitAll cfg pass ws i s) pass) rest ⟨t, .outside⟩ := by
  induction turns generalizing i s with
  | nil =>
      constructor
      · intro run
        cases run
      · intro split
        obtain ⟨ws, w, rest, none, -⟩ := split
        exact absurd none (List.append_ne_nil_of_right_ne_nil ws (List.cons_ne_nil w rest)).symm
  | cons w turns ih =>
      rw [passRun_cons, passTurn_visiting]
      by_cases more : i < cfg.maxProbes
      · rw [if_pos more, ih more]
        constructor
        · intro split
          obtain ⟨ws, w', rest, isTurns, length, run⟩ := split
          refine ⟨w :: ws, w', rest, by rw [isTurns, List.cons_append], ?_, run⟩
          rw [List.length_cons, length]
          omega
        · intro split
          obtain ⟨ws, w', rest, isTurns, length, run⟩ := split
          cases ws with
          | nil =>
              rw [List.length_nil] at length
              omega
          | cons first ws =>
              obtain ⟨isFirst, isRest⟩ := List.cons.inj isTurns
              subst isFirst
              rw [List.length_cons] at length
              exact ⟨ws, w', rest, isRest, by omega, run⟩
      · obtain rfl : i = cfg.maxProbes := Nat.le_antisymm bound (Nat.le_of_not_lt more)
        rw [if_neg more, Nat.sub_self]
        constructor
        · exact fun run => ⟨[], w, turns, rfl, rfl, run⟩
        · intro split
          obtain ⟨ws, w', rest, isTurns, length, run⟩ := split
          rw [List.length_eq_zero_iff] at length
          subst length
          obtain ⟨-, isRest⟩ := List.cons.inj isTurns
          rw [isRest]
          exact run

/-! A pass and vTraceProbeIterator. -/

/-- Each visited slot with a probe gets what the function returns for the probe. -/
def Matches (writes : Probe → IoWrite) (s : State) (ws : List IoWrite) (i : Nat) : Prop :=
  ∀ k w probe, ws[k]? = some w → s.probes (i + k) = some probe → w = writes probe

theorem visitAll_eq {writes : Probe → IoWrite} (same : Matches writes s ws i) :
    visitAll cfg pass ws i s = (List.range' i ws.length).foldl
      (fun s i => match (s.tcbProbe i).probe with
        | some probe => pass.iterFn cfg (writes probe) probe s
        | none => s) s := by
  induction ws generalizing i s with
  | nil => rfl
  | cons w ws ih =>
      have here : visitSlot (pass.iterFn cfg w) i s = match (s.tcbProbe i).probe with
          | some probe => pass.iterFn cfg (writes probe) probe s
          | none => s := by
        unfold visitSlot
        cases own : (s.tcbProbe i).probe with
        | none => rfl
        | some probe => rw [same 0 w probe rfl own]
      have probes := (visitSlot_visits cfg pass w i s).probes
      rw [visitAll, List.length_cons, List.range'_succ, List.foldl_cons, ← here]
      refine ih fun k w' probe isWrite own => same (k + 1) w' probe isWrite ?_
      rw [probes] at own
      rwa [Nat.add_comm k, ← Nat.add_assoc]

theorem visitAll_iterator {writes : Probe → IoWrite} (same : Matches writes s ws 0)
    (length : ws.length = cfg.maxProbes) : visitAll cfg pass ws 0 s =
      vTraceProbeIterator cfg (fun probe => pass.iterFn cfg (writes probe) probe) s := by
  rw [visitAll_eq same, length, ← List.range_eq_range']
  rfl

/-- Any function of the probes is a list of turns. -/
theorem exists_turns (cfg : Config) (writes : Probe → IoWrite) (s : State) :
    ∃ ws : List IoWrite, ws.length = cfg.maxProbes ∧ Matches writes s ws 0 := by
  refine ⟨(List.range cfg.maxProbes).map fun i => ((s.probes i).map writes).getD {}, ?_, ?_⟩
  · rw [List.length_map, List.length_range]
  · intro k w probe isWrite own
    rw [List.getElem?_map, Option.map_eq_some_iff] at isWrite
    obtain ⟨j, isIndex, isWrite⟩ := isWrite
    rw [List.getElem?_range (by
      rw [← List.length_range (n := cfg.maxProbes)]
      exact (List.getElem?_eq_some_iff.mp isIndex).1), Option.some.injEq] at isIndex
    rw [Nat.zero_add] at own
    rw [← isWrite, ← isIndex, own]
    rfl

/-- A list of turns is a function of the probes: no probe is in two slots. -/
theorem exists_writes (table : Slots cfg s.registry) (ws : List IoWrite) :
    ∃ writes : Probe → IoWrite, Matches writes s ws 0 := by
  have each : ∀ probe, ∃ w', ∀ k w, ws[k]? = some w → s.probes k = some probe → w = w' := by
    intro probe
    by_cases visited : ∃ k w, ws[k]? = some w ∧ s.probes k = some probe
    · obtain ⟨k, w, isWrite, own⟩ := visited
      refine ⟨w, fun j w' isWrite' own' => ?_⟩
      have same := table.distinct j k probe own' own
      subst same
      exact Option.some.inj (isWrite'.symm.trans isWrite)
    · exact ⟨{}, fun k w isWrite own => absurd ⟨k, w, isWrite, own⟩ visited⟩
  obtain ⟨writes, same⟩ := Classical.skolem.mp each
  refine ⟨writes, fun k w probe isWrite own => same probe k w isWrite ?_⟩
  rwa [Nat.zero_add] at own

/-! The loop body. -/

/-- Turns that visit all slots in both passes, as far as there is a second one, are a run. -/
theorem passRun_reports_iff : PassRun cfg ⟨s, .visiting .reports 0⟩ turns ⟨t, .outside⟩ ↔
    ∃ ws w rest, turns = ws ++ w :: rest ∧ ws.length = cfg.maxProbes ∧
      if announcementDue cfg (visitAll cfg .reports ws 0 s) then
        ∃ ws' w', rest = ws' ++ [w'] ∧ ws'.length = cfg.maxProbes ∧ (endIteration
          (visitAll cfg .announcements ws' 0
            { visitAll cfg .reports ws 0 s with iters := 0 })).state = t
      else rest = [] ∧ (endIteration (visitAll cfg .reports ws 0 s)).state = t := by
  have ended : ∀ (u : State) (rest : List IoWrite),
      PassRun cfg (endIteration u) rest ⟨t, .outside⟩ ↔
        rest = [] ∧ (endIteration u).state = t := by
    intro u rest
    rw [endIteration, passRun_outside]
    refine and_congr_right fun _ => ?_
    constructor
    · exact fun same => (Sliced.mk.inj same).1.symm
    · exact fun same => congrArg (Sliced.mk · _) same.symm
  rw [passRun_iff (Nat.zero_le _), Nat.sub_zero]
  refine exists_congr fun ws => exists_congr fun w => exists_congr fun rest =>
    and_congr_right fun _ => and_congr_right fun _ => ?_
  rw [endPass]
  by_cases due : announcementDue cfg (visitAll cfg .reports ws 0 s) = true
  · rw [if_pos due, if_pos due, passRun_iff (Nat.zero_le _), Nat.sub_zero]
    constructor
    · intro split
      obtain ⟨ws', w', rest', isRest, length, run⟩ := split
      obtain ⟨none, final⟩ := (ended _ _).mp run
      exact ⟨ws', w', none ▸ isRest, length, final⟩
    · intro split
      obtain ⟨ws', w', isRest, length, final⟩ := split
      exact ⟨ws', w', [], isRest, length, (ended _ _).mpr ⟨rfl, final⟩⟩
  · rw [if_neg due, if_neg due]
    exact ended _ _

/-- ioReport, by its two passes. -/
theorem ioReport_eq (cfg : Config) (reports announcements : Probe → IoWrite)
    (point : s.ioPoint = .report) : ioReport cfg reports announcements s =
      (endIteration (if announcementDue cfg (sendReports cfg reports s) then
        vTraceProbeIterator cfg
          (fun probe => Pass.announcements.iterFn cfg (announcements probe) probe)
          { sendReports cfg reports s with iters := 0 }
      else sendReports cfg reports s)).state := by
  rw [ioReport, point]
  rfl

/-- The action ioReport is a run of turns. -/
theorem passRun_of_ioReport (reports announcements : Probe → IoWrite) (point : s.ioPoint = .report) :
    ∃ turns, PassRun cfg ⟨s, .visiting .reports 0⟩ turns
      ⟨ioReport cfg reports announcements s, .outside⟩ := by
  obtain ⟨ws, length, same⟩ := exists_turns cfg reports s
  have reported : visitAll cfg .reports ws 0 s = sendReports cfg reports s :=
    visitAll_iterator same length
  have last : IoWrite := {}
  rw [ioReport_eq cfg _ _ point]
  by_cases due : announcementDue cfg (sendReports cfg reports s) = true
  · obtain ⟨ws', length', same'⟩ := exists_turns cfg announcements
      { sendReports cfg reports s with iters := 0 }
    refine ⟨ws ++ last :: (ws' ++ [last]), passRun_reports_iff.mpr
      ⟨ws, last, ws' ++ [last], rfl, length, ?_⟩⟩
    rw [reported, if_pos due, if_pos due]
    exact ⟨ws', last, rfl, length', by rw [visitAll_iterator same' length']⟩
  · refine ⟨ws ++ [last], passRun_reports_iff.mpr ⟨ws, last, [], rfl, length, ?_⟩⟩
    rw [reported, if_neg due, if_neg due]
    exact ⟨rfl, rfl⟩

/-- A pass that nobody interrupts is ioReport. -/
theorem uninterrupted_pass_iff (ops : List Op)
    (point : (ops.foldl (step cfg) (State.init cfg)).ioPoint = .report) :
    (∃ turns, PassRun cfg ⟨ops.foldl (step cfg) (State.init cfg), .visiting .reports 0⟩ turns
      ⟨t, .outside⟩) ↔ ∃ reports announcements,
        t = ioReport cfg reports announcements (ops.foldl (step cfg) (State.init cfg)) := by
  have table := slots_reached cfg ops
  generalize ops.foldl (step cfg) (State.init cfg) = s at point table ⊢
  constructor
  · intro run
    obtain ⟨turns, run⟩ := run
    obtain ⟨ws, w, rest, -, length, rest⟩ := passRun_reports_iff.mp run
    obtain ⟨reports, same⟩ := exists_writes table ws
    have reported : visitAll cfg .reports ws 0 s = sendReports cfg reports s :=
      visitAll_iterator same length
    rw [reported] at rest
    by_cases due : announcementDue cfg (sendReports cfg reports s) = true
    · rw [if_pos due] at rest
      obtain ⟨ws', w', -, length', final⟩ := rest
      have registry : (sendReports cfg reports s).registry = s.registry :=
        registry_controlEffect.sendReports cfg reports s
      have table' : Slots cfg ({ sendReports cfg reports s with iters := 0 } : State).registry :=
        registry.symm ▸ table
      obtain ⟨announcements, same'⟩ := exists_writes table' ws'
      refine ⟨reports, announcements, ?_⟩
      rw [ioReport_eq cfg _ _ point, if_pos due, ← final, visitAll_iterator same' length']
    · rw [if_neg due] at rest
      refine ⟨reports, fun _ => {}, ?_⟩
      rw [ioReport_eq cfg _ _ point, if_neg due, ← rest.2]
  · intro action
    obtain ⟨reports, announcements, final⟩ := action
    exact final ▸ passRun_of_ioReport reports announcements point

end

theorem uninterrupted_pass_iff_idle :
    (∃ turns, PassRun Config.tests ⟨idleState, .visiting .reports 0⟩ turns
      ⟨ioReport Config.tests (fun _ => {}) (fun _ => {}) idleState, .outside⟩) ↔
    ∃ reports announcements, ioReport Config.tests (fun _ => {}) (fun _ => {}) idleState =
      ioReport Config.tests reports announcements idleState :=
  uninterrupted_pass_iff idleOps (by decide +kernel)

end ProbeTrace
