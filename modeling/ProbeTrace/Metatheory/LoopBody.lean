import ProbeTrace.Metatheory.InterruptedCalls

/-!
How long the IO task's loop body is. Its turns count down to the next read, and nothing that the
other tasks do, registrations included, makes one of them more or less.
-/
namespace ProbeTrace

/-- The grain is the IO task's. -/
def Grain.ofIoTask : Grain → Bool
  | .turn _ => true
  | .other op => op.ofIoTask
  | .advance _ => false

/-- The IO task reads when its loop body has ended, then sends, then goes through its passes. -/
def Interleaved.Follows (p : Interleaved) : Grain → Prop
  | .turn _ => p.sliced.point ≠ .outside ∨ p.state.ioPoint = .report
  | .other (.ioRead _) => p.sliced.point = .outside ∧ p.state.ioPoint = .read
  | .other .ioSend => p.state.ioPoint ≠ .read ∧ p.state.ioPoint ≠ .report
  | .other _ | .advance _ => True

instance Interleaved.decidableFollows (p : Interleaved) (grain : Grain) :
    Decidable (p.Follows grain) := by
  unfold Interleaved.Follows
  split
  · exact inferInstanceAs (Decidable (_ ∨ _))
  · exact inferInstanceAs (Decidable (_ ∧ _))
  · exact inferInstanceAs (Decidable (_ ∧ _))
  · exact instDecidableTrue
  · exact instDecidableTrue

/-- The IO task is about to read. -/
def Interleaved.AtRead (p : Interleaved) : Prop :=
  p.sliced.point = .outside ∧ p.state.ioPoint = .read

/-- The turns of the passes over the probes. -/
def passTurns (cfg : Config) (s : State) : Nat :=
  cfg.maxProbes + 1 + if announcementDue cfg s then cfg.maxProbes + 1 else 0

/-- The turns to the next read. -/
def turnsLeft (cfg : Config) (q : Sliced) : Nat :=
  match q.point with
  | .outside => match q.state.ioPoint with
      | .read => 0
      | .send _ _ i => cfg.maxProbes - (i + 1) + 1 + (1 + passTurns cfg q.state)
      | .report => 1 + passTurns cfg q.state
  | .visiting .reports i =>
      cfg.maxProbes - i + 1 + if announcementDue cfg q.state then cfg.maxProbes + 1 else 0
  | .visiting .announcements i => cfg.maxProbes - i + 1

/-- A control message was read that is distributed over the slots. -/
def IoRead.Distributes (cfg : Config) (r : IoRead) : Prop :=
  (r.status = 0 ∧ 0 < r.numBytes) ∧ r.destination.isSome = true ∧
    cfg.includeControlPlaneBuffer = true

instance IoRead.decidableDistributes (cfg : Config) (r : IoRead) :
    Decidable (r.Distributes cfg) :=
  inferInstanceAs (Decidable (_ ∧ _))

/-- The turns of the loop body that begins with the read `r`. -/
def bodyTurns (cfg : Config) (r : IoRead) (s : State) : Nat :=
  (if r.Distributes cfg then max cfg.maxProbes 1 else 0) + (1 + passTurns cfg s)

section
variable {cfg : Config} {p : Interleaved} {q q' : Sliced} {s t : State}

theorem passTurns_iters (same : t.iters = s.iters) : passTurns cfg t = passTurns cfg s := by
  rw [passTurns, passTurns, announcementDue_iters same]

theorem turnsLeft_same (point : q'.point = q.point) (ioPoint : q'.state.ioPoint = q.state.ioPoint)
    (iters : q'.state.iters = q.state.iters) : turnsLeft cfg q' = turnsLeft cfg q := by
  unfold turnsLeft
  rw [point, ioPoint, passTurns_iters iters, announcementDue_iters iters]

theorem turnsLeft_eq_zero : turnsLeft cfg p.sliced = 0 ↔ p.AtRead := by
  unfold Interleaved.AtRead Interleaved.state turnsLeft
  constructor
  · intro none
    split at none
    · split at none
      · exact ⟨‹_›, ‹_›⟩
      · exact absurd none (by omega)
      · exact absurd none (by omega)
    · exact absurd none (by omega)
    · exact absurd none (by omega)
  · intro atRead
    rw [atRead.1, atRead.2]

/-! The turns. -/

theorem handOver_iters (cfg : Config) (env : External) (probe : Option Probe)
    (received : Option Message) (s : State) : (handOver cfg env probe received s).iters = s.iters := by
  unfold handOver
  split
  · split
    · refine traceAssert_induction (P := fun r : State => r.iters = s.iters) (fun _ _ => ?_)
        (fun _ => rfl)
      rw [id_eq, State.prvTraceError_eq]
      rfl
    · rfl
  · rfl

/-- A caller's parts are no turns of the IO task. -/
theorem turnsLeft_advance (cfg : Config) (env : External) (p : Interleaved) :
    turnsLeft cfg (p.advance cfg env).sliced = turnsLeft cfg p.sliced := by
  unfold Interleaved.advance
  split
  · exact turnsLeft_same rfl rfl rfl
  · rename_i tcbProbe isPoint
    cases receiveMessage_cases cfg tcbProbe p.state with
    | inl nothing =>
        rw [nothing]
        exact turnsLeft_same rfl rfl rfl
    | inr takes =>
        obtain ⟨buffer, msg, rest, -, -, received⟩ := takes
        rw [received]
        exact turnsLeft_same rfl rfl rfl
  · rename_i probe msg isPoint
    refine turnsLeft_same rfl ?_ (handOver_iters cfg env probe msg p.state)
    cases msg with
    | none => rfl
    | some msg => exact congrArg IoView.ioPoint (handOver_eq cfg env probe msg p.state).2.1

/-- A turn of a pass is one turn less. -/
theorem turnsLeft_turn (w : IoWrite) (follows : q.point ≠ .outside ∨ q.state.ioPoint = .report) :
    turnsLeft cfg q = turnsLeft cfg (passTurn cfg w q) + 1 := by
  obtain ⟨s, point⟩ := q
  cases point with
  | outside =>
      have report : s.ioPoint = .report := follows.resolve_left fun inPass => inPass rfl
      rw [passTurn_begins w report]
      simp only [turnsLeft, report, passTurns]
      omega
  | visiting pass i =>
      rw [passTurn_visiting]
      by_cases more : i < cfg.maxProbes
      · have iters := (visitSlot_visits cfg pass w i s).iters
        have due : announcementDue cfg (visitSlot (pass.iterFn cfg w) i s) =
            announcementDue cfg s := announcementDue_iters iters
        rw [if_pos more]
        cases pass with
        | reports =>
            simp only [turnsLeft, due]
            omega
        | announcements =>
            simp only [turnsLeft]
            omega
      · rw [if_neg more]
        cases pass with
        | reports =>
            rw [endPass]
            split
            · simp only [turnsLeft, if_pos ‹announcementDue cfg s = true›]
              omega
            · simp only [turnsLeft, endIteration, if_neg ‹¬announcementDue cfg s = true›]
              omega
        | announcements =>
            simp only [turnsLeft, endPass, endIteration]
            omega

/-- A turn of the loop over the slots is one turn less. -/
theorem turnsLeft_send {target : BitVec 32} {numBytes i : Nat}
    (point : s.ioPoint = .send target numBytes i) :
    turnsLeft cfg ⟨s, .outside⟩ = turnsLeft cfg ⟨ioSend cfg s, .outside⟩ + 1 := by
  have moved : (ioSend cfg s).ioPoint = nextPoint cfg target numBytes i := by
    rw [ioSend, point]
    rfl
  have turns : passTurns cfg (ioSend cfg s) = passTurns cfg s :=
    passTurns_iters (ioSend_iters cfg s)
  simp only [turnsLeft, point, moved, turns, nextPoint]
  by_cases more : i + 1 < cfg.maxProbes
  · simp only [if_pos more]
    omega
  · simp only [if_neg more]
    omega

/-- The read begins a loop body. -/
theorem turnsLeft_read (r : IoRead) (s : State) :
    turnsLeft cfg ⟨ioRead cfg r s, .outside⟩ = bodyTurns cfg r s := by
  have turns : passTurns cfg (ioRead cfg r s) = passTurns cfg s :=
    passTurns_iters (ioRead_iters cfg r s)
  by_cases distributes : r.Distributes cfg
  · have valid := distributes.1
    have control := distributes.2.2
    obtain ⟨target, isTarget⟩ := Option.isSome_iff_exists.mp distributes.2.1
    have ioView := (ioRead_valid cfg ⟨valid.1, valid.2, isTarget⟩ s).ioView
    rw [if_pos control] at ioView
    have point : (ioRead cfg r s).ioPoint = .send target r.numBytes.toNat 0 :=
      congrArg IoView.ioPoint ioView
    simp only [turnsLeft, point, turns, bodyTurns, if_pos distributes]
    omega
  · have point : (ioRead cfg r s).ioPoint = .report := by
      by_cases valid : ∃ target, r.Valid target
      · obtain ⟨target, valid⟩ := valid
        have ioView := (ioRead_valid cfg valid s).ioView
        rw [if_neg fun control => distributes ⟨⟨valid.status, valid.numBytes⟩,
          by rw [valid.destination]; rfl, control⟩] at ioView
        exact congrArg IoView.ioPoint ioView
      · have ioView := (ioRead_invalid cfg (fun target h => valid ⟨target, h⟩) s).1
        exact congrArg IoView.ioPoint ioView
    simp only [turnsLeft, point, turns, bodyTurns, if_neg distributes]
    omega

/-- A grain that is no read is one turn less if it is the IO task's. -/
theorem turnsLeft_step {grain : Grain} (legal : grain.Legal cfg p) (follows : p.Follows grain)
    (noRead : ∀ r, grain ≠ .other (.ioRead r)) : turnsLeft cfg p.sliced =
      turnsLeft cfg (grainStep cfg p grain).sliced + if grain.ofIoTask then 1 else 0 := by
  cases grain with
  | advance env => exact (turnsLeft_advance cfg env p).symm
  | turn w => exact turnsLeft_turn w follows
  | other op =>
      have others : op.ofIoTask = false → turnsLeft cfg p.sliced =
          turnsLeft cfg ⟨step cfg p.state op, p.sliced.point⟩ := by
        intro other
        have iters : (step cfg p.state op).iters = p.state.iters := by
          refine step_iters cfg p.state op fun reports announcements isOp => ?_
          rw [isOp] at other
          exact Bool.false_ne_true other.symm
        have point : (step cfg p.state op).ioPoint = p.state.ioPoint :=
          step_ioPoint cfg p.state other
        have same : turnsLeft cfg ⟨step cfg p.state op, p.sliced.point⟩ = turnsLeft cfg p.sliced :=
          turnsLeft_same rfl point iters
        exact same.symm
      cases op with
      | ioRead r => exact absurd rfl (noRead r)
      | process _ | ioReport _ _ => exact absurd legal.2 id
      | enable _ _ | disable | exclude _ | create _ _ _ _ | delete _ | start _ _ _
      | switch _ _ _ _ | hook _ _ | setFilter _ _ | getBuffer => exact others rfl
      | ioSend =>
          obtain ⟨⟨s, point⟩, points, lost⟩ := p
          obtain rfl : point = .outside := legal.2
          cases isPoint : s.ioPoint with
          | send target numBytes i => exact turnsLeft_send isPoint
          | read => exact absurd isPoint follows.1
          | report => exact absurd isPoint follows.2

/-- From a read on, whatever the other tasks do, the IO task takes the turns of its loop body and
no other ones, and it reads again when it has taken all. -/
theorem loop_body_turns {r : IoRead} {body : List Grain} {p' : Interleaved}
    (run : Transition.Run (grainStep cfg) (fun p grain => grain.Legal cfg p ∧ p.Follows grain) p
      (.other (.ioRead r) :: body) p')
    (noRead : ∀ grain ∈ body, ∀ r, grain ≠ .other (.ioRead r)) :
    body.countP Grain.ofIoTask ≤ bodyTurns cfg r p.state ∧
      (p'.AtRead ↔ body.countP Grain.ofIoTask = bodyTurns cfg r p.state) := by
  cases run with
  | cons first rest =>
      have begins : turnsLeft cfg (grainStep cfg p (.other (.ioRead r))).sliced =
          bodyTurns cfg r p.state := by
        have outside : p.sliced.point = .outside := first.2.1
        have read : step cfg p.state (.ioRead r) = ioRead cfg r p.state := by
          rw [step, first.2.2]
        rw [grainStep, read, outside]
        exact turnsLeft_read r p.state
      have counted := (rest.restrict noRead).countdown (fun p => turnsLeft cfg p.sliced)
        Grain.ofIoTask fun p grain allowed => turnsLeft_step allowed.1.1 allowed.1.2 allowed.2
      rw [begins] at counted
      have ended : turnsLeft cfg p'.sliced = 0 ↔ p'.AtRead := turnsLeft_eq_zero
      rw [← ended]
      omega

end

/-- What the idle read of `idleRead` returns. -/
def emptyRead : IoRead := { status := 0, numBytes := 0, data := [], destination := none }

/-- Before the read of `idleOps`. -/
def loopStart : Interleaved :=
  ((idleOps.take 2).map Grain.other).foldl (grainStep Config.tests) (Interleaved.init Config.tests)

/-- A task is created in the middle of the pass over the probes. -/
def interruptedBody : List Grain :=
  [.turn {}, .turn {}, .turn {},
    .other (.create {} { handle := 2, taskNumber := 0, becomesCurrent := true } [66] 1),
    .turn {}, .turn {}, .turn {}]

def interruptedBodyEnd : Interleaved :=
  (.other (.ioRead emptyRead) :: interruptedBody).foldl (grainStep Config.tests) loopStart

theorem loop_body_turns_interrupted :
    interruptedBody.countP Grain.ofIoTask ≤ bodyTurns Config.tests emptyRead loopStart.state ∧
      (interruptedBodyEnd.AtRead ↔ interruptedBody.countP Grain.ofIoTask =
        bodyTurns Config.tests emptyRead loopStart.state) := by
  refine loop_body_turns (Transition.Run.of_check (by decide +kernel)) ?_
  intro grain mem r isRead
  rw [isRead] at mem
  simp [interruptedBody] at mem

end ProbeTrace
