import ProbeTrace.Metatheory.InterruptedCalls
import ProbeTrace.Metatheory.PassAtomicity

/-!
The two grains of the whole system agree. Three parts of a call that nobody interrupts are
vTraceProcessControlPlaneMessages, and every run of whole actions is a run of the parts.
-/
namespace ProbeTrace

/-- Nobody is in the middle of a call or of a pass. -/
def Interleaved.whole (s : State) : Interleaved := ⟨⟨s, .outside⟩, fun _ => .outside, []⟩

section
variable {cfg : Config} {p : Interleaved} {s : State}

namespace Interleaved

theorem move_points (p : Interleaved) (s : State) (point : ProcessPoint) :
    (p.move s point).points p.caller = point :=
  Function.update_self ..

theorem advance_outside (env : External) (isPoint : p.points p.caller = .outside) :
    p.advance cfg env = p.move p.state (.lookedUp (currentTcbProbe p.state)) := by
  rw [advance, isPoint]
  dsimp only
  rw [p.state.exit_enterCriticalSection]
  rfl

theorem advance_lookedUp (env : External) {tcbProbe : TcbProbe}
    (isPoint : p.points p.caller = .lookedUp tcbProbe) :
    p.advance cfg env = p.move (receiveMessage cfg tcbProbe p.state).2
      (.received tcbProbe.probe (receiveMessage cfg tcbProbe p.state).1) := by
  rw [advance, isPoint]

theorem advance_received (env : External) {probe : Option Probe} {msg : Option Message}
    (isPoint : p.points p.caller = .received probe msg) :
    p.advance cfg env = p.move (handOver cfg env probe msg p.state) .outside := by
  rw [advance, isPoint]

end Interleaved

theorem receiveMessage_pxCurrentTcb (cfg : Config) (tcbProbe : TcbProbe) (s : State) :
    (receiveMessage cfg tcbProbe s).2.pxCurrentTcb = s.pxCurrentTcb := by
  cases receiveMessage_cases cfg tcbProbe s with
  | inl nothing => rw [nothing]
  | inr takes =>
      obtain ⟨buffer, msg, rest, -, -, received⟩ := takes
      rw [received]
      rfl

/-- The three parts of a call, one after the other. -/
theorem uninterrupted_call (env env' env'' : External) (outside : p.points p.caller = .outside) :
    ((p.advance cfg env).advance cfg env').advance cfg env'' =
      { p with sliced :=
          ⟨vTraceProcessControlPlaneMessages cfg env'' p.state, p.sliced.point⟩ } := by
  have looked := p.move_points p.state (.lookedUp (currentTcbProbe p.state))
  rw [Interleaved.advance_outside env outside, Interleaved.advance_lookedUp env' looked]
  generalize isMoved : (p.move p.state _).move _ _ = q
  have caller : q.caller = p.caller := by
    rw [← isMoved]
    exact receiveMessage_pxCurrentTcb cfg _ p.state
  have received : q.points q.caller = .received (currentTcbProbe p.state).probe
      (receiveMessage cfg (currentTcbProbe p.state) p.state).1 := by
    rw [caller, ← isMoved]
    exact Interleaved.move_points ..
  rw [Interleaved.advance_received env'' received, Interleaved.move, caller, process_unfold,
    ← isMoved]
  have points : Function.update (Function.update (Function.update p.points p.caller
      (.lookedUp (currentTcbProbe p.state))) p.caller (.received (currentTcbProbe p.state).probe
        (receiveMessage cfg (currentTcbProbe p.state) p.state).1)) p.caller .outside =
      p.points := by
    rw [Function.update_idem, Function.update_idem, ← outside, Function.update_eq_self]
  exact congrArg (Interleaved.mk _ · p.lost) points

/-- A run of turns is a run of the whole system. -/
theorem grains_of_turns {turns : List IoWrite} {q q' : Sliced} (run : PassRun cfg q turns q')
    (points : Option TaskHandle → ProcessPoint) (lost : List (Option Probe × Message)) :
    Transition.Run (grainStep cfg) (fun p grain => grain.Legal cfg p) ⟨q, points, lost⟩
      (turns.map .turn) ⟨q', points, lost⟩ := by
  induction turns generalizing q with
  | nil =>
      cases run with
      | nil => exact .nil _
  | cons w turns ih =>
      cases run with
      | cons _ rest => exact .cons trivial (ih rest)

/-- Nobody is in a call that could end. -/
theorem endCall_whole (s : State) (task : TaskHandle) :
    (Interleaved.whole s).endCall task = .whole s := by
  have points : Function.update (fun _ => ProcessPoint.outside) (some task) .outside =
      fun _ => .outside := Function.update_eq_self (some task) fun _ => ProcessPoint.outside
  exact congrArg (Interleaved.mk _ · []) points

theorem grainStep_whole (cfg : Config) (s : State) (op : Op) :
    grainStep cfg (.whole s) (.other op) = .whole (step cfg s op) := by
  have ended : op.ends.elim (Interleaved.whole s) (Interleaved.whole s).endCall = .whole s := by
    cases op.ends with
    | none => rfl
    | some task => exact endCall_whole s task
  rw [grainStep, ended]
  rfl

/-- Every action is a run of grains. -/
theorem grains_of_action {op : Op} (legal : op.Legal cfg s) :
    ∃ grains, Transition.Run (grainStep cfg) (fun p grain => grain.Legal cfg p)
      (.whole s) grains (.whole (step cfg s op)) := by
  have one : (Interleaved.whole s).Permits op → ∃ grains, Transition.Run (grainStep cfg)
      (fun p grain => grain.Legal cfg p) (.whole s) grains (.whole (step cfg s op)) :=
    fun permits => ⟨[.other op], .cons ⟨legal, permits⟩ (grainStep_whole cfg s op ▸ .nil _)⟩
  cases op with
  | ioRead _ | ioSend => exact one rfl
  | enable _ _ | disable | exclude _ | create _ _ _ _ | delete _ | start _ _ _ | switch _ _ _ _
  | hook _ _ | setFilter _ _ | getBuffer => exact one trivial
  | process env =>
      have run : Transition.Run (grainStep cfg) (fun p grain => grain.Legal cfg p) (.whole s)
          [.advance env, .advance env, .advance env]
          ((((Interleaved.whole s).advance cfg env).advance cfg env).advance cfg env) :=
        .cons trivial (.cons trivial (.cons trivial (.nil _)))
      rw [uninterrupted_call env env env rfl] at run
      exact ⟨_, run⟩
  | ioReport reports announcements =>
      cases point : s.ioPoint with
      | read | send _ _ _ =>
          have idle : step cfg s (.ioReport reports announcements) = s := by
            rw [step, ioReport, point]
          rw [idle]
          exact ⟨[], .nil _⟩
      | report =>
          obtain ⟨turns, run⟩ := passRun_of_ioReport reports announcements point
          have pass := grains_of_turns run (fun _ => .outside) []
          rw [← passTurn_begins {} point] at pass
          exact ⟨.turn {} :: turns.map .turn, .cons trivial pass⟩

/-- Every run of whole actions is a run of their parts, at whose end nobody is in the middle of
a call or of a pass. -/
theorem whole_actions_refine {ops : List Op} (h : Reaches cfg (fun _ _ => True) ops s) :
    ∃ grains, Transition.Run (grainStep cfg) (fun p grain => grain.Legal cfg p)
      (Interleaved.init cfg) grains (.whole s) := by
  have each : ∀ s p op, op.Legal cfg s ∧ True → p = Interleaved.whole s → ∃ grains p',
      Transition.Run (grainStep cfg) (fun p grain => grain.Legal cfg p) p grains p' ∧
        p' = .whole (step cfg s op) := by
    intro s p op allowed isWhole
    obtain ⟨grains, run⟩ := grains_of_action allowed.1
    exact ⟨grains, _, isWhole ▸ run, rfl⟩
  obtain ⟨grains, p, run, isWhole⟩ := h.refines each rfl
  exact ⟨grains, isWhole ▸ run⟩

end

/-- Send a task a broadcast, and let the task process it. -/
def processOne : List Op := sendOne 8 ++ [.process {}]

theorem whole_actions_refine_short :
    ∃ grains, Transition.Run (grainStep Config.tests) (fun p grain => grain.Legal Config.tests p)
      (Interleaved.init Config.tests) grains
      (.whole (processOne.foldl (step Config.tests) (State.init Config.tests))) :=
  whole_actions_refine (Transition.Run.of_check (by decide +kernel))

end ProbeTrace
