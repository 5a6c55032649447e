import ProbeTrace.Model.System

/-!
The IO task's passes over the probes, cut at each turn of the loop of vTraceProbeIterator: other
tasks may run between two turns. The rest of the loop body is that of ioReport.
-/
namespace ProbeTrace

/-- The two functions the IO task passes to vTraceProbeIterator. -/
inductive Pass
  | reports
  | announcements
  deriving DecidableEq, Repr

def Pass.iterFn (cfg : Config) : Pass → IoWrite → Probe → State → State
  | .reports => ioTaskProbeReportIterFn cfg
  | .announcements => ioTaskProbeMutatorAnnouncementIterFn cfg

def Pass.call : Pass → Probe → Call
  | .reports => .report
  | .announcements => .announceMutators

/-- Where the IO task stands: outside of its passes, or before slot `i` of one. -/
inductive PassPoint
  | outside
  | visiting (pass : Pass) (i : Nat)
  deriving DecidableEq, Repr

structure Sliced where
  state : State
  point : PassPoint

/-- The body of the loop of vTraceProbeIterator. -/
def visitSlot (pvIteratorFunction : Probe → State → State) (i : Nat) (s : State) : State :=
  match (s.tcbProbe i).probe with
  | some probe => pvIteratorFunction probe s
  | none => s

/-- The end of the loop body of prvModalityProbeIo. -/
def endIteration (s : State) : Sliced :=
  ⟨{ s with iters := s.iters + 1, ioPoint := .read }, .outside⟩

/-- What follows a pass. -/
def endPass (cfg : Config) (s : State) : Pass → Sliced
  | .reports =>
      if announcementDue cfg s then ⟨{ s with iters := 0 }, .visiting .announcements 0⟩
      else endIteration s
  | .announcements => endIteration s

/-- The IO task goes on to its next turn; `w` is what generating and writing out a report or
an announcement returns, if the turn does. -/
def passTurn (cfg : Config) (w : IoWrite) (p : Sliced) : Sliced :=
  match p.point with
  | .outside => match p.state.ioPoint with
      | .report => ⟨p.state, .visiting .reports 0⟩
      | .read | .send _ _ _ => p
  | .visiting pass i =>
      if i < cfg.maxProbes then ⟨visitSlot (pass.iterFn cfg w) i p.state, .visiting pass (i + 1)⟩
      else endPass cfg p.state pass

theorem passTurn_visiting (cfg : Config) (w : IoWrite) (s : State) (pass : Pass) (i : Nat) :
    passTurn cfg w ⟨s, .visiting pass i⟩ =
      if i < cfg.maxProbes then ⟨visitSlot (pass.iterFn cfg w) i s, .visiting pass (i + 1)⟩
      else endPass cfg s pass := rfl

/-- A turn of the IO task's passes, or an action of the rest of the system. -/
inductive Slice
  | turn (w : IoWrite)
  | other (op : Op)

def sliceStep (cfg : Config) (p : Sliced) : Slice → Sliced
  | .turn w => passTurn cfg w p
  | .other op => ⟨step cfg p.state op, p.point⟩

/-- An action the IO task makes. -/
def Op.ofIoTask : Op → Bool
  | .ioRead _ | .ioSend | .ioReport _ _ => true
  | .enable _ _ | .disable | .exclude _ | .create _ _ _ _ | .delete _ | .start _ _ _
  | .switch _ _ _ _ | .hook _ _ | .setFilter _ _ | .process _ | .getBuffer => false

end ProbeTrace
