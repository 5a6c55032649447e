import ProbeTrace.Model.ReportPass

/-!
The system at its finest grain. A caller of vTraceProcessControlPlaneMessages may be interrupted
after the lookup under the first critical section and after the receive; its local variables are
kept until it goes on, or until its task is deleted, when they are lost. The IO task's passes are
cut as in Sliced.
-/
namespace ProbeTrace

/-- How far a caller of vTraceProcessControlPlaneMessages is, with its local variables. -/
inductive ProcessPoint
  | outside
  | lookedUp (tcbProbe : TcbProbe)
  | received (probe : Option Probe) (msg : Option Message)
  deriving DecidableEq, Repr

/-- The message a caller at this point has received and not handed over, and for which probe. -/
def ProcessPoint.inHand : ProcessPoint → List (Option Probe × Message)
  | .received probe (some msg) => [(probe, msg)]
  | .outside | .lookedUp _ | .received _ none => []

/-- The messages that were in hand when their task was deleted are a ghost. -/
structure Interleaved where
  sliced : Sliced
  points : Option TaskHandle → ProcessPoint
  lost : List (Option Probe × Message)

namespace Interleaved

def init (cfg : Config) : Interleaved := ⟨⟨State.init cfg, .outside⟩, fun _ => .outside, []⟩

def state (p : Interleaved) : State := p.sliced.state

/-- The current task is the caller. -/
def caller (p : Interleaved) : Option TaskHandle := p.state.pxCurrentTcb

/-- The state and the caller's point after a part of the call. -/
def move (p : Interleaved) (s : State) (point : ProcessPoint) : Interleaved :=
  { p with
    sliced := ⟨s, p.sliced.point⟩
    points := Function.update p.points p.caller point }

/-- The caller goes on to the next point at which it may be interrupted. -/
def advance (cfg : Config) (env : External) (p : Interleaved) : Interleaved :=
  match p.points p.caller with
  | .outside =>
      let s := p.state.enterCriticalSection
      let tcbProbe := currentTcbProbe s
      p.move s.exitCriticalSection (.lookedUp tcbProbe)
  | .lookedUp tcbProbe =>
      let (received, s) := receiveMessage cfg tcbProbe p.state
      p.move s (.received tcbProbe.probe received)
  | .received probe msg => p.move (handOver cfg env probe msg p.state) .outside

/-- A call of this task, if it is in one, does not go on. -/
def endCall (p : Interleaved) (task : TaskHandle) : Interleaved :=
  { p with
    points := Function.update p.points (some task) .outside
    lost := p.lost ++ (p.points (some task)).inHand }

end Interleaved

/-- The task whose control block the action gives back, or takes for a new task. -/
def Op.ends : Op → Option TaskHandle
  | .delete task => some task
  | .create _ new _ _ => some new.handle
  | .enable _ io => io.map NewTask.handle
  | .disable | .exclude _ | .start _ _ _ | .switch _ _ _ _ | .hook _ _ | .setFilter _ _
  | .ioRead _ | .ioSend | .ioReport _ _ | .process _ | .getBuffer => none

/-- A part of a call, a turn of the IO task's passes, or an action of the rest of the system. -/
inductive Grain
  | advance (env : External)
  | turn (w : IoWrite)
  | other (op : Op)

def grainStep (cfg : Config) (p : Interleaved) : Grain → Interleaved
  | .advance env => p.advance cfg env
  | .turn w => { p with sliced := passTurn cfg w p.sliced }
  | .other op => { op.ends.elim p p.endCall with sliced := ⟨step cfg p.state op, p.sliced.point⟩ }

/-- The parts of a call and of a pass are grains of their own. The IO task reads and sends
outside of its passes. -/
def Interleaved.Permits (p : Interleaved) : Op → Prop
  | .process _ | .ioReport _ _ => False
  | .ioRead _ | .ioSend => p.sliced.point = .outside
  | .enable _ _ | .disable | .exclude _ | .create _ _ _ _ | .delete _ | .start _ _ _
  | .switch _ _ _ _ | .hook _ _ | .setFilter _ _ | .getBuffer => True

instance Interleaved.decidablePermits (p : Interleaved) (op : Op) : Decidable (p.Permits op) :=
  match op with
  | .process _ | .ioReport _ _ => instDecidableFalse
  | .ioRead _ | .ioSend => inferInstanceAs (Decidable (_ = _))
  | .enable _ _ | .disable | .exclude _ | .create _ _ _ _ | .delete _ | .start _ _ _
  | .switch _ _ _ _ | .hook _ _ | .setFilter _ _ | .getBuffer => instDecidableTrue

def Grain.Legal (cfg : Config) (p : Interleaved) : Grain → Prop
  | .advance _ | .turn _ => True
  | .other op => op.Legal cfg p.state ∧ p.Permits op

instance Grain.decidableLegal (cfg : Config) (p : Interleaved) (grain : Grain) :
    Decidable (grain.Legal cfg p) :=
  match grain with
  | .advance _ | .turn _ => instDecidableTrue
  | .other _ => inferInstanceAs (Decidable (_ ∧ _))

end ProbeTrace
