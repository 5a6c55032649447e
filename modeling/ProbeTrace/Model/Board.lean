import ProbeTrace.Model.UdpIo

/-!
The example's firmware: the library with its IO task, cut at each turn, and the driver below
the IO task. While the driver stays in vAssertCalled, in a critical section, nothing runs.
-/
namespace ProbeTrace

structure Board where
  sliced : Sliced
  driver : UdpIo
  halted : Bool

def Board.init (cfg : Config) : Board :=
  { sliced := ⟨State.init cfg, .outside⟩, driver := {}, halted := false }

/-- The IO task reads or takes its next turn, or another action is taken. `destination` is as in
IoRead; the status of `w` is the driver's. -/
inductive BoardAction
  | read (net : NetReply) (destination : Option (BitVec 32))
  | turn (net : NetReply) (w : IoWrite)
  | other (op : Op)

/-- The IO task is about to read. -/
def Sliced.Reads (p : Sliced) : Prop := p.point = .outside ∧ p.state.ioPoint = .read

instance (p : Sliced) : Decidable p.Reads := inferInstanceAs (Decidable (_ ∧ _))

/-- The IO task's next turn comes to TRACE_IO_WRITE. -/
def Sliced.Writes (cfg : Config) (w : IoWrite) (p : Sliced) : Prop :=
  match p.point with
  | .outside => False
  | .visiting _ i => i < cfg.maxProbes ∧ (p.state.tcbProbe i).probe ≠ none ∧
      (cfg.useTraceAssert = true → w.generated = true) ∧ w.sizeBytes ≠ 0

instance (cfg : Config) (w : IoWrite) (p : Sliced) : Decidable (p.Writes cfg w) :=
  match p with
  | ⟨_, .outside⟩ => isFalse id
  | ⟨_, .visiting _ _⟩ => inferInstanceAs (Decidable (_ ∧ _))

/-- The IO task's read, into g_io_buffer. -/
def boardRead (cfg : Config) (udp : UdpConfig) (net : NetReply)
    (destination : Option (BitVec 32)) (b : Board) : Board :=
  if b.sliced.Reads then
    match traceIoRead udp net b.sliced.state.ioBuffer cfg.ioTaskBufferSize b.driver with
    | .returned (status, numBytes, data) d =>
        { b with
          sliced := sliceStep cfg b.sliced (.other (.ioRead { status, numBytes, data, destination }))
          driver := d }
    | .asserted d => { b with driver := d, halted := true }
  else b

/-- A turn whose write does not return has done what comes before it, like one with nothing to
write. -/
def boardTurn (cfg : Config) (udp : UdpConfig) (net : NetReply) (w : IoWrite) (b : Board) :
    Board :=
  if b.sliced.Writes cfg w then
    match traceIoWrite udp net w.sizeBytes b.driver with
    | .returned (status, _) d =>
        { b with sliced := sliceStep cfg b.sliced (.turn { w with status }), driver := d }
    | .asserted d =>
        { sliced := sliceStep cfg b.sliced (.turn { w with sizeBytes := 0 })
          driver := d
          halted := true }
  else { b with sliced := sliceStep cfg b.sliced (.turn w) }

def boardStep (cfg : Config) (udp : UdpConfig) (b : Board) (a : BoardAction) : Board :=
  if b.halted then b
  else match a with
    | .read net destination => boardRead cfg udp net destination b
    | .turn net w => boardTurn cfg udp net w b
    | .other op => { b with sliced := sliceStep cfg b.sliced (.other op) }

/-- A new socket is not one that is open. -/
def NetReply.Fresh (net : NetReply) (d : UdpIo) : Prop :=
  ∀ xSocket ∈ net.socket, .socket (some xSocket) ∉ d.calls

instance (net : NetReply) (d : UdpIo) : Decidable (net.Fresh d) :=
  inferInstanceAs (Decidable (∀ _ ∈ _, _))

/-- The IO task's distribution of a message, which stays one action. -/
def Op.sends : Op → Bool
  | .ioSend => true
  | .enable _ _ | .disable | .exclude _ | .create _ _ _ _ | .delete _ | .start _ _ _
  | .switch _ _ _ _ | .hook _ _ | .setFilter _ _ | .ioRead _ | .ioReport _ _ | .process _
  | .getBuffer => false

/-- What the network stack, the probe library and the kernel promise. -/
def BoardAction.Legal (cfg : Config) (b : Board) : BoardAction → Prop
  | .read net _ => net.Fresh b.driver
  | .turn net w => net.Fresh b.driver ∧ w.sizeBytes ≤ cfg.ioTaskBufferSize
  | .other op => (op.ofIoTask = false ∨ b.sliced.point = .outside ∧ op.sends = true) ∧
      op.Legal cfg b.sliced.state

instance (cfg : Config) (b : Board) (a : BoardAction) : Decidable (a.Legal cfg b) :=
  match a with
  | .read net _ => inferInstanceAs (Decidable (net.Fresh b.driver))
  | .turn _ _ | .other _ => inferInstanceAs (Decidable (_ ∧ _))

/-- FreeRTOS_recvfrom's codes are not numbers of bytes. -/
def Arrival.Coded : Arrival → Prop
  | .nothing code => code ≤ 0
  | .datagram _ => True

instance (arrival : Arrival) : Decidable arrival.Coded :=
  match arrival with
  | .nothing code => inferInstanceAs (Decidable (code ≤ 0))
  | .datagram _ => isTrue trivial

/-- What they promise about g_io_buffer: the probe library is given its size. -/
def BoardAction.Fits (cfg : Config) : BoardAction → Prop
  | .read net _ => net.recvfrom.Coded
  | .turn _ w => w.data.length ≤ cfg.ioTaskBufferSize
  | .other _ => True

instance (cfg : Config) (a : BoardAction) : Decidable (a.Fits cfg) :=
  match a with
  | .read net _ => inferInstanceAs (Decidable net.recvfrom.Coded)
  | .turn _ w => inferInstanceAs (Decidable (w.data.length ≤ cfg.ioTaskBufferSize))
  | .other _ => isTrue trivial

/-- A run of the board from its start. -/
abbrev BoardReaches (cfg : Config) (udp : UdpConfig) (actions : List BoardAction) (b : Board) :
    Prop :=
  Transition.Run (boardStep cfg udp) (fun b a => a.Legal cfg b) (Board.init cfg) actions b

end ProbeTrace
