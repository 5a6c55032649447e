import ProbeTrace.Model.Hooks

/-!
The control plane: the body of the IO task's loop, cut at the points where other
tasks may run, and the functions by which a task takes its messages.
-/
namespace ProbeTrace

/-! The receiving side, in the context of the current task. -/

def pvTraceGetControlPlaneBuffer (s : State) : Option Nat × State :=
  let s := s.enterCriticalSection
  let buffer := match s.getTcbProbe s.prvTraceGetCurrentTaskHandle with
    | some i => (s.tcbProbe i).controlMsgBuffer
    | none => none
  (buffer, s.exitCriticalSection)

def State.setMessageBuffer (buffer : Nat) (b : MessageBuffer Message) (s : State) : State :=
  { s with messageBuffers := Function.update s.messageBuffers buffer b }

def xMessageBufferReceive (cfg : Config) (buffer : Nat) (s : State) :
    Option Message × State :=
  let (msg, b) := (s.messageBuffers buffer).receive Message.size cfg.controlPlaneTaskBufferSize
  (msg, s.setMessageBuffer buffer b)

/-- The fields vTraceProcessControlPlaneMessages reads under its critical section. -/
def currentTcbProbe (s : State) : TcbProbe :=
  match s.getTcbProbe s.prvTraceGetCurrentTaskHandle with
  | some i => s.tcbProbe i
  | none => {}

/-- The receive, when the task has both buffers. -/
def receiveMessage (cfg : Config) (tcbProbe : TcbProbe) (s : State) :
    Option Message × State :=
  match tcbProbe.controlMsgBuffer, tcbProbe.taskLocalBuffer with
  | some buffer, some _ => xMessageBufferReceive cfg buffer s
  | _, _ => (none, s)

/-- The part after the receive, when bytes were received. -/
def handOver (cfg : Config) (env : External) (probe : Option Probe)
    (received : Option Message) (s : State) : State :=
  match received with
  | some msg =>
      if msg.size ≠ 0 then
        let s := s.enterCriticalSection
        let s := s.logCall (.processControlMessage probe msg)
        let s := s.exitCriticalSection
        traceAssert cfg env.processControlMessage
          "Failed to process Modality probe control message" s id id
      else s
  | none => s

def vTraceProcessControlPlaneMessages (cfg : Config) (env : External) (s : State) : State :=
  let s := s.enterCriticalSection
  let tcbProbe := currentTcbProbe s
  let s := s.exitCriticalSection
  let (received, s) := receiveMessage cfg tcbProbe s
  handOver cfg env tcbProbe.probe received s

/-! The sending side, in the IO task. -/

/-- What TRACE_IO_READ returns, the contents of g_io_buffer after it, and what
modality_probe_get_control_message_destination then reports, `none` on an error. -/
structure IoRead where
  status : Int
  numBytes : Int
  data : List UInt8
  destination : Option (BitVec 32)
  deriving DecidableEq, Repr

def ioRead (cfg : Config) (r : IoRead) (s : State) : State :=
  let s := { s with ioBuffer := r.data }
  let s := if r.status ≠ 0 then s.prvTraceError "TRACE_IO_READ returned an error" else s
  if r.status = 0 ∧ 0 < r.numBytes then
    match r.destination with
    | some target =>
        let s := { s with reads := s.reads + 1 }
        if cfg.includeControlPlaneBuffer then
          { s with ioPoint := .send target r.numBytes.toNat 0 }
        else { s with ioPoint := .report }
    | none => { s with ioPoint := .report }
  else { s with ioPoint := .report }

def xMessageBufferSend (cfg : Config) (i buffer : Nat) (msg : Message) (s : State) : State :=
  let (sent, b) := (s.messageBuffers buffer).send Message.size cfg.messageLengthBytes msg
  { s.setMessageBuffer buffer b with sends := s.sends ++ [(i, msg, sent)] }

/-- The message the IO task holds while it distributes it. -/
def heldMessage (s : State) (target : BitVec 32) (numBytes : Nat) : Message :=
  { bytes := s.ioBuffer.take numBytes, read := s.reads, destination := target }

/-- The body of the loop over the slots. -/
def sendToSlot (cfg : Config) (target : BitVec 32) (numBytes i : Nat) (s : State) : State :=
  match (s.tcbProbe i).tcb, (s.tcbProbe i).controlMsgBuffer with
  | some tcb, some buffer =>
      let probeId := (s.prvTraceGetTaskProbeId (some tcb)).setWidth 32
      if target = cfg.probeIdBroadcast ∨ target = probeId then
        xMessageBufferSend cfg i buffer (heldMessage s target numBytes) s
      else s
  | _, _ => s

/-- One turn of the loop over the slots; nothing at any other point. -/
def ioSend (cfg : Config) (s : State) : State :=
  match s.ioPoint with
  | .send target numBytes i =>
      let s := sendToSlot cfg target numBytes i s
      { s with ioPoint :=
          if i + 1 < cfg.maxProbes then .send target numBytes (i + 1) else .report }
  | .read | .report => s

/-- What generating and writing out one report or announcement returns. -/
structure IoWrite where
  generated : Bool := true
  sizeBytes : Nat := 0
  data : List UInt8 := []
  status : Int := 0

/-- The common body of the two functions the IO task passes to the iterator. -/
def ioTaskProbeIter (cfg : Config) (call : Probe → Call) (failed writeFailed : String)
    (w : IoWrite) (probe : Probe) (s : State) : State :=
  let s := s.enterCriticalSection
  let s := { s.logCall (call probe) with ioBuffer := w.data }
  let s := s.exitCriticalSection
  traceAssert cfg w.generated failed s id fun s =>
  if w.sizeBytes ≠ 0 ∧ w.status ≠ 0 then s.prvTraceError writeFailed else s

def ioTaskProbeReportIterFn (cfg : Config) : IoWrite → Probe → State → State :=
  ioTaskProbeIter cfg .report "Failed to generate Modality probe report"
    "TRACE_IO_WRITE returned an error (1)"

def ioTaskProbeMutatorAnnouncementIterFn (cfg : Config) : IoWrite → Probe → State → State :=
  ioTaskProbeIter cfg .announceMutators "Failed to generate Modality mutator announcement"
    "TRACE_IO_WRITE returned an error (2)"

/-- The test for a mutator announcement pass. -/
def announcementDue (cfg : Config) (s : State) : Bool :=
  decide ((s.iters.toNat : Int) > cfg.ioTaskItersPerMutatorAnnouncement)

/-- The probe reports. -/
def sendReports (cfg : Config) (reports : Probe → IoWrite) : State → State :=
  vTraceProbeIterator cfg fun probe => ioTaskProbeReportIterFn cfg (reports probe) probe

/-- The mutator announcements, when they are due. -/
def sendAnnouncements (cfg : Config) (announcements : Probe → IoWrite) (s : State) : State :=
  if announcementDue cfg s then
    vTraceProbeIterator cfg
      (fun probe => ioTaskProbeMutatorAnnouncementIterFn cfg (announcements probe) probe)
      { s with iters := 0 }
  else s

/-- The rest of the loop body, after the control messages. -/
def ioReport (cfg : Config) (reports announcements : Probe → IoWrite) (s : State) : State :=
  match s.ioPoint with
  | .report =>
      let s := sendAnnouncements cfg announcements (sendReports cfg reports s)
      { s with iters := s.iters + 1, ioPoint := .read }
  | .read | .send _ _ _ => s

end ProbeTrace
