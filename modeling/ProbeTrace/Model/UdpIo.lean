import ProbeTrace.Model.ReportPass

/-!
The example's driver, modality_probe_io.c: control messages are read from one UDP socket and
reports written to another, each made at its first use. A failed configASSERT does not return.
-/
namespace ProbeTrace

/-- freertos_sockaddr -/
structure SockAddr where
  sinPort : BitVec 16 := 0
  sinAddr : BitVec 32 := 0
  deriving DecidableEq, Repr

abbrev Socket := Nat

/-- The addresses the driver is configured with, as FreeRTOS_htons and FreeRTOS_inet_addr_quick
give them, and the stack's error code of FreeRTOS_recvfrom. -/
structure UdpConfig where
  collector : SockAddr
  controlPlane : SockAddr
  socketError : Int
  deriving DecidableEq, Repr

/-- The example's ports and addresses, in network order on a little-endian machine. -/
def UdpConfig.m3Qemu : UdpConfig where
  collector := { sinPort := 0x9E0A, sinAddr := 0x020200C0 }
  controlPlane := { sinPort := 0x1086, sinAddr := 0x500200C0 }
  socketError := -1

/-- The calls made to the network stack, with what they returned. -/
inductive NetCall
  | socket (result : Option Socket)
  | setsockopt (xSocket : Socket) (timeout : Nat) (result : Int)
  | bind (xSocket : Socket) (address : SockAddr) (result : Int)
  | recvfrom (xSocket : Socket) (size : Nat) (result : Int)
  | sendto (xSocket : Socket) (size : Nat) (address : SockAddr) (result : Int)
  deriving DecidableEq, Repr

/-- The driver's static variables; `none` is FREERTOS_INVALID_SOCKET. The calls are a ghost. -/
structure UdpIo where
  xSenderSocket : Option Socket := none
  xSenderAddress : SockAddr := {}
  xReceiverSocket : Option Socket := none
  xReceiverAddress : SockAddr := {}
  calls : List NetCall := []
  deriving DecidableEq, Repr

/-- What FreeRTOS_recvfrom comes upon: no datagram, for which it returns a code, or the next. -/
inductive Arrival
  | nothing (code : Int)
  | datagram (bytes : List UInt8)
  deriving DecidableEq, Repr

namespace Arrival

/-- What FreeRTOS_recvfrom returns for a buffer of this size; a datagram is cut to it. -/
def received (size : Nat) : Arrival → Int
  | nothing code => code
  | datagram bytes => (bytes.take size).length

/-- The buffer after it. -/
def fill (size : Nat) (data : List UInt8) : Arrival → List UInt8
  | nothing _ => data
  | datagram bytes => bytes.take size ++ data.drop (bytes.take size).length

end Arrival

/-- What the network stack returns during one call of the driver. -/
structure NetReply where
  socket : Option Socket := none
  setsockopt : Int := 0
  bind : Int := 0
  recvfrom : Arrival := .nothing 0
  sendto : Int := 0
  deriving DecidableEq, Repr

namespace UdpIo

def logCall (c : NetCall) (d : UdpIo) : UdpIo := { d with calls := d.calls ++ [c] }

end UdpIo

/-- A function of the driver returns, or the driver stays in vAssertCalled. -/
inductive Driven (α : Type)
  | returned (result : α) (d : UdpIo)
  | asserted (d : UdpIo)
  deriving DecidableEq, Repr

def configAssert {α : Type} (eval : Bool) (d : UdpIo) (k : UdpIo → Driven α) : Driven α :=
  if eval then k d else .asserted d

/-- The first half of init_sender. -/
def setSenderAddress (cfg : UdpConfig) (d : UdpIo) : UdpIo :=
  if d.xSenderAddress.sinPort = 0 then { d with xSenderAddress := cfg.collector } else d

def initSender (cfg : UdpConfig) (net : NetReply) (d : UdpIo) : Int × UdpIo :=
  let d := setSenderAddress cfg d
  match d.xSenderSocket with
  | some _ => (0, d)
  | none =>
      let d := { d with xSenderSocket := net.socket }.logCall (.socket net.socket)
      match net.socket with
      | none => (-1, d)
      | some _ => (0, d)

/-- The first half of init_recvr. -/
def setReceiverAddress (cfg : UdpConfig) (d : UdpIo) : UdpIo :=
  if d.xReceiverAddress.sinPort = 0 then { d with xReceiverAddress := cfg.controlPlane } else d

/-- The options and the address of a new socket. -/
def bindReceiver (net : NetReply) (xSocket : Socket) (d : UdpIo) : Driven Int :=
  let d := d.logCall (.setsockopt xSocket 0 net.setsockopt)
  configAssert (net.setsockopt == 0) d fun d =>
  let d := d.logCall (.bind xSocket d.xReceiverAddress net.bind)
  configAssert (net.bind == 0) d fun d => .returned 0 d

def initRecvr (cfg : UdpConfig) (net : NetReply) (d : UdpIo) : Driven Int :=
  let d := setReceiverAddress cfg d
  match d.xReceiverSocket with
  | some _ => .returned 0 d
  | none =>
      let d := { d with xReceiverSocket := net.socket }.logCall (.socket net.socket)
      match net.socket with
      | none => .returned (-1) d
      | some xSocket => bindReceiver net xSocket d

/-- The status of trace_io_read, what `bytes_read` points to afterwards, if it was 0, and the
buffer. -/
abbrev ReadResult := Int × Int × List UInt8

/-- The rest of trace_io_read after init_recvr. `data` and `bytes_read` are never NULL, as they
are arrays and variables of the IO task. -/
def receive (cfg : UdpConfig) (net : NetReply) (data : List UInt8) (size : Nat) (ret : Int)
    (d : UdpIo) : Driven ReadResult :=
  configAssert (ret == 0) d fun d =>
  configAssert (size != 0) d fun d =>
  match d.xReceiverSocket with
  | some xSocket =>
      let ret := net.recvfrom.received size
      let data := net.recvfrom.fill size data
      let d := d.logCall (.recvfrom xSocket size ret)
      if ret = cfg.socketError then .returned (-1, 0, data) d else .returned (0, ret, data) d
  | none => .returned (ret, 0, data) d

def traceIoRead (cfg : UdpConfig) (net : NetReply) (data : List UInt8) (size : Nat) (d : UdpIo) :
    Driven ReadResult :=
  match initRecvr cfg net d with
  | .returned ret d => receive cfg net data size ret d
  | .asserted d => .asserted d

def traceIoWrite (cfg : UdpConfig) (net : NetReply) (size : Nat) (d : UdpIo) :
    Driven (Int × Int) :=
  configAssert (size != 0) d fun d =>
  let (ret, d) := initSender cfg net d
  configAssert (ret == 0) d fun d =>
  match d.xSenderSocket with
  | some xSocket =>
      let d := d.logCall (.sendto xSocket size d.xSenderAddress net.sendto)
      if net.sendto < 0 then .returned (-1, 0) d else .returned (0, net.sendto) d
  | none => .returned (ret, 0) d

end ProbeTrace
