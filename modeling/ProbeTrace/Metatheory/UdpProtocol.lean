import ProbeTrace.Foundation.Additions
import ProbeTrace.Foundation.CallDiscipline
import ProbeTrace.Model.Board

/-!
The driver's use of the network stack, call by call. Each call is allowed by the calls before
it: a socket is opened once for each direction, only the receiver's gets an address, and data
moves on sockets that are ready for it. After a call that fails there is none.
-/
namespace ProbeTrace
open CallDiscipline

namespace NetCall

/-- The driver stays in vAssertCalled after it. -/
def Fatal : NetCall → Prop
  | .socket result => result = none
  | .setsockopt _ _ result | .bind _ _ result => result ≠ 0
  | .recvfrom _ _ _ | .sendto _ _ _ _ => False

def opens : NetCall → Bool
  | .socket _ => true
  | .setsockopt _ _ _ | .bind _ _ _ | .recvfrom _ _ _ | .sendto _ _ _ _ => false

def transfers : NetCall → Bool
  | .recvfrom _ _ _ | .sendto _ _ _ _ => true
  | .socket _ | .setsockopt _ _ _ | .bind _ _ _ => false

/-- The socket was given no address. -/
def Unbound (calls : List NetCall) (xSocket : Socket) : Prop :=
  ∀ address result, .bind xSocket address result ∉ calls

/-- What a call needs; `buf` is the length of the IO task's buffer. -/
def Ready (udp : UdpConfig) (buf : Nat) (before : List NetCall) : NetCall → Prop
  | .socket _ => (before.filter opens).length < 2
  | .setsockopt xSocket timeout _ => .socket (some xSocket) ∈ before ∧ timeout = 0 ∧
      ∀ s, Unbound before s
  | .bind xSocket address _ => .setsockopt xSocket 0 0 ∈ before ∧ address = udp.controlPlane ∧
      ∀ s, Unbound before s
  | .recvfrom xSocket size _ => .bind xSocket udp.controlPlane 0 ∈ before ∧ size = buf
  | .sendto xSocket size address _ => .socket (some xSocket) ∈ before ∧
      Unbound before xSocket ∧ address = udp.collector ∧ 0 < size ∧ size ≤ buf

def Allowed (udp : UdpConfig) (buf : Nat) (before : List NetCall) (c : NetCall) : Prop :=
  (∀ c' ∈ before, ¬ c'.Fatal) ∧ c.Ready udp buf before

end NetCall

/-- A log that may go on. -/
structure LogSound (udp : UdpConfig) (buf : Nat) (calls : List NetCall) : Prop where
  log : Disciplined (NetCall.Allowed udp buf) calls
  alive : ∀ c ∈ calls, ¬ c.Fatal

/-- What the driver's variables say about the calls it made. -/
structure UdpSound (udp : UdpConfig) (buf : Nat) (d : UdpIo) : Prop where
  calls : LogSound udp buf d.calls
  opened : (d.calls.filter NetCall.opens).length =
    d.xSenderSocket.toList.length + d.xReceiverSocket.toList.length
  bound : ∀ xSocket, .socket (some xSocket) ∉ d.calls → NetCall.Unbound d.calls xSocket
  sender : ∀ xSocket, d.xSenderSocket = some xSocket →
    .socket (some xSocket) ∈ d.calls ∧ NetCall.Unbound d.calls xSocket
  receiver : ∀ xSocket, d.xReceiverSocket = some xSocket →
    .bind xSocket udp.controlPlane 0 ∈ d.calls
  unbound : d.xReceiverSocket = none → ∀ xSocket, NetCall.Unbound d.calls xSocket
  collector : d.xSenderAddress.sinPort = 0 ∨ d.xSenderAddress = udp.collector
  controlPlane : d.xReceiverAddress.sinPort = 0 ∨ d.xReceiverAddress = udp.controlPlane

/-- From `d` to `d'` sockets may be opened, but no data moves. -/
abbrev OnlyOpens (d d' : UdpIo) : Prop :=
  Additions.Adds UdpIo.calls (fun c => c.transfers = false) d d'

theorem OnlyOpens.logCall {d d' : UdpIo} (h : OnlyOpens d d') {c : NetCall}
    (quiet : c.transfers = false) : OnlyOpens d (d'.logCall c) :=
  h.trans (.one rfl quiet)

/-- The driver ended in vAssertCalled by a call that failed. -/
structure UdpFailed (udp : UdpConfig) (buf : Nat) (d : UdpIo) : Prop where
  log : Disciplined (NetCall.Allowed udp buf) d.calls
  fatal : ∃ c ∈ d.calls, c.Fatal

section
variable {udp : UdpConfig} {buf : Nat} {net : NetReply} {d : UdpIo} {c : NetCall}
  {calls : List NetCall}

/-! Logs. -/

theorem LogSound.snoc (h : LogSound udp buf calls) (ready : c.Ready udp buf calls)
    (succeeds : ¬ c.Fatal) : LogSound udp buf (calls ++ [c]) := by
  refine ⟨h.log.snoc ⟨h.alive, ready⟩, fun c' mem => ?_⟩
  cases List.mem_append.mp mem with
  | inl old => exact h.alive c' old
  | inr here => exact List.mem_singleton.mp here ▸ succeeds

/-- A call that fails is the last. -/
theorem LogSound.fails (h : LogSound udp buf calls) (ready : c.Ready udp buf calls)
    (fatal : c.Fatal) (isLog : d.calls = calls ++ [c]) : UdpFailed udp buf d where
  log := isLog ▸ h.log.snoc ⟨h.alive, ready⟩
  fatal := ⟨c, isLog ▸ List.mem_append_right _ (List.mem_singleton_self c), fatal⟩

theorem unbound_snoc (other : ∀ xSocket address result, c ≠ .bind xSocket address result)
    (xSocket : Socket) :
    NetCall.Unbound (calls ++ [c]) xSocket ↔ NetCall.Unbound calls xSocket := by
  constructor
  · exact fun none address result mem => none address result (List.mem_append_left _ mem)
  · intro none address result mem
    cases List.mem_append.mp mem with
    | inl old => exact none address result old
    | inr here => exact other xSocket address result (List.mem_singleton.mp here).symm

/-! Data. -/

theorem UdpSound.init (udp : UdpConfig) (buf : Nat) : UdpSound udp buf {} where
  calls := ⟨disciplined_nil, fun _ none => absurd none List.not_mem_nil⟩
  opened := rfl
  bound _ _ _ _ := List.not_mem_nil
  sender _ none := absurd none.symm (Option.some_ne_none _)
  receiver _ none := absurd none.symm (Option.some_ne_none _)
  unbound _ _ _ _ := List.not_mem_nil
  collector := .inl rfl
  controlPlane := .inl rfl

/-- Data moves on a socket that is ready. -/
theorem UdpSound.transfer (h : UdpSound udp buf d) (ready : c.Ready udp buf d.calls)
    (kind : c.transfers = true) : UdpSound udp buf (d.logCall c) := by
  have shape : ¬ c.Fatal ∧ c.opens = false ∧
      ∀ xSocket address result, c ≠ .bind xSocket address result := by
    cases c with
    | recvfrom _ _ _ | sendto _ _ _ _ => exact ⟨id, rfl, fun _ _ _ => NetCall.noConfusion⟩
    | socket _ | setsockopt _ _ _ | bind _ _ _ => exact absurd kind Bool.false_ne_true
  obtain ⟨succeeds, closed, other⟩ := shape
  exact {
    calls := h.calls.snoc ready succeeds
    opened := by
      show ((d.calls ++ [c]).filter NetCall.opens).length = _
      rw [List.filter_append, List.filter_singleton, closed]
      exact (congrArg List.length (List.append_nil _)).trans h.opened
    bound := fun xSocket absent => (unbound_snoc other xSocket).mpr
      (h.bound xSocket fun mem => absent (List.mem_append_left _ mem))
    sender := fun xSocket own => ⟨List.mem_append_left _ (h.sender xSocket own).1,
      (unbound_snoc other xSocket).mpr (h.sender xSocket own).2⟩
    receiver := fun xSocket own => List.mem_append_left _ (h.receiver xSocket own)
    unbound := fun none xSocket => (unbound_snoc other xSocket).mpr (h.unbound none xSocket)
    collector := h.collector
    controlPlane := h.controlPlane }

/-! Opening the sockets. -/

theorem setSenderAddress_sound (h : UdpSound udp buf d) :
    UdpSound udp buf (setSenderAddress udp d) ∧
      (setSenderAddress udp d).xSenderAddress = udp.collector := by
  simp only [setSenderAddress]
  split
  · exact ⟨{ h with collector := .inr rfl }, rfl⟩
  · exact ⟨h, h.collector.resolve_left ‹_›⟩

theorem setReceiverAddress_sound (h : UdpSound udp buf d) :
    UdpSound udp buf (setReceiverAddress udp d) ∧
      (setReceiverAddress udp d).xReceiverAddress = udp.controlPlane := by
  simp only [setReceiverAddress]
  split
  · exact ⟨{ h with controlPlane := .inr rfl }, rfl⟩
  · exact ⟨h, h.controlPlane.resolve_left ‹_›⟩

theorem setSenderAddress_calls (udp : UdpConfig) (d : UdpIo) :
    (setSenderAddress udp d).calls = d.calls := by
  simp only [setSenderAddress]
  split
  · rfl
  · rfl

theorem setReceiverAddress_calls (udp : UdpConfig) (d : UdpIo) :
    (setReceiverAddress udp d).calls = d.calls := by
  simp only [setReceiverAddress]
  split
  · rfl
  · rfl

/-- One of the two sockets is still to be opened. -/
theorem UdpSound.socket_ready (h : UdpSound udp buf d)
    (closed : d.xSenderSocket = none ∨ d.xReceiverSocket = none) (result : Option Socket) :
    (NetCall.socket result).Ready udp buf d.calls := by
  have few : ∀ o : Option Socket, o.toList.length ≤ 1 := by
    intro o
    cases o with
    | none => exact Nat.zero_le 1
    | some _ => exact Nat.le_refl 1
  have senders := few d.xSenderSocket
  have receivers := few d.xReceiverSocket
  show (d.calls.filter NetCall.opens).length < 2
  rw [h.opened]
  cases closed with
  | inl none =>
      rw [none, Option.toList_none, List.length_nil]
      omega
  | inr none =>
      rw [none, Option.toList_none, List.length_nil]
      omega

/-- The sender's socket is opened. -/
theorem UdpSound.openSender (h : UdpSound udp buf d) (closed : d.xSenderSocket = none)
    {xSocket : Socket} (fresh : .socket (some xSocket) ∉ d.calls) :
    UdpSound udp buf
      ({ d with xSenderSocket := some xSocket }.logCall (.socket (some xSocket))) where
  calls := h.calls.snoc (h.socket_ready (.inl closed) _) (Option.some_ne_none xSocket)
  opened := by
    have count := h.opened
    rw [closed] at count
    show ((d.calls ++ [NetCall.socket (some xSocket)]).filter NetCall.opens).length =
      1 + d.xReceiverSocket.toList.length
    rw [List.filter_append, List.length_append, count, Nat.add_comm]
    exact congrArg (1 + ·) (Nat.zero_add _)
  bound s absent := (unbound_snoc (fun _ _ _ => NetCall.noConfusion) s).mpr
    (h.bound s fun mem => absent (List.mem_append_left _ mem))
  sender s own := by
    obtain rfl : xSocket = s := Option.some.inj own
    exact ⟨List.mem_append_right _ (List.mem_singleton_self _),
      (unbound_snoc (fun _ _ _ => NetCall.noConfusion) xSocket).mpr (h.bound xSocket fresh)⟩
  receiver s own := List.mem_append_left _ (h.receiver s own)
  unbound none s := (unbound_snoc (fun _ _ _ => NetCall.noConfusion) s).mpr (h.unbound none s)
  collector := h.collector
  controlPlane := h.controlPlane

/-- The receiver's socket is opened and given its option and its address. -/
theorem UdpSound.openReceiver (h : UdpSound udp buf d) (closed : d.xReceiverSocket = none)
    (address : d.xReceiverAddress = udp.controlPlane) {xSocket : Socket}
    (fresh : .socket (some xSocket) ∉ d.calls)
    (calls : LogSound udp buf (d.calls ++ [.socket (some xSocket)] ++ [.setsockopt xSocket 0 0] ++
      [.bind xSocket udp.controlPlane 0])) :
    UdpSound udp buf { d with
      xReceiverSocket := some xSocket
      calls := d.calls ++ [.socket (some xSocket)] ++ [.setsockopt xSocket 0 0] ++
        [.bind xSocket udp.controlPlane 0] } where
  calls := calls
  opened := by
    have count := h.opened
    rw [closed] at count
    show ((d.calls ++ [NetCall.socket (some xSocket)] ++ [NetCall.setsockopt xSocket 0 0] ++
      [NetCall.bind xSocket udp.controlPlane 0]).filter NetCall.opens).length =
      d.xSenderSocket.toList.length + 1
    simp only [List.filter_append, List.length_append, count]
    rfl
  bound s absent := by
    intro address result mem
    cases List.mem_append.mp mem with
    | inl old =>
        exact (unbound_snoc (fun _ _ _ => NetCall.noConfusion) s).mpr
          ((unbound_snoc (fun _ _ _ => NetCall.noConfusion) s).mpr (h.unbound closed s))
          address result old
    | inr here =>
        obtain ⟨rfl, -, -⟩ := NetCall.bind.inj (List.mem_singleton.mp here)
        exact absent (List.mem_append_left _ (List.mem_append_left _
          (List.mem_append_right _ (List.mem_singleton_self _))))
  sender s own := by
    obtain ⟨opened, none⟩ := h.sender s own
    refine ⟨List.mem_append_left _ (List.mem_append_left _ (List.mem_append_left _ opened)), ?_⟩
    intro address result mem
    cases List.mem_append.mp mem with
    | inl old =>
        exact (unbound_snoc (fun _ _ _ => NetCall.noConfusion) s).mpr
          ((unbound_snoc (fun _ _ _ => NetCall.noConfusion) s).mpr none) address result old
    | inr here =>
        obtain ⟨rfl, -, -⟩ := NetCall.bind.inj (List.mem_singleton.mp here)
        exact fresh opened
  receiver s own := by
    obtain rfl : xSocket = s := Option.some.inj own
    exact List.mem_append_right _ (List.mem_singleton_self _)
  unbound none := absurd none (Option.some_ne_none xSocket)
  collector := h.collector
  controlPlane := .inr address

/-- init_sender succeeds or ends in a failed call. -/
theorem initSender_outcome (h : UdpSound udp buf d) (fresh : net.Fresh d) :
    (∃ d', initSender udp net d = (0, d') ∧ UdpSound udp buf d' ∧
      d'.xSenderAddress = udp.collector ∧ d'.xSenderSocket ≠ none) ∨
    ∃ d', initSender udp net d = (-1, d') ∧ UdpFailed udp buf d' := by
  obtain ⟨sound, isCollector⟩ := setSenderAddress_sound h
  have calls := setSenderAddress_calls udp d
  simp only [initSender]
  generalize setSenderAddress udp d = r at sound isCollector calls ⊢
  cases own : r.xSenderSocket with
  | some xSocket => exact .inl ⟨r, rfl, sound, isCollector, own ▸ Option.some_ne_none xSocket⟩
  | none =>
      cases isNew : net.socket with
      | none =>
          exact .inr ⟨_, rfl, sound.calls.fails (sound.socket_ready (.inl own) _) rfl rfl⟩
      | some xSocket =>
          have isFresh : .socket (some xSocket) ∉ r.calls := calls ▸ fresh xSocket isNew
          exact .inl ⟨_, rfl, sound.openSender own isFresh, isCollector,
            Option.some_ne_none xSocket⟩

/-- init_recvr succeeds or ends in a failed call. -/
theorem initRecvr_outcome (h : UdpSound udp buf d) (fresh : net.Fresh d) :
    (∃ d', initRecvr udp net d = .returned 0 d' ∧ UdpSound udp buf d' ∧
      d'.xReceiverSocket ≠ none) ∨
    ∃ d', (initRecvr udp net d = .returned (-1) d' ∨ initRecvr udp net d = .asserted d') ∧
      UdpFailed udp buf d' := by
  obtain ⟨sound, isAddress⟩ := setReceiverAddress_sound h
  have calls := setReceiverAddress_calls udp d
  simp only [initRecvr]
  generalize setReceiverAddress udp d = r at sound isAddress calls ⊢
  cases own : r.xReceiverSocket with
  | some xSocket => exact .inl ⟨r, rfl, sound, own ▸ Option.some_ne_none xSocket⟩
  | none =>
      cases isNew : net.socket with
      | none =>
          exact .inr ⟨_, .inl rfl, sound.calls.fails (sound.socket_ready (.inr own) _) rfl rfl⟩
      | some xSocket =>
          have isFresh : .socket (some xSocket) ∉ r.calls := calls ▸ fresh xSocket isNew
          have first := sound.calls.snoc (sound.socket_ready (.inr own) (some xSocket))
            (Option.some_ne_none xSocket)
          have unbound := fun s => (unbound_snoc (c := .socket (some xSocket))
            (fun _ _ _ => NetCall.noConfusion) s).mpr (sound.unbound own s)
          have ready : (NetCall.setsockopt xSocket 0 net.setsockopt).Ready udp buf
              (r.calls ++ [.socket (some xSocket)]) :=
            ⟨List.mem_append_right _ (List.mem_singleton_self _), rfl, unbound⟩
          simp only [bindReceiver, configAssert]
          by_cases isSet : net.setsockopt = 0
          · rw [isSet] at ready ⊢
            have second := first.snoc ready fun fatal => fatal rfl
            have ready' : (NetCall.bind xSocket r.xReceiverAddress net.bind).Ready udp buf
                (r.calls ++ [.socket (some xSocket)] ++ [.setsockopt xSocket 0 0]) :=
              ⟨List.mem_append_right _ (List.mem_singleton_self _), isAddress,
                fun s => (unbound_snoc (fun _ _ _ => NetCall.noConfusion) s).mpr (unbound s)⟩
            by_cases isBound : net.bind = 0
            · rw [isBound, isAddress] at ready'
              have third := second.snoc ready' fun fatal => fatal rfl
              refine .inl ⟨_, ?_, sound.openReceiver own isAddress isFresh third,
                Option.some_ne_none xSocket⟩
              rw [isBound, ← isAddress]
              rfl
            · refine .inr ⟨(({ r with xReceiverSocket := some xSocket }.logCall
                (.socket (some xSocket))).logCall (.setsockopt xSocket 0 0)).logCall
                  (.bind xSocket r.xReceiverAddress net.bind), .inr ?_,
                second.fails ready' isBound rfl⟩
              exact (if_pos (beq_self_eq_true (0 : Int))).trans
                (if_neg (mt beq_iff_eq.mp isBound))
          · refine .inr ⟨({ r with xReceiverSocket := some xSocket }.logCall
              (.socket (some xSocket))).logCall (.setsockopt xSocket 0 net.setsockopt), .inr ?_,
              first.fails ready isSet rfl⟩
            exact if_neg (mt beq_iff_eq.mp isSet)

/-! The driver's two functions. -/

theorem traceIoRead_outcome (h : UdpSound udp buf d) (fresh : net.Fresh d) (room : 0 < buf)
    (data : List UInt8) :
    (∃ result d', traceIoRead udp net data buf d = .returned result d' ∧ UdpSound udp buf d') ∨
    ∃ d', traceIoRead udp net data buf d = .asserted d' ∧ UdpFailed udp buf d' := by
  have size : (buf != 0) = true := bne_iff_ne.mpr (Nat.ne_of_gt room)
  simp only [traceIoRead]
  cases initRecvr_outcome h fresh with
  | inl ready =>
      obtain ⟨r, isReady, sound, isOpen⟩ := ready
      obtain ⟨xSocket, own⟩ := Option.ne_none_iff_exists'.mp isOpen
      have moved := sound.transfer (c := .recvfrom xSocket buf (net.recvfrom.received buf))
        ⟨sound.receiver xSocket own, rfl⟩ rfl
      rw [isReady]
      simp only [receive, configAssert, own, size, if_true, beq_self_eq_true]
      split
      · exact .inl ⟨_, _, rfl, moved⟩
      · exact .inl ⟨_, _, rfl, moved⟩
  | inr failed =>
      obtain ⟨r, isFailed, failed⟩ := failed
      refine .inr ⟨r, ?_, failed⟩
      cases isFailed with
      | inl returned =>
          rw [returned]
          rfl
      | inr asserted => rw [asserted]

theorem traceIoWrite_outcome {size : Nat} (h : UdpSound udp buf d) (fresh : net.Fresh d)
    (positive : 0 < size) (bound : size ≤ buf) :
    (∃ result d', traceIoWrite udp net size d = .returned result d' ∧ UdpSound udp buf d') ∨
    ∃ d', traceIoWrite udp net size d = .asserted d' ∧ UdpFailed udp buf d' := by
  have nonzero : (size != 0) = true := bne_iff_ne.mpr (Nat.ne_of_gt positive)
  simp only [traceIoWrite, configAssert, nonzero, if_true]
  cases initSender_outcome h fresh with
  | inl ready =>
      obtain ⟨r, isReady, sound, isCollector, isOpen⟩ := ready
      obtain ⟨xSocket, own⟩ := Option.ne_none_iff_exists'.mp isOpen
      obtain ⟨opened, unbound⟩ := sound.sender xSocket own
      have moved := sound.transfer (c := .sendto xSocket size r.xSenderAddress net.sendto)
        ⟨opened, unbound, isCollector, positive, bound⟩ rfl
      rw [isReady]
      simp only [own, if_true, beq_self_eq_true]
      split
      · exact .inl ⟨_, _, rfl, moved⟩
      · exact .inl ⟨_, _, rfl, moved⟩
  | inr failed =>
      obtain ⟨r, isFailed, failed⟩ := failed
      refine .inr ⟨r, ?_, failed⟩
      rw [isFailed]
      rfl

end

/-! The data a call moves, whatever the sockets are like. -/

section
variable {udp : UdpConfig} {net : NetReply} {d : UdpIo}

/-- From `d` to `d'` only this call moves data. -/
def Moves (c : NetCall) (d d' : UdpIo) : Prop :=
  ∃ r, OnlyOpens d r ∧ d'.calls = r.calls ++ [c]

theorem initSender_opens (udp : UdpConfig) (net : NetReply) (d : UdpIo) :
    OnlyOpens d (initSender udp net d).2 ∧
      ((initSender udp net d).1 = 0 → (initSender udp net d).2.xSenderSocket ≠ none) := by
  have calls := setSenderAddress_calls udp d
  simp only [initSender]
  generalize setSenderAddress udp d = r at calls ⊢
  cases own : r.xSenderSocket with
  | some xSocket =>
      exact ⟨.none calls, fun _ none => Option.some_ne_none xSocket (own.symm.trans none)⟩
  | none =>
      have opens : OnlyOpens d ({ r with xSenderSocket := net.socket }.logCall (.socket net.socket)) :=
        .one (congrArg (· ++ _) calls) rfl
      cases isNew : net.socket with
      | none =>
          rw [isNew] at opens
          exact ⟨opens, fun succeeds => absurd succeeds (show ¬ (-1 : Int) = 0 by decide)⟩
      | some xSocket =>
          rw [isNew] at opens
          exact ⟨opens, fun _ => Option.some_ne_none xSocket⟩

theorem initRecvr_opens (udp : UdpConfig) (net : NetReply) (d : UdpIo) :
    (∃ ret d', initRecvr udp net d = .returned ret d' ∧ OnlyOpens d d' ∧
      (ret = 0 → d'.xReceiverSocket ≠ none)) ∨
    ∃ d', initRecvr udp net d = .asserted d' ∧ OnlyOpens d d' := by
  have calls := setReceiverAddress_calls udp d
  simp only [initRecvr]
  generalize setReceiverAddress udp d = r at calls ⊢
  cases own : r.xReceiverSocket with
  | some xSocket =>
      exact .inl ⟨0, r, rfl, .none calls, fun _ => own ▸ Option.some_ne_none xSocket⟩
  | none =>
      have opens : OnlyOpens d ({ r with xReceiverSocket := net.socket }.logCall (.socket net.socket)) :=
        .one (congrArg (· ++ _) calls) rfl
      cases isNew : net.socket with
      | none =>
          rw [isNew] at opens
          exact .inl ⟨-1, _, rfl, opens, fun succeeds => absurd succeeds (by decide)⟩
      | some xSocket =>
          rw [isNew] at opens
          have sets := opens.logCall (c := .setsockopt xSocket 0 net.setsockopt) rfl
          have binds := sets.logCall (c := .bind xSocket r.xReceiverAddress net.bind) rfl
          simp only [bindReceiver, configAssert]
          split
          · split
            · exact .inl ⟨0, _, rfl, binds, fun _ => Option.some_ne_none xSocket⟩
            · exact .inr ⟨_, rfl, binds⟩
          · exact .inr ⟨_, rfl, sets⟩

/-- trace_io_read's status, bytes and buffer. -/
def readResult (udp : UdpConfig) (net : NetReply) (data : List UInt8) (size : Nat) : ReadResult :=
  if net.recvfrom.received size = udp.socketError then (-1, 0, net.recvfrom.fill size data)
  else (0, net.recvfrom.received size, net.recvfrom.fill size data)

/-- trace_io_write's status and bytes. -/
def writeResult (net : NetReply) : Int × Int :=
  if net.sendto < 0 then (-1, 0) else (0, net.sendto)

theorem traceIoRead_moves (udp : UdpConfig) (net : NetReply) (data : List UInt8) (size : Nat)
    (d : UdpIo) :
    (∃ d' xSocket, traceIoRead udp net data size d = .returned (readResult udp net data size) d' ∧
      Moves (.recvfrom xSocket size (net.recvfrom.received size)) d d') ∨
    ∃ d', traceIoRead udp net data size d = .asserted d' ∧ OnlyOpens d d' := by
  simp only [traceIoRead]
  cases initRecvr_opens udp net d with
  | inr asserts =>
      obtain ⟨r, isAsserted, opens⟩ := asserts
      rw [isAsserted]
      exact .inr ⟨r, rfl, opens⟩
  | inl returns =>
      obtain ⟨ret, r, isReturned, opens, isOpen⟩ := returns
      rw [isReturned]
      simp only [receive, configAssert]
      split
      · rename_i succeeds
        obtain ⟨xSocket, own⟩ := Option.ne_none_iff_exists'.mp (isOpen (beq_iff_eq.mp succeeds))
        split
        · refine .inl ⟨r.logCall (.recvfrom xSocket size (net.recvfrom.received size)), xSocket,
            ?_, r, opens, rfl⟩
          simp only [own, readResult]
          split
          · rfl
          · rfl
        · exact .inr ⟨r, rfl, opens⟩
      · exact .inr ⟨r, rfl, opens⟩

theorem traceIoWrite_moves (udp : UdpConfig) (net : NetReply) (size : Nat) (d : UdpIo) :
    (∃ d' xSocket address, traceIoWrite udp net size d = .returned (writeResult net) d' ∧
      Moves (.sendto xSocket size address net.sendto) d d') ∨
    ∃ d', traceIoWrite udp net size d = .asserted d' ∧ OnlyOpens d d' := by
  obtain ⟨opens, isOpen⟩ := initSender_opens udp net d
  simp only [traceIoWrite, configAssert]
  split
  · split
    · rename_i succeeds
      obtain ⟨xSocket, own⟩ := Option.ne_none_iff_exists'.mp (isOpen (beq_iff_eq.mp succeeds))
      refine .inl ⟨(initSender udp net d).2.logCall (.sendto xSocket size
        (initSender udp net d).2.xSenderAddress net.sendto), xSocket, _, ?_, _, opens, rfl⟩
      simp only [own, writeResult]
      split
      · rfl
      · rfl
    · exact .inr ⟨_, rfl, opens⟩
  · exact .inr ⟨d, rfl, .none rfl⟩

end

end ProbeTrace
