import ProbeTrace.Metatheory.ErrorCauses
import ProbeTrace.Metatheory.UdpProtocol

/-!
Runs of the example's firmware. The driver keeps what the library asks of TRACE_IO_READ, so the
library's part of a run is a run of the library, whose reads and writes are the driver's transfers
in their order; the driver's part is a proper use of the network stack, and each failed transfer
is recorded as an error once.
-/
namespace ProbeTrace
open CallDiscipline Transition

/-- The IO errors' texts. -/
def readErrorText : String := "TRACE_IO_READ returned an error"

def writeErrorTexts : List String :=
  ["TRACE_IO_WRITE returned an error (1)", "TRACE_IO_WRITE returned an error (2)"]

def ioTexts : List String := readErrorText :: writeErrorTexts

/-- What the kernel and the drivers promise about a turn or an action. -/
def Slice.Legal (cfg : Config) (p : Sliced) : Slice → Prop
  | .turn _ => True
  | .other op => op.Legal cfg p.state

/-- What passes between the IO task and its driver. -/
inductive Exchange
  | read (status numBytes : Int)
  | write (sizeBytes : Nat) (status : Int)
  deriving DecidableEq, Repr

/-- The library's side: the reads and the writes of the IO task. -/
def Slice.exchanges (cfg : Config) (p : Sliced) : Slice → List Exchange
  | .turn w => if p.Writes cfg w then [.write w.sizeBytes w.status] else []
  | .other (.ioRead r) => if p.Reads then [.read r.status r.numBytes] else []
  | .other (.enable _ _) | .other .disable | .other (.exclude _) | .other (.create _ _ _ _)
  | .other (.delete _) | .other (.start _ _ _) | .other (.switch _ _ _ _) | .other (.hook _ _)
  | .other (.setFilter _ _) | .other .ioSend | .other (.ioReport _ _) | .other (.process _)
  | .other .getBuffer => []

/-- The driver's side: the network calls that move data. -/
def NetCall.exchanges (udp : UdpConfig) : NetCall → List Exchange
  | .recvfrom _ _ result => [if result = udp.socketError then .read (-1) 0 else .read 0 result]
  | .sendto _ size _ result => [.write size (if result < 0 then -1 else 0)]
  | .socket _ | .setsockopt _ _ _ | .bind _ _ _ => []

/-- The read that the library sees. -/
def driverRead (udp : UdpConfig) (net : NetReply) (data : List UInt8) (size : Nat)
    (destination : Option (BitVec 32)) : IoRead :=
  { status := (readResult udp net data size).1
    numBytes := (readResult udp net data size).2.1
    data := (readResult udp net data size).2.2
    destination }

section
variable {cfg : Config} {udp : UdpConfig} {b : Board} {a : BoardAction}

theorem boardStep_halted (isHalted : b.halted = true) (a : BoardAction) :
    boardStep cfg udp b a = b :=
  if_pos isHalted

/-- What a step of a running board does. -/
inductive BoardMove (cfg : Config) (udp : UdpConfig) (b : Board) : BoardAction → Board → Prop
  | idle {net : NetReply} {destination : Option (BitVec 32)} :
      BoardMove cfg udp b (.read net destination) b
  | read {net : NetReply} {destination : Option (BitVec 32)} {d : UdpIo} {xSocket : Socket} :
      b.sliced.Reads →
      Moves (.recvfrom xSocket cfg.ioTaskBufferSize (net.recvfrom.received cfg.ioTaskBufferSize))
        b.driver d →
      BoardMove cfg udp b (.read net destination) { b with
        sliced := sliceStep cfg b.sliced (.other (.ioRead (driverRead udp net
          b.sliced.state.ioBuffer cfg.ioTaskBufferSize destination)))
        driver := d }
  | readFailed {net : NetReply} {destination : Option (BitVec 32)} {d : UdpIo} :
      OnlyOpens b.driver d →
      BoardMove cfg udp b (.read net destination) { b with driver := d, halted := true }
  | turn {net : NetReply} {w : IoWrite} : ¬ b.sliced.Writes cfg w →
      BoardMove cfg udp b (.turn net w) { b with sliced := sliceStep cfg b.sliced (.turn w) }
  | write {net : NetReply} {w : IoWrite} {d : UdpIo} {xSocket : Socket} {address : SockAddr} :
      b.sliced.Writes cfg w → Moves (.sendto xSocket w.sizeBytes address net.sendto) b.driver d →
      BoardMove cfg udp b (.turn net w) { b with
        sliced := sliceStep cfg b.sliced (.turn { w with status := (writeResult net).1 })
        driver := d }
  | writeFailed {net : NetReply} {w : IoWrite} {d : UdpIo} : OnlyOpens b.driver d →
      BoardMove cfg udp b (.turn net w)
        { sliced := sliceStep cfg b.sliced (.turn { w with sizeBytes := 0 })
          driver := d
          halted := true }
  | other {op : Op} : op.ofIoTask = false ∨ op.sends = true →
      BoardMove cfg udp b (.other op) { b with sliced := sliceStep cfg b.sliced (.other op) }

theorem board_move (udp : UdpConfig) (runs : b.halted = false) (legal : a.Legal cfg b) :
    BoardMove cfg udp b a (boardStep cfg udp b a) := by
  have running : ¬ b.halted = true := fun isHalted => Bool.false_ne_true (runs.symm.trans isHalted)
  cases a with
  | read net destination =>
      have isStep : boardStep cfg udp b (.read net destination) =
          boardRead cfg udp net destination b := if_neg running
      rw [isStep]
      simp only [boardRead]
      split
      · cases traceIoRead_moves udp net b.sliced.state.ioBuffer cfg.ioTaskBufferSize b.driver with
        | inl received =>
            obtain ⟨d, xSocket, isResult, moves⟩ := received
            rw [isResult]
            exact .read ‹_› moves
        | inr failed =>
            obtain ⟨d, isResult, opens⟩ := failed
            rw [isResult]
            exact .readFailed opens
      · exact .idle
  | turn net w =>
      have isStep : boardStep cfg udp b (.turn net w) = boardTurn cfg udp net w b :=
        if_neg running
      rw [isStep]
      simp only [boardTurn]
      split
      · cases traceIoWrite_moves udp net w.sizeBytes b.driver with
        | inl sent =>
            obtain ⟨d, xSocket, address, isResult, moves⟩ := sent
            rw [isResult]
            exact .write ‹_› moves
        | inr failed =>
            obtain ⟨d, isResult, opens⟩ := failed
            rw [isResult]
            exact .writeFailed opens
      · exact .turn ‹_›
  | other op =>
      have isStep : boardStep cfg udp b (.other op) =
          { b with sliced := sliceStep cfg b.sliced (.other op) } := if_neg running
      rw [isStep]
      exact .other (legal.1.imp_right And.right)

/-! The library's part. -/

theorem Arrival.received_le {arrival : Arrival} (coded : arrival.Coded) (size : Nat)
    (data : List UInt8) : (arrival.received size).toNat ≤ (arrival.fill size data).length := by
  cases arrival with
  | nothing code =>
      rw [Arrival.received, Int.toNat_of_nonpos coded]
      exact Nat.zero_le _
  | datagram bytes =>
      rw [Arrival.received, Int.toNat_natCast, Arrival.fill, List.length_append]
      exact Nat.le_add_right _ _

theorem Arrival.fill_length (arrival : Arrival) {size : Nat} {data : List UInt8}
    (fits : data.length ≤ size) : (arrival.fill size data).length ≤ size := by
  cases arrival with
  | nothing code => exact fits
  | datagram bytes =>
      have cut : (bytes.take size).length ≤ size := List.length_take_le size bytes
      rw [Arrival.fill, List.length_append, List.length_drop]
      omega

theorem readResult_data (udp : UdpConfig) (net : NetReply) (data : List UInt8) (size : Nat) :
    (readResult udp net data size).2.2 = net.recvfrom.fill size data := by
  simp only [readResult]
  split
  · rfl
  · rfl

/-- The driver is a read as the library asks for, as it passes on the size of its buffer. -/
theorem read_fits {net : NetReply} {destination : Option (BitVec 32)} {data : List UInt8}
    (coded : net.recvfrom.Coded) (fits : data.length ≤ cfg.ioTaskBufferSize) :
    (driverRead udp net data cfg.ioTaskBufferSize destination).Fits cfg := by
  have isData : (driverRead udp net data cfg.ioTaskBufferSize destination).data =
      net.recvfrom.fill cfg.ioTaskBufferSize data := readResult_data ..
  rw [IoRead.Fits, isData]
  refine ⟨?_, net.recvfrom.fill_length fits⟩
  simp only [driverRead, readResult]
  split
  · exact Nat.zero_le _
  · exact net.recvfrom.received_le coded _ data

theorem readResult_exchanges (udp : UdpConfig) (net : NetReply) (data : List UInt8)
    (xSocket : Socket) (size : Nat) :
    (NetCall.recvfrom xSocket size (net.recvfrom.received size)).exchanges udp =
      [.read (readResult udp net data size).1 (readResult udp net data size).2.1] := by
  simp only [NetCall.exchanges, readResult]
  split
  · rfl
  · rfl

theorem writeResult_exchanges (udp : UdpConfig) (net : NetReply) (xSocket : Socket)
    (size : Nat) (address : SockAddr) :
    (NetCall.sendto xSocket size address net.sendto).exchanges udp =
      [.write size (writeResult net).1] := by
  simp only [NetCall.exchanges, writeResult]
  split
  · rfl
  · rfl

theorem OnlyOpens.exchanges {d d' : UdpIo} (h : OnlyOpens d d') :
    d'.calls.flatMap (NetCall.exchanges udp) = d.calls.flatMap (NetCall.exchanges udp) := by
  obtain ⟨new, isLog, kind⟩ := h
  have silent : new.flatMap (NetCall.exchanges udp) = [] := by
    rw [List.flatMap_eq_nil_iff]
    intro c mem
    have quiet := kind c mem
    cases c with
    | socket _ | setsockopt _ _ _ | bind _ _ _ => rfl
    | recvfrom _ _ _ | sendto _ _ _ _ => exact absurd quiet Bool.noConfusion
  rw [isLog, List.flatMap_append, silent, List.append_nil]

theorem Moves.exchanges {c : NetCall} {d d' : UdpIo} (h : Moves c d d') :
    d'.calls.flatMap (NetCall.exchanges udp) =
      d.calls.flatMap (NetCall.exchanges udp) ++ c.exchanges udp := by
  obtain ⟨r, opens, isLog⟩ := h
  rw [isLog, List.flatMap_append, opens.exchanges, List.flatMap_singleton]

/-! g_io_buffer. -/

theorem ioTaskProbeIter_ioBuffer (cfg : Config) (call : Probe → Call) (failed writeFailed : String)
    (w : IoWrite) (probe : Probe) (s : State) :
    (ioTaskProbeIter cfg call failed writeFailed w probe s).ioBuffer = w.data := by
  have noted : ∀ (msg : String) (r : State), (r.prvTraceError msg).ioBuffer = r.ioBuffer :=
    fun msg r => congrArg IoView.ioBuffer (prvTraceError_control msg r).ioView
  simp only [ioTaskProbeIter]
  refine traceAssert_induction (P := fun t : State => t.ioBuffer = w.data)
    (fun _ _ => noted ("TRACE_ASSERT: " ++ failed) _) fun _ => ?_
  split
  · exact noted writeFailed _
  · rfl

/-- A turn leaves the buffer or generates into it. -/
theorem passTurn_ioBuffer (cfg : Config) (w : IoWrite) (p : Sliced) :
    (passTurn cfg w p).state.ioBuffer = p.state.ioBuffer ∨
      (passTurn cfg w p).state.ioBuffer = w.data := by
  obtain ⟨s, point⟩ := p
  cases point with
  | outside =>
      simp only [passTurn]
      split
      · exact .inl rfl
      · exact .inl rfl
      · exact .inl rfl
  | visiting pass i =>
      rw [passTurn_visiting]
      split
      · simp only [visitSlot]
        split
        · cases pass with
          | reports | announcements => exact .inr (ioTaskProbeIter_ioBuffer ..)
        · exact .inl rfl
      · cases pass with
        | reports =>
            simp only [endPass]
            split
            · exact .inl rfl
            · exact .inl rfl
        | announcements => exact .inl rfl

theorem ioRead_ioBuffer (cfg : Config) (r : IoRead) {s : State} (point : s.ioPoint = .read) :
    (step cfg s (.ioRead r)).ioBuffer = r.data := by
  have isStep : step cfg s (.ioRead r) = ioRead cfg r s := by
    rw [step, point]
  rw [isStep]
  by_cases valid : ∃ target, r.Valid target
  · obtain ⟨target, valid⟩ := valid
    exact congrArg IoView.ioBuffer (ioRead_valid cfg valid s).ioView
  · exact congrArg IoView.ioBuffer (ioRead_invalid cfg (fun target h => valid ⟨target, h⟩) s).1

/-- Only the IO task writes its buffer. -/
theorem step_ioBuffer (cfg : Config) (s : State) {op : Op}
    (other : op.ofIoTask = false ∨ op.sends = true) :
    (step cfg s op).ioBuffer = s.ioBuffer := by
  cases step_control cfg s op with
  | same same _ => exact congrArg IoView.ioBuffer same.ioView
  | idle _ isOp _ _ _ _ | read _ _ isOp _ _ _ | reported _ _ _ isOp _ _ _ _ =>
      subst isOp
      cases other with
      | inl no | inr no => exact absurd no Bool.noConfusion
  | registered _ _ _ _ _ _ _ ioView | skipped _ _ _ _ _ _ ioView _ _
  | sent _ _ _ _ _ _ _ _ _ _ _ _ ioView _ _ | received _ _ _ _ _ _ _ _ _ _ _ _ ioView _ _ =>
      exact congrArg IoView.ioBuffer ioView

/-! The library's part. -/

/-- The library's run so far, its exchanges with the driver and its buffer. -/
structure LibraryRun (cfg : Config) (udp : UdpConfig) (slices : List Slice) (b : Board) :
    Prop where
  run : Run (sliceStep cfg) (Slice.Legal cfg) ⟨State.init cfg, .outside⟩ slices b.sliced
  exchanged : outputs (sliceStep cfg) (Slice.exchanges cfg) ⟨State.init cfg, .outside⟩ slices =
    b.driver.calls.flatMap (NetCall.exchanges udp)
  buffer : b.sliced.state.ioBuffer.length ≤ cfg.ioTaskBufferSize

/-- One more slice, with the driver's calls it makes. -/
theorem LibraryRun.snoc {slices : List Slice} {b' : Board}
    (h : LibraryRun cfg udp slices b) (slice : Slice) (legal : slice.Legal cfg b.sliced)
    (isStep : b'.sliced = sliceStep cfg b.sliced slice)
    (exchanged : b'.driver.calls.flatMap (NetCall.exchanges udp) =
      b.driver.calls.flatMap (NetCall.exchanges udp) ++ slice.exchanges cfg b.sliced)
    (buffer : (sliceStep cfg b.sliced slice).state.ioBuffer.length ≤ cfg.ioTaskBufferSize) :
    LibraryRun cfg udp (slices ++ [slice]) b' where
  run := by
    rw [isStep]
    exact h.run.append (.cons legal (.nil _))
  exchanged := by
    rw [outputs_append, h.exchanged, ← h.run.final_eq, exchanged, outputs, outputs,
      List.append_nil]
  buffer := by
    rw [isStep]
    exact buffer

/-- The driver moved no data, and the library did nothing. -/
theorem LibraryRun.stays {slices : List Slice} {b' : Board} (h : LibraryRun cfg udp slices b)
    (same : b'.sliced = b.sliced) (opens : OnlyOpens b.driver b'.driver) :
    LibraryRun cfg udp slices b' where
  run := same ▸ h.run
  exchanged := h.exchanged.trans opens.exchanges.symm
  buffer := same ▸ h.buffer

theorem turn_buffer {w : IoWrite} {p : Sliced} (buffer : p.state.ioBuffer.length ≤ cfg.ioTaskBufferSize)
    (fits : w.data.length ≤ cfg.ioTaskBufferSize) :
    (sliceStep cfg p (.turn w)).state.ioBuffer.length ≤ cfg.ioTaskBufferSize := by
  cases passTurn_ioBuffer cfg w p with
  | inl same => exact (congrArg List.length same).trans_le buffer
  | inr isData => exact (congrArg List.length isData).trans_le fits

theorem other_exchanges {op : Op} {p : Sliced} (other : op.ofIoTask = false ∨ op.sends = true) :
    (Slice.other op).exchanges cfg p = [] := by
  cases op with
  | ioRead _ =>
      cases other with
      | inl no | inr no => exact absurd no Bool.noConfusion
  | enable _ _ | disable | exclude _ | create _ _ _ _ | delete _ | start _ _ _ | switch _ _ _ _
  | hook _ _ | setFilter _ _ | ioSend | ioReport _ _ | process _ | getBuffer => rfl

/-- With nothing to write a turn does not come to TRACE_IO_WRITE. -/
theorem unwritten (w : IoWrite) (p : Sliced) : ¬ p.Writes cfg { w with sizeBytes := 0 } := by
  obtain ⟨s, point⟩ := p
  cases point with
  | outside => exact id
  | visiting pass i => exact fun writes => writes.2.2.2 rfl

/-- What a step of the board does to the library's run. -/
theorem library_step {slices : List Slice} (h : LibraryRun cfg udp slices b)
    (legal : a.Legal cfg b) (fits : a.Fits cfg) :
    ∃ slices', LibraryRun cfg udp slices' (boardStep cfg udp b a) := by
  cases halted : b.halted with
  | true =>
      rw [boardStep_halted halted]
      exact ⟨slices, h⟩
  | false =>
      have move := board_move udp halted legal
      generalize boardStep cfg udp b a = b' at move
      cases move with
      | idle => exact ⟨slices, h⟩
      | readFailed opens => exact ⟨slices, h.stays rfl opens⟩
      | @read net destination d xSocket reads moves =>
          have isFit : (driverRead udp net b.sliced.state.ioBuffer cfg.ioTaskBufferSize
            destination).Fits cfg := read_fits fits h.buffer
          refine ⟨_, h.snoc (.other (.ioRead _)) isFit rfl ?_ ?_⟩
          · rw [moves.exchanges, Slice.exchanges, if_pos reads]
            exact congrArg _ (readResult_exchanges udp net _ xSocket _)
          · exact (congrArg List.length (ioRead_ioBuffer cfg _ reads.2)).trans_le isFit.2
      | turn quiet =>
          refine ⟨_, h.snoc (.turn _) trivial rfl ?_ (turn_buffer h.buffer fits)⟩
          rw [Slice.exchanges, if_neg quiet, List.append_nil]
      | @write net w d xSocket address writes moves =>
          refine ⟨_, h.snoc (.turn { w with status := (writeResult net).1 }) trivial rfl ?_
            (turn_buffer h.buffer fits)⟩
          have alike : b.sliced.Writes cfg { w with status := (writeResult net).1 } := writes
          rw [moves.exchanges, Slice.exchanges, if_pos alike]
          exact congrArg _ (writeResult_exchanges udp net xSocket w.sizeBytes address)
      | @writeFailed net w d opens =>
          refine ⟨_, h.snoc (.turn { w with sizeBytes := 0 }) trivial rfl ?_
            (turn_buffer h.buffer fits)⟩
          rw [opens.exchanges, Slice.exchanges, if_neg (unwritten w b.sliced), List.append_nil]
      | other notIo =>
          refine ⟨_, h.snoc (.other _) legal.2 rfl ?_ ?_⟩
          · rw [other_exchanges notIo, List.append_nil]
          · exact (congrArg List.length (step_ioBuffer cfg _ notIo)).trans_le h.buffer

/-- The library's part of a board's run is a run of the library, in which every read is one the
library can take; its reads and writes are the driver's transfers, in their order. -/
theorem board_refines {actions : List BoardAction} (reached : BoardReaches cfg udp actions b)
    (fits : ∀ a ∈ actions, a.Fits cfg) : ∃ slices,
      Run (sliceStep cfg) (Slice.Legal cfg) ⟨State.init cfg, .outside⟩ slices b.sliced ∧
      outputs (sliceStep cfg) (Slice.exchanges cfg) ⟨State.init cfg, .outside⟩ slices =
        b.driver.calls.flatMap (NetCall.exchanges udp) := by
  have start : LibraryRun cfg udp [] (Board.init cfg) :=
    ⟨.nil _, rfl, List.length_replicate.le⟩
  obtain ⟨slices, h⟩ := (reached.restrict fits).invariant
    (P := fun b => ∃ slices, LibraryRun cfg udp slices b)
    (fun b a before legal => before.elim fun slices h => library_step h legal.1 legal.2)
    ⟨[], start⟩
  exact ⟨slices, h.run, h.exchanged⟩

/-! The driver's part. -/

/-- The board runs and the driver is sound, or a call failed and the board stands still. -/
inductive BoardSound (cfg : Config) (udp : UdpConfig) (b : Board) : Prop
  | running : b.halted = false → UdpSound udp cfg.ioTaskBufferSize b.driver → BoardSound cfg udp b
  | stopped : b.halted = true → UdpFailed udp cfg.ioTaskBufferSize b.driver → BoardSound cfg udp b

theorem board_sound (room : 0 < cfg.ioTaskBufferSize) (sound : BoardSound cfg udp b)
    (legal : a.Legal cfg b) : BoardSound cfg udp (boardStep cfg udp b a) := by
  cases sound with
  | stopped isHalted failed =>
      rw [boardStep_halted isHalted]
      exact .stopped isHalted failed
  | running runs sound =>
      have running : ¬ b.halted = true :=
        fun isHalted => Bool.false_ne_true (runs.symm.trans isHalted)
      simp only [boardStep, if_neg running]
      cases a with
      | read net destination =>
          simp only [boardRead]
          split
          · cases traceIoRead_outcome sound legal room b.sliced.state.ioBuffer with
            | inl received =>
                obtain ⟨result, d, isResult, next⟩ := received
                rw [isResult]
                exact .running runs next
            | inr failed =>
                obtain ⟨d, isResult, failed⟩ := failed
                rw [isResult]
                exact .stopped rfl failed
          · exact .running runs sound
      | turn net w =>
          simp only [boardTurn]
          split
          · rename_i writes
            have positive : 0 < w.sizeBytes := by
              obtain ⟨⟨s, point⟩, driver, halted⟩ := b
              cases point with
              | outside => exact absurd writes id
              | visiting pass i => exact Nat.pos_of_ne_zero writes.2.2.2
            cases traceIoWrite_outcome sound legal.1 positive legal.2 with
            | inl sent =>
                obtain ⟨result, d, isResult, next⟩ := sent
                rw [isResult]
                exact .running runs next
            | inr failed =>
                obtain ⟨d, isResult, failed⟩ := failed
                rw [isResult]
                exact .stopped rfl failed
          · exact .running runs sound
      | other op => exact .running runs sound

/-- The driver uses the network stack properly, and the board stands still exactly after a call
that failed. -/
theorem board_disciplined {actions : List BoardAction} (room : 0 < cfg.ioTaskBufferSize)
    (reached : BoardReaches cfg udp actions b) :
    Disciplined (NetCall.Allowed udp cfg.ioTaskBufferSize) b.driver.calls ∧
      (b.halted = true ↔ ∃ c ∈ b.driver.calls, c.Fatal) := by
  have sound : BoardSound cfg udp b :=
    reached.invariant (fun b a sound legal => board_sound room sound legal)
      (.running rfl (.init udp _))
  cases sound with
  | running runs sound =>
      refine ⟨sound.calls.log, fun isHalted => ?_, fun fatal => ?_⟩
      · exact absurd (runs.symm.trans isHalted) Bool.false_ne_true
      · obtain ⟨c, mem, isFatal⟩ := fatal
        exact absurd isFatal (sound.calls.alive c mem)
  | stopped isHalted failed => exact ⟨failed.log, fun _ => failed.fatal, fun _ => isHalted⟩

/-! The recorded IO errors. -/

theorem nameCause_text {name : CString} {msg : String} (h : NameCause cfg name msg) :
    msg ∉ ioTexts := by
  cases h with
  | empty _ => decide

theorem excludeCause_text {pcName : CString} {s : State} {msg : String}
    (h : ExcludeCause cfg pcName s msg) : msg ∉ ioTexts := by
  cases h with
  | name named => exact nameCause_text named
  | full _ => decide

theorem logEventCause_text {env : External} {task : Option TaskHandle} {s : State} {msg : String}
    (h : LogEventCause cfg env task s msg) : msg ∉ ioTexts := by
  cases h with
  | slot _ _ | record _ _ => decide

theorem logPayloadCause_text {env : External} {task : Option TaskHandle} {s : State} {msg : String}
    (h : LogPayloadCause cfg env task s msg) : msg ∉ ioTexts := by
  cases h with
  | slot _ _ | record _ _ => decide

theorem switchedOutCause_text {env : External} {prev : Option TaskHandle} {s : State}
    {msg : String} (h : SwitchedOutCause cfg env prev s msg) : msg ∉ ioTexts := by
  cases h with
  | event logged => exact logEventCause_text logged
  | slot _ _ | snapshot _ _ => decide

theorem switchedInCause_text {env : External} {prev : Option TaskHandle} {next : TaskHandle}
    {s : State} {msg : String} (h : SwitchedInCause cfg env prev next s msg) :
    msg ∉ ioTexts := by
  cases h with
  | slot _ _ | previous _ _ | merge _ _ => decide
  | event logged => exact logPayloadCause_text logged

/-- Only the IO task records an IO error. -/
theorem cause_text {s : State} {op : Op} {msg : String} (h : Cause cfg s op msg)
    (other : op.ofIoTask = false ∨ op.sends = true) : msg ∉ ioTexts := by
  cases h with
  | enable _ caused =>
      cases caused with
      | late _ _ | notCreated _ _ _ => decide
      | ioTask _ _ excluded => exact excludeCause_text excluded
  | exclude excluded => exact excludeCause_text excluded
  | create _ caused =>
      cases caused with
      | name named => exact nameCause_text named
      | probe _ failed =>
          cases failed with
          | storage _ | probe _ _ | slots _ | snapshot _ _ | messageBuffer _ _
          | taskBuffer _ _ | record _ _ => decide
  | start _ caused | switchedIn _ caused => exact switchedInCause_text caused
  | switchedOut _ caused => exact switchedOutCause_text caused
  | hook _ caused =>
      cases caused with
      | event _ logged => exact logEventCause_text logged
      | payload _ logged => exact logPayloadCause_text logged
  | read _ _ | report _ _ | announce _ _ _ =>
      cases other with
      | inl no | inr no => exact absurd no Bool.noConfusion
  | process _ _ _ _ => decide

/-- The texts of a kind among the recorded ones. -/
def State.ioErrors (s : State) (texts : List String) : Nat :=
  s.errors.countP texts.contains

def failedReads (udp : UdpConfig) (calls : List NetCall) : Nat :=
  calls.countP fun c => match c with
    | .recvfrom _ _ result => result == udp.socketError
    | .socket _ | .setsockopt _ _ _ | .bind _ _ _ | .sendto _ _ _ _ => false

def failedWrites (calls : List NetCall) : Nat :=
  calls.countP fun c => match c with
    | .sendto _ _ _ result => decide (result < 0)
    | .socket _ | .setsockopt _ _ _ | .bind _ _ _ | .recvfrom _ _ _ => false

/-- The IO errors are the failed transfers. -/
structure IoAgrees (udp : UdpConfig) (b : Board) : Prop where
  reads : b.sliced.state.ioErrors [readErrorText] = failedReads udp b.driver.calls
  writes : b.sliced.state.ioErrors writeErrorTexts = failedWrites b.driver.calls

theorem ioErrors_of_adds {P : String → Prop} {s t : State} {texts : List String}
    (h : AddsErrors P s t) (other : ∀ msg, P msg → msg ∉ texts) :
    t.ioErrors texts = s.ioErrors texts := by
  have same := h.filter_eq (q := texts.contains) fun msg kind =>
    (List.contains_eq_mem msg texts).trans (decide_eq_false (other msg kind))
  rw [State.ioErrors, State.ioErrors, List.countP_eq_length_filter, same,
    List.countP_eq_length_filter]

theorem ioErrors_error (s : State) (msg : String) (texts : List String) :
    (s.prvTraceError msg).ioErrors texts =
      s.ioErrors texts + if texts.contains msg then 1 else 0 := by
  rw [State.ioErrors, State.prvTraceError_errors, List.countP_append, List.countP_singleton]
  rfl

/-- A call that moves no data changes neither count. -/
theorem failed_onlyOpens (udp : UdpConfig) {d d' : UdpIo} (h : OnlyOpens d d') :
    failedReads udp d'.calls = failedReads udp d.calls ∧
      failedWrites d'.calls = failedWrites d.calls := by
  constructor
  · rw [failedReads, failedReads, List.countP_eq_length_filter, List.countP_eq_length_filter,
      h.filter_eq]
    intro c kind
    cases c with
    | socket _ | setsockopt _ _ _ | bind _ _ _ | sendto _ _ _ _ => rfl
    | recvfrom _ _ _ => exact absurd kind Bool.noConfusion
  · rw [failedWrites, failedWrites, List.countP_eq_length_filter, List.countP_eq_length_filter,
      h.filter_eq]
    intro c kind
    cases c with
    | socket _ | setsockopt _ _ _ | bind _ _ _ | recvfrom _ _ _ => rfl
    | sendto _ _ _ _ => exact absurd kind Bool.noConfusion

/-- One report or announcement records an error when it is written out and that fails. -/
theorem ioTaskProbeIter_ioErrors (cfg : Config) (call : Probe → Call) {failed : String}
    (writeFailed : String) (w : IoWrite) (probe : Probe) (s : State) {texts : List String}
    (other : "TRACE_ASSERT: " ++ failed ∉ texts) :
    (ioTaskProbeIter cfg call failed writeFailed w probe s).ioErrors texts = s.ioErrors texts +
      if (cfg.useTraceAssert = true → w.generated = true) ∧ w.sizeBytes ≠ 0 ∧ w.status ≠ 0 ∧
        texts.contains writeFailed = true then 1 else 0 := by
  simp only [ioTaskProbeIter]
  generalize isCalled : ({ s.enterCriticalSection.logCall (call probe) with
    ioBuffer := w.data } : State).exitCriticalSection = r
  have same : r.ioErrors texts = s.ioErrors texts := by
    rw [← isCalled]
    rfl
  obtain ⟨asserts, no, ended⟩ | ⟨passed, goesOn⟩ := traceAssert_cases cfg w.generated failed r id
    fun s => if w.sizeBytes ≠ 0 ∧ w.status ≠ 0 then s.prvTraceError writeFailed else s
  · rw [ended, if_neg fun all => Bool.false_ne_true (no.symm.trans (all.1 asserts)), id,
      ioErrors_error, same, List.contains_eq_mem, decide_eq_false other]
    rfl
  · rw [goesOn]
    by_cases fails : w.sizeBytes ≠ 0 ∧ w.status ≠ 0
    · rw [if_pos fails, ioErrors_error, same]
      refine congrArg _ (if_congr ?_ rfl rfl)
      exact ⟨fun mem => ⟨passed, fails.1, fails.2, mem⟩, fun all => all.2.2.2⟩
    · rw [if_neg fails, if_neg fun all => fails ⟨all.2.1, all.2.2.1⟩, same]
      rfl

theorem iterFn_ioErrors (cfg : Config) (pass : Pass) (w : IoWrite) (probe : Probe) (s : State) :
    (pass.iterFn cfg w probe s).ioErrors [readErrorText] = s.ioErrors [readErrorText] ∧
      (pass.iterFn cfg w probe s).ioErrors writeErrorTexts = s.ioErrors writeErrorTexts +
        if (cfg.useTraceAssert = true → w.generated = true) ∧ w.sizeBytes ≠ 0 ∧ w.status ≠ 0
        then 1 else 0 := by
  cases pass with
  | reports | announcements =>
      constructor
      · exact (ioTaskProbeIter_ioErrors cfg _ _ w probe s (by decide)).trans
          (congrArg _ (if_neg fun all => absurd all.2.2.2 (by decide)))
      · refine (ioTaskProbeIter_ioErrors cfg _ _ w probe s (by decide)).trans
          (congrArg _ (if_congr ?_ rfl rfl))
        exact ⟨fun all => ⟨all.1, all.2.1, all.2.2.1⟩, fun all => ⟨all.1, all.2.1, all.2.2, by decide⟩⟩

/-- A turn records an IO error when it writes and the write fails. -/
theorem passTurn_ioErrors (cfg : Config) (w : IoWrite) (p : Sliced) :
    (passTurn cfg w p).state.ioErrors [readErrorText] = p.state.ioErrors [readErrorText] ∧
      (passTurn cfg w p).state.ioErrors writeErrorTexts = p.state.ioErrors writeErrorTexts +
        if p.Writes cfg w ∧ w.status ≠ 0 then 1 else 0 := by
  obtain ⟨s, point⟩ := p
  cases point with
  | outside =>
      have same : (passTurn cfg w ⟨s, .outside⟩).state = s := by
        simp only [passTurn]
        split
        · rfl
        · rfl
        · rfl
      rw [if_neg fun all => all.1, same]
      exact ⟨rfl, rfl⟩
  | visiting pass i =>
      rw [passTurn_visiting]
      by_cases more : i < cfg.maxProbes
      · rw [if_pos more]
        cases own : (s.tcbProbe i).probe with
        | none =>
            have same : visitSlot (pass.iterFn cfg w) i s = s := by simp only [visitSlot, own]
            rw [if_neg fun all => all.1.2.1 own, same]
            exact ⟨rfl, rfl⟩
        | some probe =>
            obtain ⟨reads, writes⟩ := iterFn_ioErrors cfg pass w probe s
            have visited : visitSlot (pass.iterFn cfg w) i s = pass.iterFn cfg w probe s := by
              simp only [visitSlot, own]
            rw [visited]
            refine ⟨reads, writes.trans (congrArg _ (if_congr ?_ rfl rfl))⟩
            constructor
            · exact fun all => ⟨⟨more, own ▸ Option.some_ne_none probe, all.1, all.2.1⟩, all.2.2⟩
            · exact fun all => ⟨all.1.2.2.1, all.1.2.2.2, all.2⟩
      · rw [if_neg more, if_neg fun all => more all.1.1]
        cases pass with
        | reports =>
            simp only [endPass]
            split
            · exact ⟨rfl, rfl⟩
            · exact ⟨rfl, rfl⟩
        | announcements => exact ⟨rfl, rfl⟩

/-- A read records an error when its status is not 0. -/
theorem ioRead_ioErrors (cfg : Config) (r : IoRead) {s : State} (point : s.ioPoint = .read)
    (texts : List String) : (step cfg s (.ioRead r)).ioErrors texts = s.ioErrors texts +
      if r.status ≠ 0 ∧ texts.contains readErrorText = true then 1 else 0 := by
  have isStep : (step cfg s (.ioRead r)).ioErrors texts = (if r.status ≠ 0 then
      State.prvTraceError readErrorText { s with ioBuffer := r.data }
      else { s with ioBuffer := r.data }).ioErrors texts := by
    simp only [step, point, ioRead]
    split
    · split
      · split
        · rfl
        · rfl
      · rfl
    · rfl
  rw [isStep]
  by_cases fails : r.status ≠ 0
  · rw [if_pos fails, ioErrors_error]
    exact congrArg _ (if_congr ⟨fun mem => ⟨fails, mem⟩, And.right⟩ rfl rfl)
  · rw [if_neg fails, if_neg fun all => fails all.1]
    rfl

theorem failed_moves {c : NetCall} {d d' : UdpIo} (h : Moves c d d') :
    failedReads udp d'.calls = failedReads udp d.calls + failedReads udp [c] ∧
      failedWrites d'.calls = failedWrites d.calls + failedWrites [c] := by
  obtain ⟨r, opens, isLog⟩ := h
  obtain ⟨reads, writes⟩ := failed_onlyOpens udp opens
  rw [isLog, failedReads, failedWrites, List.countP_append, List.countP_append, ← reads, ← writes]
  exact ⟨rfl, rfl⟩

/-- The driver's status tells the library of a failed transfer. -/
theorem readResult_status (udp : UdpConfig) (net : NetReply) (data : List UInt8)
    (xSocket : Socket) (size : Nat) : (if (readResult udp net data size).1 ≠ 0 then 1 else 0) =
      failedReads udp [.recvfrom xSocket size (net.recvfrom.received size)] := by
  rw [failedReads, List.countP_singleton, readResult]
  by_cases fails : net.recvfrom.received size = udp.socketError
  · rw [if_pos fails, if_pos (beq_iff_eq.mpr fails)]
    rfl
  · rw [if_neg fails, if_neg (mt beq_iff_eq.mp fails)]
    rfl

theorem writeResult_status (net : NetReply) (xSocket : Socket) (size : Nat)
    (address : SockAddr) : (if (writeResult net).1 ≠ 0 then 1 else 0) =
      failedWrites [.sendto xSocket size address net.sendto] := by
  rw [failedWrites, List.countP_singleton, writeResult]
  by_cases fails : net.sendto < 0
  · rw [if_pos fails, if_pos (decide_eq_true fails)]
    rfl
  · rw [if_neg fails, if_neg (mt of_decide_eq_true fails)]
    rfl

theorem ioAgrees_step (agrees : IoAgrees udp b) (legal : a.Legal cfg b) :
    IoAgrees udp (boardStep cfg udp b a) := by
  obtain ⟨reads, writes⟩ := agrees
  cases halted : b.halted with
  | true =>
      rw [boardStep_halted halted]
      exact ⟨reads, writes⟩
  | false =>
      have move := board_move udp halted legal
      generalize boardStep cfg udp b a = b' at move
      cases move with
      | idle => exact ⟨reads, writes⟩
      | readFailed opens =>
          obtain ⟨sameReads, sameWrites⟩ := failed_onlyOpens udp opens
          exact ⟨reads.trans sameReads.symm, writes.trans sameWrites.symm⟩
      | @turn net w quiet =>
          obtain ⟨turnReads, turnWrites⟩ := passTurn_ioErrors cfg w b.sliced
          rw [if_neg fun all => quiet all.1] at turnWrites
          exact ⟨turnReads.trans reads, turnWrites.trans writes⟩
      | @other op notIo =>
          have added := step_causes cfg b.sliced.state op
          refine ⟨(ioErrors_of_adds added fun msg cause mem => ?_).trans reads,
            (ioErrors_of_adds added fun msg cause mem => ?_).trans writes⟩
          · exact cause_text cause notIo (List.mem_singleton.mp mem ▸ List.mem_cons_self)
          · exact cause_text cause notIo (List.mem_cons_of_mem _ mem)
      | @read net destination d xSocket isRead moves =>
          obtain ⟨moreReads, moreWrites⟩ := failed_moves moves
          have counts := ioRead_ioErrors cfg (driverRead udp net b.sliced.state.ioBuffer
            cfg.ioTaskBufferSize destination) isRead.2
          constructor
          · refine (counts [readErrorText]).trans ?_
            rw [reads, moreReads, ← readResult_status udp net b.sliced.state.ioBuffer]
            exact congrArg _ (if_congr ⟨And.left, fun fails => ⟨fails, by decide⟩⟩ rfl rfl)
          · refine (counts writeErrorTexts).trans ?_
            rw [if_neg fun all => absurd all.2 (by decide), writes, moreWrites]
            rfl
      | @write net w d xSocket address isWrite moves =>
          obtain ⟨moreReads, moreWrites⟩ := failed_moves moves
          obtain ⟨turnReads, turnWrites⟩ := passTurn_ioErrors cfg
            { w with status := (writeResult net).1 } b.sliced
          constructor
          · refine turnReads.trans (reads.trans ?_)
            rw [moreReads]
            rfl
          · refine turnWrites.trans ?_
            rw [writes, moreWrites, ← writeResult_status]
            exact congrArg _ (if_congr ⟨And.right, fun fails => ⟨isWrite, fails⟩⟩ rfl rfl)
      | @writeFailed net w d opens =>
          obtain ⟨sameReads, sameWrites⟩ := failed_onlyOpens udp opens
          obtain ⟨turnReads, turnWrites⟩ := passTurn_ioErrors cfg { w with sizeBytes := 0 } b.sliced
          rw [if_neg fun all => unwritten w b.sliced all.1] at turnWrites
          exact ⟨(turnReads.trans reads).trans sameReads.symm,
            (turnWrites.trans writes).trans sameWrites.symm⟩

/-- An IO error is recorded for each transfer that failed, and for no other reason. -/
theorem io_errors_counted {actions : List BoardAction}
    (reached : BoardReaches cfg udp actions b) :
    b.sliced.state.ioErrors [readErrorText] = failedReads udp b.driver.calls ∧
      b.sliced.state.ioErrors writeErrorTexts = failedWrites b.driver.calls := by
  have agrees : IoAgrees udp b :=
    reached.invariant (fun b a agrees legal => ioAgrees_step agrees legal) ⟨rfl, rfl⟩
  exact ⟨agrees.reads, agrees.writes⟩

end

/-- A read of a datagram without a destination, a report that is sent, a read that fails and a
report that is not sent. -/
def boardActions : List BoardAction :=
  [.other (.enable {} (some { handle := 0, taskNumber := 0, becomesCurrent := false })),
    .other (.create {} { handle := 1, taskNumber := 0, becomesCurrent := true } [65] 1),
    .read { socket := some 0, recvfrom := .datagram [1, 2, 3] } none, .turn {} {},
    .turn { socket := some 1, sendto := 10 } { sizeBytes := 10 }, .turn {} {}, .turn {} {},
    .turn {} {}, .turn {} {}, .read { recvfrom := .nothing (-1) } none, .turn {} {},
    .turn { sendto := -1 } { sizeBytes := 5 }]

def boardEnd : Board :=
  boardActions.foldl (boardStep Config.tests UdpConfig.m3Qemu) (Board.init Config.tests)

theorem boardEnd_reached : BoardReaches Config.tests UdpConfig.m3Qemu boardActions boardEnd :=
  Transition.Run.of_check (by decide +kernel)

theorem board_refines_sent : ∃ slices,
    Run (sliceStep Config.tests) (Slice.Legal Config.tests) ⟨State.init Config.tests, .outside⟩
      slices boardEnd.sliced ∧
    outputs (sliceStep Config.tests) (Slice.exchanges Config.tests)
        ⟨State.init Config.tests, .outside⟩ slices =
      boardEnd.driver.calls.flatMap (NetCall.exchanges UdpConfig.m3Qemu) :=
  board_refines boardEnd_reached (by decide)

theorem board_disciplined_sent :
    Disciplined (NetCall.Allowed UdpConfig.m3Qemu Config.tests.ioTaskBufferSize)
      boardEnd.driver.calls ∧
    (boardEnd.halted = true ↔ ∃ c ∈ boardEnd.driver.calls, c.Fatal) :=
  board_disciplined (by decide) boardEnd_reached

theorem io_errors_counted_sent :
    boardEnd.sliced.state.ioErrors [readErrorText] =
      failedReads UdpConfig.m3Qemu boardEnd.driver.calls ∧
    boardEnd.sliced.state.ioErrors writeErrorTexts = failedWrites boardEnd.driver.calls :=
  io_errors_counted boardEnd_reached

end ProbeTrace
