import ProbeTrace.Metatheory.RegistrySound

/-!
What one action does to the control plane: the message buffers, the IO task's
position and the messages handed to probes. Every invariant of the control plane
is proved by cases on `ControlMove`.
-/
namespace ProbeTrace

def Call.processed : Call → Option (Option Probe × Message)
  | .processControlMessage probe msg => some (probe, msg)
  | .initializeProbe _ _ _ | .produceSnapshot _ _ _ | .mergeSnapshot _ _ _
  | .recordEvent _ _ _ | .report _ | .announceMutators _ => none

/-- The messages handed to probes, in order. -/
def State.handed (s : State) : List (Option Probe × Message) := s.calls.filterMap Call.processed

/-- The control plane without the message buffers. -/
structure IoView where
  ioBuffer : List UInt8
  ioPoint : IoPoint
  reads : Nat
  sends : List (Nat × Message × Bool)
  handed : List (Option Probe × Message)

def State.ioView (s : State) : IoView where
  ioBuffer := s.ioBuffer
  ioPoint := s.ioPoint
  reads := s.reads
  sends := s.sends
  handed := s.handed

structure SameControl (s t : State) : Prop where
  ioView : t.ioView = s.ioView
  messageBuffers : t.messageBuffers = s.messageBuffers

theorem SameControl.trans {s r t : State} (h : SameControl s r) (k : SameControl r t) :
    SameControl s t :=
  ⟨k.ioView.trans h.ioView, k.messageBuffers.trans h.messageBuffers⟩

theorem logCall_ioView {c : Call} (h : c.isProcess = false) (s : State) :
    (s.logCall c).ioView = s.ioView := by
  have none : c.processed = none := by
    cases c with
    | processControlMessage _ _ => cases h
    | initializeProbe _ _ _ | produceSnapshot _ _ _ | mergeSnapshot _ _ _ | recordEvent _ _ _
    | report _ | announceMutators _ => rfl
  have handed : (s.logCall c).handed = s.handed := by
    simp [State.handed, State.logCall, none]
  simp only [State.ioView, handed]
  rfl

theorem prvTraceError_control (msg : String) (s : State) :
    SameControl s (s.prvTraceError msg) := by
  rw [State.prvTraceError_eq]
  exact ⟨rfl, rfl⟩

theorem modalityProbeProduceSnapshot_control (env : External) (probe : Option Probe) (i : Nat)
    (s : State) : SameControl s (s.modalityProbeProduceSnapshot env probe i) := by
  have logged := logCall_ioView (c := .produceSnapshot probe i env.produceSnapshot) rfl s
  unfold State.modalityProbeProduceSnapshot
  dsimp only
  split
  · exact ⟨logged, rfl⟩
  · exact ⟨logged, rfl⟩

theorem control_hookEffect : HookEffect SameControl where
  refl _ := ⟨rfl, rfl⟩
  trans := SameControl.trans
  enter _ := ⟨rfl, rfl⟩
  exit _ := ⟨rfl, rfl⟩
  error := prvTraceError_control
  record _ _ _ s := ⟨logCall_ioView rfl s, rfl⟩
  produce := modalityProbeProduceSnapshot_control
  merge _ _ s := ⟨logCall_ioView rfl s, rfl⟩
  switched new s := by
    unfold prvTraceSwitchedTcb
    split <;> exact ⟨rfl, rfl⟩
  fault _ := ⟨rfl, rfl⟩

theorem ioView_registerEffect : RegisterEffect fun s t => t.ioView = s.ioView where
  refl _ := rfl
  trans h k := k.trans h
  enter _ := rfl
  exit _ := rfl
  error msg s := (prvTraceError_control msg s).ioView
  log _ s h := logCall_ioView h s
  tcb _ _ _ := rfl
  slot _ _ _ := rfl
  storage cfg env n s := by
    unfold allocStorage
    split <;> split <;> rfl
  probeIds _ _ := rfl
  messageBuffer cfg env s := by
    unfold allocMessageBuffer
    split <;> rfl
  taskBuffer env s := by
    unfold allocTaskLocalBuffer
    split <;> rfl
  exclude _ _ _ := rfl

/-! The moves. -/

/-- A destination reaches a task: the broadcast id or the task's own. -/
def Addressed (cfg : Config) (r : Registry) (target : BitVec 32) (task : TaskHandle) : Prop :=
  target = cfg.probeIdBroadcast ∨ target = (r.taskId task).setWidth 32

def nextPoint (cfg : Config) (target : BitVec 32) (numBytes i : Nat) : IoPoint :=
  if i + 1 < cfg.maxProbes then .send target numBytes (i + 1) else .report

/-- A control message was read. -/
structure IoRead.Valid (r : IoRead) (target : BitVec 32) : Prop where
  status : r.status = 0
  numBytes : 0 < r.numBytes
  destination : r.destination = some target

structure ReadsMessage (cfg : Config) (s : State) (r : IoRead) (target : BitVec 32)
    (t : State) : Prop where
  ioView : t.ioView = { s.ioView with
    ioBuffer := r.data
    ioPoint := if cfg.includeControlPlaneBuffer then .send target r.numBytes.toNat 0
      else .report
    reads := s.reads + 1 }
  registry : t.registry = s.registry
  messageBuffers : t.messageBuffers = s.messageBuffers

/-- The control plane after the action `op` in the state `s`. -/
inductive ControlMove (cfg : Config) (s : State) (op : Op) (t : State) : Prop
  | same (same : SameControl s t) (slots : t.registry.slots = s.registry.slots)
  | registered (env : External) (new : NewTask) (name : CString) (uxPriority : BitVec 32)
      (i : Nat) (isOp : op = .create env new name uxPriority)
      (outcome : RegistersIn cfg env new.handle uxPriority i (s.addTask cfg new name) t)
      (ioView : t.ioView = s.ioView)
  | idle (r : IoRead) (isOp : op = .ioRead r) (point : s.ioPoint = .read)
      (ioView : t.ioView = { s.ioView with ioBuffer := r.data, ioPoint := .report })
      (registry : t.registry = s.registry) (messageBuffers : t.messageBuffers = s.messageBuffers)
  | read (r : IoRead) (target : BitVec 32) (isOp : op = .ioRead r) (point : s.ioPoint = .read)
      (valid : r.Valid target) (outcome : ReadsMessage cfg s r target t)
  | skipped (target : BitVec 32) (numBytes i : Nat) (isOp : op = .ioSend)
      (point : s.ioPoint = .send target numBytes i)
      (unaddressed : ∀ (e : TcbProbe) (task : TaskHandle) (b : Nat),
        s.registry.slots[i]? = some e → e.tcb = some task → e.controlMsgBuffer = some b →
        ¬ Addressed cfg s.registry target task)
      (ioView : t.ioView = { s.ioView with ioPoint := nextPoint cfg target numBytes i })
      (registry : t.registry = s.registry) (messageBuffers : t.messageBuffers = s.messageBuffers)
  | sent (target : BitVec 32) (numBytes i b : Nat) (e : TcbProbe) (task : TaskHandle)
      (isOp : op = .ioSend) (point : s.ioPoint = .send target numBytes i)
      (slot : s.registry.slots[i]? = some e) (tcb : e.tcb = some task)
      (buffer : e.controlMsgBuffer = some b) (addressed : Addressed cfg s.registry target task)
      (ioView : t.ioView = { s.ioView with
        ioPoint := nextPoint cfg target numBytes i
        sends := s.sends ++ [(i, heldMessage s target numBytes,
          ((s.messageBuffers b).send Message.size cfg.messageLengthBytes
            (heldMessage s target numBytes)).1)] })
      (registry : t.registry = s.registry)
      (messageBuffers : t.messageBuffers = Function.update s.messageBuffers b
        ((s.messageBuffers b).send Message.size cfg.messageLengthBytes
          (heldMessage s target numBytes)).2)
  | reported (reports announcements : Probe → IoWrite) (buffer : List UInt8)
      (isOp : op = .ioReport reports announcements) (point : s.ioPoint = .report)
      (ioView : t.ioView = { s.ioView with ioBuffer := buffer, ioPoint := .read })
      (registry : t.registry = s.registry) (messageBuffers : t.messageBuffers = s.messageBuffers)
  | received (env : External) (i b : Nat) (e : TcbProbe) (msg : Message) (rest : List Message)
      (isOp : op = .process env) (found : s.getTcbProbe s.pxCurrentTcb = some i)
      (slot : s.registry.slots[i]? = some e) (buffer : e.controlMsgBuffer = some b)
      (queue : (s.messageBuffers b).queue = msg :: rest)
      (fits : msg.size ≤ cfg.controlPlaneTaskBufferSize)
      (ioView : t.ioView = { s.ioView with
        handed := s.handed ++ if msg.size ≠ 0 then [(e.probe, msg)] else [] })
      (registry : t.registry = s.registry)
      (messageBuffers : t.messageBuffers = Function.update s.messageBuffers b
        { s.messageBuffers b with queue := rest })

/-! The receiving side. -/

/-- What handing a received message over does. -/
theorem handOver_eq (cfg : Config) (env : External) (probe : Option Probe) (msg : Message)
    (s : State) :
    (handOver cfg env probe (some msg) s).calls =
        s.calls ++ (if msg.size ≠ 0 then [.processControlMessage probe msg] else []) ∧
      (handOver cfg env probe (some msg) s).ioView = { s.ioView with
        handed := s.handed ++ if msg.size ≠ 0 then [(probe, msg)] else [] } ∧
      (handOver cfg env probe (some msg) s).messageBuffers = s.messageBuffers := by
  unfold handOver
  by_cases empty : msg.size = 0
  · simp [empty, State.ioView]
  · simp only [empty, ne_eq, not_false_eq_true, if_true]
    have logged : (s.enterCriticalSection.logCall (.processControlMessage probe msg)).exitCriticalSection.ioView =
        { s.ioView with handed := s.handed ++ [(probe, msg)] } := by
      simp [State.ioView, State.handed, State.logCall, State.enterCriticalSection,
        State.exitCriticalSection, Call.processed]
    rcases traceAssert_cases cfg env.processControlMessage
      "Failed to process Modality probe control message"
      (s.enterCriticalSection.logCall (.processControlMessage probe msg)).exitCriticalSection id id
      with ⟨-, -, h⟩ | ⟨-, h⟩
    · rw [h, id_eq]
      refine ⟨?_, (prvTraceError_control _ _).ioView.trans logged, ?_⟩
      · rw [State.prvTraceError_calls]
        rfl
      · rw [(prvTraceError_control _ _).messageBuffers]
        rfl
    · rw [h]
      exact ⟨rfl, logged, rfl⟩

theorem process_unfold (cfg : Config) (env : External) (s : State) :
    vTraceProcessControlPlaneMessages cfg env s =
      handOver cfg env (currentTcbProbe s).probe (receiveMessage cfg (currentTcbProbe s) s).1
        (receiveMessage cfg (currentTcbProbe s) s).2 := by
  have looked : currentTcbProbe s.enterCriticalSection = currentTcbProbe s := rfl
  unfold vTraceProcessControlPlaneMessages
  dsimp only
  rw [looked, s.exit_enterCriticalSection]

theorem currentTcbProbe_eq {s : State} {i : Nat} (found : s.getTcbProbe s.pxCurrentTcb = some i) :
    currentTcbProbe s = s.tcbProbe i := by
  unfold currentTcbProbe State.prvTraceGetCurrentTaskHandle
  rw [found]

/-- A task with both buffers takes the oldest message if it fits. -/
theorem process_receives (cfg : Config) (env : External) {s : State} {i b : Nat} {e : TcbProbe}
    {msg : Message} {rest : List Message} (found : s.getTcbProbe s.pxCurrentTcb = some i)
    (slot : s.registry.slots[i]? = some e) (buffer : e.controlMsgBuffer = some b)
    (taskLocal : e.taskLocalBuffer.isSome = true)
    (queue : (s.messageBuffers b).queue = msg :: rest)
    (fits : msg.size ≤ cfg.controlPlaneTaskBufferSize) :
    vTraceProcessControlPlaneMessages cfg env s = handOver cfg env e.probe (some msg)
      (s.setMessageBuffer b { s.messageBuffers b with queue := rest }) := by
  obtain ⟨-, probe, control, task⟩ := tcbProbe_fields slot
  obtain ⟨l, hl⟩ := Option.isSome_iff_exists.mp taskLocal
  have received : receiveMessage cfg (s.tcbProbe i) s =
      (some msg, s.setMessageBuffer b { s.messageBuffers b with queue := rest }) := by
    unfold receiveMessage
    rw [control, buffer, task, hl]
    simp only [xMessageBufferReceive, MessageBuffer.receive_head queue fits]
  rw [process_unfold, currentTcbProbe_eq found, received, probe]

/-- Otherwise nothing is received and nothing happens. -/
theorem process_blocked (cfg : Config) (env : External) {s : State}
    (blocked : ∀ (i b : Nat) (e : TcbProbe) (msg : Message) (rest : List Message),
      s.getTcbProbe s.pxCurrentTcb = some i → s.registry.slots[i]? = some e →
      e.controlMsgBuffer = some b → e.taskLocalBuffer.isSome = true →
      (s.messageBuffers b).queue = msg :: rest → cfg.controlPlaneTaskBufferSize < msg.size) :
    SameControl s (vTraceProcessControlPlaneMessages cfg env s) := by
  have nothing : (receiveMessage cfg (currentTcbProbe s) s).1 = none ∧
      SameControl s (receiveMessage cfg (currentTcbProbe s) s).2 := by
    unfold receiveMessage
    split
    · rename_i b l hb hl
      cases found : s.getTcbProbe s.pxCurrentTcb with
      | none =>
          have absent : currentTcbProbe s = {} := by
            unfold currentTcbProbe State.prvTraceGetCurrentTaskHandle
            rw [found]
          rw [absent] at hb
          cases hb
      | some i =>
          rw [currentTcbProbe_eq found] at hb hl
          have lt := SlotTable.find_lt (getTcbProbe_eq s s.pxCurrentTcb ▸ found)
          have slot := List.getElem?_eq_getElem lt
          obtain ⟨-, -, control, task⟩ := tcbProbe_fields slot
          have unchanged : (s.messageBuffers b).receive Message.size
              cfg.controlPlaneTaskBufferSize = (none, s.messageBuffers b) := by
            cases hq : (s.messageBuffers b).queue with
            | nil => simp [MessageBuffer.receive, hq]
            | cons msg rest =>
                exact MessageBuffer.receive_blocked hq
                  (blocked i b _ msg rest found slot (control.symm.trans hb)
                    (by rw [← task, hl]; rfl) hq)
          simp only [xMessageBufferReceive, unchanged, State.setMessageBuffer,
            Function.update_eq_self]
          exact ⟨trivial, rfl, rfl⟩
    · exact ⟨rfl, rfl, rfl⟩
  rw [process_unfold, nothing.1]
  exact nothing.2

/-- At most one message is handed over, for the probe of the caller's slot. -/
theorem process_calls (cfg : Config) (env : External) (s : State) :
    (vTraceProcessControlPlaneMessages cfg env s).calls = s.calls ∨
      ∃ i msg, s.getTcbProbe s.pxCurrentTcb = some i ∧
        (vTraceProcessControlPlaneMessages cfg env s).calls =
          s.calls ++ [.processControlMessage (s.tcbProbe i).probe msg] := by
  have kept : (receiveMessage cfg (currentTcbProbe s) s).2.calls = s.calls := by
    unfold receiveMessage
    split <;> rfl
  rw [process_unfold]
  cases received : (receiveMessage cfg (currentTcbProbe s) s).1 with
  | none => exact .inl kept
  | some msg =>
      rw [(handOver_eq ..).1, kept]
      cases found : s.getTcbProbe s.pxCurrentTcb with
      | none =>
          have absent : currentTcbProbe s = {} := by
            unfold currentTcbProbe State.prvTraceGetCurrentTaskHandle
            rw [found]
          rw [absent] at received
          cases received
      | some i =>
          rw [currentTcbProbe_eq found]
          by_cases size : msg.size ≠ 0
          · exact .inr ⟨i, msg, rfl, by rw [if_pos size]⟩
          · exact .inl (by rw [if_neg size, List.append_nil])

theorem process_control (cfg : Config) (env : External) (s : State) :
    ControlMove cfg s (.process env) (vTraceProcessControlPlaneMessages cfg env s) := by
  by_cases receives : ∃ (i b : Nat) (e : TcbProbe) (msg : Message) (rest : List Message),
      s.getTcbProbe s.pxCurrentTcb = some i ∧ s.registry.slots[i]? = some e ∧
      e.controlMsgBuffer = some b ∧ e.taskLocalBuffer.isSome = true ∧
      (s.messageBuffers b).queue = msg :: rest ∧ msg.size ≤ cfg.controlPlaneTaskBufferSize
  · obtain ⟨i, b, e, msg, rest, found, slot, buffer, task, queue, fits⟩ := receives
    have registry := registry_controlEffect.vTraceProcessControlPlaneMessages cfg env s
    have eq := process_receives cfg env found slot buffer task queue fits
    obtain ⟨-, ioView, messageBuffers⟩ := handOver_eq cfg env e.probe msg
      (s.setMessageBuffer b { s.messageBuffers b with queue := rest })
    refine .received env i b e msg rest rfl found slot buffer queue fits ?_ registry ?_
    · rw [eq, ioView]
      rfl
    · rw [eq, messageBuffers]
      rfl
  · refine .same (process_blocked cfg env ?_) (congrArg Registry.slots
      (registry_controlEffect.vTraceProcessControlPlaneMessages cfg env s))
    intro i b e msg rest found slot buffer task queue
    by_contra fits
    exact receives ⟨i, b, e, msg, rest, found, slot, buffer, task, queue, by omega⟩

/-! The sending side. -/

/-- An error changes neither the registry nor the control plane. -/
theorem errorIf_control (p : Prop) [Decidable p] (msg : String) (s : State) :
    SameControl s (if p then s.prvTraceError msg else s) ∧
      (if p then s.prvTraceError msg else s).registry = s.registry := by
  split
  · exact ⟨prvTraceError_control msg s, prvTraceError_registry msg s⟩
  · exact ⟨⟨rfl, rfl⟩, rfl⟩

theorem ioRead_valid (cfg : Config) {r : IoRead} {target : BitVec 32} (valid : r.Valid target)
    (s : State) : ReadsMessage cfg s r target (ioRead cfg r s) := by
  have noError : ¬ r.status ≠ 0 := fun failed => failed valid.status
  have read : r.status = 0 ∧ 0 < r.numBytes := ⟨valid.status, valid.numBytes⟩
  unfold ioRead
  dsimp only
  rw [if_neg noError, if_pos read, valid.destination]
  dsimp only
  by_cases control : cfg.includeControlPlaneBuffer = true
  · rw [if_pos control]
    exact ⟨by rw [if_pos control]; rfl, rfl, rfl⟩
  · rw [if_neg control]
    exact ⟨by rw [if_neg control]; rfl, rfl, rfl⟩

theorem ioRead_invalid (cfg : Config) {r : IoRead} (invalid : ∀ target, ¬ r.Valid target)
    (s : State) :
    (ioRead cfg r s).ioView = { s.ioView with ioBuffer := r.data, ioPoint := .report } ∧
      (ioRead cfg r s).registry = s.registry ∧
      (ioRead cfg r s).messageBuffers = s.messageBuffers := by
  obtain ⟨same, registry⟩ := errorIf_control (r.status ≠ 0) "TRACE_IO_READ returned an error"
    { s with ioBuffer := r.data }
  unfold ioRead
  dsimp only
  generalize (if r.status ≠ 0 then _ else _ : State) = u at same registry ⊢
  have idle : ∀ t : State, t = { u with ioPoint := .report } →
      t.ioView = { s.ioView with ioBuffer := r.data, ioPoint := .report } ∧
        t.registry = s.registry ∧ t.messageBuffers = s.messageBuffers := by
    rintro t rfl
    refine ⟨?_, registry, same.messageBuffers⟩
    change { u.ioView with ioPoint := IoPoint.report } = _
    rw [same.ioView]
    rfl
  split
  · rename_i read
    cases hd : r.destination with
    | none => exact idle _ rfl
    | some target => exact absurd ⟨read.1, read.2, hd⟩ (invalid target)
  · exact idle _ rfl

theorem ioRead_control (cfg : Config) (r : IoRead) {s : State} (point : s.ioPoint = .read) :
    ControlMove cfg s (.ioRead r) (ioRead cfg r s) := by
  by_cases valid : ∃ target, r.Valid target
  · obtain ⟨target, valid⟩ := valid
    exact .read r target rfl point valid (ioRead_valid cfg valid s)
  · obtain ⟨ioView, registry, messageBuffers⟩ :=
      ioRead_invalid cfg (fun target h => valid ⟨target, h⟩) s
    exact .idle r rfl point ioView registry messageBuffers

theorem ioSend_control (cfg : Config) (s : State) : ControlMove cfg s .ioSend (ioSend cfg s) := by
  unfold ioSend
  cases point : s.ioPoint with
  | read | report => exact .same ⟨rfl, rfl⟩ rfl
  | send target numBytes i =>
      dsimp only
      by_cases addressed : ∃ (e : TcbProbe) (task : TaskHandle) (b : Nat),
          s.registry.slots[i]? = some e ∧ e.tcb = some task ∧ e.controlMsgBuffer = some b ∧
          Addressed cfg s.registry target task
      · obtain ⟨e, task, b, slot, tcb, buffer, match'⟩ := addressed
        obtain ⟨tcb', -, buffer', -⟩ := tcbProbe_fields slot
        have sends : sendToSlot cfg target numBytes i s =
            xMessageBufferSend cfg i b (heldMessage s target numBytes) s := by
          unfold sendToSlot
          rw [tcb', tcb, buffer', buffer]
          exact if_pos match'
        rw [sends]
        exact .sent target numBytes i b e task rfl point slot tcb buffer match' rfl rfl rfl
      · have skips : sendToSlot cfg target numBytes i s = s := by
          unfold sendToSlot
          split
          · rename_i task b htcb hb
            cases hs : s.registry.slots[i]? with
            | none =>
                have absent : s.tcbProbe i = {} := by
                  rw [slots_getElem?] at hs
                  have : s.tcbProbes[i]? = none := by simpa using hs
                  rw [State.tcbProbe, List.getD_eq_getElem?_getD, this]
                  rfl
                rw [absent] at hb
                cases hb
            | some e =>
                obtain ⟨tcb', -, buffer', -⟩ := tcbProbe_fields hs
                exact if_neg fun match' => addressed
                  ⟨e, task, b, hs, tcb'.symm.trans htcb, buffer'.symm.trans hb, match'⟩
          · rfl
        rw [skips]
        exact .skipped target numBytes i rfl point
          (fun e task b slot tcb buffer match' =>
            addressed ⟨e, task, b, slot, tcb, buffer, match'⟩) rfl rfl rfl

/-- What reporting leaves alone of the control plane: all but the IO task's buffer. -/
structure ReportFrame (s t : State) : Prop where
  registry : t.registry = s.registry
  messageBuffers : t.messageBuffers = s.messageBuffers
  ioView : ∃ buffer, t.ioView = { s.ioView with ioBuffer := buffer }

theorem reportFrame_effect : ReportEffect ReportFrame where
  refl s := ⟨rfl, rfl, s.ioBuffer, rfl⟩
  trans h k := by
    obtain ⟨b, hb⟩ := h.ioView
    obtain ⟨b', kb⟩ := k.ioView
    exact ⟨k.registry.trans h.registry, k.messageBuffers.trans h.messageBuffers, b',
      by rw [kb, hb]⟩
  enter s := ⟨rfl, rfl, s.ioBuffer, rfl⟩
  exit s := ⟨rfl, rfl, s.ioBuffer, rfl⟩
  error msg s := ⟨prvTraceError_registry msg s, (prvTraceError_control msg s).messageBuffers,
    s.ioBuffer, (prvTraceError_control msg s).ioView⟩
  report _ s := ⟨rfl, rfl, s.ioBuffer, logCall_ioView rfl s⟩
  announce _ s := ⟨rfl, rfl, s.ioBuffer, logCall_ioView rfl s⟩
  buffer _ ioBuffer := ⟨rfl, rfl, ioBuffer, rfl⟩
  iters s _ := ⟨rfl, rfl, s.ioBuffer, rfl⟩

theorem ioReport_control (cfg : Config) (reports announcements : Probe → IoWrite)
    (s : State) : ControlMove cfg s (.ioReport reports announcements)
      (ioReport cfg reports announcements s) := by
  have frame := reportFrame_effect.trans (reportFrame_effect.sendReports cfg reports s)
    (reportFrame_effect.sendAnnouncements cfg announcements _)
  unfold ioReport
  cases point : s.ioPoint with
  | read | send _ _ _ => exact .same ⟨rfl, rfl⟩ rfl
  | report =>
      dsimp only
      generalize sendAnnouncements cfg announcements (sendReports cfg reports s) = u at frame ⊢
      obtain ⟨buffer, view⟩ := frame.ioView
      refine .reported reports announcements buffer rfl point ?_ frame.registry frame.messageBuffers
      change { u.ioView with ioPoint := IoPoint.read } = _
      rw [view]

theorem xTaskCreate_ioView (cfg : Config) (env : External) (new : NewTask) (name : CString)
    (uxPriority : BitVec 32) (s : State) :
    (xTaskCreate cfg env new name uxPriority s).ioView = s.ioView :=
  ioView_registerEffect.prvTraceRegisterTaskProbe cfg env new.handle uxPriority
    (s.addTask cfg new name)

theorem xTaskCreate_control (cfg : Config) (env : External) (new : NewTask) (name : CString)
    (uxPriority : BitVec 32) (s : State) : ControlMove cfg s (.create env new name uxPriority)
      (xTaskCreate cfg env new name uxPriority s) := by
  have view := xTaskCreate_ioView cfg env new name uxPriority s
  unfold xTaskCreate at view ⊢
  cases on : s.isEnabled with
  | false =>
      have skipped := prvTraceRegisterTaskProbe_disabled cfg env new.handle uxPriority
        (s := s.addTask cfg new name) on
      refine .same ⟨view, ?_⟩ ?_
      · rw [skipped]
        rfl
      · rw [skipped]
        rfl
  | true =>
      rcases prvTraceRegisterTaskProbe_cases cfg env new.handle uxPriority
        (s := s.addTask cfg new name) on with ⟨i, h⟩ | h | h
      · exact .registered env new name uxPriority i rfl h view
      · refine .same ⟨view, h.messageBuffers⟩ ?_
        rw [h.registry]
        exact Registry.takeStorage_slots ..
      · refine .same ⟨view, h.messageBuffers⟩ ?_
        rw [h.registry]
        split
        · exact Registry.takeStorage_slots ..
        · rfl

theorem vTraceExcludeTask_control (cfg : Config) (pcName : CString) (s : State) :
    SameControl s (vTraceExcludeTask cfg pcName s) := by
  have stored : ∀ (probeId : BitVec 16) (t : State),
      (storeExcludedId probeId t).messageBuffers = t.messageBuffers := by
    intro probeId t
    unfold storeExcludedId
    split
    · rfl
    · exact (prvTraceError_control _ t).messageBuffers
  refine ⟨ioView_registerEffect.vTraceExcludeTask cfg pcName s, ?_⟩
  unfold vTraceExcludeTask
  simp only [hashTaskName_eq, State.exitCriticalSection, State.noteExcluded, stored]
  split
  · rw [(prvTraceError_control _ _).messageBuffers]
    rfl
  · rfl

/-- Creating the IO task registers nothing: tracing is off. -/
theorem createIo_control (cfg : Config) (env : External) (io : Option NewTask) {s : State}
    (off : s.isEnabled = false) : SameControl s (createIo cfg env io s) := by
  cases io with
  | none => exact ⟨rfl, rfl⟩
  | some new =>
      have skipped := prvTraceRegisterTaskProbe_disabled cfg env new.handle cfg.ioTaskPriority
        (s := s.addTask cfg new cfg.ioTaskName) off
      unfold createIo
      dsimp only
      rw [xTaskCreate, skipped]
      exact ⟨rfl, rfl⟩

theorem includeIoTask_control (cfg : Config) (env : External) (io : Option NewTask)
    {s : State} (off : s.isEnabled = false) : SameControl s (includeIoTask cfg env io s) := by
  have excluded := vTraceExcludeTask_control cfg cfg.ioTaskName s
  have off' := (vTraceExcludeTask_latched cfg cfg.ioTaskName s).keepsOff.off off
  have created := createIo_control cfg env io off'
  unfold includeIoTask createIoTask
  dsimp only
  generalize createIo cfg env io (vTraceExcludeTask cfg cfg.ioTaskName s) = t at created ⊢
  split
  · exact (excluded.trans created).trans (errorIf_control _ _ t).1
  · exact ⟨rfl, rfl⟩

theorem vTraceEnable_control (cfg : Config) (env : External) (io : Option NewTask)
    (s : State) : SameControl s (vTraceEnable cfg env io s) := by
  rcases vTraceEnable_cases cfg env io s with ⟨-, h⟩ | ⟨-, -, msg, h⟩ | ⟨off, -, h⟩
  · rw [h]
    exact ⟨rfl, rfl⟩
  · rw [h]
    exact prvTraceError_control msg s
  · rw [h]
    have included := includeIoTask_control cfg env io (s := s.enterCriticalSection) off
    exact ⟨included.ioView, included.messageBuffers⟩

theorem vTraceEnable_slots (cfg : Config) (env : External) (io : Option NewTask) (s : State) :
    (vTraceEnable cfg env io s).registry.slots = s.registry.slots := by
  rcases vTraceEnable_outcome cfg env io s with h | ⟨-, h | ⟨new, -, h⟩⟩ <;> rw [h] <;> rfl

theorem step_control (cfg : Config) (s : State) (op : Op) :
    ControlMove cfg s op (step cfg s op) := by
  cases op with
  | enable env io =>
      exact .same (vTraceEnable_control cfg env io s) (vTraceEnable_slots cfg env io s)
  | exclude pcName =>
      refine .same (vTraceExcludeTask_control cfg pcName s) ?_
      rw [step, vTraceExcludeTask_registry]
      rfl
  | disable | delete _ | setFilter _ _ | getBuffer => exact .same ⟨rfl, rfl⟩ rfl
  | create env new name uxPriority => exact xTaskCreate_control cfg env new name uxPriority s
  | start env next uxPriority =>
      exact .same (control_hookEffect.startScheduler cfg env next uxPriority ⟨rfl, rfl⟩)
        (congrArg Registry.slots
          (registry_hookEffect.startScheduler cfg env next uxPriority (s := s) rfl))
  | switch out in' next uxPriority =>
      exact .same (control_hookEffect.contextSwitch cfg out in' next uxPriority s
        fun _ => ⟨rfl, rfl⟩) (congrArg Registry.slots
          (registry_hookEffect.contextSwitch cfg out in' next uxPriority s fun _ => rfl))
  | hook env h =>
      exact .same (control_hookEffect.run cfg env h s)
        (congrArg Registry.slots (registry_hookEffect.run cfg env h s))
  | ioRead r =>
      cases point : s.ioPoint with
      | read =>
          have read := ioRead_control cfg r point
          rwa [step, point]
      | send _ _ _ | report =>
          rw [step, point]
          exact .same ⟨rfl, rfl⟩ rfl
  | ioSend => exact ioSend_control cfg s
  | ioReport reports announcements => exact ioReport_control cfg reports announcements s
  | process env => exact process_control cfg env s

end ProbeTrace
