import ProbeTrace.Foundation.Drain
import ProbeTrace.Metatheory.ControlDelivery
import ProbeTrace.Metatheory.Slots

/-!
When control messages are processed. A task takes one message at each of its calls of
vTraceProcessControlPlaneMessages, whatever the other tasks do between them, until a message
is longer than its local buffer; from there on it takes none.
-/
namespace ProbeTrace

/-- The task asks for a control message. -/
def takesTurn (task : TaskHandle) (s : State) : Op → Bool
  | .process _ => s.pxCurrentTcb == some task
  | .enable _ _ | .disable | .exclude _ | .create _ _ _ _ | .delete _ | .start _ _ _
  | .switch _ _ _ _ | .hook _ _ | .setFilter _ _ | .ioRead _ | .ioSend | .ioReport _ _
  | .getBuffer => false

/-- The slot that is found for a task, with its probe and its message buffer. -/
structure Mailbox (s : State) (i : Nat) (task : TaskHandle) (probe : Probe) (buffer : Nat) :
    Prop where
  found : s.getTcbProbe (some task) = some i
  probe : (s.tcbProbe i).probe = some probe
  buffer : (s.tcbProbe i).controlMsgBuffer = some buffer

section
variable {cfg : Config} {s t : State} {i : Nat} {task : TaskHandle} {probe : Probe} {b buffer : Nat}

/-! The message buffers of the slots. -/

/-- What holds of the message buffer of every slot. -/
def EachBuffer (P : MessageBuffer Message → Prop) (s : State) : Prop :=
  ∀ (i : Nat) (e : TcbProbe) (b : Nat), s.registry.slots[i]? = some e →
    e.controlMsgBuffer = some b → P (s.messageBuffers b)

theorem eachBuffer_init (P : MessageBuffer Message → Prop) (cfg : Config) :
    EachBuffer P (State.init cfg) :=
  fun i e b slot buffer => absurd ((Slots.init cfg).buffer i e b slot buffer).1 (Nat.not_lt_zero _)

/-- What holds of a new message buffer, and is kept when the IO task sends the message it holds
and when a message is received, every action keeps of every slot's buffer. -/
theorem eachBuffer_step {P : MessageBuffer Message → Prop} (table : Slots cfg s.registry)
    (h : EachBuffer P s) (op : Op) (new : P { capacity := cfg.controlPlaneBufferSize, queue := [] })
    (sent : ∀ target numBytes i q, s.ioPoint = .send target numBytes i → P q →
      P (q.send Message.size cfg.messageLengthBytes (heldMessage s target numBytes)).2)
    (received : ∀ (q : MessageBuffer Message) msg rest, q.queue = msg :: rest → P q →
      P { q with queue := rest }) : EachBuffer P (step cfg s op) := by
  have kept : (step cfg s op).registry.slots = s.registry.slots →
      (step cfg s op).messageBuffers = s.messageBuffers → EachBuffer P (step cfg s op) := by
    intro slots messageBuffers
    rw [EachBuffer, slots, messageBuffers]
    exact h
  have updated : ∀ {b : Nat} {q : MessageBuffer Message},
      (step cfg s op).registry = s.registry →
      (step cfg s op).messageBuffers = Function.update s.messageBuffers b q →
      P q → EachBuffer P (step cfg s op) := by
    intro b q registry messageBuffers holds j e' b' slot' buffer'
    rw [registry] at slot'
    rw [messageBuffers]
    by_cases same : b' = b
    · rw [same, Function.update_self]
      exact holds
    · rw [Function.update_of_ne same]
      exact h j e' b' slot' buffer'
  cases step_control cfg s op with
  | same same slots => exact kept slots same.messageBuffers
  | registered env new' name uxPriority i isOp outcome ioView =>
      have added : Slots cfg (s.addTask cfg new' name).registry := table.frame rfl rfl rfl rfl
      intro j e b slot buffer
      cases SlotTable.getElem?_set_cases ((added.registered outcome).2.1 ▸ slot) with
      | inl isNew =>
          rw [newSlot_messageBuffer outcome (isNew.2 ▸ buffer)]
          exact new
      | inr old =>
          rw [added.oldBuffer outcome old.2 buffer]
          exact h j e b old.2 buffer
  | read _ _ _ _ _ outcome =>
      exact kept (congrArg Registry.slots outcome.registry) outcome.messageBuffers
  | idle _ _ _ _ registry messageBuffers
  | skipped _ _ _ _ _ _ _ registry messageBuffers
  | reported _ _ _ _ _ _ registry messageBuffers =>
      exact kept (congrArg Registry.slots registry) messageBuffers
  | sent target numBytes i b e owner isOp point slot tcb buffer addressed ioView registry
      messageBuffers =>
      exact updated registry messageBuffers (sent target numBytes i _ point (h i e b slot buffer))
  | received env i b e msg rest isOp found slot buffer queue fits ioView registry
      messageBuffers =>
      exact updated registry messageBuffers (received _ msg rest queue (h i e b slot buffer))

/-! A mailbox. -/

/-- A state in which the mailbox is known and the control plane is in order. -/
structure Served (cfg : Config) (i : Nat) (task : TaskHandle) (probe : Probe) (buffer : Nat)
    (s : State) : Prop where
  table : Slots cfg s.registry
  nonempty : EachBuffer (fun q => ∀ msg ∈ q.queue, msg.size ≠ 0) s
  held : HoldsMessage s
  mailbox : Mailbox s i task probe buffer

/-- The slot of the mailbox. -/
theorem Served.slot (h : Served cfg i task probe buffer s) : ∃ e, s.registry.slots[i]? = some e ∧
    e.tcb = some task ∧ e.probe = some probe ∧ e.controlMsgBuffer = some buffer := by
  have found := h.mailbox.found
  rw [getTcbProbe_eq] at found
  obtain ⟨⟨e, slot, tcb⟩, -⟩ := SlotTable.find_eq_some_iff.mp found
  obtain ⟨-, own, control, -⟩ := tcbProbe_fields slot
  exact ⟨e, slot, tcb, own.symm.trans h.mailbox.probe, control.symm.trans h.mailbox.buffer⟩

/-- No message is empty, in the buffers or in the IO task. -/
theorem nonempty_step {op : Op} (table : Slots cfg s.registry)
    (nonempty : EachBuffer (fun q => ∀ msg ∈ q.queue, msg.size ≠ 0) s) (held : HoldsMessage s) :
    EachBuffer (fun q => ∀ msg ∈ q.queue, msg.size ≠ 0) (step cfg s op) := by
  refine eachBuffer_step table nonempty op (fun _ none => absurd none List.not_mem_nil) ?_ ?_
  · intro target numBytes i q point before msg mem
    rw [MessageBuffer.send_queue] at mem
    cases List.mem_append.mp mem with
    | inl old => exact before msg old
    | inr new =>
        split at new
        · exact List.mem_singleton.mp new ▸ held target numBytes i point
        · exact absurd new List.not_mem_nil
  · intro q msg rest queue before msg' mem
    exact before msg' (queue ▸ List.mem_cons_of_mem msg mem)

theorem served_step {op : Op} (h : Served cfg i task probe buffer s) (legal : op.Legal cfg s) :
    Served cfg i task probe buffer (step cfg s op) where
  table := slots_step h.table op
  nonempty := nonempty_step h.table h.nonempty h.held
  held := holdsMessage_step h.held legal
  mailbox := by
    obtain ⟨e, slot, tcb, isProbe, isBuffer⟩ := h.slot
    have found := h.mailbox.found
    rw [getTcbProbe_eq] at found
    obtain ⟨-, own, control, -⟩ := tcbProbe_fields (h.table.kept op slot tcb)
    refine ⟨?_, own.trans isProbe, control.trans isBuffer⟩
    rw [getTcbProbe_eq]
    exact h.table.found op found

/-- The call of a task with a message that fits. -/
theorem turn_takes (h : Served cfg i task probe buffer s) (env : External)
    (current : s.pxCurrentTcb = some task) {msg : Message} {rest : List Message}
    (queue : (s.messageBuffers buffer).queue = msg :: rest)
    (fits : msg.size ≤ cfg.controlPlaneTaskBufferSize) :
    handedTo (step cfg s (.process env)).handed probe = handedTo s.handed probe ++ [msg] ∧
      ((step cfg s (.process env)).messageBuffers buffer).queue = rest := by
  obtain ⟨e, slot, tcb, own, control⟩ := h.slot
  have found : s.getTcbProbe s.pxCurrentTcb = some i := current ▸ h.mailbox.found
  have taskLocal := (h.table.buffer i e buffer slot control).2
  have received := process_receives cfg env found slot control taskLocal queue fits
  obtain ⟨-, ioView, messageBuffers⟩ := handOver_eq cfg env e.probe msg
    (s.setMessageBuffer buffer { s.messageBuffers buffer with queue := rest })
  have size := h.nonempty i e buffer slot control msg (queue ▸ List.mem_cons_self)
  have handed : (step cfg s (.process env)).handed = s.handed ++ [(e.probe, msg)] := by
    rw [step, received]
    refine (congrArg IoView.handed ioView).trans ?_
    rw [if_pos size]
    rfl
  constructor
  · rw [handed, handedTo_append]
    exact congrArg _ (if_pos own)
  · rw [step, received, messageBuffers]
    simp only [State.setMessageBuffer, Function.update_self]

/-- Everything else only adds messages. -/
theorem other_keeps {op : Op} (h : Served cfg i task probe buffer s)
    (noTurn : takesTurn task s op = true → ∀ msg rest,
      (s.messageBuffers buffer).queue = msg :: rest →
        ¬ msg.size ≤ cfg.controlPlaneTaskBufferSize) :
    handedTo (step cfg s op).handed probe = handedTo s.handed probe ∧
      (s.messageBuffers buffer).queue <+: ((step cfg s op).messageBuffers buffer).queue := by
  have kept : (step cfg s op).handed = s.handed →
      (step cfg s op).messageBuffers buffer = s.messageBuffers buffer →
      handedTo (step cfg s op).handed probe = handedTo s.handed probe ∧
        (s.messageBuffers buffer).queue <+: ((step cfg s op).messageBuffers buffer).queue := by
    intro handed same
    rw [handed, same]
    exact ⟨rfl, List.prefix_refl _⟩
  obtain ⟨e₀, slot₀, tcb₀, own₀, control₀⟩ := h.slot
  cases step_control cfg s op with
  | same same slots =>
      exact kept (congrArg IoView.handed same.ioView) (congrFun same.messageBuffers buffer)
  | registered env new name uxPriority j isOp outcome ioView =>
      have added : Slots cfg (s.addTask cfg new name).registry := h.table.frame rfl rfl rfl rfl
      exact kept (congrArg IoView.handed ioView) (added.oldBuffer outcome slot₀ control₀)
  | read r target isOp point valid outcome =>
      exact kept (congrArg IoView.handed outcome.ioView) (congrFun outcome.messageBuffers buffer)
  | idle _ _ _ ioView _ messageBuffers
  | skipped _ _ _ _ _ _ ioView _ messageBuffers
  | reported _ _ _ _ _ ioView _ messageBuffers =>
      exact kept (congrArg IoView.handed ioView) (congrFun messageBuffers buffer)
  | sent target numBytes j b e owner isOp point slot tcb control addressed ioView _
      messageBuffers =>
      have handed : (step cfg s op).handed = s.handed := congrArg IoView.handed ioView
      by_cases same : buffer = b
      · subst same
        rw [handed, messageBuffers, Function.update_self, MessageBuffer.send_queue]
        exact ⟨rfl, List.prefix_append _ _⟩
      · refine kept handed ?_
        rw [messageBuffers, Function.update_of_ne same]
  | received env j b e msg rest isOp found slot control queue fits ioView _ messageBuffers =>
      have size := h.nonempty j e b slot control msg (queue ▸ List.mem_cons_self)
      have handed : (step cfg s op).handed = s.handed ++ [(e.probe, msg)] := by
        refine (congrArg IoView.handed ioView).trans ?_
        rw [if_pos size]
      have other : j ≠ i := by
        intro same
        subst same
        obtain rfl : e = e₀ := Option.some.inj (slot.symm.trans slot₀)
        obtain rfl : b = buffer := Option.some.inj (control.symm.trans control₀)
        have current : s.pxCurrentTcb = some task := by
          rw [getTcbProbe_eq] at found
          obtain ⟨⟨e', at_j, isCurrent⟩, -⟩ := SlotTable.find_eq_some_iff.mp found
          obtain rfl : e' = e := Option.some.inj (at_j.symm.trans slot)
          exact isCurrent.symm.trans tcb₀
        subst isOp
        exact noTurn (beq_iff_eq.mpr current) msg rest queue fits
      have buffers : buffer ≠ b := fun same =>
        other (h.table.buffers j i e e₀ b slot slot₀ control (same ▸ control₀))
      have probes : e.probe ≠ some probe := fun same =>
        other (h.table.probes j i e e₀ probe slot slot₀ same own₀)
      rw [handed, handedTo_append, if_neg probes, List.append_nil, messageBuffers,
        Function.update_of_ne buffers]
      exact ⟨rfl, List.prefix_refl _⟩

/-- The task reads its message buffer. -/
theorem mailbox_reader : Drain.Reader (step cfg) (fun s op => op.Legal cfg s ∧
      Served cfg i task probe buffer s) (takesTurn task)
    (fun msg => msg.size ≤ cfg.controlPlaneTaskBufferSize)
    (fun s => handedTo s.handed probe) (fun s => (s.messageBuffers buffer).queue) where
  takes s op msg rest allowed isTurn queue fits := by
    cases op with
    | process env => exact turn_takes allowed.2 env (beq_iff_eq.mp isTurn) queue fits
    | enable _ _ | disable | exclude _ | create _ _ _ _ | delete _ | start _ _ _
    | switch _ _ _ _ | hook _ _ | setFilter _ _ | ioRead _ | ioSend | ioReport _ _
    | getBuffer => exact absurd isTurn Bool.false_ne_true
  keeps s op allowed noTurn := other_keeps allowed.2 noTurn

theorem served_of_run {ops : List Op} (h : Reaches cfg (fun _ _ => True) ops s)
    (mailbox : Mailbox s i task probe buffer) : Served cfg i task probe buffer s := by
  have strong := h.invariant (P := fun s => Slots cfg s.registry ∧
      EachBuffer (fun q => ∀ msg ∈ q.queue, msg.size ≠ 0) s ∧ HoldsMessage s)
    (fun s op inv allowed => ⟨slots_step inv.1 op, nonempty_step inv.1 inv.2.1 inv.2.2,
      holdsMessage_step inv.2.2 allowed.1⟩)
    ⟨.init cfg, eachBuffer_init _ cfg, (Delivery.init cfg).held⟩
  exact ⟨strong.1, strong.2.1, strong.2.2, mailbox⟩

variable {ops more : List Op} {front rest : List Message} {msg : Message}

/-- Messages that wait in front and fit are processed once their task has asked for as many
messages. -/
theorem waiting_messages_processed (reached : Reaches cfg (fun _ _ => True) ops s)
    (run : Transition.Run (step cfg) (fun s op => op.Legal cfg s) s more t)
    (mailbox : Mailbox s i task probe buffer) (waits : front <+: (s.messageBuffers buffer).queue)
    (fit : ∀ msg ∈ front, msg.size ≤ cfg.controlPlaneTaskBufferSize)
    (enough : front.length ≤ Drain.turns (step cfg) (takesTurn task) s more) :
    handedTo s.handed probe ++ front <+: handedTo t.handed probe := by
  have served := run.strengthen (fun s op h allowed => served_step h allowed)
    (served_of_run reached mailbox)
  exact mailbox_reader.drains served waits fit enough

/-- After `sendOne`. -/
def sentOne (n : Nat) : State := (sendOne n).foldl (step Config.tests) (State.init Config.tests)

/-- The task of slot 0 asks for two messages. -/
def asksTwice (s : State) : State :=
  ([.process {}, .process {}] : List Op).foldl (step Config.tests) s

theorem waiting_messages_processed_short :
    handedTo (sentOne 8).handed (.heap 0) ++
        [{ bytes := List.replicate 8 7, read := 1, destination := 0xFFFFFFFF }] <+:
      handedTo (asksTwice (sentOne 8)).handed (.heap 0) := by
  have reached : Reaches Config.tests (fun _ _ => True) (sendOne 8) (sentOne 8) :=
    Transition.Run.of_check (by decide +kernel)
  have mailbox : Mailbox (sentOne 8) 0 1 (.heap 0) 0 :=
    ⟨by decide +kernel, by decide +kernel, by decide +kernel⟩
  exact waiting_messages_processed reached (Transition.Run.of_check (by decide +kernel)) mailbox
    (by decide +kernel) (by decide +kernel) (by decide +kernel)

/-- A message that does not fit stays in front of the buffer for good: its task processes the
messages before it and no other one. -/
theorem long_message_blocks (reached : Reaches cfg (fun _ _ => True) ops s)
    (run : Transition.Run (step cfg) (fun s op => op.Legal cfg s) s more t)
    (mailbox : Mailbox s i task probe buffer)
    (waits : front ++ msg :: rest <+: (s.messageBuffers buffer).queue)
    (fit : ∀ msg ∈ front, msg.size ≤ cfg.controlPlaneTaskBufferSize)
    (long : cfg.controlPlaneTaskBufferSize < msg.size) :
    handedTo t.handed probe = handedTo s.handed probe ++
        front.take (Drain.turns (step cfg) (takesTurn task) s more) ∧
      front.drop (Drain.turns (step cfg) (takesTurn task) s more) ++ msg :: rest <+:
        (t.messageBuffers buffer).queue := by
  have served := run.strengthen (fun s op h allowed => served_step h allowed)
    (served_of_run reached mailbox)
  exact mailbox_reader.stuck served waits fit (Nat.not_le.mpr long)

end

/-- A broadcast of 8 bytes, and the next one of 200. -/
def sendTwo : List Op :=
  sendOne 8 ++ [.ioSend, .ioSend, .ioSend, .ioReport (fun _ => {}) (fun _ => {}),
    .ioRead { status := 0, numBytes := 200, data := List.replicate 200 7,
              destination := some 0xFFFFFFFF },
    .ioSend]

/-- After `sendTwo`. -/
def sentTwo : State := sendTwo.foldl (step Config.tests) (State.init Config.tests)

theorem long_message_blocks_200 :
    handedTo (asksTwice sentTwo).handed (.heap 0) = handedTo sentTwo.handed (.heap 0) ++
        [{ bytes := List.replicate 8 7, read := 1, destination := 0xFFFFFFFF }] ∧
      [{ bytes := List.replicate 200 7, read := 2, destination := 0xFFFFFFFF }] <+:
        ((asksTwice sentTwo).messageBuffers 0).queue := by
  have reached : Reaches Config.tests (fun _ _ => True) sendTwo sentTwo :=
    Transition.Run.of_check (by decide +kernel)
  have mailbox : Mailbox sentTwo 0 1 (.heap 0) 0 :=
    ⟨by decide +kernel, by decide +kernel, by decide +kernel⟩
  have run : Transition.Run (step Config.tests) (fun s op => op.Legal Config.tests s) sentTwo
      [.process {}, .process {}] (asksTwice sentTwo) :=
    Transition.Run.of_check (by decide +kernel)
  have turns : Drain.turns (step Config.tests) (takesTurn 1) sentTwo
      [.process {}, .process {}] = 2 := by
    decide +kernel
  have waits : [⟨List.replicate 8 7, 1, 0xFFFFFFFF⟩] ++ ⟨List.replicate 200 7, 2, 0xFFFFFFFF⟩ :: [] <+:
      (sentTwo.messageBuffers 0).queue := by
    decide +kernel
  have blocks := long_message_blocks reached run mailbox waits (by decide) (by decide +kernel)
  rw [turns] at blocks
  exact blocks

end ProbeTrace
