import ProbeTrace.Metatheory.ControlMoves

/-!
The way of a control message from the IO task to a probe. What the message buffer of
a slot accepted is what was handed to the slot's probe, followed by what still waits
in the buffer. Nothing waits for ever as long as every message that is accepted fits
the task local buffer.
-/
namespace ProbeTrace

/-- The messages the buffer of slot `i` accepted, in order. -/
def acceptedBy (sends : List (Nat × Message × Bool)) (i : Nat) : List Message :=
  sends.filterMap fun (j, msg, sent) => if j = i ∧ sent = true then some msg else none

/-- The messages handed to `probe`, in order. -/
def handedTo (handed : List (Option Probe × Message)) (probe : Probe) : List Message :=
  handed.filterMap fun (p, msg) => if p = some probe then some msg else none

theorem acceptedBy_append (sends : List (Nat × Message × Bool)) (j i : Nat) (msg : Message)
    (sent : Bool) : acceptedBy (sends ++ [(j, msg, sent)]) i =
      acceptedBy sends i ++ if j = i ∧ sent = true then [msg] else [] := by
  unfold acceptedBy
  rw [List.filterMap_append]
  by_cases h : j = i ∧ sent = true <;> simp [h]

theorem handedTo_append (handed : List (Option Probe × Message)) (p : Option Probe)
    (msg : Message) (probe : Probe) : handedTo (handed ++ [(p, msg)]) probe =
      handedTo handed probe ++ if p = some probe then [msg] else [] := by
  unfold handedTo
  rw [List.filterMap_append]
  by_cases h : p = some probe <;> simp [h]

/-! A new slot. -/

/-- A slot after a registration is the new one or was there. -/
theorem slot_of_registersIn {cfg : Config} {env : External} {task : TaskHandle}
    {uxPriority : BitVec 32} {i : Nat} {s t : State} (sound : Sound cfg s.registry)
    (outcome : RegistersIn cfg env task uxPriority i s t) {j : Nat} {e : TcbProbe}
    (he : t.registry.slots[j]? = some e) :
    (j = i ∧ e = (s.registry.allocate cfg task).newSlot cfg env task (s.registry.storage cfg)) ∨
      s.registry.slots[j]? = some e :=
  (SlotTable.getElem?_set_cases (slots_of_registersIn sound outcome ▸ he)).imp_right And.right

theorem newSlot_messageBuffer {cfg : Config} {env : External} {task : TaskHandle}
    {uxPriority : BitVec 32} {i b : Nat} {s t : State}
    (outcome : RegistersIn cfg env task uxPriority i s t)
    (buffer : ((s.registry.allocate cfg task).newSlot cfg env task
      (s.registry.storage cfg)).controlMsgBuffer = some b) :
    t.messageBuffers b = { capacity := cfg.controlPlaneBufferSize, queue := [] } := by
  rw [outcome.messageBuffers, newMessageBuffers]
  unfold Registry.newSlot at buffer
  split at buffer
  · rename_i both
    rw [Bool.and_eq_true, Bool.and_eq_true] at both
    have next : (s.registry.allocate cfg task).nextBuffer = s.nextBuffer :=
      Registry.takeStorage_nextBuffer ..
    have same : s.nextBuffer = b := next.symm.trans (Option.some.inj buffer)
    rw [if_pos (by rw [both.1, both.2.1]; rfl), same, Function.update_self]
  · exact absurd buffer.symm (Option.some_ne_none b)

/-- The buffers of the other slots are as they were. -/
theorem Slots.oldBuffer {cfg : Config} {env : External} {task : TaskHandle}
    {uxPriority : BitVec 32} {i j b : Nat} {e : TcbProbe} {s t : State}
    (h : Slots cfg s.registry) (outcome : RegistersIn cfg env task uxPriority i s t)
    (slot : s.registry.slots[j]? = some e) (buffer : e.controlMsgBuffer = some b) :
    t.messageBuffers b = s.messageBuffers b := by
  have less : b < s.nextBuffer := (h.buffer j e b slot buffer).1
  rw [outcome.messageBuffers, newMessageBuffers]
  split
  · exact Function.update_of_ne (Nat.ne_of_lt less) ..
  · rfl

section
variable {cfg : Config} {s : State} {i j b b' : Nat} {e e' : TcbProbe} {msg : Message}

/-- What was accepted for a slot grows as the queue of its buffer does. -/
theorem Slots.accepted_sent {front : List Message} (h : Slots cfg s.registry)
    (slot : s.registry.slots[i]? = some e) (buffer : e.controlMsgBuffer = some b)
    (slot' : s.registry.slots[j]? = some e') (buffer' : e'.controlMsgBuffer = some b')
    (accepted : acceptedBy s.sends j = front ++ (s.messageBuffers b').queue) (n : Nat) :
    acceptedBy (s.sends ++ [(i, msg, ((s.messageBuffers b).send Message.size n msg).1)]) j =
      front ++ (Function.update s.messageBuffers b
        ((s.messageBuffers b).send Message.size n msg).2 b').queue := by
  rw [acceptedBy_append, accepted]
  by_cases here : i = j
  · subst here
    obtain rfl : e = e' := Option.some.inj (slot.symm.trans slot')
    obtain rfl : b = b' := Option.some.inj (buffer.symm.trans buffer')
    rw [Function.update_self, MessageBuffer.send_queue, List.append_assoc]
    simp
  · have other : b' ≠ b := fun same => here (h.buffers i j e e' b slot slot' buffer (same ▸ buffer'))
    rw [Function.update_of_ne other, if_neg fun both => here both.1, List.append_nil]

/-- Nothing is accepted for a slot without a buffer. -/
theorem unbuffered_sent (slot : s.registry.slots[i]? = some e)
    (buffer : e.controlMsgBuffer = some b) (slot' : s.registry.slots[j]? = some e')
    (unbuffered : e'.controlMsgBuffer = none) (accepted : acceptedBy s.sends j = []) (sent : Bool) :
    acceptedBy (s.sends ++ [(i, msg, sent)]) j = [] := by
  have other : i ≠ j := by
    intro same
    subst same
    obtain rfl : e = e' := Option.some.inj (slot.symm.trans slot')
    exact absurd (buffer.symm.trans unbuffered) (Option.some_ne_none b)
  rw [acceptedBy_append, accepted, if_neg fun both => other both.1]
  rfl

end

/-! The message the IO task holds. -/

/-- While the IO task distributes a message, the message is not empty. -/
def HoldsMessage (s : State) : Prop :=
  ∀ (target : BitVec 32) (numBytes i : Nat), s.ioPoint = .send target numBytes i →
    (heldMessage s target numBytes).size ≠ 0

theorem holdsMessage_step {cfg : Config} {s : State} {op : Op} (h : HoldsMessage s)
    (legal : op.Legal cfg s) : HoldsMessage (step cfg s op) := by
  have same : ∀ {t : State}, t.ioView = s.ioView → HoldsMessage t := by
    intro t ioView target numBytes i point
    have ioBuffer : t.ioBuffer = s.ioBuffer := congrArg IoView.ioBuffer ioView
    have size := h target numBytes i ((congrArg IoView.ioPoint ioView).symm.trans point)
    unfold heldMessage Message.size at size ⊢
    rwa [ioBuffer]
  have next : ∀ {t : State} {target : BitVec 32} {numBytes i : Nat},
      s.ioPoint = .send target numBytes i → t.ioPoint = nextPoint cfg target numBytes i →
      t.ioBuffer = s.ioBuffer → HoldsMessage t := by
    intro t target numBytes i point moved ioBuffer target' numBytes' i' point'
    rw [moved, nextPoint] at point'
    split at point'
    · injection point' with ht hn _
      subst ht hn
      have size := h target numBytes i point
      unfold heldMessage Message.size at size ⊢
      rwa [ioBuffer]
    · cases point'
  have done : ∀ {t : State}, (∀ target numBytes i, t.ioPoint ≠ .send target numBytes i) →
      HoldsMessage t := fun away target numBytes i point => absurd point (away target numBytes i)
  cases step_control cfg s op with
  | same unchanged slots => exact same unchanged.ioView
  | registered env new name uxPriority i isOp outcome ioView => exact same ioView
  | idle r isOp point ioView _ _ | reported _ _ buffer _ point ioView _ _ =>
      refine done fun target numBytes i point' => ?_
      cases (congrArg IoView.ioPoint ioView).symm.trans point'
  | read r target isOp point valid outcome =>
      subst isOp
      intro target' numBytes' i point'
      have moved := (congrArg IoView.ioPoint outcome.ioView).symm.trans point'
      have ioBuffer : (step cfg s (.ioRead r)).ioBuffer = r.data :=
        congrArg IoView.ioBuffer outcome.ioView
      have positive := valid.numBytes
      dsimp only at moved
      split at moved
      · injection moved with _ hn _
        have fits := legal.1
        simp only [heldMessage, Message.size, ioBuffer, List.length_take]
        omega
      · cases moved
  | skipped target numBytes i isOp point _ ioView _ _ =>
      exact next point (congrArg IoView.ioPoint ioView) (congrArg IoView.ioBuffer ioView)
  | sent target numBytes i b e task isOp point _ _ _ _ ioView _ _ =>
      exact next point (congrArg IoView.ioPoint ioView) (congrArg IoView.ioBuffer ioView)
  | received env i b e msg rest isOp _ _ _ _ _ ioView _ _ =>
      refine fun target numBytes j point => ?_
      have ioBuffer : (step cfg s op).ioBuffer = s.ioBuffer := congrArg IoView.ioBuffer ioView
      have size := h target numBytes j ((congrArg IoView.ioPoint ioView).symm.trans point)
      unfold heldMessage Message.size at size ⊢
      rwa [ioBuffer]

/-! The waiting messages. -/

/-- What holds of every message that waits for the task of a slot. -/
def Waiting (P : TcbProbe → Message → Prop) (s : State) : Prop :=
  ∀ (i : Nat) (e : TcbProbe) (b : Nat), s.registry.slots[i]? = some e →
    e.controlMsgBuffer = some b → ∀ msg ∈ (s.messageBuffers b).queue, P e msg

/-- It is enough that it holds of a message when the buffer accepts it. -/
theorem waiting_step {P : TcbProbe → Message → Prop} {cfg : Config} {s : State} {op : Op}
    (sound : Sound cfg s.registry) (h : Waiting P s)
    (accepts : ∀ (target : BitVec 32) (numBytes i b : Nat) (e : TcbProbe) (task : TaskHandle),
      op = .ioSend → s.ioPoint = .send target numBytes i → s.registry.slots[i]? = some e →
      e.tcb = some task → e.controlMsgBuffer = some b → Addressed cfg s.registry target task →
      ((s.messageBuffers b).send Message.size cfg.messageLengthBytes
        (heldMessage s target numBytes)).1 = true → P e (heldMessage s target numBytes)) :
    Waiting P (step cfg s op) := by
  have kept : ∀ {t : State}, t.registry.slots = s.registry.slots →
      t.messageBuffers = s.messageBuffers → Waiting P t := by
    intro t slots messageBuffers
    unfold Waiting
    rw [slots, messageBuffers]
    exact h
  -- one buffer changes, and its messages still satisfy `P` for every slot that has it
  have updated : ∀ {t : State} {i b : Nat} {e : TcbProbe} {q : MessageBuffer Message},
      s.registry.slots[i]? = some e → e.controlMsgBuffer = some b → t.registry = s.registry →
      t.messageBuffers = Function.update s.messageBuffers b q → (∀ msg ∈ q.queue, P e msg) →
      Waiting P t := by
    intro t i b e q slot buffer registry messageBuffers all j e' b' he hb
    rw [registry] at he
    rw [messageBuffers]
    by_cases hb' : b' = b
    · subst hb'
      obtain rfl := sound.table.buffers i j e e' b' slot he buffer hb
      obtain rfl : e = e' := Option.some.inj (slot.symm.trans he)
      rwa [Function.update_self]
    · rw [Function.update_of_ne hb']
      exact h j e' b' he hb
  cases step_control cfg s op with
  | same same slots => exact kept slots same.messageBuffers
  | registered env new name uxPriority i isOp outcome ioView =>
      have table := (sound.addTask new name).table
      intro j e b he hb
      rcases slot_of_registersIn (s := s.addTask cfg new name) (sound.addTask new name) outcome he
        with ⟨-, rfl⟩ | old
      · rw [newSlot_messageBuffer outcome hb]
        intro msg mem
        cases mem
      · rw [table.toSlots.oldBuffer (s := s.addTask cfg new name) outcome old hb]
        exact h j e b old hb
  | read _ _ _ _ _ outcome =>
      exact kept (congrArg Registry.slots outcome.registry) outcome.messageBuffers
  | idle _ _ _ _ registry messageBuffers
  | skipped _ _ _ _ _ _ _ registry messageBuffers
  | reported _ _ _ _ _ _ registry messageBuffers =>
      exact kept (congrArg Registry.slots registry) messageBuffers
  | sent target numBytes i b e task isOp point slot tcb buffer addressed ioView registry
      messageBuffers =>
      refine updated slot buffer registry messageBuffers ?_
      rw [MessageBuffer.send_queue]
      intro msg mem
      rcases List.mem_append.mp mem with mem | mem
      · exact h i e b slot buffer msg mem
      · split at mem
        · rename_i sent
          rw [List.mem_singleton.mp mem]
          exact accepts target numBytes i b e task isOp point slot tcb buffer addressed sent
        · cases mem
  | received env i b e msg rest isOp found slot buffer queue fits ioView registry
      messageBuffers =>
      refine updated slot buffer registry messageBuffers fun m mem => ?_
      exact h i e b slot buffer m (by rw [queue]; exact List.mem_cons_of_mem _ mem)

/-! The invariant. -/

structure Delivery (cfg : Config) (s : State) : Prop where
  fifo : ∀ (i : Nat) (e : TcbProbe) (b : Nat) (probe : Probe), s.registry.slots[i]? = some e →
    e.controlMsgBuffer = some b → e.probe = some probe →
    acceptedBy s.sends i = handedTo s.handed probe ++ (s.messageBuffers b).queue
  unbuffered : ∀ (i : Nat) (e : TcbProbe), s.registry.slots[i]? = some e →
    e.controlMsgBuffer = none → acceptedBy s.sends i = []
  owned : ∀ x ∈ s.handed, ∃ (i : Nat) (e : TcbProbe) (b : Nat),
    s.registry.slots[i]? = some e ∧ e.controlMsgBuffer = some b ∧ e.probe = x.1
  nonempty : Waiting (fun _ msg => msg.size ≠ 0) s
  held : HoldsMessage s

theorem Delivery.init (cfg : Config) : Delivery cfg (State.init cfg) where
  fifo i e b probe he hb _ := absurd ((Table.init cfg).buffer i e b he hb).1 (Nat.not_lt_zero _)
  unbuffered _ _ _ _ := rfl
  owned x mem := by cases mem
  nonempty i e b he hb := absurd ((Table.init cfg).buffer i e b he hb).1 (Nat.not_lt_zero _)
  held _ _ _ point := by cases point

/-- Nothing was handed to a probe that is not allocated yet. -/
theorem Delivery.handedTo_fresh {cfg : Config} {s : State} (h : Delivery cfg s)
    (table : Table cfg s.registry) (probe : Probe) (fresh : ¬ Allocated cfg s.registry probe) :
    handedTo s.handed probe = [] := by
  unfold handedTo
  rw [List.filterMap_eq_nil_iff]
  rintro ⟨p, msg⟩ mem
  obtain ⟨i, e, b, slot, -, own⟩ := h.owned _ mem
  refine if_neg fun same => fresh ?_
  exact table.probe_allocated slot (own.trans same)

theorem delivery_step {cfg : Config} {s : State} {op : Op} (sound : Sound cfg s.registry)
    (h : Delivery cfg s) (legal : op.Legal cfg s) : Delivery cfg (step cfg s op) := by
  have table := sound.table
  have nonempty : Waiting (fun _ msg => msg.size ≠ 0) (step cfg s op) :=
    waiting_step sound h.nonempty fun target numBytes i _ _ _ _ point _ _ _ _ _ =>
      h.held target numBytes i point
  have held := holdsMessage_step h.held legal
  have still : ∀ x ∈ s.handed, ∃ (i : Nat) (e : TcbProbe) (b : Nat),
      (step cfg s op).registry.slots[i]? = some e ∧ e.controlMsgBuffer = some b ∧
        e.probe = x.1 := by
    intro x mem
    obtain ⟨i, e, b, slot, buffer, probe⟩ := h.owned x mem
    obtain ⟨task, tcb⟩ := table.used slot (f := TcbProbe.controlMsgBuffer) rfl buffer
    exact ⟨i, e, b, slot_step sound slot tcb, buffer, probe⟩
  have kept : (step cfg s op).registry.slots = s.registry.slots →
      (step cfg s op).messageBuffers = s.messageBuffers → (step cfg s op).sends = s.sends →
      (step cfg s op).handed = s.handed → Delivery cfg (step cfg s op) := by
    intro slots messageBuffers sends handed
    refine ⟨?_, ?_, by rwa [handed], nonempty, held⟩
    · rw [slots, messageBuffers, sends, handed]
      exact h.fifo
    · rw [slots, sends]
      exact h.unbuffered
  cases step_control cfg s op with
  | same same slots =>
      exact kept slots same.messageBuffers (congrArg IoView.sends same.ioView)
        (congrArg IoView.handed same.ioView)
  | read _ _ _ _ _ outcome =>
      exact kept (congrArg Registry.slots outcome.registry) outcome.messageBuffers
        (congrArg IoView.sends outcome.ioView) (congrArg IoView.handed outcome.ioView)
  | idle _ _ _ ioView registry messageBuffers
  | skipped _ _ _ _ _ _ ioView registry messageBuffers
  | reported _ _ _ _ _ ioView registry messageBuffers =>
      exact kept (congrArg Registry.slots registry) messageBuffers
        (congrArg IoView.sends ioView) (congrArg IoView.handed ioView)
  | registered env new name uxPriority i isOp outcome ioView =>
      have sends : (step cfg s op).sends = s.sends := congrArg IoView.sends ioView
      have handed : (step cfg s op).handed = s.handed := congrArg IoView.handed ioView
      have added := sound.addTask new name
      -- the slot was free, so nothing was accepted for it; its probe is new
      have none : acceptedBy s.sends i = [] := by
        have first := outcome.first
        rw [getTcbProbe_eq] at first
        obtain ⟨⟨e, he, free⟩, -⟩ := SlotTable.find_eq_some_iff.mp first
        exact h.unbuffered i e he (by rw [table.free he free])
      refine ⟨?_, ?_, by rwa [handed], nonempty, held⟩
      · intro j e b probe he hb hp
        rw [sends, handed]
        rcases slot_of_registersIn (s := s.addTask cfg new name) added outcome he
          with ⟨rfl, rfl⟩ | old
        · rw [(newSlot_fields ..).2, Option.some.injEq] at hp
          subst hp
          rw [none, newSlot_messageBuffer outcome hb, h.handedTo_fresh table _
            (show ¬ Allocated cfg s.registry ((s.addTask cfg new name).registry.storage cfg) from
              storage_fresh cfg s.registry)]
          rfl
        · rw [added.table.toSlots.oldBuffer (s := s.addTask cfg new name) outcome old hb]
          exact h.fifo j e b probe old hb hp
      · intro j e he hb
        rw [sends]
        rcases slot_of_registersIn (s := s.addTask cfg new name) added outcome he
          with ⟨rfl, -⟩ | old
        · exact none
        · exact h.unbuffered j e old hb
  | sent target numBytes i b e task isOp point slot tcb buffer addressed ioView registry
      messageBuffers =>
      have sends := congrArg IoView.sends ioView
      change (step cfg s op).sends = _ at sends
      have handed : (step cfg s op).handed = s.handed := congrArg IoView.handed ioView
      refine ⟨?_, ?_, by rwa [handed], nonempty, held⟩
      · intro j e' b' probe he hb hp
        rw [registry] at he
        rw [sends, handed, messageBuffers]
        exact table.toSlots.accepted_sent slot buffer he hb (h.fifo j e' b' probe he hb hp) _
      · intro j e' he hb
        rw [registry] at he
        rw [sends]
        exact unbuffered_sent slot buffer he hb (h.unbuffered j e' he hb) _
  | received env i b e msg rest isOp found slot buffer queue fits ioView registry
      messageBuffers =>
      have sends : (step cfg s op).sends = s.sends := congrArg IoView.sends ioView
      have size := h.nonempty i e b slot buffer msg (by rw [queue]; exact List.mem_cons_self)
      have handed : (step cfg s op).handed = s.handed ++ [(e.probe, msg)] := by
        have grown := congrArg IoView.handed ioView
        change (step cfg s op).handed = _ at grown
        rwa [if_pos size] at grown
      refine ⟨?_, ?_, ?_, nonempty, held⟩
      · intro j e' b' probe' he hb hp'
        rw [registry] at he
        rw [sends, handed, handedTo_append, messageBuffers, h.fifo j e' b' probe' he hb hp']
        by_cases hj : i = j
        · subst hj
          obtain rfl : e = e' := Option.some.inj (slot.symm.trans he)
          obtain rfl : b = b' := Option.some.inj (buffer.symm.trans hb)
          rw [Function.update_self, if_pos hp', queue]
          simp
        · have hb' : b' ≠ b := by
            rintro rfl
            exact hj (table.buffers i j e e' b' slot he buffer hb)
          have other : e.probe ≠ some probe' := fun same =>
            hj (table.probes i j e e' probe' slot he same hp')
          rw [Function.update_of_ne hb', if_neg other, List.append_nil]
      · intro j e' he hb
        rw [registry] at he
        rw [sends]
        exact h.unbuffered j e' he hb
      · rw [handed]
        intro x mem
        rcases List.mem_append.mp mem with mem | mem
        · exact still x mem
        · rw [List.mem_singleton.mp mem]
          exact ⟨i, e, b, registry ▸ slot, buffer, rfl⟩

/-! Acceptance. -/

/-- Slot `i` is addressed and its buffer has room for the message the IO task holds. -/
def SlotTakes (cfg : Config) (s : State) (target : BitVec 32) (numBytes i : Nat) : Prop :=
  match (s.tcbProbe i).tcb, (s.tcbProbe i).controlMsgBuffer with
  | some task, some buffer =>
      (target = cfg.probeIdBroadcast ∨
        target = (s.prvTraceGetTaskProbeId (some task)).setWidth 32) ∧
      (s.messageBuffers buffer).used Message.size cfg.messageLengthBytes +
        ((heldMessage s target numBytes).size + cfg.messageLengthBytes) ≤
          (s.messageBuffers buffer).capacity
  | _, _ => False

instance (cfg : Config) (s : State) (target : BitVec 32) (numBytes i : Nat) :
    Decidable (SlotTakes cfg s target numBytes i) := by
  unfold SlotTakes
  split <;> infer_instance

/-- A message that a slot takes fits the task local buffer. -/
def Receivable (cfg : Config) (s : State) : Op → Prop
  | .ioSend => match s.ioPoint with
      | .send target numBytes i => SlotTakes cfg s target numBytes i →
          (heldMessage s target numBytes).size ≤ cfg.controlPlaneTaskBufferSize
      | .read | .report => True
  | _ => True

instance (cfg : Config) (s : State) (op : Op) : Decidable (Receivable cfg s op) := by
  unfold Receivable
  split
  · split <;> infer_instance
  · infer_instance

theorem slotTakes_of_sent {cfg : Config} {s : State} {target : BitVec 32} {numBytes i b : Nat}
    {e : TcbProbe} {task : TaskHandle} (slot : s.registry.slots[i]? = some e)
    (tcb : e.tcb = some task) (buffer : e.controlMsgBuffer = some b)
    (addressed : Addressed cfg s.registry target task)
    (sent : ((s.messageBuffers b).send Message.size cfg.messageLengthBytes
      (heldMessage s target numBytes)).1 = true) : SlotTakes cfg s target numBytes i := by
  obtain ⟨tcb', -, buffer', -⟩ := tcbProbe_fields slot
  unfold SlotTakes
  rw [tcb', tcb, buffer', buffer]
  refine ⟨addressed, ?_⟩
  unfold MessageBuffer.send at sent
  split at sent
  · assumption
  · cases sent

theorem waiting_fits_step {cfg : Config} {s : State} {op : Op} (sound : Sound cfg s.registry)
    (h : Waiting (fun _ msg => msg.size ≤ cfg.controlPlaneTaskBufferSize) s)
    (receivable : Receivable cfg s op) :
    Waiting (fun _ msg => msg.size ≤ cfg.controlPlaneTaskBufferSize) (step cfg s op) := by
  refine waiting_step sound h ?_
  rintro target numBytes i b e task rfl point slot tcb buffer addressed sent
  rw [Receivable, point] at receivable
  exact receivable (slotTakes_of_sent slot tcb buffer addressed sent)

/-- The messages accepted for a registered task are processed in order, each once. -/
structure MessagesProcessed (cfg : Config) (s : State) : Prop where
  in_order : ∀ (i : Nat) (e : TcbProbe) (b : Nat) (probe : Probe), s.tcbProbes[i]? = some e →
    e.controlMsgBuffer = some b → e.probe = some probe →
    acceptedBy s.sends i = handedTo s.handed probe ++ (s.messageBuffers b).queue
  next : ∀ (env : External) (task : TaskHandle) (probe : Probe) (i : Nat) (e : TcbProbe)
    (b : Nat) (msg : Message) (rest : List Message), s.pxCurrentTcb = some task →
    (s.tcbs task).registered = some probe → s.getTcbProbe (some task) = some i →
    s.tcbProbes[i]? = some e → e.controlMsgBuffer = some b →
    (s.messageBuffers b).queue = msg :: rest →
    ((vTraceProcessControlPlaneMessages cfg env s).messageBuffers b).queue = rest ∧
      (vTraceProcessControlPlaneMessages cfg env s).calls =
        s.calls ++ [.processControlMessage (some probe) msg]

theorem MessagesProcessed.of_delivery {cfg : Config} {s : State} (sound : Sound cfg s.registry)
    (h : Delivery cfg s)
    (fit : Waiting (fun _ msg => msg.size ≤ cfg.controlPlaneTaskBufferSize) s) :
    MessagesProcessed cfg s where
  in_order i e b probe he hb hp := by
    have slot : s.registry.slots[i]? = some e.masked := by
      rw [slots_getElem?, he]
      rfl
    exact h.fifo i e.masked b probe slot hb hp
  next env task probe i e b msg rest current registered found he hb queue := by
    have slot : s.registry.slots[i]? = some e.masked := by
      rw [slots_getElem?, he]
      rfl
    have mem : msg ∈ (s.messageBuffers b).queue := by
      rw [queue]
      exact List.mem_cons_self
    have taskLocal := (sound.table.buffer i e.masked b slot hb).2
    have received := process_receives cfg env (current ▸ found) slot hb taskLocal queue
      (fit i e.masked b slot hb msg mem)
    obtain ⟨⟨e', he', tcb⟩, -⟩ := SlotTable.find_eq_some_iff.mp (getTcbProbe_eq .. ▸ found)
    obtain rfl : e.masked = e' := Option.some.inj (slot.symm.trans he')
    have own : e.masked.probe = some probe :=
      sound.owners.slot i e.masked task probe slot tcb registered
    obtain ⟨calls, -, messageBuffers⟩ := handOver_eq cfg env e.masked.probe msg
      (s.setMessageBuffer b { s.messageBuffers b with queue := rest })
    rw [received, calls, messageBuffers, own]
    have size := h.nonempty i e.masked b slot hb msg mem
    refine ⟨?_, ?_⟩
    · simp [State.setMessageBuffer]
    · rw [if_pos size]
      rfl

/-- No creation finds a slot of an earlier task at its address, and every message that
is accepted fits the task local buffer. -/
def Deliverable (cfg : Config) (s : State) (op : Op) : Prop :=
  NoStaleSlot cfg s op ∧ Receivable cfg s op

instance (cfg : Config) (s : State) (op : Op) : Decidable (Deliverable cfg s op) :=
  inferInstanceAs (Decidable (_ ∧ _))

/-- Every accepted message is processed in its turn. -/
theorem accepted_messages_processed {cfg : Config} {ops : List Op} {s : State}
    (h : Reaches cfg (Deliverable cfg) ops s) : MessagesProcessed cfg s := by
  have strong : Sound cfg s.registry ∧ Delivery cfg s ∧
      Waiting (fun _ msg => msg.size ≤ cfg.controlPlaneTaskBufferSize) s := by
    refine h.invariant (P := fun s => Sound cfg s.registry ∧ Delivery cfg s ∧
      Waiting (fun _ msg => msg.size ≤ cfg.controlPlaneTaskBufferSize) s) ?_
      ⟨.init cfg, .init cfg, fun i e b he hb =>
        absurd ((Table.init cfg).buffer i e b he hb).1 (Nat.not_lt_zero _)⟩
    rintro s op ⟨sound, delivery, fit⟩ ⟨legal, fresh, receivable⟩
    exact ⟨sound_step sound fresh, delivery_step sound delivery legal,
      waiting_fits_step sound fit receivable⟩
  exact .of_delivery strong.1 strong.2.1 strong.2.2

/-- Enable tracing, create a task, and send it a broadcast of `n` bytes. -/
def sendOne (n : Nat) : List Op :=
  [.enable {} (some { handle := 0, taskNumber := 0, becomesCurrent := false }),
    .create {} { handle := 1, taskNumber := 0, becomesCurrent := true } [65] 1,
    .ioRead { status := 0, numBytes := n, data := List.replicate n 7,
              destination := some 0xFFFFFFFF },
    .ioSend]

theorem accepted_messages_processed_short :
    MessagesProcessed Config.tests
      ((sendOne 128).foldl (step Config.tests) (State.init Config.tests)) :=
  accepted_messages_processed (Transition.Run.of_check (by decide +kernel))

/-- A message of 200 bytes is accepted and never received. -/
theorem long_message_stuck :
    ¬ ∀ (cfg : Config) (ops : List Op) (s : State),
      Reaches cfg (NoStaleSlot cfg) ops s → MessagesProcessed cfg s := by
  intro always
  have processed := always Config.tests (sendOne 200)
    ((sendOne 200).foldl (step Config.tests) (State.init Config.tests))
    (Transition.Run.of_check (by decide +kernel))
  have next := processed.next {} 1 (.heap 0) 0
    (((sendOne 200).foldl (step Config.tests) (State.init Config.tests)).tcbProbe 0) 0
    { bytes := List.replicate 200 7, read := 1, destination := 0xFFFFFFFF } []
    (by decide +kernel) (by decide +kernel) (by decide +kernel) (by decide +kernel)
    (by decide +kernel) (by decide +kernel)
  have kept : ((vTraceProcessControlPlaneMessages Config.tests {} ((sendOne 200).foldl
      (step Config.tests) (State.init Config.tests))).messageBuffers 0).queue ≠ [] := by
    decide +kernel
  exact kept next.1

end ProbeTrace
