import ProbeTrace.Foundation.Ledger
import ProbeTrace.Metatheory.ControlProgress
import ProbeTrace.Metatheory.ReportPass
import ProbeTrace.Model.Interleaved

/-!
The way of a control message when the calls of vTraceProcessControlPlaneMessages are interrupted.
Between the receive and the probe a message is held by its task, and lost when that task is
deleted. What the message buffer of a slot accepted is what left it, handed to the slot's probe or
lost, then what its task holds, then what waits.
-/
namespace ProbeTrace
open Ledger

/-- The message a caller holds for `probe`. -/
def ProcessPoint.heldFor (probe : Probe) : ProcessPoint → List Message
  | .received own (some msg) => if own = some probe then [msg] else []
  | .outside | .lookedUp _ | .received _ none => []

/-- A caller's slot has this probe and this message buffer. -/
def OwnSlot (s : State) (caller : Option TaskHandle) (probe : Option Probe) (buffer : Nat) : Prop :=
  ∃ i e, SlotTable.find TcbProbe.tcb s.registry.slots caller = some i ∧
    s.registry.slots[i]? = some e ∧ e.probe = probe ∧ e.controlMsgBuffer = some buffer

/-- What a caller's local variables hold is of the caller's slot. -/
def PointSound (s : State) (caller : Option TaskHandle) : ProcessPoint → Prop
  | .outside | .received _ none => True
  | .lookedUp tcbProbe => ∀ buffer, tcbProbe.controlMsgBuffer = some buffer →
      OwnSlot s caller tcbProbe.probe buffer
  | .received probe (some msg) => msg.size ≠ 0 ∧ ∃ buffer, OwnSlot s caller probe buffer

/-- The messages of a buffer are neither doubled nor out of order on their way to the slot's
probe, and only messages in the hands of a task that is deleted are lost. A message that is held
is held by the task that has the slot. -/
structure MessagesInOrder (p : Interleaved) : Prop where
  fifo : ∀ (i : Nat) (e : TcbProbe) (task : TaskHandle) (probe : Probe) (buffer : Nat),
    p.state.registry.slots[i]? = some e → e.tcb = some task → e.probe = some probe →
    e.controlMsgBuffer = some buffer → ∃ left,
      Divided left (handedTo p.state.handed probe) (handedTo p.lost probe) ∧
      acceptedBy p.state.sends i = left ++ (p.points (some task)).heldFor probe ++
        (p.state.messageBuffers buffer).queue
  noneLost : p.lost = [] →
    ∀ (i : Nat) (e : TcbProbe) (task : TaskHandle) (probe : Probe) (buffer : Nat),
    p.state.registry.slots[i]? = some e → e.tcb = some task → e.probe = some probe →
    e.controlMsgBuffer = some buffer →
    acceptedBy p.state.sends i = handedTo p.state.handed probe ++
      (p.points (some task)).heldFor probe ++ (p.state.messageBuffers buffer).queue
  own : ∀ (caller : Option TaskHandle) (probe : Option Probe) (msg : Message),
    p.points caller = .received probe (some msg) →
    ∃ buffer, OwnSlot p.state caller probe buffer

/-- The invariant of the messages, for any points of the callers and any lost messages. -/
structure Moving (cfg : Config) (s : State) (points : Option TaskHandle → ProcessPoint)
    (lost : List (Option Probe × Message)) : Prop where
  table : Slots cfg s.registry
  nonempty : EachBuffer (fun q => ∀ msg ∈ q.queue, msg.size ≠ 0) s
  sound : ∀ caller, PointSound s caller (points caller)
  fifo : ∀ (i : Nat) (e : TcbProbe) (task : TaskHandle) (probe : Probe) (buffer : Nat),
    s.registry.slots[i]? = some e → e.tcb = some task → e.probe = some probe →
    e.controlMsgBuffer = some buffer → ∃ left,
      Divided left (handedTo s.handed probe) (handedTo lost probe) ∧
      acceptedBy s.sends i = left ++ (points (some task)).heldFor probe ++
        (s.messageBuffers buffer).queue
  unbuffered : ∀ (i : Nat) (e : TcbProbe), s.registry.slots[i]? = some e →
    e.controlMsgBuffer = none → acceptedBy s.sends i = []
  owned : ∀ x ∈ s.handed ++ lost, ∃ (i : Nat) (e : TcbProbe) (buffer : Nat),
    s.registry.slots[i]? = some e ∧ e.controlMsgBuffer = some buffer ∧ e.probe = x.1

section
variable {cfg : Config} {s t : State} {points : Option TaskHandle → ProcessPoint}
  {lost lost' : List (Option Probe × Message)} {caller : Option TaskHandle} {point : ProcessPoint} {probe : Option Probe} {buffer : Nat}
  {msg : Message}

theorem heldFor_received {p : Probe} (probe : Option Probe) (msg : Message) :
    ProcessPoint.heldFor p (.received probe (some msg)) = if probe = some p then [msg] else [] :=
  rfl

theorem heldFor_outside (p : Probe) : ProcessPoint.outside.heldFor p = [] := rfl

/-- A caller with a control buffer is a task. -/
theorem OwnSlot.task (h : OwnSlot s caller probe buffer) (table : Slots cfg s.registry) :
    ∃ (i : Nat) (e : TcbProbe) (task : TaskHandle), s.registry.slots[i]? = some e ∧
      caller = some task ∧ e.tcb = some task ∧ e.probe = probe ∧
      e.controlMsgBuffer = some buffer := by
  obtain ⟨i, e, found, slot, own, control⟩ := h
  obtain ⟨⟨e', slot', isCaller⟩, -⟩ := SlotTable.find_eq_some_iff.mp found
  obtain rfl : e' = e := Option.some.inj (slot'.symm.trans slot)
  obtain ⟨task, tcb⟩ := table.used slot (f := TcbProbe.controlMsgBuffer) rfl control
  exact ⟨i, e', task, slot, isCaller.symm.trans tcb, tcb, own, control⟩

theorem OwnSlot.same (h : OwnSlot s caller probe buffer)
    (slots : t.registry.slots = s.registry.slots) : OwnSlot t caller probe buffer := by
  rw [OwnSlot, slots]
  exact h

theorem OwnSlot.step (h : OwnSlot s caller probe buffer) (table : Slots cfg s.registry) (op : Op) :
    OwnSlot (step cfg s op) caller probe buffer := by
  obtain ⟨i, e, task, -, isTask, -⟩ := h.task table
  subst isTask
  obtain ⟨i, e, found, slot, own, control⟩ := h
  obtain ⟨⟨e', slot', isCaller⟩, -⟩ := SlotTable.find_eq_some_iff.mp found
  obtain rfl : e' = e := Option.some.inj (slot'.symm.trans slot)
  exact ⟨i, e', table.found op found, table.kept op slot isCaller, own, control⟩

/-- What keeps the callers' slots keeps their points sound. -/
theorem PointSound.mono (h : PointSound s caller point)
    (keep : ∀ probe buffer, OwnSlot s caller probe buffer → OwnSlot t caller probe buffer) :
    PointSound t caller point := by
  cases point with
  | outside => trivial
  | lookedUp tcbProbe => exact fun buffer control => keep _ _ (h buffer control)
  | received probe msg =>
      cases msg with
      | none => trivial
      | some msg =>
          obtain ⟨size, buffer, own⟩ := h
          exact ⟨size, buffer, keep _ _ own⟩

/-- The lookup finds the caller's slot. -/
theorem ownSlot_current (control : (currentTcbProbe s).controlMsgBuffer = some buffer) :
    OwnSlot s s.pxCurrentTcb (currentTcbProbe s).probe buffer := by
  cases found : s.getTcbProbe s.pxCurrentTcb with
  | none =>
      have absent : currentTcbProbe s = {} := by
        unfold currentTcbProbe State.prvTraceGetCurrentTaskHandle
        rw [found]
      rw [absent] at control
      exact absurd control.symm (Option.some_ne_none buffer)
  | some i =>
      rw [currentTcbProbe_eq found] at control ⊢
      rw [getTcbProbe_eq] at found
      obtain ⟨⟨e, slot, -⟩, -⟩ := SlotTable.find_eq_some_iff.mp found
      obtain ⟨-, own, isControl, -⟩ := tcbProbe_fields slot
      exact ⟨i, e, found, slot, own.symm, isControl.symm.trans control⟩

theorem setMessageBuffer_self (q : MessageBuffer Message) :
    (s.setMessageBuffer buffer q).messageBuffers buffer = q :=
  Function.update_self ..

theorem setMessageBuffer_ne {b : Nat} (other : b ≠ buffer) (q : MessageBuffer Message) :
    (s.setMessageBuffer buffer q).messageBuffers b = s.messageBuffers b :=
  Function.update_of_ne other ..

/-- A receive takes nothing, or the oldest message. -/
theorem receiveMessage_cases (cfg : Config) (tcbProbe : TcbProbe) (s : State) :
    receiveMessage cfg tcbProbe s = (none, s) ∨ ∃ buffer msg rest,
      tcbProbe.controlMsgBuffer = some buffer ∧
      (s.messageBuffers buffer).queue = msg :: rest ∧
      receiveMessage cfg tcbProbe s = (some msg,
        s.setMessageBuffer buffer { s.messageBuffers buffer with queue := rest }) := by
  unfold receiveMessage
  split
  · rename_i buffer l control taskLocal
    have nothing : ∀ q, q = s.messageBuffers buffer → s.setMessageBuffer buffer q = s := by
      intro q same
      rw [same, State.setMessageBuffer, Function.update_eq_self]
    cases queue : (s.messageBuffers buffer).queue with
    | nil =>
        have empty : (s.messageBuffers buffer).receive Message.size
            cfg.controlPlaneTaskBufferSize = (none, s.messageBuffers buffer) := by
          rw [MessageBuffer.receive, queue]
        rw [xMessageBufferReceive, empty]
        exact .inl (congrArg _ (nothing _ rfl))
    | cons msg rest =>
        by_cases fits : msg.size ≤ cfg.controlPlaneTaskBufferSize
        · rw [xMessageBufferReceive, MessageBuffer.receive_head queue fits]
          exact .inr ⟨buffer, msg, rest, control, queue, rfl⟩
        · rw [xMessageBufferReceive,
            MessageBuffer.receive_blocked queue (Nat.lt_of_not_le fits)]
          exact .inl (congrArg _ (nothing _ rfl))
  · exact .inl rfl

namespace Moving

theorem init (cfg : Config) : Moving cfg (State.init cfg) (fun _ => .outside) [] where
  table := .init cfg
  nonempty := eachBuffer_init _ cfg
  sound _ := trivial
  fifo i e _ _ b slot _ _ control :=
    absurd ((Slots.init cfg).buffer i e b slot control).1 (Nat.not_lt_zero _)
  unbuffered _ _ _ _ := rfl
  owned _ mem := absurd mem List.not_mem_nil

/-- Nothing that the messages pass changes. -/
theorem frame (h : Moving cfg s points lost) (table : Slots cfg t.registry)
    (slots : t.registry.slots = s.registry.slots)
    (messageBuffers : t.messageBuffers = s.messageBuffers) (sends : t.sends = s.sends)
    (handed : t.handed = s.handed) : Moving cfg t points lost where
  table := table
  nonempty := by
    rw [EachBuffer, slots, messageBuffers]
    exact h.nonempty
  sound caller := (h.sound caller).mono fun _ _ own => own.same slots
  fifo := by
    rw [slots, messageBuffers, sends, handed]
    exact h.fifo
  unbuffered := by
    rw [slots, sends]
    exact h.unbuffered
  owned := by
    rw [slots, handed]
    exact h.owned

/-- A caller that holds nothing goes on to a point at which it holds nothing. -/
theorem idle (h : Moving cfg s points lost) (sound : PointSound s caller point)
    (before : ∀ probe, (points caller).heldFor probe = [])
    (after : ∀ probe, point.heldFor probe = []) :
    Moving cfg s (Function.update points caller point) lost where
  table := h.table
  nonempty := h.nonempty
  sound c := by
    by_cases same : c = caller
    · subst same
      rw [Function.update_self]
      exact sound
    · rw [Function.update_of_ne same]
      exact h.sound c
  fifo i e task probe buffer slot tcb own control := by
    obtain ⟨left, divided, accepted⟩ := h.fifo i e task probe buffer slot tcb own control
    refine ⟨left, divided, ?_⟩
    rw [accepted]
    by_cases same : some task = caller
    · rw [same, Function.update_self, before, after]
    · rw [Function.update_of_ne same]
  unbuffered := h.unbuffered
  owned := h.owned

/-- A caller receives the oldest message of its buffer. -/
theorem receive (h : Moving cfg s points lost) (own : OwnSlot s caller probe buffer)
    (before : ∀ probe, (points caller).heldFor probe = []) {rest : List Message}
    (queue : (s.messageBuffers buffer).queue = msg :: rest) :
    Moving cfg (s.setMessageBuffer buffer { s.messageBuffers buffer with queue := rest })
      (Function.update points caller (.received probe (some msg))) lost := by
  obtain ⟨i, e, task, slot, isTask, tcb, isProbe, control⟩ := own.task h.table
  have size := h.nonempty i e buffer slot control msg (queue ▸ List.mem_cons_self)
  refine ⟨h.table, ?_, ?_, ?_, h.unbuffered, h.owned⟩
  · intro j e' buffer' slot' control' m mem
    by_cases same : buffer' = buffer
    · subst same
      rw [setMessageBuffer_self] at mem
      exact h.nonempty j e' buffer' slot' control' m (queue ▸ List.mem_cons_of_mem msg mem)
    · rw [setMessageBuffer_ne same] at mem
      exact h.nonempty j e' buffer' slot' control' m mem
  · intro c
    by_cases same : c = caller
    · subst same
      rw [Function.update_self]
      exact ⟨size, buffer, own.same rfl⟩
    · rw [Function.update_of_ne same]
      exact (h.sound c).mono fun _ _ own => own.same rfl
  · intro j e' task' probe' buffer' slot' tcb' own' control'
    obtain ⟨left, divided, accepted⟩ := h.fifo j e' task' probe' buffer' slot' tcb' own' control'
    refine ⟨left, divided, accepted.trans ?_⟩
    by_cases here : i = j
    · -- the caller's slot: the message goes from the buffer to the caller
      subst here
      obtain rfl : e = e' := Option.some.inj (slot.symm.trans slot')
      obtain rfl : buffer = buffer' := Option.some.inj (control.symm.trans control')
      obtain rfl : task = task' := Option.some.inj (tcb.symm.trans tcb')
      subst isTask
      have isOwn : probe = some probe' := isProbe.symm.trans own'
      rw [setMessageBuffer_self, Function.update_self, before,
        heldFor_received, if_pos isOwn, queue, List.append_nil, List.append_assoc]
      rfl
    · have other : buffer' ≠ buffer := fun same =>
        here (h.table.buffers i j e e' buffer slot slot' control (same ▸ control'))
      have notOwn : probe ≠ some probe' := fun same =>
        here (h.table.probes i j e e' probe' slot slot' (isProbe.trans same) own')
      rw [setMessageBuffer_ne other]
      by_cases same : some task' = caller
      · rw [same, Function.update_self, before, heldFor_received, if_neg notOwn]
      · rw [Function.update_of_ne same]

/-- A caller's message leaves its hands one way or the other. -/
theorem leave (h : Moving cfg s points lost) (isPoint : points caller = .received probe (some msg))
    (registry : t.registry = s.registry) (messageBuffers : t.messageBuffers = s.messageBuffers)
    (sends : t.sends = s.sends)
    (owned : ∀ x ∈ t.handed ++ lost', x ∈ s.handed ++ lost ∨ x = (probe, msg))
    (divided : ∀ p left, Divided left (handedTo s.handed p) (handedTo lost p) →
      Divided (left ++ if probe = some p then [msg] else []) (handedTo t.handed p)
        (handedTo lost' p)) :
    Moving cfg t (Function.update points caller .outside) lost' := by
  have sound : PointSound s caller (.received probe (some msg)) := isPoint ▸ h.sound caller
  obtain ⟨-, buffer, own⟩ := sound
  obtain ⟨i, e, task, slot, isTask, tcb, isProbe, control⟩ := own.task h.table
  refine ⟨registry ▸ h.table, ?_, ?_, ?_, ?_, ?_⟩
  · rw [EachBuffer, registry, messageBuffers]
    exact h.nonempty
  · intro c
    by_cases same : c = caller
    · subst same
      rw [Function.update_self]
      trivial
    · rw [Function.update_of_ne same]
      exact (h.sound c).mono fun _ _ own => own.same (congrArg Registry.slots registry)
  · intro j e' task' probe' buffer' slot' tcb' own' control'
    rw [registry] at slot'
    obtain ⟨left, before, accepted⟩ := h.fifo j e' task' probe' buffer' slot' tcb' own' control'
    refine ⟨_, divided probe' left before, ?_⟩
    rw [sends, messageBuffers, accepted]
    by_cases isOwn : probe = some probe'
    · -- no other slot has the probe, so its task is the caller
      have here := h.table.probes i j e e' probe' slot slot' (isProbe.trans isOwn) own'
      subst here
      obtain rfl : e = e' := Option.some.inj (slot.symm.trans slot')
      obtain rfl : task = task' := Option.some.inj (tcb.symm.trans tcb')
      subst isTask
      rw [isPoint, heldFor_received, Function.update_self, if_pos isOwn, heldFor_outside,
        List.append_nil]
    · rw [if_neg isOwn, List.append_nil]
      by_cases same : some task' = caller
      · rw [same, Function.update_self, isPoint, heldFor_received, if_neg isOwn]
        rfl
      · rw [Function.update_of_ne same]
  · rw [registry, sends]
    exact h.unbuffered
  · rw [registry]
    intro x mem
    cases owned x mem with
    | inl old => exact h.owned x old
    | inr new => exact ⟨i, e, buffer, slot, control, isProbe.trans (congrArg Prod.fst new).symm⟩

/-- A caller hands the message it holds to its probe. -/
theorem hand (h : Moving cfg s points lost) (isPoint : points caller = .received probe (some msg))
    (registry : t.registry = s.registry) (messageBuffers : t.messageBuffers = s.messageBuffers)
    (sends : t.sends = s.sends) (handed : t.handed = s.handed ++ [(probe, msg)]) :
    Moving cfg t (Function.update points caller .outside) lost := by
  refine h.leave isPoint registry messageBuffers sends (fun x mem => ?_) fun p left before => ?_
  · rw [handed, List.append_assoc] at mem
    simp only [List.mem_append, List.mem_singleton] at mem ⊢
    tauto
  · rw [handed, handedTo_append]
    exact before.toLeft _

/-- A caller's task is deleted, or a new one takes its place. -/
theorem endCall (h : Moving cfg s points lost) (caller : Option TaskHandle) :
    Moving cfg s (Function.update points caller .outside) (lost ++ (points caller).inHand) := by
  have nothing : (∀ probe, (points caller).heldFor probe = []) → (points caller).inHand = [] →
      Moving cfg s (Function.update points caller .outside)
        (lost ++ (points caller).inHand) := by
    intro before empty
    rw [empty, List.append_nil]
    exact h.idle trivial before fun _ => rfl
  cases isPoint : points caller with
  | outside | lookedUp _ =>
      rw [isPoint] at nothing
      exact nothing (fun _ => rfl) rfl
  | received probe msg =>
      cases msg with
      | none =>
          rw [isPoint] at nothing
          exact nothing (fun _ => rfl) rfl
      | some msg =>
          refine h.leave isPoint rfl rfl rfl (fun x mem => ?_) fun p left before => ?_
          · rw [← List.append_assoc] at mem
            exact (List.mem_append.mp mem).imp_right List.mem_singleton.mp
          · rw [ProcessPoint.inHand, handedTo_append]
            exact before.toRight _

/-- No caller holds a message for a probe that is not allocated yet. -/
theorem heldFor_fresh (h : Moving cfg s points lost) {p : Probe} (fresh : ¬ Allocated cfg s.registry p)
    (caller : Option TaskHandle) : (points caller).heldFor p = [] := by
  have sound := h.sound caller
  cases isPoint : points caller with
  | outside | lookedUp _ => rfl
  | received probe msg =>
      cases msg with
      | none => rfl
      | some msg =>
          rw [isPoint] at sound
          obtain ⟨-, buffer, own⟩ := sound
          obtain ⟨i, e, task, slot, -, -, isProbe, -⟩ := own.task h.table
          rw [heldFor_received, if_neg]
          exact fun same => fresh (h.table.probe_allocated slot (isProbe.trans same))

/-- Nothing was handed to it, and nothing for it was lost. -/
theorem handedTo_fresh (h : Moving cfg s points lost) {p : Probe}
    (fresh : ¬ Allocated cfg s.registry p) : handedTo s.handed p = [] ∧ handedTo lost p = [] := by
  have both : handedTo (s.handed ++ lost) p = [] := by
    unfold handedTo
    rw [List.filterMap_eq_nil_iff]
    intro x mem
    obtain ⟨i, e, buffer, slot, -, own⟩ := h.owned x mem
    exact if_neg fun same => fresh (h.table.probe_allocated slot (own.trans same))
  unfold handedTo at both ⊢
  rw [List.filterMap_append] at both
  exact List.append_eq_nil_iff.mp both

/-- An action between the parts of the calls. -/
theorem step (h : Moving cfg s points lost) (held : HoldsMessage s) {op : Op}
    (notProcess : ∀ env, op ≠ .process env) : Moving cfg (step cfg s op) points lost := by
  have table := slots_step h.table op
  have nonempty : EachBuffer (fun q => ∀ msg ∈ q.queue, msg.size ≠ 0)
      (ProbeTrace.step cfg s op) := nonempty_step h.table h.nonempty held
  have sound : ∀ caller, PointSound (ProbeTrace.step cfg s op) caller (points caller) :=
    fun caller => (h.sound caller).mono fun _ _ own => own.step h.table op
  have still : ∀ x ∈ s.handed ++ lost, ∃ (i : Nat) (e : TcbProbe) (buffer : Nat),
      (ProbeTrace.step cfg s op).registry.slots[i]? = some e ∧
        e.controlMsgBuffer = some buffer ∧ e.probe = x.1 := by
    intro x mem
    obtain ⟨i, e, buffer, slot, control, own⟩ := h.owned x mem
    obtain ⟨task, tcb⟩ := h.table.used slot (f := TcbProbe.controlMsgBuffer) rfl control
    exact ⟨i, e, buffer, h.table.kept op slot tcb, control, own⟩
  cases step_control cfg s op with
  | same same slots =>
      exact h.frame table slots same.messageBuffers (congrArg IoView.sends same.ioView)
        (congrArg IoView.handed same.ioView)
  | read _ _ _ _ _ outcome =>
      exact h.frame table (congrArg Registry.slots outcome.registry) outcome.messageBuffers
        (congrArg IoView.sends outcome.ioView) (congrArg IoView.handed outcome.ioView)
  | idle _ _ _ ioView registry messageBuffers
  | skipped _ _ _ _ _ _ ioView registry messageBuffers
  | reported _ _ _ _ _ ioView registry messageBuffers =>
      exact h.frame table (congrArg Registry.slots registry) messageBuffers
        (congrArg IoView.sends ioView) (congrArg IoView.handed ioView)
  | received env _ _ _ _ _ isOp => exact absurd isOp (notProcess env)
  | registered env new name uxPriority i isOp outcome ioView =>
      have sends : (ProbeTrace.step cfg s op).sends = s.sends := congrArg IoView.sends ioView
      have handed : (ProbeTrace.step cfg s op).handed = s.handed :=
        congrArg IoView.handed ioView
      have added : Slots cfg (s.addTask cfg new name).registry := h.table.frame rfl rfl rfl rfl
      obtain ⟨first, slots, -⟩ := added.registered outcome
      have fresh : ¬ Allocated cfg s.registry ((s.addTask cfg new name).registry.storage cfg) :=
        storage_fresh cfg s.registry
      -- nothing was accepted for a slot that was free
      have none : acceptedBy s.sends i = [] := by
        obtain ⟨⟨e, slot, unused⟩, -⟩ := SlotTable.find_eq_some_iff.mp first
        exact h.unbuffered i e slot (by rw [h.table.free slot unused])
      refine ⟨table, nonempty, sound, ?_, ?_, by rwa [handed]⟩
      · intro j e task probe buffer slot tcb own control
        rw [sends, handed]
        cases SlotTable.getElem?_set_cases (slots ▸ slot) with
        | inl isNew =>
            obtain ⟨rfl, rfl⟩ := isNew
            rw [(newSlot_fields ..).2, Option.some.injEq] at own
            subst own
            obtain ⟨nothing, noLoss⟩ := h.handedTo_fresh fresh
            refine ⟨[], ?_, ?_⟩
            · rw [nothing, noLoss]
              exact .nil
            · rw [none, newSlot_messageBuffer outcome control, h.heldFor_fresh fresh]
              rfl
        | inr old =>
            rw [added.oldBuffer outcome old.2 control]
            exact h.fifo j e task probe buffer old.2 tcb own control
      · intro j e slot unbuffered
        rw [sends]
        cases SlotTable.getElem?_set_cases (slots ▸ slot) with
        | inl isNew => exact isNew.1 ▸ none
        | inr old => exact h.unbuffered j e old.2 unbuffered
  | sent target numBytes i buffer e task isOp point slot tcb control addressed ioView registry
      messageBuffers =>
      have sends : (ProbeTrace.step cfg s op).sends = s.sends ++ [(i, heldMessage s target numBytes,
          ((s.messageBuffers buffer).send Message.size cfg.messageLengthBytes
            (heldMessage s target numBytes)).1)] := congrArg IoView.sends ioView
      have handed : (ProbeTrace.step cfg s op).handed = s.handed := congrArg IoView.handed ioView
      refine ⟨table, nonempty, sound, ?_, ?_, by rwa [handed]⟩
      · intro j e' task' probe' buffer' slot' tcb' own' control'
        rw [registry] at slot'
        obtain ⟨left, divided, accepted⟩ := h.fifo j e' task' probe' buffer' slot' tcb' own' control'
        rw [handed]
        refine ⟨left, divided, ?_⟩
        rw [sends, messageBuffers]
        exact h.table.accepted_sent slot control slot' control' accepted _
      · intro j e' slot' unbuffered
        rw [registry] at slot'
        rw [sends]
        exact unbuffered_sent slot control slot' unbuffered (h.unbuffered j e' slot' unbuffered) _

end Moving

/-! The IO task's point. -/

/-- Only the IO task moves the IO task. -/
theorem step_ioPoint (cfg : Config) (s : State) {op : Op} (other : op.ofIoTask = false) :
    (step cfg s op).ioPoint = s.ioPoint := by
  have point : ∀ {t : State}, t.ioView = s.ioView → t.ioPoint = s.ioPoint :=
    fun ioView => congrArg IoView.ioPoint ioView
  cases op with
  | ioRead _ | ioSend | ioReport _ _ => exact absurd other.symm Bool.false_ne_true
  | disable | delete _ | setFilter _ _ | getBuffer => rfl
  | enable env io => exact point (vTraceEnable_control cfg env io s).ioView
  | exclude pcName => exact point (vTraceExcludeTask_control cfg pcName s).ioView
  | create env new name uxPriority => exact point (xTaskCreate_ioView cfg env new name uxPriority s)
  | start env next uxPriority =>
      exact point (control_hookEffect.startScheduler cfg env next uxPriority ⟨rfl, rfl⟩).ioView
  | switch out in' next uxPriority =>
      exact point (control_hookEffect.contextSwitch cfg out in' next uxPriority s
        fun _ => ⟨rfl, rfl⟩).ioView
  | hook env h => exact point (control_hookEffect.run cfg env h s).ioView
  | process env =>
      rw [step, process_unfold]
      cases receiveMessage_cases cfg (currentTcbProbe s) s with
      | inl nothing =>
          rw [nothing]
          rfl
      | inr takes =>
          obtain ⟨buffer, msg, rest, -, -, received⟩ := takes
          rw [received]
          exact congrArg IoView.ioPoint (handOver_eq ..).2.1

theorem holdsMessage_same (h : HoldsMessage s) (point : t.ioPoint = s.ioPoint)
    (ioBuffer : t.ioBuffer = s.ioBuffer) : HoldsMessage t := by
  intro target numBytes i sending
  have size := h target numBytes i (point.symm.trans sending)
  unfold heldMessage Message.size at size ⊢
  rwa [ioBuffer]

theorem holdsMessage_away (away : ∀ target numBytes i, s.ioPoint ≠ .send target numBytes i) :
    HoldsMessage s :=
  fun target numBytes i sending => absurd sending (away target numBytes i)

/-- A turn of a pass changes nothing but the IO task's buffer. -/
theorem visitSlot_frame (cfg : Config) (pass : Pass) (w : IoWrite) (i : Nat) (s : State) :
    ReportFrame s (visitSlot (pass.iterFn cfg w) i s) := by
  unfold visitSlot
  split
  · cases pass with
    | reports => exact reportFrame_effect.ioTaskProbeIter cfg reportFrame_effect.report ..
    | announcements => exact reportFrame_effect.ioTaskProbeIter cfg reportFrame_effect.announce ..
  · exact reportFrame_effect.refl s

/-! The grains. -/

structure Orderly (cfg : Config) (p : Interleaved) : Prop where
  moving : Moving cfg p.state p.points p.lost
  held : HoldsMessage p.state
  inPass : p.sliced.point ≠ .outside → p.state.ioPoint = .report

variable {p : Interleaved}

/-- A caller goes on. -/
theorem Orderly.advance (h : Orderly cfg p) (env : External) : Orderly cfg (p.advance cfg env) := by
  have holdsNothing : ∀ {point}, p.points p.caller = point → (∀ probe, point.heldFor probe = []) →
      ∀ probe, (p.points p.caller).heldFor probe = [] :=
    fun isPoint nothing => isPoint ▸ nothing
  unfold Interleaved.advance
  split
  · rename_i isPoint
    have unchanged : p.state.enterCriticalSection.exitCriticalSection = p.state :=
      p.state.exit_enterCriticalSection
    dsimp only
    rw [unchanged]
    exact ⟨h.moving.idle (fun _ control => ownSlot_current control)
      (holdsNothing isPoint fun _ => rfl) fun _ => rfl, h.held, h.inPass⟩
  · rename_i tcbProbe isPoint
    have before := holdsNothing isPoint fun _ => rfl
    cases receiveMessage_cases cfg tcbProbe p.state with
    | inl nothing =>
        rw [nothing]
        exact ⟨h.moving.idle trivial before fun _ => rfl, h.held, h.inPass⟩
    | inr takes =>
        obtain ⟨buffer, msg, rest, control, queue, received⟩ := takes
        have sound : PointSound p.state p.caller (.lookedUp tcbProbe) :=
          isPoint ▸ h.moving.sound p.caller
        rw [received]
        exact ⟨h.moving.receive (sound buffer control) before queue,
          holdsMessage_same h.held rfl rfl, h.inPass⟩
  · rename_i probe received isPoint
    cases received with
    | none =>
        exact ⟨h.moving.idle trivial (holdsNothing isPoint fun _ => rfl) fun _ => rfl, h.held,
          h.inPass⟩
    | some msg =>
        have sound : PointSound p.state p.caller (.received probe (some msg)) :=
          isPoint ▸ h.moving.sound p.caller
        have registry := registry_controlEffect.handOver cfg env probe (some msg) p.state
        obtain ⟨-, ioView, messageBuffers⟩ := handOver_eq cfg env probe msg p.state
        have point := congrArg IoView.ioPoint ioView
        have handed := congrArg IoView.handed ioView
        dsimp only at handed
        rw [if_pos sound.1] at handed
        exact ⟨h.moving.hand isPoint registry messageBuffers (congrArg IoView.sends ioView) handed,
          holdsMessage_same h.held point (congrArg IoView.ioBuffer ioView),
          fun inPass => point.trans (h.inPass inPass)⟩

/-- The IO task goes on in its passes. -/
theorem Orderly.turn (h : Orderly cfg p) (w : IoWrite) :
    Orderly cfg { p with sliced := passTurn cfg w p.sliced } := by
  obtain ⟨⟨s, point⟩, points, lost⟩ := p
  obtain ⟨moving, held, inPass⟩ := h
  have ended : Orderly cfg ⟨endIteration s, points, lost⟩ :=
    ⟨moving.frame moving.table rfl rfl rfl rfl, holdsMessage_away (fun _ _ _ => IoPoint.noConfusion),
      fun inPass => absurd rfl inPass⟩
  cases point with
  | outside =>
      cases point : s.ioPoint with
      | report =>
          rw [passTurn_begins w point]
          exact ⟨moving, held, fun _ => point⟩
      | read | send _ _ _ =>
          have waits : passTurn cfg w ⟨s, .outside⟩ = ⟨s, .outside⟩ := by
            rw [passTurn]
            dsimp only
            rw [point]
          rw [waits]
          exact ⟨moving, held, inPass⟩
  | visiting pass i =>
      have report : s.ioPoint = .report := inPass PassPoint.noConfusion
      dsimp only
      rw [passTurn_visiting]
      by_cases more : i < cfg.maxProbes
      · have frame := visitSlot_frame cfg pass w i s
        obtain ⟨ioBuffer, ioView⟩ := frame.ioView
        have stays := (congrArg IoView.ioPoint ioView).trans report
        rw [if_pos more]
        refine ⟨moving.frame (frame.registry ▸ moving.table)
          (congrArg Registry.slots frame.registry) frame.messageBuffers
          (congrArg IoView.sends ioView) (congrArg IoView.handed ioView),
          holdsMessage_away fun target numBytes i sending => ?_, fun _ => stays⟩
        exact absurd (stays.symm.trans sending) IoPoint.noConfusion
      · rw [if_neg more]
        cases pass with
        | announcements => exact ended
        | reports =>
            rw [endPass]
            split
            · exact ⟨moving.frame moving.table rfl rfl rfl rfl, holdsMessage_same held rfl rfl,
                fun _ => report⟩
            · exact ended

/-- The rest of the system acts. -/
theorem Orderly.other (h : Orderly cfg p) {op : Op} (legal : op.Legal cfg p.state)
    (permits : p.Permits op) : Orderly cfg (grainStep cfg p (.other op)) := by
  have notProcess : ∀ env, op ≠ .process env := by
    intro env isOp
    subst isOp
    exact permits
  have moving : Moving cfg p.state (op.ends.elim p p.endCall).points
      (op.ends.elim p p.endCall).lost := by
    cases op.ends with
    | none => exact h.moving
    | some task => exact h.moving.endCall (some task)
  refine ⟨moving.step h.held notProcess, holdsMessage_step h.held legal, fun inPass => ?_⟩
  have notIo : op.ofIoTask = false := by
    cases op with
    | ioRead _ | ioSend => exact absurd permits inPass
    | ioReport _ _ => exact absurd permits id
    | enable _ _ | disable | exclude _ | create _ _ _ _ | delete _ | start _ _ _
    | switch _ _ _ _ | hook _ _ | setFilter _ _ | process _ | getBuffer => rfl
  exact (step_ioPoint cfg p.state notIo).trans (h.inPass inPass)

/-- However the calls and the passes are interrupted, and whichever tasks are deleted meanwhile,
what a buffer accepted is what was handed to the slot's probe or lost, what its task holds, and
what waits, in this order. -/
theorem interrupted_calls_in_order {grains : List Grain}
    (run : Transition.Run (grainStep cfg) (fun p grain => grain.Legal cfg p)
      (Interleaved.init cfg) grains p) : MessagesInOrder p := by
  have orderly : Orderly cfg p := by
    refine run.invariant (P := Orderly cfg) ?_
      ⟨.init cfg, (Delivery.init cfg).held, fun inPass => absurd rfl inPass⟩
    intro p grain h legal
    cases grain with
    | advance env => exact h.advance env
    | turn w => exact h.turn w
    | other op => exact h.other legal.1 legal.2
  refine ⟨orderly.moving.fifo, ?_, fun caller probe msg isPoint => ?_⟩
  · intro none i e task probe buffer slot tcb own control
    obtain ⟨left, divided, accepted⟩ := orderly.moving.fifo i e task probe buffer slot tcb own control
    rw [none] at divided
    rw [accepted, divided.eq_left]
  · have sound : PointSound p.state caller (.received probe (some msg)) :=
      isPoint ▸ orderly.moving.sound caller
    exact sound.2

end

/-- The task of slot 0 is deleted while it holds a message, and its control block is given to a
new task. -/
def holdingRun : List Grain :=
  (sendOne 8).map .other ++ [.advance {}, .advance {},
    .other (.create {} { handle := 2, taskNumber := 0, becomesCurrent := true } [66] 1),
    .other (.delete 1),
    .other (.create {} { handle := 1, taskNumber := 0, becomesCurrent := false } [67] 1)]

def holdingState : Interleaved :=
  holdingRun.foldl (grainStep Config.tests) (Interleaved.init Config.tests)

theorem interrupted_calls_in_order_holding : MessagesInOrder holdingState :=
  interrupted_calls_in_order (Transition.Run.of_check (by decide +kernel))

end ProbeTrace
