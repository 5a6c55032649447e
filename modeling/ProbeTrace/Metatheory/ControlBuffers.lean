import ProbeTrace.Metatheory.ControlProgress

/-!
The control plane buffers of the tasks. What pvTraceGetControlPlaneBuffer returns to a task
is the task's for good and nobody else's, and it never holds more than its size.
-/
namespace ProbeTrace

/-- What pvTraceGetControlPlaneBuffer returns while `task` is current. -/
def controlPlaneBufferOf (s : State) (task : TaskHandle) : Option Nat :=
  (pvTraceGetControlPlaneBuffer (s.select task)).1

/-- The buffers at a state `s` and at a later state `t`. -/
structure BuffersPrivate (cfg : Config) (s t : State) : Prop where
  before : s.pxCurrentTcb = none → (pvTraceGetControlPlaneBuffer s).1 = none
  kept : ∀ task b, controlPlaneBufferOf s task = some b → controlPlaneBufferOf t task = some b
  exclusive : ∀ task task' b, controlPlaneBufferOf s task = some b →
    controlPlaneBufferOf t task' = some b → task' = task
  bounded : ∀ task b, controlPlaneBufferOf s task = some b →
    (s.messageBuffers b).capacity = cfg.controlPlaneBufferSize ∧
      (s.messageBuffers b).used Message.size cfg.messageLengthBytes ≤ cfg.controlPlaneBufferSize

section
variable {cfg : Config} {s t : State} {task : TaskHandle} {b : Nat}

theorem controlPlaneBuffer_eq (s : State) : (pvTraceGetControlPlaneBuffer s).1 =
    (s.getTcbProbe s.pxCurrentTcb).bind fun i => (s.tcbProbe i).controlMsgBuffer := by
  have entered : s.enterCriticalSection.getTcbProbe
      s.enterCriticalSection.prvTraceGetCurrentTaskHandle = s.getTcbProbe s.pxCurrentTcb := rfl
  simp only [pvTraceGetControlPlaneBuffer, entered]
  cases s.getTcbProbe s.pxCurrentTcb with
  | none | some i => rfl

/-- A task's buffer is the buffer of the slot found for it. -/
theorem controlPlaneBufferOf_iff : controlPlaneBufferOf s task = some b ↔ ∃ (i : Nat) (e : TcbProbe),
    SlotTable.find TcbProbe.tcb s.registry.slots (some task) = some i ∧
      s.registry.slots[i]? = some e ∧ e.tcb = some task ∧ e.controlMsgBuffer = some b := by
  have found : controlPlaneBufferOf s task = (SlotTable.find TcbProbe.tcb s.registry.slots
      (some task)).bind fun i => (s.tcbProbe i).controlMsgBuffer := by
    rw [controlPlaneBufferOf, controlPlaneBuffer_eq, getTcbProbe_eq]
    rfl
  rw [found, Option.bind_eq_some_iff]
  constructor
  · intro h
    obtain ⟨i, isFound, buffer⟩ := h
    obtain ⟨⟨e, slot, tcb⟩, -⟩ := SlotTable.find_eq_some_iff.mp isFound
    exact ⟨i, e, isFound, slot, tcb, (tcbProbe_fields slot).2.2.1.symm.trans buffer⟩
  · intro h
    obtain ⟨i, e, isFound, slot, tcb, buffer⟩ := h
    exact ⟨i, isFound, (tcbProbe_fields slot).2.2.1.trans buffer⟩

/-- Before a task is current, the lookup finds a free slot at most, and a free slot has no
buffer. -/
theorem controlPlaneBuffer_null (table : Slots cfg s.registry) (none : s.pxCurrentTcb = none) :
    (pvTraceGetControlPlaneBuffer s).1 = .none := by
  rw [controlPlaneBuffer_eq, none, getTcbProbe_eq]
  cases found : SlotTable.find TcbProbe.tcb s.registry.slots .none with
  | none => rfl
  | some i =>
      obtain ⟨⟨e, slot, free⟩, -⟩ := SlotTable.find_eq_some_iff.mp found
      exact (tcbProbe_fields slot).2.2.1.trans (by rw [table.free slot free])

/-! The bytes that wait. -/

/-- The buffer has its size, and what waits fits it. -/
def Fits (cfg : Config) (q : MessageBuffer Message) : Prop :=
  q.capacity = cfg.controlPlaneBufferSize ∧ q.Bounded Message.size cfg.messageLengthBytes

theorem fits_step (table : Slots cfg s.registry) (h : EachBuffer (Fits cfg) s) (op : Op) :
    EachBuffer (Fits cfg) (step cfg s op) :=
  eachBuffer_step table h op ⟨rfl, MessageBuffer.bounded_empty ..⟩
    (fun _ _ _ _ _ fits => ⟨(MessageBuffer.send_capacity ..).trans fits.1, fits.2.send _⟩)
    fun _ _ _ queue fits => ⟨fits.1, fits.2.rest queue⟩

/-- Control plane buffers are private to their tasks and bounded. -/
theorem control_buffers_private (cfg : Config) (ops more : List Op) :
    BuffersPrivate cfg (ops.foldl (step cfg) (State.init cfg))
      ((ops ++ more).foldl (step cfg) (State.init cfg)) := by
  have reached : Transition.Run (step cfg) (fun _ _ => True) (State.init cfg) ops _ :=
    .free (fun _ _ => trivial) _ ops
  have strong := reached.invariant
    (P := fun s => Slots cfg s.registry ∧ EachBuffer (Fits cfg) s)
    (fun s op inv _ => ⟨slots_step inv.1 op, fits_step inv.1 inv.2 op⟩)
    ⟨.init cfg, eachBuffer_init _ cfg⟩
  rw [List.foldl_append]
  generalize ops.foldl (step cfg) (State.init cfg) = s at strong ⊢
  have run : Transition.Run (step cfg) (fun _ _ => True) s more _ :=
    .free (fun _ _ => trivial) _ more
  have later := run.invariant (P := fun t => Slots cfg t.registry ∧
      (∀ (i : Nat) (e : TcbProbe) (task : TaskHandle), s.registry.slots[i]? = some e →
        e.tcb = some task → t.registry.slots[i]? = some e) ∧
      ∀ (i : Nat) (task : TaskHandle), SlotTable.find TcbProbe.tcb s.registry.slots (some task) =
        some i → SlotTable.find TcbProbe.tcb t.registry.slots (some task) = some i)
    (fun r op inv _ => ⟨slots_step inv.1 op,
      fun i e task slot tcb => inv.1.kept op (inv.2.1 i e task slot tcb) tcb,
      fun i task found => inv.1.found op (inv.2.2 i task found)⟩)
    ⟨strong.1, fun _ _ _ slot _ => slot, fun _ _ found => found⟩
  generalize more.foldl (step cfg) s = t at later ⊢
  obtain ⟨table, bounded⟩ := strong
  obtain ⟨table', kept, stillFound⟩ := later
  refine ⟨controlPlaneBuffer_null table, ?_, ?_, ?_⟩
  · intro task b isBuffer
    obtain ⟨i, e, found, slot, tcb, buffer⟩ := controlPlaneBufferOf_iff.mp isBuffer
    exact controlPlaneBufferOf_iff.mpr
      ⟨i, e, stillFound i task found, kept i e task slot tcb, tcb, buffer⟩
  · intro task task' b isBuffer isBuffer'
    obtain ⟨i, e, -, slot, tcb, buffer⟩ := controlPlaneBufferOf_iff.mp isBuffer
    obtain ⟨j, e', -, slot', tcb', buffer'⟩ := controlPlaneBufferOf_iff.mp isBuffer'
    have slotLater := kept i e task slot tcb
    have same : i = j := table'.buffers i j e e' b slotLater slot' buffer buffer'
    subst same
    have entry : e' = e := Option.some.inj (slot'.symm.trans slotLater)
    exact Option.some.inj (tcb'.symm.trans (entry ▸ tcb))
  · intro task b isBuffer
    obtain ⟨i, e, -, slot, tcb, buffer⟩ := controlPlaneBufferOf_iff.mp isBuffer
    have sized := bounded i e b slot buffer
    exact ⟨sized.1, sized.1 ▸ sized.2⟩

end

end ProbeTrace
