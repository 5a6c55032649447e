import ProbeTrace.Metatheory.ControlDelivery

/-!
Where control messages go. A message is handed to the probe of the task that calls
vTraceProcessControlPlaneMessages, only if it is addressed to that probe, and at most
once; and the IO task offers every message once to each addressed task that was
registered when it was read.
-/
namespace ProbeTrace

/-! Addresses. -/

/-- The messages offered to the buffer of slot `i`, in order. -/
def sentTo (sends : List (Nat × Message × Bool)) (i : Nat) : List Message :=
  sends.filterMap fun (j, msg, _) => if j = i then some msg else none

/-- The loop over the slots for the message with this number has not reached slot `j`. -/
def Pending (s : State) (read j : Nat) : Prop :=
  s.reads = read ∧ ∃ target numBytes i, s.ioPoint = .send target numBytes i ∧ i ≤ j

/-- What was offered of the message with this number to slot `j`. -/
def attempts (s : State) (read j : Nat) : List Message :=
  (sentTo s.sends j).filter fun msg => msg.read = read

instance (cfg : Config) (r : Registry) (target : BitVec 32) (task : TaskHandle) :
    Decidable (Addressed cfg r target task) := inferInstanceAs (Decidable (_ ∨ _))

/-- What a whole iteration offers of a message to a slot. -/
def offers (cfg : Config) (r : Registry) (msg : Message) (e : TcbProbe) (task : TaskHandle) :
    List Message :=
  if e.controlMsgBuffer.isSome = true ∧ Addressed cfg r msg.destination task then [msg] else []

/-- The message read in the state `u` while it is distributed and after that. -/
structure Distributing (cfg : Config) (u : State) (msg : Message) (s : State) : Prop where
  reads : msg.read ≤ s.reads
  held : s.reads = msg.read → ∀ (target : BitVec 32) (numBytes i : Nat),
    s.ioPoint = .send target numBytes i → heldMessage s target numBytes = msg
  slot : ∀ (j : Nat) (e : TcbProbe) (task : TaskHandle), u.registry.slots[j]? = some e →
    e.tcb = some task → s.registry.slots[j]? = some e ∧ task ∈ s.tasks ∧
      s.registry.taskId task = u.registry.taskId task
  pending : ∀ (j : Nat) (e : TcbProbe) (task : TaskHandle), u.registry.slots[j]? = some e →
    e.tcb = some task → Pending s msg.read j → attempts s msg.read j = []
  done : ∀ (j : Nat) (e : TcbProbe) (task : TaskHandle), u.registry.slots[j]? = some e →
    e.tcb = some task → ¬ Pending s msg.read j →
    attempts s msg.read j = offers cfg u.registry msg e task

theorem pending_next {cfg : Config} {s t : State} {target : BitVec 32} {numBytes i read j : Nat}
    (point : s.ioPoint = .send target numBytes i)
    (next : t.ioPoint = nextPoint cfg target numBytes i) (reads : t.reads = s.reads)
    (lt : j < cfg.maxProbes) : Pending t read j ↔ Pending s read j ∧ j ≠ i := by
  unfold Pending
  rw [next, reads, point, nextPoint]
  constructor
  · rintro ⟨same, target', numBytes', i', moved, le⟩
    split at moved
    · injection moved with _ _ hi
      exact ⟨⟨same, target, numBytes, i, rfl, by omega⟩, by omega⟩
    · cases moved
  · rintro ⟨⟨same, target', numBytes', i', at', le⟩, ne⟩
    injection at' with _ _ hi
    rw [if_pos (by omega)]
    exact ⟨same, target, numBytes, i + 1, rfl, by omega⟩

/-- The tasks of the slots of `u` have them still. -/
def SlotsStand (u t : State) : Prop :=
  ∀ (j : Nat) (e : TcbProbe) (task : TaskHandle), u.registry.slots[j]? = some e →
    e.tcb = some task → t.registry.slots[j]? = some e ∧ task ∈ t.tasks ∧
      t.registry.taskId task = u.registry.taskId task

namespace Distributing
variable {cfg : Config} {u s t : State} {msg : Message}

/-- Nothing is offered and the loop does not move. -/
theorem stays (h : Distributing cfg u msg s) (slot : SlotsStand u t) (sends : t.sends = s.sends)
    (reads : t.reads = s.reads) (ioPoint : t.ioPoint = s.ioPoint)
    (ioBuffer : t.ioBuffer = s.ioBuffer) : Distributing cfg u msg t := by
  refine ⟨by rw [reads]; exact h.reads, ?_, slot, ?_, ?_⟩
  · rw [reads, ioPoint]
    unfold heldMessage
    rw [reads, ioBuffer]
    exact h.held
  · unfold Pending attempts
    rw [sends, reads, ioPoint]
    exact h.pending
  · unfold Pending attempts
    rw [sends, reads, ioPoint]
    exact h.done

/-- The loop is not running before and after. -/
theorem idle (h : Distributing cfg u msg s) (slot : SlotsStand u t) (sends : t.sends = s.sends)
    (reads : msg.read ≤ t.reads)
    (before : ∀ target numBytes i, s.ioPoint ≠ .send target numBytes i)
    (after : t.reads = msg.read → ∀ target numBytes i, t.ioPoint ≠ .send target numBytes i) :
    Distributing cfg u msg t := by
  refine ⟨reads, fun same target numBytes i point => absurd point (after same target numBytes i),
    slot, ?_, ?_⟩
  · rintro j e task he tcb ⟨same, target, numBytes, i, point, -⟩
    exact absurd point (after same target numBytes i)
  · intro j e task he tcb _
    unfold attempts
    rw [sends]
    refine h.done j e task he tcb ?_
    rintro ⟨-, target, numBytes, i, point, -⟩
    exact before target numBytes i point

/-- The loop moves on from slot `i`. -/
theorem moves (h : Distributing cfg u msg s) (sound : Sound cfg s.registry) (slot : SlotsStand u t)
    {target : BitVec 32} {numBytes i : Nat} (point : s.ioPoint = .send target numBytes i)
    (next : t.ioPoint = nextPoint cfg target numBytes i) (reads : t.reads = s.reads)
    (ioBuffer : t.ioBuffer = s.ioBuffer)
    (others : ∀ j, j ≠ i → sentTo t.sends j = sentTo s.sends j)
    (skipped : s.reads ≠ msg.read → attempts t msg.read i = attempts s msg.read i)
    (offered : s.reads = msg.read → ∀ (e : TcbProbe) (task : TaskHandle),
      u.registry.slots[i]? = some e → e.tcb = some task →
      attempts t msg.read i = offers cfg u.registry msg e task) : Distributing cfg u msg t := by
  have lt : ∀ (j : Nat) (e : TcbProbe), u.registry.slots[j]? = some e →
      ∀ task, e.tcb = some task → j < cfg.maxProbes := by
    intro j e he task tcb
    rw [← sound.table.length]
    exact (List.getElem?_eq_some_iff.mp (h.slot j e task he tcb).1).1
  refine ⟨by rw [reads]; exact h.reads, ?_, slot, ?_, ?_⟩
  · intro same target' numBytes' i' point'
    rw [next, nextPoint] at point'
    split at point'
    · injection point' with ht hn _
      subst ht hn
      unfold heldMessage
      rw [reads, ioBuffer]
      exact h.held (reads.symm.trans same) target numBytes i point
    · cases point'
  · intro j e task he tcb pending
    obtain ⟨before, ne⟩ := (pending_next point next reads (lt j e he task tcb)).mp pending
    unfold attempts
    rw [others j ne]
    exact h.pending j e task he tcb before
  · intro j e task he tcb ended
    rw [pending_next point next reads (lt j e he task tcb)] at ended
    by_cases hj : j = i
    · subst hj
      by_cases same : s.reads = msg.read
      · exact offered same e task he tcb
      · rw [skipped same]
        exact h.done j e task he tcb fun before => same before.1
    · unfold attempts
      rw [others j hj]
      exact h.done j e task he tcb fun before => ended ⟨before, hj⟩

end Distributing

end ProbeTrace
