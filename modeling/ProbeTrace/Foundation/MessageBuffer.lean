import Mathlib.Algebra.Order.BigOperators.Group.List
import Mathlib.Algebra.Ring.Nat
import Mathlib.Data.List.Basic

/-!
A bounded first-in first-out buffer of discrete messages, read by receivers that
bring a destination of limited size. A send that does not fit stores nothing; a
receive whose destination is smaller than the oldest message removes nothing.
-/

universe u

structure MessageBuffer (μ : Type u) where
  capacity : Nat
  queue : List μ

namespace MessageBuffer
variable {μ : Type u} (size : μ → Nat)

/-- Every stored message also takes `overhead` bytes for its length. -/
def used (overhead : Nat) (b : MessageBuffer μ) : Nat :=
  (b.queue.map (fun m => size m + overhead)).sum

def send (overhead : Nat) (m : μ) (b : MessageBuffer μ) : Bool × MessageBuffer μ :=
  if b.used size overhead + (size m + overhead) ≤ b.capacity then
    (true, { b with queue := b.queue ++ [m] })
  else
    (false, b)

def receive (limit : Nat) (b : MessageBuffer μ) : Option μ × MessageBuffer μ :=
  match b.queue with
  | [] => (none, b)
  | m :: rest => if size m ≤ limit then (some m, { b with queue := rest }) else (none, b)

variable {size}

theorem send_queue (overhead : Nat) (m : μ) (b : MessageBuffer μ) :
    (b.send size overhead m).2.queue =
      b.queue ++ if (b.send size overhead m).1 then [m] else [] := by
  unfold send
  split <;> simp

theorem receive_head {limit : Nat} {b : MessageBuffer μ} {m : μ} {rest : List μ}
    (hq : b.queue = m :: rest) (hm : size m ≤ limit) :
    b.receive size limit = (some m, { b with queue := rest }) := by
  simp [receive, hq, hm]

/-- A message longer than the destination stays at the head. -/
theorem receive_blocked {limit : Nat} {b : MessageBuffer μ} {m : μ} {rest : List μ}
    (hq : b.queue = m :: rest) (hm : limit < size m) : b.receive size limit = (none, b) := by
  simp [receive, hq, Nat.not_le.mpr hm]

/-! The stored bytes never exceed the capacity. -/

/-- What is stored has room. -/
def Bounded (size : μ → Nat) (overhead : Nat) (b : MessageBuffer μ) : Prop :=
  b.used size overhead ≤ b.capacity

@[simp] theorem send_capacity (overhead : Nat) (m : μ) (b : MessageBuffer μ) :
    (b.send size overhead m).2.capacity = b.capacity := by
  unfold send
  split <;> rfl

theorem bounded_empty (overhead capacity : Nat) :
    Bounded size overhead { capacity := capacity, queue := [] } :=
  Nat.zero_le _

theorem Bounded.send {overhead : Nat} {b : MessageBuffer μ} (h : b.Bounded size overhead)
    (m : μ) : (b.send size overhead m).2.Bounded size overhead := by
  unfold MessageBuffer.send
  split
  · rename_i room
    simpa [Bounded, used] using room
  · exact h

theorem Bounded.rest {overhead : Nat} {b : MessageBuffer μ} (h : b.Bounded size overhead)
    {m : μ} {rest : List μ} (queue : b.queue = m :: rest) :
    Bounded size overhead { b with queue := rest } := by
  rw [Bounded, used, queue, List.map_cons, List.sum_cons] at h
  exact Nat.le_trans (Nat.le_add_left _ _) h

end MessageBuffer
