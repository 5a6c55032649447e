import Mathlib.Data.List.Range
import Mathlib.Data.List.Perm.Basic

/-!
The accounts of an allocator that hands out the numbers 0, 1, .. and takes none back: each
number is owned by one cell of a table, or was lost once. And of a log each entry of which went
one of two ways.
-/
namespace Ledger

def Balanced (owned lost : List Nat) (next : Nat) : Prop :=
  (owned ++ lost).Perm (List.range next)

section
variable {owned owned' lost : List Nat} {next : Nat}

theorem balanced_init : Balanced [] [] 0 := .refl []

/-- The next numbers are handed out, of which some are kept and the others lost. -/
theorem Balanced.take (h : Balanced owned lost next) {gained dropped : List Nat} (count : Nat)
    (keeps : owned'.Perm (owned ++ gained))
    (taken : (gained ++ dropped).Perm (List.range' next count)) :
    Balanced owned' (lost ++ dropped) (next + count) := by
  have numbers : List.range (next + count) = List.range next ++ List.range' next count := by
    have split := List.range'_append_1 (s := 0) (m := next) (n := count)
    rw [Nat.zero_add] at split
    rw [List.range_eq_range', List.range_eq_range', split]
  have middle : (owned ++ gained ++ (lost ++ dropped)).Perm
      (owned ++ lost ++ (gained ++ dropped)) := by
    rw [List.append_assoc, List.append_assoc]
    refine List.Perm.append_left owned ?_
    rw [← List.append_assoc, ← List.append_assoc]
    exact List.Perm.append_right dropped List.perm_append_comm
  rw [Balanced, numbers]
  exact ((keeps.append_right _).trans middle).trans (h.append taken)

end

section
variable {α β : Type*} {f : α → List β} {l : List α} {i : Nat} {e₀ : α}

/-- A cell that owned nothing is written. -/
theorem flatMap_set (free : l[i]? = some e₀) (empty : f e₀ = []) (e : α) :
    ((l.set i e).flatMap f).Perm (l.flatMap f ++ f e) := by
  induction l generalizing i with
  | nil => exact absurd free (Option.some_ne_none e₀).symm
  | cons a l ih =>
      cases i with
      | zero =>
          obtain rfl : a = e₀ := Option.some.inj free
          rw [List.set_cons_zero, List.flatMap_cons, List.flatMap_cons, empty, List.nil_append]
          exact List.perm_append_comm
      | succ i =>
          rw [List.set_cons_succ, List.flatMap_cons, List.flatMap_cons, List.append_assoc]
          exact (ih free).append_left (f a)

/-- Cells that own a few each own no more together. -/
theorem length_flatMap_le {k : Nat} (few : ∀ a, (f a).length ≤ k) :
    (l.flatMap f).length ≤ k * l.length := by
  induction l with
  | nil => exact Nat.zero_le _
  | cons a l ih =>
      have here := few a
      rw [List.flatMap_cons, List.length_append, List.length_cons, Nat.mul_succ]
      omega

end

/-- The entries of a log went one of two ways, in the log's order on each. -/
structure Divided {α : Type*} (log here there : List α) : Prop where
  left : here.Sublist log
  right : there.Sublist log
  all : log.Perm (here ++ there)

namespace Divided
variable {α : Type*} {log here there : List α}

theorem nil : Divided ([] : List α) [] [] := ⟨.refl [], .refl [], .refl []⟩

theorem toLeft (h : Divided log here there) (more : List α) :
    Divided (log ++ more) (here ++ more) there where
  left := h.left.append (.refl more)
  right := h.right.trans (List.sublist_append_left log more)
  all := by
    have moved : (here ++ there ++ more).Perm (here ++ more ++ there) := by
      rw [List.append_assoc, List.append_assoc]
      exact List.perm_append_comm.append_left here
    exact (h.all.append_right more).trans moved

theorem toRight (h : Divided log here there) (more : List α) :
    Divided (log ++ more) here (there ++ more) where
  left := h.left.trans (List.sublist_append_left log more)
  right := h.right.append (.refl more)
  all := by
    rw [← List.append_assoc]
    exact h.all.append_right more

/-- Where none went the one way, all went the other. -/
theorem eq_left (h : Divided log here []) : log = here := by
  have length := h.all.length_eq
  rw [List.append_nil] at length
  exact (h.left.eq_of_length length.symm).symm

end Divided

end Ledger
