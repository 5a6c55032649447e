import Mathlib.Data.List.Basic

/-!
Logs of calls in which every call was allowed by the calls before it.
-/
namespace CallDiscipline
variable {α : Type*}

def Disciplined (allowed : List α → α → Prop) (log : List α) : Prop :=
  ∀ before c after, log = before ++ c :: after → allowed before c

section
variable {allowed : List α → α → Prop} {log : List α} {c : α}

theorem disciplined_nil : Disciplined allowed [] := by
  intro before c after split
  exact absurd split.symm (List.append_ne_nil_of_right_ne_nil before (List.cons_ne_nil c after))

/-- One more call. -/
theorem Disciplined.snoc (h : Disciplined allowed log) (here : allowed log c) :
    Disciplined allowed (log ++ [c]) := by
  intro before c' after split
  cases List.eq_nil_or_concat after with
  | inl none =>
      rw [none] at split
      obtain ⟨same, last⟩ := List.append_inj' split rfl
      rw [← same, ← List.singleton_injective last]
      exact here
  | inr some =>
      obtain ⟨after', last, isAfter⟩ := some
      rw [isAfter, List.concat_eq_append, ← List.cons_append, ← List.append_assoc] at split
      exact h before c' after' (List.append_inj' split rfl).1

/-- Calls that are allowed already, and stay so whatever is called before them. -/
theorem Disciplined.append {P : List α → α → Prop} {new : List α} (h : Disciplined allowed log)
    (ready : ∀ log c, P log c → allowed log c) (stays : ∀ log c c', P log c → P (log ++ [c']) c)
    (all : ∀ c ∈ new, P log c) : Disciplined allowed (log ++ new) := by
  induction new generalizing log with
  | nil =>
      rw [List.append_nil]
      exact h
  | cons c new ih =>
      rw [← List.singleton_append, ← List.append_assoc]
      refine ih (h.snoc (ready log c (all c List.mem_cons_self))) fun c' mem => ?_
      exact stays log c' c (all c' (List.mem_cons_of_mem c mem))

end

end CallDiscipline
