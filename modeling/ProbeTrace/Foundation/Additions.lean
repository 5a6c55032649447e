import Mathlib.Data.List.Basic

/-!
Lists in a state that only grow, and what is added to them: members of a kind, function by
function.
-/
namespace Additions
variable {σ β : Type*}

/-- From `s` to `t` members that satisfy `P` are added to the list, and nothing else happens to
it. -/
def Adds (list : σ → List β) (P : β → Prop) (s t : σ) : Prop :=
  ∃ new, list t = list s ++ new ∧ ∀ b ∈ new, P b

namespace Adds
variable {list : σ → List β} {P Q : β → Prop} {s r t : σ}

theorem none (same : list t = list s) : Adds list P s t :=
  ⟨[], by rw [same, List.append_nil], fun _ none => absurd none List.not_mem_nil⟩

theorem one {b : β} (added : list t = list s ++ [b]) (kind : P b) : Adds list P s t :=
  ⟨[b], added, fun _ mem => List.mem_singleton.mp mem ▸ kind⟩

theorem trans (h : Adds list P s r) (k : Adds list P r t) : Adds list P s t := by
  obtain ⟨new, added, kind⟩ := h
  obtain ⟨more, added', kind'⟩ := k
  refine ⟨new ++ more, by rw [added', added, List.append_assoc], fun b mem => ?_⟩
  cases List.mem_append.mp mem with
  | inl here => exact kind b here
  | inr later => exact kind' b later

theorem mono (h : Adds list P s t) (sub : ∀ b, P b → Q b) : Adds list Q s t := by
  obtain ⟨new, added, kind⟩ := h
  exact ⟨new, added, fun b mem => sub b (kind b mem)⟩

/-- Members of another kind are not among the new ones. -/
theorem filter_eq {q : β → Bool} (h : Adds list P s t) (other : ∀ b, P b → q b = false) :
    (list t).filter q = (list s).filter q := by
  obtain ⟨new, added, kind⟩ := h
  have silent : new.filter q = [] := by
    rw [List.filter_eq_nil_iff]
    intro b mem
    rw [other b (kind b mem)]
    exact Bool.false_ne_true
  rw [added, List.filter_append, silent, List.append_nil]

end Adds

end Additions
