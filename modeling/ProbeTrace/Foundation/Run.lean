import Mathlib.Data.List.Range

/-!
Runs of a labelled transition function whose actions are subject to a permission
that may depend on the state. The module knows nothing about the system it is
used for: it fixes what a run is, how an invariant is carried along one, and how
two functions that emit outputs are shown to emit the same sequence.
-/
namespace Transition

universe u v w x
variable {σ : Type u} {α : Type v} {τ : Type w} {β : Type x}

/-- `Run step ok s as t`: the actions `as`, each permitted in the state in which
it is taken, lead from `s` to `t`. -/
inductive Run (step : σ → α → σ) (ok : σ → α → Prop) : σ → List α → σ → Prop
  | nil (s : σ) : Run step ok s [] s
  | cons {s : σ} {a : α} {as : List α} {t : σ} :
      ok s a → Run step ok (step s a) as t → Run step ok s (a :: as) t

namespace Run
variable {step : σ → α → σ} {ok ok' : σ → α → Prop} {s t r : σ} {as bs : List α}

theorem final_eq (h : Run step ok s as t) : t = as.foldl step s := by
  induction h with
  | nil s => rfl
  | cons _ _ ih => exact ih

/-- Where every action is permitted, every list of actions is a run. -/
theorem free (all : ∀ s a, ok s a) (s : σ) (as : List α) : Run step ok s as (as.foldl step s) := by
  induction as generalizing s with
  | nil => exact .nil s
  | cons a as ih => exact .cons (all s a) (ih (step s a))

theorem append (h : Run step ok s as r) (k : Run step ok r bs t) :
    Run step ok s (as ++ bs) t := by
  induction h with
  | nil s => exact k
  | cons ha _ ih => exact .cons ha (ih k)

theorem split (h : Run step ok s (as ++ bs) t) :
    ∃ r, Run step ok s as r ∧ Run step ok r bs t := by
  induction as generalizing s with
  | nil => exact ⟨s, .nil s, h⟩
  | cons a as ih =>
      cases h with
      | cons ha rest =>
          obtain ⟨r, left, right⟩ := ih rest
          exact ⟨r, .cons ha left, right⟩

theorem mono (sub : ∀ s a, ok s a → ok' s a) (h : Run step ok s as t) :
    Run step ok' s as t := by
  induction h with
  | nil s => exact .nil s
  | cons ha _ ih => exact .cons (sub _ _ ha) ih

/-- What holds of every action is a further permission. -/
theorem restrict {Q : α → Prop} (all : ∀ a ∈ as, Q a) (h : Run step ok s as t) :
    Run step (fun s a => ok s a ∧ Q a) s as t := by
  induction h with
  | nil s => exact .nil s
  | cons ha _ ih =>
      exact .cons ⟨ha, all _ List.mem_cons_self⟩ (ih fun a mem => all a (.tail _ mem))

/-- What holds at the start and is kept by every permitted step holds at the end. -/
theorem invariant {P : σ → Prop} (keep : ∀ s a, P s → ok s a → P (step s a))
    (h : Run step ok s as t) (start : P s) : P t := by
  induction h with
  | nil s => exact start
  | cons ha _ ih => exact ih (keep _ _ start ha)

/-- An invariant may be used as a further permission of every later step. -/
theorem strengthen {P : σ → Prop} (keep : ∀ s a, P s → ok s a → P (step s a))
    (h : Run step ok s as t) (start : P s) :
    Run step (fun s a => ok s a ∧ P s) s as t := by
  induction h with
  | nil s => exact .nil s
  | cons ha _ ih => exact .cons ⟨ha, start⟩ (ih (keep _ _ start ha))

/-- A reflexive and transitive relation kept by every permitted step relates the
two ends of a run. -/
theorem relates {R : σ → σ → Prop} (refl : ∀ s, R s s)
    (trans : ∀ {s r t}, R s r → R r t → R s t)
    (keep : ∀ s a, ok s a → R s (step s a)) (h : Run step ok s as t) : R s t := by
  induction h with
  | nil s => exact refl s
  | cons ha _ ih => exact trans (keep _ _ ha) ih

/-- What holds before a permitted step whenever it holds after it held all along, when it
holds at the end. -/
theorem backward {P : σ → Prop} (back : ∀ s a, ok s a → P (step s a) → P s)
    (h : Run step ok s as t) (last : P t) :
    P s ∧ Run step (fun s a => ok s a ∧ P (step s a)) s as t := by
  induction h with
  | nil s => exact ⟨last, .nil s⟩
  | cons ha _ ih =>
      obtain ⟨next, rest⟩ := ih last
      exact ⟨back _ _ ha next, .cons ⟨ha, next⟩ rest⟩

/-- When a property is kept by the good steps only and does not come back once lost, it
holds at the end exactly when every step was good. -/
theorem holds_iff {P : σ → Prop} {good : σ → α → Prop}
    (keep : ∀ s a, P s → ok s a → (P (step s a) ↔ good s a))
    (lost : ∀ s a, ¬ P s → ok s a → ¬ P (step s a)) (h : Run step ok s as t) (start : P s) :
    P t ↔ Run step good s as t := by
  have gone : ∀ {s t as}, Run step ok s as t → ¬ P s → ¬ P t := by
    intro s t as run
    exact run.invariant (P := fun s => ¬ P s) lost
  induction h with
  | nil s => exact iff_of_true start (.nil s)
  | cons ha rest ih =>
      constructor
      · intro holds
        have next := Classical.byContradiction fun not => gone rest not holds
        exact .cons ((keep _ _ start ha).mp next) ((ih next).mp holds)
      · intro run
        cases run with
        | cons isGood run =>
            have next := (keep _ _ start ha).mpr isGood
            exact (ih next).mpr run

/-- When a party's own steps count down and the others change nothing of the count, a run counts
down by its own steps. -/
theorem countdown (left : σ → Nat) (own : α → Bool)
    (keep : ∀ s a, ok s a → left s = left (step s a) + if own a then 1 else 0)
    (h : Run step ok s as t) : left s = left t + as.countP own := by
  induction h with
  | nil s => rfl
  | cons ha _ ih => rw [keep _ _ ha, ih, List.countP_cons, Nat.add_assoc]

/-- A checked list of actions is a run; the check evaluates. -/
def check (step : σ → α → σ) (ok : σ → α → Prop) [∀ s a, Decidable (ok s a)] :
    σ → List α → Bool
  | _, [] => true
  | s, a :: as => decide (ok s a) && check step ok (step s a) as

theorem of_check [∀ s a, Decidable (ok s a)] (h : check step ok s as = true) :
    Run step ok s as (as.foldl step s) := by
  induction as generalizing s with
  | nil => exact .nil s
  | cons a as ih =>
      simp only [check, Bool.and_eq_true, decide_eq_true_eq] at h
      exact .cons h.1 (ih h.2)

end Run

/-- The outputs of a run, in order. -/
def outputs (step : σ → α → σ) (emit : σ → α → List β) : σ → List α → List β
  | _, [] => []
  | s, a :: as => emit s a ++ outputs step emit (step s a) as

theorem outputs_append (step : σ → α → σ) (emit : σ → α → List β) (s : σ)
    (as bs : List α) :
    outputs step emit s (as ++ bs) =
      outputs step emit s as ++ outputs step emit (as.foldl step s) bs := by
  induction as generalizing s with
  | nil => rfl
  | cons a as ih => simp only [List.cons_append, outputs, ih, List.foldl_cons,
      List.append_assoc]

/-- What every output of every permitted step satisfies, every output of a run does. -/
theorem Run.outputs_forall {step : σ → α → σ} {ok : σ → α → Prop} {emit : σ → α → List β}
    {P : β → Prop} {s t : σ} {as : List α} (h : Run step ok s as t)
    (each : ∀ s a, ok s a → ∀ b ∈ emit s a, P b) : ∀ b ∈ outputs step emit s as, P b := by
  induction h with
  | nil s => exact fun _ none => nomatch none
  | cons ha _ ih =>
      intro b mem
      rw [outputs, List.mem_append] at mem
      cases mem with
      | inl here => exact each _ _ ha b here
      | inr later => exact ih b later

/-- When every step emits nothing, or emits the next member of a sequence and counts on,
a run emits an initial part of the sequence. -/
theorem Run.counted {step : σ → α → σ} {ok : σ → α → Prop} {emit : σ → α → List β}
    {f : Nat → β} {R : Nat → σ → Prop}
    (keep : ∀ n s a, R n s → ok s a → emit s a = [] ∧ R n (step s a) ∨
      emit s a = [f n] ∧ R (n + 1) (step s a))
    {s t : σ} {as : List α} (h : Run step ok s as t) (start : R 0 s) :
    ∃ n, outputs step emit s as = (List.range n).map f ∧ R n t := by
  have from' : ∀ {k : Nat}, R k s → ∃ n, outputs step emit s as =
      (List.range' k n).map f ∧ R (k + n) t := by
    clear start
    induction h with
    | nil s => exact fun start => ⟨0, rfl, start⟩
    | cons ha _ ih =>
        intro k start
        cases keep k _ _ start ha with
        | inl quiet =>
            obtain ⟨n, rest, final⟩ := ih quiet.2
            exact ⟨n, by rw [outputs, quiet.1, rest, List.nil_append], final⟩
        | inr counts =>
            obtain ⟨n, rest, final⟩ := ih counts.2
            refine ⟨n + 1, ?_, by rwa [Nat.add_comm n, ← Nat.add_assoc]⟩
            rw [outputs, counts.1, rest, List.range'_succ, List.map_cons,
              List.singleton_append]
  obtain ⟨n, emitted, final⟩ := from' start
  exact ⟨n, by rw [emitted, List.range_eq_range'], Nat.zero_add n ▸ final⟩

/-- Where nothing is emitted any more, a run emits nothing. -/
theorem Run.silent {step : σ → α → σ} {ok : σ → α → Prop} {emit : σ → α → List β}
    {D : σ → Prop} (stays : ∀ s a, D s → ok s a → emit s a = [] ∧ D (step s a))
    {s t : σ} {as : List α} (h : Run step ok s as t) (done : D s) :
    outputs step emit s as = [] := by
  induction h with
  | nil s => rfl
  | cons ha _ ih =>
      obtain ⟨nothing, done⟩ := stays _ _ done ha
      rw [outputs, nothing, ih done, List.append_nil]

/-- When a step that emits leads to where nothing is emitted any more, a run emits at most
once. -/
theorem Run.emits_once {step : σ → α → σ} {ok : σ → α → Prop} {emit : σ → α → List β}
    {D : σ → Prop} (stays : ∀ s a, D s → ok s a → emit s a = [] ∧ D (step s a))
    (once : ∀ s a, ok s a → emit s a = [] ∨ (emit s a).length = 1 ∧ D (step s a))
    {s t : σ} {as : List α} (h : Run step ok s as t) : (outputs step emit s as).length ≤ 1 := by
  induction h with
  | nil s => exact Nat.zero_le 1
  | cons ha rest ih =>
      cases once _ _ ha with
      | inl nothing => rwa [outputs, nothing, List.nil_append]
      | inr fires => rw [outputs, rest.silent stays fires.2, List.append_nil, fires.1]

/-- Forward simulation with outputs: related states stay related and emit the
same outputs, so whole runs do. -/
theorem Run.simulates {step : σ → α → σ} {ok : σ → α → Prop} {emit : σ → α → List β}
    {spec : τ → α → τ} {specEmit : τ → α → List β} {R : σ → τ → Prop}
    (keep : ∀ s t a, ok s a → R s t →
      emit s a = specEmit t a ∧ R (step s a) (spec t a))
    {s s' : σ} {as : List α} {t : τ} (h : Run step ok s as s') (start : R s t) :
    outputs step emit s as = outputs spec specEmit t as ∧ R s' (as.foldl spec t) := by
  induction h generalizing t with
  | nil s => exact ⟨rfl, start⟩
  | cons ha _ ih =>
      obtain ⟨same, next⟩ := keep _ t _ ha start
      obtain ⟨rest, final⟩ := ih next
      exact ⟨by simp only [outputs, same, rest], final⟩

/-- When every permitted step is a run of another system, of any length, from every state it is
related to, runs are. -/
theorem Run.refines {γ : Type*} {step : σ → α → σ} {ok : σ → α → Prop} {spec : τ → γ → τ}
    {specOk : τ → γ → Prop} {R : σ → τ → Prop}
    (keep : ∀ s t a, ok s a → R s t → ∃ bs u, Run spec specOk t bs u ∧ R (step s a) u)
    {s s' : σ} {as : List α} {t : τ} (h : Run step ok s as s') (start : R s t) :
    ∃ bs u, Run spec specOk t bs u ∧ R s' u := by
  induction h generalizing t with
  | nil s => exact ⟨[], t, .nil t, start⟩
  | cons ha _ ih =>
      obtain ⟨bs, u, first, next⟩ := keep _ t _ ha start
      obtain ⟨cs, u', rest, final⟩ := ih next
      exact ⟨bs ++ cs, u', first.append rest, final⟩

/-- What every step keeps of the state, of what another function makes of the actions and of
the outputs so far, a run keeps. -/
theorem Run.accumulates {step : σ → α → σ} {ok : σ → α → Prop} {emit : σ → α → List β}
    {spec : τ → α → τ} {R : σ → τ → List β → Prop}
    (keep : ∀ s t out a, ok s a → R s t out → R (step s a) (spec t a) (out ++ emit s a))
    {s s' : σ} {as : List α} {t : τ} {out : List β} (h : Run step ok s as s')
    (start : R s t out) : R s' (as.foldl spec t) (out ++ outputs step emit s as) := by
  induction h generalizing t out with
  | nil s => rwa [outputs, List.append_nil]
  | cons ha _ ih =>
      have rest := ih (keep _ _ _ _ ha start)
      rwa [List.append_assoc] at rest

end Transition
