import ProbeTrace.Foundation.Run

/-!
A queue with one reader. The reader takes the oldest message at its turns, if the message
fits; everything else that happens can only add messages behind. The module knows nothing
of what the turns are.
-/
namespace Drain
open Transition

universe u v w
variable {σ : Type u} {α : Type v} {μ : Type w}

/-- How many actions of a run are turns of the reader. -/
def turns (step : σ → α → σ) (turn : σ → α → Bool) : σ → List α → Nat
  | _, [] => 0
  | s, a :: as => (if turn s a then 1 else 0) + turns step turn (step s a) as

/-- What the permitted steps do to the queue and to the messages taken from it. -/
structure Reader (step : σ → α → σ) (ok : σ → α → Prop) (turn : σ → α → Bool)
    (fits : μ → Prop) (taken queue : σ → List μ) : Prop where
  takes : ∀ s a m rest, ok s a → turn s a = true → queue s = m :: rest → fits m →
    taken (step s a) = taken s ++ [m] ∧ queue (step s a) = rest
  keeps : ∀ s a, ok s a → (turn s a = true → ∀ m rest, queue s = m :: rest → ¬ fits m) →
    taken (step s a) = taken s ∧ queue s <+: queue (step s a)

namespace Reader
variable {step : σ → α → σ} {ok : σ → α → Prop} {turn : σ → α → Bool} {fits : μ → Prop}
  {taken queue : σ → List μ} {s t : σ} {as : List α}

/-- A step of the reader takes the first of some messages, or they are still in front. -/
theorem front_step (h : Reader step ok turn fits taken queue) {a : α} (allowed : ok s a)
    {front : List μ} (waits : front <+: queue s) (fit : ∀ m ∈ front, fits m) :
    (∃ m rest, turn s a = true ∧ front = m :: rest ∧ taken (step s a) = taken s ++ [m] ∧
      rest <+: queue (step s a)) ∨
    ((turn s a = true → front = []) ∧ taken s <+: taken (step s a) ∧
      (front ≠ [] → taken (step s a) = taken s ∧ front <+: queue (step s a))) := by
  by_cases takes : turn s a = true ∧ ∃ m rest, queue s = m :: rest ∧ fits m
  · obtain ⟨isTurn, m, rest, isQueue, fitting⟩ := takes
    obtain ⟨isTaken, isRest⟩ := h.takes s a m rest allowed isTurn isQueue fitting
    cases front with
    | nil =>
        refine .inr ⟨fun _ => rfl, ?_, fun some => absurd rfl some⟩
        rw [isTaken]
        exact List.prefix_append _ _
    | cons m' front =>
        rw [isQueue, List.cons_prefix_cons] at waits
        obtain ⟨same, waits⟩ := waits
        subst same
        exact .inl ⟨m', front, isTurn, rfl, isTaken, isRest ▸ waits⟩
  · have keeps := h.keeps s a allowed fun isTurn m rest isQueue fitting =>
      takes ⟨isTurn, m, rest, isQueue, fitting⟩
    refine .inr ⟨fun isTurn => ?_, keeps.1 ▸ List.prefix_refl _,
      fun _ => ⟨keeps.1, waits.trans keeps.2⟩⟩
    cases front with
    | nil => rfl
    | cons m front =>
        obtain ⟨rest, isQueue⟩ := waits
        exact absurd ⟨isTurn, m, front ++ rest, isQueue.symm, fit m List.mem_cons_self⟩ takes

theorem taken_grows (h : Reader step ok turn fits taken queue) (run : Run step ok s as t) :
    taken s <+: taken t := by
  refine run.relates (R := fun s t => taken s <+: taken t) (fun _ => List.prefix_refl _)
    (fun h k => h.trans k) fun s a allowed => ?_
  cases h.front_step allowed (List.nil_prefix) fun m none => absurd none List.not_mem_nil with
  | inl takes =>
      obtain ⟨m, rest, -, isNil, -⟩ := takes
      exact absurd isNil.symm (List.cons_ne_nil m rest)
  | inr keeps => exact keeps.2.1

/-- As many turns as messages take all of them. -/
theorem drains (h : Reader step ok turn fits taken queue) (run : Run step ok s as t)
    {front : List μ} (waits : front <+: queue s) (fit : ∀ m ∈ front, fits m)
    (enough : front.length ≤ turns step turn s as) : taken s ++ front <+: taken t := by
  induction run generalizing front with
  | nil s =>
      have empty := List.length_eq_zero_iff.mp (Nat.le_zero.mp enough)
      subst empty
      exact ⟨[], by rw [List.append_nil, List.append_nil]⟩
  | @cons s a as t allowed rest ih =>
      have grows := h.taken_grows rest
      cases h.front_step allowed waits fit with
      | inl takes =>
          obtain ⟨m, front', isTurn, isFront, isTaken, waits'⟩ := takes
          subst isFront
          rw [turns, if_pos isTurn, List.length_cons, Nat.add_comm 1] at enough
          have later := ih waits' (fun m mem => fit m (.tail _ mem)) (Nat.le_of_succ_le_succ enough)
          rwa [isTaken, List.append_assoc, List.singleton_append] at later
      | inr keeps =>
          obtain ⟨noTurn, first, same⟩ := keeps
          by_cases some : front = []
          · rw [some, List.append_nil]
            exact first.trans grows
          · obtain ⟨isTaken, waits'⟩ := same some
            have quiet : ¬ turn s a = true := fun isTurn => some (noTurn isTurn)
            rw [turns, if_neg quiet, Nat.zero_add] at enough
            exact isTaken ▸ ih waits' fit enough

/-- A message that does not fit stops the reader for ever: of what waits, the turns take
the messages before it and nothing else. -/
theorem stuck (h : Reader step ok turn fits taken queue) (run : Run step ok s as t)
    {front rest : List μ} {m : μ} (waits : front ++ m :: rest <+: queue s)
    (fit : ∀ m ∈ front, fits m) (long : ¬ fits m) :
    taken t = taken s ++ front.take (turns step turn s as) ∧
      front.drop (turns step turn s as) ++ m :: rest <+: queue t := by
  induction run generalizing front with
  | nil s =>
      rw [turns, List.take_zero, List.append_nil, List.drop_zero]
      exact ⟨rfl, waits⟩
  | @cons s a as t allowed rest' ih =>
      obtain ⟨more, isQueue⟩ := waits
      by_cases isTurn : turn s a = true
      · rw [turns, if_pos isTurn, Nat.add_comm 1]
        cases front with
        | nil =>
            rw [List.nil_append] at isQueue
            have keeps := h.keeps s a allowed fun _ m' rest'' isQueue' fitting => by
              have head := isQueue.trans isQueue'
              rw [List.cons_append] at head
              exact long ((List.cons.inj head).1 ▸ fitting)
            have waits' : [] ++ m :: rest <+: queue (step s a) :=
              List.IsPrefix.trans ⟨more, isQueue⟩ keeps.2
            have later := ih waits' fit
            rw [List.take_nil, List.drop_nil, keeps.1] at later
            rw [List.take_nil, List.drop_nil]
            exact later
        | cons first front =>
            obtain ⟨isTaken, isRest⟩ := h.takes s a first (front ++ m :: rest ++ more) allowed
              isTurn isQueue.symm (fit first List.mem_cons_self)
            have waits' : front ++ m :: rest <+: queue (step s a) :=
              isRest ▸ List.prefix_append _ _
            have later := ih waits' fun m mem => fit m (.tail _ mem)
            rw [isTaken, List.append_assoc, List.singleton_append] at later
            exact later
      · have keeps := h.keeps s a allowed fun yes => absurd yes isTurn
        rw [turns, if_neg isTurn, Nat.zero_add, ← keeps.1]
        exact ih ((isQueue ▸ List.prefix_append _ _).trans keeps.2) fit

end Reader

end Drain
