/-!
Nested critical sections, as the sequence of entries and exits that a piece of code
performs. A piece is sound when at no point it has left more sections than it entered.
-/
namespace Sections

inductive Section
  | enter
  | exit
  deriving DecidableEq, Repr

def Section.change : Section → Int
  | .enter => 1
  | .exit => -1

/-- How much deeper the code ends than it started. -/
def depth : List Section → Int
  | [] => 0
  | e :: events => e.change + depth events

@[simp] theorem depth_cons (e : Section) (events : List Section) :
    depth (e :: events) = e.change + depth events := rfl

theorem depth_append (before after : List Section) :
    depth (before ++ after) = depth before + depth after := by
  induction before with
  | nil => exact (Int.zero_add _).symm
  | cons e before ih => rw [List.cons_append, depth_cons, depth_cons, ih, Int.add_assoc]

/-- At no point more sections were left than entered. -/
def Nested (events : List Section) : Prop :=
  ∀ before after, events = before ++ after → 0 ≤ depth before

/-- Every section that was entered was left. -/
structure Balanced (events : List Section) : Prop where
  nested : Nested events
  depth : depth events = 0

theorem Nested.nil : Nested [] := by
  intro before after split
  rw [(List.append_eq_nil_iff.mp split.symm).1]
  exact Int.le_refl 0

theorem Nested.depth_nonneg {events : List Section} (h : Nested events) : 0 ≤ depth events :=
  h events [] (List.append_nil events).symm

theorem Nested.append {events events' : List Section} (h : Nested events)
    (k : Nested events') : Nested (events ++ events') := by
  intro before after split
  cases List.append_eq_append_iff.mp split with
  | inl longer =>
      obtain ⟨rest, rfl, inside⟩ := longer
      have nonneg := h.depth_nonneg
      have rest_nonneg := k rest after inside
      rw [depth_append]
      omega
  | inr shorter =>
      obtain ⟨rest, inside, -⟩ := shorter
      exact h before rest inside

/-- Sections entered and not left again. -/
theorem Nested.enter {events : List Section} (h : Nested events) :
    Nested (.enter :: events) := by
  have opened : Nested [.enter] := by
    intro before after split
    cases before with
    | nil => exact Int.le_refl 0
    | cons e before =>
        obtain ⟨first, rest⟩ := List.cons.inj split
        rw [← first, (List.append_eq_nil_iff.mp rest.symm).1]
        decide
  exact opened.append h

theorem Balanced.nil : Balanced [] := ⟨.nil, rfl⟩

theorem Balanced.append {events events' : List Section} (h : Balanced events)
    (k : Balanced events') : Balanced (events ++ events') where
  nested := h.nested.append k.nested
  depth := by rw [depth_append, h.depth, k.depth]; rfl

/-- A section around balanced code. -/
theorem Balanced.around {events : List Section} (h : Balanced events) :
    Balanced (.enter :: (events ++ [.exit])) where
  nested := by
    intro before after split
    cases before with
    | nil => exact Int.le_refl 0
    | cons e before =>
        obtain ⟨first, tail⟩ := List.cons.inj split
        have inner : -1 ≤ Sections.depth before := by
          cases List.append_eq_append_iff.mp tail with
          | inl longer =>
              obtain ⟨rest, rfl, inside⟩ := longer
              rw [depth_append, h.depth]
              cases rest with
              | nil => decide
              | cons e rest =>
                  obtain ⟨last, nothing⟩ := List.cons.inj inside
                  rw [← last, (List.append_eq_nil_iff.mp nothing.symm).1]
                  decide
          | inr shorter =>
              obtain ⟨rest, inside, -⟩ := shorter
              have nonneg := h.nested before rest inside
              omega
        rw [← first, depth_cons]
        simp only [Section.change]
        omega
  depth := by
    rw [depth_cons, depth_append, h.depth]
    decide

end Sections
