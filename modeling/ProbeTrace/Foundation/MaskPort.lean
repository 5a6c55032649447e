import ProbeTrace.Foundation.Sections

/-!
Critical sections that save and restore an interrupt mask. A function has one variable for the
mask it found: entering stores the mask there and sets it, leaving puts back what is stored. When
no function enters a section inside of one of its own, and functions that are called leave all of
theirs, the mask is set exactly when it was set at the start or a section is open.
-/
namespace Sections

/-- What a function performs, the calls it makes among it. -/
inductive Code
  | done
  | enter (k : Code)
  | exit (k : Code)
  | call (body k : Code)
  deriving DecidableEq, Repr

/-- How deep the code is after each entry and exit, from a depth `d`. -/
def depths : Int → List Section → List Int
  | _, [] => []
  | d, e :: events => (d + e.change) :: depths (d + e.change) events

theorem depths_append (d : Int) (before after : List Section) :
    depths d (before ++ after) = depths d before ++ depths (d + depth before) after := by
  induction before generalizing d with
  | nil =>
      rw [List.nil_append, depths, List.nil_append, depth, Int.add_zero]
  | cons e before ih =>
      rw [List.cons_append, depths, depths, ih, depth_cons, List.cons_append, Int.add_assoc]

namespace Code

/-- A function that makes no calls. -/
def ofSections : List Section → Code
  | [] => .done
  | .enter :: events => .enter (ofSections events)
  | .exit :: events => .exit (ofSections events)

/-- The entries and exits, in order. -/
def sections : Code → List Section
  | .done => []
  | .enter k => .enter :: k.sections
  | .exit k => .exit :: k.sections
  | .call body k => body.sections ++ k.sections

/-- The mask at the end; `found` is the function's variable, `m` the mask. A called function's
variable has no value at first. -/
def mask : Code → Bool → Bool → Bool
  | .done, _, m => m
  | .enter k, _, m => k.mask m true
  | .exit k, found, _ => k.mask found found
  | .call body k, found, m => k.mask found (body.mask false m)

/-- The mask after each entry and exit. -/
def masks : Code → Bool → Bool → List Bool
  | .done, _, _ => []
  | .enter k, _, m => true :: k.masks m true
  | .exit k, found, _ => found :: k.masks found found
  | .call body k, found, m => body.masks false m ++ k.masks found (body.mask false m)

/-- Whether the function ends inside of a section of its own. -/
def endsInside : Code → Bool → Bool
  | .done, inside => inside
  | .enter k, _ => k.endsInside true
  | .exit k, _ => k.endsInside false
  | .call _ k, inside => k.endsInside inside

/-- Entries and exits of a function alternate, and the functions it calls end outside. -/
def Alternates : Code → Bool → Prop
  | .done, _ => True
  | .enter k, inside => inside = false ∧ k.Alternates true
  | .exit k, inside => inside = true ∧ k.Alternates false
  | .call body k, inside => (body.Alternates false ∧ body.endsInside false = false) ∧
      k.Alternates inside

theorem sections_ofSections (events : List Section) : (ofSections events).sections = events := by
  induction events with
  | nil => rfl
  | cons e events ih =>
      cases e with
      | enter => exact congrArg (List.cons Section.enter) ih
      | exit => exact congrArg (List.cons Section.exit) ih

/-- How deep a function's own section is. -/
def level : Bool → Int
  | true => 1
  | false => 0

theorem depth_sections {c : Code} {inside : Bool} (h : c.Alternates inside) :
    level inside + depth c.sections = level (c.endsInside inside) := by
  induction c generalizing inside with
  | done => exact Int.add_zero _
  | enter k ih =>
      obtain ⟨rfl, rest⟩ := h
      have same := ih rest
      simp only [level, sections, depth_cons, Section.change, endsInside] at same ⊢
      omega
  | exit k ih =>
      obtain ⟨rfl, rest⟩ := h
      have same := ih rest
      simp only [level, sections, depth_cons, Section.change, endsInside] at same ⊢
      omega
  | call body k ihb ihk =>
      obtain ⟨⟨inBody, closed⟩, rest⟩ := h
      have first := ihb inBody
      have second := ihk rest
      rw [closed] at first
      simp only [sections, depth_append, endsInside] at second ⊢
      simp only [level] at first
      omega

/-- Whether interrupts are masked at a depth, when `m` says whether they were at the start. -/
def maskedAt (m : Bool) (d : Int) : Bool := m || decide (0 < d)

theorem maskedAt_pos (m : Bool) {d : Int} (pos : 0 < d) : maskedAt m d = true := by
  rw [maskedAt, decide_eq_true pos, Bool.or_true]

/-- From a depth `d` with the mask that belongs to it, a function's masks are those that belong
to the depths it goes through. -/
theorem mask_eq {c : Code} {inside : Bool} (h : c.Alternates inside) (base found : Bool) {d : Int}
    (deep : level inside ≤ d) (own : inside = true → found = maskedAt base (d - 1)) :
    c.mask found (maskedAt base d) = maskedAt base (d + depth c.sections) ∧
      c.masks found (maskedAt base d) = (depths d c.sections).map (maskedAt base) := by
  induction c generalizing inside found d with
  | done =>
      rw [sections, depth, Int.add_zero]
      exact ⟨rfl, rfl⟩
  | enter k ih =>
      obtain ⟨rfl, rest⟩ := h
      have inner : 0 < d + 1 := by
        simp only [level] at deep
        omega
      have next := ih rest (maskedAt base d) (d := d + 1) inner fun _ => by
        rw [Int.add_sub_cancel]
      rw [maskedAt_pos base inner] at next
      have shift : d + 1 + depth k.sections = d + depth (Section.enter :: k.sections) := by
        rw [depth_cons, Section.change, Int.add_assoc]
      refine ⟨?_, ?_⟩
      · exact next.1.trans (congrArg (maskedAt base) shift)
      · rw [masks, next.2, sections, depths, Section.change, List.map_cons,
          maskedAt_pos base inner]
  | exit k ih =>
      obtain ⟨rfl, rest⟩ := h
      have outer : level false ≤ d - 1 := by
        simp only [level] at deep ⊢
        omega
      have next := ih rest found (d := d - 1) outer fun no => absurd no Bool.false_ne_true
      have shift : d - 1 + depth k.sections = d + depth (Section.exit :: k.sections) := by
        rw [depth_cons, Section.change]
        omega
      rw [← own rfl] at next
      refine ⟨?_, ?_⟩
      · exact next.1.trans (congrArg (maskedAt base) shift)
      · rw [masks, next.2, sections, depths, Section.change, List.map_cons, own rfl]
        rfl
  | call body k ihb ihk =>
      obtain ⟨⟨inBody, closed⟩, rest⟩ := h
      have atZero : level false ≤ d := by
        cases inside with
        | false => exact deep
        | true => exact Int.le_trans (by decide) deep
      have first := ihb inBody false (d := d) atZero
        fun no => absurd no Bool.false_ne_true
      have returned : depth body.sections = 0 := by
        have same := depth_sections inBody
        rw [closed] at same
        simp only [level] at same
        omega
      rw [returned, Int.add_zero] at first
      have second := ihk rest found (d := d) deep own
      refine ⟨?_, ?_⟩
      · rw [mask, first.1, second.1, sections, depth_append, returned, Int.zero_add]
      · rw [masks, first.1, first.2, second.2, sections, depths_append, returned, Int.add_zero,
          List.map_append]

end Code
end Sections
