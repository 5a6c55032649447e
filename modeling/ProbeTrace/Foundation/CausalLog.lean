import Mathlib.Logic.Relation

/-!
Causality in a trace whose entries are placed in logs. An edge leads from an entry to the
next one in the same log, and from an entry that writes a cell to an entry that reads what
it wrote. When the logs hand a cell on from one to the next, every marked entry is joined
to every later one by a path of edges. The module knows nothing of who writes the logs.
-/
namespace CausalLog

universe u v w x
variable {ε : Type u} {π : Type v} {κ : Type w} {ν : Type x}

/-- The log an entry is placed in, if any, the cell it writes or reads, and the value. -/
structure Reading (ε : Type u) (π : Type v) (κ : Type w) (ν : Type x) where
  log : ε → Option π
  writes : ε → Option κ
  reads : ε → Option κ
  value : ε → Option ν

/-- `i` is the last position before `k` with an entry of the given kind. -/
structure LastBefore (P : ε → Prop) (entries : List ε) (i k : Nat) : Prop where
  lt : i < k
  here : ∃ e, entries[i]? = some e ∧ P e
  none : ∀ j e, i < j → j < k → entries[j]? = some e → ¬ P e

/-- The entry at `k` is the next one in the log of the entry at `i`. -/
def Next (r : Reading ε π κ ν) (entries : List ε) (i k : Nat) : Prop :=
  ∃ e p, entries[k]? = some e ∧ r.log e = some p ∧
    LastBefore (fun e => r.log e = some p) entries i k

/-- The entry at `k` reads the value that the entry at `i`, of some log, wrote to a cell. -/
def Delivers (r : Reading ε π κ ν) (entries : List ε) (i k : Nat) : Prop :=
  ∃ e e' c, entries[i]? = some e ∧ entries[k]? = some e' ∧ (r.log e).isSome = true ∧
    r.reads e' = some c ∧ r.value e' = r.value e ∧
    LastBefore (fun e => r.writes e = some c) entries i k

def Edge (r : Reading ε π κ ν) (entries : List ε) (i k : Nat) : Prop :=
  Next r entries i k ∨ Delivers r entries i k

def Path (r : Reading ε π κ ν) (entries : List ε) : Nat → Nat → Prop :=
  Relation.TransGen (Edge r entries)

/-! Longer traces. -/

/-- An entry of a trace with one more entry. -/
theorem getElem?_concat {entries : List ε} {e e' : ε} {i : Nat}
    (at_i : (entries ++ [e])[i]? = some e') :
    i < entries.length ∧ entries[i]? = some e' ∨ i = entries.length ∧ e' = e := by
  by_cases inside : i < entries.length
  · rw [List.getElem?_append_left inside] at at_i
    exact .inl ⟨inside, at_i⟩
  · have bound := (List.getElem?_eq_some_iff.mp at_i).1
    rw [List.length_append] at bound
    have isEnd : i = entries.length :=
      Nat.le_antisymm (Nat.le_of_lt_succ bound) (Nat.not_lt.mp inside)
    rw [isEnd, List.getElem?_concat_length, Option.some.injEq] at at_i
    exact .inr ⟨isEnd, at_i.symm⟩

namespace LastBefore
variable {P : ε → Prop} {entries : List ε} {i k : Nat} {e : ε}

theorem append (h : LastBefore P entries i k) (inside : k ≤ entries.length) (more : List ε) :
    LastBefore P (entries ++ more) i k where
  lt := h.lt
  here := by
    obtain ⟨e, at_i, isP⟩ := h.here
    exact ⟨e, by rwa [List.getElem?_append_left (Nat.lt_of_lt_of_le h.lt inside)], isP⟩
  none j e after before at_j := by
    rw [List.getElem?_append_left (Nat.lt_of_lt_of_le before inside)] at at_j
    exact h.none j e after before at_j

/-- A new entry of the kind is the last one. -/
theorem last (entries : List ε) (isP : P e) :
    LastBefore P (entries ++ [e]) entries.length (entries ++ [e]).length where
  lt := by
    rw [List.length_append]
    exact Nat.lt_succ_self _
  here := ⟨e, List.getElem?_concat_length, isP⟩
  none j e after before := by
    rw [List.length_append] at before
    exact absurd before (Nat.not_lt.mpr after)

/-- A new entry of another kind leaves the last one where it was. -/
theorem skip (h : LastBefore P entries i entries.length) (other : ¬ P e) :
    LastBefore P (entries ++ [e]) i (entries ++ [e]).length where
  lt := by
    rw [List.length_append]
    exact Nat.lt_succ_of_lt h.lt
  here := (h.append (Nat.le_refl _) [e]).here
  none j e' after _ at_j := by
    cases getElem?_concat at_j with
    | inl old => exact h.none j e' after old.1 old.2
    | inr new => exact new.2 ▸ other

end LastBefore

variable {r : Reading ε π κ ν} {entries : List ε}

theorem Delivers.append {i k : Nat} (h : Delivers r entries i k) (more : List ε) :
    Delivers r (entries ++ more) i k := by
  obtain ⟨e, e', c, at_i, at_k, logged, reads, value, last⟩ := h
  have inside := (List.getElem?_eq_some_iff.mp at_k).1
  have inside' := Nat.lt_trans last.lt inside
  exact ⟨e, e', c, by rwa [List.getElem?_append_left inside'],
    by rwa [List.getElem?_append_left inside], logged, reads, value,
    last.append (Nat.le_of_lt inside) more⟩

theorem Edge.append {i k : Nat} (h : Edge r entries i k) (more : List ε) :
    Edge r (entries ++ more) i k := by
  cases h with
  | inl next =>
      obtain ⟨e, p, at_k, isLog, last⟩ := next
      have inside := (List.getElem?_eq_some_iff.mp at_k).1
      exact .inl ⟨e, p, by rwa [List.getElem?_append_left inside], isLog,
        last.append (Nat.le_of_lt inside) more⟩
  | inr delivers => exact .inr (delivers.append more)

theorem Path.append {i k : Nat} (h : Path r entries i k) (more : List ε) :
    Path r (entries ++ more) i k :=
  Relation.TransGen.mono (fun _ _ edge => Edge.append edge more) i k h

/-! What holds when all marked entries so far lead to one entry. -/

variable {marked : ε → Prop} {e : ε} {p : π}

/-- Every marked entry is the entry at `h` or leads to it. -/
def Gathers (r : Reading ε π κ ν) (marked : ε → Prop) (entries : List ε) (h : Nat) : Prop :=
  ∀ i e, entries[i]? = some e → marked e → i = h ∨ Path r entries i h

namespace Gathers
variable {h : Nat}

/-- A new entry with an edge from the one that gathers gathers. -/
theorem edge (gathers : Gathers r marked entries h)
    (new : Edge r (entries ++ [e]) h entries.length) :
    Gathers r marked (entries ++ [e]) entries.length := by
  intro i e' at_i isMarked
  cases getElem?_concat at_i with
  | inl old =>
      cases gathers i e' old.2 isMarked with
      | inl same => exact .inr (.single (same ▸ new))
      | inr path => exact .inr ((path.append [e]).tail new)
  | inr last => exact .inl last.1

/-- A new entry that is not marked does not matter. -/
theorem skip (gathers : Gathers r marked entries h) (unmarked : ¬ marked e) :
    Gathers r marked (entries ++ [e]) h := by
  intro i e' at_i isMarked
  cases getElem?_concat at_i with
  | inl old => exact (gathers i e' old.2 isMarked).imp id fun path => path.append [e]
  | inr last => exact absurd (last.2 ▸ isMarked) unmarked

/-- The next entry of the same log. -/
theorem next (gathers : Gathers r marked entries h)
    (last : LastBefore (fun e => r.log e = some p) entries h entries.length)
    (isLog : r.log e = some p) : Gathers r marked (entries ++ [e]) entries.length :=
  gathers.edge (.inl ⟨e, p, List.getElem?_concat_length, isLog,
    last.append (Nat.le_refl _) [e]⟩)

end Gathers

/-- The marked entries are joined, and what is read was written by an entry of a log. -/
structure Causal (r : Reading ε π κ ν) (marked : ε → Prop) (entries : List ε) : Prop where
  joined : ∀ i k e e', i < k → entries[i]? = some e → entries[k]? = some e' → marked e →
    marked e' → Path r entries i k
  delivered : ∀ k e c, entries[k]? = some e → r.reads e = some c → ∃ i, Delivers r entries i k

theorem Causal.nil : Causal r marked ([] : List ε) where
  joined _ _ _ _ _ none := (Option.some_ne_none _ none.symm).elim
  delivered _ _ _ none := (Option.some_ne_none _ none.symm).elim

/-- A new entry that gathers if it is marked, and reads what an entry of a log wrote. -/
theorem Causal.append (h : Causal r marked entries)
    (gathers : marked e → Gathers r marked (entries ++ [e]) entries.length)
    (delivers : ∀ c, r.reads e = some c → ∃ i, Delivers r (entries ++ [e]) i entries.length) :
    Causal r marked (entries ++ [e]) where
  joined i k e₁ e₂ before at_i at_k isMarked isMarked' := by
    cases getElem?_concat at_k with
    | inl old =>
        rw [List.getElem?_append_left (Nat.lt_trans before old.1)] at at_i
        exact (h.joined i k e₁ e₂ before at_i old.2 isMarked isMarked').append [e]
    | inr last =>
        obtain ⟨isEnd, isNew⟩ := last
        subst isEnd isNew
        exact (gathers isMarked' i e₁ at_i isMarked).resolve_left (Nat.ne_of_lt before)
  delivered k e' c at_k reads := by
    cases getElem?_concat at_k with
    | inl old =>
        obtain ⟨i, delivered⟩ := h.delivered k e' c old.2 reads
        exact ⟨i, delivered.append [e]⟩
    | inr last =>
        obtain ⟨isEnd, isNew⟩ := last
        subst isEnd isNew
        exact delivers c reads

/-- An entry that reads nothing. -/
theorem Causal.plain (h : Causal r marked entries) (plain : r.reads e = none)
    (gathers : marked e → Gathers r marked (entries ++ [e]) entries.length) :
    Causal r marked (entries ++ [e]) :=
  h.append gathers fun c reads => (Option.some_ne_none c (reads.symm.trans plain)).elim

/-! Where the causal past is: nowhere yet, in a log, or on offer in a cell. -/

structure Quiet (r : Reading ε π κ ν) (marked : ε → Prop) (entries : List ε) : Prop where
  causal : Causal r marked entries
  unmarked : ∀ (i : Nat) (e : ε), entries[i]? = some e → ¬ marked e

/-- The last entry of the log `p` gathers. -/
structure Held (r : Reading ε π κ ν) (marked : ε → Prop) (entries : List ε) (p : π) :
    Prop where
  causal : Causal r marked entries
  head : ∃ h, LastBefore (fun e => r.log e = some p) entries h entries.length ∧
    Gathers r marked entries h

/-- Besides, it is the last one that wrote the cell `c`, and wrote the value `v`. -/
structure Offered (r : Reading ε π κ ν) (marked : ε → Prop) (entries : List ε) (p : π) (c : κ)
    (v : Option ν) : Prop where
  causal : Causal r marked entries
  head : ∃ (h : Nat) (e : ε), entries[h]? = some e ∧ r.value e = v ∧
    LastBefore (fun e => r.log e = some p) entries h entries.length ∧
    LastBefore (fun e => r.writes e = some c) entries h entries.length ∧
    Gathers r marked entries h

namespace Quiet

theorem nil : Quiet r marked ([] : List ε) where
  causal := .nil
  unmarked _ _ none := (Option.some_ne_none _ none.symm).elim

theorem skip (h : Quiet r marked entries) (plain : r.reads e = none) (unmarked : ¬ marked e) :
    Quiet r marked (entries ++ [e]) where
  causal := h.causal.plain plain fun isMarked => absurd isMarked unmarked
  unmarked i e' at_i := by
    cases getElem?_concat at_i with
    | inl old => exact h.unmarked i e' old.2
    | inr last => exact last.2 ▸ unmarked

/-- The first entry of a log that may be marked. -/
theorem start (h : Quiet r marked entries) (plain : r.reads e = none)
    (isLog : r.log e = some p) : Held r marked (entries ++ [e]) p := by
  have gathers : Gathers r marked (entries ++ [e]) entries.length := by
    intro i e' at_i isMarked
    cases getElem?_concat at_i with
    | inl old => exact absurd isMarked (h.unmarked i e' old.2)
    | inr last => exact .inl last.1
  exact ⟨h.causal.plain plain fun _ => gathers, entries.length, .last entries isLog, gathers⟩

end Quiet

namespace Held

/-- The log goes on. -/
theorem record (h : Held r marked entries p) (plain : r.reads e = none)
    (isLog : r.log e = some p) : Held r marked (entries ++ [e]) p := by
  obtain ⟨i, last, gathers⟩ := h.head
  have next := gathers.next last isLog
  exact ⟨h.causal.plain plain fun _ => next, entries.length, .last entries isLog, next⟩

theorem skip (h : Held r marked entries p) (plain : r.reads e = none)
    (unmarked : ¬ marked e) (other : r.log e ≠ some p) : Held r marked (entries ++ [e]) p := by
  obtain ⟨i, last, gathers⟩ := h.head
  exact ⟨h.causal.plain plain fun isMarked => absurd isMarked unmarked, i, last.skip other,
    gathers.skip unmarked⟩

/-- An entry of the log writes a cell. -/
theorem offer {c : κ} (h : Held r marked entries p) (plain : r.reads e = none)
    (isLog : r.log e = some p) (writes : r.writes e = some c) :
    Offered r marked (entries ++ [e]) p c (r.value e) := by
  obtain ⟨i, last, gathers⟩ := h.head
  have next := gathers.next last isLog
  exact ⟨h.causal.plain plain fun _ => next, entries.length, e, List.getElem?_concat_length, rfl,
    .last entries isLog, .last entries writes, next⟩

end Held

namespace Offered
variable {c : κ} {v : Option ν}

theorem held (h : Offered r marked entries p c v) : Held r marked entries p := by
  obtain ⟨i, e, -, -, last, -, gathers⟩ := h.head
  exact ⟨h.causal, i, last, gathers⟩

theorem skip (h : Offered r marked entries p c v) (plain : r.reads e = none)
    (unmarked : ¬ marked e) (other : r.log e ≠ some p) (kept : r.writes e ≠ some c) :
    Offered r marked (entries ++ [e]) p c v := by
  obtain ⟨i, e', at_i, value, last, written, gathers⟩ := h.head
  refine ⟨h.causal.plain plain fun isMarked => absurd isMarked unmarked, i, e', ?_, value,
    last.skip other, written.skip kept, gathers.skip unmarked⟩
  rwa [List.getElem?_append_left last.lt]

/-- An entry of another log reads the cell. -/
theorem receive {q : π} (h : Offered r marked entries p c v) (reads : r.reads e = some c)
    (value : r.value e = v) (isLog : r.log e = some q) : Held r marked (entries ++ [e]) q := by
  obtain ⟨i, e', at_i, isValue, last, written, gathers⟩ := h.head
  have logged : (r.log e').isSome = true := by
    obtain ⟨e₀, at_i', isOwn⟩ := last.here
    obtain rfl : e' = e₀ := Option.some.inj (at_i.symm.trans at_i')
    exact Option.isSome_iff_exists.mpr ⟨p, isOwn⟩
  have delivers : Delivers r (entries ++ [e]) i entries.length := by
    refine ⟨e', e, c, ?_, List.getElem?_concat_length, logged, reads, value.trans isValue.symm,
      written.append (Nat.le_refl _) [e]⟩
    rwa [List.getElem?_append_left last.lt]
  have next : Gathers r marked (entries ++ [e]) entries.length := gathers.edge (.inr delivers)
  refine ⟨h.causal.append (fun _ => next) fun c' reads' => ?_, entries.length,
    .last entries isLog, next⟩
  obtain rfl : c = c' := Option.some.inj (reads.symm.trans reads')
  exact ⟨i, delivers⟩

end Offered

end CausalLog
