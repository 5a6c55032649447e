import Mathlib.Data.List.Nodup
import Mathlib.Data.List.Range

/-!
A pass over the cells of a table while others fill its free cells. A cell that is filled keeps
its contents, and the pass looks at each cell once, in order. It sees everything that was in
the table when it began, and nothing that is not there when it ends.
-/
namespace TableScan

universe u
variable {β : Type u} {first last later : Nat → Option β} {n : Nat} {seen : List β}

/-- The contents of the first `n` cells, in order. -/
def entries (table : Nat → Option β) (n : Nat) : List β := (List.range n).filterMap table

/-- Filled cells keep their contents. -/
def Grows (first last : Nat → Option β) : Prop := ∀ i b, first i = some b → last i = some b

theorem Grows.refl (table : Nat → Option β) : Grows table table := fun _ _ h => h

theorem Grows.trans (h : Grows first last) (k : Grows last later) : Grows first later :=
  fun i b isEntry => k i b (h i b isEntry)

theorem entries_succ (table : Nat → Option β) (n : Nat) :
    entries table (n + 1) = entries table n ++ (table n).toList := by
  rw [entries, List.range_succ, List.filterMap_append]
  cases at_n : table n with
  | none => simp [entries, at_n]
  | some b => simp [entries, at_n]

theorem Grows.toList (h : Grows first last) (i : Nat) :
    (first i).toList.Sublist (last i).toList := by
  cases at_i : first i with
  | none => exact List.nil_sublist _
  | some b => rw [h i b at_i]

theorem Grows.entries (h : Grows first last) (n : Nat) :
    (entries first n).Sublist (entries last n) := by
  induction n with
  | zero => exact List.Sublist.refl _
  | succ n ih =>
      rw [entries_succ, entries_succ]
      exact ih.append (h.toList n)

/-- No entry occurs twice when no two cells have the same contents. -/
theorem entries_nodup {table : Nat → Option β}
    (distinct : ∀ i j b, table i = some b → table j = some b → i = j) (n : Nat) :
    (entries table n).Nodup := by
  refine List.nodup_range.filterMap ?_
  intro i j b at_i at_j
  exact distinct i j b at_i at_j

/-- What a pass may have seen of the first `n` cells: all that was there when it began, and no
more than is there now. -/
structure Between (first last : Nat → Option β) (n : Nat) (seen : List β) : Prop where
  old : (entries first n).Sublist seen
  new : seen.Sublist (entries last n)

namespace Between

theorem start (first last : Nat → Option β) : Between first last 0 [] :=
  ⟨List.Sublist.refl _, List.Sublist.refl _⟩

/-- The pass goes on to the next cell. -/
theorem visit (h : Between first last n seen) (grows : Grows first last) :
    Between first last (n + 1) (seen ++ (last n).toList) where
  old := by
    rw [entries_succ]
    exact h.old.append (grows.toList n)
  new := by
    rw [entries_succ]
    exact h.new.append (List.Sublist.refl _)

/-- Others fill cells. -/
theorem grow (h : Between first last n seen) (grows : Grows last later) :
    Between first later n seen :=
  ⟨h.old, h.new.trans (grows.entries n)⟩

end Between

end TableScan
