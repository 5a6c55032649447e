import Mathlib.Algebra.Ring.Nat
import Mathlib.Data.List.Range

/-!
Blocks of one size, taken in order from a pool of bytes. The index of the next block is
kept in a word of a given width, and so is the sum that decides a request; for a pool
smaller than half of the address space the sum never wraps.
-/
namespace BlockPool

/-- One request: the offset of the block, and the index after it. -/
def take (width capacity size next : Nat) : Option Nat × Nat :=
  if (next + size) % 2 ^ width ≤ capacity then (some next, (next + size) % 2 ^ width)
  else (none, next)

/-- The answer to a request that `n` others came before. -/
def answer (capacity size n : Nat) : Option Nat :=
  if n < capacity / size then some (n * size) else none

/-- The index after `n` requests. -/
def index (capacity size n : Nat) : Nat := min n (capacity / size) * size

/-- The offsets of the blocks that `n` requests took. -/
def blocks (capacity size n : Nat) : List Nat :=
  (List.range (min n (capacity / size))).map (· * size)

variable {width capacity size : Nat}

theorem index_le (capacity size n : Nat) : index capacity size n ≤ capacity :=
  Nat.le_trans (Nat.mul_le_mul_right size (Nat.min_le_right n _)) (Nat.div_mul_le_self _ _)

/-- The sum of a request does not wrap. -/
theorem index_add_lt (small : capacity < 2 ^ (width - 1)) (fits : size < 2 ^ width) (n : Nat) :
    index capacity size n + size < 2 ^ width := by
  have below := index_le capacity size n
  by_cases none : capacity / size = 0
  · rw [index, none, Nat.min_zero, Nat.zero_mul, Nat.zero_add]
    exact fits
  · have within : size ≤ capacity := by
      by_contra large
      exact none (Nat.div_eq_of_lt (Nat.not_le.mp large))
    cases width with
    | zero =>
        have empty : capacity = 0 := by simpa using small
        rw [empty, Nat.zero_div] at none
        exact absurd rfl none
    | succ width =>
        rw [Nat.add_sub_cancel] at small
        rw [Nat.pow_succ]
        omega

/-- A request in the state that `n` requests lead to. -/
theorem take_index (positive : 0 < size) (small : capacity < 2 ^ (width - 1))
    (fits : size < 2 ^ width) (n : Nat) :
    take width capacity size (index capacity size n) =
      (answer capacity size n, index capacity size (n + 1)) := by
  have next : ∀ k, k * size + size ≤ capacity ↔ k < capacity / size := by
    intro k
    rw [← Nat.succ_mul, ← Nat.le_div_iff_mul_le positive, Nat.succ_le_iff]
  rw [take, Nat.mod_eq_of_lt (index_add_lt small fits n), answer]
  by_cases room : n < capacity / size
  · have before : index capacity size n = n * size := by
      rw [index, Nat.min_eq_left (Nat.le_of_lt room)]
    have after : index capacity size (n + 1) = n * size + size := by
      rw [index, Nat.min_eq_left room, Nat.succ_mul]
    rw [before, after, if_pos room, if_pos ((next n).mpr room)]
  · have full : index capacity size n = capacity / size * size := by
      rw [index, Nat.min_eq_right (Nat.not_lt.mp room)]
    have after : index capacity size (n + 1) = capacity / size * size := by
      rw [index, Nat.min_eq_right (Nat.le_succ_of_le (Nat.not_lt.mp room))]
    rw [full, after, if_neg room, if_neg fun fits => Nat.lt_irrefl _ ((next _).mp fits)]

theorem blocks_succ (capacity size n : Nat) :
    blocks capacity size (n + 1) = blocks capacity size n ++ (answer capacity size n).toList := by
  simp only [blocks, answer]
  by_cases room : n < capacity / size
  · rw [Nat.min_eq_left room, Nat.min_eq_left (Nat.le_of_lt room), List.range_succ,
      List.map_append, if_pos room]
    rfl
  · rw [Nat.min_eq_right (Nat.le_succ_of_le (Nat.not_lt.mp room)),
      Nat.min_eq_right (Nat.not_lt.mp room), if_neg room, Option.toList_none, List.append_nil]

/-- The blocks lie in the pool. -/
theorem block_le (positive : 0 < size) {n offset : Nat}
    (taken : offset ∈ blocks capacity size n) : offset + size ≤ capacity := by
  obtain ⟨k, below, rfl⟩ := List.mem_map.mp taken
  have inside : k < capacity / size :=
    Nat.lt_of_lt_of_le (List.mem_range.mp below) (Nat.min_le_right _ _)
  rw [← Nat.succ_mul]
  exact (Nat.le_div_iff_mul_le positive).mp inside

/-- Every block ends where a later one begins, or before. -/
theorem blocks_disjoint (capacity size n : Nat) :
    (blocks capacity size n).Pairwise fun a b => a + size ≤ b := by
  refine List.pairwise_map.mpr (List.pairwise_lt_range.imp ?_)
  intro a b before
  rw [← Nat.succ_mul]
  exact Nat.mul_le_mul_right size before

/-- As many requests are served as there are blocks. -/
theorem served (capacity size n : Nat) :
    ((List.range n).map (answer capacity size)).countP Option.isSome =
      min n (capacity / size) := by
  induction n with
  | zero => rw [Nat.zero_min]; rfl
  | succ n ih =>
      rw [List.range_succ, List.map_append, List.countP_append, ih]
      simp only [answer, List.map_cons, List.map_nil, List.countP_singleton]
      split
      · rw [Option.isSome_some, if_pos rfl]
        omega
      · rw [Option.isSome_none, if_neg Bool.false_ne_true]
        omega

/-- A refused request leaves the index where it is. -/
theorem index_refused {n : Nat} (refused : answer capacity size n = none) :
    index capacity size (n + 1) = index capacity size n := by
  have full : capacity / size ≤ n := by
    by_contra room
    rw [answer, if_pos (Nat.not_le.mp room)] at refused
    cases refused
  rw [index, index, Nat.min_eq_right full, Nat.min_eq_right (Nat.le_succ_of_le full)]

/-- After a refusal there are only refusals. -/
theorem refusals_last (capacity size n : Nat) :
    ((List.range n).map (answer capacity size)).Pairwise
      fun earlier later => earlier = none → later = none := by
  refine List.pairwise_map.mpr (List.pairwise_lt_range.imp ?_)
  intro a b before refused
  have full : ¬ a < capacity / size := by
    intro room
    rw [answer, if_pos room] at refused
    cases refused
  exact if_neg fun room => full (Nat.lt_trans before room)

end BlockPool
