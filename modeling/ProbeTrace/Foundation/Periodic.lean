import Mathlib.Data.List.Range
import Mathlib.Tactic.Ring

/-!
A counter that fires when it has passed a limit and starts again at one. Its firings, in
order, are the positive multiples of the limit plus one.
-/
namespace Periodic

/-- The counter after it was stepped `n` times, from zero. -/
def counter (limit n : Nat) : Nat := if n = 0 then 0 else (n - 1) % (limit + 1) + 1

/-- Whether the counter fires in its `n`th step, counted from zero. -/
def fires (limit n : Nat) : Bool := decide (0 < n ∧ (limit + 1) ∣ n)

/-- The first `n` steps. -/
def firings (limit n : Nat) : List Bool := (List.range n).map (fires limit)

theorem succ_mod (limit n : Nat) :
    (n + 1) % (limit + 1) = if n % (limit + 1) = limit then 0 else n % (limit + 1) + 1 := by
  have below : n % (limit + 1) < limit + 1 := Nat.mod_lt n (Nat.succ_pos limit)
  have split := Nat.div_add_mod n (limit + 1)
  generalize n % (limit + 1) = r at below split ⊢
  by_cases last : r = limit
  · rw [if_pos last, ← split, last, Nat.add_assoc, ← Nat.mul_succ, Nat.mul_mod_right]
  · rw [if_neg last, ← split, Nat.add_assoc, Nat.mul_add_mod]
    exact Nat.mod_eq_of_lt (by omega)

theorem counter_succ_eq (limit n : Nat) : counter limit (n + 1) = n % (limit + 1) + 1 := rfl

theorem counter_le (limit n : Nat) : counter limit n ≤ limit + 1 := by
  cases n with
  | zero => exact Nat.zero_le _
  | succ n =>
      have below : n % (limit + 1) < limit + 1 := Nat.mod_lt n (Nat.succ_pos limit)
      rw [counter_succ_eq]
      omega

theorem fires_iff (limit n : Nat) : fires limit n = true ↔ limit < counter limit n := by
  rw [fires, decide_eq_true_eq, Nat.dvd_iff_mod_eq_zero]
  cases n with
  | zero => simp [counter]
  | succ n =>
      have below : n % (limit + 1) < limit + 1 := Nat.mod_lt n (Nat.succ_pos limit)
      rw [succ_mod, counter_succ_eq]
      split <;> omega

/-- A step: past the limit the counter starts again. -/
theorem counter_succ (limit n : Nat) :
    counter limit (n + 1) = (if limit < counter limit n then 0 else counter limit n) + 1 := by
  cases n with
  | zero => simp [counter]
  | succ n =>
      have below : n % (limit + 1) < limit + 1 := Nat.mod_lt n (Nat.succ_pos limit)
      rw [counter_succ_eq, counter_succ_eq, succ_mod]
      by_cases last : n % (limit + 1) = limit
      · rw [if_pos last, if_pos (by omega)]
      · rw [if_neg last, if_neg (by omega)]

/-- A step of a part of the firings. -/
theorem getElem?_firings {limit n : Nat} {before window after : List Bool}
    (split : firings limit n = before ++ window ++ after) {i : Nat} (inside : i < window.length) :
    window[i]? = some (fires limit (before.length + i)) := by
  have total := congrArg List.length split
  simp only [firings, List.length_map, List.length_range, List.length_append] at total
  have here := congrArg (fun l => l[before.length + i]?) split
  simp only [firings, List.getElem?_map] at here
  rw [List.getElem?_range (by omega), List.append_assoc,
    List.getElem?_append_right (by omega), Nat.add_sub_cancel_left,
    List.getElem?_append_left inside] at here
  exact here.symm

/-- Among any `limit + 2` steps in a row one fires. -/
theorem firings_recur {limit n : Nat} {before window after : List Bool}
    (split : firings limit n = before ++ window ++ after) (length : window.length = limit + 2) :
    true ∈ window := by
  -- the first positive multiple from the start of the window on
  have below : before.length % (limit + 1) < limit + 1 := Nat.mod_lt _ (Nat.succ_pos limit)
  have whole := Nat.div_add_mod before.length (limit + 1)
  generalize before.length % (limit + 1) = r at below whole
  have multiple : before.length + (limit + 1 - r) = (limit + 1) * (before.length / (limit + 1) + 1) := by
    rw [Nat.mul_succ]
    omega
  refine List.mem_of_getElem? (i := limit + 1 - r) ?_
  rw [getElem?_firings split (by omega), fires, multiple]
  simp

/-- Between two firings in a row there are `limit` steps. -/
theorem firings_period {limit n : Nat} {before between after : List Bool}
    (split : firings limit n = before ++ true :: between ++ true :: after)
    (none : true ∉ between) : between.length = limit := by
  have first : limit + 1 ∣ before.length := by
    have here : firings limit n = before ++ [true] ++ (between ++ true :: after) := by
      rw [split]
      simp only [List.append_assoc, List.cons_append, List.nil_append]
    have fired := getElem?_firings here (Nat.zero_lt_one)
    simp only [fires, List.getElem?_cons_zero, Option.some.injEq, Nat.add_zero] at fired
    exact (of_decide_eq_true fired.symm).2
  have next : limit + 1 ∣ before.length + (between.length + 1) := by
    have here : firings limit n = (before ++ true :: between) ++ [true] ++ after := by
      rw [split]
      simp only [List.append_assoc, List.cons_append, List.nil_append]
    have fired := getElem?_firings here (Nat.zero_lt_one)
    simp only [fires, List.getElem?_cons_zero, Option.some.injEq, Nat.add_zero,
      List.length_append, List.length_cons] at fired
    exact (of_decide_eq_true fired.symm).2
  have long : limit + 1 ≤ between.length + 1 :=
    Nat.le_of_dvd (Nat.succ_pos _) ((Nat.dvd_add_right first).mp next)
  by_contra ne
  have inside : limit < between.length := by omega
  have here : firings limit n = (before ++ [true]) ++ between ++ (true :: after) := by
    rw [split]
    simp only [List.append_assoc, List.cons_append, List.nil_append]
  have fired := getElem?_firings here inside
  have multiple : limit + 1 ∣ (before ++ [true]).length + limit := by
    rw [List.length_append, List.length_singleton, Nat.add_assoc, Nat.add_comm 1]
    exact (Nat.dvd_add_right first).mpr (Nat.dvd_refl _)
  have yes : fires limit ((before ++ [true]).length + limit) = true :=
    decide_eq_true ⟨by simp, multiple⟩
  rw [yes] at fired
  exact none (List.mem_of_getElem? fired)

end Periodic
