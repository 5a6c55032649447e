import Mathlib.Data.List.Induction
import Mathlib.Data.List.Nodup

/-!
A loop that collects the members of a list and refuses the first one whose key it has seen.
-/
namespace DistinctFold
universe u
variable {α κ β ε : Type u}

/-- One turn, over the keys seen and the values collected so far. -/
def step [DecidableEq κ] (key : α → κ) (value : α → β) (refuse : α → ε)
    (seen : List κ × List β) (a : α) : Except ε (List κ × List β) :=
  if key a ∈ seen.1 then .error (refuse a) else .ok (key a :: seen.1, seen.2 ++ [value a])

/-- The first member whose key is that of an earlier one. -/
def FirstRepeat (key : α → κ) (as : List α) (a : α) : Prop :=
  ∃ before after, as = before ++ a :: after ∧ (before.map key).Nodup ∧ key a ∈ before.map key

section
variable {key : α → κ} {as : List α} {a b : α}

theorem nodup_or_repeat (key : α → κ) (as : List α) :
    (as.map key).Nodup ∨ ∃ a, FirstRepeat key as a := by
  induction as using List.reverseRecOn with
  | nil => exact .inl List.nodup_nil
  | append_singleton as a ih =>
      cases ih with
      | inl distinct =>
          by_cases mem : key a ∈ as.map key
          · exact .inr ⟨a, as, [], rfl, distinct, mem⟩
          · refine .inl ?_
            rw [List.map_append, List.nodup_append]
            refine ⟨distinct, List.nodup_singleton _, fun k old k' new same => ?_⟩
            rw [same, List.mem_singleton.mp new] at old
            exact mem old
      | inr repeats =>
          obtain ⟨b, before, after, split, distinct, mem⟩ := repeats
          refine .inr ⟨b, before, after ++ [a], ?_, distinct, mem⟩
          rw [split, List.append_assoc, List.cons_append]

theorem FirstRepeat.not_nodup (h : FirstRepeat key as a) : ¬ (as.map key).Nodup := by
  obtain ⟨before, after, split, -, mem⟩ := h
  intro distinct
  rw [split, List.map_append, List.map_cons, List.nodup_append] at distinct
  exact distinct.2.2 _ mem _ List.mem_cons_self rfl

/-- There is one first repeat. -/
theorem FirstRepeat.unique (h : FirstRepeat key as a) (k : FirstRepeat key as b) : a = b := by
  -- of two splits one is inside the other, and then its member repeats a key too early
  have inside : ∀ {a b : α} {before after before' after' : List α},
      before ++ a :: after = before' ++ b :: after' → (before'.map key).Nodup →
      key a ∈ before.map key → before.length ≤ before'.length → a = b := by
    intro a b before after before' after' same distinct mem shorter
    have first : before <+: before' ++ b :: after' := ⟨a :: after, same⟩
    obtain ⟨more, isMore⟩ := List.prefix_of_prefix_length_le first ⟨b :: after', rfl⟩ shorter
    subst isMore
    rw [List.append_assoc, List.append_cancel_left_eq] at same
    cases more with
    | nil => exact (List.cons.inj same).1
    | cons first more =>
        obtain ⟨isFirst, -⟩ := List.cons.inj same
        subst isFirst
        rw [List.map_append, List.map_cons, List.nodup_append] at distinct
        exact absurd rfl (distinct.2.2 _ mem _ List.mem_cons_self)
  obtain ⟨before, after, split, distinct, mem⟩ := h
  obtain ⟨before', after', split', distinct', mem'⟩ := k
  cases Nat.le_total before.length before'.length with
  | inl shorter => exact inside (split.symm.trans split') distinct' mem shorter
  | inr longer => exact (inside (split'.symm.trans split) distinct mem' longer).symm

variable [DecidableEq κ] {value : α → β} {refuse : α → ε}

/-- Members with new and distinct keys are all collected. -/
theorem fold_distinct (seen : List κ × List β) (distinct : (as.map key).Nodup)
    (fresh : ∀ a ∈ as, key a ∉ seen.1) : as.foldlM (step key value refuse) seen =
      .ok ((as.map key).reverse ++ seen.1, seen.2 ++ as.map value) := by
  induction as generalizing seen with
  | nil =>
      rw [List.map_nil, List.map_nil, List.append_nil]
      rfl
  | cons a as ih =>
      rw [List.map_cons, List.nodup_cons] at distinct
      have later : ∀ b ∈ as, key b ∉ key a :: seen.1 := by
        intro b mem old
        cases List.mem_cons.mp old with
        | inl same => exact distinct.1 (same ▸ List.mem_map_of_mem mem)
        | inr old => exact fresh b (.tail _ mem) old
      rw [List.foldlM_cons, step, if_neg (fresh a List.mem_cons_self)]
      refine (ih (key a :: seen.1, seen.2 ++ [value a]) distinct.2 later).trans ?_
      rw [List.map_cons, List.map_cons, List.reverse_cons, List.append_assoc, List.append_assoc]
      rfl

/-- The loop ends at the first repeat. -/
theorem fold_repeat (h : FirstRepeat key as a) :
    as.foldlM (step key value refuse) ([], []) = .error (refuse a) := by
  obtain ⟨before, after, split, distinct, mem⟩ := h
  have collected : before.foldlM (step key value refuse) ([], []) =
      .ok ((before.map key).reverse ++ [], [] ++ before.map value) :=
    fold_distinct ([], []) distinct fun _ _ => List.not_mem_nil
  have seen : key a ∈ (before.map key).reverse ++ [] :=
    List.mem_append_left _ (List.mem_reverse.mpr mem)
  rw [split, List.foldlM_append, collected]
  show (a :: after).foldlM (step key value refuse) _ = _
  rw [List.foldlM_cons, step, if_pos seen]
  rfl

end

end DistinctFold
