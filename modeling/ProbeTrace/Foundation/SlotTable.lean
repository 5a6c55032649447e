import Mathlib.Data.List.Basic

/-!
A fixed array used as an append-only table. A slot is free while its key is absent; entries are
put into the first free slot and never removed. The used slots form a prefix, and a column whose
new entries are new stays distinct. `Packed` is the shape of a table in which no key is entered
twice; where one is, lookups go on finding its oldest entry.
-/
namespace SlotTable

universe u v
variable {β : Type u} {κ γ : Type v} (key : β → Option κ) (free : β)

/-- The used slots come first, and the others hold the initial value. -/
def Prefix (slots : List β) : Prop :=
  ∀ (i j : Nat) (e e' : β), slots[i]? = some e → key e = none → i ≤ j → slots[j]? = some e' →
    e' = free

/-- No value is in the column twice. -/
def Distinct (f : β → Option γ) (slots : List β) : Prop :=
  ∀ (i j : Nat) (e e' : β) (c : γ), slots[i]? = some e → slots[j]? = some e' → f e = some c →
    f e' = some c → i = j

structure Packed (slots : List β) : Prop where
  rest_free : Prefix key free slots
  distinct : Distinct key slots

variable {key} {free}

/-- A used slot lies before every free one. -/
theorem Packed.used_prefix {slots : List β} (h : Packed key free slots)
    (hfree : key free = none) {i j : Nat} {e e' : β} (he : slots[i]? = some e)
    (he' : slots[j]? = some e') (used : (key e').isSome) (hij : i ≤ j) :
    (key e).isSome := by
  cases hk : key e with
  | some k => rfl
  | none =>
      rw [h.rest_free i j e e' he hk hij he', hfree] at used
      cases used

theorem packed_replicate (n : Nat) (hfree : key free = none) :
    Packed key free (List.replicate n free) where
  rest_free := by
    intro i j e e' _ _ _ he'
    exact (List.eq_of_mem_replicate (List.mem_of_getElem? he'))
  distinct := by
    intro i j e e' k he _ hk _
    rw [List.eq_of_mem_replicate (List.mem_of_getElem? he), hfree] at hk
    cases hk

section
variable {f : β → Option γ} {slots : List β} {i j : Nat} {e : β}

/-- A slot of a table in which one was written. -/
theorem getElem?_set_cases {e' : β} (slot : (slots.set i e)[j]? = some e') :
    j = i ∧ e' = e ∨ j ≠ i ∧ slots[j]? = some e' := by
  rw [List.getElem?_set] at slot
  by_cases same : i = j
  · rw [if_pos same] at slot
    split at slot
    · exact .inl ⟨same.symm, (Option.some.inj slot).symm⟩
    · exact absurd slot.symm (Option.some_ne_none e')
  · rw [if_neg same] at slot
    exact .inr ⟨Ne.symm same, slot⟩

theorem Distinct.set (h : Distinct f slots)
    (fresh : ∀ (j : Nat) (e' : β) (c : γ), slots[j]? = some e' → f e = some c → f e' ≠ some c) :
    Distinct f (slots.set i e) := by
  intro a b ea eb c at_a at_b isA isB
  cases getElem?_set_cases at_a with
  | inl new =>
      cases getElem?_set_cases at_b with
      | inl new' => exact new.1.trans new'.1.symm
      | inr old => exact absurd isB (fresh b eb c old.2 (new.2 ▸ isA))
  | inr old =>
      cases getElem?_set_cases at_b with
      | inl new => exact absurd isA (fresh a ea c old.2 (new.2 ▸ isB))
      | inr old' => exact h a b ea eb c old.2 old'.2 isA isB

end

variable (key) [DecidableEq κ]

/-- The first slot with the given key; `none` as the key asks for a free slot. -/
def find (slots : List β) (k : Option κ) : Option Nat :=
  slots.findIdx? (fun e => key e == k)

variable {key}

theorem find_eq_some_iff {slots : List β} {k : Option κ} {i : Nat} :
    find key slots k = some i ↔
      (∃ e, slots[i]? = some e ∧ key e = k) ∧
        ∀ j, j < i → ∀ e : β, slots[j]? = some e → key e ≠ k := by
  rw [find, List.findIdx?_eq_some_iff_getElem]
  constructor
  · rintro ⟨hi, found, before⟩
    refine ⟨⟨slots[i], List.getElem?_eq_getElem hi, by simpa using found⟩, ?_⟩
    intro j hj e he hk
    have hlt : j < slots.length := Nat.lt_trans hj hi
    rw [List.getElem?_eq_getElem hlt, Option.some.injEq] at he
    exact before j hj (by simpa [he] using hk)
  · rintro ⟨⟨e, he, hk⟩, before⟩
    obtain ⟨hi, rfl⟩ := List.getElem?_eq_some_iff.mp he
    refine ⟨hi, by simpa using hk, ?_⟩
    intro j hj
    simpa using before j hj _ (List.getElem?_eq_getElem (Nat.lt_trans hj hi))

theorem find_eq_none_iff {slots : List β} {k : Option κ} :
    find key slots k = none ↔ ∀ (i : Nat) (e : β), slots[i]? = some e → key e ≠ k := by
  rw [find, List.findIdx?_eq_none_iff]
  constructor
  · intro h i e he hk
    have := h e (List.mem_of_getElem? he)
    simp [hk] at this
  · intro h e he
    obtain ⟨i, hi⟩ := List.mem_iff_getElem?.mp he
    simpa using h i e hi

theorem find_lt {slots : List β} {k : Option κ} {i : Nat}
    (h : find key slots k = some i) : i < slots.length := by
  obtain ⟨⟨e, he, _⟩, _⟩ := find_eq_some_iff.mp h
  exact (List.getElem?_eq_some_iff.mp he).1

theorem find_isSome_iff {slots : List β} {k : Option κ} :
    (find key slots k).isSome ↔ ∃ e ∈ slots, key e = k := by
  constructor
  · intro h
    obtain ⟨i, hi⟩ := Option.isSome_iff_exists.mp h
    obtain ⟨⟨e, he, hk⟩, _⟩ := find_eq_some_iff.mp hi
    exact ⟨e, List.mem_of_getElem? he, hk⟩
  · rintro ⟨e, he, hk⟩
    cases hf : find key slots k with
    | some i => rfl
    | none =>
        obtain ⟨i, hi⟩ := List.mem_iff_getElem?.mp he
        exact absurd hk (find_eq_none_iff.mp hf i e hi)

section
variable {slots : List β} {i j : Nat} {e : β} {k : κ}

/-- The first free slot is used, under whatever key. -/
theorem Prefix.set (h : Prefix key free slots) (first : find key slots none = some i)
    (used : key e = some k) : Prefix key free (slots.set i e) := by
  intro a b ea eb at_a isFree le at_b
  obtain ⟨-, before⟩ := find_eq_some_iff.mp first
  cases getElem?_set_cases at_a with
  | inl new =>
      rw [new.2, used] at isFree
      exact absurd isFree (Option.some_ne_none k)
  | inr old =>
      have later : i ≤ a := Nat.le_of_not_lt fun less => before a less ea old.2 isFree
      cases getElem?_set_cases at_b with
      | inl new => exact absurd (Nat.le_antisymm later (new.1 ▸ le)).symm old.1
      | inr old' => exact h a b ea eb old.2 isFree le old'.2

/-- What is found stays found, also when its key is entered again. -/
theorem Prefix.find_set (h : Prefix key free slots) (isFree : key free = none)
    (first : find key slots none = some i) (found : find key slots (some k) = some j) :
    find key (slots.set i e) (some k) = some j := by
  obtain ⟨⟨e₀, at_i, unused⟩, -⟩ := find_eq_some_iff.mp first
  obtain ⟨⟨e', at_j, isKey⟩, before⟩ := find_eq_some_iff.mp found
  have less : j < i := by
    refine Nat.lt_of_not_le fun le => ?_
    rw [h i j e₀ e' at_i unused le at_j, isFree] at isKey
    exact absurd isKey.symm (Option.some_ne_none k)
  refine find_eq_some_iff.mpr ⟨⟨e', ?_, isKey⟩, fun m le em at_m => ?_⟩
  · rw [List.getElem?_set_ne (Nat.ne_of_gt less)]
    exact at_j
  · rw [List.getElem?_set_ne (Nat.ne_of_gt (Nat.lt_trans le less))] at at_m
    exact before m le em at_m

/-- In a packed table a present key is found at its only slot. -/
theorem Packed.find_iff {slots : List β} (h : Packed key free slots) {k : κ} {i : Nat} :
    find key slots (some k) = some i ↔ ∃ e, slots[i]? = some e ∧ key e = some k := by
  constructor
  · intro hf
    exact (find_eq_some_iff.mp hf).1
  · rintro ⟨e, he, hk⟩
    refine find_eq_some_iff.mpr ⟨⟨e, he, hk⟩, ?_⟩
    intro j hj e' he' hk'
    exact absurd (h.distinct j i e' e k he' he hk' hk) (Nat.ne_of_lt hj)

end

end SlotTable
