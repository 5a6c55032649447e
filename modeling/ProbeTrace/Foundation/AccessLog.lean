import ProbeTrace.Foundation.CallDiscipline

/-!
A log of writes to cells and reads of cells. The log is faithful when every read returns what
the last write to its cell before it stored. The module knows nothing of what is logged: a
log's accesses are two partial functions of its entries.
-/
open CallDiscipline

universe u v w

/-- What an entry of a log writes and what it reads, as a cell and its value. -/
structure Accesses (ε : Type u) (κ : Type v) (ν : Type w) where
  writes : ε → Option (κ × ν)
  reads : ε → Option (κ × ν)

namespace Accesses
variable {ε : Type u} {κ : Type v} {ν : Type w} [DecidableEq κ] (A : Accesses ε κ ν)

/-- The cells after one entry. -/
def store (cells : κ → ν) (e : ε) : κ → ν :=
  match A.writes e with
  | some (k, v) => Function.update cells k v
  | none => cells

/-- The cells after a log. -/
def replay (cells : κ → ν) (log : List ε) : κ → ν := log.foldl A.store cells

/-- A read returns what the entries before it leave in its cell. -/
def Returns (start : κ → ν) (before : List ε) (e : ε) : Prop :=
  ∀ k v, A.reads e = some (k, v) → v = A.replay start before k

/-- The cells are those of a faithful log. -/
structure Mirrors (start cells : κ → ν) (log : List ε) : Prop where
  cells : cells = A.replay start log
  faithful : Disciplined (A.Returns start) log

variable {A} {start cells : κ → ν} {log : List ε} {e : ε}

theorem replay_concat (cells : κ → ν) (log : List ε) (e : ε) :
    A.replay cells (log ++ [e]) = A.store (A.replay cells log) e := by
  rw [replay, List.foldl_append]
  rfl

namespace Mirrors

theorem nil (start : κ → ν) : A.Mirrors start start [] := ⟨rfl, disciplined_nil⟩

theorem skip (h : A.Mirrors start cells log) (noWrite : A.writes e = none)
    (noRead : A.reads e = none) : A.Mirrors start cells (log ++ [e]) where
  cells := by rw [replay_concat, store, noWrite, h.cells]
  faithful := h.faithful.snoc fun k v isRead =>
    absurd (noRead.symm.trans isRead).symm (Option.some_ne_none _)

theorem skips {new : List ε} (h : A.Mirrors start cells log)
    (silent : ∀ e ∈ new, A.writes e = none ∧ A.reads e = none) :
    A.Mirrors start cells (log ++ new) := by
  induction new generalizing log with
  | nil => rwa [List.append_nil]
  | cons e new ih =>
      have first := silent e List.mem_cons_self
      rw [List.append_cons]
      exact ih (h.skip first.1 first.2) fun e mem => silent e (.tail _ mem)

theorem write (h : A.Mirrors start cells log) {k : κ} {v : ν} (writes : A.writes e = some (k, v))
    (noRead : A.reads e = none) : A.Mirrors start (Function.update cells k v) (log ++ [e]) where
  cells := by rw [replay_concat, store, writes, h.cells]
  faithful := h.faithful.snoc fun k v isRead =>
    absurd (noRead.symm.trans isRead).symm (Option.some_ne_none _)

theorem read (h : A.Mirrors start cells log) {k : κ} (reads : A.reads e = some (k, cells k))
    (noWrite : A.writes e = none) : A.Mirrors start cells (log ++ [e]) where
  cells := by rw [replay_concat, store, noWrite, h.cells]
  faithful := h.faithful.snoc fun k' v isRead => by
    obtain ⟨isCell, isValue⟩ := Prod.mk.inj (Option.some.inj (reads.symm.trans isRead))
    rw [← isValue, ← isCell, ← h.cells]

end Mirrors

end Accesses
