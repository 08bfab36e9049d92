import Mathlib.Data.List.Basic
import Mathlib.Logic.Function.Basic
import Mathlib.Tactic.Common

/-!
# Threads that take turns

The threads of `ι` have local states, and a state they share.  `step i` is the next atomic
step of the thread `i`; there is none when the thread has ended or has to wait.  A schedule
is a list of threads, and `run step schedule t` lets them step in its order; a thread that
has no step is passed over.  What every step keeps is kept by every schedule.
-/

/-- The local states of some threads, and the state they share. -/
structure Threads {ι : Type} (L : ι → Type) (S : Type) where
  locals : (i : ι) → L i
  shared : S

namespace Threads

variable {ι : Type} [DecidableEq ι] {L : ι → Type} {S : Type}
  (step : (i : ι) → L i → S → Option (L i × S))

/-- The thread `i` makes its next step, if it has one. -/
def next (i : ι) (t : Threads L S) : Threads L S :=
  match step i (t.locals i) t.shared with
  | none => t
  | some (l, s) => ⟨Function.update t.locals i l, s⟩

/-- A thread makes its next step, or all of them wait. -/
def nextOption : Option ι → Threads L S → Threads L S
  | none, t => t
  | some i, t => next step i t

/-- The threads of a schedule step in its order. -/
def run (schedule : List ι) (t : Threads L S) : Threads L S :=
  schedule.foldl (fun t i => next step i t) t

variable {step} {t : Threads L S} {i j : ι}

/-- A thread without a step leaves everything as it is. -/
theorem next_of_none (h : step i (t.locals i) t.shared = none) :
  next step i t = t
  := by
  rw [next, h]

/-- The step of a thread changes its local state and the shared state. -/
theorem next_of_some {l : L i} {s : S} (h : step i (t.locals i) t.shared = some (l, s)) :
  next step i t = ⟨Function.update t.locals i l, s⟩
  := by
  rw [next, h]

/-- A thread that was moved is where it was moved to. -/
theorem locals_moved_self (l : L i) (s : S) :
  (⟨Function.update t.locals i l, s⟩ : Threads L S).locals i = l
  := Function.update_self ..

/-- The other threads are where they were. -/
theorem locals_moved_of_ne (h : j ≠ i) (l : L i) (s : S) :
  (⟨Function.update t.locals i l, s⟩ : Threads L S).locals j = t.locals j
  := Function.update_of_ne h ..

/-- The step of a thread keeps the local states of the others. -/
theorem locals_next_of_ne (h : j ≠ i) :
  (next step i t).locals j = t.locals j
  := by
  rcases hstep : step i (t.locals i) t.shared with _ | ⟨l, s⟩
  · rw [next_of_none hstep]
  · rw [next_of_some hstep]
    apply Function.update_of_ne h

@[simp]
theorem run_nil :
  run step [] t = t
  := rfl

@[simp]
theorem run_cons (i : ι) (schedule : List ι) :
  run step (i :: schedule) t = run step schedule (next step i t)
  := rfl

/-- What every step keeps is kept by every schedule. -/
theorem run_invariant {I : Threads L S → Prop} (hstep : ∀ i t, I t → I (next step i t))
    (ht : I t) (schedule : List ι) :
  I (run step schedule t)
  := by
  induction schedule generalizing t with
  | nil => apply ht
  | cons i schedule ih => apply ih (hstep i t ht)

/-- A thread whose steps lower a measure, which the others keep, is at zero once it had
enough turns. -/
theorem run_measure {I : Threads L S → Prop} {m : Threads L S → ℕ}
    (hstep : ∀ j t, I t → I (next step j t)) (hself : ∀ t, I t → m (next step i t) ≤ m t - 1)
    (hother : ∀ j t, j ≠ i → I t → m (next step j t) ≤ m t) (ht : I t) (schedule : List ι) :
  m (run step schedule t) ≤ m t - schedule.count i
  := by
  induction schedule generalizing t with
  | nil => simp
  | cons j schedule ih =>
      have hrest := ih (hstep j t ht)
      by_cases hj : j = i
      · subst hj
        have hone := hself t ht
        rw [run_cons, List.count_cons_self]
        omega
      · have hone := hother j t hj ht
        rw [run_cons, List.count_cons_of_ne hj]
        omega

end Threads
