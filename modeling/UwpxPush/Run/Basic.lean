import Mathlib.Data.List.Basic
import Mathlib.Tactic.Common

/-!
# Runs and their past

A system moves from the state `s` to `next e s` on the event `e`.  `Run next start past s`
says that `s` is reached from a state satisfying `start` by the transitions in `past`, of
which the latest comes first.  `Admitted ok past` says that every transition of `past`
satisfies `ok` together with the transitions before it.
-/

/-- A move of a system: the event, the state it met and the state it left. -/
structure Transition (ε σ : Type) where
  event : ε
  before : σ
  after : σ

variable {ε σ : Type}

/-- The states reached from `start`, with the transitions that led there, latest first. -/
inductive Run (next : ε → σ → σ) (start : σ → Prop) : List (Transition ε σ) → σ → Prop where
  | start {s : σ} (h : start s) : Run next start [] s
  | next {past : List (Transition ε σ)} {s : σ} (h : Run next start past s) (e : ε) :
      Run next start (⟨e, s, next e s⟩ :: past) (next e s)

/-- Every transition satisfies `ok` together with the transitions before it. -/
def Admitted (ok : List (Transition ε σ) → Transition ε σ → Prop) :
    List (Transition ε σ) → Prop
  | [] => True
  | t :: past => ok past t ∧ Admitted ok past

namespace Run

variable {next : ε → σ → σ} {start : σ → Prop}

/-- Go on with the events of a list. -/
def trace (next : ε → σ → σ) (past : List (Transition ε σ)) (s : σ) :
    List ε → List (Transition ε σ) × σ
  | [] => (past, s)
  | e :: events => trace next (⟨e, s, next e s⟩ :: past) (next e s) events

/-- A run goes on with the events of a list. -/
theorem of_trace {past : List (Transition ε σ)} {s : σ} (h : Run next start past s)
    (events : List ε) :
  Run next start (trace next past s events).1 (trace next past s events).2
  := by
  induction events generalizing past s with
  | nil => apply h
  | cons e events ih => apply ih (.next h e)

/-- What holds at the start, and after every step when it holds before it, holds in every
state of a run. -/
theorem invariant {I : List (Transition ε σ) → σ → Prop} (hstart : ∀ s, start s → I [] s)
    (hnext : ∀ past s e, Run next start past s → I past s →
      I (⟨e, s, next e s⟩ :: past) (next e s))
    {past : List (Transition ε σ)} {s : σ} (h : Run next start past s) :
  I past s
  := by
  induction h with
  | start h => apply hstart _ h
  | next h e ih => apply hnext _ _ e h ih

/-- A run passes through the states between its transitions. -/
theorem split {newer older : List (Transition ε σ)} {t : Transition ε σ} {s : σ}
    (h : Run next start (newer ++ t :: older) s) :
  Run next start older t.before ∧ t.after = next t.event t.before
  := by
  induction newer generalizing s with
  | nil =>
      cases h with
      | next h e => exact ⟨h, rfl⟩
  | cons u newer ih =>
      cases h with
      | next h e => apply ih h

end Run

/-- Whether the transitions are admitted can be decided one by one. -/
def decidableAdmitted (ok : List (Transition ε σ) → Transition ε σ → Prop)
    [h : ∀ past t, Decidable (ok past t)] : (past : List (Transition ε σ)) →
    Decidable (Admitted ok past)
  | [] => .isTrue trivial
  | t :: past =>
      @instDecidableAnd _ _ (h past t) (decidableAdmitted ok past)

instance (ok : List (Transition ε σ) → Transition ε σ → Prop)
    [∀ past t, Decidable (ok past t)] (past : List (Transition ε σ)) :
    Decidable (Admitted ok past) :=
  decidableAdmitted ok past

namespace Admitted

variable {ok ok' : List (Transition ε σ) → Transition ε σ → Prop}

theorem of_append {newer older : List (Transition ε σ)} (h : Admitted ok (newer ++ older)) :
  Admitted ok older
  := by
  induction newer with
  | nil => apply h
  | cons t newer ih => apply ih h.2

theorem mono {past : List (Transition ε σ)} (h : Admitted ok past)
    (hok : ∀ past t, ok past t → ok' past t) :
  Admitted ok' past
  := by
  induction past with
  | nil => trivial
  | cons t past ih => exact ⟨hok past t h.1, ih h.2⟩

end Admitted
