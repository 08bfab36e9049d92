import Mathlib.Tactic.Common

/-!
# Programs with calls

`Program C R ε α` is a program that calls its surroundings: a call `c : C` is answered by
a value of `R c` or by an exception of `ε`, and the program ends with a value of `α` or
with an exception.  `run perform p s` runs `p` from the state `s` where `perform` answers
the calls.  `p.Calls P` says that every call `p` can make satisfies `P`, whatever the
answers are; a relation between states that is respected by every such call is respected
by the run.
-/

/-- A program whose calls `c : C` are answered in `R c`, that may throw exceptions of `ε`
and returns a value of `α`. -/
inductive Program (C : Type) (R : C → Type) (ε α : Type) : Type where
  | pure (a : α) : Program C R ε α
  | throw (e : ε) : Program C R ε α
  | call (c : C) (k : Except ε (R c) → Program C R ε α) : Program C R ε α

namespace Program

variable {C : Type} {R : C → Type} {ε α β γ σ : Type}

/-- Run `p`, then `f` on the value it returns. -/
def bind : Program C R ε α → (α → Program C R ε β) → Program C R ε β
  | .pure a, f => f a
  | .throw e, _ => .throw e
  | .call c k, f => .call c fun r => (k r).bind f

/-- Run `p`, and `h` on the exception it throws. -/
def handle : Program C R ε α → (ε → Program C R ε α) → Program C R ε α
  | .pure a, _ => .pure a
  | .throw e, h => h e
  | .call c k, h => .call c fun r => (k r).handle h

instance : Monad (Program C R ε) where
  pure := .pure
  bind := bind

instance : MonadExceptOf ε (Program C R ε) where
  throw := .throw
  tryCatch := handle

/-- The program that makes the call `c` and passes its answer on. -/
def invoke (c : C) : Program C R ε (R c) :=
  .call c fun
    | .ok r => .pure r
    | .error e => .throw e

instance : LawfulMonad (Program C R ε) :=
  LawfulMonad.mk' _
    (by
      intro α p
      induction p with
      | pure a => rfl
      | throw e => rfl
      | call c k ih =>
          apply congrArg (Program.call c)
          funext r
          apply ih)
    (fun _ _ => rfl)
    (by
      intro α β γ p f g
      induction p with
      | pure a => rfl
      | throw e => rfl
      | call c k ih =>
          apply congrArg (Program.call c)
          funext r
          apply ih)

/-! ### Runs -/

/-- Run a program from a state where `perform` answers the calls. -/
def run (perform : (c : C) → σ → Except ε (R c) × σ) : Program C R ε α → σ → Except ε α × σ
  | .pure a, s => (.ok a, s)
  | .throw e, s => (.error e, s)
  | .call c k, s => run perform (k (perform c s).1) (perform c s).2

variable (perform : (c : C) → σ → Except ε (R c) × σ)

@[simp]
theorem run_pure (a : α) (s : σ) :
  run perform (Pure.pure a : Program C R ε α) s = (.ok a, s)
  := rfl

@[simp]
theorem run_throw (e : ε) (s : σ) :
  run perform (MonadExcept.throw e : Program C R ε α) s = (.error e, s)
  := rfl

/-- The run of `p >>= f` is the run of `p` followed by the run of `f` on its value. -/
theorem run_bind (p : Program C R ε α) (f : α → Program C R ε β) (s : σ) :
  run perform (p >>= f) s
    = match run perform p s with
      | (.ok a, s') => run perform (f a) s'
      | (.error e, s') => (.error e, s')
  := by
  change run perform (p.bind f) s = _
  induction p generalizing s with
  | pure a => rfl
  | throw e => rfl
  | call c k ih => apply ih

/-- A run that returns passes its value and its state on. -/
theorem run_bind_ok {p : Program C R ε α} {s s' : σ} {a : α}
    (h : run perform p s = (.ok a, s')) (f : α → Program C R ε β) :
  run perform (p >>= f) s = run perform (f a) s'
  := by
  rw [run_bind, h]

/-- A run that throws skips what follows. -/
theorem run_bind_error {p : Program C R ε α} {s s' : σ} {e : ε}
    (h : run perform p s = (.error e, s')) (f : α → Program C R ε β) :
  run perform (p >>= f) s = (.error e, s')
  := by
  rw [run_bind, h]

/-- A loop whose first round returns goes on with the other rounds. -/
theorem run_forM_cons_ok {f : β → Program C R ε PUnit} {b : β} {l : List β} {s s' : σ}
    {u : PUnit} (h : run perform (f b) s = (.ok u, s')) :
  run perform ((b :: l).forM f) s = run perform (l.forM f) s'
  := run_bind_ok perform h fun _ => l.forM f

/-- A run of `p >>= f` that returns splits into one of `p` and one of `f`. -/
theorem run_bind_eq_ok {p : Program C R ε α} {f : α → Program C R ε β} {s s' : σ} {b : β}
    (h : run perform (p >>= f) s = (.ok b, s')) :
  ∃ a t, run perform p s = (.ok a, t) ∧ run perform (f a) t = (.ok b, s')
  := by
  rw [run_bind] at h
  match hp : run perform p s with
  | (.ok a, t) =>
      use a, t
      simpa [hp] using h
  | (.error e, t) => simp [hp] at h

@[simp]
theorem run_invoke (c : C) (s : σ) :
  run perform (invoke c) s = perform c s
  := by
  simp only [invoke, run]
  match h : perform c s with
  | (.ok r, s') => rfl
  | (.error e, s') => rfl

/-- The run of `try p catch h` is the run of `p`, followed by `h` where `p` throws. -/
theorem run_tryCatch (p : Program C R ε α) (h : ε → Program C R ε α) (s : σ) :
  run perform (tryCatch p h) s
    = match run perform p s with
      | (.ok a, s') => (.ok a, s')
      | (.error e, s') => run perform (h e) s'
  := by
  change run perform (p.handle h) s = _
  induction p generalizing s with
  | pure a => rfl
  | throw e => rfl
  | call c k ih => apply ih

/-! ### The calls of a program -/

/-- Every call the program can make satisfies `P`. -/
def Calls (P : C → Prop) : Program C R ε α → Prop
  | .pure _ => True
  | .throw _ => True
  | .call c k => P c ∧ ∀ r, (k r).Calls P

variable {P Q : C → Prop}

@[simp]
theorem calls_pure (a : α) :
  (Pure.pure a : Program C R ε α).Calls P
  := trivial

@[simp]
theorem calls_throw (e : ε) :
  (MonadExcept.throw e : Program C R ε α).Calls P
  := trivial

theorem calls_invoke {c : C} (h : P c) :
  (invoke c : Program C R ε (R c)).Calls P
  := by
  use h
  rintro (e | r)
  · trivial
  · trivial

/-- A sequence makes the calls of its parts. -/
theorem calls_bind {p : Program C R ε α} {f : α → Program C R ε β} (hp : p.Calls P)
    (hf : ∀ a, (f a).Calls P) :
  (p >>= f).Calls P
  := by
  change (p.bind f).Calls P
  induction p with
  | pure a => apply hf
  | throw e => trivial
  | call c k ih =>
      use hp.1
      intro r
      apply ih r (hp.2 r)

theorem calls_forM {l : List β} {f : β → Program C R ε PUnit} (hf : ∀ b ∈ l, (f b).Calls P) :
  (l.forM f).Calls P
  := by
  induction l with
  | nil => trivial
  | cons b l ih =>
      apply calls_bind
      · apply hf
        apply List.mem_cons_self
      · intro _
        apply ih
        intro b' hb'
        apply hf
        apply List.mem_cons_of_mem b hb'

theorem calls_foldlM {l : List β} {f : α → β → Program C R ε α} (a : α)
    (hf : ∀ a, ∀ b ∈ l, (f a b).Calls P) :
  (l.foldlM f a).Calls P
  := by
  induction l generalizing a with
  | nil => trivial
  | cons b l ih =>
      rw [List.foldlM_cons]
      apply calls_bind
      · apply hf
        apply List.mem_cons_self
      · intro a'
        apply ih
        intro a'' b' hb'
        apply hf
        apply List.mem_cons_of_mem b hb'

/-- A handler makes its own calls after those of the program. -/
theorem calls_tryCatch {p : Program C R ε α} {h : ε → Program C R ε α} (hp : p.Calls P)
    (hh : ∀ e, (h e).Calls P) :
  (tryCatch p h).Calls P
  := by
  change (p.handle h).Calls P
  induction p with
  | pure a => trivial
  | throw e => apply hh
  | call c k ih =>
      use hp.1
      intro r
      apply ih r (hp.2 r)

theorem Calls.mono {p : Program C R ε α} (hp : p.Calls P) (h : ∀ c, P c → Q c) :
  p.Calls Q
  := by
  induction p with
  | pure a => trivial
  | throw e => trivial
  | call c k ih =>
      use h c hp.1
      intro r
      apply ih r (hp.2 r)

/-- A reflexive and transitive relation between states that every call of a program
respects is respected by its runs. -/
theorem Calls.run_related {perform} {r : σ → σ → Prop} (refl : ∀ s, r s s)
    (trans : ∀ {s t u}, r s t → r t u → r s u)
    (h : ∀ c, P c → ∀ s, r s (perform c s).2) {p : Program C R ε α} (hp : p.Calls P)
    (s : σ) :
  r s (run perform p s).2
  := by
  induction p generalizing s with
  | pure a => apply refl
  | throw e => apply refl
  | call c k ih =>
      apply trans (h c hp.1 s)
      apply ih _ (hp.2 _)

/-- What every call of a program keeps is kept by its runs. -/
theorem Calls.run_invariant {perform} {I : σ → Prop}
    (h : ∀ c, P c → ∀ s, I s → I (perform c s).2) {p : Program C R ε α} (hp : p.Calls P)
    {s : σ} (hs : I s) :
  I (run perform p s).2
  := by
  induction p generalizing s with
  | pure a => apply hs
  | throw e => apply hs
  | call c k ih => exact ih _ (hp.2 _) (h c hp.1 s hs)

/-! ### Relations kept by runs -/

/-- Every run of the program ends in a state related to the one it began in. -/
def Keeps (perform : (c : C) → σ → Except ε (R c) × σ) (r : σ → σ → Prop)
    (p : Program C R ε α) : Prop :=
  ∀ s, r s (run perform p s).2

section Keeps

variable {perform} {r : σ → σ → Prop}

theorem keeps_pure (refl : ∀ s, r s s) (a : α) :
  Keeps perform r (Pure.pure a : Program C R ε α)
  := fun s => refl s

theorem keeps_throw (refl : ∀ s, r s s) (e : ε) :
  Keeps perform r (MonadExcept.throw e : Program C R ε α)
  := fun s => refl s

/-- A transitive relation that both parts keep is kept by the sequence. -/
theorem keeps_bind (trans : ∀ {s t u}, r s t → r t u → r s u) {p : Program C R ε α}
    {f : α → Program C R ε β} (hp : Keeps perform r p) (hf : ∀ a, Keeps perform r (f a)) :
  Keeps perform r (p >>= f)
  := by
  intro s
  have h := hp s
  rw [run_bind]
  match hr : run perform p s with
  | (.ok a, s') =>
      rw [hr] at h
      apply trans h (hf a s')
  | (.error e, s') =>
      rw [hr] at h
      apply h

/-- It is kept by the handler of an error, too. -/
theorem keeps_tryCatch (trans : ∀ {s t u}, r s t → r t u → r s u) {p : Program C R ε α}
    {h : ε → Program C R ε α} (hp : Keeps perform r p) (hh : ∀ e, Keeps perform r (h e)) :
  Keeps perform r (tryCatch p h)
  := by
  intro s
  have hs := hp s
  rw [run_tryCatch]
  match hr : run perform p s with
  | (.ok a, s') =>
      rw [hr] at hs
      apply hs
  | (.error e, s') =>
      rw [hr] at hs
      apply trans hs (hh e s')

end Keeps

/-- A program whose calls all leave the state alone leaves the state alone. -/
theorem Calls.run_eq {perform : (c : C) → σ → Except ε (R c) × σ}
    (h : ∀ c, P c → ∀ s, (perform c s).2 = s) {p : Program C R ε α} (hp : p.Calls P) (s : σ) :
  (run perform p s).2 = s
  := by
  apply hp.run_related (r := fun s t => t = s)
  · intro s
    rfl
  · rintro s t u rfl rfl
    rfl
  · apply h

end Program
