import UwpxPush.Program.Step

/-!
# Calls that follow each other

`p.Follows P before` says that every call which `p` can make satisfies `P` together with the
call made immediately before it, where `before` is the one made before `p` begins.
-/

namespace Program

variable {C : Type} {R : C → Type} {ε α β σ : Type} {P : Option C → C → Prop}

/-- The first call of a program. -/
def nextCall : Program C R ε α → Option C
  | .pure _ => none
  | .throw _ => none
  | .call c _ => some c

/-- Every call satisfies `P` together with the call before it. -/
def Follows (P : Option C → C → Prop) : Program C R ε α → Option C → Prop
  | .pure _, _ => True
  | .throw _, _ => True
  | .call c k, before => P before c ∧ ∀ r, (k r).Follows P (some c)

theorem Calls.follows {p : Program C R ε α} (hp : p.Calls fun c => ∀ before, P before c)
    (before : Option C) :
  p.Follows P before
  := by
  induction p generalizing before with
  | pure a => trivial
  | throw e => trivial
  | call c k ih =>
      use hp.1 before
      intro r
      apply ih r (hp.2 r)

theorem follows_bind {p : Program C R ε α} {f : α → Program C R ε β} {before : Option C}
    (hp : p.Follows P before) (hf : ∀ a before, (f a).Follows P before) :
  (p >>= f).Follows P before
  := by
  change (p.bind f).Follows P before
  induction p generalizing before with
  | pure a => apply hf
  | throw e => trivial
  | call c k ih =>
      use hp.1
      intro r
      apply ih r (hp.2 r)

/-- What comes after a call follows it. -/
theorem follows_invoke_bind {c : C} {f : R c → Program C R ε β} {before : Option C}
    (hc : P before c) (hf : ∀ r, (f r).Follows P (some c)) :
  (invoke c >>= f).Follows P before
  := by
  use hc
  rintro (e | r)
  · trivial
  · apply hf

theorem follows_forM {l : List β} {f : β → Program C R ε PUnit} {before : Option C}
    (hf : ∀ b ∈ l, ∀ before, (f b).Follows P before) :
  (l.forM f).Follows P before
  := by
  induction l generalizing before with
  | nil => trivial
  | cons b l ih =>
      obtain ⟨hb, hl⟩ := List.forall_mem_cons.mp hf
      apply follows_bind (hb before)
      intro _ before
      apply ih hl

theorem follows_tryCatch {p : Program C R ε α} {h : ε → Program C R ε α} {before : Option C}
    (hp : p.Follows P before) (hh : ∀ e before, (h e).Follows P before) :
  (tryCatch p h).Follows P before
  := by
  change (p.handle h).Follows P before
  induction p generalizing before with
  | pure a => trivial
  | throw e => apply hh
  | call c k ih =>
      use hp.1
      intro r
      apply ih r (hp.2 r)

variable {perform : (c : C) → σ → Except ε (R c) × σ} {p p' : Program C R ε α} {s s' : σ}

/-- A step makes the first call. -/
theorem step_eq_some (h : p.step perform s = some (p', s')) :
  ∃ c, p.nextCall = some c ∧ s' = (perform c s).2
  := by
  cases p with
  | pure a => cases h
  | throw e => cases h
  | call c k =>
      cases h
      exact ⟨c, rfl, rfl⟩

/-- A call that is answered passes its answer on within a handler of exceptions. -/
theorem step_tryCatch_invoke_ok {c : C} {r : R c} (hc : perform c s = (.ok r, s'))
    (g : R c → Program C R ε β) (f : β → Program C R ε α) (h : ε → Program C R ε α) :
  (tryCatch ((invoke c >>= g) >>= f) h).step perform s = some (tryCatch (g r >>= f) h, s')
  := by
  change some (handle (bind (bind _ g) f) h, _) = _
  rw [hc]
  rfl

theorem nextCall_of_step_none (h : p.step perform s = none) :
  p.nextCall = none
  := by
  cases p with
  | pure a => rfl
  | throw e => rfl
  | call c k => cases h

/-- After a step the other calls follow the first. -/
theorem Follows.step {before : Option C} (hp : p.Follows P before)
    (h : p.step perform s = some (p', s')) {c : C} (hc : p.nextCall = some c) :
  P before c ∧ p'.Follows P (some c)
  := by
  cases p with
  | pure a => cases h
  | throw e => cases h
  | call c' k =>
      cases h
      cases hc
      exact ⟨hp.1, hp.2 _⟩

/-- A program that has ended makes no calls. -/
theorem calls_of_step_none {Q : C → Prop} (h : p.step perform s = none) :
  p.Calls Q
  := by
  cases p with
  | pure a => trivial
  | throw e => trivial
  | call c k => cases h

/-- What all calls of a program satisfy is satisfied after a step. -/
theorem Calls.step {Q : C → Prop} (hp : p.Calls Q) (h : p.step perform s = some (p', s')) :
  p'.Calls Q
  := by
  cases p with
  | pure a => cases h
  | throw e => cases h
  | call c k =>
      cases h
      apply hp.2

theorem Calls.nextCall {Q : C → Prop} (hp : p.Calls Q) {c : C} (hc : p.nextCall = some c) :
  Q c
  := by
  cases p with
  | pure a => cases hc
  | throw e => cases hc
  | call c' k =>
      cases hc
      apply hp.1

end Program
