import UwpxPush.Program.Basic

/-!
# Outcomes of programs

Surroundings that are not determined answer a call in several ways: `answers c s r s'` says
that the call `c`, made in the state `s`, may be answered with `r` and leave the state `s'`.
`Outcome answers p s r s'` says that `p`, run from `s`, may end with `r` in `s'`.  A program
that is `Straight` catches nothing, so where it returns all its calls have returned.
-/

namespace Program

variable {C : Type} {R : C → Type} {ε α β σ : Type}

/-- The program, run from `s`, may end with `r` in `s'`. -/
def Outcome (answers : (c : C) → σ → Except ε (R c) → σ → Prop) :
    Program C R ε α → σ → Except ε α → σ → Prop
  | .pure a, s, r, s' => r = .ok a ∧ s' = s
  | .throw e, s, r, s' => r = .error e ∧ s' = s
  | .call c k, s, r, s' => ∃ x t, answers c s x t ∧ Outcome answers (k x) t r s'

section

variable {answers : (c : C) → σ → Except ε (R c) → σ → Prop}

@[simp]
theorem outcome_pure {a : α} {s s' : σ} {r : Except ε α} :
  Outcome answers (Pure.pure a : Program C R ε α) s r s' ↔ r = .ok a ∧ s' = s
  := Iff.rfl

@[simp]
theorem outcome_throw {e : ε} {s s' : σ} {r : Except ε α} :
  Outcome answers (MonadExcept.throw e : Program C R ε α) s r s' ↔ r = .error e ∧ s' = s
  := Iff.rfl

/-- A call ends as its answers say. -/
@[simp]
theorem outcome_invoke {c : C} {s s' : σ} {r : Except ε (R c)} :
  Outcome answers (invoke c) s r s' ↔ answers c s r s'
  := by
  constructor
  · rintro ⟨e | x, t, h, rfl, rfl⟩
    · apply h
    · apply h
  · intro h
    use r, s', h
    cases r with
    | error e => exact ⟨rfl, rfl⟩
    | ok x => exact ⟨rfl, rfl⟩

/-- An outcome of `p >>= f` is one of `f` on a value of `p`, or an exception of `p`. -/
theorem outcome_bind {p : Program C R ε α} {f : α → Program C R ε β} {s s' : σ}
    {r : Except ε β} :
  Outcome answers (p >>= f) s r s'
    ↔ (∃ a t, Outcome answers p s (.ok a) t ∧ Outcome answers (f a) t r s')
      ∨ ∃ e, Outcome answers p s (.error e) s' ∧ r = .error e
  := by
  change Outcome answers (p.bind f) s r s' ↔ _
  induction p generalizing s with
  | pure a => simp [bind, Outcome]
  | throw e => simp [bind, Outcome, and_comm]
  | call c k ih =>
      simp only [bind, Outcome, ih]
      constructor
      · rintro ⟨x, t, hx, ⟨a, u, ha, hf⟩ | ⟨e, he, hr⟩⟩
        · exact .inl ⟨a, u, ⟨x, t, hx, ha⟩, hf⟩
        · exact .inr ⟨e, ⟨x, t, hx, he⟩, hr⟩
      · rintro (⟨a, u, ⟨x, t, hx, ha⟩, hf⟩ | ⟨e, ⟨x, t, hx, he⟩, hr⟩)
        · exact ⟨x, t, hx, .inl ⟨a, u, ha, hf⟩⟩
        · exact ⟨x, t, hx, .inr ⟨e, he, hr⟩⟩

/-- A value of `p >>= f` is one of `f` on a value of `p`. -/
theorem outcome_bind_ok {p : Program C R ε α} {f : α → Program C R ε β} {s s' : σ} {b : β}
    (h : Outcome answers (p >>= f) s (.ok b) s') :
  ∃ a t, Outcome answers p s (.ok a) t ∧ Outcome answers (f a) t (.ok b) s'
  := by
  rcases outcome_bind.mp h with h | ⟨e, -, he⟩
  · apply h
  · cases he

/-- An outcome of `try p catch h` is a value of `p`, or an outcome of `h` on an exception of
`p`. -/
theorem outcome_tryCatch {p : Program C R ε α} {h : ε → Program C R ε α} {s s' : σ}
    {r : Except ε α} :
  Outcome answers (tryCatch p h) s r s'
    ↔ (∃ a, Outcome answers p s (.ok a) s' ∧ r = .ok a)
      ∨ ∃ e t, Outcome answers p s (.error e) t ∧ Outcome answers (h e) t r s'
  := by
  change Outcome answers (p.handle h) s r s' ↔ _
  induction p generalizing s with
  | pure a => simp [handle, Outcome, and_comm]
  | throw e => simp [handle, Outcome]
  | call c k ih =>
      simp only [handle, Outcome, ih]
      constructor
      · rintro ⟨x, t, hx, ⟨a, ha, hr⟩ | ⟨e, u, he, hh⟩⟩
        · exact .inl ⟨a, ⟨x, t, hx, ha⟩, hr⟩
        · exact .inr ⟨e, u, ⟨x, t, hx, he⟩, hh⟩
      · rintro (⟨a, ⟨x, t, hx, ha⟩, hr⟩ | ⟨e, u, ⟨x, t, hx, he⟩, hh⟩)
        · exact ⟨x, t, hx, .inl ⟨a, ha, hr⟩⟩
        · exact ⟨x, t, hx, .inr ⟨e, u, he, hh⟩⟩

/-- The run of a program is one of its outcomes, where every answer is allowed. -/
theorem outcome_run {perform : (c : C) → σ → Except ε (R c) × σ}
    (h : ∀ c s, answers c s (perform c s).1 (perform c s).2) (p : Program C R ε α) (s : σ) :
  Outcome answers p s (run perform p s).1 (run perform p s).2
  := by
  induction p generalizing s with
  | pure a => exact ⟨rfl, rfl⟩
  | throw e => exact ⟨rfl, rfl⟩
  | call c k ih => exact ⟨_, _, h c s, ih _ _⟩

/-- A reflexive and transitive relation between states that every call of a program
respects, however it is answered, is respected by the outcomes. -/
theorem Calls.outcome_related {P : C → Prop} (rel : σ → σ → Prop) (refl : ∀ s, rel s s)
    (trans : ∀ {s t u}, rel s t → rel t u → rel s u)
    (h : ∀ c, P c → ∀ s x t, answers c s x t → rel s t) {p : Program C R ε α}
    (hp : p.Calls P) {s s' : σ} {r : Except ε α} (ho : Outcome answers p s r s') :
  rel s s'
  := by
  induction p generalizing s with
  | pure a =>
      rw [ho.2]
      apply refl
  | throw e =>
      rw [ho.2]
      apply refl
  | call c k ih =>
      obtain ⟨x, t, hx, ho⟩ := ho
      apply trans (h c hp.1 s x t hx)
      apply ih x (hp.2 x) ho

/-- What holds at the start of a loop and is kept by each of its rounds holds at its end. -/
theorem outcome_foldlM {f : α → β → Program C R ε α} {I : List β → α → Prop}
    (step : ∀ l a b s a' s', I l a → Outcome answers (f a b) s (.ok a') s' → I (l ++ [b]) a')
    (l : List β) {d : List β} {a a' : α} {s s' : σ} (start : I d a)
    (h : Outcome answers (l.foldlM f a) s (.ok a') s') :
  I (d ++ l) a'
  := by
  induction l generalizing d a s with
  | nil =>
      obtain ⟨ha, -⟩ := h
      cases ha
      simpa using start
  | cons b l ih =>
      rw [List.foldlM_cons] at h
      obtain ⟨a₁, t, hb, hl⟩ := outcome_bind_ok h
      have := ih (step d a b s a₁ t start hb) hl
      simpa using this

end

/-! ### Programs that catch nothing -/

/-- The program makes only calls that satisfy `P`, throws only exceptions that satisfy `E`,
and passes the exceptions of its calls on. -/
def Straight (P : C → Prop) (E : ε → Prop) : Program C R ε α → Prop
  | .pure _ => True
  | .throw e => E e
  | .call c k => P c ∧ (∀ e, k (.error e) = .throw e) ∧ ∀ x, (k (.ok x)).Straight P E

section

variable {P Q : C → Prop} {E F : ε → Prop}

theorem straight_pure (a : α) :
  (Pure.pure a : Program C R ε α).Straight P E
  := trivial

theorem straight_throw {e : ε} (h : E e) :
  (MonadExcept.throw e : Program C R ε α).Straight P E
  := h

theorem straight_invoke {c : C} (h : P c) :
  (invoke c : Program C R ε (R c)).Straight P E
  := ⟨h, fun _ => rfl, fun _ => trivial⟩

/-- A sequence is straight where both its parts are. -/
theorem straight_bind {p : Program C R ε α} {f : α → Program C R ε β} (hp : p.Straight P E)
    (hf : ∀ a, (f a).Straight P E) :
  (p >>= f).Straight P E
  := by
  change (p.bind f).Straight P E
  induction p with
  | pure a => apply hf
  | throw e => apply hp
  | call c k ih =>
      obtain ⟨hc, herror, hok⟩ := hp
      use hc
      constructor
      · intro e
        change (k (.error e)).bind f = _
        rw [herror e]
        rfl
      · intro x
        apply ih _ (hok x)

theorem straight_forM {l : List β} {f : β → Program C R ε PUnit}
    (hf : ∀ b, (f b).Straight P E) :
  (l.forM f).Straight P E
  := by
  induction l with
  | nil => trivial
  | cons b l ih => exact straight_bind (hf b) fun _ => ih

theorem straight_foldlM {l : List β} {f : α → β → Program C R ε α} (a : α)
    (hf : ∀ a b, (f a b).Straight P E) :
  (l.foldlM f a).Straight P E
  := by
  induction l generalizing a with
  | nil => trivial
  | cons b l ih =>
      rw [List.foldlM_cons]
      apply straight_bind (hf a b)
      intro a'
      apply ih

/-- The calls and the errors may be described more weakly. -/
theorem Straight.mono {p : Program C R ε α} (hp : p.Straight P E) (hc : ∀ c, P c → Q c)
    (he : ∀ e, E e → F e) :
  p.Straight Q F
  := by
  induction p with
  | pure a => trivial
  | throw e => apply he e hp
  | call c k ih =>
      obtain ⟨h, herror, hok⟩ := hp
      use hc c h, herror
      intro x
      apply ih _ (hok x)

/-- What a straight program calls is what it may call. -/
theorem Straight.calls {p : Program C R ε α} (hp : p.Straight P E) :
  p.Calls P
  := by
  induction p with
  | pure a => trivial
  | throw e => trivial
  | call c k ih =>
      obtain ⟨h, herror, hok⟩ := hp
      use h
      rintro (e | x)
      · rw [herror e]
        trivial
      · apply ih _ (hok x)

variable {answers : (c : C) → σ → Except ε (R c) → σ → Prop}

/-- An exception of a program that catches nothing is its own or one of a call. -/
theorem Straight.outcome_error {p : Program C R ε α} (hp : p.Straight P E)
    (h : ∀ c, P c → ∀ s e t, answers c s (.error e) t → E e) {s s' : σ} {e : ε}
    (ho : Outcome answers p s (.error e) s') :
  E e
  := by
  induction p generalizing s with
  | pure a => cases ho.1
  | throw e' =>
      obtain ⟨he, -⟩ := ho
      cases he
      apply hp
  | call c k ih =>
      obtain ⟨hc, herror, hok⟩ := hp
      obtain ⟨e' | x, t, hx, ho⟩ := ho
      · rw [herror e'] at ho
        cases ho.1
        apply h c hc s e t hx
      · apply ih _ (hok x) ho

/-- A run of a program that catches nothing throws its own exceptions or those of calls. -/
theorem Straight.run_error {perform : (c : C) → σ → Except ε (R c) × σ}
    {p : Program C R ε α} (hp : p.Straight P E)
    (h : ∀ c, P c → ∀ s e, (perform c s).1 = .error e → E e) {s s' : σ} {e : ε}
    (hr : run perform p s = (.error e, s')) :
  E e
  := by
  have ho : Outcome (fun c s r s' => perform c s = (r, s')) p s (run perform p s).1
      (run perform p s).2 :=
    outcome_run (fun _ _ => rfl) p s
  rw [hr] at ho
  apply hp.outcome_error _ ho
  intro c hc s e t hx
  apply h c hc s e
  rw [hx]

/-- A program that catches nothing and returns has run as if every call had been performed,
where a call that returns has been performed. -/
theorem Straight.run_eq {perform : (c : C) → σ → Except ε (R c) × σ}
    (h : ∀ c, P c → ∀ s x t, answers c s (.ok x) t → perform c s = (.ok x, t))
    {p : Program C R ε α} (hp : p.Straight P E) {s s' : σ} {a : α}
    (ho : Outcome answers p s (.ok a) s') :
  run perform p s = (.ok a, s')
  := by
  induction p generalizing s with
  | pure b =>
      obtain ⟨ha, rfl⟩ := ho
      cases ha
      rfl
  | throw e => cases ho.1
  | call c k ih =>
      obtain ⟨hc, herror, hok⟩ := hp
      obtain ⟨e | x, t, hx, ho⟩ := ho
      · rw [herror e] at ho
        cases ho.1
      · rw [run, h c hc s x t hx]
        apply ih _ (hok x) ho

end

end Program
