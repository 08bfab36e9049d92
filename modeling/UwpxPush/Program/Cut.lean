import UwpxPush.Program.Outcome

/-!
# Programs that are cut

Some calls are counted.  `callAt counted n p s` is the counted call that `p`, run from `s`,
makes after `n` others, with the state in which it is made.  `cut` answers calls as they are
performed, until the next counted call after `n` others throws, before or after it has taken
effect.  A program that catches nothing ends there (`Straight.run_cut`).
-/

namespace Program

variable {C : Type} {R : C → Type} {ε α β σ : Type}
  (perform : (c : C) → σ → Except ε (R c) × σ) (counted : C → Prop) [DecidablePred counted]

/-- The counted call that is made after `n` others, and the state in which it is made. -/
def callAt : ℕ → Program C R ε α → σ → Option (C × σ)
  | _, .pure _, _ => none
  | _, .throw _, _ => none
  | n, .call c k, s =>
      if counted c then
        match n with
        | 0 => some (c, s)
        | n + 1 => callAt n (k (perform c s).1) (perform c s).2
      else callAt n (k (perform c s).1) (perform c s).2

/-- How many counted calls the program makes. -/
def count : Program C R ε α → σ → ℕ
  | .pure _, _ => 0
  | .throw _, _ => 0
  | .call c k, s =>
      (if counted c then 1 else 0) + count (k (perform c s).1) (perform c s).2

/-- Answer calls until the next counted one after `n` others throws, where `n` is given. -/
def cut (took : Bool) (e : ε) (c : C) : Option ℕ × σ → Except ε (R c) × Option ℕ × σ
  | (none, s) => ((perform c s).1, none, (perform c s).2)
  | (some n, s) =>
      if counted c then
        match n with
        | 0 => (.error e, none, if took then (perform c s).2 else s)
        | n + 1 => ((perform c s).1, some n, (perform c s).2)
      else ((perform c s).1, some n, (perform c s).2)

section

variable {perform counted} {p : Program C R ε α} {s t : σ} {n : ℕ} {c : C}

/-- There is a next counted call as long as not all have been made. -/
theorem callAt_eq_none :
  callAt perform counted n p s = none ↔ count perform counted p s ≤ n
  := by
  induction p generalizing n s with
  | pure a => simp [callAt, count]
  | throw e => simp [callAt, count]
  | call c k ih =>
      by_cases hc : counted c
      · cases n with
        | zero => simp [callAt, count, hc]
        | succ n =>
            simp only [callAt, count, hc, if_true, ih]
            omega
      · simp [callAt, count, hc, ih]

/-- The calls of `p >>= f` are those of `p` and, where `p` returns, those of `f`. -/
theorem callAt_bind_ok {f : α → Program C R ε β} {a : α} (h : run perform p s = (.ok a, t)) :
  callAt perform counted n (p >>= f) s
    = if n < count perform counted p s then callAt perform counted n p s
      else callAt perform counted (n - count perform counted p s) (f a) t
  := by
  change callAt perform counted n (p.bind f) s = _
  induction p generalizing n s with
  | pure b =>
      cases h
      rfl
  | throw e => cases h
  | call c k ih =>
      by_cases hc : counted c
      · cases n with
        | zero => simp [Program.bind, callAt, count, hc]
        | succ n =>
            simp only [Program.bind, callAt, count, hc, if_true, ih _ h, Nat.add_comm 1,
              Nat.add_lt_add_iff_right, Nat.add_sub_add_right]
      · simp only [Program.bind, callAt, count, hc, if_false, ih _ h, Nat.zero_add]

/-- Where `p` throws, the calls of `p >>= f` are those of `p`. -/
theorem callAt_bind_error {f : α → Program C R ε β} {e : ε}
    (h : run perform p s = (.error e, t)) :
  callAt perform counted n (p >>= f) s = callAt perform counted n p s
  := by
  change callAt perform counted n (p.bind f) s = _
  induction p generalizing n s with
  | pure a => cases h
  | throw e => rfl
  | call c k ih =>
      by_cases hc : counted c
      · cases n with
        | zero => simp [Program.bind, callAt, hc]
        | succ n => simp only [Program.bind, callAt, hc, if_true, ih _ h]
      · simp only [Program.bind, callAt, hc, if_false, ih _ h]

/-- What makes no counted calls delays none. -/
theorem callAt_bind_of_zero {f : α → Program C R ε β} {a : α}
    (h : run perform p s = (.ok a, t)) (hp : count perform counted p s = 0) :
  callAt perform counted n (p >>= f) s = callAt perform counted n (f a) t
  := by
  rw [callAt_bind_ok h, hp, if_neg (Nat.not_lt_zero n), Nat.sub_zero]

/-- Where neither `p` nor what follows its value makes counted calls, there are none. -/
theorem callAt_bind_none {f : α → Program C R ε β} (hp : count perform counted p s = 0)
    (hf : ∀ a u, run perform p s = (.ok a, u) → callAt perform counted n (f a) u = none) :
  callAt perform counted n (p >>= f) s = none
  := by
  rcases h : run perform p s with ⟨e | a, u⟩
  · rw [callAt_bind_error h, callAt_eq_none, hp]
    apply Nat.zero_le
  · rw [callAt_bind_of_zero h hp]
    apply hf a u h

/-- A call of `p >>= f` is one of `p`, or one of `f` on the value of `p`. -/
theorem callAt_bind {f : α → Program C R ε β}
    (h : callAt perform counted n (p >>= f) s = some (c, t)) :
  callAt perform counted n p s = some (c, t)
    ∨ ∃ a u m, run perform p s = (.ok a, u) ∧ callAt perform counted m (f a) u = some (c, t)
  := by
  rcases hp : run perform p s with ⟨e | a, u⟩
  · rw [callAt_bind_error hp] at h
    exact .inl h
  · rw [callAt_bind_ok hp] at h
    split at h
    · exact .inl h
    · exact .inr ⟨a, u, _, rfl, h⟩

theorem count_bind_ok {f : α → Program C R ε β} {a : α} (h : run perform p s = (.ok a, t)) :
  count perform counted (p >>= f) s
    = count perform counted p s + count perform counted (f a) t
  := by
  change count perform counted (p.bind f) s = _
  induction p generalizing s with
  | pure b =>
      cases h
      simp [Program.bind, count]
  | throw e => cases h
  | call c k ih => simp only [Program.bind, count, ih _ h, Nat.add_assoc]

theorem count_bind_error {f : α → Program C R ε β} {e : ε}
    (h : run perform p s = (.error e, t)) :
  count perform counted (p >>= f) s = count perform counted p s
  := by
  change count perform counted (p.bind f) s = _
  induction p generalizing s with
  | pure a => cases h
  | throw e => rfl
  | call c k ih => simp only [Program.bind, count, ih _ h]

/-- What makes no counted calls adds none. -/
theorem count_bind_of_zero {f : α → Program C R ε β}
    (hf : ∀ a u, count perform counted (f a) u = 0) :
  count perform counted (p >>= f) s = count perform counted p s
  := by
  rcases hp : run perform p s with ⟨e | a, u⟩
  · rw [count_bind_error hp]
  · rw [count_bind_ok hp, hf, Nat.add_zero]

theorem count_invoke (hc : counted c) :
  count perform counted (invoke c) s = 1
  := by
  simp only [invoke, count, hc, if_true]
  rcases (perform c s).1 with e | a
  · rfl
  · rfl

/-- A counted call that begins a program is the first one, and the others follow its answer. -/
theorem callAt_invoke_bind {b : C} {f : R b → Program C R ε β} (hb : counted b)
    (h : callAt perform counted n (invoke b >>= f) s = some (c, t)) :
  n = 0 ∧ c = b ∧ t = s
    ∨ ∃ m r u, n = m + 1 ∧ perform b s = (.ok r, u)
      ∧ callAt perform counted m (f r) u = some (c, t)
  := by
  change callAt perform counted n (.call b _) s = _ at h
  cases n with
  | zero =>
      simp only [callAt, hb, if_true, Option.some.injEq, Prod.mk.injEq] at h
      exact .inl ⟨rfl, h.1.symm, h.2.symm⟩
  | succ n =>
      simp only [callAt, hb, if_true] at h
      rcases hperform : perform b s with ⟨e | r, u⟩
      · rw [hperform] at h
        cases h
      · rw [hperform] at h
        exact .inr ⟨n, r, u, rfl, rfl, h⟩

/-- The first counted call of a program that begins with one. -/
theorem callAt_zero_invoke_bind {b : C} {f : R b → Program C R ε β} (hb : counted b) :
  callAt perform counted 0 (invoke b >>= f) s = some (b, s)
  := by
  change callAt perform counted 0 (.call b _) s = _
  simp only [callAt, hb, if_true]

/-- The counted calls after the first of a program that begins with one. -/
theorem callAt_succ_invoke_bind {b : C} {f : R b → Program C R ε β} {r : R b} (hb : counted b)
    (h : perform b s = (.ok r, t)) :
  callAt perform counted (n + 1) (invoke b >>= f) s = callAt perform counted n (f r) t
  := by
  change callAt perform counted (n + 1) (.call b _) s = _
  simp only [callAt, hb, if_true, h]
  rfl

theorem callAt_invoke {b : C} (hb : counted b)
    (h : callAt perform counted n (invoke b) s = some (c, t)) :
  n = 0 ∧ c = b ∧ t = s
  := by
  rw [← bind_pure (invoke b)] at h
  rcases callAt_invoke_bind hb h with h | ⟨m, r, u, -, -, hnone⟩
  · apply h
  · cases hnone

/-- A call that is made satisfies what all calls satisfy, in a state that all calls keep. -/
theorem Calls.callAt {P : C → Prop} {I : σ → Prop} (hp : p.Calls P)
    (hI : ∀ c s, P c → I s → I (perform c s).2) (hs : I s)
    (h : callAt perform counted n p s = some (c, t)) :
  P c ∧ I t
  := by
  induction p generalizing n s with
  | pure a => cases h
  | throw e => cases h
  | call c' k ih =>
      obtain ⟨hc, hk⟩ := hp
      have hI' := hI c' s hc hs
      by_cases hcounted : counted c'
      · cases n with
        | zero =>
            simp only [Program.callAt, hcounted, if_true, Option.some.injEq, Prod.mk.injEq] at h
            obtain ⟨rfl, rfl⟩ := h
            exact ⟨hc, hs⟩
        | succ n =>
            simp only [Program.callAt, hcounted, if_true] at h
            apply ih _ (hk _) hI' h
      · simp only [Program.callAt, hcounted, if_false] at h
        apply ih _ (hk _) hI' h

/-- A program without counted calls makes none. -/
theorem Calls.count_eq_zero (hp : p.Calls fun c => ¬counted c) :
  count perform counted p s = 0
  := by
  induction p generalizing s with
  | pure a => rfl
  | throw e => rfl
  | call c k ih => simp only [count, hp.1, if_false, ih _ (hp.2 _)]

/-- Between two counted calls, what the other calls leave alone stays. -/
theorem callAt_succ {γ : Type} {f : σ → γ}
    (hf : ∀ c s, ¬counted c → f (perform c s).2 = f s) {c' : C} {t' : σ}
    (h : callAt perform counted n p s = some (c, t))
    (h' : callAt perform counted (n + 1) p s = some (c', t')) :
  f t' = f (perform c t).2
  := by
  have hfirst : ∀ {p : Program C R ε α} {s : σ},
      callAt perform counted 0 p s = some (c', t') → f t' = f s := by
    intro p s h0
    induction p generalizing s with
    | pure a => cases h0
    | throw e => cases h0
    | call b k ih =>
        by_cases hb : counted b
        · simp only [Program.callAt, hb, if_true, Option.some.injEq, Prod.mk.injEq] at h0
          rw [h0.2]
        · simp only [Program.callAt, hb, if_false] at h0
          rw [ih _ h0, hf b s hb]
  induction p generalizing n s with
  | pure a => cases h
  | throw e => cases h
  | call b k ih =>
      by_cases hb : counted b
      · cases n with
        | zero =>
            simp only [Program.callAt, hb, if_true, Option.some.injEq, Prod.mk.injEq] at h h'
            obtain ⟨rfl, rfl⟩ := h
            apply hfirst h'
        | succ n =>
            simp only [Program.callAt, hb, if_true] at h h'
            apply ih _ h h'
      · simp only [Program.callAt, hb, if_false] at h h'
        apply ih _ h h'

/-- After the last counted call, what the other calls leave alone stays. -/
theorem callAt_last {γ : Type} {f : σ → γ}
    (hf : ∀ c s, ¬counted c → f (perform c s).2 = f s)
    (h : callAt perform counted n p s = some (c, t))
    (h' : callAt perform counted (n + 1) p s = none) :
  f (run perform p s).2 = f (perform c t).2
  := by
  have hnone : ∀ {p : Program C R ε α} {s : σ},
      callAt perform counted 0 p s = none → f (run perform p s).2 = f s := by
    intro p s h0
    induction p generalizing s with
    | pure a => rfl
    | throw e => rfl
    | call b k ih =>
        by_cases hb : counted b
        · simp [Program.callAt, hb] at h0
        · simp only [Program.callAt, hb, if_false] at h0
          rw [run, ih _ h0, hf b s hb]
  induction p generalizing n s with
  | pure a => cases h
  | throw e => cases h
  | call b k ih =>
      by_cases hb : counted b
      · cases n with
        | zero =>
            simp only [Program.callAt, hb, if_true, Option.some.injEq, Prod.mk.injEq] at h h'
            obtain ⟨rfl, rfl⟩ := h
            apply hnone h'
        | succ n =>
            simp only [Program.callAt, hb, if_true] at h h'
            apply ih _ h h'
      · simp only [Program.callAt, hb, if_false] at h h'
        apply ih _ h h'

/-! ### Cutting -/

variable {took : Bool} {e : ε}

/-- After the cut the calls are answered as they are performed. -/
theorem run_cut_none :
  run (cut perform counted took e) p (none, s)
    = ((run perform p s).1, none, (run perform p s).2)
  := by
  induction p generalizing s with
  | pure a => rfl
  | throw e => rfl
  | call c k ih => simp only [run, cut, ih]

/-- A program that catches nothing throws where it is cut. -/
theorem Straight.run_cut_some {P : C → Prop} {E : ε → Prop} (hp : p.Straight P E)
    (h : callAt perform counted n p s = some (c, t)) :
  run (cut perform counted took e) p (some n, s)
    = (.error e, none, if took then (perform c t).2 else t)
  := by
  induction p generalizing n s with
  | pure a => cases h
  | throw e => cases h
  | call b k ih =>
      obtain ⟨-, herror, hok⟩ := hp
      have hrun : ∀ {r : Except ε (R b)} {n : ℕ} {u : σ},
          callAt perform counted n (k r) u = some (c, t) →
          run (cut perform counted took e) (k r) (some n, u)
            = (.error e, none, if took then (perform c t).2 else t) := by
        rintro (e' | x) n u hu
        · rw [herror] at hu
          cases hu
        · apply ih _ (hok x) hu
      by_cases hb : counted b
      · cases n with
        | zero =>
            simp only [Program.callAt, hb, if_true, Option.some.injEq, Prod.mk.injEq] at h
            obtain ⟨rfl, rfl⟩ := h
            simp only [run, cut, hb, if_true, herror]
        | succ n =>
            simp only [Program.callAt, hb, if_true] at h
            simp only [run, cut, hb, if_true]
            apply hrun h
      · simp only [Program.callAt, hb, if_false] at h
        simp only [run, cut, hb, if_false]
        apply hrun h

end

end Program
