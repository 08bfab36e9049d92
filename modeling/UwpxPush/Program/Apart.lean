import UwpxPush.Interleaving.Basic
import UwpxPush.Program.Step

/-!
# Programs that keep apart

`p.CallsFrom perform P s` says that every call in the run of `p` from `s` satisfies `P`.  Where
a relation between states is kept by the calls of `P`, and they are answered alike in related
states, a program runs alike from related states.  Threads whose calls change nothing that the
others look at come, under every schedule, to the ends to which they come alone.
-/

namespace Program

variable {C : Type} {R : C → Type} {ε α β σ τ : Type}
  (perform : (c : C) → σ → Except ε (R c) × σ) (perform' : (c : C) → τ → Except ε (R c) × τ)

/-- Every call in the run of the program satisfies `P`. -/
def CallsFrom (P : C → Prop) : Program C R ε α → σ → Prop
  | .pure _, _ => True
  | .throw _, _ => True
  | .call c k, s => P c ∧ (k (perform c s).1).CallsFrom P (perform c s).2

/-- The number of calls in the run of the program. -/
def length : Program C R ε α → σ → ℕ
  | .pure _, _ => 0
  | .throw _, _ => 0
  | .call c k, s => (k (perform c s).1).length (perform c s).2 + 1

/-- The calls of `P` are answered alike in related states, and leave related states. -/
def Respects (P : C → Prop) (same : σ → τ → Prop) : Prop :=
  ∀ c, P c → ∀ s t, same s t →
    (perform c s).1 = (perform' c t).1 ∧ same (perform c s).2 (perform' c t).2

variable {perform perform'} {P Q : C → Prop} {s : σ}

/-! ### The calls of a run -/

theorem Calls.callsFrom {p : Program C R ε α} (hp : p.Calls P) (s : σ) :
  p.CallsFrom perform P s
  := by
  induction p generalizing s with
  | pure a => trivial
  | throw e => trivial
  | call c k ih =>
      use hp.1
      apply ih _ (hp.2 _)

theorem callsFrom_true (p : Program C R ε α) (s : σ) :
  p.CallsFrom perform (fun _ => True) s
  := by
  induction p generalizing s with
  | pure a => trivial
  | throw e => trivial
  | call c k ih => exact ⟨trivial, ih _ _⟩

theorem CallsFrom.mono {p : Program C R ε α} (hp : p.CallsFrom perform P s)
    (h : ∀ c, P c → Q c) :
  p.CallsFrom perform Q s
  := by
  induction p generalizing s with
  | pure a => trivial
  | throw e => trivial
  | call c k ih =>
      use h c hp.1
      apply ih _ hp.2

/-- The run of `p >>= f` makes the calls of `p`, and then those of `f`. -/
theorem callsFrom_bind {p : Program C R ε α} {f : α → Program C R ε β}
    (hp : p.CallsFrom perform P s)
    (hf : ∀ a s', p.run perform s = (.ok a, s') → (f a).CallsFrom perform P s') :
  (p >>= f).CallsFrom perform P s
  := by
  change (p.bind f).CallsFrom perform P s
  induction p generalizing s with
  | pure a => exact hf a s rfl
  | throw e => trivial
  | call c k ih =>
      use hp.1
      apply ih _ hp.2 hf

/-- The run of `try p catch h` makes the calls of `p`, and then those of `h` where `p` throws. -/
theorem callsFrom_tryCatch {p : Program C R ε α} {h : ε → Program C R ε α}
    (hp : p.CallsFrom perform P s)
    (hh : ∀ e s', p.run perform s = (.error e, s') → (h e).CallsFrom perform P s') :
  (tryCatch p h).CallsFrom perform P s
  := by
  change (p.handle h).CallsFrom perform P s
  induction p generalizing s with
  | pure a => trivial
  | throw e => exact hh e s rfl
  | call c k ih =>
      use hp.1
      apply ih _ hp.2 hh

/-- A loop makes the calls of its rounds, which keep `I`. -/
theorem callsFrom_foldlM {I : σ → Prop} {l : List β} {f : α → β → Program C R ε α} (a : α)
    (hf : ∀ a, ∀ b ∈ l, ∀ s, I s → (f a b).CallsFrom perform P s
      ∧ ∀ a' s', (f a b).run perform s = (.ok a', s') → I s') (hs : I s) :
  (l.foldlM f a).CallsFrom perform P s
  := by
  induction l generalizing a s with
  | nil => trivial
  | cons b l ih =>
      rw [List.foldlM_cons]
      obtain ⟨hcalls, hkeep⟩ := hf a b List.mem_cons_self s hs
      apply callsFrom_bind hcalls
      intro a' s' hrun
      apply ih a' _ (hkeep a' s' hrun)
      intro a b hb
      apply hf a b (List.mem_cons_of_mem _ hb)

theorem callsFrom_forM {I : σ → Prop} {l : List β} {f : β → Program C R ε PUnit}
    (hf : ∀ b ∈ l, ∀ s, I s → (f b).CallsFrom perform P s
      ∧ ∀ u s', (f b).run perform s = (.ok u, s') → I s') (hs : I s) :
  (l.forM f).CallsFrom perform P s
  := by
  induction l generalizing s with
  | nil => trivial
  | cons b l ih =>
      obtain ⟨hcalls, hkeep⟩ := hf b List.mem_cons_self s hs
      apply callsFrom_bind hcalls
      intro u s' hrun
      apply ih _ (hkeep u s' hrun)
      intro b hb
      apply hf b (List.mem_cons_of_mem _ hb)

/-! ### Related states -/

/-- A program runs alike from related states. -/
theorem Respects.run {same : σ → τ → Prop} (h : Respects perform perform' P same)
    {p : Program C R ε α} {t : τ} (hp : p.CallsFrom perform P s) (hst : same s t) :
  (p.run perform s).1 = (p.run perform' t).1 ∧ same (p.run perform s).2 (p.run perform' t).2
  := by
  induction p generalizing s t with
  | pure a => exact ⟨rfl, hst⟩
  | throw e => exact ⟨rfl, hst⟩
  | call c k ih =>
      obtain ⟨hanswer, hnext⟩ := h c hp.1 s t hst
      have hrun := ih _ hp.2 hnext
      simp only [Program.run]
      rw [← hanswer]
      exact hrun

/-- A program makes the same calls from related states. -/
theorem Respects.callsFrom {same : σ → τ → Prop} (h : Respects perform perform' P same)
    {p : Program C R ε α} {t : τ} (hp : p.CallsFrom perform P s) (hst : same s t) :
  p.CallsFrom perform' P t
  := by
  induction p generalizing s t with
  | pure a => trivial
  | throw e => trivial
  | call c k ih =>
      obtain ⟨hanswer, hnext⟩ := h c hp.1 s t hst
      use hp.1
      rw [← hanswer]
      exact ih _ hp.2 hnext

end Program

/-! ### Threads -/

namespace Threads

open Program

variable {ι C : Type} {R : C → Type} {ε α σ : Type}
  (perform : (c : C) → σ → Except ε (R c) × σ)

/-- The calls of a thread are answered alike in states that look the same to it, and change
nothing that the other threads look at. -/
structure Apart (P : ι → C → Prop) (same : ι → σ → σ → Prop) : Prop where
  refl : ∀ i s, same i s s
  trans : ∀ {i s t u}, same i s t → same i t u → same i s u
  respects : ∀ i, Respects perform perform (P i) (same i)
  others : ∀ {i j c}, j ≠ i → P i c → ∀ s, same j s (perform c s).2

/-- Threads that run programs. -/
abbrev stepProgram (_ : ι) (p : Program C R ε α) (s : σ) : Option (Program C R ε α × σ) :=
  p.step perform s

variable {perform} {P : ι → C → Prop} {same : ι → σ → σ → Prop}

/-- What is left of a program comes to the end `done` after at most `n` calls, from a state that
looks the same. -/
def ComesTo (perform : (c : C) → σ → Except ε (R c) × σ) (P : C → Prop) (same : σ → σ → Prop)
    (done : Except ε α × σ) (n : ℕ) (p : Program C R ε α) (shared : σ) : Prop :=
  ∃ s, same s shared ∧ p.CallsFrom perform P s ∧ p.run perform s = done ∧ p.length perform s ≤ n

section

variable {i : ι} {done : Except ε α × σ} {n : ℕ} {p p' : Program C R ε α} {s s' : σ}

theorem ComesTo.mono {m : ℕ} (h : ComesTo perform (P i) (same i) done n p s) (hle : n ≤ m) :
  ComesTo perform (P i) (same i) done m p s
  := by
  obtain ⟨t, hsame, hcalls, hrun, hlength⟩ := h
  exact ⟨t, hsame, hcalls, hrun, Nat.le_trans hlength hle⟩

/-- A thread goes on as it does alone. -/
theorem ComesTo.self (h : ComesTo perform (P i) (same i) done n p s)
    (hapart : Apart perform P same) (hstep : p.step perform s = some (p', s')) :
  ComesTo perform (P i) (same i) done (n - 1) p' s'
  := by
  obtain ⟨t, hsame, hcalls, hrun, hlength⟩ := h
  cases p with
  | pure a => cases hstep
  | throw e => cases hstep
  | call c k =>
      obtain ⟨hanswer, hnext⟩ := hapart.respects i c hcalls.1 t s hsame
      cases hstep
      rw [← hanswer]
      refine ⟨_, hnext, hcalls.2, hrun, ?_⟩
      rw [Program.length] at hlength
      omega

/-- The step of a thread is one of its calls. -/
theorem ComesTo.call (h : ComesTo perform (P i) (same i) done n p s)
    (hstep : p.step perform s = some (p', s')) :
  ∃ c, P i c ∧ s' = (perform c s).2
  := by
  obtain ⟨t, -, hcalls, -⟩ := h
  cases p with
  | pure a => cases hstep
  | throw e => cases hstep
  | call c k =>
      cases hstep
      exact ⟨c, hcalls.1, rfl⟩

/-- The calls of other threads do not matter to a thread. -/
theorem ComesTo.other {j : ι} (h : ComesTo perform (P i) (same i) done n p s)
    (hapart : Apart perform P same) (hne : i ≠ j) {c : C} (hc : P j c) :
  ComesTo perform (P i) (same i) done n p (perform c s).2
  := by
  obtain ⟨t, hsame, hcalls, hrun, hlength⟩ := h
  exact ⟨t, hapart.trans hsame (hapart.others hne hc s), hcalls, hrun, hlength⟩

/-- A thread without a step has no calls left. -/
theorem ComesTo.of_none (h : ComesTo perform (P i) (same i) done n p s)
    (hstep : p.step perform s = none) (m : ℕ) :
  ComesTo perform (P i) (same i) done m p s
  := by
  obtain ⟨t, hsame, hcalls, hrun, hlength⟩ := h
  refine ⟨t, hsame, hcalls, hrun, ?_⟩
  cases p with
  | pure a => exact Nat.zero_le m
  | throw e => exact Nat.zero_le m
  | call c k => cases hstep

/-- A thread that comes to its end without calls has come to it. -/
theorem ComesTo.ended (h : ComesTo perform (P i) (same i) done 0 p s) :
  (p.run perform s).1 = done.1 ∧ p.step perform s = none ∧ same i done.2 s
  := by
  obtain ⟨t, hsame, -, hrun, hlength⟩ := h
  cases p with
  | pure a =>
      cases hrun
      exact ⟨rfl, rfl, hsame⟩
  | throw e =>
      cases hrun
      exact ⟨rfl, rfl, hsame⟩
  | call c k =>
      rw [Program.length] at hlength
      omega

end

variable [DecidableEq ι] {done : ι → Except ε α × σ} {n : ι → ℕ}
  {t : Threads (fun _ : ι => Program C R ε α) σ}

/-- The step of a thread takes it nearer to its end, and the others no further from theirs. -/
theorem comesTo_next (h : Apart perform P same)
    (ht : ∀ i, ComesTo perform (P i) (same i) (done i) (n i) (t.locals i) t.shared) (j i : ι) :
  ComesTo perform (P i) (same i) (done i) (n i - if i = j then 1 else 0)
    ((next (stepProgram perform) j t).locals i) (next (stepProgram perform) j t).shared
  := by
  rcases hstep : (t.locals j).step perform t.shared with _ | ⟨p', s'⟩
  · rw [next_of_none hstep]
    split
    · next hi =>
        subst hi
        exact (ht i).of_none hstep _
    · exact ht i
  · rw [next_of_some hstep]
    dsimp only
    split
    · next hi =>
        subst hi
        rw [Function.update_self i p' t.locals]
        exact (ht i).self h hstep
    · next hne =>
        rw [Function.update_of_ne hne p' t.locals]
        obtain ⟨c, hc, rfl⟩ := (ht j).call hstep
        exact (ht i).other h hne hc

theorem comesTo_run (h : Apart perform P same)
    (ht : ∀ i, ComesTo perform (P i) (same i) (done i) (n i) (t.locals i) t.shared)
    (schedule : List ι) (i : ι) :
  ComesTo perform (P i) (same i) (done i) (n i - schedule.count i)
    ((run (stepProgram perform) schedule t).locals i)
    (run (stepProgram perform) schedule t).shared
  := by
  induction schedule generalizing t n with
  | nil => exact ht i
  | cons j schedule ih =>
      have hrest := ih (comesTo_next h ht j)
      apply hrest.mono
      by_cases hi : i = j
      · subst hi
        rw [if_pos rfl, List.count_cons_self]
        omega
      · rw [if_neg hi, List.count_cons_of_ne (Ne.symm hi)]
        omega

/-- Threads that keep apart come, under every schedule in which they have enough turns, to the
ends to which they come alone. -/
theorem run_apart (h : Apart perform P same) {p : ι → Program C R ε α} {s : σ}
    (hp : ∀ i, (p i).CallsFrom perform (P i) s) (schedule : List ι) (i : ι)
    (hi : (p i).length perform s ≤ schedule.count i) :
  let t := run (stepProgram perform) schedule ⟨p, s⟩
  ((t.locals i).run perform t.shared).1 = ((p i).run perform s).1
    ∧ (t.locals i).step perform t.shared = none ∧ same i ((p i).run perform s).2 t.shared
  := by
  have hcomes := comesTo_run (t := ⟨p, s⟩) h
    (fun i => ⟨s, h.refl i s, hp i, rfl, Nat.le_refl _⟩) schedule i
  exact (hcomes.mono (Nat.le_of_eq (Nat.sub_eq_zero_of_le hi))).ended

end Threads
