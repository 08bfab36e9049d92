import UwpxPush.KeyValue.Store

/-!
# Stores that agree on some keys

`Agree K s t` says that the stores `s` and `t` have the same clock and the same entries under
the keys of `K`.  A command on a key of `K` is answered alike by both, and leaves them agreeing;
a command on another key leaves a store that agrees with the one before it.
-/

namespace KeyValue

namespace Store

variable {κ α : Type}

/-- The stores have the same clock and the same entries under the keys of `K`. -/
structure Agree (K : κ → Prop) (s t : Store κ α) : Prop where
  clock : s.clock = t.clock
  lookup : ∀ k, K k → s.lookup k = t.lookup k

namespace Agree

variable {K : κ → Prop} {s t u : Store κ α} {k : κ}

/-- A store agrees with itself. -/
theorem refl (s : Store κ α) :
  Agree K s s
  := ⟨rfl, fun _ _ => rfl⟩

theorem symm (h : Agree K s t) :
  Agree K t s
  := ⟨h.clock.symm, fun k hk => (h.lookup k hk).symm⟩

theorem trans (h : Agree K s t) (h' : Agree K t u) :
  Agree K s u
  := ⟨h.clock.trans h'.clock, fun k hk => (h.lookup k hk).trans (h'.lookup k hk)⟩

/-- The list under a key of `K` is the same. -/
theorem range (h : Agree K s t) (hk : K k) :
  s.range k = t.range k
  := by rw [Store.range, Store.find, h.lookup k hk, ← Store.find, ← Store.range]

/-- The string under a key of `K` is the same. -/
theorem get (h : Agree K s t) (hk : K k) :
  s.get k = t.get k
  := by rw [Store.get, Store.find, h.lookup k hk, ← Store.find, ← Store.get]

/-- As time passes, the same entries are left. -/
theorem advance (h : Agree K s t) (dt : Nat) :
  Agree K (s.advance dt) (t.advance dt)
  := by
  have hle : ∀ {s t : Store κ α}, Agree K s t → ∀ k, K k → ∀ e,
      (s.advance dt).lookup k = some e → (t.advance dt).lookup k = some e := by
    intro s t h k hk e he
    have hlive := live_of_lookup he
    apply lookup_advance
    · rw [← h.lookup k hk]
      exact lookup_of_advance he
    · rw [← h.clock]
      exact hlive
  constructor
  · exact congrArg (· + (dt : Int)) h.clock
  · intro k hk
    apply Option.ext
    intro e
    exact ⟨hle h k hk e, hle h.symm k hk e⟩

variable [DecidableEq κ]

/-- An entry that both stores take leaves them agreeing. -/
theorem put (h : Agree K s t) (k : κ) (e : Entry α) :
  Agree K (s.put k e) (t.put k e)
  := by
  use h.clock
  intro k' hk'
  by_cases heq : k' = k
  · subst heq
    simp [Store.lookup, Store.put, h.clock]
  · rw [lookup_put_of_ne s heq, lookup_put_of_ne t heq]
    exact h.lookup k' hk'

/-- A key that both stores delete leaves them agreeing. -/
theorem del (h : Agree K s t) (k : κ) :
  Agree K (s.del k) (t.del k)
  := by
  use h.clock
  intro k' hk'
  rw [lookup_del, lookup_del, h.lookup k' hk']

/-- A deadline that both stores set leaves them agreeing. -/
theorem expireAt (h : Agree K s t) (hk : K k) (d : Int) :
  Agree K (s.expireAt k d) (t.expireAt k d)
  := by
  rw [Store.expireAt, Store.expireAt, h.lookup k hk]
  split
  · exact h
  · exact h.put k _

/-- Both stores refuse the list, or both take it. -/
theorem push (h : Agree K s t) (hk : K k) (l : List α) :
  (∃ e, s.push k l = .error e ∧ t.push k l = .error e)
    ∨ ∃ s' t', s.push k l = .ok s' ∧ t.push k l = .ok t' ∧ Agree K s' t'
  := by
  rw [Store.push, Store.push, h.lookup k hk]
  split
  · exact .inr ⟨_, _, rfl, rfl, h.put k _⟩
  · exact .inr ⟨_, _, rfl, rfl, h.put k _⟩
  · exact .inl ⟨_, rfl, rfl⟩

/-! ### Commands on other keys -/

/-- An entry under another key. -/
theorem of_put (hk : ¬K k) (e : Entry α) :
  Agree K s (s.put k e)
  := by
  use rfl
  intro k' hk'
  rw [lookup_put_of_ne]
  rintro rfl
  exact hk hk'

/-- Another key is deleted. -/
theorem of_del (hk : ¬K k) :
  Agree K s (s.del k)
  := by
  use rfl
  intro k' hk'
  rw [lookup_del, if_neg]
  rintro rfl
  exact hk hk'

/-- The deadline of another key. -/
theorem of_expireAt (hk : ¬K k) (d : Int) :
  Agree K s (s.expireAt k d)
  := by
  rw [Store.expireAt]
  split
  · exact refl s
  · exact of_put hk _

/-- A list under another key. -/
theorem of_push {s' : Store κ α} {l : List α} (hk : ¬K k) (h : s.push k l = .ok s') :
  Agree K s s'
  := by
  rw [Store.push] at h
  split at h
  · cases h
    exact of_put hk _
  · cases h
    exact of_put hk _
  · cases h

end Agree

end Store

end KeyValue
