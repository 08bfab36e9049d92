import Mathlib.Logic.Function.Basic
import Mathlib.Tactic.Common

/-!
# Typed key-value stores with deadlines

A `Store κ α` maps keys of `κ` to entries, each a string `a : α` or a list of such, with an
optional deadline.  An entry is there until the clock of the store reaches its deadline;
`lookup s k` is the entry of `k` that is there.  Reading a list as a string, or a string as
a list, or pushing onto a string is an error.  `set` and `del` replace whatever a key holds,
`push` appends to a list and creates it where there is none.
-/

namespace KeyValue

/-- What a key holds. -/
inductive Value (α : Type) where
  | string (a : α)
  | list (l : List α)
  deriving DecidableEq

/-- A value with the time at which it expires. -/
structure Entry (α : Type) where
  value : Value α
  deadline : Option Int
  deriving DecidableEq

/-- An operation met a value of the other type. -/
inductive WrongType where
  | wrongType
  deriving DecidableEq

namespace Entry

variable {α : Type}

/-- The deadline of `e` is later than `t`. -/
def live (t : Int) (e : Entry α) : Bool :=
  match e.deadline with
  | none => true
  | some d => t < d

@[simp]
theorem live_none (t : Int) (v : Value α) :
  live t ⟨v, none⟩ = true
  := rfl

@[simp]
theorem live_some (t d : Int) (v : Value α) :
  live t ⟨v, some d⟩ = decide (t < d)
  := rfl

/-- An entry that is there at a time was there at every earlier time. -/
theorem live_of_le {t u : Int} (h : t ≤ u) {e : Entry α} (he : live u e = true) :
  live t e = true
  := by
  obtain ⟨v, d⟩ := e
  cases d with
  | none => rfl
  | some d =>
      simp only [live_some, decide_eq_true_eq] at he ⊢
      omega

end Entry

/-- A store of strings and lists of strings `α` under keys `κ`, with its clock. -/
structure Store (κ α : Type) where
  entries : κ → Option (Entry α)
  clock : Int

namespace Store

variable {κ α : Type}

/-- The store without entries. -/
def empty (t : Int) : Store κ α where
  entries _ := none
  clock := t

/-- The entry of `k`, unless it has expired. -/
def lookup (s : Store κ α) (k : κ) : Option (Entry α) :=
  (s.entries k).filter (Entry.live s.clock)

/-- The value under `k`. -/
def find (s : Store κ α) (k : κ) : Option (Value α) :=
  (s.lookup k).map Entry.value

/-- The list under `k`, empty where there is none. -/
def range (s : Store κ α) (k : κ) : Except WrongType (List α) :=
  match s.find k with
  | none => .ok []
  | some (.list l) => .ok l
  | some (.string _) => .error .wrongType

/-- The string under `k`. -/
def get (s : Store κ α) (k : κ) : Except WrongType (Option α) :=
  match s.find k with
  | none => .ok none
  | some (.string a) => .ok (some a)
  | some (.list _) => .error .wrongType

/-- Let the clock go on by `dt`. -/
def advance (s : Store κ α) (dt : Nat) : Store κ α :=
  { s with clock := s.clock + dt }

/-! ### Entries and values -/

@[simp]
theorem lookup_empty (t : Int) (k : κ) :
  (empty t : Store κ α).lookup k = none
  := rfl

/-- An entry that is looked up has not expired. -/
theorem live_of_lookup {s : Store κ α} {k : κ} {e : Entry α} (h : s.lookup k = some e) :
  e.live s.clock = true
  := by
  simp only [lookup, Option.filter_eq_some_iff] at h
  apply h.2

/-- What is there after the clock went on was there before, with the same deadline. -/
theorem lookup_of_advance {s : Store κ α} {k : κ} {dt : Nat} {e : Entry α}
    (h : (s.advance dt).lookup k = some e) :
  s.lookup k = some e
  := by
  simp only [lookup, advance, Option.filter_eq_some_iff] at h ⊢
  use h.1
  apply Entry.live_of_le _ h.2
  omega

/-- An entry stays while the clock has not reached its deadline. -/
theorem lookup_advance {s : Store κ α} {k : κ} {dt : Nat} {e : Entry α}
    (h : s.lookup k = some e) (he : e.live (s.clock + dt) = true) :
  (s.advance dt).lookup k = some e
  := by
  simp only [lookup, advance, Option.filter_eq_some_iff] at h ⊢
  exact ⟨h.1, he⟩

/-- An entry is there until the clock reaches its deadline. -/
theorem lookup_advance_eq {s : Store κ α} {k : κ} {dt : Nat} {v : Value α} {d : Int}
    (h : s.lookup k = some ⟨v, some d⟩) :
  (s.advance dt).lookup k = if s.clock + dt < d then some ⟨v, some d⟩ else none
  := by
  split
  · next hlt =>
      apply lookup_advance h
      simpa using hlt
  · next hle =>
      rw [Option.eq_none_iff_forall_ne_some]
      intro e he
      have hlive := live_of_lookup he
      cases (lookup_of_advance he).symm.trans h
      simp only [Entry.live_some, decide_eq_true_eq, advance] at hlive
      exact hle hlive

/-- What is not there does not come back. -/
theorem lookup_advance_of_none {s : Store κ α} {k : κ} {dt : Nat} (h : s.lookup k = none) :
  (s.advance dt).lookup k = none
  := by
  rw [Option.eq_none_iff_forall_ne_some]
  intro e he
  cases (lookup_of_advance he).symm.trans h

theorem find_of_lookup {s : Store κ α} {k : κ} {v : Value α} {d : Option Int}
    (h : s.lookup k = some ⟨v, d⟩) :
  s.find k = some v
  := by
  rw [find, h]
  rfl

theorem get_of_find {s : Store κ α} {k : κ} {a : α} (h : s.find k = some (.string a)) :
  s.get k = .ok (some a)
  := by
  rw [get, h]

/-! ### Writing -/

variable [DecidableEq κ]

/-- Put the entry `e` under `k`. -/
def put (s : Store κ α) (k : κ) (e : Entry α) : Store κ α :=
  { s with entries := Function.update s.entries k (some e) }

/-- Put the string `a` under `k`, without a deadline. -/
def set (s : Store κ α) (k : κ) (a : α) : Store κ α :=
  s.put k ⟨.string a, none⟩

/-- Remove `k`. -/
def del (s : Store κ α) (k : κ) : Store κ α :=
  { s with entries := Function.update s.entries k none }

/-- Append `l` to the list under `k`, which keeps its deadline. -/
def push (s : Store κ α) (k : κ) (l : List α) : Except WrongType (Store κ α) :=
  match s.lookup k with
  | none => .ok (s.put k ⟨.list l, none⟩)
  | some ⟨.list l', d⟩ => .ok (s.put k ⟨.list (l' ++ l), d⟩)
  | some ⟨.string _, _⟩ => .error .wrongType

/-- Let the entry of `k` expire at `t`. -/
def expireAt (s : Store κ α) (k : κ) (t : Int) : Store κ α :=
  match s.lookup k with
  | none => s
  | some e => s.put k { e with deadline := some t }

variable (s : Store κ α) (k k' : κ)

@[simp]
theorem clock_put (e : Entry α) :
  (s.put k e).clock = s.clock
  := rfl

@[simp]
theorem clock_set (a : α) :
  (s.set k a).clock = s.clock
  := rfl

@[simp]
theorem clock_del :
  (s.del k).clock = s.clock
  := rfl

@[simp]
theorem clock_expireAt (t : Int) :
  (s.expireAt k t).clock = s.clock
  := by
  unfold expireAt
  split
  · rfl
  · rfl

theorem clock_push {s s' : Store κ α} {k : κ} {l : List α} (h : s.push k l = .ok s') :
  s'.clock = s.clock
  := by
  unfold push at h
  split at h
  · cases h
    rfl
  · cases h
    rfl
  · cases h

theorem lookup_put {e : Entry α} (he : e.live s.clock = true) :
  (s.put k e).lookup k' = if k' = k then some e else s.lookup k'
  := by
  by_cases h : k' = k
  · subst h
    simp [lookup, put, he]
  · simp [lookup, put, h]

theorem lookup_put_of_ne {k k' : κ} (hk : k' ≠ k) (e : Entry α) :
  (s.put k e).lookup k' = s.lookup k'
  := by simp [lookup, put, hk]

/-- A string replaces what was there, with no deadline. -/
theorem lookup_set (a : α) :
  (s.set k a).lookup k' = if k' = k then some ⟨.string a, none⟩ else s.lookup k'
  := by
  apply lookup_put
  rfl

/-- A key that was deleted holds nothing. -/
theorem lookup_del :
  (s.del k).lookup k' = if k' = k then none else s.lookup k'
  := by
  by_cases h : k' = k
  · subst h
    simp [lookup, del]
  · simp [lookup, del, h]

/-- A deadline in the future is set where there is an entry. -/
theorem lookup_expireAt {t : Int} (ht : s.clock < t) :
  (s.expireAt k t).lookup k'
    = if k' = k then (s.lookup k).map fun e => { e with deadline := some t } else s.lookup k'
  := by
  unfold expireAt
  match h : s.lookup k with
  | none =>
      by_cases hk : k' = k
      · subst hk
        simp [h]
      · simp [hk]
  | some e =>
      simp only [Option.map_some]
      apply lookup_put
      simpa using ht

theorem lookup_expireAt_of_ne {k k' : κ} (hk : k' ≠ k) (t : Int) :
  (s.expireAt k t).lookup k' = s.lookup k'
  := by
  unfold expireAt
  split
  · rfl
  · simp [lookup, put, hk]

/-- A deadline changes no value. -/
theorem lookup_of_expireAt {k : κ} {t : Int} {e : Entry α}
    (h : (s.expireAt k t).lookup k = some e) :
  ∃ d, s.lookup k = some ⟨e.value, d⟩
  := by
  unfold expireAt at h
  split at h
  · next hn =>
      rw [hn] at h
      cases h
  · next e' he =>
      simp only [lookup, put, Function.update_self, Option.filter_eq_some_iff] at h
      obtain ⟨h, -⟩ := h
      cases h
      use e'.deadline

theorem deadline_of_expireAt {s : Store κ α} {k : κ} {t : Int} {e : Entry α}
    (h : (s.expireAt k t).lookup k = some e) :
  e.deadline = some t
  := by
  unfold expireAt at h
  split at h
  · next hn =>
      rw [hn] at h
      cases h
  · next e' he =>
      simp only [lookup, put, Function.update_self, Option.filter_eq_some_iff] at h
      obtain ⟨h, -⟩ := h
      cases h
      rfl

/-- A push begins a list without a deadline, -/
theorem push_of_none {s : Store κ α} {k : κ} (h : s.lookup k = none) (l : List α) :
  s.push k l = .ok (s.put k ⟨.list l, none⟩)
  := by
  rw [push, h]

/-- goes on with one and keeps its deadline, -/
theorem push_of_list {s : Store κ α} {k : κ} {l' : List α} {d : Option Int}
    (h : s.lookup k = some ⟨.list l', d⟩) (l : List α) :
  s.push k l = .ok (s.put k ⟨.list (l' ++ l), d⟩)
  := by
  rw [push, h]

/-- and fails on a string. -/
theorem push_of_string {s : Store κ α} {k : κ} {a : α} {d : Option Int}
    (h : s.lookup k = some ⟨.string a, d⟩) (l : List α) :
  s.push k l = .error .wrongType
  := by
  rw [push, h]

/-- Pushing onto a key that holds no string succeeds. -/
theorem push_ok {l : List α} (h : ∀ a d, s.lookup k ≠ some ⟨.string a, d⟩) :
  ∃ s', s.push k l = .ok s'
  := by
  unfold push
  split
  · exact ⟨_, rfl⟩
  · exact ⟨_, rfl⟩
  · next a d ha => exact (h a d ha).elim

/-- After a push the list ends with what was pushed. -/
theorem lookup_push_self {s s' : Store κ α} {k : κ} {l : List α} (h : s.push k l = .ok s') :
  ∃ l' d, s'.lookup k = some ⟨.list (l' ++ l), d⟩
    ∧ ((s.lookup k = none ∧ l' = []) ∨ s.lookup k = some ⟨.list l', d⟩)
  := by
  unfold push at h
  split at h
  · next hn =>
      cases h
      use [], none
      constructor
      · rw [lookup_put]
        · simp
        · rfl
      · exact .inl ⟨hn, rfl⟩
  · next l' d hl =>
      cases h
      use l', d
      constructor
      · have hlive := live_of_lookup hl
        rw [lookup_put]
        · simp
        · apply hlive
      · exact .inr hl
  · cases h

theorem lookup_push_of_ne {s s' : Store κ α} {k k' : κ} {l : List α}
    (h : s.push k l = .ok s') (hk : k' ≠ k) :
  s'.lookup k' = s.lookup k'
  := by
  unfold push at h
  split at h
  · cases h
    simp [lookup, put, hk]
  · cases h
    simp [lookup, put, hk]
  · cases h

/-- A list that is pushed onto and then gets a deadline. -/
theorem lookup_expireAt_push {s s' : Store κ α} {k : κ} {l : List α} {t : Int}
    (h : s.push k l = .ok s') (ht : s.clock < t) :
  ∃ l' d, (s'.expireAt k t).lookup k = some ⟨.list (l' ++ l), some t⟩
    ∧ ((s.lookup k = none ∧ l' = []) ∨ s.lookup k = some ⟨.list l', d⟩)
  := by
  obtain ⟨l', d, hl, hbefore⟩ := lookup_push_self h
  use l', d
  constructor
  · rw [lookup_expireAt]
    · simp [hl]
    · rw [clock_push h]
      apply ht
  · apply hbefore

/-- A value with a deadline is there until it. -/
theorem lookup_advance_expireAt_put {s : Store κ α} {k : κ} {v : Value α} {t : Int} {dt : Nat} :
  (((s.put k ⟨v, none⟩).expireAt k t).advance dt).lookup k
    = if s.clock + dt < t then some ⟨v, some t⟩ else none
  := by
  have hput : (s.put k ⟨v, none⟩).lookup k = some ⟨v, none⟩ := by
    rw [lookup_put _ _ _ rfl, if_pos rfl]
  rw [expireAt, hput]
  simp [lookup, advance, put, Option.filter]

end Store

end KeyValue
