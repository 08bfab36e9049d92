import Mathlib.Data.List.Basic

/-!
# Regular expressions over character classes

A small language of regular expressions: words, characters of a class, sequences, optional
parts, and repetitions of a class.  `r.rest w` lists what can be left of `w` after a match
of `r` at its start, over all ways of matching; `r` accepts `w` when nothing can be left.
`r.Matches w` says which words belong to `r`, and these are the ones it accepts
(`accepts_iff`).
-/

/-- A regular expression over `α`. -/
inductive Regex (α : Type) where
  /-- The word `l`. -/
  | word (l : List α)
  /-- One character of the class `p`. -/
  | one (p : α → Bool)
  /-- At most `n` characters of the class `p`. -/
  | upTo (n : Nat) (p : α → Bool)
  /-- One or more characters of the class `p`. -/
  | many (p : α → Bool)
  | seq (r s : Regex α)
  | opt (r : Regex α)

namespace Regex

variable {α : Type} [DecidableEq α]

/-- What can be left of a word after at most `n` characters of the class `p`. -/
def restUpTo (p : α → Bool) : Nat → List α → List (List α)
  | 0, w => [w]
  | _ + 1, [] => [[]]
  | n + 1, a :: w => if p a then (a :: w) :: restUpTo p n w else [a :: w]

/-- What can be left of a word after one or more characters of the class `p`. -/
def restMany (p : α → Bool) : List α → List (List α)
  | [] => []
  | a :: w => if p a then w :: restMany p w else []

/-- What can be left of a word after a match of the expression. -/
def rest : Regex α → List α → List (List α)
  | word l, w => if l <+: w then [w.drop l.length] else []
  | one p, a :: w => if p a then [w] else []
  | one _, [] => []
  | upTo n p, w => restUpTo p n w
  | many p, w => restMany p w
  | seq r s, w => (r.rest w).flatMap s.rest
  | opt r, w => w :: r.rest w

/-- The expression matches the whole word. -/
def accepts (r : Regex α) (w : List α) : Bool :=
  (r.rest w).any List.isEmpty

/-- The words of an expression. -/
def Matches : Regex α → List α → Prop
  | word l, u => u = l
  | one p, u => ∃ a, u = [a] ∧ p a = true
  | upTo n p, u => u.length ≤ n ∧ ∀ a ∈ u, p a = true
  | many p, u => u ≠ [] ∧ ∀ a ∈ u, p a = true
  | seq r s, u => ∃ v w, u = v ++ w ∧ r.Matches v ∧ s.Matches w
  | opt r, u => u = [] ∨ r.Matches u

variable {p : α → Bool} {v w : List α}

omit [DecidableEq α] in
theorem mem_restUpTo_iff {n : Nat} :
  v ∈ restUpTo p n w ↔ ∃ u, w = u ++ v ∧ u.length ≤ n ∧ ∀ a ∈ u, p a = true
  := by
  induction n generalizing w with
  | zero =>
      rw [restUpTo, List.mem_singleton]
      constructor
      · rintro rfl
        exact ⟨[], rfl, Nat.le_refl 0, nofun⟩
      · rintro ⟨u, rfl, hu, -⟩
        rw [List.eq_nil_of_length_eq_zero (Nat.le_zero.mp hu), List.nil_append]
  | succ n ih =>
      cases w with
      | nil =>
          rw [restUpTo, List.mem_singleton]
          constructor
          · rintro rfl
            exact ⟨[], rfl, Nat.zero_le _, nofun⟩
          · rintro ⟨u, h, -⟩
            exact (List.append_eq_nil_iff.mp h.symm).2
      | cons a w =>
          rw [restUpTo]
          split
          · next ha =>
              rw [List.mem_cons, ih]
              constructor
              · rintro (rfl | ⟨u, rfl, hu, hp⟩)
                · exact ⟨[], rfl, Nat.zero_le _, nofun⟩
                · exact ⟨a :: u, rfl, Nat.succ_le_succ hu, List.forall_mem_cons.mpr ⟨ha, hp⟩⟩
              · rintro ⟨u, h, hu, hp⟩
                cases u with
                | nil => exact .inl h.symm
                | cons b u =>
                    cases h
                    exact .inr ⟨u, rfl, Nat.le_of_succ_le_succ hu, (List.forall_mem_cons.mp hp).2⟩
          · next ha =>
              rw [List.mem_singleton]
              constructor
              · rintro rfl
                exact ⟨[], rfl, Nat.zero_le _, nofun⟩
              · rintro ⟨u, h, hu, hp⟩
                cases u with
                | nil => exact h.symm
                | cons b u =>
                    cases h
                    exact (ha (hp a List.mem_cons_self)).elim

omit [DecidableEq α] in
theorem mem_restMany_iff :
  v ∈ restMany p w ↔ ∃ u, w = u ++ v ∧ u ≠ [] ∧ ∀ a ∈ u, p a = true
  := by
  induction w with
  | nil =>
      constructor
      · nofun
      · rintro ⟨u, h, hu, -⟩
        exact (hu (List.append_eq_nil_iff.mp h.symm).1).elim
  | cons a w ih =>
      rw [restMany]
      split
      · next ha =>
          rw [List.mem_cons, ih]
          constructor
          · rintro (rfl | ⟨u, rfl, -, hp⟩)
            · exact ⟨[a], rfl, nofun, List.forall_mem_singleton.mpr ha⟩
            · exact ⟨a :: u, rfl, nofun, List.forall_mem_cons.mpr ⟨ha, hp⟩⟩
          · rintro ⟨u, h, hu, hp⟩
            cases u with
            | nil => exact (hu rfl).elim
            | cons b u =>
                cases h
                by_cases hnil : u = []
                · rw [hnil]
                  exact .inl rfl
                · exact .inr ⟨u, rfl, hnil, (List.forall_mem_cons.mp hp).2⟩
      · next ha =>
          constructor
          · nofun
          · rintro ⟨u, h, hu, hp⟩
            cases u with
            | nil => exact (hu rfl).elim
            | cons b u =>
                cases h
                exact (ha (hp a List.mem_cons_self)).elim

/-- What can be left of a word is what follows a word of the expression. -/
theorem mem_rest_iff {r : Regex α} :
  v ∈ r.rest w ↔ ∃ u, w = u ++ v ∧ r.Matches u
  := by
  induction r generalizing v w with
  | word l =>
      rw [rest]
      split
      · next h =>
          obtain ⟨t, rfl⟩ := h
          rw [List.mem_singleton, List.drop_left]
          constructor
          · rintro rfl
            exact ⟨l, rfl, rfl⟩
          · rintro ⟨u, h, rfl⟩
            exact (List.append_cancel_left h).symm
      · next h =>
          constructor
          · nofun
          · rintro ⟨u, rfl, rfl⟩
            exact (h (List.prefix_append _ _)).elim
  | one p =>
      cases w with
      | nil =>
          constructor
          · nofun
          · rintro ⟨u, h, a, rfl, -⟩
            cases h
      | cons b w =>
          rw [rest]
          split
          · next hb =>
              rw [List.mem_singleton]
              constructor
              · rintro rfl
                exact ⟨[b], rfl, b, rfl, hb⟩
              · rintro ⟨u, h, a, rfl, -⟩
                cases h
                rfl
          · next hb =>
              constructor
              · nofun
              · rintro ⟨u, h, a, rfl, ha⟩
                cases h
                exact (hb ha).elim
  | upTo n p => exact mem_restUpTo_iff
  | many p => exact mem_restMany_iff
  | seq r s hr hs =>
      simp only [rest, List.mem_flatMap, hr, hs]
      constructor
      · rintro ⟨t, ⟨u, rfl, hu⟩, u', rfl, hu'⟩
        exact ⟨u ++ u', (List.append_assoc _ _ _).symm, u, u', rfl, hu, hu'⟩
      · rintro ⟨_, rfl, u, u', rfl, hu, hu'⟩
        exact ⟨u' ++ v, ⟨u, List.append_assoc _ _ _, hu⟩, u', rfl, hu'⟩
  | opt r hr =>
      rw [rest, List.mem_cons, hr]
      constructor
      · rintro (rfl | ⟨u, rfl, hu⟩)
        · exact ⟨[], rfl, .inl rfl⟩
        · exact ⟨u, rfl, .inr hu⟩
      · rintro ⟨u, rfl, rfl | hu⟩
        · exact .inl rfl
        · exact .inr ⟨u, rfl, hu⟩

/-- An expression accepts its words. -/
theorem accepts_iff {r : Regex α} :
  r.accepts w = true ↔ r.Matches w
  := by
  rw [accepts, List.any_eq_true]
  constructor
  · rintro ⟨v, hv, hnil⟩
    obtain ⟨u, rfl, hu⟩ := mem_rest_iff.mp hv
    rw [List.isEmpty_iff.mp hnil, List.append_nil]
    apply hu
  · intro h
    exact ⟨[], mem_rest_iff.mpr ⟨w, (List.append_nil w).symm, h⟩, rfl⟩

end Regex
