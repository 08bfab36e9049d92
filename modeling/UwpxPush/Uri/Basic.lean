import Mathlib.Data.List.Basic
import Mathlib.Tactic.Common

/-!
# URIs

The parts of a URI `scheme://userinfo@host:port/path?query#fragment`.  `split` takes a word
apart: the scheme is what comes before the first `:`, the fragment what follows the first
`#` after it, the query what follows the first `?` before that, the authority what stands
between `//` and the next `/`, and the path is what is left.  In the authority the user
information ends at the first `@`, and the port begins at the first `:` after it.  A word is
split into the parts from which it is put together and that contain no delimiter too early
(`split_eq_some_iff`).
-/

namespace Uri

/-- The authority of a URI. -/
structure Authority where
  userinfo : Option (List Char)
  host : List Char
  port : Option (List Char)
  deriving DecidableEq

end Uri

/-- The parts of a URI. -/
structure Uri where
  scheme : List Char
  authority : Option Uri.Authority
  path : List Char
  query : Option (List Char)
  fragment : Option (List Char)
  deriving DecidableEq

namespace Uri

/-! ### Delimiters -/

section

variable {α : Type} [DecidableEq α]

/-- What comes before the first `c`, and what follows it. -/
def cut (c : α) : List α → List α × Option (List α)
  | [] => ([], none)
  | a :: w => if a = c then ([], some w) else ((a :: (cut c w).1), (cut c w).2)

/-- A part that begins with its delimiter, where there is one. -/
def suffix (c : α) : Option (List α) → List α
  | none => []
  | some w => c :: w

variable {c : α} {u w : List α} {o : Option (List α)}

/-- A word is cut at the first delimiter. -/
theorem cut_eq_iff :
  cut c w = (u, o) ↔ w = u ++ suffix c o ∧ c ∉ u
  := by
  induction w generalizing u with
  | nil =>
      rw [cut, Prod.mk.injEq]
      constructor
      · rintro ⟨rfl, rfl⟩
        exact ⟨rfl, List.not_mem_nil⟩
      · rintro ⟨h, -⟩
        obtain ⟨rfl, hsuffix⟩ := List.append_eq_nil_iff.mp h.symm
        cases o with
        | none => exact ⟨rfl, rfl⟩
        | some v => cases hsuffix
  | cons a w ih =>
      rw [cut]
      split
      · next ha =>
          subst ha
          rw [Prod.mk.injEq]
          constructor
          · rintro ⟨rfl, rfl⟩
            exact ⟨rfl, List.not_mem_nil⟩
          · rintro ⟨h, hnot⟩
            cases u with
            | nil =>
                cases o with
                | none => cases h
                | some v =>
                    cases h
                    exact ⟨rfl, rfl⟩
            | cons b u =>
                cases h
                exact (hnot List.mem_cons_self).elim
      · next ha =>
          rw [Prod.mk.injEq]
          constructor
          · rintro ⟨rfl, rfl⟩
            obtain ⟨hw, hnot⟩ := ih.mp rfl
            constructor
            · rw [List.cons_append, ← hw]
            · rw [List.mem_cons, not_or]
              exact ⟨Ne.symm ha, hnot⟩
          · rintro ⟨h, hnot⟩
            cases u with
            | nil =>
                cases o with
                | none => cases h
                | some v =>
                    cases h
                    exact (ha rfl).elim
            | cons b u =>
                cases h
                have hcut := ih.mpr ⟨rfl, fun hmem => hnot (List.mem_cons_of_mem a hmem)⟩
                rw [hcut]
                exact ⟨rfl, rfl⟩

theorem cut_append (h : c ∉ u) :
  cut c (u ++ suffix c o) = (u, o)
  := cut_eq_iff.mpr ⟨rfl, h⟩

end

/-! ### Splitting -/

/-- An authority taken apart. -/
def Authority.split (w : List Char) : Authority :=
  match cut '@' w with
  | (w, none) => ⟨none, (cut ':' w).1, (cut ':' w).2⟩
  | (userinfo, some w) => ⟨some userinfo, (cut ':' w).1, (cut ':' w).2⟩

/-- The authority between `//` and the next `/`, and the path. -/
def splitAuthority : List Char → Option Authority × List Char
  | '/' :: '/' :: w => (some (Authority.split (cut '/' w).1), suffix '/' (cut '/' w).2)
  | path => (none, path)

/-- A word taken apart, where it has a scheme. -/
def split (w : List Char) : Option Uri :=
  match cut ':' w with
  | (_, none) => none
  | (scheme, some w) =>
      let (w, fragment) := cut '#' w
      let (w, query) := cut '?' w
      let (authority, path) := splitAuthority w
      some { scheme, authority, path, query, fragment }

/-! ### Putting together -/

/-- A part that ends with its delimiter, where there is one. -/
def affix (c : Char) : Option (List Char) → List Char
  | none => []
  | some w => w ++ [c]

namespace Authority

def toList (a : Authority) : List Char :=
  affix '@' a.userinfo ++ (a.host ++ suffix ':' a.port)

/-- No part of the authority contains a delimiter that would end it. -/
structure Proper (a : Authority) : Prop where
  host : ':' ∉ a.host
  userinfo : ∀ w, a.userinfo = some w → '@' ∉ w
  hostport : a.userinfo = none → '@' ∉ a.host ++ suffix ':' a.port

variable {w : List Char} {a : Authority}

/-- A word is put together again from its parts, which are proper. -/
theorem of_split (h : split w = a) :
  a.toList = w ∧ a.Proper
  := by
  subst h
  rw [split]
  rcases hcut : cut '@' w with ⟨v, _ | t⟩
  · obtain ⟨rfl, hat⟩ := cut_eq_iff.mp hcut
    obtain ⟨hv, hcolon⟩ := cut_eq_iff.mp (Eq.refl (cut ':' v))
    constructor
    · rw [toList, affix, suffix, List.nil_append, ← hv, List.append_nil]
    · constructor
      · exact hcolon
      · nofun
      · intro _
        rw [← hv]
        apply hat
  · obtain ⟨rfl, hat⟩ := cut_eq_iff.mp hcut
    obtain ⟨ht, hcolon⟩ := cut_eq_iff.mp (Eq.refl (cut ':' t))
    constructor
    · rw [toList, affix, suffix, ← ht, List.append_assoc]
      rfl
    · constructor
      · exact hcolon
      · rintro w ⟨⟩
        exact hat
      · nofun

theorem split_toList (h : a.Proper) :
  split a.toList = a
  := by
  obtain ⟨userinfo, host, port⟩ := a
  cases userinfo with
  | none =>
      have hcut := cut_append (o := none) (h.hostport rfl)
      rw [suffix, List.append_nil] at hcut
      rw [toList, affix, List.nil_append, split, hcut]
      dsimp only
      rw [cut_append h.host]
  | some w =>
      have hcut := cut_append (o := some (host ++ suffix ':' port)) (h.userinfo w rfl)
      rw [toList, affix, List.append_assoc, split]
      change (match cut '@' (w ++ suffix '@' (some (host ++ suffix ':' port))) with
        | (w, none) => Authority.mk none (cut ':' w).1 (cut ':' w).2
        | (userinfo, some w) => ⟨some userinfo, (cut ':' w).1, (cut ':' w).2⟩) = _
      rw [hcut]
      dsimp only
      rw [cut_append h.host]

end Authority

/-- The authority, if any, behind `//`. -/
def authorityToList : Option Authority → List Char
  | none => []
  | some a => '/' :: '/' :: a.toList

def toList (u : Uri) : List Char :=
  u.scheme ++ ':' ::
    (authorityToList u.authority ++ (u.path ++ (suffix '?' u.query ++ suffix '#' u.fragment)))

/-- No part of the URI contains a delimiter that would end it. -/
structure Proper (u : Uri) : Prop where
  scheme : ':' ∉ u.scheme
  authority : ∀ a, u.authority = some a → a.Proper ∧ '/' ∉ a.toList
  rooted : u.authority ≠ none → u.path = [] ∨ ∃ w, u.path = '/' :: w
  rootless : u.authority = none → ∀ w, u.path ≠ '/' :: '/' :: w
  main : '?' ∉ authorityToList u.authority ++ u.path
  query : '#' ∉ authorityToList u.authority ++ (u.path ++ suffix '?' u.query)

variable {w path : List Char} {authority : Option Authority} {u : Uri}

theorem of_splitAuthority (h : splitAuthority w = (authority, path)) :
  authorityToList authority ++ path = w
    ∧ (∀ a, authority = some a → a.Proper ∧ '/' ∉ a.toList)
    ∧ (authority ≠ none → path = [] ∨ ∃ w, path = '/' :: w)
    ∧ (authority = none → ∀ w, path ≠ '/' :: '/' :: w)
  := by
  unfold splitAuthority at h
  split at h
  · next w =>
      cases h
      obtain ⟨hw, hslash⟩ := cut_eq_iff.mp (Eq.refl (cut '/' w))
      obtain ⟨hlist, hproper⟩ := Authority.of_split (Eq.refl (Authority.split (cut '/' w).1))
      refine ⟨?_, ?_, ?_, nofun⟩
      · rw [authorityToList, hlist, List.cons_append, List.cons_append, ← hw]
      · rintro a ⟨⟩
        rw [hlist]
        exact ⟨hproper, hslash⟩
      · intro _
        cases (cut '/' w).2 with
        | none => exact .inl rfl
        | some w => exact .inr ⟨w, rfl⟩
  · next hnot =>
      cases h
      refine ⟨rfl, nofun, fun h => (h rfl).elim, ?_⟩
      intro _ w heq
      exact hnot w heq

theorem splitAuthority_append (h : ∀ a, authority = some a → a.Proper ∧ '/' ∉ a.toList)
    (hrooted : authority ≠ none → path = [] ∨ ∃ w, path = '/' :: w)
    (hrootless : authority = none → ∀ w, path ≠ '/' :: '/' :: w) :
  splitAuthority (authorityToList authority ++ path) = (authority, path)
  := by
  cases authority with
  | none =>
      rw [authorityToList, List.nil_append]
      unfold splitAuthority
      split
      · next w => exact (hrootless rfl w rfl).elim
      · rfl
  | some a =>
      obtain ⟨hproper, hslash⟩ := h a rfl
      have hpath : ∃ o, path = suffix '/' o := by
        rcases hrooted nofun with rfl | ⟨w, rfl⟩
        · exact ⟨none, rfl⟩
        · exact ⟨some w, rfl⟩
      obtain ⟨o, rfl⟩ := hpath
      rw [authorityToList, List.cons_append, List.cons_append, splitAuthority,
        cut_append hslash, Authority.split_toList hproper]

/-- A word is split into proper parts from which it is put together. -/
theorem split_eq_some_iff :
  split w = some u ↔ u.toList = w ∧ u.Proper
  := by
  constructor
  · intro h
    unfold split at h
    split at h
    · cases h
    · next scheme rest hscheme =>
        obtain ⟨rfl, hcolon⟩ := cut_eq_iff.mp hscheme
        rcases hfragment : cut '#' rest with ⟨main, fragment⟩
        obtain ⟨rfl, hhash⟩ := cut_eq_iff.mp hfragment
        rcases hquery : cut '?' main with ⟨hier, query⟩
        obtain ⟨rfl, hquestion⟩ := cut_eq_iff.mp hquery
        rcases hhier : splitAuthority hier with ⟨authority, path⟩
        obtain ⟨rfl, hauthority, hrooted, hrootless⟩ := of_splitAuthority hhier
        rw [hfragment] at h
        dsimp only at h
        rw [hquery] at h
        dsimp only at h
        rw [hhier] at h
        cases h
        constructor
        · simp only [toList, suffix, List.append_assoc]
        · constructor
          · exact hcolon
          · exact hauthority
          · exact hrooted
          · exact hrootless
          · exact hquestion
          · rw [← List.append_assoc]
            exact hhash
  · rintro ⟨rfl, h⟩
    have hscheme : cut ':' u.toList = (u.scheme, some (authorityToList u.authority
        ++ (u.path ++ (suffix '?' u.query ++ suffix '#' u.fragment)))) :=
      cut_eq_iff.mpr ⟨rfl, h.scheme⟩
    have hfragment : cut '#' (authorityToList u.authority
        ++ (u.path ++ (suffix '?' u.query ++ suffix '#' u.fragment)))
        = (authorityToList u.authority ++ (u.path ++ suffix '?' u.query), u.fragment) :=
      cut_eq_iff.mpr ⟨by simp only [List.append_assoc], h.query⟩
    have hquery : cut '?' (authorityToList u.authority ++ (u.path ++ suffix '?' u.query))
        = (authorityToList u.authority ++ u.path, u.query) :=
      cut_eq_iff.mpr ⟨(List.append_assoc _ _ _).symm, h.main⟩
    rw [split, hscheme]
    dsimp only
    rw [hfragment]
    dsimp only
    rw [hquery]
    dsimp only
    rw [splitAuthority_append h.authority h.rooted h.rootless]

end Uri
