import Mathlib.Data.List.TakeWhile
import Mathlib.Algebra.Group.Int.Defs
import Mathlib.Algebra.Group.Nat.Defs
import Mathlib.Data.String.Basic
import Mathlib.Tactic.Common

/-!
# C strings and numbers

`cStr` is what a C function sees of a string, and `stoi` and `strtoll` are the conversions
of the C and C++ libraries.
-/

/-- The part of a string before its first NUL. -/
def cStr (s : String) : String :=
  String.ofList (s.toList.takeWhile (· ≠ '\x00'))

/-- A string without a NUL is seen as a whole. -/
theorem cStr_eq {s : String} (h : '\x00' ∉ s.toList) :
  cStr s = s
  := by
  have hs : s.toList.takeWhile (· ≠ '\x00') = s.toList := by
    rw [List.takeWhile_eq_self_iff]
    intro c hc
    simp only [decide_eq_true_eq]
    rintro rfl
    apply h hc
  rw [cStr, hs, String.ofList_toList]

/-- The white space of `isspace`. -/
def isSpace (c : Char) : Bool :=
  c = ' ' || ('\t' ≤ c && c ≤ '\r')

/-- The number at the start of a string: white space, a sign and digits, of which the first
two are optional; what follows is ignored. -/
def scanInteger (s : String) : Option Int :=
  let l := s.toList.dropWhile isSpace
  let negative := l.head? = some '-'
  let l := if l.head? = some '-' ∨ l.head? = some '+' then l.tail else l
  let digits := l.takeWhile Char.isDigit
  let n : Int := digits.foldl (fun n c => 10 * n + (c.toNat - '0'.toNat)) 0
  if digits = [] then none else some (if negative then -n else n)

/-- The exceptions of `std::stoi`. -/
inductive StoiError where
  | invalidArgument
  | outOfRange
  deriving DecidableEq

/-- `std::stoi`. -/
def stoi (s : String) : Except StoiError Int :=
  match scanInteger s with
  | none => .error .invalidArgument
  | some i => if -2 ^ 31 ≤ i ∧ i < 2 ^ 31 then .ok i else .error .outOfRange

/-- `std::strtoll` in base 10, which keeps to the range of its type. -/
def strtoll (s : String) : Int :=
  match scanInteger s with
  | none => 0
  | some i => max (-2 ^ 63) (min i (2 ^ 63 - 1))

/-! ### Printed numbers -/

/-- The digits of a number are read as the number. -/
theorem foldl_digits {l : List Char} (h : ∀ c ∈ l, c.isDigit) (n : Nat) :
  l.foldl (fun (n : Int) c => 10 * n + (c.toNat - '0'.toNat)) n = Nat.ofDigitChars 10 l n
  := by
  induction l generalizing n with
  | nil => rfl
  | cons c l ih =>
      have hc : '0'.toNat ≤ c.toNat := by
        have hdigit := h c List.mem_cons_self
        simp only [Char.isDigit, Bool.and_eq_true, decide_eq_true_eq] at hdigit
        exact hdigit.1
      have hstep : 10 * (n : Int) + (c.toNat - '0'.toNat)
          = ((10 * n + (c.toNat - '0'.toNat) : Nat) : Int) := by
        omega
      rw [List.foldl_cons, Nat.ofDigitChars_cons, hstep]
      apply ih
      intro c' hc'
      apply h c' (List.mem_cons_of_mem c hc')

/-- A digit is neither white space nor a sign. -/
theorem isDigit_start {c : Char} (h : c.isDigit) :
  isSpace c = false ∧ c ≠ '-' ∧ c ≠ '+'
  := by
  have hc : '0'.val ≤ c.val := by
    simp only [Char.isDigit, Bool.and_eq_true, decide_eq_true_eq] at h
    exact h.1
  refine ⟨?_, ?_, ?_⟩
  · rw [Bool.eq_false_iff]
    intro hspace
    simp only [isSpace, Bool.or_eq_true, Bool.and_eq_true, decide_eq_true_eq] at hspace
    rcases hspace with rfl | ⟨-, hle⟩
    · cases h
    · exact absurd (UInt32.le_trans hc hle) (by decide)
  · rintro rfl
    cases h
  · rintro rfl
    cases h

/-- The digits of a number, with a minus sign or without, are read as the number. -/
theorem scanInteger_digits (negative : Bool) {s : String} {n : Nat}
    (hs : s.toList = (if negative then ['-'] else []) ++ Nat.toDigits 10 n) :
  scanInteger s = some (if negative then -(n : Int) else n)
  := by
  have hdigit : ∀ c ∈ Nat.toDigits 10 n, c.isDigit := by
    intro c hc
    apply Nat.isDigit_of_mem_toDigits (by decide) (by decide) hc
  have htake : (Nat.toDigits 10 n).takeWhile Char.isDigit = Nat.toDigits 10 n := by
    rw [List.takeWhile_eq_self_iff]
    apply hdigit
  have hfold := foldl_digits hdigit 0
  rw [Nat.ofDigitChars_ten_toDigits] at hfold
  obtain ⟨c, l, hcons⟩ : ∃ c l, Nat.toDigits 10 n = c :: l := by
    apply List.exists_cons_of_ne_nil
    apply List.ne_nil_of_length_pos Nat.length_toDigits_pos
  obtain ⟨hspace, hminus, hplus⟩ := isDigit_start (hdigit c (by simp [hcons]))
  rw [hcons] at htake hfold
  unfold scanInteger
  rw [hs, hcons]
  cases negative with
  | false =>
      simp only [hspace, hminus, hplus, htake, Bool.false_eq_true, if_false, List.nil_append,
        List.dropWhile_cons, List.head?_cons, Option.some.injEq, or_self, List.cons_ne_nil]
      apply hfold
  | true =>
      have hsign : isSpace '-' = false := by decide
      simp only [hsign, htake, if_true, Bool.false_eq_true, if_false, List.cons_append,
        List.nil_append, List.dropWhile_cons, List.head?_cons, true_or, List.tail_cons,
        List.cons_ne_nil]
      exact congrArg (fun n => some (-n)) hfold

/-- A printed number is read back. -/
theorem scanInteger_toString (i : Int) :
  scanInteger (toString i) = some i
  := by
  rcases i with n | n
  · have hs : (toString (Int.ofNat n)).toList = [] ++ Nat.toDigits 10 n := Nat.toList_repr
    apply scanInteger_digits false hs
  · have hs : (toString (Int.negSucc n)).toList = ['-'] ++ Nat.toDigits 10 (n + 1) := by
      change ("-" ++ (n + 1).repr).toList = _
      rw [String.toList_append, Nat.toList_repr]
      rfl
    apply scanInteger_digits true hs

/-- A printed number is read back by `strtoll` if it is in the range of its type. -/
theorem strtoll_toString {i : Int} (hlow : -2 ^ 63 ≤ i) (hhigh : i < 2 ^ 63) :
  strtoll (toString i) = i
  := by
  rw [strtoll, scanInteger_toString]
  change max (-2 ^ 63) (min i (2 ^ 63 - 1)) = i
  omega

/-- A printed number contains no NUL. -/
theorem cStr_toString (i : Int) :
  cStr (toString i) = toString i
  := by
  have hdigits : ∀ n : Nat, '\x00' ∉ Nat.toDigits 10 n := by
    intro n hmem
    cases Nat.isDigit_of_mem_toDigits (by decide) (by decide) hmem
  apply cStr_eq
  rcases i with n | n
  · change '\x00' ∉ n.repr.toList
    rw [Nat.toList_repr]
    apply hdigits
  · change '\x00' ∉ ("-" ++ (n + 1).repr).toList
    rw [String.toList_append, Nat.toList_repr, List.mem_append]
    rintro (h | h)
    · exact absurd h (by decide)
    · exact hdigits _ h
