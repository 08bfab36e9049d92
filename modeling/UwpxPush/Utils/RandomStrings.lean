import Mathlib.Data.Set.List
import UwpxPush.Utils.CryptoUtils

/-!
# What the random generators return

A generator that selects each character by a draw returns the strings whose characters can all
be selected.  The draws of a token select every letter and digit.  Those of a password leave
out the last character of the alphabet: the bound of `randombytes_uniform` is excluded, and it
is the length of the alphabet minus one.
-/

namespace CryptoUtils

/-- The string has `n` characters, which are letters and digits. -/
def Alphanumeric (n : ℕ) (s : String) : Prop :=
  s.length = n ∧ ∀ c ∈ s.toList, c.isAlphanum = true

/-- Both generators return exactly the strings of `n` letters and digits, and their draws are
positions of the alphabet. -/
structure ReturnsAll (n : ℕ) : Prop where
  password : Set.range (@secureRandomPassword n) = {s | Alphanumeric n s}
  token : Set.range (@urlSafeRandomToken n) = {s | Alphanumeric n s}
  randombytesUniform : ∀ e : Fin (alphanum.length - 1), e.val < alphanum.length
  distr : ∀ e : Fin (alphanum.length - 1 + 1), e.val < alphanum.length

/-! ### Strings of selected characters -/

section

variable {ι : Type} {n : ℕ}

/-- The strings of `n` characters that draws select are those whose characters can be
selected. -/
theorem range_ofFn (select : ι → Char) :
  Set.range (fun draws : Fin n → ι => String.ofList (List.ofFn fun i => select (draws i)))
    = {s | s.length = n ∧ ∀ c ∈ s.toList, c ∈ Set.range select}
  := by
  ext s
  simp only [Set.mem_range, Set.mem_ofPred_eq]
  constructor
  · rintro ⟨draws, rfl⟩
    constructor
    · simp
    · intro c hc
      rw [String.toList_ofList, List.mem_ofFn] at hc
      obtain ⟨i, rfl⟩ := hc
      exact ⟨draws i, rfl⟩
  · rintro ⟨rfl, hall⟩
    have hlength : s.toList.length = s.length := String.length_toList
    have hsome : ∀ i : Fin s.length, ∃ e, select e = s.toList.get (i.cast hlength.symm) := by
      intro i
      apply hall
      apply List.get_mem
    choose draws hdraws using hsome
    use draws
    apply String.toList_inj.mp
    rw [String.toList_ofList]
    apply List.ext_getElem
    · rw [List.length_ofFn, hlength]
    · intro i hi hi'
      rw [List.getElem_ofFn]
      apply hdraws

end

/-! ### The alphabet -/

/-- The characters of the alphabet are the letters and digits. -/
theorem mem_alphanum_iff (c : Char) :
  c ∈ alphanum ↔ c.isAlphanum = true
  := by
  constructor
  · have hall : alphanum.all Char.isAlphanum = true := by decide
    rw [List.all_eq_true] at hall
    apply hall
  · intro h
    have hascii : c.isAlphanum = true → c.toNat < 128 := by
      delta Char.isAlphanum Char.isAlpha Char.isUpper Char.isLower Char.isDigit
      simp only [Bool.or_eq_true, Bool.and_eq_true, decide_eq_true_eq, UInt32.le_iff_toNat_le,
        ge_iff_le]
      have hval : c.toNat = c.val.toNat := rfl
      have hupper : 'Z'.val.toNat = 90 := rfl
      have hlower : 'z'.val.toNat = 122 := rfl
      have hdigit : '9'.val.toNat = 57 := rfl
      omega
    have hall : ∀ k < 128, (Char.ofNat k).isAlphanum = true → Char.ofNat k ∈ alphanum := by
      decide +kernel
    have hmem := hall c.toNat (hascii h)
    rw [Char.ofNat_toNat] at hmem
    apply hmem h

/-- The draws of a token select the characters of the alphabet. -/
theorem range_distr :
  Set.range (fun e : Fin (alphanum.length - 1 + 1) => alphanum.get (Fin.castLE (by decide) e))
    = {c | c ∈ alphanum}
  := Set.range_list_get alphanum

/-- The draws of a password select the characters of the alphabet but for the last one. -/
theorem range_randombytesUniform :
  Set.range (fun e : Fin (alphanum.length - 1) =>
      alphanum.get (Fin.castLE (Nat.sub_le _ _) e))
    = {c | c ∈ alphanum ∧ c ≠ 'Z'}
  := by
  have hselected : ∀ e : Fin (alphanum.length - 1),
      alphanum.get (Fin.castLE (Nat.sub_le _ _) e) ≠ 'Z' := by
    decide
  have hposition : ∀ i : Fin alphanum.length,
      alphanum.get i ≠ 'Z' → i.val < alphanum.length - 1 := by
    decide
  ext c
  simp only [Set.mem_range, Set.mem_ofPred_eq]
  constructor
  · rintro ⟨e, rfl⟩
    exact ⟨List.get_mem _ _, hselected e⟩
  · rintro ⟨hc, hne⟩
    obtain ⟨i, rfl⟩ := List.get_of_mem hc
    exact ⟨⟨i.val, hposition i hne⟩, rfl⟩

/-! ### The generators -/

/-- The tokens are the strings of letters and digits. -/
theorem range_urlSafeRandomToken (n : ℕ) :
  Set.range (@urlSafeRandomToken n) = {s | Alphanumeric n s}
  := by
  have hrange := range_ofFn (n := n) fun e : Fin (alphanum.length - 1 + 1) =>
    alphanum.get (Fin.castLE (by decide) e)
  rw [range_distr] at hrange
  apply hrange.trans
  ext s
  simp only [Set.mem_ofPred_eq, Alphanumeric, mem_alphanum_iff]

/-- The passwords are the strings of letters and digits without the last letter of the
alphabet. -/
theorem range_secureRandomPassword (n : ℕ) :
  Set.range (@secureRandomPassword n) = {s | Alphanumeric n s ∧ 'Z' ∉ s.toList}
  := by
  have hrange := range_ofFn (n := n) fun e : Fin (alphanum.length - 1) =>
    alphanum.get (Fin.castLE (Nat.sub_le _ _) e)
  rw [range_randombytesUniform] at hrange
  apply hrange.trans
  ext s
  simp only [Set.mem_ofPred_eq, Alphanumeric, mem_alphanum_iff]
  constructor
  · rintro ⟨hlength, hall⟩
    refine ⟨⟨hlength, fun c hc => (hall c hc).1⟩, ?_⟩
    intro hz
    exact (hall 'Z' hz).2 rfl
  · rintro ⟨⟨hlength, hall⟩, hz⟩
    use hlength
    intro c hc
    use hall c hc
    rintro rfl
    exact hz hc

/-- The string of `n` times the last letter of the alphabet. -/
theorem alphanumeric_replicate (n : ℕ) :
  Alphanumeric n (String.ofList (List.replicate n 'Z'))
  := by
  constructor
  · rw [String.length_ofList, List.length_replicate]
  · intro c hc
    rw [String.toList_ofList] at hc
    rw [List.eq_of_mem_replicate hc]
    decide

/-- For every length the passwords are the strings without the last letter of the alphabet and
the tokens are all strings of letters and digits, so not both generators return all of them. -/
theorem not_returnsAll {n : ℕ} (h : 1 ≤ n) :
  Set.range (@secureRandomPassword n) = {s | Alphanumeric n s ∧ 'Z' ∉ s.toList}
    ∧ Set.range (@urlSafeRandomToken n) = {s | Alphanumeric n s}
    ∧ ¬ReturnsAll n
  := by
  use range_secureRandomPassword n, range_urlSafeRandomToken n
  intro hall
  have hmem : String.ofList (List.replicate n 'Z') ∈ Set.range (@secureRandomPassword n) := by
    rw [hall.password]
    apply alphanumeric_replicate
  rw [range_secureRandomPassword] at hmem
  apply hmem.2
  rw [String.toList_ofList, List.mem_replicate]
  exact ⟨Nat.ne_of_gt h, rfl⟩

/-- The secrets of nodes, which have 15 characters. -/
theorem not_returnsAll_secret :
  Set.range (@secureRandomPassword 15) = {s | Alphanumeric 15 s ∧ 'Z' ∉ s.toList}
    ∧ Set.range (@urlSafeRandomToken 15) = {s | Alphanumeric 15 s}
    ∧ ¬ReturnsAll 15
  := not_returnsAll (by decide)

/-- No draw makes the password of one character that is the last letter of the alphabet. -/
theorem not_returnsAll_one :
  Alphanumeric 1 "Z" ∧ (∀ draws, @secureRandomPassword 1 draws ≠ "Z") ∧ ¬ReturnsAll 1
  := by
  have hz : Alphanumeric 1 "Z" := alphanumeric_replicate 1
  have hnever : ∀ draws, @secureRandomPassword 1 draws ≠ "Z" := by
    intro draws hdraws
    have hmem : "Z" ∈ Set.range (@secureRandomPassword 1) := ⟨draws, hdraws⟩
    rw [range_secureRandomPassword] at hmem
    apply hmem.2
    decide
  use hz, hnever
  intro hall
  have hmem : "Z" ∈ Set.range (@secureRandomPassword 1) := by
    rw [hall.password]
    apply hz
  obtain ⟨draws, hdraws⟩ := hmem
  exact hnever draws hdraws

end CryptoUtils
