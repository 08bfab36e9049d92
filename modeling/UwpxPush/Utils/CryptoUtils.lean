import Mathlib.Data.List.OfFn
import Mathlib.Data.String.Basic

/-!
# Hashes and random tokens

The functions of `utils`.  The random sources are the draws they make: the `i`-th character
of a token is the one the `i`-th draw selects from the alphabet.  The hash function is
SHA-256 followed by `sodium_bin2hex`; `sha256` is a parameter.
-/

namespace CryptoUtils

/-- The alphabet of tokens and passwords. -/
def alphanum : List Char :=
  "0123456789abcdefghijklmnopqrstuvwxyzABCDEFGHIJKLMNOPQRSTUVWXYZ".toList

theorem length_alphanum_sub_one_pos :
  0 < alphanum.length - 1
  := by decide

/-- A password of `length` characters, where `randombytesUniform` are the draws of
`randombytes_uniform(alphanum.length() - 1)`, which exclude the bound. -/
def secureRandomPassword {length : Nat}
    (randombytesUniform : Fin length → Fin (alphanum.length - 1)) : String :=
  String.ofList (List.ofFn fun i =>
    alphanum.get (Fin.castLE (Nat.sub_le _ _) (randombytesUniform i)))

/-- A token of `length` characters, where `distr` are the draws of
`std::uniform_int_distribution<>(0, alphanum.length() - 1)`, which include the bound. -/
def urlSafeRandomToken {length : Nat}
    (distr : Fin length → Fin (alphanum.length - 1 + 1)) : String :=
  String.ofList (List.ofFn fun i =>
    alphanum.get (Fin.castLE (by decide) (distr i)))

@[simp]
theorem length_secureRandomPassword {length : Nat}
    (randombytesUniform : Fin length → Fin (alphanum.length - 1)) :
  (secureRandomPassword randombytesUniform).length = length
  := by simp [secureRandomPassword]

@[simp]
theorem length_urlSafeRandomToken {length : Nat}
    (distr : Fin length → Fin (alphanum.length - 1 + 1)) :
  (urlSafeRandomToken distr).length = length
  := by simp [urlSafeRandomToken]

/-- The hexadecimal digit of a number below 16. -/
def hexDigit (n : Nat) : Char :=
  "0123456789abcdef".toList.getD n '0'

/-- Two lower-case hexadecimal digits for each byte. -/
def sodiumBin2hex (buf : List UInt8) : String :=
  String.ofList (buf.flatMap fun b => [hexDigit (b.toNat / 16), hexDigit (b.toNat % 16)])

/-- The SHA-256 of a string in hexadecimal. -/
def hashSah256 (sha256 : String → Fin 32 → UInt8) (s : String) : String :=
  sodiumBin2hex (List.ofFn (sha256 s))

theorem length_sodiumBin2hex (buf : List UInt8) :
  (sodiumBin2hex buf).length = 2 * buf.length
  := by
  simp only [sodiumBin2hex, String.length_ofList]
  induction buf with
  | nil => rfl
  | cons b buf ih =>
      simp only [List.flatMap_cons, List.length_append, ih, List.length_cons, List.length_nil]
      omega

/-- A hash has 64 digits. -/
@[simp]
theorem length_hashSah256 (sha256 : String → Fin 32 → UInt8) (s : String) :
  (hashSah256 sha256 s).length = 64
  := by
  rw [hashSah256, length_sodiumBin2hex, List.length_ofFn]

end CryptoUtils
