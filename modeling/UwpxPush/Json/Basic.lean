import Mathlib.Algebra.Group.Int.Defs
import Mathlib.Algebra.Group.Nat.Defs
import Mathlib.Data.String.Basic
import Mathlib.Tactic.Common

/-!
# JSON values

`Json` is the type of values of `nlohmann::json`.  An object is the list of its fields in
the order of their keys.  `toInt` and `toStr` are the implicit conversions to `int` and
`std::string`: the first casts every number and boolean and throws on the rest, the second
throws on everything that is not a string.
-/

/-- A JSON value.  The number `float m e` is `m * 2 ^ e`. -/
inductive Json where
  | null
  | boolean (b : Bool)
  | integer (i : Int)
  | float (m e : Int)
  | string (s : String)
  | array (l : List Json)
  | object (fields : List (String × Json))

namespace Json

/-- The name of the type of a value in the messages of `nlohmann::json`. -/
def typeName : Json → String
  | null => "null"
  | boolean _ => "boolean"
  | integer _ => "number"
  | float _ _ => "number"
  | string _ => "string"
  | array _ => "array"
  | object _ => "object"

/-- `contains`: only objects contain a key. -/
def contains (key : String) : Json → Bool
  | object fields => fields.any fun f => f.1 == key
  | _ => false

/-- The field `key` of an object, `null` where there is none. -/
def field (key : String) : Json → Json
  | object fields => ((fields.find? fun f => f.1 == key).map Prod.snd).getD null
  | _ => null

/-- Put a field into a list of fields ordered by their keys. -/
def insertField (key : String) (v : Json) : List (String × Json) → List (String × Json)
  | [] => [(key, v)]
  | f :: fields =>
      if key < f.1 then (key, v) :: f :: fields
      else if key = f.1 then (key, v) :: fields
      else f :: insertField key v fields

/-- `j[key] = v`, where `null` becomes an object. -/
def set (j : Json) (key : String) (v : Json) : Json :=
  match j with
  | object fields => object (insertField key v fields)
  | _ => object [(key, v)]

/-- The values a range-based `for` visits: those of an array or an object, none for
`null`, and any other value itself. -/
def values : Json → List Json
  | null => []
  | array l => l
  | object fields => fields.map Prod.snd
  | j => [j]

/-- `static_cast<int>` of an integer keeps its lower 32 bits. -/
def castInt (i : Int) : Int :=
  i.bmod (2 ^ 32)

/-- The integer part of `m * 2 ^ e`. -/
def truncate (m e : Int) : Int :=
  if 0 ≤ e then m * 2 ^ e.toNat else m.tdiv (2 ^ (-e).toNat)

/-- `static_cast<int>` of a floating point number.  Outside of `int` the cast is undefined,
and the processor answers with the least `int`. -/
def castFloat (m e : Int) : Int :=
  let i := truncate m e
  if -2 ^ 31 ≤ i ∧ i < 2 ^ 31 then i else -2 ^ 31

/-- The conversion to `int`. -/
def toInt : Json → Except String Int
  | integer i => .ok (castInt i)
  | float m e => .ok (castFloat m e)
  | boolean b => .ok (if b then 1 else 0)
  | j => .error ("type must be number, but is " ++ j.typeName)

/-- The conversion to `std::string`. -/
def toStr : Json → Except String String
  | string s => .ok s
  | j => .error ("type must be string, but is " ++ j.typeName)

/-- The conversion to `bool`. -/
def toBool : Json → Except String Bool
  | boolean b => .ok b
  | j => .error ("type must be boolean, but is " ++ j.typeName)

/-! ### What a value is -/

/-- The value is a string. -/
def IsStr (v : Json) : Prop :=
  ∃ s, v = .string s

/-- The value is an integer that is not negative. -/
def IsSize (v : Json) : Prop :=
  ∃ i, v = .integer i ∧ 0 ≤ i

/-- The value is a number that is equal to the integer `i`. -/
def IsNumber : Json → Int → Prop
  | integer j, i => j = i
  | float m e, i => if 0 ≤ e then m * 2 ^ e.toNat = i else m = i * 2 ^ (-e).toNat
  | _, _ => False

/-- A value is a string, or is not converted to one. -/
theorem toStr_cases (v : Json) :
  (∃ s, v = .string s) ∨ ¬v.IsStr ∧ ∃ what, v.toStr = .error what
  := by
  cases v with
  | string s => exact .inl ⟨s, rfl⟩
  | _ =>
      apply Or.inr
      constructor
      · rintro ⟨s, ⟨⟩⟩
      · exact ⟨_, rfl⟩

/-- The integer part of an integer is itself. -/
theorem truncate_of_isNumber {m e i : Int} (h : (float m e).IsNumber i) :
  truncate m e = i
  := by
  rw [IsNumber] at h
  rw [truncate]
  split at h
  · next he => rw [if_pos he, h]
  · next he =>
      rw [if_neg he, h]
      apply Int.mul_tdiv_cancel
      apply Int.pow_ne_zero
      decide

end Json
