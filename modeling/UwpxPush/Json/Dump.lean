import UwpxPush.Platform
import UwpxPush.Tcp.Messages

/-!
# How JSON is printed

`Json.dumpObject` is the text that `nlohmann::json::dump` prints for an object of numbers and
strings, without white space and with the escapes of JSON.  The sizes of the pushes are
computed from it.
-/

namespace UwpxPush

/-- A number or a string. -/
inductive Scalar where
  | integer (i : Int)
  | string (s : String)

namespace Json

/-- A hexadecimal digit. -/
def hexDigit (n : ℕ) : Char :=
  "0123456789abcdef".toList.getD n '0'

/-- The characters that stand for one character of a string. -/
def escapeChar (c : Char) : List Char :=
  if c = '"' then ['\\', '"']
  else if c = '\\' then ['\\', '\\']
  else if c = '\x08' then ['\\', 'b']
  else if c = '\x0c' then ['\\', 'f']
  else if c = '\n' then ['\\', 'n']
  else if c = '\r' then ['\\', 'r']
  else if c = '\t' then ['\\', 't']
  else if c.toNat < 32 then
    ['\\', 'u', '0', '0', hexDigit (c.toNat / 16), hexDigit (c.toNat % 16)]
  else [c]

/-- A string with its escapes. -/
def escape (s : String) : String :=
  String.ofList (s.toList.flatMap escapeChar)

/-- The text of a string. -/
def dumpString (s : String) : String :=
  "\"" ++ escape s ++ "\""

/-- The text of a number or a string. -/
def dumpScalar : Scalar → String
  | .integer i => toString i
  | .string s => dumpString s

/-- The text of a field. -/
def dumpField (f : String × Scalar) : String :=
  dumpString f.1 ++ ":" ++ dumpScalar f.2

/-- The text of an object of numbers and strings. -/
def dumpObject (fields : List (String × Scalar)) : String :=
  "\x7b" ++ ",".intercalate (fields.map dumpField) ++ "\x7d"

/-- The JSON value of a number or a string. -/
def ofScalar : Scalar → Json
  | .integer i => .integer i
  | .string s => .string s

end Json

/-- The JSON printer of the platform prints objects of numbers and strings as described. -/
def Platform.Dumps (platform : Platform) : Prop :=
  ∀ fields : List (String × Scalar),
    platform.dump (.object (fields.map fun f => (f.1, Json.ofScalar f.2)))
      = Json.dumpObject fields

/-- The bytes that the values of a push take. -/
def pushSize (accountId : String) (counts : Int × Int) : ℕ :=
  (Json.escape accountId).utf8ByteSize + (toString counts.1).utf8ByteSize
    + (toString counts.2).utf8ByteSize

/-- The fields of a push, in the order of their keys. -/
def pushFields (accountId : String) (counts : Int × Int) : List (String × Scalar) :=
  [("account_id", .string accountId), ("action", .string "push"),
    ("message_count", .integer counts.1), ("pending_subscription_count", .integer counts.2),
    ("version", .integer 2)]

theorem PushMessage.toJson_eq (accountId : String) (counts : Int × Int) :
  (PushMessage.ofFields accountId counts.1 counts.2).toJson .null
    = .object ((pushFields accountId counts).map fun f => (f.1, Json.ofScalar f.2))
  := by
  have hversion : "action" < "version" := by decide
  have haction : "account_id" < "action" := by decide
  have hcount : ¬"message_count" < "account_id" ∧ ¬"message_count" < "action"
      ∧ "message_count" < "version" := by decide
  have hpending : ¬"pending_subscription_count" < "account_id"
      ∧ ¬"pending_subscription_count" < "action"
      ∧ ¬"pending_subscription_count" < "message_count"
      ∧ "pending_subscription_count" < "version" := by decide
  simp only [PushMessage.toJson, AbstractMessage.toJson, PushMessage.ofFields,
    AbstractMessage.ofAction, Json.set, Json.insertField, hversion, haction, hcount, hpending,
    if_true, if_false, String.reduceEq]
  rfl

/-- The text of a push is its values and 92 bytes around them. -/
theorem size_push {platform : Platform} (h : platform.Dumps) (accountId : String)
    (counts : Int × Int) :
  (platform.dump ((PushMessage.ofFields accountId counts.1 counts.2).toJson .null)).utf8ByteSize
    = 92 + pushSize accountId counts
  := by
  have htext : Json.dumpObject (pushFields accountId counts)
      = "\x7b" ++ (Json.dumpField ("account_id", .string accountId)
        ++ "," ++ Json.dumpField ("action", .string "push")
        ++ "," ++ Json.dumpField ("message_count", .integer counts.1)
        ++ "," ++ Json.dumpField ("pending_subscription_count", .integer counts.2)
        ++ "," ++ Json.dumpField ("version", .integer 2)) ++ "\x7d" := rfl
  have hopen : "\x7b".utf8ByteSize = 1 ∧ "\x7d".utf8ByteSize = 1 := by decide
  have hcomma : ",".utf8ByteSize = 1 ∧ ":".utf8ByteSize = 1 ∧ "\"".utf8ByteSize = 1 := by decide
  have haccount : (Json.dumpString "account_id").utf8ByteSize = 12 := by decide
  have haction : (Json.dumpField ("action", .string "push")).utf8ByteSize = 15 := by decide
  have hcount : (Json.dumpString "message_count").utf8ByteSize = 15 := by decide
  have hpending : (Json.dumpString "pending_subscription_count").utf8ByteSize = 28 := by decide
  have hversion : (Json.dumpField ("version", .integer 2)).utf8ByteSize = 11 := by decide
  have hvalue : (Json.dumpString accountId).utf8ByteSize
      = 2 + (Json.escape accountId).utf8ByteSize := by
    rw [Json.dumpString, String.utf8ByteSize_append, String.utf8ByteSize_append]
    omega
  rw [PushMessage.toJson_eq, h, htext]
  simp only [String.utf8ByteSize_append, haction, hversion]
  simp only [Json.dumpField, Json.dumpScalar, String.utf8ByteSize_append, haccount, hcount,
    hpending, hvalue, pushSize]
  omega

/-- The text of a test push. -/
theorem size_testPush {platform : Platform} (h : platform.Dumps) :
  (platform.dump (TestPushMessage.ofTest.toJson .null)).utf8ByteSize = 34
  := by
  have hjson : TestPushMessage.ofTest.toJson .null
      = .object ([("action", Scalar.string "test_push"), ("version", .integer 2)].map
        fun f => (f.1, Json.ofScalar f.2)) := by
    rfl
  rw [hjson, h]
  decide +kernel

end UwpxPush
