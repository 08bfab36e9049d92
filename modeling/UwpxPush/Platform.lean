import UwpxPush.Json.Basic
import UwpxPush.Xmpp.Stanza

/-!
# The platform

What the server takes from its libraries and from the way it is built: SHA-256, the JSON
parser and printer, the XML printer, the order in which unordered containers are visited,
and whether assertions are compiled in.  A failure of the server is an exception, which a
handler can catch, or a failed assertion, an empty optional or a null pointer that is
used, which ends the process.
-/

namespace UwpxPush

/-- How a computation of the server can fail. -/
inductive Failure where
  /-- A C++ exception with its `what()`. -/
  | exception (what : String)
  /-- `assert` of the given condition failed. -/
  | assertion (condition : String)
  /-- An empty optional was dereferenced. -/
  | emptyOptional
  /-- A null pointer was passed to a function that reads it. -/
  | nullPointer
  deriving DecidableEq

/-- The failure can be caught. -/
def Failure.IsException (e : Failure) : Prop :=
  ∃ what, e = .exception what

/-- The libraries and the build of the server. -/
structure Platform where
  /-- The bytes of `crypto_hash_sha256` of a string. -/
  sha256 : String → Fin 32 → UInt8
  /-- `nlohmann::json::parse`, which throws on what is not a document. -/
  parse : String → Option Json
  /-- The text of the exception where it is no `parse_error` but an `out_of_range`, as for a
  number that overflows. -/
  outOfRange : String → Option String
  /-- `nlohmann::json::dump`. -/
  dump : Json → String
  /-- The text of `xmpp_stanza_to_text`, unless it reports an error. -/
  toText : Stanza → Option String
  /-- The order in which an unordered container with these elements is visited. -/
  order : ∀ {α : Type}, List α → List α
  order_perm : ∀ {α : Type} (l : List α), (order l).Perm l
  /-- The build keeps assertions, as the default build type does. -/
  debug : Bool

end UwpxPush
