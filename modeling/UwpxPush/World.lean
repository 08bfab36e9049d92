import UwpxPush.KeyValue.Store
import UwpxPush.Platform
import UwpxPush.Program.Basic
import UwpxPush.Tcp.Messages
import UwpxPush.Utils.CStrings
import UwpxPush.Utils.CryptoUtils

/-!
# The surroundings of the server

A `Server α` is a program of the server: it calls Redis, the random sources, the XMPP
connection, the clock, the HTTP client and the session of a client.  A `World` is the state
these calls meet: the Redis store with its clock, whether the XMPP connection is up, the
WNS token the client object holds, how many node and secret pairs have been drawn, how many
HTTP requests have been made, and the list of everything sent so far.  An `Oracle` fixes
what the random sources and the HTTP servers will answer, so quantifying over oracles is
quantifying over their answers.
-/

namespace UwpxPush

open KeyValue

/-- `wns::WnsToken`, with its time of expiry in nanoseconds. -/
structure WnsToken where
  type : String
  token : String
  expires : Int
  deriving DecidableEq

/-- A request of the HTTP client: a form or a body with a header. -/
structure HttpRequest where
  url : String
  header : List (String × String)
  payload : List (String × String)
  body : String
  deriving DecidableEq

/-- What the HTTP client returns: whether the transport succeeded, the status code and the
body. -/
structure HttpResponse where
  ok : Bool
  statusCode : Int
  text : String
  deriving DecidableEq

/-- The PubSub requests of `xmpp::XmppClient`. -/
inductive Iq where
  | publishEmpty (node : String)
  | subscribe (node : String)
  | unsubscribe (node : String)
  | delete (node : String)
  deriving DecidableEq

/-- What the server sends: a response to a client, a PubSub request, an HTTP request.
`sending` stands for the log line with which `send_raw_notification` begins. -/
inductive Output where
  | reply (m : Message)
  | iq (q : Iq)
  | sending (channelUri content : String)
  | post (r : HttpRequest)
  deriving DecidableEq

/-- A call of the server to its surroundings. -/
inductive Call where
  | lrange (key : String)
  | get (key : String)
  | set (key value : String)
  | del (key : String)
  | rpush (key : String) (values : List String)
  | expire (key : String) (seconds : Nat)
  | expireat (key : String) (seconds : Int)
  /-- The draws of one node name and one secret. -/
  | random
  /-- `xmpp_conn_is_connected`. -/
  | isConnected
  /-- `xmpp_send`. -/
  | send (q : Iq)
  /-- `std::chrono::system_clock::now`. -/
  | now
  /-- `cpr::Post`. -/
  | post (r : HttpRequest)
  /-- Read the member `token` of the WNS client. -/
  | readToken
  /-- Write the member `token` of the WNS client. -/
  | writeToken (token : Option WnsToken)
  | sending (channelUri content : String)
  /-- Dump the JSON of a message and send it to the client. -/
  | reply (m : Message)
  deriving DecidableEq

/-- The draws of a node name of 15 characters and a secret of 15 characters. -/
structure Draws where
  distr : Fin 15 → Fin (CryptoUtils.alphanum.length - 1 + 1)
  randombytesUniform : Fin 15 → Fin (CryptoUtils.alphanum.length - 1)

/-- What a call is answered with. -/
def Call.Response : Call → Type
  | lrange _ => List String
  | get _ => Option String
  | random => Draws
  | isConnected => Bool
  | now => Int
  | post _ => HttpResponse
  | readToken => Option WnsToken
  | _ => Unit

/-- A program of the server. -/
abbrev Server (α : Type) : Type :=
  Program Call Call.Response Failure α

/-- Call the surroundings. -/
def invoke (c : Call) : Server c.Response :=
  Program.invoke c

/-- What the random sources and the HTTP servers answer, in turn. -/
structure Oracle where
  draws : Nat → Draws
  http : Nat → HttpResponse

namespace Oracle

variable (oracle : Oracle)

/-- The `i`-th node name. -/
def node (i : Nat) : String :=
  CryptoUtils.urlSafeRandomToken (oracle.draws i).distr

/-- The `i`-th secret. -/
def secret (i : Nat) : String :=
  CryptoUtils.secureRandomPassword (oracle.draws i).randombytesUniform

@[simp]
theorem length_node (i : Nat) :
  (oracle.node i).length = 15
  := CryptoUtils.length_urlSafeRandomToken _

@[simp]
theorem length_secret (i : Nat) :
  (oracle.secret i).length = 15
  := CryptoUtils.length_secureRandomPassword _

end Oracle

/-- The state of the surroundings. -/
structure World where
  redis : Store String String
  connected : Bool
  token : Option WnsToken
  created : Nat
  requests : Nat
  log : List Output

/-- The nanoseconds of a second. -/
def second : Int := 10 ^ 9

/-- What a 64-bit integer keeps of an integer. -/
def wrap64 (i : Int) : Int :=
  i.bmod (2 ^ 64)

/-- The exception for an operation against a key of the other type. -/
def wrongType : Failure :=
  .exception "WRONGTYPE Operation against a key holding the wrong kind of value"

namespace World

/-- Add what is sent to the list of everything sent. -/
def tell (w : World) (o : Output) : World :=
  { w with log := w.log ++ [o] }

/-- A Redis command that reads. -/
def reading {α : Type} (w : World) : Except WrongType α → Except Failure α × World
  | .ok a => (.ok a, w)
  | .error _ => (.error wrongType, w)

/-- A Redis command that writes. -/
def writing (w : World) : Except WrongType (Store String String) → Except Failure Unit × World
  | .ok redis => (.ok (), { w with redis })
  | .error _ => (.error wrongType, w)

/-- How the surroundings answer a call, and what becomes of them. -/
def perform (oracle : Oracle) : (c : Call) → World → Except Failure c.Response × World
  | .lrange key, w => w.reading (w.redis.range key)
  | .get key, w => w.reading (w.redis.get key)
  | .set key value, w => w.writing (.ok (w.redis.set key value))
  | .del key, w => w.writing (.ok (w.redis.del key))
  | .rpush key values, w => w.writing (w.redis.push key values)
  | .expire key seconds, w =>
      w.writing (.ok (w.redis.expireAt key (w.redis.clock + seconds * second)))
  | .expireat key seconds, w => w.writing (.ok (w.redis.expireAt key (seconds * second)))
  | .random, w => (.ok (oracle.draws w.created), { w with created := w.created + 1 })
  | .isConnected, w => (.ok w.connected, w)
  | .send q, w => (.ok (), w.tell (.iq q))
  | .now, w => (.ok w.redis.clock, w)
  | .post r, w =>
      (.ok (oracle.http w.requests), { w.tell (.post r) with requests := w.requests + 1 })
  | .readToken, w => (.ok w.token, w)
  | .writeToken token, w => (.ok (), { w with token })
  | .sending channelUri content, w => (.ok (), w.tell (.sending channelUri content))
  | .reply m, w => (.ok (), w.tell (.reply m))

/-- A call takes no time. -/
theorem clock_perform (oracle : Oracle) (c : Call) (w : World) :
  (perform oracle c w).2.redis.clock = w.redis.clock
  := by
  cases c with
  | lrange key =>
      rw [perform]
      cases w.redis.range key <;> rfl
  | get key =>
      rw [perform]
      cases w.redis.get key <;> rfl
  | rpush key values =>
      rw [perform]
      cases hpush : w.redis.push key values with
      | ok redis => exact Store.clock_push hpush
      | error e => rfl
  | expire key seconds => exact Store.clock_expireAt _ _ _
  | expireat key seconds => exact Store.clock_expireAt _ _ _
  | _ => rfl

end World

/-- Run a program of the server. -/
abbrev Server.run {α : Type} (oracle : Oracle) (p : Server α) (w : World) :
    Except Failure α × World :=
  Program.run (World.perform oracle) p w

end UwpxPush
