import UwpxPush.Json.Basic

/-!
# Messages

The message classes of `tcp::messages`.  A class that extends another one extends its
structure.  `fromJson` is the constructor from a JSON document: it rejects a document with
a warning, where the C++ object is left invalid, or throws where a field has the wrong type.
`toJson` writes the fields of a message into a document.
-/

namespace UwpxPush

/-- Why a document is not a message: it is rejected with a warning, or a conversion
throws. -/
inductive DecodeError where
  | rejected (warning : String)
  | thrown (what : String)
  deriving DecidableEq

namespace DecodeError

/-- A conversion of a JSON value that throws on a wrong type. -/
def convert {α : Type} : Except String α → Except DecodeError α
  | .ok a => .ok a
  | .error what => .error (.thrown what)

/-- The field `key`, called `label` in the warning when it is missing. -/
def require (j : Json) (key label : String) : Except DecodeError Json :=
  if j.contains key then .ok (j.field key)
  else .error (.rejected s!"Missing '{label}' field in message.")

/-- The field `key` as an `int`. -/
def requireInt (j : Json) (key : String) : Except DecodeError Int := do
  convert (← require j key key).toInt

/-- The field `key` as a string, called `label` in warnings, which must not be empty. -/
def requireNonEmpty (j : Json) (key label : String) : Except DecodeError String := do
  let s ← convert (← require j key label).toStr
  if s = "" then
    throw (.rejected
      s!"Invalid message '{label}' value. Expected a non empty string, but received: {s}")
  return s

end DecodeError

open DecodeError

/-! ### The base class -/

/-- What every message has. -/
structure AbstractMessage where
  version : Int
  action : String
  deriving DecidableEq

namespace AbstractMessage

/-- The version of the messages that are sent, and the latest that is read. -/
def VERSION : Int := 2

/-- The constructor for sending. -/
def ofAction (action : String) : AbstractMessage :=
  ⟨VERSION, action⟩

/-- The version is one that the server knows, and there is an action. -/
def fromJson (j : Json) : Except DecodeError AbstractMessage := do
  let version ← requireInt j "version"
  if version < 1 ∨ version > VERSION then
    throw (.rejected
      s!"Invalid message 'version' value. Expected version >= 1 and <= {VERSION}, but received: {version}")
  let action ← requireNonEmpty j "action" "action"
  return ⟨version, action⟩

/-- The fields of the base class. -/
def toJson (m : AbstractMessage) (j : Json) : Json :=
  (j.set "version" (.integer m.version)).set "action" (.string m.action)

end AbstractMessage

/-! ### Requests -/

/-- A device tells where its notifications go. -/
structure SetChannelUriMessage extends AbstractMessage where
  channelUri : String
  deviceId : String
  deriving DecidableEq

namespace SetChannelUriMessage

def ACTION : String := "set_channel_uri"

/-- The constructor for sending. -/
def ofFields (channelUri deviceId : String) : SetChannelUriMessage :=
  { AbstractMessage.ofAction ACTION with channelUri, deviceId }

/-- The channel URI is read before the device id. -/
def fromJson (j : Json) : Except DecodeError SetChannelUriMessage := do
  let m ← AbstractMessage.fromJson j
  let channelUri ← requireNonEmpty j "channel_uri" "channel_uri"
  let deviceId ← requireNonEmpty j "device_id" "device_id"
  return { m with channelUri, deviceId }

def toJson (m : SetChannelUriMessage) (j : Json) : Json :=
  ((m.toAbstractMessage.toJson j).set "device_id" (.string m.deviceId)).set "channel_uri"
    (.string m.channelUri)

end SetChannelUriMessage

/-- A device tells the accounts for which it wants notifications. -/
structure SetPushAccountsMessage extends AbstractMessage where
  accounts : List String
  deviceId : String
  deriving DecidableEq

namespace SetPushAccountsMessage

def ACTION : String := "set_push_accounts"

/-- The constructor for sending. -/
def ofFields (accounts : List String) (deviceId : String) : SetPushAccountsMessage :=
  { AbstractMessage.ofAction ACTION with accounts, deviceId }

/-- The accounts are read before the device id, and each of them must be valid. -/
def fromJson (j : Json) : Except DecodeError SetPushAccountsMessage := do
  let m ← AbstractMessage.fromJson j
  let accounts ← (← require j "accounts" "accounts").values.mapM fun accountJson =>
    requireNonEmpty accountJson "account_id" "accountId"
  let deviceId ← requireNonEmpty j "device_id" "device_id"
  return { m with accounts, deviceId }

/-- The accounts are written as an array of objects with one field. -/
def toJson (m : SetPushAccountsMessage) (j : Json) : Json :=
  ((m.toAbstractMessage.toJson j).set "device_id" (.string m.deviceId)).set "accounts"
    (.array (m.accounts.map fun account => Json.null.set "account_id" (.string account)))

end SetPushAccountsMessage

/-- A device asks for a notification. -/
structure RequestTestPushMessage extends AbstractMessage where
  deviceId : String
  deriving DecidableEq

namespace RequestTestPushMessage

def ACTION : String := "request_test_push"

/-- The constructor for sending. -/
def ofFields (deviceId : String) : RequestTestPushMessage :=
  { AbstractMessage.ofAction ACTION with deviceId }

def fromJson (j : Json) : Except DecodeError RequestTestPushMessage := do
  let m ← AbstractMessage.fromJson j
  let deviceId ← requireNonEmpty j "device_id" "device_id"
  return { m with deviceId }

def toJson (m : RequestTestPushMessage) (j : Json) : Json :=
  (m.toAbstractMessage.toJson j).set "device_id" (.string m.deviceId)

end RequestTestPushMessage

/-! ### Responses -/

/-- What every response has. -/
structure AbstractResponseMessage extends AbstractMessage where
  status : Int
  deriving DecidableEq

namespace AbstractResponseMessage

def ACTION : String := "response"

/-- The constructor for sending. -/
def ofStatus (status : Int) : AbstractResponseMessage :=
  { AbstractMessage.ofAction ACTION with status }

/-- The status -1 is refused. -/
def fromJson (j : Json) : Except DecodeError AbstractResponseMessage := do
  let m ← AbstractMessage.fromJson j
  let status ← requireInt j "status"
  if status = -1 then
    throw (.rejected
      s!"Invalid message 'status' value. Expected != -1 , but received: {status}")
  return { m with status }

def toJson (m : AbstractResponseMessage) (j : Json) : Json :=
  (m.toAbstractMessage.toJson j).set "status" (.integer m.status)

end AbstractResponseMessage

/-- A request has failed. -/
structure ErrorResponseMessage extends AbstractResponseMessage where
  error : String
  deriving DecidableEq

namespace ErrorResponseMessage

def STATUS : Int := 0

/-- The constructor for sending. -/
def ofError (error : String) : ErrorResponseMessage :=
  { AbstractResponseMessage.ofStatus STATUS with error }

/-- The status is not compared with `STATUS`, and the error may be empty. -/
def fromJson (j : Json) : Except DecodeError ErrorResponseMessage := do
  let m ← AbstractResponseMessage.fromJson j
  let error ← convert (← require j "error" "error").toStr
  return { m with error }

def toJson (m : ErrorResponseMessage) (j : Json) : Json :=
  (m.toAbstractResponseMessage.toJson j).set "error" (.string m.error)

end ErrorResponseMessage

/-- A request has succeeded. -/
structure SuccessResponseMessage extends AbstractResponseMessage where
  deriving DecidableEq

namespace SuccessResponseMessage

def STATUS : Int := 1

/-- The constructor for sending. -/
def ofSuccess : SuccessResponseMessage :=
  { AbstractResponseMessage.ofStatus STATUS with }

/-- The status is not compared with `STATUS`. -/
def fromJson (j : Json) : Except DecodeError SuccessResponseMessage := do
  let m ← AbstractResponseMessage.fromJson j
  return { m with }

def toJson (m : SuccessResponseMessage) (j : Json) : Json :=
  m.toAbstractResponseMessage.toJson j

end SuccessResponseMessage

/-- An account of a response, with its node and secret. -/
structure PushAccount where
  accountId : String
  node : String
  secret : String
  success : Bool
  deriving DecidableEq

namespace PushAccount

/-- All fields are needed, and the strings are not empty. -/
def fromJson (j : Json) : Except DecodeError PushAccount := do
  let accountId ← requireNonEmpty j "account_id" "accountId"
  let node ← requireNonEmpty j "node" "node"
  let secret ← requireNonEmpty j "secret" "secret"
  -- A value that is no boolean is only warned about here; the conversion throws on it.
  let success ← convert (← require j "success" "success").toBool
  return ⟨accountId, node, secret, success⟩

def toJson (account : PushAccount) (j : Json) : Json :=
  (((j.set "account_id" (.string account.accountId)).set "node" (.string account.node)).set
    "secret" (.string account.secret)).set "success" (.boolean account.success)

end PushAccount

/-- The accounts of a device were set up. -/
structure SuccessSetPushAccountsMessage extends SuccessResponseMessage where
  accounts : List PushAccount
  pushBareJid : String
  deriving DecidableEq

namespace SuccessSetPushAccountsMessage

/-- The constructor for sending. -/
def ofFields (accounts : List PushAccount) (pushBareJid : String) :
    SuccessSetPushAccountsMessage :=
  { SuccessResponseMessage.ofSuccess with accounts, pushBareJid }

/-- The list of accounts must not be empty. -/
def fromJson (j : Json) : Except DecodeError SuccessSetPushAccountsMessage := do
  let m ← SuccessResponseMessage.fromJson j
  let accounts ← (← require j "accounts" "accounts").values.mapM PushAccount.fromJson
  if accounts = [] then
    throw (.rejected "Invalid message 'accounts' value. Expected a non empty array.")
  let pushBareJid ← requireNonEmpty j "push_bare_jid" "push_bare_jid"
  return { m with accounts, pushBareJid }

def toJson (m : SuccessSetPushAccountsMessage) (j : Json) : Json :=
  ((m.toSuccessResponseMessage.toJson j).set "push_bare_jid" (.string m.pushBareJid)).set
    "accounts" (.array (m.accounts.map fun account => account.toJson .null))

end SuccessSetPushAccountsMessage

/-! ### Notifications -/

/-- The notification of an event of an account. -/
structure PushMessage extends AbstractMessage where
  accountId : String
  messageCount : Int
  pendingSubscriptionCount : Int
  deriving DecidableEq

namespace PushMessage

def ACTION : String := "push"

/-- The constructor for sending. -/
def ofFields (accountId : String) (messageCount pendingSubscriptionCount : Int) :
    PushMessage :=
  { AbstractMessage.ofAction ACTION with accountId, messageCount, pendingSubscriptionCount }

def fromJson (j : Json) : Except DecodeError PushMessage := do
  let m ← AbstractMessage.fromJson j
  let accountId ← requireNonEmpty j "account_id" "account_id"
  let messageCount ← requireInt j "message_count"
  let pendingSubscriptionCount ← requireInt j "pending_subscription_count"
  return { m with accountId, messageCount, pendingSubscriptionCount }

def toJson (m : PushMessage) (j : Json) : Json :=
  (((m.toAbstractMessage.toJson j).set "account_id" (.string m.accountId)).set
    "message_count" (.integer m.messageCount)).set "pending_subscription_count"
      (.integer m.pendingSubscriptionCount)

end PushMessage

/-- The notification that a device has asked for. -/
structure TestPushMessage extends AbstractMessage where
  deriving DecidableEq

namespace TestPushMessage

def ACTION : String := "test_push"

/-- The constructor for sending. -/
def ofTest : TestPushMessage :=
  { AbstractMessage.ofAction ACTION with }

def fromJson (j : Json) : Except DecodeError TestPushMessage := do
  let m ← AbstractMessage.fromJson j
  return { m with }

def toJson (m : TestPushMessage) (j : Json) : Json :=
  m.toAbstractMessage.toJson j

end TestPushMessage

/-- The messages the parser makes. -/
inductive Message where
  | setChannelUri (m : SetChannelUriMessage)
  | setPushAccounts (m : SetPushAccountsMessage)
  | requestTestPush (m : RequestTestPushMessage)
  | successResponse (m : SuccessResponseMessage)
  | successSetPushAccounts (m : SuccessSetPushAccountsMessage)
  | errorResponse (m : ErrorResponseMessage)
  deriving DecidableEq

/-- `to_json` of a message into an empty document. -/
def Message.toJson : Message → Json
  | setChannelUri m => m.toJson .null
  | setPushAccounts m => m.toJson .null
  | requestTestPush m => m.toJson .null
  | successResponse m => m.toJson .null
  | successSetPushAccounts m => m.toJson .null
  | errorResponse m => m.toJson .null

end UwpxPush
