import UwpxPush.Platform
import UwpxPush.Tcp.Messages

/-!
# The parser

`parseJson` makes the message a document describes and `parse` the message of a string.
The result is a null pointer, a message that is left invalid, or a valid message.
-/

namespace UwpxPush

/-- What the parser returns. -/
inductive Parsed where
  | null
  | invalid
  | valid (m : Message)
  deriving DecidableEq

namespace Parsed

/-- The message made by a constructor: a rejected one is invalid, and an exception leaves
the constructor. -/
def construct {α : Type} (f : α → Message) : Except DecodeError α → Except Failure Parsed
  | .ok a => .ok (.valid (f a))
  | .error (.rejected _) => .ok .invalid
  | .error (.thrown what) => .error (.exception what)

end Parsed

namespace Parser

/-- The part of `parse_json` for responses, which are told apart by their status and by
whether they have accounts. -/
def parseResponse (j : Json) : Except Failure Parsed :=
  if j.contains "status" then
    match (j.field "status").toInt with
    | .error what => .error (.exception what)
    | .ok status =>
        if status = SuccessResponseMessage.STATUS then
          if j.contains "accounts" then
            Parsed.construct .successSetPushAccounts (SuccessSetPushAccountsMessage.fromJson j)
          else
            Parsed.construct .successResponse (SuccessResponseMessage.fromJson j)
        else if status = ErrorResponseMessage.STATUS then
          Parsed.construct .errorResponse (ErrorResponseMessage.fromJson j)
        else
          .ok .null
  else
    .ok .null

/-- The dispatch of `parse_json` on the action. -/
def parseAction (action : String) (j : Json) : Except Failure Parsed :=
  if action = SetChannelUriMessage.ACTION then
    Parsed.construct .setChannelUri (SetChannelUriMessage.fromJson j)
  else if action = SetPushAccountsMessage.ACTION then
    Parsed.construct .setPushAccounts (SetPushAccountsMessage.fromJson j)
  else if action = RequestTestPushMessage.ACTION then
    Parsed.construct .requestTestPush (RequestTestPushMessage.fromJson j)
  else if action = AbstractResponseMessage.ACTION then
    parseResponse j
  else
    .ok .null

def parseJson (debug : Bool) (j : Json) : Except Failure Parsed :=
  if j.contains "action" then
    match (j.field "action").toStr with
    | .error what => .error (.exception what)
    | .ok action =>
        if action = "" then .ok .null
        else
          match parseAction action j with
          | .ok .invalid =>
              if debug then .error (.assertion "!result || result->is_valid()")
              else .ok .invalid
          | r => r
  else
    .ok .null

/-- The message of a string.  Every exception is caught. -/
def parse (platform : Platform) (s : String) : Except Failure Parsed :=
  match platform.parse s with
  | none => .ok .null
  | some j =>
      match parseJson platform.debug j with
      | .error (.exception _) => .ok .null
      | r => r

end Parser

end UwpxPush
