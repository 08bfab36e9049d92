import UwpxPush.Storage.Configuration
import UwpxPush.Storage.RedisClient

/-!
# The WNS client

The functions of `wns::WnsToken` and `wns::WnsClient`.
-/

namespace UwpxPush

namespace WnsToken

def toAuthString (token : WnsToken) : String :=
  token.type ++ " " ++ token.token

/-- The conversion of a JSON value to `size_t`, which throws on booleans. -/
def toSize : Json → Except String Nat
  | .integer i => .ok (i % 2 ^ 64).toNat
  | .float m e =>
      let i := Json.truncate m e
      .ok (if -2 ^ 63 ≤ i ∧ i < 2 ^ 64 then (i % 2 ^ 64).toNat else 2 ^ 63)
  | j => .error ("type must be number, but is " ++ j.typeName)

/-- A conversion whose exception is not caught. -/
def convert {α : Type} : Except String α → Server α
  | .ok a => return a
  | .error what => throw (.exception what)

def getExpiresDate (expiresInSeconds : Nat) : Server Int := do
  let now : Int ← invoke .now
  return wrap64 (now + wrap64 (wrap64 expiresInSeconds * second))

/-- The token a response of the token server describes.  Only a `parse_error` is caught. -/
def fromResponse (platform : Platform) (response : String) : Server (Option WnsToken) := do
  match platform.parse response with
  | none =>
      match platform.outOfRange response with
      | none => return none
      | some what => throw (.exception what)
  | some js =>
      if !js.contains "token_type" then
        return none
      let type ← convert (js.field "token_type").toStr
      if !js.contains "access_token" then
        return none
      let token ← convert (js.field "access_token").toStr
      if !js.contains "expires_in" then
        return none
      let expiresInSeconds ← convert (toSize (js.field "expires_in"))
      let expires ← getExpiresDate expiresInSeconds
      return some ⟨type, token, expires⟩

end WnsToken

/-- `WnsClient::ResponseCodeAction`. -/
inductive ResponseCodeAction where
  | success
  | retry
  | error
  deriving DecidableEq

namespace WnsClient

def readToken : Server (Option WnsToken) :=
  invoke .readToken

def writeToken (token : Option WnsToken) : Server Unit :=
  invoke (.writeToken token)

def post (r : HttpRequest) : Server HttpResponse :=
  invoke (.post r)

/-- There is a token that has not expired. -/
def isTokenValid : Server Bool := do
  match ← readToken with
  | none => return false
  | some token =>
      let now : Int ← invoke .now
      return now < token.expires

def loadTokenFromDb : Server Unit := do
  match ← RedisClient.getWnsToken with
  | none => return
  | some token =>
      match ← RedisClient.getWnsTokenType with
      | none => return
      | some type =>
          match ← RedisClient.getWnsTokenExpireDate with
          | none => return
          | some expires => writeToken (some ⟨type, token, expires⟩)

/-- The address of the token server. -/
def tokenUrl : String := "https://login.live.com/accesstoken.srf"

/-- The request for a token. -/
def tokenRequest (config : Configuration) : HttpRequest where
  url := tokenUrl
  header := []
  payload :=
    [("grant_type", "client_credentials"), ("scope", "notify.windows.com"),
      ("client_id", config.wns.packetId), ("client_secret", config.wns.clientSecret)]
  body := ""

def requestNewToken (platform : Platform) (config : Configuration) : Server Bool := do
  let response ← post (tokenRequest config)
  if response.statusCode ≠ 200 then
    return false
  let token ← WnsToken.fromResponse platform response.text
  writeToken token
  match token with
  | none => return false
  | some token =>
      RedisClient.setWnsToken token.token token.type token.expires
      return true

def handleResponseCode (platform : Platform) (config : Configuration) (statusCode : Int) :
    Server ResponseCodeAction := do
  if statusCode = 200 then
    return .success
  if statusCode = 401 then
    if ← requestNewToken platform config then
      return .retry
    return .error
  if statusCode = 503 then
    return .retry
  -- Every other status code, known or not, is an error.
  return .error

/-- The remaining attempts to post a notification. -/
def postAttempts (platform : Platform) (config : Configuration) (request : HttpRequest) :
    Nat → Server Bool
  | 0 => return false
  | attempts + 1 => do
      let response ← post request
      if !response.ok then
        postAttempts platform config request attempts
      else
        match ← handleResponseCode platform config response.statusCode with
        | .success => return true
        | .retry => postAttempts platform config request attempts
        | .error => return false

/-- The request of a notification. -/
def notification (token : WnsToken) (channelUri content : String) : HttpRequest where
  url := channelUri
  header :=
    [("X-WNS-Type", "wns/raw"), ("X-WNS-RequestForStatus", "true"),
      ("Content-Type", "application/octet-stream"), ("Authorization", token.toAuthString)]
  payload := []
  body := content

/-- Request a new token where the one in memory is not valid. -/
def ensureToken (platform : Platform) (config : Configuration) : Server Bool := do
  if ← isTokenValid then
    return true
  else
    requestNewToken platform config

/-- The part of `send_raw_notification` after its first log line. -/
def postNotification (platform : Platform) (config : Configuration)
    (channelUri content : String) : Server Bool := do
  if ← ensureToken platform config then
    match ← readToken with
    | none => throw .nullPointer
    | some token =>
        postAttempts platform config (notification token channelUri content) 3
  else
    return false

/-- The log line with which `send_raw_notification` begins. -/
def sending (channelUri content : String) : Server Unit :=
  invoke (.sending channelUri content)

def sendRawNotification (platform : Platform) (config : Configuration)
    (channelUri content : String) : Server Bool := do
  sending channelUri content
  postNotification platform config channelUri content

end WnsClient

end UwpxPush
