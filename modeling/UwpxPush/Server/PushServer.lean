import UwpxPush.Regex.Basic
import UwpxPush.Tcp.Parser
import UwpxPush.Wns.WnsClient
import UwpxPush.Xmpp.XmppClient

/-!
# The push server

The functions of `server::PushServer`: the handlers of the requests of clients and of the
events of PubSub nodes.
-/

namespace UwpxPush

namespace ClientSslSession

def reply (m : Message) : Server Unit :=
  invoke (.reply m)

def respondWithSuccess : Server Unit :=
  reply (.successResponse .ofSuccess)

def respondWithError (msg : String) : Server Unit :=
  reply (.errorResponse (.ofError msg))

end ClientSslSession

namespace PushServer

open ClientSslSession

/-! ### Channel URIs -/

/-- `[A-Za-z0-9]`. -/
def isAlphaNum (c : Char) : Bool :=
  ('A' ≤ c && c ≤ 'Z') || ('a' ≤ c && c ≤ 'z') || ('0' ≤ c && c ≤ '9')

/-- The regular expression
`https:\/\/([A-Za-z0-9](?:[A-Za-z0-9\-]{0,61}[A-Za-z0-9])?)\.notify\.windows\.com\/\?token=[\w%]+`. -/
def channelUriRegex : Regex Char :=
  .seq (.word "https://".toList)
    (.seq (.one isAlphaNum)
      (.seq (.opt (.seq (.upTo 61 fun c => isAlphaNum c || c == '-') (.one isAlphaNum)))
        (.seq (.word ".notify.windows.com/?token=".toList)
          (.many fun c => isAlphaNum c || c == '_' || c == '%'))))

def isValidChannelUri (uri : String) : Bool :=
  channelUriRegex.accepts uri.toList

section Handlers

variable (platform : Platform) (config : Configuration)

/-- Request a token, and again, where there is none that is valid. -/
def checkSetupWns : Server Unit := do
  if !(← WnsClient.isTokenValid) then
    if !(← WnsClient.requestNewToken platform config) then
      -- The thread sleeps here for ten seconds.
      let _ ← WnsClient.requestNewToken platform config
      return

/-! ### Requests -/

/-- Send a test push to a device that is known. -/
def sendTestPush (deviceId : String) : Server Unit := do
  match ← RedisClient.getChannelUri deviceId with
  | none => respondWithError "Device id unknown."
  | some channelUri =>
      let version ← RedisClient.getVersion deviceId
      let msg :=
        if version = some "2" then platform.dump (TestPushMessage.ofTest.toJson .null)
        else "<test/>"
      if ← WnsClient.sendRawNotification platform config channelUri msg then
        respondWithSuccess
      else
        respondWithError "Failed to send test push. Something went wrong..."

/-- `PushAccount::create`: an account with a fresh node and secret. -/
def createPushAccount (accountId : String) : Server PushAccount := do
  let draws : Draws ← invoke .random
  return ⟨accountId, CryptoUtils.urlSafeRandomToken draws.distr,
    CryptoUtils.secureRandomPassword draws.randombytesUniform, false⟩

/-- What the loop of `set_push_accounts` over the account ids collects: the accounts of the
answer, the nodes to delete, and the nodes to add, each with the position of its account. -/
structure Pending where
  pushAccounts : List PushAccount
  deleteNodes : List String
  addNodes : List (String × Nat)

/-- Add an account to the answer, whose node is then either kept or to be added. -/
def Pending.add (p : Pending) (account : PushAccount) : Pending where
  pushAccounts := p.pushAccounts ++ [account]
  deleteNodes := p.deleteNodes.erase account.node
  addNodes :=
    if account.node ∈ p.deleteNodes then p.addNodes
    else (account.node, p.pushAccounts.length) ::
      p.addNodes.filter fun n => n.1 ≠ account.node

/-- One round of the loop over the account ids. -/
def collectAccount (deviceId : String) (p : Pending) (accountId : String) :
    Server Pending := do
  let account ← createPushAccount accountId
  -- Try to reuse an existing node and secret.
  let account ← RedisClient.loadPushAccount platform deviceId account
  return p.add account

/-- Set up the node of the account at a position and set the flag of the account. -/
def setupAccount (pushAccounts : List PushAccount) (node : String × Nat) :
    Server (List PushAccount) := do
  let success ← XmppClient.setupPushNode node.1
  return pushAccounts.modify node.2 fun account => { account with success }

/-- The part of `set_push_accounts` after the loop over the account ids. -/
def register (deviceId channelUri version : String) (pending : Pending) : Server Unit := do
  -- Delete all existing PubSub nodes.
  (platform.order pending.deleteNodes).forM XmppClient.deletePushNode
  -- Create and subscribe to PubSub nodes.
  let pushAccounts ← (platform.order pending.addNodes).foldlM setupAccount pending.pushAccounts
  RedisClient.setPushAccounts platform deviceId channelUri version pushAccounts
  reply (.successSetPushAccounts (.ofFields pushAccounts config.xmpp.bareJid))

def setPushAccounts (deviceId version : String) (accounts : List String) : Server Unit := do
  match ← RedisClient.getChannelUri deviceId with
  | none => respondWithError "Device id unknown."
  | some channelUri =>
      let oldPushNodes ← RedisClient.getPushNodes platform deviceId
      let pending ← accounts.foldlM (collectAccount platform deviceId)
        { pushAccounts := [], deleteNodes := oldPushNodes.dedup, addNodes := [] }
      register platform config deviceId channelUri version pending

/-- Store the channel URI of a device. -/
def setChannelUri (deviceId channelUri : String) : Server Unit := do
  if isValidChannelUri channelUri then
    RedisClient.setChannelUri deviceId channelUri
    respondWithSuccess
  else
    respondWithError "Invalid channel URI. Has to use the domain 'notify.windows.com'."

/-- The dispatch of a message to its handler. -/
def handleMessage : Message → Server Unit
  | .setChannelUri m => setChannelUri m.deviceId m.channelUri
  | .setPushAccounts m =>
      setPushAccounts platform config m.deviceId (toString m.version) m.accounts
  | .requestTestPush m => sendTestPush platform config m.deviceId
  | _ => respondWithError "Unsupported message type."

/-- Handle a valid message and catch the exceptions of the handler. -/
def processMessage (m : Message) : Server Unit :=
  tryCatch (handleMessage platform config m) fun e =>
    match e with
    | .exception _ =>
        respondWithError
          "Internal server error... Failed to process received JSON message."
    | e => throw e

/-- Parse and process what a client has sent. -/
def onMessageReceived (s : String) : Server Unit := do
  match ← XmppClient.lift (Parser.parse platform s) with
  | .null => respondWithError "Malformed JSON."
  | .invalid => respondWithError "Invalid JSON message."
  | .valid m => processMessage platform config m

/-! ### Events -/

/-- Find the channel URI of the device of a node; without it the event is dropped. -/
def channelUriOfNode (node : String) : Server (Option String) := do
  match ← RedisClient.getDeviceId node with
  | none => return none
  | some deviceId => RedisClient.getChannelUri deviceId

def onV1MessageForNode (node msg : String) : Server Unit := do
  match ← channelUriOfNode node with
  | none => return
  | some channelUri =>
      let _ ← WnsClient.sendRawNotification platform config channelUri msg
      return

def onV2MessageForNode (node accountId : String) (messageCount pendingSubscriptionCount : Int) :
    Server Unit := do
  match ← channelUriOfNode node with
  | none => return
  | some channelUri =>
      let push := PushMessage.ofFields accountId messageCount pendingSubscriptionCount
      let _ ← WnsClient.sendRawNotification platform config channelUri
        (platform.dump (push.toJson .null))
      return

/-- The message handler of the XMPP client with the handlers of the push server. -/
def onStanza (stanza : Stanza) : Server Unit :=
  XmppClient.messageHandler platform config (onV1MessageForNode platform config)
    (onV2MessageForNode platform config) stanza

end Handlers

end PushServer

end UwpxPush
