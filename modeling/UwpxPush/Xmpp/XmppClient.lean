import UwpxPush.Storage.Configuration
import UwpxPush.Storage.RedisClient

/-!
# The XMPP client

The functions of `xmpp::XmppClient` that handle events and PubSub nodes.  The two functions
the push server registers for events are parameters.
-/

namespace UwpxPush

namespace XmppClient

def isConnected : Server Bool :=
  invoke .isConnected

def send (q : Iq) : Server Unit :=
  invoke (.send q)

/-! ### PubSub nodes -/

/-- Publish and subscribe, where there is a connection. -/
def setupPushNode (node : String) : Server Bool := do
  if !(← isConnected) then
    return false
  send (.publishEmpty (cStr node))
  send (.subscribe (cStr node))
  return true

/-- Unsubscribe and delete, where there is a connection. -/
def deletePushNode (node : String) : Server Unit := do
  if !(← isConnected) then
    return
  send (.unsubscribe (cStr node))
  send (.delete (cStr node))

/-! ### Events -/

/-- Compare the name or namespace a getter returned, as `strcmp` does, with a constant. -/
def compare : Option String → String → Except Failure Bool
  | none, _ => .error .nullPointer
  | some s, t => .ok (s == t)

/-- The notification in an item, if it is in its name space. -/
def getNotificationNode (itemsNode : Stanza) : Except Failure (Option Stanza) :=
  match (itemsNode.getChildByName "item").bind (Stanza.getChildByName "notification") with
  | none => .ok none
  | some notificationNode => do
      if ← compare notificationNode.getNs "urn:xmpp:push:0" then
        return some notificationNode
      return none

/-- The items of an event. -/
def getItemsNode (stanza : Stanza) : Except Failure (Option Stanza) :=
  match stanza.getChildByName "event" with
  | none => .ok none
  | some event => do
      if ← compare event.getNs "http://jabber.org/protocol/pubsub#event" then
        return event.getChildByName "items"
      return none

/-- The count in the value of a field, or `count` where there is none. -/
def fieldCount (count : Int) (fieldNode : Stanza) : Except Failure Int :=
  match (fieldNode.getChildByName "value").bind Stanza.getText with
  | none => .ok count
  | some valueStr =>
      match stoi valueStr with
      | .ok i => .ok i
      | .error .invalidArgument => .ok count
      | .error .outOfRange => .error (.exception "stoi")

/-- One round of the loop over the fields, which collects the message count and the
pending subscription count. -/
def readField (counts : Int × Int) (fieldNode : Stanza) : Except Failure (Int × Int) :=
  match fieldNode.getName with
  | none => .error .nullPointer
  | some name =>
      if name = "field" then
        match fieldNode.getAttribute "var" with
        | none => .ok counts
        | some var =>
            if var = "message-count" then do
              return (← fieldCount counts.1 fieldNode, counts.2)
            else if var = "pending-subscription-count" then do
              return (counts.1, ← fieldCount counts.2 fieldNode)
            else
              .ok counts
      else
        .ok counts

/-- The message count and the pending subscription count of a notification. -/
def readCounts (notificationNode : Stanza) : Except Failure (Int × Int) :=
  match notificationNode.getChildByName "x" with
  | none => .ok (0, 0)
  | some xNode => xNode.getChildren.foldlM readField (0, 0)

/-- The `account` node with the account id, as C functions see it. -/
def accountNode (accountId : String) : Stanza :=
  .tag "account" [("id", cStr accountId)] []

/-- Pass the result of a computation without calls on. -/
def lift {α : Type} : Except Failure α → Server α
  | .ok a => return a
  | .error e => throw e

section Handlers

variable (platform : Platform) (config : Configuration)
  (nodev1MessageHandler : String → String → Server Unit)
  (nodev2MessageHandler : String → String → Int → Int → Server Unit)

def sendV2Push (accountId node : String) (notificationNode : Stanza) : Server Unit := do
  let counts ← lift (readCounts notificationNode)
  nodev2MessageHandler node accountId counts.1 counts.2

/-- The whole notification as text, or a short text where it is too long. -/
def sendV1Push (accountId node : String) (notificationNode : Stanza) : Server Unit :=
  match platform.toText (notificationNode.addChild (accountNode accountId)) with
  | none => return
  | some msg =>
      -- Raw notifications are limited in size.
      if 4096 < msg.utf8ByteSize then
        nodev1MessageHandler node "New message received!"
      else
        nodev1MessageHandler node msg

/-- The protocol version of the device of a node. -/
def versionOfNode (node : String) : Server (Option String) := do
  match ← RedisClient.getDeviceId node with
  | none => return none
  | some deviceId => RedisClient.getVersion deviceId

/-- The part of `message_handler` for a valid event of `node`. -/
def handleEvent (node : String) (notificationNode : Stanza) : Server Unit := do
  match ← RedisClient.getAccountId node with
  | none => return
  | some accountId =>
      let version ← versionOfNode node
      if version = some "2" then
        sendV2Push nodev2MessageHandler accountId node notificationNode
      else
        sendV1Push platform nodev1MessageHandler accountId node notificationNode

/-- Only what the own account publishes is read. -/
def messageHandler (stanza : Stanza) : Server Unit := do
  if ← lift (compare (stanza.getAttribute "from") (cStr config.xmpp.bareJid)) then
    match ← lift (getItemsNode stanza) with
    | none => return
    | some itemsNode =>
        match ← lift (getNotificationNode itemsNode) with
        | none => return
        | some notificationNode =>
            match itemsNode.getAttribute "node" with
            | none => throw .nullPointer
            | some node =>
                handleEvent platform nodev1MessageHandler nodev2MessageHandler node
                  notificationNode

end Handlers

end XmppClient

end UwpxPush
