import UwpxPush.Storage.Redis

/-!
# The Redis client

The functions of `storage::redis::RedisClient`.  Under a device id lies the list of the
channel URI, the protocol version and the account keys of the device; under an account key
the node of the account; under a node the list of the account id, the device id and the
secret; and under `WNS` the list of the WNS token, its type and its time of expiry.
-/

namespace UwpxPush

namespace RedisClient

/-- The key of the token, among those of the devices and the nodes. -/
def WNS_TOKEN_KEY : String := "WNS"

/-- The seconds an entry is kept. -/
def DEFAULT_ENTRY_TIMEOUT : Nat := 30 * 7 * 24 * 60 * 60

/-- The account key of an account of a device. -/
def genAccount (platform : Platform) (deviceId accountId : String) : String :=
  CryptoUtils.hashSah256 platform.sha256 (deviceId ++ "_" ++ accountId)

/-- The channel URI comes first in the list of a device, -/
def getChannelUri (deviceId : String) : Server (Option String) := do
  let keys ← Redis.lrange deviceId
  return keys.head?

/-- The entry `index` of a list of exactly three. -/
def getOfThree (key : String) (index : Nat) : Server (Option String) := do
  let keys ← Redis.lrange key
  if keys.length ≠ 3 then
    return none
  return keys[index]?

def getAccountId (node : String) : Server (Option String) :=
  getOfThree node 0

/-- the version second, -/
def getVersion (deviceId : String) : Server (Option String) := do
  let keys ← Redis.lrange deviceId
  if keys.length < 2 then
    return none
  return keys[1]?

def getDeviceId (node : String) : Server (Option String) :=
  getOfThree node 1

def getNodeSecret (node : String) : Server (Option String) :=
  getOfThree node 2

/-- The node under an account key.  Without one the assertion fails, or, when assertions
are left out, an empty optional is dereferenced. -/
def getPushNode (platform : Platform) (key : String) : Server String := do
  match ← Redis.get key with
  | some node => return node
  | none => throw (if platform.debug then .assertion "node" else .emptyOptional)

/-- and then the keys of its accounts. -/
def getPushNodes (platform : Platform) (deviceId : String) : Server (List String) := do
  let keys ← Redis.lrange deviceId
  -- Skip the channel URI and the version.
  (keys.drop 2).mapM (getPushNode platform)

/-- Delete an account key, and the node that it holds after that. -/
def deleteAccount (account : String) : Server Unit := do
  Redis.del account
  match ← Redis.get account with
  | some node => Redis.del node
  | none => return

/-- Append to a list and set its time of expiry. -/
def append (key : String) (values : List String) : Server Unit := do
  Redis.rpush key values
  Redis.expire key DEFAULT_ENTRY_TIMEOUT

/-- Write an account key and append to the list of its node. -/
def addAccount (platform : Platform) (deviceId : String) (pushAccount : PushAccount) :
    Server Unit := do
  let account := genAccount platform deviceId pushAccount.accountId
  Redis.set account pushAccount.node
  Redis.expire account DEFAULT_ENTRY_TIMEOUT
  append pushAccount.node [pushAccount.accountId, deviceId, pushAccount.secret]

/-- Remove the existing key structure of a device. -/
def removeDevice (deviceId : String) : Server Unit := do
  let keys ← Redis.lrange deviceId
  if keys = [] then
    return
  else
    (keys.drop 2).forM deleteAccount
    Redis.del deviceId

/-- Replace the key structure of a device. -/
def setPushAccounts (platform : Platform) (deviceId channelUri version : String)
    (accounts : List PushAccount) : Server Unit := do
  removeDevice deviceId
  accounts.forM (addAccount platform deviceId)
  Redis.del deviceId
  append deviceId (channelUri :: version ::
    accounts.map fun pushAccount => genAccount platform deviceId pushAccount.accountId)

/-- The channel URI is replaced, and what follows it stays. -/
def setChannelUri (deviceId channelUri : String) : Server Unit := do
  let keys ← Redis.lrange deviceId
  if keys = [] then
    append deviceId [channelUri]
  else
    Redis.del deviceId
    append deviceId (channelUri :: keys.tail)

/-- `std::chrono::system_clock::to_time_t`: the whole seconds of a time point. -/
def toTimeT (t : Int) : Int :=
  t.tdiv second

/-- The token is stored until it expires. -/
def setWnsToken (token type : String) (expires : Int) : Server Unit := do
  let tt := toTimeT expires
  Redis.set WNS_TOKEN_KEY token
  Redis.del WNS_TOKEN_KEY
  Redis.rpush WNS_TOKEN_KEY [token, type, toString tt]
  Redis.expireat WNS_TOKEN_KEY tt

def getWnsToken : Server (Option String) :=
  getOfThree WNS_TOKEN_KEY 0

def getWnsTokenType : Server (Option String) :=
  getOfThree WNS_TOKEN_KEY 1

/-- `std::chrono::system_clock::from_time_t`. -/
def fromTimeT (tt : Int) : Int :=
  wrap64 (tt * second)

def getWnsTokenExpireDate : Server (Option Int) := do
  let tt ← getOfThree WNS_TOKEN_KEY 2
  return tt.map fun tt => fromTimeT (strtoll (cStr tt))

/-- Reuse the node and the secret of an account, where both are stored. -/
def loadPushAccount (platform : Platform) (deviceId : String) (account : PushAccount) :
    Server PushAccount := do
  match ← Redis.get (genAccount platform deviceId account.accountId) with
  | none => return account
  | some node =>
      match ← getNodeSecret node with
      | none => return account
      | some secret => return { account with node, secret, success := true }

end RedisClient

end UwpxPush
