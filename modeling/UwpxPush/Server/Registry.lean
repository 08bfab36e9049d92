import UwpxPush.Server.Answering
import UwpxPush.Server.Expiry
import UwpxPush.Server.Stanzas

/-!
# What the server knows of devices

A `Registry` is what the server is meant to remember: for each device a channel URI, the
accounts of its last registration, and the time at which the device is forgotten.  It is a
machine of its own, which events alone move.  The store of the server refines it
(`Refines.next`): in every run whose names are new and whose keys have one role each, the list
of a device is the entry of its registration, it is gone when the registry has forgotten the
device, and the server answers a request as the registry does.
-/

namespace UwpxPush

open KeyValue

/-! ### The registry -/

/-- The accounts of a registration.  Their nodes can be found until the deadline. -/
structure Accounts where
  version : Int
  ids : List String
  deadline : Int
  deriving DecidableEq

/-- What is known of a device. -/
structure Registration where
  channelUri : String
  accounts : Option Accounts
  deadline : Int
  deriving DecidableEq

/-- The devices that are known, and the time. -/
structure Registry where
  clock : Int
  device : String → Option Registration

/-- What becomes of a request to set the accounts of a device. -/
inductive Verdict where
  /-- The device is unknown. -/
  | unknown
  /-- The nodes of its accounts cannot be found, which ends the process. -/
  | stale
  | registered
  deriving DecidableEq

/-- The nodes of the accounts can be found. -/
def Registration.isCurrent (g : Registration) (clock : Int) : Bool :=
  g.accounts.all fun a => a.ids.isEmpty || decide (clock < a.deadline)

namespace Registry

/-- Nothing is known. -/
def start (clock : Int) : Registry :=
  ⟨clock, fun _ => none⟩

def verdict (r : Registry) (deviceId : String) : Verdict :=
  match r.device deviceId with
  | none => .unknown
  | some g => if g.isCurrent r.clock then .registered else .stale

/-- A device sets its channel URI. -/
def setChannelUri (r : Registry) (deviceId channelUri : String) : Registry where
  clock := r.clock
  device := Function.update r.device deviceId
    (some ⟨channelUri, (r.device deviceId).bind Registration.accounts, r.clock + timeout⟩)

/-- A device that is known registers accounts. -/
def setPushAccounts (r : Registry) (deviceId : String) (version : Int) (ids : List String) :
    Registry where
  clock := r.clock
  device := Function.update r.device deviceId
    ((r.device deviceId).map fun g =>
      ⟨g.channelUri, some ⟨version, ids, r.clock + timeout⟩, r.clock + timeout⟩)

/-- Time passes, and devices are forgotten. -/
def advance (r : Registry) (dt : Nat) : Registry where
  clock := r.clock + dt
  device d := (r.device d).filter fun g => r.clock + dt < g.deadline

theorem device_setChannelUri (r : Registry) (d channelUri : String) :
  (r.setChannelUri d channelUri).device d
    = some ⟨channelUri, (r.device d).bind Registration.accounts, r.clock + timeout⟩
  := Function.update_self ..

theorem device_setChannelUri_of_ne (r : Registry) {d d' : String} (h : d' ≠ d)
    (channelUri : String) :
  (r.setChannelUri d channelUri).device d' = r.device d'
  := Function.update_of_ne h ..

theorem device_setPushAccounts (r : Registry) (d : String) (version : Int) (ids : List String) :
  (r.setPushAccounts d version ids).device d = (r.device d).map fun g =>
    ⟨g.channelUri, some ⟨version, ids, r.clock + timeout⟩, r.clock + timeout⟩
  := Function.update_self ..

theorem device_setPushAccounts_of_ne (r : Registry) {d d' : String} (h : d' ≠ d) (version : Int)
    (ids : List String) :
  (r.setPushAccounts d version ids).device d' = r.device d'
  := Function.update_of_ne h ..

theorem device_advance (r : Registry) (dt : Nat) (d : String) :
  (r.advance dt).device d = (r.device d).filter fun g => r.clock + dt < g.deadline
  := rfl

/-- The registry after an event. -/
def next (r : Registry) : Event → Registry
  | .received (.setChannelUri m) _ =>
      if PushServer.isValidChannelUri m.channelUri then
        r.setChannelUri m.deviceId m.channelUri
      else r
  | .received (.setPushAccounts m) _ =>
      if r.verdict m.deviceId = .registered then
        r.setPushAccounts m.deviceId m.version m.accounts
      else r
  | .advance dt => r.advance dt
  | _ => r

/-- The registry after the events of a history. -/
def after (clock : Int) : History → Registry
  | [] => start clock
  | t :: past => (after clock past).next t.event

end Registry

/-- The list of a device in the store. -/
def Registration.entry (platform : Platform) (deviceId : String) (g : Registration) :
    Entry String where
  value := .list (g.channelUri :: match g.accounts with
    | none => []
    | some a => toString a.version :: a.ids.map (RedisClient.genAccount platform deviceId))
  deadline := some g.deadline

/-- An HTTP request. -/
def Output.IsPost : Output → Prop
  | .post _ => True
  | _ => False

/-- What a client is told whose test push was begun. -/
inductive Message.EndsTestPush : Message → Prop where
  | success : EndsTestPush (.successResponse .ofSuccess)
  | failed : EndsTestPush
      (.errorResponse (.ofError "Failed to send test push. Something went wrong..."))
  | exception : EndsTestPush (.errorResponse (.ofError
      "Internal server error... Failed to process received JSON message."))

/-- What is sent for an event is what the registry before it asks for. -/
def Registry.Answers (platform : Platform) (r : Registry) (t : Transition Event World) : Prop :=
  match t.event with
  | .received (.setChannelUri m) _ =>
      outputs t = if PushServer.isValidChannelUri m.channelUri then
          [.reply (.successResponse .ofSuccess)]
        else [.reply (.errorResponse (.ofError
          "Invalid channel URI. Has to use the domain 'notify.windows.com'."))]
  | .received (.setPushAccounts m) _ =>
      match r.verdict m.deviceId with
      | .unknown => outputs t = [.reply (.errorResponse (.ofError "Device id unknown."))]
      | .stale => outputs t = []
      | .registered => ∃ accounts, told t m.deviceId = some accounts
          ∧ accounts.map PushAccount.accountId = m.accounts
  | .received (.requestTestPush m) _ =>
      match r.device m.deviceId with
      | none => outputs t = [.reply (.errorResponse (.ofError "Device id unknown."))]
      | some g => ∃ posts response, outputs t = .sending g.channelUri
            (PushServer.testPush platform (g.accounts.map fun a => toString a.version))
              :: (posts ++ [.reply response])
          ∧ (∀ o ∈ posts, o.IsPost) ∧ response.EndsTestPush
  | .received _ _ => outputs t = [.reply (.errorResponse (.ofError "Unsupported message type."))]
  | _ => ∀ d, told t d = none

/-- The store has what the registry has for the devices that were named: their lists, and nodes
under their account keys.  The registry knows no other devices. -/
structure Refines (platform : Platform) (past : History) (w : World) (r : Registry) : Prop where
  clock : w.redis.clock = r.clock
  unnamed : ∀ d, ¬Named past d → r.device d = none
  device : ∀ d, Named past d → w.contents d = (r.device d).map (Registration.entry platform d)
  key : ∀ d, Named past d → ∀ g ∈ r.device d, ∀ a ∈ g.accounts, ∀ id ∈ a.ids,
    w.contents.NodeUntil w.redis.clock (RedisClient.genAccount platform d id) a.deadline

section

variable {platform : Platform} {config : Configuration} {oracle : Oracle} {past : History}
  {t : Transition Event World} {w w' : World} {e : Event} {d : String} {r : Registry}

/-! ### Requests that meet no value of the wrong type -/

/-- Strings and lists are where a registration of the device looks for them. -/
structure Readable (platform : Platform) (c : Contents) (deviceId : String)
    (accounts : List String) : Prop where
  device : c.NotString deviceId
  keys : ∀ k ∈ (c.elements deviceId).drop 2, ∀ l deadline, c k ≠ some ⟨.list l, deadline⟩
  account : ∀ a ∈ accounts, ∀ l deadline,
    c (RedisClient.genAccount platform deviceId a) ≠ some ⟨.list l, deadline⟩
  node : ∀ k node deadline, c k = some ⟨.string node, deadline⟩ → c.NotString node

/-- A key that holds no list is read as a string. -/
theorem run_get_of_notList {k : String}
    (h : ∀ l deadline, w.contents k ≠ some ⟨.list l, deadline⟩) :
  Server.run oracle (Redis.get k) w = (.ok (w.contents.nodeUnder k), w)
  := by
  rcases hk : w.contents k with _ | ⟨node | l, deadline⟩
  · have hnone : w.redis.lookup k = none := hk
    rw [Server.run_get, Store.get, Store.find, hnone, Contents.nodeUnder, hk]
    rfl
  · have hnode : w.contents.nodeUnder k = some node := Contents.nodeUnder_eq_some.mpr ⟨_, hk⟩
    rw [hnode, run_get_of_nodeUnder hnode]
  · exact (h l deadline hk).elim

/-- No command that reads nodes meets a list. -/
theorem run_mapM_getPushNode_ne {keys : List String}
    (h : ∀ k ∈ keys, ∀ l deadline, w.contents k ≠ some ⟨.list l, deadline⟩) :
  (Server.run oracle (keys.mapM (RedisClient.getPushNode platform)) w).1 ≠ .error wrongType
  := by
  induction keys with
  | nil => rintro ⟨⟩
  | cons k keys ih =>
      obtain ⟨hk, hkeys⟩ := List.forall_mem_cons.mp h
      rw [List.mapM_cons, Server.run]
      rcases hnode : w.contents.nodeUnder k with _ | node
      · have hthrow : Server.run oracle (RedisClient.getPushNode platform k) w
            = (.error (if platform.debug then .assertion "node" else .emptyOptional), w) := by
          rw [RedisClient.getPushNode, Server.run, Program.run_bind_ok _ (run_get_of_notList hk),
            hnode]
          rfl
        rw [Program.run_bind_error _ hthrow]
        cases platform.debug <;> rintro ⟨⟩
      · have hget : Server.run oracle (RedisClient.getPushNode platform k) w = (.ok node, w) := by
          rw [RedisClient.getPushNode, Server.run, Program.run_bind_ok _ (run_get_of_notList hk),
            hnode]
          rfl
        rw [Program.run_bind_ok _ hget]
        rcases hmapM : Server.run oracle (keys.mapM (RedisClient.getPushNode platform)) w with
          ⟨e | nodes, w'⟩
        · have hne := ih hkeys
          rw [hmapM] at hne
          rw [Program.run_bind_error _ hmapM]
          exact hne
        · rw [Program.run_bind_ok _ hmapM]
          rintro ⟨⟩

theorem run_getPushNodes_ne {accounts : List String}
    (h : Readable platform w.contents d accounts) :
  (Server.run oracle (RedisClient.getPushNodes platform d) w).1 ≠ .error wrongType
  := by
  rw [RedisClient.getPushNodes, Server.run,
    Program.run_bind_ok _ (run_lrange_of_notString h.device)]
  exact run_mapM_getPushNode_ne h.keys

/-- An account is loaded where its key holds no list and its node no string. -/
theorem run_loadPushAccount {account : PushAccount}
    (hkey : ∀ l deadline, w.contents (RedisClient.genAccount platform d account.accountId)
      ≠ some ⟨.list l, deadline⟩)
    (hnode : ∀ k node deadline, w.contents k = some ⟨.string node, deadline⟩ →
      w.contents.NotString node) :
  ∃ account', Server.run oracle (RedisClient.loadPushAccount platform d account) w
    = (.ok account', w)
  := by
  rw [RedisClient.loadPushAccount, Server.run, Program.run_bind_ok _ (run_get_of_notList hkey)]
  rcases hunder : w.contents.nodeUnder
      (RedisClient.genAccount platform d account.accountId) with _ | node
  · exact ⟨_, rfl⟩
  · obtain ⟨deadline, hentry⟩ := Contents.nodeUnder_eq_some.mp hunder
    dsimp only
    rw [RedisClient.getNodeSecret,
      Program.run_bind_ok _ (run_getOfThree_of_notString (hnode _ _ _ hentry) 2)]
    split <;> exact ⟨_, rfl⟩

/-- The loop over the account ids meets no value of the wrong type. -/
theorem run_collect_ne {p : PushServer.Pending} {accounts : List String}
    (hkey : ∀ a ∈ accounts, ∀ l deadline,
      w.contents (RedisClient.genAccount platform d a) ≠ some ⟨.list l, deadline⟩)
    (hnode : ∀ k node deadline, w.contents k = some ⟨.string node, deadline⟩ →
      w.contents.NotString node) :
  ∃ p' w', Server.run oracle (accounts.foldlM (PushServer.collectAccount platform d) p) w
    = (.ok p', w')
  := by
  induction accounts generalizing p w with
  | nil => exact ⟨_, _, rfl⟩
  | cons a accounts ih =>
      obtain ⟨ha, haccounts⟩ := List.forall_mem_cons.mp hkey
      have hcreate : Server.run oracle (PushServer.createPushAccount a) w
          = (.ok (PushServer.freshAccount oracle w.created a),
            { w with created := w.created + 1 }) := by
        rw [PushServer.createPushAccount, Server.run]
        rfl
      obtain ⟨account, hload⟩ := @run_loadPushAccount platform oracle
        { w with created := w.created + 1 } d (PushServer.freshAccount oracle w.created a) ha hnode
      have hstep : Server.run oracle (PushServer.collectAccount platform d p a) w
          = (.ok (p.add account), { w with created := w.created + 1 }) := by
        rw [PushServer.collectAccount, Server.run, Program.run_bind_ok _ hcreate,
          Program.run_bind_ok _ hload]
        rfl
      rw [List.foldlM_cons, Server.run, Program.run_bind_ok _ hstep]
      exact ih haccounts hnode

/-- A request to set the accounts of a device meets no value of the wrong type. -/
theorem run_setPushAccounts_ne {version : String} {accounts : List String}
    (hw : w.contents.Typed) (h : Readable platform w.contents d accounts) :
  (Server.run oracle (PushServer.setPushAccounts platform config d version accounts) w).1
    ≠ .error wrongType
  := by
  have huri : Server.run oracle (RedisClient.getChannelUri d) w
      = (.ok (w.contents.elements d).head?, w) := by
    rw [RedisClient.getChannelUri, Server.run,
      Program.run_bind_ok _ (run_lrange_of_notString h.device)]
    rfl
  rw [PushServer.setPushAccounts, Server.run, Program.run_bind_ok _ huri]
  rcases helements : w.contents.elements d with _ | ⟨uri, rest⟩
  · rintro ⟨⟩
  · rcases hold : Server.run oracle (RedisClient.getPushNodes platform d) w with
      ⟨e | oldNodes, w₁⟩
    · have hne := @run_getPushNodes_ne platform oracle w d accounts h
      rw [hold] at hne
      simp only [List.head?_cons, Program.run_bind_error _ hold]
      simpa using hne
    · obtain ⟨rfl, -⟩ := run_getPushNodes_ok hold
      simp only [List.head?_cons, Program.run_bind_ok _ hold]
      obtain ⟨p, w₂, hok⟩ := @run_collect_ne platform oracle w₁ d
        { pushAccounts := [], deleteNodes := oldNodes.dedup, addNodes := [] } accounts
        h.account h.node
      rcases PushServer.run_collect d
        { pushAccounts := [], deleteNodes := oldNodes.dedup, addNodes := [] } accounts w₁
        with ⟨e, k, -, herror⟩ | hcollect
      · cases hok.symm.trans herror
      · obtain ⟨redis, hregister, -, -⟩ := @PushServer.run_register platform config oracle d uri
          version oldNodes (PushServer.resolveAll platform oracle w₁.contents d w₁.created accounts)
          { w₁ with created := w₁.created + accounts.length } hw
          (by
            rw [World.contents] at helements ⊢
            rw [helements]
            simp)
          (fun a ha => PushServer.length_node_resolveAll hw ha)
        rw [Program.run_bind_ok _ hcollect]
        intro herror
        cases herror.symm.trans (congrArg Prod.fst hregister)

/-! ### What the roles of keys say -/

/-- A device that is named for the first time has no entry. -/
theorem RolesApart.contents_of_not_named (h : RolesApart platform oracle (⟨e, w, w'⟩ :: past))
    (hreached : Reached platform config oracle past w) (hfresh : Admitted (Fresh oracle) past)
    (hle : w.created ≤ w'.created) (hd : Named (⟨e, w, w'⟩ :: past) d) (hnew : ¬Named past d) :
  w.contents d = none
  := by
  rcases hentry : w.contents d with _ | ⟨node | l, deadline⟩
  · rfl
  · exact (h.notString hreached hfresh hd _ _ hentry).elim
  · rcases (hreached.owned hfresh).2 d l deadline hentry with hwns | hnamed | ⟨i, hi, hnode⟩
    · exact (h.token (hwns ▸ hd)).elim
    · exact (hnew hnamed).elim
    · exact (h.node d hd _ List.mem_cons_self i (lt_of_lt_of_le hi hle) hnode).elim

/-- There is no list under an account key. -/
theorem RolesApart.not_list (h : RolesApart platform oracle (t :: past))
    (hreached : Reached platform config oracle past w) (hfresh : Admitted (Fresh oracle) past)
    {accountId : String} (hlisted : Listed (t :: past) d accountId) (l : List String)
    (deadline : Option Int) :
  w.contents (RedisClient.genAccount platform d accountId) ≠ some ⟨.list l, deadline⟩
  := by
  intro hentry
  rcases (hreached.owned hfresh).2 _ _ _ hentry with hwns | hnamed | ⟨i, -, hnode⟩
  · exact genAccount_ne_token _ _ hwns
  · exact h.key _ hnamed.cons _ _ hlisted rfl
  · exact genAccount_ne_node _ _ _ hnode

/-- Where keys have one role each, the lists of devices lead to account keys that were listed. -/
theorem RolesApart.keys_listed (h : RolesApart platform oracle (⟨e, w, w'⟩ :: past))
    (hreached : Reached platform config oracle past w) (hfresh : Admitted (Fresh oracle) past)
    (hle : w.created ≤ w'.created) (hd : Named (⟨e, w, w'⟩ :: past) d) {k : String}
    (hk : k ∈ (w.contents.elements d).drop 2) :
  ∃ accountId, Listed (⟨e, w, w'⟩ :: past) d accountId
    ∧ k = RedisClient.genAccount platform d accountId
  := by
  by_cases hold : Named past d
  · obtain ⟨a, hlisted, hkey⟩ := hreached.listsOwnKeys hfresh h.of_cons _ hold k hk
    exact ⟨a, hlisted.cons, hkey⟩
  · rw [h.elements_of_not_named (hreached.owned hfresh).2 hle hd hold] at hk
    cases hk

/-- Where keys have one role each, requests meet no value of the wrong type. -/
theorem RolesApart.readable {m : SetPushAccountsMessage}
    {valid : (Message.setPushAccounts m).Valid}
    (h : RolesApart platform oracle (⟨.received (.setPushAccounts m) valid, w, w'⟩ :: past))
    (hreached : Reached platform config oracle past w) (hfresh : Admitted (Fresh oracle) past)
    (hle : w.created ≤ w'.created) :
  Readable platform w.contents m.deviceId m.accounts
  := by
  constructor
  · exact h.notString hreached hfresh (named_cons rfl)
  · intro k hk
    obtain ⟨a, hlisted, rfl⟩ := h.keys_listed hreached hfresh hle (named_cons rfl) hk
    exact h.not_list hreached hfresh hlisted
  · intro a ha
    exact h.not_list hreached hfresh (listed_cons rfl ha)
  · intro k node deadline hk
    obtain ⟨i, owner, accountId, ho⟩ := (hreached.owned hfresh).1 _ _ _ hk
    obtain ⟨u, v, a, b, l, -, -, -, hrecord⟩ := ho.record
    intro s deadline' hs
    cases hs.symm.trans hrecord

/-! ### What requests do -/

/-- A valid channel URI is stored. -/
theorem handle_setChannelUri_valid {m : SetChannelUriMessage}
    (hs : w.contents.NotString m.deviceId)
    (huri : PushServer.isValidChannelUri m.channelUri = true) :
  ∃ redis, redis.clock = w.redis.clock
    ∧ redis.lookup = w.contents.setChannelUri (w.redis.clock + timeout) m.deviceId m.channelUri
    ∧ (Server.run oracle (PushServer.processMessage platform config (.setChannelUri m)) w).2
      = ({ w with redis } : World).tell (.reply (.successResponse .ofSuccess))
  := by
  obtain ⟨redis, hrun, hclock, hlookup⟩ := run_setChannelUri oracle m.channelUri hs
  use redis, hclock, hlookup
  have hhandle : Server.run oracle (PushServer.handleMessage platform config
      (.setChannelUri m)) w
      = (.ok (), ({ w with redis } : World).tell (.reply (.successResponse .ofSuccess))) := by
    rw [PushServer.handleMessage, PushServer.setChannelUri, if_pos huri, Server.run,
      Program.run_bind_ok _ hrun]
    apply PushServer.run_reply
  rw [run_processMessage_ok platform config hhandle]

/-- Another channel URI is refused. -/
theorem handle_setChannelUri_invalid {m : SetChannelUriMessage}
    (huri : PushServer.isValidChannelUri m.channelUri ≠ true) :
  (Server.run oracle (PushServer.processMessage platform config (.setChannelUri m)) w).2
    = w.tell (.reply (.errorResponse (.ofError
      "Invalid channel URI. Has to use the domain 'notify.windows.com'.")))
  := by
  have hhandle : Server.run oracle (PushServer.handleMessage platform config
      (.setChannelUri m)) w
      = (.ok (), w.tell (.reply (.errorResponse (.ofError
          "Invalid channel URI. Has to use the domain 'notify.windows.com'.")))) := by
    rw [PushServer.handleMessage, PushServer.setChannelUri, if_neg huri]
    apply PushServer.run_reply
  rw [run_processMessage_ok platform config hhandle]

/-- A request for a test push of a device without a list is answered with an error. -/
theorem handle_requestTestPush_unknown {m : RequestTestPushMessage}
    (hs : w.contents.NotString m.deviceId) (h : w.contents.elements m.deviceId = []) :
  (Server.run oracle (PushServer.processMessage platform config (.requestTestPush m)) w).2
    = w.tell (.reply (.errorResponse (.ofError "Device id unknown.")))
  := by
  have hhandle : Server.run oracle (PushServer.handleMessage platform config
      (.requestTestPush m)) w
      = (.ok (), w.tell (.reply (.errorResponse (.ofError "Device id unknown.")))) := by
    rw [PushServer.handleMessage, PushServer.sendTestPush, Server.run,
      Program.run_bind_ok _ (run_getChannelUri_of_notString hs), h]
    apply PushServer.run_reply
  rw [run_processMessage_ok platform config hhandle]

/-- A notification is begun, and HTTP requests follow. -/
theorem posts_sendRawNotification {channelUri content : String} {r : Except Failure Bool}
    (h : Server.run oracle (WnsClient.sendRawNotification platform config channelUri content) w
      = (r, w')) :
  ∃ posts, w'.log = w.log ++ .sending channelUri content :: posts ∧ ∀ o ∈ posts, o.IsPost
  := by
  have heffect := @sendRawNotification_effect platform config oracle channelUri content w
  rw [h] at heffect
  obtain ⟨posts, hlog, hposts⟩ := heffect.outputs
  use posts
  constructor
  · rw [hlog]
    exact List.append_assoc ..
  · intro o ho
    rcases hposts o ho with rfl | ⟨token, rfl⟩
    · trivial
    · trivial

/-- A request for a test push of a device with a list is one notification of its channel URI in
the version of its accounts, which is followed by HTTP requests and one response. -/
theorem handle_requestTestPush_known {m : RequestTestPushMessage}
    (hs : w.contents.NotString m.deviceId) {channelUri : String} {rest : List String}
    (h : w.contents.elements m.deviceId = channelUri :: rest) :
  ∃ posts response, (Server.run oracle (PushServer.processMessage platform config
      (.requestTestPush m)) w).2.log
    = w.log ++ .sending channelUri (PushServer.testPush platform rest.head?)
      :: (posts ++ [.reply response])
    ∧ (∀ o ∈ posts, o.IsPost) ∧ response.EndsTestPush
  := by
  have hversion : Server.run oracle (RedisClient.getVersion m.deviceId) w
      = (.ok rest.head?, w) := by
    rw [run_getVersion_of_notString hs, h]
    cases rest <;> rfl
  have htell : ∀ (w' : World) (posts : List Output) (response : Message),
      w'.log = w.log ++ .sending channelUri (PushServer.testPush platform rest.head?) :: posts →
      (w'.tell (.reply response)).log = w.log
        ++ .sending channelUri (PushServer.testPush platform rest.head?)
          :: (posts ++ [.reply response]) := by
    intro w' posts response hlog
    rw [World.tell, hlog, List.append_assoc]
    rfl
  rcases hrun : Server.run oracle (WnsClient.sendRawNotification platform config channelUri
      (PushServer.testPush platform rest.head?)) w with ⟨failure | success, w'⟩
  · obtain ⟨posts, hlog, hposts⟩ := posts_sendRawNotification hrun
    -- The failures of a notification are exceptions, for which the client gets an answer.
    have hfailure : failure.IsException := by
      have houtcome := Program.outcome_run (World.answers_perform oracle)
        (WnsClient.sendRawNotification platform config channelUri
          (PushServer.testPush platform rest.head?)) w
      rw [Server.run] at hrun
      rw [hrun] at houtcome
      exact (calmAt_sendRawNotification _ _ _ _ houtcome).2 failure rfl
    obtain ⟨what, rfl⟩ := hfailure
    have hhandle : Server.run oracle (PushServer.handleMessage platform config
        (.requestTestPush m)) w = (.error (.exception what), w') := by
      rw [PushServer.testPush] at hrun
      rw [PushServer.handleMessage, PushServer.sendTestPush, Server.run,
        Program.run_bind_ok _ (run_getChannelUri_of_notString hs), h]
      simp only [List.head?_cons, Program.run_bind_ok _ hversion]
      exact Program.run_bind_error _ hrun _
    rw [run_processMessage_exception platform config hhandle]
    exact ⟨posts, _, htell w' posts _ hlog, hposts, .exception⟩
  · obtain ⟨posts, hlog, hposts⟩ := posts_sendRawNotification hrun
    obtain ⟨response, hend, hhandle⟩ : ∃ response : Message, response.EndsTestPush
        ∧ Server.run oracle (PushServer.handleMessage platform config (.requestTestPush m)) w
          = (.ok (), w'.tell (.reply response)) := by
      rw [PushServer.testPush] at hrun
      rw [PushServer.handleMessage, PushServer.sendTestPush, Server.run,
        Program.run_bind_ok _ (run_getChannelUri_of_notString hs), h]
      simp only [List.head?_cons, Program.run_bind_ok _ hversion]
      rw [Program.run_bind_ok _ hrun]
      cases success with
      | false => exact ⟨_, .failed, PushServer.run_reply _ w'⟩
      | true => exact ⟨_, .success, PushServer.run_reply _ w'⟩
    rw [run_processMessage_ok platform config hhandle]
    exact ⟨posts, response, htell w' posts response hlog, hposts, hend⟩

/-- A message that is not a request is refused. -/
theorem handle_unsupported {m : Message}
    (hm : PushServer.handleMessage platform config m
      = ClientSslSession.respondWithError "Unsupported message type.") :
  (Server.run oracle (PushServer.processMessage platform config m) w).2
    = w.tell (.reply (.errorResponse (.ofError "Unsupported message type.")))
  := by
  have hhandle : Server.run oracle (PushServer.handleMessage platform config m) w
      = (.ok (), w.tell (.reply (.errorResponse (.ofError "Unsupported message type.")))) := by
    rw [hm]
    apply PushServer.run_reply
  rw [run_processMessage_ok platform config hhandle]

/-- A request to set the accounts of a device without a list is answered with an error. -/
theorem handle_setPushAccounts_unknown {m : SetPushAccountsMessage}
    (hs : w.contents.NotString m.deviceId) (h : w.contents.elements m.deviceId = []) :
  (Server.run oracle (PushServer.processMessage platform config (.setPushAccounts m)) w).2
    = w.tell (.reply (.errorResponse (.ofError "Device id unknown.")))
  := by
  have hhandle : Server.run oracle (PushServer.handleMessage platform config
      (.setPushAccounts m)) w
      = (.ok (), w.tell (.reply (.errorResponse (.ofError "Device id unknown.")))) := by
    rw [PushServer.handleMessage, PushServer.setPushAccounts, Server.run,
      Program.run_bind_ok _ (run_getChannelUri_of_notString hs), h]
    apply PushServer.run_reply
  rw [run_processMessage_ok platform config hhandle]

/-- A request to set the accounts of a device with a list ends the process or registers them. -/
theorem handle_setPushAccounts_known {m : SetPushAccountsMessage} (hw : w.contents.Typed)
    (h : Readable platform w.contents m.deviceId m.accounts)
    (hne : w.contents.elements m.deviceId ≠ []) :
  (∃ k ∈ (w.contents.elements m.deviceId).drop 2, w.contents.nodeUnder k = none)
      ∧ (Server.run oracle (PushServer.processMessage platform config
        (.setPushAccounts m)) w).2.redis = w.redis
      ∧ (Server.run oracle (PushServer.processMessage platform config
        (.setPushAccounts m)) w).2.log = w.log
    ∨ ∃ channelUri oldNodes pushAccounts,
      PushServer.Registered platform config oracle m.deviceId (toString m.version) m.accounts w
        (Server.run oracle (PushServer.processMessage platform config (.setPushAccounts m)) w).2
        channelUri oldNodes pushAccounts
  := by
  rcases hrun : Server.run oracle (PushServer.handleMessage platform config
      (.setPushAccounts m)) w with ⟨failure | u, w'⟩
  · rcases PushServer.run_setPushAccounts_cases hw hrun with
      ⟨hrefused, ⟨hok, -⟩ | ⟨hlog, _, heq, rfl | ⟨hcrash, hmissing⟩⟩⟩ | ⟨hok, -⟩
    · cases hok
    · exact (@run_setPushAccounts_ne platform config oracle w m.deviceId (toString m.version)
        m.accounts hw h ((congrArg Prod.fst hrun).trans heq)).elim
    · cases heq
      rw [run_processMessage_uncaught platform config hcrash hrun]
      exact .inl ⟨hmissing, hrefused.redis, hlog⟩
    · cases hok
  · rw [run_processMessage_ok platform config hrun]
    rcases PushServer.run_setPushAccounts_cases hw hrun with
      ⟨-, ⟨-, hnil⟩ | ⟨-, _, heq, -⟩⟩ | ⟨-, hregistered⟩
    · exact (hne hnil).elim
    · cases heq
    · exact .inr hregistered

/-! ### The refinement -/

namespace Refines

/-- The elements of the list of a device. -/
theorem elements (h : Refines platform past w r) (hd : Named past d) {g : Registration}
    (hg : r.device d = some g) :
  w.contents.elements d = g.channelUri :: match g.accounts with
    | none => []
    | some a => toString a.version :: a.ids.map (RedisClient.genAccount platform d)
  := by
  have hentry := h.device d hd
  rw [hg] at hentry
  exact Contents.elements_of_eq hentry

theorem elements_of_none (h : Refines platform past w r) (hd : Named past d)
    (hnone : r.device d = none) :
  w.contents.elements d = []
  := by
  have hentry := h.device d hd
  rw [hnone] at hentry
  rw [Contents.elements, hentry]
  rfl

/-- The account key of a registered account is in the list of the device. -/
theorem mem_elements (h : Refines platform past w r) (hd : Named past d) {g : Registration}
    (hg : r.device d = some g) {a : Accounts} (ha : g.accounts = some a) {accountId : String}
    (hid : accountId ∈ a.ids) :
  RedisClient.genAccount platform d accountId ∈ (w.contents.elements d).drop 2
  := by
  rw [h.elements hd hg, ha]
  exact List.mem_map_of_mem hid

/-- The nodes of a device can be found if and only if its accounts are current. -/
theorem isCurrent_iff (h : Refines platform past w r) (hd : Named past d) {g : Registration}
    (hg : r.device d = some g) :
  g.isCurrent r.clock = true
    ↔ ∀ k ∈ (w.contents.elements d).drop 2, ∃ node, w.contents.nodeUnder k = some node
  := by
  rw [h.elements hd hg, Registration.isCurrent]
  rcases ha : g.accounts with _ | a
  · simp
  · simp only [Option.all_some, Bool.or_eq_true, List.isEmpty_iff, decide_eq_true_eq,
      List.drop_succ_cons, List.drop_zero, List.forall_mem_map]
    constructor
    · rintro (hnil | hlt) accountId hid
      · rw [hnil] at hid
        cases hid
      · obtain ⟨node, hnode⟩ := h.key d hd g hg a ha accountId hid
        rw [h.clock, if_pos hlt] at hnode
        exact ⟨node, Contents.nodeUnder_eq_some.mpr ⟨_, hnode⟩⟩
    · intro hnodes
      rcases hids : a.ids with _ | ⟨accountId, ids⟩
      · exact .inl rfl
      · apply Or.inr
        have hid : accountId ∈ a.ids := by
          rw [hids]
          apply List.mem_cons_self
        obtain ⟨node, hnode⟩ := h.key d hd g hg a ha accountId hid
        obtain ⟨node', hnode'⟩ := hnodes accountId hid
        rw [Contents.nodeUnder, hnode, h.clock] at hnode'
        by_contra hle
        rw [if_neg hle] at hnode'
        cases hnode'

/-- Devices that are named for the first time are unknown to both. -/
theorem cons (h : Refines platform past w r) (hreached : Reached platform config oracle past w)
    (hfresh : Admitted (Fresh oracle) past) (hle : w.created ≤ w'.created)
    (hroles : RolesApart platform oracle (⟨e, w, w'⟩ :: past)) :
  Refines platform (⟨e, w, w'⟩ :: past) w r
  := by
  constructor
  · apply h.clock
  · intro d hd
    apply h.unnamed
    intro hold
    exact hd hold.cons
  · intro d hd
    by_cases hold : Named past d
    · exact h.device d hold
    · rw [hroles.contents_of_not_named hreached hfresh hle hd hold, h.unnamed d hold]
      rfl
  · intro d hd g hg
    by_cases hold : Named past d
    · exact h.key d hold g hg
    · rw [h.unnamed d hold] at hg
      cases hg

/-- What is under the keys of devices and accounts stays as it is. -/
theorem of_eq (h : Refines platform past w r) (hclock : w'.redis.clock = w.redis.clock)
    (hdevice : ∀ d, Named past d → w'.contents d = w.contents d)
    (hkey : ∀ d, Named past d → ∀ k ∈ (w.contents.elements d).drop 2,
      w'.contents k = w.contents k) :
  Refines platform past w' r
  := by
  constructor
  · exact hclock.trans h.clock
  · apply h.unnamed
  · intro d hd
    rw [hdevice d hd]
    exact h.device d hd
  · intro d hd g hg a ha accountId hid
    rw [Contents.NodeUntil, hclock, hkey d hd _ (h.mem_elements hd hg ha hid)]
    exact h.key d hd g hg a ha accountId hid

/-- A device sets its channel URI. -/
theorem setChannelUri (h : Refines platform past w r) {deviceId channelUri : String}
    (hnamed : Named past deviceId) (hclock : w'.redis.clock = w.redis.clock)
    (hcontents : w'.contents
      = w.contents.setChannelUri (w.redis.clock + timeout) deviceId channelUri)
    (hkey : ∀ d, Named past d → ∀ k ∈ (w.contents.elements d).drop 2, k ≠ deviceId) :
  Refines platform past w' (r.setChannelUri deviceId channelUri)
  := by
  constructor
  · exact hclock.trans h.clock
  · intro d hd
    have hne : d ≠ deviceId := by
      rintro rfl
      exact hd hnamed
    rw [r.device_setChannelUri_of_ne hne]
    exact h.unnamed d hd
  · intro d hd
    rw [hcontents, Contents.setChannelUri, Contents.putList]
    by_cases heq : d = deviceId
    · subst heq
      rw [if_pos rfl, r.device_setChannelUri, h.clock]
      rcases hg : r.device d with _ | g
      · rw [h.elements_of_none hd hg]
        rfl
      · rw [h.elements hd hg]
        rfl
    · rw [if_neg heq, r.device_setChannelUri_of_ne heq]
      exact h.device d hd
  · intro d hd g hg a ha accountId hid
    obtain ⟨g', hg', ha'⟩ : ∃ g', r.device d = some g' ∧ g'.accounts = some a := by
      by_cases heq : d = deviceId
      · subst heq
        rw [r.device_setChannelUri] at hg
        cases hg
        exact Option.bind_eq_some_iff.mp ha
      · rw [r.device_setChannelUri_of_ne heq] at hg
        exact ⟨g, hg, ha⟩
    have hmem := h.mem_elements hd hg' ha' hid
    have hsame : w'.contents (RedisClient.genAccount platform d accountId)
        = w.contents (RedisClient.genAccount platform d accountId) := by
      rw [hcontents, Contents.setChannelUri]
      exact if_neg (hkey d hd _ hmem)
    rw [Contents.NodeUntil, hclock, hsame]
    exact h.key d hd g' hg' a ha' accountId hid

/-- Time passes. -/
theorem advance (h : Refines platform past w r) (dt : Nat) :
  Refines platform past { w with redis := w.redis.advance dt } (r.advance dt)
  := by
  constructor
  · exact congrArg (· + (dt : Int)) h.clock
  · intro d hd
    rw [r.device_advance, h.unnamed d hd]
    rfl
  · intro d hd
    have hentry := h.device d hd
    rw [r.device_advance]
    rcases hg : r.device d with _ | g
    · rw [hg] at hentry
      exact Store.lookup_advance_of_none hentry
    · rw [hg, Option.map_some] at hentry
      rw [World.contents, Store.lookup_advance_eq hentry, h.clock]
      by_cases hlt : r.clock + dt < g.deadline
      · rw [if_pos hlt, Option.filter_some_pos (by simpa using hlt)]
        rfl
      · rw [if_neg hlt, Option.filter_some_neg (by simpa using hlt)]
        rfl
  · intro d hd g hg a ha accountId hid
    have hold : r.device d = some g := (Option.filter_eq_some_iff.mp hg).1
    exact (h.key d hd g hold a ha accountId hid).advance

/-- A device that is known registers accounts. -/
theorem setPushAccounts {m : SetPushAccountsMessage} {valid : (Message.setPushAccounts m).Valid}
    {channelUri : String} {oldNodes : List String} {pushAccounts : List PushAccount}
    (h : Refines platform (⟨.received (.setPushAccounts m) valid, w, w'⟩ :: past) w r)
    (hroles : RolesApart platform oracle (⟨.received (.setPushAccounts m) valid, w, w'⟩ :: past))
    (hr : PushServer.Registered platform config oracle m.deviceId (toString m.version)
      m.accounts w w' channelUri oldNodes pushAccounts)
    (hw : w.contents.Typed) {g : Registration} (hg : r.device m.deviceId = some g)
    (hother : ∀ k, Foreign platform oracle
      (⟨.received (.setPushAccounts m) valid, w, w'⟩ :: past) m.deviceId k →
      w'.contents k = w.contents k)
    (hkey : ∀ d, Named (⟨.received (.setPushAccounts m) valid, w, w'⟩ :: past) d →
      ∀ k ∈ (w.contents.elements d).drop 2, ∃ accountId,
        Listed (⟨.received (.setPushAccounts m) valid, w, w'⟩ :: past) d accountId
          ∧ k = RedisClient.genAccount platform d accountId) :
  Refines platform (⟨.received (.setPushAccounts m) valid, w, w'⟩ :: past) w'
    (r.setPushAccounts m.deviceId m.version m.accounts)
  := by
  have hnamed : Named (⟨.received (.setPushAccounts m) valid, w, w'⟩ :: past) m.deviceId :=
    named_cons rfl
  constructor
  · exact hr.clock.trans h.clock
  · intro d hd
    have hne : d ≠ m.deviceId := by
      rintro rfl
      exact hd hnamed
    rw [r.device_setPushAccounts_of_ne hne]
    exact h.unnamed d hd
  · intro d hd
    by_cases heq : d = m.deviceId
    · subst heq
      have huri : channelUri = g.channelUri := by
        have hhead := hr.head
        rw [h.elements hd hg] at hhead
        exact (Option.some.inj hhead).symm
      have hids : pushAccounts.map (Contents.accountKey platform m.deviceId)
          = m.accounts.map (RedisClient.genAccount platform m.deviceId) := by
        rw [← PushServer.map_accountId_resolveAll
          (c := w.contents) w.created m.accounts, ← hr.resolved, List.map_map]
        rfl
      rw [hr.contents_device, r.device_setPushAccounts, hg, hids, huri, h.clock]
      rfl
    · rw [hother d (.inl ⟨hd, heq⟩), r.device_setPushAccounts_of_ne heq]
      exact h.device d hd
  · intro d hd g' hg' a ha accountId hid
    by_cases heq : d = m.deviceId
    · subst heq
      rw [r.device_setPushAccounts, hg] at hg'
      cases hg'
      cases ha
      obtain ⟨node, hnode⟩ := hroles.contents_key_registered hr hw hid
      use node
      have hlt : w'.redis.clock < r.clock + timeout := by
        have := timeout_pos
        rw [hr.clock, h.clock]
        omega
      rw [hnode, if_pos hlt, h.clock]
    · rw [r.device_setPushAccounts_of_ne heq] at hg'
      obtain ⟨b, hlisted, hb⟩ := hkey d hd _ (h.mem_elements hd hg' ha hid)
      rw [Contents.NodeUntil, hr.clock,
        hother _ (.inr (.inl ⟨d, b, hlisted, heq, hb⟩))]
      exact h.key d hd g' hg' a ha accountId hid

end Refines

/-! ### Runs -/

/-- An event that changes neither accounts nor channel URIs leaves the registry alone. -/
theorem Refines.other (h : Refines platform past w r)
    (heffect : WnsEffect (MaySend config w.contents e) w w')
    (htoken : ¬Named past RedisClient.WNS_TOKEN_KEY)
    (hkeys : ∀ d, Named past d → ∀ k ∈ (w.contents.elements d).drop 2,
      ∃ accountId, k = RedisClient.genAccount platform d accountId) :
  Refines platform past w' r
  := by
  apply h.of_eq heffect.clock
  · intro d hd
    apply heffect.lookup
    rintro rfl
    exact htoken hd
  · intro d hd k hk
    obtain ⟨accountId, rfl⟩ := hkeys d hd k hk
    exact heffect.lookup _ (genAccount_ne_token d accountId)

theorem told_of_effect (heffect : WnsEffect (MaySend config w.contents e) w w') (d : String) :
  told ⟨e, w, w'⟩ d = none
  := by
  obtain ⟨out, hlog, hout⟩ := heffect.outputs
  exact told_of_no_accounts hlog fun o ho => (hout o ho).accounts.1

/-- A message sets a channel URI. -/
theorem Refines.next_setChannelUri {m : SetChannelUriMessage}
    {valid : (Message.setChannelUri m).Valid}
    (h : Refines platform (⟨.received (.setChannelUri m) valid, w, w'⟩ :: past) w r)
    (hw' : w' = w.handle platform config oracle (.received (.setChannelUri m) valid))
    (hs : w.contents.NotString m.deviceId)
    (hkeys : ∀ d, Named (⟨.received (.setChannelUri m) valid, w, w'⟩ :: past) d →
      ∀ k ∈ (w.contents.elements d).drop 2, k ≠ m.deviceId) :
  Refines platform (⟨.received (.setChannelUri m) valid, w, w'⟩ :: past) w'
      (r.next (.received (.setChannelUri m) valid))
    ∧ r.Answers platform ⟨.received (.setChannelUri m) valid, w, w'⟩
  := by
  by_cases huri : PushServer.isValidChannelUri m.channelUri = true
  · obtain ⟨redis, hclock, hlookup, hrun⟩ :=
      @handle_setChannelUri_valid platform config oracle w m hs huri
    obtain rfl := hw'.trans hrun
    rw [Registry.next, if_pos huri]
    constructor
    · exact h.setChannelUri (named_cons rfl) hclock hlookup hkeys
    · exact (outputs_eq rfl).trans (if_pos huri).symm
  · obtain rfl := hw'.trans (@handle_setChannelUri_invalid platform config oracle w m huri)
    rw [Registry.next, if_neg huri]
    constructor
    · exact h.of_eq rfl (fun d _ => rfl) fun d _ k _ => rfl
    · exact (outputs_eq rfl).trans (if_neg huri).symm

/-- A message asks for a test push. -/
theorem Refines.next_requestTestPush {m : RequestTestPushMessage}
    {valid : (Message.requestTestPush m).Valid}
    (h : Refines platform (⟨.received (.requestTestPush m) valid, w, w'⟩ :: past) w r)
    (hw' : w' = w.handle platform config oracle (.received (.requestTestPush m) valid))
    (hs : w.contents.NotString m.deviceId) :
  r.Answers platform ⟨.received (.requestTestPush m) valid, w, w'⟩
  := by
  have hnamed : Named (⟨.received (.requestTestPush m) valid, w, w'⟩ :: past) m.deviceId :=
    named_cons rfl
  simp only [Registry.Answers]
  rcases hg : r.device m.deviceId with _ | g
  · obtain rfl := hw'.trans (@handle_requestTestPush_unknown platform config oracle w m hs
      (h.elements_of_none hnamed hg))
    exact outputs_eq rfl
  · obtain ⟨posts, response, hlog, hposts⟩ :=
      @handle_requestTestPush_known platform config oracle w m hs _ _ (h.elements hnamed hg)
    refine ⟨posts, response, ?_, hposts⟩
    rw [hw']
    apply outputs_eq
    rw [World.handle, hlog]
    cases g.accounts <;> rfl

/-- A message sets the accounts of a device. -/
theorem Refines.next_setPushAccounts {m : SetPushAccountsMessage}
    {valid : (Message.setPushAccounts m).Valid}
    (h : Refines platform (⟨.received (.setPushAccounts m) valid, w, w'⟩ :: past) w r)
    (hw' : w' = w.handle platform config oracle (.received (.setPushAccounts m) valid))
    (hreached : Reached platform config oracle past w)
    (hfresh : Admitted (Fresh oracle) (⟨.received (.setPushAccounts m) valid, w, w'⟩ :: past))
    (hroles : RolesApart platform oracle
      (⟨.received (.setPushAccounts m) valid, w, w'⟩ :: past)) :
  Refines platform (⟨.received (.setPushAccounts m) valid, w, w'⟩ :: past) w'
      (r.next (.received (.setPushAccounts m) valid))
    ∧ r.Answers platform ⟨.received (.setPushAccounts m) valid, w, w'⟩
  := by
  have hmove : Move platform config oracle w (.received (.setPushAccounts m) valid) w' := by
    rw [hw']
    exact handle_move platform config oracle w hreached.typed _
  have hreached' : Reached platform config oracle
      (⟨.received (.setPushAccounts m) valid, w, w'⟩ :: past) w' := by
    rw [hw']
    exact .next hreached _
  have hle := hmove.created.1
  have hnamed : Named (⟨.received (.setPushAccounts m) valid, w, w'⟩ :: past) m.deviceId :=
    named_cons rfl
  have hread := hroles.readable hreached hfresh.2 hle
  simp only [Registry.next, Registry.Answers]
  rcases hg : r.device m.deviceId with _ | g
  · have hverdict : r.verdict m.deviceId = .unknown := by rw [Registry.verdict, hg]
    obtain rfl := hw'.trans (@handle_setPushAccounts_unknown platform config oracle w m
      hread.device (h.elements_of_none hnamed hg))
    rw [hverdict, if_neg (by rintro ⟨⟩)]
    constructor
    · exact h.of_eq rfl (fun d _ => rfl) fun d _ k _ => rfl
    · exact outputs_eq rfl
  · have hne : w.contents.elements m.deviceId ≠ [] := by
      rw [h.elements hnamed hg]
      apply List.cons_ne_nil
    rcases @handle_setPushAccounts_known platform config oracle w m hreached.typed hread hne with
      ⟨⟨k, hk, hnone⟩, hredis, hlog⟩ | ⟨channelUri, oldNodes, pushAccounts, hr⟩
    · have hverdict : r.verdict m.deviceId = .stale := by
        simp only [Registry.verdict, hg]
        apply if_neg
        rw [h.isCurrent_iff hnamed hg]
        intro hnodes
        obtain ⟨node, hnode⟩ := hnodes k hk
        cases hnode.symm.trans hnone
      have hsame : w'.redis = w.redis := by
        rw [hw']
        exact hredis
      have hcontents : w'.contents = w.contents := by
        rw [World.contents, World.contents, hsame]
      rw [hverdict, if_neg (by rintro ⟨⟩)]
      constructor
      · exact h.of_eq (by rw [hsame]) (fun d _ => by rw [hcontents])
          fun d _ k _ => by rw [hcontents]
      · apply outputs_eq_nil
        rw [hw']
        exact hlog
    · have hverdict : r.verdict m.deviceId = .registered := by
        simp only [Registry.verdict, hg]
        apply if_pos
        rw [h.isCurrent_iff hnamed hg]
        intro k hk
        obtain ⟨node, -, hnode⟩ := hr.old_key hk
        exact ⟨node, hnode⟩
      have hr' : PushServer.Registered platform config oracle m.deviceId (toString m.version)
          m.accounts w w' channelUri oldNodes pushAccounts := by
        rw [hw']
        exact hr
      rw [hverdict, if_pos rfl]
      constructor
      · exact h.setPushAccounts hroles hr' hreached.typed hg
          (fun k hk => hmove.contents_foreign hreached hreached' hfresh hroles rfl hk)
          fun d hd k hk => hroles.keys_listed hreached hfresh.2 hle hd hk
      · use PushServer.answer platform w.connected oldNodes pushAccounts, told_registered hr'
        rw [PushServer.map_accountId_answer, hr'.resolved, PushServer.map_accountId_resolveAll]

/-- What an event does to the store and what it sends is what it does to the registry and what
the registry asks for. -/
theorem Refines.next (h : Refines platform past w r)
    (hreached : Reached platform config oracle past w)
    (hfresh : Admitted (Fresh oracle) (⟨e, w, w.handle platform config oracle e⟩ :: past))
    (hroles : RolesApart platform oracle (⟨e, w, w.handle platform config oracle e⟩ :: past)) :
  Refines platform (⟨e, w, w.handle platform config oracle e⟩ :: past)
      (w.handle platform config oracle e) (r.next e)
    ∧ r.Answers platform ⟨e, w, w.handle platform config oracle e⟩
  := by
  have hmove := handle_move platform config oracle w hreached.typed e
  have hcons := h.cons hreached hfresh.2 hmove.created.1 hroles
  have hother : WnsEffect (MaySend config w.contents e) w (w.handle platform config oracle e) →
      Refines platform (⟨e, w, w.handle platform config oracle e⟩ :: past)
        (w.handle platform config oracle e) r
      ∧ ∀ d, told ⟨e, w, w.handle platform config oracle e⟩ d = none := by
    intro heffect
    use ?_, told_of_effect heffect
    apply hcons.other heffect hroles.token
    intro d hd k hk
    obtain ⟨accountId, -, hkey⟩ :=
      hroles.keys_listed hreached hfresh.2 hmove.created.1 hd hk
    exact ⟨accountId, hkey⟩
  cases e with
  | received m valid =>
      have hunsupported : PushServer.handleMessage platform config m
          = ClientSslSession.respondWithError "Unsupported message type." →
          Refines platform
              (⟨.received m valid, w, w.handle platform config oracle (.received m valid)⟩ :: past)
              (w.handle platform config oracle (.received m valid)) r
            ∧ outputs ⟨.received m valid, w, w.handle platform config oracle (.received m valid)⟩
              = [.reply (.errorResponse (.ofError "Unsupported message type."))] := by
        intro hm
        use (hother (effect_unsupported platform config hm)).1
        exact outputs_eq (congrArg World.log (handle_unsupported hm))
      cases m with
      | setChannelUri m =>
          apply hcons.next_setChannelUri rfl
            (hroles.notString hreached hfresh.2 (named_cons rfl))
          intro d hd k hk
          obtain ⟨accountId, hlisted, rfl⟩ :=
            hroles.keys_listed hreached hfresh.2 hmove.created.1 hd hk
          exact (hroles.key _ (named_cons rfl) _ _ hlisted).symm
      | setPushAccounts m => exact hcons.next_setPushAccounts rfl hreached hfresh hroles
      | requestTestPush m =>
          constructor
          · apply And.left
            apply hother
            apply effect_processMessage
            apply effect_sendTestPush
          · exact hcons.next_requestTestPush rfl
              (hroles.notString hreached hfresh.2 (named_cons rfl))
      | successResponse m => exact hunsupported rfl
      | successSetPushAccounts m => exact hunsupported rfl
      | errorResponse m => exact hunsupported rfl
  | stanza s => exact hother (effect_onStanza platform config s)
  | checkSetupWns => exact hother (effect_checkSetupWns platform config)
  | start => exact hother (effect_loadTokenFromDb config)
  | connection up =>
      constructor
      · exact hcons.of_eq rfl (fun d _ => rfl) fun d _ k _ => rfl
      · exact fun d => told_of_log_eq rfl d
  | advance dt => exact ⟨hcons.advance dt, fun d => told_of_log_eq rfl d⟩

end

/-- In every run whose names are new and whose keys have one role each, the store refines the
registry that follows the events of the run, and whatever is sent for an event is what the
registry before it asks for. -/
theorem Reached.registry {platform : Platform} {config : Configuration} {oracle : Oracle}
    {past : History} {w : World} (h : Reached platform config oracle past w)
    (hfresh : Admitted (Fresh oracle) past) (hroles : RolesApart platform oracle past) :
  ∃ clock, Refines platform past w (Registry.after clock past)
    ∧ Admitted (fun older t => (Registry.after clock older).Answers platform t) past
  := by
  induction h with
  | @start w hw =>
      use w.redis.clock
      constructor
      · constructor
        · rfl
        · intro d hd
          rfl
        · rintro d ⟨t, ht, -⟩
          cases ht
        · rintro d ⟨t, ht, -⟩
          cases ht
      · trivial
  | @next past w h e ih =>
      obtain ⟨clock, hrefines, hanswers⟩ := ih hfresh.2 hroles.of_cons
      obtain ⟨hnext, hanswer⟩ := hrefines.next h hfresh hroles
      exact ⟨clock, hnext, hanswer, hanswers⟩

/-- A device registers an account, is forgotten, and registers the account again. -/
def Sample.forgotten : List Event :=
  registration ++ [.advance (30 * 7 * 24 * 60 * 60 * 10 ^ 9),
    setPushAccounts "phone" ["alice"] phone_alice]

/-- The run in which a device is forgotten follows its registry. -/
theorem registry_forgotten :
  ∃ clock, Refines Sample.platform (Sample.run Sample.forgotten).1
      (Sample.run Sample.forgotten).2 (Registry.after clock (Sample.run Sample.forgotten).1)
    ∧ Admitted (fun older t => (Registry.after clock older).Answers Sample.platform t)
      (Sample.run Sample.forgotten).1
  := by
  obtain ⟨hfresh, hroles⟩ :
      Admitted (Fresh Sample.oracle) (Sample.run Sample.forgotten).1
        ∧ RolesApart Sample.platform Sample.oracle (Sample.run Sample.forgotten).1 := by
    decide +kernel
  exact (Sample.reached_run Sample.forgotten).registry hfresh hroles

end UwpxPush
