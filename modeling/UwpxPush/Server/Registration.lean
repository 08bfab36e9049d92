import UwpxPush.Server.Pending
import UwpxPush.Storage.Commands

/-!
# Registrations

What `set_push_accounts` does to the world.  It is refused, which leaves the store alone, or
it registers the accounts: each is given the node and the secret it had, where they can be
reused, and the next ones drawn otherwise; the PubSub nodes are deleted and set up when the
connection is up; and the store gets the contents of `Contents.setPushAccounts`.
-/

namespace UwpxPush

open KeyValue

namespace PushServer

/-! ### The accounts -/

/-- The account with the `i`-th node and secret. -/
def freshAccount (oracle : Oracle) (i : Nat) (accountId : String) : PushAccount :=
  ⟨accountId, oracle.node i, oracle.secret i, false⟩

/-- The account an account id is given when the `i`-th node and secret are drawn for it. -/
def resolve (platform : Platform) (oracle : Oracle) (c : Contents) (deviceId : String) (i : Nat)
    (accountId : String) : PushAccount :=
  match c.reusable platform deviceId accountId with
  | none => freshAccount oracle i accountId
  | some (node, secret) => ⟨accountId, node, secret, true⟩

/-- The accounts of a list of account ids, for which the draws begin with the `i`-th. -/
def resolveAll (platform : Platform) (oracle : Oracle) (c : Contents) (deviceId : String)
    (i : Nat) (accounts : List String) : List PushAccount :=
  accounts.mapIdx fun j accountId => resolve platform oracle c deviceId (i + j) accountId

section Resolve

variable {platform : Platform} {oracle : Oracle} {c : Contents} {deviceId : String}

@[simp]
theorem accountId_resolve (i : Nat) (accountId : String) :
  (resolve platform oracle c deviceId i accountId).accountId = accountId
  := by
  unfold resolve
  split
  · rfl
  · rfl

theorem resolveAll_cons (i : Nat) (accountId : String) (accounts : List String) :
  resolveAll platform oracle c deviceId i (accountId :: accounts)
    = resolve platform oracle c deviceId i accountId
      :: resolveAll platform oracle c deviceId (i + 1) accounts
  := by
  rw [resolveAll, List.mapIdx_cons]
  congr 1
  apply List.ext_getElem?
  intro j
  simp only [resolveAll, List.getElem?_mapIdx]
  congr 1
  funext a
  rw [Nat.add_comm j 1, Nat.add_assoc]

theorem length_resolveAll (i : Nat) (accounts : List String) :
  (resolveAll platform oracle c deviceId i accounts).length = accounts.length
  := by rw [resolveAll, List.length_mapIdx]

/-- An account of the list is the one its account id is given with its draw. -/
theorem mem_resolveAll {i : Nat} {accounts : List String} {account : PushAccount} :
  account ∈ resolveAll platform oracle c deviceId i accounts
    ↔ ∃ j accountId, accounts[j]? = some accountId
      ∧ account = resolve platform oracle c deviceId (i + j) accountId
  := by
  rw [List.mem_iff_getElem?]
  simp only [resolveAll, List.getElem?_mapIdx, Option.map_eq_some_iff]
  constructor
  · rintro ⟨j, a, ha, rfl⟩
    exact ⟨j, a, ha, rfl⟩
  · rintro ⟨j, a, ha, rfl⟩
    exact ⟨j, a, ha, rfl⟩

theorem map_accountId_resolveAll (i : Nat) (accounts : List String) :
  (resolveAll platform oracle c deviceId i accounts).map PushAccount.accountId = accounts
  := by
  apply List.ext_getElem?
  intro j
  simp [resolveAll, Function.comp_def]

/-- Every node is as long as the nodes that are drawn. -/
theorem length_node_resolveAll (h : c.Typed) {i : Nat} {accounts : List String}
    {account : PushAccount} (ha : account ∈ resolveAll platform oracle c deviceId i accounts) :
  account.node.length = 15
  := by
  obtain ⟨j, a, -, rfl⟩ := mem_resolveAll.mp ha
  unfold resolve
  split
  · apply oracle.length_node
  · next node secret hr =>
      obtain ⟨hn, -⟩ := Contents.reusable_eq_some.mp hr
      obtain ⟨d, hd⟩ := Contents.nodeUnder_eq_some.mp hn
      apply (h _ _ _ hd).2

end Resolve

/-! ### What is sent -/

/-- The requests that delete a node. -/
def deleteOutputs (node : String) : List Output :=
  [.iq (.unsubscribe (cStr node)), .iq (.delete (cStr node))]

/-- The requests that set up a node. -/
def setupOutputs (node : String) : List Output :=
  [.iq (.publishEmpty (cStr node)), .iq (.subscribe (cStr node))]

/-- The PubSub requests for a list of nodes, which are sent when the connection is up. -/
def sent (connected : Bool) (requests : String → List Output) (nodes : List String) :
    List Output :=
  if connected then nodes.flatMap requests else []

/-- The accounts a device is told. -/
def answer (platform : Platform) (connected : Bool) (oldNodes : List String)
    (accounts : List PushAccount) : List PushAccount :=
  setFlags connected (platform.order (collected oldNodes accounts).addNodes) accounts

/-- The accounts a device is told are those registered, but for their flags. -/
theorem mem_answer {platform : Platform} {connected : Bool} {oldNodes : List String}
    {accounts : List PushAccount} {a : PushAccount}
    (ha : a ∈ answer platform connected oldNodes accounts) :
  ∃ b ∈ accounts, a.accountId = b.accountId ∧ a.node = b.node ∧ a.secret = b.secret
  := by
  have hmem := List.mem_map_of_mem (f := fun a => (a.accountId, a.node, a.secret)) ha
  rw [answer, map_setFlags _ _ _ fun a success => rfl, List.mem_map] at hmem
  obtain ⟨b, hb, heq⟩ := hmem
  simp only [Prod.mk.injEq] at heq
  exact ⟨b, hb, heq.1.symm, heq.2.1.symm, heq.2.2.symm⟩

theorem map_node_answer {platform : Platform} {connected : Bool} {oldNodes : List String}
    {accounts : List PushAccount} :
  (answer platform connected oldNodes accounts).map PushAccount.node
    = accounts.map PushAccount.node
  := map_setFlags _ _ _ fun _ _ => rfl

theorem map_accountId_answer {platform : Platform} {connected : Bool} {oldNodes : List String}
    {accounts : List PushAccount} :
  (answer platform connected oldNodes accounts).map PushAccount.accountId
    = accounts.map PushAccount.accountId
  := map_setFlags _ _ _ fun _ _ => rfl

/-- What is sent when accounts are registered: the old nodes that no account has are deleted,
the new nodes are set up, and the device is told its accounts. -/
def registrationOutputs (platform : Platform) (config : Configuration) (connected : Bool)
    (oldNodes : List String) (accounts : List PushAccount) : List Output :=
  sent connected deleteOutputs (platform.order (collected oldNodes accounts).deleteNodes)
    ++ (sent connected setupOutputs
        ((platform.order (collected oldNodes accounts).addNodes).map Prod.fst)
      ++ [.reply (.successSetPushAccounts
        (.ofFields (answer platform connected oldNodes accounts) config.xmpp.bareJid))])

section Runs

variable {platform : Platform} {config : Configuration} {oracle : Oracle}

theorem sent_cons (connected : Bool) (requests : String → List Output) (node : String)
    (nodes : List String) :
  sent connected requests (node :: nodes)
    = sent connected requests [node] ++ sent connected requests nodes
  := by
  unfold sent
  split
  · simp
  · rfl

theorem run_isConnected (w : World) :
  Server.run oracle XmppClient.isConnected w = (.ok w.connected, w)
  := Server.run_invoke oracle w .isConnected

theorem run_send (q : Iq) (w : World) :
  Server.run oracle (XmppClient.send q) w = (.ok (), w.tell (.iq q))
  := Server.run_invoke oracle w (.send q)

theorem run_deletePushNode (node : String) (w : World) :
  Server.run oracle (XmppClient.deletePushNode node) w
    = (.ok (), { w with log := w.log ++ sent w.connected deleteOutputs [node] })
  := by
  rw [XmppClient.deletePushNode, Server.run, Program.run_bind_ok _ (run_isConnected w)]
  obtain ⟨redis, connected, token, created, requests, log⟩ := w
  cases connected with
  | true => simp [Program.run_bind, run_send, World.tell, sent, deleteOutputs]
  | false => simp [sent]

theorem run_forM_deletePushNode (nodes : List String) (w : World) :
  Server.run oracle (nodes.forM XmppClient.deletePushNode) w
    = (.ok (), { w with log := w.log ++ sent w.connected deleteOutputs nodes })
  := by
  induction nodes generalizing w with
  | nil => simp [sent, List.forM]
  | cons node nodes ih =>
      rw [Server.run, Program.run_forM_cons_ok _ (run_deletePushNode node w), ← Server.run, ih,
        sent_cons w.connected deleteOutputs node nodes, List.append_assoc]

theorem run_setupPushNode (node : String) (w : World) :
  Server.run oracle (XmppClient.setupPushNode node) w
    = (.ok w.connected, { w with log := w.log ++ sent w.connected setupOutputs [node] })
  := by
  rw [XmppClient.setupPushNode, Server.run, Program.run_bind_ok _ (run_isConnected w)]
  obtain ⟨redis, connected, token, created, requests, log⟩ := w
  cases connected with
  | true =>
      simp [Program.run_bind, run_send, World.tell, sent, setupOutputs, -bind_pure_comp]
  | false => simp [sent]

theorem run_foldlM_setupAccount (added : List (String × Nat)) (accounts : List PushAccount)
    (w : World) :
  Server.run oracle (added.foldlM setupAccount accounts) w
    = (.ok (setFlags w.connected added accounts),
      { w with log := w.log ++ sent w.connected setupOutputs (added.map Prod.fst) })
  := by
  induction added generalizing accounts w with
  | nil => simp [sent, setFlags]
  | cons n added ih =>
      rw [List.foldlM_cons, Server.run, Program.run_bind, setupAccount,
        Program.run_bind_ok _ (run_setupPushNode n.1 w)]
      simp only [Program.run_pure]
      rw [← Server.run, ih, List.map_cons,
        sent_cons w.connected setupOutputs n.1 (added.map Prod.fst), List.append_assoc]
      rfl

/-- The loop over the accounts draws a node and a secret for each until it fails. -/
theorem run_collect (deviceId : String) (p : Pending) (accounts : List String) (w : World) :
  (∃ e k, k ≤ accounts.length
      ∧ Server.run oracle (accounts.foldlM (collectAccount platform deviceId) p) w
        = (.error e, { w with created := w.created + k }))
    ∨ Server.run oracle (accounts.foldlM (collectAccount platform deviceId) p) w
      = (.ok ((resolveAll platform oracle w.contents deviceId w.created accounts).foldl
          Pending.add p),
        { w with created := w.created + accounts.length })
  := by
  induction accounts generalizing p w with
  | nil => exact .inr rfl
  | cons accountId accounts ih =>
      let w₁ : World := { w with created := w.created + 1 }
      have hcreate : Server.run oracle (createPushAccount accountId) w
          = (.ok (freshAccount oracle w.created accountId), w₁) := by
        rw [createPushAccount, Server.run]
        rfl
      have hstep : (∃ e, Server.run oracle (collectAccount platform deviceId p accountId) w
            = (.error e, w₁))
          ∨ Server.run oracle (collectAccount platform deviceId p accountId) w
            = (.ok (p.add (resolve platform oracle w.contents deviceId w.created accountId)),
              w₁) := by
        rw [collectAccount, Server.run, Program.run_bind_ok _ hcreate]
        have hreading := run_of_reading oracle
          (reading_loadPushAccount platform deviceId
            (freshAccount oracle w.created accountId)) w₁
        rcases hload : Server.run oracle (RedisClient.loadPushAccount platform deviceId
            (freshAccount oracle w.created accountId)) w₁ with ⟨e | account, w'⟩
        · rw [hload] at hreading
          have hw : w' = w₁ := hreading
          rw [hw] at hload
          apply Or.inl
          use e
          apply Program.run_bind_error _ hload
        · obtain ⟨rfl, haccount⟩ := run_loadPushAccount_ok hload
          apply Or.inr
          rw [Program.run_bind_ok _ hload, haccount]
          rfl
      rw [List.foldlM_cons]
      rcases hstep with ⟨e, hstep⟩ | hstep
      · apply Or.inl
        use e, 1
        constructor
        · simp
        · rw [Server.run, Program.run_bind_error _ hstep]
      · rw [Server.run, Program.run_bind_ok _ hstep, resolveAll_cons, List.foldl_cons]
        rcases ih (p.add (resolve platform oracle w.contents deviceId w.created accountId)) w₁
          with ⟨e, k, hk, h⟩ | h
        · apply Or.inl
          use e, k + 1
          constructor
          · simpa using hk
          · rw [← Server.run, h, Nat.add_comm k 1, ← Nat.add_assoc]
        · apply Or.inr
          rw [← Server.run, h, List.length_cons, Nat.add_comm accounts.length 1,
            ← Nat.add_assoc]
          rfl

/-! ### The request -/

/-- A request that left the store alone: it was answered with an error, or it ended the
process.  At most `n` pairs of a node and a secret were drawn for it. -/
structure Refused (n : Nat) (w w' : World) : Prop where
  redis : w'.redis = w.redis
  connected : w'.connected = w.connected
  le_created : w.created ≤ w'.created
  created_le : w'.created ≤ w.created + n
  log : w'.log = w.log
    ∨ ∃ error, w'.log = w.log ++ [.reply (.errorResponse (.ofError error))]

/-- A request that registered the accounts of a device, which had the channel URI
`channelUri` and the PubSub nodes `oldNodes`. -/
structure Registered (platform : Platform) (config : Configuration) (oracle : Oracle)
    (deviceId version : String) (accounts : List String) (w w' : World) (channelUri : String)
    (oldNodes : List String) (pushAccounts : List PushAccount) : Prop where
  head : (w.contents.elements deviceId).head? = some channelUri
  old : ((w.contents.elements deviceId).drop 2).map w.contents.nodeUnder = oldNodes.map some
  resolved : pushAccounts
    = resolveAll platform oracle w.contents deviceId w.created accounts
  contents : w'.contents = w.contents.setPushAccounts platform (w.redis.clock + timeout)
    deviceId channelUri version pushAccounts
  clock : w'.redis.clock = w.redis.clock
  connected : w'.connected = w.connected
  created : w'.created = w.created + accounts.length
  log : w'.log = w.log
    ++ registrationOutputs platform config w.connected oldNodes pushAccounts

theorem run_reply (m : Message) (w : World) :
  Server.run oracle (ClientSslSession.reply m) w = (.ok (), w.tell (.reply m))
  := Server.run_invoke oracle w (.reply m)

/-- A program that only reads changes nothing, also where it fails. -/
theorem run_reading_error {α : Type} {p : Server α} (hp : p.Calls IsReading) {w w' : World}
    {e : Failure} (h : Server.run oracle p w = (.error e, w')) :
  w' = w
  := by
  have hw := run_of_reading oracle hp w
  rw [h] at hw
  apply hw

/-- The flags of accounts are not stored. -/
theorem setPushAccounts_setFlags (deadline : Int) (deviceId channelUri version : String)
    (success : Bool) (added : List (String × Nat)) (accounts : List PushAccount)
    (c : Contents) :
  c.setPushAccounts platform deadline deviceId channelUri version
      (setFlags success added accounts)
    = c.setPushAccounts platform deadline deviceId channelUri version accounts
  := by
  let forget (a : PushAccount) : PushAccount := { a with success := false }
  have hforget : ∀ accounts : List PushAccount,
      c.setPushAccounts platform deadline deviceId channelUri version accounts
        = c.setPushAccounts platform deadline deviceId channelUri version
          (accounts.map forget) := by
    intro accounts
    simp only [Contents.setPushAccounts, List.foldl_map, List.map_map]
    rfl
  rw [hforget, map_setFlags, ← hforget]
  intro a success
  rfl

/-- Registering the accounts that were collected for a device that has a list. -/
theorem run_register {deviceId : String} (channelUri version : String) {oldNodes : List String}
    {pushAccounts : List PushAccount} {w : World} (h : w.contents.Typed)
    (hd : w.contents.elements deviceId ≠ []) (hn : ∀ a ∈ pushAccounts, a.node.length = 15) :
  ∃ redis, Server.run oracle
        (register platform config deviceId channelUri version (collected oldNodes pushAccounts)) w
      = (.ok (), { w with
          redis
          log := w.log
            ++ registrationOutputs platform config w.connected oldNodes pushAccounts })
    ∧ redis.clock = w.redis.clock
    ∧ redis.lookup = w.contents.setPushAccounts platform (w.redis.clock + timeout) deviceId
      channelUri version pushAccounts
  := by
  have hanswer : ∀ a ∈ answer platform w.connected oldNodes pushAccounts,
      a.node.length = 15 := by
    intro a ha
    have hmem : a.node ∈ (answer platform w.connected oldNodes pushAccounts).map
        PushAccount.node :=
      List.mem_map_of_mem ha
    rw [answer, map_setFlags _ _ PushAccount.node (fun _ _ => rfl), List.mem_map] at hmem
    obtain ⟨b, hb, hnode⟩ := hmem
    rw [← hnode]
    apply hn b hb
  let w₁ : World := { w with
    log := w.log
      ++ sent w.connected deleteOutputs
        (platform.order (collected oldNodes pushAccounts).deleteNodes)
      ++ sent w.connected setupOutputs
        ((platform.order (collected oldNodes pushAccounts).addNodes).map Prod.fst) }
  obtain ⟨redis, hset, hclock, hlookup⟩ := run_setPushAccounts
    (w := w₁) channelUri version h hd hanswer
  use redis
  constructor
  · rw [register, Server.run, Program.run_bind_ok _ (run_forM_deletePushNode _ w),
      Program.run_bind_ok _ (run_foldlM_setupAccount _ _ _), pushAccounts_collected,
      ← answer, Program.run_bind_ok _ hset]
    rw [← Server.run, run_reply]
    simp only [World.tell, w₁, registrationOutputs, List.append_assoc]
  · use hclock
    rw [hlookup, answer, setPushAccounts_setFlags]
    rfl

/-- The loop over the accounts throws nothing of its own. -/
theorem straight_collect (deviceId : String) (p : Pending) (accounts : List String) :
  (accounts.foldlM (collectAccount platform deviceId) p).Straight (fun _ => True)
    fun _ => False
  := by
  apply Program.straight_foldlM
  intro p accountId
  apply Program.straight_bind
  · exact Program.straight_bind (Program.straight_invoke trivial) fun _ => trivial
  · intro account
    apply Program.straight_bind
    · exact (commands_loadPushAccount platform deviceId account).mono (fun _ _ => trivial)
        fun _ h => h
    · intro account
      apply Program.straight_pure

/-- A request to set the accounts of a device is refused or registers them.  It is refused
with a response when the device is unknown, and without when a command fails or an account
key of the device holds no node. -/
theorem run_setPushAccounts_cases {deviceId version : String} {accounts : List String}
    {w w' : World} {r : Except Failure Unit} (h : w.contents.Typed)
    (hrun : Server.run oracle (setPushAccounts platform config deviceId version accounts) w
      = (r, w')) :
  Refused accounts.length w w'
      ∧ (r = .ok () ∧ w.contents.elements deviceId = []
        ∨ w'.log = w.log ∧ ∃ e, r = .error e ∧ (e = wrongType ∨ ¬e.IsException
          ∧ ∃ k ∈ (w.contents.elements deviceId).drop 2, w.contents.nodeUnder k = none))
    ∨ r = .ok () ∧ ∃ channelUri oldNodes pushAccounts,
      Registered platform config oracle deviceId version accounts w w' channelUri oldNodes
        pushAccounts
  := by
  rw [setPushAccounts, Server.run] at hrun
  rcases huri : Server.run oracle (RedisClient.getChannelUri deviceId) w
    with ⟨e | _ | channelUri, w₁⟩
  · rw [Program.run_bind_error _ huri] at hrun
    cases hrun
    have he := run_straight_error (commands_getChannelUri deviceId) huri
    cases run_reading_error (reading_getChannelUri deviceId) huri
    exact .inl ⟨⟨rfl, rfl, le_rfl, by omega, .inl rfl⟩, .inr ⟨rfl, e, rfl, .inl he⟩⟩
  · obtain ⟨rfl, hhead, -⟩ := run_getChannelUri_ok huri
    rw [Program.run_bind_ok _ huri] at hrun
    cases hrun
    have hnil := List.head?_eq_none_iff.mp hhead.symm
    exact .inl ⟨⟨rfl, rfl, le_rfl, Nat.le_add_right _ _, .inr ⟨_, rfl⟩⟩, .inl ⟨rfl, hnil⟩⟩
  · obtain ⟨rfl, hhead, -⟩ := run_getChannelUri_ok huri
    have hd : w₁.contents.elements deviceId ≠ [] := by
      intro hnil
      rw [hnil] at hhead
      cases hhead
    rw [Program.run_bind_ok _ huri] at hrun
    rcases hold : Server.run oracle (RedisClient.getPushNodes platform deviceId) w₁
      with ⟨e | oldNodes, w₂⟩
    · simp only [Program.run_bind_error _ hold] at hrun
      cases hrun
      have he := run_getPushNodes_error hold
      cases run_reading_error (reading_getPushNodes deviceId) hold
      exact .inl ⟨⟨rfl, rfl, le_rfl, by omega, .inl rfl⟩, .inr ⟨rfl, e, rfl, he⟩⟩
    · obtain ⟨rfl, hnodes⟩ := run_getPushNodes_ok hold
      simp only [Program.run_bind_ok _ hold] at hrun
      rcases run_collect deviceId
        { pushAccounts := [], deleteNodes := oldNodes.dedup, addNodes := [] } accounts w₂
        with ⟨e, k, hk, hcollect⟩ | hcollect
      · rw [Program.run_bind_error _ hcollect] at hrun
        cases hrun
        have he := run_straight_error (straight_collect deviceId _ accounts) hcollect
        exact .inl ⟨⟨rfl, rfl, by simp, by simpa using hk, .inl rfl⟩,
          .inr ⟨rfl, e, rfl, .inl he⟩⟩
      · rw [Program.run_bind_ok _ hcollect] at hrun
        obtain ⟨redis, hregister, hclock, hlookup⟩ := run_register
          (w := { w₂ with created := w₂.created + accounts.length })
          channelUri version h hd
          (fun a ha => length_node_resolveAll h ha)
        obtain ⟨rfl, rfl⟩ := Prod.mk.inj (hregister.symm.trans hrun)
        apply Or.inr
        use rfl, channelUri, oldNodes,
          resolveAll platform oracle w₂.contents deviceId w₂.created accounts
        exact ⟨hhead.symm, hnodes, rfl, hlookup, hclock, rfl, rfl, rfl⟩

end Runs

end PushServer

end UwpxPush
