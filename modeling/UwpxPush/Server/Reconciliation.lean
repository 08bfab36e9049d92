import UwpxPush.Server.PubSub

/-!
# The nodes of one registration

What one request to set the accounts of a device does with its nodes, for any store.  The old
nodes that the answer does not have are deleted, those of the answer that are not old are set
up, and the containers that hold both may be visited in any order: the store and the answer
are the same.
-/

namespace UwpxPush

open KeyValue

namespace PushServer

/-- The part of `set_push_accounts` after the loop over the account ids, when the nodes are
visited in the given orders. -/
def registerIn (platform : Platform) (config : Configuration)
    (deviceId channelUri version : String) (deleteNodes : List String)
    (addNodes : List (String × Nat)) (pushAccounts : List PushAccount) : Server Unit := do
  deleteNodes.forM XmppClient.deletePushNode
  let pushAccounts ← addNodes.foldlM setupAccount pushAccounts
  RedisClient.setPushAccounts platform deviceId channelUri version pushAccounts
  ClientSslSession.reply (.successSetPushAccounts (.ofFields pushAccounts config.xmpp.bareJid))

/-- What is sent when the nodes are visited in the given orders. -/
def sentIn (connected : Bool) (deleteNodes : List String) (addNodes : List (String × Nat))
    (m : Message) : List Output :=
  sent connected deleteOutputs deleteNodes
    ++ sent connected setupOutputs (addNodes.map Prod.fst) ++ [.reply m]

/-- The nodes that are deleted and those that are set up are what makes the old nodes into
those of the answer, which has the account ids that were asked for. -/
structure Reconciles (oldNodes accounts deleteNodes : List String)
    (addNodes : List (String × Nat)) (answer : List PushAccount) : Prop where
  accountIds : answer.map PushAccount.accountId = accounts
  delete_nodup : deleteNodes.Nodup
  mem_delete : ∀ node,
    node ∈ deleteNodes ↔ node ∈ oldNodes ∧ node ∉ answer.map PushAccount.node
  add_once : ∀ node ∈ answer.map PushAccount.node, node ∉ oldNodes →
    (addNodes.map Prod.fst).count node = 1
  kept : ∀ node ∈ answer.map PushAccount.node, node ∉ deleteNodes

/-- A request of a device with a channel URI and old nodes is a registration that makes the old
nodes into those of the answer, and every order of the nodes gives the same store and the same
answer. -/
def Reconciled (platform : Platform) (config : Configuration) (oracle : Oracle)
    (deviceId version channelUri : String) (accounts oldNodes : List String) (w : World) : Prop :=
  let w₁ : World := { w with created := w.created + accounts.length }
  ∃ deleteNodes addNodes pushAccounts answer redis,
    Reconciles oldNodes accounts deleteNodes addNodes answer
      ∧ Server.run oracle (setPushAccounts platform config deviceId version accounts) w
        = Server.run oracle (registerIn platform config deviceId channelUri version deleteNodes
          addNodes pushAccounts) w₁
      ∧ ∀ deleteNodes' addNodes', deleteNodes'.Perm deleteNodes → addNodes'.Perm addNodes →
        Server.run oracle (registerIn platform config deviceId channelUri version deleteNodes'
            addNodes' pushAccounts) w₁
          = (.ok (), { w₁ with
              redis
              log := w.log ++ sentIn w.connected deleteNodes' addNodes'
                (.successSetPushAccounts (.ofFields answer config.xmpp.bareJid)) })

variable {platform : Platform} {config : Configuration} {oracle : Oracle}

theorem register_eq (deviceId channelUri version : String) (pending : Pending) :
  register platform config deviceId channelUri version pending
    = registerIn platform config deviceId channelUri version
      (platform.order pending.deleteNodes) (platform.order pending.addNodes) pending.pushAccounts
  := rfl

/-- The order in which flags are set does not matter. -/
theorem setFlags_perm {added added' : List (String × Nat)} (h : added.Perm added')
    (success : Bool) (accounts : List PushAccount) :
  setFlags success added accounts = setFlags success added' accounts
  := by
  have hmem : ∀ j, j ∈ added.map Prod.snd ↔ j ∈ added'.map Prod.snd := by
    intro j
    apply (h.map Prod.snd).mem_iff
  apply List.ext_getElem?
  intro j
  simp only [getElem?_setFlags, hmem]

/-- The nodes that the loop over the account ids collects, in any orders. -/
theorem reconciles_collected {oldNodes deleteNodes : List String}
    {addNodes : List (String × Nat)} {accounts : List PushAccount} (connected : Bool)
    (hdelete : deleteNodes.Perm (collected oldNodes accounts).deleteNodes)
    (hadd : addNodes.Perm (collected oldNodes accounts).addNodes) :
  Reconciles oldNodes (accounts.map PushAccount.accountId) deleteNodes addNodes
    (setFlags connected addNodes accounts)
  := by
  have hnodes : (setFlags connected addNodes accounts).map PushAccount.node
      = accounts.map PushAccount.node :=
    map_setFlags _ _ _ fun _ _ => rfl
  have hmem : ∀ node, node ∈ deleteNodes
      ↔ node ∈ oldNodes ∧ node ∉ (setFlags connected addNodes accounts).map PushAccount.node := by
    intro node
    rw [hdelete.mem_iff, mem_deleteNodes, hnodes, List.mem_map]
    simp only [not_exists, not_and, ne_eq]
  constructor
  · apply map_setFlags
    intro a success
    rfl
  · apply hdelete.nodup_iff.mpr nodup_deleteNodes
  · apply hmem
  · intro node hnode hold
    rw [hnodes, List.mem_map] at hnode
    rw [(hadd.map Prod.fst).count_eq]
    apply List.count_eq_one_of_mem nodup_addNodes
    apply mem_map_addNodes hnode hold
  · intro node hnode hdeleted
    exact ((hmem node).mp hdeleted).2 hnode

/-- In every order of the nodes a command of the rest of the request throws, or in every order
it returns with the same store and the same answer. -/
theorem run_registerIn (deviceId channelUri version : String) (w : World)
    (addNodes : List (String × Nat)) (pushAccounts : List PushAccount) :
  (∀ deleteNodes addNodes', addNodes'.Perm addNodes →
      (Server.run oracle (registerIn platform config deviceId channelUri version deleteNodes
        addNodes' pushAccounts) w).1 = .error wrongType)
    ∨ ∃ redis, ∀ deleteNodes addNodes', addNodes'.Perm addNodes →
      Server.run oracle (registerIn platform config deviceId channelUri version deleteNodes
          addNodes' pushAccounts) w
        = (.ok (), { w with
            redis
            log := w.log ++ sentIn w.connected deleteNodes addNodes'
              (.successSetPushAccounts
                (.ofFields (setFlags w.connected addNodes pushAccounts) config.xmpp.bareJid)) })
  := by
  have hcommands := commands_setPushAccounts platform deviceId channelUri version
    (setFlags w.connected addNodes pushAccounts)
  obtain ⟨f, hf⟩ := run_of_redis oracle hcommands.calls
  rcases hr : f w.redis with ⟨e | _, redis⟩
  · have hrun := hf w
    rw [hr] at hrun
    cases run_straight_error hcommands hrun
    apply Or.inl
    intro deleteNodes addNodes' hperm
    rw [registerIn, Server.run, Program.run_bind_ok _ (run_forM_deletePushNode _ w),
      Program.run_bind_ok _ (run_foldlM_setupAccount _ _ _), setFlags_perm hperm,
      Program.run_bind_error _ ((hf _).trans (by rw [hr]))]
  · apply Or.inr
    use redis
    intro deleteNodes addNodes' hperm
    rw [registerIn, Server.run, Program.run_bind_ok _ (run_forM_deletePushNode _ w),
      Program.run_bind_ok _ (run_foldlM_setupAccount _ _ _), setFlags_perm hperm,
      Program.run_bind_ok _ ((hf _).trans (by rw [hr])), ← Server.run, run_reply]
    simp only [World.tell, sentIn, List.append_assoc]

/-! ### The request -/

variable {deviceId version channelUri : String} {accounts oldNodes : List String} {w : World}

/-- For a device with a channel URI, whose nodes are found, a request that meets no exception
of a command collects the nodes to delete and to add, and registers the accounts. -/
theorem run_setPushAccounts_collected
    (huri : (Server.run oracle (RedisClient.getChannelUri deviceId) w).1 = .ok (some channelUri))
    (hold : (Server.run oracle (RedisClient.getPushNodes platform deviceId) w).1 = .ok oldNodes)
    (hthrow : (Server.run oracle (setPushAccounts platform config deviceId version accounts) w).1
      ≠ .error wrongType) :
  Server.run oracle (setPushAccounts platform config deviceId version accounts) w
    = Server.run oracle
      (register platform config deviceId channelUri version
        (collected oldNodes (resolveAll platform oracle w.contents deviceId w.created accounts)))
      { w with created := w.created + accounts.length }
  := by
  have huri' : Server.run oracle (RedisClient.getChannelUri deviceId) w
      = (.ok (some channelUri), w) :=
    Prod.ext huri (run_of_reading oracle (reading_getChannelUri deviceId) w)
  have hold' : Server.run oracle (RedisClient.getPushNodes platform deviceId) w
      = (.ok oldNodes, w) :=
    Prod.ext hold (run_of_reading oracle (reading_getPushNodes deviceId) w)
  rw [setPushAccounts, Server.run, Program.run_bind_ok _ huri'] at hthrow ⊢
  simp only [Program.run_bind_ok _ hold'] at hthrow ⊢
  rcases run_collect deviceId { pushAccounts := [], deleteNodes := oldNodes.dedup, addNodes := [] }
      accounts w with ⟨e, k, -, hcollect⟩ | hcollect
  · have he := run_straight_error (straight_collect deviceId _ accounts) hcollect
    rw [Program.run_bind_error _ hcollect, he] at hthrow
    exact (hthrow rfl).elim
  · rw [Program.run_bind_ok _ hcollect]
    rfl

end PushServer

open PushServer

/-- One registration, for any store: when the device has a channel URI, its nodes are found and
no command throws, the answer has the account ids that were asked for in their order, the nodes
that are deleted are the old ones that the answer does not have, each once, and every node of the
answer that is not old is set up exactly once.  The containers of both may be visited in any
order without a change of the store or of the answer. -/
theorem setPushAccounts_reconciles {platform : Platform} {config : Configuration}
    {oracle : Oracle} {deviceId version channelUri : String} {accounts oldNodes : List String}
    {w : World}
    (huri : (Server.run oracle (RedisClient.getChannelUri deviceId) w).1 = .ok (some channelUri))
    (hold : (Server.run oracle (RedisClient.getPushNodes platform deviceId) w).1 = .ok oldNodes)
    (hthrow : (Server.run oracle
      (PushServer.setPushAccounts platform config deviceId version accounts) w).1
      ≠ .error wrongType) :
  Reconciled platform config oracle deviceId version channelUri accounts oldNodes w
  := by
  let pushAccounts := resolveAll platform oracle w.contents deviceId w.created accounts
  let pending := collected oldNodes pushAccounts
  have hrun := run_setPushAccounts_collected huri hold hthrow
  rw [register_eq, pushAccounts_collected] at hrun
  have hreconciles := reconciles_collected w.connected
    (platform.order_perm pending.deleteNodes) (platform.order_perm pending.addNodes)
  rw [map_accountId_resolveAll] at hreconciles
  refine ⟨platform.order pending.deleteNodes, platform.order pending.addNodes, pushAccounts,
    setFlags w.connected (platform.order pending.addNodes) pushAccounts, ?_⟩
  rcases run_registerIn deviceId channelUri version
      { w with created := w.created + accounts.length } (platform.order pending.addNodes)
      pushAccounts with herror | ⟨redis, hany⟩
  · rw [hrun] at hthrow
    exact (hthrow (herror _ _ (.refl _))).elim
  · use redis, hreconciles, hrun
    intro deleteNodes' addNodes' _ hadd
    apply hany deleteNodes' addNodes' hadd

/-- A device with an account registers it again, and another one. -/
theorem setPushAccounts_reconciles_registration :
  Reconciled Sample.platform Sample.config Sample.oracle "phone" "1" Sample.channelUri
    ["alice", "bob"] [Sample.oracle.node 0] (Sample.run Sample.registration).2
  := by
  apply setPushAccounts_reconciles
  · decide +kernel
  · decide +kernel
  · decide +kernel

end UwpxPush
