import UwpxPush.Server.Forgetting
import UwpxPush.Server.Overlap
import UwpxPush.Server.Views

/-!
# Events and requests of different devices

The XMPP thread handles an event of a node while the TCP thread handles a request of another
device, and their calls take turns.  The request makes Redis commands on the keys of its device
only, and the event on those of another one, so they keep apart: however the calls are
interleaved, the event is delivered and the request is answered as if each were alone.
-/

namespace UwpxPush

open KeyValue Overlap

/-- The records under a node that was drawn for a device are of this device. -/
def RecordsOwn (oracle : Oracle) (past : History) (w : World) : Prop :=
  ∀ i d a, Drawn past i d a → ∃ l : List (String × String),
    w.contents.elements (oracle.node i) = l.flatMap fun x => [x.1, d, x.2]

section

variable {platform : Platform} {config : Configuration} {oracle : Oracle} {past : History}
  {t : Transition Event World} {w w' : World} {e : Event} {d : String} {K : String → Prop}

/-! ### The records of nodes -/

/-- A registration adds records of its device to the nodes of its accounts. -/
theorem records_eq_flatMap (deviceId : String) (accounts : List PushAccount) (node : String) :
  ∃ l : List (String × String),
    Contents.records deviceId accounts node = l.flatMap fun x => [x.1, deviceId, x.2]
  := by
  use (accounts.filter (·.node = node)).map fun a => (a.accountId, a.secret)
  rw [Contents.records, List.flatMap_map]

theorem RecordsOwn.of_eq {past past' : History} (h : RecordsOwn oracle past w)
    (hdrawn : ∀ i d a, Drawn past' i d a → Drawn past i d a)
    (heq : ∀ i d a, Drawn past' i d a → w'.contents.elements (oracle.node i)
        = w.contents.elements (oracle.node i)
      ∨ w'.contents.elements (oracle.node i) = []) :
  RecordsOwn oracle past' w'
  := by
  intro i d a hd
  rcases heq i d a hd with hsame | hnil
  · rw [hsame]
    exact h i d a (hdrawn i d a hd)
  · exact ⟨[], hnil⟩

/-- Before they are drawn, nodes have no records. -/
theorem RecordsOwn.cons (h : RecordsOwn oracle past w)
    (hreached : Reached platform config oracle past w)
    (hfresh : Admitted (Fresh oracle) (⟨e, w, w'⟩ :: past)) :
  RecordsOwn oracle (⟨e, w, w'⟩ :: past) w
  := by
  rintro i d a ⟨t, ht, hdevice, hle, hlt, haccount⟩
  rcases List.mem_cons.mp ht with rfl | ht
  · use []
    exact elements_of_fresh (hreached.owned hfresh.2).2 hfresh.1 rfl hle hlt
  · exact h i d a ⟨t, ht, hdevice, hle, hlt, haccount⟩

theorem RecordsOwn.registered {m : SetPushAccountsMessage}
    {valid : (Message.setPushAccounts m).Valid} {channelUri : String} {oldNodes : List String}
    {pushAccounts : List PushAccount}
    (h : RecordsOwn oracle (⟨.received (.setPushAccounts m) valid, w, w'⟩ :: past) w)
    (hr : PushServer.Registered platform config oracle m.deviceId (toString m.version)
      m.accounts w w' channelUri oldNodes pushAccounts)
    (hreached : Reached platform config oracle past w)
    (hreached' : Reached platform config oracle
      (⟨.received (.setPushAccounts m) valid, w, w'⟩ :: past) w')
    (hfresh : Admitted (Fresh oracle) (⟨.received (.setPushAccounts m) valid, w, w'⟩ :: past))
    (hroles : RolesApart platform oracle
      (⟨.received (.setPushAccounts m) valid, w, w'⟩ :: past)) :
  RecordsOwn oracle (⟨.received (.setPushAccounts m) valid, w, w'⟩ :: past) w'
  := by
  intro i d a hd
  obtain ⟨l, hl⟩ := h i d a hd
  have hne : oracle.node i ≠ m.deviceId :=
    (hroles.ne_node hreached' (named_cons rfl) (hreached'.drawn_lt hd)).symm
  rcases hr.contents_node hreached.typed (oracle.length_node i) hne with
    ⟨⟨b, hb, hnode⟩, hlist⟩ | ⟨-, hframe⟩
  · obtain ⟨-, j, accountId, hdrawn, hj, -⟩ :=
      hroles.account_drawn hr hreached (hreached.owned hfresh.2).1 hb
    obtain rfl := hreached'.node_injective hfresh (hreached'.drawn_lt hd)
      (hreached'.drawn_lt hdrawn) (hnode.symm.trans hj)
    obtain ⟨rfl, -⟩ := hreached'.drawn_unique hd hdrawn
    obtain ⟨l', hl'⟩ := records_eq_flatMap m.deviceId pushAccounts (oracle.node i)
    use l ++ l'
    rw [Contents.elements_of_eq hlist, hl, hl', List.flatMap_append]
  · use l
    rw [Contents.elements_eq_of_apply_eq hframe, hl]

theorem RecordsOwn.move (h : RecordsOwn oracle past w)
    (hmove : Move platform config oracle w e w')
    (hreached : Reached platform config oracle past w)
    (hreached' : Reached platform config oracle (⟨e, w, w'⟩ :: past) w')
    (hfresh : Admitted (Fresh oracle) (⟨e, w, w'⟩ :: past))
    (hroles : RolesApart platform oracle (⟨e, w, w'⟩ :: past)) :
  RecordsOwn oracle (⟨e, w, w'⟩ :: past) w'
  := by
  have hcons := h.cons hreached hfresh
  cases hmove with
  | registered hr => exact hcons.registered hr hreached hreached' hfresh hroles
  | refused hr =>
      apply hcons.of_eq (fun _ _ _ => id)
      intro i d a _
      rw [World.contents, hr.redis]
      exact .inl rfl
  | channelUri uri contents clock connected created log =>
      apply hcons.of_eq (fun _ _ _ => id)
      intro i d a hd
      apply Or.inl
      apply Contents.elements_eq_of_apply_eq
      rw [contents, Contents.setChannelUri]
      apply if_neg
      intro heq
      exact hroles.ne_node hreached' (named_cons rfl) (hreached'.drawn_lt hd) heq.symm
  | other heffect =>
      apply hcons.of_eq (fun _ _ _ => id)
      intro i d a _
      exact .inl (Contents.elements_eq_of_apply_eq (heffect.lookup _ (node_ne_token i)))
  | connection up => exact hcons.of_eq (fun _ _ _ => id) fun i d a _ => .inl rfl
  | advance dt =>
      apply hcons.of_eq (fun _ _ _ => id)
      intro i d a _
      rcases hentry : ({ w with redis := w.redis.advance dt } : World).contents (oracle.node i)
        with _ | entry
      · apply Or.inr
        rw [Contents.elements, hentry]
      · exact .inl (Contents.elements_eq_of_apply_eq
          (hentry.trans (contents_advance hentry).symm))

/-- In every run whose names are new and whose keys have one role each, the records under a node
are of the device for which it was drawn. -/
theorem Reached.recordsOwn (h : Reached platform config oracle past w)
    (hfresh : Admitted (Fresh oracle) past) (hroles : RolesApart platform oracle past) :
  RecordsOwn oracle past w
  := by
  revert hfresh hroles
  apply h.invariant (I := fun past w => Admitted (Fresh oracle) past →
    RolesApart platform oracle past → RecordsOwn oracle past w)
  · rintro w - - - i d a ⟨t, ht, -⟩
    cases ht
  · intro past w e w' hreached hreached' hmove ih hfresh hroles
    exact (ih hfresh.2 hroles.of_cons).move hmove hreached hreached' hfresh hroles

/-- A record of three entries under a node names the device for which the node was drawn. -/
theorem RecordsOwn.device_eq (h : RecordsOwn oracle past w) {i : Nat} {a : String}
    (hdrawn : Drawn past i d a) {accountId deviceId secret : String}
    (hrecord : w.contents.elements (oracle.node i) = [accountId, deviceId, secret]) :
  deviceId = d
  := by
  obtain ⟨l, hl⟩ := h i d a hdrawn
  rw [hl] at hrecord
  rcases l with _ | ⟨x, l⟩
  · cases hrecord
  · rw [List.flatMap_cons, List.cons_append, List.cons_append] at hrecord
    exact (List.cons.inj (List.cons.inj hrecord).2).1.symm

/-! ### The calls of an event -/

section Notifying

variable {k : String} (hk : K k)
include hk

theorem notifying_lrange : (Redis.lrange k).Calls (Call.Notifying K)
  := Program.calls_invoke (.inl hk)

theorem notifying_getOfThree (i : Nat) :
  (RedisClient.getOfThree k i).Calls (Call.Notifying K)
  := by
  apply Program.calls_bind (notifying_lrange hk)
  intro keys
  split
  · apply Program.calls_pure
  · apply Program.calls_pure

theorem notifying_getChannelUri :
  (RedisClient.getChannelUri k).Calls (Call.Notifying K)
  := by
  apply Program.calls_bind (notifying_lrange hk)
  intro keys
  apply Program.calls_pure

theorem notifying_getVersion :
  (RedisClient.getVersion k).Calls (Call.Notifying K)
  := by
  apply Program.calls_bind (notifying_lrange hk)
  intro keys
  split
  · apply Program.calls_pure
  · apply Program.calls_pure

end Notifying

section Wns

variable (hwns : K RedisClient.WNS_TOKEN_KEY)
include hwns

theorem notifying_requestNewToken :
  (WnsClient.requestNewToken platform config).Calls (Call.Notifying K)
  := by
  apply Program.calls_bind
  · exact Program.calls_invoke (.inr (.inr (.inr (.inr (.inl ⟨_, rfl⟩)))))
  · intro response
    split
    · apply Program.calls_pure
    · apply Program.calls_bind
      · apply (calls_fromResponse platform _).mono
        rintro c rfl
        exact .inr (.inl rfl)
      · intro token
        apply Program.calls_bind
        · exact Program.calls_invoke (.inr (.inr (.inr (.inl ⟨_, rfl⟩))))
        · intro _
          cases token with
          | none => apply Program.calls_pure
          | some token =>
              apply Program.calls_bind
              · apply Program.calls_bind (Program.calls_invoke (.inl hwns))
                intro _
                apply Program.calls_bind (Program.calls_invoke (.inl hwns))
                intro _
                apply Program.calls_bind (Program.calls_invoke (.inl hwns))
                intro _
                exact Program.calls_invoke (.inl hwns)
              · intro _
                apply Program.calls_pure

theorem notifying_postAttempts (request : HttpRequest) (attempts : ℕ) :
  (WnsClient.postAttempts platform config request attempts).Calls (Call.Notifying K)
  := by
  have hcode : ∀ statusCode,
      (WnsClient.handleResponseCode platform config statusCode).Calls (Call.Notifying K) := by
    intro statusCode
    unfold WnsClient.handleResponseCode
    split
    · apply Program.calls_pure
    · split
      · apply Program.calls_bind (notifying_requestNewToken hwns)
        intro success
        split
        · apply Program.calls_pure
        · apply Program.calls_pure
      · split
        · apply Program.calls_pure
        · apply Program.calls_pure
  induction attempts with
  | zero => apply Program.calls_pure
  | succ attempts ih =>
      apply Program.calls_bind
      · exact Program.calls_invoke (.inr (.inr (.inr (.inr (.inl ⟨_, rfl⟩)))))
      · intro response
        split
        · exact ih
        · apply Program.calls_bind (hcode _)
          rintro (_ | _ | _)
          · apply Program.calls_pure
          · exact ih
          · apply Program.calls_pure

theorem notifying_notify (channelUri content : String) :
  (notify platform config channelUri content).Calls (Call.Notifying K)
  := by
  apply Program.calls_bind
  · apply Program.calls_bind
    · exact Program.calls_invoke (.inr (.inr (.inr (.inr (.inr ⟨_, _, rfl⟩)))))
    · intro _
      apply Program.calls_bind
      · apply Program.calls_bind
        · apply calls_isTokenValid.mono
          rintro c (rfl | rfl)
          · exact .inr (.inl rfl)
          · exact .inr (.inr (.inl rfl))
        · intro valid
          split
          · apply Program.calls_pure
          · exact notifying_requestNewToken hwns
      · intro ready
        split
        · apply Program.calls_bind
          · exact Program.calls_invoke (.inr (.inr (.inl rfl)))
          · rintro (_ | token)
            · apply Program.calls_throw
            · exact notifying_postAttempts hwns _ _
        · apply Program.calls_pure
  · intro success
    apply Program.calls_pure

variable {node : String} (hnode : K node)
  (hdevice : ∀ a deviceId s, w.contents.elements node = [a, deviceId, s] → K deviceId)
include hnode hdevice

/-- The channel URI of the device of a node is read under the node and under the device. -/
theorem callsFrom_deliver (content : String) :
  (Overlap.deliver platform config node content).CallsFrom (World.perform oracle)
    (Call.Notifying K) w
  := by
  apply Program.callsFrom_bind
  · apply Program.callsFrom_bind ((notifying_getOfThree hnode 1).callsFrom w)
    rintro (_ | deviceId) w' hrun
    · trivial
    · obtain ⟨rfl, a, s, hrecord⟩ := run_getDeviceId_ok hrun
      exact (notifying_getChannelUri (hdevice a deviceId s hrecord)).callsFrom _
  · rintro (_ | channelUri) w' -
    · trivial
    · exact (notifying_notify hwns channelUri content).callsFrom w'

/-- An event makes Redis commands under its node, under the device of the node, and under the
key of the WNS token. -/
theorem callsFrom_handleEvent (notification : Stanza) :
  (handleEvent platform config node notification).CallsFrom (World.perform oracle)
    (Call.Notifying K) w
  := by
  apply Program.callsFrom_bind ((notifying_getOfThree hnode 0).callsFrom w)
  rintro (_ | accountId) w₁ hrun
  · trivial
  · obtain ⟨rfl, -⟩ := run_getOfThree_ok hrun
    apply Program.callsFrom_bind
    · apply Program.callsFrom_bind ((notifying_getOfThree hnode 1).callsFrom _)
      rintro (_ | deviceId) w₂ hrun₂
      · trivial
      · obtain ⟨rfl, a, s, hrecord⟩ := run_getDeviceId_ok hrun₂
        exact (notifying_getVersion (hdevice a deviceId s hrecord)).callsFrom _
    · intro version w₂ hrun₂
      obtain rfl : w₂ = w₁ := by
        have hread := run_of_reading oracle (reading_versionOfNode node) w₁
        rw [Server.run, hrun₂] at hread
        exact hread
      change (Overlap.dispatch platform config node accountId notification version).CallsFrom _ _ _
      rcases hcontent : eventContent platform version accountId notification with _ | content
      · exact (Program.calls_of_step_none
          (Overlap.step_dispatch_none hcontent oracle w₂)).callsFrom w₂
      · rw [Overlap.dispatch_eq_deliver hcontent]
        exact callsFrom_deliver hwns hnode hdevice content

end Wns

/-! ### The calls of a registration -/

theorem Call.Registering.of_pubSub {c : Call} (h : c.PubSub) :
  c.Registering K
  := .inr (.inr (.inl h))

theorem registering_reply (m : Message) :
  (ClientSslSession.reply m).Calls (Call.Registering K)
  := Program.calls_invoke (.inr (.inr (.inr ⟨m, rfl⟩)))

section Registering

variable {k : String} (hk : K k)
include hk

theorem registering_lrange : (Redis.lrange k).Calls (Call.Registering K)
  := Program.calls_invoke (.inl hk)

theorem registering_get : (Redis.get k).Calls (Call.Registering K)
  := Program.calls_invoke (.inl hk)

theorem registering_del : (Redis.del k).Calls (Call.Registering K)
  := Program.calls_invoke (.inl hk)

theorem registering_append (l : List String) :
  (RedisClient.append k l).Calls (Call.Registering K)
  := by
  apply Program.calls_bind (Program.calls_invoke (.inl hk))
  intro _
  exact Program.calls_invoke (.inl hk)

theorem registering_del_append (l : List String) :
  (do
    Redis.del k
    RedisClient.append k l).Calls (Call.Registering K)
  := by
  apply Program.calls_bind (Program.calls_invoke (.inl hk))
  intro _
  exact registering_append hk l

theorem registering_getChannelUri :
  (RedisClient.getChannelUri k).Calls (Call.Registering K)
  := by
  apply Program.calls_bind (registering_lrange hk)
  intro keys
  apply Program.calls_pure

/-- A new channel URI is written under the device. -/
theorem registering_setChannelUri (channelUri : String) :
  (PushServer.setChannelUri k channelUri).Calls (Call.Registering K)
  := by
  unfold PushServer.setChannelUri
  split
  · apply Program.calls_bind
    · apply Program.calls_bind (registering_lrange hk)
      intro keys
      split
      · exact registering_append hk _
      · exact registering_del_append hk _
    · intro _
      exact registering_reply _
  · exact registering_reply _

/-- An account key is deleted, but never its node. -/
theorem callsFrom_deleteAccount :
  (RedisClient.deleteAccount k).CallsFrom (World.perform oracle) (Call.Registering K) w
  := by
  apply Program.callsFrom_bind ((registering_del hk).callsFrom w)
  intro _ w₁ hdel
  obtain rfl : { w with redis := w.redis.del k } = w₁ := congrArg Prod.snd hdel
  apply Program.callsFrom_bind ((registering_get hk).callsFrom _)
  rintro (_ | node) w₂ hget
  · trivial
  · obtain ⟨-, hnode⟩ := run_get_ok hget
    obtain ⟨deadline, hstring⟩ := Contents.nodeUnder_eq_some.mp hnode.symm
    cases hstring.symm.trans ((Store.lookup_del _ _ _).trans (if_pos rfl))

theorem callsFrom_removeDevice
    (hkeys : ∀ key ∈ (w.contents.elements k).drop 2, K key) :
  (RedisClient.removeDevice k).CallsFrom (World.perform oracle) (Call.Registering K) w
  := by
  apply Program.callsFrom_bind ((registering_lrange hk).callsFrom w)
  intro keys w₁ hrange
  obtain ⟨rfl, rfl, -⟩ := run_lrange_ok hrange
  split
  · trivial
  · apply Program.callsFrom_bind
    · apply Program.callsFrom_forM (I := fun _ => True) _ trivial
      intro key hkey w _
      exact ⟨callsFrom_deleteAccount (hkeys key hkey), fun _ _ _ => trivial⟩
    · intro _ w₂ _
      exact (registering_del hk).callsFrom w₂

/-- The accounts of a device are replaced under the device, its account keys and their nodes. -/
theorem callsFrom_replaceAccounts (hkeys : ∀ key ∈ (w.contents.elements k).drop 2, K key)
    {accounts : List PushAccount} (channelUri version : String)
    (haccounts : ∀ a ∈ accounts, K (RedisClient.genAccount platform k a.accountId) ∧ K a.node) :
  (RedisClient.setPushAccounts platform k channelUri version accounts).CallsFrom
    (World.perform oracle) (Call.Registering K) w
  := by
  apply Program.callsFrom_bind (callsFrom_removeDevice hk hkeys)
  intro _ w₁ _
  apply Program.Calls.callsFrom
  apply Program.calls_bind
  · apply Program.calls_forM
    intro a ha
    obtain ⟨hkey, hnode⟩ := haccounts a ha
    apply Program.calls_bind (Program.calls_invoke (.inl hkey))
    intro _
    apply Program.calls_bind (Program.calls_invoke (.inl hkey))
    intro _
    exact registering_append hnode _
  · intro _
    exact registering_del_append hk _

/-- The nodes of a device are read under the device and its account keys. -/
theorem callsFrom_getPushNodes (hkeys : ∀ key ∈ (w.contents.elements k).drop 2, K key) :
  (RedisClient.getPushNodes platform k).CallsFrom (World.perform oracle) (Call.Registering K) w
  := by
  apply Program.callsFrom_bind ((registering_lrange hk).callsFrom w)
  intro keys w₁ hrange
  obtain ⟨rfl, rfl, -⟩ := run_lrange_ok hrange
  apply Program.Calls.callsFrom
  generalize (w₁.contents.elements k).drop 2 = keys at hkeys
  induction keys with
  | nil => apply Program.calls_pure
  | cons key keys ih =>
      rw [List.mapM_cons]
      apply Program.calls_bind
      · apply Program.calls_bind (registering_get (hkeys key List.mem_cons_self))
        rintro (_ | node)
        · apply Program.calls_throw
        · apply Program.calls_pure
      · intro node
        apply Program.calls_bind
        · apply ih
          intro key hkey
          exact hkeys key (List.mem_cons_of_mem _ hkey)
        · intro nodes
          apply Program.calls_pure

end Registering

/-- A node is looked for under an account key, and its secret under the node. -/
theorem callsFrom_loadPushAccount {account : PushAccount}
    (hkey : K (RedisClient.genAccount platform d account.accountId))
    (hnode : ∀ node, w.contents.nodeUnder (RedisClient.genAccount platform d account.accountId)
      = some node → K node) :
  (RedisClient.loadPushAccount platform d account).CallsFrom (World.perform oracle)
    (Call.Registering K) w
  := by
  apply Program.callsFrom_bind ((registering_get hkey).callsFrom w)
  rintro (_ | node) w₁ hget
  · trivial
  · obtain ⟨rfl, heq⟩ := run_get_ok hget
    apply Program.Calls.callsFrom
    apply Program.calls_bind
    · apply Program.calls_bind (registering_lrange (hnode node heq.symm))
      intro keys
      split
      · apply Program.calls_pure
      · apply Program.calls_pure
    · rintro (_ | secret)
      · apply Program.calls_pure
      · apply Program.calls_pure

/-- The loop over the accounts draws names, and reads what is stored for each account. -/
theorem callsFrom_collect {accounts : List String} (p : PushServer.Pending)
    (haccounts : ∀ a ∈ accounts, K (RedisClient.genAccount platform d a) ∧
      ∀ node, w.contents.nodeUnder (RedisClient.genAccount platform d a) = some node → K node) :
  (accounts.foldlM (PushServer.collectAccount platform d) p).CallsFrom (World.perform oracle)
    (Call.Registering K) w
  := by
  apply Program.callsFrom_foldlM (I := fun s => s.contents = w.contents) p _ rfl
  intro p a ha s hs
  obtain ⟨hkey, hnode⟩ := haccounts a ha
  have hcreate : ∀ account s', Server.run oracle (PushServer.createPushAccount a) s
      = (.ok account, s') → account.accountId = a ∧ s'.contents = w.contents := by
    intro account s' hrun
    rw [PushServer.createPushAccount, Server.run] at hrun
    cases hrun
    exact ⟨rfl, hs⟩
  have hload : ∀ (account : PushAccount) s', s'.contents = w.contents → account.accountId = a →
      (RedisClient.loadPushAccount platform d account).CallsFrom (World.perform oracle)
        (Call.Registering K) s' := by
    rintro account s' hs' rfl
    apply callsFrom_loadPushAccount hkey
    rw [hs']
    exact hnode
  constructor
  · apply Program.callsFrom_bind
    · exact ⟨.inr (.inl rfl), trivial⟩
    · intro account s₁ hrun
      obtain ⟨haccount, hs₁⟩ := hcreate account s₁ hrun
      apply Program.callsFrom_bind (hload account s₁ hs₁ haccount)
      intro account s₂ _
      trivial
  · intro p' s' hrun
    obtain ⟨account, s₁, hrun₁, hrest⟩ := Program.run_bind_eq_ok _ hrun
    obtain ⟨-, hs₁⟩ := hcreate account s₁ hrun₁
    obtain ⟨account', s₂, hrun₂, hpure⟩ := Program.run_bind_eq_ok _ hrest
    obtain ⟨rfl, -⟩ := run_loadPushAccount_ok hrun₂
    cases hpure
    exact hs₁

/-- The accounts that were collected are registered under the device, its account keys and
their nodes. -/
theorem callsFrom_register (hk : K d) (hkeys : ∀ key ∈ (w.contents.elements d).drop 2, K key)
    (channelUri version : String) (oldNodes : List String) {pushAccounts : List PushAccount}
    (haccounts : ∀ a ∈ pushAccounts,
      K (RedisClient.genAccount platform d a.accountId) ∧ K a.node) :
  (PushServer.register platform config d channelUri version
    (PushServer.collected oldNodes pushAccounts)).CallsFrom (World.perform oracle)
    (Call.Registering K) w
  := by
  have hdelete (node : String) : (XmppClient.deletePushNode node).Calls (Call.Registering K) :=
    (calls_deletePushNode node).mono fun _ => Call.Registering.of_pubSub
  have hsetup (l : List PushAccount) (node : String × ℕ) :
      (PushServer.setupAccount l node).Calls (Call.Registering K) :=
    (calls_setupAccount l node).mono fun _ => Call.Registering.of_pubSub
  apply Program.callsFrom_bind
  · exact (Program.calls_forM fun node _ => hdelete node).callsFrom w
  · intro u w₁ hrun₁
    have hw₁ : w₁.contents = w.contents := by
      rw [(Prod.mk.inj (hrun₁.symm.trans (PushServer.run_forM_deletePushNode _ w))).2]
      rfl
    apply Program.callsFrom_bind
    · exact (Program.calls_foldlM _ fun l node _ => hsetup l node).callsFrom w₁
    · intro accounts w₂ hrun₂
      rw [PushServer.pushAccounts_collected] at hrun₂
      obtain ⟨haccounts₂, hw₂⟩ :=
        Prod.mk.inj (hrun₂.symm.trans (PushServer.run_foldlM_setupAccount _ _ w₁))
      cases haccounts₂
      apply Program.callsFrom_bind
      · apply callsFrom_replaceAccounts hk
        · rw [hw₂]
          exact hw₁ ▸ hkeys
        · intro a ha
          obtain ⟨b, hb, hid, hnode, -⟩ := PushServer.mem_answer ha
          rw [hid, hnode]
          exact haccounts b hb
      · intro _ w₃ _
        exact (registering_reply _).callsFrom w₃

/-- The account keys in the list of a device are of the device. -/
theorem RolesApart.belongsTo_listed (hroles : RolesApart platform oracle (⟨e, w, w'⟩ :: past))
    (h : Reached platform config oracle past w) (hfresh : Admitted (Fresh oracle) past)
    (hle : w.created ≤ w'.created) (hd : e.deviceId = some d) :
  ∀ key ∈ (w.contents.elements d).drop 2,
    BelongsTo platform oracle (⟨e, w, w'⟩ :: past) d key
  := by
  intro key hkey
  obtain ⟨a, hlisted, rfl⟩ := hroles.keys_listed h hfresh hle (named_cons hd) hkey
  exact .inr (.inl ⟨a, hlisted, rfl⟩)

/-- The node under an account key of a device is of the device. -/
theorem RolesApart.belongsTo_node (hroles : RolesApart platform oracle (⟨e, w, w'⟩ :: past))
    (h : Reached platform config oracle past w) (hfresh : Admitted (Fresh oracle) past)
    {a : String} (ha : Listed (⟨e, w, w'⟩ :: past) d a) {node : String}
    (hnode : w.contents.nodeUnder (RedisClient.genAccount platform d a) = some node) :
  BelongsTo platform oracle (⟨e, w, w'⟩ :: past) d node
  := by
  obtain ⟨deadline, hstring⟩ := Contents.nodeUnder_eq_some.mp hnode
  obtain ⟨i, d', a', howned⟩ := (h.owned hfresh).1 _ _ _ hstring
  obtain rfl := hroles.apart _ _ _ _ ha howned.drawn.cons.listed howned.key_eq
  exact .inr (.inr ⟨i, a', howned.drawn.cons, howned.node_eq⟩)

/-- The account keys and the nodes that a device is told are of the device. -/
theorem RolesApart.belongsTo_registered {m : SetPushAccountsMessage}
    {valid : (Message.setPushAccounts m).Valid} {version channelUri : String}
    {oldNodes : List String} {pushAccounts : List PushAccount}
    (hroles : RolesApart platform oracle (⟨.received (.setPushAccounts m) valid, w, w'⟩ :: past))
    (hr : PushServer.Registered platform config oracle m.deviceId version m.accounts w w'
      channelUri oldNodes pushAccounts)
    (h : Reached platform config oracle past w) (howned : AllOwned platform oracle past w) :
  ∀ a ∈ pushAccounts,
    BelongsTo platform oracle (⟨.received (.setPushAccounts m) valid, w, w'⟩ :: past) m.deviceId
      (RedisClient.genAccount platform m.deviceId a.accountId)
    ∧ BelongsTo platform oracle (⟨.received (.setPushAccounts m) valid, w, w'⟩ :: past)
      m.deviceId a.node
  := by
  intro a ha
  obtain ⟨hid, i, a', hdrawn, hnode, -⟩ := hroles.account_drawn hr h howned ha
  constructor
  · exact .inr (.inl ⟨_, listed_cons rfl hid, rfl⟩)
  · exact .inr (.inr ⟨i, a', hdrawn, hnode⟩)

/-- The message registers a channel URI or accounts for the device. -/
inductive Message.Registers (deviceId : String) : Message → Prop where
  | setChannelUri {m : SetChannelUriMessage} (h : m.deviceId = deviceId) :
      Registers deviceId (.setChannelUri m)
  | setPushAccounts {m : SetPushAccountsMessage} (h : m.deviceId = deviceId) :
      Registers deviceId (.setPushAccounts m)

section Request

variable {m : SetPushAccountsMessage} {valid : (Message.setPushAccounts m).Valid}

/-- A request for the accounts of a device is about the keys of the device. -/
theorem callsFrom_setPushAccounts (h : Reached platform config oracle past w)
    (ht : t = ⟨.received (.setPushAccounts m) valid, w,
      w.handle platform config oracle (.received (.setPushAccounts m) valid)⟩)
    (hfresh : Admitted (Fresh oracle) (t :: past))
    (hroles : RolesApart platform oracle (t :: past)) :
  (PushServer.setPushAccounts platform config m.deviceId (toString m.version)
    m.accounts).CallsFrom (World.perform oracle)
    (Call.Registering (BelongsTo platform oracle (t :: past) m.deviceId)) w
  := by
  have hdevice : BelongsTo platform oracle (t :: past) m.deviceId m.deviceId := .inl rfl
  have haccount : ∀ a ∈ m.accounts, BelongsTo platform oracle (t :: past) m.deviceId
      (RedisClient.genAccount platform m.deviceId a) := by
    intro a ha
    rw [ht]
    exact .inr (.inl ⟨a, listed_cons rfl ha, rfl⟩)
  subst ht
  have hmove := handle_move platform config oracle w h.typed (.received (.setPushAccounts m) valid)
  have hle := hmove.created.1
  have hkeys := hroles.belongsTo_listed h hfresh.2 hle rfl
  apply Program.callsFrom_bind ((registering_getChannelUri hdevice).callsFrom w)
  rintro (_ | channelUri) w₁ hrun₁
  · exact (registering_reply _).callsFrom w₁
  · obtain ⟨rfl, hhead, -⟩ := run_getChannelUri_ok hrun₁
    apply Program.callsFrom_bind (callsFrom_getPushNodes hdevice hkeys)
    intro oldNodes w₂ hrun₂
    obtain ⟨rfl, hold⟩ := run_getPushNodes_ok hrun₂
    apply Program.callsFrom_bind
    · apply callsFrom_collect
      intro a ha
      exact ⟨haccount a ha, fun node hnode =>
        hroles.belongsTo_node h hfresh.2 (listed_cons rfl ha) hnode⟩
    · intro pending w₃ hrun₃
      have hne : w₂.contents.elements m.deviceId ≠ [] := by
        intro hnil
        rw [hnil] at hhead
        cases hhead
      have hregistered := (@handle_setPushAccounts_known platform config oracle w₂ m h.typed
        (hroles.readable h hfresh.2 hle) hne).resolve_left (by
          rintro ⟨⟨k, hk, hnone⟩, -⟩
          have hmem := List.mem_map_of_mem (f := w₂.contents.nodeUnder) hk
          rw [hold, hnone] at hmem
          simp at hmem)
      obtain ⟨_, _, pushAccounts, hr⟩ := hregistered
      have haccounts := hroles.belongsTo_registered hr h (h.owned hfresh.2).1
      cases hr.resolved
      rcases PushServer.run_collect m.deviceId
        { pushAccounts := [], deleteNodes := oldNodes.dedup, addNodes := [] } m.accounts w₂
        with ⟨e, k, -, hcollect⟩ | hcollect
      · cases hrun₃.symm.trans hcollect
      · obtain ⟨hpending, hw₃⟩ := Prod.mk.inj (hrun₃.symm.trans hcollect)
        cases hpending
        apply callsFrom_register hdevice _ channelUri _ oldNodes haccounts
        rw [hw₃]
        exact hkeys

end Request

/-- A request that registers something for a device is about the keys of the device. -/
theorem callsFrom_processMessage {m : Message} (hm : m.Registers d) {valid : m.Valid}
    (h : Reached platform config oracle past w)
    (ht : t = ⟨.received m valid, w, w.handle platform config oracle (.received m valid)⟩)
    (hfresh : Admitted (Fresh oracle) (t :: past))
    (hroles : RolesApart platform oracle (t :: past)) :
  (PushServer.processMessage platform config m).CallsFrom (World.perform oracle)
    (Call.Registering (BelongsTo platform oracle (t :: past) d)) w
  := by
  apply Program.callsFrom_tryCatch
  · cases hm with
    | setChannelUri hd => exact (registering_setChannelUri (.inl hd) _).callsFrom w
    | setPushAccounts hd =>
        subst hd
        exact callsFrom_setPushAccounts h ht hfresh hroles
  · intro e w' _
    cases e with
    | exception what => exact (registering_reply _).callsFrom w'
    | _ => trivial

/-! ### Different devices -/

/-- A key is of one device. -/
theorem BelongsTo.unique {k d' : String} (hk : BelongsTo platform oracle past d k)
    (hk' : BelongsTo platform oracle past d' k) (h : Reached platform config oracle past w)
    (hfresh : Admitted (Fresh oracle) past) (hroles : RolesApart platform oracle past)
    (hd : Named past d) (hd' : Named past d') :
  d = d'
  := by
  rcases hk with rfl | ⟨a, hlisted, rfl⟩ | ⟨i, a, hdrawn, rfl⟩
  · rcases hk' with rfl | ⟨b, hlisted', hkey⟩ | ⟨j, b, hdrawn', hnode⟩
    · rfl
    · exact (hroles.key _ hd _ _ hlisted' hkey).elim
    · exact (hroles.ne_node h hd (h.drawn_lt hdrawn') hnode).elim
  · rcases hk' with hkey | ⟨b, hlisted', hkey⟩ | ⟨j, b, -, hnode⟩
    · exact (hroles.key _ hd' _ _ hlisted hkey.symm).elim
    · exact hroles.apart _ _ _ _ hlisted hlisted' hkey
    · exact (genAccount_ne_node _ _ _ hnode).elim
  · rcases hk' with hnode | ⟨b, -, hkey⟩ | ⟨j, b, hdrawn', hnode⟩
    · exact (hroles.ne_node h hd' (h.drawn_lt hdrawn) hnode.symm).elim
    · exact (genAccount_ne_node _ _ _ hkey.symm).elim
    · obtain rfl := h.node_injective hfresh (h.drawn_lt hdrawn) (h.drawn_lt hdrawn') hnode
      exact (h.drawn_unique hdrawn hdrawn').1

/-- An event of a node is about the keys of the device for which the node was drawn, and about
the token. -/
theorem callsFrom_onStanza {m : Message} {valid : m.Valid} (hm : m.Registers d)
    (h : Reached platform config oracle past w)
    (ht : t = ⟨.received m valid, w, w.handle platform config oracle (.received m valid)⟩)
    (hfresh : Admitted (Fresh oracle) (t :: past))
    (hroles : RolesApart platform oracle (t :: past)) {stanza notification : Stanza} {i : ℕ}
    {d' a : String} (hevent : IsEvent config stanza (oracle.node i) notification)
    (hdrawn : Drawn past i d' a) (hne : d' ≠ d) :
  (PushServer.onStanza platform config stanza).CallsFrom (World.perform oracle)
    (Call.Notifying fun k => ¬BelongsTo platform oracle (t :: past) d k) w
  := by
  have hreached : Reached platform config oracle (t :: past) t.after := by
    rw [ht]
    exact .next h _
  have hd : Named (t :: past) d := by
    rw [ht]
    cases hm with
    | setChannelUri hd => exact named_cons (congrArg some hd)
    | setPushAccounts hd => exact named_cons (congrArg some hd)
  have hd' : Named (t :: past) d' := hdrawn.listed.named.cons
  have hother : ∀ k, BelongsTo platform oracle (t :: past) d' k →
      ¬BelongsTo platform oracle (t :: past) d k :=
    fun k hk' hk => hne (hk'.unique hk hreached hfresh hroles hd' hd)
  rw [onStanza_event hevent]
  apply callsFrom_handleEvent
  · intro hk
    exact hk.ne_token hroles hd rfl
  · exact hother _ (.inr (.inr ⟨i, a, hdrawn.cons, rfl⟩))
  · intro accountId deviceId secret hrecord
    rw [(h.recordsOwn hfresh.2 hroles.of_cons).device_eq hdrawn hrecord]
    exact hother d' (.inl rfl)

/-- The views of the threads. -/
def Overlap.Looks (K : String → Prop) : Thread → World → World → Prop
  | .xmpp => (View.notification fun k => ¬K k).Same
  | .tcp => (View.registration K Output.isRegistration).Same

/-- The calls of the threads. -/
def Overlap.Makes (K : String → Prop) : Thread → Call → Prop
  | .xmpp => Call.Notifying fun k => ¬K k
  | .tcp => Call.Registering K

/-- An event and a registration on other keys keep apart. -/
theorem apart_makes (K : String → Prop) (oracle : Oracle) :
  Threads.Apart (World.perform oracle) (Makes K) (Looks K)
  := by
  constructor
  · rintro (_ | _) w
    · exact View.Same.refl _ w
    · exact View.Same.refl _ w
  · rintro (_ | _) w w' w'' h h'
    · exact View.Same.trans h h'
    · exact View.Same.trans h h'
  · rintro (_ | _)
    · exact respects_notifying _ oracle
    · exact respects_registering K _ rfl
  · rintro (_ | _) (_ | _) c hne hc w
    · exact (hne rfl).elim
    · exact same_of_notifying hc oracle w
    · apply same_of_registering _ oracle w
      exact hc.imp_left fun h => h.mono fun k hk hn => hn hk
    · exact (hne rfl).elim

end

/-- The XMPP thread handles an event of a node while the TCP thread registers something for
another device than that of the node.  However their calls are interleaved, both threads come to
the ends to which they come alone, the request does to the keys of its device, to its replies
and to the PubSub requests what it does alone, and the event does to everything else what it
does alone. -/
theorem Reached.overlap_isolated {platform : Platform} {config : Configuration} {oracle : Oracle}
    {past : History} {w : World} {t : Transition Event World} {m : Message} {valid : m.Valid}
    {d d' a : String} {i : ℕ} {stanza notification : Stanza}
    (h : Reached platform config oracle past w) (hm : m.Registers d)
    (ht : t = ⟨.received m valid, w, w.handle platform config oracle (.received m valid)⟩)
    (hfresh : Admitted (Fresh oracle) (t :: past))
    (hroles : RolesApart platform oracle (t :: past))
    (hevent : IsEvent config stanza (oracle.node i) notification) (hdrawn : Drawn past i d' a)
    (hne : d' ≠ d) (schedule : List Thread)
    (hturns : ∀ e, ((initial platform config stanza m w).locals e).length
      (World.perform oracle) w ≤ schedule.count e) :
  let event := Server.run oracle (PushServer.onStanza platform config stanza) w
  let request := Server.run oracle (PushServer.processMessage platform config m) w
  let u := Threads.run (step oracle) schedule (initial platform config stanza m w)
  (∀ e, step oracle e (u.locals e) u.shared = none)
    ∧ (Server.run oracle (u.locals .xmpp) u.shared).1 = event.1
    ∧ (Server.run oracle (u.locals .tcp) u.shared).1 = request.1
    ∧ (View.registration (BelongsTo platform oracle (t :: past) d) Output.isRegistration).Same
      request.2 u.shared
    ∧ (View.notification fun k => ¬BelongsTo platform oracle (t :: past) d k).Same event.2 u.shared
  := by
  have hrun := fun e => Threads.run_apart
    (apart_makes (BelongsTo platform oracle (t :: past) d) oracle)
    (p := (initial platform config stanza m w).locals) (s := w) (by
      rintro (_ | _)
      · exact callsFrom_onStanza hm h ht hfresh hroles hevent hdrawn hne
      · exact callsFrom_processMessage hm h ht hfresh hroles)
    schedule e (hturns e)
  obtain ⟨hevent', hxmpp, hnotification⟩ := hrun .xmpp
  obtain ⟨hrequest, htcp, hregistration⟩ := hrun .tcp
  refine ⟨?_, hevent', hrequest, hregistration, hnotification⟩
  rintro (_ | _)
  · exact hxmpp
  · exact htcp

/-- Two devices have channel URIs, and one of them has an account. -/
def Sample.twoDevices : List Event :=
  registration ++ [setChannelUri "x" x_channelUri]

/-- The other device registers an account. -/
def Sample.other : Transition Event World :=
  next twoDevices (setPushAccounts "x" ["y_z"] x_y_z)

/-- The threads take turns. -/
def Sample.alternating : List Thread :=
  (List.replicate 40 [.xmpp, .tcp]).flatten

/-- The event of the one device and the request of the other one are handled as if each were
alone. -/
theorem overlap_isolated_twoDevices :
  let stanza := Sample.push (Sample.oracle.node 0)
  let m : Message := .setPushAccounts (.ofFields ["y_z"] "x")
  let event := Server.run Sample.oracle
    (PushServer.onStanza Sample.platform Sample.config stanza) Sample.other.before
  let request := Server.run Sample.oracle
    (PushServer.processMessage Sample.platform Sample.config m) Sample.other.before
  let past := Sample.other :: (Sample.run Sample.twoDevices).1
  let u := Threads.run (step Sample.oracle) Sample.alternating
    (initial Sample.platform Sample.config stanza m Sample.other.before)
  (View.registration (BelongsTo Sample.platform Sample.oracle past "x")
      Output.isRegistration).Same request.2 u.shared
    ∧ (View.notification fun k => ¬BelongsTo Sample.platform Sample.oracle past "x" k).Same
      event.2 u.shared
  := by
  let w := Sample.other.before
  let m : Message := .setPushAccounts (.ofFields ["y_z"] "x")
  let t := Sample.next [Sample.setChannelUri "phone" Sample.phone_channelUri]
    (Sample.setPushAccounts "phone" ["alice"] Sample.phone_alice)
  obtain ⟨hfresh, hroles, hfirst, hlast, hxmpp, htcp⟩ :
      Admitted (Fresh Sample.oracle) (Sample.other :: (Sample.run Sample.twoDevices).1)
        ∧ RolesApart Sample.platform Sample.oracle
          (Sample.other :: (Sample.run Sample.twoDevices).1)
        ∧ t.before.created ≤ 0 ∧ 0 < t.after.created
        ∧ (PushServer.onStanza Sample.platform Sample.config
          (Sample.push (Sample.oracle.node 0))).length (World.perform Sample.oracle) w ≤ 40
        ∧ (PushServer.processMessage Sample.platform Sample.config m).length
          (World.perform Sample.oracle) w ≤ 40 := by
    decide +kernel
  have hdrawn : Drawn (Sample.run Sample.twoDevices).1 0 "phone" "alice" :=
    ⟨t, List.mem_cons_of_mem _ List.mem_cons_self, rfl, hfirst, hlast, rfl⟩
  have hisolated := Reached.overlap_isolated (Sample.reached_run Sample.twoDevices)
    (.setPushAccounts rfl) rfl hfresh hroles (Sample.isEvent_push _) hdrawn (by decide)
    Sample.alternating (by
      rintro (_ | _)
      · exact hxmpp
      · exact htcp)
  exact hisolated.2.2.2

end UwpxPush
