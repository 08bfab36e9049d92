import UwpxPush.Server.PubSub
import UwpxPush.Server.Roles
import UwpxPush.Server.Stability

/-!
# The nodes on the XMPP server

While the connection is up and no entry expires, requests keep the nodes on the XMPP server
equal to the nodes that the devices were told last, as long as a device that registers again
was told one node for each account id.  What ties the two together is `KeysTold`: the list of
a device has the account keys of the accounts that it was told last, and they hold the nodes
of these accounts, or a request for a device of the same name has made lists of them.
-/

namespace UwpxPush

open KeyValue

/-- The accounts that a device was told last. -/
def lastTold (past : History) (deviceId : String) : Option (List PushAccount) :=
  past.findSome? fun t => told t deviceId

/-- Some device was told the node last. -/
def ToldLast (past : History) (node : String) : Prop :=
  ∃ deviceId accounts, lastTold past deviceId = some accounts
    ∧ node ∈ accounts.map PushAccount.node

/-- The nodes on the XMPP server are those that the devices were told last. -/
def Booked (past : History) : Prop :=
  ∀ node, Alive node past ↔ ToldLast past node

/-- The event is a request to set accounts or a channel URI while the connection is up, or time
passes and no entry expires. -/
def IsRequest (_ : History) (t : Transition Event World) : Prop :=
  t.before.connected = true ∧
    match t.event with
    | .received (.setPushAccounts _) _ => True
    | .received (.setChannelUri _) _ => True
    | .advance _ => t.after.contents = t.before.contents
    | _ => False

/-- The accounts give every account id one node. -/
def OneNode (accounts : List PushAccount) : Prop :=
  ∀ a ∈ accounts, ∀ b ∈ accounts, a.accountId = b.accountId → a.node = b.node

/-- A device that registers again was told one node for each account id. -/
def ReplacesOneNode (past : History) (t : Transition Event World) : Prop :=
  ∀ m valid, t.event = .received (.setPushAccounts m) valid →
    ∀ accounts, lastTold past m.deviceId = some accounts → OneNode accounts

/-- The list of a device has the account keys of the accounts that it was told last, which hold
their nodes where they hold strings.  The list of a device that was told none has no account
keys, or a string that is none. -/
structure KeysTold (platform : Platform) (past : History) (w : World) (deviceId : String) :
    Prop where
  untold : lastTold past deviceId = none → (w.contents.elements deviceId).drop 2 = []
    ∨ ∃ k ∈ (w.contents.elements deviceId).drop 2, k.length ≠ 64
  list : ∀ accounts, lastTold past deviceId = some accounts → 2 ≤ (w.contents.elements deviceId).length
    ∧ (w.contents.elements deviceId).drop 2
      = accounts.map (Contents.accountKey platform deviceId)
  node : ∀ accounts, lastTold past deviceId = some accounts →
    ∀ a ∈ accounts, ∀ node,
      w.contents.nodeUnder (Contents.accountKey platform deviceId a) = some node →
      ∃ b ∈ accounts, Contents.accountKey platform deviceId b
        = Contents.accountKey platform deviceId a ∧ b.node = node

section

variable {platform : Platform} {config : Configuration} {oracle : Oracle} {past : History}
  {t : Transition Event World} {w w' : World} {e : Event} {d : String}

/-! ### Names -/

/-- Where no device id has an underscore, different devices are joined with their accounts to
different strings. -/
theorem joinedApart_of_no_underscore (h : ∀ d, Named past d → '_' ∉ d.toList) :
  JoinedApart past
  := by
  have hprefix : ∀ d a, Named past d →
      (joined d a).toList.takeWhile (· ≠ '_') = d.toList := by
    intro d a hd
    have hsplit : (joined d a).toList = d.toList ++ '_' :: a.toList := by
      rw [joined, String.toList_append, String.toList_append, List.append_assoc]
      rfl
    rw [hsplit, List.takeWhile_append_of_pos]
    · rw [List.takeWhile_cons_of_neg (by simp), List.append_nil]
    · intro c hc
      simp only [decide_eq_true_eq]
      rintro rfl
      exact h d hd hc
  intro d a d' a' hd hd' heq
  apply String.toList_inj.mp
  rw [← hprefix d a hd.named, heq, hprefix d' a' hd'.named]

theorem lastTold_of_some {accounts : List PushAccount} (h : told t d = some accounts) :
  lastTold (t :: past) d = some accounts
  := by rw [lastTold, List.findSome?_cons, h]

theorem lastTold_of_none (h : told t d = none) :
  lastTold (t :: past) d = lastTold past d
  := by
  rw [lastTold, List.findSome?_cons, h]
  rfl

theorem named_of_lastTold {accounts : List PushAccount} (h : lastTold past d = some accounts) :
  Named past d
  := by
  obtain ⟨t, ht, htold⟩ := List.exists_of_findSome?_eq_some h
  exact .of_told ht htold

theorem exists_of_lastTold {accounts : List PushAccount} (h : lastTold past d = some accounts) :
  ∃ t ∈ past, told t d = some accounts
  := List.exists_of_findSome?_eq_some h

/-- What a device was told last is listed for it, and its nodes were drawn for it. -/
theorem Reached.lastTold_drawn (h : Reached platform config oracle past w)
    (hfresh : Admitted (Fresh oracle) past) (hapart : KeysApart platform past)
    {accounts : List PushAccount} (hlast : lastTold past d = some accounts) {a : PushAccount}
    (ha : a ∈ accounts) :
  Listed past d a.accountId ∧ ∃ i accountId, Drawn past i d accountId ∧ a.node = oracle.node i
  := by
  obtain ⟨t, ht, htold⟩ := exists_of_lastTold hlast
  obtain ⟨hlisted, i, owner, accountId, hdrawn, hnode, -, hkey⟩ := h.told_owned hfresh ht htold ha
  obtain rfl := hapart _ _ _ _ hlisted hdrawn.listed hkey
  exact ⟨hlisted, i, accountId, hdrawn, hnode⟩

/-- No node is told to two devices last. -/
theorem Reached.lastTold_apart (h : Reached platform config oracle past w)
    (hfresh : Admitted (Fresh oracle) past) (hapart : KeysApart platform past) {d' : String}
    {accounts accounts' : List PushAccount} (hlast : lastTold past d = some accounts)
    (hlast' : lastTold past d' = some accounts') {a a' : PushAccount} (ha : a ∈ accounts)
    (ha' : a' ∈ accounts') (hnode : a.node = a'.node) :
  d = d'
  := by
  obtain ⟨-, i, x, hdrawn, hi⟩ := h.lastTold_drawn hfresh hapart hlast ha
  obtain ⟨-, j, y, hdrawn', hj⟩ := h.lastTold_drawn hfresh hapart hlast' ha'
  obtain rfl := h.node_injective hfresh (h.drawn_lt hdrawn) (h.drawn_lt hdrawn')
    (hi.symm.trans (hnode.trans hj))
  exact (h.drawn_unique hdrawn hdrawn').1

/-! ### What a request does -/

/-- A key that could be read has no list. -/
theorem run_get_notList {k : String} {r : Option String}
    (h : Server.run oracle (Redis.get k) w = (.ok r, w')) {l : List String} {deadline : Option Int} :
  w.contents k ≠ some ⟨.list l, deadline⟩
  := by
  intro hl
  rw [Server.run_get, Store.get, Store.find_of_lookup hl] at h
  cases h

/-- When the loop over the account ids returns, no account key of them has a list. -/
theorem PushServer.run_collect_notList {p q : Pending} {accounts : List String}
    (h : Server.run oracle (accounts.foldlM (collectAccount platform d) p) w = (.ok q, w'))
    {a : String} (ha : a ∈ accounts) {l : List String} {deadline : Option Int} :
  w.contents (RedisClient.genAccount platform d a) ≠ some ⟨.list l, deadline⟩
  := by
  induction accounts generalizing p w with
  | nil => cases ha
  | cons accountId accounts ih =>
      rw [List.foldlM_cons] at h
      obtain ⟨p', w₃, hcollect, hrest⟩ := Program.run_bind_eq_ok _ h
      obtain ⟨account, w₁, hcreate, hcollect⟩ := Program.run_bind_eq_ok _ hcollect
      obtain ⟨account', w₂, hload, hadd⟩ := Program.run_bind_eq_ok _ hcollect
      have hcontents : w₁.contents = w.contents := by
        cases hcreate
        rfl
      have haccount : account.accountId = accountId := by
        cases hcreate
        rfl
      obtain ⟨rfl, -⟩ := run_loadPushAccount_ok hload
      cases hadd
      rcases List.mem_cons.mp ha with rfl | ha
      · obtain ⟨r, w₄, hget, -⟩ := Program.run_bind_eq_ok _ hload
        rw [haccount] at hget
        rw [← hcontents]
        exact run_get_notList hget
      · rw [← hcontents]
        exact ih hrest ha

/-- A request that tells its device accounts finds no list under their account keys. -/
theorem notList_of_told {m : SetPushAccountsMessage} {valid : (Message.setPushAccounts m).Valid}
    (hw : w.contents.Typed) {accounts : List PushAccount}
    (h : told ⟨.received (.setPushAccounts m) valid, w,
      w.handle platform config oracle (.received (.setPushAccounts m) valid)⟩ d = some accounts)
    {a : String} (ha : a ∈ m.accounts) {l : List String} {deadline : Option Int} :
  w.contents (RedisClient.genAccount platform m.deviceId a) ≠ some ⟨.list l, deadline⟩
  := by
  have hhandle : w.handle platform config oracle (.received (.setPushAccounts m) valid)
      = (Server.run oracle (PushServer.processMessage platform config (.setPushAccounts m)) w).2
    := rfl
  rw [hhandle] at h
  rcases hrun : Server.run oracle (PushServer.handleMessage platform config
      (.setPushAccounts m)) w with ⟨failure | u, w'⟩
  · rcases PushServer.run_setPushAccounts_cases hw hrun with ⟨hrefused, hlog⟩ | ⟨hok, -⟩
    · have hlog : w'.log = w.log := by
        rcases hlog with ⟨hok, -⟩ | ⟨hlog, -⟩
        · cases hok
        · apply hlog
      rcases run_processMessage_error platform config hrun with ⟨error, hreply⟩ | hsame
      · have hout : (w'.tell (.reply (.errorResponse (.ofError error)))).log
            = w.log ++ [.reply (.errorResponse (.ofError error))] := by
          rw [World.tell, hlog]
        rw [hreply, told_of_no_accounts hout (by simp [Output.accounts])] at h
        cases h
      · rw [hsame, told_of_log_eq hlog] at h
        cases h
    · cases hok
  · rw [run_processMessage_ok platform config hrun] at h
    obtain ⟨channelUri, w₁, huri, hrest⟩ := Program.run_bind_eq_ok _ hrun
    obtain ⟨rfl, -⟩ := run_getChannelUri_ok huri
    rcases channelUri with _ | channelUri
    · cases hrest
      rw [told_of_no_accounts rfl (by simp [Output.accounts])] at h
      cases h
    · obtain ⟨oldNodes, w₂, hold, hcollect⟩ := Program.run_bind_eq_ok _ hrest
      obtain ⟨rfl, -⟩ := run_getPushNodes_ok hold
      obtain ⟨pending, w₃, hcollect, -⟩ := Program.run_bind_eq_ok _ hcollect
      exact PushServer.run_collect_notList hcollect ha

/-- A transition that tells no device accounts, and neither creates nor deletes a node. -/
def Silent (t : Transition Event World) : Prop :=
  (∀ d, told t d = none) ∧ ∀ q, .iq q ∉ outputs t

theorem Silent.of_outputs {out : List Output} (h : w'.log = w.log ++ out)
    (haccounts : ∀ o ∈ out, o.accounts = none) (hiq : ∀ q, .iq q ∉ out) :
  Silent ⟨e, w, w'⟩
  := by
  constructor
  · intro d
    apply told_of_no_accounts h haccounts
  · rw [outputs_eq h]
    apply hiq

theorem Silent.of_log_eq (h : w'.log = w.log) :
  Silent ⟨e, w, w'⟩
  := Silent.of_outputs (h.trans (List.append_nil _).symm) (by simp) (by simp)

/-- A request registers accounts, or it sets a channel URI, or it changes nothing. -/
theorem request_cases (hw : w.contents.Typed)
    (h : IsRequest past ⟨e, w, w.handle platform config oracle e⟩)
    (hw' : w' = w.handle platform config oracle e) :
  (∃ m valid channelUri oldNodes pushAccounts, e = .received (.setPushAccounts m) valid
      ∧ PushServer.Registered platform config oracle m.deviceId (toString m.version) m.accounts w
        w' channelUri oldNodes pushAccounts
      ∧ ∀ a ∈ m.accounts, ∀ l deadline,
        w.contents (RedisClient.genAccount platform m.deviceId a) ≠ some ⟨.list l, deadline⟩)
    ∨ Silent ⟨e, w, w'⟩ ∧ (w'.contents = w.contents
      ∨ ∃ deadline deviceId uri, w'.contents = w.contents.setChannelUri deadline deviceId uri)
  := by
  subst hw'
  obtain ⟨-, he⟩ := h
  cases e with
  | received m valid =>
      cases m with
      | setPushAccounts m =>
          rcases handle_setPushAccounts platform config hw m with
            hrefused | ⟨channelUri, oldNodes, pushAccounts, hr⟩
          · apply Or.inr
            have hcontents : (w.handle platform config oracle
                (.received (.setPushAccounts m) valid)).contents = w.contents := by
              rw [World.contents, World.contents, ← hrefused.redis]
              rfl
            rcases hrefused.log with hlog | ⟨error, hlog⟩
            · exact ⟨.of_log_eq hlog, .inl hcontents⟩
            · exact ⟨.of_outputs hlog (by simp [Output.accounts]) (by simp), .inl hcontents⟩
          · apply Or.inl
            refine ⟨m, valid, channelUri, oldNodes, pushAccounts, rfl, hr, ?_⟩
            intro a ha l deadline
            have htold : told ⟨.received (.setPushAccounts m) valid, w,
                w.handle platform config oracle (.received (.setPushAccounts m) valid)⟩ m.deviceId
                = some _ :=
              told_registered hr
            exact notList_of_told hw htold ha
      | setChannelUri m =>
          apply Or.inr
          have hcases := @handle_setChannelUri platform config oracle w m
          have hhandle : (Server.run oracle (PushServer.processMessage platform config
              (.setChannelUri m)) w).2
              = w.handle platform config oracle (.received (.setChannelUri m) valid) := rfl
          rw [hhandle] at hcases
          rcases hcases with ⟨-, redis, -, hlookup, hset⟩ | hsame | ⟨error, hreply⟩
          · rw [hset]
            exact ⟨.of_outputs rfl (by simp [Output.accounts]) (by simp), .inr ⟨_, _, _, hlookup⟩⟩
          · rw [hsame]
            exact ⟨.of_log_eq rfl, .inl rfl⟩
          · rw [hreply]
            exact ⟨.of_outputs rfl (by simp [Output.accounts]) (by simp), .inl rfl⟩
      | _ => exact he.elim
  | advance dt => exact .inr ⟨.of_log_eq rfl, .inl he⟩
  | _ => exact he.elim

/-! ### The account keys of a device -/

/-- A transition that tells the device nothing, leaves its account keys in its list, and gives
them no other nodes. -/
theorem KeysTold.of_none (h : KeysTold platform past w d) (htold : told t d = none)
    (hlength : 2 ≤ (w.contents.elements d).length → 2 ≤ (w'.contents.elements d).length)
    (hdrop : (w'.contents.elements d).drop 2 = (w.contents.elements d).drop 2)
    (hnode : ∀ accounts, lastTold past d = some accounts → ∀ a ∈ accounts, ∀ node,
      w'.contents.nodeUnder (Contents.accountKey platform d a) = some node →
      w.contents.nodeUnder (Contents.accountKey platform d a) = some node) :
  KeysTold platform (t :: past) w' d
  := by
  constructor
  · rw [lastTold_of_none htold, hdrop]
    apply h.untold
  · rw [lastTold_of_none htold, hdrop]
    intro accounts hlast
    obtain ⟨hlen, hkeys⟩ := h.list accounts hlast
    exact ⟨hlength hlen, hkeys⟩
  · rw [lastTold_of_none htold]
    intro accounts hlast a ha node hn
    exact h.node accounts hlast a ha node (hnode accounts hlast a ha node hn)

theorem KeysTold.same (h : KeysTold platform past w d) (htold : told t d = none)
    (hcontents : w'.contents = w.contents) :
  KeysTold platform (t :: past) w' d
  := by
  apply h.of_none htold
  · rw [hcontents]
    exact id
  · rw [hcontents]
  · rw [hcontents]
    intro _ _ _ _ _ hn
    exact hn

/-- A channel URI is put before the version and the account keys. -/
theorem KeysTold.setChannelUri (h : KeysTold platform past w d) (htold : told t d = none)
    {deadline : Int} {deviceId uri : String}
    (hcontents : w'.contents = w.contents.setChannelUri deadline deviceId uri) :
  KeysTold platform (t :: past) w' d
  := by
  have hlist : w'.contents.elements d = w.contents.elements d
      ∨ w'.contents.elements d = uri :: (w.contents.elements d).tail := by
    rw [hcontents]
    by_cases hd : d = deviceId
    · subst hd
      exact .inr (Contents.elements_of_eq (if_pos rfl))
    · exact .inl (Contents.elements_eq_of_apply_eq (if_neg hd))
  apply h.of_none htold
  · rcases hlist with hlist | hlist
    · rw [hlist]
      exact id
    · rw [hlist, List.length_cons, List.length_tail]
      omega
  · rcases hlist with hlist | hlist
    · rw [hlist]
    · rw [hlist, List.drop_succ_cons, ← List.drop_one, List.drop_drop]
  · intro accounts _ a _ node hn
    obtain ⟨deadline', hstring⟩ := Contents.nodeUnder_eq_some.mp hn
    rw [hcontents, Contents.setChannelUri, Contents.putList] at hstring
    split at hstring
    · cases hstring
    · exact Contents.nodeUnder_eq_some.mpr ⟨_, hstring⟩

/-- A registration of the device puts the account keys of what the device is told into its
list. -/
theorem KeysTold.registered {m : SetPushAccountsMessage}
    {valid : (Message.setPushAccounts m).Valid} {channelUri : String} {oldNodes : List String}
    {pushAccounts : List PushAccount} (hw : w.contents.Typed)
    (hr : PushServer.Registered platform config oracle m.deviceId (toString m.version)
      m.accounts w w' channelUri oldNodes pushAccounts) :
  KeysTold platform (⟨.received (.setPushAccounts m) valid, w, w'⟩ :: past) w' m.deviceId
  := by
  have htold : told ⟨.received (.setPushAccounts m) valid, w, w'⟩ m.deviceId = some _ :=
    told_registered hr
  have hlast : lastTold (⟨.received (.setPushAccounts m) valid, w, w'⟩ :: past) m.deviceId
      = some _ :=
    lastTold_of_some htold
  have hkeys : (PushServer.answer platform w.connected oldNodes pushAccounts).map
      (Contents.accountKey platform m.deviceId)
      = pushAccounts.map (Contents.accountKey platform m.deviceId) :=
    PushServer.map_setFlags _ _ _ fun _ _ => rfl
  have hpairs : (PushServer.answer platform w.connected oldNodes pushAccounts).map
      (fun a => (Contents.accountKey platform m.deviceId a, a.node))
      = pushAccounts.map (fun a => (Contents.accountKey platform m.deviceId a, a.node)) :=
    PushServer.map_setFlags _ _ _ fun _ _ => rfl
  constructor
  · rw [hlast]
    rintro ⟨⟩
  · rw [hlast]
    rintro _ ⟨⟩
    rw [Contents.elements_of_eq hr.contents_device, hkeys]
    constructor
    · simp
    · rfl
  · rw [hlast]
    rintro _ ⟨⟩ a ha node hn
    obtain ⟨deadline, hstring⟩ := Contents.nodeUnder_eq_some.mp hn
    have hkey : Contents.accountKey platform m.deviceId a
        ∈ pushAccounts.map (Contents.accountKey platform m.deviceId) := by
      rw [← hkeys]
      apply List.mem_map_of_mem ha
    rcases hr.contents_cases hw (Contents.accountKey platform m.deviceId a) with
      hd | ⟨-, c, hc, hck, hs⟩ | ⟨-, -, hs⟩ | ⟨-, hnone, -⟩
    · rw [hd, hr.contents_device] at hstring
      cases hstring
    · rw [hs] at hstring
      cases hstring
      have hpair := List.mem_map_of_mem
        (f := fun a => (Contents.accountKey platform m.deviceId a, a.node)) hc
      rw [← hpairs, List.mem_map] at hpair
      obtain ⟨b, hb, heq⟩ := hpair
      obtain ⟨hbk, hbn⟩ := Prod.mk.inj heq
      exact ⟨b, hb, hbk.trans hck, hbn⟩
    · rw [hs] at hstring
      cases hstring
    · obtain ⟨c, hc, hck⟩ := List.mem_map.mp hkey
      exact (hnone c hc hck).elim

/-- A device that was told accounts has a list, so no registration of another device puts a
string or a record of a node there. -/
theorem KeysTold.list_registered {m : SetPushAccountsMessage}
    {valid : (Message.setPushAccounts m).Valid} {channelUri : String} {oldNodes : List String}
    {pushAccounts : List PushAccount} (h : KeysTold platform past w d)
    (hr : PushServer.Registered platform config oracle m.deviceId (toString m.version)
      m.accounts w w' channelUri oldNodes pushAccounts)
    (hnotList : ∀ a ∈ m.accounts, ∀ l deadline,
      w.contents (RedisClient.genAccount platform m.deviceId a) ≠ some ⟨.list l, deadline⟩)
    (hreached : Reached platform config oracle past w)
    (hreached' : Reached platform config oracle
      (⟨.received (.setPushAccounts m) valid, w, w'⟩ :: past) w')
    (hfresh : Admitted (Fresh oracle) (⟨.received (.setPushAccounts m) valid, w, w'⟩ :: past))
    (hne : d ≠ m.deviceId) {accounts : List PushAccount}
    (hlast : lastTold past d = some accounts) :
  w'.contents.elements d = w.contents.elements d
  := by
  obtain ⟨hlength, hkeys⟩ := h.list accounts hlast
  obtain ⟨l, deadline, hlist⟩ : ∃ l deadline, w.contents d = some ⟨.list l, deadline⟩ := by
    unfold Contents.elements at hlength
    split at hlength
    · next l deadline hl => exact ⟨l, deadline, hl⟩
    · simp at hlength
  have howned := (hreached.owned hfresh.2).1
  rcases hr.contents_cases hreached.typed d with hd | ⟨-, a, ha, hkey, -⟩
    | ⟨-, ⟨a, ha, hnode⟩, -⟩ | ⟨-, -, -, hframe⟩
  · exact (hne hd).elim
  · subst hkey
    exact (hnotList _ (hr.mem_accounts ha) _ _ hlist).elim
  · obtain ⟨i, _, _, hdrawn, hi, -, -, ⟨hnew, -⟩ | ⟨-, hreuse, -⟩⟩ :=
      hr.account_owned valid hreached howned ha
    · have hnamed := named_of_lastTold hlast
      rw [← hnode, hi] at hnamed
      exact ((hfresh.1 i (hreached'.drawn_lt hdrawn) hnew).2 hnamed.cons).elim
    · -- The list of a node that is given again has a secret where a device has account keys.
      obtain ⟨hn, -⟩ := Contents.reusable_eq_some.mp hreuse
      obtain ⟨deadline', hstring⟩ := Contents.nodeUnder_eq_some.mp hn
      obtain ⟨j, _, _, ho⟩ := howned _ _ _ hstring
      obtain ⟨-, u, x, y, l', -, -, -, hrecord⟩ := ho.record
      have hsecret : oracle.secret j ∈ (w.contents.elements d).drop 2 := by
        rw [← hnode, Contents.elements_of_eq hrecord]
        simp
      rw [hkeys, List.mem_map] at hsecret
      obtain ⟨b, -, hb⟩ := hsecret
      have := congrArg String.length hb
      rw [Contents.length_accountKey, oracle.length_secret] at this
      cases this
  · have hold : d ∉ (w.contents.elements m.deviceId).drop 2 := by
      intro hmem
      obtain ⟨node, -, hn⟩ := hr.old_key hmem
      rw [Contents.nodeUnder, hlist] at hn
      cases hn
    rw [if_neg hold] at hframe
    exact Contents.elements_eq_of_apply_eq hframe

/-- A registration of another device leaves the account keys of a device alone. -/
theorem KeysTold.registered_ne {m : SetPushAccountsMessage}
    {valid : (Message.setPushAccounts m).Valid} {channelUri : String} {oldNodes : List String}
    {pushAccounts : List PushAccount} (h : KeysTold platform past w d)
    (hr : PushServer.Registered platform config oracle m.deviceId (toString m.version)
      m.accounts w w' channelUri oldNodes pushAccounts)
    (hnotList : ∀ a ∈ m.accounts, ∀ l deadline,
      w.contents (RedisClient.genAccount platform m.deviceId a) ≠ some ⟨.list l, deadline⟩)
    (hreached : Reached platform config oracle past w)
    (hreached' : Reached platform config oracle
      (⟨.received (.setPushAccounts m) valid, w, w'⟩ :: past) w')
    (hfresh : Admitted (Fresh oracle) (⟨.received (.setPushAccounts m) valid, w, w'⟩ :: past))
    (hapart : KeysApart platform (⟨.received (.setPushAccounts m) valid, w, w'⟩ :: past))
    (hne : d ≠ m.deviceId) :
  KeysTold platform (⟨.received (.setPushAccounts m) valid, w, w'⟩ :: past) w' d
  := by
  have htold : told ⟨.received (.setPushAccounts m) valid, w, w'⟩ d = none := by
    apply if_neg
    intro heq
    exact hne (Option.some.inj heq).symm
  constructor
  · rw [lastTold_of_none htold]
    intro hlast
    rcases hr.contents_cases hreached.typed d with hd | ⟨-, a, -, -, hs⟩
      | ⟨-, ⟨a, ha, rfl⟩, hs⟩ | ⟨-, -, -, hframe⟩
    · exact (hne hd).elim
    · apply Or.inl
      rw [Contents.elements, hs]
      rfl
    · apply Or.inr
      rw [Contents.elements_of_eq hs]
      use a.secret, Contents.secret_mem_records ha _
      obtain ⟨i, _, _, -, -, hsecret, -⟩ :=
        hr.account_owned valid hreached (hreached.owned hfresh.2).1 ha
      rw [hsecret, oracle.length_secret]
      decide
    · by_cases hmem : d ∈ (w.contents.elements m.deviceId).drop 2
      · rw [if_pos hmem] at hframe
        apply Or.inl
        rw [Contents.elements, hframe]
        rfl
      · rw [if_neg hmem] at hframe
        rw [Contents.elements_eq_of_apply_eq hframe]
        apply h.untold hlast
  · rw [lastTold_of_none htold]
    intro accounts hlast
    rw [h.list_registered hr hnotList hreached hreached' hfresh hne hlast]
    apply h.list accounts hlast
  · rw [lastTold_of_none htold]
    intro accounts hlast a ha node hn
    apply h.node accounts hlast a ha node
    obtain ⟨deadline, hstring⟩ := Contents.nodeUnder_eq_some.mp hn
    rcases hr.contents_cases hreached.typed (Contents.accountKey platform d a) with
      hd | ⟨-, b, hb, hkey, -⟩ | ⟨-, -, hs⟩ | ⟨-, -, -, hframe⟩
    · rw [hd, hr.contents_device] at hstring
      cases hstring
    · obtain ⟨hlisted, -⟩ := hreached.lastTold_drawn hfresh.2 hapart.of_cons hlast ha
      have hdevice : Listed (⟨.received (.setPushAccounts m) valid, w, w'⟩ :: past) m.deviceId
          b.accountId :=
        ⟨_, List.mem_cons_self, rfl, hr.mem_accounts hb⟩
      exact (hne (hapart _ _ _ _ hlisted.cons hdevice hkey.symm)).elim
    · rw [hs] at hstring
      cases hstring
    · rw [hframe] at hstring
      split at hstring
      · cases hstring
      · exact Contents.nodeUnder_eq_some.mpr ⟨_, hstring⟩

/-- In every run of requests whose names are new and in which devices have their own account
keys, each device has the account keys of what it was told last. -/
theorem Reached.keysTold (h : Reached platform config oracle past w)
    (hrequests : Admitted IsRequest past) (hfresh : Admitted (Fresh oracle) past)
    (hapart : KeysApart platform past) (d : String) :
  KeysTold platform past w d
  := by
  induction h with
  | @start w hw =>
      have hnil : w.contents.elements d = [] := by
        have hempty : w.contents d = none := by
          simp [World.contents, Store.lookup, hw.redis]
        rw [Contents.elements, hempty]
      constructor
      · intro _
        rw [hnil]
        exact .inl rfl
      · rintro _ ⟨⟩
      · rintro _ ⟨⟩
  | @next past w h e ih =>
      have hold := ih hrequests.2 hfresh.2 hapart.of_cons
      have hreached' : Reached platform config oracle _ _ := Run.next h e
      rcases request_cases (Reached.typed h) hrequests.1 rfl with
        ⟨m, valid, channelUri, oldNodes, pushAccounts, rfl, hr, hnotList⟩
        | ⟨hsilent, hsame | ⟨deadline, deviceId, uri, hset⟩⟩
      · by_cases hd : d = m.deviceId
        · subst hd
          exact .registered (Reached.typed h) hr
        · exact hold.registered_ne hr hnotList h hreached' hfresh hapart hd
      · exact hold.same (hsilent.1 d) hsame
      · exact hold.setChannelUri (hsilent.1 d) hset

/-! ### The nodes of a registration -/

/-- The old nodes of a registration are those the device was told last, if it was told one for
each account id. -/
theorem KeysTold.mem_oldNodes {m : SetPushAccountsMessage} {channelUri : String}
    {oldNodes : List String} {pushAccounts : List PushAccount}
    (h : KeysTold platform past w m.deviceId) (hw : w.contents.Typed)
    (hr : PushServer.Registered platform config oracle m.deviceId (toString m.version)
      m.accounts w w' channelUri oldNodes pushAccounts)
    (hids : ∀ accounts, lastTold past m.deviceId = some accounts → ∀ a ∈ accounts,
      ∀ b ∈ accounts, Contents.accountKey platform m.deviceId a
        = Contents.accountKey platform m.deviceId b → a.accountId = b.accountId)
    (hone : ∀ accounts, lastTold past m.deviceId = some accounts → OneNode accounts)
    (node : String) :
  node ∈ oldNodes
    ↔ ∃ accounts, lastTold past m.deviceId = some accounts
      ∧ node ∈ accounts.map PushAccount.node
  := by
  constructor
  · intro hnode
    obtain ⟨k, hk, hn⟩ := hr.old_node hnode
    rcases hlast : lastTold past m.deviceId with _ | accounts
    · rcases h.untold hlast with hnil | ⟨k', hk', hlength⟩
      · rw [hnil] at hk
        cases hk
      · exact (hlength (hr.length_old_key hw hk')).elim
    · use accounts, rfl
      rw [(h.list accounts hlast).2, List.mem_map] at hk
      obtain ⟨a, ha, rfl⟩ := hk
      obtain ⟨b, hb, -, rfl⟩ := h.node accounts hlast a ha node hn
      apply List.mem_map_of_mem hb
  · rintro ⟨accounts, hlast, hnode⟩
    obtain ⟨a, ha, rfl⟩ := List.mem_map.mp hnode
    have hk : Contents.accountKey platform m.deviceId a
        ∈ (w.contents.elements m.deviceId).drop 2 := by
      rw [(h.list accounts hlast).2]
      apply List.mem_map_of_mem ha
    obtain ⟨node, hold, hn⟩ := hr.old_key hk
    obtain ⟨b, hb, hkey, rfl⟩ := h.node accounts hlast a ha node hn
    rw [← hone accounts hlast b hb a ha (hids accounts hlast b hb a ha hkey)]
    apply hold

/-- A silent transition changes neither the nodes on the XMPP server nor what was told. -/
theorem Booked.silent (h : Booked past) (hsilent : Silent t) :
  Booked (t :: past)
  := by
  intro node
  have halive : Alive node (t :: past) ↔ Alive node past := by
    constructor
    · rintro (⟨before, after, hout, -⟩ | ⟨halive, -⟩)
      · have hmem : .iq (.publishEmpty node) ∈ outputs t := by
          rw [hout]
          simp
        exact (hsilent.2 _ hmem).elim
      · apply halive
    · intro halive
      exact .inr ⟨halive, hsilent.2 _⟩
  have htold : ToldLast (t :: past) node ↔ ToldLast past node := by
    have hsame : ∀ d, lastTold (t :: past) d = lastTold past d :=
      fun d => lastTold_of_none (hsilent.1 d)
    unfold ToldLast
    simp only [hsame]
  rw [halive, htold]
  apply h

/-- A registration whose old nodes are those the device was told last replaces them on the XMPP
server by those the device is told. -/
theorem Booked.registered {m : SetPushAccountsMessage}
    {valid : (Message.setPushAccounts m).Valid} {channelUri : String} {oldNodes : List String}
    {pushAccounts : List PushAccount} (h : Booked past)
    (hr : PushServer.Registered platform config oracle m.deviceId (toString m.version)
      m.accounts w w' channelUri oldNodes pushAccounts)
    (hconnected : w.connected = true) (hreached : Reached platform config oracle past w)
    (hfresh : Admitted (Fresh oracle) past) (hapart : KeysApart platform past)
    (hold : ∀ node, node ∈ oldNodes ↔ ∃ accounts, lastTold past m.deviceId = some accounts
      ∧ node ∈ accounts.map PushAccount.node) :
  Booked (⟨.received (.setPushAccounts m) valid, w, w'⟩ :: past)
  := by
  intro node
  let t : Transition Event World := ⟨.received (.setPushAccounts m) valid, w, w'⟩
  have howned := (hreached.owned hfresh).1
  have hdelete : .iq (.delete node) ∈ outputs t
      ↔ node ∈ oldNodes ∧ ¬∃ a ∈ pushAccounts, a.node = node := by
    rw [hr.delete_mem howned, and_iff_right hconnected]
    simp only [not_exists, not_and, ne_eq]
  have htold : told t m.deviceId
      = some (PushServer.answer platform w.connected oldNodes pushAccounts) :=
    told_registered hr
  have hlast : lastTold (t :: past) m.deviceId = some _ := lastTold_of_some htold
  have hanswer : ∀ accounts, lastTold (t :: past) m.deviceId = some accounts →
      (node ∈ accounts.map PushAccount.node ↔ ∃ a ∈ pushAccounts, a.node = node) := by
    intro accounts haccounts
    cases hlast.symm.trans haccounts
    rw [PushServer.map_node_answer, List.mem_map]
  have hother : ∀ d, d ≠ m.deviceId → lastTold (t :: past) d = lastTold past d := by
    intro d hne
    apply lastTold_of_none
    apply if_neg
    intro heq
    exact hne (Option.some.inj heq).symm
  constructor
  · rintro (hnew | ⟨halive, hkept⟩)
    · obtain ⟨-, hadded⟩ := hr.of_creates valid hreached howned hnew
      exact ⟨m.deviceId, _, hlast, (hanswer _ hlast).mpr (PushServer.of_mem_map_addNodes hadded).1⟩
    · obtain ⟨d, accounts, htold, hnode⟩ := (h node).mp halive
      by_cases hd : d = m.deviceId
      · subst hd
        have hmem := (hold node).mpr ⟨accounts, htold, hnode⟩
        have hagain : ∃ a ∈ pushAccounts, a.node = node := by
          by_contra hnone
          exact hkept (hdelete.mpr ⟨hmem, hnone⟩)
        exact ⟨m.deviceId, _, hlast, (hanswer _ hlast).mpr hagain⟩
      · exact ⟨d, accounts, (hother d hd).trans htold, hnode⟩
  · rintro ⟨d, accounts, htold, hnode⟩
    by_cases hd : d = m.deviceId
    · subst hd
      have hagain := (hanswer accounts htold).mp hnode
      by_cases hmem : node ∈ oldNodes
      · apply Or.inr
        obtain ⟨accounts', htold', hnode'⟩ := (hold node).mp hmem
        constructor
        · exact (h node).mpr ⟨m.deviceId, accounts', htold', hnode'⟩
        · rw [hdelete]
          rintro ⟨-, hnone⟩
          exact hnone hagain
      · have hadded := PushServer.mem_map_addNodes hagain hmem
        exact .inl (hr.setsUp hreached howned hconnected hadded).creates
    · rw [hother d hd] at htold
      apply Or.inr
      constructor
      · exact (h node).mpr ⟨d, accounts, htold, hnode⟩
      · rw [hdelete]
        rintro ⟨hmem, -⟩
        obtain ⟨accounts', htold', hnode'⟩ := (hold node).mp hmem
        obtain ⟨a, ha, hanode⟩ := List.mem_map.mp hnode
        obtain ⟨b, hb, hbnode⟩ := List.mem_map.mp hnode'
        exact hd (hreached.lastTold_apart hfresh hapart htold htold' ha hb
          (hanode.trans hbnode.symm))

end

/-- In every run of requests while the connection is up and nothing expires, in which hashes do
not collide, no device id has an underscore and names are new, the nodes on the XMPP server are
those that the devices were told last, if each device that registers again was told one node
for each account id. -/
theorem booked_of_oneNode {platform : Platform} {config : Configuration} {oracle : Oracle}
    {past : History} {w : World} (h : Reached platform config oracle past w)
    (hrequests : Admitted IsRequest past) (hfresh : Admitted (Fresh oracle) past)
    (hcollision : NoCollision platform past)
    (hunderscore : ∀ d, Named past d → '_' ∉ d.toList)
    (hone : Admitted ReplacesOneNode past) :
  Booked past
  := by
  induction h with
  | start hw =>
      intro node
      constructor
      · rintro ⟨⟩
      · rintro ⟨d, accounts, htold, -⟩
        cases htold
  | @next past w h e ih =>
      have hunderscore' : ∀ d, Named past d → '_' ∉ d.toList :=
        fun d hd => hunderscore d hd.cons
      have hcollision' : NoCollision platform past :=
        fun d a d' a' hd hd' => hcollision d a d' a' hd.cons hd'.cons
      have hold := ih hrequests.2 hfresh.2 hcollision' hunderscore' hone.2
      rcases request_cases (Reached.typed h) hrequests.1 rfl with
        ⟨m, valid, channelUri, oldNodes, pushAccounts, rfl, hr, -⟩ | ⟨hsilent, -⟩
      · have hjoined := joinedApart_of_no_underscore hunderscore'
        have hapart := hjoined.keysApart hcollision'
        have hkeys := Reached.keysTold h hrequests.2 hfresh.2 hapart m.deviceId
        apply hold.registered hr hrequests.1.1 h hfresh.2 hapart
        apply hkeys.mem_oldNodes (Reached.typed h) hr
        · intro accounts hlast a ha b hb hkey
          obtain ⟨hlisted, -⟩ := Reached.lastTold_drawn h hfresh.2 hapart hlast ha
          obtain ⟨hlisted', -⟩ := Reached.lastTold_drawn h hfresh.2 hapart hlast hb
          exact (hjoined.ownKey hcollision' hlisted' _ _ hlisted hkey).2
        · exact hone.1 m valid rfl
      · exact hold.silent hsilent

/-- A device registers its account twice. -/
def Sample.registeredTwice : List Event :=
  registration ++ [setPushAccounts "phone" ["alice"] phone_alice]

theorem booked_of_oneNode_registration :
  Booked (Sample.run Sample.registeredTwice).1
  := by
  obtain ⟨hlast, hfresh, hcollision⟩ :
      lastTold (Sample.run Sample.registration).1 "phone" = some [Sample.alice]
        ∧ Admitted (Fresh Sample.oracle) (Sample.run Sample.registeredTwice).1
        ∧ NoCollision Sample.platform (Sample.run Sample.registeredTwice).1 := by
    decide +kernel
  apply booked_of_oneNode (Sample.reached_run Sample.registeredTwice)
  · exact ⟨⟨rfl, trivial⟩, ⟨rfl, trivial⟩, ⟨rfl, trivial⟩, trivial⟩
  · apply hfresh
  · apply hcollision
  · intro d hd
    have hnamed : ∀ d ∈ named (Sample.run Sample.registeredTwice).1, '_' ∉ d.toList := by decide
    exact hnamed d (mem_named.mpr hd)
  · refine ⟨?_, ?_, nofun, trivial⟩
    · rintro m valid ⟨⟩ accounts haccounts
      cases hlast.symm.trans haccounts
      intro a ha b hb _
      rw [List.mem_singleton.mp ha, List.mem_singleton.mp hb]
    · rintro m valid ⟨⟩ accounts ⟨⟩

theorem Sample.alice_alice :
  (Message.setPushAccounts (.ofFields ["alice", "alice"] "phone")).Valid
  := by decide

/-- A device registers an account id twice in one request, and then once. -/
def Sample.listedTwice : List Event :=
  [setChannelUri "phone" phone_channelUri,
    setPushAccounts "phone" ["alice", "alice"] alice_alice,
    setPushAccounts "phone" ["alice"] phone_alice]

/-- The first of two nodes that were told for one account id stays on the XMPP server. -/
theorem not_booked_listedTwice :
  let past := (Sample.run Sample.listedTwice).1
  Reached Sample.platform Sample.config Sample.oracle past (Sample.run Sample.listedTwice).2
    ∧ (Admitted IsRequest past ∧ Admitted (Fresh Sample.oracle) past
      ∧ NoCollision Sample.platform past ∧ ∀ d, Named past d → '_' ∉ d.toList)
    ∧ ¬Booked past
  := by
  intro past
  have hnamed : ∀ d ∈ named past, d = "phone" := by decide
  let first := Sample.next (Sample.listedTwice.take 1)
    (Sample.setPushAccounts "phone" ["alice", "alice"] Sample.alice_alice)
  let second := Sample.next (Sample.listedTwice.take 2)
    (Sample.setPushAccounts "phone" ["alice"] Sample.phone_alice)
  let before : List Output :=
    [.iq (.publishEmpty (Sample.oracle.node 1)), .iq (.subscribe (Sample.oracle.node 1))]
  let after : List Output :=
    [.iq (.subscribe (Sample.oracle.node 0)), .reply (.successSetPushAccounts (.ofFields
      [Sample.alice, ⟨"alice", Sample.oracle.node 1, Sample.oracle.secret 1, true⟩]
      Sample.config.xmpp.bareJid))]
  obtain ⟨hfresh, hcollision, hcreates, hkept, hlast⟩ :
      Admitted (Fresh Sample.oracle) (Sample.run Sample.listedTwice).1
        ∧ NoCollision Sample.platform (Sample.run Sample.listedTwice).1
        ∧ (outputs first = before ++ .iq (.publishEmpty (Sample.oracle.node 0)) :: after
          ∧ .iq (.delete (Sample.oracle.node 0)) ∉ after)
        ∧ .iq (.delete (Sample.oracle.node 0)) ∉ outputs second
        ∧ lastTold (Sample.run Sample.listedTwice).1 "phone"
          = some [⟨"alice", Sample.oracle.node 1, Sample.oracle.secret 1, true⟩] := by
    decide +kernel
  refine ⟨Sample.reached_run _, ⟨⟨⟨rfl, trivial⟩, ⟨rfl, trivial⟩, ⟨rfl, trivial⟩, trivial⟩,
    hfresh, hcollision, ?_⟩, ?_⟩
  · intro d hd
    rw [hnamed d (mem_named.mpr hd)]
    decide
  · intro hbooked
    have halive : Alive (Sample.oracle.node 0) past :=
      .inr ⟨.inl ⟨before, after, hcreates⟩, hkept⟩
    obtain ⟨d, accounts, hlast', hnode⟩ := (hbooked _).mp halive
    obtain rfl := hnamed d (mem_named.mpr (named_of_lastTold hlast'))
    cases hlast.symm.trans hlast'
    revert hnode
    decide

end UwpxPush
