import UwpxPush.Server.Ownership

/-!
# Stability of registrations

A device that registers an account again is given the node and the secret that it was given
first, as long as each registration finds the record of the node with exactly three entries.
-/

namespace UwpxPush

open KeyValue

/-- No entry expires in a transition. -/
def Unexpired (_ : History) (t : Transition Event World) : Prop :=
  ∀ dt, t.event = .advance dt → t.after.contents = t.before.contents

/-- The requests of the device list no account twice. -/
def Distinct (past : History) (deviceId : String) : Prop :=
  ∀ t ∈ past, t.event.deviceId = some deviceId → t.event.accounts.Nodup

/-- No response to the device has given the account. -/
def Untold (past : History) (deviceId accountId : String) : Prop :=
  ∀ t ∈ past, ∀ accounts ∈ told t deviceId, accountId ∉ accounts.map PushAccount.accountId

/-- Every response to the device gives the account the same node and secret. -/
def Stable (past : History) (deviceId : String) (account : PushAccount) : Prop :=
  ∀ t ∈ past, ∀ accounts, told t deviceId = some accounts → ∀ a ∈ accounts,
    a.accountId = account.accountId → a.node = account.node ∧ a.secret = account.secret

/-- Whenever the account is registered, its account key holds a node whose record has exactly
three entries. -/
def Intact (platform : Platform) (past : History) (deviceId accountId : String) : Prop :=
  ∀ t ∈ past, told t deviceId ≠ none → accountId ∈ t.event.accounts →
    t.before.contents.reusable platform deviceId accountId ≠ none

/-- The account key of the account of the device is of no other account that was listed. -/
def OwnKey (platform : Platform) (past : History) (deviceId accountId : String) : Prop :=
  ∀ deviceId' accountId', Listed past deviceId' accountId' →
    RedisClient.genAccount platform deviceId' accountId'
      = RedisClient.genAccount platform deviceId accountId →
    deviceId' = deviceId ∧ accountId' = accountId

/-- The account key of an account that the device was told holds no other node than that of
the account, and the record of this node has the secret of the account. -/
structure Contents.Held (platform : Platform) (c : Contents) (deviceId : String)
    (account : PushAccount) : Prop where
  key : ∀ node, c.nodeUnder (accountKey platform deviceId account) = some node →
    node = account.node
  secret : account.secret ∈ (c.elements account.node).drop 2

section

variable {platform : Platform} {config : Configuration} {oracle : Oracle}
  {past newer older : History} {t : Transition Event World} {w w' : World} {e : Event}
  {deviceId : String} {account : PushAccount}

instance (past : History) (deviceId : String) : Decidable (Distinct past deviceId) :=
  inferInstanceAs (Decidable (∀ t ∈ past, _))

instance (past : History) (deviceId accountId : String) :
    Decidable (Untold past deviceId accountId) :=
  inferInstanceAs (Decidable (∀ t ∈ past, _))

instance (past : History) (deviceId accountId : String) :
    Decidable (Intact platform past deviceId accountId) :=
  inferInstanceAs (Decidable (∀ t ∈ past, _))

theorem OwnKey.of_cons {accountId : String}
    (h : OwnKey platform (t :: past) deviceId accountId) :
  OwnKey platform past deviceId accountId
  := by
  intro d a hlisted
  apply h d a hlisted.cons

theorem OwnKey.of_append {accountId : String}
    (h : OwnKey platform (newer ++ older) deviceId accountId) :
  OwnKey platform older deviceId accountId
  := by
  intro d a hlisted
  apply h d a (hlisted.append newer)

/-- Where the accounts of different devices are joined to different strings, and these have
different hashes, an account key is of one account. -/
theorem JoinedApart.ownKey (h : JoinedApart past) (hcollision : NoCollision platform past)
    {accountId : String} (hlisted : Listed past deviceId accountId) :
  OwnKey platform past deviceId accountId
  := by
  intro d a hd hkey
  have hjoined := hcollision d a deviceId accountId hd hlisted hkey
  obtain rfl := h d a deviceId accountId hd hlisted hjoined
  exact ⟨rfl, (String.append_right_inj _).mp hjoined⟩

/-- An account that is given again is given its node and its secret. -/
theorem Contents.Held.reusable {c : Contents} (h : c.Held platform deviceId account)
    {node secret : String}
    (hr : c.reusable platform deviceId account.accountId = some (node, secret)) :
  node = account.node ∧ secret = account.secret
  := by
  obtain ⟨hnode, hsecret⟩ := Contents.reusable_eq_some.mp hr
  have hn := h.key node hnode
  obtain ⟨a, d, hlist⟩ := Contents.secretOf_eq_some.mp hsecret
  have hmem := h.secret
  rw [← hn, hlist] at hmem
  exact ⟨hn, (List.mem_singleton.mp hmem).symm⟩

/-- What is held depends on the account key and the record of the node. -/
theorem Contents.Held.of_eq {c c' : Contents} (h : c.Held platform deviceId account)
    (hkey : c' (accountKey platform deviceId account) = c (accountKey platform deviceId account))
    (hnode : c' account.node = c account.node) :
  c'.Held platform deviceId account
  := by
  constructor
  · intro node hn
    apply h.key
    unfold nodeUnder at hn ⊢
    rw [hkey] at hn
    apply hn
  · rw [elements_eq_of_apply_eq hnode]
    apply h.secret

/-- A list has no node under it. -/
theorem Contents.nodeUnder_of_list {c : Contents} {k : String} {l : List String}
    {d : Option Int} (h : c k = some ⟨.list l, d⟩) :
  c.nodeUnder k = none
  := by
  rw [nodeUnder, h]

/-- What comes after the first entries of a list is still there when the list grows. -/
theorem mem_drop_append_left {α : Type} {a : α} {n : ℕ} {l : List α} (h : a ∈ l.drop n)
    (l' : List α) :
  a ∈ (l ++ l').drop n
  := by
  rw [List.drop_append]
  apply List.mem_append_left _ h

/-! ### The steps -/

/-- The accounts of a registration are those that the message lists. -/
theorem PushServer.Registered.mem_accounts {version channelUri : String}
    {accounts oldNodes : List String} {pushAccounts : List PushAccount}
    (h : PushServer.Registered platform config oracle deviceId version accounts w w' channelUri
      oldNodes pushAccounts) {a : PushAccount} (ha : a ∈ pushAccounts) :
  a.accountId ∈ accounts
  := by
  have hids : pushAccounts.map PushAccount.accountId = accounts := by
    rw [h.resolved, PushServer.map_accountId_resolveAll]
  rw [← hids]
  apply List.mem_map_of_mem ha

/-- An account whose key is own is registered by its device only. -/
theorem OwnKey.registered {m : SetPushAccountsMessage} {valid : (Message.setPushAccounts m).Valid}
    {version channelUri : String} {oldNodes : List String} {pushAccounts : List PushAccount}
    {accountId : String}
    (hown : OwnKey platform (⟨.received (.setPushAccounts m) valid, w, w'⟩ :: past) deviceId
      accountId)
    (h : PushServer.Registered platform config oracle m.deviceId version m.accounts w w'
      channelUri oldNodes pushAccounts) {a : PushAccount} (ha : a ∈ pushAccounts)
    (hkey : Contents.accountKey platform m.deviceId a
      = RedisClient.genAccount platform deviceId accountId) :
  m.deviceId = deviceId ∧ a.accountId = accountId
  := hown _ _ ⟨_, List.mem_cons_self, rfl, h.mem_accounts ha⟩ hkey

/-- A registration keeps what is held, if it finds the record of the node intact. -/
theorem Contents.Held.registered {m : SetPushAccountsMessage}
    {valid : (Message.setPushAccounts m).Valid} {channelUri : String} {oldNodes : List String}
    {pushAccounts : List PushAccount}
    (hr : PushServer.Registered platform config oracle m.deviceId (toString m.version)
      m.accounts w w' channelUri oldNodes pushAccounts)
    (hw : w.contents.Typed) (hnode : account.node.length = 15)
    (hsecret : account.secret.length = 15)
    (hown : OwnKey platform (⟨.received (.setPushAccounts m) valid, w, w'⟩ :: past) deviceId
      account.accountId)
    (hintact : m.deviceId = deviceId → account.accountId ∈ m.accounts →
      w.contents.reusable platform deviceId account.accountId ≠ none)
    (h : w.contents.Held platform deviceId account) :
  w'.contents.Held platform deviceId account
  := by
  constructor
  · intro node hn
    rcases hr.contents_cases hw (accountKey platform deviceId account) with
      hd | ⟨-, a, ha, hkey, hs⟩ | ⟨-, -, hs⟩ | ⟨-, -, -, hframe⟩
    · rw [hd, nodeUnder_of_list hr.contents_device] at hn
      cases hn
    · obtain ⟨rfl, hid⟩ := hown.registered hr ha hkey
      have hmem := hr.mem_accounts ha
      obtain ⟨d, hd⟩ := nodeUnder_eq_some.mp hn
      rw [hs] at hd
      cases hd
      obtain ⟨⟨n, s⟩, hreuse⟩ := Option.ne_none_iff_exists'.mp (hintact rfl (hid ▸ hmem))
      rw [hr.resolved, PushServer.mem_resolveAll] at ha
      obtain ⟨j, accountId, -, rfl⟩ := ha
      rw [PushServer.accountId_resolve] at hid
      rw [PushServer.resolve, hid, hreuse]
      apply (h.reusable hreuse).1
    · rw [nodeUnder_of_list hs] at hn
      cases hn
    · obtain ⟨d, hd⟩ := nodeUnder_eq_some.mp hn
      rw [hframe] at hd
      split at hd
      · cases hd
      · apply h.key node (nodeUnder_eq_some.mpr ⟨d, hd⟩)
  · rcases hr.contents_cases hw account.node with
      hd | ⟨-, a, -, hkey, -⟩ | ⟨-, -, hs⟩ | ⟨-, -, -, hframe⟩
    · -- The device would have the secret among its account keys.
      have hlength := hr.length_old_key hw (hd ▸ h.secret)
      omega
    · have hlength := congrArg String.length hkey
      rw [length_accountKey] at hlength
      omega
    · rw [elements_of_eq hs]
      apply mem_drop_append_left h.secret
    · rw [elements_eq_of_apply_eq (c := w.contents)]
      · apply h.secret
      · rw [hframe, if_neg]
        intro hmem
        have hlength := hr.length_old_key hw hmem
        omega

/-- A new channel URI keeps what is held. -/
theorem Contents.Held.channelUri {c : Contents} (h : c.Held platform deviceId account)
    (deadline : Int) (device uri : String) :
  (c.setChannelUri deadline device uri).Held platform deviceId account
  := by
  constructor
  · intro node hn
    apply h.key
    unfold setChannelUri at hn
    by_cases hk : accountKey platform deviceId account = device
    · rw [nodeUnder_of_list (by rw [putList, if_pos hk])] at hn
      cases hn
    · unfold nodeUnder at hn ⊢
      rw [putList, if_neg hk] at hn
      apply hn
  · by_cases hk : account.node = device
    · have htail : (c.setChannelUri deadline device uri).elements account.node
          = uri :: (c.elements account.node).tail := by
        rw [hk]
        exact elements_of_eq (if_pos rfl)
      rw [htail, List.drop_succ_cons, ← List.drop_one, List.drop_drop]
      apply h.secret
    · rw [elements_eq_of_apply_eq (c := c)]
      · apply h.secret
      · exact if_neg hk

/-- Every move keeps what is held, if registrations find the record of the node intact. -/
theorem Contents.Held.move (hmove : Move platform config oracle w e w')
    (hw : w.contents.Typed) (hnode : account.node.length = 15)
    (hsecret : account.secret.length = 15) (hunexpired : Unexpired past ⟨e, w, w'⟩)
    (hown : OwnKey platform (⟨e, w, w'⟩ :: past) deviceId account.accountId)
    (hintact : told ⟨e, w, w'⟩ deviceId ≠ none → account.accountId ∈ e.accounts →
      w.contents.reusable platform deviceId account.accountId ≠ none)
    (h : w.contents.Held platform deviceId account) :
  w'.contents.Held platform deviceId account
  := by
  cases hmove with
  | registered hr =>
      apply h.registered hr hw hnode hsecret hown
      rintro rfl
      apply hintact
      rw [told_registered hr]
      nofun
  | refused hr =>
      have hsame : w'.contents = w.contents := by rw [World.contents, hr.redis, World.contents]
      rw [hsame]
      apply h
  | channelUri uri contents clock connected created log =>
      rw [contents]
      apply h.channelUri
  | other ho =>
      apply h.of_eq
      · apply ho.lookup
        intro heq
        have hlength := congrArg String.length heq
        rw [length_accountKey] at hlength
        cases hlength
      · apply ho.lookup
        intro heq
        rw [heq] at hnode
        cases hnode
  | connection up => apply h
  | advance dt =>
      have hsame := hunexpired dt rfl
      simp only at hsame
      rw [hsame]
      apply h

/-! ### The first response -/

/-- Before a device is told an account, the account key holds no node. -/
theorem Reached.nodeUnder_untold (h : Reached platform config oracle past w) {accountId : String}
    (hown : OwnKey platform past deviceId accountId)
    (huntold : Untold past deviceId accountId) :
  w.contents.nodeUnder (RedisClient.genAccount platform deviceId accountId) = none
  := by
  revert hown huntold
  apply h.invariant (I := fun past w => OwnKey platform past deviceId accountId →
    Untold past deviceId accountId →
    w.contents.nodeUnder (RedisClient.genAccount platform deviceId accountId) = none)
  · intro w hw _ _
    have hnone : w.contents (RedisClient.genAccount platform deviceId accountId) = none := by
      simp [World.contents, Store.lookup, hw.redis]
    rw [Contents.nodeUnder, hnone]
  · intro past w e w' hreached _ hmove ih hown huntold
    have hbefore := ih (hown.of_cons)
      fun t ht => huntold t (List.mem_cons_of_mem _ ht)
    rw [Option.eq_none_iff_forall_ne_some] at hbefore ⊢
    intro node hn
    obtain ⟨d, hd⟩ := Contents.nodeUnder_eq_some.mp hn
    rcases hmove.registered_or with ⟨m, valid, channelUri, oldNodes, pushAccounts, rfl, hr⟩
      | ⟨hstrings, -⟩
    · rcases hr.contents_cases hreached.typed
          (RedisClient.genAccount platform deviceId accountId) with
        heq | ⟨-, a, ha, hkey, -⟩ | ⟨-, -, hs⟩ | ⟨-, -, -, hframe⟩
      · rw [heq, Contents.nodeUnder_of_list hr.contents_device] at hn
        cases hn
      · obtain ⟨rfl, rfl⟩ := hown.registered hr ha hkey
        apply huntold _ List.mem_cons_self _ (told_registered hr)
        rw [PushServer.map_accountId_answer]
        apply List.mem_map_of_mem ha
      · rw [Contents.nodeUnder_of_list hs] at hn
        cases hn
      · rw [hframe] at hd
        split at hd
        · cases hd
        · exact hbefore node (Contents.nodeUnder_eq_some.mpr ⟨d, hd⟩)
    · exact hbefore node (Contents.nodeUnder_eq_some.mpr ⟨d, hstrings _ _ _ hd⟩)

/-- The record of a node receives the secrets of its accounts. -/
theorem Contents.secret_mem_records {accounts : List PushAccount} (ha : account ∈ accounts)
    (l : List String) :
  account.secret ∈ (l ++ records deviceId accounts account.node).drop 2
  := by
  obtain ⟨before, after, rfl⟩ := List.append_of_mem ha
  have hsplit : l ++ records deviceId (before ++ account :: after) account.node
      = (l ++ records deviceId before account.node ++ [account.accountId, deviceId])
        ++ account.secret :: records deviceId after account.node := by
    simp [records]
  rw [hsplit, List.drop_append_of_le_length]
  · apply List.mem_append_right _ List.mem_cons_self
  · rw [List.length_append]
    apply Nat.le_add_left

/-- A device that is told an account for the first time is told a new node and secret, and the
store holds them. -/
theorem PushServer.Registered.held {m : SetPushAccountsMessage}
    {valid : (Message.setPushAccounts m).Valid} {channelUri : String} {oldNodes : List String}
    {pushAccounts : List PushAccount}
    (hr : PushServer.Registered platform config oracle m.deviceId (toString m.version)
      m.accounts w w' channelUri oldNodes pushAccounts)
    (hw : w.contents.Typed) (hdistinct : m.accounts.Nodup)
    (hdevice : ∀ i, oracle.node i ≠ m.deviceId) (ha : account ∈ pushAccounts)
    (hown : OwnKey platform (⟨.received (.setPushAccounts m) valid, w, w'⟩ :: past) m.deviceId
      account.accountId)
    (hfree : w.contents.nodeUnder
      (RedisClient.genAccount platform m.deviceId account.accountId) = none) :
  account.node.length = 15 ∧ account.secret.length = 15
    ∧ w'.contents.Held platform m.deviceId account
  := by
  have hnew : ∃ i, account.node = oracle.node i ∧ account.secret = oracle.secret i := by
    rw [hr.resolved, mem_resolveAll] at ha
    obtain ⟨j, accountId, -, rfl⟩ := ha
    rw [accountId_resolve] at hfree
    have hnone : w.contents.reusable platform m.deviceId accountId = none := by
      rw [Contents.reusable, hfree]
    rw [resolve, hnone]
    exact ⟨w.created + j, rfl, rfl⟩
  obtain ⟨i, hnode, hsecret⟩ := hnew
  have hlength : account.node.length = 15 := by rw [hnode, oracle.length_node]
  use hlength, by rw [hsecret, oracle.length_secret]
  have hids : (pushAccounts.map PushAccount.accountId).Nodup := by
    rw [hr.resolved, map_accountId_resolveAll]
    apply hdistinct
  constructor
  · intro node hn
    rcases hr.contents_cases hw (Contents.accountKey platform m.deviceId account) with
      hd | ⟨-, a, haccount, hkey, hs⟩ | ⟨-, -, hs⟩ | ⟨-, hkey, -⟩
    · rw [hd, Contents.nodeUnder_of_list hr.contents_device] at hn
      cases hn
    · obtain ⟨-, hid⟩ := hown.registered hr haccount hkey
      obtain rfl := List.inj_on_of_nodup_map hids haccount ha hid
      obtain ⟨d, hd⟩ := Contents.nodeUnder_eq_some.mp hn
      rw [hs] at hd
      cases hd
      rfl
    · rw [Contents.nodeUnder_of_list hs] at hn
      cases hn
    · exact (hkey account ha rfl).elim
  · rcases hr.contents_cases hw account.node with
      hd | ⟨-, a, -, hkey, -⟩ | ⟨-, -, hs⟩ | ⟨-, -, hn, -⟩
    · exact (hdevice i (hnode ▸ hd)).elim
    · have heq := congrArg String.length hkey
      rw [Contents.length_accountKey] at heq
      omega
    · rw [Contents.elements_of_eq hs]
      apply Contents.secret_mem_records ha
    · exact (hn account ha rfl).elim

/-! ### Whole runs -/

/-- What is held after a transition is held from then on, if no entry expires, the account key
is own, and registrations find the record of the node intact. -/
theorem Reached.held (h : Reached platform config oracle (newer ++ t :: older) w)
    (hunexpired : Admitted Unexpired (newer ++ t :: older))
    (hown : OwnKey platform (newer ++ t :: older) deviceId account.accountId)
    (hnode : account.node.length = 15) (hsecret : account.secret.length = 15)
    (hintact : Intact platform newer deviceId account.accountId)
    (hheld : t.after.contents.Held platform deviceId account) :
  w.contents.Held platform deviceId account
  := by
  induction newer generalizing w with
  | nil =>
      cases h with
      | next h e => apply hheld
  | cons u newer ih =>
      cases h with
      | @next _ w h e =>
          have hbefore := ih h hunexpired.2 (hown.of_cons)
            fun v hv => hintact v (List.mem_cons_of_mem _ hv)
          have hmove := handle_move platform config oracle w (Reached.typed h) e
          apply hbefore.move hmove (Reached.typed h) hnode hsecret hunexpired.1 hown
          apply hintact _ List.mem_cons_self

/-- An account that is held is told with its node and its secret. -/
theorem Contents.Held.told (hmove : Move platform config oracle w e w')
    (h : w.contents.Held platform deviceId account) {accounts : List PushAccount}
    (htold : told ⟨e, w, w'⟩ deviceId = some accounts)
    (hintact : account.accountId ∈ e.accounts →
      w.contents.reusable platform deviceId account.accountId ≠ none)
    {a : PushAccount} (ha : a ∈ accounts) (hid : a.accountId = account.accountId) :
  a.node = account.node ∧ a.secret = account.secret
  := by
  obtain ⟨m, valid, channelUri, oldNodes, pushAccounts, rfl, rfl, hr, rfl⟩ := hmove.told htold
  obtain ⟨b, hb, hbid, hbnode, hbsecret⟩ := PushServer.mem_answer ha
  have hlisted := hr.mem_accounts hb
  rw [← hbid, hid] at hlisted
  obtain ⟨⟨n, s⟩, hreuse⟩ := Option.ne_none_iff_exists'.mp (hintact hlisted)
  rw [hr.resolved, PushServer.mem_resolveAll] at hb
  obtain ⟨j, accountId, -, rfl⟩ := hb
  rw [PushServer.accountId_resolve, hid] at hbid
  rw [hbnode, hbsecret, PushServer.resolve, ← hbid, hreuse]
  apply h.reusable hreuse

end

/-- A device that is told an account for the first time in a run without expiry, whose id is
not the name of a node and joins with its accounts to strings of its own, is told the same
node and secret in every later response, if the registrations find the record of the node
with exactly three entries. -/
theorem stable_of_intact {platform : Platform} {config : Configuration} {oracle : Oracle}
    {newer older : History} {t : Transition Event World} {w : World} {deviceId : String}
    {accounts : List PushAccount} {account : PushAccount}
    (h : Reached platform config oracle (newer ++ t :: older) w)
    (hunexpired : Admitted Unexpired (newer ++ t :: older))
    (hcollision : NoCollision platform (newer ++ t :: older))
    (hjoined : JoinedApart (newer ++ t :: older)) (hdevice : ∀ i, oracle.node i ≠ deviceId)
    (hdistinct : Distinct (newer ++ t :: older) deviceId)
    (htold : told t deviceId = some accounts) (haccount : account ∈ accounts)
    (hfirst : Untold older deviceId account.accountId)
    (hintact : Intact platform newer deviceId account.accountId) :
  Stable newer deviceId account
  := by
  obtain ⟨hbefore, hafter⟩ := Run.split h
  have hmove : Move platform config oracle t.before t.event t.after := by
    rw [hafter]
    apply handle_move platform config oracle t.before (Reached.typed hbefore)
  obtain ⟨m, valid, channelUri, oldNodes, pushAccounts, he, rfl, hr, rfl⟩ := hmove.told htold
  obtain ⟨b, hb, hid, hnode, hsecret⟩ := PushServer.mem_answer haccount
  obtain ⟨e, before, after⟩ := t
  simp only at he
  subst he
  rw [hid] at hfirst hintact
  have hown : OwnKey platform _ m.deviceId b.accountId :=
    hjoined.ownKey hcollision
      ⟨_, List.mem_append_right newer List.mem_cons_self, rfl, hr.mem_accounts hb⟩
  have hfree := Reached.nodeUnder_untold hbefore
    (hown.of_append.of_cons) hfirst
  obtain ⟨hlength, hlength', hheld⟩ := hr.held (Reached.typed hbefore)
    (hdistinct _ (List.mem_append_right newer List.mem_cons_self) rfl) hdevice hb
    hown.of_append hfree
  intro u hu accounts hu' a ha ha'
  rw [hid] at ha'
  rw [hnode, hsecret]
  obtain ⟨later, earlier, rfl⟩ := List.append_of_mem hu
  rw [List.append_assoc, List.cons_append] at h hunexpired hown
  obtain ⟨hreached, hnext⟩ := Run.split h
  have hheld' := Reached.held hreached hunexpired.of_append.2
    (hown.of_append.of_cons) hlength hlength'
    (fun v hv => hintact v (by simp [hv])) hheld
  have hmove' : Move platform config oracle u.before u.event u.after := by
    rw [hnext]
    apply handle_move platform config oracle u.before (Reached.typed hreached)
  apply hheld'.told hmove' hu' _ ha ha'
  apply hintact u hu
  rw [hu']
  rintro ⟨⟩

/-- The registration of an account by a device that has just set its channel URI. -/
def Sample.first : Transition Event World :=
  Sample.next [Sample.setChannelUri "phone" Sample.phone_channelUri]
    (Sample.setPushAccounts "phone" ["alice"] Sample.phone_alice)

/-- The account the device is told. -/
def Sample.alice : PushAccount :=
  ⟨"alice", Sample.oracle.node 0, Sample.oracle.secret 0, true⟩

/-- The registration of the same account after some registrations of it. -/
def Sample.again (n : ℕ) : Transition Event World :=
  Sample.next (Sample.registration
      ++ List.replicate n (Sample.setPushAccounts "phone" ["alice"] Sample.phone_alice))
    (Sample.setPushAccounts "phone" ["alice"] Sample.phone_alice)

theorem Sample.node_ne_phone (i : ℕ) :
  Sample.oracle.node i ≠ "phone"
  := by
  intro heq
  have hlength := congrArg String.length heq
  rw [Oracle.length_node] at hlength
  cases hlength

/-- A device that registers its account twice. -/
theorem stable_of_intact_registration :
  Stable [Sample.again 0] "phone" Sample.alice
  := by
  have hreached : Reached Sample.platform Sample.config Sample.oracle
      ([Sample.again 0] ++ Sample.first
        :: (Sample.run [Sample.setChannelUri "phone" Sample.phone_channelUri]).1)
      (Sample.again 0).after :=
    Sample.reached_run (Sample.registration
      ++ [Sample.setPushAccounts "phone" ["alice"] Sample.phone_alice])
  obtain ⟨hcollision, hjoined, hdistinct, htold, huntold, hintact⟩ :
      let older := (Sample.run [Sample.setChannelUri "phone" Sample.phone_channelUri]).1
      let past := [Sample.again 0] ++ Sample.first :: older
      NoCollision Sample.platform past ∧ JoinedApart past ∧ Distinct past "phone"
        ∧ told Sample.first "phone" = some [Sample.alice] ∧ Untold older "phone" "alice"
        ∧ Intact Sample.platform [Sample.again 0] "phone" "alice" := by
    decide +kernel
  exact stable_of_intact hreached ⟨nofun, nofun, nofun, trivial⟩ hcollision hjoined
    Sample.node_ne_phone hdistinct htold List.mem_cons_self huntold hintact

/-- The third registration of the account finds six entries in the record of its node, and
tells the device another node. -/
theorem not_stable_registration :
  Reached Sample.platform Sample.config Sample.oracle
      ([Sample.again 1, Sample.again 0] ++ Sample.first
        :: (Sample.run [Sample.setChannelUri "phone" Sample.phone_channelUri]).1)
      (Sample.again 1).after
    ∧ (let past := [Sample.again 1, Sample.again 0] ++ Sample.first
        :: (Sample.run [Sample.setChannelUri "phone" Sample.phone_channelUri]).1
      Admitted Unexpired past ∧ Admitted (Fresh Sample.oracle) past
        ∧ NoCollision Sample.platform past ∧ JoinedApart past ∧ Distinct past "phone")
    ∧ told Sample.first "phone" = some [Sample.alice]
    ∧ Untold (Sample.run [Sample.setChannelUri "phone" Sample.phone_channelUri]).1 "phone" "alice"
    ∧ (∀ t ∈ [Sample.again 1, Sample.again 0], "alice" ∈ t.event.accounts)
    ∧ ¬Stable [Sample.again 1, Sample.again 0] "phone" Sample.alice
  := by
  obtain ⟨hpast, htold, huntold, haccounts, htold'⟩ :
      let older := (Sample.run [Sample.setChannelUri "phone" Sample.phone_channelUri]).1
      let past := [Sample.again 1, Sample.again 0] ++ Sample.first :: older
      (Admitted (Fresh Sample.oracle) past ∧ NoCollision Sample.platform past ∧ JoinedApart past
          ∧ Distinct past "phone")
        ∧ told Sample.first "phone" = some [Sample.alice] ∧ Untold older "phone" "alice"
        ∧ (∀ t ∈ [Sample.again 1, Sample.again 0], "alice" ∈ t.event.accounts)
        ∧ told (Sample.again 1) "phone"
          = some [⟨"alice", Sample.oracle.node 2, Sample.oracle.secret 2, true⟩] := by
    decide +kernel
  refine ⟨Sample.reached_run (Sample.registration
      ++ List.replicate 2 (Sample.setPushAccounts "phone" ["alice"] Sample.phone_alice)),
    ⟨⟨nofun, nofun, nofun, nofun, trivial⟩, hpast⟩, htold, huntold, haccounts, ?_⟩
  intro hstable
  have hsame := (hstable _ List.mem_cons_self _ htold' _ List.mem_cons_self rfl).1
  revert hsame
  decide +kernel

end UwpxPush
