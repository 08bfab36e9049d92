import UwpxPush.Server.Runs

/-!
# Who owns a node

In every world of a run whose names are new, the node under an account key is one that was
drawn for an account with that key, and the list of the node has the secret that was drawn
with it as its third entry and lasts at least as long as the account key.  So what an account
is given again is what was drawn for an account with the same key.
-/

namespace UwpxPush

open KeyValue

/-- The node under an account key was drawn as the `i`-th for an account with that key, and
its list lasts as long as the key. -/
structure Owned (platform : Platform) (oracle : Oracle) (past : History) (w : World)
    (k node : String) (deadline : Option Int) (i : Nat) (deviceId accountId : String) :
    Prop where
  drawn : Drawn past i deviceId accountId
  node_eq : node = oracle.node i
  key_eq : k = RedisClient.genAccount platform deviceId accountId
  record : ∃ t u a b l, deadline = some t ∧ t ≤ w.redis.clock + timeout ∧ t ≤ u
    ∧ w.contents node = some ⟨.list (a :: b :: oracle.secret i :: l), some u⟩

/-- Every string of the store is a node with an owner. -/
def AllOwned (platform : Platform) (oracle : Oracle) (past : History) (w : World) : Prop :=
  ∀ k node deadline, w.contents k = some ⟨.string node, deadline⟩ →
    ∃ i deviceId accountId, Owned platform oracle past w k node deadline i deviceId accountId

/-- Lists are under the key of the WNS token, under devices and under nodes. -/
def ListsPlaced (oracle : Oracle) (past : History) (w : World) : Prop :=
  ∀ k l deadline, w.contents k = some ⟨.list l, deadline⟩ →
    k = RedisClient.WNS_TOKEN_KEY ∨ Named past k ∨ ∃ i < w.created, k = oracle.node i

section

variable {platform : Platform} {config : Configuration} {oracle : Oracle} {past : History}
  {t : Transition Event World} {w w' : World} {e : Event}

namespace PushServer.Registered

variable {deviceId version channelUri : String} {accounts oldNodes : List String}
  {pushAccounts : List PushAccount}

/-- Each account key in the list of the device holds an old node. -/
theorem old_key (h : Registered platform config oracle deviceId version accounts w w'
      channelUri oldNodes pushAccounts) {k : String}
    (hk : k ∈ (w.contents.elements deviceId).drop 2) :
  ∃ node ∈ oldNodes, w.contents.nodeUnder k = some node
  := by
  have hmem := List.mem_map_of_mem (f := w.contents.nodeUnder) hk
  rw [h.old, List.mem_map] at hmem
  obtain ⟨node, hnode, heq⟩ := hmem
  exact ⟨node, hnode, heq.symm⟩

/-- Each old node is under an account key in the list of the device. -/
theorem old_node (h : Registered platform config oracle deviceId version accounts w w'
      channelUri oldNodes pushAccounts) {node : String} (hn : node ∈ oldNodes) :
  ∃ k ∈ (w.contents.elements deviceId).drop 2, w.contents.nodeUnder k = some node
  := by
  have hmem := List.mem_map_of_mem (f := some) hn
  rw [← h.old, List.mem_map] at hmem
  apply hmem

/-- The account keys in the list of the device are as long as hashes. -/
theorem length_old_key (h : Registered platform config oracle deviceId version accounts w w'
      channelUri oldNodes pushAccounts) (hw : w.contents.Typed) {k : String}
    (hk : k ∈ (w.contents.elements deviceId).drop 2) :
  k.length = 64
  := by
  obtain ⟨node, -, hnode⟩ := h.old_key hk
  obtain ⟨d, hd⟩ := Contents.nodeUnder_eq_some.mp hnode
  apply (hw _ _ _ hd).1

/-- The nodes of the accounts are as long as names that are drawn. -/
theorem length_node (h : Registered platform config oracle deviceId version accounts w w'
      channelUri oldNodes pushAccounts) (hw : w.contents.Typed) :
  ∀ a ∈ pushAccounts, a.node.length = 15
  := by
  intro a ha
  rw [h.resolved] at ha
  apply length_node_resolveAll hw ha

/-- A node with an owner is not the device that is registered. -/
theorem owned_ne_device (h : Registered platform config oracle deviceId version accounts w w'
      channelUri oldNodes pushAccounts) (hw : w.contents.Typed)
    (howned : AllOwned platform oracle past w) {k node : String} {d : Option Int}
    (hk : w.contents k = some ⟨.string node, d⟩) :
  node ≠ deviceId
  := by
  rintro rfl
  obtain ⟨i, _, _, ho⟩ := howned k node d hk
  obtain ⟨-, u, a, b, l, -, -, -, hrecord⟩ := ho.record
  have hsecret : oracle.secret i ∈ (w.contents.elements node).drop 2 := by
    rw [Contents.elements_of_eq hrecord]
    simp
  have := h.length_old_key hw hsecret
  simp at this

/-- Each account of a registration has a node and a secret that were drawn together, for an
account with the same key. -/
theorem account_owned {m : SetPushAccountsMessage} (valid : (Message.setPushAccounts m).Valid)
    (h : Registered platform config oracle m.deviceId version m.accounts w w'
      channelUri oldNodes pushAccounts)
    (hreached : Reached platform config oracle past w)
    (howned : AllOwned platform oracle past w) {a : PushAccount} (ha : a ∈ pushAccounts) :
  ∃ i deviceId accountId,
    Drawn (⟨.received (.setPushAccounts m) valid, w, w'⟩ :: past) i deviceId accountId
    ∧ a.node = oracle.node i ∧ a.secret = oracle.secret i
    ∧ Contents.accountKey platform m.deviceId a
      = RedisClient.genAccount platform deviceId accountId
    ∧ (w.created ≤ i ∧ deviceId = m.deviceId ∧ accountId = a.accountId
        ∧ w.contents.reusable platform m.deviceId a.accountId = none
        ∧ a.success = false
      ∨ i < w.created
        ∧ w.contents.reusable platform m.deviceId a.accountId = some (a.node, a.secret)
        ∧ a.success = true)
  := by
  rw [h.resolved, mem_resolveAll] at ha
  obtain ⟨j, accountId, hj, rfl⟩ := ha
  unfold resolve
  split
  · next hr =>
      use w.created + j, m.deviceId, accountId
      have hlt : j < m.accounts.length := by
        rw [List.getElem?_eq_some_iff] at hj
        apply hj.1
      refine ⟨?_, rfl, rfl, rfl, .inl ⟨Nat.le_add_right _ _, rfl, rfl, hr, rfl⟩⟩
      refine ⟨_, List.mem_cons_self, rfl, Nat.le_add_right _ _, ?_, ?_⟩
      · simp only [h.created]
        omega
      · simpa [Event.accounts, Message.accounts] using hj
  · next node secret hr =>
      obtain ⟨hnode, hsecret⟩ := Contents.reusable_eq_some.mp hr
      obtain ⟨d, hd⟩ := Contents.nodeUnder_eq_some.mp hnode
      obtain ⟨i, deviceId, accountId', ho⟩ := howned _ _ _ hd
      obtain ⟨t, u, x, y, l, -, -, -, hrecord⟩ := ho.record
      obtain ⟨x', y', hlist⟩ := Contents.secretOf_eq_some.mp hsecret
      rw [Contents.elements_of_eq hrecord] at hlist
      cases hlist
      use i, deviceId, accountId'
      exact ⟨ho.drawn.cons, ho.node_eq, rfl, ho.key_eq,
        .inr ⟨hreached.drawn_lt ho.drawn, hr, rfl⟩⟩

/-- The node of an account is not the device that is registered. -/
theorem account_ne_device {m : SetPushAccountsMessage}
    (valid : (Message.setPushAccounts m).Valid)
    (h : Registered platform config oracle m.deviceId version m.accounts w w'
      channelUri oldNodes pushAccounts)
    (hreached : Reached platform config oracle past w)
    (hreached' : Reached platform config oracle
      (⟨.received (.setPushAccounts m) valid, w, w'⟩ :: past) w')
    (howned : AllOwned platform oracle past w)
    (hfresh : Fresh oracle past ⟨.received (.setPushAccounts m) valid, w, w'⟩)
    {a : PushAccount} (ha : a ∈ pushAccounts) :
  a.node ≠ m.deviceId
  := by
  obtain ⟨i, _, _, hdrawn, hnode, -, -, ⟨hi, -⟩ | ⟨-, hr, -⟩⟩ :=
    h.account_owned valid hreached howned ha
  · rw [hnode]
    intro hd
    apply (hfresh i (hreached'.drawn_lt hdrawn) hi).2
    exact ⟨_, List.mem_cons_self, congrArg some hd.symm⟩
  · obtain ⟨hn, -⟩ := Contents.reusable_eq_some.mp hr
    obtain ⟨d, hd⟩ := Contents.nodeUnder_eq_some.mp hn
    apply h.owned_ne_device hreached.typed howned hd

/-- The entries after a registration. -/
theorem contents_cases (h : Registered platform config oracle deviceId version accounts w w'
      channelUri oldNodes pushAccounts) (hw : w.contents.Typed) (k : String) :
  k = deviceId
    ∨ k ≠ deviceId ∧ (∃ a ∈ pushAccounts, Contents.accountKey platform deviceId a = k
        ∧ w'.contents k = some ⟨.string a.node, some (w.redis.clock + timeout)⟩)
    ∨ k ≠ deviceId ∧ (∃ a ∈ pushAccounts, a.node = k)
      ∧ w'.contents k = some ⟨.list (w.contents.elements k
          ++ Contents.records deviceId pushAccounts k), some (w.redis.clock + timeout)⟩
    ∨ k ≠ deviceId ∧ (∀ a ∈ pushAccounts, Contents.accountKey platform deviceId a ≠ k)
      ∧ (∀ a ∈ pushAccounts, a.node ≠ k)
      ∧ w'.contents k
        = if k ∈ (w.contents.elements deviceId).drop 2 then none else w.contents k
  := by
  rw [h.contents]
  apply Contents.setPushAccounts_cases (h.length_node hw)
  intro k hk
  apply h.length_old_key hw hk

theorem contents_device (h : Registered platform config oracle deviceId version accounts w w'
      channelUri oldNodes pushAccounts) :
  w'.contents deviceId = some ⟨.list (channelUri :: version ::
    pushAccounts.map (Contents.accountKey platform deviceId)), some (w.redis.clock + timeout)⟩
  := by
  rw [h.contents]
  apply Contents.setPushAccounts_device

/-- The entry under a node after a registration. -/
theorem contents_node (h : Registered platform config oracle deviceId version accounts w w'
      channelUri oldNodes pushAccounts) (hw : w.contents.Typed) {node : String}
    (hlen : node.length = 15) (hne : node ≠ deviceId) :
  (∃ a ∈ pushAccounts, a.node = node)
      ∧ w'.contents node = some ⟨.list (w.contents.elements node
          ++ Contents.records deviceId pushAccounts node), some (w.redis.clock + timeout)⟩
    ∨ (∀ a ∈ pushAccounts, a.node ≠ node) ∧ w'.contents node = w.contents node
  := by
  rcases h.contents_cases hw node with hd | ⟨-, a, -, hkey, -⟩ | ⟨-, hlist⟩ | ⟨-, -, hn, hframe⟩
  · exact (hne hd).elim
  · have := congrArg String.length hkey
    rw [Contents.length_accountKey, hlen] at this
    cases this
  · exact .inl hlist
  · apply Or.inr
    use hn
    rw [hframe, if_neg]
    intro hmem
    have := h.length_old_key hw hmem
    omega

/-- The entry under the node of an account. -/
theorem contents_account (h : Registered platform config oracle deviceId version accounts w w'
      channelUri oldNodes pushAccounts) (hw : w.contents.Typed) {a : PushAccount}
    (ha : a ∈ pushAccounts) (hne : a.node ≠ deviceId) :
  w'.contents a.node = some ⟨.list (w.contents.elements a.node
      ++ Contents.records deviceId pushAccounts a.node), some (w.redis.clock + timeout)⟩
  := by
  rcases h.contents_node hw (h.length_node hw a ha) hne with ⟨-, hlist⟩ | ⟨hn, -⟩
  · exact hlist
  · exact (hn a ha rfl).elim

end PushServer.Registered

/-! ### The invariant -/

/-- Where the entry of an owned node can be found again, its owner stays. -/
theorem Owned.mono {k node : String} {d : Option Int} {i : Nat} {deviceId accountId : String}
    (h : Owned platform oracle past w k node d i deviceId accountId)
    (hclock : w.redis.clock ≤ w'.redis.clock)
    (hrecord : ∀ u a b l, w.contents node = some ⟨.list (a :: b :: oracle.secret i :: l), some u⟩ →
      ∃ u' a' b' l', (u ≤ u' ∨ w.redis.clock + timeout ≤ u')
        ∧ w'.contents node = some ⟨.list (a' :: b' :: oracle.secret i :: l'), some u'⟩) :
  Owned platform oracle (t :: past) w' k node d i deviceId accountId
  := by
  obtain ⟨t, u, a, b, l, hd, ht, htu, hentry⟩ := h.record
  obtain ⟨u', a', b', l', hu, hentry'⟩ := hrecord u a b l hentry
  constructor
  · apply h.drawn.cons
  · apply h.node_eq
  · apply h.key_eq
  · use t, u', a', b', l', hd
    constructor
    · omega
    · constructor
      · rcases hu with hu | hu
        · omega
        · omega
      · apply hentry'

theorem ListsPlaced.registered (hlists : ListsPlaced oracle past w) {m : SetPushAccountsMessage}
    {valid : (Message.setPushAccounts m).Valid} {channelUri : String} {oldNodes : List String}
    {pushAccounts : List PushAccount}
    (h : PushServer.Registered platform config oracle m.deviceId (toString m.version)
      m.accounts w w' channelUri oldNodes pushAccounts)
    (hreached : Reached platform config oracle past w)
    (hreached' : Reached platform config oracle
      (⟨.received (.setPushAccounts m) valid, w, w'⟩ :: past) w')
    (howned : AllOwned platform oracle past w) :
  ListsPlaced oracle (⟨.received (.setPushAccounts m) valid, w, w'⟩ :: past) w'
  := by
  intro k l d hk
  rcases h.contents_cases hreached.typed k with rfl | ⟨-, a, -, -, hs⟩ | ⟨-, ⟨a, ha, hnode⟩, -⟩
    | ⟨-, -, -, hframe⟩
  · apply Or.inr
    apply Or.inl
    exact ⟨_, List.mem_cons_self, rfl⟩
  · rw [hs] at hk
    cases hk
  · apply Or.inr
    apply Or.inr
    obtain ⟨i, _, _, hdrawn, hi, -⟩ :=
      h.account_owned valid hreached howned ha
    exact ⟨i, hreached'.drawn_lt hdrawn, by rw [← hnode, hi]⟩
  · rw [hframe] at hk
    split at hk
    · cases hk
    · rcases hlists k l d hk with hwns | hnamed | ⟨i, hi, hnode⟩
      · exact .inl hwns
      · exact .inr (.inl hnamed.cons)
      · refine .inr (.inr ⟨i, ?_, hnode⟩)
        rw [h.created]
        omega

/-- A name that is drawn is not in use. -/
theorem elements_of_fresh (hlists : ListsPlaced oracle past w)
    (hfresh : Fresh oracle past t) (ht : t.before = w) {i : Nat} (hi : t.before.created ≤ i)
    (hi' : i < t.after.created) :
  w.contents.elements (oracle.node i) = []
  := by
  unfold Contents.elements
  split
  · next l d hl =>
      obtain ⟨hnodes, hdevices⟩ := hfresh i hi' hi
      rcases hlists _ _ _ hl with hwns | hnamed | ⟨j, hj, hnode⟩
      · have := congrArg String.length hwns
        rw [oracle.length_node] at this
        cases this
      · exact (hdevices hnamed.cons).elim
      · rw [ht] at hi
        exact (hnodes j (by omega) hnode.symm).elim
  · rfl

/-- The list of a node that receives accounts begins with one of them. -/
theorem Contents.records_eq {deviceId node secret : String} {accounts : List PushAccount}
    (h : ∃ a ∈ accounts, a.node = node)
    (hsecret : ∀ a ∈ accounts, a.node = node → a.secret = secret) :
  ∃ a b l, Contents.records deviceId accounts node = a :: b :: secret :: l
  := by
  unfold Contents.records
  match hf : accounts.filter (·.node = node) with
  | [] =>
      obtain ⟨a, ha, hn⟩ := h
      rw [List.filter_eq_nil_iff] at hf
      simpa [hn] using hf a ha
  | a :: l =>
      have ha : a ∈ accounts.filter (·.node = node) := by
        rw [hf]
        apply List.mem_cons_self
      simp only [List.mem_filter, decide_eq_true_eq] at ha
      rw [hf, List.flatMap_cons, ← hsecret a ha.1 ha.2]
      exact ⟨_, _, _, rfl⟩

section Registration

variable {m : SetPushAccountsMessage} {valid : (Message.setPushAccounts m).Valid}
  {channelUri : String} {oldNodes : List String} {pushAccounts : List PushAccount}

/-- The list of a node that has just received an account has the secret that was drawn with it
as its third entry. -/
theorem PushServer.Registered.third_entry
    (h : PushServer.Registered platform config oracle m.deviceId (toString m.version)
      m.accounts w w' channelUri oldNodes pushAccounts)
    (howned : AllOwned platform oracle past w) (hlists : ListsPlaced oracle past w)
    (hreached : Reached platform config oracle past w)
    (hreached' : Reached platform config oracle
      (⟨.received (.setPushAccounts m) valid, w, w'⟩ :: past) w')
    (hfresh : Admitted (Fresh oracle) (⟨.received (.setPushAccounts m) valid, w, w'⟩ :: past))
    {a : PushAccount} (ha : a ∈ pushAccounts) :
  ∃ x y l, w.contents.elements a.node ++ Contents.records m.deviceId pushAccounts a.node
    = x :: y :: a.secret :: l
  := by
  obtain ⟨i, deviceId, accountId, hdrawn, hnode, hsecret, -, ⟨hi, -⟩ | ⟨-, hr, -⟩⟩ :=
    h.account_owned valid hreached howned ha
  · rw [hnode, elements_of_fresh hlists hfresh.1 rfl hi (hreached'.drawn_lt hdrawn),
      List.nil_append]
    apply Contents.records_eq ⟨a, ha, hnode⟩
    intro b hb hbnode
    obtain ⟨j, _, _, hbdrawn, hbn, hbs, -⟩ := h.account_owned valid hreached howned hb
    have hij : j = i := by
      apply hreached'.node_injective hfresh (hreached'.drawn_lt hbdrawn)
        (hreached'.drawn_lt hdrawn)
      rw [← hbn, hbnode]
    rw [hbs, hij, hsecret]
  · obtain ⟨-, hs⟩ := Contents.reusable_eq_some.mp hr
    obtain ⟨x, y, hl⟩ := Contents.secretOf_eq_some.mp hs
    rw [hl]
    exact ⟨x, y, _, rfl⟩

/-- A string that was there stays owned: its node may have received accounts. -/
theorem Owned.registered {k node : String} {d : Option Int} {i : Nat}
    {deviceId accountId : String} (ho : Owned platform oracle past w k node d i deviceId accountId)
    (h : PushServer.Registered platform config oracle m.deviceId (toString m.version)
      m.accounts w w' channelUri oldNodes pushAccounts)
    (hw : w.contents.Typed) (hne : node ≠ m.deviceId) :
  Owned platform oracle (t :: past) w' k node d i deviceId accountId
  := by
  apply ho.mono
  · rw [h.clock]
  · intro u a b l hentry
    have hlen : node.length = 15 := by rw [ho.node_eq, oracle.length_node]
    rcases h.contents_node hw hlen hne with ⟨-, hl⟩ | ⟨-, hf⟩
    · rw [Contents.elements_of_eq hentry] at hl
      exact ⟨_, _, _, _, .inr le_rfl, hl⟩
    · rw [hf]
      exact ⟨u, a, b, l, .inl le_rfl, hentry⟩

theorem AllOwned.registered (howned : AllOwned platform oracle past w)
    (hlists : ListsPlaced oracle past w)
    (h : PushServer.Registered platform config oracle m.deviceId (toString m.version)
      m.accounts w w' channelUri oldNodes pushAccounts)
    (hreached : Reached platform config oracle past w)
    (hreached' : Reached platform config oracle
      (⟨.received (.setPushAccounts m) valid, w, w'⟩ :: past) w')
    (hfresh : Admitted (Fresh oracle) (⟨.received (.setPushAccounts m) valid, w, w'⟩ :: past)) :
  AllOwned platform oracle (⟨.received (.setPushAccounts m) valid, w, w'⟩ :: past) w'
  := by
  intro k node d hk
  rcases h.contents_cases hreached.typed k with rfl | ⟨-, a, ha, hkey, hs⟩ | ⟨-, -, hs⟩
    | ⟨-, -, -, hframe⟩
  · rw [h.contents_device] at hk
    cases hk
  · -- The string is new: its node has just received the account.
    rw [hs] at hk
    cases hk
    obtain ⟨i, deviceId, accountId, hdrawn, hnode, hsecret, hkey', -⟩ :=
      h.account_owned valid hreached howned ha
    have hlist := h.contents_account hreached.typed ha
      (h.account_ne_device valid hreached hreached' howned hfresh.1 ha)
    obtain ⟨x, y, l, hthird⟩ := h.third_entry howned hlists hreached hreached' hfresh ha
    rw [hthird, hsecret] at hlist
    use i, deviceId, accountId
    constructor
    · apply hdrawn
    · apply hnode
    · rw [← hkey, hkey']
    · exact ⟨_, _, x, y, l, rfl, by rw [h.clock], le_rfl, hlist⟩
  · rw [hs] at hk
    cases hk
  · rw [hframe] at hk
    split at hk
    · cases hk
    · obtain ⟨i, deviceId, accountId, ho⟩ := howned k node d hk
      use i, deviceId, accountId
      exact ho.registered h hreached.typed (h.owned_ne_device hreached.typed howned hk)

end Registration

theorem AllOwned.channelUri (howned : AllOwned platform oracle past w) {deviceId uri : String}
    (hcontents : w'.contents
      = w.contents.setChannelUri (w.redis.clock + timeout) deviceId uri)
    (hclock : w'.redis.clock = w.redis.clock) :
  AllOwned platform oracle (t :: past) w'
  := by
  intro k node d hk
  rw [hcontents, Contents.setChannelUri, Contents.putList] at hk
  split at hk
  · cases hk
  · obtain ⟨i, deviceId', accountId, ho⟩ := howned k node d hk
    use i, deviceId', accountId
    apply ho.mono
    · rw [hclock]
    · intro u a b l hentry
      rw [hcontents, Contents.setChannelUri, Contents.putList]
      split
      · next hd =>
          subst hd
          rw [Contents.elements_of_eq hentry]
          exact ⟨_, uri, b, l, .inr le_rfl, rfl⟩
      · exact ⟨u, a, b, l, .inl le_rfl, hentry⟩

theorem AllOwned.of_eq (howned : AllOwned platform oracle past w)
    (hclock : w.redis.clock ≤ w'.redis.clock)
    (hs : ∀ k node d, w'.contents k = some ⟨.string node, d⟩ →
      w.contents k = some ⟨.string node, d⟩)
    (hl : ∀ k node t u l, w'.contents k = some ⟨.string node, some t⟩ → t ≤ u →
      node.length = 15 → w.contents node = some ⟨.list l, some u⟩ →
      w'.contents node = some ⟨.list l, some u⟩) :
  AllOwned platform oracle (t :: past) w'
  := by
  intro k node d hk
  obtain ⟨i, deviceId, accountId, ho⟩ := howned k node d (hs k node d hk)
  use i, deviceId, accountId
  obtain ⟨t, u, a, b, l, rfl, ht, htu, hentry⟩ := ho.record
  have hlen : node.length = 15 := by rw [ho.node_eq, oracle.length_node]
  constructor
  · apply ho.drawn.cons
  · apply ho.node_eq
  · apply ho.key_eq
  · exact ⟨t, u, a, b, l, rfl, by omega, htu, hl k node t u _ hk htu hlen hentry⟩

/-- Lists that were there, or are under the key of the token or under a device. -/
theorem ListsPlaced.of_eq (hlists : ListsPlaced oracle past w) (hcreated : w.created ≤ w'.created)
    (hl : ∀ k l d, w'.contents k = some ⟨.list l, d⟩ →
      k = RedisClient.WNS_TOKEN_KEY ∨ Named (t :: past) k
        ∨ ∃ l d, w.contents k = some ⟨.list l, d⟩) :
  ListsPlaced oracle (t :: past) w'
  := by
  intro k l d hk
  rcases hl k l d hk with hwns | hnamed | ⟨l', d', hk'⟩
  · exact .inl hwns
  · exact .inr (.inl hnamed)
  · rcases hlists k l' d' hk' with hwns | hnamed | ⟨i, hi, hnode⟩
    · exact .inl hwns
    · exact .inr (.inl hnamed.cons)
    · exact .inr (.inr ⟨i, by omega, hnode⟩)

/-- A channel URI is stored in a list of its device. -/
theorem ListsPlaced.channelUri {m : SetChannelUriMessage} {valid : (Message.setChannelUri m).Valid}
    (hlists : ListsPlaced oracle past w)
    (hcontents : w'.contents
      = w.contents.setChannelUri (w.redis.clock + timeout) m.deviceId m.channelUri)
    (hcreated : w'.created = w.created) :
  ListsPlaced oracle (⟨.received (.setChannelUri m) valid, w, w'⟩ :: past) w'
  := by
  apply hlists.of_eq (by omega)
  intro k l d hk
  rw [hcontents, Contents.setChannelUri, Contents.putList] at hk
  split at hk
  · next heq => exact .inr (.inl ⟨_, List.mem_cons_self, by rw [heq]; rfl⟩)
  · exact .inr (.inr ⟨l, d, hk⟩)

/-- Every string of the store is a node with an owner, and lists are where they belong. -/
structure Placed (platform : Platform) (oracle : Oracle) (past : History) (w : World) : Prop where
  owned : AllOwned platform oracle past w
  lists : ListsPlaced oracle past w

/-- Nothing is in the store. -/
theorem Placed.initial (hw : w.Initial) :
  Placed platform oracle [] w
  := by
  have hempty : ∀ k, w.contents k = none := by
    intro k
    simp [World.contents, Store.lookup, hw.redis]
  constructor
  · intro k node d hk
    rw [hempty] at hk
    cases hk
  · intro k l d hk
    rw [hempty] at hk
    cases hk

/-- An event that leaves the store. -/
theorem Placed.of_redis (h : Placed platform oracle past w) (hredis : w'.redis = w.redis)
    (hcreated : w.created ≤ w'.created) :
  Placed platform oracle (t :: past) w'
  := by
  have heq : w'.contents = w.contents := by rw [World.contents, hredis, World.contents]
  constructor
  · apply h.owned.of_eq
    · rw [hredis]
    · simp [heq]
    · simp [heq]
  · apply h.lists.of_eq hcreated
    intro k l d hk
    rw [heq] at hk
    exact .inr (.inr ⟨l, d, hk⟩)

/-- An event that changes the token only. -/
theorem Placed.of_effect {P : Output → Prop} (h : Placed platform oracle past w)
    (heffect : WnsEffect P w w') (htyped : w'.contents.Typed) :
  Placed platform oracle (t :: past) w'
  := by
  constructor
  · apply h.owned.of_eq
    · rw [heffect.clock]
    · intro k node d hk
      by_cases hwns : k = RedisClient.WNS_TOKEN_KEY
      · have hlength := (htyped _ _ _ hk).1
        rw [hwns] at hlength
        cases hlength
      · rw [World.contents, heffect.lookup k hwns] at hk
        exact hk
    · intro k node t u l _ _ hlen hentry
      rw [World.contents, heffect.lookup]
      · exact hentry
      · rintro rfl
        cases hlen
  · apply h.lists.of_eq (by rw [heffect.created])
    intro k l d hk
    by_cases hwns : k = RedisClient.WNS_TOKEN_KEY
    · exact .inl hwns
    · rw [World.contents, heffect.lookup k hwns] at hk
      exact .inr (.inr ⟨l, d, hk⟩)

/-- Time passes. -/
theorem Placed.advance (h : Placed platform oracle past w) (dt : Nat) :
  Placed platform oracle (t :: past) { w with redis := w.redis.advance dt }
  := by
  constructor
  · apply h.owned.of_eq
    · simp only [Store.advance]
      omega
    · intro k node d hk
      exact contents_advance hk
    · intro k node t u l hk htu _ hentry
      apply Store.lookup_advance hentry
      have hlive := Store.live_of_lookup hk
      simp only [Entry.live_some, decide_eq_true_eq, Store.advance] at hlive ⊢
      omega
  · apply h.lists.of_eq
    · exact Nat.le_refl w.created
    · intro k l d hk
      exact .inr (.inr ⟨l, d, contents_advance hk⟩)

/-- What an event does leaves strings and lists where they belong. -/
theorem Placed.move (h : Placed platform oracle past w)
    (hmove : Move platform config oracle w e w') (hreached : Reached platform config oracle past w)
    (hreached' : Reached platform config oracle (⟨e, w, w'⟩ :: past) w')
    (hfresh : Admitted (Fresh oracle) (⟨e, w, w'⟩ :: past)) :
  Placed platform oracle (⟨e, w, w'⟩ :: past) w'
  := by
  have hcreated := hmove.created.1
  cases hmove with
  | registered hr =>
      exact ⟨h.owned.registered h.lists hr hreached hreached' hfresh,
        h.lists.registered hr hreached hreached' h.owned⟩
  | refused hr => exact h.of_redis hr.redis hcreated
  | channelUri uri contents clock connected created log =>
      exact ⟨h.owned.channelUri contents clock, h.lists.channelUri contents created⟩
  | other heffect => exact h.of_effect heffect hreached'.typed
  | connection up => exact h.of_redis rfl (Nat.le_refl _)
  | advance dt => exact h.advance dt

/-- In every run whose names are new, every string of the store is a node with an owner, and
lists are where they belong. -/
theorem Reached.owned (h : Reached platform config oracle past w)
    (hfresh : Admitted (Fresh oracle) past) :
  AllOwned platform oracle past w ∧ ListsPlaced oracle past w
  := by
  suffices hplaced : Placed platform oracle past w from ⟨hplaced.owned, hplaced.lists⟩
  revert hfresh
  apply h.invariant (I := fun past w => Admitted (Fresh oracle) past →
    Placed platform oracle past w)
  · intro w hw _
    exact .initial hw
  · intro past w e w' hreached hreached' hmove ih hfresh
    exact (ih hfresh.2).move hmove hreached hreached' hfresh

/-- A node is under one account key. -/
theorem Reached.key_unique (h : Reached platform config oracle past w)
    (hfresh : Admitted (Fresh oracle) past) {k k' node : String} {d d' : Option Int}
    (hk : w.contents k = some ⟨.string node, d⟩)
    (hk' : w.contents k' = some ⟨.string node, d'⟩) :
  k = k'
  := by
  obtain ⟨howned, -⟩ := h.owned hfresh
  obtain ⟨i, _, _, ho⟩ := howned _ _ _ hk
  obtain ⟨j, _, _, ho'⟩ := howned _ _ _ hk'
  have hij : i = j := by
    apply h.node_injective hfresh (h.drawn_lt ho.drawn) (h.drawn_lt ho'.drawn)
    rw [← ho.node_eq, ← ho'.node_eq]
  subst hij
  obtain ⟨rfl, rfl⟩ := h.drawn_unique ho.drawn ho'.drawn
  rw [ho.key_eq, ho'.key_eq]

/-- What a device is told was drawn for an account with the same key. -/
theorem Reached.told_owned (h : Reached platform config oracle past w)
    (hfresh : Admitted (Fresh oracle) past) (ht : t ∈ past) {deviceId : String}
    {accounts : List PushAccount} (htold : told t deviceId = some accounts) {a : PushAccount}
    (ha : a ∈ accounts) :
  Listed past deviceId a.accountId ∧ ∃ i owner accountId, Drawn past i owner accountId
    ∧ a.node = oracle.node i ∧ a.secret = oracle.secret i
    ∧ RedisClient.genAccount platform deviceId a.accountId
      = RedisClient.genAccount platform owner accountId
  := by
  obtain ⟨newer, older, rfl, hbefore, -, hmove⟩ := h.move_of_mem ht
  obtain ⟨m, valid, channelUri, oldNodes, pushAccounts, he, rfl, hr, rfl⟩ := hmove.told htold
  obtain ⟨b, hb, hid, hnode, hsecret⟩ := PushServer.mem_answer ha
  obtain ⟨e, before, after⟩ := t
  simp only at he
  subst he
  constructor
  · refine ⟨_, ht, rfl, ?_⟩
    rw [hid, Event.accounts, Message.accounts,
      ← PushServer.map_accountId_resolveAll
        (c := before.contents) before.created m.accounts, ← hr.resolved]
    apply List.mem_map_of_mem hb
  · obtain ⟨i, owner, accountId, hdrawn, hn, hs, hkey, -⟩ :=
      hr.account_owned valid hbefore
        (hbefore.owned (hfresh.of_append).2).1 hb
    exact ⟨i, owner, accountId, hdrawn.append newer, by rw [hnode, hn], by rw [hsecret, hs],
      by rw [hid, ← hkey, Contents.accountKey]⟩

/-- No device is told its own name as a node. -/
theorem Reached.told_ne_device (h : Reached platform config oracle past w)
    (hfresh : Admitted (Fresh oracle) past) (ht : t ∈ past) {deviceId : String}
    {accounts : List PushAccount} (htold : told t deviceId = some accounts) {a : PushAccount}
    (ha : a ∈ accounts) :
  a.node ≠ deviceId
  := by
  obtain ⟨newer, older, rfl, hbefore, hafter, hmove⟩ := h.move_of_mem ht
  obtain ⟨m, valid, channelUri, oldNodes, pushAccounts, he, rfl, hr, rfl⟩ := hmove.told htold
  obtain ⟨b, hb, -, hnode, -⟩ := PushServer.mem_answer ha
  obtain ⟨e, before, after⟩ := t
  simp only at he
  subst he
  have hfresh' := hfresh.of_append
  rw [hnode]
  apply hr.account_ne_device valid hbefore hafter (hbefore.owned hfresh'.2).1 hfresh'.1 hb

end

end UwpxPush
