import UwpxPush.Server.PubSub

/-!
# The success flag

The flag of an account that is given its old node again is set although nothing is known
about the node.  It tells the truth exactly when the node was asked for while the connection
was up, for then it was set up, and it is not deleted as long as it is under its account key.
-/

namespace UwpxPush

open KeyValue

/-- The accounts of a device that are given the node again. -/
def reusing (platform : Platform) (c : Contents) (deviceId : String) (accounts : List String)
    (node : String) : List String :=
  accounts.filter fun accountId =>
    (c.reusable platform deviceId accountId).map Prod.fst = some node

/-- The node is given again to two accounts, or to an account whose key is not in the list of
the device. -/
def Renewed (platform : Platform) (c : Contents) (deviceId : String) (accounts : List String)
    (node : String) : Prop :=
  1 < (reusing platform c deviceId accounts node).length
    ∨ reusing platform c deviceId accounts node ≠ []
      ∧ some node ∉ ((c.elements deviceId).drop 2).map c.nodeUnder

/-- A request that succeeded while the connection was up asked for the node: it was drawn,
or given again where it had to be set up anew. -/
def Asked (platform : Platform) (oracle : Oracle) (past : History) (node : String) : Prop :=
  ∃ t ∈ past, t.before.connected = true ∧ ∃ deviceId, (told t deviceId).isSome = true
    ∧ ((∃ i, t.before.created ≤ i ∧ i < t.after.created ∧ oracle.node i = node)
      ∨ Renewed platform t.before.contents deviceId t.event.accounts node)

/-- The node is given again to two accounts, or to an account whose key is in the list of the
device.  The flag of one of the accounts stays as it was loaded. -/
def Kept (platform : Platform) (c : Contents) (deviceId : String) (accounts : List String)
    (node : String) : Prop :=
  1 < (reusing platform c deviceId accounts node).length
    ∨ reusing platform c deviceId accounts node ≠ []
      ∧ some node ∈ ((c.elements deviceId).drop 2).map c.nodeUnder

/-- The nodes of flags that stay as they were loaded were asked for while the connection was
up. -/
def KeptAsked (platform : Platform) (oracle : Oracle) (past : History)
    (t : Transition Event World) : Prop :=
  ∀ deviceId, (told t deviceId).isSome = true → ∀ node,
    Kept platform t.before.contents deviceId t.event.accounts node →
      Asked platform oracle (t :: past) node

/-- The accounts that are told to be successful have nodes that are set up. -/
def FlagsTrue (past : History) (t : Transition Event World) : Prop :=
  ∀ deviceId accounts, told t deviceId = some accounts → ∀ a ∈ accounts, a.success = true →
    SetUp a.node (t :: past)

section

variable {platform : Platform} {config : Configuration} {oracle : Oracle} {past : History}
  {t : Transition Event World} {w w' : World} {e : Event}

/-- The nodes in the store that were asked for while the connection was up are set up. -/
def StoredSetUp (platform : Platform) (oracle : Oracle) (past : History) (w : World) : Prop :=
  ∀ k node d, w.contents k = some ⟨.string node, d⟩ → Asked platform oracle past node →
    SetUp node past

/-- A device is told accounts by an event about it. -/
theorem exists_of_told {deviceId : String} (h : (told t deviceId).isSome = true) :
  t.event.deviceId = some deviceId ∧ ∃ o ∈ outputs t, o.accounts ≠ none
  := by
  obtain ⟨accounts, haccounts⟩ := Option.isSome_iff_exists.mp h
  unfold told at haccounts
  split at haccounts
  · next hd =>
      obtain ⟨o, ho, hsome⟩ := List.exists_of_findSome?_eq_some haccounts
      use hd, o, ho
      rw [hsome]
      rintro ⟨⟩
  · cases haccounts

namespace PushServer.Registered

variable {m : SetPushAccountsMessage} {valid : (Message.setPushAccounts m).Valid}
  {channelUri version : String} {oldNodes : List String} {pushAccounts : List PushAccount}

/-- A name that is drawn is not an old node. -/
theorem fresh_not_old (h : Registered platform config oracle m.deviceId version m.accounts w w'
      channelUri oldNodes pushAccounts)
    (hreached : Reached platform config oracle past w)
    (hreached' : Reached platform config oracle
      (⟨.received (.setPushAccounts m) valid, w, w'⟩ :: past) w')
    (hfresh : Admitted (Fresh oracle) (⟨.received (.setPushAccounts m) valid, w, w'⟩ :: past))
    (howned : AllOwned platform oracle past w) {i : Nat} (hi : w.created ≤ i)
    (hi' : i < w'.created) :
  oracle.node i ∉ oldNodes
  := by
  intro hn
  obtain ⟨k, -, hk⟩ := h.old_node hn
  obtain ⟨d, hd⟩ := Contents.nodeUnder_eq_some.mp hk
  obtain ⟨j, _, _, ho⟩ := howned _ _ _ hd
  have hj := hreached.drawn_lt ho.drawn
  have := hreached'.node_injective hfresh hi' (by omega) ho.node_eq
  omega

/-! ### The nodes that are added -/

/-- The accounts that are given a node again, among those that are registered. -/
theorem reusing_eq (h : Registered platform config oracle m.deviceId version m.accounts w w'
      channelUri oldNodes pushAccounts) (node : String) :
  reusing platform w.contents m.deviceId m.accounts node
    = (pushAccounts.filter fun a =>
      (w.contents.reusable platform m.deviceId a.accountId).map Prod.fst = some node).map
      PushAccount.accountId
  := by
  have hmap : m.accounts = pushAccounts.map PushAccount.accountId := by
    rw [h.resolved, map_accountId_resolveAll]
  rw [reusing, hmap, List.filter_map]
  rfl

/-- The old nodes are those under the keys in the list of the device. -/
theorem some_mem_iff (h : Registered platform config oracle m.deviceId version m.accounts w w'
      channelUri oldNodes pushAccounts) {node : String} :
  some node ∈ ((w.contents.elements m.deviceId).drop 2).map w.contents.nodeUnder
    ↔ node ∈ oldNodes
  := by
  rw [h.old]
  simp

/-- An account is given its node again when its flag is set. -/
theorem reusable_iff (h : Registered platform config oracle m.deviceId version m.accounts w w'
      channelUri oldNodes pushAccounts) {a : PushAccount} (ha : a ∈ pushAccounts)
    {node : String} :
  (w.contents.reusable platform m.deviceId a.accountId).map Prod.fst = some node
    ↔ a.node = node ∧ a.success = true
  := by
  rw [h.resolved, mem_resolveAll] at ha
  obtain ⟨j, accountId, -, rfl⟩ := ha
  rw [accountId_resolve]
  unfold resolve
  split
  · next hr => simp [hr, freshAccount]
  · next hr => simp [hr]

/-- Accounts are given the node again when their flags are set. -/
theorem reusing_ne_nil (h : Registered platform config oracle m.deviceId version m.accounts w w'
      channelUri oldNodes pushAccounts) {node : String} :
  reusing platform w.contents m.deviceId m.accounts node ≠ []
    ↔ ∃ a ∈ pushAccounts, a.node = node ∧ a.success = true
  := by
  rw [h.reusing_eq, ne_eq, List.map_eq_nil_iff, List.filter_eq_nil_iff]
  simp only [decide_eq_true_eq, not_forall, not_not, exists_prop]
  constructor
  · rintro ⟨a, ha, hr⟩
    exact ⟨a, ha, (h.reusable_iff ha).mp hr⟩
  · rintro ⟨a, ha, hn⟩
    exact ⟨a, ha, (h.reusable_iff ha).mpr hn⟩

/-- All accounts with a node that is given again are given it again. -/
theorem success_of_node_eq (h : Registered platform config oracle m.deviceId version m.accounts
      w w' channelUri oldNodes pushAccounts)
    (hreached : Reached platform config oracle past w)
    (hreached' : Reached platform config oracle
      (⟨.received (.setPushAccounts m) valid, w, w'⟩ :: past) w')
    (hfresh : Admitted (Fresh oracle) (⟨.received (.setPushAccounts m) valid, w, w'⟩ :: past))
    (howned : AllOwned platform oracle past w) {a b : PushAccount} (ha : a ∈ pushAccounts)
    (hs : a.success = true) (hb : b ∈ pushAccounts) (hnode : b.node = a.node) :
  b.success = true
  := by
  obtain ⟨i, _, _, hdrawn, hi, -, -, ⟨-, -, -, -, hf⟩ | ⟨hlt, -⟩⟩ :=
    h.account_owned valid hreached howned ha
  · rw [hf] at hs
    cases hs
  · obtain ⟨j, _, _, hdrawn', hj, -, -, ⟨hle, -⟩ | ⟨-, -, hbs⟩⟩ :=
      h.account_owned valid hreached howned hb
    · -- A name that is drawn now is no name that was given before.
      have := hreached'.node_injective hfresh (hreached'.drawn_lt hdrawn')
        (hreached'.drawn_lt hdrawn) (by rw [← hj, hnode, hi])
      omega
    · apply hbs

theorem length_reusing (h : Registered platform config oracle m.deviceId version m.accounts w w'
      channelUri oldNodes pushAccounts)
    (hreached : Reached platform config oracle past w)
    (hreached' : Reached platform config oracle
      (⟨.received (.setPushAccounts m) valid, w, w'⟩ :: past) w')
    (hfresh : Admitted (Fresh oracle) (⟨.received (.setPushAccounts m) valid, w, w'⟩ :: past))
    (howned : AllOwned platform oracle past w) {a : PushAccount} (ha : a ∈ pushAccounts)
    (hs : a.success = true) :
  (reusing platform w.contents m.deviceId m.accounts a.node).length
    = (pushAccounts.filter (·.node = a.node)).length
  := by
  rw [h.reusing_eq, List.length_map]
  congr 1
  apply List.filter_congr
  intro b hb
  rw [decide_eq_decide, h.reusable_iff hb, and_iff_left_iff_imp]
  apply h.success_of_node_eq hreached hreached' hfresh howned ha hs hb

/-- The nodes that are added are the names that are drawn and given, and those that are given
again where they have to be set up anew. -/
theorem mem_added_iff (h : Registered platform config oracle m.deviceId version m.accounts w w'
      channelUri oldNodes pushAccounts)
    (hreached : Reached platform config oracle past w)
    (hreached' : Reached platform config oracle
      (⟨.received (.setPushAccounts m) valid, w, w'⟩ :: past) w')
    (hfresh : Admitted (Fresh oracle) (⟨.received (.setPushAccounts m) valid, w, w'⟩ :: past))
    (howned : AllOwned platform oracle past w) {a : PushAccount} (ha : a ∈ pushAccounts) :
  a.node ∈ (collected oldNodes pushAccounts).addNodes.map Prod.fst
    ↔ (∃ i, w.created ≤ i ∧ i < w'.created ∧ oracle.node i = a.node)
      ∨ Renewed platform w.contents m.deviceId m.accounts a.node
  := by
  unfold Renewed
  rw [h.some_mem_iff]
  constructor
  · intro hadd
    obtain ⟨-, htwo⟩ := of_mem_map_addNodes hadd
    obtain ⟨i, _, _, hdrawn, hi, -, -, ⟨hle, -⟩ | ⟨-, -, hs⟩⟩ :=
      h.account_owned valid hreached howned ha
    · exact .inl ⟨i, hle, hreached'.drawn_lt hdrawn, hi.symm⟩
    · apply Or.inr
      rw [h.length_reusing hreached hreached' hfresh howned ha hs]
      by_cases hold : a.node ∈ oldNodes
      · exact .inl (htwo hold)
      · exact .inr ⟨h.reusing_ne_nil.mpr ⟨a, ha, rfl, hs⟩,
          hold⟩
  · rintro (⟨i, hi, hi', hnode⟩ | htwo | ⟨-, hold⟩)
    · apply mem_map_addNodes ⟨a, ha, rfl⟩
      rw [← hnode]
      apply h.fresh_not_old hreached hreached' hfresh howned hi hi'
    · have hne : reusing platform w.contents m.deviceId m.accounts a.node ≠ [] := by
        apply List.ne_nil_of_length_pos
        omega
      obtain ⟨b, hb, hnode, hs⟩ := h.reusing_ne_nil.mp hne
      rw [← hnode, h.length_reusing hreached hreached' hfresh howned hb hs] at htwo
      rw [← hnode]
      apply mem_map_addNodes_of_two htwo
    · apply mem_map_addNodes ⟨a, ha, rfl⟩ hold

end PushServer.Registered

/-! ### The nodes that are set up -/

/-- A node of which some name was drawn before is asked for again only by giving it again. -/
theorem Asked.of_cons (hreached : Reached platform config oracle (t :: past) w)
    (hfresh : Admitted (Fresh oracle) (t :: past)) {i : Nat} (hi : i < t.before.created)
    (h : Asked platform oracle (t :: past) (oracle.node i)) :
  Asked platform oracle past (oracle.node i)
    ∨ t.before.connected = true ∧ ∃ deviceId, (told t deviceId).isSome = true
      ∧ Renewed platform t.before.contents deviceId t.event.accounts (oracle.node i)
  := by
  obtain ⟨u, hu, hc, deviceId, htold, hasked⟩ := h
  rcases List.mem_cons.mp hu with rfl | hu
  · rcases hasked with ⟨j, hj, hj', hnode⟩ | hrenewed
    · have hjw := hreached.created_le List.mem_cons_self
      have := hreached.node_injective hfresh (by omega) (by omega) hnode
      omega
    · exact .inr ⟨hc, deviceId, htold, hrenewed⟩
  · exact .inl ⟨u, hu, hc, deviceId, htold, hasked⟩

/-- A node that is given again is given to one of the accounts. -/
theorem PushServer.Registered.of_renewed {m : SetPushAccountsMessage}
    {channelUri version : String} {oldNodes : List String} {pushAccounts : List PushAccount}
    (h : PushServer.Registered platform config oracle m.deviceId version m.accounts w w'
      channelUri oldNodes pushAccounts) {node : String}
    (hrenewed : Renewed platform w.contents m.deviceId m.accounts node) :
  ∃ a ∈ pushAccounts, (w.contents.reusable platform m.deviceId a.accountId).map Prod.fst = some node
  := by
  have hne : reusing platform w.contents m.deviceId m.accounts node ≠ [] := by
    rcases hrenewed with htwo | ⟨hne, -⟩
    · apply List.ne_nil_of_length_pos
      omega
    · apply hne
  rw [h.reusing_eq, ne_eq, List.map_eq_nil_iff, List.filter_eq_nil_iff] at hne
  simpa using hne

/-- A node that was asked for is a name that was drawn. -/
theorem Asked.drawn (hreached : Reached platform config oracle past w)
    (hfresh : Admitted (Fresh oracle) past) {node : String}
    (h : Asked platform oracle past node) :
  ∃ i < w.created, node = oracle.node i
  := by
  obtain ⟨u, hu, -, deviceId, htold, hasked⟩ := h
  obtain ⟨newer, older, rfl, hbefore, hafter, hmove⟩ := hreached.move_of_mem hu
  have hle := hreached.created_le hu
  rcases hasked with ⟨i, -, hi, rfl⟩ | hrenewed
  · exact ⟨i, by omega, rfl⟩
  · obtain ⟨accounts, haccounts⟩ := Option.isSome_iff_exists.mp htold
    obtain ⟨m, valid, channelUri, oldNodes, pushAccounts, he, rfl, hr, -⟩ :=
      hmove.told haccounts
    rw [he] at hrenewed
    obtain ⟨a, -, hreuse⟩ := hr.of_renewed hrenewed
    obtain ⟨⟨n, secret⟩, hsome, rfl⟩ := Option.map_eq_some_iff.mp hreuse
    obtain ⟨d, hd⟩ := Contents.nodeUnder_eq_some.mp (Contents.reusable_eq_some.mp hsome).1
    obtain ⟨i, _, _, ho⟩ := (hbefore.owned hfresh.of_append.2).1 _ _ _ hd
    have hi := hbefore.drawn_lt ho.drawn
    have := hmove.created.1
    exact ⟨i, by omega, ho.node_eq⟩

namespace PushServer.Registered

variable {m : SetPushAccountsMessage} {valid : (Message.setPushAccounts m).Valid}
  {channelUri : String} {oldNodes : List String} {pushAccounts : List PushAccount}

/-- The nodes of the accounts that were asked for are set up. -/
theorem setUp_of_asked (h : Registered platform config oracle m.deviceId (toString m.version)
      m.accounts w w' channelUri oldNodes pushAccounts)
    (hreached : Reached platform config oracle past w)
    (hreached' : Reached platform config oracle
      (⟨.received (.setPushAccounts m) valid, w, w'⟩ :: past) w')
    (hfresh : Admitted (Fresh oracle) (⟨.received (.setPushAccounts m) valid, w, w'⟩ :: past))
    (hstored : StoredSetUp platform oracle past w) {a : PushAccount} (ha : a ∈ pushAccounts)
    (hasked : Asked platform oracle (⟨.received (.setPushAccounts m) valid, w, w'⟩ :: past)
      a.node) :
  SetUp a.node (⟨.received (.setPushAccounts m) valid, w, w'⟩ :: past)
  := by
  have howned := (hreached.owned hfresh.2).1
  have hadded := h.mem_added_iff hreached hreached' hfresh howned ha
  obtain ⟨i, _, _, hdrawn, hi, -, -, ⟨hle, -⟩ | ⟨hlt, hr, -⟩⟩ :=
    h.account_owned valid hreached howned ha
  · obtain ⟨u, hu, hc, hasked⟩ := hasked
    rcases List.mem_cons.mp hu with rfl | hu
    · apply Or.inl
      use hc
      apply h.setsUp hreached howned hc
      apply hadded.mpr
      exact .inl ⟨i, hle, hreached'.drawn_lt hdrawn, hi.symm⟩
    · obtain ⟨j, hj, hnode⟩ := Asked.drawn hreached hfresh.2 ⟨u, hu, hc, hasked⟩
      have hw := h.created
      have := hreached'.node_injective hfresh (by omega) (hreached'.drawn_lt hdrawn)
        (hnode.symm.trans hi)
      omega
  · rw [hi] at hasked
    rcases Asked.of_cons hreached' hfresh hlt hasked with hpast | ⟨hc, d, htold, hrenewed⟩
    · rw [← hi] at hpast
      apply SetUp.cons
      · obtain ⟨deadline, hd⟩ :=
          Contents.nodeUnder_eq_some.mp (Contents.reusable_eq_some.mp hr).1
        apply hstored _ _ _ hd hpast
      · rw [h.delete_mem howned]
        rintro ⟨-, -, hall⟩
        exact hall a ha rfl
    · cases (exists_of_told htold).1
      rw [← hi] at hrenewed
      apply Or.inl
      use hc
      apply h.setsUp hreached howned hc
      apply hadded.mpr
      exact .inr hrenewed

/-- A node that stays under its account key is not deleted. -/
theorem delete_not_mem (h : Registered platform config oracle m.deviceId (toString m.version)
      m.accounts w w' channelUri oldNodes pushAccounts)
    (hreached : Reached platform config oracle past w)
    (hfresh : Admitted (Fresh oracle) past) (howned : AllOwned platform oracle past w)
    {k node : String} {d : Option Int} (hk : w.contents k = some ⟨.string node, d⟩)
    (hold : k ∉ (w.contents.elements m.deviceId).drop 2) :
  .iq (.delete node) ∉ outputs ⟨.received (.setPushAccounts m) valid, w, w'⟩
  := by
  rw [h.delete_mem howned]
  rintro ⟨-, hn, -⟩
  obtain ⟨k', hk', hnode⟩ := h.old_node hn
  obtain ⟨d', hd'⟩ := Contents.nodeUnder_eq_some.mp hnode
  apply hold
  rw [hreached.key_unique hfresh hk hd']
  apply hk'

end PushServer.Registered

/-- In every run whose names are new, the nodes in the store that were asked for while the
connection was up are set up. -/
theorem Reached.storedSetUp (h : Reached platform config oracle past w)
    (hfresh : Admitted (Fresh oracle) past) :
  StoredSetUp platform oracle past w
  := by
  revert hfresh
  apply h.invariant (I := fun past w => Admitted (Fresh oracle) past →
    StoredSetUp platform oracle past w)
  · intro w hw hfresh k node d hk
    simp [World.contents, Store.lookup, hw.redis] at hk
  · intro past w e w' hreached hreached' hmove ih hfresh k node d hk hasked
    have hstored := ih hfresh.2
    have howned := (hreached.owned hfresh.2).1
    rcases hmove.registered_or with ⟨m, valid, channelUri, oldNodes, pushAccounts, rfl, hr⟩
      | ⟨hstrings, hout⟩
    · rcases hr.contents_cases hreached.typed k with rfl | ⟨-, a, ha, -, hs⟩ | ⟨-, -, hs⟩
        | ⟨-, hkeys, -, hframe⟩
      · rw [hr.contents_device] at hk
        cases hk
      · rw [hs] at hk
        cases hk
        apply hr.setUp_of_asked hreached hreached' hfresh hstored ha hasked
      · rw [hs] at hk
        cases hk
      · rw [hframe] at hk
        split at hk
        · cases hk
        · next hold =>
            obtain ⟨i, _, _, ho⟩ := howned _ _ _ hk
            rw [ho.node_eq] at hasked
            rcases Asked.of_cons hreached' hfresh (hreached.drawn_lt ho.drawn) hasked
              with hpast | ⟨-, d', htold, hrenewed⟩
            · rw [← ho.node_eq] at hpast
              apply SetUp.cons (hstored _ _ _ hk hpast)
              apply hr.delete_not_mem hreached hfresh.2 howned hk hold
            · cases (exists_of_told htold).1
              obtain ⟨a, ha, hreuse⟩ := hr.of_renewed hrenewed
              obtain ⟨⟨n, secret⟩, hsome, rfl⟩ := Option.map_eq_some_iff.mp hreuse
              obtain ⟨d', hd'⟩ :=
                Contents.nodeUnder_eq_some.mp (Contents.reusable_eq_some.mp hsome).1
              rw [← ho.node_eq] at hd'
              exact (hkeys a ha (hreached.key_unique hfresh.2 hd' hk)).elim
    · have hk' := hstrings k node d hk
      obtain ⟨i, _, _, ho⟩ := howned _ _ _ hk'
      have hi := hreached.drawn_lt ho.drawn
      rw [ho.node_eq] at hasked
      rcases Asked.of_cons hreached' hfresh hi hasked with hpast | ⟨-, deviceId, htold, -⟩
      · rw [← ho.node_eq] at hpast
        apply SetUp.cons (hstored _ _ _ hk' hpast)
        intro hmem
        have := (hout _ hmem).2
        cases this
      · obtain ⟨-, o, ho, haccounts⟩ := exists_of_told htold
        exact (haccounts (hout o ho).1).elim

/-! ### The flags -/

namespace PushServer

variable {oldNodes : List String} {accounts before after : List PushAccount}
  {account : PushAccount}

variable (oldNodes) in
/-- An account is added when no later one has its node, and an earlier one has it when it is
old. -/
theorem mem_snd_addNodes (h : accounts = before ++ account :: after) :
  before.length ∈ (collected oldNodes accounts).addNodes.map Prod.snd
    ↔ (∀ a ∈ after, a.node ≠ account.node)
      ∧ (account.node ∈ oldNodes → ∃ a ∈ before, a.node = account.node)
  := by
  simp only [List.mem_map, Prod.exists, mem_addNodes, exists_eq_right]
  constructor
  · rintro ⟨node, before', account', after', heq, hlen, rfl, hafter, hold⟩
    rw [h] at heq
    obtain ⟨rfl, htail⟩ := List.append_inj heq hlen.symm
    cases htail
    exact ⟨hafter, hold⟩
  · rintro ⟨hafter, hold⟩
    exact ⟨account.node, before, account, after, h, rfl, rfl, hafter, hold⟩

/-- The accounts of an answer, with the flags of those that are added set anew. -/
theorem mem_answer_iff {connected : Bool} {a : PushAccount} :
  a ∈ answer platform connected oldNodes accounts
    ↔ ∃ before account after, accounts = before ++ account :: after
      ∧ a = if before.length ∈ (collected oldNodes accounts).addNodes.map Prod.snd then
          { account with success := connected } else account
  := by
  have hpos : ∀ j, j ∈ (platform.order (collected oldNodes accounts).addNodes).map Prod.snd
      ↔ j ∈ (collected oldNodes accounts).addNodes.map Prod.snd := by
    intro j
    apply ((platform.order_perm _).map Prod.snd).mem_iff
  rw [List.mem_iff_getElem?]
  simp only [answer, getElem?_setFlags, Option.map_eq_some_iff, hpos]
  constructor
  · rintro ⟨j, account, hj, rfl⟩
    obtain ⟨hlt, rfl⟩ := List.getElem?_eq_some_iff.mp hj
    use accounts.take j, accounts[j], accounts.drop (j + 1)
    constructor
    · rw [← List.drop_eq_getElem_cons hlt, List.take_append_drop]
    · rw [List.length_take, min_eq_left hlt.le]
  · rintro ⟨before, account, after, rfl, rfl⟩
    exact ⟨before.length, account, by simp, rfl⟩

/-- The node of an account that is not added is one of an account after it, or an old one. -/
theorem kept_of_not_added (h : accounts = before ++ account :: after)
    (hnot : before.length ∉ (collected oldNodes accounts).addNodes.map Prod.snd) :
  1 < (accounts.filter (·.node = account.node)).length ∨ account.node ∈ oldNodes
  := by
  rw [mem_snd_addNodes oldNodes h, not_and_or] at hnot
  rcases hnot with hlater | hold
  · apply Or.inl
    simp only [not_forall, not_not, exists_prop] at hlater
    obtain ⟨b, hb, hnode⟩ := hlater
    have hpos : 0 < (after.filter (·.node = account.node)).length := by
      apply List.length_pos_of_mem
      simp only [List.mem_filter, decide_eq_true_eq]
      exact ⟨hb, hnode⟩
    rw [h, List.filter_append, List.filter_cons_of_pos (by simp), List.length_append,
      List.length_cons]
    omega
  · rw [Classical.not_imp] at hold
    exact .inr hold.1

/-- Of the accounts with a node that is old, or that two of them have, one is not added. -/
theorem exists_not_added {node : String} (h : ∃ a ∈ accounts, a.node = node)
    (hkept : 1 < (accounts.filter (·.node = node)).length ∨ node ∈ oldNodes) :
  ∃ before account after, accounts = before ++ account :: after ∧ account.node = node
    ∧ before.length ∉ (collected oldNodes accounts).addNodes.map Prod.snd
  := by
  obtain ⟨before, b, after, heq, hb, hafter⟩ :=
    exists_last (p := fun b : PushAccount => b.node = node) h
  by_cases hbefore : ∃ c ∈ before, c.node = node
  · -- The last one is added, so the ones before it are not.
    obtain ⟨c, hc, hcn⟩ := hbefore
    obtain ⟨l, l', rfl⟩ := List.append_of_mem hc
    have hsplit : accounts = l ++ c :: (l' ++ b :: after) := by simp [heq]
    refine ⟨l, c, l' ++ b :: after, hsplit, hcn, ?_⟩
    rw [mem_snd_addNodes oldNodes hsplit]
    rintro ⟨hall, -⟩
    exact hall b (by simp) (hb.trans hcn.symm)
  · refine ⟨before, b, after, heq, hb, ?_⟩
    rw [mem_snd_addNodes oldNodes heq, hb]
    rintro ⟨-, hold⟩
    rcases hkept with htwo | hmem
    · simp only [not_exists, not_and] at hbefore
      have hnil : before.filter (·.node = node) = [] := by simpa using hbefore
      have hnil' : after.filter (·.node = node) = [] := by simpa using hafter
      rw [heq, List.filter_append, List.filter_cons_of_pos (by simpa using hb), hnil,
        hnil'] at htwo
      simp at htwo
    · exact hbefore (hold hmem)

end PushServer

namespace PushServer.Registered

variable {m : SetPushAccountsMessage} {valid : (Message.setPushAccounts m).Valid}
  {channelUri version : String} {oldNodes : List String} {pushAccounts : List PushAccount}

/-- The flags that are set are those of nodes that are kept, and of nodes that are added
while the connection is up. -/
theorem flags_iff (h : Registered platform config oracle m.deviceId version m.accounts w w'
      channelUri oldNodes pushAccounts)
    (hreached : Reached platform config oracle past w)
    (hreached' : Reached platform config oracle
      (⟨.received (.setPushAccounts m) valid, w, w'⟩ :: past) w')
    (hfresh : Admitted (Fresh oracle) (⟨.received (.setPushAccounts m) valid, w, w'⟩ :: past))
    (howned : AllOwned platform oracle past w) (node : String) :
  (∃ a ∈ answer platform w.connected oldNodes pushAccounts, a.node = node ∧ a.success = true)
    ↔ Kept platform w.contents m.deviceId m.accounts node
      ∨ w.connected = true
        ∧ node ∈ (collected oldNodes pushAccounts).addNodes.map Prod.fst
  := by
  unfold Kept
  rw [h.some_mem_iff]
  constructor
  · rintro ⟨a, ha, hnode, hs⟩
    obtain ⟨before, account, after, heq, rfl⟩ := mem_answer_iff.mp ha
    have hmem : account ∈ pushAccounts := by simp [heq]
    split at hs
    · next hpos =>
        rw [if_pos hpos] at hnode
        apply Or.inr
        use hs
        obtain ⟨hafter, hold⟩ := (mem_snd_addNodes oldNodes heq).mp hpos
        rw [← hnode, List.mem_map]
        exact ⟨_, mem_addNodes.mpr ⟨before, account, after, heq, rfl, rfl, hafter, hold⟩, rfl⟩
    · next hpos =>
        rw [if_neg hpos] at hnode
        subst hnode
        apply Or.inl
        rw [h.length_reusing hreached hreached' hfresh howned hmem hs]
        apply (kept_of_not_added heq hpos).imp_right
        intro hold
        exact ⟨h.reusing_ne_nil.mpr ⟨account, hmem, rfl, hs⟩, hold⟩
  · rintro (hkept | ⟨hc, hadd⟩)
    · have hne : reusing platform w.contents m.deviceId m.accounts node ≠ [] := by
        rcases hkept with htwo | ⟨hne, -⟩
        · apply List.ne_nil_of_length_pos
          omega
        · apply hne
      obtain ⟨a, ha, rfl, hs⟩ := h.reusing_ne_nil.mp hne
      rw [h.length_reusing hreached hreached' hfresh howned ha hs] at hkept
      obtain ⟨before, b, after, heq, hb, hpos⟩ :=
        exists_not_added ⟨a, ha, rfl⟩ (hkept.imp_right And.right)
      use b
      constructor
      · exact mem_answer_iff.mpr ⟨before, b, after, heq, (if_neg hpos).symm⟩
      · use hb
        apply h.success_of_node_eq hreached hreached' hfresh howned ha hs _ hb
        simp [heq]
    · obtain ⟨⟨n, j⟩, hn, rfl⟩ := List.mem_map.mp hadd
      obtain ⟨before, a, after, heq, rfl, rfl, hafter, hold⟩ := mem_addNodes.mp hn
      refine ⟨_, mem_answer_iff.mpr ⟨before, a, after, heq, rfl⟩, ?_⟩
      rw [if_pos ((mem_snd_addNodes oldNodes heq).mpr ⟨hafter, hold⟩)]
      exact ⟨rfl, hc⟩

end PushServer.Registered

/-- A node that is set up was asked for. -/
theorem SetUp.asked {node : String} (h : SetUp node past)
    (hreached : Reached platform config oracle past w)
    (hfresh : Admitted (Fresh oracle) past) :
  Asked platform oracle past node
  := by
  obtain ⟨t, ht, hc, hsets⟩ := h.exists
  obtain ⟨newer, older, rfl, hbefore, hafter, hmove⟩ := hreached.move_of_mem ht
  obtain ⟨e, before, after⟩ := t
  rcases hmove.registered_or with ⟨m, valid, channelUri, oldNodes, pushAccounts, he, hr⟩
    | ⟨-, hout⟩
  · simp only at he
    subst he
    have howned := (hbefore.owned hfresh.of_append.2).1
    obtain ⟨-, hadd⟩ := hr.of_creates valid hbefore howned hsets.creates
    obtain ⟨⟨a, ha, rfl⟩, -⟩ := PushServer.of_mem_map_addNodes hadd
    refine ⟨_, ht, hc, m.deviceId, ?_, ?_⟩
    · rw [told_registered hr]
      rfl
    · apply (hr.mem_added_iff hbefore hafter hfresh.of_append howned ha).mp hadd
  · obtain ⟨l, l', heq, -⟩ := hsets
    have := (hout (.iq (.publishEmpty node)) (by simp [heq])).2
    cases this

/-- A registration tells the truth about its accounts if and only if the nodes of flags that
stay as they were loaded were asked for. -/
theorem PushServer.Registered.flagsTrue_iff {m : SetPushAccountsMessage}
    {valid : (Message.setPushAccounts m).Valid} {channelUri : String} {oldNodes : List String}
    {pushAccounts : List PushAccount}
    (h : PushServer.Registered platform config oracle m.deviceId (toString m.version) m.accounts
      w w' channelUri oldNodes pushAccounts)
    (hreached : Reached platform config oracle past w)
    (hreached' : Reached platform config oracle
      (⟨.received (.setPushAccounts m) valid, w, w'⟩ :: past) w')
    (hfresh : Admitted (Fresh oracle)
      (⟨.received (.setPushAccounts m) valid, w, w'⟩ :: past)) :
  FlagsTrue past ⟨.received (.setPushAccounts m) valid, w, w'⟩
    ↔ KeptAsked platform oracle past ⟨.received (.setPushAccounts m) valid, w, w'⟩
  := by
  have howned := (hreached.owned hfresh.2).1
  have hflags := h.flags_iff hreached hreached' hfresh howned
  constructor
  · intro htrue deviceId htold node hkept
    cases (exists_of_told htold).1
    obtain ⟨a, ha, rfl, hs⟩ := (hflags node).mpr (.inl hkept)
    have hsetUp := htrue m.deviceId _ (told_registered h) a ha hs
    apply hsetUp.asked hreached' hfresh
  · intro hkept deviceId accounts htold a ha hs
    have hsome : (told ⟨.received (.setPushAccounts m) valid, w, w'⟩ deviceId).isSome = true := by
      rw [htold]
      rfl
    cases (exists_of_told hsome).1
    rw [told_registered h] at htold
    cases htold
    rcases (hflags a.node).mp ⟨a, ha, rfl, hs⟩ with hk | ⟨hc, hadd⟩
    · obtain ⟨b, hb, -, hnode, -⟩ := PushServer.mem_answer ha
      have hasked := hkept m.deviceId hsome a.node hk
      rw [hnode] at hasked ⊢
      apply h.setUp_of_asked hreached hreached' hfresh (hreached.storedSetUp hfresh.2) hb hasked
    · apply Or.inl
      use hc
      apply h.setsUp hreached howned hc hadd

/-- In every run whose names are new, the accounts that are told to be successful have nodes
that are set up, in every transition, if and only if the nodes of flags that stay as they
were loaded were asked for while the connection was up, in every transition. -/
theorem flagsTrue_iff_keptAsked (h : Reached platform config oracle past w)
    (hfresh : Admitted (Fresh oracle) past) :
  Admitted FlagsTrue past ↔ Admitted (KeptAsked platform oracle) past
  := by
  induction h with
  | start h => rfl
  | @next past w h e ih =>
      have hmove := handle_move platform config oracle w (Reached.typed h) e
      apply and_congr _ (ih hfresh.2)
      rcases hmove.registered_or with ⟨m, valid, channelUri, oldNodes, pushAccounts, rfl, hr⟩
        | ⟨-, hout⟩
      · apply hr.flagsTrue_iff h (Run.next h _) hfresh
      · have hnone : ∀ deviceId, told ⟨e, w, w.handle platform config oracle e⟩ deviceId
            = none := by
          intro deviceId
          by_contra hsome
          obtain ⟨-, o, ho, haccounts⟩ := exists_of_told (Option.isSome_iff_ne_none.mpr hsome)
          exact haccounts (hout o ho).1
        simp [FlagsTrue, KeptAsked, hnone]

end

/-- The accounts of a device that registers an account while the connection is down, and
again when it is up. -/
def Sample.reconnection : List Event :=
  [.connection false, setChannelUri "phone" phone_channelUri,
    setPushAccounts "phone" ["alice"] phone_alice, .connection true]

/-- A device registers an account, and registers it again. -/
def Sample.repetition : List Event :=
  registration ++ [setPushAccounts "phone" ["alice"] phone_alice]

/-- The account is loaded in the second registration, and its node was asked for in the first. -/
theorem flagsTrue_iff_keptAsked_repetition :
  Admitted FlagsTrue (Sample.run Sample.repetition).1
    ↔ Admitted (KeptAsked Sample.platform Sample.oracle) (Sample.run Sample.repetition).1
  := flagsTrue_iff_keptAsked (Sample.reached_run Sample.repetition) (by decide +kernel)

/-- A device is told that an account is successful whose node was never created. -/
theorem not_flagsTrue_reconnection :
  Reached Sample.platform Sample.config Sample.oracle (Sample.run Sample.reconnection).1
      (Sample.run Sample.reconnection).2
    ∧ (let t := Sample.next Sample.reconnection
        (Sample.setPushAccounts "phone" ["alice"] (by decide))
      Admitted (Fresh Sample.oracle) (t :: (Sample.run Sample.reconnection).1)
        ∧ told t "phone"
          = some [⟨"alice", Sample.oracle.node 0, Sample.oracle.secret 0, true⟩]
        ∧ ¬FlagsTrue (Sample.run Sample.reconnection).1 t)
  := by
  let past := (Sample.run Sample.reconnection).1
  let second := Sample.next Sample.reconnection
    (Sample.setPushAccounts "phone" ["alice"] Sample.phone_alice)
  obtain ⟨hfresh, htold, hnone⟩ : Admitted (Fresh Sample.oracle) (second :: past)
      ∧ told second "phone" = some [⟨"alice", Sample.oracle.node 0, Sample.oracle.secret 0, true⟩]
      ∧ ∀ t ∈ second :: past, .iq (.publishEmpty (Sample.oracle.node 0)) ∉ outputs t := by
    decide +kernel
  use Sample.reached_run Sample.reconnection, hfresh, htold
  intro h
  obtain ⟨t, ht, -, before, after, heq, -⟩ := (h "phone" _ htold _ List.mem_cons_self rfl).exists
  apply hnone t ht
  simp [heq]

end UwpxPush
