import UwpxPush.Server.Ownership

/-!
# Replacement of accounts

A registration deletes an account key before it reads the node under it, so it deletes no
list of a node.  A node that the device was given before and is not given again is unknown
afterwards only where its list did not have exactly three entries before.
-/

namespace UwpxPush

/-- A response has given the node to the device. -/
def Given (past : History) (deviceId node : String) : Prop :=
  ∃ t ∈ past, ∃ accounts, told t deviceId = some accounts
    ∧ node ∈ accounts.map PushAccount.node

/-- Neither a device nor an account is found for the node. -/
def Unresolved (oracle : Oracle) (w : World) (node : String) : Prop :=
  (Server.run oracle (RedisClient.getDeviceId node) w).1 = .ok none
    ∧ (Server.run oracle (RedisClient.getAccountId node) w).1 = .ok none

/-- The nodes that the device was given before and is not given now are unknown. -/
def Replaced (oracle : Oracle) (past : History) (w : World) (deviceId : String)
    (accounts : List PushAccount) : Prop :=
  ∀ node, Given past deviceId node → node ∉ accounts.map PushAccount.node →
    Unresolved oracle w node

section

variable {platform : Platform} {config : Configuration} {oracle : Oracle} {past : History}
  {w : World}

/-- A node is unknown when its list has not exactly three entries. -/
theorem unresolved_iff {node : String} (h : w.contents.NotString node) :
  Unresolved oracle w node ↔ (w.contents.elements node).length ≠ 3
  := by
  unfold Unresolved RedisClient.getDeviceId RedisClient.getAccountId
  rw [run_getOfThree_of_notString h, run_getOfThree_of_notString h]
  by_cases hlen : (w.contents.elements node).length = 3
  · simp [hlen]
  · simp [hlen]

/-- A node that was given to a device was drawn, and is not the device. -/
theorem Reached.given (h : Reached platform config oracle past w)
    (hfresh : Admitted (Fresh oracle) past) {deviceId node : String}
    (hg : Given past deviceId node) :
  node ≠ deviceId ∧ ∃ i < w.created, node = oracle.node i
  := by
  obtain ⟨t, ht, accounts, htold, hmem⟩ := hg
  obtain ⟨a, ha, rfl⟩ := List.mem_map.mp hmem
  obtain ⟨-, i, owner, accountId, hdrawn, hnode, -⟩ := h.told_owned hfresh ht htold ha
  exact ⟨h.told_ne_device hfresh ht htold ha, i, h.drawn_lt hdrawn, hnode⟩

/-- A registration leaves the list of a drawn node alone that no account has. -/
theorem PushServer.Registered.contents_of_not_mem {m : SetPushAccountsMessage}
    {channelUri version : String} {oldNodes : List String} {pushAccounts : List PushAccount}
    {w' : World}
    (hr : PushServer.Registered platform config oracle m.deviceId version m.accounts w w'
      channelUri oldNodes pushAccounts) (hw : w.contents.Typed) {node : String}
    (hlen : node.length = 15) (hd : node ≠ m.deviceId)
    (hn : node ∉ pushAccounts.map PushAccount.node) :
  w'.contents node = w.contents node
  := by
  rcases hr.contents_node hw hlen hd with ⟨⟨a, ha, hnode⟩, -⟩ | ⟨-, hframe⟩
  · exact (hn (List.mem_map.mpr ⟨a, ha, hnode⟩)).elim
  · exact hframe

/-- A registration makes the nodes unknown that it does not give again if and only if every
node the device was given whose list has three entries is under the key of a listed account. -/
theorem replaced_iff (h : Reached platform config oracle past w) {m : SetPushAccountsMessage}
    {valid : (Message.setPushAccounts m).Valid} {t : Transition Event World}
    (ht : t = ⟨.received (.setPushAccounts m) valid, w,
      w.handle platform config oracle (.received (.setPushAccounts m) valid)⟩)
    (hfresh : Admitted (Fresh oracle) (t :: past)) {accounts : List PushAccount}
    (htold : told t m.deviceId = some accounts) :
  Replaced oracle past t.after m.deviceId accounts
    ↔ ∀ node, Given past m.deviceId node → (w.contents.elements node).length = 3 →
      ∃ accountId ∈ m.accounts, w.contents.nodeUnder
        (RedisClient.genAccount platform m.deviceId accountId) = some node
  := by
  subst ht
  have hmove := handle_move platform config oracle w h.typed (.received (.setPushAccounts m) valid)
  have hafter := Run.next h (.received (.setPushAccounts m) valid)
  obtain ⟨m', _, channelUri, oldNodes, pushAccounts, he, -, hr, rfl⟩ := hmove.told htold
  cases he
  obtain ⟨howned, -⟩ := h.owned hfresh.2
  rw [Replaced, PushServer.map_node_answer]
  constructor
  · intro hreplaced node hgiven hthree
    obtain ⟨hd, i, hi, hnode⟩ := h.given hfresh.2 hgiven
    have hlen : node.length = 15 := by rw [hnode, oracle.length_node]
    by_cases hmem : node ∈ pushAccounts.map PushAccount.node
    · obtain ⟨a, ha, rfl⟩ := List.mem_map.mp hmem
      obtain ⟨j, _, _, hdrawn, hj, -, -, ⟨hle, -⟩ | ⟨-, hreuse, -⟩⟩ :=
        hr.account_owned valid h howned ha
      · have hij : i = j := by
          apply Reached.node_injective hafter hfresh (lt_of_lt_of_le hi hmove.created.1)
            (Reached.drawn_lt hafter hdrawn)
          rw [← hnode, hj]
        omega
      · use a.accountId
        constructor
        · rw [← PushServer.map_accountId_resolveAll
            (c := w.contents) w.created m.accounts, ← hr.resolved]
          apply List.mem_map_of_mem ha
        · apply (Contents.reusable_eq_some.mp hreuse).1
    · have heq := hr.contents_of_not_mem h.typed hlen hd hmem
      have hunresolved := hreplaced node hgiven hmem
      rw [unresolved_iff, Contents.elements_eq_of_apply_eq heq] at hunresolved
      · exact (hunresolved hthree).elim
      · intro s d hs
        have := (Reached.typed hafter _ _ _ hs).1
        omega
  · intro hcovered node hgiven hmem
    obtain ⟨hd, i, hi, hnode⟩ := h.given hfresh.2 hgiven
    have hlen : node.length = 15 := by rw [hnode, oracle.length_node]
    have heq := hr.contents_of_not_mem h.typed hlen hd hmem
    rw [unresolved_iff, Contents.elements_eq_of_apply_eq heq]
    · intro hthree
      obtain ⟨accountId, hid, hunder⟩ := hcovered node hgiven hthree
      obtain ⟨a, b, secret, hlist⟩ := List.length_eq_three.mp hthree
      have hreuse : w.contents.reusable platform m.deviceId accountId = some (node, secret) :=
        Contents.reusable_eq_some.mpr ⟨hunder, Contents.secretOf_eq_some.mpr ⟨a, b, hlist⟩⟩
      obtain ⟨j, hj⟩ := List.mem_iff_getElem?.mp hid
      apply hmem
      rw [hr.resolved, List.mem_map]
      use PushServer.resolve platform oracle w.contents m.deviceId (w.created + j) accountId
      constructor
      · exact PushServer.mem_resolveAll.mpr ⟨j, accountId, hj, rfl⟩
      · rw [PushServer.resolve, hreuse]
    · intro s d hs
      have := (Reached.typed hafter _ _ _ hs).1
      omega

end

/-- A device registers the account it has registered before. -/
theorem replaced_iff_registration :
  Replaced Sample.oracle (Sample.run Sample.registration).1
      (Sample.next Sample.registration
        (Sample.setPushAccounts "phone" ["alice"] (by decide))).after "phone"
      [⟨"alice", Sample.oracle.node 0, Sample.oracle.secret 0, true⟩]
    ↔ ∀ node, Given (Sample.run Sample.registration).1 "phone" node →
      ((Sample.run Sample.registration).2.contents.elements node).length = 3 →
      ∃ accountId ∈ ["alice"], (Sample.run Sample.registration).2.contents.nodeUnder
        (RedisClient.genAccount Sample.platform "phone" accountId) = some node
  := by
  let second := Sample.next Sample.registration
    (Sample.setPushAccounts "phone" ["alice"] Sample.phone_alice)
  obtain ⟨hfresh, htold⟩ :
      Admitted (Fresh Sample.oracle) (second :: (Sample.run Sample.registration).1)
        ∧ told second "phone"
          = some [⟨"alice", Sample.oracle.node 0, Sample.oracle.secret 0, true⟩] := by
    decide +kernel
  exact replaced_iff (Sample.reached_run Sample.registration) rfl hfresh htold

/-- After a device has replaced its account `alice` by `bob`, the node of `alice` is still
known. -/
theorem not_replaced_registration :
  Reached Sample.platform Sample.config Sample.oracle (Sample.run Sample.registration).1
      (Sample.run Sample.registration).2
    ∧ (let t := Sample.next Sample.registration
        (Sample.setPushAccounts "phone" ["bob"] (by decide))
      let accounts := [⟨"bob", Sample.oracle.node 1, Sample.oracle.secret 1, true⟩]
      Admitted (Fresh Sample.oracle) (t :: (Sample.run Sample.registration).1)
        ∧ NoCollision Sample.platform (t :: (Sample.run Sample.registration).1)
        ∧ told t "phone" = some accounts
        ∧ ¬Replaced Sample.oracle (Sample.run Sample.registration).1 t.after "phone" accounts)
  := by
  let second := Sample.next Sample.registration
    (Sample.setPushAccounts "phone" ["bob"] (by decide))
  obtain ⟨hfresh, hcollision, htold', t, ht, htold⟩ :
      Admitted (Fresh Sample.oracle) (second :: (Sample.run Sample.registration).1)
        ∧ NoCollision Sample.platform (second :: (Sample.run Sample.registration).1)
        ∧ told second "phone" = some [⟨"bob", Sample.oracle.node 1, Sample.oracle.secret 1, true⟩]
        ∧ ∃ t ∈ (Sample.run Sample.registration).1, told t "phone"
          = some [⟨"alice", Sample.oracle.node 0, Sample.oracle.secret 0, true⟩] := by
    decide +kernel
  use Sample.reached_run Sample.registration, hfresh, hcollision, htold'
  intro h
  have hunresolved := (h (Sample.oracle.node 0)
    ⟨t, ht, _, htold, List.mem_cons_self⟩ (by decide)).1
  revert hunresolved
  decide +kernel

end UwpxPush
