import UwpxPush.Server.Ownership

/-!
# The roles of keys

Devices, accounts, nodes and the WNS token share one space of keys.  `RolesApart` says that
the keys of a run have one role each: no device is named like the token, like a node or like
an account key, and no account key is of two devices.  Then the list of a device leads to
account keys of the device, and a request writes entries of its device only.
-/

namespace UwpxPush

open KeyValue

/-- The devices that messages have named. -/
def named (past : History) : List String :=
  past.filterMap fun t => t.event.deviceId

theorem mem_named {past : History} {deviceId : String} :
  deviceId ∈ named past ↔ Named past deviceId
  := by simp only [named, Named, List.mem_filterMap]

/-- Every key has one role: no device is named like the WNS token, like a node that was drawn,
or like an account key, and different devices have different account keys. -/
structure RolesApart (platform : Platform) (oracle : Oracle) (past : History) : Prop where
  token : ¬Named past RedisClient.WNS_TOKEN_KEY
  node : ∀ d, Named past d → ∀ t ∈ past, ∀ i < t.after.created, d ≠ oracle.node i
  key : ∀ d, Named past d → ∀ d' a, Listed past d' a → d ≠ RedisClient.genAccount platform d' a
  apart : KeysApart platform past

instance (platform : Platform) (oracle : Oracle) (past : History) :
    Decidable (RolesApart platform oracle past) :=
  decidable_of_iff
    (¬Named past RedisClient.WNS_TOKEN_KEY
      ∧ (∀ d ∈ named past, ∀ t ∈ past, ∀ i < t.after.created, d ≠ oracle.node i)
      ∧ (∀ d ∈ named past, ∀ x ∈ listed past, d ≠ RedisClient.genAccount platform x.1 x.2)
      ∧ KeysApart platform past)
    (by
      constructor
      · rintro ⟨htoken, hnode, hkey, hapart⟩
        constructor
        · apply htoken
        · intro d hd
          apply hnode d (mem_named.mpr hd)
        · intro d hd d' a hlisted
          exact hkey d (mem_named.mpr hd) (d', a) (mem_listed.mpr hlisted)
        · apply hapart
      · rintro ⟨htoken, hnode, hkey, hapart⟩
        refine ⟨htoken, ?_, ?_, hapart⟩
        · intro d hd
          apply hnode d (mem_named.mp hd)
        · rintro d hd ⟨d', a⟩ hlisted
          exact hkey d (mem_named.mp hd) d' a (mem_listed.mp hlisted))

/-- The entries of a device: its list, its account keys, and the records of the nodes that were
drawn for it under account keys of the accounts given. -/
def EntryOf (platform : Platform) (oracle : Oracle) (past : History) (deviceId : String)
    (accounts : List String) (k : String) : Prop :=
  k = deviceId
    ∨ (∃ accountId, Listed past deviceId accountId
        ∧ k = RedisClient.genAccount platform deviceId accountId)
    ∨ ∃ i accountId, Drawn past i deviceId accountId ∧ k = oracle.node i
      ∧ ∃ b ∈ accounts, RedisClient.genAccount platform deviceId accountId
        = RedisClient.genAccount platform deviceId b

/-- The entries of other devices: their lists, their account keys, and the records of the nodes
that were drawn for them. -/
def Foreign (platform : Platform) (oracle : Oracle) (past : History) (deviceId k : String) :
    Prop :=
  (Named past k ∧ k ≠ deviceId)
    ∨ (∃ other accountId, Listed past other accountId ∧ other ≠ deviceId
        ∧ k = RedisClient.genAccount platform other accountId)
    ∨ ∃ i other accountId, Drawn past i other accountId ∧ other ≠ deviceId
      ∧ k = oracle.node i

/-- The lists of devices lead to account keys of the devices. -/
def ListsOwnKeys (platform : Platform) (past : History) (w : World) : Prop :=
  ∀ d, Named past d → ∀ k ∈ (w.contents.elements d).drop 2,
    ∃ accountId, Listed past d accountId ∧ k = RedisClient.genAccount platform d accountId

section

variable {platform : Platform} {config : Configuration} {oracle : Oracle} {past : History}
  {t : Transition Event World} {w w' : World} {e : Event}

theorem RolesApart.of_cons (h : RolesApart platform oracle (t :: past)) :
  RolesApart platform oracle past
  := by
  constructor
  · intro hn
    exact h.token hn.cons
  · intro d hd u hu
    apply h.node d hd.cons u (List.mem_cons_of_mem t hu)
  · intro d hd d' a hlisted
    apply h.key d hd.cons d' a hlisted.cons
  · exact h.apart.of_cons

/-- No device is named like a node that was drawn. -/
theorem RolesApart.ne_node (h : RolesApart platform oracle past)
    (hreached : Reached platform config oracle past w) {d : String} (hd : Named past d)
    {i : Nat} (hi : i < w.created) :
  d ≠ oracle.node i
  := by
  cases hreached with
  | start hw =>
      obtain ⟨t, ht, -⟩ := hd
      cases ht
  | next hreached e => exact h.node d hd _ List.mem_cons_self i hi

/-- A device that is named for the first time has no list. -/
theorem RolesApart.elements_of_not_named (h : RolesApart platform oracle (⟨e, w, w'⟩ :: past))
    (hlists : ListsPlaced oracle past w) (hle : w.created ≤ w'.created) {d : String}
    (hd : Named (⟨e, w, w'⟩ :: past) d) (hnew : ¬Named past d) :
  w.contents.elements d = []
  := by
  unfold Contents.elements
  split
  · next l deadline hl =>
      rcases hlists _ _ _ hl with hwns | hnamed | ⟨i, hi, hnode⟩
      · exact (h.token (hwns ▸ hd)).elim
      · exact (hnew hnamed).elim
      · exact (h.node d hd _ List.mem_cons_self i (lt_of_lt_of_le hi hle) hnode).elim
  · rfl

/-- A device is named by a message about it. -/
theorem named_cons {d : String} (h : e.deviceId = some d) :
  Named (⟨e, w, w'⟩ :: past) d
  := ⟨_, List.mem_cons_self, h⟩

/-- What a message lists is listed for its device. -/
theorem listed_cons {d a : String} (h : e.deviceId = some d) (ha : a ∈ e.accounts) :
  Listed (⟨e, w, w'⟩ :: past) d a
  := ⟨_, List.mem_cons_self, h, ha⟩

/-- The node of an account of a registration was drawn for the device of the registration, under
the key of the account. -/
theorem RolesApart.account_drawn {m : SetPushAccountsMessage}
    {valid : (Message.setPushAccounts m).Valid} {version channelUri : String}
    {oldNodes : List String} {pushAccounts : List PushAccount}
    (h : RolesApart platform oracle (⟨.received (.setPushAccounts m) valid, w, w'⟩ :: past))
    (hr : PushServer.Registered platform config oracle m.deviceId version m.accounts w w'
      channelUri oldNodes pushAccounts)
    (hreached : Reached platform config oracle past w)
    (howned : AllOwned platform oracle past w) {a : PushAccount} (ha : a ∈ pushAccounts) :
  a.accountId ∈ m.accounts ∧ ∃ i accountId,
    Drawn (⟨.received (.setPushAccounts m) valid, w, w'⟩ :: past) i m.deviceId accountId
      ∧ a.node = oracle.node i ∧ a.secret = oracle.secret i
      ∧ RedisClient.genAccount platform m.deviceId accountId
        = Contents.accountKey platform m.deviceId a
  := by
  have hid : a.accountId ∈ m.accounts := by
    rw [← PushServer.map_accountId_resolveAll
      (c := w.contents) w.created m.accounts, ← hr.resolved]
    apply List.mem_map_of_mem ha
  obtain ⟨i, d, accountId, hdrawn, hnode, hsecret, hkey, -⟩ :=
    hr.account_owned valid hreached howned ha
  obtain rfl := h.apart _ _ _ _ (listed_cons rfl hid) hdrawn.listed hkey
  exact ⟨hid, i, accountId, hdrawn, hnode, hsecret, hkey.symm⟩

/-! ### The lists of devices -/

/-- A registration puts the account keys of its accounts into the list of its device, and no
other list gets keys. -/
theorem RolesApart.keys_registered {m : SetPushAccountsMessage}
    {valid : (Message.setPushAccounts m).Valid} {channelUri : String} {oldNodes : List String}
    {pushAccounts : List PushAccount}
    (h : RolesApart platform oracle (⟨.received (.setPushAccounts m) valid, w, w'⟩ :: past))
    (hr : PushServer.Registered platform config oracle m.deviceId (toString m.version)
      m.accounts w w' channelUri oldNodes pushAccounts)
    (hreached : Reached platform config oracle past w)
    (hreached' : Reached platform config oracle
      (⟨.received (.setPushAccounts m) valid, w, w'⟩ :: past) w')
    (howned : AllOwned platform oracle past w) {d : String}
    (hd : Named (⟨.received (.setPushAccounts m) valid, w, w'⟩ :: past) d) {k : String}
    (hk : k ∈ (w'.contents.elements d).drop 2) :
  d = m.deviceId ∧ (∃ a ∈ pushAccounts, a.accountId ∈ m.accounts
      ∧ k = Contents.accountKey platform d a)
    ∨ d ≠ m.deviceId ∧ k ∈ (w.contents.elements d).drop 2
  := by
  rcases hr.contents_cases hreached.typed d with rfl | ⟨-, a, ha, hkey, -⟩
    | ⟨-, ⟨a, ha, hnode⟩, -⟩ | ⟨hne, -, -, hframe⟩
  · rw [Contents.elements_of_eq hr.contents_device] at hk
    simp only [List.drop_succ_cons, List.drop_zero, List.mem_map] at hk
    obtain ⟨a, ha, rfl⟩ := hk
    exact .inl ⟨rfl, a, ha, (h.account_drawn hr hreached howned ha).1, rfl⟩
  · obtain ⟨hid, -⟩ := h.account_drawn hr hreached howned ha
    exact (h.key d hd _ _ (listed_cons rfl hid) hkey.symm).elim
  · obtain ⟨-, i, accountId, hdrawn, hi, -⟩ := h.account_drawn hr hreached howned ha
    exact (h.ne_node hreached' hd (hreached'.drawn_lt hdrawn) (hnode.symm.trans hi)).elim
  · apply Or.inr
    use hne
    by_cases hmem : d ∈ (w.contents.elements m.deviceId).drop 2
    · rw [if_pos hmem] at hframe
      rw [Contents.elements, hframe] at hk
      cases hk
    · rw [if_neg hmem] at hframe
      rw [Contents.elements_eq_of_apply_eq hframe] at hk
      apply hk

/-- Where the account keys in the list of a device come from: a response has told the device
the account, or they were there before. -/
theorem Move.keys_cases (hmove : Move platform config oracle w e w')
    (hreached : Reached platform config oracle past w)
    (hreached' : Reached platform config oracle (⟨e, w, w'⟩ :: past) w')
    (hfresh : Admitted (Fresh oracle) past)
    (hroles : RolesApart platform oracle (⟨e, w, w'⟩ :: past)) {d : String}
    (hd : Named (⟨e, w, w'⟩ :: past) d) {k : String}
    (hk : k ∈ (w'.contents.elements d).drop 2) :
  (∃ accounts, UwpxPush.told ⟨e, w, w'⟩ d = some accounts ∧ e.deviceId = some d
      ∧ ∃ accountId ∈ e.accounts, k = RedisClient.genAccount platform d accountId)
    ∨ UwpxPush.told ⟨e, w, w'⟩ d = none ∧ Named past d ∧ k ∈ (w.contents.elements d).drop 2
  := by
  obtain ⟨howned, hlists⟩ := hreached.owned hfresh
  have hold : k ∈ (w.contents.elements d).drop 2 → Named past d := by
    intro hk'
    by_contra hnew
    rw [hroles.elements_of_not_named hlists hmove.created.1 hd hnew] at hk'
    cases hk'
  cases hmove with
  | registered hr =>
      rcases hroles.keys_registered hr hreached hreached' howned hd hk with
        ⟨rfl, a, -, hid, hkey⟩ | ⟨hne, hk'⟩
      · exact .inl ⟨_, told_registered hr, rfl, a.accountId, hid, hkey⟩
      · apply Or.inr
        constructor
        · apply if_neg
          intro heq
          exact hne (Option.some.inj heq).symm
        · exact ⟨hold hk', hk'⟩
  | refused hr =>
      have hsame : w'.contents = w.contents := by rw [World.contents, hr.redis, World.contents]
      rw [hsame] at hk
      exact .inr ⟨told_refused hr d, hold hk, hk⟩
  | @channelUri m valid _ uri contents clock connected created log =>
      have hk' : k ∈ (w.contents.elements d).drop 2 := by
        by_cases hm : d = m.deviceId
        · have helements : w'.contents.elements d
              = m.channelUri :: (w.contents.elements d).tail := by
            rw [contents, Contents.setChannelUri, hm]
            exact Contents.elements_of_eq (if_pos rfl)
          rw [helements, List.drop_succ_cons, ← List.drop_one, List.drop_drop] at hk
          apply hk
        · rw [contents, Contents.setChannelUri,
            Contents.elements_eq_of_apply_eq (c := w.contents) (if_neg hm)] at hk
          apply hk
      exact .inr ⟨told_of_no_accounts log (by simp [Output.accounts]), hold hk', hk'⟩
  | other heffect =>
      have hne : d ≠ RedisClient.WNS_TOKEN_KEY := by
        rintro rfl
        exact hroles.token hd
      have hsame : w'.contents d = w.contents d := heffect.lookup d hne
      rw [Contents.elements_eq_of_apply_eq hsame] at hk
      obtain ⟨out, hlog, hout⟩ := heffect.outputs
      exact .inr ⟨told_of_no_accounts hlog fun o ho => (hout o ho).accounts.1, hold hk, hk⟩
  | connection up => exact .inr ⟨told_of_log_eq rfl d, hold hk, hk⟩
  | advance dt =>
      have hk' : k ∈ (w.contents.elements d).drop 2 := by
        rcases hentry : ({ w with redis := w.redis.advance dt } : World).contents d with _ | entry
        · rw [Contents.elements, hentry] at hk
          cases hk
        · rw [Contents.elements_eq_of_apply_eq (c := w.contents)
            (hentry.trans (contents_advance hentry).symm)] at hk
          apply hk
      exact .inr ⟨told_of_log_eq rfl d, hold hk', hk'⟩

/-- In every run whose keys have one role each, the lists of devices lead to account keys of
the devices. -/
theorem Reached.listsOwnKeys (h : Reached platform config oracle past w)
    (hfresh : Admitted (Fresh oracle) past) (hroles : RolesApart platform oracle past) :
  ListsOwnKeys platform past w
  := by
  revert hfresh hroles
  apply h.invariant (I := fun past w => Admitted (Fresh oracle) past →
    RolesApart platform oracle past → ListsOwnKeys platform past w)
  · rintro w - - - d ⟨t, ht, -⟩
    cases ht
  · intro past w e w' hreached hreached' hmove ih hfresh hroles d hd k hk
    rcases hmove.keys_cases hreached hreached' hfresh.2 hroles hd hk with
      ⟨-, -, hdevice, a, ha, hkey⟩ | ⟨-, hold, hk'⟩
    · exact ⟨a, listed_cons hdevice ha, hkey⟩
    · obtain ⟨a, hlisted, hkey⟩ := ih hfresh.2 hroles.of_cons d hold k hk'
      exact ⟨a, hlisted.cons, hkey⟩

/-! ### What a request writes -/

/-- A registration writes entries of its device only. -/
theorem RolesApart.entryOf_registered {m : SetPushAccountsMessage}
    {valid : (Message.setPushAccounts m).Valid} {version channelUri : String}
    {oldNodes : List String} {pushAccounts : List PushAccount}
    (h : RolesApart platform oracle (⟨.received (.setPushAccounts m) valid, w, w'⟩ :: past))
    (hr : PushServer.Registered platform config oracle m.deviceId version m.accounts w w'
      channelUri oldNodes pushAccounts)
    (hreached : Reached platform config oracle past w)
    (howned : AllOwned platform oracle past w) (hlists : ListsPlaced oracle past w)
    (hown : ListsOwnKeys platform past w) {k : String}
    (hk : w'.contents k ≠ w.contents k) :
  EntryOf platform oracle (⟨.received (.setPushAccounts m) valid, w, w'⟩ :: past) m.deviceId
    m.accounts k
  := by
  rcases hr.contents_cases hreached.typed k with rfl | ⟨-, a, ha, hkey, -⟩
    | ⟨-, ⟨a, ha, hnode⟩, -⟩ | ⟨-, -, -, hframe⟩
  · exact .inl rfl
  · obtain ⟨hid, -⟩ := h.account_drawn hr hreached howned ha
    exact .inr (.inl ⟨a.accountId, listed_cons rfl hid, hkey.symm⟩)
  · obtain ⟨hid, i, accountId, hdrawn, hi, -, hkey⟩ := h.account_drawn hr hreached howned ha
    exact .inr (.inr ⟨i, accountId, hdrawn, hnode.symm.trans hi, a.accountId, hid, hkey⟩)
  · rw [hframe] at hk
    split at hk
    · next hmem =>
        by_cases hold : Named past m.deviceId
        · obtain ⟨a, hlisted, hkey⟩ := hown _ hold k hmem
          exact .inr (.inl ⟨a, hlisted.cons, hkey⟩)
        · have hle : w.created ≤ w'.created := by
            rw [hr.created]
            omega
          rw [h.elements_of_not_named hlists hle (named_cons rfl) hold] at hmem
          cases hmem
    · exact (hk rfl).elim

/-- A message writes entries of its device only, apart from the WNS token. -/
theorem Move.entryOf (hmove : Move platform config oracle w e w')
    (hreached : Reached platform config oracle past w)
    (hfresh : Admitted (Fresh oracle) past)
    (hroles : RolesApart platform oracle (⟨e, w, w'⟩ :: past)) {d : String}
    (hd : e.deviceId = some d) {k : String} (hwns : k ≠ RedisClient.WNS_TOKEN_KEY)
    (hk : w'.contents k ≠ w.contents k) :
  EntryOf platform oracle (⟨e, w, w'⟩ :: past) d e.accounts k
  := by
  obtain ⟨howned, hlists⟩ := hreached.owned hfresh
  have hown := hreached.listsOwnKeys hfresh hroles.of_cons
  cases hmove with
  | registered hr =>
      cases hd
      exact hroles.entryOf_registered hr hreached howned hlists hown hk
  | refused hr =>
      rw [World.contents, hr.redis] at hk
      exact (hk rfl).elim
  | channelUri uri contents clock connected created log =>
      cases hd
      apply Or.inl
      by_contra hne
      apply hk
      rw [contents, Contents.setChannelUri]
      exact if_neg hne
  | other heffect => exact (hk (heffect.lookup k hwns)).elim
  | connection up => cases hd
  | advance dt => cases hd

/-! ### Entries of a device -/

theorem genAccount_ne_token (d accountId : String) :
  RedisClient.genAccount platform d accountId ≠ RedisClient.WNS_TOKEN_KEY
  := by
  intro heq
  have hlength := congrArg String.length heq
  rw [length_genAccount] at hlength
  cases hlength

theorem node_ne_token (i : Nat) :
  oracle.node i ≠ RedisClient.WNS_TOKEN_KEY
  := by
  intro heq
  have hlength := congrArg String.length heq
  rw [oracle.length_node] at hlength
  cases hlength

theorem genAccount_ne_node (d accountId : String) (i : Nat) :
  RedisClient.genAccount platform d accountId ≠ oracle.node i
  := by
  intro heq
  have hlength := congrArg String.length heq
  rw [length_genAccount, oracle.length_node] at hlength
  cases hlength

/-- Where keys have one role each, an entry of a device is no entry of another one. -/
theorem EntryOf.not_foreign (hreached : Reached platform config oracle past w)
    (hfresh : Admitted (Fresh oracle) past) (hroles : RolesApart platform oracle past)
    {deviceId k : String} {accounts : List String} (hd : Named past deviceId)
    (h : EntryOf platform oracle past deviceId accounts k) :
  ¬Foreign platform oracle past deviceId k
  := by
  rcases h with rfl | ⟨a, hlisted, rfl⟩ | ⟨i, a, hdrawn, rfl, -⟩
  · rintro (⟨-, hne⟩ | ⟨other, b, hother, -, hkey⟩ | ⟨j, other, b, hother, -, hnode⟩)
    · exact hne rfl
    · exact hroles.key _ hd other b hother hkey
    · exact hroles.ne_node hreached hd (hreached.drawn_lt hother) hnode
  · rintro (⟨hnamed, -⟩ | ⟨other, b, hother, hne, hkey⟩ | ⟨j, other, b, -, -, hnode⟩)
    · exact hroles.key _ hnamed deviceId a hlisted rfl
    · exact hne (hroles.apart _ _ _ _ hother hlisted hkey.symm)
    · exact genAccount_ne_node _ _ _ hnode
  · rintro (⟨hnamed, -⟩ | ⟨other, b, -, -, hkey⟩ | ⟨j, other, b, hother, hne, hnode⟩)
    · exact hroles.ne_node hreached hnamed (hreached.drawn_lt hdrawn) rfl
    · exact genAccount_ne_node _ _ _ hkey.symm
    · obtain rfl := hreached.node_injective hfresh (hreached.drawn_lt hdrawn)
        (hreached.drawn_lt hother) hnode
      exact hne (hreached.drawn_unique hother hdrawn).1

/-- The key of the WNS token is no entry of a device. -/
theorem RolesApart.token_not_foreign (h : RolesApart platform oracle past) (deviceId : String) :
  ¬Foreign platform oracle past deviceId RedisClient.WNS_TOKEN_KEY
  := by
  rintro (⟨hnamed, -⟩ | ⟨other, b, -, -, hkey⟩ | ⟨j, other, b, -, -, hnode⟩)
  · exact h.token hnamed
  · exact genAccount_ne_token _ _ hkey.symm
  · exact node_ne_token _ hnode.symm

/-- Where keys have one role each, a message leaves the entries of other devices alone. -/
theorem Move.contents_foreign (hmove : Move platform config oracle w e w')
    (hreached : Reached platform config oracle past w)
    (hreached' : Reached platform config oracle (⟨e, w, w'⟩ :: past) w')
    (hfresh : Admitted (Fresh oracle) (⟨e, w, w'⟩ :: past))
    (hroles : RolesApart platform oracle (⟨e, w, w'⟩ :: past)) {d : String}
    (hd : e.deviceId = some d) {k : String}
    (hk : Foreign platform oracle (⟨e, w, w'⟩ :: past) d k) :
  w'.contents k = w.contents k
  := by
  by_contra hne
  have hentry := hmove.entryOf hreached hfresh.2 hroles hd (k := k) (by
    rintro rfl
    exact hroles.token_not_foreign d hk) hne
  exact hentry.not_foreign hreached' hfresh hroles (named_cons hd) hk

/-- What is foreign to all other devices stays as it is while the device is told nothing, unless
time passes. -/
theorem Move.contents_own (h : Move platform config oracle w e w')
    (hreached : Reached platform config oracle past w)
    (hreached' : Reached platform config oracle (⟨e, w, w'⟩ :: past) w')
    (hfresh : Admitted (Fresh oracle) (⟨e, w, w'⟩ :: past))
    (hroles : RolesApart platform oracle (⟨e, w, w'⟩ :: past)) {d k : String}
    (htold : UwpxPush.told ⟨e, w, w'⟩ d = none) (hwns : k ≠ RedisClient.WNS_TOKEN_KEY)
    (hd : k ≠ d)
    (hforeign : ∀ d', d' ≠ d → Foreign platform oracle (⟨e, w, w'⟩ :: past) d' k) :
  (w'.redis.clock = w.redis.clock ∧ w'.contents k = w.contents k)
    ∨ ∃ dt, e = .advance dt ∧ w' = { w with redis := w.redis.advance dt }
  := by
  have hmove := h
  cases h with
  | @registered m valid _ channelUri oldNodes pushAccounts hr =>
      have hne : m.deviceId ≠ d := by
        rintro rfl
        rw [told_registered hr] at htold
        cases htold
      apply Or.inl
      use hr.clock
      exact hmove.contents_foreign hreached hreached' hfresh hroles rfl (hforeign _ hne)
  | refused hr =>
      apply Or.inl
      rw [World.contents, World.contents, hr.redis]
      exact ⟨rfl, rfl⟩
  | @channelUri m valid _ uri contents clock connected created log =>
      apply Or.inl
      use clock
      by_cases hne : m.deviceId = d
      · rw [contents, Contents.setChannelUri]
        apply if_neg
        rw [hne]
        apply hd
      · exact hmove.contents_foreign hreached hreached' hfresh hroles rfl (hforeign _ hne)
  | other heffect => exact .inl ⟨heffect.clock, heffect.lookup _ hwns⟩
  | connection up => exact .inl ⟨rfl, rfl⟩
  | advance dt => exact .inr ⟨dt, rfl, rfl⟩

end

end UwpxPush
