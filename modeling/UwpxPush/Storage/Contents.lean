import Mathlib.Data.List.Induction
import UwpxPush.Storage.RedisClient

/-!
# The contents of the store

`Contents` is what can be looked up in the store: its entries that have not expired.  The
writes of the Redis client are described here by what they do to the contents, and
`run_setPushAccounts` and `run_setChannelUri` say that the commands do that.  `Typed` says
that strings are under account keys only, and that they are nodes; then no write meets a
value of the wrong type.
-/

namespace UwpxPush

open KeyValue

/-- The entries that can be looked up. -/
abbrev Contents : Type :=
  String → Option (Entry String)

/-- The nanoseconds an entry is kept. -/
def timeout : Int :=
  RedisClient.DEFAULT_ENTRY_TIMEOUT * second

theorem timeout_pos :
  0 < timeout
  := by decide

@[simp]
theorem length_genAccount (platform : Platform) (deviceId accountId : String) :
  (RedisClient.genAccount platform deviceId accountId).length = 64
  := CryptoUtils.length_hashSah256 _ _

namespace Contents

/-- The elements of the list under a key, none where there is no list. -/
def elements (c : Contents) (k : String) : List String :=
  match c k with
  | some ⟨.list l, _⟩ => l
  | _ => []

/-- Remove keys. -/
def remove (c : Contents) (keys : List String) : Contents :=
  fun k => if k ∈ keys then none else c k

/-- Put a list under a key. -/
def putList (deadline : Int) (c : Contents) (k : String) (l : List String) : Contents :=
  fun k' => if k' = k then some ⟨.list l, some deadline⟩ else c k'

/-- The account key of an account of a device. -/
def accountKey (platform : Platform) (deviceId : String) (account : PushAccount) : String :=
  RedisClient.genAccount platform deviceId account.accountId

@[simp]
theorem length_accountKey (platform : Platform) (deviceId : String) (account : PushAccount) :
  (accountKey platform deviceId account).length = 64
  := length_genAccount _ _ _

/-- Put the node of an account under its account key and append the account to the list of
its node. -/
def addAccount (platform : Platform) (deadline : Int) (deviceId : String) (c : Contents)
    (account : PushAccount) : Contents :=
  fun k =>
    if k = accountKey platform deviceId account then
      some ⟨.string account.node, some deadline⟩
    else if k = account.node then
      some ⟨.list (c.elements k ++ [account.accountId, deviceId, account.secret]),
        some deadline⟩
    else c k

/-- What the lists of a node receive when accounts are added. -/
def records (deviceId : String) (accounts : List PushAccount) (node : String) : List String :=
  (accounts.filter (·.node = node)).flatMap fun account =>
    [account.accountId, deviceId, account.secret]

/-- The contents after the accounts of a device are replaced. -/
def setPushAccounts (platform : Platform) (deadline : Int)
    (deviceId channelUri version : String) (accounts : List PushAccount) (c : Contents) :
    Contents :=
  let cleared := c.remove (deviceId :: (c.elements deviceId).drop 2)
  let added := accounts.foldl (addAccount platform deadline deviceId) cleared
  putList deadline added deviceId
    (channelUri :: version :: accounts.map (accountKey platform deviceId))

/-- The contents after the channel URI of a device is replaced. -/
def setChannelUri (deadline : Int) (deviceId channelUri : String) (c : Contents) : Contents :=
  putList deadline c deviceId (channelUri :: (c.elements deviceId).tail)

/-- Strings are nodes under account keys. -/
def Typed (c : Contents) : Prop :=
  ∀ k node deadline, c k = some ⟨.string node, deadline⟩ → k.length = 64 ∧ node.length = 15

/-! ### Accounts that are added -/

section

variable {platform : Platform} {deadline : Int} {deviceId : String} {c : Contents}
  {accounts : List PushAccount}

theorem elements_of_eq {k : String} {l : List String} {d : Option Int}
    (h : c k = some ⟨.list l, d⟩) :
  c.elements k = l
  := by rw [elements, h]

theorem elements_eq_of_apply_eq {c' : Contents} {k : String} (h : c' k = c k) :
  c'.elements k = c.elements k
  := by rw [elements, elements, h]

/-- A key that is neither an account key nor a node keeps its entry. -/
theorem addAccounts_frame {k : String} (hk : ∀ a ∈ accounts, k ≠ accountKey platform deviceId a)
    (hn : ∀ a ∈ accounts, k ≠ a.node) :
  accounts.foldl (addAccount platform deadline deviceId) c k = c k
  := by
  induction accounts using List.reverseRecOn with
  | nil => rfl
  | append_singleton accounts account ih =>
      rw [List.foldl_append, List.foldl_cons, List.foldl_nil, addAccount,
        if_neg (hk account (by simp)), if_neg (hn account (by simp))]
      apply ih
      · intro a ha
        apply hk a
        simp [ha]
      · intro a ha
        apply hn a
        simp [ha]

/-- An account key holds the node of the last account with that key. -/
theorem addAccounts_key {k : String} {account : PushAccount} (hk : k.length = 64)
    (hn : ∀ a ∈ accounts, a.node.length = 15)
    (h : accounts.reverse.find? (fun a => accountKey platform deviceId a = k) = some account) :
  accounts.foldl (addAccount platform deadline deviceId) c k
    = some ⟨.string account.node, some deadline⟩
  := by
  induction accounts using List.reverseRecOn with
  | nil => cases h
  | append_singleton accounts last ih =>
      rw [List.reverse_append, List.reverse_singleton, List.singleton_append,
        List.find?_cons] at h
      rw [List.foldl_append, List.foldl_cons, List.foldl_nil, addAccount]
      by_cases hlast : k = accountKey platform deviceId last
      · simp only [hlast, decide_true, Option.some.injEq] at h
        rw [if_pos hlast, h]
      · have hnode : k ≠ last.node := by
          rintro rfl
          have := hn last (by simp)
          omega
        rw [if_neg hlast, if_neg hnode]
        apply ih
        · intro a ha
          apply hn a
          simp [ha]
        · simpa [Ne.symm hlast] using h

/-- The list under a node receives the accounts of that node. -/
theorem elements_addAccounts {k : String} (hk : k.length = 15) :
  elements (accounts.foldl (addAccount platform deadline deviceId) c) k
    = c.elements k ++ records deviceId accounts k
  := by
  induction accounts using List.reverseRecOn with
  | nil => simp [records]
  | append_singleton accounts account ih =>
      have hkey : k ≠ accountKey platform deviceId account := by
        rintro rfl
        simp at hk
      rw [List.foldl_append, List.foldl_cons, List.foldl_nil]
      by_cases hnode : k = account.node
      · rw [elements, addAccount, if_neg hkey, if_pos hnode, ih]
        simp [records, hnode]
      · rw [elements_eq_of_apply_eq (c := accounts.foldl _ c), ih]
        · simp [records, Ne.symm hnode]
        · rw [addAccount, if_neg hkey, if_neg hnode]

/-- The entry of a node that receives accounts. -/
theorem addAccounts_node {k : String} (hk : k.length = 15)
    (h : ∃ a ∈ accounts, a.node = k) :
  accounts.foldl (addAccount platform deadline deviceId) c k
    = some ⟨.list (c.elements k ++ records deviceId accounts k), some deadline⟩
  := by
  induction accounts using List.reverseRecOn with
  | nil => simp at h
  | append_singleton accounts account ih =>
      have hkey : k ≠ accountKey platform deviceId account := by
        rintro rfl
        simp at hk
      rw [List.foldl_append, List.foldl_cons, List.foldl_nil, addAccount, if_neg hkey]
      by_cases hnode : k = account.node
      · rw [if_pos hnode, elements_addAccounts hk]
        simp [records, hnode]
      · rw [if_neg hnode, ih]
        · simp [records, Ne.symm hnode]
        · obtain ⟨a, ha, rfl⟩ := h
          rcases List.mem_append.mp ha with ha | ha
          · use a
          · simp only [List.mem_singleton] at ha
            rw [ha] at hnode
            exact (hnode rfl).elim

/-! ### The entries after the accounts of a device are replaced -/

section

variable {channelUri version : String}

theorem setPushAccounts_device :
  c.setPushAccounts platform deadline deviceId channelUri version accounts deviceId
    = some ⟨.list (channelUri :: version :: accounts.map (accountKey platform deviceId)),
      some deadline⟩
  := by rw [setPushAccounts, putList, if_pos rfl]

/-- An account key holds the node of the last account that has it. -/
theorem setPushAccounts_key {k : String} {account : PushAccount} (hd : k ≠ deviceId)
    (hk : k.length = 64) (hn : ∀ a ∈ accounts, a.node.length = 15)
    (h : accounts.reverse.find? (fun a => accountKey platform deviceId a = k) = some account) :
  c.setPushAccounts platform deadline deviceId channelUri version accounts k
    = some ⟨.string account.node, some deadline⟩
  := by
  rw [setPushAccounts, putList, if_neg hd]
  apply addAccounts_key hk hn h

/-- The list of a node receives the accounts that have it. -/
theorem setPushAccounts_node {k : String} (hd : k ≠ deviceId) (hk : k.length = 15)
    (hold : k ∉ (c.elements deviceId).drop 2) (h : ∃ a ∈ accounts, a.node = k) :
  c.setPushAccounts platform deadline deviceId channelUri version accounts k
    = some ⟨.list (c.elements k ++ records deviceId accounts k), some deadline⟩
  := by
  rw [setPushAccounts, putList, if_neg hd, addAccounts_node hk h,
    elements_eq_of_apply_eq (c := c)]
  simp [remove, hd, hold]

/-- Every other key keeps its entry, unless it was an account key of the device. -/
theorem setPushAccounts_frame {k : String} (hd : k ≠ deviceId)
    (hk : ∀ a ∈ accounts, k ≠ accountKey platform deviceId a)
    (hn : ∀ a ∈ accounts, k ≠ a.node) :
  c.setPushAccounts platform deadline deviceId channelUri version accounts k
    = if k ∈ (c.elements deviceId).drop 2 then none else c k
  := by
  rw [setPushAccounts, putList, if_neg hd, addAccounts_frame hk hn]
  simp [remove, hd]

/-- What is under a key after the accounts of a device are replaced: the list of the device,
the node of an account key, the list of a node, or what was there before. -/
theorem setPushAccounts_cases (hn : ∀ a ∈ accounts, a.node.length = 15)
    (hold : ∀ k ∈ (c.elements deviceId).drop 2, k.length = 64) (k : String) :
  k = deviceId
    ∨ k ≠ deviceId ∧ (∃ a ∈ accounts, accountKey platform deviceId a = k
        ∧ c.setPushAccounts platform deadline deviceId channelUri version accounts k
          = some ⟨.string a.node, some deadline⟩)
    ∨ k ≠ deviceId ∧ (∃ a ∈ accounts, a.node = k)
      ∧ c.setPushAccounts platform deadline deviceId channelUri version accounts k
        = some ⟨.list (c.elements k ++ records deviceId accounts k), some deadline⟩
    ∨ k ≠ deviceId ∧ (∀ a ∈ accounts, accountKey platform deviceId a ≠ k)
      ∧ (∀ a ∈ accounts, a.node ≠ k)
      ∧ c.setPushAccounts platform deadline deviceId channelUri version accounts k
        = if k ∈ (c.elements deviceId).drop 2 then none else c k
  := by
  by_cases hd : k = deviceId
  · exact .inl hd
  · apply Or.inr
    by_cases hkey : ∃ a ∈ accounts, accountKey platform deviceId a = k
    · apply Or.inl
      use hd
      have hsome : (accounts.reverse.find?
          (fun a => accountKey platform deviceId a = k)).isSome = true := by
        rw [List.find?_isSome]
        obtain ⟨a, ha, hk⟩ := hkey
        exact ⟨a, by simpa using ha, by simpa using hk⟩
      obtain ⟨a, ha⟩ := Option.isSome_iff_exists.mp hsome
      have hmem := List.mem_of_find?_eq_some ha
      have hk := List.find?_some ha
      simp only [decide_eq_true_eq] at hk
      use a, by simpa using hmem, hk
      apply setPushAccounts_key hd _ hn ha
      rw [← hk]
      simp
    · apply Or.inr
      simp only [not_exists, not_and] at hkey
      by_cases hnode : ∃ a ∈ accounts, a.node = k
      · apply Or.inl
        use hd, hnode
        have hlen : k.length = 15 := by
          obtain ⟨a, ha, rfl⟩ := hnode
          apply hn a ha
        apply setPushAccounts_node hd hlen _ hnode
        intro hmem
        have := hold k hmem
        omega
      · apply Or.inr
        simp only [not_exists, not_and] at hnode
        use hd, hkey, hnode
        apply setPushAccounts_frame hd
        · intro a ha
          apply Ne.symm (hkey a ha)
        · intro a ha
          apply Ne.symm (hnode a ha)

end

/-- Adding accounts with nodes keeps strings where they belong. -/
theorem Typed.addAccount (h : Typed c) {account : PushAccount} (hn : account.node.length = 15) :
  Typed (addAccount platform deadline deviceId c account)
  := by
  intro k node d hk
  unfold Contents.addAccount at hk
  split at hk
  · next heq =>
      cases hk
      rw [heq]
      simp [hn]
  · split at hk
    · cases hk
    · apply h _ _ _ hk

theorem Typed.remove (h : Typed c) (keys : List String) :
  Typed (c.remove keys)
  := by
  intro k node d hk
  unfold Contents.remove at hk
  split at hk
  · cases hk
  · apply h _ _ _ hk

end

end Contents

/-! ### The commands -/

/-- What can be looked up in the store of a world. -/
def World.contents (w : World) : Contents :=
  w.redis.lookup

section Commands

open Contents

variable {platform : Platform} {oracle : Oracle} {w : World}

/-- A reading command answers with the elements of the list, or finds a string. -/
theorem range_eq (k : String) :
  w.redis.range k = .ok (w.contents.elements k)
    ∨ w.redis.range k = .error .wrongType ∧ ∃ a d, w.contents k = some ⟨.string a, d⟩
  := by
  unfold World.contents Store.range Store.find elements
  match w.redis.lookup k with
  | none => exact .inl rfl
  | some ⟨.list l, _⟩ => exact .inl rfl
  | some ⟨.string a, d⟩ => exact .inr ⟨rfl, a, d, rfl⟩

/-- Appending to a key without a string. -/
theorem run_append {k : String} {l : List String}
    (h : ∀ a d, w.contents k ≠ some ⟨.string a, d⟩) :
  ∃ redis, Server.run oracle (RedisClient.append k l) w = (.ok (), { w with redis })
    ∧ redis.clock = w.redis.clock
    ∧ redis.lookup = putList (w.redis.clock + timeout) w.contents k (w.contents.elements k ++ l)
  := by
  have ht : w.redis.clock < w.redis.clock + timeout := by
    have := timeout_pos
    omega
  obtain ⟨s, hs⟩ := w.redis.push_ok k (l := l) h
  have hclock := Store.clock_push hs
  use s.expireAt k (w.redis.clock + timeout)
  constructor
  · simp only [RedisClient.append, Program.run_bind, Server.run_rpush, Server.run_expire, hs,
      World.writing, hclock]
    rfl
  · constructor
    · simp [hclock]
    · funext k'
      by_cases hk : k' = k
      · obtain ⟨l', d, hl, hbefore⟩ := Store.lookup_expireAt_push hs ht
        have hl' : w.contents.elements k = l' := by
          rcases hbefore with ⟨hnone, rfl⟩ | hsome
          · rw [elements, World.contents, hnone]
          · rw [elements, World.contents, hsome]
        rw [putList, hk, if_pos rfl, hl, hl']
      · rw [putList, if_neg hk, Store.lookup_expireAt_of_ne _ hk, Store.lookup_push_of_ne hs hk,
          World.contents]

variable (oracle w) in
/-- Making the list of a key anew. -/
theorem run_del_append (k : String) (l : List String) :
  ∃ redis, Server.run oracle (do Redis.del k; RedisClient.append k l) w
      = (.ok (), { w with redis })
    ∧ redis.clock = w.redis.clock
    ∧ redis.lookup = putList (w.redis.clock + timeout) w.contents k l
  := by
  have hdel : ({ w with redis := w.redis.del k } : World).contents k = none := by
    rw [World.contents, Store.lookup_del, if_pos rfl]
  obtain ⟨redis, hrun, hclock, hlookup⟩ := run_append
    (w := { w with redis := w.redis.del k }) (k := k) (l := l)
    (by
      intro a d
      rw [hdel]
      rintro ⟨⟩)
  use redis
  constructor
  · rw [Server.run, Program.run_bind_ok _ (Server.run_del oracle w k)]
    apply hrun
  · constructor
    · apply hclock
    · funext k'
      rw [hlookup, elements, hdel, putList, putList]
      by_cases hk : k' = k
      · simp [hk]
      · simp [hk, World.contents, Store.lookup_del]

/-- A key that is not 64 characters long holds no string. -/
theorem Contents.Typed.not_string {c : Contents} (h : Typed c) {k : String}
    (hk : k.length ≠ 64) (a : String) (d : Option Int) :
  c k ≠ some ⟨.string a, d⟩
  := by
  intro hs
  apply hk (h k a d hs).1

/-- Setting the string of a key and its time of expiry. -/
theorem run_set_expire (k a : String) :
  ∃ redis, Server.run oracle (do
        Redis.set k a
        Redis.expire k RedisClient.DEFAULT_ENTRY_TIMEOUT) w = (.ok (), { w with redis })
    ∧ redis.clock = w.redis.clock
    ∧ ∀ k', redis.lookup k' = if k' = k then
        some ⟨.string a, some (w.redis.clock + timeout)⟩ else w.contents k'
  := by
  have ht : (w.redis.set k a).clock < w.redis.clock + timeout := by
    have := timeout_pos
    rw [Store.clock_set]
    omega
  use (w.redis.set k a).expireAt k (w.redis.clock + timeout)
  constructor
  · rw [Server.run, Program.run_bind_ok _ (Server.run_set oracle w k a)]
    apply Server.run_expire
  · constructor
    · simp
    · intro k'
      rw [Store.lookup_expireAt _ _ _ ht, Store.lookup_set, Store.lookup_set, if_pos rfl]
      by_cases hk : k' = k
      · simp [hk]
      · simp [hk, World.contents]

variable (platform oracle) in
/-- Adding an account. -/
theorem run_addAccount (deviceId : String) (account : PushAccount) (h : Typed w.contents)
    (hn : account.node.length = 15) :
  ∃ redis, Server.run oracle (RedisClient.addAccount platform deviceId account) w
      = (.ok (), { w with redis })
    ∧ redis.clock = w.redis.clock
    ∧ redis.lookup
      = addAccount platform (w.redis.clock + timeout) deviceId w.contents account
  := by
  let key := accountKey platform deviceId account
  have hkey : account.node ≠ key := by
    intro heq
    have := congrArg String.length heq
    simp [key, hn] at this
  obtain ⟨redis, hrun, hclock, hlookup⟩ :=
    run_set_expire (w := w) key account.node
  have hnode : redis.lookup account.node = w.contents account.node := by
    rw [hlookup, if_neg hkey]
  obtain ⟨redis', hrun', hclock', hlookup'⟩ := run_append
    (w := { w with redis }) (k := account.node)
    (l := [account.accountId, deviceId, account.secret])
    (by
      intro a d
      rw [World.contents, hnode]
      apply h.not_string
      omega)
  use redis'
  constructor
  · have hbind : RedisClient.addAccount platform deviceId account
        = (do
            Redis.set key account.node
            Redis.expire key RedisClient.DEFAULT_ENTRY_TIMEOUT) >>= fun _ =>
          RedisClient.append account.node
            [account.accountId, deviceId, account.secret] := by
      rw [bind_assoc]
      rfl
    rw [hbind, Server.run, Program.run_bind_ok _ hrun]
    apply hrun'
  · constructor
    · rw [hclock', hclock]
    · funext k
      rw [hlookup', putList, addAccount]
      by_cases hk : k = account.node
      · have helements : ({ w with redis } : World).contents.elements account.node
            = w.contents.elements account.node :=
          elements_eq_of_apply_eq hnode
        have hkey' : k ≠ accountKey platform deviceId account := by
          rw [hk]
          apply hkey
        rw [if_pos hk, if_neg hkey', if_pos hk, hclock, hk, helements]
      · rw [if_neg hk, if_neg hk, World.contents, hlookup]

variable (platform oracle) in
/-- Adding one account after the other. -/
theorem run_forM_addAccount (deviceId : String) (accounts : List PushAccount)
    (h : Typed w.contents) (hn : ∀ a ∈ accounts, a.node.length = 15) :
  ∃ redis, Server.run oracle (accounts.forM (RedisClient.addAccount platform deviceId)) w
      = (.ok (), { w with redis })
    ∧ redis.clock = w.redis.clock
    ∧ redis.lookup = accounts.foldl
      (addAccount platform (w.redis.clock + timeout) deviceId) w.contents
  := by
  induction accounts generalizing w with
  | nil => exact ⟨w.redis, rfl, rfl, rfl⟩
  | cons account accounts ih =>
      have hnode := hn account List.mem_cons_self
      obtain ⟨redis, hrun, hclock, hlookup⟩ := run_addAccount platform oracle
        deviceId account h hnode
      obtain ⟨redis', hrun', hclock', hlookup'⟩ := ih (w := { w with redis })
        (by
          rw [World.contents, hlookup]
          apply h.addAccount hnode)
        (by
          intro a ha
          apply hn a (List.mem_cons_of_mem account ha))
      use redis'
      constructor
      · rw [Server.run, Program.run_forM_cons_ok _ hrun]
        apply hrun'
      · constructor
        · rw [hclock', hclock]
        · rw [hlookup', List.foldl_cons, World.contents, hlookup, hclock]

/-- The node under an account key is read after the key is gone, so it is not deleted. -/
theorem run_deleteAccount (account : String) :
  Server.run oracle (RedisClient.deleteAccount account) w
    = (.ok (), { w with redis := w.redis.del account })
  := by
  have hget : (w.redis.del account).get account = .ok none := by
    simp [Store.get, Store.find, Store.lookup_del]
  simp [RedisClient.deleteAccount, Program.run_bind, hget, World.reading]

theorem run_forM_deleteAccount (keys : List String) :
  ∃ redis, Server.run oracle (keys.forM RedisClient.deleteAccount) w
      = (.ok (), { w with redis })
    ∧ redis.clock = w.redis.clock
    ∧ redis.lookup = w.contents.remove keys
  := by
  induction keys generalizing w with
  | nil =>
      use w.redis, rfl, rfl
      funext k
      simp [remove, World.contents]
  | cons key keys ih =>
      obtain ⟨redis, hrun, hclock, hlookup⟩ := ih (w := { w with redis := w.redis.del key })
      use redis
      constructor
      · rw [Server.run, Program.run_forM_cons_ok _ (run_deleteAccount key)]
        apply hrun
      · constructor
        · rw [hclock]
          rfl
        · funext k
          rw [hlookup, remove, remove, World.contents, Store.lookup_del]
          by_cases hk : k = key
          · simp [hk]
          · simp [hk, World.contents]

/-- Removing a device that has a list. -/
theorem run_removeDevice {deviceId : String} (hd : w.contents.elements deviceId ≠ []) :
  ∃ redis, Server.run oracle (RedisClient.removeDevice deviceId) w = (.ok (), { w with redis })
    ∧ redis.clock = w.redis.clock
    ∧ redis.lookup
      = w.contents.remove (deviceId :: (w.contents.elements deviceId).drop 2)
  := by
  have hrange : Server.run oracle (Redis.lrange deviceId) w
      = (.ok (w.contents.elements deviceId), w) := by
    rw [Server.run_lrange]
    rcases range_eq (w := w) deviceId with hok | ⟨-, a, d, hs⟩
    · rw [hok]
      rfl
    · simp [elements, hs] at hd
  obtain ⟨redis, hrun, hclock, hlookup⟩ := run_forM_deleteAccount (w := w)
    ((w.contents.elements deviceId).drop 2)
  use redis.del deviceId
  constructor
  · rw [RedisClient.removeDevice, Server.run, Program.run_bind_ok _ hrange, if_neg hd,
      Program.run_bind_ok _ hrun]
    apply Server.run_del
  · constructor
    · apply hclock
    · funext k
      rw [Store.lookup_del, hlookup, remove, remove]
      by_cases hk : k = deviceId
      · simp [hk]
      · simp [hk]

/-- Replacing the accounts of a device that has a list. -/
theorem run_setPushAccounts {deviceId : String} (channelUri version : String)
    {accounts : List PushAccount} (h : Typed w.contents)
    (hd : w.contents.elements deviceId ≠ [])
    (hn : ∀ a ∈ accounts, a.node.length = 15) :
  ∃ redis, Server.run oracle
        (RedisClient.setPushAccounts platform deviceId channelUri version accounts) w
      = (.ok (), { w with redis })
    ∧ redis.clock = w.redis.clock
    ∧ redis.lookup = setPushAccounts platform (w.redis.clock + timeout) deviceId channelUri
      version accounts w.contents
  := by
  obtain ⟨redis₁, hrun₁, hclock₁, hlookup₁⟩ := run_removeDevice hd
  obtain ⟨redis₂, hrun₂, hclock₂, hlookup₂⟩ := run_forM_addAccount platform oracle
    (w := { w with redis := redis₁ }) deviceId accounts
    (by
      rw [World.contents, hlookup₁]
      apply h.remove)
    hn
  obtain ⟨redis₃, hrun₃, hclock₃, hlookup₃⟩ := run_del_append oracle
    { w with redis := redis₂ } deviceId
    (channelUri :: version :: accounts.map (accountKey platform deviceId))
  use redis₃
  constructor
  · rw [RedisClient.setPushAccounts, Server.run, Program.run_bind_ok _ hrun₁,
      Program.run_bind_ok _ hrun₂]
    apply hrun₃
  · constructor
    · rw [hclock₃, hclock₂, hclock₁]
    · rw [hlookup₃, setPushAccounts, World.contents, hlookup₂, World.contents, hlookup₁,
        hclock₂, hclock₁]

variable (oracle) in
/-- Replacing the channel URI of a device, whose key holds no string. -/
theorem run_setChannelUri {deviceId : String} (channelUri : String)
    (h : ∀ a d, w.contents deviceId ≠ some ⟨.string a, d⟩) :
  ∃ redis, Server.run oracle (RedisClient.setChannelUri deviceId channelUri) w
      = (.ok (), { w with redis })
    ∧ redis.clock = w.redis.clock
    ∧ redis.lookup
      = setChannelUri (w.redis.clock + timeout) deviceId channelUri w.contents
  := by
  have hrange : Server.run oracle (Redis.lrange deviceId) w
      = (.ok (w.contents.elements deviceId), w) := by
    rw [Server.run_lrange]
    rcases range_eq (w := w) deviceId with hok | ⟨-, a, d, hs⟩
    · rw [hok]
      rfl
    · exact (h a d hs).elim
  rw [RedisClient.setChannelUri, Server.run, Program.run_bind_ok _ hrange]
  by_cases hd : w.contents.elements deviceId = []
  · obtain ⟨redis, hrun, hclock, hlookup⟩ := run_append (l := [channelUri]) h
    use redis
    rw [if_pos hd]
    use hrun, hclock
    rw [hlookup, setChannelUri, hd]
    rfl
  · rw [if_neg hd]
    apply run_del_append

end Commands

end UwpxPush
