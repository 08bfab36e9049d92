import Mathlib.Algebra.GroupWithZero.Nat
import UwpxPush.Program.Cut
import UwpxPush.Server.Lasting
import UwpxPush.Server.Quiet

/-!
# Requests that are interrupted

The Redis command after `n` others of a request throws.  The entries of the device are then
as they were before the request if and only if no command that writes has taken effect
(`entriesKept_iff`).
-/

namespace UwpxPush

open KeyValue

/-- Whether the call is a Redis command. -/
def Call.isRedis : Call → Bool
  | lrange _ => true
  | get _ => true
  | set _ _ => true
  | del _ => true
  | rpush _ _ => true
  | expire _ _ => true
  | expireat _ _ => true
  | _ => false

theorem Call.isRedis_iff (c : Call) :
  c.isRedis = true ↔ c.Redis
  := by
  cases c with
  | lrange k => exact iff_of_true rfl (.inl (.inl ⟨k, rfl⟩))
  | get k => exact iff_of_true rfl (.inl (.inr ⟨k, rfl⟩))
  | set k v => exact iff_of_true rfl (.inr trivial)
  | del k => exact iff_of_true rfl (.inr trivial)
  | rpush k l => exact iff_of_true rfl (.inr trivial)
  | expire k seconds => exact iff_of_true rfl (.inr trivial)
  | expireat k seconds => exact iff_of_true rfl (.inr trivial)
  | _ =>
      apply iff_of_false
      · nofun
      · rintro ((⟨k, h⟩ | ⟨k, h⟩) | h)
        · cases h
        · cases h
        · exact h

instance : DecidablePred Call.Redis :=
  fun c => decidable_of_iff _ c.isRedis_iff

/-- The entries of a device: its list, its account keys, and what is under their nodes. -/
def Contents.OfDevice (c : Contents) (deviceId k : String) : Prop :=
  k = deviceId ∨ ∃ key ∈ (c.elements deviceId).drop 2, k = key ∨ c.nodeUnder key = some k

/-- The entries of the device are as they were. -/
def EntriesKept (w w' : World) (deviceId : String) : Prop :=
  ∀ k, w.contents.OfDevice deviceId k → w'.contents k = w.contents k

/-- How many Redis commands look for the node and the secret of an account. -/
def accountReadings (platform : Platform) (c : Contents) (deviceId accountId : String) : ℕ :=
  if c.nodeUnder (RedisClient.genAccount platform deviceId accountId) = none then 1 else 2

/-- How many Redis commands of a request come before the first one that writes. -/
def readings (platform : Platform) (c : Contents) : Message → ℕ
  | .setChannelUri _ => 1
  | .setPushAccounts m =>
      3 + ((c.elements m.deviceId).drop 2).length
        + (m.accounts.map (accountReadings platform c m.deviceId)).sum
  | _ => 0

/-- The message changes what is stored for a device. -/
def Message.IsUpdate : Message → Prop
  | setChannelUri _ => True
  | setPushAccounts _ => True
  | _ => False

/-- How many Redis commands the handling of a message makes when none throws. -/
def commands (platform : Platform) (config : Configuration) (oracle : Oracle) (m : Message)
    (w : World) : ℕ :=
  Program.count (World.perform oracle) Call.Redis (PushServer.handleMessage platform config m) w

/-- Handle a message, where the Redis command after `n` others throws before or after it has
taken effect.  What is left of `n` is `none` where it did. -/
def World.interrupted (platform : Platform) (config : Configuration) (oracle : Oracle)
    (took : Bool) (what : String) (m : Message) (n : ℕ) (w : World) : Option ℕ × World :=
  (Program.run (Program.cut (World.perform oracle) Call.Redis took (.exception what))
    (PushServer.processMessage platform config m) (some n, w)).2

section

variable {platform : Platform} {config : Configuration} {oracle : Oracle} {w w' : World}
  {past : History} {α β : Type} {c : Call} {n : ℕ}

/-! ### Counting commands -/

theorem count_lrange (k : String) :
  Program.count (World.perform oracle) Call.Redis (Redis.lrange k) w = 1
  := Program.count_invoke (.inl (.inl ⟨k, rfl⟩))

theorem count_get (k : String) :
  Program.count (World.perform oracle) Call.Redis (Redis.get k) w = 1
  := Program.count_invoke (.inl (.inr ⟨k, rfl⟩))

theorem count_getChannelUri (deviceId : String) :
  Program.count (World.perform oracle) Call.Redis (RedisClient.getChannelUri deviceId) w = 1
  := by
  rw [RedisClient.getChannelUri, Program.count_bind_of_zero]
  · apply count_lrange
  · intro keys u
    rfl

theorem count_getOfThree (k : String) (i : ℕ) :
  Program.count (World.perform oracle) Call.Redis (RedisClient.getOfThree k i) w = 1
  := by
  rw [RedisClient.getOfThree, Program.count_bind_of_zero]
  · apply count_lrange
  · intro keys u
    split
    · rfl
    · rfl

theorem count_getPushNode (k : String) :
  Program.count (World.perform oracle) Call.Redis (RedisClient.getPushNode platform k) w = 1
  := by
  rw [RedisClient.getPushNode, Program.count_bind_of_zero]
  · apply count_get
  · rintro (_ | node) u
    · rfl
    · rfl

variable (platform oracle w) in
/-- The account keys are read one after the other. -/
theorem count_mapM_getPushNode (keys : List String) :
  Program.count (World.perform oracle) Call.Redis
      (keys.mapM (RedisClient.getPushNode platform)) w ≤ keys.length
    ∧ ∀ nodes, Server.run oracle (keys.mapM (RedisClient.getPushNode platform)) w = (.ok nodes, w) →
      Program.count (World.perform oracle) Call.Redis
        (keys.mapM (RedisClient.getPushNode platform)) w = keys.length
  := by
  induction keys with
  | nil =>
      rw [List.mapM_nil]
      exact ⟨le_rfl, fun _ _ => rfl⟩
  | cons k keys ih =>
      rw [List.mapM_cons]
      rcases hk : Server.run oracle (RedisClient.getPushNode platform k) w with ⟨e | node, u⟩
      · rw [Program.count_bind_error hk, count_getPushNode, Server.run,
          Program.run_bind_error _ hk]
        constructor
        · simp
        · rintro nodes ⟨⟩
      · obtain ⟨rfl, -⟩ := run_getPushNode_ok hk
        rw [Program.count_bind_ok hk, count_getPushNode,
          Program.count_bind_of_zero fun nodes _ => rfl, List.length_cons, Server.run,
          Program.run_bind_ok _ hk]
        constructor
        · have := ih.1
          omega
        · intro nodes h
          obtain ⟨rest, t, hrest, hpure⟩ := Program.run_bind_eq_ok _ h
          cases hpure
          rw [Nat.add_comm]
          congr 1
          apply ih.2 rest hrest

variable (platform oracle w) in
theorem count_getPushNodes (deviceId : String) :
  Program.count (World.perform oracle) Call.Redis (RedisClient.getPushNodes platform deviceId) w
      ≤ 1 + ((w.contents.elements deviceId).drop 2).length
    ∧ ∀ nodes, Server.run oracle (RedisClient.getPushNodes platform deviceId) w = (.ok nodes, w) →
      Program.count (World.perform oracle) Call.Redis (RedisClient.getPushNodes platform deviceId) w
        = 1 + ((w.contents.elements deviceId).drop 2).length
  := by
  rw [RedisClient.getPushNodes]
  rcases hl : Server.run oracle (Redis.lrange deviceId) w with ⟨e | keys, u⟩
  · rw [Program.count_bind_error hl, count_lrange, Server.run,
      Program.run_bind_error _ hl]
    constructor
    · omega
    · rintro nodes ⟨⟩
  · obtain ⟨rfl, rfl, -⟩ := run_lrange_ok hl
    obtain ⟨hle, heq⟩ := count_mapM_getPushNode platform oracle u
      ((u.contents.elements deviceId).drop 2)
    rw [Program.count_bind_ok hl, count_lrange, Server.run, Program.run_bind_ok _ hl]
    constructor
    · omega
    · intro nodes h
      rw [heq nodes h]

/-- The commands that look for the node and the secret of an account. -/
theorem count_loadPushAccount (deviceId : String) (account : PushAccount) :
  Program.count (World.perform oracle) Call.Redis
      (RedisClient.loadPushAccount platform deviceId account) w
    = accountReadings platform w.contents deviceId account.accountId
  := by
  rw [RedisClient.loadPushAccount, accountReadings]
  split
  · next hnone =>
      rcases hget : Server.run oracle (Redis.get
        (RedisClient.genAccount platform deviceId account.accountId)) w with ⟨e | node, u⟩
      · rw [Program.count_bind_error hget, count_get]
      · obtain ⟨rfl, rfl⟩ := run_get_ok hget
        rw [Program.count_bind_ok hget, count_get, hnone]
        rfl
  · next hsome =>
      obtain ⟨node, hnode⟩ := Option.ne_none_iff_exists'.mp hsome
      rw [Program.count_bind_ok (run_get_of_nodeUnder hnode), count_get]
      simp only [RedisClient.getNodeSecret]
      rw [Program.count_bind_of_zero, count_getOfThree]
      rintro (_ | secret) u
      · rfl
      · rfl

theorem count_collectAccount (deviceId : String) (p : PushServer.Pending) (accountId : String) :
  Program.count (World.perform oracle) Call.Redis
      (PushServer.collectAccount platform deviceId p accountId) w
    = accountReadings platform w.contents deviceId accountId
  := by
  have hcreate : Server.run oracle (PushServer.createPushAccount accountId) w
      = (.ok (PushServer.freshAccount oracle w.created accountId),
        { w with created := w.created + 1 }) := rfl
  have hnone : Program.count (World.perform oracle) Call.Redis
      (PushServer.createPushAccount accountId) w = 0 := rfl
  rw [PushServer.collectAccount, Program.count_bind_ok hcreate, hnone, Nat.zero_add,
    Program.count_bind_of_zero fun account u => rfl, count_loadPushAccount]
  rfl

variable (platform oracle w) in
/-- The accounts are looked for one after the other. -/
theorem count_collect (deviceId : String) (p : PushServer.Pending) (accounts : List String) :
  Program.count (World.perform oracle) Call.Redis
      (accounts.foldlM (PushServer.collectAccount platform deviceId) p) w
      ≤ (accounts.map (accountReadings platform w.contents deviceId)).sum
    ∧ ∀ p' w', Server.run oracle
        (accounts.foldlM (PushServer.collectAccount platform deviceId) p) w = (.ok p', w') →
      Program.count (World.perform oracle) Call.Redis
          (accounts.foldlM (PushServer.collectAccount platform deviceId) p) w
        = (accounts.map (accountReadings platform w.contents deviceId)).sum
  := by
  induction accounts generalizing p w with
  | nil => exact ⟨le_rfl, fun _ _ _ => rfl⟩
  | cons accountId accounts ih =>
      rw [List.foldlM_cons, List.map_cons, List.sum_cons]
      rcases hrun : Server.run oracle (PushServer.collectAccount platform deviceId p accountId) w
        with ⟨e | p₁, w₁⟩
      · rw [Program.count_bind_error hrun, count_collectAccount, Server.run,
          Program.run_bind_error _ hrun]
        constructor
        · omega
        · rintro p' w' ⟨⟩
      · have hredis : (Server.run oracle
            (PushServer.collectAccount platform deviceId p accountId) w).2.redis = w.redis :=
          redis_run ((calls_collectAccount platform deviceId p accountId).mono
            fun c => Call.Collecting.not_writing) w
        rw [hrun] at hredis
        have hcontents : w₁.contents = w.contents := by
          rw [World.contents, World.contents]
          exact congrArg _ hredis
        obtain ⟨hle, heq⟩ := ih w₁ p₁
        rw [hcontents] at hle heq
        rw [Program.count_bind_ok hrun, count_collectAccount, Server.run,
          Program.run_bind_ok _ hrun]
        constructor
        · omega
        · intro p' w' h
          rw [heq p' w' h]

/-! ### What is written -/

/-- After `n` Redis commands the store is as it was, where at most `reads` came before, or some
entry of the device is not as it was. -/
def Settled (w : World) (deviceId : String) (reads n : ℕ) (s : World) : Prop :=
  n ≤ reads ∧ s.redis = w.redis
    ∨ reads < n ∧ ∃ k, w.contents.OfDevice deviceId k ∧ s.contents k ≠ w.contents k

theorem Settled.iff {deviceId : String} {reads : ℕ} (h : Settled w deviceId reads n w') :
  EntriesKept w w' deviceId ↔ n ≤ reads
  := by
  rcases h with ⟨hle, hredis⟩ | ⟨hlt, k, hk, hne⟩
  · apply iff_of_true _ hle
    intro k _
    rw [World.contents, hredis, World.contents]
  · apply iff_of_false _ (by omega)
    intro hkept
    exact hne (hkept k hk)

theorem Settled.of_redis {deviceId : String} {reads : ℕ} {u : World}
    (h : Settled u deviceId reads n w') (hu : u.redis = w.redis) :
  Settled w deviceId reads n w'
  := by
  unfold Settled World.contents at h ⊢
  rw [hu] at h
  exact h

/-- After more commands that leave the store alone. -/
theorem Settled.add {deviceId : String} {reads m : ℕ} (h : Settled w deviceId reads n w') :
  Settled w deviceId (reads + m) (n + m) w'
  := by
  rcases h with ⟨hle, hredis⟩ | ⟨hlt, hk⟩
  · exact .inl ⟨by omega, hredis⟩
  · exact .inr ⟨by omega, hk⟩

/-- The commands of appending to a list and setting its time of expiry. -/
theorem callAt_append {k : String} {l : List String}
    (h : Program.callAt (World.perform oracle) Call.Redis n (RedisClient.append k l) w
      = some (c, w')) :
  n = 0 ∧ w' = w ∨ n = 1 ∧ ∃ redis, w.redis.push k l = .ok redis ∧ w' = { w with redis }
  := by
  rcases Program.callAt_invoke_bind (.inr trivial) h with
    ⟨rfl, -, rfl⟩ | ⟨m, r, u, rfl, hpush, hexpire⟩
  · exact .inl ⟨rfl, rfl⟩
  · obtain ⟨rfl, -, rfl⟩ := Program.callAt_invoke (.inr trivial) hexpire
    apply Or.inr
    use rfl
    rw [World.perform] at hpush
    rcases hp : w.redis.push k l with e | redis
    · rw [hp] at hpush
      cases hpush
    · rw [hp] at hpush
      cases hpush
      exact ⟨redis, rfl, rfl⟩

/-- A list that was made anew has no deadline yet. -/
theorem contents_push_of_none {redis : Store String String} {k : String} {l : List String}
    (hnone : w.contents k = none) (h : w.redis.push k l = .ok redis) :
  ({ w with redis } : World).contents k = some ⟨.list l, none⟩
  := by
  rw [Store.push_of_none hnone] at h
  cases h
  rw [World.contents, Store.lookup_put _ _ _ rfl, if_pos rfl]

theorem contents_del (k : String) :
  ({ w with redis := w.redis.del k } : World).contents k = none
  := by
  rw [World.contents, Store.lookup_del, if_pos rfl]

/-- While a list is made anew, it is missing or has no deadline. -/
theorem callAt_append_of_none {k : String} {l l₀ : List String} {d : Int}
    (hnone : w.contents k = none)
    (h : Program.callAt (World.perform oracle) Call.Redis n (RedisClient.append k l) w
      = some (c, w')) :
  w'.contents k ≠ some ⟨.list l₀, some d⟩
  := by
  rcases callAt_append h with ⟨-, rfl⟩ | ⟨-, redis, hpush, rfl⟩
  · rw [hnone]
    nofun
  · rw [contents_push_of_none hnone hpush]
    nofun

theorem callAt_setChannelUri {deviceId channelUri : String} (hlasting : w.contents.Lasting)
    (h : Program.callAt (World.perform oracle) Call.Redis n
      (RedisClient.setChannelUri deviceId channelUri) w = some (c, w')) :
  Settled w deviceId 1 n w'
  := by
  have hdevice : w.contents.OfDevice deviceId deviceId := .inl rfl
  rcases Program.callAt_invoke_bind (.inl (.inl ⟨_, rfl⟩)) h with
    ⟨rfl, -, rfl⟩ | ⟨m, keys, u, rfl, hrange, h⟩
  · exact .inl ⟨Nat.zero_le 1, rfl⟩
  · obtain ⟨rfl, rfl, hstring⟩ := run_lrange_ok
      ((Server.run_invoke oracle w (.lrange deviceId)).trans hrange)
    split at h
    · next hnil =>
        rcases callAt_append h with ⟨rfl, rfl⟩ | ⟨rfl, redis, hpush, rfl⟩
        · exact .inl ⟨le_rfl, rfl⟩
        · refine .inr ⟨by omega, deviceId, hdevice, ?_⟩
          obtain ⟨l', d, hlookup, hbefore⟩ := Store.lookup_push_self hpush
          intro heq
          have helements : l' ++ [channelUri] = [] :=
            (Contents.elements_of_eq hlookup).symm.trans
              ((Contents.elements_eq_of_apply_eq heq).trans hnil)
          simp at helements
    · next hne =>
        obtain ⟨d, hentry⟩ := hlasting.list hne
        rcases Program.callAt_invoke_bind (.inr trivial) h with
          ⟨rfl, -, rfl⟩ | ⟨m, r, t, rfl, hdel, happend⟩
        · exact .inl ⟨le_rfl, rfl⟩
        · refine .inr ⟨by omega, deviceId, hdevice, ?_⟩
          cases hdel
          rw [hentry]
          apply callAt_append_of_none (contents_del deviceId) happend

/-! ### Registrations -/

/-- The commands that add accounts. -/
def Adds (deviceId : String) (accounts : List PushAccount) : Call → Prop
  | .set _ _ => True
  | .expire _ _ => True
  | .rpush k l => ∃ a ∈ accounts, k = a.node ∧ l = [a.accountId, deviceId, a.secret]
  | _ => False

theorem calls_addAccount {deviceId : String} {accounts : List PushAccount} {a : PushAccount}
    (ha : a ∈ accounts) :
  (RedisClient.addAccount platform deviceId a).Calls (Adds deviceId accounts)
  := by
  apply Program.calls_bind (Program.calls_invoke trivial)
  intro _
  apply Program.calls_bind (Program.calls_invoke trivial)
  intro _
  apply Program.calls_bind
  · apply Program.calls_invoke
    exact ⟨a, ha, rfl, rfl⟩
  · intro _
    apply Program.calls_invoke
    trivial

/-- A list under the device begins with one of the accounts, whose node is the device. -/
def Recorded (deviceId : String) (accounts : List PushAccount) (w : World) : Prop :=
  ∀ l d, w.contents deviceId = some ⟨.list l, d⟩ →
    ∃ a ∈ accounts, a.node = deviceId ∧ ∃ l', l = a.accountId :: deviceId :: a.secret :: l'

theorem recorded_of_none {deviceId : String} {accounts : List PushAccount}
    (h : w.contents deviceId = none) :
  Recorded deviceId accounts w
  := by
  intro l d hl
  rw [h] at hl
  cases hl

/-- Adding accounts puts no other list under the device. -/
theorem Recorded.perform {deviceId : String} {accounts : List PushAccount}
    (h : Recorded deviceId accounts w) (hc : Adds deviceId accounts c) :
  Recorded deviceId accounts (World.perform oracle c w).2
  := by
  cases c with
  | set k v =>
      intro l d hl
      change (w.redis.set k v).lookup deviceId = _ at hl
      rw [Store.lookup_set] at hl
      split at hl
      · cases hl
      · apply h l d hl
  | expire k seconds =>
      intro l d hl
      change (w.redis.expireAt k _).lookup deviceId = _ at hl
      by_cases hk : deviceId = k
      · rw [← hk] at hl
        obtain ⟨d', hbefore⟩ := Store.lookup_of_expireAt _ hl
        apply h l d' hbefore
      · rw [Store.lookup_expireAt_of_ne _ hk] at hl
        apply h l d hl
  | rpush k l =>
      obtain ⟨a, ha, rfl, rfl⟩ := hc
      rcases hpush : w.redis.push a.node [a.accountId, deviceId, a.secret] with e | redis
      · rw [World.perform, hpush]
        apply h
      · rw [World.perform, hpush]
        intro l d hl
        change redis.lookup deviceId = _ at hl
        by_cases hk : deviceId = a.node
        · rw [hk] at hl
          obtain ⟨l', d', hlookup, hbefore⟩ := Store.lookup_push_self hpush
          cases hlookup.symm.trans hl
          rcases hbefore with ⟨-, rfl⟩ | hlist
          · exact ⟨a, ha, hk.symm, [], rfl⟩
          · rw [← hk] at hlist
            obtain ⟨b, hb, hnode, l, rfl⟩ := h l' d hlist
            exact ⟨b, hb, hnode, _, rfl⟩
        · rw [Store.lookup_push_of_ne hpush hk] at hl
          apply h l d hl
  | _ => exact hc.elim

/-- The part of `RedisClient::set_push_accounts` after the device has been removed. -/
def rebuild (platform : Platform) (deviceId channelUri version : String)
    (accounts : List PushAccount) : Server Unit := do
  accounts.forM (RedisClient.addAccount platform deviceId)
  Redis.del deviceId
  RedisClient.append deviceId (channelUri :: version ::
    accounts.map fun pushAccount => RedisClient.genAccount platform deviceId pushAccount.accountId)

/-- Until a device is rebuilt, its list is not as it was. -/
theorem callAt_rebuild {deviceId channelUri version : String} {accounts : List PushAccount}
    {l₀ : List String} {d : Int} (hw : Recorded deviceId accounts w)
    (hl₀ : ∀ a ∈ accounts, a.node = deviceId →
      ∀ l', l₀ ≠ a.accountId :: deviceId :: a.secret :: l')
    (h : Program.callAt (World.perform oracle) Call.Redis n
      (rebuild platform deviceId channelUri version accounts) w = some (c, w')) :
  w'.contents deviceId ≠ some ⟨.list l₀, some d⟩
  := by
  have hadds : (accounts.forM (RedisClient.addAccount platform deviceId)).Calls
      (Adds deviceId accounts) := by
    apply Program.calls_forM
    intro a ha
    apply calls_addAccount ha
  have hne : ∀ {u : World}, Recorded deviceId accounts u →
      u.contents deviceId ≠ some ⟨.list l₀, some d⟩ := by
    intro u hu hentry
    obtain ⟨a, ha, hnode, l', hl'⟩ := hu _ _ hentry
    exact hl₀ a ha hnode l' hl'
  rcases Program.callAt_bind h with h | ⟨_, u, m, hrun, h⟩
  · apply hne
    exact (hadds.callAt (fun c s hc hs => hs.perform hc) hw h).2
  · have hu : Recorded deviceId accounts u := by
      have hinvariant : Recorded deviceId accounts (Program.run (World.perform oracle) _ w).2 :=
        hadds.run_invariant (fun c hc w hw => hw.perform hc) hw
      rw [hrun] at hinvariant
      apply hinvariant
    rcases Program.callAt_invoke_bind (.inr trivial) h with
      ⟨-, -, rfl⟩ | ⟨m, r, t, -, hdel, happend⟩
    · apply hne hu
    · cases hdel
      apply callAt_append_of_none (contents_del deviceId) happend

/-- The part of `delete_account` after the account key has been deleted. -/
def deleteNode (account : String) : Server Unit := do
  match ← Redis.get account with
  | some node => Redis.del node
  | none => return

variable (oracle) in
/-- Deleting keys brings none back. -/
theorem contents_of_removing {k : String} (hc : IsReading c ∨ ∃ k', c = .del k')
    (hw : w.contents k = none) :
  (World.perform oracle c w).2.contents k = none
  := by
  rcases hc with hc | ⟨k', rfl⟩
  · rw [perform_of_isReading hc]
    apply hw
  · change (w.redis.del k').lookup k = none
    rw [Store.lookup_del]
    split
    · rfl
    · apply hw

theorem calls_deleteAccount (account : String) :
  (RedisClient.deleteAccount account).Calls fun c => IsReading c ∨ ∃ k, c = .del k
  := by
  apply Program.calls_bind (Program.calls_invoke (.inr ⟨account, rfl⟩))
  intro _
  apply Program.calls_bind (Program.calls_invoke (.inl (.inr ⟨account, rfl⟩)))
  rintro (_ | node)
  · apply Program.calls_pure
  · exact Program.calls_invoke (.inr ⟨node, rfl⟩)

/-- While the keys of a device are deleted, the first one stays deleted, and in the end there
is no list of the device. -/
theorem callAt_deleted {deviceId k : String} {keys : List String} {p : Server Unit}
    (hk : w.contents k = none)
    (h : Program.callAt (World.perform oracle) Call.Redis n (do
      deleteNode k
      keys.forM RedisClient.deleteAccount
      Redis.del deviceId
      p) w = some (c, w')) :
  w'.contents k = none
    ∨ ∃ m u, u.contents deviceId = none
      ∧ Program.callAt (World.perform oracle) Call.Redis m p u = some (c, w')
  := by
  have hcalls : (deleteNode k >>= fun _ => keys.forM RedisClient.deleteAccount).Calls
      fun c => IsReading c ∨ ∃ k, c = .del k := by
    apply Program.calls_bind
    · exact (calls_deleteAccount k).2 (.ok ())
    · intro _
      apply Program.calls_forM
      intro k' _
      apply calls_deleteAccount
  have hremoving : ∀ c, (IsReading c ∨ ∃ k', c = .del k') → ∀ u : World, u.contents k = none →
      (World.perform oracle c u).2.contents k = none :=
    fun c hc u hu => contents_of_removing oracle hc hu
  rw [← bind_assoc] at h
  rcases Program.callAt_bind h with h | ⟨_, u, m, hrun, h⟩
  · exact .inl (hcalls.callAt (I := fun w : World => w.contents k = none)
      (fun c s hc hs => hremoving c hc s hs) hk h).2
  · have hu := hcalls.run_invariant (I := fun w : World => w.contents k = none) hremoving hk
    rw [hrun] at hu
    rcases Program.callAt_invoke_bind (.inr trivial) h with
      ⟨-, -, rfl⟩ | ⟨m, r, t, -, hdel, h⟩
    · exact .inl hu
    · cases hdel
      exact .inr ⟨m, _, contents_del deviceId, h⟩

theorem callAt_setPushAccounts {deviceId channelUri version : String}
    {accounts : List PushAccount} (hlasting : w.contents.Lasting)
    (hd : w.contents.elements deviceId ≠ [])
    (hkeys : ∀ k ∈ (w.contents.elements deviceId).drop 2, w.contents.nodeUnder k ≠ none)
    (hrecords : ∀ a ∈ accounts, a.node = deviceId →
      ∀ l', w.contents.elements deviceId ≠ a.accountId :: deviceId :: a.secret :: l')
    (h : Program.callAt (World.perform oracle) Call.Redis n
      (RedisClient.setPushAccounts platform deviceId channelUri version accounts) w
        = some (c, w')) :
  Settled w deviceId 1 n w'
  := by
  obtain ⟨d, hentry⟩ := hlasting.list hd
  have hprogram : RedisClient.setPushAccounts platform deviceId channelUri version accounts
      = Redis.lrange deviceId >>= fun keys =>
        (if keys = [] then pure () else do
          (keys.drop 2).forM RedisClient.deleteAccount
          Redis.del deviceId) >>= fun _ =>
        rebuild platform deviceId channelUri version accounts := by
    rw [RedisClient.setPushAccounts, RedisClient.removeDevice, bind_assoc]
    rfl
  rw [hprogram] at h
  rcases Program.callAt_invoke_bind (.inl (.inl ⟨_, rfl⟩)) h with
    ⟨rfl, -, rfl⟩ | ⟨m, keys, u, rfl, hrange, h⟩
  · exact .inl ⟨Nat.zero_le 1, rfl⟩
  · obtain ⟨rfl, rfl, -⟩ := run_lrange_ok
      ((Server.run_invoke oracle w (.lrange deviceId)).trans hrange)
    rw [if_neg hd] at h
    rcases hdrop : (u.contents.elements deviceId).drop 2 with _ | ⟨k, keys⟩
    · rw [hdrop] at h
      change Program.callAt _ _ m (Redis.del deviceId >>= fun _ =>
        rebuild platform deviceId channelUri version accounts) u = _ at h
      rcases Program.callAt_invoke_bind (.inr trivial) h with
        ⟨rfl, -, rfl⟩ | ⟨m, r, t, rfl, hdel, h⟩
      · exact .inl ⟨le_rfl, rfl⟩
      · cases hdel
        refine .inr ⟨by omega, deviceId, .inl rfl, ?_⟩
        rw [hentry]
        apply callAt_rebuild (recorded_of_none (contents_del deviceId)) hrecords h
    · have hcons : (k :: keys).forM RedisClient.deleteAccount
          = Redis.del k >>= fun _ => deleteNode k >>= fun _ =>
            keys.forM RedisClient.deleteAccount := by
        change (Redis.del k >>= fun _ => deleteNode k) >>= _ = _
        rw [bind_assoc]
      rw [hdrop, hcons] at h
      simp only [bind_assoc] at h
      rcases Program.callAt_invoke_bind (.inr trivial) h with
        ⟨rfl, -, rfl⟩ | ⟨m, r, t, rfl, hdel, h⟩
      · exact .inl ⟨le_rfl, rfl⟩
      · cases hdel
        have hmem : k ∈ (u.contents.elements deviceId).drop 2 := by simp [hdrop]
        rcases callAt_deleted (contents_del k) h with hnone | ⟨m', t, ht, h⟩
        · refine .inr ⟨by omega, k, .inr ⟨k, hmem, .inl rfl⟩, ?_⟩
          rw [hnone]
          intro hbefore
          apply hkeys k hmem
          rw [Contents.nodeUnder, ← hbefore]
        · refine .inr ⟨by omega, deviceId, .inl rfl, ?_⟩
          rw [hentry]
          apply callAt_rebuild (recorded_of_none ht) hrecords h

/-! ### Requests -/

/-- A program that does not write, started where the store is as it was, leaves it so up to
each of its commands. -/
theorem callAt_notWriting {p : Server α} (hp : p.Calls fun c => ¬c.Writing)
    (h : Program.callAt (World.perform oracle) Call.Redis n p w = some (c, w')) :
  n < Program.count (World.perform oracle) Call.Redis p w ∧ w'.redis = w.redis
  := by
  constructor
  · by_contra hle
    rw [Program.callAt_eq_none.mpr (by omega)] at h
    cases h
  · exact (hp.callAt (I := fun s : World => s.redis = w.redis)
      (fun c s hc hs => (World.redis_perform hc s).trans hs) rfl h).2

theorem callAt_reply (m : Message) :
  Program.callAt (World.perform oracle) Call.Redis n (ClientSslSession.reply m) w = none
  := Program.callAt_eq_none.mpr (Nat.zero_le n)

/-- The list of a device is not the record of one of its accounts. -/
theorem elements_ne_record {c : Contents} {deviceId : String} {i : ℕ} {accounts : List String}
    (htyped : c.Typed) (hself : c.NoSelfRecord)
    (hkeys : ∀ k ∈ (c.elements deviceId).drop 2, c.nodeUnder k ≠ none) {a : PushAccount}
    (ha : a ∈ PushServer.resolveAll platform oracle c deviceId i accounts)
    (hnode : a.node = deviceId) (l : List String) :
  c.elements deviceId ≠ a.accountId :: deviceId :: a.secret :: l
  := by
  intro heq
  have hlength := PushServer.length_node_resolveAll htyped ha
  have hunder : c.nodeUnder a.secret ≠ none := by
    apply hkeys
    rw [heq]
    simp
  obtain ⟨node, hunder⟩ := Option.ne_none_iff_exists'.mp hunder
  obtain ⟨d, hd⟩ := Contents.nodeUnder_eq_some.mp hunder
  have hsecret := (htyped _ _ _ hd).1
  obtain ⟨j, accountId, -, hresolve⟩ := PushServer.mem_resolveAll.mp ha
  unfold PushServer.resolve at hresolve
  split at hresolve
  · rw [hresolve, PushServer.freshAccount, oracle.length_secret] at hsecret
    cases hsecret
  · next node' secret hr =>
      obtain ⟨-, hrecord⟩ := Contents.reusable_eq_some.mp hr
      obtain ⟨x, y, hlist⟩ := Contents.secretOf_eq_some.mp hrecord
      have hsame : node' = deviceId := by rw [← hnode, hresolve]
      rw [hsame, heq] at hlist
      have hnil : l = [] := by simpa using congrArg List.length hlist
      rw [hnode] at hlength
      apply hself deviceId hlength
      · rw [heq, hnil]
        rfl
      · rw [heq]
        rfl

theorem Call.PubSub.not_redis (h : c.PubSub) :
  ¬c.Redis
  := by
  rw [← Call.isRedis_iff]
  rcases h with rfl | ⟨q, rfl⟩
  · nofun
  · nofun

/-- The nodes are deleted and set up without Redis commands. -/
theorem count_forM_deletePushNode (nodes : List String) :
  Program.count (World.perform oracle) Call.Redis (nodes.forM XmppClient.deletePushNode) w = 0
  := by
  apply Program.Calls.count_eq_zero
  apply Program.calls_forM
  intro node _
  apply (calls_deletePushNode node).mono fun c => Call.PubSub.not_redis

theorem count_foldlM_setupAccount (nodes : List (String × ℕ)) (accounts : List PushAccount) :
  Program.count (World.perform oracle) Call.Redis
    (nodes.foldlM PushServer.setupAccount accounts) w = 0
  := by
  apply Program.Calls.count_eq_zero
  apply Program.calls_foldlM
  intro accounts node _
  apply (calls_setupAccount accounts node).mono fun c => Call.PubSub.not_redis

theorem callAt_register {deviceId channelUri version : String} {oldNodes accounts : List String}
    {i : ℕ} (hlasting : w.contents.Lasting) (htyped : w.contents.Typed)
    (hself : w.contents.NoSelfRecord) (hd : w.contents.elements deviceId ≠ [])
    (hkeys : ∀ k ∈ (w.contents.elements deviceId).drop 2, w.contents.nodeUnder k ≠ none)
    (h : Program.callAt (World.perform oracle) Call.Redis n
      (PushServer.register platform config deviceId channelUri version
        (PushServer.collected oldNodes
          (PushServer.resolveAll platform oracle w.contents deviceId i accounts))) w
        = some (c, w')) :
  Settled w deviceId 1 n w'
  := by
  rw [PushServer.register, Program.callAt_bind_ok (PushServer.run_forM_deletePushNode _ w),
    count_forM_deletePushNode, if_neg (Nat.not_lt_zero n), Nat.sub_zero,
    Program.callAt_bind_ok (PushServer.run_foldlM_setupAccount _ _ _),
    count_foldlM_setupAccount, if_neg (Nat.not_lt_zero n), Nat.sub_zero,
    PushServer.pushAccounts_collected, ← PushServer.answer] at h
  rcases Program.callAt_bind h with h | ⟨_, u, m, -, h⟩
  · have hrecords : ∀ a ∈ PushServer.answer platform w.connected oldNodes
        (PushServer.resolveAll platform oracle w.contents deviceId i accounts),
        a.node = deviceId → ∀ l, w.contents.elements deviceId
          ≠ a.accountId :: deviceId :: a.secret :: l := by
      intro a ha hnode l
      obtain ⟨b, hb, hid, hnode', hsecret⟩ := PushServer.mem_answer ha
      rw [hid, hsecret]
      rw [hnode'] at hnode
      apply elements_ne_record htyped hself hkeys hb hnode
    exact (callAt_setPushAccounts (by exact hlasting) (by exact hd) (by exact hkeys)
      (by exact hrecords) h).of_redis rfl
  · rw [callAt_reply] at h
    cases h

/-- The part of `set_push_accounts` after the old nodes have been read. -/
theorem callAt_collect {deviceId channelUri version : String} {accounts oldNodes : List String}
    (hlasting : w.contents.Lasting) (htyped : w.contents.Typed)
    (hself : w.contents.NoSelfRecord) (hd : w.contents.elements deviceId ≠ [])
    (hkeys : ∀ k ∈ (w.contents.elements deviceId).drop 2, w.contents.nodeUnder k ≠ none)
    (h : Program.callAt (World.perform oracle) Call.Redis n (do
      let pending ← accounts.foldlM (PushServer.collectAccount platform deviceId)
        { pushAccounts := [], deleteNodes := oldNodes.dedup, addNodes := [] }
      PushServer.register platform config deviceId channelUri version pending) w
        = some (c, w')) :
  Settled w deviceId (1 + (accounts.map (accountReadings platform w.contents deviceId)).sum) n w'
  := by
  let start : PushServer.Pending :=
    { pushAccounts := [], deleteNodes := oldNodes.dedup, addNodes := [] }
  obtain ⟨hcount, hcount'⟩ := count_collect platform oracle w deviceId start accounts
  have hcalls : (accounts.foldlM (PushServer.collectAccount platform deviceId) start).Calls
      fun c => ¬c.Writing := by
    apply Program.calls_foldlM
    intro p accountId _
    apply (calls_collectAccount platform deviceId p accountId).mono
    intro c
    apply Call.Collecting.not_writing
  rcases PushServer.run_collect deviceId start accounts w with ⟨e, k, -, hrun⟩ | hrun
  · rw [Program.callAt_bind_error hrun] at h
    obtain ⟨hn, hredis⟩ := callAt_notWriting hcalls h
    exact .inl ⟨by omega, hredis⟩
  · rw [Program.callAt_bind_ok hrun, hcount' _ _ hrun] at h
    split at h
    · obtain ⟨hn, hredis⟩ := callAt_notWriting hcalls h
      exact .inl ⟨by omega, hredis⟩
    · next hn =>
        obtain ⟨m, rfl⟩ : ∃ m, n = m
            + (accounts.map (accountReadings platform w.contents deviceId)).sum :=
          ⟨n - (accounts.map (accountReadings platform w.contents deviceId)).sum, by omega⟩
        rw [Nat.add_sub_cancel] at h
        have hsettled := (callAt_register (w := { w with created := w.created + accounts.length })
          hlasting htyped hself hd hkeys h).of_redis (w := w) rfl
        exact hsettled.add

/-- The part of `set_push_accounts` for a device that has a channel URI. -/
theorem callAt_knownDevice {deviceId channelUri version : String} {accounts : List String}
    (hlasting : w.contents.Lasting) (htyped : w.contents.Typed)
    (hself : w.contents.NoSelfRecord) (hd : w.contents.elements deviceId ≠ [])
    (h : Program.callAt (World.perform oracle) Call.Redis n (do
      let oldPushNodes ← RedisClient.getPushNodes platform deviceId
      let pending ← accounts.foldlM (PushServer.collectAccount platform deviceId)
        { pushAccounts := [], deleteNodes := oldPushNodes.dedup, addNodes := [] }
      PushServer.register platform config deviceId channelUri version pending) w
        = some (c, w')) :
  Settled w deviceId (2 + ((w.contents.elements deviceId).drop 2).length
    + (accounts.map (accountReadings platform w.contents deviceId)).sum) n w'
  := by
  obtain ⟨hcount, hcount'⟩ := count_getPushNodes platform oracle w deviceId
  have holdCalls : (RedisClient.getPushNodes platform deviceId).Calls fun c => ¬c.Writing :=
    (reading_getPushNodes deviceId).mono fun _ => IsReading.not_writing
  rcases hold : Server.run oracle (RedisClient.getPushNodes platform deviceId) w
    with ⟨e | oldNodes, w₁⟩
  · rw [Program.callAt_bind_error hold] at h
    obtain ⟨hn, hredis⟩ := callAt_notWriting holdCalls h
    exact .inl ⟨by omega, hredis⟩
  · obtain ⟨rfl, hnodes⟩ := run_getPushNodes_ok hold
    rw [Program.callAt_bind_ok hold, hcount' oldNodes hold] at h
    split at h
    · obtain ⟨hn, hredis⟩ := callAt_notWriting holdCalls h
      exact .inl ⟨by omega, hredis⟩
    · next hn =>
        obtain ⟨m, rfl⟩ : ∃ m, n = m + (1 + ((w₁.contents.elements deviceId).drop 2).length) :=
          ⟨n - (1 + ((w₁.contents.elements deviceId).drop 2).length), by omega⟩
        have hkeys : ∀ k ∈ (w₁.contents.elements deviceId).drop 2,
            w₁.contents.nodeUnder k ≠ none := by
          intro k hk
          have hmem := List.mem_map_of_mem (f := w₁.contents.nodeUnder) hk
          rw [hnodes, List.mem_map] at hmem
          obtain ⟨node, -, hnode⟩ := hmem
          rw [← hnode]
          rintro ⟨⟩
        rw [Nat.add_sub_cancel] at h
        have hsettled := callAt_collect hlasting htyped hself hd hkeys h
        convert hsettled.add (m := 1 + ((w₁.contents.elements deviceId).drop 2).length) using 1
        omega

theorem settled_setPushAccounts {deviceId version : String} {accounts : List String}
    (hlasting : w.contents.Lasting) (htyped : w.contents.Typed)
    (hself : w.contents.NoSelfRecord)
    (h : Program.callAt (World.perform oracle) Call.Redis n
      (PushServer.setPushAccounts platform config deviceId version accounts) w = some (c, w')) :
  Settled w deviceId (3 + ((w.contents.elements deviceId).drop 2).length
    + (accounts.map (accountReadings platform w.contents deviceId)).sum) n w'
  := by
  rw [PushServer.setPushAccounts] at h
  have huriCalls := (reading_getChannelUri deviceId).mono fun _ => IsReading.not_writing
  rcases huri : Server.run oracle (RedisClient.getChannelUri deviceId) w
    with ⟨e | _ | channelUri, w₁⟩
  · rw [Program.callAt_bind_error huri] at h
    obtain ⟨hn, hredis⟩ := callAt_notWriting huriCalls h
    rw [count_getChannelUri] at hn
    exact .inl ⟨by omega, hredis⟩
  · rw [Program.callAt_bind_ok huri] at h
    split at h
    · obtain ⟨hn, hredis⟩ := callAt_notWriting huriCalls h
      rw [count_getChannelUri] at hn
      exact .inl ⟨by omega, hredis⟩
    · cases (callAt_reply _).symm.trans h
  · obtain ⟨rfl, hhead, -⟩ := run_getChannelUri_ok huri
    rw [Program.callAt_bind_ok huri] at h
    split at h
    · obtain ⟨hn, hredis⟩ := callAt_notWriting huriCalls h
      rw [count_getChannelUri] at hn
      exact .inl ⟨by omega, hredis⟩
    · next hn =>
        rw [count_getChannelUri] at hn h
        obtain ⟨n, rfl⟩ : ∃ m, n = m + 1 := ⟨n - 1, by omega⟩
        have hd : w₁.contents.elements deviceId ≠ [] := by
          intro hnil
          rw [hnil] at hhead
          cases hhead
        rw [Nat.add_sub_cancel] at h
        have hsettled := callAt_knownDevice hlasting htyped hself hd h
        convert hsettled.add (m := 1) using 1
        omega

/-! ### The handling of a message -/

theorem straight_getPushNodes (deviceId : String) :
  (RedisClient.getPushNodes platform deviceId).Straight (fun _ => True) fun _ => True
  := by
  apply Program.straight_bind (Program.straight_invoke trivial)
  intro keys
  induction keys.drop 2 with
  | nil => trivial
  | cons k keys ih =>
      rw [List.mapM_cons]
      apply Program.straight_bind
      · apply Program.straight_bind (Program.straight_invoke trivial)
        rintro (_ | node)
        · apply Program.straight_throw trivial
        · apply Program.straight_pure
      · intro node
        apply Program.straight_bind ih
        intro nodes
        apply Program.straight_pure

/-- The handler of an update catches nothing. -/
theorem straight_handleMessage {m : Message} (hm : m.IsUpdate) :
  (PushServer.handleMessage platform config m).Straight (fun _ => True) fun _ => True
  := by
  have hquiet {γ : Type} {p : Server γ} (hp : Quiet p) :
      p.Straight (fun _ => True) fun _ => True :=
    hp.mono (fun _ _ => trivial) fun _ _ => trivial
  have hreply (m : Message) : (ClientSslSession.reply m).Straight (fun _ => True)
      fun _ => True :=
    Program.straight_invoke trivial
  cases m with
  | setChannelUri m =>
      rw [PushServer.handleMessage, PushServer.setChannelUri]
      split
      · apply Program.straight_bind (hquiet (Commands.quiet (commands_setChannelUri _ _)))
        intro _
        apply hreply
      · apply hreply
  | setPushAccounts m =>
      apply Program.straight_bind (hquiet (Commands.quiet (commands_getChannelUri _)))
      rintro (_ | channelUri)
      · apply hreply
      · apply Program.straight_bind (straight_getPushNodes _)
        intro oldNodes
        apply Program.straight_bind
        · exact Program.straight_foldlM _ fun p a => hquiet (quiet_collectAccount platform _ p a)
        · intro pending
          apply Program.straight_bind
          · exact Program.straight_forM fun node => hquiet (quiet_deletePushNode node)
          · intro _
            apply Program.straight_bind
            · exact Program.straight_foldlM _ fun l node => hquiet (quiet_setupAccount l node)
            · intro pushAccounts
              apply Program.straight_bind
                (hquiet (Commands.quiet (commands_setPushAccounts _ _ _ _ _)))
              intro _
              apply hreply
  | _ => exact hm.elim

/-- Up to each Redis command of an update the entries of the device are settled. -/
theorem settled_handleMessage (h : Reached platform config oracle past w) {m : Message}
    (hm : m.IsUpdate) {deviceId : String} (hd : m.deviceId = some deviceId)
    (hcall : Program.callAt (World.perform oracle) Call.Redis n
      (PushServer.handleMessage platform config m) w = some (c, w')) :
  Settled w deviceId (readings platform w.contents m) n w'
  := by
  cases m with
  | setChannelUri m =>
      cases hd
      rw [PushServer.handleMessage, PushServer.setChannelUri] at hcall
      split at hcall
      · rcases Program.callAt_bind hcall with hcall | ⟨_, u, k, -, hcall⟩
        · exact callAt_setChannelUri h.lasting hcall
        · cases (callAt_reply _).symm.trans hcall
      · cases (callAt_reply _).symm.trans hcall
  | setPushAccounts m =>
      cases hd
      exact settled_setPushAccounts h.lasting h.typed h.noSelfRecord hcall
  | _ => exact hm.elim

/-- The response to a message whose handler throws an exception. -/
def internalError : Message :=
  .errorResponse
    (.ofError "Internal server error... Failed to process received JSON message.")

/-- An interrupted update is answered with an error, in the world of the command that throws. -/
theorem interrupted_eq {m : Message} (hm : m.IsUpdate) {took : Bool} {what : String}
    (hcall : Program.callAt (World.perform oracle) Call.Redis n
      (PushServer.handleMessage platform config m) w = some (c, w')) :
  w.interrupted platform config oracle took what m n
    = (none, (if took then (World.perform oracle c w').2 else w').tell (.reply internalError))
  := by
  have hrun : Program.run (Program.cut (World.perform oracle) Call.Redis took (.exception what))
      (PushServer.handleMessage platform config m) (some n, w)
      = (.error (.exception what), none, if took then (World.perform oracle c w').2 else w') :=
    (straight_handleMessage hm).run_cut_some hcall
  rw [World.interrupted, PushServer.processMessage, Program.run_tryCatch, hrun]
  simp only []
  rw [Program.run_cut_none]
  rfl

/-- The Redis command after `n` others of an update throws, before or after it has taken
effect.  The update is answered with an error.  As long as a command is left, the entries of
the device are as they were if and only if no command that writes has taken effect; where
none is left, the store is that of the completed update. -/
theorem entriesKept_iff (h : Reached platform config oracle past w) {m : Message}
    (hm : m.IsUpdate) {deviceId : String} (hd : m.deviceId = some deviceId)
    (hn : n < commands platform config oracle m w) (took : Bool) (what : String) :
  let w' := (w.interrupted platform config oracle took what m n).2
  w'.log.getLast? = some (.reply internalError)
    ∧ (n + took.toNat < commands platform config oracle m w →
      (EntriesKept w w' deviceId ↔ n + took.toNat ≤ readings platform w.contents m))
    ∧ (n + took.toNat = commands platform config oracle m w →
      w'.redis = (Server.run oracle (PushServer.handleMessage platform config m) w).2.redis)
  := by
  have hsome : Program.callAt (World.perform oracle) Call.Redis n
      (PushServer.handleMessage platform config m) w ≠ none := by
    rw [ne_eq, Program.callAt_eq_none]
    simp only [commands] at hn
    omega
  obtain ⟨⟨c, s⟩, hcall⟩ := Option.ne_none_iff_exists'.mp hsome
  have hredis : ∀ (c : Call) (s : World), ¬c.Redis →
      (World.perform oracle c s).2.redis = s.redis :=
    fun c s hc => World.redis_perform (fun hw => hc (.inr hw)) s
  rw [interrupted_eq hm hcall]
  simp only []
  refine ⟨by simp [World.tell], ?_, ?_⟩
  · cases took with
    | false =>
        intro _
        exact (settled_handleMessage h hm hd hcall).iff
    | true =>
        intro hlt
        have hsome' : Program.callAt (World.perform oracle) Call.Redis (n + 1)
            (PushServer.handleMessage platform config m) w ≠ none := by
          rw [ne_eq, Program.callAt_eq_none]
          simp only [commands, Bool.toNat_true] at hlt
          omega
        obtain ⟨⟨c', s'⟩, hcall'⟩ := Option.ne_none_iff_exists'.mp hsome'
        have hsame : s'.redis = (World.perform oracle c s).2.redis :=
          Program.callAt_succ hredis hcall hcall'
        have hiff := (settled_handleMessage h hm hd hcall').iff
        unfold EntriesKept World.contents at hiff ⊢
        rw [hsame] at hiff
        exact hiff
  · cases took with
    | false =>
        intro heq
        simp only [Bool.toNat_false] at heq
        omega
    | true =>
        intro heq
        have hnone : Program.callAt (World.perform oracle) Call.Redis (n + 1)
            (PushServer.handleMessage platform config m) w = none := by
          rw [Program.callAt_eq_none]
          simp only [commands, Bool.toNat_true] at heq
          omega
        exact (Program.callAt_last hredis hcall hnone).symm

end

/-- A device that has registered an account sends its channel URI again, and the third Redis
command throws. -/
theorem entriesKept_iff_registration :
  let w := (Sample.run Sample.registration).2
  let m := Message.setChannelUri (.ofFields Sample.channelUri "phone")
  let w' := (w.interrupted Sample.platform Sample.config Sample.oracle false "timeout" m 2).2
  w'.log.getLast? = some (.reply internalError)
    ∧ (2 + Bool.toNat false < commands Sample.platform Sample.config Sample.oracle m w →
      (EntriesKept w w' "phone"
        ↔ 2 + Bool.toNat false ≤ readings Sample.platform w.contents m))
    ∧ (2 + Bool.toNat false = commands Sample.platform Sample.config Sample.oracle m w →
      w'.redis = (Server.run Sample.oracle
        (PushServer.handleMessage Sample.platform Sample.config m) w).2.redis)
  := entriesKept_iff (m := .setChannelUri (.ofFields Sample.channelUri "phone"))
    (Sample.reached_run Sample.registration) trivial rfl (by decide +kernel) false "timeout"

/-- There the device is answered with an error and has lost its list. -/
theorem not_entriesKept_registration :
  let w := (Sample.run Sample.registration).2
  let m := Message.setChannelUri (.ofFields Sample.channelUri "phone")
  let w' := (w.interrupted Sample.platform Sample.config Sample.oracle false "timeout" m 2).2
  Reached Sample.platform Sample.config Sample.oracle (Sample.run Sample.registration).1 w
    ∧ m.Valid ∧ w'.log.getLast? = some (.reply internalError)
    ∧ (w.contents.elements "phone").head? = some Sample.channelUri
    ∧ w'.contents.elements "phone" = []
    ∧ ¬EntriesKept w w' "phone"
  := by
  refine ⟨Sample.reached_run Sample.registration, Sample.phone_channelUri, by decide +kernel,
    by decide +kernel, by decide +kernel, ?_⟩
  intro hkept
  have helements := Contents.elements_eq_of_apply_eq (hkept "phone" (.inl rfl))
  revert helements
  decide +kernel

end UwpxPush
