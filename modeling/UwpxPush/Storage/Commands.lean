import UwpxPush.Program.Outcome
import UwpxPush.Storage.Reading

/-!
# Redis commands only

The functions of the Redis client are Redis commands and nothing else: they throw nothing of
their own and catch nothing, so their only failure is the exception of a command.
-/

namespace UwpxPush

open KeyValue

/-- The call is a Redis command that writes. -/
def Call.Writing : Call → Prop
  | set _ _ => True
  | del _ => True
  | rpush _ _ => True
  | expire _ _ => True
  | expireat _ _ => True
  | _ => False

/-- A reading command does not write. -/
theorem IsReading.not_writing {c : Call} (h : IsReading c) :
  ¬c.Writing
  := by
  rcases h with ⟨k, rfl⟩ | ⟨k, rfl⟩
  · exact id
  · exact id

/-- The call is a Redis command. -/
def Call.Redis (c : Call) : Prop :=
  IsReading c ∨ c.Writing

/-- The program makes only Redis commands, throws nothing and catches nothing. -/
def Commands {α : Type} (p : Server α) : Prop :=
  p.Straight Call.Redis fun _ => False

/-- Every failure of a call is the exception for a value of the wrong type. -/
theorem World.perform_error {oracle : Oracle} {c : Call} {w : World} {e : Failure}
    (h : (World.perform oracle c w).1 = .error e) :
  e = wrongType
  := by
  cases c with
  | lrange k =>
      simp only [World.perform, reading] at h
      split at h
      · cases h
      · cases h
        rfl
  | get k =>
      simp only [World.perform, reading] at h
      split at h
      · cases h
      · cases h
        rfl
  | rpush k l =>
      simp only [World.perform, writing] at h
      split at h
      · cases h
      · cases h
        rfl
  | _ => cases h

/-- A run of a program that throws nothing of its own fails by an exception of a command. -/
theorem run_straight_error {α : Type} {oracle : Oracle} {P : Call → Prop} {p : Server α}
    (hp : p.Straight P fun _ => False) {w w' : World} {e : Failure}
    (h : Server.run oracle p w = (.error e, w')) :
  e = wrongType
  := by
  apply (hp.mono (fun _ h => h) (fun e (he : False) => (he.elim : e = wrongType))).run_error _ h
  intro c _ w e
  apply World.perform_error

/-- A Redis command reads and changes the store, and nothing else. -/
theorem World.perform_redis (oracle : Oracle) {c : Call} (hc : c.Redis) :
  ∃ f : Store String String → Except Failure c.Response × Store String String,
    ∀ w : World, w.perform oracle c = ((f w.redis).1, { w with redis := (f w.redis).2 })
  := by
  let blank (redis : Store String String) : World := ⟨redis, false, none, 0, 0, []⟩
  use fun redis =>
    ((World.perform oracle c (blank redis)).1, (World.perform oracle c (blank redis)).2.redis)
  intro w
  cases c with
  | lrange k =>
      simp only [World.perform, blank]
      cases w.redis.range k <;> rfl
  | get k =>
      simp only [World.perform, blank]
      cases w.redis.get k <;> rfl
  | rpush k l =>
      simp only [World.perform, blank]
      cases w.redis.push k l <;> rfl
  | set | del | expire | expireat => rfl
  | _ => rcases hc with (⟨_, h⟩ | ⟨_, h⟩) | h <;> cases h

/-- Redis commands read and change the store, and nothing else. -/
theorem run_of_redis (oracle : Oracle) {α : Type} {p : Server α} (hp : p.Calls Call.Redis) :
  ∃ f : Store String String → Except Failure α × Store String String,
    ∀ w : World, Server.run oracle p w = ((f w.redis).1, { w with redis := (f w.redis).2 })
  := by
  induction p with
  | pure a => exact ⟨fun redis => (.ok a, redis), fun w => rfl⟩
  | throw e => exact ⟨fun redis => (.error e, redis), fun w => rfl⟩
  | call c k ih =>
      obtain ⟨g, hg⟩ := World.perform_redis oracle hp.1
      choose f hf using fun r => ih r (hp.2 r)
      use fun redis => f (g redis).1 (g redis).2
      intro w
      change Server.run oracle (k (World.perform oracle c w).1) (World.perform oracle c w).2 = _
      rw [hg, hf]

theorem commands_lrange (k : String) :
  Commands (Redis.lrange k)
  := Program.straight_invoke (.inl (.inl ⟨k, rfl⟩))

theorem commands_get (k : String) :
  Commands (Redis.get k)
  := Program.straight_invoke (.inl (.inr ⟨k, rfl⟩))

/-- A write followed by commands. -/
theorem commands_write {α : Type} {c : Call} {f : c.Response → Server α} (hc : c.Writing)
    (hf : ∀ r, Commands (f r)) :
  Commands (invoke c >>= f)
  := Program.straight_bind (Program.straight_invoke (.inr hc)) hf

theorem commands_invoke {c : Call} (hc : c.Writing) :
  Commands (invoke c)
  := Program.straight_invoke (.inr hc)

/-- `append` is a sequence of pushes. -/
theorem commands_append (k : String) (l : List String) :
  Commands (RedisClient.append k l)
  := by
  apply commands_write
  · trivial
  · intro _
    apply commands_invoke
    trivial

/-- Storing an account is nothing but Redis commands. -/
theorem commands_addAccount (platform : Platform) (deviceId : String) (account : PushAccount) :
  Commands (RedisClient.addAccount platform deviceId account)
  := by
  apply commands_write
  · trivial
  · intro _
    apply commands_write
    · trivial
    · intro _
      apply commands_append

theorem commands_deleteAccount (account : String) :
  Commands (RedisClient.deleteAccount account)
  := by
  apply commands_write
  · trivial
  · intro _
    apply Program.straight_bind (commands_get account)
    rintro (_ | node)
    · apply Program.straight_pure
    · apply commands_invoke
      trivial

theorem commands_removeDevice (deviceId : String) :
  Commands (RedisClient.removeDevice deviceId)
  := by
  apply Program.straight_bind (commands_lrange deviceId)
  intro keys
  split
  · apply Program.straight_pure
  · apply Program.straight_bind (Program.straight_forM commands_deleteAccount)
    intro _
    apply commands_invoke
    trivial

/-- Storing the accounts of a device is nothing but Redis commands. -/
theorem commands_setPushAccounts (platform : Platform) (deviceId channelUri version : String)
    (accounts : List PushAccount) :
  Commands (RedisClient.setPushAccounts platform deviceId channelUri version accounts)
  := by
  apply Program.straight_bind (commands_removeDevice deviceId)
  intro _
  apply Program.straight_bind (Program.straight_forM (commands_addAccount platform deviceId))
  intro _
  apply commands_write
  · trivial
  · intro _
    apply commands_append

/-- So is storing its channel URI. -/
theorem commands_setChannelUri (deviceId channelUri : String) :
  Commands (RedisClient.setChannelUri deviceId channelUri)
  := by
  apply Program.straight_bind (commands_lrange deviceId)
  intro keys
  split
  · apply commands_append
  · apply commands_write
    · trivial
    · intro _
      apply commands_append

/-- So is storing the token. -/
theorem commands_setWnsToken (token type : String) (expires : Int) :
  Commands (RedisClient.setWnsToken token type expires)
  := by
  apply commands_write
  · trivial
  · intro _
    apply commands_write
    · trivial
    · intro _
      apply commands_write
      · trivial
      · intro _
        apply commands_invoke
        trivial

theorem commands_getOfThree (k : String) (i : Nat) :
  Commands (RedisClient.getOfThree k i)
  := by
  apply Program.straight_bind (commands_lrange k)
  intro keys
  split
  · apply Program.straight_pure
  · apply Program.straight_pure

theorem commands_getChannelUri (deviceId : String) :
  Commands (RedisClient.getChannelUri deviceId)
  := by
  apply Program.straight_bind (commands_lrange deviceId)
  intro keys
  apply Program.straight_pure

theorem commands_getVersion (deviceId : String) :
  Commands (RedisClient.getVersion deviceId)
  := by
  apply Program.straight_bind (commands_lrange deviceId)
  intro keys
  split
  · apply Program.straight_pure
  · apply Program.straight_pure

/-- Looking for the node of an account is nothing but Redis commands. -/
theorem commands_loadPushAccount (platform : Platform) (deviceId : String)
    (account : PushAccount) :
  Commands (RedisClient.loadPushAccount platform deviceId account)
  := by
  apply Program.straight_bind (commands_get _)
  rintro (_ | node)
  · apply Program.straight_pure
  · apply Program.straight_bind (commands_getOfThree node 2)
    rintro (_ | secret)
    · apply Program.straight_pure
    · apply Program.straight_pure

/-! ### Account keys without a node -/

section

variable {platform : Platform} {oracle : Oracle} {w w' : World} {e : Failure}

/-- Reading an account key fails on a list, or where it holds no node. -/
theorem run_getPushNode_error {k : String}
    (h : Server.run oracle (RedisClient.getPushNode platform k) w = (.error e, w')) :
  e = wrongType ∨ ¬e.IsException ∧ w.contents.nodeUnder k = none
  := by
  match hget : Server.run oracle (Redis.get k) w with
  | (.error e', t) =>
      rw [RedisClient.getPushNode, Server.run, Program.run_bind_error _ hget] at h
      cases h
      exact .inl (run_straight_error (commands_get k) hget)
  | (.ok none, t) =>
      obtain ⟨-, hnode⟩ := run_get_ok hget
      rw [RedisClient.getPushNode, Server.run, Program.run_bind_ok _ hget] at h
      cases h
      apply Or.inr
      constructor
      · rintro ⟨what, hwhat⟩
        split at hwhat
        · cases hwhat
        · cases hwhat
      · apply hnode.symm
  | (.ok (some node), t) =>
      rw [RedisClient.getPushNode, Server.run, Program.run_bind_ok _ hget] at h
      cases h

/-- The nodes of a device cannot be read where an account key holds no node. -/
theorem run_getPushNodes_error {deviceId : String}
    (h : Server.run oracle (RedisClient.getPushNodes platform deviceId) w = (.error e, w')) :
  e = wrongType
    ∨ ¬e.IsException
      ∧ ∃ k ∈ (w.contents.elements deviceId).drop 2, w.contents.nodeUnder k = none
  := by
  have hmapM : ∀ keys : List String, Server.run oracle
      (keys.mapM (RedisClient.getPushNode platform)) w = (.error e, w') →
      e = wrongType ∨ ¬e.IsException ∧ ∃ k ∈ keys, w.contents.nodeUnder k = none := by
    intro keys hrun
    induction keys with
    | nil =>
        rw [List.mapM_nil] at hrun
        cases hrun
    | cons k keys ih =>
        rw [List.mapM_cons] at hrun
        rcases hk : Server.run oracle (RedisClient.getPushNode platform k) w with ⟨e' | node, t⟩
        · rw [Server.run, Program.run_bind_error _ hk] at hrun
          cases hrun
          rcases run_getPushNode_error hk with he | ⟨he, hnode⟩
          · exact .inl he
          · exact .inr ⟨he, k, List.mem_cons_self, hnode⟩
        · obtain ⟨rfl, -⟩ := run_getPushNode_ok hk
          rw [Server.run, Program.run_bind_ok _ hk] at hrun
          rcases hkeys : Server.run oracle (keys.mapM (RedisClient.getPushNode platform)) t
            with ⟨e' | nodes, t'⟩
          · rw [Program.run_bind_error _ hkeys] at hrun
            cases hrun
            rcases ih hkeys with he | ⟨he, k', hk', hnode⟩
            · exact .inl he
            · exact .inr ⟨he, k', List.mem_cons_of_mem k hk', hnode⟩
          · rw [Program.run_bind_ok _ hkeys] at hrun
            cases hrun
  rcases hl : Server.run oracle (Redis.lrange deviceId) w with ⟨e' | keys, t⟩
  · rw [RedisClient.getPushNodes, Server.run, Program.run_bind_error _ hl] at h
    cases h
    exact .inl (run_straight_error (commands_lrange deviceId) hl)
  · obtain ⟨rfl, rfl, -⟩ := run_lrange_ok hl
    rw [RedisClient.getPushNodes, Server.run, Program.run_bind_ok _ hl] at h
    apply hmapM _ h

end

end UwpxPush
