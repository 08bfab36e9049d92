import UwpxPush.Storage.Contents

/-!
# Reading the store

What the reading functions of the Redis client answer, in terms of the contents of the
store.  They leave the world alone.  `reusable` is the node and the secret that an account
of a device is given again: those stored under its account key, where the list of the node
has three entries.
-/

namespace UwpxPush

open KeyValue

namespace Contents

variable (c : Contents)

/-- There is no string under a key. -/
def NotString (k : String) : Prop :=
  ∀ a d, c k ≠ some ⟨.string a, d⟩

/-- The node under a key that holds a string. -/
def nodeUnder (k : String) : Option String :=
  match c k with
  | some ⟨.string node, _⟩ => some node
  | _ => none

/-- The third entry of a list of exactly three. -/
def secretOf (node : String) : Option String :=
  match c.elements node with
  | [_, _, secret] => some secret
  | _ => none

/-- The node and the secret that an account of a device is given again. -/
def reusable (platform : Platform) (deviceId accountId : String) : Option (String × String) :=
  match c.nodeUnder (RedisClient.genAccount platform deviceId accountId) with
  | none => none
  | some node => (c.secretOf node).map fun secret => (node, secret)

variable {c}

/-- There is a node under a key that holds a string. -/
theorem nodeUnder_eq_some {k node : String} :
  c.nodeUnder k = some node ↔ ∃ d, c k = some ⟨.string node, d⟩
  := by
  unfold nodeUnder
  split
  · next node' d h =>
      constructor
      · rintro ⟨⟩
        exact ⟨d, h⟩
      · rintro ⟨d', h'⟩
        rw [h] at h'
        cases h'
        rfl
  · next h =>
      constructor
      · rintro ⟨⟩
      · rintro ⟨d, hd⟩
        exact (h node d hd).elim

/-- The secret of a node is the last of three entries. -/
theorem secretOf_eq_some {node secret : String} :
  c.secretOf node = some secret ↔ ∃ a d, c.elements node = [a, d, secret]
  := by
  unfold secretOf
  split
  · next a d s h =>
      simp [h]
  · next h =>
      constructor
      · rintro ⟨⟩
      · rintro ⟨a, d, hs⟩
        exact (h a d secret hs).elim

/-- A list of another length has no secret. -/
theorem secretOf_eq (node : String) :
  c.secretOf node
    = if (c.elements node).length = 3 then (c.elements node)[2]? else none
  := by
  unfold secretOf
  split
  · next a d s hl => simp [hl]
  · next hl =>
      rw [if_neg]
      intro hlen
      obtain ⟨a, d, s, hs⟩ := List.length_eq_three.mp hlen
      exact hl a d s hs

/-- An account is given its node again when that has a secret. -/
theorem reusable_eq_some {platform : Platform} {deviceId accountId node secret : String} :
  c.reusable platform deviceId accountId = some (node, secret)
    ↔ c.nodeUnder (RedisClient.genAccount platform deviceId accountId) = some node
      ∧ c.secretOf node = some secret
  := by
  unfold reusable
  split
  · next h => simp [h]
  · next n h =>
      simp only [h, Option.map_eq_some_iff, Prod.mk.injEq, Option.some.injEq]
      constructor
      · rintro ⟨s, hs, rfl, rfl⟩
        exact ⟨rfl, hs⟩
      · rintro ⟨rfl, hs⟩
        exact ⟨secret, hs, rfl, rfl⟩

end Contents

/-! ### The commands that read -/

/-- A command that only reads. -/
def IsReading (c : Call) : Prop :=
  (∃ k, c = .lrange k) ∨ ∃ k, c = .get k

section

open Contents

variable {platform : Platform} {oracle : Oracle} {w : World}

/-- A command that only reads leaves the world alone. -/
theorem perform_of_isReading {c : Call} (h : IsReading c) (w : World) :
  (World.perform oracle c w).2 = w
  := by
  rcases h with ⟨k, rfl⟩ | ⟨k, rfl⟩
  · simp only [World.perform, World.reading]
    split
    · rfl
    · rfl
  · simp only [World.perform, World.reading]
    split
    · rfl
    · rfl

variable (oracle) in
/-- A program that only reads leaves the world alone. -/
theorem run_of_reading {α : Type} {p : Server α} (h : p.Calls IsReading) (w : World) :
  (Server.run oracle p w).2 = w
  := h.run_eq (fun _ => perform_of_isReading) w

/-- What begins with a program that only reads goes on in the same world, or ends in it. -/
theorem run_bind_reading {α β : Type} {p : Server α} {f : α → Server β} {Q : World → Prop}
    (hp : p.Calls IsReading) (hw : Q w)
    (hf : ∀ a, Server.run oracle p w = (.ok a, w) → Q (Server.run oracle (f a) w).2) :
  Q (Server.run oracle (p >>= f) w).2
  := by
  have hsame := run_of_reading oracle hp w
  rcases h : Server.run oracle p w with ⟨e | a, w'⟩
  · rw [h] at hsame
    obtain rfl : w' = w := hsame
    rw [Server.run, Program.run_bind_error _ h]
    exact hw
  · rw [h] at hsame
    obtain rfl : w' = w := hsame
    rw [Server.run, Program.run_bind_ok _ h]
    exact hf a h

theorem reading_lrange (k : String) :
  (Redis.lrange k).Calls IsReading
  := Program.calls_invoke (.inl ⟨k, rfl⟩)

theorem reading_get (k : String) :
  (Redis.get k).Calls IsReading
  := Program.calls_invoke (.inr ⟨k, rfl⟩)

theorem reading_getChannelUri (deviceId : String) :
  (RedisClient.getChannelUri deviceId).Calls IsReading
  := by
  apply Program.calls_bind (reading_lrange deviceId)
  intro keys
  apply Program.calls_pure

theorem reading_getOfThree (k : String) (i : Nat) :
  (RedisClient.getOfThree k i).Calls IsReading
  := by
  apply Program.calls_bind (reading_lrange k)
  intro keys
  split
  · apply Program.calls_pure
  · apply Program.calls_pure

theorem reading_getVersion (deviceId : String) :
  (RedisClient.getVersion deviceId).Calls IsReading
  := by
  apply Program.calls_bind (reading_lrange deviceId)
  intro keys
  split
  · apply Program.calls_pure
  · apply Program.calls_pure

theorem reading_getPushNode (k : String) :
  (RedisClient.getPushNode platform k).Calls IsReading
  := by
  apply Program.calls_bind (reading_get k)
  rintro (_ | node)
  · apply Program.calls_throw
  · apply Program.calls_pure

/-- The nodes of a device are read one after the other. -/
theorem reading_getPushNodes (deviceId : String) :
  (RedisClient.getPushNodes platform deviceId).Calls IsReading
  := by
  apply Program.calls_bind (reading_lrange deviceId)
  intro keys
  induction keys.drop 2 with
  | nil => apply Program.calls_pure
  | cons k keys ih =>
      rw [List.mapM_cons]
      apply Program.calls_bind (reading_getPushNode k)
      intro node
      apply Program.calls_bind ih
      intro nodes
      apply Program.calls_pure

variable (platform) in
/-- An account is looked up in two steps. -/
theorem reading_loadPushAccount (deviceId : String) (account : PushAccount) :
  (RedisClient.loadPushAccount platform deviceId account).Calls IsReading
  := by
  apply Program.calls_bind (reading_get _)
  rintro (_ | node)
  · apply Program.calls_pure
  · apply Program.calls_bind (reading_getOfThree node 2)
    rintro (_ | secret)
    · apply Program.calls_pure
    · apply Program.calls_pure

/-! ### What they answer -/

/-- `LRANGE` answers with the elements under a key, unless that holds a string. -/
theorem run_lrange_ok {k : String} {l : List String} {w' : World}
    (h : Server.run oracle (Redis.lrange k) w = (.ok l, w')) :
  w' = w ∧ l = w.contents.elements k ∧ w.contents.NotString k
  := by
  rw [Server.run_lrange] at h
  unfold Store.range Store.find at h
  unfold elements NotString World.contents
  match hk : w.redis.lookup k with
  | none =>
      simp only [hk, World.reading, Option.map_none] at h
      cases h
      simp
  | some ⟨.list l', d⟩ =>
      simp only [hk, World.reading, Option.map_some] at h
      cases h
      simp
  | some ⟨.string a, d⟩ =>
      simp only [hk, World.reading, Option.map_some] at h
      cases h

/-- Where there is no string, `LRANGE` answers. -/
theorem run_lrange_of_notString {k : String} (h : w.contents.NotString k) :
  Server.run oracle (Redis.lrange k) w = (.ok (w.contents.elements k), w)
  := by
  rw [Server.run_lrange]
  rcases range_eq (w := w) k with hok | ⟨-, a, d, hs⟩
  · rw [hok]
    rfl
  · exact (h a d hs).elim

/-- Where there is a string, `LRANGE` fails. -/
theorem run_lrange_of_string {k : String} (h : ¬w.contents.NotString k) :
  Server.run oracle (Redis.lrange k) w = (.error wrongType, w)
  := by
  simp only [NotString, not_forall, not_not] at h
  obtain ⟨a, d, hs⟩ := h
  have hrange : w.redis.range k = .error .wrongType := by
    rw [World.contents] at hs
    simp [Store.range, Store.find, hs]
  rw [Server.run_lrange, hrange]
  rfl

/-- `GET` answers with the string under a key. -/
theorem run_get_ok {k : String} {r : Option String} {w' : World}
    (h : Server.run oracle (Redis.get k) w = (.ok r, w')) :
  w' = w ∧ r = w.contents.nodeUnder k
  := by
  rw [Server.run_get] at h
  unfold Store.get Store.find at h
  unfold nodeUnder World.contents
  match hk : w.redis.lookup k with
  | none =>
      simp only [hk, World.reading, Option.map_none] at h
      cases h
      simp
  | some ⟨.list l', d⟩ =>
      simp only [hk, World.reading, Option.map_some] at h
      cases h
  | some ⟨.string a, d⟩ =>
      simp only [hk, World.reading, Option.map_some] at h
      cases h
      simp

/-- Where there is a string, `GET` answers with it. -/
theorem run_get_of_nodeUnder {k node : String} (h : w.contents.nodeUnder k = some node) :
  Server.run oracle (Redis.get k) w = (.ok (some node), w)
  := by
  obtain ⟨d, hd⟩ := nodeUnder_eq_some.mp h
  rw [Server.run_get, Store.get_of_find (Store.find_of_lookup hd)]
  rfl

/-- The channel URI is the first entry under the device id. -/
theorem run_getChannelUri_ok {deviceId : String} {r : Option String} {w' : World}
    (h : Server.run oracle (RedisClient.getChannelUri deviceId) w = (.ok r, w')) :
  w' = w ∧ r = (w.contents.elements deviceId).head? ∧ w.contents.NotString deviceId
  := by
  obtain ⟨l, t, hl, hr⟩ := Program.run_bind_eq_ok _ h
  obtain ⟨rfl, rfl, hs⟩ := run_lrange_ok hl
  cases hr
  exact ⟨rfl, rfl, hs⟩

/-- A device with a list has a channel URI. -/
theorem run_getChannelUri_of_list {deviceId channelUri : String} {l : List String}
    {d : Option Int} (h : w.contents deviceId = some ⟨.list (channelUri :: l), d⟩) :
  Server.run oracle (RedisClient.getChannelUri deviceId) w = (.ok (some channelUri), w)
  := by
  have hs : w.contents.NotString deviceId := by
    intro a d' hs
    rw [h] at hs
    cases hs
  rw [RedisClient.getChannelUri, Server.run, Program.run_bind_ok _ (run_lrange_of_notString hs),
    elements_of_eq h]
  rfl

/-- An entry of a list that does not have three is not found. -/
theorem run_getOfThree_ok {k : String} {i : Nat} {r : Option String} {w' : World}
    (h : Server.run oracle (RedisClient.getOfThree k i) w = (.ok r, w')) :
  w' = w ∧ w.contents.NotString k
    ∧ r = if (w.contents.elements k).length = 3 then (w.contents.elements k)[i]? else none
  := by
  obtain ⟨l, t, hl, hr⟩ := Program.run_bind_eq_ok _ h
  obtain ⟨rfl, rfl, hs⟩ := run_lrange_ok hl
  split at hr
  · next hlen =>
      cases hr
      exact ⟨rfl, hs, (if_neg hlen).symm⟩
  · next hlen =>
      cases hr
      rw [if_pos (not_not.mp hlen)]
      exact ⟨rfl, hs, rfl⟩

/-- Where there is no string, the entry is read. -/
theorem run_getOfThree_of_notString {k : String} (h : w.contents.NotString k) (i : Nat) :
  Server.run oracle (RedisClient.getOfThree k i) w
    = (.ok (if (w.contents.elements k).length = 3 then (w.contents.elements k)[i]? else none), w)
  := by
  rw [RedisClient.getOfThree, Server.run, Program.run_bind_ok _ (run_lrange_of_notString h)]
  by_cases hlen : (w.contents.elements k).length = 3
  · simp [hlen]
  · simp [hlen]

/-- `get_node_secret` answers with the secret of the node. -/
theorem run_getNodeSecret_ok {node : String} {r : Option String} {w' : World}
    (h : Server.run oracle (RedisClient.getNodeSecret node) w = (.ok r, w')) :
  w' = w ∧ r = w.contents.secretOf node
  := by
  obtain ⟨rfl, -, rfl⟩ := run_getOfThree_ok h
  exact ⟨rfl, (secretOf_eq node).symm⟩

/-- An account that can be reused gets its node, its secret and its flag. -/
theorem run_loadPushAccount_ok {deviceId : String} {account account' : PushAccount} {w' : World}
    (h : Server.run oracle (RedisClient.loadPushAccount platform deviceId account) w
      = (.ok account', w')) :
  w' = w ∧ account' = match w.contents.reusable platform deviceId account.accountId with
    | none => account
    | some (node, secret) => { account with node, secret, success := true }
  := by
  obtain ⟨r, t, hget, hr⟩ := Program.run_bind_eq_ok _ h
  obtain ⟨rfl, hnode⟩ := run_get_ok hget
  unfold reusable
  rw [← hnode]
  cases r with
  | none =>
      cases hr
      exact ⟨rfl, rfl⟩
  | some node =>
      obtain ⟨s, u, hsecret, hs⟩ := Program.run_bind_eq_ok _ hr
      obtain ⟨rfl, rfl⟩ := run_getNodeSecret_ok hsecret
      cases hsec : u.contents.secretOf node with
      | none =>
          rw [hsec] at hs
          cases hs
          simp [hsec]
      | some secret =>
          rw [hsec] at hs
          cases hs
          simp [hsec]

/-- `get_push_node` answers with the node under an account key. -/
theorem run_getPushNode_ok {k node : String} {w' : World}
    (h : Server.run oracle (RedisClient.getPushNode platform k) w = (.ok node, w')) :
  w' = w ∧ w.contents.nodeUnder k = some node
  := by
  obtain ⟨r, t, hget, hr⟩ := Program.run_bind_eq_ok _ h
  obtain ⟨rfl, rfl⟩ := run_get_ok hget
  cases hn : t.contents.nodeUnder k with
  | none =>
      rw [hn] at hr
      cases hr
  | some n =>
      rw [hn] at hr
      cases hr
      exact ⟨rfl, rfl⟩

/-- Each account key of a device whose nodes are read holds its node. -/
theorem run_mapM_getPushNode_ok {keys nodes : List String} {w' : World}
    (h : Server.run oracle (keys.mapM (RedisClient.getPushNode platform)) w = (.ok nodes, w')) :
  w' = w ∧ keys.map w.contents.nodeUnder = nodes.map some
  := by
  induction keys generalizing nodes w' with
  | nil =>
      rw [List.mapM_nil] at h
      cases h
      exact ⟨rfl, rfl⟩
  | cons k keys ih =>
      rw [List.mapM_cons] at h
      obtain ⟨node, t, hk, hr⟩ := Program.run_bind_eq_ok _ h
      obtain ⟨rfl, hnode⟩ := run_getPushNode_ok hk
      obtain ⟨nodes', t', hkeys, hr'⟩ := Program.run_bind_eq_ok _ hr
      obtain ⟨rfl, hnodes⟩ := ih hkeys
      cases hr'
      use rfl
      rw [List.map_cons, List.map_cons, hnode, hnodes]

/-- The nodes of a device are those under its account keys, in their order. -/
theorem run_getPushNodes_ok {deviceId : String} {nodes : List String} {w' : World}
    (h : Server.run oracle (RedisClient.getPushNodes platform deviceId) w = (.ok nodes, w')) :
  w' = w
    ∧ ((w.contents.elements deviceId).drop 2).map w.contents.nodeUnder = nodes.map some
  := by
  obtain ⟨l, t, hl, hr⟩ := Program.run_bind_eq_ok _ h
  obtain ⟨rfl, rfl, -⟩ := run_lrange_ok hl
  apply run_mapM_getPushNode_ok hr

end

end UwpxPush
