import UwpxPush.Server.Roles

/-!
# How long account keys last

A registration gives the list of the device and its account keys the same time of expiry, but
a new channel URI puts off that of the list alone.  So the account keys in the list of a
device exist exactly until the time to live has passed since the last registration.
-/

namespace UwpxPush

open KeyValue

/-- The last registration of the device. -/
def lastRegistration (past : History) (deviceId : String) : Option (Transition Event World) :=
  past.find? fun t => (told t deviceId).isSome

/-- The nodes of the device can be read: its account keys exist, and no optional is empty. -/
def NodesRead (platform : Platform) (oracle : Oracle) (w : World) (deviceId : String) : Prop :=
  (∀ k ∈ (w.contents.elements deviceId).drop 2, w.contents k ≠ none)
    ∧ ∃ nodes, (Server.run oracle (RedisClient.getPushNodes platform deviceId) w).1 = .ok nodes

/-- The list of the device has no account keys, as when it has expired, or the time to live has
not passed since the last registration of the device. -/
def Timely (past : History) (w : World) (deviceId : String) : Prop :=
  (w.contents.elements deviceId).drop 2 = []
    ∨ ∃ t, lastRegistration past deviceId = some t
      ∧ w.redis.clock < t.after.redis.clock + timeout

/-- The key holds a node until the deadline. -/
def Contents.NodeUntil (c : Contents) (clock : Int) (k : String) (deadline : Int) : Prop :=
  ∃ node, c k = if clock < deadline then some ⟨.string node, some deadline⟩ else none

/-- The account keys in the lists of devices hold nodes until the time to live has passed since
the last registrations. -/
def KeysTimed (past : History) (w : World) : Prop :=
  ∀ d, Named past d → ∀ k ∈ (w.contents.elements d).drop 2,
    ∃ t, lastRegistration past d = some t
      ∧ w.contents.NodeUntil w.redis.clock k (t.after.redis.clock + timeout)

section

variable {platform : Platform} {config : Configuration} {oracle : Oracle} {past : History}
  {t : Transition Event World} {w w' : World} {e : Event}

theorem lastRegistration_of_told {d : String} {accounts : List PushAccount}
    (h : told t d = some accounts) :
  lastRegistration (t :: past) d = some t
  := by rw [lastRegistration, List.find?_cons_of_pos (by rw [h]; rfl)]

theorem lastRegistration_of_none {d : String} (h : told t d = none) :
  lastRegistration (t :: past) d = lastRegistration past d
  := by
  rw [lastRegistration, List.find?_cons_of_neg]
  · rfl
  · simp [h]

/-! ### Reading nodes -/

variable (oracle) in
theorem run_mapM_getPushNode {keys nodes : List String}
    (h : keys.map w.contents.nodeUnder = nodes.map some) :
  Server.run oracle (keys.mapM (RedisClient.getPushNode platform)) w = (.ok nodes, w)
  := by
  induction keys generalizing nodes with
  | nil =>
      rw [List.map_nil, eq_comm, List.map_eq_nil_iff] at h
      rw [h, List.mapM_nil]
      rfl
  | cons k keys ih =>
      rcases nodes with _ | ⟨node, nodes⟩
      · cases h
      · rw [List.map_cons, List.map_cons, List.cons.injEq] at h
        obtain ⟨hnode, hnodes⟩ := h
        obtain ⟨d, hd⟩ := Contents.nodeUnder_eq_some.mp hnode
        have hget : Server.run oracle (RedisClient.getPushNode platform k) w = (.ok node, w) := by
          have hstring : Server.run oracle (Redis.get k) w = (.ok (some node), w) := by
            rw [Server.run_get, Store.get_of_find (Store.find_of_lookup hd)]
            rfl
          rw [RedisClient.getPushNode, Server.run, Program.run_bind_ok _ hstring]
          rfl
        rw [List.mapM_cons, Server.run, Program.run_bind_ok _ hget,
          Program.run_bind_ok _ (ih hnodes)]
        rfl

/-- The nodes of a device can be read if and only if its account keys hold nodes. -/
theorem getPushNodes_ok_iff {d : String} (hd : w.contents.NotString d) :
  (∃ nodes, (Server.run oracle (RedisClient.getPushNodes platform d) w).1 = .ok nodes)
    ↔ ∀ k ∈ (w.contents.elements d).drop 2, ∃ node, w.contents.nodeUnder k = some node
  := by
  constructor
  · rintro ⟨nodes, hok⟩ k hk
    obtain ⟨-, hnodes⟩ := run_getPushNodes_ok (Prod.ext hok rfl)
    have hmem := List.mem_map_of_mem (f := w.contents.nodeUnder) hk
    rw [hnodes, List.mem_map] at hmem
    obtain ⟨node, -, hnode⟩ := hmem
    exact ⟨node, hnode.symm⟩
  · intro h
    have hnodes : ∃ nodes : List String, ((w.contents.elements d).drop 2).map
        w.contents.nodeUnder = nodes.map some := by
      generalize (w.contents.elements d).drop 2 = keys at h
      induction keys with
      | nil => exact ⟨[], rfl⟩
      | cons k keys ih =>
          obtain ⟨node, hnode⟩ := h k List.mem_cons_self
          obtain ⟨nodes, hnodes⟩ := ih fun k' hk' => h k' (List.mem_cons_of_mem k hk')
          exact ⟨node :: nodes, by rw [List.map_cons, hnode, hnodes, List.map_cons]⟩
    obtain ⟨nodes, hnodes⟩ := hnodes
    use nodes
    rw [RedisClient.getPushNodes, Server.run,
      Program.run_bind_ok _ (run_lrange_of_notString hd)]
    exact congrArg Prod.fst (run_mapM_getPushNode oracle hnodes)

/-! ### The invariant -/

/-- The account keys of a registration hold the nodes of its accounts. -/
theorem RolesApart.contents_key_registered {m : SetPushAccountsMessage}
    {valid : (Message.setPushAccounts m).Valid} {version channelUri : String}
    {oldNodes : List String} {pushAccounts : List PushAccount}
    (h : RolesApart platform oracle (⟨.received (.setPushAccounts m) valid, w, w'⟩ :: past))
    (hr : PushServer.Registered platform config oracle m.deviceId version m.accounts w w'
      channelUri oldNodes pushAccounts) (hw : w.contents.Typed) {accountId : String}
    (ha : accountId ∈ m.accounts) :
  ∃ node, w'.contents (RedisClient.genAccount platform m.deviceId accountId)
    = some ⟨.string node, some (w.redis.clock + timeout)⟩
  := by
  rcases hr.contents_cases hw (RedisClient.genAccount platform m.deviceId accountId) with
    heq | ⟨-, a, -, -, hs⟩ | ⟨-, ⟨a, hmem, hnode⟩, -⟩ | ⟨-, hkey, -⟩
  · exact (h.key _ (named_cons rfl) _ _ (listed_cons rfl ha) heq.symm).elim
  · exact ⟨a.node, hs⟩
  · have hlength := hr.length_node hw a hmem
    rw [hnode, length_genAccount] at hlength
    cases hlength
  · rw [← PushServer.map_accountId_resolveAll
      (c := w.contents) w.created m.accounts, ← hr.resolved, List.mem_map] at ha
    obtain ⟨a, hmem, rfl⟩ := ha
    exact (hkey a hmem rfl).elim

/-- As time passes, a key holds its node until the deadline. -/
theorem Contents.NodeUntil.advance {k : String} {deadline : Int} {dt : Nat}
    (h : w.contents.NodeUntil w.redis.clock k deadline) :
  Contents.NodeUntil (w.redis.advance dt).lookup (w.redis.advance dt).clock k deadline
  := by
  obtain ⟨node, hnode⟩ := h
  use node
  have hclock : (w.redis.advance dt).clock = w.redis.clock + dt := rfl
  rw [hclock]
  split at hnode
  · exact Store.lookup_advance_eq hnode
  · next hle =>
      rw [if_neg (by omega)]
      exact Store.lookup_advance_of_none hnode

theorem KeysTimed.move (h : KeysTimed past w) (hmove : Move platform config oracle w e w')
    (hreached : Reached platform config oracle past w)
    (hreached' : Reached platform config oracle (⟨e, w, w'⟩ :: past) w')
    (hfresh : Admitted (Fresh oracle) (⟨e, w, w'⟩ :: past))
    (hroles : RolesApart platform oracle (⟨e, w, w'⟩ :: past)) :
  KeysTimed (⟨e, w, w'⟩ :: past) w'
  := by
  intro d hd k hk
  rcases hmove.keys_cases hreached hreached' hfresh.2 hroles hd hk with
    ⟨accounts, htold, -, accountId, ha, rfl⟩ | ⟨htold, hold, hk'⟩
  · use ⟨e, w, w'⟩, lastRegistration_of_told htold
    obtain ⟨m, valid, channelUri, oldNodes, pushAccounts, rfl, rfl, hr, -⟩ := hmove.told htold
    obtain ⟨node, hnode⟩ := hroles.contents_key_registered hr hreached.typed ha
    use node
    have hlt : w.redis.clock < w.redis.clock + timeout := by
      have := timeout_pos
      omega
    simp only [hnode, hr.clock, if_pos hlt]
  · obtain ⟨t, hlast, hnode⟩ := h d hold k hk'
    obtain ⟨accountId, hlisted, rfl⟩ :=
      hreached.listsOwnKeys hfresh.2 hroles.of_cons d hold k hk'
    use t, (lastRegistration_of_none htold).trans hlast
    rcases hmove.contents_own hreached hreached' hfresh hroles htold
      (genAccount_ne_token d accountId) (hroles.key d hd d accountId hlisted.cons).symm
      (fun d' hne => .inr (.inl ⟨d, accountId, hlisted.cons, hne.symm, rfl⟩)) with
      ⟨hclock, hsame⟩ | ⟨dt, -, rfl⟩
    · rw [Contents.NodeUntil, hclock, hsame]
      apply hnode
    · exact hnode.advance

theorem Reached.keysTimed (h : Reached platform config oracle past w)
    (hfresh : Admitted (Fresh oracle) past) (hroles : RolesApart platform oracle past) :
  KeysTimed past w
  := by
  revert hfresh hroles
  apply h.invariant (I := fun past w => Admitted (Fresh oracle) past →
    RolesApart platform oracle past → KeysTimed past w)
  · rintro w - - - d ⟨t, ht, -⟩
    cases ht
  · intro past w e w' hreached hreached' hmove ih hfresh hroles
    exact (ih hfresh.2 hroles.of_cons).move hmove hreached hreached' hfresh hroles

/-- There is no string under the name of a device. -/
theorem RolesApart.notString (h : RolesApart platform oracle (t :: past))
    (hreached : Reached platform config oracle past w) (hfresh : Admitted (Fresh oracle) past)
    {d : String} (hd : Named (t :: past) d) :
  w.contents.NotString d
  := by
  intro node deadline hs
  obtain ⟨i, owner, accountId, ho⟩ := (hreached.owned hfresh).1 _ _ _ hs
  exact h.key d hd owner accountId ho.drawn.listed.cons ho.key_eq

/-- The account keys in the list of a device hold nodes if and only if the time to live has not
passed since its last registration. -/
theorem KeysTimed.nodes_iff {d : String} (h : ∀ k ∈ (w.contents.elements d).drop 2,
      ∃ t, lastRegistration past d = some t
        ∧ w.contents.NodeUntil w.redis.clock k (t.after.redis.clock + timeout)) :
  (∀ k ∈ (w.contents.elements d).drop 2, ∃ node, w.contents.nodeUnder k = some node)
    ↔ Timely past w d
  := by
  constructor
  · intro hnodes
    rcases hkeys : (w.contents.elements d).drop 2 with _ | ⟨k, keys⟩
    · exact .inl hkeys
    · have hk : k ∈ (w.contents.elements d).drop 2 := by
        rw [hkeys]
        apply List.mem_cons_self
      obtain ⟨t, hlast, node, hnode⟩ := h k hk
      apply Or.inr
      use t, hlast
      by_contra hle
      rw [if_neg hle] at hnode
      obtain ⟨n, hn⟩ := hnodes k hk
      rw [Contents.nodeUnder, hnode] at hn
      cases hn
  · rintro htimely k hk
    obtain ⟨t, hlast, node, hnode⟩ := h k hk
    rcases htimely with hnil | ⟨t', hlast', hlt⟩
    · rw [hnil] at hk
      cases hk
    · cases hlast.symm.trans hlast'
      use node
      rw [if_pos hlt] at hnode
      exact Contents.nodeUnder_eq_some.mpr ⟨_, hnode⟩

end

/-- Whenever the nodes of a device are read for a request to set its accounts, in a run whose
names are new and whose keys have one role each, its account keys exist if and only if the time
to live has not passed since its last registration, or its list has none. -/
theorem nodesRead_iff {platform : Platform} {config : Configuration} {oracle : Oracle}
    {past : History} {w : World} (h : Reached platform config oracle past w)
    {m : SetPushAccountsMessage} {valid : (Message.setPushAccounts m).Valid}
    {t : Transition Event World}
    (ht : t = ⟨.received (.setPushAccounts m) valid, w,
      w.handle platform config oracle (.received (.setPushAccounts m) valid)⟩)
    (hfresh : Admitted (Fresh oracle) (t :: past))
    (hroles : RolesApart platform oracle (t :: past)) :
  NodesRead platform oracle w m.deviceId ↔ Timely past w m.deviceId
  := by
  subst ht
  have hnamed : Named (⟨.received (.setPushAccounts m) valid, w,
      w.handle platform config oracle (.received (.setPushAccounts m) valid)⟩ :: past)
      m.deviceId :=
    named_cons rfl
  have htimed : ∀ k ∈ (w.contents.elements m.deviceId).drop 2,
      ∃ t, lastRegistration past m.deviceId = some t
        ∧ w.contents.NodeUntil w.redis.clock k (t.after.redis.clock + timeout) := by
    by_cases hold : Named past m.deviceId
    · apply h.keysTimed hfresh.2 hroles.of_cons _ hold
    · have hmove := handle_move platform config oracle w h.typed
        (.received (.setPushAccounts m) valid)
      rw [hroles.elements_of_not_named (h.owned hfresh.2).2 hmove.created.1 hnamed hold]
      nofun
  rw [NodesRead, getPushNodes_ok_iff (hroles.notString h hfresh.2 hnamed),
    ← KeysTimed.nodes_iff htimed]
  constructor
  · rintro ⟨-, hnodes⟩
    apply hnodes
  · intro hnodes
    use ?_, hnodes
    intro k hk hnone
    obtain ⟨node, hnode⟩ := hnodes k hk
    rw [Contents.nodeUnder, hnone] at hnode
    cases hnode

/-- A device registers its account again. -/
theorem nodesRead_iff_registration :
  NodesRead Sample.platform Sample.oracle (Sample.run Sample.registration).2 "phone"
    ↔ Timely (Sample.run Sample.registration).1 (Sample.run Sample.registration).2 "phone"
  := by
  let t := Sample.next Sample.registration
    (Sample.setPushAccounts "phone" ["alice"] Sample.phone_alice)
  obtain ⟨hfresh, hroles⟩ :
      Admitted (Fresh Sample.oracle) (t :: (Sample.run Sample.registration).1)
        ∧ RolesApart Sample.platform Sample.oracle (t :: (Sample.run Sample.registration).1) := by
    decide +kernel
  exact nodesRead_iff (m := .ofFields ["alice"] "phone") (Sample.reached_run Sample.registration)
    rfl hfresh hroles

/-- A registration, a new channel URI one second before its account key expires, and two seconds
more. -/
def Sample.outlived : List Event :=
  registration ++ [.advance ((30 * 7 * 24 * 60 * 60 - 1) * 10 ^ 9),
    setChannelUri "phone" phone_channelUri, .advance (2 * 10 ^ 9)]

/-- The list of the device outlives its account key, and the assertion that it exists fails. -/
theorem not_nodesRead_outlived :
  Reached Sample.platform Sample.config Sample.oracle (Sample.run Sample.outlived).1
      (Sample.run Sample.outlived).2
    ∧ (let t := Sample.next Sample.outlived
        (Sample.setPushAccounts "phone" ["alice"] Sample.phone_alice)
      Admitted (Fresh Sample.oracle) (t :: (Sample.run Sample.outlived).1)
        ∧ RolesApart Sample.platform Sample.oracle (t :: (Sample.run Sample.outlived).1))
    ∧ (Server.run Sample.oracle (RedisClient.getPushNodes Sample.platform "phone")
        (Sample.run Sample.outlived).2).1 = .error (.assertion "node")
    ∧ ¬NodesRead Sample.platform Sample.oracle (Sample.run Sample.outlived).2 "phone"
  := by
  let t := Sample.next Sample.outlived
    (Sample.setPushAccounts "phone" ["alice"] Sample.phone_alice)
  obtain ⟨hpast, herror⟩ :
      (Admitted (Fresh Sample.oracle) (t :: (Sample.run Sample.outlived).1)
        ∧ RolesApart Sample.platform Sample.oracle (t :: (Sample.run Sample.outlived).1))
      ∧ (Server.run Sample.oracle (RedisClient.getPushNodes Sample.platform "phone")
        (Sample.run Sample.outlived).2).1 = .error (.assertion "node") := by
    decide +kernel
  refine ⟨Sample.reached_run Sample.outlived, hpast, herror, ?_⟩
  rintro ⟨-, nodes, hok⟩
  cases herror.symm.trans hok

end UwpxPush
