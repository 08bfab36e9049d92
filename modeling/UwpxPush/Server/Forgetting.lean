import UwpxPush.Server.Registry

/-!
# Devices that fall silent

Nothing but the WNS token is kept for longer than the time to live, and only messages about a
device put off the time at which its entries expire.  So once the time to live has passed since
the last message about a device, its list, its account keys and the records of all nodes that
were ever drawn for it are gone.
-/

namespace UwpxPush

open KeyValue

/-- The last message about the device. -/
def lastMessage (past : History) (deviceId : String) : Option (Transition Event World) :=
  past.find? fun t => t.event.deviceId = some deviceId

/-- The keys of a device: its name, its account keys, and the nodes that were drawn for it. -/
def BelongsTo (platform : Platform) (oracle : Oracle) (past : History) (deviceId k : String) :
    Prop :=
  k = deviceId
    ∨ (∃ accountId, Listed past deviceId accountId
        ∧ k = RedisClient.genAccount platform deviceId accountId)
    ∨ ∃ i accountId, Drawn past i deviceId accountId ∧ k = oracle.node i

/-- Every entry but that of the WNS token expires within the time to live. -/
def Expiring (w : World) : Prop :=
  ∀ k ≠ RedisClient.WNS_TOKEN_KEY, ∀ entry, w.contents k = some entry →
    ∃ deadline, entry.deadline = some deadline ∧ deadline ≤ w.redis.clock + timeout

section

variable {platform : Platform} {config : Configuration} {oracle : Oracle} {past : History}
  {t : Transition Event World} {w w' : World} {e : Event} {d k : String}

theorem Expiring.move (h : Expiring w) (hmove : Move platform config oracle w e w')
    (hw : w.contents.Typed) :
  Expiring w'
  := by
  intro k hwns entry hk
  cases hmove with
  | registered hr =>
      rw [hr.clock]
      rcases hr.contents_cases hw k with rfl | ⟨-, a, -, -, hs⟩ | ⟨-, -, hl⟩ | ⟨-, -, -, hframe⟩
      · cases hr.contents_device.symm.trans hk
        exact ⟨_, rfl, le_rfl⟩
      · cases hs.symm.trans hk
        exact ⟨_, rfl, le_rfl⟩
      · cases hl.symm.trans hk
        exact ⟨_, rfl, le_rfl⟩
      · rw [hframe] at hk
        split at hk
        · cases hk
        · exact h k hwns entry hk
  | refused hr =>
      rw [World.contents, hr.redis] at hk
      rw [hr.redis]
      exact h k hwns entry hk
  | channelUri uri contents clock connected created log =>
      rw [clock]
      rw [contents, Contents.setChannelUri, Contents.putList] at hk
      split at hk
      · cases hk
        exact ⟨_, rfl, le_rfl⟩
      · exact h k hwns entry hk
  | other heffect =>
      rw [heffect.clock]
      rw [World.contents, heffect.lookup k hwns] at hk
      exact h k hwns entry hk
  | connection up => exact h k hwns entry hk
  | advance dt =>
      obtain ⟨deadline, hdeadline, hle⟩ := h k hwns entry (contents_advance hk)
      use deadline, hdeadline
      simp only [Store.advance]
      omega

/-- In every run, every entry but that of the WNS token expires within the time to live. -/
theorem Reached.expiring (h : Reached platform config oracle past w) :
  Expiring w
  := by
  apply h.invariant (I := fun _ w => Expiring w)
  · intro w hw k _ entry hk
    simp [World.contents, Store.lookup, hw.redis] at hk
  · intro past w e w' hreached _ hmove ih
    exact ih.move hmove hreached.typed

/-! ### Messages about other devices -/

theorem lastMessage_cons (h : e.deviceId = some d) :
  lastMessage (⟨e, w, w'⟩ :: past) d = some ⟨e, w, w'⟩
  := List.find?_cons_of_pos (by simpa using h)

theorem lastMessage_cons_of_ne (h : e.deviceId ≠ some d) :
  lastMessage (⟨e, w, w'⟩ :: past) d = lastMessage past d
  := List.find?_cons_of_neg (by simpa using h)

/-- The keys of a device are those it had before the messages about others. -/
theorem BelongsTo.of_cons (h : BelongsTo platform oracle (⟨e, w, w'⟩ :: past) d k)
    (hne : e.deviceId ≠ some d) :
  BelongsTo platform oracle past d k
  := by
  rcases h with rfl | ⟨a, ⟨t, ht, hd, ha⟩, hkey⟩ | ⟨i, a, ⟨t, ht, hd, hdrawn⟩, hnode⟩
  · exact .inl rfl
  · rcases List.mem_cons.mp ht with rfl | ht
    · exact (hne hd).elim
    · exact .inr (.inl ⟨a, ⟨t, ht, hd, ha⟩, hkey⟩)
  · rcases List.mem_cons.mp ht with rfl | ht
    · exact (hne hd).elim
    · exact .inr (.inr ⟨i, a, ⟨t, ht, hd, hdrawn⟩, hnode⟩)

/-- The keys of a device are foreign to other devices. -/
theorem BelongsTo.foreign (h : BelongsTo platform oracle past d k) (hd : Named past d)
    {other : String} (hne : d ≠ other) :
  Foreign platform oracle past other k
  := by
  rcases h with rfl | ⟨a, hlisted, rfl⟩ | ⟨i, a, hdrawn, rfl⟩
  · exact .inl ⟨hd, hne⟩
  · exact .inr (.inl ⟨d, a, hlisted, hne, rfl⟩)
  · exact .inr (.inr ⟨i, d, a, hdrawn, hne, rfl⟩)

theorem BelongsTo.ne_token (h : BelongsTo platform oracle past d k)
    (hroles : RolesApart platform oracle past) (hd : Named past d) :
  k ≠ RedisClient.WNS_TOKEN_KEY
  := by
  rcases h with rfl | ⟨a, -, rfl⟩ | ⟨i, a, -, rfl⟩
  · rintro rfl
    exact hroles.token hd
  · exact genAccount_ne_token _ _
  · exact node_ne_token _

/-- What is under a key of a device after a message about another one was there before. -/
theorem Move.contents_belongs (hmove : Move platform config oracle w e w')
    (hreached : Reached platform config oracle past w)
    (hreached' : Reached platform config oracle (⟨e, w, w'⟩ :: past) w')
    (hfresh : Admitted (Fresh oracle) (⟨e, w, w'⟩ :: past))
    (hroles : RolesApart platform oracle (⟨e, w, w'⟩ :: past)) (hd : Named past d)
    (hne : e.deviceId ≠ some d) (hk : BelongsTo platform oracle past d k) {entry : Entry String}
    (hentry : w'.contents k = some entry) :
  w.contents k = some entry
  := by
  have hforeign : ∀ other, e.deviceId = some other →
      Foreign platform oracle (⟨e, w, w'⟩ :: past) other k := by
    intro other hother
    have hdne : d ≠ other := by
      rintro rfl
      exact hne hother
    rcases hk.foreign hd hdne with ⟨hnamed, hkne⟩ | ⟨d', a, hlisted, h⟩ | ⟨i, d', a, hdrawn, h⟩
    · exact .inl ⟨hnamed.cons, hkne⟩
    · exact .inr (.inl ⟨d', a, hlisted.cons, h⟩)
    · exact .inr (.inr ⟨i, d', a, hdrawn.cons, h⟩)
  rcases hother : e.deviceId with _ | other
  · cases hmove with
    | registered hr => cases hother
    | refused hr => cases hother
    | channelUri uri contents clock connected created log => cases hother
    | other heffect =>
        rw [World.contents, heffect.lookup k (hk.ne_token hroles.of_cons hd)] at hentry
        exact hentry
    | connection up => exact hentry
    | advance dt => exact contents_advance hentry
  · rw [← hmove.contents_foreign hreached hreached' hfresh hroles hother (hforeign other hother)]
    exact hentry

/-! ### Silence -/

/-- The entries of a device expire within the time to live after the last message about it. -/
theorem Reached.expires_after_last (h : Reached platform config oracle past w)
    (hfresh : Admitted (Fresh oracle) past) (hroles : RolesApart platform oracle past)
    (hlast : lastMessage past d = some t) (hk : BelongsTo platform oracle past d k)
    {entry : Entry String} (hentry : w.contents k = some entry) :
  ∃ deadline, entry.deadline = some deadline ∧ deadline ≤ t.after.redis.clock + timeout
  := by
  revert hfresh hroles hlast hk entry
  apply h.invariant (I := fun past w => Admitted (Fresh oracle) past →
    RolesApart platform oracle past → lastMessage past d = some t →
    BelongsTo platform oracle past d k → ∀ {entry : Entry String},
    w.contents k = some entry →
    ∃ deadline, entry.deadline = some deadline ∧ deadline ≤ t.after.redis.clock + timeout)
  · intro w _ _ _ hlast
    cases hlast
  · intro past w e w' hreached hreached' hmove ih hfresh hroles hlast hk entry hentry
    by_cases hd : e.deviceId = some d
    · rw [lastMessage_cons hd] at hlast
      cases hlast
      exact hreached'.expiring k (hk.ne_token hroles (named_cons hd)) entry hentry
    · rw [lastMessage_cons_of_ne hd] at hlast
      have hold := hk.of_cons hd
      have hnamed : Named past d :=
        ⟨t, List.mem_of_find?_eq_some hlast, by simpa using List.find?_some hlast⟩
      exact ih hfresh.2 hroles.of_cons hlast hold
        (hmove.contents_belongs hreached hreached' hfresh hroles hnamed hd hold hentry)

end

/-- In every run whose names are new and whose keys have one role each, once the time to live has
passed since the last message about a device, its keys are gone, events for the nodes that were
ever drawn for it are dropped, and the device is unknown. -/
theorem Reached.gone_of_silent {platform : Platform} {config : Configuration} {oracle : Oracle}
    {past : History} {w : World} {t : Transition Event World} {d : String}
    (h : Reached platform config oracle past w) (hfresh : Admitted (Fresh oracle) past)
    (hroles : RolesApart platform oracle past) (hlast : lastMessage past d = some t)
    (htime : t.after.redis.clock + timeout ≤ w.redis.clock) :
  (∀ k, BelongsTo platform oracle past d k → w.contents k = none)
    ∧ (∀ i accountId, Drawn past i d accountId →
      Server.run oracle (PushServer.channelUriOfNode (oracle.node i)) w = (.ok none, w))
    ∧ (∀ m : SetPushAccountsMessage, m.deviceId = d →
      (Server.run oracle (PushServer.processMessage platform config (.setPushAccounts m)) w).2
        = w.tell (.reply (.errorResponse (.ofError "Device id unknown."))))
    ∧ ∀ m : RequestTestPushMessage, m.deviceId = d →
      (Server.run oracle (PushServer.processMessage platform config (.requestTestPush m)) w).2
        = w.tell (.reply (.errorResponse (.ofError "Device id unknown.")))
  := by
  have hgone : ∀ k, BelongsTo platform oracle past d k → w.contents k = none := by
    intro k hk
    rw [Option.eq_none_iff_forall_ne_some]
    intro entry hentry
    obtain ⟨deadline, hdeadline, hle⟩ := h.expires_after_last hfresh hroles hlast hk hentry
    have hlive := Store.live_of_lookup hentry
    obtain ⟨value, _⟩ := entry
    cases hdeadline
    simp only [Entry.live_some, decide_eq_true_eq] at hlive
    omega
  have hstring : ∀ k, w.contents k = none → w.contents.NotString k := by
    intro k hk a deadline hs
    cases hk.symm.trans hs
  have hnil : ∀ k, w.contents k = none → w.contents.elements k = [] := by
    intro k hk
    rw [Contents.elements, hk]
  have hdevice := hgone d (.inl rfl)
  refine ⟨hgone, ?_, ?_, ?_⟩
  · intro i accountId hdrawn
    have hnode := hgone _ (.inr (.inr ⟨i, accountId, hdrawn, rfl⟩))
    rw [PushServer.channelUriOfNode, RedisClient.getDeviceId, Server.run,
      Program.run_bind_ok _ (run_getOfThree_of_notString (hstring _ hnode) 1), hnil _ hnode]
    rfl
  · rintro m rfl
    exact handle_setPushAccounts_unknown (hstring _ hdevice) (hnil _ hdevice)
  · rintro m rfl
    exact handle_requestTestPush_unknown (hstring _ hdevice) (hnil _ hdevice)

/-- A device registers an account and falls silent. -/
def Sample.silent : List Event :=
  registration ++ [.advance (30 * 7 * 24 * 60 * 60 * 10 ^ 9)]

/-- The device is unknown, and the events for its node are dropped. -/
theorem gone_of_silent_phone :
  (∀ k, BelongsTo Sample.platform Sample.oracle (Sample.run Sample.silent).1 "phone" k →
      (Sample.run Sample.silent).2.contents k = none)
    ∧ Server.run Sample.oracle (PushServer.channelUriOfNode (Sample.oracle.node 0))
      (Sample.run Sample.silent).2 = (.ok none, (Sample.run Sample.silent).2)
  := by
  let t := Sample.next [Sample.setChannelUri "phone" Sample.phone_channelUri]
    (Sample.setPushAccounts "phone" ["alice"] Sample.phone_alice)
  obtain ⟨hfresh, hroles, htime, hdrawn⟩ :
      Admitted (Fresh Sample.oracle) (Sample.run Sample.silent).1
        ∧ RolesApart Sample.platform Sample.oracle (Sample.run Sample.silent).1
        ∧ t.after.redis.clock + timeout ≤ (Sample.run Sample.silent).2.redis.clock
        ∧ t.before.created ≤ 0 ∧ 0 < t.after.created := by
    decide +kernel
  have hlast : lastMessage (Sample.run Sample.silent).1 "phone" = some t :=
    (lastMessage_cons_of_ne (by rintro ⟨⟩)).trans (lastMessage_cons rfl)
  obtain ⟨hgone, hdropped, -⟩ :=
    (Sample.reached_run Sample.silent).gone_of_silent hfresh hroles hlast htime
  use hgone
  apply hdropped 0 "alice"
  exact ⟨t, List.mem_of_find?_eq_some hlast, rfl, hdrawn.1, hdrawn.2, rfl⟩

end UwpxPush
