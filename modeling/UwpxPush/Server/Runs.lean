import UwpxPush.Server.Moves

/-!
# Runs of the server

A run begins with an empty store and goes on by events, in any order and number.  The
history of a run, latest transition first, says which devices have been named, which account
keys have been formed, for whom the `i`-th node and secret were drawn, and what was told to
whom.  `Fresh` says that each name that is drawn is new: it was not drawn before, and no
device has been named so.
-/

namespace UwpxPush

open KeyValue

/-- The transitions of a run, latest first. -/
abbrev History : Type :=
  List (Transition Event World)

/-- The world in which the server is started for the first time. -/
structure World.Initial (w : World) : Prop where
  redis : ∀ k, w.redis.entries k = none
  token : w.token = none
  created : w.created = 0
  requests : w.requests = 0
  log : w.log = []

/-- The runs of the server. -/
def Reached (platform : Platform) (config : Configuration) (oracle : Oracle)
    (past : History) (w : World) : Prop :=
  Run (fun e w => w.handle platform config oracle e) World.Initial past w

/-! ### What a history tells -/

/-- The account ids of a message. -/
def Message.accounts : Message → List String
  | .setPushAccounts m => m.accounts
  | _ => []

/-- The account ids of an event. -/
def Event.accounts : Event → List String
  | received m _ => m.accounts
  | _ => []

/-- What is sent in a transition. -/
def outputs (t : Transition Event World) : List Output :=
  t.after.log.drop t.before.log.length

/-- The accounts that a transition tells a device. -/
def told (t : Transition Event World) (deviceId : String) : Option (List PushAccount) :=
  if t.event.deviceId = some deviceId then (outputs t).findSome? Output.accounts else none

/-- A message has named the device. -/
def Named (past : History) (deviceId : String) : Prop :=
  ∃ t ∈ past, t.event.deviceId = some deviceId

/-- A message has listed the account for the device. -/
def Listed (past : History) (deviceId accountId : String) : Prop :=
  ∃ t ∈ past, t.event.deviceId = some deviceId ∧ accountId ∈ t.event.accounts

/-- The `i`-th node and secret were drawn for the account of the device. -/
def Drawn (past : History) (i : Nat) (deviceId accountId : String) : Prop :=
  ∃ t ∈ past, t.event.deviceId = some deviceId ∧ t.before.created ≤ i ∧ i < t.after.created
    ∧ t.event.accounts[i - t.before.created]? = some accountId

/-- The names drawn in a transition are new: they were not drawn before, and no device has
been named so. -/
def Fresh (oracle : Oracle) (past : History) (t : Transition Event World) : Prop :=
  ∀ i < t.after.created, t.before.created ≤ i →
    (∀ j < i, oracle.node j ≠ oracle.node i) ∧ ¬Named (t :: past) (oracle.node i)

/-- The secrets drawn in a transition were not drawn before. -/
def FreshSecrets (oracle : Oracle) (_ : History) (t : Transition Event World) : Prop :=
  ∀ i < t.after.created, t.before.created ≤ i → ∀ j < i, oracle.secret j ≠ oracle.secret i

/-- The strings of which the account keys are hashes. -/
def joined (deviceId accountId : String) : String :=
  deviceId ++ "_" ++ accountId

/-- Different strings of which account keys were formed have different hashes. -/
def NoCollision (platform : Platform) (past : History) : Prop :=
  ∀ deviceId accountId deviceId' accountId', Listed past deviceId accountId →
    Listed past deviceId' accountId' →
    RedisClient.genAccount platform deviceId accountId
      = RedisClient.genAccount platform deviceId' accountId' →
    joined deviceId accountId = joined deviceId' accountId'

/-- The accounts of different devices are joined with them to different strings. -/
def JoinedApart (past : History) : Prop :=
  ∀ deviceId accountId deviceId' accountId', Listed past deviceId accountId →
    Listed past deviceId' accountId' →
    joined deviceId accountId = joined deviceId' accountId' → deviceId = deviceId'

/-- Different devices have different account keys. -/
def KeysApart (platform : Platform) (past : History) : Prop :=
  ∀ deviceId accountId deviceId' accountId', Listed past deviceId accountId →
    Listed past deviceId' accountId' →
    RedisClient.genAccount platform deviceId accountId
      = RedisClient.genAccount platform deviceId' accountId' →
    deviceId = deviceId'

/-! ### Deciding -/

/-- The devices and accounts that messages have listed. -/
def listed (past : History) : List (String × String) :=
  past.flatMap fun t => t.event.deviceId.toList.flatMap fun deviceId =>
    t.event.accounts.map fun accountId => (deviceId, accountId)

theorem mem_listed {past : History} {deviceId accountId : String} :
  (deviceId, accountId) ∈ listed past ↔ Listed past deviceId accountId
  := by
  simp only [listed, Listed, List.mem_flatMap, Option.mem_toList, List.mem_map, Prod.mk.injEq]
  constructor
  · rintro ⟨t, ht, d, hd, a, ha, rfl, rfl⟩
    exact ⟨t, ht, hd, ha⟩
  · rintro ⟨t, ht, hd, ha⟩
    exact ⟨t, ht, deviceId, hd, accountId, ha, rfl, rfl⟩

instance (past : History) (deviceId : String) : Decidable (Named past deviceId) :=
  inferInstanceAs (Decidable (∃ t ∈ past, t.event.deviceId = some deviceId))

instance (oracle : Oracle) (past : History) (t : Transition Event World) :
    Decidable (Fresh oracle past t) :=
  inferInstanceAs (Decidable (∀ i < t.after.created, _))

instance (oracle : Oracle) (past : History) (t : Transition Event World) :
    Decidable (FreshSecrets oracle past t) :=
  inferInstanceAs (Decidable (∀ i < t.after.created, _))

/-- A property of all pairs of accounts that were listed. -/
def decidablePairs (past : History) (p : String → String → String → String → Prop)
    [∀ d a d' a', Decidable (p d a d' a')] :
    Decidable (∀ d a d' a', Listed past d a → Listed past d' a' → p d a d' a') :=
  decidable_of_iff (∀ x ∈ listed past, ∀ y ∈ listed past, p x.1 x.2 y.1 y.2) (by
    constructor
    · intro h d a d' a' hd hd'
      exact h (d, a) (mem_listed.mpr hd) (d', a') (mem_listed.mpr hd')
    · rintro h ⟨d, a⟩ hx ⟨d', a'⟩ hy
      exact h d a d' a' (mem_listed.mp hx) (mem_listed.mp hy))

instance (platform : Platform) (past : History) : Decidable (NoCollision platform past) :=
  decidablePairs past _

instance (past : History) : Decidable (JoinedApart past) :=
  decidablePairs past _

instance (platform : Platform) (past : History) : Decidable (KeysApart platform past) :=
  decidablePairs past _

section

variable {platform : Platform} {config : Configuration} {oracle : Oracle} {past : History}
  {t : Transition Event World} {w w' : World} {e : Event}

theorem Named.cons {deviceId : String} (h : Named past deviceId) :
  Named (t :: past) deviceId
  := by
  obtain ⟨u, hu, hd⟩ := h
  exact ⟨u, List.mem_cons_of_mem t hu, hd⟩

theorem Listed.cons {deviceId accountId : String} (h : Listed past deviceId accountId) :
  Listed (t :: past) deviceId accountId
  := by
  obtain ⟨u, hu, hd⟩ := h
  exact ⟨u, List.mem_cons_of_mem t hu, hd⟩

theorem Drawn.cons {i : Nat} {deviceId accountId : String} (h : Drawn past i deviceId accountId) :
  Drawn (t :: past) i deviceId accountId
  := by
  obtain ⟨u, hu, hd⟩ := h
  exact ⟨u, List.mem_cons_of_mem t hu, hd⟩

theorem Drawn.append {i : Nat} {deviceId accountId : String} (newer : History)
    (h : Drawn past i deviceId accountId) :
  Drawn (newer ++ past) i deviceId accountId
  := by
  obtain ⟨u, hu, hd⟩ := h
  exact ⟨u, List.mem_append_right newer hu, hd⟩

theorem Listed.append {deviceId accountId : String} (newer : History)
    (h : Listed past deviceId accountId) :
  Listed (newer ++ past) deviceId accountId
  := by
  obtain ⟨u, hu, hd⟩ := h
  exact ⟨u, List.mem_append_right newer hu, hd⟩

theorem Drawn.listed {i : Nat} {deviceId accountId : String}
    (h : Drawn past i deviceId accountId) :
  Listed past deviceId accountId
  := by
  obtain ⟨u, hu, hd, -, -, ha⟩ := h
  exact ⟨u, hu, hd, List.mem_of_getElem? ha⟩

theorem Listed.named {deviceId accountId : String} (h : Listed past deviceId accountId) :
  Named past deviceId
  := by
  obtain ⟨u, hu, hd, -⟩ := h
  exact ⟨u, hu, hd⟩

/-- Without collisions, account keys are as far apart as the strings they are formed of. -/
theorem JoinedApart.keysApart (h : JoinedApart past) (hcollision : NoCollision platform past) :
  KeysApart platform past
  := by
  intro d a d' a' hd hd' hkey
  apply h d a d' a' hd hd'
  apply hcollision d a d' a' hd hd' hkey

theorem KeysApart.of_cons (h : KeysApart platform (t :: past)) :
  KeysApart platform past
  := by
  intro d a d' a' ha ha'
  apply h d a d' a' ha.cons ha'.cons

/-! ### The outputs of a move -/

theorem outputs_eq {out : List Output} (h : w'.log = w.log ++ out) :
  outputs ⟨e, w, w'⟩ = out
  := by
  simp [outputs, h]

theorem outputs_eq_nil (h : w'.log = w.log) :
  outputs ⟨e, w, w'⟩ = []
  := by
  simp [outputs, h]

/-- The pairs drawn by an event are for its accounts. -/
theorem Move.created (h : Move platform config oracle w e w') :
  w.created ≤ w'.created ∧ w'.created ≤ w.created + e.accounts.length
  := by
  cases h with
  | registered h => simp [h.created, Event.accounts, Message.accounts]
  | refused h => exact ⟨h.le_created, h.created_le⟩
  | channelUri uri contents clock connected hcreated log => simp [hcreated]
  | other h => simp [h.created]
  | connection up => simp
  | advance dt => simp

/-- A device that is told accounts is named by the message. -/
theorem Named.of_told {t : Transition Event World} {past : History} {deviceId : String}
    {accounts : List PushAccount} (ht : t ∈ past) (h : told t deviceId = some accounts) :
  Named past deviceId
  := by
  unfold told at h
  split at h
  · next hd => exact ⟨t, ht, hd⟩
  · cases h

/-- The outputs of a registration contain its answer, and no other accounts. -/
theorem findSome_accounts_sent (connected : Bool) (nodes : List String)
    {requests : String → List Output}
    (hr : ∀ node, ∀ o ∈ requests node, o.accounts = none) :
  (PushServer.sent connected requests nodes).findSome? Output.accounts = none
  := by
  rw [List.findSome?_eq_none_iff]
  intro o ho
  unfold PushServer.sent at ho
  split at ho
  · obtain ⟨node, -, ho⟩ := List.mem_flatMap.mp ho
    apply hr node o ho
  · cases ho

theorem told_registered {m : SetPushAccountsMessage} {valid : (Message.setPushAccounts m).Valid}
    {channelUri : String} {oldNodes : List String} {pushAccounts : List PushAccount}
    (h : PushServer.Registered platform config oracle m.deviceId (toString m.version)
      m.accounts w w' channelUri oldNodes pushAccounts) :
  told ⟨.received (.setPushAccounts m) valid, w, w'⟩ m.deviceId
    = some (PushServer.answer platform w.connected oldNodes pushAccounts)
  := by
  have hd : (Event.received (.setPushAccounts m) valid).deviceId = some m.deviceId := rfl
  simp only [told, hd, if_true]
  rw [outputs_eq h.log, PushServer.registrationOutputs, List.findSome?_append,
    List.findSome?_append, findSome_accounts_sent, findSome_accounts_sent]
  · rfl
  · intro node o ho
    simp only [PushServer.setupOutputs, List.mem_cons, List.not_mem_nil, or_false] at ho
    rcases ho with rfl | rfl
    · rfl
    · rfl
  · intro node o ho
    simp only [PushServer.deleteOutputs, List.mem_cons, List.not_mem_nil, or_false] at ho
    rcases ho with rfl | rfl
    · rfl
    · rfl

theorem told_of_no_accounts {deviceId : String} {out : List Output}
    (hlog : w'.log = w.log ++ out) (h : ∀ o ∈ out, o.accounts = none) :
  told ⟨e, w, w'⟩ deviceId = none
  := by
  unfold told
  split
  · rw [outputs_eq hlog, List.findSome?_eq_none_iff]
    apply h
  · rfl

theorem told_of_log_eq (h : w'.log = w.log) (deviceId : String) :
  told ⟨e, w, w'⟩ deviceId = none
  := by
  apply told_of_no_accounts (h.trans (List.append_nil w.log).symm)
  simp

theorem told_refused {n : Nat} (h : PushServer.Refused n w w') (deviceId : String) :
  told ⟨e, w, w'⟩ deviceId = none
  := by
  rcases h.log with hlog | ⟨error, hlog⟩
  · apply told_of_log_eq hlog
  · apply told_of_no_accounts hlog
    intro o ho
    rw [List.mem_singleton.mp ho]
    rfl

theorem MaySend.accounts {c : Contents} {o : Output} (h : MaySend config c e o) :
  o.accounts = none ∧ o.iq? = none
  := by
  rcases h with ⟨m, rfl, h⟩ | rfl | ⟨channelUri, content, -, rfl | ⟨token, rfl⟩⟩
  · exact ⟨h, rfl⟩
  · exact ⟨rfl, rfl⟩
  · exact ⟨rfl, rfl⟩
  · exact ⟨rfl, rfl⟩

/-- Accounts are told by registrations only. -/
theorem Move.told {deviceId : String} {accounts : List PushAccount}
    (h : Move platform config oracle w e w')
    (ht : told ⟨e, w, w'⟩ deviceId = some accounts) :
  ∃ m valid channelUri oldNodes pushAccounts, e = .received (.setPushAccounts m) valid
    ∧ m.deviceId = deviceId
    ∧ PushServer.Registered platform config oracle m.deviceId (toString m.version)
      m.accounts w w' channelUri oldNodes pushAccounts
    ∧ accounts = PushServer.answer platform w.connected oldNodes pushAccounts
  := by
  cases h with
  | @registered m valid w' channelUri oldNodes pushAccounts h =>
      have hd : m.deviceId = deviceId := by
        unfold UwpxPush.told at ht
        split at ht
        · next hd => simpa [Event.deviceId, Message.deviceId] using hd
        · cases ht
      subst hd
      rw [told_registered h] at ht
      cases ht
      exact ⟨m, valid, channelUri, oldNodes, pushAccounts, rfl, rfl, h, rfl⟩
  | refused h =>
      rw [told_refused h] at ht
      cases ht
  | channelUri uri contents clock connected created log =>
      rw [told_of_no_accounts log (by simp [Output.accounts])] at ht
      cases ht
  | other h =>
      obtain ⟨out, hlog, hout⟩ := h.outputs
      rw [told_of_no_accounts hlog fun o ho => (hout o ho).accounts.1] at ht
      cases ht
  | connection up =>
      rw [told_of_log_eq (by rfl)] at ht
      cases ht
  | advance dt =>
      rw [told_of_log_eq (by rfl)] at ht
      cases ht

/-- An event registers accounts, or it puts no string into the store and sends neither
accounts nor PubSub requests. -/
theorem Move.registered_or (h : Move platform config oracle w e w') :
  (∃ m valid channelUri oldNodes pushAccounts, e = .received (.setPushAccounts m) valid
      ∧ PushServer.Registered platform config oracle m.deviceId (toString m.version)
        m.accounts w w' channelUri oldNodes pushAccounts)
    ∨ (∀ k node d, w'.contents k = some ⟨.string node, d⟩ →
        w.contents k = some ⟨.string node, d⟩)
      ∧ ∀ o ∈ outputs ⟨e, w, w'⟩, o.accounts = none ∧ o.iq? = none
  := by
  cases h with
  | @registered m valid w' channelUri oldNodes pushAccounts h =>
      exact .inl ⟨m, valid, channelUri, oldNodes, pushAccounts, rfl, h⟩
  | refused h =>
      apply Or.inr
      constructor
      · rw [World.contents, h.redis]
        intro k node d hk
        apply hk
      · rcases h.log with hlog | ⟨error, hlog⟩
        · rw [outputs_eq_nil hlog]
          simp
        · rw [outputs_eq hlog]
          simp [Output.accounts, Output.iq?]
  | channelUri uri contents clock connected created log =>
      apply Or.inr
      constructor
      · intro k node d hk
        rw [contents, Contents.setChannelUri, Contents.putList] at hk
        split at hk
        · cases hk
        · apply hk
      · rw [outputs_eq log]
        simp [Output.accounts, Output.iq?]
  | other h =>
      apply Or.inr
      obtain ⟨out, hlog, hout⟩ := h.outputs
      constructor
      · intro k node d hk
        by_cases hwns : k = RedisClient.WNS_TOKEN_KEY
        · rw [hwns] at hk ⊢
          rcases h.entry with heq | htoken
          · rw [World.contents, heq] at hk
            apply hk
          · obtain ⟨token, type, seconds, hlist⟩ := htoken _ hk
            cases hlist
        · rw [World.contents, h.lookup k hwns] at hk
          apply hk
      · rw [outputs_eq hlog]
        intro o ho
        apply (hout o ho).accounts
  | connection up =>
      apply Or.inr
      constructor
      · intro k node d hk
        apply hk
      · rw [outputs_eq_nil (by rfl)]
        simp
  | advance dt =>
      apply Or.inr
      constructor
      · intro k node d hk
        apply Store.lookup_of_advance hk
      · rw [outputs_eq_nil (by rfl)]
        simp

/-! ### Strings are nodes -/

theorem Contents.Typed.putList {c : Contents} (h : c.Typed) (deadline : Int) (k : String)
    (l : List String) :
  (c.putList deadline k l).Typed
  := by
  intro k' node d hk
  unfold Contents.putList at hk
  split at hk
  · cases hk
  · apply h _ _ _ hk

theorem Contents.Typed.setPushAccounts {c : Contents} (h : c.Typed) {deadline : Int}
    {deviceId channelUri version : String} {accounts : List PushAccount}
    (hn : ∀ a ∈ accounts, a.node.length = 15) :
  (c.setPushAccounts platform deadline deviceId channelUri version accounts).Typed
  := by
  apply Typed.putList
  induction accounts using List.reverseRecOn with
  | nil => apply h.remove
  | append_singleton accounts account ih =>
      rw [List.foldl_append, List.foldl_cons, List.foldl_nil]
      apply Typed.addAccount
      · apply ih
        intro a ha
        apply hn a
        simp [ha]
      · apply hn account
        simp

/-- The contents after time has passed are some of those before. -/
theorem contents_advance {dt : Nat} {k : String} {entry : Entry String}
    (h : ({ w with redis := w.redis.advance dt } : World).contents k = some entry) :
  w.contents k = some entry
  := Store.lookup_of_advance h

theorem Move.typed (h : Move platform config oracle w e w') (hw : w.contents.Typed) :
  w'.contents.Typed
  := by
  cases h with
  | registered h =>
      rw [h.contents]
      apply hw.setPushAccounts
      intro a ha
      rw [h.resolved] at ha
      apply PushServer.length_node_resolveAll hw ha
  | refused h =>
      rw [World.contents, h.redis]
      apply hw
  | channelUri uri contents clock connected created log =>
      rw [contents]
      apply hw.putList
  | other h =>
      intro k node d hk
      by_cases hwns : k = RedisClient.WNS_TOKEN_KEY
      · rw [hwns] at hk ⊢
        rcases h.entry with heq | htoken
        · rw [World.contents, heq] at hk
          apply hw _ _ _ hk
        · obtain ⟨token, type, seconds, hlist⟩ := htoken _ hk
          cases hlist
      · rw [World.contents, h.lookup k hwns] at hk
        apply hw _ _ _ hk
  | connection up => apply hw
  | advance dt =>
      intro k node d hk
      apply hw _ _ _ (contents_advance hk)

namespace Reached

/-- In every world of a run, strings are nodes under account keys. -/
theorem typed (h : Reached platform config oracle past w) :
  w.contents.Typed
  := by
  apply Run.invariant (I := fun _ w => w.contents.Typed) _ _ h
  · intro w hw k node d hk
    simp [World.contents, Store.lookup, hw.redis] at hk
  · intro past w e _ ih
    apply (handle_move platform config oracle w ih e).typed ih

/-- What holds at the start, and after every move when it holds before it, holds in every
world of a run. -/
theorem invariant {I : History → World → Prop} (start : ∀ w, w.Initial → I [] w)
    (move : ∀ past w e w', Reached platform config oracle past w →
      Reached platform config oracle (⟨e, w, w'⟩ :: past) w' →
      Move platform config oracle w e w' → I past w → I (⟨e, w, w'⟩ :: past) w')
    (h : Reached platform config oracle past w) :
  I past w
  := by
  apply Run.invariant start _ h
  intro past w e hreached ih
  apply move _ _ _ _ hreached (Run.next hreached e) _ ih
  apply handle_move
  apply typed hreached

/-- The transitions of a run are moves. -/
theorem move_of_mem (h : Reached platform config oracle past w) (ht : t ∈ past) :
  ∃ newer older, past = newer ++ t :: older
    ∧ Reached platform config oracle older t.before
    ∧ Reached platform config oracle (t :: older) t.after
    ∧ Move platform config oracle t.before t.event t.after
  := by
  obtain ⟨newer, older, rfl⟩ := List.append_of_mem ht
  obtain ⟨hbefore, hafter⟩ := Run.split h
  obtain ⟨e, before, after⟩ := t
  simp only at hbefore hafter
  subst hafter
  use newer, older, rfl, hbefore, Run.next hbefore e
  apply handle_move
  apply typed hbefore

/-- The number of pairs drawn grows along a run. -/
theorem created_le (h : Reached platform config oracle past w) (ht : t ∈ past) :
  t.after.created ≤ w.created
  := by
  induction h with
  | start h => cases ht
  | @next past w h e ih =>
      have hmove := handle_move platform config oracle w (typed h) e
      rcases List.mem_cons.mp ht with rfl | ht
      · rfl
      · apply (ih ht).trans hmove.created.1

theorem drawn_lt (h : Reached platform config oracle past w) {i : Nat}
    {deviceId accountId : String} (hd : Drawn past i deviceId accountId) :
  i < w.created
  := by
  obtain ⟨t, ht, -, -, hi, -⟩ := hd
  exact lt_of_lt_of_le hi (h.created_le ht)

/-- A pair is drawn for one account of one device. -/
theorem drawn_unique (h : Reached platform config oracle past w) {i : Nat}
    {deviceId accountId deviceId' accountId' : String} (hd : Drawn past i deviceId accountId)
    (hd' : Drawn past i deviceId' accountId') :
  deviceId = deviceId' ∧ accountId = accountId'
  := by
  induction h with
  | start h =>
      obtain ⟨t, ht, -⟩ := hd
      cases ht
  | @next past w h e ih =>
      obtain ⟨t, ht, htd, hti, hit, hta⟩ := hd
      obtain ⟨u, hu, hud, hui, hiu, hua⟩ := hd'
      rcases List.mem_cons.mp ht with rfl | ht
      · rcases List.mem_cons.mp hu with rfl | hu
        · rw [htd] at hud
          rw [hta] at hua
          exact ⟨Option.some.inj hud, Option.some.inj hua⟩
        · have := created_le h hu
          simp only at hti
          omega
      · rcases List.mem_cons.mp hu with rfl | hu
        · have := created_le h ht
          simp only at hui
          omega
        · exact ih ⟨t, ht, htd, hti, hit, hta⟩ ⟨u, hu, hud, hui, hiu, hua⟩

/-- What is new whenever it is drawn is different for different draws. -/
theorem injective_of_new {f : Nat → String} (h : Reached platform config oracle past w)
    (hnew : Admitted (fun _ t => ∀ i < t.after.created, t.before.created ≤ i →
      ∀ j < i, f j ≠ f i) past)
    {i j : Nat} (hi : i < w.created) (hj : j < w.created) (hij : f i = f j) :
  i = j
  := by
  induction h with
  | start h =>
      rw [h.created] at hi
      omega
  | @next past w h e ih =>
      by_cases hiw : i < w.created
      · by_cases hjw : j < w.created
        · apply ih hnew.2 hiw hjw
        · exact (hnew.1 j hj (by simpa using hjw) i (by omega) hij).elim
      · by_cases hjw : j < w.created
        · exact (hnew.1 i hi (by simpa using hiw) j (by omega) hij.symm).elim
        · rcases lt_trichotomy i j with hlt | heq | hgt
          · exact (hnew.1 j hj (by simpa using hjw) i hlt hij).elim
          · apply heq
          · exact (hnew.1 i hi (by simpa using hiw) j hgt hij.symm).elim

/-- Names that are new when they are drawn are different. -/
theorem node_injective (h : Reached platform config oracle past w)
    (hfresh : Admitted (Fresh oracle) past) {i j : Nat} (hi : i < w.created)
    (hj : j < w.created) (hij : oracle.node i = oracle.node j) :
  i = j
  := by
  apply h.injective_of_new (hfresh.mono _) hi hj hij
  intro past t ht k hk hk'
  apply (ht k hk hk').1

theorem secret_injective (h : Reached platform config oracle past w)
    (hfresh : Admitted (FreshSecrets oracle) past) {i j : Nat} (hi : i < w.created)
    (hj : j < w.created) (hij : oracle.secret i = oracle.secret j) :
  i = j
  := h.injective_of_new hfresh hi hj hij

end Reached

end

/-! ### A platform and an oracle -/

namespace Sample

/-- The SHA-256 of some strings. -/
def sha256 (s : String) : Fin 32 → UInt8 :=
  let digest : List UInt8 :=
    if s = "phone_alice" then
      [208, 131, 96, 36, 223, 123, 80, 30, 29, 106, 247, 38, 124, 195, 135, 14, 120, 95, 41, 31,
       95, 154, 222, 81, 168, 175, 77, 181, 239, 16, 186, 40]
    else if s = "phone_bob" then
      [97, 170, 194, 118, 107, 16, 108, 174, 194, 127, 5, 31, 39, 232, 106, 31, 38, 164, 254,
       212, 238, 46, 84, 43, 59, 194, 86, 253, 114, 131, 162, 234]
    else if s = "x_y_z" then
      [215, 189, 183, 151, 198, 185, 41, 119, 227, 6, 205, 22, 233, 203, 185, 35, 32, 117, 212,
       80, 119, 113, 149, 122, 234, 39, 15, 182, 144, 31, 222, 53]
    else if s = "phone_http://evil.example/" then
      [243, 151, 133, 206, 108, 218, 51, 55, 208, 116, 190, 179, 27, 230, 191, 82, 115, 223,
       163, 9, 71, 138, 201, 41, 128, 81, 165, 56, 209, 100, 224, 204]
    else []
  fun i => digest.getD i 0

/-- The text of an object whose fields are numbers and strings without special characters. -/
def dump : Json → String
  | .object fields =>
      let texts := fields.map fun f =>
        match f.2 with
        | .integer i => "\"" ++ f.1 ++ "\":" ++ toString i
        | .string s => "\"" ++ f.1 ++ "\":\"" ++ s ++ "\""
        | _ => ""
      "\x7b" ++ ",".intercalate texts ++ "\x7d"
  | _ => ""

/-- A token, and the text of a response of the token server. -/
def token : Json :=
  .object [("access_token", .string "key"), ("expires_in", .integer 86400),
    ("token_type", .string "bearer")]

def platform : Platform where
  sha256 := sha256
  parse s := if s = dump token then some token else none
  outOfRange _ := none
  dump := dump
  toText _ := none
  order l := l
  order_perm l := .refl l
  debug := true

def config : Configuration where
  wns := ⟨"packet", "secret"⟩
  xmpp := ⟨"push@example.org"⟩

/-- The `i`-th draws repeat the `i`-th character of the alphabet. -/
def oracle : Oracle where
  draws i :=
    ⟨fun _ => ⟨i % 62, Nat.mod_lt _ (by decide)⟩, fun _ => ⟨i % 61, Nat.mod_lt _ (by decide)⟩⟩
  http _ := ⟨true, 200, dump token⟩

/-- The world at the first start, with the connection up. -/
def world : World where
  redis := .empty (1600000000 * second)
  connected := true
  token := none
  created := 0
  requests := 0
  log := []

theorem initial_world :
  world.Initial
  := ⟨fun _ => rfl, rfl, rfl, rfl, rfl⟩

/-- The run by the events of a list. -/
def run (events : List Event) : History × World :=
  Run.trace (fun e w => w.handle platform config oracle e) [] world events

theorem reached_run (events : List Event) :
  Reached platform config oracle (run events).1 (run events).2
  := Run.of_trace (.start initial_world) events

/-- The transition by one more event. -/
def next (events : List Event) (e : Event) : Transition Event World :=
  ⟨e, (run events).2, (run events).2.handle platform config oracle e⟩

def channelUri : String := "https://db5.notify.windows.com/?token=a"

/-- A request for the channel URI of a device. -/
def setChannelUri (deviceId : String)
    (valid : (Message.setChannelUri (.ofFields channelUri deviceId)).Valid) : Event :=
  .received _ valid

/-- A request for the accounts of a device. -/
def setPushAccounts (deviceId : String) (accounts : List String)
    (valid : (Message.setPushAccounts (.ofFields accounts deviceId)).Valid) : Event :=
  .received _ valid

theorem phone_channelUri :
  (Message.setChannelUri (.ofFields channelUri "phone")).Valid
  := by decide

theorem phone_alice :
  (Message.setPushAccounts (.ofFields ["alice"] "phone")).Valid
  := by decide

theorem x_channelUri :
  (Message.setChannelUri (.ofFields channelUri "x")).Valid
  := by decide

theorem x_y_z :
  (Message.setPushAccounts (.ofFields ["y_z"] "x")).Valid
  := by decide

/-- A device with a channel URI registers an account. -/
def registration : List Event :=
  [setChannelUri "phone" phone_channelUri, setPushAccounts "phone" ["alice"] phone_alice]

/-- Two devices register an account each. -/
def twoRegistrations : List Event :=
  registration ++ [setChannelUri "x" x_channelUri, setPushAccounts "x" ["y_z"] x_y_z]

end Sample

end UwpxPush
