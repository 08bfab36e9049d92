import UwpxPush.Server.Ownership

/-!
# The channel URIs that are notified

The first entry of the list under a device id is a valid channel URI, but the lists under
`WNS` and under the names of nodes begin with a token and with account ids.  The channel URI
that is notified is read from the list under the device id that a request for a test push
names, or to which the node of an event leads, whatever that key is.
-/

namespace UwpxPush

open KeyValue

/-- The notification of the channel URI, as it is logged and as it is posted. -/
def Output.Notifies (o : Output) (channelUri : String) : Prop :=
  ∃ content, o = .sending channelUri content
    ∨ ∃ token, o = .post (WnsClient.notification token channelUri content)

/-- Every channel URI that is notified is a valid one. -/
def NotifiesValid (past : History) : Prop :=
  ∀ t ∈ past, ∀ o ∈ outputs t, ∀ channelUri, o.Notifies channelUri →
    PushServer.isValidChannelUri channelUri = true

/-- The device id of a list of three under a node. -/
def Contents.deviceOf (c : Contents) (node : String) : Option String :=
  match c.elements node with
  | [_, deviceId, _] => some deviceId
  | _ => none

/-- The device id under which the event reads a channel URI in order to notify it. -/
def Contents.asked (c : Contents) : Event → Option String
  | .received (.requestTestPush m) _ => some m.deviceId
  | .stanza s => (XmppClient.eventNode s).bind c.deviceOf
  | _ => none

/-- The key is neither that of the WNS token nor a name that was drawn for a node. -/
def DeviceKey (oracle : Oracle) (w : World) (k : String) : Prop :=
  k ≠ RedisClient.WNS_TOKEN_KEY ∧ ∀ i < w.created, k ≠ oracle.node i

/-- The device id under which a channel URI is read is neither `WNS` nor the name of a node. -/
def AsksDevice (oracle : Oracle) (_ : History) (t : Transition Event World) : Prop :=
  ∀ deviceId ∈ t.before.contents.asked t.event, DeviceKey oracle t.before deviceId

instance (oracle : Oracle) (w : World) (k : String) : Decidable (DeviceKey oracle w k) :=
  inferInstanceAs (Decidable (_ ∧ _))

instance (oracle : Oracle) (past : History) (t : Transition Event World) :
    Decidable (AsksDevice oracle past t) :=
  decidable_of_iff (∀ d ∈ (t.before.contents.asked t.event).toList, DeviceKey oracle t.before d)
    (by simp only [AsksDevice, Option.mem_toList, Option.mem_def])

/-- The strings of the store are names that were drawn, and the lists under the keys of
devices begin with valid channel URIs. -/
structure HeadsValid (oracle : Oracle) (w : World) : Prop where
  drawn : ∀ k node d, w.contents k = some ⟨.string node, d⟩ →
    ∃ i < w.created, node = oracle.node i
  head : ∀ k l d, w.contents k = some ⟨.list l, d⟩ → DeviceKey oracle w k →
    ∃ channelUri, l.head? = some channelUri
      ∧ PushServer.isValidChannelUri channelUri = true

section

variable {platform : Platform} {config : Configuration} {oracle : Oracle} {past : History}
  {w w' : World} {e : Event}

theorem Contents.deviceOf_eq_some {c : Contents} {node deviceId : String} :
  c.deviceOf node = some deviceId
    ↔ ∃ accountId secret, c.elements node = [accountId, deviceId, secret]
  := by
  unfold deviceOf
  split
  · next a d s h => simp [h]
  · next h =>
      constructor
      · rintro ⟨⟩
      · rintro ⟨a, s, hlist⟩
        exact (h a deviceId s hlist).elim

/-- A channel URI that an event may notify is read under the device id it asks for. -/
theorem Contents.Notifies.asked {c : Contents} {channelUri : String}
    (h : c.Notifies channelUri e) :
  ∃ deviceId, c.asked e = some deviceId ∧ (c.elements deviceId).head? = some channelUri
  := by
  cases e with
  | received m valid =>
      cases m with
      | requestTestPush m => exact ⟨m.deviceId, rfl, h⟩
      | _ => exact h.elim
  | stanza s =>
      obtain ⟨node, hnode, accountId, deviceId, secret, hlist, hhead⟩ := h
      use deviceId
      constructor
      · rw [Contents.asked, hnode]
        exact deviceOf_eq_some.mpr ⟨accountId, secret, hlist⟩
      · apply hhead
  | _ => exact h.elim

/-- A list with a first entry is there. -/
theorem Contents.exists_of_head {c : Contents} {k a : String}
    (h : (c.elements k).head? = some a) :
  ∃ l d, c k = some ⟨.list l, d⟩ ∧ l.head? = some a
  := by
  unfold elements at h
  split at h
  · next l d hl => exact ⟨l, d, hl, h⟩
  · cases h

theorem DeviceKey.of_le {k : String} (h : DeviceKey oracle w' k)
    (hle : w.created ≤ w'.created) :
  DeviceKey oracle w k
  := ⟨h.1, fun i hi => h.2 i (lt_of_lt_of_le hi hle)⟩

/-! ### The invariant -/

theorem HeadsValid.initial (h : w.Initial) :
  HeadsValid oracle w
  := by
  have hnone : ∀ k, w.contents k = none := by
    intro k
    simp [World.contents, Store.lookup, h.redis]
  constructor
  · intro k node d hk
    rw [hnone] at hk
    cases hk
  · intro k l d hk
    rw [hnone] at hk
    cases hk

/-- What keeps the invariant: strings stay, and lists under the keys of devices stay or begin
with valid channel URIs. -/
theorem HeadsValid.of_entries (h : HeadsValid oracle w) (hle : w.created ≤ w'.created)
    (hstring : ∀ k node d, w'.contents k = some ⟨.string node, d⟩ →
      w.contents k = some ⟨.string node, d⟩ ∨ ∃ i < w'.created, node = oracle.node i)
    (hlist : ∀ k l d, w'.contents k = some ⟨.list l, d⟩ → DeviceKey oracle w' k →
      w.contents k = some ⟨.list l, d⟩
        ∨ ∃ channelUri, l.head? = some channelUri
          ∧ PushServer.isValidChannelUri channelUri = true) :
  HeadsValid oracle w'
  := by
  constructor
  · intro k node d hk
    rcases hstring k node d hk with hold | hdrawn
    · obtain ⟨i, hi, hnode⟩ := h.drawn k node d hold
      exact ⟨i, lt_of_lt_of_le hi hle, hnode⟩
    · apply hdrawn
  · intro k l d hk hkey
    rcases hlist k l d hk hkey with hold | hvalid
    · exact h.head k l d hold (hkey.of_le hle)
    · apply hvalid

/-- The nodes of the accounts of a registration were drawn. -/
theorem PushServer.Registered.node_drawn {deviceId version channelUri : String}
    {accounts oldNodes : List String} {pushAccounts : List PushAccount}
    (h : Registered platform config oracle deviceId version accounts w w' channelUri oldNodes
      pushAccounts) (hheads : HeadsValid oracle w) {a : PushAccount} (ha : a ∈ pushAccounts) :
  ∃ i < w'.created, a.node = oracle.node i
  := by
  rw [h.resolved, mem_resolveAll] at ha
  obtain ⟨j, accountId, hj, rfl⟩ := ha
  have hlt : j < accounts.length := (List.getElem?_eq_some_iff.mp hj).1
  rw [h.created]
  unfold resolve
  split
  · exact ⟨w.created + j, by omega, rfl⟩
  · next node secret hr =>
      obtain ⟨hnode, -⟩ := Contents.reusable_eq_some.mp hr
      obtain ⟨d, hd⟩ := Contents.nodeUnder_eq_some.mp hnode
      obtain ⟨i, hi, heq⟩ := hheads.drawn _ _ _ hd
      exact ⟨i, by omega, heq⟩

/-- A registration copies the channel URI of the device. -/
theorem HeadsValid.registered {deviceId version channelUri : String}
    {accounts oldNodes : List String} {pushAccounts : List PushAccount}
    (h : HeadsValid oracle w) (hw : w.contents.Typed)
    (hr : PushServer.Registered platform config oracle deviceId version accounts w w' channelUri
      oldNodes pushAccounts) :
  HeadsValid oracle w'
  := by
  have hle : w.created ≤ w'.created := by
    rw [hr.created]
    omega
  apply h.of_entries hle
  · intro k node d hk
    rcases hr.contents_cases hw k with rfl | ⟨-, a, ha, -, hs⟩ | ⟨-, -, hs⟩ | ⟨-, -, -, hs⟩
    · rw [hr.contents_device] at hk
      cases hk
    · rw [hs] at hk
      cases hk
      exact .inr (hr.node_drawn h ha)
    · rw [hs] at hk
      cases hk
    · rw [hs] at hk
      split at hk
      · cases hk
      · exact .inl hk
  · intro k l d hk hkey
    rcases hr.contents_cases hw k with rfl | ⟨-, a, -, -, hs⟩ | ⟨-, ⟨a, ha, hnode⟩, -⟩
      | ⟨-, -, -, hs⟩
    · rw [hr.contents_device] at hk
      cases hk
      obtain ⟨l, d, hl, hhead⟩ := Contents.exists_of_head hr.head
      obtain ⟨uri, huri, hvalid⟩ := h.head k l d hl (hkey.of_le hle)
      cases huri.symm.trans hhead
      exact .inr ⟨channelUri, rfl, hvalid⟩
    · rw [hs] at hk
      cases hk
    · obtain ⟨i, hi, heq⟩ := hr.node_drawn h ha
      exact (hkey.2 i hi (hnode.symm.trans heq)).elim
    · rw [hs] at hk
      split at hk
      · cases hk
      · exact .inl hk

/-- Every move keeps the first entries of the lists of devices valid. -/
theorem HeadsValid.move (h : HeadsValid oracle w) (hw : w.contents.Typed)
    (hmove : Move platform config oracle w e w') :
  HeadsValid oracle w'
  := by
  have hle := hmove.created.1
  cases hmove with
  | registered hr => exact h.registered hw hr
  | refused hr =>
      have hsame : w'.contents = w.contents := by rw [World.contents, hr.redis, World.contents]
      apply h.of_entries hle
      · intro k node d hk
        exact .inl (hsame ▸ hk)
      · intro k l d hk _
        exact .inl (hsame ▸ hk)
  | channelUri uri contents clock connected created log =>
      rw [Contents.setChannelUri] at contents
      apply h.of_entries hle
      · intro k node d hk
        rw [contents, Contents.putList] at hk
        split at hk
        · cases hk
        · exact .inl hk
      · intro k l d hk _
        rw [contents, Contents.putList] at hk
        split at hk
        · cases hk
          exact .inr ⟨_, rfl, uri⟩
        · exact .inl hk
  | other heffect =>
      have hsame : ∀ k, k ≠ RedisClient.WNS_TOKEN_KEY → w'.contents k = w.contents k :=
        heffect.lookup
      apply h.of_entries hle
      · intro k node d hk
        rcases heffect.entry with heq | htoken
        · have hk' : w'.contents k = w.contents k := by
            by_cases hwns : k = RedisClient.WNS_TOKEN_KEY
            · rw [hwns]
              apply heq
            · apply hsame k hwns
          exact .inl (hk' ▸ hk)
        · by_cases hwns : k = RedisClient.WNS_TOKEN_KEY
          · obtain ⟨token, type, seconds, hlist⟩ := htoken _ (hwns ▸ hk)
            cases hlist
          · exact .inl (hsame k hwns ▸ hk)
      · intro k l d hk hkey
        exact .inl (hsame k hkey.1 ▸ hk)
  | connection up => exact ⟨h.drawn, h.head⟩
  | advance dt =>
      apply h.of_entries hle
      · intro k node d hk
        exact .inl (contents_advance hk)
      · intro k l d hk _
        exact .inl (contents_advance hk)

theorem Reached.headsValid (h : Reached platform config oracle past w) :
  HeadsValid oracle w
  := by
  apply h.invariant (I := fun _ w => HeadsValid oracle w)
  · intro w hw
    apply HeadsValid.initial hw
  · intro past w e w' hreached _ hmove ih
    exact ih.move hreached.typed hmove

/-! ### Notifications -/

/-- A registration notifies nobody. -/
theorem PushServer.not_notifies_registration {connected : Bool} {oldNodes : List String}
    {accounts : List PushAccount} {o : Output}
    (ho : o ∈ registrationOutputs platform config connected oldNodes accounts)
    (channelUri : String) :
  ¬o.Notifies channelUri
  := by
  have hsent : ∀ (requests : String → List Output) nodes,
      (∀ node, ∀ o ∈ requests node, ∃ q, o = .iq q) → o ∈ sent connected requests nodes →
      ∃ q, o = .iq q := by
    intro requests nodes hrequests ho
    unfold sent at ho
    split at ho
    · obtain ⟨node, -, ho⟩ := List.mem_flatMap.mp ho
      apply hrequests node o ho
    · cases ho
  simp only [registrationOutputs, List.mem_append, List.mem_singleton] at ho
  rintro ⟨content, rfl | ⟨token, rfl⟩⟩
  · rcases ho with ho | ho | ho
    · obtain ⟨q, hq⟩ := hsent deleteOutputs _ (by simp [deleteOutputs]) ho
      cases hq
    · obtain ⟨q, hq⟩ := hsent setupOutputs _ (by simp [setupOutputs]) ho
      cases hq
    · cases ho
  · rcases ho with ho | ho | ho
    · obtain ⟨q, hq⟩ := hsent deleteOutputs _ (by simp [deleteOutputs]) ho
      cases hq
    · obtain ⟨q, hq⟩ := hsent setupOutputs _ (by simp [setupOutputs]) ho
      cases hq
    · cases ho

/-- The request for a token is no notification. -/
theorem MaySend.notifies {c : Contents} {o : Output} (h : MaySend config c e o)
    {channelUri : String} (hn : o.Notifies channelUri) :
  c.Notifies channelUri e
  := by
  obtain ⟨content, hn⟩ := hn
  rcases h with ⟨m, rfl, -⟩ | rfl | ⟨uri, content', h, rfl | ⟨token, rfl⟩⟩
  · rcases hn with hn | ⟨token, hn⟩
    · cases hn
    · cases hn
  · rcases hn with hn | ⟨token, hn⟩
    · cases hn
    · have hpayload := congrArg HttpRequest.payload (Output.post.inj hn)
      cases hpayload
  · rcases hn with hn | ⟨token, hn⟩
    · cases hn
      apply h
    · cases hn
  · rcases hn with hn | ⟨token', hn⟩
    · cases hn
    · have hurl := congrArg HttpRequest.url (Output.post.inj hn)
      have heq : uri = channelUri := hurl
      rw [← heq]
      apply h

/-- Only test pushes and stanzas are turned into notifications. -/
theorem Move.notifies (h : Move platform config oracle w e w') {o : Output}
    (ho : o ∈ outputs ⟨e, w, w'⟩) {channelUri : String} (hn : o.Notifies channelUri) :
  w.contents.Notifies channelUri e
  := by
  cases h with
  | registered hr =>
      rw [outputs_eq hr.log] at ho
      exact (PushServer.not_notifies_registration ho channelUri hn).elim
  | refused hr =>
      rcases hr.log with hlog | ⟨error, hlog⟩
      · rw [outputs_eq_nil hlog] at ho
        cases ho
      · rw [outputs_eq hlog, List.mem_singleton] at ho
        subst ho
        obtain ⟨content, hn | ⟨token, hn⟩⟩ := hn
        · cases hn
        · cases hn
  | channelUri uri contents clock connected created log =>
      rw [outputs_eq log, List.mem_singleton] at ho
      subst ho
      obtain ⟨content, hn | ⟨token, hn⟩⟩ := hn
      · cases hn
      · cases hn
  | other heffect =>
      obtain ⟨out, hlog, hout⟩ := heffect.outputs
      rw [outputs_eq hlog] at ho
      exact (hout o ho).notifies hn
  | connection up =>
      rw [outputs_eq_nil (by rfl)] at ho
      cases ho
  | advance dt =>
      rw [outputs_eq_nil (by rfl)] at ho
      cases ho

end

/-- In a run in which channel URIs are read under device ids that are neither `WNS` nor the
names of nodes, every channel URI that is notified is a valid one. -/
theorem notifiesValid_of_asksDevice {platform : Platform} {config : Configuration}
    {oracle : Oracle} {past : History} {w : World} (h : Reached platform config oracle past w)
    (hasks : Admitted (AsksDevice oracle) past) :
  NotifiesValid past
  := by
  intro t ht o ho channelUri hn
  obtain ⟨newer, older, rfl, hbefore, -, hmove⟩ := h.move_of_mem ht
  obtain ⟨deviceId, hasked, hhead⟩ := (hmove.notifies ho hn).asked
  obtain ⟨l, d, hl, hfirst⟩ := Contents.exists_of_head hhead
  have hkey : DeviceKey oracle t.before deviceId := hasks.of_append.1 deviceId hasked
  obtain ⟨uri, huri, hvalid⟩ := hbefore.headsValid.head _ _ _ hl hkey
  cases huri.symm.trans hfirst
  apply hvalid

/-- A request for a test push of a device. -/
def Sample.requestTestPush (deviceId : String)
    (valid : (Message.requestTestPush (.ofFields deviceId)).Valid) : Event :=
  .received _ valid

/-- A device that has registered an account asks for a test push. -/
def Sample.tested : List Event :=
  registration ++ [requestTestPush "phone" (by decide)]

/-- A device with an account whose id is no channel URI of Windows, and a request for a test
push in the name of the node of this account. -/
def Sample.misdirected : List Event :=
  [setChannelUri "phone" phone_channelUri,
    setPushAccounts "phone" ["http://evil.example/"] (by decide),
    requestTestPush (oracle.node 0) (by decide)]

/-- A run with a test push. -/
theorem notifiesValid_tested :
  NotifiesValid (Sample.run Sample.tested).1
  := notifiesValid_of_asksDevice (Sample.reached_run Sample.tested) (by decide +kernel)

/-- The id of the account is notified, and the WNS token is sent to it. -/
theorem not_notifiesValid_misdirected :
  Reached Sample.platform Sample.config Sample.oracle (Sample.run Sample.misdirected).1
      (Sample.run Sample.misdirected).2
    ∧ Admitted (Fresh Sample.oracle) (Sample.run Sample.misdirected).1
    ∧ ¬NotifiesValid (Sample.run Sample.misdirected).1
  := by
  let token : WnsToken := ⟨"bearer", "key", (1600000000 + 86400) * second⟩
  obtain ⟨hfresh, t, ht, ho⟩ : Admitted (Fresh Sample.oracle) (Sample.run Sample.misdirected).1
      ∧ ∃ t ∈ (Sample.run Sample.misdirected).1,
        .post (WnsClient.notification token "http://evil.example/" "<test/>") ∈ outputs t := by
    decide +kernel
  refine ⟨Sample.reached_run Sample.misdirected, hfresh, ?_⟩
  intro h
  have hvalid := h t ht _ ho "http://evil.example/" ⟨_, .inr ⟨_, rfl⟩⟩
  revert hvalid
  decide +kernel

end UwpxPush
