import UwpxPush.Server.Runs

/-!
# Stanzas that are handled

The message handler returns for a stanza exactly when the stanza is harmless: whatever the
handler compares is there, and the counts it reads are numbers of C++.
-/

namespace UwpxPush

/-- A child of a form whose count can be read: it has a name, and a count in it is an `int` or
no number at all. -/
def FieldReadable (field : Stanza) : Prop :=
  field.getName ≠ none
    ∧ (field.getName = some "field" →
      field.getAttribute "var" = some "message-count"
        ∨ field.getAttribute "var" = some "pending-subscription-count" →
      ∀ text i, (field.getChildByName "value").bind Stanza.getText = some text →
        scanInteger text = some i → -2 ^ 31 ≤ i ∧ i < 2 ^ 31)

/-- A notification whose counts can be read. -/
def CountsReadable (notification : Stanza) : Prop :=
  ∀ x, notification.getChildByName "x" = some x → ∀ field ∈ x.getChildren, FieldReadable field

/-- The list of the node has three entries, of which the second is a device with version 2. -/
def Contents.SpeaksV2 (c : Contents) (node : String) : Prop :=
  ∃ accountId deviceId secret, c.elements node = [accountId, deviceId, secret]
    ∧ (c.elements deviceId)[1]? = some "2"

theorem Contents.speaksV2_iff {c : Contents} {node accountId deviceId secret : String}
    (hlist : c.elements node = [accountId, deviceId, secret]) :
  c.SpeaksV2 node ↔ (c.elements deviceId)[1]? = some "2"
  := by
  constructor
  · rintro ⟨_, _, _, hlist', hversion⟩
    rw [hlist] at hlist'
    cases hlist'
    apply hversion
  · intro hversion
    exact ⟨accountId, deviceId, secret, hlist, hversion⟩

/-- The notification of the items, if there is one, has a namespace, and if it is a push
notification, then the items have a node and the counts can be read where they are needed. -/
def ItemsHarmless (c : Contents) (items : Stanza) : Prop :=
  ∀ notification,
    (items.getChildByName "item").bind (Stanza.getChildByName "notification")
      = some notification →
    notification.getNs ≠ none
      ∧ (notification.getNs = some "urn:xmpp:push:0" →
        ∃ node, items.getAttribute "node" = some node
          ∧ (c.SpeaksV2 node → CountsReadable notification))

/-- The event of the stanza, if there is one, has a namespace, and the items of a PubSub event
are harmless. -/
def EventHarmless (c : Contents) (stanza : Stanza) : Prop :=
  ∀ event, stanza.getChildByName "event" = some event →
    event.getNs ≠ none
      ∧ (event.getNs = some "http://jabber.org/protocol/pubsub#event" →
        ∀ items, event.getChildByName "items" = some items → ItemsHarmless c items)

/-- The stanza has a sender, and if that is the server itself, then its event is harmless. -/
def Harmless (config : Configuration) (c : Contents) (stanza : Stanza) : Prop :=
  stanza.getAttribute "from" ≠ none
    ∧ (stanza.getAttribute "from" = some (cStr config.xmpp.bareJid) → EventHarmless c stanza)

/-- The items of a PubSub event decide whether it is harmless. -/
theorem eventHarmless_iff {c : Contents} {stanza event : Stanza}
    (he : stanza.getChildByName "event" = some event)
    (hns : event.getNs = some "http://jabber.org/protocol/pubsub#event") :
  EventHarmless c stanza
    ↔ ∀ items, event.getChildByName "items" = some items → ItemsHarmless c items
  := by
  constructor
  · intro h
    exact (h event he).2 hns
  · intro h event' he'
    rw [he] at he'
    cases he'
    use by simp [hns]
    intro _
    apply h

/-- A stanza of the server itself is harmless where its event is. -/
theorem harmless_iff {config : Configuration} {c : Contents} {stanza : Stanza}
    (hfrom : stanza.getAttribute "from" = some (cStr config.xmpp.bareJid)) :
  Harmless config c stanza ↔ EventHarmless c stanza
  := by
  constructor
  · rintro ⟨-, h⟩
    exact h hfrom
  · intro h
    use by simp [hfrom]
    intro _
    apply h

namespace XmppClient

/-! ### Counts -/

theorem fieldCount_ok_iff (count : Int) (field : Stanza) :
  (∃ i, fieldCount count field = .ok i)
    ↔ ∀ text i, (field.getChildByName "value").bind Stanza.getText = some text →
      scanInteger text = some i → -2 ^ 31 ≤ i ∧ i < 2 ^ 31
  := by
  unfold fieldCount
  match (field.getChildByName "value").bind Stanza.getText with
  | none => simp
  | some text =>
      simp only [stoi]
      match hscan : scanInteger text with
      | none =>
          constructor
          · rintro - text' i ⟨⟩ hi
            rw [hscan] at hi
            cases hi
          · intro _
            exact ⟨count, rfl⟩
      | some i =>
          by_cases hi : -2 ^ 31 ≤ i ∧ i < 2 ^ 31
          · simp only [hi, and_self, if_true]
            constructor
            · rintro - text' i' ⟨⟩ hi'
              rw [hscan] at hi'
              cases hi'
              apply hi
            · intro _
              exact ⟨i, rfl⟩
          · simp only [hi, if_false]
            constructor
            · rintro ⟨j, hj⟩
              cases hj
            · intro h
              exact (hi (h text i rfl hscan)).elim

/-- Whether a field is read does not depend on what was read before. -/
theorem readField_ok_iff (counts : Int × Int) (field : Stanza) :
  (∃ counts', readField counts field = .ok counts') ↔ FieldReadable field
  := by
  unfold readField FieldReadable
  match field.getName with
  | none => simp
  | some name =>
      by_cases hname : name = "field"
      · match field.getAttribute "var" with
        | none => simp [hname]
        | some var =>
            by_cases hmessage : var = "message-count"
            · simp only [hname, hmessage, if_true, ne_eq, reduceCtorEq, not_false_eq_true,
                true_or, true_and, forall_const]
              rw [← fieldCount_ok_iff counts.1 field]
              match fieldCount counts.1 field with
              | .ok i => simp [Bind.bind, Except.bind, Pure.pure, Except.pure]
              | .error e => simp [Bind.bind, Except.bind]
            · by_cases hpending : var = "pending-subscription-count"
              · simp only [hname, hpending, if_true, ne_eq, reduceCtorEq, not_false_eq_true,
                  or_true, true_and, forall_const]
                rw [← fieldCount_ok_iff counts.2 field]
                match fieldCount counts.2 field with
                | .ok i => simp [Bind.bind, Except.bind, Pure.pure, Except.pure]
                | .error e => simp [Bind.bind, Except.bind]
              · simp [hname, hmessage, hpending]
      · simp [hname]

theorem foldlM_readField_ok_iff (counts : Int × Int) (fields : List Stanza) :
  (∃ counts', fields.foldlM readField counts = .ok counts')
    ↔ ∀ field ∈ fields, FieldReadable field
  := by
  induction fields generalizing counts with
  | nil => simp [Pure.pure, Except.pure]
  | cons field fields ih =>
      rw [List.foldlM_cons, List.forall_mem_cons, ← readField_ok_iff counts field]
      match readField counts field with
      | .ok counts' =>
          simp only [Bind.bind, Except.bind, ih, Except.ok.injEq, exists_eq', true_and]
      | .error e => simp [Bind.bind, Except.bind]

theorem readCounts_ok_iff (notification : Stanza) :
  (∃ counts, readCounts notification = .ok counts) ↔ CountsReadable notification
  := by
  unfold readCounts CountsReadable
  match notification.getChildByName "x" with
  | none => simp
  | some x =>
      simp only [Option.some.injEq, forall_eq']
      apply foldlM_readField_ok_iff

/-! ### Getters -/

/-- A comparison that is guarded by a getter. -/
theorem compare_cases (s : Option String) (t : String) :
  (s = none ∧ compare s t = .error .nullPointer)
    ∨ (s ≠ none ∧ s ≠ some t ∧ compare s t = .ok false)
    ∨ (s = some t ∧ compare s t = .ok true)
  := by
  cases s with
  | none => exact .inl ⟨rfl, rfl⟩
  | some s =>
      by_cases h : s = t
      · exact .inr (.inr ⟨congrArg some h, by simp [compare, h]⟩)
      · exact .inr (.inl ⟨by simp, by simpa using h, by simp [compare, h]⟩)

/-- A child whose namespace is missing, wrong or right. -/
theorem guarded_cases (child : Option Stanza) (ns : String) {g : Except Failure (Option Stanza)}
    (f : Stanza → Option Stanza)
    (hg : g = match child with
      | none => .ok none
      | some s => do
          if ← compare s.getNs ns then
            return f s
          return none) :
  (∃ s, child = some s ∧ s.getNs = none ∧ g = .error .nullPointer)
    ∨ (∀ s, child = some s → s.getNs ≠ none ∧ s.getNs ≠ some ns) ∧ g = .ok none
    ∨ ∃ s, child = some s ∧ s.getNs = some ns ∧ g = .ok (f s)
  := by
  cases child with
  | none => exact .inr (.inl ⟨by rintro s ⟨⟩, hg⟩)
  | some s =>
      change g = compare s.getNs ns >>= fun b => if b then pure (f s) else pure none at hg
      rcases compare_cases s.getNs ns with ⟨hns, hc⟩ | ⟨hnone, hns, hc⟩ | ⟨hns, hc⟩
      · rw [hc] at hg
        exact .inl ⟨s, rfl, hns, hg⟩
      · rw [hc] at hg
        apply Or.inr
        apply Or.inl
        use by
          rintro s' ⟨⟩
          exact ⟨hnone, hns⟩
        apply hg
      · rw [hc] at hg
        exact .inr (.inr ⟨s, rfl, hns, hg⟩)

theorem getNotificationNode_cases (items : Stanza) :
  (∃ s, (items.getChildByName "item").bind (Stanza.getChildByName "notification") = some s
      ∧ s.getNs = none ∧ getNotificationNode items = .error .nullPointer)
    ∨ (∀ s, (items.getChildByName "item").bind (Stanza.getChildByName "notification") = some s →
        s.getNs ≠ none ∧ s.getNs ≠ some "urn:xmpp:push:0")
      ∧ getNotificationNode items = .ok none
    ∨ ∃ s, (items.getChildByName "item").bind (Stanza.getChildByName "notification") = some s
      ∧ s.getNs = some "urn:xmpp:push:0" ∧ getNotificationNode items = .ok (some s)
  := guarded_cases _ _ some rfl

theorem getItemsNode_cases (stanza : Stanza) :
  (∃ s, stanza.getChildByName "event" = some s ∧ s.getNs = none
      ∧ getItemsNode stanza = .error .nullPointer)
    ∨ (∀ s, stanza.getChildByName "event" = some s →
        s.getNs ≠ none ∧ s.getNs ≠ some "http://jabber.org/protocol/pubsub#event")
      ∧ getItemsNode stanza = .ok none
    ∨ ∃ s, stanza.getChildByName "event" = some s
      ∧ s.getNs = some "http://jabber.org/protocol/pubsub#event"
      ∧ getItemsNode stanza = .ok (s.getChildByName "items")
  := guarded_cases _ _ (Stanza.getChildByName "items") rfl

end XmppClient

/-! ### The handlers -/

section

variable {platform : Platform} {config : Configuration} {oracle : Oracle} {w : World}

/-- No exception of Redis ends the program. -/
def RedisReturns {α : Type} (oracle : Oracle) (p : Server α) (w : World) : Prop :=
  (Server.run oracle p w).1 ≠ .error wrongType

/-- Sending a notification returns. -/
def WnsReturns (platform : Platform) (config : Configuration) (oracle : Oracle) (w : World) :
    Prop :=
  ∀ channelUri content, ∃ success, (Server.run oracle
    (WnsClient.sendRawNotification platform config channelUri content) w).1 = .ok success

/-- Where no exception of Redis ends the program, a list that it reads first is a list. -/
theorem RedisReturns.bind_lrange {α : Type} {key : String} {f : List String → Server α}
    (h : RedisReturns oracle (Redis.lrange key >>= f) w) :
  w.contents.NotString key
    ∧ Server.run oracle (Redis.lrange key >>= f) w
      = Server.run oracle (f (w.contents.elements key)) w
  := by
  have hs : w.contents.NotString key := by
    by_contra hs
    apply h
    rw [Server.run, Program.run_bind_error _ (run_lrange_of_string hs)]
  use hs
  rw [Server.run, Program.run_bind_ok _ (run_lrange_of_notString hs)]

/-- Where no exception of Redis ends the program, an entry that it reads first is read. -/
theorem RedisReturns.bind_getOfThree {α : Type} {key : String} {i : Nat}
    {f : Option String → Server α}
    (h : RedisReturns oracle (RedisClient.getOfThree key i >>= f) w) :
  w.contents.NotString key
    ∧ Server.run oracle (RedisClient.getOfThree key i >>= f) w
      = Server.run oracle (f (if (w.contents.elements key).length = 3 then
          (w.contents.elements key)[i]? else none)) w
  := by
  have hs : w.contents.NotString key := by
    unfold RedisClient.getOfThree at h
    rw [bind_assoc] at h
    apply h.bind_lrange.1
  use hs
  rw [Server.run, Program.run_bind_ok _ (run_getOfThree_of_notString hs i)]

theorem run_getDeviceId_of_notString {node accountId deviceId secret : String}
    (hnode : w.contents.NotString node)
    (hlist : w.contents.elements node = [accountId, deviceId, secret]) :
  Server.run oracle (RedisClient.getDeviceId node) w = (.ok (some deviceId), w)
  := by
  rw [RedisClient.getDeviceId, run_getOfThree_of_notString hnode, hlist]
  rfl

theorem run_getVersion_of_notString {deviceId : String} (h : w.contents.NotString deviceId) :
  Server.run oracle (RedisClient.getVersion deviceId) w
    = (.ok (w.contents.elements deviceId)[1]?, w)
  := by
  rw [RedisClient.getVersion, Server.run, Program.run_bind_ok _ (run_lrange_of_notString h)]
  split
  · next hlen =>
      rw [List.getElem?_eq_none (by omega)]
      rfl
  · rfl

theorem run_getChannelUri_of_notString {deviceId : String}
    (h : w.contents.NotString deviceId) :
  Server.run oracle (RedisClient.getChannelUri deviceId) w
    = (.ok (w.contents.elements deviceId).head?, w)
  := by
  rw [RedisClient.getChannelUri, Server.run, Program.run_bind_ok _ (run_lrange_of_notString h)]
  rfl

theorem run_versionOfNode_of_string {node accountId deviceId secret : String}
    (hnode : w.contents.NotString node)
    (hlist : w.contents.elements node = [accountId, deviceId, secret])
    (hs : ¬ w.contents.NotString deviceId) :
  Server.run oracle (XmppClient.versionOfNode node) w = (.error wrongType, w)
  := by
  rw [XmppClient.versionOfNode, Server.run,
    Program.run_bind_ok _ (run_getDeviceId_of_notString hnode hlist)]
  apply Program.run_bind_error _ (run_lrange_of_string hs)

theorem run_versionOfNode_of_notString {node accountId deviceId secret : String}
    (hnode : w.contents.NotString node)
    (hlist : w.contents.elements node = [accountId, deviceId, secret])
    (hdevice : w.contents.NotString deviceId) :
  Server.run oracle (XmppClient.versionOfNode node) w
    = (.ok (w.contents.elements deviceId)[1]?, w)
  := by
  rw [XmppClient.versionOfNode, Server.run,
    Program.run_bind_ok _ (run_getDeviceId_of_notString hnode hlist)]
  apply run_getVersion_of_notString hdevice

/-- The notification for a node whose lists can be read is sent or dropped. -/
theorem run_notify {node accountId deviceId secret : String} {f : String → Server Unit}
    (hwns : ∀ channelUri, (Server.run oracle (f channelUri) w).1 = .ok ())
    (hnode : w.contents.NotString node) (hdevice : w.contents.NotString deviceId)
    (hlist : w.contents.elements node = [accountId, deviceId, secret]) :
  (Server.run oracle (do
      match ← PushServer.channelUriOfNode node with
      | none => return
      | some channelUri => f channelUri) w).1 = .ok ()
  := by
  have huri : Server.run oracle (PushServer.channelUriOfNode node) w
      = (.ok (w.contents.elements deviceId).head?, w) := by
    rw [PushServer.channelUriOfNode, Server.run,
      Program.run_bind_ok _ (run_getDeviceId_of_notString hnode hlist)]
    apply run_getChannelUri_of_notString hdevice
  rw [Server.run, Program.run_bind_ok _ huri]
  rcases (w.contents.elements deviceId).head? with _ | channelUri
  · rfl
  · apply hwns

/-- A notification whose result is not used. -/
theorem run_sendRawNotification_unit (hwns : WnsReturns platform config oracle w)
    (channelUri content : String) :
  (Server.run oracle (do
      let _ ← WnsClient.sendRawNotification platform config channelUri content
      return) w).1 = .ok ()
  := by
  obtain ⟨success, hsend⟩ := hwns channelUri content
  match hrun : Server.run oracle
      (WnsClient.sendRawNotification platform config channelUri content) w with
  | (.ok success, w') =>
      rw [Server.run, Program.run_bind_ok _ hrun]
      rfl
  | (.error e, w') =>
      rw [hrun] at hsend
      cases hsend

/-- The handling of an event of a node returns if and only if the counts can be read, where
the node's device speaks version 2. -/
theorem handleEvent_returns_iff {node : String} {notification : Stanza}
    (hredis : RedisReturns oracle (XmppClient.handleEvent platform
      (PushServer.onV1MessageForNode platform config)
      (PushServer.onV2MessageForNode platform config) node notification) w)
    (hwns : WnsReturns platform config oracle w) :
  (Server.run oracle (XmppClient.handleEvent platform
      (PushServer.onV1MessageForNode platform config)
      (PushServer.onV2MessageForNode platform config) node notification) w).1 = .ok ()
    ↔ (w.contents.SpeaksV2 node → CountsReadable notification)
  := by
  have hv1 : ∀ {accountId deviceId secret msg}, w.contents.NotString node →
      w.contents.NotString deviceId →
      w.contents.elements node = [accountId, deviceId, secret] →
      (Server.run oracle (PushServer.onV1MessageForNode platform config node msg) w).1
        = .ok () := by
    intro accountId deviceId secret msg hnode hdevice hlist
    apply run_notify _ hnode hdevice hlist
    intro channelUri
    apply run_sendRawNotification_unit hwns
  unfold XmppClient.handleEvent RedisClient.getAccountId at hredis ⊢
  obtain ⟨hnode, hrun⟩ := hredis.bind_getOfThree
  rw [RedisReturns, hrun] at hredis
  rw [hrun]
  by_cases hlen : (w.contents.elements node).length = 3
  · obtain ⟨accountId, deviceId, secret, hlist⟩ := List.length_eq_three.mp hlen
    simp only [hlist, List.length_cons, List.length_nil, Nat.reduceAdd, if_true,
      List.getElem?_cons_zero] at hredis ⊢
    have hdevice : w.contents.NotString deviceId := by
      by_contra hs
      apply hredis
      rw [Server.run, Program.run_bind_error _ (run_versionOfNode_of_string hnode hlist hs)]
    rw [Contents.speaksV2_iff hlist, Server.run,
      Program.run_bind_ok _ (run_versionOfNode_of_notString hnode hlist hdevice)]
    by_cases hv : (w.contents.elements deviceId)[1]? = some "2"
    · rw [if_pos hv, XmppClient.sendV2Push, ← XmppClient.readCounts_ok_iff]
      rcases XmppClient.readCounts notification with e | counts
      · constructor
        · rintro ⟨⟩
        · intro h
          obtain ⟨counts, hc⟩ := h hv
          cases hc
      · have hsend : (Server.run oracle (PushServer.onV2MessageForNode platform config node
            accountId counts.1 counts.2) w).1 = .ok () := by
          apply run_notify _ hnode hdevice hlist
          intro channelUri
          apply run_sendRawNotification_unit hwns
        constructor
        · intro _ _
          exact ⟨counts, rfl⟩
        · intro _
          apply hsend
    · rw [if_neg hv]
      constructor
      · intro _ hv'
        exact (hv hv').elim
      · intro _
        unfold XmppClient.sendV1Push
        split
        · rfl
        · split
          · apply hv1 hnode hdevice hlist
          · apply hv1 hnode hdevice hlist
  · rw [if_neg hlen]
    constructor
    · rintro - ⟨_, _, _, hlist, -⟩
      rw [hlist] at hlen
      exact (hlen rfl).elim
    · intro _
      rfl

/-- The handling of the items of a PubSub event. -/
def handleItems (platform : Platform) (config : Configuration) (items : Stanza) : Server Unit := do
  match ← XmppClient.lift (XmppClient.getNotificationNode items) with
  | none => return
  | some notification =>
      match items.getAttribute "node" with
      | none => throw .nullPointer
      | some node =>
          XmppClient.handleEvent platform (PushServer.onV1MessageForNode platform config)
            (PushServer.onV2MessageForNode platform config) node notification

theorem handleItems_returns_iff {items : Stanza}
    (hredis : RedisReturns oracle (handleItems platform config items) w)
    (hwns : WnsReturns platform config oracle w) :
  (Server.run oracle (handleItems platform config items) w).1 = .ok ()
    ↔ ItemsHarmless w.contents items
  := by
  unfold handleItems at hredis ⊢
  unfold ItemsHarmless
  rcases XmppClient.getNotificationNode_cases items with
    ⟨s, hs, hns, hget⟩ | ⟨hall, hget⟩ | ⟨s, hs, hns, hget⟩
  · rw [hget]
    constructor
    · rintro ⟨⟩
    · intro h
      exact ((h s hs).1 hns).elim
  · rw [hget]
    constructor
    · intro _ s hs
      use (hall s hs).1
      intro hns
      exact ((hall s hs).2 hns).elim
    · intro _
      rfl
  · rw [hget] at hredis ⊢
    match hnode : items.getAttribute "node" with
    | none =>
        constructor
        · rintro ⟨⟩
        · intro h
          obtain ⟨node, hn, -⟩ := (h s hs).2 hns
          cases hn
    | some node =>
        rw [hnode] at hredis
        have hiff := handleEvent_returns_iff hredis hwns
        constructor
        · intro hok s' hs'
          rw [hs] at hs'
          cases hs'
          use by simp [hns]
          intro _
          exact ⟨node, rfl, hiff.mp hok⟩
        · intro h
          obtain ⟨node', hn, h⟩ := (h s hs).2 hns
          cases hn
          exact hiff.mpr h

end

/-- Where neither Redis nor WNS throws, the message handler returns for a stanza if and only if
the stanza is harmless. -/
theorem onStanza_returns_iff {platform : Platform} {config : Configuration} {oracle : Oracle}
    {w : World} {stanza : Stanza}
    (hredis : (Server.run oracle (PushServer.onStanza platform config stanza) w).1
      ≠ .error wrongType)
    (hwns : WnsReturns platform config oracle w) :
  (Server.run oracle (PushServer.onStanza platform config stanza) w).1 = .ok ()
    ↔ Harmless config w.contents stanza
  := by
  unfold PushServer.onStanza XmppClient.messageHandler at hredis ⊢
  rcases XmppClient.compare_cases (stanza.getAttribute "from") (cStr config.xmpp.bareJid) with
    ⟨hfrom, hc⟩ | ⟨hnone, hfrom, hc⟩ | ⟨hfrom, hc⟩
  · rw [hc]
    constructor
    · rintro ⟨⟩
    · rintro ⟨h, -⟩
      exact (h hfrom).elim
  · rw [hc]
    constructor
    · intro _
      use hnone
      intro h
      exact (hfrom h).elim
    · intro _
      rfl
  · rw [hc] at hredis ⊢
    rw [harmless_iff hfrom]
    rcases XmppClient.getItemsNode_cases stanza with
      ⟨event, he, hns, hget⟩ | ⟨hall, hget⟩ | ⟨event, he, hns, hget⟩
    · rw [hget]
      constructor
      · rintro ⟨⟩
      · intro h
        exact ((h event he).1 hns).elim
    · rw [hget]
      constructor
      · intro _ event he
        use (hall event he).1
        intro hns
        exact ((hall event he).2 hns).elim
      · intro _
        rfl
    · rw [hget] at hredis ⊢
      rw [eventHarmless_iff he hns]
      match hitems : event.getChildByName "items" with
      | none =>
          constructor
          · rintro _ items ⟨⟩
          · intro _
            rfl
      | some items =>
          rw [hitems] at hredis
          simp only [Option.some.injEq, forall_eq']
          apply handleItems_returns_iff hredis hwns

namespace Sample

/-- A field of a form with its value. -/
def field (var value : String) : Stanza :=
  .tag "field" [("var", var)] [.tag "value" [] [.text value]]

/-- A PubSub event of the server for the first node, with two counts. -/
def counted : Stanza :=
  .tag "message" [("from", "push@example.org")]
    [.tag "event" [("xmlns", "http://jabber.org/protocol/pubsub#event")]
      [.tag "items" [("node", oracle.node 0)]
        [.tag "item" []
          [.tag "notification" [("xmlns", "urn:xmpp:push:0")]
            [.tag "x" [("xmlns", "jabber:x:data")]
              [field "message-count" "3", field "pending-subscription-count" "1"]]]]]]

/-- A message without a sender. -/
def anonymous : Stanza :=
  .tag "message" [] []

/-- No HTTP server can be reached. -/
def offline : Oracle :=
  { oracle with http := fun _ => ⟨false, 0, ""⟩ }

end Sample

/-- The event of a node with a form of counts, for a device that has registered for version 2. -/
theorem onStanza_returns_iff_counted :
  ((Sample.run Sample.registration).2.contents.elements "phone")[1]? = some "2"
    ∧ ((Server.run Sample.offline
      (PushServer.onStanza Sample.platform Sample.config Sample.counted)
      (Sample.run Sample.registration).2).1 = .ok ()
      ↔ Harmless Sample.config (Sample.run Sample.registration).2.contents Sample.counted)
  := by
  use by decide +kernel
  apply onStanza_returns_iff
  · decide +kernel
  · intro channelUri content
    exact ⟨false, rfl⟩

/-- A message without a sender compares a null pointer. -/
theorem not_onStanza_returns_anonymous :
  WnsReturns Sample.platform Sample.config Sample.offline Sample.world
    ∧ (Server.run Sample.offline
      (PushServer.onStanza Sample.platform Sample.config Sample.anonymous) Sample.world).1
      = .error .nullPointer
  := by
  constructor
  · intro channelUri content
    exact ⟨false, rfl⟩
  · decide +kernel

end UwpxPush
