import UwpxPush.Server.Stanzas

/-!
# How an event is delivered

`IsEvent` says which stanzas are events of a node.  An event whose node leads to a device
with a channel URI is turned into one notification, whose content depends on the protocol
version of the device; everything else is dropped.
-/

namespace UwpxPush

/-- The stanza is an event of the server for the node, with that notification. -/
structure IsEvent (config : Configuration) (stanza : Stanza) (node : String)
    (notification : Stanza) : Prop where
  sender : stanza.getAttribute "from" = some (cStr config.xmpp.bareJid)
  items : ∃ event items, stanza.getChildByName "event" = some event
    ∧ event.getNs = some "http://jabber.org/protocol/pubsub#event"
    ∧ event.getChildByName "items" = some items
    ∧ (items.getChildByName "item").bind (Stanza.getChildByName "notification")
      = some notification
    ∧ notification.getNs = some "urn:xmpp:push:0"
    ∧ items.getAttribute "node" = some node

/-- The list under the node leads to the account and the device, and the list of the device
begins with the channel URI. -/
def Contents.Reaches (c : Contents) (node accountId deviceId channelUri : String) : Prop :=
  (∃ secret, c.elements node = [accountId, deviceId, secret])
    ∧ (c.elements deviceId).head? = some channelUri

/-- The content of the notification for a device with a protocol version. -/
def eventContent (platform : Platform) (version : Option String) (accountId : String)
    (notification : Stanza) : Option String :=
  if version = some "2" then
    match XmppClient.readCounts notification with
    | .ok counts =>
        some (platform.dump ((PushMessage.ofFields accountId counts.1 counts.2).toJson .null))
    | .error _ => none
  else
    (platform.toText (notification.addChild (XmppClient.accountNode accountId))).map fun msg =>
      if 4096 < msg.utf8ByteSize then "New message received!" else msg

/-- Send a notification whose result is not used. -/
def notify (platform : Platform) (config : Configuration) (channelUri content : String) :
    Server Unit := do
  let _ ← WnsClient.sendRawNotification platform config channelUri content
  return

section

variable {platform : Platform} {config : Configuration} {oracle : Oracle} {w : World}

/-- The handling of an event with the handlers of the push server. -/
def handleEvent (platform : Platform) (config : Configuration) (node : String)
    (notification : Stanza) : Server Unit :=
  XmppClient.handleEvent platform (PushServer.onV1MessageForNode platform config)
    (PushServer.onV2MessageForNode platform config) node notification

/-- The items of a PubSub event of the server. -/
theorem onStanza_items {stanza items : Stanza}
    (hfrom : XmppClient.compare (stanza.getAttribute "from") (cStr config.xmpp.bareJid) = .ok true)
    (hitems : XmppClient.getItemsNode stanza = .ok (some items)) :
  PushServer.onStanza platform config stanza = handleItems platform config items
  := by
  unfold PushServer.onStanza XmppClient.messageHandler
  rw [hfrom, hitems]
  rfl

/-- An event of a node is handled as such. -/
theorem onStanza_event {stanza notification : Stanza} {node : String}
    (h : IsEvent config stanza node notification) :
  PushServer.onStanza platform config stanza = handleEvent platform config node notification
  := by
  obtain ⟨event, items, hevent, hns, hitems, hnotification, hpush, hnode⟩ := h.items
  have hfrom : XmppClient.compare (stanza.getAttribute "from") (cStr config.xmpp.bareJid)
      = .ok true := by
    simp [XmppClient.compare, h.sender]
  have hget : XmppClient.getItemsNode stanza = .ok (some items) := by
    rw [XmppClient.getItemsNode, hevent]
    simp only [hns, ← hitems]
    rfl
  have hpushed : XmppClient.getNotificationNode items = .ok (some notification) := by
    rw [XmppClient.getNotificationNode, hnotification]
    simp only [hpush]
    rfl
  rw [onStanza_items hfrom hget]
  unfold handleItems
  rw [hpushed]
  simp only [hnode]
  rfl

/-- Items without a push notification or without a node end the handler before its first
call. -/
theorem handleItems_cases (items : Stanza) :
  (∃ r, ∀ (oracle : Oracle) (w : World),
      Server.run oracle (handleItems platform config items) w = (r, w))
    ∨ ∃ node notification,
      (items.getChildByName "item").bind (Stanza.getChildByName "notification")
        = some notification
      ∧ notification.getNs = some "urn:xmpp:push:0" ∧ items.getAttribute "node" = some node
  := by
  unfold handleItems
  rcases XmppClient.getNotificationNode_cases items with
    ⟨s, hs, hpush, hget⟩ | ⟨hall, hget⟩ | ⟨s, hs, hpush, hget⟩
  · rw [hget]
    exact .inl ⟨_, fun _ _ => rfl⟩
  · rw [hget]
    exact .inl ⟨_, fun _ _ => rfl⟩
  · rcases hnode : items.getAttribute "node" with _ | node
    · rw [hget]
      exact .inl ⟨_, fun _ _ => rfl⟩
    · exact .inr ⟨node, s, hs, hpush, rfl⟩

variable (platform config) in
/-- A stanza that is no event ends the handler before its first call. -/
theorem onStanza_cases (stanza : Stanza) :
  (∃ r, ∀ (oracle : Oracle) (w : World),
      Server.run oracle (PushServer.onStanza platform config stanza) w = (r, w))
    ∨ ∃ node notification, IsEvent config stanza node notification
  := by
  rcases XmppClient.compare_cases (stanza.getAttribute "from") (cStr config.xmpp.bareJid) with
    ⟨hfrom, hc⟩ | ⟨hnone, hfrom, hc⟩ | ⟨hfrom, hc⟩
  · apply Or.inl
    unfold PushServer.onStanza XmppClient.messageHandler
    rw [hc]
    exact ⟨_, fun _ _ => rfl⟩
  · apply Or.inl
    unfold PushServer.onStanza XmppClient.messageHandler
    rw [hc]
    exact ⟨_, fun _ _ => rfl⟩
  · rcases XmppClient.getItemsNode_cases stanza with
      ⟨event, he, hns, hget⟩ | ⟨hall, hget⟩ | ⟨event, he, hns, hget⟩
    · apply Or.inl
      unfold PushServer.onStanza XmppClient.messageHandler
      rw [hc, hget]
      exact ⟨_, fun _ _ => rfl⟩
    · apply Or.inl
      unfold PushServer.onStanza XmppClient.messageHandler
      rw [hc, hget]
      exact ⟨_, fun _ _ => rfl⟩
    · rcases hitems : event.getChildByName "items" with _ | items
      · apply Or.inl
        unfold PushServer.onStanza XmppClient.messageHandler
        rw [hc, hget, hitems]
        exact ⟨_, fun _ _ => rfl⟩
      · rw [hitems] at hget
        rw [onStanza_items hc hget]
        apply (handleItems_cases items).imp_right
        rintro ⟨node, notification, hnotification, hpush, hnode⟩
        exact ⟨node, notification, hfrom, event, items, he, hns, hitems, hnotification, hpush,
          hnode⟩

/-! ### The handling of an event -/

theorem Contents.notString_of_elements {c : Contents} {k : String} (h : c.elements k ≠ []) :
  c.NotString k
  := by
  intro a d ha
  rw [Contents.elements, ha] at h
  exact h rfl

theorem Contents.notString_of_head {c : Contents} {k a : String}
    (h : (c.elements k).head? = some a) :
  c.NotString k
  := by
  apply Contents.notString_of_elements
  intro hnil
  rw [hnil] at h
  cases h

/-- The channel URI of a node that leads to a device with one. -/
theorem run_channelUriOfNode {node accountId deviceId channelUri : String}
    (h : w.contents.Reaches node accountId deviceId channelUri) :
  Server.run oracle (PushServer.channelUriOfNode node) w = (.ok (some channelUri), w)
  := by
  obtain ⟨⟨secret, hnode⟩, hdevice⟩ := h
  have hlist : w.contents.NotString node := by
    apply Contents.notString_of_elements
    rw [hnode]
    nofun
  rw [PushServer.channelUriOfNode, RedisClient.getDeviceId, Server.run,
    Program.run_bind_ok _ (run_getOfThree_of_notString hlist 1), hnode, ← hdevice]
  apply run_getChannelUri_of_notString (Contents.notString_of_head hdevice)

/-- The node is read up to the protocol version of the device. -/
theorem run_handleEvent_version {node accountId deviceId channelUri : String}
    {notification : Stanza} (h : w.contents.Reaches node accountId deviceId channelUri) :
  Server.run oracle (handleEvent platform config node notification) w
    = Server.run oracle
      (if (w.contents.elements deviceId)[1]? = some "2" then
        XmppClient.sendV2Push (PushServer.onV2MessageForNode platform config) accountId node
          notification
      else
        XmppClient.sendV1Push platform (PushServer.onV1MessageForNode platform config) accountId
          node notification) w
  := by
  obtain ⟨⟨secret, hnode⟩, hdevice⟩ := h
  have hlist : w.contents.NotString node := by
    apply Contents.notString_of_elements
    rw [hnode]
    nofun
  have haccount : Server.run oracle (RedisClient.getAccountId node) w
      = (.ok (some accountId), w) := by
    rw [RedisClient.getAccountId, run_getOfThree_of_notString hlist, hnode]
    rfl
  have hdeviceId : Server.run oracle (RedisClient.getDeviceId node) w
      = (.ok (some deviceId), w) := by
    rw [RedisClient.getDeviceId, run_getOfThree_of_notString hlist, hnode]
    rfl
  have hversion : Server.run oracle (XmppClient.versionOfNode node) w
      = (.ok (w.contents.elements deviceId)[1]?, w) := by
    rw [XmppClient.versionOfNode, Server.run, Program.run_bind_ok _ hdeviceId]
    apply run_getVersion_of_notString (Contents.notString_of_head hdevice)
  rw [handleEvent, XmppClient.handleEvent, Server.run, Program.run_bind_ok _ haccount]
  simp only []
  rw [Program.run_bind_ok _ hversion]

/-- The handlers of the push server notify the channel URI of the device. -/
theorem run_onV1MessageForNode {node accountId deviceId channelUri : String}
    (h : w.contents.Reaches node accountId deviceId channelUri) (msg : String) :
  Server.run oracle (PushServer.onV1MessageForNode platform config node msg) w
    = Server.run oracle (notify platform config channelUri msg) w
  := by
  rw [PushServer.onV1MessageForNode, Server.run, Program.run_bind_ok _ (run_channelUriOfNode h)]
  rfl

theorem run_onV2MessageForNode {node accountId deviceId channelUri : String}
    (h : w.contents.Reaches node accountId deviceId channelUri) (counts : Int × Int) :
  Server.run oracle (PushServer.onV2MessageForNode platform config node accountId counts.1
      counts.2) w
    = Server.run oracle (notify platform config channelUri
      (platform.dump ((PushMessage.ofFields accountId counts.1 counts.2).toJson .null))) w
  := by
  rw [PushServer.onV2MessageForNode, Server.run, Program.run_bind_ok _ (run_channelUriOfNode h)]
  rfl

/-- An event of a node that leads to a device with a channel URI is turned into a
notification. -/
theorem run_handleEvent {node accountId deviceId channelUri content : String}
    {notification : Stanza} (h : w.contents.Reaches node accountId deviceId channelUri)
    (hcontent : eventContent platform (w.contents.elements deviceId)[1]? accountId notification
      = some content) :
  Server.run oracle (handleEvent platform config node notification) w
    = Server.run oracle (notify platform config channelUri content) w
  := by
  rw [run_handleEvent_version h]
  unfold eventContent at hcontent
  split at hcontent
  · rename_i hv
    rw [if_pos hv, XmppClient.sendV2Push]
    split at hcontent
    · rename_i counts hcounts
      cases hcontent
      rw [hcounts]
      apply run_onV2MessageForNode h
    · cases hcontent
  · rename_i hv
    rw [if_neg hv, XmppClient.sendV1Push]
    obtain ⟨msg, hmsg, hcontent⟩ := Option.map_eq_some_iff.mp hcontent
    rw [hmsg]
    simp only []
    split at hcontent
    · rename_i hsize
      cases hcontent
      rw [if_pos hsize]
      apply run_onV1MessageForNode h
    · rename_i hsize
      cases hcontent
      rw [if_neg hsize]
      apply run_onV1MessageForNode h

/-- A program that begins by reading leaves the world as it is if what follows does. -/
theorem unchanged_bind_reading {α β : Type} {p : Server α} {f : α → Server β}
    (hp : p.Calls IsReading)
    (hf : ∀ a, Server.run oracle p w = (.ok a, w) → (Server.run oracle (f a) w).2 = w) :
  (Server.run oracle (p >>= f) w).2 = w
  := by
  have hw : (Server.run oracle p w).2 = w := run_of_reading oracle hp w
  rcases h : Server.run oracle p w with ⟨e | a, w'⟩
  · rw [h] at hw
    rw [Server.run, Program.run_bind_error _ h]
    apply hw
  · rw [h] at hw
    cases hw
    rw [Server.run, Program.run_bind_ok _ h]
    apply hf a h

/-- Without a channel URI there is no notification. -/
theorem unchanged_channelUriOfNode {node : String} {f : Option String → Server Unit}
    (h : ∀ channelUri, ¬w.contents.Routes node channelUri)
    (hf : (Server.run oracle (f none) w).2 = w) :
  (Server.run oracle (PushServer.channelUriOfNode node >>= f) w).2 = w
  := by
  apply unchanged_bind_reading (reading_channelUriOfNode node)
  rintro (_ | channelUri) huri
  · apply hf
  · exact (h channelUri (run_channelUriOfNode_ok huri).2).elim

/-- An event that leads nowhere, or for which there is no content, is dropped. -/
theorem run_handleEvent_dropped {node : String} {notification : Stanza}
    (h : ∀ accountId deviceId channelUri,
      w.contents.Reaches node accountId deviceId channelUri →
      eventContent platform (w.contents.elements deviceId)[1]? accountId notification = none) :
  (Server.run oracle (handleEvent platform config node notification) w).2 = w
  := by
  by_cases hreach : ∃ accountId deviceId channelUri,
      w.contents.Reaches node accountId deviceId channelUri
  · obtain ⟨accountId, deviceId, channelUri, hreach⟩ := hreach
    have hcontent := h accountId deviceId channelUri hreach
    rw [run_handleEvent_version hreach]
    unfold eventContent at hcontent
    split at hcontent
    · rename_i hv
      rw [if_pos hv, XmppClient.sendV2Push]
      split at hcontent
      · cases hcontent
      · rename_i hcounts
        rw [hcounts]
        rfl
    · rename_i hv
      rw [if_neg hv, XmppClient.sendV1Push, Option.map_eq_none_iff.mp hcontent]
      rfl
  · have hroutes : ∀ channelUri, ¬w.contents.Routes node channelUri := by
      rintro channelUri ⟨accountId, deviceId, secret, hnode, huri⟩
      exact hreach ⟨accountId, deviceId, channelUri, ⟨secret, hnode⟩, huri⟩
    apply unchanged_bind_reading (reading_getOfThree node 0)
    rintro (_ | accountId) -
    · rfl
    · apply unchanged_bind_reading (reading_versionOfNode node)
      intro version _
      split
      · rcases hcounts : XmppClient.readCounts notification with e | counts
        · rw [XmppClient.sendV2Push, hcounts]
          rfl
        · rw [XmppClient.sendV2Push, hcounts]
          exact unchanged_channelUriOfNode hroutes rfl
      · unfold XmppClient.sendV1Push
        split
        · rfl
        · split
          · exact unchanged_channelUriOfNode hroutes rfl
          · exact unchanged_channelUriOfNode hroutes rfl

/-- A notification begins with its log line, and goes on with the requests that carry it. -/
theorem notify_outputs (channelUri content : String) :
  ∃ out, (Server.run oracle (notify platform config channelUri content) w).2.log
      = w.log ++ .sending channelUri content :: out
    ∧ ∀ o ∈ out, IsNotification config channelUri content o
  := by
  obtain ⟨out, hlog, hout⟩ :=
    (@sendRawNotification_effect platform config oracle channelUri content w).outputs
  use out
  constructor
  · have hsame : (Server.run oracle (notify platform config channelUri content) w).2
        = (Server.run oracle (WnsClient.sendRawNotification platform config channelUri content)
          w).2 := by
      rcases h : Server.run oracle
        (WnsClient.sendRawNotification platform config channelUri content) w with ⟨e | sent, w'⟩
      · rw [notify, Server.run, Program.run_bind_error _ h]
      · rw [notify, Server.run, Program.run_bind_ok _ h]
        rfl
    rw [hsame, hlog, World.tell, List.append_assoc]
    rfl
  · apply hout

variable (platform config oracle w) in
/-- A stanza changes nothing, or it is an event of a node that leads to a device with a channel
URI, which is notified. -/
theorem handle_stanza (stanza : Stanza) :
  w.handle platform config oracle (.stanza stanza) = w
    ∨ ∃ node notification accountId deviceId channelUri content,
      IsEvent config stanza node notification
      ∧ w.contents.Reaches node accountId deviceId channelUri
      ∧ eventContent platform (w.contents.elements deviceId)[1]? accountId notification
        = some content
      ∧ w.handle platform config oracle (.stanza stanza)
        = (Server.run oracle (notify platform config channelUri content) w).2
  := by
  rcases onStanza_cases platform config stanza with
    ⟨r, hr⟩ | ⟨node, notification, hevent⟩
  · apply Or.inl
    rw [World.handle, hr]
  · by_cases hdropped : ∀ accountId deviceId channelUri,
        w.contents.Reaches node accountId deviceId channelUri →
        eventContent platform (w.contents.elements deviceId)[1]? accountId notification = none
    · apply Or.inl
      rw [World.handle, onStanza_event hevent, run_handleEvent_dropped hdropped]
    · apply Or.inr
      simp only [not_forall] at hdropped
      obtain ⟨accountId, deviceId, channelUri, hreach, hcontent⟩ := hdropped
      obtain ⟨content, hcontent⟩ := Option.ne_none_iff_exists'.mp hcontent
      use node, notification, accountId, deviceId, channelUri, content, hevent, hreach, hcontent
      rw [World.handle, onStanza_event hevent, run_handleEvent hreach hcontent]

end

end UwpxPush
