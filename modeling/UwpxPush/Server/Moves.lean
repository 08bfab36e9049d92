import UwpxPush.Run.Basic
import UwpxPush.Server.Registration
import UwpxPush.Tcp.Valid
import UwpxPush.Wns.Effect

/-!
# The moves of the server

An `Event` is what the server reacts to: a valid message of a client, a stanza of the XMPP
server, a round of its main loop, its start, a change of the connection, and the passing of
time.  `handle` is the world after an event; when the process ends, the world stays as it
was left.  `Move` lists what an event can do, and `handle_move` says that it does no more.
-/

namespace UwpxPush

open KeyValue

/-- What the server reacts to. -/
inductive Event where
  /-- A client sends a message. -/
  | received (m : Message) (valid : m.Valid)
  /-- The XMPP server sends a stanza. -/
  | stanza (s : Stanza)
  /-- A round of the main loop. -/
  | checkSetupWns
  /-- The start of the server, which loads the WNS token. -/
  | start
  /-- The XMPP connection goes up or down. -/
  | connection (up : Bool)
  /-- Nanoseconds pass. -/
  | advance (dt : Nat)

/-- The node of a PubSub event. -/
def XmppClient.eventNode (s : Stanza) : Option String :=
  match getItemsNode s with
  | .ok (some itemsNode) => itemsNode.getAttribute "node"
  | _ => none

/-- The device a message is about. -/
def Message.deviceId : Message → Option String
  | .setChannelUri m => some m.deviceId
  | .setPushAccounts m => some m.deviceId
  | .requestTestPush m => some m.deviceId
  | _ => none

/-- The device an event is about. -/
def Event.deviceId : Event → Option String
  | received m _ => m.deviceId
  | _ => none

/-- The accounts of a successful response to `set_push_accounts`. -/
def Output.accounts : Output → Option (List PushAccount)
  | reply (.successSetPushAccounts m) => some m.accounts
  | _ => none

/-- The PubSub request that is sent. -/
def Output.iq? : Output → Option Iq
  | iq q => some q
  | _ => none

/-- The content of a test push for a protocol version. -/
def PushServer.testPush (platform : Platform) (version : Option String) : String :=
  if version = some "2" then platform.dump (TestPushMessage.ofTest.toJson .null) else "<test/>"

/-- The list under a node has three entries, of which the second is a device with that
channel URI. -/
def Contents.Routes (c : Contents) (node channelUri : String) : Prop :=
  ∃ accountId deviceId secret, c.elements node = [accountId, deviceId, secret]
    ∧ (c.elements deviceId).head? = some channelUri

/-- The event may notify this channel URI. -/
def Contents.Notifies (c : Contents) (channelUri : String) : Event → Prop
  | .received (.requestTestPush m) _ => (c.elements m.deviceId).head? = some channelUri
  | .stanza s => ∃ node, XmppClient.eventNode s = some node ∧ c.Routes node channelUri
  | _ => False

/-- What an event may send that changes neither accounts nor channel URIs: a response without
accounts, a request for a token, and notifications of the channel URI. -/
def MaySend (config : Configuration) (c : Contents) (e : Event) (o : Output) : Prop :=
  (∃ m, o = .reply m ∧ o.accounts = none)
    ∨ o = .post (WnsClient.tokenRequest config)
    ∨ ∃ channelUri content, c.Notifies channelUri e
      ∧ (o = .sending channelUri content
        ∨ ∃ token, o = .post (WnsClient.notification token channelUri content))

section

variable (platform : Platform) (config : Configuration) (oracle : Oracle)

/-- The world after an event. -/
def World.handle (w : World) : Event → World
  | .received m _ => (Server.run oracle (PushServer.processMessage platform config m) w).2
  | .stanza s => (Server.run oracle (PushServer.onStanza platform config s) w).2
  | .checkSetupWns => (Server.run oracle (PushServer.checkSetupWns platform config) w).2
  | .start => (Server.run oracle WnsClient.loadTokenFromDb w).2
  | .connection up => { w with connected := up }
  | .advance dt => { w with redis := w.redis.advance dt }

/-- What an event can do. -/
inductive Move (w : World) : Event → World → Prop where
  /-- The accounts of a device are registered. -/
  | registered {m : SetPushAccountsMessage} {valid : (Message.setPushAccounts m).Valid}
      {w' : World} {channelUri : String} {oldNodes : List String}
      {pushAccounts : List PushAccount}
      (h : PushServer.Registered platform config oracle m.deviceId (toString m.version)
        m.accounts w w' channelUri oldNodes pushAccounts) :
      Move w (.received (.setPushAccounts m) valid) w'
  /-- The registration of a device is refused. -/
  | refused {m : SetPushAccountsMessage} {valid : (Message.setPushAccounts m).Valid}
      {w' : World} (h : PushServer.Refused m.accounts.length w w') :
      Move w (.received (.setPushAccounts m) valid) w'
  /-- The channel URI of a device is replaced. -/
  | channelUri {m : SetChannelUriMessage} {valid : (Message.setChannelUri m).Valid} {w' : World}
      (uri : PushServer.isValidChannelUri m.channelUri = true)
      (contents : w'.contents = w.contents.setChannelUri (w.redis.clock + timeout) m.deviceId
        m.channelUri)
      (clock : w'.redis.clock = w.redis.clock)
      (connected : w'.connected = w.connected)
      (created : w'.created = w.created)
      (log : w'.log = w.log ++ [.reply (.successResponse .ofSuccess)]) :
      Move w (.received (.setChannelUri m) valid) w'
  /-- The event changes neither accounts nor channel URIs. -/
  | other {e : Event} {w' : World} (h : WnsEffect (MaySend config w.contents e) w w') :
      Move w e w'
  /-- The connection changes. -/
  | connection (up : Bool) : Move w (.connection up) { w with connected := up }
  /-- Time passes. -/
  | advance (dt : Nat) : Move w (.advance dt) { w with redis := w.redis.advance dt }

end

/-! ### Effects -/

section

variable {platform : Platform} {config : Configuration} {oracle : Oracle} {w : World}
  {P : Output → Prop}

theorem WnsEffect.tell {o : Output} (h : P o) :
  WnsEffect P w (w.tell o)
  where
  lookup _ _ := rfl
  entry := .inl rfl
  clock := rfl
  created := rfl
  connected := rfl
  outputs := ⟨[o], rfl, by simpa using h⟩

/-- An effect that begins with a program that only reads. -/
theorem effect_bind_reading {α β : Type} {p : Server α} {f : α → Server β}
    (hp : p.Calls IsReading)
    (hf : ∀ a, Server.run oracle p w = (.ok a, w) → WnsEffect P w (Server.run oracle (f a) w).2) :
  WnsEffect P w (Server.run oracle (p >>= f) w).2
  := by
  have hw := run_of_reading oracle hp w
  match h : Server.run oracle p w with
  | (.ok a, w') =>
      rw [h] at hw
      have hw' : w' = w := hw
      rw [hw'] at h
      rw [Server.run, Program.run_bind_ok _ h]
      apply hf a h
  | (.error e, w') =>
      rw [h] at hw
      have hw' : w' = w := hw
      rw [Server.run, Program.run_bind_error _ h, hw']
      apply WnsEffect.refl

/-- An effect that begins with a computation without calls. -/
theorem effect_bind_lift {α β : Type} {r : Except Failure α} {f : α → Server β}
    (hf : ∀ a, r = .ok a → WnsEffect P w (Server.run oracle (f a) w).2) :
  WnsEffect P w (Server.run oracle (XmppClient.lift r >>= f) w).2
  := by
  cases r with
  | ok a => apply hf a rfl
  | error e => apply WnsEffect.refl

theorem effect_reply {m : Message} (h : P (.reply m)) :
  WnsEffect P w (Server.run oracle (ClientSslSession.reply m) w).2
  := by
  rw [PushServer.run_reply]
  apply WnsEffect.tell h

/-- A notification followed by something else. -/
theorem effect_sendRawNotification {channelUri content : String} {f : Bool → Server Unit}
    (htoken : P (.post (WnsClient.tokenRequest config)))
    (hsending : P (.sending channelUri content))
    (hpost : ∀ token, P (.post (WnsClient.notification token channelUri content)))
    (hf : ∀ success w, WnsEffect P w (Server.run oracle (f success) w).2) :
  WnsEffect P w
    (Server.run oracle (WnsClient.sendRawNotification platform config channelUri content >>= f)
      w).2
  := by
  have hsend : WnsEffect P w (Server.run oracle
      (WnsClient.sendRawNotification platform config channelUri content) w).2 := by
    apply (WnsEffect.tell hsending).trans
    apply (sendRawNotification_effect platform config channelUri content w).mono
    rintro o (rfl | ⟨token, rfl⟩)
    · apply htoken
    · apply hpost
  match h : Server.run oracle (WnsClient.sendRawNotification platform config channelUri content)
      w with
  | (.ok success, w') =>
      rw [h] at hsend
      rw [Server.run, Program.run_bind_ok _ h]
      apply hsend.trans (hf success w')
  | (.error e, w') =>
      rw [h] at hsend
      rw [Server.run, Program.run_bind_error _ h]
      apply hsend

end

/-! ### The handlers -/

section

variable (platform : Platform) (config : Configuration) {oracle : Oracle} {w : World}

/-- A test push is a notification of the channel URI of the device. -/
theorem effect_sendTestPush_of {P : Output → Prop} {deviceId : String}
    (hreply : ∀ m, (Output.reply m).accounts = none → P (.reply m))
    (htoken : P (.post (WnsClient.tokenRequest config)))
    (hsending : ∀ channelUri version, (w.contents.elements deviceId).head? = some channelUri →
      P (.sending channelUri (PushServer.testPush platform version)))
    (hpost : ∀ channelUri version token,
      (w.contents.elements deviceId).head? = some channelUri →
      P (.post (WnsClient.notification token channelUri
        (PushServer.testPush platform version)))) :
  WnsEffect P w (Server.run oracle (PushServer.sendTestPush platform config deviceId) w).2
  := by
  apply effect_bind_reading (reading_getChannelUri deviceId)
  intro r hr
  obtain ⟨-, hhead, -⟩ := run_getChannelUri_ok hr
  cases r with
  | none => apply effect_reply (hreply _ rfl)
  | some channelUri =>
      apply effect_bind_reading (reading_getVersion deviceId)
      intro version hversion
      apply effect_sendRawNotification
      · apply htoken
      · apply hsending channelUri version hhead.symm
      · intro token
        apply hpost channelUri version token hhead.symm
      · intro success w'
        split
        · apply effect_reply (hreply _ rfl)
        · apply effect_reply (hreply _ rfl)

theorem effect_sendTestPush {m : RequestTestPushMessage}
    {valid : (Message.requestTestPush m).Valid} :
  WnsEffect (MaySend config w.contents (.received (.requestTestPush m) valid)) w
    (Server.run oracle (PushServer.sendTestPush platform config m.deviceId) w).2
  := by
  apply effect_sendTestPush_of
  · intro m hm
    exact .inl ⟨m, rfl, hm⟩
  · exact .inr (.inl rfl)
  · intro channelUri version hhead
    exact .inr (.inr ⟨channelUri, _, hhead, .inl rfl⟩)
  · intro channelUri version token hhead
    exact .inr (.inr ⟨channelUri, _, hhead, .inr ⟨token, rfl⟩⟩)

theorem reading_channelUriOfNode (node : String) :
  (PushServer.channelUriOfNode node).Calls IsReading
  := by
  apply Program.calls_bind (reading_getOfThree node 1)
  rintro (_ | deviceId)
  · apply Program.calls_pure
  · apply reading_getChannelUri

theorem reading_versionOfNode (node : String) :
  (XmppClient.versionOfNode node).Calls IsReading
  := by
  apply Program.calls_bind (reading_getOfThree node 1)
  rintro (_ | deviceId)
  · apply Program.calls_pure
  · apply reading_getVersion

/-- The device of a node is the second entry of its list of three. -/
theorem run_getDeviceId_ok {node deviceId : String} {w' : World}
    (h : Server.run oracle (RedisClient.getDeviceId node) w = (.ok (some deviceId), w')) :
  w' = w ∧ ∃ accountId secret, w.contents.elements node = [accountId, deviceId, secret]
  := by
  obtain ⟨rfl, -, hr⟩ := run_getOfThree_ok h
  split at hr
  · next hlen =>
      obtain ⟨a, d, s, hs⟩ := List.length_eq_three.mp hlen
      rw [hs] at hr ⊢
      cases hr
      exact ⟨rfl, a, s, rfl⟩
  · cases hr

theorem run_channelUriOfNode_ok {node channelUri : String} {w' : World}
    (h : Server.run oracle (PushServer.channelUriOfNode node) w = (.ok (some channelUri), w')) :
  w' = w ∧ w.contents.Routes node channelUri
  := by
  obtain ⟨r, t, hdevice, hr⟩ := Program.run_bind_eq_ok _ h
  cases r with
  | none => cases hr
  | some deviceId =>
      obtain ⟨rfl, accountId, secret, hs⟩ := run_getDeviceId_ok hdevice
      obtain ⟨rfl, hhead, -⟩ := run_getChannelUri_ok hr
      exact ⟨rfl, accountId, deviceId, secret, hs, hhead.symm⟩

/-- The handlers of the push server for the events of a node. -/
theorem effect_notify {s : Stanza} {node : String} (hs : XmppClient.eventNode s = some node)
    {p : String → Server Unit} {content : String}
    (hp : ∀ channelUri, p channelUri
      = (do
          let _ ← WnsClient.sendRawNotification platform config channelUri content
          return)) :
  WnsEffect (MaySend config w.contents (.stanza s)) w
    (Server.run oracle (do
      match ← PushServer.channelUriOfNode node with
      | none => return
      | some channelUri => p channelUri) w).2
  := by
  apply effect_bind_reading (reading_channelUriOfNode node)
  intro r hr
  cases r with
  | none => apply WnsEffect.refl
  | some channelUri =>
      obtain ⟨-, hroutes⟩ := run_channelUriOfNode_ok hr
      simp only [hp]
      apply effect_sendRawNotification
      · exact .inr (.inl rfl)
      · exact .inr (.inr ⟨channelUri, _, ⟨node, hs, hroutes⟩, .inl rfl⟩)
      · intro token
        exact .inr (.inr ⟨channelUri, _, ⟨node, hs, hroutes⟩, .inr ⟨token, rfl⟩⟩)
      · intro success w'
        apply WnsEffect.refl

theorem effect_onStanza (s : Stanza) :
  WnsEffect (MaySend config w.contents (.stanza s)) w
    (Server.run oracle (PushServer.onStanza platform config s) w).2
  := by
  apply effect_bind_lift
  intro fromServer hfrom
  split
  · apply effect_bind_lift
    intro items hitems
    cases items with
    | none => apply WnsEffect.refl
    | some itemsNode =>
        apply effect_bind_lift
        intro notification hnotification
        cases notification with
        | none => apply WnsEffect.refl
        | some notificationNode =>
            simp only []
            match hnode : itemsNode.getAttribute "node" with
            | none => apply WnsEffect.refl
            | some node =>
                have hs : XmppClient.eventNode s = some node := by
                  rw [XmppClient.eventNode, hitems]
                  apply hnode
                apply effect_bind_reading (reading_getOfThree node 0)
                intro accountId haccount
                cases accountId with
                | none => apply WnsEffect.refl
                | some accountId =>
                    apply effect_bind_reading (reading_versionOfNode node)
                    intro version hversion
                    split
                    · apply effect_bind_lift
                      intro counts hcounts
                      apply effect_notify platform config hs
                      intro channelUri
                      rfl
                    · unfold XmppClient.sendV1Push
                      split
                      · apply WnsEffect.refl
                      · split
                        · apply effect_notify platform config hs
                          intro channelUri
                          rfl
                        · apply effect_notify platform config hs
                          intro channelUri
                          rfl
  · apply WnsEffect.refl

/-- A handler that returns. -/
theorem run_processMessage_ok {m : Message} {w' : World} {u : Unit}
    (h : Server.run oracle (PushServer.handleMessage platform config m) w = (.ok u, w')) :
  Server.run oracle (PushServer.processMessage platform config m) w = (.ok u, w')
  := by
  rw [Server.run] at h
  rw [PushServer.processMessage, Server.run, Program.run_tryCatch, h]

/-- An exception of a handler is answered with an error. -/
theorem run_processMessage_exception {m : Message} {w' : World} {what : String}
    (h : Server.run oracle (PushServer.handleMessage platform config m) w
      = (.error (.exception what), w')) :
  Server.run oracle (PushServer.processMessage platform config m) w
    = (.ok (), w'.tell (.reply (.errorResponse (.ofError
      "Internal server error... Failed to process received JSON message."))))
  := by
  rw [Server.run] at h
  rw [PushServer.processMessage, Server.run, Program.run_tryCatch, h]
  rfl

/-- A failure of a handler that is no exception ends the process. -/
theorem run_processMessage_uncaught {m : Message} {w' : World} {e : Failure}
    (he : ¬e.IsException)
    (h : Server.run oracle (PushServer.handleMessage platform config m) w = (.error e, w')) :
  Server.run oracle (PushServer.processMessage platform config m) w = (.error e, w')
  := by
  rw [Server.run] at h
  rw [PushServer.processMessage, Server.run, Program.run_tryCatch, h]
  cases e with
  | exception what => exact (he ⟨what, rfl⟩).elim
  | assertion condition => rfl
  | emptyOptional => rfl
  | nullPointer => rfl

/-- A handler that throws an exception is answered for; any other failure ends the process. -/
theorem run_processMessage_error {m : Message} {w' : World} {e : Failure}
    (h : Server.run oracle (PushServer.handleMessage platform config m) w = (.error e, w')) :
  (∃ error, Server.run oracle (PushServer.processMessage platform config m) w
      = (.ok (), w'.tell (.reply (.errorResponse (.ofError error)))))
    ∨ Server.run oracle (PushServer.processMessage platform config m) w = (.error e, w')
  := by
  by_cases he : e.IsException
  · obtain ⟨what, rfl⟩ := he
    exact .inl ⟨_, run_processMessage_exception platform config h⟩
  · exact .inr (run_processMessage_uncaught platform config he h)

/-- The effect of a request is that of its handler. -/
theorem effect_processMessage_of {P : Output → Prop} {m : Message}
    (hreply : ∀ m, (Output.reply m).accounts = none → P (.reply m))
    (h : WnsEffect P w (Server.run oracle (PushServer.handleMessage platform config m) w).2) :
  WnsEffect P w (Server.run oracle (PushServer.processMessage platform config m) w).2
  := by
  rcases hrun : Server.run oracle (PushServer.handleMessage platform config m) w with ⟨e | u, w'⟩
  · rw [hrun] at h
    rcases run_processMessage_error platform config hrun with ⟨error, hprocess⟩ | herror
    · rw [hprocess]
      apply h.trans
      apply WnsEffect.tell (hreply _ rfl)
    · rw [herror]
      apply h
  · rw [hrun] at h
    rw [run_processMessage_ok platform config hrun]
    apply h

theorem effect_processMessage {m : Message} {valid : m.Valid}
    (h : WnsEffect (MaySend config w.contents (.received m valid)) w
      (Server.run oracle (PushServer.handleMessage platform config m) w).2) :
  WnsEffect (MaySend config w.contents (.received m valid)) w
    (Server.run oracle (PushServer.processMessage platform config m) w).2
  := by
  apply effect_processMessage_of platform config _ h
  intro m hm
  exact .inl ⟨m, rfl, hm⟩

/-- A message that is not a request is not supported. -/
theorem effect_unsupported {m : Message} {valid : m.Valid}
    (hm : PushServer.handleMessage platform config m
      = ClientSslSession.respondWithError "Unsupported message type.") :
  WnsEffect (MaySend config w.contents (.received m valid)) w
    (Server.run oracle (PushServer.processMessage platform config m) w).2
  := by
  apply effect_processMessage
  rw [hm]
  apply effect_reply (.inl ⟨_, rfl, rfl⟩)

/-- A valid channel URI is stored, unless a string is under the device id; otherwise the client
is told an error, or nothing. -/
theorem handle_setChannelUri (m : SetChannelUriMessage) :
  (PushServer.isValidChannelUri m.channelUri = true
      ∧ ∃ redis, redis.clock = w.redis.clock
        ∧ redis.lookup = w.contents.setChannelUri (w.redis.clock + timeout) m.deviceId
          m.channelUri
        ∧ (Server.run oracle (PushServer.processMessage platform config (.setChannelUri m)) w).2
          = ({ w with redis } : World).tell (.reply (.successResponse .ofSuccess)))
    ∨ (Server.run oracle (PushServer.processMessage platform config (.setChannelUri m)) w).2 = w
    ∨ ∃ error,
      (Server.run oracle (PushServer.processMessage platform config (.setChannelUri m)) w).2
        = w.tell (.reply (.errorResponse (.ofError error)))
  := by
  by_cases huri : PushServer.isValidChannelUri m.channelUri = true
  · have hbind : PushServer.handleMessage platform config (.setChannelUri m)
        = RedisClient.setChannelUri m.deviceId m.channelUri >>= fun _ =>
          ClientSslSession.respondWithSuccess := by
      rw [PushServer.handleMessage, PushServer.setChannelUri, if_pos huri]
    by_cases hs : w.contents.NotString m.deviceId
    · obtain ⟨redis, hrun, hclock, hlookup⟩ :=
        run_setChannelUri oracle m.channelUri hs
      have hhandle : Server.run oracle (PushServer.handleMessage platform config
          (.setChannelUri m)) w
          = (.ok (), ({ w with redis } : World).tell
              (.reply (.successResponse .ofSuccess))) := by
        rw [hbind, Server.run, Program.run_bind_ok _ hrun]
        apply PushServer.run_reply
      rw [run_processMessage_ok platform config hhandle]
      exact .inl ⟨huri, redis, hclock, hlookup, rfl⟩
    · have hstring : Server.run oracle (RedisClient.setChannelUri m.deviceId m.channelUri) w
          = (.error wrongType, w) := by
        rw [RedisClient.setChannelUri, Server.run,
          Program.run_bind_error _ (run_lrange_of_string hs)]
      have herror : Server.run oracle (PushServer.handleMessage platform config
          (.setChannelUri m)) w = (.error wrongType, w) := by
        rw [hbind, Server.run, Program.run_bind_error _ hstring]
      apply Or.inr
      rcases run_processMessage_error platform config herror with ⟨error, hreply⟩ | hsame
      · rw [hreply]
        exact .inr ⟨error, rfl⟩
      · rw [hsame]
        exact .inl rfl
  · have hhandle : Server.run oracle (PushServer.handleMessage platform config
        (.setChannelUri m)) w
        = (.ok (), w.tell (.reply (.errorResponse (.ofError
          "Invalid channel URI. Has to use the domain 'notify.windows.com'.")))) := by
      rw [PushServer.handleMessage, PushServer.setChannelUri, if_neg huri]
      apply PushServer.run_reply
    rw [run_processMessage_ok platform config hhandle]
    exact .inr (.inr ⟨_, rfl⟩)

theorem move_setChannelUri (m : SetChannelUriMessage)
    (valid : (Message.setChannelUri m).Valid) :
  Move platform config oracle w (.received (.setChannelUri m) valid)
    (Server.run oracle (PushServer.processMessage platform config (.setChannelUri m)) w).2
  := by
  have hcases := @handle_setChannelUri platform config oracle w m
  rcases hcases with
    ⟨huri, redis, hclock, hlookup, hrun⟩ | hsame | ⟨error, hreply⟩
  · rw [hrun]
    apply Move.channelUri huri
    · apply hlookup
    · apply hclock
    · rfl
    · rfl
    · rfl
  · rw [hsame]
    exact .other (WnsEffect.refl w)
  · rw [hreply]
    exact .other (WnsEffect.tell (.inl ⟨_, rfl, rfl⟩))

/-- The request to set the accounts of a device is refused or registers them. -/
theorem handle_setPushAccounts (h : w.contents.Typed) (m : SetPushAccountsMessage) :
  PushServer.Refused m.accounts.length w
      (Server.run oracle (PushServer.processMessage platform config (.setPushAccounts m)) w).2
    ∨ ∃ channelUri oldNodes pushAccounts,
      PushServer.Registered platform config oracle m.deviceId (toString m.version) m.accounts w
        (Server.run oracle (PushServer.processMessage platform config (.setPushAccounts m)) w).2
        channelUri oldNodes pushAccounts
  := by
  rcases hrun : Server.run oracle (PushServer.handleMessage platform config
      (.setPushAccounts m)) w with ⟨e | u, w'⟩
  · rcases PushServer.run_setPushAccounts_cases h hrun with ⟨hrefused, hlog⟩ | ⟨hok, -⟩
    · apply Or.inl
      have hlog : w'.log = w.log := by
        rcases hlog with ⟨hok, -⟩ | ⟨hlog, -⟩
        · cases hok
        · apply hlog
      rcases run_processMessage_error platform config hrun with ⟨error, hreply⟩ | herror
      · rw [hreply]
        constructor
        · apply hrefused.redis
        · apply hrefused.connected
        · apply hrefused.le_created
        · apply hrefused.created_le
        · apply Or.inr
          use error
          rw [World.tell, hlog]
      · rw [herror]
        apply hrefused
    · cases hok
  · rw [run_processMessage_ok platform config hrun]
    rcases PushServer.run_setPushAccounts_cases h hrun with ⟨hrefused, -⟩ | ⟨-, hr⟩
    · exact .inl hrefused
    · exact .inr hr

theorem move_setPushAccounts (h : w.contents.Typed) (m : SetPushAccountsMessage)
    (valid : (Message.setPushAccounts m).Valid) :
  Move platform config oracle w (.received (.setPushAccounts m) valid)
    (Server.run oracle (PushServer.processMessage platform config (.setPushAccounts m)) w).2
  := by
  rcases handle_setPushAccounts platform config h m with hrefused | ⟨_, _, _, hr⟩
  · apply Move.refused hrefused
  · apply Move.registered hr

theorem effect_checkSetupWns :
  WnsEffect (MaySend config w.contents .checkSetupWns) w
    (Server.run oracle (PushServer.checkSetupWns platform config) w).2
  := by
  have hrequest : KeepsWns oracle (MaySend config w.contents .checkSetupWns)
      (WnsClient.requestNewToken platform config) := by
    apply keepsWns_requestNewToken
    exact .inr (.inl rfl)
  suffices h : KeepsWns oracle (MaySend config w.contents .checkSetupWns)
      (PushServer.checkSetupWns platform config) from h w
  apply keepsWns_bind keepsWns_isTokenValid
  intro valid
  split
  · apply keepsWns_bind hrequest
    intro success
    split
    · apply keepsWns_bind hrequest
      intro success
      apply keepsWns_pure
    · apply keepsWns_pure
  · apply keepsWns_pure

theorem effect_loadTokenFromDb :
  WnsEffect (MaySend config w.contents .start) w
    (Server.run oracle WnsClient.loadTokenFromDb w).2
  := by
  apply effect_bind_reading (reading_getOfThree _ 0)
  rintro (_ | token) -
  · apply WnsEffect.refl
  · apply effect_bind_reading (reading_getOfThree _ 1)
    rintro (_ | type) -
    · apply WnsEffect.refl
    · apply effect_bind_reading
      · apply Program.calls_bind (reading_getOfThree _ 2)
        intro tt
        apply Program.calls_pure
      · rintro (_ | expires) -
        · apply WnsEffect.refl
        · apply keepsWns_writeToken

variable (oracle w)

/-- An event does one of the moves. -/
theorem handle_move (h : w.contents.Typed) (e : Event) :
  Move platform config oracle w e (w.handle platform config oracle e)
  := by
  cases e with
  | received m valid =>
      cases m with
      | setChannelUri m => apply move_setChannelUri
      | setPushAccounts m => apply move_setPushAccounts _ _ h
      | requestTestPush m =>
          apply Move.other
          apply effect_processMessage
          apply effect_sendTestPush
      | successResponse m => exact .other (effect_unsupported platform config rfl)
      | successSetPushAccounts m => exact .other (effect_unsupported platform config rfl)
      | errorResponse m => exact .other (effect_unsupported platform config rfl)
  | stanza s => exact .other (effect_onStanza platform config s)
  | checkSetupWns => exact .other (effect_checkSetupWns platform config)
  | start => exact .other (effect_loadTokenFromDb config)
  | connection up => apply Move.connection
  | advance dt => apply Move.advance

end

end UwpxPush
