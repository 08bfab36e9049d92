import UwpxPush.Interleaving.Basic
import UwpxPush.Program.Sequence
import UwpxPush.Server.Arrival
import UwpxPush.Server.Quiet

/-!
# Events that are handled while a request is

The XMPP thread handles an event of a node while the TCP thread handles a request that changes
the device of the node, and their calls take turns.  The XMPP thread reads the record of the
node three times, and the list of the device once for the version and once for the channel URI.
The TCP thread deletes that list and pushes the new one afterwards.  What is sent depends on how
the list stood when it was read (`notified_of_overlap`).
-/

namespace UwpxPush

open KeyValue

namespace Overlap

inductive Thread where
  | xmpp
  | tcp
  deriving DecidableEq

/-- What is left of the handler of a thread. -/
abbrev Place (_ : Thread) : Type :=
  Server Unit

/-- A thread makes its next call. -/
def step (oracle : Oracle) (_ : Thread) (p : Server Unit) (w : World) :
    Option (Server Unit × World) :=
  p.step (World.perform oracle) w

/-- The event and the request are about to be handled. -/
def initial (platform : Platform) (config : Configuration) (stanza : Stanza) (m : Message)
    (w : World) : Threads Place World where
  locals
    | .xmpp => PushServer.onStanza platform config stanza
    | .tcp => PushServer.processMessage platform config m
  shared := w

/-- The turns of the threads, the latest first. -/
abbrev Turns : Type :=
  List (Transition Thread (Threads Place World))

/-- The calls of the TCP thread, the latest first. -/
def issued : Turns → List Call
  | [] => []
  | ⟨.xmpp, _, _⟩ :: past => issued past
  | ⟨.tcp, t, _⟩ :: past => (t.locals .tcp).nextCall.toList ++ issued past

/-- How many turns the XMPP thread had. -/
def turns (past : Turns) : ℕ :=
  (past.map Transition.event).count .xmpp

/-- The calls of the TCP thread before the XMPP thread had its turn `i`. -/
def issuedBefore (i : ℕ) : Turns → List Call
  | [] => []
  | ⟨.xmpp, _, _⟩ :: past => if turns past = i then issued past else issuedBefore i past
  | ⟨.tcp, _, _⟩ :: past => issuedBefore i past

/-! ### How a list stands -/

/-- What some calls have made of the list under a key: it is as it was, it is deleted, it was
pushed right after it was deleted, or anything else. -/
inductive Standing where
  | kept
  | deleted
  | replaced
  | mixed
  deriving DecidableEq

/-- How the list under a key stands after some calls, of which the latest comes first. -/
def standing (k : String) : List Call → Standing
  | [] => .kept
  | .del k' :: calls => if k' = k then .deleted else standing k calls
  | .rpush k' _ :: calls =>
      if k' = k then
        if calls.head? = some (.del k) then .replaced else .mixed
      else standing k calls
  | .set k' _ :: calls => if k' = k then .mixed else standing k calls
  | _ :: calls => standing k calls

/-- The version that is read. -/
def Standing.version (version : String) : Standing → Option String
  | deleted => none
  | _ => some version

/-- The channel URI that is read. -/
def Standing.channelUri (old new : String) : Standing → Option String
  | kept => some old
  | replaced => some new
  | _ => none

/-- The request replaces the list of the device and keeps its version. -/
inductive Updates (deviceId version : String) : Message → Prop where
  | setChannelUri {m : SetChannelUriMessage} (h : m.deviceId = deviceId) :
      Updates deviceId version (.setChannelUri m)
  | setPushAccounts {m : SetPushAccountsMessage} (h : m.deviceId = deviceId)
      (hversion : toString m.version = version) : Updates deviceId version (.setPushAccounts m)

/-- The channel URI of the device after the request. -/
def newUri (old : String) : Message → String
  | .setChannelUri m => m.channelUri
  | _ => old

/-- An event and a request that meet: the node of the event has a record, and the request
replaces the list of its device. -/
structure Scene (config : Configuration) where
  world : World
  stanza : Stanza
  notification : Stanza
  m : Message
  node : String
  accountId : String
  deviceId : String
  secret : String
  channelUri : String
  version : String
  keys : List String
  event : IsEvent config stanza node notification
  record : world.contents.elements node = [accountId, deviceId, secret]
  device : world.contents.elements deviceId = channelUri :: version :: keys
  updates : Updates deviceId version m

namespace Scene

variable {config : Configuration} (platform : Platform) (s : Scene config) (past : Turns)

def initial : Threads Place World :=
  Overlap.initial platform config s.stanza s.m s.world

/-- The version that the event has read. -/
def versionRead : Option String :=
  (standing s.deviceId (issuedBefore 2 past)).version s.version

/-- The channel URI that the event has read. -/
def uriRead : Option String :=
  (standing s.deviceId (issuedBefore 4 past)).channelUri s.channelUri (newUri s.channelUri s.m)

/-- The content for the version that the event has read. -/
def content? : Option String :=
  eventContent platform (s.versionRead past) s.accountId s.notification

/-- The notification for what the event has read. -/
def notification? : Option (String × String) :=
  (s.uriRead past).bind fun channelUri =>
    (s.content? platform past).map fun content => (channelUri, content)

/-- The record of the node has been written by nobody when it is read, and the list of the
device is as it was, deleted or replaced when that is read. -/
structure Orderly : Prop where
  record : ∀ i ∈ [0, 1, 3], standing s.node (issuedBefore i past) = .kept
  device : ∀ i ∈ [2, 4], standing s.deviceId (issuedBefore i past) ≠ .mixed

instance : Decidable (s.Orderly past) :=
  decidable_of_iff ((∀ i ∈ [0, 1, 3], standing s.node (issuedBefore i past) = .kept)
      ∧ ∀ i ∈ [2, 4], standing s.deviceId (issuedBefore i past) ≠ .mixed)
    ⟨fun h => ⟨h.1, h.2⟩, fun h => ⟨h.record, h.device⟩⟩

end Scene

/-- The notifications that were sent. -/
def sent (w : World) : List (String × String) :=
  w.log.filterMap Output.notification?

/-- The list under a key is what its standing says, where `old` is the list it was and `new`
holds of a list that is pushed. -/
def Stands (old : List String) (new : List String → Prop) (w : World) (k : String) :
    Standing → Prop
  | .kept => w.contents.elements k = old
  | .deleted => w.contents k = none
  | .replaced => new (w.contents.elements k)
  | .mixed => True

/-- A call of a thread that replaces the list of the device: a list that is pushed right after
the list of the device was deleted is a new one. -/
def Replaces (deviceId : String) (new : List String → Prop) (before : Option Call) : Call → Prop
  | .rpush k l => k = deviceId → before = some (.del deviceId) → new l
  | .expire _ seconds => 0 < seconds
  | .expireat _ _ => False
  | _ => True

variable {platform : Platform} {config : Configuration} {oracle : Oracle} {w w' : World}
  {k : String} {old : List String} {new : List String → Prop} {calls : List Call} {c : Call}

/-- What leaves the value under a key leaves the list as it stands. -/
theorem Stands.of_values {s : Standing} (h : Stands old new w k s)
    (hk : (w'.contents k).map Entry.value = (w.contents k).map Entry.value) :
  Stands old new w' k s
  := by
  have helements : w'.contents.elements k = w.contents.elements k := by
    unfold Contents.elements
    rcases hw : w.contents k with _ | ⟨v, d⟩
    · rw [hw, Option.map_none, Option.map_eq_none_iff] at hk
      rw [hk]
    · rw [hw, Option.map_some, Option.map_eq_some_iff] at hk
      obtain ⟨⟨v', d'⟩, hk, rfl⟩ := hk
      rw [hk]
      cases v' with
      | list l => rfl
      | string a => rfl
  cases s with
  | kept => exact helements.trans h
  | deleted =>
      rw [Stands, ← Option.map_eq_none_iff (f := Entry.value), hk]
      exact Option.map_eq_none_iff.mpr h
  | replaced =>
      rw [Stands, helements]
      apply h
  | mixed => trivial

/-- Another expiry leaves the value. -/
theorem value_expireAt {k' : String} {t : Int} (ht : w.redis.clock < t)
    (hw' : w'.redis = w.redis.expireAt k' t) (k : String) :
  (w'.contents k).map Entry.value = (w.contents k).map Entry.value
  := by
  rw [World.contents, World.contents, hw', Store.lookup_expireAt _ _ _ ht]
  split
  · next hk =>
      subst hk
      rw [Option.map_map]
      rfl
  · rfl

/-- Of a list that is not looked at, anything may be pushed. -/
theorem Replaces.any {deviceId : String} {before : Option Call} (h : Replaces deviceId new before c)
    (k : String) :
  Replaces k (fun _ => True) before c
  := by
  cases c with
  | rpush k' l => exact fun _ _ => trivial
  | expire k' seconds => exact h
  | expireat k' seconds => exact h
  | _ => trivial

/-- A call of a thread that replaces a list makes of it what its standing says. -/
theorem Stands.perform (hc : Replaces k new calls.head? c)
    (h : Stands old new w k (standing k calls)) :
  Stands old new (World.perform oracle c w).2 k (standing k (c :: calls))
  := by
  cases c with
  | lrange k' =>
      rw [perform_of_isReading (.inl ⟨k', rfl⟩)]
      apply h
  | get k' =>
      rw [perform_of_isReading (.inr ⟨k', rfl⟩)]
      apply h
  | set k' a =>
      rw [standing]
      split
      · trivial
      · next hne =>
          apply h.of_values
          apply congrArg
          exact (Store.lookup_set _ _ _ a).trans (if_neg (Ne.symm hne))
  | del k' =>
      rw [standing]
      split
      · next heq => exact (Store.lookup_del _ _ _).trans (if_pos heq.symm)
      · next hne =>
          apply h.of_values
          apply congrArg
          exact (Store.lookup_del _ _ _).trans (if_neg (Ne.symm hne))
  | rpush k' l =>
      rw [standing]
      split
      · next heq =>
          subst heq
          split
          · next hhead =>
              obtain ⟨rest, rfl⟩ := List.head?_eq_some_iff.mp hhead
              rw [standing, if_pos rfl] at h
              have hl : new l := hc rfl hhead
              have hput : (w.redis.put k' ⟨.list l, none⟩).lookup k' = some ⟨.list l, none⟩ :=
                (Store.lookup_put _ _ _ rfl).trans (if_pos rfl)
              rw [World.perform, Store.push_of_none h]
              change new (Contents.elements (w.redis.put k' ⟨.list l, none⟩).lookup k')
              rw [Contents.elements_of_eq hput]
              apply hl
          · trivial
      · next hne =>
          apply h.of_values
          apply congrArg
          rw [World.perform]
          rcases hpush : w.redis.push k' l with e | redis
          · rfl
          · exact Store.lookup_push_of_ne hpush (Ne.symm hne)
  | expire k' seconds =>
      have hpos : (0 : Int) < seconds * second := by
        apply Int.mul_pos (Int.natCast_pos.mpr hc) (by decide)
      apply h.of_values
      apply value_expireAt (t := w.redis.clock + seconds * second) (by omega) rfl
  | expireat k' seconds => exact hc.elim
  | _ => exact h.of_values rfl

/-! ### The TCP thread -/

/-- The list is that of a device with the channel URI of the request. -/
def IsNew (channelUri version : String) (m : Message) (l : List String) : Prop :=
  ∃ keys, l = newUri channelUri m :: version :: keys

/-- The call neither pushes nor sets an expiry. -/
def Idle : Call → Prop
  | .rpush _ _ => False
  | .expire _ _ => False
  | .expireat _ _ => False
  | _ => True

theorem idle_of_isReading (h : IsReading c) :
  Idle c
  := by
  rcases h with ⟨k, rfl⟩ | ⟨k, rfl⟩
  · trivial
  · trivial

variable {α : Type} {p : Server α} {before : Option Call} {deviceId channelUri version : String}

/-- Idle calls may come anywhere. -/
theorem idle_replaces (h : Idle c) (before : Option Call) :
  Replaces deviceId new before c
  := by
  cases c with
  | rpush k l => exact h.elim
  | expire k seconds => exact h.elim
  | expireat k seconds => exact h.elim
  | _ => trivial

theorem follows_idle (h : p.Calls Idle) (before : Option Call) :
  p.Follows (Replaces deviceId new) before
  := by
  apply (h.mono _).follows
  intro c hc before
  apply idle_replaces hc

/-- The expiry that `append` sets. -/
theorem follows_expire (k : String) (before : Option Call) :
  (Redis.expire k RedisClient.DEFAULT_ENTRY_TIMEOUT).Follows (Replaces deviceId new) before
  := by
  apply Program.Calls.follows
  apply Program.calls_invoke
  intro before
  exact (by decide : 0 < RedisClient.DEFAULT_ENTRY_TIMEOUT)

/-- The list of a node is not pushed right after the list of the device was deleted. -/
theorem follows_addAccount (account : PushAccount) (before : Option Call) :
  (RedisClient.addAccount platform deviceId account).Follows (Replaces deviceId new) before
  := by
  apply Program.follows_invoke_bind (by trivial)
  intro _
  apply Program.follows_invoke_bind (by exact (by decide : 0 < RedisClient.DEFAULT_ENTRY_TIMEOUT))
  intro _
  apply Program.follows_invoke_bind
  · rintro - ⟨⟩
  · intro _
    apply follows_expire

/-- The list of a device is deleted and the new one is pushed. -/
theorem follows_del_append {l : List String} (h : new l) (before : Option Call) :
  (do
    Redis.del deviceId
    RedisClient.append deviceId l).Follows (Replaces deviceId new) before
  := by
  apply Program.follows_invoke_bind (by trivial)
  intro _
  apply Program.follows_invoke_bind
  · intro _ _
    apply h
  · intro _
    apply follows_expire

theorem idle_removeDevice (deviceId : String) :
  (RedisClient.removeDevice deviceId).Calls Idle
  := by
  apply Program.calls_bind (Program.calls_invoke (by trivial))
  intro keys
  split
  · apply Program.calls_pure
  · apply Program.calls_bind
    · apply Program.calls_forM
      intro account _
      apply Program.calls_bind (Program.calls_invoke (by trivial))
      intro _
      apply Program.calls_bind (Program.calls_invoke (by trivial))
      rintro (_ | node)
      · apply Program.calls_pure
      · exact Program.calls_invoke (by trivial)
    · intro _
      exact Program.calls_invoke (by trivial)

theorem follows_setPushAccounts (accounts : List PushAccount) (before : Option Call)
    (h : ∀ keys, new (channelUri :: version :: keys)) :
  (RedisClient.setPushAccounts platform deviceId channelUri version accounts).Follows
    (Replaces deviceId new) before
  := by
  apply Program.follows_bind (follows_idle (idle_removeDevice deviceId) before)
  intro _ before
  apply Program.follows_bind
  · apply Program.follows_forM
    intro account _ before
    apply follows_addAccount
  · intro _ before
    apply follows_del_append (h _)

theorem idle_of_pubSub (h : c.PubSub) :
  Idle c
  := by
  rcases h with rfl | ⟨q, rfl⟩
  · trivial
  · trivial

theorem idle_of_collecting (h : c.Collecting) :
  Idle c
  := by
  rcases h with rfl | h
  · trivial
  · apply idle_of_isReading h

theorem follows_reply (m : Message) (before : Option Call) :
  (ClientSslSession.reply m).Follows (Replaces deviceId new) before
  := follows_idle (Program.calls_invoke (by trivial)) before

/-- Of the rest of `set_push_accounts`, only the writes replace the list. -/
theorem follows_registration (oldNodes accounts : List String) (before : Option Call)
    (h : ∀ keys, new (channelUri :: version :: keys)) :
  (do
    let pending ← accounts.foldlM (PushServer.collectAccount platform deviceId)
      { pushAccounts := [], deleteNodes := oldNodes, addNodes := [] }
    PushServer.register platform config deviceId channelUri version pending).Follows
      (Replaces deviceId new) before
  := by
  apply Program.follows_bind
  · apply follows_idle
    apply Program.calls_foldlM
    intro p accountId _
    apply (calls_collectAccount platform deviceId p accountId).mono fun c => idle_of_collecting
  · intro pending before
    apply Program.follows_bind
    · apply follows_idle
      apply Program.calls_forM
      intro node _
      apply (calls_deletePushNode node).mono fun c => idle_of_pubSub
    · intro _ before
      apply Program.follows_bind
      · apply follows_idle
        apply Program.calls_foldlM
        intro pushAccounts node _
        apply (calls_setupAccount pushAccounts node).mono fun c => idle_of_pubSub
      · intro pushAccounts before
        apply Program.follows_bind (follows_setPushAccounts pushAccounts before h)
        intro _ before
        apply follows_reply

/-- An exception is answered. -/
theorem follows_tryCatch {p : Server Unit} (hp : p.Follows (Replaces deviceId new) before) :
  (tryCatch p fun e =>
    match e with
    | .exception _ =>
        ClientSslSession.respondWithError
          "Internal server error... Failed to process received JSON message."
    | e => throw e).Follows (Replaces deviceId new) before
  := by
  apply Program.follows_tryCatch hp
  intro e before
  cases e with
  | exception what => apply follows_reply
  | _ => trivial

variable (oracle) in
theorem perform_lrange (h : w.contents.NotString k) :
  World.perform oracle (.lrange k) w = (.ok (w.contents.elements k), w)
  := by
  rw [← Server.run_invoke]
  apply run_lrange_of_notString h

/-- A request begins by reading the list of the device, or it does not replace the list. -/
theorem step_processMessage {m : Message} {keys : List String} {p : Server Unit}
    (hm : Updates deviceId version m)
    (hdevice : w.contents.elements deviceId = channelUri :: version :: keys)
    (h : (PushServer.processMessage platform config m).step (World.perform oracle) w
      = some (p, w')) :
  ∃ c, (PushServer.processMessage platform config m).nextCall = some c ∧ Idle c
    ∧ p.Follows (Replaces deviceId (IsNew channelUri version m)) (some c)
  := by
  have hlist : w.contents.NotString deviceId := by
    apply Contents.notString_of_elements
    rw [hdevice]
    nofun
  have hperform := perform_lrange oracle hlist
  rw [hdevice] at hperform
  cases hm with
  | @setChannelUri m hid =>
      subst hid
      by_cases hvalid : PushServer.isValidChannelUri m.channelUri = true
      · have hhandle : PushServer.handleMessage platform config (.setChannelUri m)
            = RedisClient.setChannelUri m.deviceId m.channelUri
              >>= fun _ => ClientSslSession.respondWithSuccess := by
          rw [PushServer.handleMessage, PushServer.setChannelUri, if_pos hvalid]
        rw [PushServer.processMessage, hhandle, RedisClient.setChannelUri] at h ⊢
        have hstep := h.symm.trans (Program.step_tryCatch_invoke_ok hperform _ _ _)
        cases hstep
        refine ⟨_, rfl, trivial, ?_⟩
        apply follows_tryCatch
        apply Program.follows_bind
        · apply follows_del_append ⟨keys, rfl⟩
        · intro _ before
          apply follows_reply
      · have hhandle : PushServer.handleMessage platform config (.setChannelUri m)
            = ClientSslSession.respondWithError
              "Invalid channel URI. Has to use the domain 'notify.windows.com'." := by
          rw [PushServer.handleMessage, PushServer.setChannelUri, if_neg hvalid]
        rw [PushServer.processMessage, hhandle] at h ⊢
        cases h
        exact ⟨_, rfl, trivial, trivial⟩
  | @setPushAccounts m hid hversion =>
      subst hid hversion
      have hstep := h.symm.trans (Program.step_tryCatch_invoke_ok hperform _ _ _)
      cases hstep
      refine ⟨_, rfl, trivial, ?_⟩
      apply follows_tryCatch
      rw [List.head?_cons, pure_bind]
      apply Program.follows_bind
      · apply follows_idle
        apply (reading_getPushNodes m.deviceId).mono fun c => idle_of_isReading
      · intro oldNodes before
        apply follows_registration
        intro keys
        exact ⟨_, rfl⟩

/-! ### Calls that notify nobody -/

/-- The call does not begin a notification. -/
def Silent : Call → Prop
  | .sending _ _ => False
  | _ => True

theorem silent_of_isReading (h : IsReading c) :
  Silent c
  := by
  rcases h with ⟨k, rfl⟩ | ⟨k, rfl⟩
  · trivial
  · trivial

theorem silent_of_redis (h : c.Redis) :
  Silent c
  := by
  rcases h with h | h
  · apply silent_of_isReading h
  · cases c with
    | sending channelUri content => exact h.elim
    | _ => trivial

theorem silent_of_pubSub (h : c.PubSub) :
  Silent c
  := by
  rcases h with rfl | ⟨q, rfl⟩
  · trivial
  · trivial

theorem silent_of_collecting (h : c.Collecting) :
  Silent c
  := by
  rcases h with rfl | h
  · trivial
  · apply silent_of_isReading h

/-- A silent call sends no notification. -/
theorem sent_perform (h : Silent c) :
  sent (World.perform oracle c w).2 = sent w
  := by
  cases c with
  | lrange k => rw [perform_of_isReading (.inl ⟨k, rfl⟩)]
  | get k => rw [perform_of_isReading (.inr ⟨k, rfl⟩)]
  | rpush k l =>
      rw [World.perform]
      rcases w.redis.push k l with e | redis
      · rfl
      · rfl
  | send q => simp [sent, World.perform, World.tell, Output.notification?]
  | post r => simp [sent, World.perform, World.tell, Output.notification?]
  | reply m => simp [sent, World.perform, World.tell, Output.notification?]
  | sending channelUri content => exact h.elim
  | _ => rfl

theorem silent_reply (m : Message) :
  (ClientSslSession.reply m).Calls Silent
  := Program.calls_invoke (by trivial)

theorem silent_handleMessage {m : Message} (hm : Updates deviceId version m) :
  (PushServer.handleMessage platform config m).Calls Silent
  := by
  cases hm with
  | @setChannelUri m hid =>
      change (PushServer.setChannelUri m.deviceId m.channelUri).Calls Silent
      unfold PushServer.setChannelUri
      split
      · apply Program.calls_bind
        · apply (commands_setChannelUri _ _).calls.mono fun c => silent_of_redis
        · intro _
          apply silent_reply
      · apply silent_reply
  | @setPushAccounts m hid hversion =>
      apply Program.calls_bind
      · apply (commands_getChannelUri _).calls.mono fun c => silent_of_redis
      · rintro (_ | channelUri)
        · apply silent_reply
        · apply Program.calls_bind
          · apply (reading_getPushNodes m.deviceId).mono fun c => silent_of_isReading
          · intro oldNodes
            apply Program.calls_bind
            · apply Program.calls_foldlM
              intro p accountId _
              apply (calls_collectAccount _ _ p accountId).mono fun c => silent_of_collecting
            · intro pending
              apply Program.calls_bind
              · apply Program.calls_forM
                intro node _
                apply (calls_deletePushNode node).mono fun c => silent_of_pubSub
              · intro _
                apply Program.calls_bind
                · apply Program.calls_foldlM
                  intro pushAccounts node _
                  apply (calls_setupAccount pushAccounts node).mono fun c => silent_of_pubSub
                · intro pushAccounts
                  apply Program.calls_bind
                  · apply (commands_setPushAccounts _ _ _ _ _).calls.mono
                    intro c
                    apply silent_of_redis
                  · intro _
                    apply silent_reply

theorem silent_processMessage {m : Message} (hm : Updates deviceId version m) :
  (PushServer.processMessage platform config m).Calls Silent
  := by
  apply Program.calls_tryCatch (silent_handleMessage hm)
  intro e
  cases e with
  | exception what => apply silent_reply
  | _ => apply Program.calls_throw

theorem silent_requestNewToken :
  (WnsClient.requestNewToken platform config).Calls Silent
  := by
  apply Program.calls_bind (Program.calls_invoke (by trivial))
  intro response
  split
  · apply Program.calls_pure
  · apply Program.calls_bind
    · apply (calls_fromResponse platform _).mono
      rintro c rfl
      trivial
    · intro token
      apply Program.calls_bind (Program.calls_invoke (by trivial))
      intro _
      cases token with
      | none => apply Program.calls_pure
      | some token =>
          apply Program.calls_bind
          · apply (commands_setWnsToken _ _ _).calls.mono fun c => silent_of_redis
          · intro _
            apply Program.calls_pure

theorem silent_postAttempts (request : HttpRequest) (attempts : ℕ) :
  (WnsClient.postAttempts platform config request attempts).Calls Silent
  := by
  have hcode : ∀ statusCode,
      (WnsClient.handleResponseCode platform config statusCode).Calls Silent := by
    intro statusCode
    unfold WnsClient.handleResponseCode
    split
    · apply Program.calls_pure
    · split
      · apply Program.calls_bind silent_requestNewToken
        intro success
        split
        · apply Program.calls_pure
        · apply Program.calls_pure
      · split
        · apply Program.calls_pure
        · apply Program.calls_pure
  induction attempts with
  | zero => apply Program.calls_pure
  | succ attempts ih =>
      apply Program.calls_bind (Program.calls_invoke (by trivial))
      intro response
      split
      · apply ih
      · apply Program.calls_bind (hcode _)
        rintro (_ | _ | _)
        · apply Program.calls_pure
        · apply ih
        · apply Program.calls_pure

/-- Once a notification has begun, no other begins. -/
theorem silent_postNotification (channelUri content : String) :
  (WnsClient.postNotification platform config channelUri content).Calls Silent
  := by
  apply Program.calls_bind
  · apply Program.calls_bind
    · apply calls_isTokenValid.mono
      rintro c (rfl | rfl)
      · trivial
      · trivial
    · intro valid
      split
      · apply Program.calls_pure
      · apply silent_requestNewToken
  · intro ready
    split
    · apply Program.calls_bind (Program.calls_invoke (by trivial))
      rintro (_ | token)
      · apply Program.calls_throw
      · apply silent_postAttempts
    · apply Program.calls_pure

/-! ### The XMPP thread -/

section

variable (platform config)

/-- The handling of an event once the version is known. -/
def dispatch (node accountId : String) (notification : Stanza) (version : Option String) :
    Server Unit :=
  if version = some "2" then
    XmppClient.sendV2Push (PushServer.onV2MessageForNode platform config) accountId node
      notification
  else
    XmppClient.sendV1Push platform (PushServer.onV1MessageForNode platform config) accountId
      node notification

/-- Notify a channel URI, if there is one. -/
def notifyIfAny (content : String) : Option String → Server Unit
  | none => return
  | some channelUri => notify platform config channelUri content

/-- The handling of an event once the content is known. -/
def deliver (node content : String) : Server Unit :=
  PushServer.channelUriOfNode node >>= notifyIfAny platform config content

end

variable {node accountId secret content : String} {notification : Stanza}

variable (platform config) in
theorem deliver_eq_onV1 (node msg : String) :
  PushServer.onV1MessageForNode platform config node msg = deliver platform config node msg
  := by
  rw [PushServer.onV1MessageForNode, deliver]
  congr 1

variable (platform config) in
theorem deliver_eq_onV2 (node accountId : String) (counts : Int × Int) :
  PushServer.onV2MessageForNode platform config node accountId counts.1 counts.2
    = deliver platform config node
      (platform.dump ((PushMessage.ofFields accountId counts.1 counts.2).toJson .null))
  := by
  rw [PushServer.onV2MessageForNode, deliver]
  congr 1

/-- An event with a content is delivered. -/
theorem dispatch_eq_deliver {v : Option String}
    (h : eventContent platform v accountId notification = some content) :
  dispatch platform config node accountId notification v = deliver platform config node content
  := by
  unfold eventContent at h
  unfold dispatch
  split at h
  · next hv =>
      rw [if_pos hv, XmppClient.sendV2Push]
      split at h
      · next counts hcounts =>
          cases h
          rw [hcounts]
          exact deliver_eq_onV2 platform config node accountId counts
      · cases h
  · next hv =>
      rw [if_neg hv, XmppClient.sendV1Push]
      obtain ⟨msg, hmsg, rfl⟩ := Option.map_eq_some_iff.mp h
      rw [hmsg]
      simp only [deliver_eq_onV1]
      split
      · rfl
      · rfl

/-- An event without a content ends the handler. -/
theorem step_dispatch_none {v : Option String}
    (h : eventContent platform v accountId notification = none) (oracle : Oracle) (w : World) :
  (dispatch platform config node accountId notification v).step (World.perform oracle) w = none
  := by
  unfold eventContent at h
  unfold dispatch
  split at h
  · next hv =>
      rw [if_pos hv, XmppClient.sendV2Push]
      split at h
      · cases h
      · next e hcounts =>
          rw [hcounts]
          rfl
  · next hv =>
      rw [if_neg hv, XmppClient.sendV1Push, Option.map_eq_none_iff.mp h]
      rfl

/-- The record of a node is read. -/
theorem perform_record (oracle : Oracle)
    (h : w.contents.elements node = [accountId, deviceId, secret]) :
  World.perform oracle (.lrange node) w = (.ok [accountId, deviceId, secret], w)
  := by
  have hlist : w.contents.NotString node := by
    apply Contents.notString_of_elements
    rw [h]
    nofun
  rw [perform_lrange oracle hlist, h]

variable (platform config oracle notification) in
theorem step_event (h : w.contents.elements node = [accountId, deviceId, secret]) :
  (handleEvent platform config node notification).step (World.perform oracle) w
    = some (XmppClient.versionOfNode node
      >>= dispatch platform config node accountId notification, w)
  := by
  change some (Program.bind (Program.bind _ _) _, _) = _
  rw [perform_record oracle h]
  rfl

theorem step_version {f : Option String → Server Unit}
    (h : w.contents.elements node = [accountId, deviceId, secret]) :
  (XmppClient.versionOfNode node >>= f).step (World.perform oracle) w
    = some (RedisClient.getVersion deviceId >>= f, w)
  := by
  change some (Program.bind (Program.bind (Program.bind _ _) _) _, _) = _
  rw [perform_record oracle h]
  rfl

theorem step_deliver (h : w.contents.elements node = [accountId, deviceId, secret]) :
  (deliver platform config node content).step (World.perform oracle) w
    = some (RedisClient.getChannelUri deviceId >>= notifyIfAny platform config content, w)
  := by
  change some (Program.bind (Program.bind (Program.bind _ _) _) _, _) = _
  rw [perform_record oracle h]
  rfl

/-- The version and the channel URI that are read where the list stands. -/
theorem Stands.read {m : Message} {keys : List String} {s : Standing}
    (h : Stands (channelUri :: version :: keys) (IsNew channelUri version m) w deviceId s)
    (hs : s ≠ .mixed) (oracle : Oracle) :
  ∃ l : List String, World.perform oracle (.lrange deviceId) w = (.ok l, w)
    ∧ l[1]? = s.version version ∧ l.head? = s.channelUri channelUri (newUri channelUri m)
  := by
  have hread : ∀ l, w.contents.elements deviceId = l → l ≠ [] →
      World.perform oracle (.lrange deviceId) w = (.ok l, w) := by
    rintro l rfl hl
    apply perform_lrange oracle (Contents.notString_of_elements hl)
  cases s with
  | kept => exact ⟨_, hread _ h nofun, rfl, rfl⟩
  | deleted =>
      have hlist : w.contents.NotString deviceId := by
        intro a d ha
        cases h.symm.trans ha
      have hnil : w.contents.elements deviceId = [] := by
        unfold Contents.elements
        rw [show w.contents deviceId = none from h]
      use [], (perform_lrange oracle hlist).trans (by rw [hnil])
      exact ⟨rfl, rfl⟩
  | replaced =>
      obtain ⟨keys, hkeys⟩ := h
      exact ⟨_, hread _ hkeys nofun, rfl, rfl⟩
  | mixed => exact (hs rfl).elim

theorem step_getVersion {f : Option String → Server Unit} {l : List String}
    (h : World.perform oracle (.lrange deviceId) w = (.ok l, w)) :
  (RedisClient.getVersion deviceId >>= f).step (World.perform oracle) w = some (f l[1]?, w)
  := by
  change some (Program.bind (Program.bind _ _) _, _) = _
  rw [h]
  rcases l with _ | ⟨a, _ | ⟨b, l⟩⟩
  · rfl
  · rfl
  · rfl

theorem step_getChannelUri {f : Option String → Server Unit} {l : List String}
    (h : World.perform oracle (.lrange deviceId) w = (.ok l, w)) :
  (RedisClient.getChannelUri deviceId >>= f).step (World.perform oracle) w = some (f l.head?, w)
  := by
  change some (Program.bind (Program.bind _ _) _, _) = _
  rw [h]
  rfl

/-! ### Every schedule -/

section

variable {past : Turns} {t t' : Threads Place World} {i : ℕ}

theorem turns_xmpp :
  turns (⟨.xmpp, t, t'⟩ :: past) = turns past + 1
  := List.count_cons_self

theorem turns_tcp :
  turns (⟨.tcp, t, t'⟩ :: past) = turns past
  := by
  have hne : Thread.tcp ≠ Thread.xmpp := nofun
  rw [turns, List.map_cons, List.count_cons_of_ne hne]
  rfl

/-- Before its turn nothing is known of it. -/
theorem issuedBefore_of_le (h : turns past ≤ i) :
  issuedBefore i past = []
  := by
  induction past with
  | nil => rfl
  | cons x past ih =>
      obtain ⟨e, t, t'⟩ := x
      cases e with
      | xmpp =>
          rw [turns_xmpp] at h
          rw [issuedBefore, if_neg (by omega)]
          apply ih
          omega
      | tcp =>
          rw [turns_tcp] at h
          apply ih h

theorem issuedBefore_self (h : turns past = i) :
  issuedBefore i (⟨.xmpp, t, t'⟩ :: past) = issued past
  := if_pos h

theorem issuedBefore_of_ne (h : turns past ≠ i) :
  issuedBefore i (⟨.xmpp, t, t'⟩ :: past) = issuedBefore i past
  := if_neg h

/-- What was issued before a turn is the same after a later turn. -/
theorem issuedBefore_cons (x : Transition Thread (Threads Place World)) :
  issuedBefore i past = [] ∨ issuedBefore i (x :: past) = issuedBefore i past
  := by
  obtain ⟨e, t, t'⟩ := x
  cases e with
  | xmpp =>
      by_cases h : turns past = i
      · exact .inl (issuedBefore_of_le h.le)
      · exact .inr (issuedBefore_of_ne h)
  | tcp => exact .inr rfl

variable {s : Scene config} {x : Transition Thread (Threads Place World)}

theorem Scene.Orderly.tail (h : s.Orderly (x :: past)) :
  s.Orderly past
  := by
  constructor
  · intro i hi
    rcases issuedBefore_cons x with hnil | hsame
    · rw [hnil]
      rfl
    · rw [← hsame]
      apply h.record i hi
  · intro i hi
    rcases issuedBefore_cons x with hnil | hsame
    · rw [hnil]
      nofun
    · rw [← hsame]
      apply h.device i hi

/-- After its third turn an event has read the version, and after its fifth the channel URI. -/
theorem Scene.content?_xmpp (h : turns past ≠ 2) :
  s.content? platform (⟨.xmpp, t, t'⟩ :: past) = s.content? platform past
  := by
  rw [content?, content?, versionRead, versionRead, issuedBefore_of_ne h]

theorem Scene.uriRead_xmpp (h : turns past ≠ 4) :
  s.uriRead (⟨.xmpp, t, t'⟩ :: past) = s.uriRead past
  := by
  rw [uriRead, uriRead, issuedBefore_of_ne h]

variable (platform past) in
/-- What is left of an event that has not notified yet, by the number of its turns. -/
inductive Reads (s : Scene config) : ℕ → Server Unit → Prop where
  | event : Reads s 0 (handleEvent platform config s.node s.notification)
  | device : Reads s 1 (XmppClient.versionOfNode s.node
      >>= dispatch platform config s.node s.accountId s.notification)
  | version : Reads s 2 (RedisClient.getVersion s.deviceId
      >>= dispatch platform config s.node s.accountId s.notification)
  | content {content : String} (h : s.content? platform past = some content) :
      Reads s 3 (deliver platform config s.node content)
  | route {content : String} (h : s.content? platform past = some content) :
      Reads s 4 (RedisClient.getChannelUri s.deviceId >>= notifyIfAny platform config content)
  | uri {content channelUri : String} (h : s.content? platform past = some content)
      (huri : s.uriRead past = some channelUri) :
      Reads s 5 (notify platform config channelUri content)

theorem Reads.of_eq {past' : Turns} {n : ℕ} {p : Server Unit} (h : Reads platform past s n p)
    (hcontent : s.content? platform past' = s.content? platform past)
    (huri : s.uriRead past' = s.uriRead past) :
  Reads platform past' s n p
  := by
  cases h with
  | event => exact .event
  | device => exact .device
  | version => exact .version
  | content h => exact .content (hcontent.trans h)
  | route h => exact .route (hcontent.trans h)
  | uri h h' => exact .uri (hcontent.trans h) (huri.trans h')

/-- Nothing was notified yet, and the lists stand as the calls of the TCP thread say. -/
structure Unsent (platform : Platform) (s : Scene config) (past : Turns)
    (t : Threads Place World) : Prop where
  node : Stands [s.accountId, s.deviceId, s.secret] (fun _ => True) t.shared s.node
    (standing s.node (issued past))
  device : Stands (s.channelUri :: s.version :: s.keys) (IsNew s.channelUri s.version s.m)
    t.shared s.deviceId (standing s.deviceId (issued past))
  tcp : issued past = [] ∧ t.locals .tcp = PushServer.processMessage platform config s.m
    ∨ (t.locals .tcp).Follows (Replaces s.deviceId (IsNew s.channelUri s.version s.m))
      (issued past).head?
  xmpp : Reads platform past s (turns past) (t.locals .xmpp)
  sent : sent t.shared = sent s.world

/-- What is to be notified was notified. -/
structure Done (platform : Platform) (s : Scene config) (past : Turns)
    (t : Threads Place World) : Prop where
  read : 5 ≤ turns past ∨ 3 ≤ turns past ∧ s.content? platform past = none
  xmpp : (t.locals .xmpp).Calls Silent
  sent : sent t.shared = sent s.world ++ (s.notification? platform past).toList

/-- The TCP thread makes its next call. -/
theorem Unsent.tcp_turn (h : Unsent platform s past t) {p : Server Unit} {w : World} {c : Call}
    (hc : (t.locals .tcp).nextCall = some c) (hsilent : Silent c)
    (hstep : step oracle .tcp (t.locals .tcp) t.shared = some (p, w)) :
  Unsent platform s (⟨.tcp, t, t'⟩ :: past) ⟨Function.update t.locals .tcp p, w⟩
  := by
  obtain ⟨c', hc', hw⟩ := Program.step_eq_some hstep
  cases hc.symm.trans hc'
  have hissued : issued (⟨.tcp, t, t'⟩ :: past) = c :: issued past := by
    rw [issued, hc]
    rfl
  -- The first call reads the list of the device as it was.
  have hreplaces : Replaces s.deviceId (IsNew s.channelUri s.version s.m) (issued past).head? c
      ∧ p.Follows (Replaces s.deviceId (IsNew s.channelUri s.version s.m)) (some c) := by
    rcases h.tcp with ⟨hnil, hstart⟩ | hfollows
    · have hdevice := h.device
      rw [hnil] at hdevice
      rw [hstart] at hstep hc
      obtain ⟨c', hc', hidle, hfollows⟩ := step_processMessage s.updates hdevice hstep
      cases hc.symm.trans hc'
      use idle_replaces hidle _, hfollows
    · exact hfollows.step hstep hc
  constructor
  · rw [hissued, hw]
    exact h.node.perform (hreplaces.1.any s.node)
  · rw [hissued, hw]
    exact h.device.perform hreplaces.1
  · rw [hissued]
    exact .inr hreplaces.2
  · rw [turns_tcp]
    exact h.xmpp.of_eq rfl rfl
  · rw [hw, sent_perform hsilent]
    apply h.sent

/-- The record of the node is read as it was. -/
theorem Unsent.record (h : Unsent platform s past t) (horderly : s.Orderly (⟨.xmpp, t, t'⟩ :: past))
    (hi : i ∈ [0, 1, 3]) (hturns : turns past = i) :
  t.shared.contents.elements s.node = [s.accountId, s.deviceId, s.secret]
  := by
  have hnode := h.node
  have hkept := horderly.record i hi
  rw [issuedBefore_self hturns] at hkept
  rw [hkept] at hnode
  apply hnode

/-- The version is read where the list of the device stands. -/
theorem Unsent.reads_version (h : Unsent platform s past t)
    (horderly : s.Orderly (⟨.xmpp, t, t'⟩ :: past)) (hturns : turns past = 2) (oracle : Oracle) :
  ∃ l : List String, World.perform oracle (.lrange s.deviceId) t.shared = (.ok l, t.shared)
    ∧ l[1]? = s.versionRead (⟨.xmpp, t, t'⟩ :: past)
  := by
  have hread := horderly.device 2 (by simp)
  rw [issuedBefore_self hturns] at hread
  obtain ⟨l, hl, hversion, -⟩ := h.device.read hread oracle
  use l, hl
  rw [Scene.versionRead, issuedBefore_self hturns]
  apply hversion

/-- The channel URI is read where the list of the device stands. -/
theorem Unsent.reads_uri (h : Unsent platform s past t)
    (horderly : s.Orderly (⟨.xmpp, t, t'⟩ :: past)) (hturns : turns past = 4) (oracle : Oracle) :
  ∃ l : List String, World.perform oracle (.lrange s.deviceId) t.shared = (.ok l, t.shared)
    ∧ l.head? = s.uriRead (⟨.xmpp, t, t'⟩ :: past)
  := by
  have hread := horderly.device 4 (by simp)
  rw [issuedBefore_self hturns] at hread
  obtain ⟨l, hl, -, huri⟩ := h.device.read hread oracle
  use l, hl
  rw [Scene.uriRead, issuedBefore_self hturns]
  apply huri

/-- A read leaves the world, so only what is left of the event changes. -/
theorem Unsent.reads_on (h : Unsent platform s past t) {p : Server Unit}
    (hreads : Reads platform (⟨.xmpp, t, t'⟩ :: past) s (turns past + 1) p) :
  Unsent platform s (⟨.xmpp, t, t'⟩ :: past) ⟨Function.update t.locals .xmpp p, t.shared⟩
  := by
  constructor
  · apply h.node
  · apply h.device
  · apply h.tcp
  · rw [turns_xmpp]
    exact hreads
  · apply h.sent

/-- An event that ends after a read has nothing to notify. -/
theorem Unsent.ends (h : Unsent platform s past t) {p : Server Unit}
    (hread : 5 ≤ turns past + 1
      ∨ 3 ≤ turns past + 1 ∧ s.content? platform (⟨.xmpp, t, t'⟩ :: past) = none)
    (hsilent : p.Calls Silent)
    (hnone : s.notification? platform (⟨.xmpp, t, t'⟩ :: past) = none) :
  Done platform s (⟨.xmpp, t, t'⟩ :: past) ⟨Function.update t.locals .xmpp p, t.shared⟩
  := by
  constructor
  · rw [turns_xmpp]
    apply hread
  · apply hsilent
  · rw [hnone, Option.toList_none, List.append_nil]
    apply h.sent

/-- The XMPP thread makes its next call: it reads on, or what is to be notified is notified. -/
theorem Unsent.xmpp_turn (h : Unsent platform s past t) {p : Server Unit} {w : World}
    (horderly : s.Orderly (⟨.xmpp, t, t'⟩ :: past))
    (hstep : step oracle .xmpp (t.locals .xmpp) t.shared = some (p, w)) :
  Unsent platform s (⟨.xmpp, t, t'⟩ :: past) ⟨Function.update t.locals .xmpp p, w⟩
    ∨ Done platform s (⟨.xmpp, t, t'⟩ :: past) ⟨Function.update t.locals .xmpp p, w⟩
  := by
  have hx := h.xmpp
  generalize hn : turns past = n at hx
  generalize hq : t.locals .xmpp = q at hx hstep
  cases hx with
  | event =>
      have hrecord := h.record horderly (by simp) hn
      cases hstep.symm.trans (step_event platform config oracle s.notification hrecord)
      apply Or.inl
      apply h.reads_on
      rw [hn]
      exact .device
  | device =>
      have hrecord := h.record horderly (by simp) hn
      cases hstep.symm.trans (step_version hrecord)
      apply Or.inl
      apply h.reads_on
      rw [hn]
      exact .version
  | version =>
      obtain ⟨l, hl, hversion⟩ := h.reads_version horderly hn oracle
      cases hstep.symm.trans (step_getVersion hl)
      rw [hversion]
      rcases hcontent : s.content? platform (⟨.xmpp, t, t'⟩ :: past) with _ | content
      · refine .inr (h.ends (.inr ⟨by omega, hcontent⟩) ?_ ?_)
        · exact Program.calls_of_step_none (step_dispatch_none hcontent oracle t.shared)
        · rw [Scene.notification?, hcontent]
          apply Option.bind_eq_none_iff.mpr
          intro channelUri _
          rfl
      · rw [dispatch_eq_deliver hcontent]
        apply Or.inl
        apply h.reads_on
        rw [hn]
        exact .content hcontent
  | @content content h' =>
      have hrecord := h.record horderly (by simp) hn
      cases hstep.symm.trans (step_deliver hrecord)
      apply Or.inl
      apply h.reads_on
      rw [hn]
      apply Reads.route
      rw [Scene.content?_xmpp (by omega)]
      apply h'
  | @route content h' =>
      obtain ⟨l, hl, huri⟩ := h.reads_uri horderly hn oracle
      cases hstep.symm.trans (step_getChannelUri hl)
      rw [huri]
      rcases hread : s.uriRead (⟨.xmpp, t, t'⟩ :: past) with _ | channelUri
      · refine .inr (h.ends (.inl (by omega)) (by trivial) ?_)
        rw [Scene.notification?, hread]
        rfl
      · apply Or.inl
        apply h.reads_on
        rw [hn]
        apply Reads.uri _ hread
        rw [Scene.content?_xmpp (by omega)]
        apply h'
  | @uri content channelUri h' huri =>
      have hnext : step oracle .xmpp (notify platform config channelUri content) t.shared
          = some (WnsClient.postNotification platform config channelUri content
            >>= fun _ => pure (), t.shared.tell (.sending channelUri content)) := rfl
      cases hstep.symm.trans hnext
      apply Or.inr
      constructor
      · rw [turns_xmpp, hn]
        exact .inl (by omega)
      · dsimp only
        rw [Function.update_self]
        apply Program.calls_bind (silent_postNotification channelUri content)
        intro _
        apply Program.calls_pure
      · rw [Scene.notification?, Scene.content?_xmpp (by omega), Scene.uriRead_xmpp (by omega), h',
          huri, ← h.sent]
        simp [Overlap.sent, World.tell, Output.notification?]

/-- Every turn of an event that has not notified yet makes a call. -/
theorem Reads.nextCall_ne_none {n : ℕ} {p : Server Unit} (h : Reads platform past s n p) :
  p.nextCall ≠ none
  := by
  cases h with
  | _ => exact Option.some_ne_none _

/-- The turn of a thread that has ended changes nothing. -/
theorem Unsent.tcp_ended (h : Unsent platform s past t) (hc : (t.locals .tcp).nextCall = none) :
  Unsent platform s (⟨.tcp, t, t'⟩ :: past) t
  := by
  have hissued : issued (⟨.tcp, t, t'⟩ :: past) = issued past := by
    rw [issued, hc]
    rfl
  constructor
  · rw [hissued]
    apply h.node
  · rw [hissued]
    apply h.device
  · rw [hissued]
    apply h.tcp
  · rw [turns_tcp]
    exact h.xmpp.of_eq rfl rfl
  · apply h.sent

/-- What was notified stays notified. -/
theorem Done.turn (h : Done platform s past t) (e : Thread) {u : Threads Place World}
    (hxmpp : (u.locals .xmpp).Calls Silent)
    (hsent : Overlap.sent u.shared = Overlap.sent t.shared) :
  Done platform s (⟨e, t, t'⟩ :: past) u
  := by
  cases e with
  | tcp =>
      constructor
      · rw [turns_tcp]
        exact h.read
      · apply hxmpp
      · rw [hsent]
        exact h.sent
  | xmpp =>
      have hturns : 3 ≤ turns past := by
        rcases h.read with hread | hread
        · omega
        · apply hread.1
      have hcontent : s.content? platform (⟨.xmpp, t, t'⟩ :: past) = s.content? platform past :=
        Scene.content?_xmpp (by omega)
      constructor
      · rw [turns_xmpp, hcontent]
        apply h.read.imp
        · omega
        · rintro ⟨-, hnone⟩
          exact ⟨by omega, hnone⟩
      · apply hxmpp
      · rw [hsent, h.sent, Scene.notification?, Scene.notification?, hcontent]
        rcases h.read with hread | ⟨-, hnone⟩
        · rw [Scene.uriRead_xmpp (by omega)]
        · simp [hnone]

/-- The TCP thread notifies nobody, and the event has not notified yet or has done so. -/
def Sound (platform : Platform) (s : Scene config) (past : Turns) (t : Threads Place World) :
    Prop :=
  (t.locals .tcp).Calls Silent ∧ (Unsent platform s past t ∨ Done platform s past t)

theorem Sound.turn (h : Sound platform s past t) (e : Thread)
    (horderly : s.Orderly (⟨e, t, t'⟩ :: past)) :
  Sound platform s (⟨e, t, t'⟩ :: past) (Threads.next (step oracle) e t)
  := by
  obtain ⟨htcp, h⟩ := h
  rcases hstep : step oracle e (t.locals e) t.shared with _ | ⟨p, w⟩
  · rw [Threads.next_of_none hstep]
    use htcp
    rcases h with h | h
    · cases e with
      | tcp => exact .inl (h.tcp_ended (Program.nextCall_of_step_none hstep))
      | xmpp => exact (h.xmpp.nextCall_ne_none (Program.nextCall_of_step_none hstep)).elim
    · exact .inr (h.turn e h.xmpp rfl)
  · rw [Threads.next_of_some hstep]
    obtain ⟨c, hc, hw⟩ := Program.step_eq_some hstep
    cases e with
    | tcp =>
        have hsilent : Silent c := htcp.nextCall hc
        constructor
        · dsimp only
          rw [Function.update_self]
          apply htcp.step hstep
        · rcases h with h | h
          · exact .inl (h.tcp_turn hc hsilent hstep)
          · apply Or.inr
            apply h.turn .tcp
            · exact h.xmpp
            · rw [hw]
              apply sent_perform hsilent
    | xmpp =>
        constructor
        · exact htcp
        · rcases h with h | h
          · exact h.xmpp_turn horderly hstep
          · apply Or.inr
            apply h.turn .xmpp
            · dsimp only
              rw [Function.update_self]
              apply h.xmpp.step hstep
            · rw [hw]
              apply sent_perform (h.xmpp.nextCall hc)

/-- The threads after every schedule. -/
theorem sound_run (h : Run (Threads.next (step oracle)) (· = s.initial platform) past t)
    (horderly : s.Orderly past) :
  Sound platform s past t
  := by
  induction h with
  | start h =>
      subst h
      use silent_processMessage s.updates
      apply Or.inl
      constructor
      · exact s.record
      · exact s.device
      · exact .inl ⟨rfl, rfl⟩
      · have hevent : PushServer.onStanza platform config s.stanza = _ := onStanza_event s.event
        rw [Scene.initial, initial]
        dsimp only
        rw [hevent]
        exact .event
      · rfl
  | next h e ih => exact (ih horderly.tail).turn e horderly

end

end Overlap

open Overlap

/-- An event whose handler has ended while a request replaced the list of its device: what the
handler read of the list decides whether there is a notification, its content and its channel
URI. -/
theorem notified_of_overlap {platform : Platform} {config : Configuration} {oracle : Oracle}
    (s : Scene config) {past : Turns} {t : Threads Place World}
    (h : Run (Threads.next (step oracle)) (· = s.initial platform) past t)
    (hended : step oracle .xmpp (t.locals .xmpp) t.shared = none) (horderly : s.Orderly past) :
  sent t.shared = sent s.world ++ (s.notification? platform past).toList
  := by
  obtain ⟨-, h | h⟩ := Overlap.sound_run h horderly
  · exact (h.xmpp.nextCall_ne_none (Program.nextCall_of_step_none hended)).elim
  · apply h.sent

namespace Sample

/-- Another channel URI of the device. -/
def otherChannelUri : String := "https://db5.notify.windows.com/?token=b"

/-- A device with version 2 on a platform that prints trees. -/
def registered : World :=
  (Run.trace (fun e w => w.handle xmlPrinter config oracle e) [] world registration).2

theorem elements_registered :
  registered.contents.elements (oracle.node 0) = ["alice", "phone", oracle.secret 0]
    ∧ registered.contents.elements "phone"
      = channelUri :: "2" :: (registered.contents.elements "phone").drop 2
  := by decide +kernel

/-- An event of the node of the device, and a request. -/
def meeting (m : Message) (h : Updates "phone" "2" m) : Scene config where
  world := registered
  stanza := push (oracle.node 0)
  notification := notification
  m := m
  node := oracle.node 0
  accountId := "alice"
  deviceId := "phone"
  secret := oracle.secret 0
  channelUri := channelUri
  version := "2"
  keys := (registered.contents.elements "phone").drop 2
  event := isEvent_push _
  record := elements_registered.1
  device := elements_registered.2
  updates := h

/-- The channel URI of the device changes. -/
def moving : Scene config :=
  meeting (.setChannelUri (.ofFields otherChannelUri "phone")) (.setChannelUri rfl)

/-- The device registers the account again. -/
def repeating : Scene config :=
  meeting (.setPushAccounts (.ofFields ["alice"] "phone")) (.setPushAccounts rfl rfl)

theorem elements_registrationV1 :
  registrationV1.2.contents.elements (oracle.node 0) = ["alice", "phone", oracle.secret 0]
    ∧ registrationV1.2.contents.elements "phone"
      = channelUri :: "1" :: (registrationV1.2.contents.elements "phone").drop 2
    ∧ sent registrationV1.2 = []
  := by decide +kernel

/-- A long event of a device with version 1, whose channel URI changes. -/
def longMeeting : Scene config where
  world := registrationV1.2
  stanza := longPush (oracle.node 0)
  notification := longNotification
  m := .setChannelUri (.ofFields otherChannelUri "phone")
  node := oracle.node 0
  accountId := "alice"
  deviceId := "phone"
  secret := oracle.secret 0
  channelUri := channelUri
  version := "1"
  keys := (registrationV1.2.contents.elements "phone").drop 2
  event := isEvent_longPush _
  record := elements_registrationV1.1
  device := elements_registrationV1.2.1
  updates := .setChannelUri rfl

/-- Each thread of a list takes a number of turns. -/
def overlap (s : Scene config) (l : List (ℕ × Thread)) : Turns × Threads Place World :=
  Run.trace (Threads.next (step oracle)) [] (s.initial xmlPrinter)
    (l.flatMap fun (n, e) => List.replicate n e)

theorem run_overlap (s : Scene config) (l : List (ℕ × Thread)) :
  Run (Threads.next (step oracle)) (· = s.initial xmlPrinter) (overlap s l).1 (overlap s l).2
  := by
  have hstart : Run (Threads.next (step oracle)) (· = s.initial xmlPrinter) []
      (s.initial xmlPrinter) :=
    .start rfl
  apply hstart.of_trace

/-- The handler of the event has ended. -/
def Ended (t : Threads Place World) : Prop :=
  (step oracle .xmpp (t.locals .xmpp) t.shared).isNone

instance (t : Threads Place World) : Decidable (Ended t) :=
  inferInstanceAs (Decidable (_ = true))

/-- The handler of the event has ended without a notification. -/
def Dropped (t : Threads Place World) : Prop :=
  Ended t ∧ sent t.shared = []

instance (t : Threads Place World) : Decidable (Dropped t) :=
  inferInstanceAs (Decidable (_ ∧ _))

end Sample

/-- The version is read before the channel URI changes, and the channel URI afterwards. -/
theorem notified_of_overlap_moving :
  sent (Sample.overlap Sample.moving [(3, .xmpp), (5, .tcp), (13, .xmpp)]).2.shared
    = [(Sample.otherChannelUri, Sample.dump ((PushMessage.ofFields "alice" 0 0).toJson .null))]
  := by
  let schedule : List (ℕ × Thread) := [(3, .xmpp), (5, .tcp), (13, .xmpp)]
  obtain ⟨horderly, hended, hsent⟩ : Sample.moving.Orderly (Sample.overlap Sample.moving schedule).1
      ∧ Sample.Ended (Sample.overlap Sample.moving schedule).2
      ∧ sent Sample.moving.world ++ (Sample.moving.notification? Sample.xmlPrinter
          (Sample.overlap Sample.moving schedule).1).toList
        = [(Sample.otherChannelUri,
          Sample.dump ((PushMessage.ofFields "alice" 0 0).toJson .null))] := by
    decide +kernel
  rw [← hsent]
  apply notified_of_overlap Sample.moving (Sample.run_overlap _ schedule)
    (Option.isNone_iff_eq_none.mp hended) horderly

/-- A long text is not sent. -/
theorem Sample.sent_longMeeting :
  sent (overlap longMeeting [(6, .xmpp)]).2.shared = [(channelUri, "New message received!")]
  := by
  have horderly : longMeeting.Orderly (overlap longMeeting [(6, .xmpp)]).1 :=
    ⟨by decide, by decide⟩
  have hturns : turns (overlap longMeeting [(6, .xmpp)]).1 = 6 := rfl
  have hlong := lt_xml_longNotification (XmppClient.accountNode "alice")
  have hcontent : longMeeting.content? xmlPrinter (overlap longMeeting [(6, .xmpp)]).1
      = some "New message received!" := by
    have hversion : longMeeting.versionRead (overlap longMeeting [(6, .xmpp)]).1 = some "1" := rfl
    rw [Scene.content?, hversion, eventContent, if_neg (by decide)]
    exact congrArg some (if_pos hlong)
  have huri : longMeeting.uriRead (overlap longMeeting [(6, .xmpp)]).1 = some channelUri := rfl
  obtain ⟨-, h | h⟩ := Overlap.sound_run (run_overlap longMeeting [(6, .xmpp)]) horderly
  · have hreads := h.xmpp
    rw [hturns] at hreads
    cases hreads
  · rw [h.sent, Scene.notification?, huri, hcontent]
    exact congrArg (· ++ _) elements_registrationV1.2.2

/-- The handler of an event that reads the channel URI between the deletion of the list and the
push notifies nobody, and one that reads the version there sends the format of version 1.  An
event after the repeated registration is dropped.  A long text is replaced. -/
theorem not_notified_between :
  (Sample.Dropped (Sample.overlap Sample.moving [(4, .xmpp), (2, .tcp), (1, .xmpp)]).2
    ∧ sent (Sample.overlap Sample.moving
        [(2, .xmpp), (2, .tcp), (1, .xmpp), (3, .tcp), (3, .xmpp)]).2.shared
      = [(Sample.otherChannelUri,
        "<notification xmlns=\"urn:xmpp:push:0\"><account id=\"alice\"/></notification>")]
    ∧ Sample.Dropped (Sample.overlap Sample.repeating [(18, .tcp), (1, .xmpp)]).2)
  ∧ sent (Sample.overlap Sample.longMeeting [(6, .xmpp)]).2.shared
    = [(Sample.channelUri, "New message received!")]
  := by
  constructor
  · decide +kernel
  · apply Sample.sent_longMeeting

end UwpxPush
