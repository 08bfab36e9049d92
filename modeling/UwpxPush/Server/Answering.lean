import UwpxPush.Server.Faults
import UwpxPush.Server.Runs
import UwpxPush.Tcp.RoundTrip

/-!
# One response for each request

However the surroundings answer or fail, a request is answered once, and it is answered with
success only after it has taken effect.
-/

namespace UwpxPush

/-- The response reports success. -/
def Message.IsSuccess : Message → Prop
  | successResponse _ => True
  | successSetPushAccounts _ => True
  | _ => False

/-- The request took effect between two worlds: the channel URI is accepted and is found
again; all writes for the accounts were performed, and the list of the device has one account
key for each account id, in their order; or the notification was sent. -/
def TookEffect (platform : Platform) (config : Configuration) (w w' : World) : Message → Prop
  | .setChannelUri m =>
      PushServer.isValidChannelUri m.channelUri = true
        ∧ ∀ oracle, (Server.run oracle (RedisClient.getChannelUri m.deviceId) w').1
          = .ok (some m.channelUri)
  | .setPushAccounts m =>
      ∃ channelUri accounts before after, before.redis = w.redis
        ∧ (∀ oracle, Server.run oracle (RedisClient.setPushAccounts platform m.deviceId
            channelUri (toString m.version) accounts) before = (.ok (), after))
        ∧ w'.redis = after.redis
        ∧ accounts.map PushAccount.accountId = m.accounts
        ∧ w'.contents.elements m.deviceId = channelUri :: toString m.version
          :: m.accounts.map (RedisClient.genAccount platform m.deviceId)
  | .requestTestPush m =>
      ∃ channelUri content after, (w.contents.elements m.deviceId).head? = some channelUri
        ∧ Server.Outcome (WnsClient.sendRawNotification platform config channelUri content)
          w (.ok true) after
        ∧ w' = after.tell (.reply (.successResponse .ofSuccess))
  | _ => False

/-- The account keys in the list of the device are there. -/
def KeysPresent (w : World) (deviceId : String) : Prop :=
  ∀ k ∈ (w.contents.elements deviceId).drop 2, w.contents k ≠ none

section

variable {platform : Platform} {config : Configuration} {oracle : Oracle} {w w' : World}

/-! ### Calm programs -/

/-- No answer to `GET` means that there is no entry. -/
theorem run_get_none {k : String}
    (h : Server.run oracle (Redis.get k) w = (.ok none, w')) :
  w.contents k = none
  := by
  rw [Server.run_get] at h
  unfold KeyValue.Store.get KeyValue.Store.find at h
  unfold World.contents
  match hk : w.redis.lookup k with
  | none => rfl
  | some ⟨.list l, d⟩ =>
      simp only [hk, World.reading, Option.map_some] at h
      cases h
  | some ⟨.string a, d⟩ =>
      simp only [hk, World.reading, Option.map_some] at h
      cases h

theorem calmAt_getPushNode {k : String} (h : w.contents k ≠ none) :
  CalmAt w (RedisClient.getPushNode platform k)
  := by
  apply calmAt_bind ((commands_get k).quiet.calmAt w)
  rintro (_ | node) w' ho
  · have hrun := outcome_commands (commands_get k) ho default
    exact (h (run_get_none hrun)).elim
  · apply (quiet_pure node).calmAt

theorem calmAt_getPushNodes {deviceId : String} (h : KeysPresent w deviceId) :
  CalmAt w (RedisClient.getPushNodes platform deviceId)
  := by
  apply calmAt_bind ((commands_lrange deviceId).quiet.calmAt w)
  intro keys w' ho
  have hrun := outcome_commands (commands_lrange deviceId) ho default
  obtain ⟨rfl, rfl, -⟩ := run_lrange_ok hrun
  have hmapM : ∀ keys : List String, (∀ k ∈ keys, w'.contents k ≠ none) →
      CalmAt w' (keys.mapM (RedisClient.getPushNode platform)) := by
    intro keys hkeys
    induction keys with
    | nil => apply (quiet_pure _).calmAt
    | cons k keys ih =>
        rw [List.mapM_cons]
        apply calmAt_bind (calmAt_getPushNode (hkeys k List.mem_cons_self))
        intro node t ht
        rw [outcome_reading (reading_getPushNode k) ht]
        apply calmAt_bind
        · apply ih
          intro k' hk'
          apply hkeys
          apply List.mem_cons_of_mem k hk'
        · intro nodes t ht
          apply (quiet_pure _).calmAt
  exact hmapM _ h

/-- The token is there when it is valid. -/
theorem token_of_isTokenValid (h : Server.Outcome WnsClient.isTokenValid w (.ok true) w') :
  w'.token ≠ none
  := by
  have hsame : w'.token = w.token := by
    apply outcome_token _ h
    apply calls_isTokenValid.mono
    rintro c (rfl | rfl) token ⟨⟩
  obtain ⟨token, t, hread, hrest⟩ := Program.outcome_bind_ok h
  obtain ⟨oracle, hperform⟩ := World.perform_of_answers (by rintro ⟨⟩)
    (Program.outcome_invoke.mp hread)
  cases hperform
  rw [hsame]
  intro hnone
  rw [hnone] at hrest
  cases hrest.1

/-- The token is there when one was requested successfully. -/
theorem token_of_requestNewToken
    (h : Server.Outcome (WnsClient.requestNewToken platform config) w (.ok true) w') :
  w'.token ≠ none
  := by
  obtain ⟨response, t₁, -, h⟩ := Program.outcome_bind_ok h
  split at h
  · cases h.1
  · obtain ⟨token, t₂, -, h⟩ := Program.outcome_bind_ok h
    obtain ⟨u, t₃, hwrite, h⟩ := Program.outcome_bind_ok h
    obtain ⟨oracle, hperform⟩ := World.perform_of_answers (by rintro ⟨⟩)
      (Program.outcome_invoke.mp hwrite)
    cases hperform
    cases token with
    | none => cases h.1
    | some token =>
        obtain ⟨u, t₄, hset, h⟩ := Program.outcome_bind_ok h
        obtain ⟨-, rfl⟩ := h
        rw [outcome_token _ hset]
        · rintro ⟨⟩
        · apply (commands_setWnsToken _ _ _).calls.mono
          rintro c ((⟨k, rfl⟩ | ⟨k, rfl⟩) | hc) token heq
          · cases heq
          · cases heq
          · rw [heq] at hc
            exact hc

theorem calmAt_sendRawNotification (channelUri content : String) :
  CalmAt w (WnsClient.sendRawNotification platform config channelUri content)
  := by
  apply calmAt_bind ((quiet_invoke _ (by trivial)).calmAt w)
  intro _ w₁ _
  apply calmAt_bind ((quiet_ensureToken platform config).calmAt w₁)
  intro ready w₂ hready
  cases ready with
  | false => apply (quiet_pure _).calmAt
  | true =>
      have htoken : w₂.token ≠ none := by
        obtain ⟨valid, t, hvalid, h⟩ := Program.outcome_bind_ok hready
        cases valid with
        | true =>
            obtain ⟨-, rfl⟩ := h
            apply token_of_isTokenValid hvalid
        | false => apply token_of_requestNewToken h
      apply calmAt_bind ((quiet_invoke _ (by trivial)).calmAt w₂)
      intro token w₃ hread
      obtain ⟨oracle, hperform⟩ := World.perform_of_answers (by rintro ⟨⟩)
        (Program.outcome_invoke.mp hread)
      cases hperform
      match hsome : w₂.token with
      | none => exact (htoken hsome).elim
      | some token => apply (quiet_postAttempts platform config _ 3).calmAt

/-! ### The handlers respond once -/

theorem respondsAt_sendTestPush (deviceId : String) :
  RespondsAt w (PushServer.sendTestPush platform config deviceId)
  := by
  apply respondsAt_bind ((commands_getChannelUri deviceId).quiet.calmAt w)
  rintro (_ | channelUri) w₁ _
  · apply respondsAt_reply
  · apply respondsAt_bind ((commands_getVersion deviceId).quiet.calmAt w₁)
    intro version w₂ _
    apply respondsAt_bind (calmAt_sendRawNotification _ _)
    intro success w₃ _
    split
    · apply respondsAt_reply
    · apply respondsAt_reply

theorem respondsAt_register (deviceId channelUri version : String) (p : PushServer.Pending) :
  RespondsAt w (PushServer.register platform config deviceId channelUri version p)
  := by
  apply respondsAt_bind
  · apply Quiet.calmAt
    exact Program.straight_forM quiet_deletePushNode
  · intro _ w₁ _
    apply respondsAt_bind
    · apply Quiet.calmAt
      exact Program.straight_foldlM _ quiet_setupAccount
    · intro pushAccounts w₂ _
      apply respondsAt_bind ((commands_setPushAccounts _ _ _ _ _).quiet.calmAt w₂)
      intro _ w₃ _
      apply respondsAt_reply

theorem respondsAt_setPushAccounts {deviceId : String} (version : String)
    (accounts : List String) (h : KeysPresent w deviceId) :
  RespondsAt w (PushServer.setPushAccounts platform config deviceId version accounts)
  := by
  apply respondsAt_bind ((commands_getChannelUri deviceId).quiet.calmAt w)
  rintro (_ | channelUri) w₁ huri
  · apply respondsAt_reply
  · rw [outcome_reading (reading_getChannelUri deviceId) huri]
    apply respondsAt_bind (calmAt_getPushNodes h)
    intro oldNodes w₂ _
    apply respondsAt_bind
    · apply Quiet.calmAt
      exact Program.straight_foldlM _ (quiet_collectAccount platform deviceId)
    · intro p w₃ _
      apply respondsAt_register

theorem respondsAt_setChannelUri (deviceId channelUri : String) :
  RespondsAt w (PushServer.setChannelUri deviceId channelUri)
  := by
  unfold PushServer.setChannelUri
  split
  · apply respondsAt_bind ((commands_setChannelUri _ _).quiet.calmAt w)
    intro _ w₁ _
    apply respondsAt_reply
  · apply respondsAt_reply

/-- The handler of a message responds once, or it throws an exception before. -/
theorem respondsAt_handleMessage {m : Message}
    (h : ∀ r, m = .setPushAccounts r → KeysPresent w r.deviceId) :
  RespondsAt w (PushServer.handleMessage platform config m)
  := by
  cases m with
  | setChannelUri m => apply respondsAt_setChannelUri
  | setPushAccounts m =>
      apply respondsAt_setPushAccounts
      apply h m rfl
  | requestTestPush m => apply respondsAt_sendTestPush
  | _ => apply respondsAt_reply

/-! ### Success follows the effect -/

/-- The response of a handler that returned, and what is sure when it reports success. -/
def Concludes (platform : Platform) (config : Configuration) (request : Message)
    (w w' : World) : Prop :=
  ∃ (t : World) (m : Message),
    w' = t.tell (.reply m) ∧ (m.IsSuccess → TookEffect platform config w w' request)

theorem concludes_error {request : Message} {error : String} {r : Except Failure Unit} {t : World}
    (h : Server.Outcome (ClientSslSession.respondWithError error) t r w') :
  Concludes platform config request w w'
  := by
  obtain ⟨-, hw'⟩ := outcome_reply.mp h
  exact ⟨t, _, hw', fun hsuccess => hsuccess.elim⟩

theorem concludes_setChannelUri {m : SetChannelUriMessage}
    (h : Server.Outcome (PushServer.setChannelUri m.deviceId m.channelUri) w (.ok ()) w') :
  Concludes platform config (.setChannelUri m) w w'
  := by
  unfold PushServer.setChannelUri at h
  split at h
  · next hvalid =>
      obtain ⟨u, t, hset, hreply⟩ := Program.outcome_bind_ok h
      obtain ⟨-, rfl⟩ := outcome_reply.mp hreply
      refine ⟨t, _, rfl, fun _ => ⟨hvalid, ?_⟩⟩
      intro oracle
      have hrun := outcome_commands (commands_setChannelUri _ _) hset oracle
      have hs : w.contents.NotString m.deviceId := by
        by_contra hs
        rw [RedisClient.setChannelUri, Server.run,
          Program.run_bind_error _ (run_lrange_of_string hs)] at hrun
        cases hrun
      obtain ⟨redis, hrun', -, hlookup⟩ := run_setChannelUri oracle m.channelUri hs
      rw [hrun] at hrun'
      cases hrun'
      have hdevice : ({ w with redis } : World).contents m.deviceId
          = some ⟨.list (m.channelUri :: (w.contents.elements m.deviceId).tail),
            some (w.redis.clock + timeout)⟩ := by
        rw [World.contents, hlookup, Contents.setChannelUri, Contents.putList, if_pos rfl]
      have hget : Server.run oracle (RedisClient.getChannelUri m.deviceId)
          (({ w with redis } : World).tell (.reply (.successResponse .ofSuccess)))
          = (.ok (some m.channelUri), _) :=
        run_getChannelUri_of_list hdevice
      rw [hget]
  · apply concludes_error h

theorem concludes_sendTestPush {m : RequestTestPushMessage}
    (h : Server.Outcome (PushServer.sendTestPush platform config m.deviceId) w (.ok ()) w') :
  Concludes platform config (.requestTestPush m) w w'
  := by
  obtain ⟨channelUri, t, huri, h⟩ := Program.outcome_bind_ok h
  have hrun := outcome_commands (commands_getChannelUri _) huri default
  obtain ⟨rfl, hhead, -⟩ := run_getChannelUri_ok hrun
  cases channelUri with
  | none => apply concludes_error h
  | some channelUri =>
      obtain ⟨version, t', hversion, h⟩ := Program.outcome_bind_ok h
      cases outcome_reading (reading_getVersion _) hversion
      obtain ⟨success, after, hsend, h⟩ := Program.outcome_bind_ok h
      cases success with
      | true =>
          obtain ⟨-, rfl⟩ := outcome_reply.mp h
          exact ⟨after, _, rfl, fun _ => ⟨channelUri, _, after, hhead.symm, hsend, rfl⟩⟩
      | false => apply concludes_error h

/-- The accounts that are collected have the account ids of the request. -/
theorem outcome_collect {deviceId : String} {accounts : List String} {oldNodes : List String}
    {p : PushServer.Pending}
    (h : Server.Outcome (accounts.foldlM (PushServer.collectAccount platform deviceId)
      { pushAccounts := [], deleteNodes := oldNodes, addNodes := [] }) w (.ok p) w') :
  p.pushAccounts.map PushAccount.accountId = accounts
  := by
  apply Program.outcome_foldlM
    (I := fun l (p : PushServer.Pending) => p.pushAccounts.map PushAccount.accountId = l)
    _ accounts (d := []) rfl h
  intro l p accountId s p' s' hp ho
  obtain ⟨account, t, hcreate, ho⟩ := Program.outcome_bind_ok ho
  obtain ⟨draws, t', -, haccount⟩ := Program.outcome_bind_ok hcreate
  obtain ⟨ha, -⟩ := haccount
  cases ha
  obtain ⟨account, t'', hload, ho⟩ := Program.outcome_bind_ok ho
  obtain ⟨hp', -⟩ := ho
  cases hp'
  obtain ⟨-, rfl⟩ := run_loadPushAccount_ok
    (outcome_commands (commands_loadPushAccount _ _ _) hload default)
  rw [PushServer.Pending.add, List.map_append, hp]
  split
  · rfl
  · rfl

/-- Setting up nodes changes no account id. -/
theorem outcome_setup {added : List (String × Nat)} {accounts accounts' : List PushAccount}
    (h : Server.Outcome (added.foldlM PushServer.setupAccount accounts) w (.ok accounts') w') :
  accounts'.map PushAccount.accountId = accounts.map PushAccount.accountId
  := by
  apply Program.outcome_foldlM
    (I := fun _ (l : List PushAccount) => l.map PushAccount.accountId
      = accounts.map PushAccount.accountId)
    _ added (d := []) rfl h
  intro _ l node s l' s' hl ho
  obtain ⟨success, t, -, ho⟩ := Program.outcome_bind_ok ho
  obtain ⟨hl', -⟩ := ho
  cases hl'
  rw [← hl]
  exact PushServer.map_setFlags success [node] PushAccount.accountId fun _ _ => rfl

/-- The list of a device after its accounts were replaced. -/
theorem elements_of_run_setPushAccounts {deviceId channelUri version : String}
    {accounts : List PushAccount}
    (h : Server.run oracle (RedisClient.setPushAccounts platform deviceId channelUri version
      accounts) w = (.ok (), w')) :
  w'.contents.elements deviceId = channelUri :: version
    :: (accounts.map PushAccount.accountId).map (RedisClient.genAccount platform deviceId)
  := by
  obtain ⟨_, t, -, h⟩ := Program.run_bind_eq_ok _ h
  obtain ⟨_, t', -, h⟩ := Program.run_bind_eq_ok _ h
  obtain ⟨redis, hrun, -, hlookup⟩ := run_del_append oracle t' deviceId
    (channelUri :: version ::
      accounts.map fun a => RedisClient.genAccount platform deviceId a.accountId)
  rw [Server.run] at hrun
  rw [h] at hrun
  cases hrun
  rw [Contents.elements_of_eq (l := channelUri :: version ::
    accounts.map fun a => RedisClient.genAccount platform deviceId a.accountId)
    (d := some (t'.redis.clock + timeout))]
  · rw [List.map_map]
    rfl
  · rw [World.contents, hlookup, Contents.putList, if_pos rfl]

theorem concludes_setPushAccounts {m : SetPushAccountsMessage}
    (h : Server.Outcome (PushServer.setPushAccounts platform config m.deviceId
      (toString m.version) m.accounts) w (.ok ()) w') :
  Concludes platform config (.setPushAccounts m) w w'
  := by
  obtain ⟨channelUri, t, huri, h⟩ := Program.outcome_bind_ok h
  cases outcome_reading (reading_getChannelUri _) huri
  cases channelUri with
  | none => apply concludes_error h
  | some channelUri =>
      obtain ⟨oldNodes, t₁, hold, h⟩ := Program.outcome_bind_ok h
      cases outcome_reading (reading_getPushNodes _) hold
      obtain ⟨p, t₂, hcollect, h⟩ := Program.outcome_bind_ok h
      obtain ⟨_, t₃, hdelete, h⟩ := Program.outcome_bind_ok h
      obtain ⟨accounts, before, hsetup, h⟩ := Program.outcome_bind_ok h
      obtain ⟨_, after, hwrite, h⟩ := Program.outcome_bind_ok h
      obtain ⟨-, rfl⟩ := outcome_reply.mp h
      have hids : accounts.map PushAccount.accountId = m.accounts := by
        rw [outcome_setup hsetup, outcome_collect hcollect]
      have hredis : before.redis = w.redis := by
        rw [outcome_notWriting (Program.calls_foldlM _ fun a b _ =>
            (calls_setupAccount a b).mono fun c => Call.PubSub.not_writing) hsetup,
          outcome_notWriting (Program.calls_forM fun node _ =>
            (calls_deletePushNode node).mono fun c => Call.PubSub.not_writing) hdelete,
          outcome_notWriting (Program.calls_foldlM _ fun p a _ =>
            (calls_collectAccount _ _ p a).mono fun c => Call.Collecting.not_writing) hcollect]
      refine ⟨after, _, rfl, fun _ => ⟨channelUri, accounts, before, after, hredis, ?_, rfl,
        hids, ?_⟩⟩
      · intro oracle
        apply outcome_commands (commands_setPushAccounts _ _ _ _ _) hwrite
      · rw [← hids]
        apply elements_of_run_setPushAccounts
          (outcome_commands (commands_setPushAccounts _ _ _ _ _) hwrite default)

theorem concludes_handleMessage {m : Message}
    (h : Server.Outcome (PushServer.handleMessage platform config m) w (.ok ()) w') :
  Concludes platform config m w w'
  := by
  cases m with
  | setChannelUri m => apply concludes_setChannelUri h
  | setPushAccounts m => apply concludes_setPushAccounts h
  | requestTestPush m => apply concludes_sendTestPush h
  | _ => apply concludes_error h

/-! ### The requests -/

/-- A message is answered once, with success only after it has taken effect. -/
theorem outcome_processMessage {m : Message} {r : Except Failure Unit}
    (hkeys : ∀ request, m = .setPushAccounts request → KeysPresent w request.deviceId)
    (h : Server.Outcome (PushServer.processMessage platform config m) w r w') :
  r = .ok () ∧ ∃ response, w'.replies = w.replies ++ [response]
    ∧ (response.IsSuccess → TookEffect platform config w w' m)
  := by
  rcases Program.outcome_tryCatch.mp h with ⟨u, hok, rfl⟩ | ⟨e, t, herror, hcatch⟩
  · use rfl
    rcases respondsAt_handleMessage hkeys _ _ hok with ⟨response, -, hreplies⟩ | ⟨e, he, -⟩
    · obtain ⟨t, m', rfl, heffect⟩ := concludes_handleMessage hok
      use response, hreplies
      rw [replies_tell] at hreplies
      obtain ⟨-, hm⟩ := List.append_inj' hreplies rfl
      cases hm
      apply heffect
    · cases he
  · rcases respondsAt_handleMessage hkeys _ _ herror with ⟨_, he, -⟩ | ⟨e', he, ⟨what, hwhat⟩, hm⟩
    · cases he
    · cases he
      rw [hwhat] at hcatch
      obtain ⟨rfl, rfl⟩ := outcome_reply.mp hcatch
      refine ⟨rfl, _, (replies_tell _).trans (congrArg (· ++ _) hm), ?_⟩
      intro hsuccess
      exact hsuccess.elim

end

/-- However the surroundings answer or fail, a build without assertions answers every string
once, and with success only a valid message that has taken effect, where the account keys of
the device are there. -/
theorem answered_once {platform : Platform} {config : Configuration} {s : String} {w w' : World}
    {r : Except Failure Unit} (hdebug : platform.debug = false)
    (hkeys : ∀ request, Parser.parse platform s = .ok (.valid (.setPushAccounts request)) →
      KeysPresent w request.deviceId)
    (h : Server.Outcome (PushServer.onMessageReceived platform config s) w r w') :
  r = .ok () ∧ ∃ response, w'.replies = w.replies ++ [response]
    ∧ (response.IsSuccess → ∃ request, Parser.parse platform s = .ok (.valid request)
      ∧ TookEffect platform config w w' request)
  := by
  rcases Program.outcome_bind.mp h with ⟨parsed, t, hparse, h⟩ | ⟨e, herror, -⟩
  · match hs : Parser.parse platform s with
    | .error e =>
        rw [hs] at hparse
        cases hparse.1
    | .ok parsed' =>
        rw [hs] at hparse
        obtain ⟨hp, rfl⟩ := hparse
        cases hp
        cases parsed with
        | null =>
            obtain ⟨rfl, rfl⟩ := outcome_reply.mp h
            exact ⟨rfl, _, replies_tell _, fun hsuccess => hsuccess.elim⟩
        | invalid =>
            obtain ⟨rfl, rfl⟩ := outcome_reply.mp h
            exact ⟨rfl, _, replies_tell _, fun hsuccess => hsuccess.elim⟩
        | valid m =>
            obtain ⟨hr, response, hreplies, heffect⟩ := outcome_processMessage
              (by
                rintro request rfl
                apply hkeys request hs) h
            use hr, response, hreplies
            intro hsuccess
            use m, rfl
            apply heffect hsuccess
  · obtain ⟨parsed, hs⟩ := Parser.parse_ok_of_not (s := s) (.inl hdebug)
    rw [hs] at herror
    cases herror.1

/-- A request for an account. -/
def Sample.request : String :=
  "\x7b\"accounts\":[\x7b\"account_id\":\"alice\"\x7d],\"action\":\"set_push_accounts\","
    ++ "\"device_id\":\"phone\",\"version\":2\x7d"

/-- A build without assertions that reads the request. -/
def Sample.release : Platform :=
  { Sample.platform with
    parse := fun s =>
      if s = request then some (Message.setPushAccounts (.ofFields ["alice"] "phone")).toJson
      else none
    debug := false }

/-- The world in which the device has the account already. -/
def Sample.enrolled : World :=
  (run registration).2

/-- The world after the request when nothing fails. -/
def Sample.requested : World :=
  (Server.run oracle (PushServer.onMessageReceived release config request) enrolled).2

/-- A device sends its account again and nothing fails. -/
theorem answered_once_request :
  (Sample.enrolled.contents.elements "phone").drop 2 ≠ []
    ∧ Sample.requested.replies = Sample.enrolled.replies ++ [.successSetPushAccounts
      (.ofFields [⟨"alice", Sample.oracle.node 0, Sample.oracle.secret 0, true⟩]
        Sample.config.xmpp.bareJid)]
    ∧ ∃ response, Sample.requested.replies = Sample.enrolled.replies ++ [response]
      ∧ (response.IsSuccess → ∃ request,
        Parser.parse Sample.release Sample.request = .ok (.valid request)
          ∧ TookEffect Sample.release Sample.config Sample.enrolled Sample.requested request)
  := by
  refine ⟨by decide +kernel, by decide +kernel, ?_⟩
  have hkeys : KeysPresent Sample.enrolled "phone" := by
    unfold KeysPresent
    decide +kernel
  have hparse : Parser.parse Sample.release Sample.request
      = .ok (.valid (.setPushAccounts (.ofFields ["alice"] "phone"))) := by decide +kernel
  apply (answered_once rfl _ (Program.outcome_run (World.answers_perform Sample.oracle) _ _)).2
  intro request hrequest
  rw [hparse] at hrequest
  cases hrequest
  exact hkeys

end UwpxPush
