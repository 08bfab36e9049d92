import UwpxPush.Server.Answering
import UwpxPush.Server.Ownership

/-!
# Responses that are read back

Every response is read back as what was sent, except for the response to a registration of
no accounts at all: it lists no accounts, and the parser wants at least one.
-/

namespace UwpxPush

open KeyValue

/-- The message is a response. -/
def Message.IsResponse : Message → Prop
  | successResponse _ => True
  | successSetPushAccounts _ => True
  | errorResponse _ => True
  | _ => False

/-- The responses that were sent between two worlds. -/
def responses (w w' : World) : List Message :=
  w'.replies.drop w.replies.length

/-- The string is a request to set the accounts of a device that has a list. -/
def AcceptsAccounts (platform : Platform) (w : World) (s : String) : Prop :=
  ∃ request, Parser.parse platform s = .ok (.valid (.setPushAccounts request))
    ∧ w.contents.elements request.deviceId ≠ []

/-- The response is read back from its text, and it reports accounts exactly when the string
was a request to set the accounts of a known device. -/
def ReadBack (platform : Platform) (w : World) (s : String) (m : Message) : Prop :=
  Parser.parse platform (platform.dump m.toJson) = .ok (.valid m) ∧ m.IsResponse
    ∧ ((∃ accounts, m = .successSetPushAccounts accounts) ↔ AcceptsAccounts platform w s)

/-- The world after a string has been handled. -/
def World.afterString (platform : Platform) (config : Configuration) (oracle : Oracle)
    (s : String) (w : World) : World :=
  (Server.run oracle (PushServer.onMessageReceived platform config s) w).2

/-- No list but that of the WNS token has an empty entry. -/
def EntriesNonEmpty (w : World) : Prop :=
  ∀ k l d, w.contents k = some ⟨.list l, d⟩ → k ≠ RedisClient.WNS_TOKEN_KEY → ∀ x ∈ l, x ≠ ""

section

variable {platform : Platform} {config : Configuration} {oracle : Oracle} {past : History}
  {w w' : World} {s : String}

/-! ### Entries -/

theorem ne_empty_of_length {s : String} {n : Nat} (h : s.length = n) (hn : 0 < n) :
  s ≠ ""
  := by
  rintro rfl
  rw [String.length_empty] at h
  omega

theorem EntriesNonEmpty.elements (h : EntriesNonEmpty w) {k : String}
    (hk : k ≠ RedisClient.WNS_TOKEN_KEY) :
  ∀ x ∈ w.contents.elements k, x ≠ ""
  := by
  unfold Contents.elements
  split
  · next l d hl => apply h k l d hl hk
  · simp

/-- The version of a valid message is a number with digits. -/
theorem toString_version {m : AbstractMessage} (h : m.Valid) :
  toString m.version ≠ ""
  := by
  obtain ⟨hlow, hhigh⟩ := h
  unfold AbstractMessage.VERSION at hhigh
  have hcases : m.version = 1 ∨ m.version = 2 := by omega
  rcases hcases with hv | hv
  · rw [hv]
    decide
  · rw [hv]
    decide

/-- The strings of the accounts of a registration are not empty. -/
theorem PushServer.Registered.strings {m : SetPushAccountsMessage}
    (valid : (Message.setPushAccounts m).Valid) {version channelUri : String}
    {oldNodes : List String} {pushAccounts : List PushAccount}
    (h : PushServer.Registered platform config oracle m.deviceId version m.accounts w w'
      channelUri oldNodes pushAccounts) (hw : w.contents.Typed) (hentries : EntriesNonEmpty w) :
  ∀ a ∈ pushAccounts, a.accountId ≠ "" ∧ a.node ≠ "" ∧ a.secret ≠ ""
  := by
  intro a ha
  have hnode := h.length_node hw a ha
  constructor
  · apply valid.2.2.1
    rw [← PushServer.map_accountId_resolveAll (c := w.contents) w.created m.accounts,
      ← h.resolved]
    apply List.mem_map_of_mem ha
  · use ne_empty_of_length hnode (by decide)
    rw [h.resolved, PushServer.mem_resolveAll] at ha
    obtain ⟨j, accountId, -, rfl⟩ := ha
    unfold PushServer.resolve at hnode ⊢
    split at hnode
    · next hr =>
        apply ne_empty_of_length (oracle.length_secret _) (by decide)
    · next node secret hr =>
        obtain ⟨-, hsecret⟩ := Contents.reusable_eq_some.mp hr
        obtain ⟨x, y, hlist⟩ := Contents.secretOf_eq_some.mp hsecret
        have hwns : node ≠ RedisClient.WNS_TOKEN_KEY := by
          have hlen : node.length = 15 := hnode
          rintro rfl
          cases hlen
        apply hentries.elements hwns
        rw [hlist]
        simp

theorem EntriesNonEmpty.registered (hentries : EntriesNonEmpty w) {m : SetPushAccountsMessage}
    (valid : (Message.setPushAccounts m).Valid) {channelUri : String} {oldNodes : List String}
    {pushAccounts : List PushAccount}
    (h : PushServer.Registered platform config oracle m.deviceId (toString m.version)
      m.accounts w w' channelUri oldNodes pushAccounts) (hw : w.contents.Typed) :
  EntriesNonEmpty w'
  := by
  intro k l d hk hwns x hx
  have hstrings := h.strings valid hw hentries
  rcases h.contents_cases hw k with rfl | ⟨-, a, -, -, hs⟩ | ⟨-, -, hl⟩ | ⟨-, -, -, hframe⟩
  · rw [h.contents_device] at hk
    cases hk
    rcases List.mem_cons.mp hx with rfl | hx
    · apply hentries.elements hwns
      apply List.mem_of_mem_head? h.head
    · rcases List.mem_cons.mp hx with rfl | hx
      · apply toString_version valid.1
      · obtain ⟨a, -, rfl⟩ := List.mem_map.mp hx
        apply ne_empty_of_length (Contents.length_accountKey _ _ _) (by decide)
  · rw [hs] at hk
    cases hk
  · rw [hl] at hk
    cases hk
    rcases List.mem_append.mp hx with hx | hx
    · apply hentries.elements hwns x hx
    · obtain ⟨a, ha, hx⟩ := List.mem_flatMap.mp hx
      obtain ⟨hid, -, hsecret⟩ := hstrings a (List.mem_filter.mp ha).1
      simp only [List.mem_cons, List.not_mem_nil, or_false] at hx
      rcases hx with rfl | rfl | rfl
      · apply hid
      · apply valid.2.2.2
      · apply hsecret
  · rw [hframe] at hk
    split at hk
    · cases hk
    · apply hentries k l d hk hwns x hx

/-- In every world of a run, no list but that of the WNS token has an empty entry. -/
theorem Reached.entriesNonEmpty (h : Reached platform config oracle past w) :
  EntriesNonEmpty w
  := by
  apply h.invariant (I := fun _ w => EntriesNonEmpty w)
  · intro w hw k l d hk
    simp [World.contents, Store.lookup, hw.redis] at hk
  · intro past w e w' hreached _ hmove ih
    cases hmove with
    | @registered m valid w' channelUri oldNodes pushAccounts h =>
        apply ih.registered valid h hreached.typed
    | refused h =>
        intro k l d hk
        rw [World.contents, h.redis] at hk
        apply ih k l d hk
    | @channelUri m valid w' uri contents clock connected created log =>
        intro k l d hk hwns x hx
        rw [contents, Contents.setChannelUri, Contents.putList] at hk
        split at hk
        · next hkey =>
            cases hk
            rcases List.mem_cons.mp hx with rfl | hx
            · apply valid.2.2.1
            · rw [hkey] at hwns
              apply ih.elements hwns
              apply List.mem_of_mem_tail hx
        · apply ih k l d hk hwns x hx
    | other h =>
        intro k l d hk hwns
        rw [World.contents, h.lookup k hwns] at hk
        apply ih k l d hk hwns
    | connection up => apply ih
    | advance dt =>
        intro k l d hk
        apply ih k l d (contents_advance hk)

/-! ### Responses that are sent -/

/-- The responses of a handler that registers nothing. -/
inductive Message.Plain : Message → Prop where
  | success : Plain (.successResponse .ofSuccess)
  | error (error : String) : Plain (.errorResponse (.ofError error))

/-- The call sends no response, or a plain one. -/
def Call.Plain (c : Call) : Prop :=
  ∀ m, c = .reply m → m.Plain

theorem Quiet.plain {α : Type} {p : Server α} (h : Quiet p) :
  p.Calls Call.Plain
  := by
  apply h.calls.mono
  rintro c hc m rfl
  exact hc.elim

theorem plain_success :
  ClientSslSession.respondWithSuccess.Calls Call.Plain
  := by
  apply Program.calls_invoke
  rintro m ⟨⟩
  exact .success

theorem plain_error (error : String) :
  (ClientSslSession.respondWithError error).Calls Call.Plain
  := by
  apply Program.calls_invoke
  rintro m ⟨⟩
  exact .error error

theorem plain_sendRawNotification (channelUri content : String) :
  (WnsClient.sendRawNotification platform config channelUri content).Calls Call.Plain
  := by
  apply Program.calls_bind (quiet_invoke _ (by trivial)).plain
  intro _
  apply Program.calls_bind (quiet_ensureToken platform config).plain
  intro ready
  split
  · apply Program.calls_bind (quiet_invoke _ (by trivial)).plain
    rintro (_ | token)
    · apply Program.calls_throw
    · apply (quiet_postAttempts platform config _ 3).plain
  · apply Program.calls_pure

/-- A handler of anything but a registration sends plain responses. -/
theorem plain_handleMessage {m : Message} (h : ∀ r, m ≠ .setPushAccounts r) :
  (PushServer.handleMessage platform config m).Calls Call.Plain
  := by
  cases m with
  | setPushAccounts m => exact (h m rfl).elim
  | setChannelUri m =>
      change (PushServer.setChannelUri m.deviceId m.channelUri).Calls Call.Plain
      unfold PushServer.setChannelUri
      split
      · apply Program.calls_bind (commands_setChannelUri _ _).quiet.plain
        intro _
        apply plain_success
      · apply plain_error
  | requestTestPush m =>
      apply Program.calls_bind (commands_getChannelUri m.deviceId).quiet.plain
      rintro (_ | channelUri)
      · apply plain_error
      · apply Program.calls_bind (commands_getVersion m.deviceId).quiet.plain
        intro version
        apply Program.calls_bind (plain_sendRawNotification _ _)
        intro success
        split
        · apply plain_success
        · apply plain_error
  | _ => apply plain_error

/-- A string that registers nothing is answered by plain responses. -/
theorem plain_onMessageReceived
    (h : ∀ r, Parser.parse platform s ≠ .ok (.valid (.setPushAccounts r))) :
  (PushServer.onMessageReceived platform config s).Calls Call.Plain
  := by
  unfold PushServer.onMessageReceived
  match hs : Parser.parse platform s with
  | .error e => trivial
  | .ok .null => apply plain_error
  | .ok .invalid => apply plain_error
  | .ok (.valid m) =>
      apply Program.calls_tryCatch
      · apply plain_handleMessage
        rintro r rfl
        exact h r hs
      · intro e
        cases e with
        | exception what => apply plain_error
        | _ => apply Program.calls_throw

/-- What a program with plain responses sends. -/
theorem responses_plain {p : Server Unit} (hp : p.Calls Call.Plain) :
  ∀ m ∈ responses w (Server.run oracle p w).2, m.Plain
  := by
  have hrel : ∃ new, (Server.run oracle p w).2.replies = w.replies ++ new
      ∧ ∀ m ∈ new, Message.Plain m := by
    apply hp.outcome_related (fun w w' => ∃ new, w'.replies = w.replies ++ new
      ∧ ∀ m ∈ new, Message.Plain m) _ _ _
      (Program.outcome_run (World.answers_perform oracle) p w)
    · intro w
      exact ⟨[], by simp⟩
    · rintro w₁ w₂ w₃ ⟨new, h, hnew⟩ ⟨new', h', hnew'⟩
      use new ++ new'
      constructor
      · rw [h', h, List.append_assoc]
      · intro m hm
        rcases List.mem_append.mp hm with hm | hm
        · apply hnew m hm
        · apply hnew' m hm
    · intro c hc w r w' ha
      apply ha.related (fun w w' => ∃ new, w'.replies = w.replies ++ new
        ∧ ∀ m ∈ new, Message.Plain m)
      · exact ⟨[], by simp⟩
      · intro oracle up
        by_cases hq : c.Quiet
        · exact ⟨[], by rw [World.replies_answer hq, List.append_nil], by simp⟩
        · cases c with
          | reply m =>
              exact ⟨[m], replies_tell m, by simpa using hc m rfl⟩
          | _ => exact (hq trivial).elim
  obtain ⟨new, hreplies, hnew⟩ := hrel
  rw [responses, hreplies, List.drop_left]
  apply hnew

theorem responses_eq {out : List Output} (h : w'.log = w.log ++ out) :
  responses w w' = out.filterMap Output.reply?
  := by
  rw [responses, World.replies, World.replies, h, List.filterMap_append, List.drop_left]

/-- A registration sends one response. -/
theorem responses_registered {deviceId version channelUri : String}
    {accounts oldNodes : List String} {pushAccounts : List PushAccount}
    (h : PushServer.Registered platform config oracle deviceId version accounts w w' channelUri
      oldNodes pushAccounts) :
  responses w w' = [.successSetPushAccounts (.ofFields
    (PushServer.answer platform w.connected oldNodes pushAccounts) config.xmpp.bareJid)]
  := by
  have hsent : ∀ (connected : Bool) (requests : String → List Output) (nodes : List String),
      (∀ node, ∀ o ∈ requests node, o.reply? = none) →
      (PushServer.sent connected requests nodes).filterMap Output.reply? = [] := by
    intro connected requests nodes hr
    rw [List.filterMap_eq_nil_iff]
    intro o ho
    unfold PushServer.sent at ho
    split at ho
    · obtain ⟨node, -, ho⟩ := List.mem_flatMap.mp ho
      apply hr node o ho
    · cases ho
  rw [responses_eq h.log, PushServer.registrationOutputs, List.filterMap_append,
    List.filterMap_append, hsent, hsent]
  · rfl
  · simp [PushServer.setupOutputs, Output.reply?]
  · simp [PushServer.deleteOutputs, Output.reply?]

/-! ### Reading back -/

/-- A well-formed response whose document is parsed back from its text is read back. -/
theorem parse_of_wellFormed {m : Message} (h : m.WellFormed)
    (hdump : platform.parse (platform.dump m.toJson) = some m.toJson) :
  Parser.parse platform (platform.dump m.toJson) = .ok (.valid m)
  := Parser.parse_of_parseJson hdump (Parser.parseJson_toJson h _)

theorem readBack_of_plain {m : Message} (h : m.Plain)
    (hdump : platform.parse (platform.dump m.toJson) = some m.toJson)
    (hs : ¬AcceptsAccounts platform w s) :
  ReadBack platform w s m
  := by
  cases h with
  | success =>
      use parse_of_wellFormed Message.Sent.successResponse.wellFormed hdump, trivial
      constructor
      · rintro ⟨accounts, ⟨⟩⟩
      · intro haccepts
        exact (hs haccepts).elim
  | error error =>
      use parse_of_wellFormed (Message.Sent.errorResponse error).wellFormed hdump, trivial
      constructor
      · rintro ⟨accounts, ⟨⟩⟩
      · intro haccepts
        exact (hs haccepts).elim

/-- The response to a registration is read back if and only if it lists an account. -/
theorem readBack_registered {m : SetPushAccountsMessage}
    (valid : (Message.setPushAccounts m).Valid) {version channelUri : String}
    {oldNodes : List String} {pushAccounts : List PushAccount}
    (h : PushServer.Registered platform config oracle m.deviceId version m.accounts w w'
      channelUri oldNodes pushAccounts) (hw : w.contents.Typed) (hentries : EntriesNonEmpty w)
    (hjid : config.xmpp.bareJid ≠ "") (hs : AcceptsAccounts platform w s)
    (hdump : ∀ m ∈ responses w w', platform.parse (platform.dump m.toJson) = some m.toJson) :
  (∀ m ∈ responses w w', ReadBack platform w s m) ↔ m.accounts ≠ []
  := by
  have hlength : (PushServer.answer platform w.connected oldNodes pushAccounts).length
      = m.accounts.length := by
    rw [← List.length_map (f := PushAccount.node), PushServer.map_node_answer, List.length_map,
      h.resolved, PushServer.length_resolveAll]
  have hnil : PushServer.answer platform w.connected oldNodes pushAccounts = []
      ↔ m.accounts = [] := by
    rw [← List.length_eq_zero_iff, hlength, List.length_eq_zero_iff]
  rw [responses_registered h] at hdump ⊢
  simp only [List.mem_singleton, forall_eq] at hdump ⊢
  constructor
  · rintro ⟨hparse, -, -⟩ hempty
    have hwell := Parser.parse_wellFormed hparse
    exact hwell.2.2.1 (hnil.mpr hempty)
  · intro hsome
    have hstrings : ∀ a ∈ PushServer.answer platform w.connected oldNodes pushAccounts,
        a.accountId ≠ "" ∧ a.node ≠ "" ∧ a.secret ≠ "" := by
      intro a ha
      obtain ⟨b, hb, hid, hnode, hsecret⟩ := PushServer.mem_answer ha
      rw [hid, hnode, hsecret]
      apply h.strings valid hw hentries b hb
    have hsent : (Message.successSetPushAccounts (.ofFields
        (PushServer.answer platform w.connected oldNodes pushAccounts)
          config.xmpp.bareJid)).Sent := by
      apply Message.Sent.successSetPushAccounts _ hstrings hjid
      intro hempty
      apply hsome (hnil.mp hempty)
    use parse_of_wellFormed hsent.wellFormed hdump, trivial
    constructor
    · intro _
      apply hs
    · intro _
      exact ⟨_, rfl⟩

/-- A refused registration sends plain responses. -/
theorem plain_refused {n : Nat} (h : PushServer.Refused n w w') :
  ∀ m ∈ responses w w', m.Plain
  := by
  rcases h.log with hlog | ⟨error, hlog⟩
  · rw [responses_eq (hlog.trans (List.append_nil w.log).symm)]
    simp
  · rw [responses_eq hlog]
    simp only [List.filterMap_cons, List.filterMap_nil, Output.reply?, List.mem_singleton,
      forall_eq]
    exact .error error

theorem onMessageReceived_eq {m : Message} (hs : Parser.parse platform s = .ok (.valid m)) :
  PushServer.onMessageReceived platform config s = PushServer.processMessage platform config m
  := by
  rw [PushServer.onMessageReceived, hs]
  rfl

/-- A string is the registration that it is parsed to. -/
theorem exists_setPushAccounts {request : SetPushAccountsMessage}
    (hs : Parser.parse platform s = .ok (.valid (.setPushAccounts request)))
    {P : SetPushAccountsMessage → Prop} :
  (∃ r, Parser.parse platform s = .ok (.valid (.setPushAccounts r)) ∧ P r) ↔ P request
  := by
  constructor
  · rintro ⟨r, hr, hp⟩
    rw [hs] at hr
    cases hr
    apply hp
  · intro hp
    exact ⟨request, hs, hp⟩

/-- The responses to the registration of a device's accounts are read back, unless it lists no
accounts for a known device whose account keys hold their nodes. -/
theorem readBack_setPushAccounts {request : SetPushAccountsMessage}
    (h : Reached platform config oracle past w) (hjid : config.xmpp.bareJid ≠ "")
    (hs : Parser.parse platform s = .ok (.valid (.setPushAccounts request)))
    (hredis : (Server.run oracle (PushServer.handleMessage platform config
      (.setPushAccounts request)) w).1 ≠ .error wrongType)
    (hdump : ∀ m ∈ responses w (w.afterString platform config oracle s),
      platform.parse (platform.dump m.toJson) = some m.toJson) :
  (∀ m ∈ responses w (w.afterString platform config oracle s), ReadBack platform w s m)
    ↔ ¬(request.accounts = [] ∧ w.contents.elements request.deviceId ≠ []
      ∧ ∀ k ∈ (w.contents.elements request.deviceId).drop 2, w.contents.nodeUnder k ≠ none)
  := by
  have haccepts : AcceptsAccounts platform w s ↔ w.contents.elements request.deviceId ≠ [] :=
    exists_setPushAccounts hs
  unfold World.afterString at hdump ⊢
  rw [onMessageReceived_eq hs] at hdump ⊢
  rcases hrun : Server.run oracle (PushServer.handleMessage platform config
      (.setPushAccounts request)) w with ⟨r, w'⟩
  rcases PushServer.run_setPushAccounts_cases h.typed hrun with
    ⟨hrefused, ⟨rfl, hnil⟩ | ⟨hlog, e, rfl, he⟩⟩ | ⟨rfl, channelUri, oldNodes, accounts, hr⟩
  · -- The device is unknown.
    rw [run_processMessage_ok platform config hrun] at hdump ⊢
    constructor
    · rintro - ⟨-, hd, -⟩
      exact hd hnil
    · intro _ m hm
      apply readBack_of_plain (plain_refused hrefused m hm) (hdump m hm)
      rw [haccepts, not_not]
      apply hnil
  · -- The process ends without a response.
    have hwrong : e ≠ wrongType := by
      rintro rfl
      apply hredis
      rw [hrun]
    obtain ⟨huncaught, k, hk, hnode⟩ := he.resolve_left hwrong
    rw [run_processMessage_uncaught platform config huncaught hrun,
      responses_eq (hlog.trans (List.append_nil w.log).symm)]
    constructor
    · rintro - ⟨-, -, hall⟩
      exact hall k hk hnode
    · intro _ m hm
      cases hm
  · -- The accounts are registered.
    rw [run_processMessage_ok platform config hrun] at hdump ⊢
    have hd : w.contents.elements request.deviceId ≠ [] := by
      intro hnil
      have := hr.head
      rw [hnil] at this
      cases this
    rw [readBack_registered (Parser.parse_valid hs) hr h.typed h.entriesNonEmpty hjid
      (haccepts.mpr hd) hdump]
    constructor
    · rintro hsome ⟨hempty, -⟩
      exact hsome hempty
    · intro hnot hempty
      apply hnot
      use hempty, hd
      intro k hk hnone
      obtain ⟨node, -, hnode⟩ := hr.old_key hk
      rw [hnone] at hnode
      cases hnode

end

/-- Where no Redis command throws, the responses to a string are read back as what was sent
and report accounts for the registrations of known devices, if and only if the string does not
register an empty list of accounts for a device whose account keys hold their nodes. -/
theorem readBack_iff {platform : Platform} {config : Configuration} {oracle : Oracle}
    {past : History} {w : World} (h : Reached platform config oracle past w)
    (hjid : config.xmpp.bareJid ≠ "") (s : String)
    (hredis : ∀ m, Parser.parse platform s = .ok (.valid m) →
      (Server.run oracle (PushServer.handleMessage platform config m) w).1 ≠ .error wrongType)
    (hdump : ∀ m ∈ responses w (w.afterString platform config oracle s),
      platform.parse (platform.dump m.toJson) = some m.toJson) :
  (∀ m ∈ responses w (w.afterString platform config oracle s), ReadBack platform w s m)
    ↔ ¬∃ request, Parser.parse platform s = .ok (.valid (.setPushAccounts request))
      ∧ request.accounts = [] ∧ w.contents.elements request.deviceId ≠ []
      ∧ ∀ k ∈ (w.contents.elements request.deviceId).drop 2, w.contents.nodeUnder k ≠ none
  := by
  by_cases hs : ∃ request, Parser.parse platform s = .ok (.valid (.setPushAccounts request))
  · obtain ⟨request, hs⟩ := hs
    rw [exists_setPushAccounts hs]
    apply readBack_setPushAccounts h hjid hs (hredis _ hs) hdump
  · simp only [not_exists] at hs
    constructor
    · rintro - ⟨request, hr, -⟩
      exact hs request hr
    · intro _ m hm
      apply readBack_of_plain (responses_plain (plain_onMessageReceived hs) m hm) (hdump m hm)
      rintro ⟨request, hr, -⟩
      exact hs request hr

namespace Sample

/-- A request to set no accounts. -/
def emptyRequest : String :=
  "\x7b\"accounts\":[],\"action\":\"set_push_accounts\",\"device_id\":\"phone\",\"version\":2\x7d"

/-- The response without accounts. -/
def emptyResponse : Message :=
  .successSetPushAccounts (.ofFields [] config.xmpp.bareJid)

/-- The text of the response without accounts. -/
def emptyText : String :=
  "\x7b\"accounts\":[],\"action\":\"response\",\"push_bare_jid\":\"push@example.org\","
    ++ "\"status\":1,\"version\":2\x7d"

/-- A platform that reads the request and prints and reads the response. -/
def codec : Platform :=
  { platform with
    parse s :=
      if s = emptyRequest then some (Message.setPushAccounts (.ofFields [] "phone")).toJson
      else if s = emptyText then some emptyResponse.toJson
      else none
    dump _ := emptyText }

/-- A request to set an account. -/
def accountRequest : String :=
  "\x7b\"accounts\":[\x7b\"account_id\":\"alice\"\x7d],\"action\":\"set_push_accounts\","
    ++ "\"device_id\":\"phone\",\"version\":2\x7d"

/-- The response with the account. -/
def accountResponse : Message :=
  .successSetPushAccounts
    (.ofFields [⟨"alice", oracle.node 0, oracle.secret 0, true⟩] config.xmpp.bareJid)

/-- The text of the response with the account. -/
def accountText : String :=
  "\x7b\"accounts\":[\x7b\"account_id\":\"alice\",\"node\":\"" ++ oracle.node 0
    ++ "\",\"secret\":\"" ++ oracle.secret 0 ++ "\",\"success\":true\x7d],"
    ++ "\"action\":\"response\",\"push_bare_jid\":\"push@example.org\","
    ++ "\"status\":1,\"version\":2\x7d"

/-- A platform that reads the request and prints and reads the response. -/
def accountCodec : Platform :=
  { platform with
    parse s :=
      if s = accountRequest then
        some (Message.setPushAccounts (.ofFields ["alice"] "phone")).toJson
      else if s = accountText then some accountResponse.toJson
      else none
    dump _ := accountText }

/-- The run in which a device sends its channel URI. -/
def known : History × World :=
  Run.trace (fun e w => w.handle codec config oracle e) [] world
    [setChannelUri "phone" phone_channelUri]

theorem parse_accountText :
  accountCodec.parse accountText = some accountResponse.toJson
  := by
  have hne : accountText ≠ accountRequest := by decide +kernel
  simp only [accountCodec, if_neg hne, if_true]

/-- The same run with the other platform. -/
def introduced : History × World :=
  Run.trace (fun e w => w.handle accountCodec config oracle e) [] world
    [setChannelUri "phone" phone_channelUri]

end Sample

/-- A known device registers an account. -/
theorem readBack_iff_known :
  responses Sample.introduced.2 (Sample.introduced.2.afterString Sample.accountCodec
      Sample.config Sample.oracle Sample.accountRequest) = [Sample.accountResponse]
    ∧ ((∀ m ∈ responses Sample.introduced.2 (Sample.introduced.2.afterString Sample.accountCodec
        Sample.config Sample.oracle Sample.accountRequest),
      ReadBack Sample.accountCodec Sample.introduced.2 Sample.accountRequest m)
    ↔ ¬∃ request, Parser.parse Sample.accountCodec Sample.accountRequest
        = .ok (.valid (.setPushAccounts request))
      ∧ request.accounts = [] ∧ Sample.introduced.2.contents.elements request.deviceId ≠ []
      ∧ ∀ k ∈ (Sample.introduced.2.contents.elements request.deviceId).drop 2,
        Sample.introduced.2.contents.nodeUnder k ≠ none)
  := by
  have hparse : Parser.parse Sample.accountCodec Sample.accountRequest
      = .ok (.valid (.setPushAccounts (.ofFields ["alice"] "phone"))) := by decide +kernel
  have hresponses : responses Sample.introduced.2 (Sample.introduced.2.afterString
      Sample.accountCodec Sample.config Sample.oracle Sample.accountRequest)
      = [Sample.accountResponse] := by
    decide +kernel
  have hreached : Reached Sample.accountCodec Sample.config Sample.oracle Sample.introduced.1
      Sample.introduced.2 := Run.of_trace (.start Sample.initial_world) _
  use hresponses
  apply readBack_iff hreached (by decide)
  · intro m hm
    rw [hparse] at hm
    cases hm
    decide +kernel
  · rw [hresponses]
    simp only [List.mem_singleton, forall_eq]
    apply Sample.parse_accountText

/-- The response to a known device that registers no accounts is not read back. -/
theorem not_readBack_empty :
  Reached Sample.codec Sample.config Sample.oracle Sample.known.1 Sample.known.2
    ∧ Sample.config.xmpp.bareJid ≠ ""
    ∧ Parser.parse Sample.codec Sample.emptyRequest
      = .ok (.valid (.setPushAccounts (.ofFields [] "phone")))
    ∧ (Server.run Sample.oracle (PushServer.onMessageReceived Sample.codec Sample.config
        Sample.emptyRequest) Sample.known.2).1 = .ok ()
    ∧ responses Sample.known.2 (Sample.known.2.afterString Sample.codec Sample.config
        Sample.oracle Sample.emptyRequest) = [Sample.emptyResponse]
    ∧ Sample.codec.parse (Sample.codec.dump Sample.emptyResponse.toJson)
      = some Sample.emptyResponse.toJson
    ∧ ¬ReadBack Sample.codec Sample.known.2 Sample.emptyRequest Sample.emptyResponse
  := by
  use Run.of_trace (.start Sample.initial_world) _, by decide, by decide +kernel,
    by decide +kernel, by decide +kernel, rfl
  rintro ⟨hparse, -⟩
  revert hparse
  decide +kernel

end UwpxPush
