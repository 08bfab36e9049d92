import UwpxPush.Server.Provenance
import UwpxPush.Wns.Conversation

/-!
# The HTTP requests of a run

Whatever the HTTP servers answer, every event leads to a polite conversation with them: at most
one notification is accepted for each that is begun, and the number of requests of a whole run
is bounded by its events.
-/

namespace UwpxPush

/-- The exchanges of a transition. -/
def exchanges (oracle : Oracle) (t : Transition Event World) : List Exchange :=
  answered oracle t.before.requests ((outputs t).filterMap Output.post?)

/-- A notification is begun. -/
def Output.isSending : Output → Bool
  | .sending _ _ => true
  | _ => false

/-- How many HTTP requests an event can lead to. -/
def Event.budget : Event → ℕ
  | .received (.requestTestPush _) _ => 7
  | .stanza _ => 7
  | .checkSetupWns => 2
  | _ => 0

/-- How many HTTP requests a run can lead to. -/
def budget : History → ℕ
  | [] => 0
  | t :: past => t.event.budget + budget past

/-- From `w` to `w'` at most `n` requests are made, politely, and at most one notification is
accepted for each that is begun. -/
def Conducted (platform : Platform) (config : Configuration) (oracle : Oracle) (n : ℕ)
    (w w' : World) : Prop :=
  ∃ l out, Exchanged oracle l w w' ∧ w'.log = w.log ++ out ∧ Polite platform config l
    ∧ l.countP Exchange.accepted ≤ out.countP Output.isSending ∧ l.length ≤ n

section

variable {platform : Platform} {config : Configuration} {oracle : Oracle} {past : History}
  {w w' w'' : World} {l : List Exchange} {n : ℕ}

theorem polite_nil :
  Polite platform config []
  := ⟨.nil, ⟨WnsClient.tokenRequest config, by simp⟩, Nat.zero_le 3, Nat.zero_le 4⟩

theorem Polite.length_le (h : Polite platform config l) :
  l.length ≤ 7
  := by
  calc l.length
    _ = l.countP Exchange.notifies + l.countP (fun x => !x.notifies) := by
        rw [List.length_eq_countP_add_countP Exchange.notifies]
        congr 2
        funext x
        cases x.notifies <;> rfl
    _ ≤ 3 + 4 := Nat.add_le_add h.notifications h.tokenRequests

theorem Conducted.refl (w : World) :
  Conducted platform config oracle n w w
  := ⟨[], [], .of_eq rfl rfl, (List.append_nil _).symm, polite_nil, Nat.zero_le _, Nat.zero_le _⟩

/-- What follows makes no requests. -/
theorem Conducted.trans_run {α : Type} {p : Server α} (h : Conducted platform config oracle n w w')
    (hp : p.Calls Call.Offline) :
  Conducted platform config oracle n w (Server.run oracle p w').2
  := by
  obtain ⟨l, out, hl, hlog, hpolite, haccepted, hlength⟩ := h
  obtain ⟨out', hlog'⟩ := World.log_run oracle p w'
  refine ⟨l, out ++ out', ?_, ?_, hpolite, ?_, hlength⟩
  · rw [← List.append_nil l]
    exact hl.trans (exchanged_of_calls hp w')
  · rw [hlog', hlog, List.append_assoc]
  · rw [List.countP_append]
    omega

theorem conducted_of_calls {α : Type} {p : Server α} (hp : p.Calls Call.Offline) (w : World) :
  Conducted platform config oracle n w (Server.run oracle p w).2
  := (Conducted.refl w).trans_run hp

/-- What begins with a program that only reads. -/
theorem Conducted.bind_reading {α β : Type} {p : Server α} {f : α → Server β}
    (hp : p.Calls IsReading)
    (hf : ∀ a, Conducted platform config oracle n w (Server.run oracle (f a) w).2) :
  Conducted platform config oracle n w (Server.run oracle (p >>= f) w).2
  := run_bind_reading hp (Conducted.refl w) fun a _ => hf a

/-- A notification, and what follows it without requests. -/
theorem conducted_sendRawNotification (channelUri content : String) {f : Bool → Server Unit}
    (hf : ∀ success, (f success).Calls Call.Offline) :
  Conducted platform config oracle 7 w (Server.run oracle
    (WnsClient.sendRawNotification platform config channelUri content >>= f) w).2
  := by
  obtain ⟨l, hl, hconversation⟩ :=
    conversation_sendRawNotification platform config oracle channelUri content w
  obtain ⟨out, hlog⟩ := World.log_run oracle
    (WnsClient.postNotification platform config channelUri content)
    (w.tell (.sending channelUri content))
  have hpolite := hconversation.polite
  have hsend : Conducted platform config oracle 7 w (Server.run oracle
      (WnsClient.sendRawNotification platform config channelUri content) w).2 := by
    refine ⟨l, .sending channelUri content :: out, hl, ?_, hpolite, ?_, hpolite.length_le⟩
    · exact hlog.trans (List.append_assoc _ _ _)
    · rw [List.countP_cons]
      exact (countP_accepted_le hpolite.chain).trans (Nat.le_add_left 1 _)
  rcases hrun : Server.run oracle (WnsClient.sendRawNotification platform config channelUri content)
    w with ⟨e | success, w'⟩
  · rw [hrun] at hsend
    rw [Server.run, Program.run_bind_error _ hrun]
    exact hsend
  · rw [hrun] at hsend
    rw [Server.run, Program.run_bind_ok _ hrun]
    exact hsend.trans_run (hf success)

theorem Call.OffHttp.offline {c : Call} (h : c.OffHttp) :
  c.Offline
  := by
  cases c with
  | post r => exact h.elim
  | _ => trivial

theorem offline_reply (m : Message) :
  (ClientSslSession.reply m).Calls Call.Offline
  := Program.calls_invoke trivial

theorem conducted_sendTestPush (deviceId : String) (w : World) :
  Conducted platform config oracle 7 w
    (Server.run oracle (PushServer.sendTestPush platform config deviceId) w).2
  := by
  apply Conducted.bind_reading (reading_getChannelUri deviceId)
  rintro (_ | channelUri)
  · exact conducted_of_calls (offline_reply _) w
  · apply Conducted.bind_reading (reading_getVersion deviceId)
    intro version
    apply conducted_sendRawNotification
    intro success
    split
    · apply offline_reply
    · apply offline_reply

/-- The exception of a handler is answered. -/
theorem conducted_processMessage {m : Message}
    (h : Conducted platform config oracle n w
      (Server.run oracle (PushServer.handleMessage platform config m) w).2) :
  Conducted platform config oracle n w
    (Server.run oracle (PushServer.processMessage platform config m) w).2
  := by
  rcases hrun : Server.run oracle (PushServer.handleMessage platform config m) w with ⟨e | u, w'⟩
  · rw [hrun] at h
    rcases run_processMessage_error platform config hrun with ⟨error, hreply⟩ | herror
    · rw [hreply]
      exact h.trans_run (p := ClientSslSession.reply _) (offline_reply _)
    · rw [herror]
      exact h
  · rw [hrun] at h
    rw [run_processMessage_ok platform config hrun]
    exact h

theorem conducted_received (m : Message) (valid : m.Valid) (w : World) :
  Conducted platform config oracle (Event.received m valid).budget w
    (w.handle platform config oracle (.received m valid))
  := by
  apply conducted_processMessage
  cases m with
  | setChannelUri m =>
      apply conducted_of_calls
      change (PushServer.setChannelUri m.deviceId m.channelUri).Calls Call.Offline
      unfold PushServer.setChannelUri
      split
      · apply Program.calls_bind
        · exact (commands_setChannelUri _ _).calls.mono fun _ => Call.Redis.offline
        · intro _
          apply offline_reply
      · apply offline_reply
  | setPushAccounts m =>
      apply conducted_of_calls
      exact (offHttp_setPushAccounts _ _ _).mono fun _ => Call.OffHttp.offline
  | requestTestPush m => exact conducted_sendTestPush m.deviceId w
  | successResponse m => exact conducted_of_calls (offline_reply _) w
  | successSetPushAccounts m => exact conducted_of_calls (offline_reply _) w
  | errorResponse m => exact conducted_of_calls (offline_reply _) w

theorem conducted_stanza (stanza : Stanza) (w : World) :
  Conducted platform config oracle 7 w (w.handle platform config oracle (.stanza stanza))
  := by
  rcases handle_stanza platform config oracle w stanza with
    hsame | ⟨node, notification, accountId, deviceId, channelUri, content, -, -, -, hnotify⟩
  · rw [hsame]
    exact Conducted.refl w
  · rw [hnotify]
    apply conducted_sendRawNotification
    intro success
    apply Program.calls_pure

/-- A token is requested, and where none is granted, once more. -/
theorem polite_tokenRequests {answer : HttpResponse} {rest : List Exchange}
    (hrest : rest = [] ∨ ¬answer.IsGrant platform
      ∧ ∃ answer', rest = [⟨WnsClient.tokenRequest config, answer'⟩]) :
  Polite platform config (⟨WnsClient.tokenRequest config, answer⟩ :: rest)
    ∧ List.countP Exchange.accepted (⟨WnsClient.tokenRequest config, answer⟩ :: rest) = 0
    ∧ List.length (⟨WnsClient.tokenRequest config, answer⟩ :: rest) ≤ 2
  := by
  rcases hrest with rfl | ⟨hdenied, answer', rfl⟩
  · refine ⟨⟨.singleton _, ⟨WnsClient.tokenRequest config, by simp⟩, ?_, ?_⟩, rfl, by simp⟩
    · exact List.countP_le_length.trans (by simp)
    · exact List.countP_le_length.trans (by simp)
  · refine ⟨⟨?_, ⟨WnsClient.tokenRequest config, by simp⟩, ?_, ?_⟩, rfl, by simp⟩
    · exact List.isChain_pair.mpr (.denied rfl hdenied rfl)
    · exact List.countP_le_length.trans (by simp)
    · exact List.countP_le_length.trans (by simp)

/-- A check without a valid token. -/
theorem exchanged_checkSetupWns (h : ∀ token, ¬w.HasToken token) :
  ∃ rest, Exchanged oracle (⟨WnsClient.tokenRequest config, oracle.http w.requests⟩ :: rest) w
      (Server.run oracle (PushServer.checkSetupWns platform config) w).2
    ∧ (rest = [] ∨ ¬(oracle.http w.requests).IsGrant platform
      ∧ ∃ answer, rest = [⟨WnsClient.tokenRequest config, answer⟩])
  := by
  have hfirst := exchanged_requestNewToken platform config oracle w
  have hiff := run_requestNewToken_iff platform config oracle w
  rw [PushServer.checkSetupWns, Server.run, Program.run_bind_ok _ (run_isTokenValid_of_not h)]
  change ∃ rest, Exchanged oracle _ w (Program.run _ (WnsClient.requestNewToken platform config
    >>= _) w).2 ∧ _
  rcases hrun : Server.run oracle (WnsClient.requestNewToken platform config) w
    with ⟨e | success, w'⟩
  · rw [hrun] at hfirst
    rw [Program.run_bind_error _ hrun]
    exact ⟨[], hfirst, .inl rfl⟩
  · rw [hrun] at hfirst hiff
    rw [Program.run_bind_ok _ hrun]
    cases success with
    | true => exact ⟨[], hfirst, .inl rfl⟩
    | false =>
        have hsecond := exchanged_requestNewToken platform config oracle w'
        have hdenied : ¬(oracle.http w.requests).IsGrant platform := by
          intro hgrant
          cases hiff.mpr hgrant
        refine ⟨[⟨WnsClient.tokenRequest config, oracle.http w'.requests⟩], hfirst.trans ?_,
          .inr ⟨hdenied, _, rfl⟩⟩
        change Exchanged oracle _ w' (Program.run _ (WnsClient.requestNewToken platform config
          >>= _) w').2
        rcases hrun' : Server.run oracle (WnsClient.requestNewToken platform config) w'
          with ⟨e | success', w''⟩
        · rw [hrun'] at hsecond
          rw [Program.run_bind_error _ hrun']
          exact hsecond
        · rw [hrun'] at hsecond
          rw [Program.run_bind_ok _ hrun']
          exact hsecond

/-- Where no token is granted, one is requested a second time. -/
theorem conducted_checkSetupWns (w : World) :
  Conducted platform config oracle 2 w (w.handle platform config oracle .checkSetupWns)
  := by
  by_cases hvalid : ∃ token, w.HasToken token
  · obtain ⟨token, hvalid⟩ := hvalid
    change Conducted platform config oracle 2 w
      (Server.run oracle (PushServer.checkSetupWns platform config) w).2
    rw [PushServer.checkSetupWns, Server.run,
      Program.run_bind_ok _ (run_isTokenValid_of_hasToken hvalid)]
    exact Conducted.refl w
  · obtain ⟨rest, hl, hrest⟩ := exchanged_checkSetupWns (not_exists.mp hvalid)
    obtain ⟨out, hlog⟩ := World.log_run oracle (PushServer.checkSetupWns platform config) w
    obtain ⟨hpolite, haccepted, hlength⟩ := polite_tokenRequests hrest
    exact ⟨_, out, hl, hlog, hpolite, haccepted.le.trans (Nat.zero_le _), hlength⟩

theorem conducted_loadTokenFromDb (w : World) :
  Conducted platform config oracle n w (Server.run oracle WnsClient.loadTokenFromDb w).2
  := by
  apply Conducted.bind_reading (reading_getOfThree _ 0)
  rintro (_ | token)
  · exact Conducted.refl w
  · apply Conducted.bind_reading (reading_getOfThree _ 1)
    rintro (_ | type)
    · exact Conducted.refl w
    · apply Conducted.bind_reading
      · apply Program.calls_bind (reading_getOfThree _ 2)
        intro tt
        apply Program.calls_pure
      · rintro (_ | expires)
        · exact Conducted.refl w
        · apply conducted_of_calls
          apply Program.calls_invoke
          trivial

variable (platform config oracle) in
/-- Every event is conducted within its budget. -/
theorem conducted_handle (e : Event) (w : World) :
  Conducted platform config oracle e.budget w (w.handle platform config oracle e)
  := by
  cases e with
  | received m valid => exact conducted_received m valid w
  | stanza s => exact conducted_stanza s w
  | checkSetupWns => exact conducted_checkSetupWns w
  | start => exact conducted_loadTokenFromDb w
  | connection up =>
      exact ⟨[], [], .of_eq rfl rfl, (List.append_nil _).symm, polite_nil, Nat.zero_le _,
        Nat.zero_le _⟩
  | advance dt =>
      exact ⟨[], [], .of_eq rfl rfl, (List.append_nil _).symm, polite_nil, Nat.zero_le _,
        Nat.zero_le _⟩

/-- The exchanges of a transition are those that are made. -/
theorem exchanges_eq {e : Event} {out : List Output} (h : Exchanged oracle l w w')
    (hlog : w'.log = w.log ++ out) :
  exchanges oracle ⟨e, w, w'⟩ = l
  := by
  have hposts : out.filterMap Output.post? = l.map Exchange.request := by
    have happend := h.posts
    rw [World.posts, World.posts, hlog, List.filterMap_append] at happend
    exact List.append_cancel_left happend
  rw [exchanges, outputs_eq hlog, hposts]
  exact h.answers

end

/-- In every run, whatever the HTTP servers answer, every event leads to a polite conversation in
which at most one notification is accepted for each that is begun; so at most as many
notifications are accepted in the whole run as are begun, and the requests stay within the
budgets of the events. -/
theorem Reached.conversations {platform : Platform} {config : Configuration} {oracle : Oracle}
    {past : History} {w : World} (h : Reached platform config oracle past w) :
  (∀ t ∈ past, Polite platform config (exchanges oracle t)
      ∧ (exchanges oracle t).countP Exchange.accepted ≤ (outputs t).countP Output.isSending)
    ∧ (answered oracle 0 w.posts).countP Exchange.accepted ≤ w.log.countP Output.isSending
    ∧ w.posts.length ≤ budget past
  := by
  suffices hall : (∀ t ∈ past, Polite platform config (exchanges oracle t)
        ∧ (exchanges oracle t).countP Exchange.accepted ≤ (outputs t).countP Output.isSending)
      ∧ (answered oracle 0 w.posts).countP Exchange.accepted ≤ w.log.countP Output.isSending
      ∧ w.posts.length ≤ budget past
      ∧ w.posts.length = w.requests by
    exact ⟨hall.1, hall.2.1, hall.2.2.1⟩
  induction h with
  | @start w hw =>
      have hposts : w.posts = [] := by rw [World.posts, hw.log, List.filterMap_nil]
      rw [hposts, hw.requests]
      exact ⟨by simp, Nat.zero_le _, Nat.le_refl 0, rfl⟩
  | @next past w hreached e ih =>
      obtain ⟨hpast, haccepted, hbudget, hrequests⟩ := ih
      obtain ⟨l, out, hl, hlog, hpolite, hle, hlength⟩ :=
        conducted_handle platform config oracle e w
      refine ⟨?_, ?_, ?_, ?_⟩
      · intro t ht
        rcases List.mem_cons.mp ht with rfl | ht
        · rw [exchanges_eq hl hlog, outputs_eq hlog]
          exact ⟨hpolite, hle⟩
        · exact hpast t ht
      · rw [hl.posts, answered_append, Nat.zero_add, hrequests, hl.answers, hlog,
          List.countP_append, List.countP_append]
        exact Nat.add_le_add haccepted hle
      · rw [hl.posts, List.length_append, List.length_map, budget, Nat.add_comm]
        exact Nat.add_le_add hlength hbudget
      · rw [hl.posts, hl.requests, List.length_append, List.length_map, hrequests]

/-- A device that asks for a test push. -/
theorem conversations_testPush :
  let r := Sample.run (Sample.registration ++ [Sample.requestTestPush "phone" (by decide)])
  (∀ t ∈ r.1, Polite Sample.platform Sample.config (exchanges Sample.oracle t)
      ∧ (exchanges Sample.oracle t).countP Exchange.accepted
        ≤ (outputs t).countP Output.isSending)
    ∧ (answered Sample.oracle 0 r.2.posts).countP Exchange.accepted
      ≤ r.2.log.countP Output.isSending
    ∧ r.2.posts.length ≤ budget r.1
  := (Sample.reached_run _).conversations

end UwpxPush
