import UwpxPush.Server.Lasting
import UwpxPush.Server.Roles

/-!
# What a request leaves alone

A request of a device changes entries of the device only: neither the list, the account keys
and the records of other devices nor the WNS token, which is replaced only where a new one is
requested.  Keys have no roles that the code could tell apart, so this holds where no device
is named like a key of another role.
-/

namespace UwpxPush

open KeyValue

/-- The WNS token is what it was, or it was replaced by a token that was requested. -/
def TokenKept (config : Configuration) (t : Transition Event World) : Prop :=
  t.after.contents RedisClient.WNS_TOKEN_KEY = t.before.contents RedisClient.WNS_TOKEN_KEY
    ∨ .post (WnsClient.tokenRequest config) ∈ outputs t
      ∧ ∀ entry, t.after.contents RedisClient.WNS_TOKEN_KEY = some entry → IsTokenEntry entry

/-- The transition of a request of the device changes entries of the device only. -/
structure Framed (platform : Platform) (config : Configuration) (oracle : Oracle)
    (past : History) (t : Transition Event World) (deviceId : String) : Prop where
  own : ∀ k, k ≠ RedisClient.WNS_TOKEN_KEY → t.after.contents k ≠ t.before.contents k →
    EntryOf platform oracle (t :: past) deviceId t.event.accounts k
  others : ∀ k, Foreign platform oracle (t :: past) deviceId k →
    t.after.contents k = t.before.contents k
  token : TokenKept config t

section

variable {platform : Platform} {config : Configuration} {oracle : Oracle} {past : History}
  {w w' : World} {e : Event}

/-! ### The WNS token -/

variable (oracle) in
/-- No call takes back what was sent. -/
theorem World.log_perform (c : Call) (w : World) :
  ∃ out, (World.perform oracle c w).2.log = w.log ++ out
  := by
  have hsame : ∀ {w' : World}, w'.log = w.log → ∃ out, w'.log = w.log ++ out := by
    intro w' h
    exact ⟨[], by rw [h, List.append_nil]⟩
  cases c with
  | lrange k =>
      apply hsame
      rw [perform_of_isReading (.inl ⟨k, rfl⟩)]
  | get k =>
      apply hsame
      rw [perform_of_isReading (.inr ⟨k, rfl⟩)]
  | rpush k l =>
      apply hsame
      simp only [World.perform]
      rcases w.redis.push k l with _ | redis
      · rfl
      · rfl
  | send q => exact ⟨_, rfl⟩
  | post r => exact ⟨_, rfl⟩
  | sending channelUri content => exact ⟨_, rfl⟩
  | reply m => exact ⟨_, rfl⟩
  | _ => exact hsame rfl

variable (oracle) in
/-- No program takes back what was sent. -/
theorem World.log_run {α : Type} (p : Server α) (w : World) :
  ∃ out, (Server.run oracle p w).2.log = w.log ++ out
  := by
  induction p generalizing w with
  | pure a => exact ⟨[], by simp [Server.run, Program.run]⟩
  | throw e => exact ⟨[], by simp [Server.run, Program.run]⟩
  | call c k ih =>
      obtain ⟨out, hout⟩ := World.log_perform oracle c w
      obtain ⟨out', hout'⟩ := ih (World.perform oracle c w).1 (World.perform oracle c w).2
      use out ++ out'
      rw [← List.append_assoc, ← hout]
      apply hout'

/-- The call writes nothing under the key. -/
def Call.Spares (k : String) : Call → Prop
  | set key _ => key ≠ k
  | del key => key ≠ k
  | rpush key _ => key ≠ k
  | expire key _ => key ≠ k
  | expireat key _ => key ≠ k
  | _ => True

/-- A call that writes nothing under a key leaves its entry alone. -/
theorem World.contents_perform {k : String} {c : Call} (h : c.Spares k) (w : World) :
  (World.perform oracle c w).2.contents k = w.contents k
  := by
  cases c with
  | lrange key => rw [perform_of_isReading (.inl ⟨key, rfl⟩)]
  | get key => rw [perform_of_isReading (.inr ⟨key, rfl⟩)]
  | set key value => exact (Store.lookup_set _ _ _ _).trans (if_neg (Ne.symm h))
  | del key => exact (Store.lookup_del _ _ _).trans (if_neg (Ne.symm h))
  | rpush key values =>
      simp only [World.perform]
      rcases hpush : w.redis.push key values with _ | redis
      · rfl
      · exact Store.lookup_push_of_ne hpush (Ne.symm h)
  | expire key seconds => exact Store.lookup_expireAt_of_ne _ (Ne.symm h) _
  | expireat key seconds => exact Store.lookup_expireAt_of_ne _ (Ne.symm h) _
  | _ => rfl

/-- A program that writes nothing under a key leaves its entry alone. -/
theorem World.contents_run {α : Type} {k : String} {p : Server α} (hp : p.Calls (Call.Spares k))
    (w : World) :
  (Server.run oracle p w).2.contents k = w.contents k
  := by
  induction p generalizing w with
  | pure a => rfl
  | throw e => rfl
  | call c f ih => exact (ih _ (hp.2 _) _).trans (World.contents_perform hp.1 w)

/-- A call that does not write spares every key. -/
theorem Call.spares_of_not_writing {c : Call} (h : ¬c.Writing) (k : String) :
  c.Spares k
  := by
  cases c with
  | set key value => exact (h trivial).elim
  | del key => exact (h trivial).elim
  | rpush key values => exact (h trivial).elim
  | expire key seconds => exact (h trivial).elim
  | expireat key seconds => exact (h trivial).elim
  | _ => trivial

/-- The entry of the WNS token stays, or a token is requested. -/
def TokenStep (config : Configuration) (w w' : World) : Prop :=
  ∃ out, w'.log = w.log ++ out
    ∧ (w'.contents RedisClient.WNS_TOKEN_KEY = w.contents RedisClient.WNS_TOKEN_KEY
      ∨ .post (WnsClient.tokenRequest config) ∈ out)

theorem TokenStep.trans {w₁ w₂ w₃ : World} (h : TokenStep config w₁ w₂)
    (h' : TokenStep config w₂ w₃) :
  TokenStep config w₁ w₃
  := by
  obtain ⟨out, hlog, h⟩ := h
  obtain ⟨out', hlog', h'⟩ := h'
  use out ++ out'
  constructor
  · rw [hlog', hlog, List.append_assoc]
  · rcases h with h | h
    · rcases h' with h' | h'
      · exact .inl (h'.trans h)
      · exact .inr (List.mem_append_right _ h')
    · exact .inr (List.mem_append_left _ h)

/-- Every run of the program leaves the entry of the WNS token alone, or requests a token. -/
def KeepsToken {α : Type} (config : Configuration) (oracle : Oracle) (p : Server α) : Prop :=
  Program.Keeps (World.perform oracle) (TokenStep config) p

theorem keepsToken_bind {α β : Type} {p : Server α} {f : α → Server β}
    (hp : KeepsToken config oracle p) (hf : ∀ a, KeepsToken config oracle (f a)) :
  KeepsToken config oracle (p >>= f)
  := Program.keeps_bind (r := TokenStep config) TokenStep.trans hp hf

/-- A program that spares the key of the token keeps it. -/
theorem keepsToken_of_spares {α : Type} {p : Server α}
    (hp : p.Calls (Call.Spares RedisClient.WNS_TOKEN_KEY)) :
  KeepsToken config oracle p
  := by
  intro w
  obtain ⟨out, hlog⟩ := World.log_run oracle p w
  exact ⟨out, hlog, .inl (World.contents_run hp w)⟩

theorem keepsToken_of_calls {α : Type} {p : Server α} (hp : p.Calls fun c => ¬c.Writing) :
  KeepsToken config oracle p
  := keepsToken_of_spares (hp.mono fun _ h => Call.spares_of_not_writing h _)

theorem keepsToken_pure {α : Type} (a : α) :
  KeepsToken config oracle (pure a)
  := keepsToken_of_calls (Program.calls_pure a)

theorem keepsToken_throw {α : Type} (e : Failure) :
  KeepsToken config oracle (throw e : Server α)
  := by
  apply keepsToken_of_calls
  trivial

theorem keepsToken_invoke {c : Call} (hc : ¬c.Writing) :
  KeepsToken config oracle (invoke c)
  := keepsToken_of_calls (Program.calls_invoke hc)

theorem keepsToken_of_reading {α : Type} {p : Server α} (hp : p.Calls IsReading) :
  KeepsToken config oracle p
  := keepsToken_of_calls (hp.mono fun _ => IsReading.not_writing)

/-- A request for a token begins by sending it. -/
theorem keepsToken_bind_request {β : Type} (f : HttpResponse → Server β) :
  KeepsToken config oracle (WnsClient.post (WnsClient.tokenRequest config) >>= f)
  := by
  intro w
  let w₁ := (World.perform oracle (.post (WnsClient.tokenRequest config)) w).2
  obtain ⟨out, hlog⟩ := World.log_run oracle (f (oracle.http w.requests)) w₁
  use .post (WnsClient.tokenRequest config) :: out
  constructor
  · have hfirst : w₁.log = w.log ++ [.post (WnsClient.tokenRequest config)] := rfl
    rw [hfirst, List.append_assoc] at hlog
    apply hlog
  · exact .inr List.mem_cons_self

/-- The entry is written after the request. -/
theorem keepsToken_requestNewToken :
  KeepsToken config oracle (WnsClient.requestNewToken platform config)
  := keepsToken_bind_request _

theorem keepsToken_postAttempts (request : HttpRequest) (attempts : ℕ) :
  KeepsToken config oracle (WnsClient.postAttempts platform config request attempts)
  := by
  induction attempts with
  | zero => apply keepsToken_pure
  | succ attempts ih =>
      apply keepsToken_bind (keepsToken_invoke id)
      intro response
      split
      · apply ih
      · apply keepsToken_bind
        · unfold WnsClient.handleResponseCode
          split
          · apply keepsToken_pure
          · split
            · apply keepsToken_bind keepsToken_requestNewToken
              intro success
              split
              · apply keepsToken_pure
              · apply keepsToken_pure
            · split
              · apply keepsToken_pure
              · apply keepsToken_pure
        · rintro (_ | _ | _)
          · apply keepsToken_pure
          · apply ih
          · apply keepsToken_pure

/-- A notification writes the key as its token requests do. -/
theorem keepsToken_sendRawNotification (channelUri content : String) :
  KeepsToken config oracle (WnsClient.sendRawNotification platform config channelUri content)
  := by
  apply keepsToken_bind (keepsToken_invoke id)
  intro _
  apply keepsToken_bind
  · apply keepsToken_bind
    · apply keepsToken_of_calls
      apply calls_isTokenValid.mono
      rintro c (rfl | rfl)
      · exact id
      · exact id
    · intro valid
      split
      · apply keepsToken_pure
      · apply keepsToken_requestNewToken
  · intro ready
    split
    · apply keepsToken_bind (keepsToken_invoke id)
      rintro (_ | token)
      · apply keepsToken_throw
      · apply keepsToken_postAttempts
    · apply keepsToken_pure

theorem keepsToken_reply (m : Message) :
  KeepsToken config oracle (ClientSslSession.reply m)
  := keepsToken_invoke id

theorem keepsToken_sendTestPush (deviceId : String) :
  KeepsToken config oracle (PushServer.sendTestPush platform config deviceId)
  := by
  apply keepsToken_bind (keepsToken_of_reading (reading_getChannelUri deviceId))
  rintro (_ | channelUri)
  · apply keepsToken_reply
  · apply keepsToken_bind (keepsToken_of_reading (reading_getVersion deviceId))
    intro version
    apply keepsToken_bind (keepsToken_sendRawNotification _ _)
    intro success
    split
    · apply keepsToken_reply
    · apply keepsToken_reply

theorem spares_append {k key : String} (h : key ≠ k) (values : List String) :
  (RedisClient.append key values).Calls (Call.Spares k)
  := Program.calls_bind (Program.calls_invoke h) fun _ => Program.calls_invoke h

/-- The list of a device of another name is written. -/
theorem spares_setChannelUri {k deviceId : String} (h : deviceId ≠ k) (channelUri : String) :
  (RedisClient.setChannelUri deviceId channelUri).Calls (Call.Spares k)
  := by
  apply Program.calls_bind (Program.calls_invoke trivial)
  intro keys
  split
  · apply spares_append h
  · exact Program.calls_bind (Program.calls_invoke h) fun _ => spares_append h _

/-- A device that is not named like the key spares it. -/
theorem keepsToken_setChannelUri {deviceId : String}
    (h : deviceId ≠ RedisClient.WNS_TOKEN_KEY) (channelUri : String) :
  KeepsToken config oracle (PushServer.setChannelUri deviceId channelUri)
  := by
  unfold PushServer.setChannelUri
  split
  · apply keepsToken_bind (keepsToken_of_spares (spares_setChannelUri h channelUri))
    intro _
    apply keepsToken_reply
  · apply keepsToken_reply

/-- The handler of a message that is not about the key of the WNS token, apart from
registrations. -/
theorem keepsToken_handleMessage {m : Message} (hm : ∀ r, m ≠ .setPushAccounts r)
    (hd : m.deviceId ≠ some RedisClient.WNS_TOKEN_KEY) :
  KeepsToken config oracle (PushServer.handleMessage platform config m)
  := by
  cases m with
  | setChannelUri m =>
      apply keepsToken_setChannelUri
      intro heq
      exact hd (congrArg some heq)
  | setPushAccounts m => exact (hm m rfl).elim
  | requestTestPush m => apply keepsToken_sendTestPush
  | _ => apply keepsToken_reply

theorem keepsToken_processMessage {m : Message}
    (h : KeepsToken config oracle (PushServer.handleMessage platform config m)) :
  KeepsToken config oracle (PushServer.processMessage platform config m)
  := by
  apply Program.keeps_tryCatch (r := TokenStep config) TokenStep.trans h
  intro e
  cases e with
  | exception what => apply keepsToken_reply
  | _ => apply keepsToken_throw

/-- A registration leaves the WNS token alone. -/
theorem PushServer.Registered.contents_token {deviceId version channelUri : String}
    {accounts oldNodes : List String} {pushAccounts : List PushAccount}
    (h : Registered platform config oracle deviceId version accounts w w' channelUri oldNodes
      pushAccounts) (hw : w.contents.Typed) (hd : deviceId ≠ RedisClient.WNS_TOKEN_KEY) :
  w'.contents RedisClient.WNS_TOKEN_KEY = w.contents RedisClient.WNS_TOKEN_KEY
  := by
  rcases h.contents_cases hw RedisClient.WNS_TOKEN_KEY with heq | ⟨-, a, -, hkey, -⟩
    | ⟨-, ⟨a, ha, hnode⟩, -⟩ | ⟨-, -, -, hframe⟩
  · exact (hd heq.symm).elim
  · have hlength := congrArg String.length hkey
    rw [Contents.length_accountKey] at hlength
    cases hlength
  · have hlength := h.length_node hw a ha
    rw [hnode] at hlength
    cases hlength
  · rw [hframe, if_neg]
    intro hmem
    have hlength := h.length_old_key hw hmem
    cases hlength

/-- The WNS token is replaced only where a new one is requested. -/
theorem tokenKept_received (hw : w.contents.Typed) {m : Message} {valid : m.Valid}
    (hd : m.deviceId ≠ some RedisClient.WNS_TOKEN_KEY) :
  TokenKept config ⟨.received m valid, w, w.handle platform config oracle (.received m valid)⟩
  := by
  by_cases hm : ∀ r, m ≠ .setPushAccounts r
  · have hstep : TokenStep config w (w.handle platform config oracle (.received m valid)) :=
      keepsToken_processMessage (keepsToken_handleMessage hm hd) w
    have hmove := handle_move platform config oracle w hw (.received m valid)
    generalize w.handle platform config oracle (.received m valid) = w' at hstep hmove ⊢
    obtain ⟨out, hlog, hsame | hrequest⟩ := hstep
    · exact .inl hsame
    · cases hmove with
      | registered h => exact (hm _ rfl).elim
      | refused h => exact (hm _ rfl).elim
      | channelUri uri contents clock connected created log =>
          apply Or.inl
          change w'.contents _ = w.contents _
          rw [contents, Contents.setChannelUri]
          apply if_neg
          intro heq
          exact hd (congrArg some heq.symm)
      | other heffect =>
          rcases heffect.entry with hsame | htoken
          · exact .inl hsame
          · apply Or.inr
            constructor
            · rw [outputs_eq hlog]
              apply hrequest
            · apply htoken
  · simp only [ne_eq, not_forall, not_not] at hm
    obtain ⟨m, rfl⟩ := hm
    apply Or.inl
    rcases handle_setPushAccounts platform config hw m with hrefused | ⟨_, _, _, hr⟩
    · change (World.handle platform config oracle w (.received _ valid)).redis.lookup _ = _
      rw [World.handle, hrefused.redis]
      rfl
    · apply hr.contents_token hw
      intro heq
      exact hd (congrArg some heq)

end

/-- In every run whose names are new and whose keys have one role each, the request of a device
changes entries of the device only, and the WNS token only where a new one is requested. -/
theorem framed_of_rolesApart {platform : Platform} {config : Configuration} {oracle : Oracle}
    {past : History} {w : World} (h : Reached platform config oracle past w) {m : Message}
    {valid : m.Valid} {deviceId : String} (hd : m.deviceId = some deviceId)
    {t : Transition Event World}
    (ht : t = ⟨.received m valid, w, w.handle platform config oracle (.received m valid)⟩)
    (hfresh : Admitted (Fresh oracle) (t :: past))
    (hroles : RolesApart platform oracle (t :: past)) :
  Framed platform config oracle past t deviceId
  := by
  subst ht
  have hmove := handle_move platform config oracle w h.typed (.received m valid)
  have hafter := Run.next h (.received m valid)
  have hnamed : Named (⟨.received m valid, w,
      w.handle platform config oracle (.received m valid)⟩ :: past) deviceId :=
    named_cons hd
  constructor
  · intro k hwns hk
    exact hmove.entryOf h hfresh.2 hroles hd hwns hk
  · intro k hforeign
    exact hmove.contents_foreign h hafter hfresh hroles hd hforeign
  · apply tokenKept_received h.typed
    rintro heq
    apply hroles.token
    rw [hd] at heq
    cases heq
    apply hnamed

/-- Two devices with accounts, and a token. -/
def Sample.equipped : List Event :=
  twoRegistrations ++ [.checkSetupWns]

/-- A device registers its account again beside another device and the token. -/
theorem framed_equipped :
  Framed Sample.platform Sample.config Sample.oracle (Sample.run Sample.equipped).1
    (Sample.next Sample.equipped (Sample.setPushAccounts "phone" ["alice"] Sample.phone_alice))
    "phone"
  := framed_of_rolesApart (Sample.reached_run Sample.equipped) rfl rfl (by decide +kernel)
    (by decide +kernel)

/-- A device named `WNS` replaces the WNS token by its channel URI. -/
theorem not_framed_token :
  Reached Sample.platform Sample.config Sample.oracle (Sample.run [.checkSetupWns]).1
      (Sample.run [.checkSetupWns]).2
    ∧ (let t := Sample.next [.checkSetupWns] (Sample.setChannelUri "WNS" (by decide))
      Admitted (Fresh Sample.oracle) (t :: (Sample.run [.checkSetupWns]).1)
        ∧ (t.after.contents.elements RedisClient.WNS_TOKEN_KEY).head? = some Sample.channelUri
        ∧ ¬Framed Sample.platform Sample.config Sample.oracle (Sample.run [.checkSetupWns]).1 t
          "WNS")
  := by
  refine ⟨Sample.reached_run [.checkSetupWns], by decide +kernel, by decide +kernel, ?_⟩
  intro h
  rcases h.token with hsame | ⟨hrequest, -⟩
  · revert hsame
    decide +kernel
  · revert hrequest
    decide +kernel

end UwpxPush
