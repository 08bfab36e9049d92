import UwpxPush.Server.Delivery
import UwpxPush.Server.Ownership

/-!
# The shape of the entries

In every world of a run each entry of the store has a deadline, and the list under a node
that has exactly three entries does not name that node as its device.
-/

namespace UwpxPush

open KeyValue

namespace Contents

/-- Every entry has a deadline. -/
def Lasting (c : Contents) : Prop :=
  ∀ k e, c k = some e → e.deadline ≠ none

/-- A list of three under a name as long as those that are drawn does not have the name as
its second entry. -/
def NoSelfRecord (c : Contents) : Prop :=
  ∀ k, k.length = 15 → (c.elements k).length = 3 → (c.elements k)[1]? ≠ some k

end Contents

section

variable {platform : Platform} {config : Configuration} {oracle : Oracle} {past : History}
  {w w' : World} {e : Event}

/-! ### Entries have deadlines -/

/-- Every run of the program leaves entries with deadlines where it found such. -/
def KeepsLasting {α : Type} (oracle : Oracle) (p : Server α) : Prop :=
  Program.Keeps (World.perform oracle) (fun w w' => w.contents.Lasting → w'.contents.Lasting) p

theorem keepsLasting_pure {α : Type} (a : α) :
  KeepsLasting oracle (pure a)
  := Program.keeps_pure (fun _ h => h) a

theorem keepsLasting_throw {α : Type} (e : Failure) :
  KeepsLasting oracle (throw e : Server α)
  := Program.keeps_throw (fun _ h => h) e

theorem keepsLasting_bind {α β : Type} {p : Server α} {f : α → Server β}
    (hp : KeepsLasting oracle p) (hf : ∀ a, KeepsLasting oracle (f a)) :
  KeepsLasting oracle (p >>= f)
  := Program.keeps_bind (fun h h' hw => h' (h hw)) hp hf

/-- A call that does not write leaves the store alone. -/
theorem World.redis_perform {c : Call} (h : ¬c.Writing) (w : World) :
  (World.perform oracle c w).2.redis = w.redis
  := by
  cases c with
  | lrange k => rw [perform_of_isReading (.inl ⟨k, rfl⟩)]
  | get k => rw [perform_of_isReading (.inr ⟨k, rfl⟩)]
  | set k v => exact (h trivial).elim
  | del k => exact (h trivial).elim
  | rpush k l => exact (h trivial).elim
  | expire k seconds => exact (h trivial).elim
  | expireat k seconds => exact (h trivial).elim
  | _ => rfl

/-- A program that does not write leaves the store alone. -/
theorem redis_run {α : Type} {p : Server α} (hp : p.Calls fun c => ¬c.Writing) (w : World) :
  (Server.run oracle p w).2.redis = w.redis
  := by
  induction p generalizing w with
  | pure a => rfl
  | throw e => rfl
  | call c k ih => exact (ih _ (hp.2 _) _).trans (World.redis_perform hp.1 w)

/-- A program that does not write leaves the entries as they were. -/
theorem keepsLasting_of_calls {α : Type} {p : Server α} (hp : p.Calls fun c => ¬c.Writing) :
  KeepsLasting oracle p
  := by
  intro w h
  rw [World.contents, redis_run hp]
  apply h

theorem keepsLasting_of_reading {α : Type} {p : Server α} (hp : p.Calls IsReading) :
  KeepsLasting oracle p
  := keepsLasting_of_calls (hp.mono fun _ => IsReading.not_writing)

theorem keepsLasting_invoke {c : Call} (hc : ¬c.Writing) :
  KeepsLasting oracle (invoke c)
  := keepsLasting_of_calls (Program.calls_invoke hc)

/-- The WNS token is written with a deadline. -/
theorem keepsLasting_setWnsToken (token type : String) (expires : Int) :
  KeepsLasting oracle (RedisClient.setWnsToken token type expires)
  := by
  intro w h k entry hk
  rw [← Server.run, run_setWnsToken] at hk
  by_cases hwns : k = RedisClient.WNS_TOKEN_KEY
  · rw [hwns] at hk
    rw [Store.deadline_of_expireAt hk]
    rintro ⟨⟩
  · rw [World.contents, Store.lookup_expireAt_of_ne _ hwns, Store.lookup_put_of_ne _ hwns,
      Store.lookup_del, if_neg hwns, Store.lookup_set, if_neg hwns] at hk
    apply h k entry hk

/-- The key of the token is replaced by an entry that expires. -/
theorem keepsLasting_requestNewToken :
  KeepsLasting oracle (WnsClient.requestNewToken platform config)
  := by
  apply keepsLasting_bind (keepsLasting_invoke id)
  intro response
  split
  · apply keepsLasting_pure
  · apply keepsLasting_bind
    · apply keepsLasting_of_calls
      apply (calls_fromResponse platform _).mono
      rintro c rfl
      exact id
    · intro token
      apply keepsLasting_bind (keepsLasting_invoke id)
      intro _
      cases token with
      | none => apply keepsLasting_pure
      | some token =>
          apply keepsLasting_bind (keepsLasting_setWnsToken _ _ _)
          intro _
          apply keepsLasting_pure

/-- Only the renewals of the token write. -/
theorem keepsLasting_postAttempts (request : HttpRequest) (attempts : ℕ) :
  KeepsLasting oracle (WnsClient.postAttempts platform config request attempts)
  := by
  induction attempts with
  | zero => apply keepsLasting_pure
  | succ attempts ih =>
      apply keepsLasting_bind (keepsLasting_invoke id)
      intro response
      split
      · apply ih
      · apply keepsLasting_bind
        · unfold WnsClient.handleResponseCode
          split
          · apply keepsLasting_pure
          · split
            · apply keepsLasting_bind keepsLasting_requestNewToken
              intro success
              split
              · apply keepsLasting_pure
              · apply keepsLasting_pure
            · split
              · apply keepsLasting_pure
              · apply keepsLasting_pure
        · rintro (_ | _ | _)
          · apply keepsLasting_pure
          · apply ih
          · apply keepsLasting_pure

theorem keepsLasting_isTokenValid :
  KeepsLasting oracle WnsClient.isTokenValid
  := by
  apply keepsLasting_of_calls
  apply calls_isTokenValid.mono
  rintro c (rfl | rfl)
  · exact id
  · exact id

/-- A notification writes nothing but the token. -/
theorem keepsLasting_sendRawNotification (channelUri content : String) :
  KeepsLasting oracle (WnsClient.sendRawNotification platform config channelUri content)
  := by
  apply keepsLasting_bind (keepsLasting_invoke id)
  intro _
  apply keepsLasting_bind
  · apply keepsLasting_bind keepsLasting_isTokenValid
    intro valid
    split
    · apply keepsLasting_pure
    · apply keepsLasting_requestNewToken
  · intro ready
    split
    · apply keepsLasting_bind (keepsLasting_invoke id)
      rintro (_ | token)
      · apply keepsLasting_throw
      · apply keepsLasting_postAttempts
    · apply keepsLasting_pure

theorem keepsLasting_notify (channelUri content : String) :
  KeepsLasting oracle (notify platform config channelUri content)
  := by
  apply keepsLasting_bind (keepsLasting_sendRawNotification _ _)
  intro _
  apply keepsLasting_pure

theorem keepsLasting_reply (m : Message) :
  KeepsLasting oracle (ClientSslSession.reply m)
  := keepsLasting_invoke id

theorem keepsLasting_sendTestPush (deviceId : String) :
  KeepsLasting oracle (PushServer.sendTestPush platform config deviceId)
  := by
  apply keepsLasting_bind (keepsLasting_of_reading (reading_getChannelUri deviceId))
  rintro (_ | channelUri)
  · apply keepsLasting_reply
  · apply keepsLasting_bind (keepsLasting_of_reading (reading_getVersion deviceId))
    intro version
    apply keepsLasting_bind (keepsLasting_sendRawNotification _ _)
    intro success
    split
    · apply keepsLasting_reply
    · apply keepsLasting_reply

/-- The check of the token writes nothing but the token. -/
theorem keepsLasting_checkSetupWns :
  KeepsLasting oracle (PushServer.checkSetupWns platform config)
  := by
  apply keepsLasting_bind keepsLasting_isTokenValid
  intro valid
  split
  · apply keepsLasting_bind keepsLasting_requestNewToken
    intro success
    split
    · apply keepsLasting_bind keepsLasting_requestNewToken
      intro _
      apply keepsLasting_pure
    · apply keepsLasting_pure
  · apply keepsLasting_pure

theorem keepsLasting_loadTokenFromDb :
  KeepsLasting oracle WnsClient.loadTokenFromDb
  := by
  apply keepsLasting_bind (keepsLasting_of_reading (reading_getOfThree _ 0))
  rintro (_ | token)
  · apply keepsLasting_pure
  · apply keepsLasting_bind (keepsLasting_of_reading (reading_getOfThree _ 1))
    rintro (_ | type)
    · apply keepsLasting_pure
    · apply keepsLasting_bind
      · apply keepsLasting_bind (keepsLasting_of_reading (reading_getOfThree _ 2))
        intro tt
        apply keepsLasting_pure
      · rintro (_ | expires)
        · apply keepsLasting_pure
        · exact keepsLasting_invoke id

/-- A list with elements has a deadline. -/
theorem Contents.Lasting.list {c : Contents} (h : c.Lasting) {k : String}
    (hne : c.elements k ≠ []) :
  ∃ d, c k = some ⟨.list (c.elements k), some d⟩
  := by
  unfold Contents.elements at hne ⊢
  split at hne
  · next l d hl =>
      rcases d with _ | d
      · exact (h k _ hl rfl).elim
      · exact ⟨d, hl⟩
  · exact (hne rfl).elim

/-- A list that expires may be written. -/
theorem Contents.Lasting.putList {c : Contents} (h : c.Lasting) (deadline : Int) (k : String)
    (l : List String) :
  (c.putList deadline k l).Lasting
  := by
  intro k' entry hk
  unfold Contents.putList at hk
  split at hk
  · cases hk
    nofun
  · apply h k' entry hk

/-- The channel URI is stored in a list that expires. -/
theorem keepsLasting_setChannelUri (deviceId channelUri : String) :
  KeepsLasting oracle (RedisClient.setChannelUri deviceId channelUri)
  := by
  intro w h
  by_cases hs : w.contents.NotString deviceId
  · obtain ⟨redis, hrun, -, hlookup⟩ := run_setChannelUri oracle channelUri hs
    change (Server.run oracle (RedisClient.setChannelUri deviceId channelUri) w).2.contents.Lasting
    rw [hrun, World.contents, hlookup]
    apply h.putList
  · rw [RedisClient.setChannelUri, Program.run_bind_error _ (run_lrange_of_string hs)]
    apply h

theorem keepsLasting_setUri (deviceId channelUri : String) :
  KeepsLasting oracle (PushServer.setChannelUri deviceId channelUri)
  := by
  unfold PushServer.setChannelUri
  split
  · apply keepsLasting_bind (keepsLasting_setChannelUri _ _)
    intro _
    apply keepsLasting_reply
  · apply keepsLasting_reply

/-- The handler of a message, apart from registrations. -/
theorem keepsLasting_handleMessage {m : Message} (hm : ∀ r, m ≠ .setPushAccounts r) :
  KeepsLasting oracle (PushServer.handleMessage platform config m)
  := by
  cases m with
  | setChannelUri m => apply keepsLasting_setUri
  | setPushAccounts m => exact (hm m rfl).elim
  | requestTestPush m => apply keepsLasting_sendTestPush
  | _ => apply keepsLasting_reply

/-- An error of a handler is answered and writes nothing. -/
theorem keepsLasting_processMessage {m : Message}
    (h : KeepsLasting oracle (PushServer.handleMessage platform config m)) :
  KeepsLasting oracle (PushServer.processMessage platform config m)
  := by
  apply Program.keeps_tryCatch (fun h h' hw => h' (h hw)) h
  intro e
  cases e with
  | exception what => apply keepsLasting_reply
  | _ => apply keepsLasting_throw

/-- The entries after a registration have deadlines. -/
theorem PushServer.Registered.lasting {deviceId version channelUri : String}
    {accounts oldNodes : List String} {pushAccounts : List PushAccount}
    (h : Registered platform config oracle deviceId version accounts w w' channelUri oldNodes
      pushAccounts) (hw : w.contents.Typed) (hlasting : w.contents.Lasting) :
  w'.contents.Lasting
  := by
  intro k entry hk
  rcases h.contents_cases hw k with rfl | ⟨-, a, -, -, hs⟩ | ⟨-, -, hs⟩ | ⟨-, -, -, hs⟩
  · cases h.contents_device.symm.trans hk
    nofun
  · cases hs.symm.trans hk
    nofun
  · cases hs.symm.trans hk
    nofun
  · rw [hs] at hk
    split at hk
    · cases hk
    · apply hlasting k entry hk

/-- In every world of a run the entries have deadlines. -/
theorem Reached.lasting (h : Reached platform config oracle past w) :
  w.contents.Lasting
  := by
  induction h with
  | start h =>
      intro k entry hk
      simp [World.contents, Store.lookup, h.redis] at hk
  | @next past w h e ih =>
      rcases e with ⟨m, valid⟩ | s | _ | _ | up | dt
      · by_cases hm : ∀ r, m ≠ .setPushAccounts r
        · exact keepsLasting_processMessage (keepsLasting_handleMessage hm) w ih
        · simp only [ne_eq, not_forall, not_not] at hm
          obtain ⟨m, rfl⟩ := hm
          rcases handle_setPushAccounts platform config (Reached.typed h) m with
            hrefused | ⟨_, _, _, hr⟩
          · rw [World.contents, World.handle, hrefused.redis]
            apply ih
          · exact hr.lasting (Reached.typed h) ih
      · rcases handle_stanza platform config oracle w s with
          hsame | ⟨_, _, _, _, channelUri, content, -, -, -, hnotify⟩
        · rw [hsame]
          apply ih
        · rw [hnotify]
          exact keepsLasting_notify channelUri content w ih
      · exact keepsLasting_checkSetupWns w ih
      · exact keepsLasting_loadTokenFromDb w ih
      · apply ih
      · intro k entry hk
        apply ih k entry (contents_advance hk)

/-! ### No node is its own device -/

/-- A list of three under a key that keeps its second entry is one that was there. -/
theorem Contents.NoSelfRecord.at {c c' : Contents} (h : c.NoSelfRecord) {k : String}
    (hk : k.length = 15)
    (heq : c'.elements k = c.elements k ∨ c'.elements k = []
      ∨ ∃ a, c'.elements k = a :: (c.elements k).tail)
    (hthree : (c'.elements k).length = 3) :
  (c'.elements k)[1]? ≠ some k
  := by
  rcases heq with heq | heq | ⟨a, heq⟩
  · rw [heq] at hthree ⊢
    apply h k hk hthree
  · rw [heq] at hthree
    cases hthree
  · rw [heq] at hthree ⊢
    rcases hl : c.elements k with _ | ⟨b, l⟩
    · rw [hl] at hthree
      cases hthree
    · rw [hl] at hthree
      have hbefore := h k hk (by rw [hl]; exact hthree)
      rw [hl] at hbefore
      exact hbefore

/-- A version has one digit. -/
theorem length_toString_version {m : SetPushAccountsMessage}
    (valid : (Message.setPushAccounts m).Valid) :
  (toString m.version).length = 1
  := by
  obtain ⟨hge, hle⟩ := valid.1
  have hversion : m.version = 1 ∨ m.version = 2 := by
    simp only [AbstractMessage.VERSION] at hle
    omega
  rcases hversion with h | h
  · rw [h]
    decide
  · rw [h]
    decide

/-- A registration puts no list of three under a node that names the node. -/
theorem PushServer.Registered.noSelfRecord {m : SetPushAccountsMessage}
    (valid : (Message.setPushAccounts m).Valid) {channelUri : String} {oldNodes : List String}
    {pushAccounts : List PushAccount}
    (h : Registered platform config oracle m.deviceId (toString m.version) m.accounts w w'
      channelUri oldNodes pushAccounts) (hw : w.contents.Typed)
    (hself : w.contents.NoSelfRecord) :
  w'.contents.NoSelfRecord
  := by
  intro k hk hthree
  rcases h.contents_cases hw k with rfl | ⟨-, a, -, -, hs⟩ | ⟨hne, ⟨a, ha, hnode⟩, hs⟩
    | ⟨-, -, -, hs⟩
  · intro hsecond
    rw [Contents.elements_of_eq h.contents_device] at hsecond
    have hversion := congrArg String.length (Option.some.inj hsecond)
    rw [length_toString_version valid, hk] at hversion
    cases hversion
  · rw [Contents.elements, hs] at hthree
    cases hthree
  · -- The list is a record of the device, since a longer one has more than three entries.
    rw [Contents.elements_of_eq hs] at hthree ⊢
    have hmem : a ∈ pushAccounts.filter (·.node = k) := by simp [ha, hnode]
    obtain ⟨b, l, hfilter⟩ := List.exists_cons_of_ne_nil (List.ne_nil_of_mem hmem)
    rw [Contents.records, hfilter, List.flatMap_cons] at hthree ⊢
    have hnil : w.contents.elements k = [] := by
      apply List.eq_nil_of_length_eq_zero
      simp only [List.length_append, List.length_cons] at hthree
      omega
    rw [hnil]
    intro hsecond
    exact hne (Option.some.inj hsecond).symm
  · apply hself.at hk _ hthree
    split at hs
    · exact .inr (.inl (by rw [Contents.elements, hs]))
    · exact .inl (Contents.elements_eq_of_apply_eq hs)

/-- In every world of a run no list of three under a node names the node. -/
theorem Reached.noSelfRecord (h : Reached platform config oracle past w) :
  w.contents.NoSelfRecord
  := by
  apply h.invariant (I := fun _ w => w.contents.NoSelfRecord)
  · intro w hw k hk hthree
    have hnone : w.contents k = none := by
      simp [World.contents, Store.lookup, hw.redis]
    rw [Contents.elements, hnone] at hthree
    cases hthree
  · intro past w e w' hreached hreached' hmove hself
    cases hmove with
    | @registered m valid _ _ _ _ hr => exact hr.noSelfRecord valid hreached.typed hself
    | refused hr =>
        rw [World.contents, hr.redis]
        apply hself
    | @channelUri m valid _ uri contents clock connected created log =>
        intro k hk hthree
        apply hself.at hk _ hthree
        rw [contents, Contents.setChannelUri]
        by_cases hd : k = m.deviceId
        · subst hd
          exact .inr (.inr ⟨m.channelUri, Contents.elements_of_eq (if_pos rfl)⟩)
        · exact .inl (Contents.elements_eq_of_apply_eq (if_neg hd))
    | other heffect =>
        intro k hk hthree
        apply hself.at hk _ hthree
        apply Or.inl
        apply Contents.elements_eq_of_apply_eq
        apply heffect.lookup
        rintro rfl
        cases hk
    | connection up => apply hself
    | advance dt =>
        intro k hk hthree
        apply hself.at hk _ hthree
        rcases hentry : ({ w with redis := w.redis.advance dt } : World).contents k with _ | entry
        · exact .inr (.inl (by rw [Contents.elements, hentry]))
        · apply Or.inl
          apply Contents.elements_eq_of_apply_eq
          rw [hentry, contents_advance hentry]

end

end UwpxPush
