import UwpxPush.Server.Isolation

/-!
# What the HTTP servers cannot influence

The token server and WNS decide which token the server holds, which requests it repeats, and
what it answers to a request for a test push.  Two servers that are given the same events and
draw the same names have the same entries but for the token, give the same answers to all other
requests, send the same PubSub requests, and begin the same notifications, whatever the HTTP
servers answer.
-/

namespace UwpxPush

open KeyValue

/-- What of an event does not depend on the HTTP servers: everything but the HTTP requests and
the answer to a request for a test push. -/
def Event.shows : Event → Output → Bool
  | _, .post _ => false
  | .received (.requestTestPush _) _, .reply _ => false
  | _, _ => true

/-- The event is a stanza for the node. -/
def Event.IsOf (config : Configuration) (node : String) (e : Event) : Prop :=
  ∃ stanza notification, e = .stanza stanza ∧ IsEvent config stanza node notification

/-- The worlds differ only in the token, in the HTTP requests made, and in what was sent. -/
structure Alike (w w' : World) : Prop where
  redis : Store.Agree (· ≠ RedisClient.WNS_TOKEN_KEY) w.redis w'.redis
  connected : w.connected = w'.connected
  created : w.created = w'.created

/-- The transitions are by the same event, which shows the same. -/
structure ShowSame (t t' : Transition Event World) : Prop where
  event : t.event = t'.event
  outputs : (outputs t).filter t.event.shows = (outputs t').filter t'.event.shows

/-- The world `w` is `u` but for what was sent before. -/
def Since (before : List Output) (w u : World) : Prop :=
  w = { u with log := before ++ u.log }

/-- The world without what was sent. -/
def World.unsent (w : World) : World :=
  { w with log := [] }

section

variable {platform : Platform} {config : Configuration} {oracle oracle' : Oracle}
  {past past' : History} {w w' v v' : World}

theorem ShowSame.of_log {e : Event} {out out' : List Output} (hv : v.log = w.log ++ out)
    (hv' : v'.log = w'.log ++ out') (h : out.filter e.shows = out'.filter e.shows) :
  ShowSame ⟨e, w, v⟩ ⟨e, w', v'⟩
  := by
  use rfl
  rw [outputs_eq hv, outputs_eq hv']
  exact h

/-! ### What was sent before -/

/-- No call depends on what was sent before. -/
theorem respects_since (before : List Output) :
  Program.Respects (World.perform oracle) (World.perform oracle) (fun _ => True) (Since before)
  := by
  rintro c - w u rfl
  have htell : ∀ o, Since before (World.tell { u with log := before ++ u.log } o) (u.tell o) := by
    intro o
    simp only [Since, World.tell, List.append_assoc]
  cases c with
  | lrange k =>
      simp only [World.perform]
      rcases u.redis.range k with e | l
      · exact ⟨rfl, rfl⟩
      · exact ⟨rfl, rfl⟩
  | get k =>
      simp only [World.perform]
      rcases u.redis.get k with e | a
      · exact ⟨rfl, rfl⟩
      · exact ⟨rfl, rfl⟩
  | rpush k l =>
      simp only [World.perform]
      rcases u.redis.push k l with e | s
      · exact ⟨rfl, rfl⟩
      · exact ⟨rfl, rfl⟩
  | send q => exact ⟨rfl, htell _⟩
  | sending channelUri content => exact ⟨rfl, htell _⟩
  | reply m => exact ⟨rfl, htell _⟩
  | post r =>
      use rfl
      simp only [Since, World.perform, World.tell, List.append_assoc]
  | _ => exact ⟨rfl, rfl⟩

theorem since_unsent (w : World) :
  Since w.log w w.unsent
  := by
  rw [Since, World.unsent, List.append_nil]

/-- What a program sends does not depend on what was sent before. -/
theorem run_since (oracle : Oracle) (p : Server Unit) (w : World) :
  Since w.log (Server.run oracle p w).2 (Server.run oracle p w.unsent).2
  := ((respects_since w.log).run (Program.callsFrom_true p w) (since_unsent w)).2

/-! ### Registrations -/

/-- A program that registers something sends the same from worlds that are alike. -/
theorem Alike.registering (h : Alike w w') (hdraws : oracle.draws = oracle'.draws)
    {p : Server Unit} (hp : p.CallsFrom (World.perform oracle)
      (Call.Registering (· ≠ RedisClient.WNS_TOKEN_KEY)) w) :
  Alike (Server.run oracle p w).2 (Server.run oracle' p w').2
    ∧ ∃ out, (Server.run oracle p w).2.log = w.log ++ out
      ∧ (Server.run oracle' p w').2.log = w'.log ++ out
  := by
  have hsince : Program.Respects (World.perform oracle) (World.perform oracle)
      (Call.Registering (· ≠ RedisClient.WNS_TOKEN_KEY)) (Since w.log) :=
    fun c _ => respects_since w.log c trivial
  have hcalls := hsince.callsFrom hp (since_unsent w)
  obtain ⟨-, hredis, hconnected, hlog, hcreated⟩ :=
    (respects_registering _ (fun _ => true) hdraws).run hcalls
      (⟨h.redis, h.connected, rfl, h.created⟩ :
        (View.registration _ fun _ => true).Same w.unsent w'.unsent)
  simp only [View.registration, List.filter_true] at hlog
  have hrun := run_since oracle p w
  have hrun' := run_since oracle' p w'
  rw [Since] at hrun hrun'
  constructor
  · rw [hrun, hrun']
    exact ⟨hredis, hconnected, hcreated⟩
  · use (Server.run oracle p w.unsent).2.log
    constructor
    · rw [hrun]
    · rw [hrun']
      exact congrArg (w'.log ++ ·) hlog.symm

/-- Requests but those for a test push make Redis commands on keys other than that of the
token. -/
theorem callsFrom_received {m : Message} (valid : m.Valid) (hm : ∀ m', m ≠ .requestTestPush m')
    {t : Transition Event World} (h : Reached platform config oracle past w)
    (ht : t = ⟨.received m valid, w, w.handle platform config oracle (.received m valid)⟩)
    (hfresh : Admitted (Fresh oracle) (t :: past))
    (hroles : RolesApart platform oracle (t :: past)) :
  (PushServer.processMessage platform config m).CallsFrom (World.perform oracle)
    (Call.Registering (· ≠ RedisClient.WNS_TOKEN_KEY)) w
  := by
  have hregisters : ∀ d, m.Registers d → Named (t :: past) d →
      (PushServer.processMessage platform config m).CallsFrom (World.perform oracle)
        (Call.Registering (· ≠ RedisClient.WNS_TOKEN_KEY)) w := by
    intro d hd hnamed
    apply (callsFrom_processMessage hd h ht hfresh hroles).mono
    rintro c (hon | hc)
    · exact .inl (hon.mono fun k hk => hk.ne_token hroles hnamed)
    · exact .inr hc
  have hreply : ∀ e, PushServer.handleMessage platform config m
        = ClientSslSession.respondWithError e →
      (PushServer.processMessage platform config m).CallsFrom (World.perform oracle)
        (Call.Registering (· ≠ RedisClient.WNS_TOKEN_KEY)) w := by
    intro e he
    rw [PushServer.processMessage, he]
    exact ⟨.inr (.inr (.inr ⟨_, rfl⟩)), trivial⟩
  subst ht
  cases m with
  | setChannelUri m => exact hregisters _ (.setChannelUri rfl) (named_cons rfl)
  | setPushAccounts m => exact hregisters _ (.setPushAccounts rfl) (named_cons rfl)
  | requestTestPush m => exact (hm m rfl).elim
  | successResponse m => exact hreply _ rfl
  | successSetPushAccounts m => exact hreply _ rfl
  | errorResponse m => exact hreply _ rfl

/-! ### Effects on the token -/

theorem Alike.of_effect {P Q : Output → Prop} (h : Alike w w') (hv : WnsEffect P w v)
    (hv' : WnsEffect Q w' v') :
  Alike v v'
  := by
  constructor
  · constructor
    · rw [hv.clock, hv'.clock, h.redis.clock]
    · intro k hk
      rw [hv.lookup k hk, hv'.lookup k hk, h.redis.lookup k hk]
  · rw [hv.connected, hv'.connected, h.connected]
  · rw [hv.created, hv'.created, h.created]

/-- An event that neither registers nor passes time changes nothing but the token. -/
theorem handle_effect (hw : w.contents.Typed) {e : Event}
    (hreceived : ∀ m valid, e = .received m valid → ∃ m', m = .requestTestPush m')
    (hconnection : ∀ up, e ≠ .connection up) (hadvance : ∀ dt, e ≠ .advance dt) :
  WnsEffect (MaySend config w.contents e) w (w.handle platform config oracle e)
  := by
  have hmove := handle_move platform config oracle w hw e
  generalize w.handle platform config oracle e = v at hmove
  cases hmove with
  | @registered m valid =>
      obtain ⟨m', hm⟩ := hreceived _ _ rfl
      cases hm
  | @refused m valid =>
      obtain ⟨m', hm⟩ := hreceived _ _ rfl
      cases hm
  | @channelUri m valid =>
      obtain ⟨m', hm⟩ := hreceived _ _ rfl
      cases hm
  | other heffect => exact heffect
  | connection up => exact (hconnection up rfl).elim
  | advance dt => exact (hadvance dt rfl).elim

theorem Alike.elements (h : Alike w w') {k : String} (hk : k ≠ RedisClient.WNS_TOKEN_KEY) :
  w'.contents.elements k = w.contents.elements k
  := Contents.elements_eq_of_apply_eq (h.redis.lookup k hk).symm

/-- A request for a test push begins the same notification. -/
theorem Alike.testPush (h : Alike w w') {m : RequestTestPushMessage}
    {valid : (Message.requestTestPush m).Valid} (hs : w.contents.NotString m.deviceId)
    (hd : m.deviceId ≠ RedisClient.WNS_TOKEN_KEY) :
  ShowSame
    ⟨.received (.requestTestPush m) valid, w,
      w.handle platform config oracle (.received (.requestTestPush m) valid)⟩
    ⟨.received (.requestTestPush m) valid, w',
      w'.handle platform config oracle' (.received (.requestTestPush m) valid)⟩
  := by
  have hs' : w'.contents.NotString m.deviceId := by
    intro a deadline hentry
    apply hs a deadline
    rw [← hentry]
    exact h.redis.lookup _ hd
  have hunshown : ∀ (posts : List Output) (response : Message), (∀ o ∈ posts, o.IsPost) →
      (posts ++ [Output.reply response]).filter (Event.shows (.received (.requestTestPush m) valid))
        = [] := by
    intro posts response hposts
    rw [List.filter_eq_nil_iff]
    intro o ho
    rcases List.mem_append.mp ho with ho | ho
    · have hpost := hposts o ho
      cases o with
      | post r => simp [Event.shows]
      | _ => exact hpost.elim
    · rw [List.mem_singleton.mp ho]
      simp [Event.shows]
  rcases helements : w.contents.elements m.deviceId with _ | ⟨channelUri, rest⟩
  · have hunknown := @handle_requestTestPush_unknown platform config oracle w m hs helements
    have hunknown' := @handle_requestTestPush_unknown platform config oracle' w' m hs'
      ((h.elements hd).trans helements)
    exact .of_log (congrArg World.log hunknown) (congrArg World.log hunknown') rfl
  · obtain ⟨posts, response, hlog, hposts, -⟩ :=
      @handle_requestTestPush_known platform config oracle w m hs _ _ helements
    obtain ⟨posts', response', hlog', hposts', -⟩ :=
      @handle_requestTestPush_known platform config oracle' w' m hs' _ _
        ((h.elements hd).trans helements)
    apply ShowSame.of_log hlog hlog'
    rw [List.filter_cons, List.filter_cons, hunshown _ _ hposts, hunshown _ _ hposts']

/-! ### Events of nodes -/

/-- The stanza is turned into a notification with that content. -/
def Delivers (platform : Platform) (config : Configuration) (w : World) (stanza : Stanza)
    (channelUri content : String) : Prop :=
  ∃ node notification accountId deviceId, IsEvent config stanza node notification
    ∧ w.contents.Reaches node accountId deviceId channelUri
    ∧ eventContent platform (w.contents.elements deviceId)[1]? accountId notification
      = some content

/-- Only the list of the token has the key of the token as its second entry. -/
def SecondNotToken (w : World) : Prop :=
  ∀ k ≠ RedisClient.WNS_TOKEN_KEY,
    (w.contents.elements k)[1]? ≠ some RedisClient.WNS_TOKEN_KEY

/-- A stanza is an event of one node. -/
theorem IsEvent.unique {stanza notification notification' : Stanza} {node node' : String}
    (h : IsEvent config stanza node notification)
    (h' : IsEvent config stanza node' notification') :
  node = node' ∧ notification = notification'
  := by
  obtain ⟨event, items, hevent, -, hitems, hnotification, -, hnode⟩ := h.items
  obtain ⟨event', items', hevent', -, hitems', hnotification', -, hnode'⟩ := h'.items
  cases hevent.symm.trans hevent'
  cases hitems.symm.trans hitems'
  cases hnotification.symm.trans hnotification'
  cases hnode.symm.trans hnode'
  exact ⟨rfl, rfl⟩

/-- A stanza is turned into one notification. -/
theorem Delivers.unique {stanza : Stanza} {channelUri channelUri' content content' : String}
    (h : Delivers platform config w stanza channelUri content)
    (h' : Delivers platform config w stanza channelUri' content') :
  channelUri = channelUri' ∧ content = content'
  := by
  obtain ⟨node, notification, accountId, deviceId, hevent, ⟨⟨secret, hrecord⟩, hhead⟩, hcontent⟩ :=
    h
  obtain ⟨node', notification', accountId', deviceId', hevent', ⟨⟨secret', hrecord'⟩, hhead'⟩,
    hcontent'⟩ := h'
  obtain ⟨rfl, rfl⟩ := hevent.unique hevent'
  cases hrecord.symm.trans hrecord'
  cases hhead.symm.trans hhead'
  cases hcontent.symm.trans hcontent'
  exact ⟨rfl, rfl⟩

theorem Alike.delivers (h : Alike w w') (hsecond : SecondNotToken w) {stanza : Stanza}
    (hnode : ¬(Event.stanza stanza).IsOf config RedisClient.WNS_TOKEN_KEY)
    {channelUri content : String} :
  Delivers platform config w' stanza channelUri content
    ↔ Delivers platform config w stanza channelUri content
  := by
  have hkeys : ∀ node notification accountId deviceId secret,
      IsEvent config stanza node notification →
      w.contents.elements node = [accountId, deviceId, secret] →
      node ≠ RedisClient.WNS_TOKEN_KEY ∧ deviceId ≠ RedisClient.WNS_TOKEN_KEY := by
    intro node notification accountId deviceId secret hevent hrecord
    have hne : node ≠ RedisClient.WNS_TOKEN_KEY := by
      rintro rfl
      exact hnode ⟨stanza, notification, rfl, hevent⟩
    use hne
    rintro rfl
    apply hsecond node hne
    rw [hrecord]
    rfl
  constructor
  · rintro ⟨node, notification, accountId, deviceId, hevent, ⟨⟨secret, hrecord⟩, hhead⟩, hcontent⟩
    have hne : node ≠ RedisClient.WNS_TOKEN_KEY := by
      rintro rfl
      exact hnode ⟨stanza, notification, rfl, hevent⟩
    rw [h.elements hne] at hrecord
    obtain ⟨-, hdevice⟩ := hkeys _ _ _ _ _ hevent hrecord
    rw [h.elements hdevice] at hhead hcontent
    exact ⟨node, notification, accountId, deviceId, hevent, ⟨⟨secret, hrecord⟩, hhead⟩, hcontent⟩
  · rintro ⟨node, notification, accountId, deviceId, hevent, ⟨⟨secret, hrecord⟩, hhead⟩, hcontent⟩
    obtain ⟨hne, hdevice⟩ := hkeys _ _ _ _ _ hevent hrecord
    rw [← h.elements hne] at hrecord
    rw [← h.elements hdevice] at hhead hcontent
    exact ⟨node, notification, accountId, deviceId, hevent, ⟨⟨secret, hrecord⟩, hhead⟩, hcontent⟩

/-- What a stanza sends is a notification and HTTP requests, or nothing. -/
theorem handle_stanza_shows (w : World) (oracle : Oracle) (stanza : Stanza) :
  ∃ out, (w.handle platform config oracle (.stanza stanza)).log = w.log ++ out
    ∧ (out = [] ∧ (∀ channelUri content, ¬Delivers platform config w stanza channelUri content)
      ∨ ∃ channelUri content, Delivers platform config w stanza channelUri content
        ∧ out.filter (Event.shows (.stanza stanza)) = [.sending channelUri content])
  := by
  by_cases hdelivers : ∃ channelUri content, Delivers platform config w stanza channelUri content
  · obtain ⟨channelUri, content, hdelivers⟩ := hdelivers
    have ⟨node, notification, accountId, deviceId, hevent, hreach, hcontent⟩ := hdelivers
    obtain ⟨out, hlog, hout⟩ := handle_event_outputs oracle hevent hreach hcontent
    refine ⟨_, hlog, .inr ⟨channelUri, content, hdelivers, ?_⟩⟩
    rw [List.filter_cons_of_pos rfl, List.filter_eq_nil_iff.mpr]
    intro o ho
    rcases hout o ho with rfl | ⟨token, rfl⟩
    · simp [Event.shows]
    · simp [Event.shows]
  · use []
    have hnone : ∀ channelUri content,
        ¬Delivers platform config w stanza channelUri content :=
      fun channelUri content h => hdelivers ⟨channelUri, content, h⟩
    rcases @handle_stanza platform config oracle w stanza with hsame
      | ⟨node, notification, accountId, deviceId, channelUri, content, hevent, hreach, hcontent, -⟩
    · rw [hsame, List.append_nil]
      exact ⟨rfl, .inl ⟨rfl, hnone⟩⟩
    · exact (hnone channelUri content
        ⟨node, notification, accountId, deviceId, hevent, hreach, hcontent⟩).elim

/-- A stanza begins the same notification, or none. -/
theorem Alike.stanza (h : Alike w w') (hsecond : SecondNotToken w) {stanza : Stanza}
    (hnode : ¬(Event.stanza stanza).IsOf config RedisClient.WNS_TOKEN_KEY) :
  ShowSame ⟨.stanza stanza, w, w.handle platform config oracle (.stanza stanza)⟩
    ⟨.stanza stanza, w', w'.handle platform config oracle' (.stanza stanza)⟩
  := by
  obtain ⟨out, hlog, hout⟩ := @handle_stanza_shows platform config w oracle stanza
  obtain ⟨out', hlog', hout'⟩ := @handle_stanza_shows platform config w' oracle' stanza
  apply ShowSame.of_log hlog hlog'
  rcases hout with ⟨rfl, hnone⟩ | ⟨channelUri, content, hdelivers, hsends⟩
  · rcases hout' with ⟨rfl, -⟩ | ⟨channelUri, content, hdelivers, -⟩
    · rfl
    · exact (hnone _ _ ((h.delivers hsecond hnode).mp hdelivers)).elim
  · rcases hout' with ⟨-, hnone⟩ | ⟨channelUri', content', hdelivers', hsends'⟩
    · exact (hnone _ _ ((h.delivers hsecond hnode).mpr hdelivers)).elim
    · obtain ⟨rfl, rfl⟩ := hdelivers.unique ((h.delivers hsecond hnode).mp hdelivers')
      exact hsends.trans hsends'.symm

/-! ### The second entries of lists -/

theorem toString_ne_token {m : SetPushAccountsMessage} (valid : (Message.setPushAccounts m).Valid) :
  toString m.version ≠ RedisClient.WNS_TOKEN_KEY
  := by
  obtain ⟨hlow, hhigh⟩ := valid.1
  have hversion : m.version = 1 ∨ m.version = 2 := by
    rw [AbstractMessage.VERSION] at hhigh
    omega
  rcases hversion with h | h
  · rw [h]
    decide
  · rw [h]
    decide

theorem SecondNotToken.of_eq (h : SecondNotToken w)
    (heq : ∀ k ≠ RedisClient.WNS_TOKEN_KEY,
      w'.contents k = w.contents k ∨ w'.contents k = none) :
  SecondNotToken w'
  := by
  intro k hk
  rcases heq k hk with hsame | hnone
  · rw [Contents.elements_eq_of_apply_eq hsame]
    exact h k hk
  · rw [Contents.elements, hnone]
    rintro ⟨⟩

theorem SecondNotToken.registered {m : SetPushAccountsMessage}
    {valid : (Message.setPushAccounts m).Valid} {channelUri : String} {oldNodes : List String}
    {pushAccounts : List PushAccount} (h : SecondNotToken w)
    (hr : PushServer.Registered platform config oracle m.deviceId (toString m.version)
      m.accounts w w' channelUri oldNodes pushAccounts)
    (hreached : Reached platform config oracle past w)
    (hrecords : RecordsOwn oracle (⟨.received (.setPushAccounts m) valid, w, w'⟩ :: past) w')
    (hfresh : Admitted (Fresh oracle) past)
    (hroles : RolesApart platform oracle
      (⟨.received (.setPushAccounts m) valid, w, w'⟩ :: past)) :
  SecondNotToken w'
  := by
  intro k hk
  rcases hr.contents_cases hreached.typed k with rfl | ⟨-, a, -, -, hstring⟩
    | ⟨-, ⟨a, ha, rfl⟩, -⟩ | ⟨-, -, -, hframe⟩
  · rw [Contents.elements_of_eq hr.contents_device]
    intro hversion
    exact toString_ne_token valid (Option.some.inj hversion)
  · rw [Contents.elements, hstring]
    rintro ⟨⟩
  · obtain ⟨-, i, a', hdrawn, hnode, -⟩ :=
      hroles.account_drawn hr hreached (hreached.owned hfresh).1 ha
    obtain ⟨l, hl⟩ := hrecords i _ a' hdrawn
    rw [hnode, hl]
    cases l with
    | nil => rintro ⟨⟩
    | cons x l =>
        intro hdevice
        apply hroles.token
        rw [← Option.some.inj hdevice]
        exact named_cons rfl
  · split at hframe
    · rw [Contents.elements, hframe]
      rintro ⟨⟩
    · rw [Contents.elements_eq_of_apply_eq hframe]
      exact h k hk

theorem Reached.secondNotToken (h : Reached platform config oracle past w)
    (hfresh : Admitted (Fresh oracle) past) (hroles : RolesApart platform oracle past) :
  SecondNotToken w
  := by
  revert hfresh hroles
  apply h.invariant (I := fun past w => Admitted (Fresh oracle) past →
    RolesApart platform oracle past → SecondNotToken w)
  · intro w hw _ _ k _
    rw [Contents.elements, World.contents]
    simp [Store.lookup, hw.redis]
  · intro past w e w' hreached hreached' hmove ih hfresh hroles
    have hold := ih hfresh.2 hroles.of_cons
    cases hmove with
    | registered hr =>
        exact hold.registered hr hreached (hreached'.recordsOwn hfresh hroles) hfresh.2 hroles
    | refused hr =>
        apply hold.of_eq
        intro k _
        rw [World.contents, World.contents, hr.redis]
        exact .inl rfl
    | @channelUri m valid _ uri contents clock connected created log =>
        intro k hk
        by_cases hd : k = m.deviceId
        · subst hd
          rw [contents, Contents.setChannelUri, Contents.elements_of_eq (if_pos rfl)]
          intro hsecond
          apply hold m.deviceId hk
          rw [← hsecond, List.getElem?_cons_succ, ← List.getElem?_tail]
        · rw [contents, Contents.setChannelUri,
            Contents.elements_eq_of_apply_eq (c := w.contents) (if_neg hd)]
          exact hold k hk
    | other heffect => exact hold.of_eq fun k hk => .inl (heffect.lookup k hk)
    | connection up => exact hold.of_eq fun k _ => .inl rfl
    | advance dt =>
        apply hold.of_eq
        intro k _
        rcases hentry : ({ w with redis := w.redis.advance dt } : World).contents k with _ | entry
        · exact .inr rfl
        · rw [contents_advance hentry]
          exact .inl rfl

/-! ### Runs -/

/-- What the server does about its token sends HTTP requests only. -/
theorem keepsWns_checkSetupWns {P : Output → Prop}
    (h : P (.post (WnsClient.tokenRequest config))) :
  KeepsWns oracle P (PushServer.checkSetupWns platform config)
  := by
  apply keepsWns_bind keepsWns_isTokenValid
  intro valid
  split
  · apply keepsWns_bind (keepsWns_requestNewToken platform config h)
    intro success
    split
    · apply keepsWns_bind (keepsWns_requestNewToken platform config h)
      intro success
      apply keepsWns_pure
    · apply keepsWns_pure
  · apply keepsWns_pure

theorem effect_start (P : Output → Prop) (w : World) :
  WnsEffect P w (Server.run oracle WnsClient.loadTokenFromDb w).2
  := by
  apply effect_bind_reading (reading_getOfThree _ 0)
  rintro (_ | token) -
  · apply WnsEffect.refl
  · apply effect_bind_reading (reading_getOfThree _ 1)
    rintro (_ | type) -
    · apply WnsEffect.refl
    · apply effect_bind_reading
      · apply Program.calls_bind (reading_getOfThree _ 2)
        intro tt
        apply Program.calls_pure
      · rintro (_ | expires) -
        · apply WnsEffect.refl
        · apply keepsWns_writeToken

/-- Events that only make HTTP requests show nothing. -/
theorem ShowSame.of_posts {e : Event} (h : WnsEffect (fun o => ∃ r, o = .post r) w v)
    (h' : WnsEffect (fun o => ∃ r, o = .post r) w' v') :
  ShowSame ⟨e, w, v⟩ ⟨e, w', v'⟩
  := by
  have hnil : ∀ out : List Output, (∀ o ∈ out, ∃ r, o = .post r) → out.filter e.shows = [] := by
    intro out hout
    rw [List.filter_eq_nil_iff]
    intro o ho
    obtain ⟨r, rfl⟩ := hout o ho
    simp [Event.shows]
  obtain ⟨out, hlog, hout⟩ := h.outputs
  obtain ⟨out', hlog', hout'⟩ := h'.outputs
  apply ShowSame.of_log hlog hlog'
  rw [hnil out hout, hnil out' hout']

/-- An event shows the same in worlds that are alike, and leaves them alike. -/
theorem Alike.handle (h : Alike w w') (hreached : Reached platform config oracle past w)
    (hreached' : Reached platform config oracle' past' w') (hdraws : oracle.draws = oracle'.draws)
    {e : Event}
    (hfresh : Admitted (Fresh oracle) (⟨e, w, w.handle platform config oracle e⟩ :: past))
    (hroles : RolesApart platform oracle (⟨e, w, w.handle platform config oracle e⟩ :: past))
    (hnode : ¬e.IsOf config RedisClient.WNS_TOKEN_KEY) :
  Alike (w.handle platform config oracle e) (w'.handle platform config oracle' e)
    ∧ ShowSame ⟨e, w, w.handle platform config oracle e⟩
      ⟨e, w', w'.handle platform config oracle' e⟩
  := by
  have heffect := @handle_effect platform config oracle w hreached.typed e
  have heffect' := @handle_effect platform config oracle' w' hreached'.typed e
  cases e with
  | received m valid =>
      by_cases hm : ∃ m', m = .requestTestPush m'
      · obtain ⟨m, rfl⟩ := hm
        have hreceived : ∀ m₁ valid₁,
            Event.received (.requestTestPush m) valid = .received m₁ valid₁ →
            ∃ m', m₁ = .requestTestPush m' := by
          rintro m₁ valid₁ ⟨⟩
          exact ⟨m, rfl⟩
        constructor
        · exact h.of_effect (heffect hreceived (by rintro up ⟨⟩) (by rintro dt ⟨⟩))
            (heffect' hreceived (by rintro up ⟨⟩) (by rintro dt ⟨⟩))
        · apply h.testPush
          · exact hroles.notString hreached hfresh.2 (named_cons rfl)
          · intro hd
            apply hroles.token
            rw [← hd]
            exact named_cons rfl
      · obtain ⟨halike, out, hlog, hlog'⟩ := h.registering hdraws
          (callsFrom_received valid (fun m' hm' => hm ⟨m', hm'⟩) hreached rfl hfresh hroles)
        exact ⟨halike, .of_log hlog hlog' rfl⟩
  | stanza stanza =>
      constructor
      · exact h.of_effect
          (heffect (by rintro m valid ⟨⟩) (by rintro up ⟨⟩) (by rintro dt ⟨⟩))
          (heffect' (by rintro m valid ⟨⟩) (by rintro up ⟨⟩) (by rintro dt ⟨⟩))
      · exact h.stanza (hreached.secondNotToken hfresh.2 hroles.of_cons) hnode
  | checkSetupWns =>
      have hposts := @keepsWns_checkSetupWns platform config oracle
        (fun o => ∃ r, o = .post r) ⟨_, rfl⟩ w
      have hposts' := @keepsWns_checkSetupWns platform config oracle'
        (fun o => ∃ r, o = .post r) ⟨_, rfl⟩ w'
      exact ⟨h.of_effect hposts hposts', .of_posts hposts hposts'⟩
  | start =>
      have hposts := @effect_start oracle (fun o => ∃ r, o = .post r) w
      have hposts' := @effect_start oracle' (fun o => ∃ r, o = .post r) w'
      exact ⟨h.of_effect hposts hposts', .of_posts hposts hposts'⟩
  | connection up =>
      constructor
      · exact ⟨h.redis, rfl, h.created⟩
      · exact .of_log (List.append_nil _).symm (List.append_nil _).symm rfl
  | advance dt =>
      constructor
      · exact ⟨h.redis.advance dt, h.connected, h.created⟩
      · exact .of_log (List.append_nil _).symm (List.append_nil _).symm rfl

end

theorem Sample.phone_testPush :
  (Message.requestTestPush (.ofFields "phone")).Valid
  := by decide

/-- A device registers an account, its node has an event, and it asks for a test push. -/
def Sample.notified : List Event :=
  registration ++ [.stanza (push (oracle.node 0)), requestTestPush "phone" phone_testPush]

end UwpxPush
