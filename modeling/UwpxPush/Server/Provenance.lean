import UwpxPush.Server.Delivery
import UwpxPush.Server.Frame
import UwpxPush.Server.NotifiedUris
import UwpxPush.Server.Quiet
import UwpxPush.Wns.Conversation

/-!
# Where tokens come from

The server sends two kinds of HTTP requests: requests for a token, which carry the secret of the
client to the token server, and notifications, which carry a token.  Every token that a
notification carries was granted before, in this run, by the answer to a request for a token; so
was the token in memory, and the one in the store.
-/

namespace UwpxPush

open KeyValue WnsToken

section

variable (platform : Platform) (config : Configuration) (oracle : Oracle)

/-- One of the requests asks for a token, and its answer grants this one. -/
def GrantedIn (posts : List HttpRequest) (type token : String) : Prop :=
  ∃ i seconds, posts[i]? = some (WnsClient.tokenRequest config)
    ∧ (oracle.http i).Grants platform type token seconds

/-- Each of the requests asks for a token, or is a notification with a token that was granted
to one of the requests before it. -/
inductive Authorized : List HttpRequest → Prop where
  | nil : Authorized []
  | tokenRequest {posts : List HttpRequest} (h : Authorized posts) :
      Authorized (posts ++ [WnsClient.tokenRequest config])
  | notification {posts : List HttpRequest} (h : Authorized posts) {token : WnsToken}
      (granted : GrantedIn platform config oracle posts token.type token.token)
      (channelUri content : String) :
      Authorized (posts ++ [WnsClient.notification token channelUri content])

/-- The tokens that were sent, the one in memory and the one in the store were granted. -/
structure Provenance (w : World) : Prop where
  posts : Authorized platform config oracle w.posts
  requests : w.posts.length = w.requests
  memory : ∀ token, w.token = some token →
    GrantedIn platform config oracle w.posts token.type token.token
  stored : ∀ token type seconds,
    w.contents.elements RedisClient.WNS_TOKEN_KEY = [token, type, seconds] →
    GrantedIn platform config oracle w.posts type token

/-- Where tokens come from stays known. -/
def Traced (w w' : World) : Prop :=
  Provenance platform config oracle w →
    Provenance platform config oracle w' ∧ w.posts <+: w'.posts

/-- Every run of the program keeps known where tokens come from. -/
abbrev KeepsTraced {α : Type} (p : Server α) : Prop :=
  Program.Keeps (World.perform oracle) (Traced platform config oracle) p

end

section

variable {platform : Platform} {config : Configuration} {oracle : Oracle} {past : History}
  {w w' w'' : World} {token : WnsToken}

/-- What was granted stays so. -/
theorem GrantedIn.mono {posts posts' : List HttpRequest} {type token : String}
    (h : GrantedIn platform config oracle posts type token) (hlonger : posts <+: posts') :
  GrantedIn platform config oracle posts' type token
  := by
  obtain ⟨i, seconds, hi, hgrants⟩ := h
  obtain ⟨rest, rfl⟩ := hlonger
  use i, seconds
  constructor
  · rw [List.getElem?_append_left]
    · exact hi
    · exact (List.getElem?_eq_some_iff.mp hi).1
  · exact hgrants

theorem Traced.refl (w : World) :
  Traced platform config oracle w w
  := fun h => ⟨h, List.prefix_refl _⟩

theorem Traced.trans (h : Traced platform config oracle w w')
    (h' : Traced platform config oracle w' w'') :
  Traced platform config oracle w w''
  := by
  intro hw
  obtain ⟨hw', hlonger⟩ := h hw
  obtain ⟨hw'', hlonger'⟩ := h' hw'
  exact ⟨hw'', hlonger.trans hlonger'⟩

/-! ### Calls that have nothing to do with tokens -/

/-- The call neither makes an HTTP request nor writes the token in memory. -/
def Call.OffHttp : Call → Prop
  | .post _ => False
  | .writeToken _ => False
  | _ => True

/-- What HTTP requests were made, and the token in memory. -/
def World.http (w : World) : List HttpRequest × Nat × Option WnsToken :=
  (w.posts, w.requests, w.token)

/-- A call off the HTTP service leaves the requests and the token in memory as they were. -/
theorem World.http_perform {c : Call} (hc : c.OffHttp) (w : World) :
  (World.perform oracle c w).2.http = w.http
  := by
  have htell : ∀ o : Output, o.post? = none → (w.tell o).http = w.http := by
    intro o ho
    rw [World.http, World.posts_tell, ho]
    exact congrArg (fun posts => (posts, w.requests, w.token)) (List.append_nil _)
  cases c with
  | lrange k => rw [perform_of_isReading (.inl ⟨k, rfl⟩)]
  | get k => rw [perform_of_isReading (.inr ⟨k, rfl⟩)]
  | rpush k l =>
      simp only [World.perform]
      rcases w.redis.push k l with e | s
      · rfl
      · rfl
  | send q => exact htell _ rfl
  | sending channelUri content => exact htell _ rfl
  | reply m => exact htell _ rfl
  | post r => exact hc.elim
  | writeToken token => exact hc.elim
  | _ => rfl

variable (oracle) in
theorem World.http_run {α : Type} {p : Server α} (hp : p.Calls Call.OffHttp) (w : World) :
  (Server.run oracle p w).2.http = w.http
  := by
  apply hp.run_related (r := fun v v' : World => v'.http = v.http)
  · intro w
    rfl
  · intro w₁ w₂ w₃ h h'
    rw [h', h]
  · intro c hc w
    exact World.http_perform hc w

theorem IsReading.offHttp {c : Call} (h : IsReading c) :
  c.OffHttp
  := by
  rcases h with ⟨k, rfl⟩ | ⟨k, rfl⟩
  · trivial
  · trivial

theorem Call.Redis.offHttp {c : Call} (h : c.Redis) :
  c.OffHttp
  := by
  rcases h with h | h
  · exact h.offHttp
  · cases c with
    | post r => exact h.elim
    | writeToken token => exact h.elim
    | _ => trivial

theorem Call.PubSub.offHttp {c : Call} (h : c.PubSub) :
  c.OffHttp
  := by
  rcases h with rfl | ⟨q, rfl⟩
  · trivial
  · trivial

/-- What leaves tokens alone keeps known where they come from. -/
theorem Traced.of_same (hhttp : w'.http = w.http)
    (hstored : w'.contents RedisClient.WNS_TOKEN_KEY = w.contents RedisClient.WNS_TOKEN_KEY) :
  Traced platform config oracle w w'
  := by
  intro h
  obtain ⟨hposts, hhttp⟩ := Prod.mk.inj hhttp
  obtain ⟨hrequests, htoken⟩ := Prod.mk.inj hhttp
  constructor
  · constructor
    · rw [hposts]
      exact h.posts
    · rw [hposts, hrequests]
      exact h.requests
    · rw [hposts, htoken]
      exact h.memory
    · rw [hposts, Contents.elements_eq_of_apply_eq hstored]
      exact h.stored
  · use []
    rw [hposts, List.append_nil]

/-- A program off the HTTP service that spares the key keeps the traces. -/
theorem keepsTraced_of_calls {α : Type} {p : Server α} (hp : p.Calls Call.OffHttp)
    (hspares : p.Calls (Call.Spares RedisClient.WNS_TOKEN_KEY)) :
  KeepsTraced platform config oracle p
  := by
  intro w
  apply Traced.of_same
  · exact World.http_run oracle hp w
  · exact World.contents_run hspares w

theorem keepsTraced_of_reading {α : Type} {p : Server α} (hp : p.Calls IsReading) :
  KeepsTraced platform config oracle p
  := by
  apply keepsTraced_of_calls
  · exact hp.mono fun _ => IsReading.offHttp
  · exact hp.mono fun _ hc => Call.spares_of_not_writing hc.not_writing _

theorem keepsTraced_invoke {c : Call} (hc : c.OffHttp) (hwriting : ¬c.Writing) :
  KeepsTraced platform config oracle (invoke c)
  := by
  apply keepsTraced_of_calls
  · exact Program.calls_invoke hc
  · exact Program.calls_invoke (Call.spares_of_not_writing hwriting _)

theorem keepsTraced_pure {α : Type} (a : α) :
  KeepsTraced platform config oracle (pure a)
  := Program.keeps_pure Traced.refl a

theorem keepsTraced_throw {α : Type} (e : Failure) :
  KeepsTraced platform config oracle (throw e : Server α)
  := Program.keeps_throw Traced.refl e

theorem keepsTraced_bind {α β : Type} {p : Server α} {f : α → Server β}
    (hp : KeepsTraced platform config oracle p)
    (hf : ∀ a, KeepsTraced platform config oracle (f a)) :
  KeepsTraced platform config oracle (p >>= f)
  := Program.keeps_bind (r := Traced platform config oracle) Traced.trans hp hf

/-- What begins with a program that only reads. -/
theorem Traced.bind_reading {α β : Type} {p : Server α} {f : α → Server β}
    (hp : p.Calls IsReading)
    (hf : ∀ a, Server.run oracle p w = (.ok a, w) →
      Traced platform config oracle w (Server.run oracle (f a) w).2) :
  Traced platform config oracle w (Server.run oracle (p >>= f) w).2
  := run_bind_reading hp (Traced.refl w) hf

/-! ### Requests for a token -/

/-- An HTTP request is made. -/
theorem Provenance.post {r : HttpRequest} (h : Provenance platform config oracle w)
    (hr : Authorized platform config oracle (w.posts ++ [r])) :
  Provenance platform config oracle (World.perform oracle (.post r) w).2
  := by
  have hmono : w.posts <+: w.posts ++ [r] := List.prefix_append _ _
  constructor
  · rw [World.posts_post]
    exact hr
  · rw [World.posts_post, List.length_append, h.requests]
    rfl
  · intro token htoken
    rw [World.posts_post]
    exact (h.memory token htoken).mono hmono
  · intro token type seconds hstored
    rw [World.posts_post]
    exact (h.stored token type seconds hstored).mono hmono

/-- A token that is read from the answer is granted by it. -/
theorem Provenance.granted (h : Provenance platform config oracle w)
    (hstatus : (oracle.http w.requests).statusCode = 200) {v v' : World}
    (hread : Server.run oracle (fromResponse platform (oracle.http w.requests).text) v
      = (.ok (some token), v')) :
  GrantedIn platform config oracle (w.posts ++ [WnsClient.tokenRequest config])
    token.type token.token
  := by
  cases hparse : platform.parse (oracle.http w.requests).text with
  | none =>
      cases hrange : platform.outOfRange (oracle.http w.requests).text with
      | none => cases hread.symm.trans (run_fromResponse_none hparse hrange)
      | some what => cases hread.symm.trans (run_fromResponse_outOfRange hparse hrange)
  | some js =>
      rcases fromResponse_cases oracle v hparse with
        ⟨type, value, seconds, hgrants, hrun⟩ | ⟨-, hrun⟩ | ⟨-, what, hrun⟩
      · cases hread.symm.trans hrun
        use w.requests, seconds
        constructor
        · rw [← h.requests]
          exact List.getElem?_concat_length
        · exact ⟨hstatus, js, hparse, hgrants⟩
      · cases hread.symm.trans hrun
      · cases hread.symm.trans hrun

/-- The token in memory is replaced. -/
theorem Provenance.writeToken (h : Provenance platform config oracle w)
    {token : Option WnsToken}
    (hgranted : ∀ t, token = some t → GrantedIn platform config oracle w.posts t.type t.token) :
  Provenance platform config oracle { w with token }
  := ⟨h.posts, h.requests, hgranted, h.stored⟩

/-- The list of the token that is stored. -/
theorem elements_setWnsToken {a type seconds : String}
    (h : (Server.run oracle (RedisClient.setWnsToken token.token token.type token.expires) w
      ).2.contents.elements RedisClient.WNS_TOKEN_KEY = [a, type, seconds]) :
  a = token.token ∧ type = token.type
  := by
  rw [run_setWnsToken] at h
  unfold Contents.elements at h
  split at h
  · next l d hentry =>
      obtain ⟨d', hd⟩ := Store.lookup_of_expireAt _ hentry
      rw [Store.lookup_put _ _ _ rfl, if_pos rfl, Option.some.injEq, Entry.mk.injEq] at hd
      cases h
      cases hd.1
      exact ⟨rfl, rfl⟩
  · cases h

/-- The token in memory is stored. -/
theorem Provenance.setWnsToken (h : Provenance platform config oracle w)
    (hgranted : GrantedIn platform config oracle w.posts token.type token.token) :
  Provenance platform config oracle
      (Server.run oracle (RedisClient.setWnsToken token.token token.type token.expires) w).2
    ∧ (Server.run oracle (RedisClient.setWnsToken token.token token.type token.expires) w).2.http
      = w.http
  := by
  have hhttp := World.http_run oracle
    ((commands_setWnsToken token.token token.type token.expires).calls.mono
      fun _ => Call.Redis.offHttp) w
  obtain ⟨hposts, hrest⟩ := Prod.mk.inj hhttp
  obtain ⟨hrequests, htoken⟩ := Prod.mk.inj hrest
  refine ⟨?_, hhttp⟩
  constructor
  · rw [hposts]
    exact h.posts
  · rw [hposts, hrequests]
    exact h.requests
  · rw [hposts, htoken]
    exact h.memory
  · intro a type seconds helements
    rw [hposts]
    obtain ⟨rfl, rfl⟩ := elements_setWnsToken helements
    exact hgranted

/-- A token that is granted is put into memory and stored. -/
theorem keepsTraced_requestNewToken :
  KeepsTraced platform config oracle (WnsClient.requestNewToken platform config)
  := by
  intro w h
  let w₁ := (World.perform oracle (.post (WnsClient.tokenRequest config)) w).2
  have h₁ : Provenance platform config oracle w₁ := h.post (.tokenRequest h.posts)
  have hposts : w₁.posts = w.posts ++ [WnsClient.tokenRequest config] := World.posts_post _ w
  have hmono : w.posts <+: w₁.posts := by
    rw [hposts]
    exact List.prefix_append _ _
  change Provenance platform config oracle
      (Server.run oracle (WnsClient.requestNewToken platform config) w).2
    ∧ w.posts <+: (Server.run oracle (WnsClient.requestNewToken platform config) w).2.posts
  rw [WnsClient.requestNewToken, Server.run, Program.run_bind_ok _ rfl]
  by_cases hstatus : (oracle.http w.requests).statusCode = 200
  · rw [if_neg (not_not.mpr hstatus)]
    rcases hread : (Server.run oracle (fromResponse platform (oracle.http w.requests).text) w₁).1
      with e | token
    · rw [Program.run_bind_error _ (run_fromResponse hread)]
      exact ⟨h₁, hmono⟩
    · rw [Program.run_bind_ok _ (run_fromResponse hread), Program.run_bind_ok _ rfl]
      cases token with
      | none =>
          refine ⟨h₁.writeToken ?_, hmono⟩
          rintro t ⟨⟩
      | some token =>
          have hgranted : GrantedIn platform config oracle w₁.posts token.type token.token := by
            rw [hposts]
            exact h.granted hstatus (run_fromResponse hread)
          have h₂ : Provenance platform config oracle { w₁ with token := some token } := by
            apply h₁.writeToken
            rintro t ⟨⟩
            exact hgranted
          obtain ⟨h₃, hhttp⟩ := h₂.setWnsToken hgranted
          rw [Program.run_bind_ok _ (run_setWnsToken _ _ _ _)]
          rw [run_setWnsToken] at h₃
          exact ⟨h₃, hmono⟩
  · rw [if_pos hstatus]
    exact ⟨h₁, hmono⟩

/-- A token that was refused is replaced by one that the answer grants. -/
theorem keepsTraced_handleResponseCode (statusCode : ℤ) :
  KeepsTraced platform config oracle
    (WnsClient.handleResponseCode platform config statusCode)
  := by
  unfold WnsClient.handleResponseCode
  split
  · apply keepsTraced_pure
  · split
    · apply keepsTraced_bind keepsTraced_requestNewToken
      intro success
      split
      · apply keepsTraced_pure
      · apply keepsTraced_pure
    · split
      · apply keepsTraced_pure
      · apply keepsTraced_pure

/-! ### Notifications -/

/-- While a granted token is carried, where tokens come from stays known. -/
def TracedWith (platform : Platform) (config : Configuration) (oracle : Oracle)
    (token : WnsToken) (w w' : World) : Prop :=
  GrantedIn platform config oracle w.posts token.type token.token →
    Traced platform config oracle w w'

theorem TracedWith.refl (w : World) :
  TracedWith platform config oracle token w w
  := fun _ => Traced.refl w

theorem TracedWith.trans (h : TracedWith platform config oracle token w w')
    (h' : TracedWith platform config oracle token w' w'') :
  TracedWith platform config oracle token w w''
  := by
  intro hgranted hw
  obtain ⟨hw', hlonger⟩ := h hgranted hw
  obtain ⟨hw'', hlonger'⟩ := h' (hgranted.mono hlonger) hw'
  exact ⟨hw'', hlonger.trans hlonger'⟩

/-- Every attempt to post a notification carries the token of the first one. -/
theorem tracedWith_postAttempts (channelUri content : String) (attempts : ℕ) :
  Program.Keeps (World.perform oracle) (TracedWith platform config oracle token)
    (WnsClient.postAttempts platform config (WnsClient.notification token channelUri content)
      attempts)
  := by
  induction attempts with
  | zero => exact Program.keeps_pure TracedWith.refl _
  | succ attempts ih =>
      apply Program.keeps_bind (r := TracedWith platform config oracle token) TracedWith.trans
      · intro w hgranted h
        use h.post (.notification h.posts hgranted channelUri content)
        change w.posts <+: (World.perform oracle (.post _) w).2.posts
        rw [World.posts_post]
        exact List.prefix_append _ _
      · intro response
        split
        · exact ih
        · apply Program.keeps_bind (r := TracedWith platform config oracle token) TracedWith.trans
          · intro w _
            exact keepsTraced_handleResponseCode _ w
          · rintro (_ | _ | _)
            · exact Program.keeps_pure TracedWith.refl _
            · exact ih
            · exact Program.keeps_pure TracedWith.refl _

theorem keepsTraced_isTokenValid :
  KeepsTraced platform config oracle WnsClient.isTokenValid
  := by
  apply keepsTraced_of_calls
  · apply calls_isTokenValid.mono
    rintro c (rfl | rfl)
    · trivial
    · trivial
  · apply calls_isTokenValid.mono
    rintro c (rfl | rfl)
    · trivial
    · trivial

/-- The token in memory is the one that is sent. -/
theorem keepsTraced_sendRawNotification (channelUri content : String) :
  KeepsTraced platform config oracle
    (WnsClient.sendRawNotification platform config channelUri content)
  := by
  apply keepsTraced_bind (keepsTraced_invoke (by trivial) id)
  intro _
  apply keepsTraced_bind
  · apply keepsTraced_bind keepsTraced_isTokenValid
    · intro valid
      split
      · apply keepsTraced_pure
      · exact keepsTraced_requestNewToken
  · intro ready
    split
    · intro w h
      rw [Program.run_bind_ok _ rfl]
      cases htoken : w.token with
      | none => exact Traced.refl w h
      | some token => exact tracedWith_postAttempts channelUri content 3 w (h.memory _ htoken) h
    · apply keepsTraced_pure

/-! ### The moves of the server -/

theorem keepsTraced_checkSetupWns :
  KeepsTraced platform config oracle (PushServer.checkSetupWns platform config)
  := by
  apply keepsTraced_bind keepsTraced_isTokenValid
  intro valid
  split
  · apply keepsTraced_bind keepsTraced_requestNewToken
    intro success
    split
    · apply keepsTraced_bind keepsTraced_requestNewToken
      intro success
      apply keepsTraced_pure
    · apply keepsTraced_pure
  · apply keepsTraced_pure

/-- An entry of a list of three that is read. -/
theorem elements_of_getOfThree {k a : String} {i : ℕ}
    (h : Server.run oracle (RedisClient.getOfThree k i) w = (.ok (some a), w)) :
  (w.contents.elements k).length = 3 ∧ (w.contents.elements k)[i]? = some a
  := by
  obtain ⟨-, -, hr⟩ := run_getOfThree_ok h
  split at hr
  · next hlength => exact ⟨hlength, hr.symm⟩
  · cases hr

/-- The token that is loaded is the one that is stored. -/
theorem traced_loadTokenFromDb :
  Traced platform config oracle w (Server.run oracle WnsClient.loadTokenFromDb w).2
  := by
  apply Traced.bind_reading (reading_getOfThree _ 0)
  rintro (_ | token) htoken
  · exact Traced.refl w
  · apply Traced.bind_reading (reading_getOfThree _ 1)
    rintro (_ | type) htype
    · exact Traced.refl w
    · apply Traced.bind_reading
      · apply Program.calls_bind (reading_getOfThree _ 2)
        intro tt
        apply Program.calls_pure
      · rintro (_ | expires) -
        · exact Traced.refl w
        · intro h
          refine ⟨h.writeToken ?_, List.prefix_refl _⟩
          rintro t ⟨⟩
          obtain ⟨hlength, hfirst⟩ := elements_of_getOfThree htoken
          obtain ⟨-, hsecond⟩ := elements_of_getOfThree htype
          obtain ⟨a, b, seconds, helements⟩ := List.length_eq_three.mp hlength
          rw [helements] at hfirst hsecond
          cases hfirst
          cases hsecond
          exact h.stored _ _ _ helements

theorem keepsTraced_reply (m : Message) :
  KeepsTraced platform config oracle (ClientSslSession.reply m)
  := keepsTraced_invoke (by trivial) id

/-- A test push carries the token in memory. -/
theorem keepsTraced_sendTestPush (deviceId : String) :
  KeepsTraced platform config oracle (PushServer.sendTestPush platform config deviceId)
  := by
  apply keepsTraced_bind (keepsTraced_of_reading (reading_getChannelUri deviceId))
  rintro (_ | channelUri)
  · apply keepsTraced_reply
  · apply keepsTraced_bind (keepsTraced_of_reading (reading_getVersion deviceId))
    intro version
    apply keepsTraced_bind (keepsTraced_sendRawNotification _ _)
    intro success
    split
    · apply keepsTraced_reply
    · apply keepsTraced_reply

/-- A device that is not named like the key leaves the stored token. -/
theorem keepsTraced_setChannelUri {deviceId : String}
    (h : deviceId ≠ RedisClient.WNS_TOKEN_KEY) (channelUri : String) :
  KeepsTraced platform config oracle (PushServer.setChannelUri deviceId channelUri)
  := by
  unfold PushServer.setChannelUri
  split
  · apply keepsTraced_bind
    · apply keepsTraced_of_calls
      · exact (commands_setChannelUri _ _).calls.mono fun _ => Call.Redis.offHttp
      · exact spares_setChannelUri h channelUri
    · intro _
      apply keepsTraced_reply
  · apply keepsTraced_reply

/-- A registration has nothing to do with HTTP requests. -/
theorem offHttp_setPushAccounts (deviceId version : String) (accounts : List String) :
  (PushServer.setPushAccounts platform config deviceId version accounts).Calls Call.OffHttp
  := by
  have hreply : ∀ m, (ClientSslSession.reply m).Calls Call.OffHttp :=
    fun _ => Program.calls_invoke trivial
  apply Program.calls_bind ((reading_getChannelUri deviceId).mono fun _ => IsReading.offHttp)
  rintro (_ | channelUri)
  · apply hreply
  · apply Program.calls_bind ((reading_getPushNodes deviceId).mono fun _ => IsReading.offHttp)
    intro oldNodes
    apply Program.calls_bind
    · apply Program.calls_foldlM
      intro p accountId _
      apply (calls_collectAccount platform deviceId p accountId).mono
      rintro c (rfl | hc)
      · trivial
      · exact hc.offHttp
    · intro pending
      apply Program.calls_bind
      · apply Program.calls_forM
        intro node _
        exact (calls_deletePushNode node).mono fun _ => Call.PubSub.offHttp
      · intro _
        apply Program.calls_bind
        · apply Program.calls_foldlM
          intro accounts node _
          exact (calls_setupAccount accounts node).mono fun _ => Call.PubSub.offHttp
        · intro pushAccounts
          apply Program.calls_bind
          · exact (commands_setPushAccounts _ _ _ _ _).calls.mono fun _ => Call.Redis.offHttp
          · intro _
            apply hreply

theorem keepsTraced_processMessage {m : Message}
    (h : KeepsTraced platform config oracle (PushServer.handleMessage platform config m)) :
  KeepsTraced platform config oracle (PushServer.processMessage platform config m)
  := by
  apply Program.keeps_tryCatch (r := Traced platform config oracle) Traced.trans h
  intro e
  cases e with
  | exception what => apply keepsTraced_reply
  | _ => apply keepsTraced_throw

/-- So does its registration. -/
theorem traced_setPushAccounts (hw : w.contents.Typed) {m : SetPushAccountsMessage}
    (hd : m.deviceId ≠ RedisClient.WNS_TOKEN_KEY) :
  Traced platform config oracle w
    (Server.run oracle (PushServer.processMessage platform config (.setPushAccounts m)) w).2
  := by
  apply Traced.of_same
  · apply World.http_run
    apply Program.calls_tryCatch (offHttp_setPushAccounts _ _ _)
    intro e
    cases e with
    | exception what => exact Program.calls_invoke trivial
    | _ => apply Program.calls_throw
  · rcases handle_setPushAccounts platform config hw m with hrefused | ⟨_, _, _, hr⟩
    · change (Server.run oracle _ w).2.redis.lookup _ = _
      rw [hrefused.redis]
      rfl
    · exact hr.contents_token hw hd

/-- What a message does to the tokens. -/
theorem traced_received (hw : w.contents.Typed) {m : Message}
    (hd : m.deviceId ≠ some RedisClient.WNS_TOKEN_KEY) :
  Traced platform config oracle w
    (Server.run oracle (PushServer.processMessage platform config m) w).2
  := by
  cases m with
  | setChannelUri m =>
      apply keepsTraced_processMessage
      apply keepsTraced_setChannelUri
      intro heq
      exact hd (congrArg some heq)
  | setPushAccounts m =>
      apply traced_setPushAccounts hw
      intro heq
      exact hd (congrArg some heq)
  | requestTestPush m => exact keepsTraced_processMessage (keepsTraced_sendTestPush _) w
  | successResponse m => exact keepsTraced_processMessage (keepsTraced_reply _) w
  | successSetPushAccounts m => exact keepsTraced_processMessage (keepsTraced_reply _) w
  | errorResponse m => exact keepsTraced_processMessage (keepsTraced_reply _) w

/-- The list of the token that is left after some time is what it was. -/
theorem traced_advance (dt : ℕ) :
  Traced platform config oracle w (w.handle platform config oracle (.advance dt))
  := by
  intro h
  refine ⟨⟨h.posts, h.requests, h.memory, ?_⟩, List.prefix_refl _⟩
  intro token type seconds hstored
  unfold Contents.elements at hstored
  split at hstored
  · next l d hentry =>
      subst hstored
      exact h.stored _ _ _ (Contents.elements_of_eq (contents_advance hentry))
  · cases hstored

/-- What an event does to the tokens. -/
theorem traced_stanza (stanza : Stanza) :
  Traced platform config oracle w (w.handle platform config oracle (.stanza stanza))
  := by
  rcases handle_stanza platform config oracle w stanza with
    hsame | ⟨node, notification, accountId, deviceId, channelUri, content, -, -, -, hnotify⟩
  · rw [hsame]
    exact Traced.refl w
  · rw [hnotify]
    apply keepsTraced_bind (keepsTraced_sendRawNotification channelUri content)
    intro success
    apply keepsTraced_pure

end

/-- In every run in which no device is named like the key of the token, each HTTP request asks
for a token or is a notification with a token that was granted to a request before it, and so
were the token in memory and the one in the store. -/
theorem Reached.provenance {platform : Platform} {config : Configuration} {oracle : Oracle}
    {past : History} {w : World} (h : Reached platform config oracle past w)
    (hnamed : ¬Named past RedisClient.WNS_TOKEN_KEY) :
  Provenance platform config oracle w
  := by
  induction h with
  | @start w hw =>
      have hposts : w.posts = [] := by rw [World.posts, hw.log, List.filterMap_nil]
      constructor
      · rw [hposts]
        exact .nil
      · rw [hposts, hw.requests]
        rfl
      · intro token htoken
        cases hw.token.symm.trans htoken
      · intro token type seconds hstored
        simp [Contents.elements, World.contents, Store.lookup, hw.redis] at hstored
  | @next past w hreached e ih =>
      have hw := ih fun hn => hnamed hn.cons
      have htraced : Traced platform config oracle w (w.handle platform config oracle e) := by
        cases e with
        | received m valid =>
            apply traced_received (Reached.typed hreached)
            intro hd
            exact hnamed (named_cons hd)
        | stanza s => exact traced_stanza s
        | checkSetupWns => exact keepsTraced_checkSetupWns _
        | start => exact traced_loadTokenFromDb
        | connection up => exact Traced.of_same rfl rfl
        | advance dt => exact traced_advance dt
      exact (htraced hw).1

/-- A device that asks for a test push, before and after the server is started again. -/
theorem provenance_testPush :
  Provenance Sample.platform Sample.config Sample.oracle
    (Sample.run (Sample.registration ++ [Sample.requestTestPush "phone" (by decide), .start,
      Sample.requestTestPush "phone" (by decide)])).2
  := (Sample.reached_run _).provenance (by decide +kernel)

end UwpxPush
