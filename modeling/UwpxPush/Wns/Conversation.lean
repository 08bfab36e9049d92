import Mathlib.Data.List.Chain
import UwpxPush.Wns.Authorization

/-!
# The conversation with the HTTP servers

A notification is posted at most three times.  It is posted again only where the server could
not be reached, is unavailable, or refuses the token and another one is granted; after a
notification that is accepted nothing is posted.  `Attempts` and `Conversation` list what can be
posted and answered, and the programs of the WNS client do no more.
-/

namespace UwpxPush

open WnsToken

/-- A request with its answer. -/
structure Exchange where
  request : HttpRequest
  response : HttpResponse

namespace Exchange

/-- The request is a notification: it has no form, unlike a request for a token. -/
def notifies (x : Exchange) : Bool :=
  x.request.payload.isEmpty

/-- The request is a notification that is accepted. -/
def accepted (x : Exchange) : Bool :=
  x.notifies && x.response.ok && x.response.statusCode == 200

end Exchange

/-- The HTTP request that is sent. -/
def Output.post? : Output → Option HttpRequest
  | post r => some r
  | _ => none

/-- The HTTP requests made, in turn. -/
def World.posts (w : World) : List HttpRequest :=
  w.log.filterMap Output.post?

/-- The requests with their answers, of which the first is the `i`-th. -/
def answered (oracle : Oracle) : Nat → List HttpRequest → List Exchange
  | _, [] => []
  | i, r :: posts => ⟨r, oracle.http i⟩ :: answered oracle (i + 1) posts

/-- The exchanges are what is added to those that were made. -/
structure Exchanged (oracle : Oracle) (l : List Exchange) (w w' : World) : Prop where
  posts : w'.posts = w.posts ++ l.map Exchange.request
  requests : w'.requests = w.requests + l.length
  answers : answered oracle w.requests (l.map Exchange.request) = l

section

variable (platform : Platform) (config : Configuration)

/-- The answer grants a token. -/
def HttpResponse.IsGrant (response : HttpResponse) : Prop :=
  ∃ type token seconds, response.Grants platform type token seconds

/-- The attempts to post a request, with the requests for tokens between them, and how they
end. -/
inductive Attempts (request : HttpRequest) :
    Nat → List Exchange → Except Failure Bool → Prop where
  | exhausted : Attempts request 0 [] (.ok false)
  /-- The server cannot be reached, or is unavailable. -/
  | again {n : Nat} {response : HttpResponse} (h : response.Again) {l : List Exchange}
      {r : Except Failure Bool} (rest : Attempts request n l r) :
      Attempts request (n + 1) (⟨request, response⟩ :: l) r
  | accepted {n : Nat} {response : HttpResponse} (ok : response.ok = true)
      (status : response.statusCode = 200) :
      Attempts request (n + 1) [⟨request, response⟩] (.ok true)
  /-- The token is refused, and another one is granted. -/
  | renewed {n : Nat} {response answer : HttpResponse} (ok : response.ok = true)
      (status : response.statusCode = 401) (granted : answer.IsGrant platform)
      {l : List Exchange} {r : Except Failure Bool} (rest : Attempts request n l r) :
      Attempts request (n + 1)
        (⟨request, response⟩ :: ⟨WnsClient.tokenRequest config, answer⟩ :: l) r
  /-- The token is refused, and so is another one. -/
  | refused {n : Nat} {response answer : HttpResponse} (ok : response.ok = true)
      (status : response.statusCode = 401) (denied : ¬answer.IsGrant platform)
      {r : Except Failure Bool} (hr : r ≠ .ok true) :
      Attempts request (n + 1)
        [⟨request, response⟩, ⟨WnsClient.tokenRequest config, answer⟩] r
  | rejected {n : Nat} {response : HttpResponse} (ok : response.ok = true)
      (status : response.statusCode ∉ [200, 401, 503]) :
      Attempts request (n + 1) [⟨request, response⟩] (.ok false)

/-- What is posted for a notification, and how it ends. -/
inductive Conversation (channelUri content : String) :
    List Exchange → Except Failure Bool → Prop where
  /-- The token in memory is valid. -/
  | valid {token : WnsToken} {l : List Exchange} {r : Except Failure Bool}
      (h : Attempts platform config (WnsClient.notification token channelUri content) 3 l r) :
      Conversation channelUri content l r
  | granted {answer : HttpResponse} {token : WnsToken} {seconds : Nat}
      (granted : answer.Grants platform token.type token.token seconds)
      {l : List Exchange} {r : Except Failure Bool}
      (h : Attempts platform config (WnsClient.notification token channelUri content) 3 l r) :
      Conversation channelUri content (⟨WnsClient.tokenRequest config, answer⟩ :: l) r
  | denied {answer : HttpResponse} (denied : ¬answer.IsGrant platform)
      {r : Except Failure Bool} (hr : r ≠ .ok true) :
      Conversation channelUri content [⟨WnsClient.tokenRequest config, answer⟩] r

/-- What may follow an exchange. -/
inductive Next : Exchange → Exchange → Prop where
  /-- A notification that does not arrive is posted again. -/
  | again {x y : Exchange} (hx : x.notifies = true) (h : x.response.Again)
      (hy : y.request = x.request) : Next x y
  /-- Where the token is refused, one is requested. -/
  | renew {x y : Exchange} (hx : x.notifies = true) (ok : x.response.ok = true)
      (status : x.response.statusCode = 401) (hy : y.request = WnsClient.tokenRequest config) :
      Next x y
  /-- With a token that is granted, the notification is posted. -/
  | granted {x y : Exchange} (hx : x.request = WnsClient.tokenRequest config)
      (h : x.response.IsGrant platform) (hy : y.notifies = true) : Next x y
  /-- Where no token is granted, one is requested again. -/
  | denied {x y : Exchange} (hx : x.request = WnsClient.tokenRequest config)
      (h : ¬x.response.IsGrant platform) (hy : y.request = WnsClient.tokenRequest config) :
      Next x y

/-- A conversation in which nothing is posted without need: each exchange follows the one
before, the notifications are the same, and there are few. -/
structure Polite (l : List Exchange) : Prop where
  chain : l.IsChain (Next platform config)
  same : ∃ request, ∀ x ∈ l, x.request = WnsClient.tokenRequest config ∨ x.request = request
  notifications : l.countP Exchange.notifies ≤ 3
  tokenRequests : l.countP (fun x => !x.notifies) ≤ 4

end

/-! ### Exchanges -/

section

variable {platform : Platform} {config : Configuration} {oracle : Oracle} {w w' w'' : World}
  {l l' : List Exchange}

theorem answered_append (i : Nat) (posts posts' : List HttpRequest) :
  answered oracle i (posts ++ posts')
    = answered oracle i posts ++ answered oracle (i + posts.length) posts'
  := by
  induction posts generalizing i with
  | nil => rfl
  | cons r posts ih =>
      rw [List.cons_append, answered, ih, answered, List.cons_append, List.length_cons,
        Nat.add_assoc, Nat.add_comm 1]

theorem World.posts_tell (w : World) (o : Output) :
  (w.tell o).posts = w.posts ++ o.post?.toList
  := by
  rw [World.posts, World.posts, World.tell, List.filterMap_append]
  cases o with
  | post r => rfl
  | _ => rfl

theorem World.posts_post (r : HttpRequest) (w : World) :
  (World.perform oracle (.post r) w).2.posts = w.posts ++ [r]
  := World.posts_tell w (.post r)

theorem Exchanged.of_eq (hposts : w'.posts = w.posts) (hrequests : w'.requests = w.requests) :
  Exchanged oracle [] w w'
  := by
  constructor
  · rw [hposts, List.map_nil, List.append_nil]
  · exact hrequests
  · rfl

theorem Exchanged.trans (h : Exchanged oracle l w w') (h' : Exchanged oracle l' w' w'') :
  Exchanged oracle (l ++ l') w w''
  := by
  constructor
  · rw [h'.posts, h.posts, List.map_append, List.append_assoc]
  · rw [h'.requests, h.requests, List.length_append, Nat.add_assoc]
  · rw [List.map_append, answered_append, List.length_map, h.answers, ← h.requests, h'.answers]

variable (oracle) in
theorem exchanged_post (r : HttpRequest) (w : World) :
  Exchanged oracle [⟨r, oracle.http w.requests⟩] w (World.perform oracle (.post r) w).2
  := by
  constructor
  · exact World.posts_post r w
  · rfl
  · rfl

/-- The call makes no HTTP request. -/
def Call.Offline : Call → Prop
  | .post _ => False
  | _ => True

theorem exchanged_offline {c : Call} (hc : c.Offline) (w : World) :
  Exchanged oracle [] w (World.perform oracle c w).2
  := by
  have htell : ∀ o : Output, o.post? = none → Exchanged oracle [] w (w.tell o) := by
    intro o ho
    apply Exchanged.of_eq
    · rw [World.posts_tell, ho]
      exact List.append_nil _
    · rfl
  cases c with
  | lrange k =>
      rw [perform_of_isReading (.inl ⟨k, rfl⟩)]
      exact .of_eq rfl rfl
  | get k =>
      rw [perform_of_isReading (.inr ⟨k, rfl⟩)]
      exact .of_eq rfl rfl
  | rpush k values =>
      simp only [World.perform]
      rcases w.redis.push k values with e | s
      · exact .of_eq rfl rfl
      · exact .of_eq rfl rfl
  | send q => exact htell _ rfl
  | sending channelUri content => exact htell _ rfl
  | reply m => exact htell _ rfl
  | post r => exact hc.elim
  | _ => exact .of_eq rfl rfl

/-- A program without HTTP requests. -/
theorem exchanged_of_calls {α : Type} {p : Server α} (hp : p.Calls Call.Offline) (w : World) :
  Exchanged oracle [] w (Server.run oracle p w).2
  := by
  apply hp.run_related (r := Exchanged oracle [])
  · intro w
    exact .of_eq rfl rfl
  · intro w₁ w₂ w₃ h h'
    exact h.trans h'
  · intro c hc w
    exact exchanged_offline hc w

theorem Call.Redis.offline {c : Call} (h : c.Redis) :
  c.Offline
  := by
  rcases h with (⟨k, rfl⟩ | ⟨k, rfl⟩) | h
  · trivial
  · trivial
  · cases c with
    | post r => exact h.elim
    | _ => trivial

/-! ### Programs -/

variable (platform config oracle) in
/-- One request is made for a token. -/
theorem exchanged_requestNewToken (w : World) :
  Exchanged oracle [⟨WnsClient.tokenRequest config, oracle.http w.requests⟩] w
    (Server.run oracle (WnsClient.requestNewToken platform config) w).2
  := by
  rw [WnsClient.requestNewToken, Server.run, Program.run_bind_ok _ rfl]
  refine (exchanged_post oracle _ w).trans (exchanged_of_calls ?_ _)
  split
  · apply Program.calls_pure
  · apply Program.calls_bind
    · apply (calls_fromResponse platform _).mono
      rintro c rfl
      trivial
    · intro token
      apply Program.calls_bind (Program.calls_invoke trivial)
      intro _
      cases token with
      | none => apply Program.calls_pure
      | some token =>
          apply Program.calls_bind
          · exact (commands_setWnsToken _ _ _).calls.mono fun _ => Call.Redis.offline
          · intro _
            apply Program.calls_pure

variable (platform config oracle w) in
/-- A request for a token returns true if and only if one is granted. -/
theorem run_requestNewToken_iff :
  (Server.run oracle (WnsClient.requestNewToken platform config) w).1 = .ok true
    ↔ (oracle.http w.requests).IsGrant platform
  := by
  rcases requestNewToken_cases platform config oracle w with
    ⟨type, token, seconds, hgrants, w', hrun, -, -⟩ | ⟨hnot, hrun⟩
  · rw [hrun]
    exact iff_of_true rfl ⟨type, token, seconds, hgrants⟩
  · apply iff_of_false hrun
    rintro ⟨type, token, seconds, hgrants⟩
    exact hnot type token seconds hgrants

/-- A request that does not reach the server is made again. -/
theorem run_postAttempts_unreachable {request : HttpRequest}
    (hok : (oracle.http w.requests).ok = false) (n : Nat) :
  Server.run oracle (WnsClient.postAttempts platform config request (n + 1)) w
    = Server.run oracle (WnsClient.postAttempts platform config request n) (w.posted oracle request)
  := by
  rw [WnsClient.postAttempts, Server.run, Program.run_bind_ok _ rfl]
  change Program.run _ (if !(oracle.http w.requests).ok then _ else _) _ = _
  rw [hok]
  rfl

/-- What is done after a request that is answered. -/
theorem run_postAttempts_answered {request : HttpRequest}
    (hok : (oracle.http w.requests).ok = true) (n : Nat) :
  Server.run oracle (WnsClient.postAttempts platform config request (n + 1)) w
    = Server.run oracle (do
        match ← WnsClient.handleResponseCode platform config (oracle.http w.requests).statusCode with
        | .success => return true
        | .retry => WnsClient.postAttempts platform config request n
        | .error => return false) (w.posted oracle request)
  := by
  rw [WnsClient.postAttempts, Server.run, Program.run_bind_ok _ rfl]
  change Program.run _ (if !(oracle.http w.requests).ok then _ else _) _ = _
  rw [hok]
  rfl

/-- A token that is refused is replaced, and the attempts go on, or they end. -/
theorem attempts_renew {request : HttpRequest} {n : Nat}
    (ih : ∀ w, ∃ l, Exchanged oracle l w
        (Server.run oracle (WnsClient.postAttempts platform config request n) w).2
      ∧ Attempts platform config request n l
        (Server.run oracle (WnsClient.postAttempts platform config request n) w).1)
    (hok : (oracle.http w.requests).ok = true)
    (h401 : (oracle.http w.requests).statusCode = 401) :
  ∃ l, Exchanged oracle l w
      (Server.run oracle (WnsClient.postAttempts platform config request (n + 1)) w).2
    ∧ Attempts platform config request (n + 1) l
      (Server.run oracle (WnsClient.postAttempts platform config request (n + 1)) w).1
  := by
  have hpost := exchanged_post oracle request w
  have hrequest := exchanged_requestNewToken platform config oracle (w.posted oracle request)
  have hiff := run_requestNewToken_iff platform config oracle (w.posted oracle request)
  rw [run_postAttempts_answered hok, h401]
  rcases hrun : Server.run oracle (WnsClient.requestNewToken platform config)
    (w.posted oracle request) with ⟨e | b, w₂⟩
  · rw [hrun] at hrequest hiff
    have hcode : Server.run oracle (WnsClient.handleResponseCode platform config 401)
        (w.posted oracle request) = (.error e, w₂) := Program.run_bind_error _ hrun _
    rw [Server.run, Program.run_bind_error _ hcode]
    refine ⟨_, hpost.trans hrequest, .refused hok h401 ?_ (by rintro ⟨⟩)⟩
    intro hgrant
    cases hiff.mpr hgrant
  · rw [hrun] at hrequest hiff
    cases b with
    | true =>
        rw [Server.run, Program.run_bind_ok _ (run_handleResponseCode_401 hrun)]
        obtain ⟨l, hl, hattempts⟩ := ih w₂
        exact ⟨_, (hpost.trans hrequest).trans hl, .renewed hok h401 (hiff.mp rfl) hattempts⟩
    | false =>
        have hcode : Server.run oracle (WnsClient.handleResponseCode platform config 401)
            (w.posted oracle request) = (.ok .error, w₂) := Program.run_bind_ok _ hrun _
        rw [Server.run, Program.run_bind_ok _ hcode]
        refine ⟨_, hpost.trans hrequest, .refused hok h401 ?_ (by rintro ⟨⟩)⟩
        intro hgrant
        cases hiff.mpr hgrant

variable (platform config oracle) in
/-- How the attempts to post a request go. -/
theorem attempts_postAttempts (request : HttpRequest) (n : Nat) (w : World) :
  ∃ l, Exchanged oracle l w
      (Server.run oracle (WnsClient.postAttempts platform config request n) w).2
    ∧ Attempts platform config request n l
      (Server.run oracle (WnsClient.postAttempts platform config request n) w).1
  := by
  induction n generalizing w with
  | zero => exact ⟨[], .of_eq rfl rfl, .exhausted⟩
  | succ n ih =>
      have hpost := exchanged_post oracle request w
      obtain ⟨l, hl, hattempts⟩ := ih (w.posted oracle request)
      cases hok : (oracle.http w.requests).ok with
      | false =>
          rw [run_postAttempts_unreachable hok]
          exact ⟨_, hpost.trans hl, .again (.inl hok) hattempts⟩
      | true =>
          by_cases h401 : (oracle.http w.requests).statusCode = 401
          · exact attempts_renew ih hok h401
          rw [run_postAttempts_answered hok, WnsClient.handleResponseCode]
          by_cases h200 : (oracle.http w.requests).statusCode = 200
          · rw [if_pos h200]
            exact ⟨_, hpost, .accepted hok h200⟩
          by_cases h503 : (oracle.http w.requests).statusCode = 503
          · rw [if_neg h200, if_neg h401, if_pos h503]
            exact ⟨_, hpost.trans hl, .again (.inr h503) hattempts⟩
          · rw [if_neg h200, if_neg h401, if_neg h503]
            refine ⟨_, hpost, .rejected hok ?_⟩
            simp [h200, h401, h503]

/-- With a token the attempts begin. -/
theorem run_postNotification {channelUri content : String} {token : WnsToken}
    (h : Server.run oracle (WnsClient.ensureToken platform config) w = (.ok true, w'))
    (htoken : w'.token = some token) :
  Server.run oracle (WnsClient.postNotification platform config channelUri content) w
    = Server.run oracle
      (WnsClient.postAttempts platform config
        (WnsClient.notification token channelUri content) 3) w'
  := by
  rw [WnsClient.postNotification, Server.run, Program.run_bind_ok _ h, if_pos rfl,
    Program.run_bind_ok _ rfl, htoken]
  rfl

variable (platform config oracle) in
/-- Without a token one is requested. -/
theorem run_ensureToken_of_not (h : ∀ token, ¬w.HasToken token) :
  Server.run oracle (WnsClient.ensureToken platform config) w
    = Server.run oracle (WnsClient.requestNewToken platform config) w
  := by
  rw [WnsClient.ensureToken, Server.run, Program.run_bind_ok _ (run_isTokenValid_of_not h)]
  rfl

variable (platform config oracle) in
/-- How a notification goes after its log line. -/
theorem conversation_postNotification (channelUri content : String) (w : World) :
  ∃ l, Exchanged oracle l w
      (Server.run oracle (WnsClient.postNotification platform config channelUri content) w).2
    ∧ Conversation platform config channelUri content l
      (Server.run oracle (WnsClient.postNotification platform config channelUri content) w).1
  := by
  by_cases hvalid : ∃ token, w.HasToken token
  · obtain ⟨token, hvalid⟩ := hvalid
    have hensure : Server.run oracle (WnsClient.ensureToken platform config) w
        = (.ok true, w) := by
      rw [WnsClient.ensureToken, Server.run,
        Program.run_bind_ok _ (run_isTokenValid_of_hasToken hvalid)]
      rfl
    rw [run_postNotification hensure hvalid.1]
    obtain ⟨l, hl, hattempts⟩ := attempts_postAttempts platform config oracle
      (WnsClient.notification token channelUri content) 3 w
    exact ⟨l, hl, .valid hattempts⟩
  · have hensure := run_ensureToken_of_not platform config oracle (not_exists.mp hvalid)
    have hrequest := exchanged_requestNewToken platform config oracle w
    rcases requestNewToken_cases platform config oracle w with
      ⟨type, token, seconds, hgrants, w', hrun, htoken, -⟩ | ⟨hnot, hrun⟩
    · rw [run_postNotification (hensure.trans hrun) htoken]
      rw [hrun] at hrequest
      obtain ⟨l, hl, hattempts⟩ := attempts_postAttempts platform config oracle
        (WnsClient.notification _ channelUri content) 3 w'
      exact ⟨_, hrequest.trans hl, .granted hgrants hattempts⟩
    · have hdenied : ¬(oracle.http w.requests).IsGrant platform := by
        rintro ⟨type, token, seconds, hgrants⟩
        exact hnot type token seconds hgrants
      rw [WnsClient.postNotification]
      rcases hrequestRun : Server.run oracle (WnsClient.requestNewToken platform config) w
        with ⟨e | b, w'⟩
      · rw [hrequestRun] at hrequest
        rw [Server.run, Program.run_bind_error _ (hensure.trans hrequestRun)]
        exact ⟨_, hrequest, .denied hdenied (by rintro ⟨⟩)⟩
      · rw [hrequestRun] at hrequest hrun
        cases b with
        | true => exact (hrun rfl).elim
        | false =>
            rw [Server.run, Program.run_bind_ok _ (hensure.trans hrequestRun)]
            exact ⟨_, hrequest, .denied hdenied (by rintro ⟨⟩)⟩

variable (platform config oracle) in
/-- How a notification goes. -/
theorem conversation_sendRawNotification (channelUri content : String) (w : World) :
  ∃ l, Exchanged oracle l w
      (Server.run oracle (WnsClient.sendRawNotification platform config channelUri content) w).2
    ∧ Conversation platform config channelUri content l
      (Server.run oracle (WnsClient.sendRawNotification platform config channelUri content) w).1
  := by
  have hsending : Exchanged oracle [] w (w.tell (.sending channelUri content)) :=
    exchanged_offline (c := .sending channelUri content) trivial w
  obtain ⟨l, hl, hconversation⟩ := conversation_postNotification platform config oracle
    channelUri content (w.tell (.sending channelUri content))
  exact ⟨l, hsending.trans hl, hconversation⟩

/-! ### What is posted -/

theorem notifies_tokenRequest {answer : HttpResponse} :
  Exchange.notifies ⟨WnsClient.tokenRequest config, answer⟩ = false
  := rfl

theorem notifies_of_payload {request : HttpRequest} {response : HttpResponse}
    (h : request.payload = []) :
  Exchange.notifies ⟨request, response⟩ = true
  := by
  rw [Exchange.notifies, h]
  rfl

/-- Nothing is posted after a notification that is accepted. -/
theorem Next.not_accepted {x y : Exchange} (h : Next platform config x y) :
  x.accepted = false
  := by
  have htoken : x.request = WnsClient.tokenRequest config → x.accepted = false := by
    intro hx
    rw [Exchange.accepted, Exchange.notifies, hx]
    rfl
  cases h with
  | again hx h =>
      rcases h with hok | hstatus
      · simp [Exchange.accepted, hok]
      · simp [Exchange.accepted, hstatus]
  | renew hx ok status => simp [Exchange.accepted, status]
  | granted hx => exact htoken hx
  | denied hx => exact htoken hx

/-- At most one notification is accepted. -/
theorem countP_accepted_le (h : l.IsChain (Next platform config)) :
  l.countP Exchange.accepted ≤ 1
  := by
  induction l with
  | nil => exact Nat.zero_le 1
  | cons x l ih =>
      obtain ⟨hx, hl⟩ := List.isChain_cons.mp h
      cases l with
      | nil => exact List.countP_le_length
      | cons y l =>
          rw [List.countP_cons, (hx y rfl).not_accepted]
          exact ih hl

section

variable {request : HttpRequest} {n : Nat} {r : Except Failure Bool}

theorem Attempts.requests (h : Attempts platform config request n l r) :
  ∀ x ∈ l, x.request = WnsClient.tokenRequest config ∨ x.request = request
  := by
  induction h with
  | exhausted => simp
  | again _ _ ih => simpa using ih
  | accepted => simp
  | renewed _ _ _ _ ih => simpa using ih
  | refused => simp
  | rejected => simp

/-- The attempts begin with the request. -/
theorem Attempts.head (h : Attempts platform config request n l r) :
  ∀ x ∈ l.head?, x.request = request
  := by
  cases h with
  | exhausted => simp
  | _ => simp

theorem Attempts.notifications (h : Attempts platform config request n l r)
    (hrequest : request.payload = []) :
  l.countP Exchange.notifies ≤ n
  := by
  induction h with
  | exhausted => exact Nat.zero_le 0
  | again _ _ ih =>
      simp only [List.countP_cons, notifies_of_payload hrequest, if_true]
      omega
  | accepted => exact List.countP_le_length.trans (by simp)
  | renewed _ _ _ _ ih =>
      simp only [List.countP_cons, notifies_of_payload hrequest, notifies_tokenRequest, if_true,
        Bool.false_eq_true, if_false]
      omega
  | refused =>
      simp only [List.countP_cons, notifies_of_payload hrequest, notifies_tokenRequest]
      simp
  | rejected => exact List.countP_le_length.trans (by simp)

theorem Attempts.tokenRequests (h : Attempts platform config request n l r)
    (hrequest : request.payload = []) :
  l.countP (fun x => !x.notifies) ≤ n
  := by
  induction h with
  | exhausted => exact Nat.zero_le 0
  | again _ _ ih =>
      simp only [List.countP_cons, notifies_of_payload hrequest, Bool.not_true,
        Bool.false_eq_true, if_false]
      omega
  | accepted => exact List.countP_le_length.trans (by simp)
  | renewed _ _ _ _ ih =>
      simp only [List.countP_cons, notifies_of_payload hrequest, notifies_tokenRequest,
        Bool.not_true, Bool.not_false, Bool.false_eq_true, if_false, if_true]
      omega
  | refused =>
      simp only [List.countP_cons, notifies_of_payload hrequest, notifies_tokenRequest]
      simp
  | rejected => exact List.countP_le_length.trans (by simp)

/-- Each exchange follows the one before. -/
theorem Attempts.chain (h : Attempts platform config request n l r)
    (hrequest : request.payload = []) :
  l.IsChain (Next platform config)
  := by
  induction h with
  | exhausted => exact .nil
  | again h rest ih =>
      apply List.isChain_cons.mpr ⟨_, ih⟩
      intro y hy
      exact .again (notifies_of_payload hrequest) h (rest.head y hy)
  | accepted => exact .singleton _
  | renewed ok status granted rest ih =>
      apply List.isChain_cons_cons.mpr ⟨.renew (notifies_of_payload hrequest) ok status rfl, _⟩
      apply List.isChain_cons.mpr ⟨_, ih⟩
      intro y hy
      apply Next.granted rfl granted
      rw [Exchange.notifies, rest.head y hy]
      rw [hrequest]
      rfl
  | refused ok status =>
      exact List.isChain_pair.mpr (.renew (notifies_of_payload hrequest) ok status rfl)
  | rejected => exact .singleton _

/-- A notification is posted politely. -/
theorem Conversation.polite {channelUri content : String}
    (h : Conversation platform config channelUri content l r) :
  Polite platform config l
  := by
  cases h with
  | @valid token _ _ h =>
      exact ⟨h.chain rfl, ⟨_, h.requests⟩, h.notifications rfl,
        Nat.le_succ_of_le (h.tokenRequests rfl)⟩
  | @granted answer token seconds granted l _ h =>
      constructor
      · apply List.isChain_cons.mpr ⟨_, h.chain rfl⟩
        intro y hy
        apply Next.granted rfl ⟨_, _, _, granted⟩
        rw [Exchange.notifies, h.head y hy]
        rfl
      · use WnsClient.notification token channelUri content
        intro x hx
        rcases List.mem_cons.mp hx with rfl | hx
        · exact .inl rfl
        · exact h.requests x hx
      · rw [List.countP_cons, notifies_tokenRequest]
        exact h.notifications rfl
      · rw [List.countP_cons, notifies_tokenRequest]
        exact Nat.succ_le_succ (h.tokenRequests rfl)
  | denied =>
      constructor
      · exact .singleton _
      · use WnsClient.tokenRequest config
        simp
      · exact List.countP_le_length.trans (by simp)
      · exact List.countP_le_length.trans (by simp)

end

end

end UwpxPush
