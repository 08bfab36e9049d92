import UwpxPush.Program.Cut
import UwpxPush.Storage.Commands
import UwpxPush.Wns.Token

/-!
# The authorization of notifications

The header of a notification is made once, before the first attempt to post it, and a new
token that is requested after a 401 does not reach it.  Every attempt carries the token that
is held at that time if and only if no attempt follows such a token, unless its
authorization is the same (`carriesToken_iff`).
-/

namespace UwpxPush

open WnsToken

/-- The call posts a notification: it has no form, unlike a request for a token. -/
def Call.Notifies : Call → Prop
  | post r => r.payload = []
  | _ => False

instance : DecidablePred Call.Notifies
  | .post r => inferInstanceAs (Decidable (r.payload = []))
  | .lrange _ | .get _ | .set _ _ | .del _ | .rpush _ _ | .expire _ _ | .expireat _ _ | .random
  | .isConnected | .send _ | .now | .readToken | .writeToken _ | .sending _ _ | .reply _ =>
      .isFalse id

/-- The notification that a program posts after `n` others, and the world in which it does. -/
abbrev notificationAt {α : Type} (oracle : Oracle) (n : Nat) (p : Server α) (w : World) :
    Option (Call × World) :=
  Program.callAt (World.perform oracle) Call.Notifies n p w

/-- The answer to a notification leads to another attempt with the same token. -/
abbrev HttpResponse.Again (response : HttpResponse) : Prop :=
  response.ok = false ∨ response.statusCode = 503

/-- The token in memory has not expired. -/
def World.HasToken (w : World) (token : WnsToken) : Prop :=
  w.token = some token ∧ w.redis.clock < token.expires

section

variable (platform : Platform) (oracle : Oracle)

/-- The first attempt carries the authorization `auth` and is the request `i`: the token in
memory is valid, or one is requested and granted. -/
def Starts (w : World) (auth : String) (i : Nat) : Prop :=
  (∃ token, w.HasToken token ∧ auth = token.toAuthString ∧ i = w.requests)
    ∨ (∀ token, ¬w.HasToken token)
      ∧ ∃ type token seconds, (oracle.http w.requests).Grants platform type token seconds
        ∧ auth = type ++ " " ++ token ∧ i = w.requests + 1

/-- Of the remaining attempts, which begin with the request `i`, one is answered by 401, the
request for a token that follows is granted one with another authorization, and an attempt is
left. -/
def StaleRetry (auth : String) : Nat → Nat → Prop
  | 0, _ => False
  | attempts + 1, i =>
      if (oracle.http i).Again then
        StaleRetry auth attempts (i + 1)
      else
        (oracle.http i).statusCode = 401 ∧ ∃ type token seconds,
          (oracle.http (i + 1)).Grants platform type token seconds
            ∧ if type ++ " " ++ token = auth then StaleRetry auth attempts (i + 2) else 0 < attempts

end

variable {platform : Platform} {config : Configuration} {oracle : Oracle} {w : World}

/-- A program that posts no notifications. -/
abbrev PostsNone {α : Type} (p : Server α) : Prop :=
  p.Calls fun c => ¬c.Notifies

/-- Every notification the program posts carries the token that is held when it is. -/
def CarriesToken {α : Type} (oracle : Oracle) (p : Server α) (w : World) : Prop :=
  ∀ n r w', notificationAt oracle n p w = some (.post r, w') →
    ∃ token, w'.token = some token
      ∧ r.header.lookup "Authorization" = some token.toAuthString

/-! ### Requests for a token -/

theorem Call.Redis.not_notifies {c : Call} (h : c.Redis) :
  ¬c.Notifies
  := by
  rcases h with (⟨k, rfl⟩ | ⟨k, rfl⟩) | h
  · exact id
  · exact id
  · cases c with
    | post r => exact h.elim
    | _ => exact id

theorem postsNone_requestNewToken :
  PostsNone (WnsClient.requestNewToken platform config)
  := by
  apply Program.calls_bind (Program.calls_invoke nofun)
  intro response
  split
  · apply Program.calls_pure
  · apply Program.calls_bind
    · apply (calls_fromResponse platform _).mono
      rintro c rfl
      exact id
    · intro token
      apply Program.calls_bind (Program.calls_invoke id)
      intro _
      cases token with
      | none => apply Program.calls_pure
      | some token =>
          apply Program.calls_bind
          · apply (commands_setWnsToken _ _ _).calls.mono
            intro c
            apply Call.Redis.not_notifies
          · intro _
            apply Program.calls_pure

theorem postsNone_isTokenValid :
  PostsNone WnsClient.isTokenValid
  := by
  apply calls_isTokenValid.mono
  rintro c (rfl | rfl)
  · exact id
  · exact id

theorem postsNone_ensureToken :
  PostsNone (WnsClient.ensureToken platform config)
  := by
  apply Program.calls_bind postsNone_isTokenValid
  intro valid
  split
  · apply Program.calls_pure
  · apply postsNone_requestNewToken

theorem run_isTokenValid_of_hasToken {token : WnsToken} (h : w.HasToken token) :
  Server.run oracle WnsClient.isTokenValid w = (.ok true, w)
  := by
  rw [WnsClient.isTokenValid, Server.run, Program.run_bind_ok _ rfl, h.1]
  apply congrArg (fun b => (Except.ok b, w))
  apply decide_eq_true h.2

theorem run_isTokenValid_of_not (h : ∀ token, ¬w.HasToken token) :
  Server.run oracle WnsClient.isTokenValid w = (.ok false, w)
  := by
  rw [WnsClient.isTokenValid, Server.run, Program.run_bind_ok _ rfl]
  cases htoken : w.token with
  | none => rfl
  | some token =>
      apply congrArg (fun b => (Except.ok b, w))
      apply decide_eq_false
      intro hvalid
      exact h token ⟨htoken, hvalid⟩

/-- An answer grants one token at most. -/
theorem HttpResponse.Grants.unique {response : HttpResponse} {type token type' token' : String}
    {seconds seconds' : Nat} (h : response.Grants platform type token seconds)
    (h' : response.Grants platform type' token' seconds') :
  type = type' ∧ token = token'
  := by
  obtain ⟨-, js, hjs, htype, htoken, -⟩ := h
  obtain ⟨-, js', hjs', htype', htoken', -⟩ := h'
  cases hjs.symm.trans hjs'
  cases htype.symm.trans htype'
  cases htoken.symm.trans htoken'
  exact ⟨rfl, rfl⟩

variable (platform config oracle) in
/-- There is a token and the first attempt starts with it, or no attempt starts. -/
theorem ensureToken_cases (w : World) :
  (∃ token w', Server.run oracle (WnsClient.ensureToken platform config) w = (.ok true, w')
      ∧ w'.token = some token
      ∧ ∀ auth i, Starts platform oracle w auth i ↔ auth = token.toAuthString ∧ i = w'.requests)
    ∨ (Server.run oracle (WnsClient.ensureToken platform config) w).1 ≠ .ok true
      ∧ ∀ auth i, ¬Starts platform oracle w auth i
  := by
  by_cases hvalid : ∃ token, w.HasToken token
  · obtain ⟨token, hvalid⟩ := hvalid
    refine .inl ⟨token, w, ?_, hvalid.1, ?_⟩
    · rw [WnsClient.ensureToken, Server.run,
        Program.run_bind_ok _ (run_isTokenValid_of_hasToken hvalid)]
      rfl
    · intro auth i
      constructor
      · rintro (⟨token', hvalid', hauth, hi⟩ | ⟨hnot, -⟩)
        · cases hvalid.1.symm.trans hvalid'.1
          exact ⟨hauth, hi⟩
        · exact (hnot token hvalid).elim
      · rintro ⟨hauth, hi⟩
        exact .inl ⟨token, hvalid, hauth, hi⟩
  · have hnot := not_exists.mp hvalid
    have hrun : Server.run oracle (WnsClient.ensureToken platform config) w
        = Server.run oracle (WnsClient.requestNewToken platform config) w := by
      rw [WnsClient.ensureToken, Server.run,
        Program.run_bind_ok _ (run_isTokenValid_of_not hnot)]
      rfl
    rw [hrun]
    rcases requestNewToken_cases platform config oracle w with
      ⟨type, token, seconds, hgrants, w', hrequest, htoken, hrequests⟩ | ⟨hnone, hrequest⟩
    · refine .inl ⟨_, w', hrequest, htoken, ?_⟩
      intro auth i
      rw [hrequests]
      constructor
      · rintro (⟨token', hvalid', -⟩ | ⟨-, type', token', seconds', hgrants', hauth, hi⟩)
        · exact (hnot token' hvalid').elim
        · obtain ⟨rfl, rfl⟩ := hgrants.unique hgrants'
          exact ⟨hauth, hi⟩
      · rintro ⟨hauth, hi⟩
        exact .inr ⟨hnot, type, token, seconds, hgrants, hauth, hi⟩
    · refine .inr ⟨hrequest, ?_⟩
      rintro auth i (⟨token, hvalid', -⟩ | ⟨-, type, token, seconds, hgrants, -⟩)
      · exact hnot token hvalid'
      · exact hnone type token seconds hgrants

/-! ### Attempts -/

theorem postsNone_handleResponseCode (statusCode : Int) :
  PostsNone (WnsClient.handleResponseCode platform config statusCode)
  := by
  unfold WnsClient.handleResponseCode
  split
  · apply Program.calls_pure
  · split
    · apply Program.calls_bind postsNone_requestNewToken
      intro success
      split
      · apply Program.calls_pure
      · apply Program.calls_pure
    · split
      · apply Program.calls_pure
      · apply Program.calls_pure

/-- A token that is granted leads to the next attempt. -/
theorem run_handleResponseCode_401 {w' : World}
    (h : Server.run oracle (WnsClient.requestNewToken platform config) w = (.ok true, w')) :
  Server.run oracle (WnsClient.handleResponseCode platform config 401) w = (.ok .retry, w')
  := by
  change Server.run oracle (WnsClient.requestNewToken platform config >>= _) w = _
  rw [Server.run, Program.run_bind_ok _ h]
  rfl

/-- Nothing else leads to the next attempt. -/
theorem run_handleResponseCode_ne {statusCode : Int} (hstatus : statusCode ≠ 503)
    (h : statusCode = 401 →
      (Server.run oracle (WnsClient.requestNewToken platform config) w).1 ≠ .ok true) :
  (Server.run oracle (WnsClient.handleResponseCode platform config statusCode) w).1 ≠ .ok .retry
  := by
  unfold WnsClient.handleResponseCode
  split
  · rintro ⟨⟩
  · split
    · next h401 =>
        rw [Server.run, Program.run_bind]
        rcases hrun : Server.run oracle (WnsClient.requestNewToken platform config) w with ⟨e | b, u⟩
        · rw [Server.run] at hrun
          rw [hrun]
          rintro ⟨⟩
        · have hb : b = false := by
            have hne := h h401
            rw [hrun] at hne
            cases b with
            | true => exact (hne rfl).elim
            | false => rfl
          rw [Server.run] at hrun
          rw [hrun, hb]
          rintro ⟨⟩
    · rintro ⟨⟩

variable {request : HttpRequest}

/-- The world after a notification is posted. -/
abbrev World.posted (oracle : Oracle) (request : HttpRequest) (w : World) : World :=
  (World.perform oracle (.post request) w).2

variable (hrequest : request.payload = [])
include hrequest

theorem notificationAt_zero (attempts : Nat) :
  notificationAt oracle 0 (WnsClient.postAttempts platform config request (attempts + 1)) w
    = some (.post request, w)
  := Program.callAt_zero_invoke_bind hrequest

/-- What comes after an attempt. -/
theorem notificationAt_succ (attempts n : Nat) :
  notificationAt oracle (n + 1)
      (WnsClient.postAttempts platform config request (attempts + 1)) w
    = notificationAt oracle n
      (if !(oracle.http w.requests).ok then
        WnsClient.postAttempts platform config request attempts
      else do
        match ← WnsClient.handleResponseCode platform config (oracle.http w.requests).statusCode with
        | .success => return true
        | .retry => WnsClient.postAttempts platform config request attempts
        | .error => return false)
      (w.posted oracle request)
  := Program.callAt_succ_invoke_bind hrequest rfl

/-- After an error of the transport or a 503 the attempts go on. -/
theorem notificationAt_again (h : (oracle.http w.requests).Again) (attempts n : Nat) :
  notificationAt oracle (n + 1)
      (WnsClient.postAttempts platform config request (attempts + 1)) w
    = notificationAt oracle n (WnsClient.postAttempts platform config request attempts)
      (w.posted oracle request)
  := by
  rw [notificationAt_succ hrequest]
  cases hok : (oracle.http w.requests).ok with
  | false => rfl
  | true =>
      have hstatus : (oracle.http w.requests).statusCode = 503 := by
        rcases h with h | h
        · cases hok.symm.trans h
        · exact h
      rw [hstatus]
      rfl

/-- After a 401 with a new token the attempts go on. -/
theorem notificationAt_refreshed (hok : (oracle.http w.requests).ok = true)
    (hstatus : (oracle.http w.requests).statusCode = 401) {u : World}
    (h : Server.run oracle (WnsClient.requestNewToken platform config) (w.posted oracle request)
      = (.ok true, u)) (attempts n : Nat) :
  notificationAt oracle (n + 1)
      (WnsClient.postAttempts platform config request (attempts + 1)) w
    = notificationAt oracle n (WnsClient.postAttempts platform config request attempts) u
  := by
  rw [notificationAt_succ hrequest, hok, hstatus]
  apply Program.callAt_bind_of_zero (run_handleResponseCode_401 h)
  apply (postsNone_handleResponseCode _).count_eq_zero

/-- Otherwise there are no more attempts. -/
theorem notificationAt_ended (h : ¬(oracle.http w.requests).Again)
    (h401 : (oracle.http w.requests).statusCode = 401 →
      (Server.run oracle (WnsClient.requestNewToken platform config) (w.posted oracle request)).1
        ≠ .ok true) (attempts n : Nat) :
  notificationAt oracle (n + 1)
    (WnsClient.postAttempts platform config request (attempts + 1)) w = none
  := by
  obtain ⟨hok, hstatus⟩ := not_or.mp h
  rw [Bool.not_eq_false] at hok
  rw [notificationAt_succ hrequest, hok]
  apply Program.callAt_bind_none
  · apply (postsNone_handleResponseCode _).count_eq_zero
  · rintro (_ | _ | _) u hrun
    · rfl
    · exact (run_handleResponseCode_ne hstatus h401 (congrArg Prod.fst hrun)).elim
    · rfl

/-- The attempts carry the token that is held when the first does, and the others do. -/
theorem carriesToken_succ_iff {auth : String} {token : WnsToken}
    (hauth : request.header.lookup "Authorization" = some auth) (htoken : w.token = some token)
    (attempts : Nat) :
  CarriesToken oracle (WnsClient.postAttempts platform config request (attempts + 1)) w
    ↔ token.toAuthString = auth ∧ ∀ n r w', notificationAt oracle (n + 1)
        (WnsClient.postAttempts platform config request (attempts + 1)) w = some (.post r, w') →
      ∃ token, w'.token = some token
        ∧ r.header.lookup "Authorization" = some token.toAuthString
  := by
  constructor
  · intro h
    constructor
    · obtain ⟨token', htoken', hlookup⟩ := h 0 _ _ (notificationAt_zero hrequest attempts)
      cases htoken.symm.trans htoken'
      exact Option.some.inj (hlookup.symm.trans hauth)
    · intro n
      apply h (n + 1)
  · rintro ⟨heq, h⟩ n r w' hn
    cases n with
    | zero =>
        cases (notificationAt_zero hrequest attempts).symm.trans hn
        exact ⟨token, htoken, heq ▸ hauth⟩
    | succ n => apply h n r w' hn

variable (platform config oracle) in
theorem carriesToken_postAttempts_iff {auth : String} {token : WnsToken}
    (hauth : request.header.lookup "Authorization" = some auth) (htoken : w.token = some token)
    (attempts : Nat) :
  CarriesToken oracle (WnsClient.postAttempts platform config request attempts) w
    ↔ attempts = 0
      ∨ token.toAuthString = auth ∧ ¬StaleRetry platform oracle auth attempts w.requests
  := by
  induction attempts generalizing w token with
  | zero =>
      apply iff_of_true
      · nofun
      · exact .inl rfl
  | succ attempts ih =>
      rw [carriesToken_succ_iff hrequest hauth htoken, StaleRetry]
      simp only [Nat.succ_ne_zero, false_or]
      apply and_congr_right
      rintro rfl
      by_cases hagain : (oracle.http w.requests).Again
      · simp only [notificationAt_again hrequest hagain]
        rw [if_pos hagain]
        change CarriesToken oracle _ _ ↔ _
        have hposted : (w.posted oracle request).token = some token := htoken
        rw [ih hposted]
        constructor
        · rintro (rfl | ⟨-, h⟩)
          · exact id
          · exact h
        · intro h
          exact .inr ⟨rfl, h⟩
      · rw [if_neg hagain]
        obtain ⟨hok, -⟩ := not_or.mp hagain
        rw [Bool.not_eq_false] at hok
        rcases requestNewToken_cases platform config oracle (w.posted oracle request) with
          ⟨type, value, seconds, hgrants, u, hrun, hu, hrequests⟩ | ⟨hnone, hrun⟩
        · by_cases hstatus : (oracle.http w.requests).statusCode = 401
          · simp only [notificationAt_refreshed hrequest hok hstatus hrun]
            change CarriesToken oracle _ _ ↔ _
            rw [ih hu, hrequests]
            constructor
            · rintro h ⟨-, type', value', seconds', hgrants', hstale⟩
              obtain ⟨rfl, rfl⟩ := hgrants.unique hgrants'
              rcases h with rfl | ⟨heq, hnot⟩
              · split at hstale
                · exact hstale
                · cases hstale
              · have hauth' : type ++ " " ++ value = token.toAuthString := heq
                rw [if_pos hauth'] at hstale
                exact hnot hstale
            · intro h
              by_cases hzero : attempts = 0
              · exact .inl hzero
              · by_cases heq : type ++ " " ++ value = token.toAuthString
                · refine .inr ⟨heq, ?_⟩
                  intro hstale
                  apply h
                  refine ⟨hstatus, type, value, seconds, hgrants, ?_⟩
                  rw [if_pos heq]
                  apply hstale
                · apply absurd _ h
                  refine ⟨hstatus, type, value, seconds, hgrants, ?_⟩
                  rw [if_neg heq]
                  apply Nat.pos_of_ne_zero hzero
          · simp only [notificationAt_ended hrequest hagain fun h => (hstatus h).elim]
            apply iff_of_true
            · nofun
            · rintro ⟨h, -⟩
              exact hstatus h
        · simp only [notificationAt_ended hrequest hagain fun _ => hrun]
          apply iff_of_true
          · nofun
          · rintro ⟨-, type, value, seconds, hgrants, -⟩
            exact hnone type value seconds hgrants

omit hrequest

/-- The notifications of `send_raw_notification` are those of the attempts. -/
theorem notificationAt_sendRawNotification {channelUri content : String} {token : WnsToken}
    {u : World}
    (h : Server.run oracle (WnsClient.ensureToken platform config)
      (w.tell (.sending channelUri content)) = (.ok true, u)) (htoken : u.token = some token)
    (n : Nat) :
  notificationAt oracle n (WnsClient.sendRawNotification platform config channelUri content) w
    = notificationAt oracle n (WnsClient.postAttempts platform config
      (WnsClient.notification token channelUri content) 3) u
  := by
  have hsending : notificationAt oracle n
      (WnsClient.sendRawNotification platform config channelUri content) w
      = notificationAt oracle n (WnsClient.postNotification platform config channelUri content)
        (w.tell (.sending channelUri content)) :=
    Program.callAt_bind_of_zero rfl rfl
  rw [hsending, WnsClient.postNotification, notificationAt,
    Program.callAt_bind_of_zero h postsNone_ensureToken.count_eq_zero]
  rw [if_pos rfl, Program.callAt_bind_of_zero rfl rfl, htoken]
  rfl

/-- Without a token there are no notifications. -/
theorem notificationAt_sendRawNotification_none {channelUri content : String}
    (h : (Server.run oracle (WnsClient.ensureToken platform config)
      (w.tell (.sending channelUri content))).1 ≠ .ok true) (n : Nat) :
  notificationAt oracle n (WnsClient.sendRawNotification platform config channelUri content) w
    = none
  := by
  have hsending : notificationAt oracle n
      (WnsClient.sendRawNotification platform config channelUri content) w
      = notificationAt oracle n (WnsClient.postNotification platform config channelUri content)
        (w.tell (.sending channelUri content)) :=
    Program.callAt_bind_of_zero rfl rfl
  rw [hsending]
  apply Program.callAt_bind_none postsNone_ensureToken.count_eq_zero
  rintro (_ | _) u hrun
  · rfl
  · exact (h (congrArg Prod.fst hrun)).elim

/-- The value of `send_raw_notification` is that of the attempts. -/
theorem run_sendRawNotification {channelUri content : String} {token : WnsToken} {u : World}
    (h : Server.run oracle (WnsClient.ensureToken platform config)
      (w.tell (.sending channelUri content)) = (.ok true, u)) (htoken : u.token = some token) :
  Server.run oracle (WnsClient.sendRawNotification platform config channelUri content) w
    = Server.run oracle (WnsClient.postAttempts platform config
      (WnsClient.notification token channelUri content) 3) u
  := by
  have hsending : Server.run oracle
      (WnsClient.sendRawNotification platform config channelUri content) w
      = Server.run oracle (WnsClient.postNotification platform config channelUri content)
        (w.tell (.sending channelUri content)) :=
    Program.run_bind_ok _ rfl _
  rw [hsending, WnsClient.postNotification, Server.run, Program.run_bind_ok _ h, if_pos rfl,
    Program.run_bind_ok _ rfl, htoken]
  rfl

/-- An attempt that is accepted is the last one. -/
theorem run_postAttempts_of_200 (hok : (oracle.http w.requests).ok = true)
    (hstatus : (oracle.http w.requests).statusCode = 200) (attempts : Nat) :
  (Server.run oracle (WnsClient.postAttempts platform config request (attempts + 1)) w).1
    = .ok true
  := by
  rw [WnsClient.postAttempts, Server.run, Program.run_bind_ok _ rfl, hok, hstatus]
  rfl

/-- The WNS server rejects the notifications of a program that carry one authorization with
401, whereupon another one is granted, and accepts all others. -/
def RejectsOnly {α : Type} (platform : Platform) (oracle : Oracle) (p : Server α) (w : World)
    (auth : String) : Prop :=
  ∀ n r w', notificationAt oracle n p w = some (.post r, w') →
    (oracle.http w'.requests).ok = true
      ∧ if r.header.lookup "Authorization" = some auth then
          (oracle.http w'.requests).statusCode = 401 ∧ ∃ type token seconds,
            (oracle.http (w'.requests + 1)).Grants platform type token seconds
              ∧ type ++ " " ++ token ≠ auth
        else (oracle.http w'.requests).statusCode = 200

/-- Every notification carries the token that is held when it is posted, and one to a server
that rejects a single token arrives, if and only if no attempt follows a 401 with a token of
another authorization. -/
theorem carriesToken_iff (platform : Platform) (config : Configuration) (oracle : Oracle)
    (channelUri content : String) (w : World) :
  let p := WnsClient.sendRawNotification platform config channelUri content
  CarriesToken oracle p w
      ∧ (∀ auth, notificationAt oracle 0 p w ≠ none → RejectsOnly platform oracle p w auth →
        (Server.run oracle p w).1 = .ok true)
    ↔ ∀ auth i, Starts platform oracle w auth i → ¬StaleRetry platform oracle auth 3 i
  := by
  intro p
  rcases ensureToken_cases platform config oracle (w.tell (.sending channelUri content)) with
    ⟨token, u, hrun, htoken, hstarts⟩ | ⟨hrun, hstarts⟩
  · have hcarries : CarriesToken oracle p w
        ↔ ¬StaleRetry platform oracle token.toAuthString 3 u.requests := by
      have hpayload : (WnsClient.notification token channelUri content).payload = [] := rfl
      have hattempts := carriesToken_postAttempts_iff platform config oracle hpayload rfl htoken 3
      simp only [CarriesToken, ← notificationAt_sendRawNotification hrun htoken] at hattempts
      apply hattempts.trans
      simp
    rw [hcarries]
    constructor
    · rintro ⟨h, -⟩ auth i hi
      obtain ⟨rfl, rfl⟩ := (hstarts auth i).mp hi
      exact h
    · intro h
      have hnot := h _ _ ((hstarts _ _).mpr ⟨rfl, rfl⟩)
      use hnot
      intro auth _ hrejects
      have hfirst := notificationAt_sendRawNotification hrun htoken 0
      rw [notificationAt_zero rfl] at hfirst
      obtain ⟨hok, hanswer⟩ := hrejects 0 _ _ hfirst
      split at hanswer
      · next hauth =>
          -- The attempt after this rejection would be a stale one.
          obtain ⟨hstatus, type, value, seconds, hgrants, hne⟩ := hanswer
          have heq : token.toAuthString = auth := Option.some.inj hauth
          apply absurd _ hnot
          rw [StaleRetry, if_neg (by simp [hok, hstatus])]
          refine ⟨hstatus, type, value, seconds, hgrants, ?_⟩
          rw [heq, if_neg hne]
          decide
      · rw [run_sendRawNotification hrun htoken]
        apply run_postAttempts_of_200 hok hanswer
  · constructor
    · intro _ auth i hi
      exact (hstarts auth i hi).elim
    · intro _
      have hnone := notificationAt_sendRawNotification_none hrun
      constructor
      · intro n r w' hn
        cases (hnone n).symm.trans hn
      · intro auth hsome
        exact (hsome (hnone 0)).elim

namespace Sample

/-- A response that grants the token `new`. -/
def granting : Json :=
  .object [("access_token", .string "new"), ("expires_in", .integer 86400),
    ("token_type", .string "bearer")]

/-- The text of the response. -/
def grantingText : String :=
  "\x7b\"access_token\":\"new\",\"expires_in\":86400,\"token_type\":\"bearer\"\x7d"

/-- Every notification is rejected, and every request for a token granted the token `new`. -/
def rejecting : Oracle where
  draws := (answering ⟨true, 401, ""⟩).draws
  http i := if i % 2 = 0 then ⟨true, 401, ""⟩ else ⟨true, 200, grantingText⟩

/-- The token `old` has not expired. -/
def outdated : World :=
  { untouched with token := some ⟨"bearer", "old", 1700000000 * second⟩ }

end Sample

/-- The second attempt carries the token `old` although the token `new` is held, and the
notification is given up although the server rejects the token `old` only. -/
theorem not_carriesToken_outdated :
  let platform := Sample.reading Sample.grantingText Sample.granting
  let p := WnsClient.sendRawNotification platform
    ⟨⟨"packet", "secret"⟩, ⟨"push@example.org"⟩⟩ "https://example.notify.windows.com/?token=1" "{}"
  (∃ r w', notificationAt Sample.rejecting 1 p Sample.outdated = some (.post r, w')
      ∧ r.header.lookup "Authorization" = some "bearer old"
      ∧ w'.token.map toAuthString = some "bearer new")
    ∧ RejectsOnly platform Sample.rejecting p Sample.outdated "bearer old"
    ∧ (Server.run Sample.rejecting p Sample.outdated).1 = .ok false
    ∧ ¬CarriesToken Sample.rejecting p Sample.outdated
  := by
  intro platform p
  have hsecond : ∃ r w', notificationAt Sample.rejecting 1 p Sample.outdated = some (.post r, w')
      ∧ r.header.lookup "Authorization" = some "bearer old"
      ∧ w'.token.map toAuthString = some "bearer new" :=
    ⟨_, _, rfl, rfl, rfl⟩
  refine ⟨hsecond, ?_, rfl, ?_⟩
  · have hgrants : (Sample.rejecting.http 1).Grants platform "bearer" "new" 86400 :=
      ⟨rfl, Sample.granting, rfl, rfl, rfl, rfl⟩
    intro n r w' hn
    rcases n with _ | _ | _ | n
    · cases hn
      exact ⟨rfl, rfl, "bearer", "new", 86400, hgrants, by decide⟩
    · cases hn
      exact ⟨rfl, rfl, "bearer", "new", 86400, hgrants, by decide⟩
    · cases hn
      exact ⟨rfl, rfl, "bearer", "new", 86400, hgrants, by decide⟩
    · cases hn
  · intro h
    obtain ⟨r, w', hcall, hold, hnew⟩ := hsecond
    obtain ⟨token, htoken, hcarries⟩ := h 1 r w' hcall
    rw [htoken] at hnew
    rw [hold] at hcarries
    exact absurd ((Option.some.inj hcarries).trans (Option.some.inj hnew)) (by decide)

end UwpxPush
