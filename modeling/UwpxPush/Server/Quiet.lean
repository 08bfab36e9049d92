import UwpxPush.Server.Moves
import UwpxPush.Storage.Commands

/-!
# Who answers the client

Only the handlers of requests answer the client, and only they catch exceptions.  Everything
they use is quiet: it sends no response, whatever its calls are answered with, and passes
exceptions on.
-/

namespace UwpxPush

/-- The call does not send a response. -/
def Call.Quiet : Call → Prop
  | reply _ => False
  | _ => True

/-- The commands of the Redis client send no response. -/
theorem Call.Redis.quiet {c : Call} (h : c.Redis) :
  c.Quiet
  := by
  rcases h with (⟨k, rfl⟩ | ⟨k, rfl⟩) | h
  · trivial
  · trivial
  · cases c with
    | reply m => exact h.elim
    | _ => trivial

/-- The program sends no response, throws only exceptions and catches nothing. -/
def Quiet {α : Type} (p : Server α) : Prop :=
  p.Straight Call.Quiet Failure.IsException

/-- A program of Redis commands is quiet. -/
theorem Commands.quiet {α : Type} {p : Server α} (h : Commands p) :
  Quiet p
  := Program.Straight.mono h (fun _ => Call.Redis.quiet) fun _ he => he.elim

/-! ### Quiet programs -/

/-- A program that returns is quiet. -/
theorem quiet_pure {α : Type} (a : α) :
  Quiet (pure a)
  := Program.straight_pure a

/-- An exception is passed on. -/
theorem quiet_exception {α : Type} (what : String) :
  Quiet (throw (.exception what) : Server α)
  := Program.straight_throw ⟨what, rfl⟩

/-- A call that sends no response is quiet. -/
theorem quiet_invoke (c : Call) (h : c.Quiet) :
  Quiet (invoke c)
  := Program.straight_invoke h

/-- Quiet programs follow each other quietly. -/
theorem quiet_bind {α β : Type} {p : Server α} {f : α → Server β} (hp : Quiet p)
    (hf : ∀ a, Quiet (f a)) :
  Quiet (p >>= f)
  := Program.straight_bind hp hf

/-! ### The WNS client -/

/-- A conversion returns or throws an exception. -/
theorem quiet_convert {α : Type} (r : Except String α) :
  Quiet (WnsToken.convert r)
  := by
  cases r with
  | ok a => apply quiet_pure
  | error what => apply quiet_exception

/-- `WnsToken::from_response` reads the clock and throws on a wrong type. -/
theorem quiet_fromResponse (platform : Platform) (response : String) :
  Quiet (WnsToken.fromResponse platform response)
  := by
  unfold WnsToken.fromResponse
  split
  · split
    · apply quiet_pure
    · apply quiet_exception
  · split
    · apply quiet_pure
    · apply quiet_bind (quiet_convert _)
      intro type
      split
      · apply quiet_pure
      · apply quiet_bind (quiet_convert _)
        intro token
        split
        · apply quiet_pure
        · apply quiet_bind (quiet_convert _)
          intro expiresInSeconds
          apply quiet_bind
          · apply quiet_bind (quiet_invoke _ (by trivial))
            intro now
            apply quiet_pure
          · intro expires
            apply quiet_pure

/-- `is_token_valid` reads the token and the clock. -/
theorem quiet_isTokenValid :
  Quiet WnsClient.isTokenValid
  := by
  apply quiet_bind (quiet_invoke _ (by trivial))
  rintro (_ | token)
  · apply quiet_pure
  · apply quiet_bind (quiet_invoke _ (by trivial))
    intro now
    apply quiet_pure

section

variable (platform : Platform) (config : Configuration)

/-- `request_new_token` posts a request and stores the token. -/
theorem quiet_requestNewToken :
  Quiet (WnsClient.requestNewToken platform config)
  := by
  apply quiet_bind (quiet_invoke _ (by trivial))
  intro response
  split
  · apply quiet_pure
  · apply quiet_bind (quiet_fromResponse platform _)
    intro token
    apply quiet_bind (quiet_invoke _ (by trivial))
    intro _
    cases token with
    | none => apply quiet_pure
    | some token =>
        apply quiet_bind (commands_setWnsToken _ _ _).quiet
        intro _
        apply quiet_pure

/-- `handle_response_code` requests a token at most. -/
theorem quiet_handleResponseCode (statusCode : Int) :
  Quiet (WnsClient.handleResponseCode platform config statusCode)
  := by
  unfold WnsClient.handleResponseCode
  split
  · apply quiet_pure
  · split
    · apply quiet_bind (quiet_requestNewToken platform config)
      intro success
      split
      · apply quiet_pure
      · apply quiet_pure
    · split
      · apply quiet_pure
      · apply quiet_pure

/-- Every attempt posts the notification and looks at the answer. -/
theorem quiet_postAttempts (request : HttpRequest) (attempts : Nat) :
  Quiet (WnsClient.postAttempts platform config request attempts)
  := by
  induction attempts with
  | zero => apply quiet_pure
  | succ attempts ih =>
      apply quiet_bind (quiet_invoke _ (by trivial))
      intro response
      split
      · apply ih
      · apply quiet_bind (quiet_handleResponseCode platform config _)
        rintro (_ | _ | _)
        · apply quiet_pure
        · apply ih
        · apply quiet_pure

/-- A token that is not valid is requested. -/
theorem quiet_ensureToken :
  Quiet (WnsClient.ensureToken platform config)
  := by
  apply quiet_bind quiet_isTokenValid
  intro valid
  split
  · apply quiet_pure
  · apply quiet_requestNewToken

end

/-! ### The XMPP client -/

/-- `setup_push_node` sends two requests when it is connected. -/
theorem quiet_setupPushNode (node : String) :
  Quiet (XmppClient.setupPushNode node)
  := by
  apply quiet_bind (quiet_invoke _ (by trivial))
  intro connected
  split
  · apply quiet_pure
  · apply quiet_bind (quiet_invoke _ (by trivial))
    intro _
    apply quiet_bind (quiet_invoke _ (by trivial))
    intro _
    apply quiet_pure

/-- `delete_push_node` sends two requests when it is connected. -/
theorem quiet_deletePushNode (node : String) :
  Quiet (XmppClient.deletePushNode node)
  := by
  apply quiet_bind (quiet_invoke _ (by trivial))
  intro connected
  split
  · apply quiet_pure
  · apply quiet_bind (quiet_invoke _ (by trivial))
    intro _
    exact quiet_invoke _ trivial

/-- The second loop of `set_push_accounts` is quiet. -/
theorem quiet_setupAccount (pushAccounts : List PushAccount) (node : String × Nat) :
  Quiet (PushServer.setupAccount pushAccounts node)
  := by
  apply quiet_bind (quiet_setupPushNode node.1)
  intro success
  apply quiet_pure

/-- The first loop of `set_push_accounts` is quiet. -/
theorem quiet_collectAccount (platform : Platform) (deviceId : String)
    (p : PushServer.Pending) (accountId : String) :
  Quiet (PushServer.collectAccount platform deviceId p accountId)
  := by
  apply quiet_bind
  · apply quiet_bind (quiet_invoke _ (by trivial))
    intro draws
    apply quiet_pure
  · intro account
    apply quiet_bind (commands_loadPushAccount platform deviceId account).quiet
    intro account'
    apply quiet_pure

/-! ### What a registration calls -/

/-- The call is one of the XMPP client for a node. -/
def Call.PubSub (c : Call) : Prop :=
  c = .isConnected ∨ ∃ q, c = .send q

/-- The call draws or reads. -/
def Call.Collecting (c : Call) : Prop :=
  c = .random ∨ IsReading c

/-- The calls of the XMPP client do not write to the store. -/
theorem Call.PubSub.not_writing {c : Call} (h : c.PubSub) :
  ¬c.Writing
  := by
  rcases h with rfl | ⟨q, rfl⟩
  · exact id
  · exact id

/-- Drawing and reading do not write to the store. -/
theorem Call.Collecting.not_writing {c : Call} (h : c.Collecting) :
  ¬c.Writing
  := by
  rcases h with rfl | h
  · exact id
  · apply h.not_writing

/-- A node is deleted by calls of the XMPP client. -/
theorem calls_deletePushNode (node : String) :
  (XmppClient.deletePushNode node).Calls Call.PubSub
  := by
  apply Program.calls_bind (Program.calls_invoke (.inl rfl))
  intro connected
  split
  · apply Program.calls_pure
  · apply Program.calls_bind (Program.calls_invoke (.inr ⟨_, rfl⟩))
    intro _
    exact Program.calls_invoke (.inr ⟨_, rfl⟩)

/-- A node is set up by calls of the XMPP client. -/
theorem calls_setupAccount (accounts : List PushAccount) (node : String × ℕ) :
  (PushServer.setupAccount accounts node).Calls Call.PubSub
  := by
  apply Program.calls_bind
  · apply Program.calls_bind (Program.calls_invoke (.inl rfl))
    intro connected
    split
    · apply Program.calls_pure
    · apply Program.calls_bind (Program.calls_invoke (.inr ⟨_, rfl⟩))
      intro _
      apply Program.calls_bind (Program.calls_invoke (.inr ⟨_, rfl⟩))
      intro _
      apply Program.calls_pure
  · intro success
    apply Program.calls_pure

/-- An account is collected by drawing and reading. -/
theorem calls_collectAccount (platform : Platform) (deviceId : String) (p : PushServer.Pending)
    (accountId : String) :
  (PushServer.collectAccount platform deviceId p accountId).Calls Call.Collecting
  := by
  apply Program.calls_bind
  · apply Program.calls_bind (Program.calls_invoke (.inl rfl))
    intro draws
    apply Program.calls_pure
  · intro account
    apply Program.calls_bind
    · exact (reading_loadPushAccount platform deviceId account).mono fun c => .inr
    · intro account
      apply Program.calls_pure

end UwpxPush
