import UwpxPush.Server.Components

/-!
# The steps that are left

Once a thread was asked to stop, each of its steps that does not end the process brings it
closer to its end.  The thread of the server waits for the threads that it joins, and the thread
of the TCP server for the handlers; otherwise a thread has a step until it ends.
-/

namespace UwpxPush

/-! ### Places -/

/-- The steps of `start()` and `stop()`, with one for `xmpp_stop`. -/
def Controller.rest : Controller → ℕ
  | .assertNotRunning => 11
  | .storeStarting => 10
  | .create => 9
  | .ifStarting => 8
  | .ifRunning => 7
  | .ifWaitingForJoin => 6
  | .unlessWaitingForJoin => 5
  | .storeStopRequested => 4
  | .join => 2
  | .storeNotRunning => 1
  | .returned => 0

theorem Controller.rest_le (k : Controller) :
  k.rest ≤ 11
  := by
  cases k <;> simp [Controller.rest]

/-- Every step that does not abort brings `start()` and `stop()` closer to their end. -/
theorem Controller.rest_lt {k k' : Controller} {f f' : Fields}
    (h : Controller.step k f = some (k', f')) (haborted : f'.aborted = false) :
  k'.rest < k.rest
  := by
  cases k with
  | assertNotRunning =>
      rw [Controller.step] at h
      split at h
      · cases h
        exact Nat.lt_succ_self 10
      · cases h
        cases haborted
  | ifStarting =>
      cases h
      split <;> simp [Controller.rest]
  | ifRunning =>
      cases h
      split <;> simp [Controller.rest]
  | ifWaitingForJoin =>
      cases h
      split <;> simp [Controller.rest]
  | unlessWaitingForJoin =>
      cases h
      split <;> simp [Controller.rest]
  | join =>
      rw [Controller.step] at h
      split at h
      · cases h
        exact Nat.lt_succ_self 1
      · cases h
  | returned => cases h
  | _ =>
      cases h
      simp [Controller.rest]

/-- `start()` and `stop()` have a step until they return, unless they wait for the thread. -/
theorem Controller.exists_step {k : Controller} {f : Fields} (hjoin : k = .join → f.ended = true)
    (hreturned : k ≠ .returned) :
  ∃ x, Controller.step k f = some x
  := by
  cases k with
  | assertNotRunning =>
      by_cases hstate : f.state = .notRunning
      · exact ⟨_, if_pos hstate⟩
      · exact ⟨_, if_neg hstate⟩
  | join => exact ⟨_, if_pos (hjoin rfl)⟩
  | returned => exact (hreturned rfl).elim
  | _ => exact ⟨_, rfl⟩

/-- A thread has a step until it returns. -/
theorem Worker.exists_step {body w : Worker} {f : Fields} (hreturned : w ≠ .returned) :
  ∃ x, Worker.step body w f = some x
  := by
  cases w with
  | assertStopRequested =>
      by_cases hstate : f.state = .stopRequested
      · exact ⟨_, if_pos hstate⟩
      · exact ⟨_, if_neg hstate⟩
  | unlessStarting =>
      by_cases hstate : f.state = .starting
      · exact ⟨_, if_pos hstate⟩
      · exact ⟨_, if_neg hstate⟩
  | returned => exact (hreturned rfl).elim
  | _ => exact ⟨_, rfl⟩

/-- A step with another result is a step. -/
theorem exists_map {α β : Type} {o : Option α} (h : ∃ x, o = some x) (g : α → β) :
  ∃ y, o.map g = some y
  := by
  obtain ⟨x, rfl⟩ := h
  exact ⟨g x, rfl⟩

namespace ServerPlace

/-- The steps of the thread of the server once it was asked to stop, but for those of its
programs. -/
def stage : ServerPlace → ℕ
  | .worker .assertStarting => 3
  | .worker .assertStopRequested => 2
  | .worker .unlessStarting => 1
  | .worker .storeRunning => 0
  | .init => 70
  | .setRedisClient => 69
  | .loadTokenFromDb _ => 68
  | .startTcp k => 55 + k.rest
  | .startXmpp k => 40 + k.rest
  | .worker .ifRunning => 33
  | .worker (.forRunning _) => 32
  | .checkSetupWns _ => 32
  | .worker .whileRunning => 31
  | .stopTcp k => 15 + k.rest
  | .stopXmpp k => 1 + k.rest
  | .xmppStop => 4
  | .worker .storeWaitingForJoin => 1
  | .worker .returned => 0
  | .left => 0

/-- The component whose thread the thread of the server joins. -/
def joins : ServerPlace → Option Component
  | .stopTcp .join => some .tcpServer
  | .stopXmpp .join => some .xmppClient
  | _ => none

/-- `start()` is not at a place of `stop()`, which has not returned. -/
def Proper : ServerPlace → Prop
  | .startTcp k => k = .assertNotRunning ∨ k = .storeStarting ∨ k = .create
  | .startXmpp k => k = .assertNotRunning ∨ k = .storeStarting ∨ k = .create
  | .stopTcp k => k ≠ .returned
  | .stopXmpp k => k ≠ .returned
  | _ => True

end ServerPlace

/-- The steps of the thread of the TCP server once it was asked to stop. -/
def TcpPlace.stage : TcpPlace → ℕ
  | .worker .assertStarting => 3
  | .worker .assertStopRequested => 2
  | .worker .unlessStarting => 1
  | .worker .storeRunning => 0
  | .startService => 8
  | .startServer => 7
  | .worker .ifRunning => 6
  | .worker (.forRunning _) => 5
  | .worker .whileRunning => 4
  | .stopServer => 3
  | .stopService => 2
  | .worker .storeWaitingForJoin => 1
  | .worker .returned => 0

/-- The steps of the thread of the XMPP client once it was asked to stop. -/
def XmppPlace.stage : XmppPlace → ℕ
  | .worker .assertStarting => 3
  | .worker .assertStopRequested => 2
  | .worker .unlessStarting => 1
  | .worker .storeRunning => 0
  | .newCtx => 10
  | .newConn => 9
  | .worker .ifRunning => 9
  | .worker (.forRunning _) => 8
  | .worker .whileRunning => 7
  | .assertConn => 6
  | .releaseConn => 5
  | .freeCtx => 4
  | .clearConn => 3
  | .clearCtx => 2
  | .worker .storeWaitingForJoin => 1
  | .worker .returned => 0

namespace Process

variable {ι : Type} {platform : Platform} {config : Configuration} {oracle : Oracle}
  {s s' : Process ι}

/-! ### The thread of the server -/

section Server

variable {place place' : ServerPlace}

theorem proper_first :
  first platform = .assertNotRunning ∨ first platform = .storeStarting
    ∨ first platform = .create
  := by
  rw [first]
  split
  · exact .inl rfl
  · exact .inr (.inl rfl)

/-- `start()` goes on, unless it has created the thread. -/
theorem step_start {k k' : Controller} {f f' : Fields}
    (hk : k = .assertNotRunning ∨ k = .storeStarting ∨ k = .create) (hne : k' ≠ .ifStarting)
    (hstep : Controller.step k f = some (k', f')) :
  k' = .assertNotRunning ∨ k' = .storeStarting ∨ k' = .create
  := starts_step hne hstep hk

theorem proper_serverStep (hplace : place.Proper)
    (h : serverStep platform config oracle place s = some (place', s')) :
  place'.Proper
  := by
  cases serverSteps h with
  | fails => exact hplace
  | loaded | startedTcp => exact proper_first
  | startsTcp hk hstep => exact step_start hplace hk hstep
  | startsXmpp hk hstep => exact step_start hplace hk hstep
  | stops | stoppedTcp | xmppStops => rintro ⟨⟩
  | stopsTcp hk | stopsXmpp hk => exact hk
  | _ => trivial

/-- The controller of a component that the thread of the server joins is there. -/
theorem controller_joins {t : Threads (Actor.Place (ι := ι)) (Process ι)} {c : Component}
    (hserver : t.locals .server = place) (hplace : place.joins = some c) :
  controller platform t c = .join
  := by
  cases place with
  | stopTcp k =>
      cases k with
      | join =>
          cases hplace
          exact congrArg (ServerPlace.tcp platform) hserver
      | _ => cases hplace
  | stopXmpp k =>
      cases k with
      | join =>
          cases hplace
          exact congrArg (ServerPlace.xmpp platform) hserver
      | _ => cases hplace
  | _ => cases hplace

end Server

/-! ### The other threads -/

section Others

variable {tcp tcp' : TcpPlace} {xmpp xmpp' : XmppPlace}

/-- A step of a handler that does not end the process: it receives a message, it finishes one,
or it makes a call. -/
theorem handlerStep_cases [DecidableEq ι] {i : ι} {place place' : Handler}
    (hok : s'.failed = false)
    (h : handlerStep platform config oracle i place s = some (place', s')) :
  (place.handler = none ∧ place'.handler ≠ none ∧ s'.handling = i :: s.handling
      ∧ place'.messages.length < place.messages.length)
    ∨ (place.handler ≠ none ∧ place'.handler = none ∧ s'.handling = s.handling.erase i
      ∧ place'.messages = place.messages)
    ∨ ∃ p p', place.handler = some p ∧ place'.handler = some p' ∧ Program.Rest p' p
      ∧ s'.handling = s.handling ∧ place'.messages = place.messages
  := by
  rcases place with ⟨_ | p, messages⟩
  · apply Or.inl
    cases messages with
    | nil => cases h
    | cons m messages =>
        rw [handlerStep] at h
        split at h
        · cases h
          exact ⟨rfl, by rintro ⟨⟩, rfl, Nat.lt_succ_self _⟩
        · cases h
  · apply Or.inr
    cases p with
    | pure a =>
        cases h
        exact .inl ⟨by rintro ⟨⟩, rfl, rfl, rfl⟩
    | throw e =>
        cases h
        cases hok
    | call c k =>
        apply Or.inr
        rw [handlerStep] at h
        split at h
        · cases h
          cases hok
        · cases h
          exact ⟨_, _, rfl, rfl, .call c k _, rfl, rfl⟩

end Others

end Process

end UwpxPush
