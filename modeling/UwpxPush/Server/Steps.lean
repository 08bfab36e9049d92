import UwpxPush.Server.Startup

/-!
# The steps of the server's thread

`ServerSteps s place place' s'` says in which ways the thread of the server gets from `place` to
`place'`, and what the process `s` becomes.  The function `serverStep` is unfolded here only.
-/

namespace UwpxPush

namespace Process

variable {ι : Type}

/-- What a step of the server's thread can do. -/
inductive ServerSteps (platform : Platform) (config : Configuration) (oracle : Oracle)
    (s : Process ι) : ServerPlace → ServerPlace → Process ι → Prop where
  /-- An assertion fails, an exception is not caught, or the context is not live. -/
  | fails {place : ServerPlace}
      (hplace : place = .init ∨ (∃ e, place = .loadTokenFromDb (.throw e))
        ∨ (∃ e, place = .checkSetupWns (.throw e)) ∨ place = .xmppStop) :
      ServerSteps platform config oracle s place place { s with failed := true }
  /-- The thread reads or writes the field. -/
  | works {w w' : Worker} {f : Fields} (hunless : w ≠ .unlessStarting)
      (hstore : w ≠ .storeRunning) (hwhile : w ≠ .whileRunning)
      (hstep : PushServer.threadRun w s.server = some (w', f)) :
      ServerSteps platform config oracle s (.worker w) (.worker w') { s with server := f }
  | enters (hstate : s.server.state = .starting) :
      ServerSteps platform config oracle s (.worker .unlessStarting) (.worker .storeRunning) s
  | leaves (hstate : s.server.state ≠ .starting) :
      ServerSteps platform config oracle s (.worker .unlessStarting) .left
        { s with server := { s.server with ended := true } }
  | runs :
      ServerSteps platform config oracle s (.worker .storeRunning) .init
        { s with server := { s.server with state := .running } }
  /-- The Redis client is initialised and handed to the WNS client. -/
  | inits :
      ServerSteps platform config oracle s .init .setRedisClient { s with redis := true }
  | setsRedisClient :
      ServerSteps platform config oracle s .setRedisClient
        (.loadTokenFromDb WnsClient.loadTokenFromDb) { s with wnsRedis := true }
  /-- The token is loaded. -/
  | loads (c : Call) (k : Except Failure c.Response → Server Unit) :
      ServerSteps platform config oracle s (.loadTokenFromDb (.call c k))
        (.loadTokenFromDb (k (World.perform oracle c s.world).1))
        { s with world := (World.perform oracle c s.world).2 }
  | loaded (a : Unit) :
      ServerSteps platform config oracle s (.loadTokenFromDb (.pure a))
        (.startTcp (first platform)) s
  /-- The components are started. -/
  | startsTcp {k k' : Controller} {f : Fields} (hk : k' ≠ .ifStarting)
      (hstep : Controller.step k s.tcp = some (k', f)) :
      ServerSteps platform config oracle s (.startTcp k) (.startTcp k') { s with tcp := f }
  | startedTcp {k : Controller} {f : Fields}
      (hstep : Controller.step k s.tcp = some (.ifStarting, f)) :
      ServerSteps platform config oracle s (.startTcp k) (.startXmpp (first platform))
        { s with tcp := f }
  | startsXmpp {k k' : Controller} {f : Fields} (hk : k' ≠ .ifStarting)
      (hstep : Controller.step k s.xmpp = some (k', f)) :
      ServerSteps platform config oracle s (.startXmpp k) (.startXmpp k') { s with xmpp := f }
  | startedXmpp {k : Controller} {f : Fields}
      (hstep : Controller.step k s.xmpp = some (.ifStarting, f)) :
      ServerSteps platform config oracle s (.startXmpp k) (.worker .whileRunning)
        { s with xmpp := f }
  /-- The loop checks the token until the server is not running. -/
  | loops (hstate : s.server.state = .running) :
      ServerSteps platform config oracle s (.worker .whileRunning)
        (.checkSetupWns (PushServer.checkSetupWns platform config)) s
  | checks (c : Call) (k : Except Failure c.Response → Server Unit) :
      ServerSteps platform config oracle s (.checkSetupWns (.call c k))
        (.checkSetupWns (k (World.perform oracle c s.world).1))
        { s with world := (World.perform oracle c s.world).2 }
  | checked (a : Unit) :
      ServerSteps platform config oracle s (.checkSetupWns (.pure a)) (.worker .whileRunning) s
  | stops (hstate : s.server.state ≠ .running) :
      ServerSteps platform config oracle s (.worker .whileRunning) (.stopTcp .ifStarting) s
  /-- The components are stopped. -/
  | stopsTcp {k k' : Controller} {f : Fields} (hk : k' ≠ .returned)
      (hstep : Controller.step k s.tcp = some (k', f)) :
      ServerSteps platform config oracle s (.stopTcp k) (.stopTcp k') { s with tcp := f }
  | stoppedTcp {k : Controller} {f : Fields}
      (hstep : Controller.step k s.tcp = some (.returned, f)) :
      ServerSteps platform config oracle s (.stopTcp k) (.stopXmpp .ifStarting)
        { s with tcp := f }
  | stopsXmpp {k k' : Controller} {f : Fields} (hk : k' ≠ .returned)
      (hstep : Controller.step k s.xmpp = some (k', f)) :
      ServerSteps platform config oracle s (.stopXmpp k) (.stopXmpp k') { s with xmpp := f }
  | requestsXmppStop :
      ServerSteps platform config oracle s (.stopXmpp .storeStopRequested) .xmppStop
        { s with xmpp := { s.xmpp with state := .stopRequested } }
  | xmppStops (hctx : s.ctx = .live) :
      ServerSteps platform config oracle s .xmppStop (.stopXmpp .join) s
  | stoppedXmpp {k : Controller} {f : Fields}
      (hstep : Controller.step k s.xmpp = some (.returned, f)) :
      ServerSteps platform config oracle s (.stopXmpp k) (.worker .storeWaitingForJoin)
        { s with xmpp := f }

variable {platform : Platform} {config : Configuration} {oracle : Oracle}
  {place place' : ServerPlace} {s s' : Process ι}

/-- The steps that read or write the field. -/
theorem serverSteps_worker {w : Worker}
    (h : serverStep platform config oracle (.worker w) s = some (place', s')) :
  ServerSteps platform config oracle s (.worker w) place' s'
  := by
  cases w with
  | unlessStarting =>
      rw [serverStep] at h
      split at h
      · next hstate =>
          cases h
          exact .enters hstate
      · next hstate =>
          cases h
          exact .leaves hstate
  | storeRunning =>
      cases h
      exact .runs
  | whileRunning =>
      cases h
      split
      · next hstate => exact .loops hstate
      · next hstate => exact .stops hstate
  | _ =>
      rw [serverStep] at h
      · obtain ⟨⟨w', f⟩, hstep, heq⟩ := Option.map_eq_some_iff.mp h
        cases heq
        exact .works (by rintro ⟨⟩) (by rintro ⟨⟩) (by rintro ⟨⟩) hstep
      all_goals rintro ⟨⟩

/-- Every step of the server's thread is one of these. -/
theorem serverSteps (h : serverStep platform config oracle place s = some (place', s')) :
  ServerSteps platform config oracle s place place' s'
  := by
  cases place with
  | worker w => exact serverSteps_worker h
  | left => cases h
  | init =>
      rw [serverStep] at h
      split at h
      · cases h
        exact .fails (.inl rfl)
      · cases h
        exact .inits
  | setRedisClient =>
      cases h
      exact .setsRedisClient
  | loadTokenFromDb p =>
      cases p with
      | pure a =>
          cases h
          exact .loaded a
      | throw e =>
          cases h
          exact .fails (.inr (.inl ⟨e, rfl⟩))
      | call c k =>
          cases h
          exact .loads c k
  | startTcp k =>
      obtain ⟨⟨k', f⟩, hstep, heq⟩ := Option.map_eq_some_iff.mp h
      cases heq
      split
      · next hk => exact .startedTcp (hk ▸ hstep)
      · next hk => exact .startsTcp hk hstep
  | startXmpp k =>
      obtain ⟨⟨k', f⟩, hstep, heq⟩ := Option.map_eq_some_iff.mp h
      cases heq
      split
      · next hk => exact .startedXmpp (hk ▸ hstep)
      · next hk => exact .startsXmpp hk hstep
  | checkSetupWns p =>
      cases p with
      | pure a =>
          cases h
          exact .checked a
      | throw e =>
          cases h
          exact .fails (.inr (.inr (.inl ⟨e, rfl⟩)))
      | call c k =>
          cases h
          exact .checks c k
  | stopTcp k =>
      obtain ⟨⟨k', f⟩, hstep, heq⟩ := Option.map_eq_some_iff.mp h
      cases heq
      split
      · next hk => exact .stoppedTcp (hk ▸ hstep)
      · next hk => exact .stopsTcp hk hstep
  | stopXmpp k =>
      obtain ⟨⟨k', f⟩, hstep, heq⟩ := Option.map_eq_some_iff.mp h
      cases heq
      split
      · next hk =>
          subst hk
          cases hstep
          exact .requestsXmppStop
      · split
        · next hk => exact .stoppedXmpp (hk ▸ hstep)
        · next hk => exact .stopsXmpp hk hstep
  | xmppStop =>
      rw [serverStep] at h
      split at h
      · next hctx =>
          cases h
          exact .xmppStops hctx
      · cases h
        exact .fails (.inr (.inr (.inr rfl)))

end Process

end UwpxPush
