import UwpxPush.Run.Basic
import UwpxPush.Server.Steps

/-!
# The order of starting and stopping

The Redis client is initialised, and the WNS client has it, before the service hands out the
first message.  The service has stopped before the XMPP client is asked to stop, so no handler
meets a connection that is being released.  But nothing makes the service, or a request to
stop, wait for `setup_xmpp`, and nothing makes `cleanup_xmpp` wait for the call of `xmpp_stop`:
the context and the connection are live where they are used as long as none of the three
happens.
-/

namespace UwpxPush

/-! ### Places -/

/-- The thread has not stored `RUNNING` yet. -/
def Worker.isEntry : Worker → Bool
  | .assertStarting => true
  | .assertStopRequested => true
  | .unlessStarting => true
  | .storeRunning => true
  | _ => false

/-- The thread is in its loop. -/
def Worker.isLooping : Worker → Bool
  | .whileRunning => true
  | .ifRunning => true
  | .forRunning _ => true
  | _ => false

/-- A step that neither stores `RUNNING` nor tests the condition of the loop stays in the loop
or out of it. -/
theorem Worker.isLooping_step {body w w' : Worker} {f f' : Fields} (hstore : w ≠ .storeRunning)
    (hwhile : w ≠ .whileRunning) (h : Worker.step body w f = some (w', f')) :
  w'.isLooping = w.isLooping ∧ w' ≠ .storeWaitingForJoin
  := by
  cases w with
  | assertStarting =>
      cases h
      split
      · use rfl
        rintro ⟨⟩
      · use rfl
        rintro ⟨⟩
  | assertStopRequested =>
      rw [Worker.step] at h
      split at h
      · cases h
        use rfl
        rintro ⟨⟩
      · cases h
        use rfl
        rintro ⟨⟩
  | unlessStarting =>
      rw [Worker.step] at h
      split at h
      · cases h
        use rfl
        rintro ⟨⟩
      · cases h
        use rfl
        rintro ⟨⟩
  | storeRunning => exact (hstore rfl).elim
  | whileRunning => exact (hwhile rfl).elim
  | ifRunning =>
      cases h
      use rfl
      rintro ⟨⟩
  | forRunning i =>
      cases h
      split
      · use rfl
        rintro ⟨⟩
      · use rfl
        rintro ⟨⟩
  | storeWaitingForJoin =>
      cases h
      use rfl
      rintro ⟨⟩
  | returned => cases h

/-- Before the controller waits for the thread, the component is still starting. -/
theorem Sound.isStarting {k : Controller} {w : Worker} {f : Fields} (h : Sound k w f)
    (hjoin : k ≠ .join) (hstore : k ≠ .storeNotRunning) (hreturned : k ≠ .returned) :
  Starting k w f
  := by
  rcases h with h | h | h
  · apply h
  · cases h with
    | asked _ _ => exact (hjoin rfl).elim
    | ended hk _ _ =>
        rcases hk with hk | hk | hk
        · exact (hjoin hk).elim
        · exact (hstore hk).elim
        · exact (hreturned hk).elim
  · cases h with
    | overwriting => exact (hjoin rfl).elim
    | overwritten _ => exact (hjoin rfl).elim

/-- A thread that is starting has not stored `RUNNING`, or is in its loop. -/
theorem Starting.entry_or_looping {k : Controller} {w : Worker} {f : Fields}
    (h : Starting k w f) :
  w.isEntry = true ∨ w.isLooping = true
  := by
  cases h with
  | assertNotRunning hw => rcases hw with rfl | rfl <;> exact .inl rfl
  | storeStarting hw => rcases hw with rfl | rfl <;> exact .inl rfl
  | create hw => rcases hw with rfl | rfl <;> exact .inl rfl
  | early hk hw => rcases hw with rfl | rfl | rfl <;> exact .inl rfl
  | looping hk hw => rcases hw with rfl | rfl | ⟨i, rfl⟩ <;> exact .inr rfl

/-- Before `start()` the thread has done nothing. -/
theorem Sound.isEntry {platform : Platform} {w : Worker} {f : Fields}
    (h : Sound (Process.first platform) w f) :
  w.isEntry = true
  := by
  revert h
  unfold Process.first
  split
  · intro h
    cases h.isStarting nofun nofun nofun with
    | assertNotRunning hw => rcases hw with rfl | rfl <;> rfl
    | early hk hw => exact nomatch hk
    | looping hk hw => exact nomatch hk
  · intro h
    cases h.isStarting nofun nofun nofun with
    | storeStarting hw => rcases hw with rfl | rfl <;> rfl
    | early hk hw => exact nomatch hk
    | looping hk hw => exact nomatch hk

/-- After `stop()` the thread has returned. -/
theorem Sound.returned {w : Worker} {f : Fields} (h : Sound .returned w f) :
  w = .returned
  := by
  rcases h with h | h | h
  · cases h with
    | early hk hw => exact nomatch hk
    | looping hk hw => exact nomatch hk
  · cases h with
    | ended hk hf hended => rfl
  · cases h

namespace ServerPlace

variable (platform : Platform)

/-- Where the server's thread is in `start()` and `stop()` of the TCP server. -/
def tcp : ServerPlace → Controller
  | .worker .whileRunning => .ifStarting
  | .worker .ifRunning => .ifStarting
  | .worker (.forRunning _) => .ifStarting
  | .worker .storeWaitingForJoin => .returned
  | .worker .returned => .returned
  | .startTcp k => k
  | .startXmpp _ => .ifStarting
  | .checkSetupWns _ => .ifStarting
  | .stopTcp k => k
  | .stopXmpp _ => .returned
  | .xmppStop => .returned
  | _ => Process.first platform

/-- Where the server's thread is in `start()` and `stop()` of the XMPP client. -/
def xmpp : ServerPlace → Controller
  | .worker .whileRunning => .ifStarting
  | .worker .ifRunning => .ifStarting
  | .worker (.forRunning _) => .ifStarting
  | .worker .storeWaitingForJoin => .returned
  | .worker .returned => .returned
  | .startXmpp k => k
  | .checkSetupWns _ => .ifStarting
  | .stopTcp _ => .ifStarting
  | .stopXmpp k => k
  | .xmppStop => .join
  | _ => Process.first platform

/-- The Redis client is initialised. -/
def hasRedis : ServerPlace → Bool
  | .worker w => !w.isEntry
  | .left => false
  | .init => false
  | _ => true

/-- The WNS client has its Redis client. -/
def hasWnsRedis : ServerPlace → Bool
  | .setRedisClient => false
  | place => place.hasRedis

/-- `xmpp_stop(ctx)` is next. -/
def isXmppStop : ServerPlace → Bool
  | .xmppStop => true
  | _ => false

/-- A place in `xmppClient.start()` is one before the thread was created. -/
def Starts : ServerPlace → Prop
  | .startXmpp k => k = .assertNotRunning ∨ k = .storeStarting ∨ k = .create
  | _ => True

end ServerPlace

/-- What the thread of the TCP server does next with the field. -/
def TcpPlace.toWorker : TcpPlace → Worker
  | .worker w => w
  | .startService => .whileRunning
  | .startServer => .whileRunning
  | .stopServer => .storeWaitingForJoin
  | .stopService => .storeWaitingForJoin

/-- The service may hand out messages. -/
def TcpPlace.serves : TcpPlace → Bool
  | .worker .whileRunning => true
  | .stopServer => true
  | .stopService => true
  | _ => false

namespace XmppPlace

/-- What the thread of the XMPP client does next with the field. -/
def toWorker : XmppPlace → Worker
  | .worker w => w
  | .newCtx => .whileRunning
  | .newConn => .whileRunning
  | _ => .storeWaitingForJoin

/-- What the connection is. -/
def conn : XmppPlace → Pointer
  | .worker w => if w.isLooping then .live else .null
  | .assertConn => .live
  | .releaseConn => .live
  | .freeCtx => .released
  | .clearConn => .released
  | _ => .null

/-- What the context is. -/
def ctx : XmppPlace → Pointer
  | .worker w => if w.isLooping then .live else .null
  | .newConn => .live
  | .assertConn => .live
  | .releaseConn => .live
  | .freeCtx => .live
  | .clearConn => .released
  | .clearCtx => .released
  | _ => .null

/-- `setup_xmpp` has created the connection, or the thread has returned before it. -/
def hasConn : XmppPlace → Bool
  | .worker w => !w.isEntry
  | .newCtx => false
  | .newConn => false
  | _ => true

/-- `setup_xmpp` has created the context, and the thread has not returned. -/
def hasCtx : XmppPlace → Bool
  | .worker .returned => false
  | .worker w => !w.isEntry
  | .newCtx => false
  | _ => true

/-- The context has been released, and the thread has not returned. -/
def isFreed : XmppPlace → Bool
  | .clearConn => true
  | .clearCtx => true
  | .worker .storeWaitingForJoin => true
  | _ => false

end XmppPlace

/-- The next call of the handler is one with the connection. -/
def Handler.usesConnection : Handler → Bool
  | ⟨some (.call c _), _⟩ => c.usesConnection
  | _ => false

theorem Handler.ne_none {place : Handler} (h : place.usesConnection = true) :
  place.handler ≠ none
  := by
  rcases place with ⟨_ | p, messages⟩
  · cases h
  · nofun

namespace Process

variable {ι : Type} {platform : Platform} {config : Configuration}
  {oracle : Oracle}

/-! ### What every step keeps -/

/-- How far the controller of a component gets in a step of another thread. -/
def Follows (k : Controller) (f : Fields) (k' : Controller) (f' : Fields) : Prop :=
  k' = k ∧ f' = f ∨ Controller.step k f = some (k', f')

/-- What the server's thread leaves as it is: the context, the connection and the service. -/
def resources (s : Process ι) : Pointer × Pointer × Bool × List ι :=
  (s.conn, s.ctx, s.serving, s.handling)

/-- Where a place is not of a kind, nothing has to hold. -/
theorem of_false {b : Bool} {P : Prop} (hb : b = false) (h : b = true) :
  P
  := by
  rw [hb] at h
  cases h

/-- What a step of the server's thread is for the components it starts and stops. -/
structure ServerMoves (platform : Platform) (place : ServerPlace) (s : Process ι)
    (place' : ServerPlace) (s' : Process ι) : Prop where
  tcp : Follows (place.tcp platform) s.tcp (place'.tcp platform) s'.tcp
  xmpp : Follows (place.xmpp platform) s.xmpp (place'.xmpp platform) s'.xmpp
  starts : place.Starts → place'.Starts
  redis : (place.hasRedis = true → s.redis = true) → place'.hasRedis = true → s'.redis = true
  wnsRedis : (place.hasWnsRedis = true → s.wnsRedis = true) →
    place'.hasWnsRedis = true → s'.wnsRedis = true
  stops : place'.isXmppStop = true → place.isXmppStop = true ∨ place = .stopXmpp .storeStopRequested
  keeps : s'.resources = s.resources

/-- A step that starts and stops nothing. -/
theorem ServerMoves.of_keeps {place place' : ServerPlace} {s s' : Process ι}
    (htcp : place'.tcp platform = place.tcp platform) (htcp' : s'.tcp = s.tcp)
    (hxmpp : place'.xmpp platform = place.xmpp platform) (hxmpp' : s'.xmpp = s.xmpp)
    (hstarts : place'.Starts)
    (hredis : (place.hasRedis = true → s.redis = true) →
      place'.hasRedis = true → s'.redis = true)
    (hwns : (place.hasWnsRedis = true → s.wnsRedis = true) →
      place'.hasWnsRedis = true → s'.wnsRedis = true)
    (hstop : place'.isXmppStop = true → place.isXmppStop = true)
    (hkeeps : s'.resources = s.resources) :
  ServerMoves platform place s place' s'
  := ⟨.inl ⟨htcp, htcp'⟩, .inl ⟨hxmpp, hxmpp'⟩, fun _ => hstarts, hredis, hwns,
    fun h => .inl (hstop h), hkeeps⟩

/-- A step to a place where the server holds nothing and stops nothing. -/
theorem ServerMoves.of_nothing {place place' : ServerPlace} {s s' : Process ι}
    (htcp : place'.tcp platform = place.tcp platform) (htcp' : s'.tcp = s.tcp)
    (hxmpp : place'.xmpp platform = place.xmpp platform) (hxmpp' : s'.xmpp = s.xmpp)
    (hstarts : place'.Starts) (hredis : place'.hasRedis = false)
    (hwns : place'.hasWnsRedis = false) (hstop : place'.isXmppStop = false)
    (hkeeps : s'.resources = s.resources) :
  ServerMoves platform place s place' s'
  := .of_keeps htcp htcp' hxmpp hxmpp' hstarts (fun _ => of_false hredis)
    (fun _ => of_false hwns) (of_false hstop) hkeeps

theorem starts_first :
  (ServerPlace.startXmpp (first platform)).Starts
  := by
  unfold first
  split
  · exact .inl rfl
  · exact .inr (.inl rfl)

section Moves

variable {place' : ServerPlace} {s s' : Process ι}

variable (platform) in
/-- Reading or writing the field, the thread starts and stops nothing. -/
theorem works_same {w w' : Worker} {f : Fields} (hunless : w ≠ .unlessStarting)
    (hstore : w ≠ .storeRunning) (hwhile : w ≠ .whileRunning)
    (hstep : PushServer.threadRun w s.server = some (w', f)) :
  (ServerPlace.worker w').tcp platform = (ServerPlace.worker w).tcp platform
    ∧ (ServerPlace.worker w').xmpp platform = (ServerPlace.worker w).xmpp platform
    ∧ w'.isEntry = w.isEntry
  := by
  cases w with
  | unlessStarting => exact (hunless rfl).elim
  | storeRunning => exact (hstore rfl).elim
  | whileRunning => exact (hwhile rfl).elim
  | assertStarting =>
      cases hstep
      split <;> exact ⟨rfl, rfl, rfl⟩
  | assertStopRequested =>
      rw [PushServer.threadRun, Worker.step] at hstep
      split at hstep
      · cases hstep
        exact ⟨rfl, rfl, rfl⟩
      · cases hstep
        exact ⟨rfl, rfl, rfl⟩
  | forRunning i =>
      cases hstep
      split <;> exact ⟨rfl, rfl, rfl⟩
  | returned => cases hstep
  | _ =>
      cases hstep
      exact ⟨rfl, rfl, rfl⟩

/-- The thread reads or writes the field of the server. -/
theorem serverMoves_works {w w' : Worker} {f : Fields} (hunless : w ≠ .unlessStarting)
    (hstore : w ≠ .storeRunning) (hwhile : w ≠ .whileRunning)
    (hstep : PushServer.threadRun w s.server = some (w', f)) :
  ServerMoves platform (.worker w) s (.worker w') { s with server := f }
  := by
  obtain ⟨htcp, hxmpp, hentry⟩ := works_same platform hunless hstore hwhile hstep
  have hredis : (ServerPlace.worker w').hasRedis = (ServerPlace.worker w).hasRedis :=
    congrArg not hentry
  constructor
  · exact .inl ⟨htcp, rfl⟩
  · exact .inl ⟨hxmpp, rfl⟩
  · exact id
  · rw [hredis]
    exact id
  · change (_ → s.wnsRedis = true) → (ServerPlace.worker w').hasRedis = true → s.wnsRedis = true
    rw [hredis]
    exact id
  · exact of_false rfl
  · rfl

/-- `xmppClient.start()` goes on, or has created the thread. -/
theorem starts_step {k k' : Controller} {f f' : Fields} (hk : k' ≠ .ifStarting)
    (hstep : Controller.step k f = some (k', f')) (h : (ServerPlace.startXmpp k).Starts) :
  (ServerPlace.startXmpp k').Starts
  := by
  rcases h with rfl | rfl | rfl
  · rw [Controller.step] at hstep
    split at hstep
    · cases hstep
      exact .inr (.inl rfl)
    · cases hstep
      exact .inl rfl
  · cases hstep
    exact .inr (.inr rfl)
  · cases hstep
    exact (hk rfl).elim

/-- What every step of the server's thread is for the components. -/
theorem serverMoves {place : ServerPlace}
    (h : serverStep platform config oracle place s = some (place', s')) :
  ServerMoves platform place s place' s'
  := by
  cases serverSteps h with
  | fails => exact ⟨.inl ⟨rfl, rfl⟩, .inl ⟨rfl, rfl⟩, id, id, id, .inl, rfl⟩
  | works hunless hstore hwhile hstep => exact serverMoves_works hunless hstore hwhile hstep
  | enters | leaves | runs => exact .of_nothing rfl rfl rfl rfl trivial rfl rfl rfl rfl
  | inits =>
      exact .of_keeps rfl rfl rfl rfl trivial (fun _ _ => rfl) (fun _ => of_false rfl)
        (of_false rfl) rfl
  | setsRedisClient =>
      exact .of_keeps rfl rfl rfl rfl trivial id (fun _ _ => rfl) (of_false rfl) rfl
  | startsTcp hk hstep =>
      exact ⟨.inr hstep, .inl ⟨rfl, rfl⟩, id, id, id, of_false rfl, rfl⟩
  | startedTcp hstep =>
      exact ⟨.inr hstep, .inl ⟨rfl, rfl⟩, fun _ => starts_first, id, id, of_false rfl, rfl⟩
  | startsXmpp hk hstep =>
      exact ⟨.inl ⟨rfl, rfl⟩, .inr hstep, starts_step hk hstep, id, id, of_false rfl, rfl⟩
  | stopsTcp hk hstep =>
      exact ⟨.inr hstep, .inl ⟨rfl, rfl⟩, fun _ => trivial, id, id, of_false rfl, rfl⟩
  | stoppedTcp hstep =>
      exact ⟨.inr hstep, .inl ⟨rfl, rfl⟩, fun _ => trivial, id, id, of_false rfl, rfl⟩
  | startedXmpp hstep | stoppedXmpp hstep =>
      exact ⟨.inl ⟨rfl, rfl⟩, .inr hstep, fun _ => trivial, id, id, of_false rfl, rfl⟩
  | stopsXmpp hk hstep =>
      exact ⟨.inl ⟨rfl, rfl⟩, .inr hstep, fun _ => trivial, id, id, of_false rfl, rfl⟩
  | requestsXmppStop =>
      exact ⟨.inl ⟨rfl, rfl⟩, .inr rfl, fun _ => trivial, id, id, fun _ => .inr rfl, rfl⟩
  | _ => exact .of_keeps rfl rfl rfl rfl trivial id id (of_false rfl) rfl

end Moves

/-- What a step of the thread of the TCP server is. -/
structure TcpMoves (place : TcpPlace) (s : Process ι) (place' : TcpPlace) (s' : Process ι) :
    Prop where
  worker : place'.toWorker = place.toWorker ∧ s'.tcp = s.tcp
    ∨ TcpServer.threadRun place.toWorker s.tcp = some (place'.toWorker, s'.tcp)
  serves : (s.serving = true ∨ s.handling ≠ [] → place.serves = true) →
    s'.serving = true ∨ s'.handling ≠ [] → place'.serves = true
  keeps : s' = { s with tcp := s'.tcp, serving := s'.serving }

theorem tcpMoves {place place' : TcpPlace} {s s' : Process ι}
    (h : tcpStep place s = some (place', s')) :
  TcpMoves place s place' s'
  := by
  cases place with
  | worker w =>
      by_cases hw : w = .storeRunning ∨ w = .whileRunning
      · rcases hw with rfl | rfl
        · cases h
          exact ⟨.inr rfl, fun h hs => of_false rfl (h hs), rfl⟩
        · cases h
          refine ⟨.inr ?_, ?_, rfl⟩
          · apply congrArg some
            split
            · rfl
            · rfl
          · intro _ _
            split
            · rfl
            · rfl
      · obtain ⟨hstore, hwhile⟩ := not_or.mp hw
        have hstep : tcpStep (.worker w) s
            = (TcpServer.threadRun w s.tcp).map fun p => (.worker p.1, { s with tcp := p.2 }) := by
          cases w with
          | storeRunning => exact (hstore rfl).elim
          | whileRunning => exact (hwhile rfl).elim
          | _ => rfl
        rw [hstep] at h
        obtain ⟨⟨w', tcp⟩, hrun, heq⟩ := Option.map_eq_some_iff.mp h
        cases heq
        refine ⟨.inr hrun, ?_, rfl⟩
        intro h hs
        cases w with
        | whileRunning => exact (hwhile rfl).elim
        | _ => exact of_false rfl (h hs)
  | startService =>
      cases h
      exact ⟨.inl ⟨rfl, rfl⟩, fun h hs => of_false rfl (h hs), rfl⟩
  | startServer =>
      cases h
      exact ⟨.inl ⟨rfl, rfl⟩, fun _ _ => rfl, rfl⟩
  | stopServer =>
      cases h
      exact ⟨.inl ⟨rfl, rfl⟩, fun _ _ => rfl, rfl⟩
  | stopService =>
      rw [tcpStep] at h
      split at h
      · next hnil =>
          cases h
          refine ⟨.inl ⟨rfl, rfl⟩, ?_, rfl⟩
          rintro - (hs | hs)
          · cases hs
          · exact (hs hnil).elim
      · cases h

/-- What a step of the thread of the XMPP client is. -/
structure XmppMoves (place : XmppPlace) (s : Process ι) (place' : XmppPlace) (s' : Process ι) :
    Prop where
  worker : place'.toWorker = place.toWorker ∧ s'.xmpp = s.xmpp
    ∨ XmppClient.threadRun place.toWorker s.xmpp = some (place'.toWorker, s'.xmpp)
  conn : s.conn = place.conn → s'.conn = place'.conn
  ctx : s.ctx = place.ctx → s'.ctx = place'.ctx
  frees : place'.isFreed = true → place.isFreed = true ∨ place = .freeCtx
  keeps : ∃ failed,
    s' = { s with xmpp := s'.xmpp, conn := s'.conn, ctx := s'.ctx, failed }

theorem xmppMoves {place place' : XmppPlace} {s s' : Process ι}
    (h : xmppStep platform place s = some (place', s')) :
  XmppMoves place s place' s'
  := by
  cases place with
  | worker w =>
      by_cases hw : w = .storeRunning ∨ w = .whileRunning
      · rcases hw with rfl | rfl
        · cases h
          exact ⟨.inr rfl, id, id, of_false rfl, _, rfl⟩
        · cases h
          split
          · next hrunning =>
              refine ⟨.inr (congrArg some ?_), id, id, of_false rfl, _, rfl⟩
              rw [if_pos hrunning]
              rfl
          · next hrunning =>
              refine ⟨.inr (congrArg some ?_), id, id, of_false rfl, _, rfl⟩
              rw [if_neg hrunning]
              rfl
      · obtain ⟨hstore, hwhile⟩ := not_or.mp hw
        have hstep : xmppStep platform (.worker w) s
            = (XmppClient.threadRun w s.xmpp).map fun p =>
              (.worker p.1, { s with xmpp := p.2 }) := by
          cases w with
          | storeRunning => exact (hstore rfl).elim
          | whileRunning => exact (hwhile rfl).elim
          | _ => rfl
        rw [hstep] at h
        obtain ⟨⟨w', xmpp⟩, hrun, heq⟩ := Option.map_eq_some_iff.mp h
        cases heq
        obtain ⟨hlooping, hne⟩ := Worker.isLooping_step hstore hwhile hrun
        refine ⟨.inr hrun, ?_, ?_, ?_, _, rfl⟩
        · intro hconn
          rw [XmppPlace.conn, hlooping]
          apply hconn
        · intro hctx
          rw [XmppPlace.ctx, hlooping]
          apply hctx
        · intro hfreed
          cases w' with
          | storeWaitingForJoin => exact (hne rfl).elim
          | _ => cases hfreed
  | newCtx =>
      cases h
      exact ⟨.inl ⟨rfl, rfl⟩, id, fun _ => rfl, of_false rfl, _, rfl⟩
  | newConn =>
      cases h
      exact ⟨.inl ⟨rfl, rfl⟩, fun _ => rfl, id, of_false rfl, _, rfl⟩
  | assertConn =>
      rw [xmppStep] at h
      split at h
      · cases h
        exact ⟨.inl ⟨rfl, rfl⟩, id, id, of_false rfl, _, rfl⟩
      · cases h
        exact ⟨.inl ⟨rfl, rfl⟩, id, id, of_false rfl, _, rfl⟩
  | releaseConn =>
      cases h
      exact ⟨.inl ⟨rfl, rfl⟩, fun _ => rfl, id, of_false rfl, _, rfl⟩
  | freeCtx =>
      cases h
      exact ⟨.inl ⟨rfl, rfl⟩, id, fun _ => rfl, fun _ => .inr rfl, _, rfl⟩
  | clearConn =>
      cases h
      exact ⟨.inl ⟨rfl, rfl⟩, fun _ => rfl, id, fun _ => .inl rfl, _, rfl⟩
  | clearCtx =>
      cases h
      exact ⟨.inl ⟨rfl, rfl⟩, id, fun _ => rfl, fun _ => .inl rfl, _, rfl⟩

/-- What a step of a thread of the service is. -/
structure HandlerMoves (i : ι) (place : Handler) (s : Process ι) (place' : Handler)
    (s' : Process ι) : Prop where
  others : ∀ j, j ≠ i → j ∈ s.handling → j ∈ s'.handling
  self : (place.handler ≠ none → i ∈ s.handling) → place'.handler ≠ none → i ∈ s'.handling
  serves : s'.handling ≠ [] → s.serving = true ∨ s.handling ≠ []
  keeps : s' = { s with handling := s'.handling, failed := s'.failed, world := s'.world }

theorem handlerMoves [DecidableEq ι] {i : ι} {place place' : Handler} {s s' : Process ι}
    (h : handlerStep platform config oracle i place s = some (place', s')) :
  HandlerMoves i place s place' s'
  := by
  rcases place with ⟨_ | p, messages⟩
  · cases messages with
    | nil => cases h
    | cons m messages =>
        rw [handlerStep] at h
        split at h
        · next hserving =>
            cases h
            refine ⟨?_, fun _ _ => List.mem_cons_self, fun _ => .inl hserving, rfl⟩
            intro j _ hj
            apply List.mem_cons_of_mem i hj
        · cases h
  · cases p with
    | pure a =>
        cases h
        refine ⟨?_, fun _ hnone => (hnone rfl).elim, ?_, rfl⟩
        · intro j hne hj
          apply (List.mem_erase_of_ne hne).mpr hj
        · intro herase
          apply Or.inr
          intro hnil
          rw [hnil] at herase
          exact herase rfl
    | throw e =>
        cases h
        exact ⟨fun _ _ => id, fun h _ => h nofun, .inr, rfl⟩
    | call c k =>
        rw [handlerStep] at h
        split at h
        · cases h
          exact ⟨fun _ _ => id, fun h _ => h nofun, .inr, rfl⟩
        · cases h
          exact ⟨fun _ _ => id, fun h _ => h nofun, .inr, rfl⟩

/-! ### Whole runs -/

/-- What holds of the threads together, whatever their order. -/
structure Ordered (platform : Platform) (server : ServerPlace) (tcp : TcpPlace)
    (xmpp : XmppPlace) (handlers : ι → Handler) (s : Process ι) : Prop where
  soundTcp : Sound (server.tcp platform) tcp.toWorker s.tcp
  soundXmpp : Sound (server.xmpp platform) xmpp.toWorker s.xmpp
  starts : server.Starts
  redis : server.hasRedis = true → s.redis = true
  wnsRedis : server.hasWnsRedis = true → s.wnsRedis = true
  serves : s.serving = true ∨ s.handling ≠ [] → tcp.serves = true
  handling : ∀ i, (handlers i).handler ≠ none → i ∈ s.handling
  conn : s.conn = xmpp.conn
  ctx : s.ctx = xmpp.ctx

/-- The threads of the process are in order. -/
abbrev InOrder (platform : Platform) (t : Threads (Actor.Place (ι := ι)) (Process ι)) : Prop :=
  Ordered platform (t.locals .server) (t.locals .tcp) (t.locals .xmpp)
    (fun i => t.locals (.handler i)) t.shared

theorem Follows.sound {k k' : Controller} {w : Worker} {f f' : Fields}
    (h : Follows k f k' f') (hsound : Sound k w f) :
  Sound k' w f'
  := by
  rcases h with ⟨rfl, rfl⟩ | hstep
  · apply hsound
  · apply hsound.controller hstep

theorem Ordered.initial (messages : ι → List String) (changes : List Bool) (world : World) :
  InOrder platform (initial platform messages changes world)
  := by
  have hsound : ∀ w : Worker, w = .assertStarting ∨ w = .unlessStarting →
      Sound (first platform) w ⟨.notRunning, false, false, false⟩ := by
    intro w hw
    apply Or.inl
    unfold first
    split
    · exact .assertNotRunning hw
    · exact .storeStarting hw
  have hnot : ∀ i : ι, (⟨none, messages i⟩ : Handler).handler ≠ none → i ∈ ([] : List ι) :=
    fun i h => (h rfl).elim
  have hserves : ∀ place : TcpPlace, false = true ∨ ([] : List ι) ≠ [] → place.serves = true := by
    rintro place (h | h)
    · cases h
    · exact (h rfl).elim
  cases hdebug : platform.debug with
  | false =>
      simp only [InOrder, Process.initial, hdebug]
      exact ⟨hsound _ (.inr rfl), hsound _ (.inr rfl), trivial, nofun, nofun, hserves _, hnot, rfl,
        rfl⟩
  | true =>
      simp only [InOrder, Process.initial, hdebug]
      exact ⟨hsound _ (.inl rfl), hsound _ (.inl rfl), trivial, nofun, nofun, hserves _, hnot, rfl,
        rfl⟩

section Steps

variable {server server' : ServerPlace} {tcp tcp' : TcpPlace} {xmpp xmpp' : XmppPlace}
  {handlers : ι → Handler} {s s' : Process ι}

theorem Ordered.serverStep (h : Ordered platform server tcp xmpp handlers s)
    (hstep : serverStep platform config oracle server s = some (server', s')) :
  Ordered platform server' tcp xmpp handlers s'
  := by
  have hmoves := serverMoves hstep
  obtain ⟨hconn, hctx, hserving, hhandling⟩ : s'.conn = s.conn ∧ s'.ctx = s.ctx
      ∧ s'.serving = s.serving ∧ s'.handling = s.handling := by
    simpa only [resources, Prod.mk.injEq] using hmoves.keeps
  constructor
  · apply hmoves.tcp.sound h.soundTcp
  · apply hmoves.xmpp.sound h.soundXmpp
  · apply hmoves.starts h.starts
  · apply hmoves.redis h.redis
  · apply hmoves.wnsRedis h.wnsRedis
  · rw [hserving, hhandling]
    apply h.serves
  · rw [hhandling]
    apply h.handling
  · rw [hconn, h.conn]
  · rw [hctx, h.ctx]

theorem Ordered.tcpStep (h : Ordered platform server tcp xmpp handlers s)
    (hcreated : s.tcp.created = true) (hstep : tcpStep tcp s = some (tcp', s')) :
  Ordered platform server tcp' xmpp handlers s'
  := by
  have hmoves := tcpMoves hstep
  have hsound : Sound (server.tcp platform) tcp'.toWorker s'.tcp := by
    rcases hmoves.worker with ⟨hworker, hfields⟩ | hrun
    · rw [hworker, hfields]
      apply h.soundTcp
    · exact Sound.worker (c := .tcpServer) h.soundTcp hcreated hrun
  have hserves := hmoves.serves h.serves
  rw [hmoves.keeps] at hsound hserves ⊢
  exact ⟨hsound, h.soundXmpp, h.starts, h.redis, h.wnsRedis, hserves, h.handling, h.conn, h.ctx⟩

theorem Ordered.xmppStep (h : Ordered platform server tcp xmpp handlers s)
    (hcreated : s.xmpp.created = true) (hstep : xmppStep platform xmpp s = some (xmpp', s')) :
  Ordered platform server tcp xmpp' handlers s'
  := by
  have hmoves := xmppMoves hstep
  have hsound : Sound (server.xmpp platform) xmpp'.toWorker s'.xmpp := by
    rcases hmoves.worker with ⟨hworker, hfields⟩ | hrun
    · rw [hworker, hfields]
      apply h.soundXmpp
    · exact Sound.worker (c := .xmppClient) h.soundXmpp hcreated hrun
  have hconn := hmoves.conn h.conn
  have hctx := hmoves.ctx h.ctx
  obtain ⟨failed, hkeeps⟩ := hmoves.keeps
  rw [hkeeps] at hsound hconn hctx ⊢
  exact ⟨h.soundTcp, hsound, h.starts, h.redis, h.wnsRedis, h.serves, h.handling, hconn, hctx⟩

theorem Ordered.handlerStep [DecidableEq ι] {i : ι} {place : Handler}
    (h : Ordered platform server tcp xmpp handlers s)
    (hstep : handlerStep platform config oracle i (handlers i) s = some (place, s')) :
  Ordered platform server tcp xmpp (Function.update handlers i place) s'
  := by
  have hmoves := handlerMoves hstep
  have hkeeps := hmoves.keeps
  have hserves : s'.serving = true ∨ s'.handling ≠ [] → tcp.serves = true := by
    intro hs
    apply h.serves
    rcases hs with hs | hs
    · rw [hkeeps] at hs
      exact .inl hs
    · apply hmoves.serves hs
  have hhandling : ∀ j, (Function.update handlers i place j).handler ≠ none →
      j ∈ s'.handling := by
    intro j hj
    by_cases hji : j = i
    · subst hji
      rw [Function.update_self] at hj
      apply hmoves.self (h.handling j) hj
    · rw [Function.update_of_ne hji] at hj
      apply hmoves.others j hji (h.handling j hj)
  rw [hkeeps] at hserves hhandling ⊢
  exact ⟨h.soundTcp, h.soundXmpp, h.starts, h.redis, h.wnsRedis, hserves, hhandling, h.conn, h.ctx⟩

end Steps

/-- The handlers when one of them has made a step. -/
theorem handlers_moved [DecidableEq ι] (t : Threads (Actor.Place (ι := ι)) (Process ι)) (i : ι)
    (place : Handler) :
  (fun j => Function.update t.locals (.handler i) place (.handler j))
    = Function.update (fun j => t.locals (.handler j)) i place
  := by
  funext j
  by_cases hj : j = i
  · subst hj
    rw [Function.update_self, Function.update_self]
  · rw [Function.update_of_ne hj, Function.update_of_ne]
    rintro ⟨⟩
    exact hj rfl

theorem Ordered.next [DecidableEq ι] {t : Threads (Actor.Place (ι := ι)) (Process ι)}
    (h : InOrder platform t) (a : Actor ι) :
  InOrder platform (Threads.next (step platform config oracle) a t)
  := by
  rcases hstep : step platform config oracle a (t.locals a) t.shared with _ | ⟨place, s⟩
  · rw [Threads.next_of_none hstep]
    apply h
  · rw [Threads.next_of_some hstep]
    obtain ⟨hcreated, hmove⟩ := Option.ite_none_left_eq_some.mp hstep
    rw [Bool.or_eq_true, not_or, Bool.not_eq_true', Bool.not_eq_false] at hcreated
    cases a with
    | controller =>
        obtain ⟨⟨k, f⟩, -, heq⟩ := Option.map_eq_some_iff.mp hmove
        cases heq
        exact ⟨h.soundTcp, h.soundXmpp, h.starts, h.redis, h.wnsRedis, h.serves, h.handling,
          h.conn, h.ctx⟩
    | server => exact h.serverStep hmove
    | tcp => exact h.tcpStep hcreated.2 hmove
    | xmpp => exact h.xmppStep hcreated.2 hmove
    | handler i =>
        have hhandler := h.handlerStep hmove
        rw [← handlers_moved] at hhandler
        exact hhandler
    | network =>
        rcases hchanges : t.locals .network with _ | ⟨connected, changes⟩
        · rw [hchanges] at hmove
          cases hmove
        · rw [hchanges] at hmove
          cases hmove
          exact ⟨h.soundTcp, h.soundXmpp, h.starts, h.redis, h.wnsRedis, h.serves, h.handling,
            h.conn, h.ctx⟩

/-! ### What a handler and `stop()` meet -/

section Meets

variable {server : ServerPlace} {tcp : TcpPlace} {xmpp : XmppPlace} {handlers : ι → Handler}
  {s : Process ι}

/-- While a handler runs, the server's thread has started the TCP server and has not yet
stopped it. -/
theorem Ordered.between (h : Ordered platform server tcp xmpp handlers s) {i : ι}
    (hi : (handlers i).handler ≠ none) :
  server.tcp platform ≠ first platform ∧ server.tcp platform ≠ .returned
  := by
  have hserves : tcp.serves = true := h.serves (.inr (List.ne_nil_of_mem (h.handling i hi)))
  have hsound := h.soundTcp
  constructor
  · intro hfirst
    rw [hfirst] at hsound
    have hentry := hsound.isEntry
    cases tcp with
    | worker w => 
        cases w with
        | whileRunning => cases hentry
        | _ => cases hserves
    | stopServer => cases hentry
    | stopService => cases hentry
    | _ => cases hserves
  · intro hreturned
    rw [hreturned] at hsound
    have hworker := hsound.returned
    cases tcp with
    | worker w =>
        cases hworker
        cases hserves
    | _ => cases hworker

/-- The Redis client is initialised, and the WNS client has it, while a handler runs. -/
theorem Ordered.ready (h : Ordered platform server tcp xmpp handlers s) {i : ι}
    (hi : (handlers i).handler ≠ none) :
  s.redis = true ∧ s.wnsRedis = true
  := by
  obtain ⟨hfirst, -⟩ := h.between hi
  have hplace : server.hasRedis = true ∧ server.hasWnsRedis = true := by
    cases server with
    | worker w =>
        cases w with
        | assertStarting => exact (hfirst rfl).elim
        | assertStopRequested => exact (hfirst rfl).elim
        | unlessStarting => exact (hfirst rfl).elim
        | storeRunning => exact (hfirst rfl).elim
        | _ => exact ⟨rfl, rfl⟩
    | left => exact (hfirst rfl).elim
    | init => exact (hfirst rfl).elim
    | setRedisClient => exact (hfirst rfl).elim
    | _ => exact ⟨rfl, rfl⟩
  exact ⟨h.redis hplace.1, h.wnsRedis hplace.2⟩

/-- The XMPP client is not being stopped before `stop()` of the TCP server has returned. -/
theorem ServerPlace.xmpp_ne (hstarts : server.Starts)
    (hreturned : server.tcp platform ≠ .returned) :
  server.xmpp platform ≠ .join ∧ server.xmpp platform ≠ .storeNotRunning
    ∧ server.xmpp platform ≠ .returned
  := by
  have hfirst : first platform ≠ .join ∧ first platform ≠ .storeNotRunning
      ∧ first platform ≠ .returned := by
    unfold first
    split
    · exact ⟨nofun, nofun, nofun⟩
    · exact ⟨nofun, nofun, nofun⟩
  cases server with
  | worker w =>
      cases w with
      | whileRunning => exact ⟨nofun, nofun, nofun⟩
      | ifRunning => exact ⟨nofun, nofun, nofun⟩
      | forRunning i => exact ⟨nofun, nofun, nofun⟩
      | storeWaitingForJoin => exact (hreturned rfl).elim
      | returned => exact (hreturned rfl).elim
      | _ => exact hfirst
  | startXmpp k => rcases hstarts with rfl | rfl | rfl <;> exact ⟨nofun, nofun, nofun⟩
  | checkSetupWns p => exact ⟨nofun, nofun, nofun⟩
  | stopTcp k => exact ⟨nofun, nofun, nofun⟩
  | stopXmpp k => exact (hreturned rfl).elim
  | xmppStop => exact (hreturned rfl).elim
  | _ => exact hfirst

/-- The connection is live while a handler runs, once it was created. -/
theorem Ordered.live (h : Ordered platform server tcp xmpp handlers s) {i : ι}
    (hi : (handlers i).handler ≠ none) (hconn : xmpp.hasConn = true) :
  s.conn = .live ∧ s.ctx = .live
  := by
  obtain ⟨-, hreturned⟩ := h.between hi
  obtain ⟨hjoin, hstore, hne⟩ := ServerPlace.xmpp_ne h.starts hreturned
  have hstarting := h.soundXmpp.isStarting hjoin hstore hne
  rw [h.conn, h.ctx]
  rcases hstarting.entry_or_looping with hentry | hlooping
  · cases xmpp with
    | worker w =>
        rw [XmppPlace.toWorker] at hentry
        rw [XmppPlace.hasConn, hentry] at hconn
        cases hconn
    | newCtx => cases hconn
    | newConn => cases hconn
    | _ => cases hentry
  · cases xmpp with
    | worker w =>
        rw [XmppPlace.toWorker] at hlooping
        rw [XmppPlace.conn, XmppPlace.ctx, hlooping]
        exact ⟨rfl, rfl⟩
    | newCtx => cases hconn
    | newConn => cases hconn
    | _ => cases hlooping

/-- The context is live when `xmpp_stop` is called, once it was created and unless it was
released. -/
theorem XmppPlace.ctx_live (hctx : xmpp.hasCtx = true) (hfreed : xmpp.isFreed = false) :
  xmpp.ctx = .live
  := by
  cases xmpp with
  | worker w =>
      cases w with
      | whileRunning => rfl
      | ifRunning => rfl
      | forRunning i => rfl
      | storeWaitingForJoin => cases hfreed
      | _ => cases hctx
  | newCtx => cases hctx
  | clearConn => cases hfreed
  | clearCtx => cases hfreed
  | _ => rfl

theorem XmppPlace.not_freed (h : xmpp.toWorker.isEntry = true ∨ xmpp.toWorker.isLooping = true) :
  xmpp.isFreed = false
  := by
  cases xmpp with
  | worker w =>
      cases w with
      | storeWaitingForJoin => rcases h with h | h <;> cases h
      | _ => rfl
  | clearConn => rcases h with h | h <;> cases h
  | clearCtx => rcases h with h | h <;> cases h
  | _ => rfl

/-- The context is not released when the thread is asked to stop. -/
theorem Ordered.not_freed {server' : ServerPlace} {s' : Process ι}
    (h : Ordered platform server tcp xmpp handlers s)
    (hstep : Process.serverStep platform config oracle server s = some (server', s'))
    (hstop : server'.isXmppStop = true) :
  server.isXmppStop = true ∨ xmpp.isFreed = false
  := by
  rcases (serverMoves hstep).stops hstop with hstop | rfl
  · exact .inl hstop
  · exact .inr (XmppPlace.not_freed h.soundXmpp.starting.entry_or_looping)

end Meets

end Process

open Process

/-- A turn of an actor, with the threads before and after it. -/
abbrev Turn (ι : Type) : Type :=
  Transition (Actor ι) (Threads (Actor.Place (ι := ι)) (Process ι))

/-- No handler uses the connection before `setup_xmpp` has created it, `xmpp_stop` is not called
before `setup_xmpp` has created the context or after the thread has returned, and
`cleanup_xmpp` does not release the context between the request to stop and `xmpp_stop`. -/
def InTime {ι : Type} (u : Turn ι) : Prop :=
  u.before.shared.halted = false →
    match u.event with
    | .handler i =>
        Handler.usesConnection (u.before.locals (.handler i)) = true →
          XmppPlace.hasConn (u.before.locals .xmpp) = true
    | .server =>
        ServerPlace.isXmppStop (u.before.locals .server) = true →
          XmppPlace.hasCtx (u.before.locals .xmpp) = true
    | .xmpp =>
        u.before.locals .xmpp = XmppPlace.freeCtx →
          ServerPlace.isXmppStop (u.before.locals .server) = false
    | _ => True

/-- The context and the connection are live where the turn uses them. -/
def MeetsLive {ι : Type} (u : Turn ι) : Prop :=
  u.before.shared.halted = false →
    match u.event with
    | .handler i =>
        Handler.usesConnection (u.before.locals (.handler i)) = true →
          u.before.shared.conn = .live ∧ u.before.shared.ctx = .live
    | .server =>
        ServerPlace.isXmppStop (u.before.locals .server) = true → u.before.shared.ctx = .live
    | _ => True

section Runs

variable {ι : Type} [DecidableEq ι] {platform : Platform} {config : Configuration}
  {oracle : Oracle} {messages : ι → List String} {changes : List Bool} {world : World}
  {past : List (Turn ι)} {t : Threads (Actor.Place (ι := ι)) (Process ι)}

theorem inOrder_run
    (h : Run (Threads.next (step platform config oracle))
      (· = initial platform messages changes world) past t) :
  InOrder platform t
  := by
  induction h with
  | start h =>
      rw [h]
      apply Ordered.initial
  | next h a ih => exact ih.next a

/-- While `xmpp_stop` is next, the context is not released. -/
theorem not_freed_run
    (h : Run (Threads.next (step platform config oracle))
      (· = initial platform messages changes world) past t)
    (hok : Admitted (fun _ => InTime) past) :
  ServerPlace.isXmppStop (t.locals .server) = true →
    XmppPlace.isFreed (t.locals .xmpp) = false
  := by
  induction h with
  | start h =>
      rw [h]
      nofun
  | @next past t h a ih =>
      have hnot := ih hok.2
      rcases hstep : step platform config oracle a (t.locals a) t.shared with _ | ⟨place, s⟩
      · rw [Threads.next_of_none hstep]
        apply hnot
      · rw [Threads.next_of_some hstep]
        obtain ⟨hhalted, hmove⟩ := Option.ite_none_left_eq_some.mp hstep
        cases a with
        | server =>
            intro hstop
            rcases (inOrder_run h).not_freed hmove hstop with hstop | hfreed
            · apply hnot hstop
            · exact hfreed
        | xmpp =>
            intro hstop
            change XmppPlace.isFreed place = false
            by_contra hfreed
            rw [Bool.not_eq_false] at hfreed
            rcases (xmppMoves hmove).frees hfreed with hbefore | hbefore
            · cases hbefore.symm.trans (hnot hstop)
            · have hnotStop := hok.1
                (Bool.eq_false_iff.mpr fun hh => hhalted (by rw [hh]; rfl)) hbefore
              cases hstop.symm.trans hnotStop
        | _ => exact hnot

end Runs

/-- Whenever a handler runs, the Redis client is initialised and the WNS client has it.  In a
run whose turns are in time, the context and the connection are live wherever
`setup_push_node`, `delete_push_node` and `XmppClient::stop` use them. -/
theorem meetsLive_of_inTime {ι : Type} [DecidableEq ι] {platform : Platform}
    {config : Configuration} {oracle : Oracle} {messages : ι → List String}
    {changes : List Bool} {world : World} {past : List (Turn ι)}
    {t : Threads (Actor.Place (ι := ι)) (Process ι)}
    (h : Run (Threads.next (step platform config oracle))
      (· = initial platform messages changes world) past t) :
  (∀ i, Handler.handler (t.locals (.handler i)) ≠ none →
      t.shared.redis = true ∧ t.shared.wnsRedis = true)
    ∧ (Admitted (fun _ => InTime) past → ∀ u ∈ past, MeetsLive u)
  := by
  constructor
  · intro i hi
    apply (inOrder_run h).ready hi
  · intro hok u hu hhalted
    obtain ⟨newer, older, rfl⟩ := List.append_of_mem hu
    obtain ⟨hrun, -⟩ := h.split
    have horder := inOrder_run hrun
    obtain ⟨htime, holder⟩ := hok.of_append
    have hin := htime hhalted
    have hfreed := not_freed_run hrun holder
    rcases u with ⟨a, before, after⟩
    cases a with
    | handler i =>
        intro huses
        exact horder.live (Handler.ne_none huses) (hin huses)
    | server =>
        intro hstop
        change before.shared.ctx = .live
        rw [horder.ctx]
        apply XmppPlace.ctx_live (hin hstop) (hfreed hstop)
    | _ => trivial

/-! ### Runs -/

instance {ι : Type} (u : Turn ι) : Decidable (InTime u) :=
  match u with
  | ⟨.handler i, before, _⟩ =>
      inferInstanceAs (Decidable (before.shared.halted = false →
        Handler.usesConnection (before.locals (.handler i)) = true → _ = true))
  | ⟨.server, before, _⟩ =>
      inferInstanceAs (Decidable (before.shared.halted = false →
        ServerPlace.isXmppStop (before.locals .server) = true → _ = true))
  | ⟨.xmpp, before, _⟩ =>
      inferInstanceAs (Decidable (before.shared.halted = false →
        (before.locals .xmpp : XmppPlace) = XmppPlace.freeCtx → _ = false))
  | ⟨.controller, _, _⟩ | ⟨.tcp, _, _⟩ | ⟨.network, _, _⟩ => .isTrue fun _ => trivial

instance {ι : Type} (u : Turn ι) : Decidable (MeetsLive u) :=
  match u with
  | ⟨.handler i, before, _⟩ =>
      inferInstanceAs (Decidable (before.shared.halted = false →
        Handler.usesConnection (before.locals (.handler i)) = true → _ = _ ∧ _ = _))
  | ⟨.server, before, _⟩ =>
      inferInstanceAs (Decidable (before.shared.halted = false →
        ServerPlace.isXmppStop (before.locals .server) = true → _ = _))
  | ⟨.controller, _, _⟩ | ⟨.tcp, _, _⟩ | ⟨.xmpp, _, _⟩ | ⟨.network, _, _⟩ =>
      .isTrue fun _ => trivial

namespace Sample

/-- A request for an account of a device with a channel URI. -/
def bob : Message :=
  .setPushAccounts (.ofFields ["bob"] "phone")

/-- A platform that reads every message as the request. -/
def requesting : Platform := { platform with parse := fun _ => some bob.toJson }

/-- A process whose client sends one message. -/
def started : Threads (Actor.Place (ι := Unit)) (Process Unit) :=
  initial requesting (fun _ => ["request"]) [] (run [setChannelUri "phone" phone_channelUri]).2

/-- The actors take the turns of a schedule. -/
def process (schedule : List (Actor Unit)) :
    List (Turn Unit) × Threads (Actor.Place (ι := Unit)) (Process Unit) :=
  Run.trace (Threads.next (step requesting config oracle)) [] started schedule

theorem run_process (schedule : List (Actor Unit)) :
  Run (Threads.next (step requesting config oracle)) (· = started)
    (process schedule).1 (process schedule).2
  := by
  have hstart : Run (Threads.next (step requesting config oracle)) (· = started) [] started :=
    .start rfl
  apply hstart.of_trace

/-- Each actor of a list takes a number of turns. -/
def schedule (l : List (ℕ × Actor Unit)) : List (Actor Unit) :=
  l.flatMap fun (n, a) => List.replicate n a

/-- The XMPP client has created its connection before the service hands out the message. -/
def inTime : List (Actor Unit) :=
  schedule [(3, .controller), (15, .server), (5, .xmpp), (5, .tcp), (6, .handler ())]

/-- The service hands out the message as soon as the TCP server is started. -/
def early : List (Actor Unit) :=
  schedule [(3, .controller), (12, .server), (5, .tcp), (6, .handler ())]

/-- The server is stopped when the thread of the XMPP client has made some steps, and that makes
some more before `xmpp_stop` is called. -/
def stopped (before between : ℕ) : List (Actor Unit) :=
  schedule [(3, .controller), (13, .server), (before, .xmpp), (4, .controller), (5, .tcp),
    (5, .server), (5, .tcp), (6, .server), (between, .xmpp), (1, .server)]

end Sample

/-- A handler meets a connection that is live. -/
theorem meetsLive_of_inTime_request :
  (Sample.process Sample.inTime).2.shared.redis = true
    ∧ (Sample.process Sample.inTime).2.shared.wnsRedis = true
    ∧ ∀ u ∈ (Sample.process Sample.inTime).1, MeetsLive u
  := by
  obtain ⟨hready, hlive⟩ := meetsLive_of_inTime (Sample.run_process Sample.inTime)
  obtain ⟨hredis, hwns⟩ := hready () (Handler.ne_none (by decide +kernel))
  exact ⟨hredis, hwns, hlive (by decide +kernel)⟩

/-- A message that arrives before the XMPP client has set up its connection: the assertion on
the connection ends the process.  A server that is stopped before that, and one whose XMPP
client cleans up before `xmpp_stop`, pass a context to it that is null or released. -/
theorem not_meetsLive_early :
  (¬∀ u ∈ (Sample.process Sample.early).1, MeetsLive u)
    ∧ (Sample.process Sample.early).2.shared.conn = .null
    ∧ (Sample.process Sample.early).2.shared.failed = true
    ∧ (¬∀ u ∈ (Sample.process (Sample.stopped 0 0)).1, MeetsLive u)
    ∧ (Sample.process (Sample.stopped 0 0)).2.shared.ctx = .null
    ∧ (¬∀ u ∈ (Sample.process (Sample.stopped 5 4)).1, MeetsLive u)
    ∧ (Sample.process (Sample.stopped 5 4)).2.shared.ctx = .released
  := by decide +kernel

end UwpxPush
