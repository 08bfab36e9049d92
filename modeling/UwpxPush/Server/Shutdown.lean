import UwpxPush.Server.Connection

/-!
# After `stop()` has returned

When `PushServer::stop` has returned, the thread of the server has ended, and so have the
threads of the TCP server and the XMPP client, unless they were never created.  No handler is
running, no message is handed out any more, and the context and the connection of libstrophe
were released.  From then on nothing is sent and nothing is stored.
-/

namespace UwpxPush

/-- `stop()` returns after the thread has ended. -/
theorem Sound.ended {w : Worker} {f : Fields} (h : Sound .returned w f) :
  f.ended = true
  := by
  rcases h with h | h | h
  · cases h with
    | early hk hw => rcases hk with hk | hk | hk <;> cases hk
    | looping hk hw => rcases hk with hk | hk | hk | hk <;> cases hk
  · cases h with
    | ended hk hf hended => exact hended
  · cases h

/-- Before `start()` of a component its thread was not created. -/
theorem Sound.not_created {platform : Platform} {w : Worker} {f : Fields}
    (h : Sound (Process.first platform) w f) :
  f.created = false
  := by
  revert h
  rw [Process.first]
  split
  · intro h
    cases h.isStarting nofun nofun nofun with
    | assertNotRunning hw => rfl
    | early hk hw => rcases hk with hk | hk | hk <;> cases hk
    | looping hk hw => rcases hk with hk | hk | hk | hk <;> cases hk
  · intro h
    cases h.isStarting nofun nofun nofun with
    | storeStarting hw => rfl
    | early hk hw => rcases hk with hk | hk | hk <;> cases hk
    | looping hk hw => rcases hk with hk | hk | hk | hk <;> cases hk

/-- What the thread of the server does next with the field. -/
def ServerPlace.toWorker : ServerPlace → Worker
  | .worker w => w
  | .left => .returned
  | .stopTcp _ => .storeWaitingForJoin
  | .stopXmpp _ => .storeWaitingForJoin
  | .xmppStop => .storeWaitingForJoin
  | _ => .whileRunning

/-- There are two places where the thread of the server has returned. -/
theorem ServerPlace.of_returned {place : ServerPlace} (h : place.toWorker = .returned) :
  place = .left ∨ place = .worker .returned
  := by
  cases place with
  | worker w =>
      apply Or.inr
      rw [show w = .returned from h]
  | left => exact .inl rfl
  | _ => cases h

namespace Process

variable {ι : Type} {platform : Platform} {config : Configuration} {oracle : Oracle}
  {server server' : ServerPlace} {tcp : TcpPlace} {xmpp : XmppPlace} {handlers : ι → Handler}
  {s s' : Process ι}

/-! ### The field of the server -/

/-- A step of the server's thread leaves the field, or is one of `Worker.step`. -/
theorem serverStep_worker
    (h : serverStep platform config oracle server s = some (server', s')) :
  server'.toWorker = server.toWorker ∧ s'.server = s.server
    ∨ PushServer.threadRun server.toWorker s.server = some (server'.toWorker, s'.server)
  := by
  cases serverSteps h with
  | works hunless hstore hwhile hstep => exact .inr hstep
  | enters hstate =>
      apply Or.inr
      rw [ServerPlace.toWorker, PushServer.threadRun, Worker.step, if_pos hstate]
      rfl
  | leaves hstate =>
      apply Or.inr
      rw [ServerPlace.toWorker, PushServer.threadRun, Worker.step, if_neg hstate]
      rfl
  | runs => exact .inr rfl
  | stops hstate =>
      apply Or.inr
      rw [ServerPlace.toWorker, PushServer.threadRun, Worker.step, if_neg hstate]
      rfl
  | _ => exact .inl ⟨rfl, rfl⟩

/-! ### Whole runs -/

/-- The threads are in order, and so are the controller and the thread of the server. -/
structure Supervised (platform : Platform)
    (t : Threads (Actor.Place (ι := ι)) (Process ι)) : Prop where
  order : InOrder platform t
  server : Sound (t.locals .controller) (ServerPlace.toWorker (t.locals .server)) t.shared.server

theorem Supervised.initial (messages : ι → List String) (changes : List Bool) (world : World) :
  Supervised platform (Process.initial platform messages changes world)
  := by
  use Ordered.initial messages changes world
  apply Or.inl
  simp only [Process.initial, first]
  cases platform.debug with
  | false => exact .storeStarting (.inr rfl)
  | true => exact .assertNotRunning (.inl rfl)

theorem Supervised.next [DecidableEq ι] {t : Threads (Actor.Place (ι := ι)) (Process ι)}
    (h : Supervised platform t) (a : Actor ι) :
  Supervised platform (Threads.next (step platform config oracle) a t)
  := by
  use h.order.next a
  have hserver := h.server
  rcases hstep : step platform config oracle a (t.locals a) t.shared with _ | ⟨place, s⟩
  · rw [Threads.next_of_none hstep]
    exact hserver
  · rw [Threads.next_of_some hstep]
    obtain ⟨hcreated, hmove⟩ := Option.ite_none_left_eq_some.mp hstep
    rw [Bool.or_eq_true, not_or, Bool.not_eq_true', Bool.not_eq_false] at hcreated
    cases a with
    | controller =>
        obtain ⟨⟨k, f⟩, hcontrol, heq⟩ := Option.map_eq_some_iff.mp hmove
        cases heq
        exact hserver.controller hcontrol
    | server =>
        change Sound (t.locals .controller) (ServerPlace.toWorker place) s.server
        rcases serverStep_worker hmove with ⟨hworker, hfields⟩ | hrun
        · rw [hworker, hfields]
          exact hserver
        · exact Sound.worker (c := .pushServer) hserver hcreated.2 hrun
    | tcp =>
        change Sound _ (ServerPlace.toWorker (t.locals .server)) s.server
        rw [(tcpMoves hmove).keeps]
        exact hserver
    | xmpp =>
        change Sound _ (ServerPlace.toWorker (t.locals .server)) s.server
        obtain ⟨failed, hkeeps⟩ := (xmppMoves hmove).keeps
        rw [hkeeps]
        exact hserver
    | handler i =>
        change Sound _ (ServerPlace.toWorker (t.locals .server)) s.server
        rw [(handlerMoves hmove).keeps]
        exact hserver
    | network =>
        rcases hchanges : t.locals .network with _ | ⟨connected, changes⟩
        · rw [hchanges] at hmove
          cases hmove
        · rw [hchanges] at hmove
          cases hmove
          exact hserver

/-! ### The end -/

/-- The thread has ended, or it was never created. -/
def Gone (w : Worker) (f : Fields) : Prop :=
  f.ended = true ∧ w = .returned ∨ f.created = false

/-- A thread that has returned has no step. -/
theorem serverStep_returned (h : server.toWorker = .returned) :
  serverStep platform config oracle server s = none
  := by
  cases server with
  | worker w =>
      cases w with
      | returned => rfl
      | _ => cases h
  | left => rfl
  | _ => cases h

theorem tcpStep_returned (h : tcp.toWorker = .returned) :
  tcpStep tcp s = none
  := by
  cases tcp with
  | worker w =>
      cases w with
      | returned => rfl
      | _ => cases h
  | _ => cases h

theorem xmppStep_returned (h : xmpp.toWorker = .returned) :
  xmppStep platform xmpp s = none
  := by
  cases xmpp with
  | worker w =>
      cases w with
      | returned => rfl
      | _ => cases h
  | _ => cases h

/-- Before its loop and after it the thread of the TCP server hands out no messages. -/
theorem TcpPlace.not_serves (h : tcp.toWorker.isEntry = true ∨ tcp.toWorker = .returned) :
  tcp.serves = false
  := by
  cases tcp with
  | worker w =>
      cases w with
      | whileRunning => rcases h with h | h <;> cases h
      | _ => rfl
  | stopServer => rcases h with h | h <;> cases h
  | stopService => rcases h with h | h <;> cases h
  | _ => rfl

/-- Before its loop and after it the thread of the XMPP client has no connection. -/
theorem XmppPlace.null (h : xmpp.toWorker.isEntry = true ∨ xmpp.toWorker = .returned) :
  xmpp.conn = .null ∧ xmpp.ctx = .null
  := by
  cases xmpp with
  | worker w =>
      have hlooping : w.isLooping = false := by
        cases w with
        | whileRunning => rcases h with h | h <;> cases h
        | ifRunning => rcases h with h | h <;> cases h
        | forRunning i => rcases h with h | h <;> cases h
        | _ => rfl
      rw [XmppPlace.conn, XmppPlace.ctx, hlooping]
      exact ⟨rfl, rfl⟩
  | _ => rcases h with h | h <;> cases h

/-- The server has stopped: its threads have ended, no handler is running, no message is handed
out, and the connection is gone. -/
structure Stopped (t : Threads (Actor.Place (ι := ι)) (Process ι)) : Prop where
  controller : t.locals .controller = Controller.returned
  server : Gone (ServerPlace.toWorker (t.locals .server)) t.shared.server
  tcp : Gone (TcpPlace.toWorker (t.locals .tcp)) t.shared.tcp
  xmpp : Gone (XmppPlace.toWorker (t.locals .xmpp)) t.shared.xmpp
  serving : t.shared.serving = false
  handling : t.shared.handling = []
  handlers : ∀ i, Handler.handler (t.locals (.handler i)) = none
  conn : t.shared.conn = .null
  ctx : t.shared.ctx = .null

section

variable {t : Threads (Actor.Place (ι := ι)) (Process ι)}

/-- A thread of the service receives nothing while no messages are handed out. -/
theorem handlerStep_idle [DecidableEq ι] {i : ι} {place : Handler} (hidle : place.handler = none)
    (hserving : s.serving = false) :
  handlerStep platform config oracle i place s = none
  := by
  obtain ⟨handler, messages⟩ := place
  cases hidle
  cases messages with
  | nil => rfl
  | cons m messages =>
      rw [handlerStep, hserving]
      rfl

/-- When `stop()` has returned, the server has stopped. -/
theorem Supervised.stopped (h : Supervised platform t)
    (hcontroller : t.locals .controller = Controller.returned) :
  Stopped t
  := by
  have hsound := h.server
  rw [hcontroller] at hsound
  have hworker := hsound.returned
  have hplace := ServerPlace.of_returned hworker
  obtain ⟨htcp, hserves⟩ : Gone (TcpPlace.toWorker (t.locals .tcp)) t.shared.tcp
      ∧ TcpPlace.serves (t.locals .tcp) = false := by
    have htcp := h.order.soundTcp
    rcases hplace with hplace | hplace
    · rw [hplace] at htcp
      exact ⟨.inr htcp.not_created, TcpPlace.not_serves (.inl htcp.isEntry)⟩
    · rw [hplace] at htcp
      exact ⟨.inl ⟨htcp.ended, htcp.returned⟩, TcpPlace.not_serves (.inr htcp.returned)⟩
  have hconn : Gone (XmppPlace.toWorker (t.locals .xmpp)) t.shared.xmpp
      ∧ XmppPlace.conn (t.locals .xmpp) = .null ∧ XmppPlace.ctx (t.locals .xmpp) = .null := by
    have hxmpp := h.order.soundXmpp
    rcases hplace with hplace | hplace
    · rw [hplace] at hxmpp
      exact ⟨.inr hxmpp.not_created, XmppPlace.null (.inl hxmpp.isEntry)⟩
    · rw [hplace] at hxmpp
      exact ⟨.inl ⟨hxmpp.ended, hxmpp.returned⟩, XmppPlace.null (.inr hxmpp.returned)⟩
  have hquiet : ¬(t.shared.serving = true ∨ t.shared.handling ≠ []) := by
    intro hs
    rw [h.order.serves hs] at hserves
    cases hserves
  have hhandling : t.shared.handling = [] := by
    by_contra hne
    exact hquiet (.inr hne)
  constructor
  · exact hcontroller
  · exact .inl ⟨hsound.ended, hworker⟩
  · exact htcp
  · exact hconn.1
  · rw [Bool.eq_false_iff]
    intro hserving
    exact hquiet (.inl hserving)
  · exact hhandling
  · intro i
    by_contra hne
    have hi := h.order.handling i hne
    rw [hhandling] at hi
    cases hi
  · rw [h.order.conn]
    exact hconn.2.1
  · rw [h.order.ctx]
    exact hconn.2.2

/-- Once the server has stopped, only the network changes anything. -/
theorem Stopped.next [DecidableEq ι] (h : Stopped t) (a : Actor ι) :
  let t' := Threads.next (step platform config oracle) a t
  Stopped t' ∧ ∃ connected,
    t'.shared = { t.shared with world := { t.shared.world with connected } }
  := by
  intro t'
  have hself : ∃ connected,
      t.shared = { t.shared with world := { t.shared.world with connected } } := ⟨_, rfl⟩
  rcases hstep : step platform config oracle a (t.locals a) t.shared with _ | ⟨place, s⟩
  · rw [show t' = t from Threads.next_of_none hstep]
    exact ⟨h, hself⟩
  · obtain ⟨hcreated, hmove⟩ := Option.ite_none_left_eq_some.mp hstep
    rw [Bool.or_eq_true, not_or, Bool.not_eq_true', Bool.not_eq_false] at hcreated
    cases a with
    | controller =>
        rw [h.controller] at hmove
        cases hmove
    | server =>
        rcases h.server with ⟨-, hworker⟩ | hnot
        · cases (serverStep_returned hworker).symm.trans hmove
        · cases hnot.symm.trans hcreated.2
    | tcp =>
        rcases h.tcp with ⟨-, hworker⟩ | hnot
        · cases (tcpStep_returned hworker).symm.trans hmove
        · cases hnot.symm.trans hcreated.2
    | xmpp =>
        rcases h.xmpp with ⟨-, hworker⟩ | hnot
        · cases (xmppStep_returned hworker).symm.trans hmove
        · cases hnot.symm.trans hcreated.2
    | handler i =>
        have hnone : handlerStep platform config oracle i (t.locals (.handler i)) t.shared
            = none := by
          apply handlerStep_idle (h.handlers i) h.serving
        cases hnone.symm.trans hmove
    | network =>
        rcases hchanges : t.locals .network with _ | ⟨connected, changes⟩
        · rw [hchanges] at hmove
          cases hmove
        · rw [hchanges] at hmove
          cases hmove
          rw [show t' = _ from Threads.next_of_some hstep]
          use ⟨h.controller, h.server, h.tcp, h.xmpp, h.serving, h.handling, h.handlers, h.conn,
            h.ctx⟩
          exact ⟨connected, rfl⟩

theorem Stopped.run [DecidableEq ι] (h : Stopped t) (schedule : List (Actor ι)) :
  ∃ connected, (Threads.run (step platform config oracle) schedule t).shared
    = { t.shared with world := { t.shared.world with connected } }
  := by
  induction schedule generalizing t with
  | nil => exact ⟨_, rfl⟩
  | cons a schedule ih =>
      obtain ⟨hnext, connected, hshared⟩ := h.next a
      obtain ⟨connected', hrun⟩ := ih hnext
      rw [Threads.run_cons, hrun, hshared]
      exact ⟨connected', rfl⟩

end

end Process

open Process

/-- In every interleaving of the threads with the handlers of any clients: when `stop()` of the
server has returned, its thread and those of the TCP server and the XMPP client have ended,
unless they were never created; no message is handed out, no handler is running, and the
context and the connection were released.  From then on no turn of any thread changes what they
share, but for the network that connects and disconnects: nothing more is stored, sent or
answered. -/
theorem stop_quiesces {ι : Type} [DecidableEq ι] (platform : Platform) (config : Configuration)
    (oracle : Oracle) (messages : ι → List String) (changes : List Bool) (world : World)
    (schedule : List (Actor ι)) :
  let t := Threads.run (step platform config oracle) schedule
    (initial platform messages changes world)
  t.locals .controller = Controller.returned →
    Stopped t ∧ ∀ later, ∃ connected,
      (Threads.run (step platform config oracle) later t).shared
        = { t.shared with world := { t.shared.world with connected } }
  := by
  intro t hreturned
  have hsupervised : Supervised platform t :=
    Threads.run_invariant (fun a _ h => h.next a) (Supervised.initial messages changes world)
      schedule
  have hstopped := hsupervised.stopped hreturned
  use hstopped
  exact hstopped.run

namespace Sample

/-- The client's message is handled, and then the server is stopped. -/
def shutdown : List (Actor Unit) :=
  schedule [(3, .controller), (15, .server), (5, .xmpp), (5, .tcp), (30, .handler ()),
    (4, .controller), (20, .server), (8, .tcp), (12, .server), (30, .xmpp), (8, .server),
    (3, .controller)]

end Sample

/-- The server of the sample is stopped after its thread has seen the request. -/
theorem stop_quiesces_shutdown :
  Stopped (Threads.run (step Sample.requesting Sample.config Sample.oracle) Sample.shutdown
    Sample.started)
  := (stop_quiesces Sample.requesting Sample.config Sample.oracle (fun _ => ["request"]) []
    (Sample.run [Sample.setChannelUri "phone" Sample.phone_channelUri]).2 Sample.shutdown
    (by decide +kernel)).1

end UwpxPush
