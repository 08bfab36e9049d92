import UwpxPush.Program.Step
import UwpxPush.Server.Lifecycle
import UwpxPush.Server.Runs

/-!
# The threads of the server together

`PushServer::thread_run` initialises the Redis client, starts and stops the TCP server and the
XMPP client, and in between refreshes the WNS token; the thread of the TCP server starts and
stops the service that handles the messages of clients; the thread of the XMPP client creates
and releases the context and the connection of libstrophe, which the handlers and
`XmppClient::stop` use.  Here they take turns with the handlers of any number of messages and
with the controller that starts and stops the server.  `start()` and `stop()` of a component
and its field `state` are those of `Controller.step` and `Worker.step`.
-/

namespace UwpxPush

/-- What a pointer points to. -/
inductive Pointer where
  | null
  | live
  | released
  deriving DecidableEq

/-- What the threads share. -/
structure Process (ι : Type) where
  server : Fields
  tcp : Fields
  xmpp : Fields
  /-- `redisClient.redis` is set. -/
  redis : Bool
  /-- `wnsClient.redisClient` is set. -/
  wnsRedis : Bool
  /-- `xmppClient.ctx` -/
  ctx : Pointer
  /-- `xmppClient.conn` -/
  conn : Pointer
  /-- The service hands the messages of clients to their handlers. -/
  serving : Bool
  /-- The service threads that are in a handler. -/
  handling : List ι
  /-- A failed assertion, an uncaught exception or the use of a pointer that is not live has
  ended the process. -/
  failed : Bool
  world : World

/-- Nothing steps in a process that has ended. -/
def Process.halted {ι : Type} (s : Process ι) : Bool :=
  s.failed || s.server.aborted || s.tcp.aborted || s.xmpp.aborted

/-- The field of a component. -/
def Process.fields {ι : Type} (s : Process ι) : Component → Fields
  | .pushServer => s.server
  | .tcpServer => s.tcp
  | .xmppClient => s.xmpp

/-- Where `PushServer::thread_run` is. -/
inductive ServerPlace where
  /-- It reads or writes the field. -/
  | worker (w : Worker)
  /-- It returns because the field is not `STARTING`. -/
  | left
  | init
  | setRedisClient
  | loadTokenFromDb (p : Server Unit)
  /-- `tcpServer.start()` and `xmppClient.start()` -/
  | startTcp (k : Controller)
  | startXmpp (k : Controller)
  | checkSetupWns (p : Server Unit)
  /-- `tcpServer.stop()` and `xmppClient.stop()` -/
  | stopTcp (k : Controller)
  | stopXmpp (k : Controller)
  /-- `xmpp_stop(ctx)` in `xmppClient.stop()` -/
  | xmppStop

/-- Where `TcpServer::threadRun` is. -/
inductive TcpPlace where
  | worker (w : Worker)
  /-- `asioService->Start()` and `server->Start()` -/
  | startService
  | startServer
  /-- `server->Stop()` and `asioService->Stop()` -/
  | stopServer
  | stopService
  deriving DecidableEq

/-- Where `XmppClient::thread_run` is. -/
inductive XmppPlace where
  | worker (w : Worker)
  /-- `ctx = xmpp_ctx_new(nullptr, log)` and `conn = xmpp_conn_new(ctx)` in `setup_xmpp` -/
  | newCtx
  | newConn
  /-- The assertions of `cleanup_xmpp` -/
  | assertConn
  /-- `xmpp_conn_release(conn)` and `xmpp_ctx_free(ctx)` -/
  | releaseConn
  | freeCtx
  /-- `conn = nullptr` and `ctx = nullptr` -/
  | clearConn
  | clearCtx
  deriving DecidableEq

/-- A thread of the service: the handler it is in, and the messages it receives after that. -/
structure Handler where
  handler : Option (Server Unit)
  messages : List String

/-- The threads of the process, the clients' messages coming from `ι`, and the network, which
connects the XMPP client and cuts it off. -/
inductive Actor (ι : Type) where
  | controller
  | server
  | tcp
  | xmpp
  | handler (i : ι)
  | network
  deriving DecidableEq

/-- Where an actor is.  The network has the changes of the connection that are to come. -/
abbrev Actor.Place {ι : Type} : Actor ι → Type
  | .controller => Controller
  | .server => ServerPlace
  | .tcp => TcpPlace
  | .xmpp => XmppPlace
  | .handler _ => Handler
  | .network => List Bool

/-- The call is one of `setup_push_node` and `delete_push_node` with the connection. -/
def Call.usesConnection : Call → Bool
  | .isConnected => true
  | .send _ => true
  | _ => false

namespace Process

variable {ι : Type}

/-- The process ends. -/
def fail {P : Type} (place : P) (s : Process ι) : Option (P × Process ι) :=
  some (place, { s with failed := true })

/-- Where `start()` begins. -/
def first (platform : Platform) : Controller :=
  if platform.debug then .assertNotRunning else .storeStarting

section Steps

variable (platform : Platform) (config : Configuration) (oracle : Oracle)

/-- A program of the server's thread makes its next call. -/
def advance (place : Server Unit → ServerPlace) (next : ServerPlace) (s : Process ι) :
    Server Unit → Option (ServerPlace × Process ι)
  | .pure _ => some (next, s)
  | .throw e => fail (place (.throw e)) s
  | .call c k =>
      let (r, world) := World.perform oracle c s.world
      some (place (k r), { s with world })

/-- The next step of `PushServer::thread_run`. -/
def serverStep : ServerPlace → Process ι → Option (ServerPlace × Process ι)
  | .worker .unlessStarting, s =>
      if s.server.state = .starting then some (.worker .storeRunning, s)
      else some (.left, { s with server := { s.server with ended := true } })
  | .left, _ => none
  | .worker .storeRunning, s =>
      some (.init, { s with server := { s.server with state := .running } })
  | .init, s =>
      if platform.debug ∧ s.redis then fail .init s
      else some (.setRedisClient, { s with redis := true })
  | .setRedisClient, s =>
      some (.loadTokenFromDb WnsClient.loadTokenFromDb, { s with wnsRedis := true })
  | .loadTokenFromDb p, s => advance oracle .loadTokenFromDb (.startTcp (first platform)) s p
  | .startTcp k, s =>
      (Controller.step k s.tcp).map fun (k, tcp) =>
        (if k = .ifStarting then .startXmpp (first platform) else .startTcp k, { s with tcp })
  | .startXmpp k, s =>
      (Controller.step k s.xmpp).map fun (k, xmpp) =>
        (if k = .ifStarting then .worker .whileRunning else .startXmpp k, { s with xmpp })
  | .worker .whileRunning, s =>
      some (if s.server.state = .running then
          .checkSetupWns (PushServer.checkSetupWns platform config)
        else .stopTcp .ifStarting, s)
  | .checkSetupWns p, s => advance oracle .checkSetupWns (.worker .whileRunning) s p
  | .stopTcp k, s =>
      (Controller.step k s.tcp).map fun (k, tcp) =>
        (if k = .returned then .stopXmpp .ifStarting else .stopTcp k, { s with tcp })
  | .stopXmpp k, s =>
      (Controller.step k s.xmpp).map fun (k', xmpp) =>
        (if k = .storeStopRequested then .xmppStop
          else if k' = .returned then .worker .storeWaitingForJoin else .stopXmpp k',
          { s with xmpp })
  | .xmppStop, s =>
      if s.ctx = .live then some (.stopXmpp .join, s) else fail .xmppStop s
  | .worker w, s =>
      (PushServer.threadRun w s.server).map fun (w, server) => (.worker w, { s with server })

/-- The next step of `TcpServer::threadRun`.  `asioService->Stop()` waits for the threads of
the service. -/
def tcpStep : TcpPlace → Process ι → Option (TcpPlace × Process ι)
  | .worker .storeRunning, s =>
      some (.startService, { s with tcp := { s.tcp with state := .running } })
  | .startService, s => some (.startServer, s)
  | .startServer, s => some (.worker .whileRunning, { s with serving := true })
  | .worker .whileRunning, s =>
      some (if s.tcp.state = .running then .worker .whileRunning else .stopServer, s)
  | .stopServer, s => some (.stopService, s)
  | .stopService, s =>
      if s.handling = [] then some (.worker .storeWaitingForJoin, { s with serving := false })
      else none
  | .worker w, s =>
      (TcpServer.threadRun w s.tcp).map fun (w, tcp) => (.worker w, { s with tcp })

/-- The next step of `XmppClient::thread_run`. -/
def xmppStep : XmppPlace → Process ι → Option (XmppPlace × Process ι)
  | .worker .storeRunning, s =>
      some (.newCtx, { s with xmpp := { s.xmpp with state := .running } })
  | .newCtx, s => some (.newConn, { s with ctx := .live })
  | .newConn, s => some (.worker .whileRunning, { s with conn := .live })
  | .worker .whileRunning, s =>
      some (if s.xmpp.state = .running then .worker .ifRunning else .assertConn, s)
  | .assertConn, s =>
      if platform.debug ∧ (s.conn = .null ∨ s.ctx = .null) then fail .assertConn s
      else some (.releaseConn, s)
  | .releaseConn, s => some (.freeCtx, { s with conn := .released })
  | .freeCtx, s => some (.clearConn, { s with ctx := .released })
  | .clearConn, s => some (.clearCtx, { s with conn := .null })
  | .clearCtx, s => some (.worker .storeWaitingForJoin, { s with ctx := .null })
  | .worker w, s =>
      (XmppClient.threadRun w s.xmpp).map fun (w, xmpp) => (.worker w, { s with xmpp })

/-- The next step of a thread of the service: it receives a message, it makes the next call of
its handler, or the handler returns.  `assert(conn)`, or libstrophe, ends the process where
the connection is not live. -/
def handlerStep [DecidableEq ι] (i : ι) : Handler → Process ι → Option (Handler × Process ι)
  | ⟨none, []⟩, _ => none
  | ⟨none, m :: messages⟩, s =>
      if s.serving then
        some (⟨some (PushServer.onMessageReceived platform config m), messages⟩,
          { s with handling := i :: s.handling })
      else none
  | ⟨some (.pure _), messages⟩, s =>
      some (⟨none, messages⟩, { s with handling := s.handling.erase i })
  | ⟨some (.throw e), messages⟩, s => fail ⟨some (.throw e), messages⟩ s
  | ⟨some (.call c k), messages⟩, s =>
      if c.usesConnection ∧ ¬(s.conn = .live ∧ s.ctx = .live) then
        fail ⟨some (.call c k), messages⟩ s
      else
        let (r, world) := World.perform oracle c s.world
        some (⟨some (k r), messages⟩, { s with world })

/-- The next step of an actor. -/
def move [DecidableEq ι] : (a : Actor ι) → a.Place → Process ι → Option (a.Place × Process ι)
  | .controller, k, s =>
      (Controller.step k s.server).map fun (k, server) => (k, { s with server })
  | .server, place, s => serverStep platform config oracle place s
  | .tcp, place, s => tcpStep place s
  | .xmpp, place, s => xmppStep platform place s
  | .handler i, place, s => handlerStep platform config oracle i place s
  | .network, [], _ => none
  | .network, connected :: changes, s =>
      some (changes, { s with world := { s.world with connected } })

/-- The thread of the actor was created. -/
def created (s : Process ι) : Actor ι → Bool
  | .server => s.server.created
  | .tcp => s.tcp.created
  | .xmpp => s.xmpp.created
  | _ => true

/-- The next step of an actor, when its thread was created and the process has not ended. -/
def step [DecidableEq ι] (a : Actor ι) (place : a.Place) (s : Process ι) :
    Option (a.Place × Process ι) :=
  if s.halted || !s.created a then none else move platform config oracle a place s

/-- A process whose server is about to be started, when clients send the given messages and
the connection changes in the given way. -/
def initial (messages : ι → List String) (changes : List Bool) (world : World) :
    Threads (Actor.Place (ι := ι)) (Process ι) where
  locals
    | .controller => first platform
    | .server => .worker (if platform.debug then .assertStarting else .unlessStarting)
    | .tcp => .worker (if platform.debug then .assertStarting else .unlessStarting)
    | .xmpp => .worker (if platform.debug then .assertStarting else .unlessStarting)
    | .handler i => ⟨none, messages i⟩
    | .network => changes
  shared :=
    let fields : Fields := ⟨.notRunning, false, false, false⟩
    { server := fields, tcp := fields, xmpp := fields, redis := false, wnsRedis := false
      ctx := .null, conn := .null, serving := false, handling := [], failed := false, world }

end Steps

end Process

end UwpxPush
