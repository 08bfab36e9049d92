import UwpxPush.Io.IoThread
import UwpxPush.Server.Startup

/-!
# The main function

`main` starts the server.  In input mode it then starts the IO thread, looks at its state
until the user has left the console, stops the server and the IO thread, and destroys both.
Without input it publishes a pointer to the server, through which the handler of `SIGINT`
stops the server, and waits until the handler has cleared the pointer.  The handler interrupts
`main`, wherever that is.

`main` and its handler are the controller of the server, whose threads take turns as those of
`Process.step` do.  The destructor of the server destroys the XMPP client and the TCP server.
-/

namespace UwpxPush

/-- What the optional of a component holds after a step of `start()` or `stop()`: the thread is
assigned where it is created, and `std::nullopt` after the store of `NOT_RUNNING`. -/
def Controller.assign (thread : Bool) : Controller → Bool
  | .create => true
  | .storeNotRunning => false
  | _ => thread

/-- `join()` finds no thread, or a thread is assigned where another one is. -/
def Controller.misuses (thread : Bool) : Controller → Bool
  | .create => thread
  | .join => !thread
  | _ => false

/-- The component that the thread of the server is starting or stopping, and where it is in
that. -/
def ServerPlace.control : ServerPlace → Option (Component × Controller)
  | .startTcp k => some (.tcpServer, k)
  | .startXmpp k => some (.xmppClient, k)
  | .stopTcp k => some (.tcpServer, k)
  | .stopXmpp k => some (.xmppClient, k)
  | _ => none

/-- The component that an actor is starting or stopping. -/
def Actor.control {ι : Type} : (a : Actor ι) → a.Place → Option (Component × Controller)
  | .controller, k => some (.pushServer, k)
  | .server, place => ServerPlace.control place
  | _, _ => none

/-- A failed assertion of a component, or its `std::optional` or `std::thread`, ends the
process. -/
def Process.abort {ι : Type} (c : Component) (s : Process ι) : Process ι :=
  match c with
  | .pushServer => { s with server := { s.server with aborted := true } }
  | .tcpServer => { s with tcp := { s.tcp with aborted := true } }
  | .xmppClient => { s with xmpp := { s.xmpp with aborted := true } }

namespace Main

/-- A component, and whether its optional holds a thread. -/
structure Owned where
  fields : Fields
  thread : Bool
  deriving DecidableEq

namespace Owned

/-- The process ends. -/
def abort (o : Owned) : Owned :=
  { o with fields := { o.fields with aborted := true } }

/-- The next step of `start()` and `stop()`. -/
def control (k : Controller) (o : Owned) : Option (Controller × Owned) :=
  if k.misuses o.thread then some (k, o.abort)
  else (Controller.step k o.fields).map fun (k', fields) => (k', ⟨fields, k.assign o.thread⟩)

/-- The destructor meets its assertion, and no thread that was not joined. -/
def Destructible (debug : Bool) (o : Owned) : Prop :=
  (debug = true → o.fields.state = .notRunning) ∧ o.thread = false

instance (debug : Bool) (o : Owned) : Decidable (o.Destructible debug) :=
  inferInstanceAs (Decidable (_ ∧ _))

end Owned

/-- What the threads share. -/
structure Shared (ι : Type) where
  process : Process ι
  /-- The optionals of the components hold a thread. -/
  threads : Component → Bool
  io : Owned
  scheduler : Scheduler
  /-- `serverPtr` points to the server. -/
  serverPtr : Bool
  /-- A signal is to be handled. -/
  pending : Bool

/-- A component of the server with its optional. -/
def Shared.owned {ι : Type} (s : Shared ι) (c : Component) : Owned :=
  ⟨s.process.fields c, s.threads c⟩

/-- Where `main` is. -/
inductive Place where
  /-- `server.start()` and `ioThread.start()` -/
  | startServer (k : Controller)
  | startIo (k : Controller)
  /-- `while (ioThread.get_state() != WAITING_FOR_JOIN)` -/
  | whileNotWaiting
  /-- `server.stop()` and `ioThread.stop()`, with `scheduler.Stop()` in the latter -/
  | stopServer (k : Controller)
  | stopIo (k : Controller)
  | schedulerStop
  /-- `serverPtr = &server` -/
  | setServerPtr
  /-- `while (serverPtr)` -/
  | whileServerPtr
  /-- The destructors of the IO thread, and of the server with its components -/
  | destroyIo
  | destroy (c : Component)
  | returned
  deriving DecidableEq

/-- Where `signal_handler` is. -/
inductive Handler where
  /-- `if (serverPtr)` -/
  | ifServerPtr
  /-- `serverPtr->stop()` -/
  | stop (k : Controller)
  /-- `serverPtr = nullptr` -/
  | clearServerPtr
  deriving DecidableEq

/-- Where `main` is, and the handler that has interrupted it. -/
structure Stack where
  place : Place
  handler : Option Handler
  deriving DecidableEq

/-- The main thread, the IO thread, the user, who leaves the console or sends signals, and the
threads of the server with their clients and the network. -/
inductive Actor (ι : Type) where
  | main
  | io
  | user
  | thread (a : UwpxPush.Actor ι)
  deriving DecidableEq

/-- Where an actor is.  The user has a number of inputs to make. -/
abbrev Actor.Place {ι : Type} : Actor ι → Type
  | .main => Stack
  | .io => IoPlace
  | .user => ℕ
  | .thread a => a.Place

section Steps

variable {ι : Type} (noInput : Bool) (platform : Platform) (config : Configuration)
  (oracle : Oracle)

/-- The next step of an actor of the process, with the optionals of the components. -/
def processStep [DecidableEq ι] (a : UwpxPush.Actor ι) (place : a.Place) (s : Shared ι) :
    Option (a.Place × Shared ι) :=
  match a.control place with
  | none =>
      (Process.move platform config oracle a place s.process).map fun (place, process) =>
        (place, { s with process })
  | some (c, k) =>
      if k.misuses (s.threads c) then some (place, { s with process := s.process.abort c })
      else (Process.move platform config oracle a place s.process).map fun (place, process) =>
        (place, { s with
          process, threads := Function.update s.threads c (k.assign (s.threads c)) })

/-- The destructor of a component. -/
def destroyed (c : Component) (s : Shared ι) : Shared ι :=
  if (s.owned c).Destructible platform.debug then s
  else { s with process := s.process.abort c }

/-- The next step of `server.start()` and `server.stop()`. -/
def serverControl [DecidableEq ι] (k : Controller) (s : Shared ι) :
    Option (Controller × Shared ι) :=
  processStep platform config oracle .controller k s

/-- The next step of `main`. -/
def placeStep [DecidableEq ι] : Place → Shared ι → Option (Place × Shared ι)
  | .startServer k, s =>
      (serverControl platform config oracle k s).map fun (k, s) =>
        (if k = .ifStarting then
            if noInput then .setServerPtr else .startIo (Process.first platform)
          else .startServer k, s)
  | .startIo k, s =>
      (s.io.control k).map fun (k, io) =>
        (if k = .ifStarting then .whileNotWaiting else .startIo k, { s with io })
  | .whileNotWaiting, s =>
      some (if s.io.fields.state = .waitingForJoin then .stopServer .ifStarting
        else .whileNotWaiting, s)
  | .stopServer k, s =>
      (serverControl platform config oracle k s).map fun (k, s) =>
        (if k = .returned then .stopIo .ifStarting else .stopServer k, s)
  | .stopIo k, s =>
      (s.io.control k).map fun (k', io) =>
        (if k = .storeStopRequested then .schedulerStop
          else if k' = .returned then .destroyIo else .stopIo k', { s with io })
  | .schedulerStop, s =>
      some (.stopIo .join, { s with scheduler := { s.scheduler with stopped := true } })
  | .setServerPtr, s => some (.whileServerPtr, { s with serverPtr := true })
  | .whileServerPtr, s =>
      some (if s.serverPtr then .whileServerPtr else .destroy .pushServer, s)
  | .destroyIo, s =>
      some (.destroy .pushServer,
        if s.io.Destructible platform.debug then s else { s with io := s.io.abort })
  | .destroy .pushServer, s => some (.destroy .xmppClient, destroyed platform .pushServer s)
  | .destroy .xmppClient, s => some (.destroy .tcpServer, destroyed platform .xmppClient s)
  | .destroy .tcpServer, s => some (.returned, destroyed platform .tcpServer s)
  | .returned, _ => none

/-- The next step of `signal_handler`, which has no place once it has returned. -/
def handlerStep [DecidableEq ι] : Handler → Shared ι → Option (Option Handler × Shared ι)
  | .ifServerPtr, s => some (if s.serverPtr then some (.stop .ifStarting) else none, s)
  | .stop k, s =>
      (serverControl platform config oracle k s).map fun (k, s) =>
        (some (if k = .returned then .clearServerPtr else .stop k), s)
  | .clearServerPtr, s => some (none, { s with serverPtr := false })

/-- The next step of the main thread.  A pending signal is handled before `main` goes on. -/
def mainStep [DecidableEq ι] : Stack → Shared ι → Option (Stack × Shared ι)
  | ⟨place, some handler⟩, s =>
      (handlerStep platform config oracle handler s).map fun (handler, s) => (⟨place, handler⟩, s)
  | ⟨place, none⟩, s =>
      if s.pending ∧ place ≠ .returned then
        some (⟨place, some .ifServerPtr⟩, { s with pending := false })
      else (placeStep noInput platform config oracle place s).map fun (place, s) =>
        (⟨place, none⟩, s)

/-- The next step of an actor.  The controller of the server is the main thread. -/
def move [DecidableEq ι] : (a : Actor ι) → a.Place → Shared ι → Option (a.Place × Shared ι)
  | .main, stack, s => mainStep noInput platform config oracle stack s
  | .io, place, s =>
      (IoThread.threadRun place s.io.fields s.scheduler).map fun (place, fields, scheduler) =>
        (place, { s with io := { s.io with fields }, scheduler })
  | .user, 0, _ => none
  | .user, inputs + 1, s =>
      some (inputs, if noInput then { s with pending := true }
        else { s with scheduler := { s.scheduler with left := true } })
  | .thread .controller, _, _ => none
  | .thread a, place, s => processStep platform config oracle a place s

/-- The process has ended. -/
def Shared.halted (s : Shared ι) : Bool :=
  s.process.halted || s.io.fields.aborted

/-- The thread of the actor was created. -/
def Shared.created (s : Shared ι) : Actor ι → Bool
  | .io => s.io.fields.created
  | .thread a => s.process.created a
  | _ => true

/-- The next step of an actor, when its thread was created and the process has not ended. -/
def step [DecidableEq ι] (a : Actor ι) (place : a.Place) (s : Shared ι) :
    Option (a.Place × Shared ι) :=
  if s.halted || !s.created a then none else move noInput platform config oracle a place s

/-- `main` is about to start the server, and the user will make the given number of inputs. -/
def initial (inputs : ℕ) (messages : ι → List String) (changes : List Bool) (world : World) :
    Threads (Actor.Place (ι := ι)) (Shared ι) where
  locals
    | .main => ⟨.startServer (Process.first platform), none⟩
    | .io => .worker (if platform.debug then .assertStarting else .unlessStarting)
    | .user => inputs
    | .thread a => (Process.initial platform messages changes world).locals a
  shared :=
    { process := (Process.initial platform messages changes world).shared
      threads := fun _ => false
      io := ⟨⟨.notRunning, false, false, false⟩, false⟩
      scheduler := ⟨false, false⟩
      serverPtr := false
      pending := false }

end Steps

end Main

end UwpxPush
