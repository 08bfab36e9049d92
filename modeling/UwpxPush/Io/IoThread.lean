import UwpxPush.Server.Lifecycle

/-!
# The IO thread

`IoThread` has a thread and a field `state` as the other components have, and a scheduler on
which the session of the console runs.  The thread stays in `scheduler.Run()` until
`scheduler.Stop()` was called; the exit action of the session asks for the stop from within
`Run()`, when the user leaves the session.
-/

namespace UwpxPush

/-- Where `IoThread::threadRun` is. -/
inductive IoPlace where
  /-- It reads or writes the field. -/
  | worker (w : Worker)
  /-- `scheduler.Run()` -/
  | run
  /-- The exit action: `state = STOP_REQUESTED` and `scheduler.Stop()` -/
  | storeStopRequested
  | schedulerStop
  deriving DecidableEq

/-- The scheduler and its session. -/
structure Scheduler where
  /-- `scheduler.Stop()` was called. -/
  stopped : Bool
  /-- The user has left the session. -/
  left : Bool
  deriving DecidableEq

namespace IoThread

/-- The next step of `IoThread::threadRun`. -/
def threadRun : IoPlace → Fields → Scheduler → Option (IoPlace × Fields × Scheduler)
  | .worker .storeRunning, f, c => some (.run, { f with state := .running }, c)
  | .run, f, c =>
      if c.stopped then some (.worker .storeWaitingForJoin, f, c)
      else if c.left then some (.storeStopRequested, f, c)
      else none
  | .storeStopRequested, f, c => some (.schedulerStop, { f with state := .stopRequested }, c)
  | .schedulerStop, f, c => some (.run, f, { c with stopped := true })
  | .worker w, f, c => (Worker.step .whileRunning w f).map fun (w, f) => (.worker w, f, c)

end IoThread

end UwpxPush
