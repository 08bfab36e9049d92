import UwpxPush.Interleaving.Basic

/-!
# Starting and stopping

`PushServer`, `TcpServer` and `XmppClient` each have a thread and a field `state`, which the
thread and the controller that starts and stops it both read and write.  `Controller.step`
is `start()` followed by `stop()`, and `PushServer.threadRun`, `TcpServer.threadRun` and
`XmppClient.threadRun` are the functions of the threads; a step reads or writes the field
once, or creates, joins or ends the thread.  What the functions do between two such steps
does not touch the field and is left out.

A stop is kept when the thread ends after it, and lost when the thread stores `RUNNING`
over the request.  It is kept if and only if the request is not stored while the thread is
between its check of the field and its store of `RUNNING`.
-/

namespace UwpxPush

/-- The constants of `PushServerState`, `TcpServerState` and `XmppClientState`. -/
inductive ThreadState where
  | notRunning
  | starting
  | running
  | stopRequested
  | waitingForJoin
  deriving DecidableEq

/-- What the controller and the thread share: the field, whether the thread can run, whether
it has ended, and whether a failed assertion has ended the process. -/
structure Fields where
  state : ThreadState
  created : Bool
  ended : Bool
  aborted : Bool
  deriving DecidableEq

/-- Where the controller is in `start()` and `stop()`. -/
inductive Controller where
  /-- `assert(state == NOT_RUNNING)` -/
  | assertNotRunning
  /-- `state = STARTING` -/
  | storeStarting
  /-- The thread is created. -/
  | create
  /-- The three reads of `if (state == STARTING || state == RUNNING || ...)`. -/
  | ifStarting
  | ifRunning
  | ifWaitingForJoin
  /-- `if (state != WAITING_FOR_JOIN)` -/
  | unlessWaitingForJoin
  /-- `state = STOP_REQUESTED` -/
  | storeStopRequested
  /-- `thread->join()` -/
  | join
  /-- `state = NOT_RUNNING` -/
  | storeNotRunning
  | returned
  deriving DecidableEq

/-- Where the thread is in its function. -/
inductive Worker where
  /-- The two reads of `assert(state == STARTING || state == STOP_REQUESTED)`. -/
  | assertStarting
  | assertStopRequested
  /-- `if (state != STARTING)` -/
  | unlessStarting
  /-- `state = RUNNING` -/
  | storeRunning
  /-- `while (state == RUNNING)` -/
  | whileRunning
  /-- The read of the field for the log, after the connection to the XMPP server ended. -/
  | ifRunning
  /-- `i < 20 && state == RUNNING`, in the round `i` of the loop before a reconnection. -/
  | forRunning (i : ℕ)
  /-- `state = WAITING_FOR_JOIN` -/
  | storeWaitingForJoin
  | returned
  deriving DecidableEq

/-- The next step of `start()` and `stop()`. -/
def Controller.step : Controller → Fields → Option (Controller × Fields)
  | .assertNotRunning, f =>
      if f.state = .notRunning then some (.storeStarting, f)
      else some (.assertNotRunning, { f with aborted := true })
  | .storeStarting, f => some (.create, { f with state := .starting })
  | .create, f => some (.ifStarting, { f with created := true })
  | .ifStarting, f =>
      some (if f.state = .starting then .unlessWaitingForJoin else .ifRunning, f)
  | .ifRunning, f =>
      some (if f.state = .running then .unlessWaitingForJoin else .ifWaitingForJoin, f)
  | .ifWaitingForJoin, f =>
      some (if f.state = .waitingForJoin then .unlessWaitingForJoin else .returned, f)
  | .unlessWaitingForJoin, f =>
      some (if f.state = .waitingForJoin then .join else .storeStopRequested, f)
  | .storeStopRequested, f => some (.join, { f with state := .stopRequested })
  | .join, f => if f.ended then some (.storeNotRunning, f) else none
  | .storeNotRunning, f => some (.returned, { f with state := .notRunning })
  | .returned, _ => none

/-- The next step of a thread whose loop has the given first read in its body. -/
def Worker.step (body : Worker) : Worker → Fields → Option (Worker × Fields)
  | .assertStarting, f =>
      some (if f.state = .starting then .unlessStarting else .assertStopRequested, f)
  | .assertStopRequested, f =>
      if f.state = .stopRequested then some (.unlessStarting, f)
      else some (.assertStopRequested, { f with aborted := true })
  | .unlessStarting, f =>
      if f.state = .starting then some (.storeRunning, f)
      else some (.returned, { f with ended := true })
  | .storeRunning, f => some (.whileRunning, { f with state := .running })
  | .whileRunning, f => some (if f.state = .running then body else .storeWaitingForJoin, f)
  | .ifRunning, f => some (.forRunning 0, f)
  | .forRunning i, f =>
      -- The test `20 < 20` after the last round does not read the field.
      some (if f.state = .running ∧ i + 1 < 20 then .forRunning (i + 1) else .whileRunning, f)
  | .storeWaitingForJoin, f =>
      some (.returned, { f with state := .waitingForJoin, ended := true })
  | .returned, _ => none

/-- `PushServer::thread_run` -/
def PushServer.threadRun : Worker → Fields → Option (Worker × Fields) :=
  Worker.step .whileRunning

/-- `TcpServer::threadRun` -/
def TcpServer.threadRun : Worker → Fields → Option (Worker × Fields) :=
  Worker.step .whileRunning

/-- `XmppClient::thread_run` -/
def XmppClient.threadRun : Worker → Fields → Option (Worker × Fields) :=
  Worker.step .ifRunning

/-- The components that have a thread. -/
inductive Component where
  | pushServer
  | tcpServer
  | xmppClient
  deriving DecidableEq

/-- The function of the thread. -/
def Component.threadRun : Component → Worker → Fields → Option (Worker × Fields)
  | .pushServer => PushServer.threadRun
  | .tcpServer => TcpServer.threadRun
  | .xmppClient => XmppClient.threadRun

/-- The threads that use the field. -/
inductive Party where
  | controller
  | worker
  deriving DecidableEq

/-- Where a party is in its functions. -/
abbrev Party.Place : Party → Type
  | .controller => Controller
  | .worker => Worker

/-- The next step of a party.  The thread steps once it was created, and nothing steps in a
process that has ended. -/
def Component.step (c : Component) : (p : Party) → p.Place → Fields → Option (p.Place × Fields)
  | .controller, place, f => if f.aborted then none else Controller.step place f
  | .worker, place, f => if f.aborted ∨ ¬f.created then none else c.threadRun place f

/-- A component whose `start()` and `stop()` are about to be called.  The assertions are
passed over where the build does not keep them. -/
def Component.initial (debug : Bool) : Threads Party.Place Fields where
  locals
    | .controller => if debug then Controller.assertNotRunning else Controller.storeStarting
    | .worker => if debug then Worker.assertStarting else Worker.unlessStarting
  shared := ⟨.notRunning, false, false, false⟩

/-! ### What every step keeps -/

/-- The places of the controller and the worker, and the fields, satisfy `I`. -/
def Satisfies (I : Controller → Worker → Fields → Prop) (t : Threads Party.Place Fields) :
    Prop :=
  I (t.locals .controller) (t.locals .worker) t.shared

variable {c : Component} {debug : Bool} {t : Threads Party.Place Fields}

/-- What the steps of `start()` and `stop()`, and those of the thread, keep is kept. -/
theorem Satisfies.next {I : Controller → Worker → Fields → Prop}
    (hcontroller : ∀ k w f k' f', I k w f → Controller.step k f = some (k', f') → I k' w f')
    (hworker : ∀ k w f w' f', I k w f → f.created = true →
      c.threadRun w f = some (w', f') → I k w' f')
    (p : Party) (h : Satisfies I t) :
  Satisfies I (Threads.next c.step p t)
  := by
  rcases hstep : c.step p (t.locals p) t.shared with _ | ⟨place, f⟩
  · rw [Threads.next_of_none hstep]
    apply h
  · rw [Threads.next_of_some hstep]
    cases p with
    | controller =>
        have hmove := (Option.ite_none_left_eq_some.mp hstep).2
        apply hcontroller _ _ _ _ _ h hmove
    | worker =>
        obtain ⟨hcreated, hmove⟩ := Option.ite_none_left_eq_some.mp hstep
        apply hworker _ _ _ _ _ h _ hmove
        by_contra hnot
        exact hcreated (.inr hnot)

/-- What every step keeps holds after every schedule. -/
theorem Satisfies.run {I : Controller → Worker → Fields → Prop}
    (hcontroller : ∀ k w f k' f', I k w f → Controller.step k f = some (k', f') → I k' w f')
    (hworker : ∀ k w f w' f', I k w f → f.created = true →
      c.threadRun w f = some (w', f') → I k w' f')
    (h : Satisfies I t) (schedule : List Party) :
  Satisfies I (Threads.run c.step schedule t)
  := by
  apply Threads.run_invariant _ h
  intro p t h
  apply h.next hcontroller hworker

/-- The thread of a component runs a loop whose body starts with one of two reads. -/
theorem threadRun_eq (c : Component) :
  ∃ body, (body = .whileRunning ∨ body = .ifRunning) ∧ c.threadRun = Worker.step body
  := by
  cases c with
  | pushServer => exact ⟨.whileRunning, .inl rfl, rfl⟩
  | tcpServer => exact ⟨.whileRunning, .inl rfl, rfl⟩
  | xmppClient => exact ⟨.ifRunning, .inr rfl, rfl⟩

/-! ### Before the request to stop -/

/-- The thread has not yet stored `RUNNING`. -/
def Worker.IsEarly (w : Worker) : Prop :=
  w = .assertStarting ∨ w = .unlessStarting ∨ w = .storeRunning

/-- The thread is in its loop. -/
def Worker.IsLooping (w : Worker) : Prop :=
  w = .whileRunning ∨ w = .ifRunning ∨ ∃ i, w = .forRunning i

/-- `start()` has not created the thread, or the thread goes its way and `stop()` has found
the field `STARTING` or `RUNNING`. -/
inductive Starting : Controller → Worker → Fields → Prop where
  | assertNotRunning {w : Worker} (hw : w = .assertStarting ∨ w = .unlessStarting) :
      Starting .assertNotRunning w ⟨.notRunning, false, false, false⟩
  | storeStarting {w : Worker} (hw : w = .assertStarting ∨ w = .unlessStarting) :
      Starting .storeStarting w ⟨.notRunning, false, false, false⟩
  | create {w : Worker} (hw : w = .assertStarting ∨ w = .unlessStarting) :
      Starting .create w ⟨.starting, false, false, false⟩
  | early {k : Controller} {w : Worker}
      (hk : k = .ifStarting ∨ k = .unlessWaitingForJoin ∨ k = .storeStopRequested)
      (hw : w.IsEarly) :
      Starting k w ⟨.starting, true, false, false⟩
  | looping {k : Controller} {w : Worker}
      (hk : k = .ifStarting ∨ k = .ifRunning ∨ k = .unlessWaitingForJoin
        ∨ k = .storeStopRequested)
      (hw : w.IsLooping) :
      Starting k w ⟨.running, true, false, false⟩

/-- No assertion has failed. -/
theorem Starting.not_aborted {k : Controller} {w : Worker} {f : Fields}
    (h : Starting k w f) :
  f.aborted = false
  := by
  cases h <;> rfl

theorem Starting.initial (debug : Bool) :
  Satisfies Starting (Component.initial debug)
  := by
  cases debug with
  | false => exact .storeStarting (.inr rfl)
  | true => exact .assertNotRunning (.inl rfl)

/-- A move of the controller before its request to stop. -/
theorem Starting.controller {k k' : Controller} {w : Worker} {f f' : Fields}
    (h : Starting k w f) (hk : k ≠ .storeStopRequested)
    (hstep : Controller.step k f = some (k', f')) :
  Starting k' w f'
  := by
  cases h with
  | assertNotRunning hw =>
      cases hstep
      exact .storeStarting hw
  | storeStarting hw =>
      cases hstep
      exact .create hw
  | create hw =>
      cases hstep
      apply Starting.early (.inl rfl)
      rcases hw with hw | hw
      · exact .inl hw
      · exact .inr (.inl hw)
  | early hk' hw =>
      rcases hk' with rfl | rfl | rfl
      · cases hstep
        exact .early (.inr (.inl rfl)) hw
      · cases hstep
        exact .early (.inr (.inr rfl)) hw
      · exact (hk rfl).elim
  | looping hk' hw =>
      rcases hk' with rfl | rfl | rfl | rfl
      · cases hstep
        exact .looping (.inr (.inl rfl)) hw
      · cases hstep
        exact .looping (.inr (.inr (.inl rfl))) hw
      · cases hstep
        exact .looping (.inr (.inr (.inr rfl))) hw
      · exact (hk rfl).elim

/-- In its loop the thread stays there as long as the field is `RUNNING`. -/
theorem looping_of_running {w w' : Worker} {f f' : Fields} (hw : w.IsLooping)
    (hf : f.state = .running) (hstep : c.threadRun w f = some (w', f')) :
  w'.IsLooping ∧ f' = f
  := by
  obtain ⟨body, hbody, hc⟩ := threadRun_eq c
  rw [hc] at hstep
  rcases hw with rfl | rfl | ⟨i, rfl⟩
  · rw [Worker.step, if_pos hf] at hstep
    cases hstep
    rcases hbody with rfl | rfl
    · exact ⟨.inl rfl, rfl⟩
    · exact ⟨.inr (.inl rfl), rfl⟩
  · cases hstep
    exact ⟨.inr (.inr ⟨0, rfl⟩), rfl⟩
  · rw [Worker.step] at hstep
    cases hstep
    split
    · exact ⟨.inr (.inr ⟨i + 1, rfl⟩), rfl⟩
    · exact ⟨.inl rfl, rfl⟩

/-- A move of the thread before the request to stop. -/
theorem Starting.worker {k : Controller} {w w' : Worker} {f f' : Fields}
    (h : Starting k w f) (hcreated : f.created = true)
    (hstep : c.threadRun w f = some (w', f')) :
  Starting k w' f'
  := by
  cases h with
  | assertNotRunning hw => cases hcreated
  | storeStarting hw => cases hcreated
  | create hw => cases hcreated
  | early hk hw =>
      obtain ⟨body, -, hc⟩ := threadRun_eq c
      rw [hc] at hstep
      rcases hw with rfl | rfl | rfl
      · cases hstep
        exact .early hk (.inr (.inl rfl))
      · cases hstep
        exact .early hk (.inr (.inr rfl))
      · cases hstep
        apply Starting.looping _ (.inl rfl)
        rcases hk with rfl | rfl | rfl
        · exact .inl rfl
        · exact .inr (.inr (.inl rfl))
        · exact .inr (.inr (.inr rfl))
  | looping hk hw =>
      obtain ⟨hw', rfl⟩ := looping_of_running hw rfl hstep
      exact .looping hk hw'

/-! ### After the request to stop -/

/-- The request is seen: the field stays `STOP_REQUESTED` until the thread ends. -/
inductive Stopping : Controller → Worker → Fields → Prop where
  | asked {w : Worker} (hstore : w ≠ .storeRunning) (hw : w ≠ .returned) :
      Stopping .join w ⟨.stopRequested, true, false, false⟩
  | ended {k : Controller} {f : Fields} (hk : k = .join ∨ k = .storeNotRunning ∨ k = .returned)
      (hf : f.state ≠ .running) (hended : f.ended = true) :
      Stopping k .returned f

/-- The request is about to be overwritten, or was. -/
inductive Lost : Controller → Worker → Fields → Prop where
  | overwriting : Lost .join .storeRunning ⟨.stopRequested, true, false, false⟩
  | overwritten {w : Worker} (hw : w.IsLooping) : Lost .join w ⟨.running, true, false, false⟩

/-- The steps a thread still makes once the field is `STOP_REQUESTED`. -/
def Worker.rest : Worker → ℕ
  | .assertStarting => 3
  | .assertStopRequested => 2
  | .unlessStarting => 1
  | .storeRunning => 0
  | .whileRunning => 2
  | .ifRunning => 4
  | .forRunning _ => 3
  | .storeWaitingForJoin => 1
  | .returned => 0

theorem Worker.rest_le (w : Worker) :
  w.rest ≤ 4
  := by
  cases w <;> simp [Worker.rest]

/-- The controller waits for the thread and does not ask again. -/
theorem Stopping.controller {k k' : Controller} {w : Worker} {f f' : Fields}
    (h : Stopping k w f) (hstep : Controller.step k f = some (k', f')) :
  Stopping k' w f'
  := by
  cases h with
  | asked hstore hw => cases hstep
  | ended hk hf hended =>
      rcases hk with rfl | rfl | rfl
      · rw [Controller.step, if_pos hended] at hstep
        cases hstep
        exact .ended (.inr (.inl rfl)) hf hended
      · cases hstep
        exact .ended (.inr (.inr rfl)) nofun hended
      · cases hstep

/-- The thread leaves its loop, and each of its steps brings it closer to its end. -/
theorem Stopping.worker {k : Controller} {w w' : Worker} {f f' : Fields}
    (h : Stopping k w f) (hstep : c.threadRun w f = some (w', f')) :
  Stopping k w' f' ∧ w'.rest ≤ w.rest - 1
  := by
  obtain ⟨body, -, hc⟩ := threadRun_eq c
  rw [hc] at hstep
  cases h with
  | asked hstore hw =>
      cases w with
      | assertStarting =>
          cases hstep
          exact ⟨.asked nofun nofun, Nat.le_refl _⟩
      | assertStopRequested =>
          cases hstep
          exact ⟨.asked nofun nofun, Nat.le_refl _⟩
      | unlessStarting =>
          cases hstep
          exact ⟨.ended (.inl rfl) nofun rfl, Nat.le_refl _⟩
      | storeRunning => exact (hstore rfl).elim
      | whileRunning =>
          cases hstep
          exact ⟨.asked nofun nofun, Nat.le_refl _⟩
      | ifRunning =>
          cases hstep
          exact ⟨.asked nofun nofun, Nat.le_refl _⟩
      | forRunning i =>
          rw [Worker.step, if_neg (fun hi => nomatch hi.1)] at hstep
          cases hstep
          exact ⟨.asked nofun nofun, Nat.le_refl _⟩
      | storeWaitingForJoin =>
          cases hstep
          exact ⟨.ended (.inl rfl) nofun rfl, Nat.le_refl _⟩
      | returned => exact (hw rfl).elim
  | ended hk hf hended => cases hstep

/-- Only a thread that has ended has no step. -/
theorem Stopping.returned {k : Controller} {w : Worker} {f : Fields} (h : Stopping k w f)
    (hstep : c.step .worker w f = none) :
  w = .returned
  := by
  cases h with
  | asked hstore hw =>
      obtain ⟨body, -, hc⟩ := threadRun_eq c
      have hnone : Worker.step body w ⟨.stopRequested, true, false, false⟩ = none := by
        rw [← hc]
        apply hstep
      cases w with
      | returned => rfl
      | _ => cases hnone
  | ended hk hf hended => rfl

theorem Stopping.ended_of_rest {k : Controller} {w : Worker} {f : Fields}
    (h : Stopping k w f) (hrest : w.rest = 0) :
  f.ended = true
  := by
  cases h with
  | asked hstore hw =>
      cases w with
      | storeRunning => exact (hstore rfl).elim
      | returned => exact (hw rfl).elim
      | _ => cases hrest
  | ended hk hf hended => apply hended

theorem Stopping.ne_storeRunning {k : Controller} {w : Worker} {f : Fields}
    (h : Stopping k w f) :
  w ≠ .storeRunning
  := by
  cases h with
  | asked hstore _ => apply hstore
  | ended _ _ _ => nofun

theorem Stopping.not_running {k : Controller} {w : Worker} {f : Fields}
    (h : Stopping k w f) :
  f.state ≠ .running
  := by
  cases h with
  | asked _ _ => nofun
  | ended _ hf _ => apply hf

theorem Lost.not_ended {k : Controller} {w : Worker} {f : Fields} (h : Lost k w f) :
  f.ended = false
  := by
  cases h with
  | overwriting => rfl
  | overwritten _ => rfl

theorem Lost.controller {k k' : Controller} {w : Worker} {f f' : Fields}
    (h : Lost k w f) (hstep : Controller.step k f = some (k', f')) :
  Lost k' w f'
  := by
  cases h with
  | overwriting => cases hstep
  | overwritten hw => cases hstep

/-- A thread that overwrote the request stays in its loop. -/
theorem Lost.worker {k : Controller} {w w' : Worker} {f f' : Fields}
    (h : Lost k w f) (hstep : c.threadRun w f = some (w', f')) :
  Lost k w' f'
  := by
  cases h with
  | overwriting =>
      obtain ⟨body, -, hc⟩ := threadRun_eq c
      rw [hc] at hstep
      cases hstep
      exact .overwritten (.inl rfl)
  | overwritten hw =>
      obtain ⟨hw', rfl⟩ := looping_of_running hw rfl hstep
      exact .overwritten hw'

/-- The request comes before the thread's check, or when the thread is in its loop. -/
theorem Starting.stopping {w : Worker} {f : Fields} (h : Starting .storeStopRequested w f)
    (hstore : w ≠ .storeRunning) :
  Stopping .join w { f with state := .stopRequested }
  := by
  have hw : w ≠ .returned := by
    rintro rfl
    cases h with
    | early hk hw => exact nomatch hw
    | looping hk hw => exact nomatch hw
  cases h with
  | early hk _ => exact .asked hstore hw
  | looping hk _ => exact .asked hstore hw

/-- The request comes between the thread's check and its store. -/
theorem Starting.lost {f : Fields} (h : Starting .storeStopRequested .storeRunning f) :
  Lost .join .storeRunning { f with state := .stopRequested }
  := by
  cases h with
  | early hk hw => exact .overwriting
  | looping hk hw => exact .overwriting

/-! ### Whole schedules -/

/-- What holds of a component from the call of `start()` on. -/
def Sound (k : Controller) (w : Worker) (f : Fields) : Prop :=
  Starting k w f ∨ Stopping k w f ∨ Lost k w f

theorem Sound.controller {k k' : Controller} {w : Worker} {f f' : Fields} (h : Sound k w f)
    (hstep : Controller.step k f = some (k', f')) :
  Sound k' w f'
  := by
  rcases h with h | h | h
  · by_cases hk : k = .storeStopRequested
    · subst hk
      cases hstep
      by_cases hw : w = .storeRunning
      · subst hw
        exact .inr (.inr h.lost)
      · exact .inr (.inl (h.stopping hw))
    · exact .inl (h.controller hk hstep)
  · exact .inr (.inl (h.controller hstep))
  · exact .inr (.inr (h.controller hstep))

theorem Sound.worker {k : Controller} {w w' : Worker} {f f' : Fields} (h : Sound k w f)
    (hcreated : f.created = true) (hstep : c.threadRun w f = some (w', f')) :
  Sound k w' f'
  := by
  rcases h with h | h | h
  · exact .inl (h.worker hcreated hstep)
  · exact .inr (.inl (h.worker hstep).1)
  · exact .inr (.inr (h.worker hstep))

/-- The request to stop is stored by a component that is still starting. -/
theorem Sound.starting {w : Worker} {f : Fields} (h : Sound .storeStopRequested w f) :
  Starting .storeStopRequested w f
  := by
  rcases h with h | h | h
  · apply h
  · cases h with
    | ended hk _ _ => exact nomatch hk
  · cases h

/-- A component is starting, is stopping, or has lost the request to stop. -/
theorem sound_run (c : Component) (debug : Bool) (schedule : List Party) :
  Satisfies Sound (Threads.run c.step schedule (Component.initial debug))
  := by
  have hinitial : Satisfies Sound (Component.initial debug) := .inl (Starting.initial debug)
  apply hinitial.run
  · intro k w f k' f' h
    apply h.controller
  · intro k w f w' f' h
    apply h.worker

theorem Stopping.next (p : Party) (h : Satisfies Stopping t) :
  Satisfies Stopping (Threads.next c.step p t)
  := by
  apply h.next
  · intro k w f k' f' h
    apply h.controller
  · intro k w f w' f' h _ hstep
    apply (h.worker hstep).1

theorem Stopping.run (h : Satisfies Stopping t) (schedule : List Party) :
  Satisfies Stopping (Threads.run c.step schedule t)
  := Threads.run_invariant (fun p _ => Stopping.next p) h schedule

theorem Lost.run (h : Satisfies Lost t) (schedule : List Party) :
  Satisfies Lost (Threads.run c.step schedule t)
  := by
  apply h.run
  · intro k w f k' f' h
    apply h.controller
  · intro k w f w' f' h _
    apply h.worker

/-- Each turn of the thread brings it closer to its end. -/
theorem Stopping.rest_next (h : Satisfies Stopping t) :
  Worker.rest ((Threads.next c.step .worker t).locals .worker)
    ≤ Worker.rest (t.locals .worker) - 1
  := by
  rcases hstep : c.step .worker (t.locals .worker) t.shared with _ | ⟨place, f⟩
  · have hreturned : t.locals .worker = Worker.returned := Stopping.returned h hstep
    rw [Threads.next_of_none hstep, hreturned]
    apply Nat.zero_le
  · rw [Threads.next_of_some hstep]
    have hmove := (Option.ite_none_left_eq_some.mp hstep).2
    apply (Stopping.worker h hmove).2

/-- After four turns the thread has ended, whatever the controller does in between. -/
theorem Stopping.ended_run (h : Satisfies Stopping t) {schedule : List Party}
    (hturns : 4 ≤ schedule.count .worker) :
  (Threads.run c.step schedule t).shared.ended = true
  := by
  have hrest : Worker.rest ((Threads.run c.step schedule t).locals .worker)
      ≤ Worker.rest (t.locals .worker) - schedule.count .worker := by
    apply Threads.run_measure (I := Satisfies Stopping)
      (m := fun t => Worker.rest (t.locals .worker)) _ _ _ h
    · intro p t h
      apply Stopping.next p h
    · intro t h
      apply Stopping.rest_next h
    · intro p t hp _
      exact Nat.le_of_eq (congrArg Worker.rest (Threads.locals_next_of_ne hp.symm))
  have hle := Worker.rest_le (t.locals .worker)
  apply Stopping.ended_of_rest (Stopping.run h schedule)
  omega

/-! ### The request to stop -/

/-- After the system `t` the thread does not store `RUNNING`, its loop's condition is false,
and it ends, so that `join()` returns. -/
structure StopKept (c : Component) (t : Threads Party.Place Fields) : Prop where
  never_stores : ∀ schedule,
    (Threads.run c.step schedule t).locals .worker ≠ Worker.storeRunning
  not_running : ∀ schedule, (Threads.run c.step schedule t).shared.state ≠ .running
  ends : ∀ schedule, 4 ≤ schedule.count Party.worker →
    (Threads.run c.step schedule t).shared.ended = true

theorem Stopping.kept (h : Satisfies Stopping t) :
  StopKept c t
  := by
  constructor
  · intro schedule
    apply Stopping.ne_storeRunning (Stopping.run h schedule)
  · intro schedule
    apply Stopping.not_running (Stopping.run h schedule)
  · intro schedule
    apply Stopping.ended_run h

/-- Once `RUNNING` is stored over the request, the thread never ends. -/
theorem Lost.not_ended_run (h : Satisfies Lost t) (schedule : List Party) :
  (Threads.run c.step schedule t).shared.ended = false
  := Lost.not_ended (Lost.run h schedule)

/-- A request to stop is kept if and only if it is not stored while the thread is between
its check of the field and its store of `RUNNING`. -/
theorem stopKept_iff {c : Component} {debug : Bool} {earlier : List Party}
    {t : Threads Party.Place Fields}
    (ht : t = Threads.run c.step earlier (Component.initial debug))
    (hstop : t.locals .controller = Controller.storeStopRequested) :
  StopKept c (Threads.next c.step .controller t) ↔ t.locals .worker ≠ Worker.storeRunning
  := by
  have hstarting : Starting .storeStopRequested (t.locals .worker) t.shared := by
    have hsound := sound_run c debug earlier
    rw [← ht, Satisfies, hstop] at hsound
    apply hsound.starting
  have hmove : c.step .controller (t.locals .controller) t.shared
      = some (Controller.join, { t.shared with state := .stopRequested }) := by
    rw [hstop]
    exact if_neg (by rw [hstarting.not_aborted]; nofun)
  rw [Threads.next_of_some hmove]
  constructor
  · intro hkept hstore
    apply hkept.never_stores []
    apply hstore
  · intro hstore
    apply Stopping.kept
    apply hstarting.stopping hstore

/-- The controller is about to ask for the stop after the given turns of the thread. -/
def Sample.stopping (c : Component) (turns : ℕ) : Threads Party.Place Fields :=
  Threads.run c.step
    (List.replicate 3 .controller ++ List.replicate turns .worker ++ List.replicate 2 .controller)
    (Component.initial true)

/-- A stop that is asked for before the thread has run. -/
theorem stopKept_iff_early :
  StopKept .xmppClient
      (Threads.next Component.xmppClient.step .controller (Sample.stopping .xmppClient 0))
    ↔ (Sample.stopping .xmppClient 0).locals .worker ≠ Worker.storeRunning
  := stopKept_iff rfl rfl

/-- The thread of the server has found the field `STARTING` when the stop is requested: it
stores `RUNNING` over the request and never ends. -/
theorem not_stopKept_overwritten :
  (Sample.stopping .pushServer 2).locals .controller = Controller.storeStopRequested
    ∧ (let t := Threads.next Component.pushServer.step .controller (Sample.stopping .pushServer 2)
      t.shared.state = .stopRequested
        ∧ (Threads.next Component.pushServer.step .worker t).shared.state = .running
        ∧ (∀ schedule, (Threads.run Component.pushServer.step schedule t).shared.ended = false)
        ∧ ¬StopKept .pushServer t)
  := by
  use rfl, rfl, rfl
  constructor
  · apply Lost.not_ended_run
    exact .overwriting
  · intro hkept
    apply hkept.never_stores []
    rfl

end UwpxPush
