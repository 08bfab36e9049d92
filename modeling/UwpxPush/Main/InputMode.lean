import UwpxPush.Main.Driving

/-!
# Input mode

`main` looks at the state of the IO thread until it is `WAITING_FOR_JOIN`, which the thread
stores last.  So `ioThread.stop()` never has to ask for the stop, and every thread has been
joined when the destructors run.
-/

namespace UwpxPush

namespace Main

/-- What `main` has done with the IO thread. -/
inductive Stage where
  | idle
  | creating
  | polling
  | stopping
  | joined
  /-- A place that `main` does not come to in input mode. -/
  | never
  deriving DecidableEq

def Place.stage : Place → Stage
  | .startServer .assertNotRunning => .idle
  | .startServer .storeStarting => .idle
  | .startServer .create => .idle
  | .startIo .assertNotRunning => .idle
  | .startIo .storeStarting => .idle
  | .startIo .create => .creating
  | .whileNotWaiting => .polling
  | .stopServer .ifStarting => .stopping
  | .stopServer .ifRunning => .stopping
  | .stopServer .unlessWaitingForJoin => .stopping
  | .stopServer .storeStopRequested => .stopping
  | .stopServer .join => .stopping
  | .stopServer .storeNotRunning => .stopping
  | .stopIo .ifStarting => .stopping
  | .stopIo .ifRunning => .stopping
  | .stopIo .ifWaitingForJoin => .stopping
  | .stopIo .unlessWaitingForJoin => .stopping
  | .stopIo .join => .stopping
  | .stopIo .storeNotRunning => .stopping
  | .destroyIo => .joined
  | .destroy _ => .joined
  | .returned => .joined
  | _ => .never

/-- The IO thread, from its creation to its last store, with the field and the scheduler. -/
inductive IoLive : IoPlace → ThreadState → Scheduler → Prop where
  | early {w : Worker} (hw : w.IsEarly) (left : Bool) : IoLive (.worker w) .starting ⟨false, left⟩
  | run (left : Bool) : IoLive .run .running ⟨false, left⟩
  | left : IoLive .storeStopRequested .running ⟨false, true⟩
  | stopping : IoLive .schedulerStop .stopRequested ⟨false, true⟩
  | stopped : IoLive .run .stopRequested ⟨true, true⟩
  | storing : IoLive (.worker .storeWaitingForJoin) .stopRequested ⟨true, true⟩

/-- The IO thread is where `main` expects it. -/
inductive IoSound : Stage → IoPlace → Owned → Scheduler → Prop where
  | idle {w : Worker} (hw : w = .assertStarting ∨ w = .unlessStarting) (left : Bool) :
      IoSound .idle (.worker w) ⟨⟨.notRunning, false, false, false⟩, false⟩ ⟨false, left⟩
  | creating {w : Worker} (hw : w = .assertStarting ∨ w = .unlessStarting) (left : Bool) :
      IoSound .creating (.worker w) ⟨⟨.starting, false, false, false⟩, false⟩ ⟨false, left⟩
  | live {io : IoPlace} {state : ThreadState} {c : Scheduler} (h : IoLive io state c) :
      IoSound .polling io ⟨⟨state, true, false, false⟩, true⟩ c
  | ended :
      IoSound .polling (.worker .returned) ⟨⟨.waitingForJoin, true, true, false⟩, true⟩
        ⟨true, true⟩
  | stopping :
      IoSound .stopping (.worker .returned) ⟨⟨.waitingForJoin, true, true, false⟩, true⟩
        ⟨true, true⟩
  | joined :
      IoSound .joined (.worker .returned) ⟨⟨.notRunning, true, true, false⟩, false⟩ ⟨true, true⟩

section Steps

variable {platform : Platform} {w : Worker} {io io' : IoPlace} {o o' : Owned}
  {c c' : Scheduler} {k k' : Controller}

theorem IoSound.aborted {stage : Stage} (h : IoSound stage io o c) :
  o.fields.aborted = false
  := by
  cases h <;> rfl

/-- The field is `WAITING_FOR_JOIN` once the thread has ended. -/
theorem IoSound.stopping_of_waiting (h : IoSound .polling io o c)
    (hstate : o.fields.state = .waitingForJoin) :
  IoSound .stopping io o c
  := by
  cases h with
  | live hlive => cases hlive <;> cases hstate
  | ended => exact .stopping

/-- A step of `server.start()`. -/
theorem IoSound.startServer (h : IoSound (Place.stage (.startServer k)) io o c) {f f' : Fields}
    (hserver : Sound k w f) (hstep : Controller.step k f = some (k', f')) :
  IoSound (Place.stage (if k' = .ifStarting then .startIo (Process.first platform)
      else .startServer k'))
    io o c
  := by
  cases k with
  | assertNotRunning =>
      rw [Controller.step, if_pos hserver.notRunning] at hstep
      cases hstep
      exact h
  | storeStarting =>
      cases hstep
      exact h
  | create =>
      cases hstep
      change IoSound (Place.stage (.startIo (Process.first platform))) io o c
      rw [Process.first]
      split <;> exact h
  | _ => cases h

/-- A step of `server.stop()`. -/
theorem IoSound.stopServer (h : IoSound (Place.stage (.stopServer k)) io o c) {f f' : Fields}
    (hserver : Sound k w f) (hstep : Controller.step k f = some (k', f')) :
  IoSound (Place.stage (if k' = .returned then .stopIo .ifStarting else .stopServer k')) io o c
  := by
  cases k with
  | ifStarting =>
      cases hstep
      split
      · exact h
      · exact h
  | ifRunning =>
      rw [Controller.step, if_pos hserver.running] at hstep
      cases hstep
      exact h
  | unlessWaitingForJoin =>
      cases hstep
      split
      · exact h
      · exact h
  | storeStopRequested =>
      cases hstep
      exact h
  | join =>
      rw [Controller.step] at hstep
      split at hstep
      · cases hstep
        exact h
      · cases hstep
  | storeNotRunning =>
      cases hstep
      exact h
  | _ => cases h

/-- A step of `ioThread.start()`. -/
theorem IoSound.start (h : IoSound (Place.stage (.startIo k)) io o c)
    (hstep : o.control k = some (k', o')) :
  IoSound (Place.stage (if k' = .ifStarting then .whileNotWaiting else .startIo k')) io o' c
  := by
  cases k with
  | assertNotRunning =>
      cases h with
      | idle hw =>
          cases hstep
          exact .idle hw _
  | storeStarting =>
      cases h with
      | idle hw =>
          cases hstep
          exact .creating hw _
  | create =>
      cases h with
      | creating hw =>
          cases hstep
          apply IoSound.live
          apply IoLive.early _
          rcases hw with hw | hw
          · exact .inl hw
          · exact .inr (.inl hw)
  | _ => cases h

/-- A step of `ioThread.stop()`, which only joins. -/
theorem IoSound.stop (h : IoSound (Place.stage (.stopIo k)) io o c)
    (hstep : o.control k = some (k', o')) :
  k ≠ .storeStopRequested
    ∧ IoSound (Place.stage (if k' = .returned then .destroyIo else .stopIo k')) io o' c
  := by
  cases k with
  | storeNotRunning =>
      cases h with
      | stopping =>
          cases hstep
          exact ⟨by rintro ⟨⟩, .joined⟩
  | assertNotRunning => cases h
  | storeStarting => cases h
  | create => cases h
  | storeStopRequested => cases h
  | returned => cases h
  | _ =>
      cases h with
      | stopping =>
          cases hstep
          exact ⟨by rintro ⟨⟩, .stopping⟩

/-- A step of the IO thread. -/
theorem IoSound.thread {stage : Stage} {fields : Fields} (h : IoSound stage io o c)
    (hcreated : o.fields.created = true)
    (hstep : IoThread.threadRun io o.fields c = some (io', fields, c')) :
  IoSound stage io' { o with fields } c'
  := by
  cases h with
  | idle hw => cases hcreated
  | creating hw => cases hcreated
  | live h =>
      cases h with
      | early hw left =>
          rcases hw with rfl | rfl | rfl
          · cases hstep
            exact .live (.early (.inr (.inl rfl)) _)
          · cases hstep
            exact .live (.early (.inr (.inr rfl)) _)
          · cases hstep
            exact .live (.run _)
      | run left =>
          cases left with
          | false => cases hstep
          | true =>
              cases hstep
              exact .live .left
      | left =>
          cases hstep
          exact .live .stopping
      | stopping =>
          cases hstep
          exact .live .stopped
      | stopped =>
          cases hstep
          exact .live .storing
      | storing =>
          cases hstep
          exact .ended
  | ended => cases hstep
  | stopping => cases hstep
  | joined => cases hstep

/-- The user leaves the console. -/
theorem IoSound.leave {stage : Stage} (h : IoSound stage io o c) :
  IoSound stage io o { c with left := true }
  := by
  cases h with
  | idle hw => exact .idle hw _
  | creating hw => exact .creating hw _
  | live h =>
      cases h with
      | early hw => exact .live (.early hw _)
      | run => exact .live (.run _)
      | left => exact .live .left
      | stopping => exact .live .stopping
      | stopped => exact .live .stopped
      | storing => exact .live .storing
  | ended => exact .ended
  | stopping => exact .stopping
  | joined => exact .joined

/-- `ioThread.stop()` finds a thread that has ended and does not ask it to stop. -/
theorem IoSound.ended_of_stopIo (h : IoSound (Place.stage (.stopIo k)) io o c) :
  o.fields.ended = true ∧ k ≠ .storeStopRequested
  := by
  cases k with
  | storeStopRequested => cases h
  | assertNotRunning => cases h
  | storeStarting => cases h
  | create => cases h
  | returned => cases h
  | _ =>
      cases h
      exact ⟨rfl, by rintro ⟨⟩⟩

/-- The server is stopped after the user has left the console. -/
theorem IoSound.left_of_stopServer (h : IoSound (Place.stage (.stopServer k)) io o c) :
  c.left = true
  := by
  cases k with
  | assertNotRunning => cases h
  | storeStarting => cases h
  | create => cases h
  | ifWaitingForJoin => cases h
  | returned => cases h
  | _ =>
      cases h
      rfl

/-- The destructors run after the IO thread was joined. -/
theorem IoSound.closed (h : IoSound .joined io o c) :
  o.Closed
  := by
  cases h with
  | joined => exact ⟨fun _ => rfl, rfl, rfl⟩

end Steps

/-! ### Runs -/

section Runs

variable {ι : Type} {platform : Platform} {config : Configuration} {oracle : Oracle}
  {t : Threads (Actor.Place (ι := ι)) (Shared ι)} {place place' : Place} {s : Shared ι}
  {a : Actor ι}

/-- What holds of the threads in input mode. -/
structure InputMode (platform : Platform) (t : Threads (Actor.Place (ι := ι)) (Shared ι)) :
    Prop where
  driven : Driven platform t
  handler : (t.locals .main).handler = none
  pending : t.shared.pending = false
  io : IoSound (t.locals .main).place.stage (t.locals .io) t.shared.io t.shared.scheduler

theorem InputMode.initial (inputs : ℕ) (messages : ι → List String) (changes : List Bool)
    (world : World) :
  InputMode platform (Main.initial platform inputs messages changes world)
  := by
  refine ⟨(Driven.initial platform inputs messages changes world).2, rfl, rfl, ?_⟩
  change IoSound (Place.stage (.startServer (Process.first platform)))
    (.worker (if platform.debug then .assertStarting else .unlessStarting)) _ _
  rw [Process.first]
  cases platform.debug with
  | false => exact .idle (.inr rfl) _
  | true => exact .idle (.inl rfl) _

/-- Nothing has ended the process unless it has failed. -/
theorem InputMode.halted_eq (h : InputMode platform t) :
  t.shared.halted = t.shared.process.failed
  := h.driven.halted_eq h.io.aborted

variable [DecidableEq ι]

/-- What `main` keeps in a step. -/
structure InputMode.Keeps (platform : Platform) (config : Configuration) (oracle : Oracle)
    (t : Threads (Actor.Place (ι := ι)) (Shared ι)) (place : Place) (s : Shared ι) : Prop where
  turn : Turn platform config oracle .main t
    ⟨Function.update t.locals .main (⟨place, none⟩ : Stack), s⟩
  pending : s.pending = false
  scheduler : s.scheduler = t.shared.scheduler
  io : IoSound place.stage (t.locals .io) s.io s.scheduler

/-- A step of `main` that is not one of the controller. -/
theorem InputMode.Keeps.of_io (h : InputMode platform t) (hplace : (t.locals .main).place = place)
    {o : Owned}
    (hcontroller : Stack.controller t.shared.serverPtr ⟨place', none⟩
      = Stack.controller t.shared.serverPtr ⟨place, none⟩)
    (hio : IoSound place'.stage (t.locals .io) o t.shared.scheduler) :
  InputMode.Keeps platform config oracle t place' { t.shared with io := o }
  := by
  have hstack : t.locals .main = (⟨place, none⟩ : Stack) := by
    rw [← hplace, ← h.handler]
  rw [← hstack] at hcontroller
  refine ⟨?_, h.pending, rfl, hio⟩
  apply Turn.of_none
  · apply drives_main
    · exact hcontroller
    · rfl
    · rfl
  · rintro a ⟨⟩

/-- A step of `main` in `start()` or `stop()` of the server. -/
theorem InputMode.Keeps.of_control (h : InputMode platform t) (hok : t.shared.halted = false)
    {k k' : Controller} (hk : Stack.controller t.shared.serverPtr (t.locals .main) = k)
    (hcontrol : serverControl platform config oracle k t.shared = some (k', s))
    (hcontroller : Stack.controller t.shared.serverPtr ⟨place', none⟩ = k')
    (hio : ∀ {w f f'}, Sound k w f → Controller.step k f = some (k', f') →
      IoSound place'.stage (t.locals .io) t.shared.io t.shared.scheduler) :
  InputMode.Keeps platform config oracle t place' s
  := by
  subst hk
  have hturn := Turn.of_controller (h.driven.drives_controller hok hcontrol hcontroller)
  obtain ⟨f, hstep, rfl⟩ := h.driven.serverControl hcontrol
  exact ⟨hturn, h.pending, rfl, hio h.driven.supervised.server hstep⟩

/-- A step of `main`. -/
theorem InputMode.placeStep (h : InputMode platform t) (hok : t.shared.halted = false)
    (hplace : (t.locals .main).place = place)
    (hstep : Main.placeStep false platform config oracle place t.shared = some (place', s)) :
  InputMode.Keeps platform config oracle t place' s
  := by
  have hio := h.io
  have hstack : t.locals .main = (⟨place, none⟩ : Stack) := by
    rw [← hplace, ← h.handler]
  rw [hplace] at hio
  cases place with
  | startServer k =>
      obtain ⟨⟨k', s'⟩, hcontrol, heq⟩ := Option.map_eq_some_iff.mp hstep
      cases heq
      have hk : Stack.controller t.shared.serverPtr (t.locals .main) = k := by
        rw [hstack]
        rfl
      apply InputMode.Keeps.of_control h hok hk hcontrol
      · split
        · next hk' => exact hk'.symm
        · rfl
      · intro w f f' hsound hmove
        exact hio.startServer hsound hmove
  | startIo k =>
      obtain ⟨⟨k', o⟩, hcontrol, heq⟩ := Option.map_eq_some_iff.mp hstep
      cases heq
      apply InputMode.Keeps.of_io h hplace _ (hio.start hcontrol)
      split <;> rfl
  | whileNotWaiting =>
      cases hstep
      apply InputMode.Keeps.of_io h hplace
      · split <;> rfl
      · split
        · next hstate => exact hio.stopping_of_waiting hstate
        · exact hio
  | stopServer k =>
      obtain ⟨⟨k', s'⟩, hcontrol, heq⟩ := Option.map_eq_some_iff.mp hstep
      cases heq
      have hk : Stack.controller t.shared.serverPtr (t.locals .main) = k := by
        rw [hstack]
        rfl
      apply InputMode.Keeps.of_control h hok hk hcontrol
      · split
        · next hk' => exact hk'.symm
        · rfl
      · intro w f f' hsound hmove
        exact hio.stopServer hsound hmove
  | stopIo k =>
      obtain ⟨⟨k', o⟩, hcontrol, heq⟩ := Option.map_eq_some_iff.mp hstep
      cases heq
      obtain ⟨hne, hsound⟩ := hio.stop hcontrol
      rw [if_neg hne]
      apply InputMode.Keeps.of_io h hplace _ hsound
      split <;> rfl
  | schedulerStop => cases hio
  | setServerPtr => cases hio
  | whileServerPtr => cases hio
  | destroyIo =>
      cases hstep
      rw [if_pos (hio.closed.destructible platform.debug)]
      exact InputMode.Keeps.of_io h hplace rfl hio
  | destroy c =>
      have hreturned : Stack.controller t.shared.serverPtr (t.locals .main) = .returned := by
        rw [hstack]
        rfl
      have hdestroyed := h.driven.destroyed hreturned
      cases c with
      | pushServer =>
          cases hstep
          rw [hdestroyed]
          exact InputMode.Keeps.of_io h hplace rfl hio
      | tcpServer =>
          cases hstep
          rw [hdestroyed]
          exact InputMode.Keeps.of_io h hplace rfl hio
      | xmppClient =>
          cases hstep
          rw [hdestroyed]
          exact InputMode.Keeps.of_io h hplace rfl hio
  | returned => cases hstep

/-- No handler interrupts `main`. -/
theorem InputMode.mainStep_eq (config : Configuration) (oracle : Oracle)
    (h : InputMode platform t) :
  mainStep false platform config oracle (t.locals .main) t.shared
    = (Main.placeStep false platform config oracle (t.locals .main).place t.shared).map
      fun x => (⟨x.1, none⟩, x.2)
  := by
  have hstack : t.locals .main = (⟨(t.locals .main).place, none⟩ : Stack) := by
    rw [← h.handler]
  rw [hstack]
  apply if_neg
  rw [h.pending]
  rintro ⟨⟨⟩, -⟩

/-- A turn of `main`, which no handler interrupts. -/
theorem InputMode.next_main (config : Configuration) (oracle : Oracle) (h : InputMode platform t) :
  let t' := Threads.next (step false platform config oracle) .main t
  t' = t ∧ (t.shared.halted = true
      ∨ Main.placeStep false platform config oracle (t.locals .main).place t.shared = none)
    ∨ t.shared.halted = false ∧ ∃ place s,
      Main.placeStep false platform config oracle (t.locals .main).place t.shared
          = some (place, s)
        ∧ t' = ⟨Function.update t.locals .main (⟨place, none⟩ : Stack), s⟩
  := by
  intro t'
  have hmain := h.mainStep_eq config oracle
  rcases Main.next_main false platform config oracle t with
    ⟨heq, hnone⟩ | ⟨hok, stack, s, hstep, heq⟩
  · rw [hmain] at hnone
    exact .inl ⟨heq, hnone.imp_right Option.map_eq_none_iff.mp⟩
  · obtain ⟨⟨place, s⟩, hplace, hs⟩ := Option.map_eq_some_iff.mp (hmain.symm.trans hstep)
    cases hs
    exact .inr ⟨hok, place, s, hplace, heq⟩

/-- A turn of the IO thread. -/
theorem InputMode.next_io (platform : Platform) (config : Configuration) (oracle : Oracle)
    (t : Threads (Actor.Place (ι := ι)) (Shared ι)) :
  let t' := Threads.next (step false platform config oracle) .io t
  t' = t ∧ (t.shared.halted = true ∨ (t.shared.io.fields.created = true →
      IoThread.threadRun (t.locals .io) t.shared.io.fields t.shared.scheduler = none))
    ∨ t.shared.io.fields.created = true ∧ ∃ io f c,
      IoThread.threadRun (t.locals .io) t.shared.io.fields t.shared.scheduler = some (io, f, c)
        ∧ t' = ⟨Function.update t.locals .io io,
          { t.shared with io := { t.shared.io with fields := f }, scheduler := c }⟩
  := by
  intro t'
  rcases hstep : step false platform config oracle .io (t.locals .io) t.shared with _ | ⟨io, s⟩
  · apply Or.inl
    use Threads.next_of_none hstep
    rcases hhalted : t.shared.halted with _ | _
    · apply Or.inr
      intro hcreated
      rw [step, hhalted, Shared.created, hcreated] at hstep
      exact Option.map_eq_none_iff.mp hstep
    · exact .inl rfl
  · apply Or.inr
    obtain ⟨hbusy, hmove⟩ := Option.ite_none_left_eq_some.mp hstep
    rw [Bool.or_eq_true, not_or, Bool.not_eq_true', Bool.not_eq_false] at hbusy
    obtain ⟨⟨io, f, c⟩, hrun, heq⟩ := Option.map_eq_some_iff.mp hmove
    cases heq
    exact ⟨hbusy.2, io, f, c, hrun, Threads.next_of_some hstep⟩

/-- Every step keeps what holds, and is one of the process. -/
theorem InputMode.next (h : InputMode platform t) (a : Actor ι) :
  let t' := Threads.next (step false platform config oracle) a t
  InputMode platform t' ∧ Turn platform config oracle a t t'
  := by
  intro t'
  have hself : (∀ b, a = .thread b → b = .controller) → t' = t →
      InputMode platform t' ∧ Turn platform config oracle a t t' := by
    intro ha heq
    rw [heq]
    exact ⟨h, .stays ha⟩
  cases a with
  | main =>
      rcases InputMode.next_main config oracle h with
        ⟨heq, -⟩ | ⟨hok, place, s, hplace, heq⟩
      · exact hself (by rintro b ⟨⟩) heq
      · have hkeeps := h.placeStep hok rfl hplace
        rw [show t' = _ from heq]
        obtain ⟨label, hdrives, -⟩ := hkeeps.turn
        exact ⟨⟨h.driven.next hdrives, rfl, hkeeps.pending, hkeeps.io⟩, hkeeps.turn⟩
  | io =>
      rcases InputMode.next_io platform config oracle t with
        ⟨heq, -⟩ | ⟨hcreated, io, f, c, hrun, heq⟩
      · exact hself (by rintro b ⟨⟩) heq
      · have hdrives : Drives platform config oracle t t' none := by
          rw [show t' = _ from heq]
          exact drives_other (by rintro ⟨⟩) (by rintro b ⟨⟩) rfl rfl rfl
        refine ⟨?_, .of_none hdrives (by rintro b ⟨⟩)⟩
        have hdriven := h.driven.next hdrives
        rw [show t' = _ from heq] at hdriven ⊢
        exact ⟨hdriven, h.handler, h.pending, h.io.thread hcreated hrun⟩
  | user =>
      rcases next_user false platform config oracle t with ⟨heq, -⟩ | ⟨inputs, -, heq⟩
      · exact hself (by rintro b ⟨⟩) heq
      · have hdrives : Drives platform config oracle t t' none := by
          rw [show t' = _ from heq]
          exact drives_other (by rintro ⟨⟩) (by rintro b ⟨⟩) rfl rfl rfl
        refine ⟨?_, .of_none hdrives (by rintro b ⟨⟩)⟩
        have hdriven := h.driven.next hdrives
        rw [show t' = _ from heq] at hdriven ⊢
        exact ⟨hdriven, h.handler, h.pending, h.io.leave⟩
  | thread b =>
      by_cases hb : b = .controller
      · subst hb
        exact hself (by rintro b ⟨⟩; rfl) next_controller
      · obtain ⟨hdrives, hcases⟩ := h.driven.next_thread false config oracle h.io.aborted hb
        have hdriven := h.driven.next hdrives
        refine ⟨?_, some b, hdrives, by rintro ⟨⟩, ?_⟩
        · rcases hcases with heq | ⟨place, process, threads, heq⟩
          · rw [show t' = t from heq]
            exact h
          · rw [heq] at hdriven
            rw [show t' = _ from heq]
            exact ⟨hdriven, h.handler, h.pending, h.io⟩
        · rintro a - ⟨⟩
          rfl

end Runs

/-- In input mode, in every interleaving of the main thread, the IO thread and the user with the
threads of the server, its components and its clients: no assertion about the field of a
component fails, no thread is destroyed or replaced that was not joined, and none is joined that
does not exist; the server is stopped only after the user has left the console, and the IO thread
has ended before `ioThread.stop()` looks at it, which does not ask it to stop; and when `main`
returns, every thread that was created has ended and was joined, and the server has stopped. -/
theorem inputMode_closes {ι : Type} [DecidableEq ι] (platform : Platform)
    (config : Configuration) (oracle : Oracle) (inputs : ℕ) (messages : ι → List String)
    (changes : List Bool) (world : World) (schedule : List (Actor ι)) :
  let t := Threads.run (step false platform config oracle) schedule
    (initial platform inputs messages changes world)
  let place := (t.locals .main).place
  ((∀ c, (t.shared.owned c).fields.aborted = false) ∧ t.shared.io.fields.aborted = false)
    ∧ (∀ k, place = .stopServer k → t.shared.scheduler.left = true)
    ∧ (∀ k, place = .stopIo k → t.shared.io.fields.ended = true ∧ k ≠ .storeStopRequested)
    ∧ (place = .returned →
      (∀ c, (t.shared.owned c).Closed) ∧ t.shared.io.Closed ∧ Process.Stopped (asProcess t))
  := by
  intro t place
  have hmode : InputMode platform t :=
    Threads.run_invariant (fun a _ h => (h.next a).1)
      (InputMode.initial inputs messages changes world) schedule
  have hio := hmode.io
  refine ⟨⟨fun c => (hmode.driven.kept c).aborted, hio.aborted⟩, ?_, ?_, ?_⟩
  · intro k hplace
    rw [show (t.locals .main).place = _ from hplace] at hio
    exact hio.left_of_stopServer
  · intro k hplace
    rw [show (t.locals .main).place = _ from hplace] at hio
    exact hio.ended_of_stopIo
  · intro hplace
    rw [show (t.locals .main).place = _ from hplace] at hio
    have hreturned : Stack.controller t.shared.serverPtr (t.locals .main) = .returned := by
      rw [show t.locals .main = (⟨.returned, none⟩ : Stack) by rw [← hplace, ← hmode.handler]]
      rfl
    exact ⟨hmode.driven.closed hreturned, hio.closed, hmode.driven.supervised.stopped hreturned⟩

end Main

end UwpxPush
