import UwpxPush.Main.InputMode
import UwpxPush.Main.Returning

/-!
# Leaving the console

Once the user has left the console, the IO thread ends, and `main` asks the server to stop.
When the thread of the server has ended, `main` joins it and the IO thread, and returns.
-/

namespace UwpxPush

/-- The steps of the IO thread once the user has left the console. -/
def IoPlace.rest (stopped : Bool) : IoPlace → ℕ
  | .worker .assertStarting => 8
  | .worker .unlessStarting => 7
  | .worker .storeRunning => 6
  | .run => if stopped then 2 else 5
  | .storeStopRequested => 4
  | .schedulerStop => 3
  | .worker .storeWaitingForJoin => 1
  | _ => 0

/-- A thread that has returned was asked to stop, and has ended. -/
theorem Sound.of_returned {k : Controller} {f : Fields} (h : Sound k .returned f) :
  k.HasAsked ∧ f.ended = true
  := by
  rcases h with h | h | h
  · rcases h.entry_or_looping with h | h <;> cases h
  · cases h with
    | asked hstore hw => exact (hw rfl).elim
    | ended hk hf hended => exact ⟨hk, hended⟩
  · cases h with
    | overwritten hw => rcases hw with hw | hw | ⟨i, hw⟩ <;> cases hw

namespace Main

/-- `start()` and `stop()` have a step, unless they wait for the thread or have returned. -/
theorem Owned.exists_control {k : Controller} {o : Owned} (hjoin : k ≠ .join)
    (hreturned : k ≠ .returned) :
  ∃ x, o.control k = some x
  := by
  rw [Owned.control]
  split
  · exact ⟨_, rfl⟩
  · apply exists_map
    exact Controller.exists_step (fun hk => (hjoin hk).elim) hreturned

/-- The main thread has a step in `start()` and `stop()`, unless it waits for the thread of the
server. -/
theorem Driven.exists_control {ι : Type} [DecidableEq ι] {platform : Platform}
    {t : Threads (Actor.Place (ι := ι)) (Shared ι)} (config : Configuration) (oracle : Oracle)
    (h : Driven platform t) {k : Controller}
    (hk : Stack.controller t.shared.serverPtr (t.locals .main) = k)
    (hjoin : k = .join → t.shared.process.server.ended = true) (hreturned : k ≠ .returned) :
  ∃ x, Main.serverControl platform config oracle k t.shared = some x
  := by
  subst hk
  have heq := h.processStep_eq config oracle .controller
  rw [Main.serverControl, show Stack.controller t.shared.serverPtr (t.locals .main)
    = (asProcess t).locals .controller from rfl, heq]
  apply exists_map
  apply exists_map
  exact Controller.exists_step hjoin hreturned

/-! ### The way to the request -/

/-- The steps of `main` before its request. -/
def Place.untilAsked : Place → ℕ
  | .startServer .assertNotRunning => 11
  | .startServer .storeStarting => 10
  | .startServer .create => 9
  | .startIo .assertNotRunning => 8
  | .startIo .storeStarting => 7
  | .startIo .create => 6
  | .whileNotWaiting => 5
  | .stopServer .ifStarting => 4
  | .stopServer .ifRunning => 3
  | .stopServer .unlessWaitingForJoin => 2
  | .stopServer .storeStopRequested => 1
  | _ => 0

section

variable {platform : Platform} {place place' : Place} {w : Worker} {io io' : IoPlace}
  {o o' : Owned} {c c' : Scheduler} {k k' : Controller} {f f' fields : Fields} {stage : Stage}

theorem IoSound.untilAsked_startServer (h : IoSound (Place.stage (.startServer k)) io o c)
    (hserver : Sound k w f) (hstep : Controller.step k f = some (k', f')) :
  (if k' = .ifStarting then Place.startIo (Process.first platform)
      else .startServer k').untilAsked < (Place.startServer k).untilAsked
  := by
  cases k with
  | assertNotRunning =>
      rw [Controller.step, if_pos hserver.notRunning] at hstep
      cases hstep
      exact Nat.lt_succ_self 10
  | storeStarting =>
      cases hstep
      exact Nat.lt_succ_self 9
  | create =>
      cases hstep
      change (Place.startIo (Process.first platform)).untilAsked < 9
      rw [Process.first]
      split <;> decide
  | _ => cases h

theorem IoSound.untilAsked_startIo (h : IoSound (Place.stage (.startIo k)) io o c)
    (hstep : o.control k = some (k', o')) :
  (if k' = .ifStarting then Place.whileNotWaiting else .startIo k').untilAsked
    < (Place.startIo k).untilAsked
  := by
  cases k with
  | assertNotRunning =>
      cases h with
      | idle hw =>
          cases hstep
          decide
  | storeStarting =>
      cases h with
      | idle hw =>
          cases hstep
          decide
  | create =>
      cases h with
      | creating hw =>
          cases hstep
          decide
  | _ => cases h

theorem untilAsked_stopServer (hne : (Place.stopServer k).untilAsked ≠ 0) (hserver : Sound k w f)
    (hstep : Controller.step k f = some (k', f')) :
  (if k' = .returned then Place.stopIo .ifStarting else .stopServer k').untilAsked
    < (Place.stopServer k).untilAsked
  := by
  cases k with
  | ifStarting =>
      cases hstep
      split <;> decide
  | ifRunning =>
      rw [Controller.step, if_pos hserver.running] at hstep
      cases hstep
      decide
  | unlessWaitingForJoin =>
      cases hstep
      split <;> decide
  | storeStopRequested =>
      cases hstep
      decide
  | _ => exact (hne rfl).elim

/-- Once the user has left the console, the IO thread has a step until it has ended. -/
theorem IoSound.exists_step (h : IoSound .polling io o c) (hleft : c.left = true)
    (hrest : io.rest c.stopped ≠ 0) :
  o.fields.created = true ∧ ∃ x, IoThread.threadRun io o.fields c = some x
  := by
  cases h with
  | live h =>
      use rfl
      cases h with
      | early hw left => rcases hw with rfl | rfl | rfl <;> exact ⟨_, rfl⟩
      | run left =>
          obtain rfl : left = true := hleft
          exact ⟨_, rfl⟩
      | _ => exact ⟨_, rfl⟩
  | ended => exact (hrest rfl).elim

theorem IoSound.waitingForJoin (h : IoSound .polling io o c) (hrest : io.rest c.stopped = 0) :
  o.fields.state = .waitingForJoin
  := by
  cases h with
  | live h =>
      cases h with
      | early hw left => rcases hw with rfl | rfl | rfl <;> cases hrest
      | _ => cases hrest
  | ended => rfl

end

section Runs

variable {ι : Type} [DecidableEq ι] {platform : Platform} {config : Configuration}
  {oracle : Oracle} {t : Threads (Actor.Place (ι := ι)) (Shared ι)} {place place' : Place}
  {s : Shared ι}

/-- A step of `main` brings it closer to its request, or it goes on polling. -/
theorem InputMode.untilAsked (h : InputMode platform t) (hplace : (t.locals .main).place = place)
    (hne : place.untilAsked ≠ 0)
    (hstep : Main.placeStep false platform config oracle place t.shared = some (place', s)) :
  place'.untilAsked < place.untilAsked
    ∨ place' = place ∧ place = .whileNotWaiting ∧ t.shared.io.fields.state ≠ .waitingForJoin
  := by
  have hio := h.io
  have hserver := h.driven.supervised.server
  have hstack : t.locals .main = (⟨place, none⟩ : Stack) := by
    rw [← hplace, ← h.handler]
  rw [hplace] at hio
  change Sound (Stack.controller _ (t.locals .main)) _ _ at hserver
  rw [hstack] at hserver
  have hcontrol : ∀ {k k' s}, Stack.controller t.shared.serverPtr ⟨place, none⟩ = k →
      serverControl platform config oracle k t.shared = some (k', s) →
      ∃ f, Controller.step k t.shared.process.server = some (k', f) := by
    rintro k k' s rfl hk
    rw [← hstack] at hk ⊢
    obtain ⟨f, hmove, -⟩ := h.driven.serverControl hk
    exact ⟨f, hmove⟩
  cases place with
  | startServer k =>
      obtain ⟨⟨k', s'⟩, hk, heq⟩ := Option.map_eq_some_iff.mp hstep
      cases heq
      obtain ⟨f, hmove⟩ := hcontrol rfl hk
      exact .inl (hio.untilAsked_startServer hserver hmove)
  | startIo k =>
      obtain ⟨⟨k', o⟩, hk, heq⟩ := Option.map_eq_some_iff.mp hstep
      cases heq
      exact .inl (hio.untilAsked_startIo hk)
  | whileNotWaiting =>
      cases hstep
      split
      · exact .inl (Nat.lt_succ_self 4)
      · next hstate => exact .inr ⟨rfl, rfl, hstate⟩
  | stopServer k =>
      obtain ⟨⟨k', s'⟩, hk, heq⟩ := Option.map_eq_some_iff.mp hstep
      cases heq
      obtain ⟨f, hmove⟩ := hcontrol rfl hk
      exact .inl (untilAsked_stopServer hne hserver hmove)
  | _ => exact (hne rfl).elim

/-- Before its request `main` has a step. -/
theorem InputMode.exists_step (config : Configuration) (oracle : Oracle)
    (h : InputMode platform t) (hplace : (t.locals .main).place = place)
    (hne : place.untilAsked ≠ 0) :
  ∃ x, Main.placeStep false platform config oracle place t.shared = some x
  := by
  have hcontrol : ∀ k, (Stack.controller t.shared.serverPtr ⟨place, none⟩) = k → k ≠ .join →
      k ≠ .returned → ∃ x, serverControl platform config oracle k t.shared = some x := by
    intro k hk hjoin hreturned
    have hstack : t.locals .main = (⟨place, none⟩ : Stack) := by
      rw [← hplace, ← h.handler]
    rw [← hstack] at hk
    exact h.driven.exists_control config oracle hk (fun hk => (hjoin hk).elim) hreturned
  cases place with
  | startServer k =>
      apply exists_map
      apply hcontrol k rfl
      · rintro rfl
        exact hne rfl
      · rintro rfl
        exact hne rfl
  | startIo k =>
      apply exists_map
      apply Owned.exists_control
      · rintro rfl
        exact hne rfl
      · rintro rfl
        exact hne rfl
  | whileNotWaiting => exact ⟨_, rfl⟩
  | stopServer k =>
      apply exists_map
      apply hcontrol k rfl
      · rintro rfl
        exact hne rfl
      · rintro rfl
        exact hne rfl
  | _ => exact (hne rfl).elim

/-- `main` has made its request. -/
def HasAsked (t : Threads (Actor.Place (ι := ι)) (Shared ι)) : Prop :=
  (t.locals .main).place.untilAsked = 0

variable {σ : ℕ → Actor ι} {u : ℕ → Threads (Actor.Place (ι := ι)) (Shared ι)}

/-- In input mode the program makes a run. -/
theorem InputMode.mainRun
    (hrun : Endless (Threads.next (step false platform config oracle)) σ u)
    (hmode : ∀ n, InputMode platform (u n)) :
  MainRun false platform config oracle σ u
  := by
  constructor
  · exact hrun
  · exact fun n => (hmode n).driven
  · exact fun n => (hmode n).io.aborted
  · intro n
    rw [hrun n]
    exact ((hmode n).next (σ n)).2
  · exact fun n _ => (hmode n).handler

end Runs

end Main

namespace Sample

/-- The client's message is handled, the user leaves the console, and `main` stops the server and
the IO thread. -/
def leaving : List (Main.Actor Unit) :=
  List.replicate 3 .main
    ++ (schedule [(15, .server), (5, .xmpp), (5, .tcp), (30, .handler ())]).map .thread
    ++ List.replicate 3 .main ++ List.replicate 4 .io ++ [.user] ++ List.replicate 6 .io
    ++ List.replicate 6 .main
    ++ (schedule [(20, .server), (8, .tcp), (12, .server), (30, .xmpp), (8, .server),
      (1, .controller), (1, .network)]).map .thread
    ++ List.replicate 16 .main

end Sample

end UwpxPush
