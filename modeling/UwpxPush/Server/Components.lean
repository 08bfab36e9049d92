import UwpxPush.Server.Shutdown

/-!
# The components of the process

The server, the TCP server and the XMPP client are each started and stopped by a controller:
that of the server is the controller of the process, and those of the other two are the thread
of the server.  Every step of the process is, for each component, a step of its controller, a
step of its thread, or none at all (`moves_next`).  So a request to stop that is about to be
overwritten is lost for ever, and the server does not come to its end.
-/

namespace UwpxPush

section

variable {c : Component} {k k' : Controller} {w w' : Worker} {f f' : Fields}

/-! ### One component -/

/-- The controller or the thread of a component makes a step, or neither does. -/
inductive Component.Moves (c : Component) :
    Controller → Worker → Fields → Controller → Worker → Fields → Prop where
  | stays (k : Controller) (w : Worker) (f : Fields) : Moves c k w f k w f
  | controls {k k' : Controller} (w : Worker) {f f' : Fields}
      (h : Controller.step k f = some (k', f')) : Moves c k w f k' w f'
  | works (k : Controller) {w w' : Worker} {f f' : Fields} (hcreated : f.created = true)
      (h : c.threadRun w f = some (w', f')) : Moves c k w f k w' f'

/-- No request to stop has been overwritten. -/
def NotLost (k : Controller) (w : Worker) (f : Fields) : Prop :=
  Starting k w f ∨ Stopping k w f

/-- The thread is about to store `RUNNING` where a request to stop was stored. -/
def Overwrites (k : Controller) (w : Worker) : Prop :=
  k = .join ∧ w = .storeRunning

instance : Decidable (Overwrites k w) :=
  inferInstanceAs (Decidable (_ ∧ _))

theorem Stopping.moves (h : Stopping k w f) (hmoves : c.Moves k w f k' w' f') :
  Stopping k' w' f'
  := by
  cases hmoves with
  | stays => exact h
  | controls w hstep => exact h.controller hstep
  | works hcreated hstep => exact (h.worker hstep).1

theorem Lost.moves (h : Lost k w f) (hmoves : c.Moves k w f k' w' f') :
  Lost k' w' f'
  := by
  cases hmoves with
  | stays => exact h
  | controls w hstep => exact h.controller hstep
  | works hcreated hstep => exact h.worker hstep

/-- A thread that has returned makes no step. -/
theorem Component.Moves.returned (h : c.Moves k w f k' w' f') (hw : w = .returned) :
  w' = .returned
  := by
  cases h with
  | stays => exact hw
  | controls w hstep => exact hw
  | works hcreated hstep =>
      subst hw
      obtain ⟨body, -, hc⟩ := threadRun_eq c
      rw [hc] at hstep
      cases hstep

/-- A component stays so unless a request is stored where it is going to be overwritten. -/
theorem NotLost.moves (h : NotLost k w f) (hmoves : c.Moves k w f k' w' f')
    (hnot : ¬Overwrites k' w') :
  NotLost k' w' f'
  := by
  rcases h with h | h
  · cases hmoves with
    | stays => exact .inl h
    | controls w hstep =>
        by_cases hk : k = .storeStopRequested
        · subst hk
          cases hstep
          apply Or.inr
          apply h.stopping
          intro hw
          exact hnot ⟨rfl, hw⟩
        · exact .inl (h.controller hk hstep)
    | works hcreated hstep => exact .inl (h.worker hcreated hstep)
  · exact .inr (h.moves hmoves)

/-- A component whose request is about to be overwritten has lost it. -/
theorem Sound.lost (h : Sound k w f) (hoverwrites : Overwrites k w) :
  Lost k w f
  := by
  obtain ⟨rfl, rfl⟩ := hoverwrites
  rcases h with h | h | h
  · cases h with
    | early hk hw => rcases hk with hk | hk | hk <;> cases hk
    | looping hk hw => rcases hk with hk | hk | hk | hk <;> cases hk
  · exact (h.ne_storeRunning rfl).elim
  · exact h

/-- The controller has made its request, or found that the thread has ended. -/
def Controller.HasAsked (k : Controller) : Prop :=
  k = .join ∨ k = .storeNotRunning ∨ k = .returned

/-- From the request on, the request will be seen. -/
theorem NotLost.stopping (h : NotLost k w f) (hk : k.HasAsked) :
  Stopping k w f
  := by
  apply h.resolve_left
  intro hstarting
  cases hstarting with
  | assertNotRunning hw => rcases hk with hk | hk | hk <;> cases hk
  | storeStarting hw => rcases hk with hk | hk | hk <;> cases hk
  | create hw => rcases hk with hk | hk | hk <;> cases hk
  | early hk' hw => rcases hk' with rfl | rfl | rfl <;> rcases hk with hk | hk | hk <;> cases hk
  | looping hk' hw =>
      rcases hk' with rfl | rfl | rfl | rfl <;> rcases hk with hk | hk | hk <;> cases hk

/-- A thread that was asked to stop and has not returned finds the request. -/
theorem Stopping.requested (h : Stopping k w f) (hw : w ≠ .returned) :
  f = ⟨.stopRequested, true, false, false⟩
  := by
  cases h with
  | asked hstore hne => rfl
  | ended hk hf hended => exact (hw rfl).elim

end

namespace Process

variable {ι : Type} {platform : Platform} {config : Configuration} {oracle : Oracle}

/-! ### The components of the process -/

/-- Where the controller of a component is. -/
def controller (platform : Platform) (t : Threads (Actor.Place (ι := ι)) (Process ι)) :
    Component → Controller
  | .pushServer => t.locals .controller
  | .tcpServer => ServerPlace.tcp platform (t.locals .server)
  | .xmppClient => ServerPlace.xmpp platform (t.locals .server)

/-- What the thread of a component does next with the field. -/
def worker (t : Threads (Actor.Place (ι := ι)) (Process ι)) : Component → Worker
  | .pushServer => ServerPlace.toWorker (t.locals .server)
  | .tcpServer => TcpPlace.toWorker (t.locals .tcp)
  | .xmppClient => XmppPlace.toWorker (t.locals .xmpp)

/-- What becomes of a component from one state of the process to another. -/
abbrev ComponentMoves (platform : Platform) (c : Component)
    (t t' : Threads (Actor.Place (ι := ι)) (Process ι)) : Prop :=
  c.Moves (controller platform t c) (worker t c) (t.shared.fields c)
    (controller platform t' c) (worker t' c) (t'.shared.fields c)

section Moves

variable {t t' : Threads (Actor.Place (ι := ι)) (Process ι)} {c : Component}

theorem ComponentMoves.of_same (hcontroller : controller platform t' c = controller platform t c)
    (hworker : worker t' c = worker t c) (hfields : t'.shared.fields c = t.shared.fields c) :
  ComponentMoves platform c t t'
  := by
  rw [ComponentMoves, hcontroller, hworker, hfields]
  exact .stays ..

/-- The controller goes on, while the thread does not. -/
theorem ComponentMoves.of_follows
    (h : Follows (controller platform t c) (t.shared.fields c) (controller platform t' c)
      (t'.shared.fields c))
    (hworker : worker t' c = worker t c) :
  ComponentMoves platform c t t'
  := by
  rcases h with ⟨hcontroller, hfields⟩ | hstep
  · exact .of_same hcontroller hworker hfields
  · rw [ComponentMoves, hworker]
    exact .controls _ hstep

/-- The thread goes on, while the controller does not. -/
theorem ComponentMoves.of_worker (hcreated : (t.shared.fields c).created = true)
    (h : worker t' c = worker t c ∧ t'.shared.fields c = t.shared.fields c
      ∨ c.threadRun (worker t c) (t.shared.fields c) = some (worker t' c, t'.shared.fields c))
    (hcontroller : controller platform t' c = controller platform t c) :
  ComponentMoves platform c t t'
  := by
  rcases h with ⟨hworker, hfields⟩ | hrun
  · exact .of_same hcontroller hworker hfields
  · rw [ComponentMoves, hcontroller]
    exact .works _ hcreated hrun

variable [DecidableEq ι]

/-- A step of the process is for each component a step of its controller, a step of its thread,
or none at all. -/
theorem moves_step {a : Actor ι} {place : a.Place} {s : Process ι}
    (h : step platform config oracle a (t.locals a) t.shared = some (place, s)) :
  ComponentMoves platform c t ⟨Function.update t.locals a place, s⟩
  := by
  obtain ⟨hcreated, hmove⟩ := Option.ite_none_left_eq_some.mp h
  rw [Bool.or_eq_true, not_or, Bool.not_eq_true', Bool.not_eq_false] at hcreated
  cases a with
  | controller =>
      obtain ⟨⟨k, f⟩, hcontrol, heq⟩ := Option.map_eq_some_iff.mp hmove
      cases heq
      cases c with
      | pushServer => exact .controls _ hcontrol
      | tcpServer => exact .stays ..
      | xmppClient => exact .stays ..
  | server =>
      have hmoves := serverMoves hmove
      cases c with
      | pushServer => exact .of_worker hcreated.2 (serverStep_worker hmove) rfl
      | tcpServer => exact .of_follows hmoves.tcp rfl
      | xmppClient => exact .of_follows hmoves.xmpp rfl
  | tcp =>
      have hmoves := tcpMoves hmove
      have hkeeps := hmoves.keeps
      cases c with
      | pushServer =>
          refine .of_same rfl rfl ?_
          rw [hkeeps]
          rfl
      | tcpServer => exact .of_worker hcreated.2 hmoves.worker rfl
      | xmppClient =>
          refine .of_same rfl rfl ?_
          rw [hkeeps]
          rfl
  | xmpp =>
      have hmoves := xmppMoves hmove
      obtain ⟨failed, hkeeps⟩ := hmoves.keeps
      cases c with
      | pushServer =>
          refine .of_same rfl rfl ?_
          rw [hkeeps]
          rfl
      | tcpServer =>
          refine .of_same rfl rfl ?_
          rw [hkeeps]
          rfl
      | xmppClient => exact .of_worker hcreated.2 hmoves.worker rfl
  | handler i =>
      have hkeeps := (handlerMoves hmove).keeps
      have hfields : s.fields c = t.shared.fields c := by
        rw [hkeeps]
        cases c <;> rfl
      cases c <;> exact .of_same rfl rfl hfields
  | network =>
      rcases hchanges : t.locals .network with _ | ⟨connected, changes⟩
      · rw [hchanges] at hmove
        cases hmove
      · rw [hchanges] at hmove
        cases hmove
        cases c <;> exact .stays ..

theorem moves_next (a : Actor ι) (t : Threads (Actor.Place (ι := ι)) (Process ι))
    (c : Component) :
  ComponentMoves platform c t (Threads.next (step platform config oracle) a t)
  := by
  rcases hstep : step platform config oracle a (t.locals a) t.shared with _ | ⟨place, s⟩
  · rw [Threads.next_of_none hstep]
    exact .stays ..
  · rw [Threads.next_of_some hstep]
    exact moves_step hstep

end Moves

end Process

end UwpxPush
