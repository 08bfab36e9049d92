import UwpxPush.Main.Owned

/-!
# The process that `main` drives

`main` and its handler are the controller of the server.  Every step of the program is one of
the process, or it leaves the process as it is; and the optionals of the three components hold
what `start()` and `stop()` have left in them.
-/

namespace UwpxPush

/-- What the optionals hold after a step of an actor. -/
def Actor.assigned {ι : Type} (a : Actor ι) (place : a.Place) (threads : Component → Bool) :
    Component → Bool :=
  match a.control place with
  | none => threads
  | some (c, k) => Function.update threads c (k.assign (threads c))

namespace Actor

variable {ι : Type} {a : Actor ι} {place : a.Place} {c : Component} {k : Controller}

theorem assigned_self (h : a.control place = some (c, k)) (threads : Component → Bool) :
  a.assigned place threads c = k.assign (threads c)
  := by
  rw [assigned, h]
  apply Function.update_self

theorem assigned_of_ne (h : ∀ k, a.control place ≠ some (c, k)) (threads : Component → Bool) :
  a.assigned place threads c = threads c
  := by
  rw [assigned]
  rcases hcontrol : a.control place with _ | ⟨c', k⟩
  · rfl
  · apply Function.update_of_ne
    rintro rfl
    exact h k hcontrol

end Actor

/-- What holds of a component is kept where its controller does not move. -/
theorem Main.Owned.Kept.moves {o : Main.Owned} {c : Component} {k k' : Controller}
    {w w' : Worker} {f : Fields} (h : o.Kept k) (hsound : Sound k w o.fields)
    (hmoves : c.Moves k w o.fields k' w' f) (hk : k' = k) :
  Main.Owned.Kept k ⟨f, o.thread⟩
  := by
  obtain ⟨fields, thread⟩ := o
  cases hmoves with
  | stays => exact h
  | controls w hstep =>
      -- A step that neither waits nor aborts does not stay at its place.
      have hlt := Controller.rest_lt hstep (h.control hsound hstep).aborted
      rw [hk] at hlt
      omega
  | works hcreated hstep => exact h.worker hsound hstep

namespace Process

variable {ι : Type} {platform : Platform} {config : Configuration} {oracle : Oracle}

/-! ### Who starts and stops a component -/

section Control

variable {place place' : ServerPlace} {s s' : Process ι}

/-- The controllers of the TCP server and of the XMPP client move only where the thread of the
server starts and stops them. -/
theorem serverStep_control
    (h : serverStep platform config oracle place s = some (place', s')) :
  ((∃ k, place.control = some (.tcpServer, k)) ∨ place'.tcp platform = place.tcp platform)
    ∧ ((∃ k, place.control = some (.xmppClient, k)) ∨ place'.xmpp platform = place.xmpp platform)
  := by
  cases serverSteps h with
  | works hunless hstore hwhile hstep =>
      obtain ⟨htcp, hxmpp, -⟩ := works_same platform hunless hstore hwhile hstep
      exact ⟨.inr htcp, .inr hxmpp⟩
  | startsTcp | startedTcp | stopsTcp | stoppedTcp => exact ⟨.inl ⟨_, rfl⟩, .inr rfl⟩
  | startsXmpp | startedXmpp | stopsXmpp | requestsXmppStop | stoppedXmpp =>
      exact ⟨.inr rfl, .inl ⟨_, rfl⟩⟩
  | _ => exact ⟨.inr rfl, .inr rfl⟩

end Control

section Kept

variable {t : Threads (Actor.Place (ι := ι)) (Process ι)} {a : Actor ι} {place : a.Place}
  {s : Process ι} {c : Component} {k : Controller}

/-- Every component is sound. -/
theorem Supervised.sound (h : Supervised platform t) (c : Component) :
  Sound (controller platform t c) (worker t c) (t.shared.fields c)
  := by
  cases c with
  | pushServer => exact h.server
  | tcpServer => exact h.order.soundTcp
  | xmppClient => exact h.order.soundXmpp

/-- The controller of a component is where its actor is. -/
theorem controller_eq (h : a.control (t.locals a) = some (c, k)) :
  controller platform t c = k
  := by
  cases a with
  | controller =>
      cases h
      rfl
  | server =>
      change ServerPlace.control (t.locals .server) = _ at h
      rcases hplace : (t.locals .server : ServerPlace) with
        _ | _ | _ | _ | _ | k' | k' | _ | k' | k' | _
      all_goals rw [hplace] at h
      case startTcp =>
        cases h
        exact congrArg (ServerPlace.tcp platform) hplace
      case startXmpp =>
        cases h
        exact congrArg (ServerPlace.xmpp platform) hplace
      case stopTcp =>
        cases h
        exact congrArg (ServerPlace.tcp platform) hplace
      case stopXmpp =>
        cases h
        exact congrArg (ServerPlace.xmpp platform) hplace
      all_goals cases h
  | _ => cases h

variable [DecidableEq ι]

/-- An actor that starts or stops a component makes a step of its controller. -/
theorem controller_step (h : a.control (t.locals a) = some (c, k))
    (hmove : move platform config oracle a (t.locals a) t.shared = some (place, s)) :
  Controller.step k (t.shared.fields c)
    = some (controller platform ⟨Function.update t.locals a place, s⟩ c, s.fields c)
  := by
  cases a with
  | controller =>
      obtain ⟨⟨k', f⟩, hstep, heq⟩ := Option.map_eq_some_iff.mp hmove
      cases heq
      cases h
      exact hstep
  | server =>
      change serverStep platform config oracle (t.locals .server) t.shared = _ at hmove
      change ServerPlace.control (t.locals .server) = _ at h
      generalize t.locals .server = server at h hmove
      cases serverSteps hmove with
      | fails hplace =>
          rcases hplace with rfl | ⟨e, rfl⟩ | ⟨e, rfl⟩ | rfl <;> cases h
      | startsTcp hk hstep | startedTcp hstep | stopsTcp hk hstep | stoppedTcp hstep
      | startsXmpp hk hstep | startedXmpp hstep | stopsXmpp hk hstep | stoppedXmpp hstep =>
          cases h
          exact hstep
      | requestsXmppStop =>
          cases h
          rfl
      | _ => cases h
  | _ => cases h

/-- The controllers of the other components do not move. -/
theorem controller_of_ne (h : ∀ k, a.control (t.locals a) ≠ some (c, k))
    (hmove : move platform config oracle a (t.locals a) t.shared = some (place, s)) :
  controller platform ⟨Function.update t.locals a place, s⟩ c = controller platform t c
  := by
  cases a with
  | controller =>
      cases c with
      | pushServer => exact (h _ rfl).elim
      | _ => rfl
  | server =>
      obtain ⟨htcp, hxmpp⟩ := serverStep_control hmove
      cases c with
      | pushServer => rfl
      | tcpServer => exact htcp.resolve_left fun ⟨k, hk⟩ => h k hk
      | xmppClient => exact hxmpp.resolve_left fun ⟨k, hk⟩ => h k hk
  | _ => cases c <;> rfl

/-- Every step keeps what holds of the components. -/
theorem kept_step {threads : Component → Bool} (hsupervised : Supervised platform t)
    (h : ∀ c, Main.Owned.Kept (controller platform t c) ⟨t.shared.fields c, threads c⟩)
    (hstep : step platform config oracle a (t.locals a) t.shared = some (place, s))
    (c : Component) :
  Main.Owned.Kept (controller platform ⟨Function.update t.locals a place, s⟩ c)
    ⟨s.fields c, a.assigned (t.locals a) threads c⟩
  := by
  have hmove := (Option.ite_none_left_eq_some.mp hstep).2
  have hsound := hsupervised.sound c
  by_cases hcontrol : ∃ k, a.control (t.locals a) = some (c, k)
  · obtain ⟨k, hk⟩ := hcontrol
    have hkept := h c
    rw [controller_eq hk] at hkept hsound
    rw [Actor.assigned_self hk]
    exact hkept.control hsound (controller_step hk hmove)
  · have hnot := not_exists.mp hcontrol
    have hmoves := moves_step (c := c) hstep
    rw [Actor.assigned_of_ne hnot, controller_of_ne hnot hmove]
    rw [ComponentMoves, controller_of_ne hnot hmove] at hmoves
    exact (h c).moves hsound hmoves rfl

end Kept

end Process

namespace Main

variable {ι : Type}

/-! ### The main thread as the controller -/

/-- Where the main thread is in `start()` and `stop()` of the server. -/
def Stack.controller (ptr : Bool) : Stack → Controller
  | ⟨.startServer k, _⟩ => k
  | ⟨.startIo _, _⟩ => .ifStarting
  | ⟨.whileNotWaiting, _⟩ => .ifStarting
  | ⟨.stopServer k, _⟩ => k
  | ⟨.setServerPtr, _⟩ => .ifStarting
  | ⟨.whileServerPtr, some (.stop k)⟩ => k
  | ⟨.whileServerPtr, some .clearServerPtr⟩ => .returned
  | ⟨.whileServerPtr, _⟩ => if ptr then .ifStarting else .returned
  | _ => .returned

/-- The threads of the process, with the main thread as the controller of the server. -/
def asProcess (t : Threads (Actor.Place (ι := ι)) (Shared ι)) :
    Threads (UwpxPush.Actor.Place (ι := ι)) (Process ι) where
  locals
    | .controller => Stack.controller t.shared.serverPtr (t.locals .main)
    | .server => t.locals (.thread .server)
    | .tcp => t.locals (.thread .tcp)
    | .xmpp => t.locals (.thread .xmpp)
    | .handler i => t.locals (.thread (.handler i))
    | .network => t.locals (.thread .network)
  shared := t.shared.process

variable {t t' : Threads (Actor.Place (ι := ι)) (Shared ι)} {s : Shared ι}
  {a : UwpxPush.Actor ι}

theorem asProcess_locals (ha : a ≠ .controller) :
  (asProcess t).locals a = t.locals (.thread a)
  := by
  cases a with
  | controller => exact (ha rfl).elim
  | _ => rfl

variable [DecidableEq ι]

/-- A step of the main thread moves the controller. -/
theorem asProcess_main (stack : Stack) :
  asProcess ⟨Function.update t.locals .main stack, s⟩
    = ⟨Function.update (asProcess t).locals .controller (stack.controller s.serverPtr),
      s.process⟩
  := by
  apply congrArg (Threads.mk · s.process)
  funext a
  cases a <;> rfl

/-- A step of a thread of the process moves that thread. -/
theorem asProcess_thread (ha : a ≠ .controller) (place : a.Place)
    (hptr : s.serverPtr = t.shared.serverPtr) :
  asProcess ⟨Function.update t.locals (.thread a) place, s⟩
    = ⟨Function.update (asProcess t).locals a place, s.process⟩
  := by
  apply congrArg (Threads.mk · s.process)
  funext b
  by_cases hb : b = a
  · subst hb
    rw [Function.update_self]
    exact (asProcess_locals ha).trans (Function.update_self ..)
  · rw [Function.update_of_ne hb]
    cases b with
    | controller => exact congrArg (Stack.controller · _) hptr
    | _ =>
        apply Function.update_of_ne
        rintro ⟨⟩
        exact hb rfl

/-- The other actors move no thread of the process. -/
theorem asProcess_other {b : Actor ι} {place : b.Place} (hmain : b ≠ .main)
    (hthread : ∀ a, b ≠ .thread a) (hptr : s.serverPtr = t.shared.serverPtr)
    (hprocess : s.process = t.shared.process) :
  asProcess ⟨Function.update t.locals b place, s⟩ = asProcess t
  := by
  have hlocals : (asProcess ⟨Function.update t.locals b place, s⟩).locals
      = (asProcess t).locals := by
    funext a
    cases a with
    | controller =>
        change Stack.controller s.serverPtr (Function.update t.locals b place .main) = _
        rw [Function.update_of_ne hmain.symm, hptr]
        rfl
    | _ => exact Function.update_of_ne (hthread _).symm ..
  rw [asProcess, asProcess, Threads.mk.injEq]
  exact ⟨hlocals, hprocess⟩

/-! ### Steps -/

variable {noInput : Bool} {platform : Platform} {config : Configuration} {oracle : Oracle}
  {label : Option (UwpxPush.Actor ι)}

/-- What holds of the process and of the optionals of its components. -/
structure Driven (platform : Platform) (t : Threads (Actor.Place (ι := ι)) (Shared ι)) :
    Prop where
  supervised : Process.Supervised platform (asProcess t)
  kept : ∀ c, (t.shared.owned c).Kept (Process.controller platform (asProcess t) c)

/-- The process makes the step of an actor, or the actor has none and the process stays as it
is. -/
inductive Drives (platform : Platform) (config : Configuration) (oracle : Oracle)
    (t t' : Threads (Actor.Place (ι := ι)) (Shared ι)) : Option (UwpxPush.Actor ι) → Prop where
  | passes {label : Option (UwpxPush.Actor ι)}
      (hnone : ∀ a, label = some a → Process.step platform config oracle a
        ((asProcess t).locals a) t.shared.process = none)
      (hprocess : asProcess t' = asProcess t)
      (hthreads : t'.shared.threads = t.shared.threads) :
      Drives platform config oracle t t' label
  | acts {a : UwpxPush.Actor ι} {place : a.Place} {process : Process ι}
      (hstep : Process.step platform config oracle a ((asProcess t).locals a) t.shared.process
        = some (place, process))
      (hprocess : asProcess t' = ⟨Function.update (asProcess t).locals a place, process⟩)
      (hthreads : t'.shared.threads = a.assigned ((asProcess t).locals a) t.shared.threads) :
      Drives platform config oracle t t' (some a)

/-- The program refines the process. -/
theorem Drives.next_process (h : Drives platform config oracle t t' label) :
  asProcess t'
    = Threads.nextOption (Process.step platform config oracle) label (asProcess t)
  := by
  cases h with
  | passes hnone hprocess hthreads =>
      rw [hprocess]
      cases label with
      | none => rfl
      | some a => exact (Threads.next_of_none (hnone a rfl)).symm
  | acts hstep hprocess hthreads =>
      rw [hprocess]
      exact (Threads.next_of_some hstep).symm

theorem Driven.next (h : Driven platform t) (hdrives : Drives platform config oracle t t' label) :
  Driven platform t'
  := by
  have hnext := hdrives.next_process
  cases hdrives with
  | passes hnone hprocess hthreads =>
      have hshared : t'.shared.process = t.shared.process := congrArg Threads.shared hprocess
      constructor
      · rw [hprocess]
        exact h.supervised
      · intro c
        rw [hprocess, Shared.owned, hshared, hthreads]
        exact h.kept c
  | @acts a place process hstep hprocess hthreads =>
      have hshared : t'.shared.process = process := congrArg Threads.shared hprocess
      constructor
      · rw [hnext]
        exact h.supervised.next a
      · intro c
        rw [hprocess, Shared.owned, hshared, hthreads]
        exact Process.kept_step h.supervised h.kept hstep c

/-- A component that is stopped finds its thread. -/
theorem Driven.processStep_eq (h : Driven platform t) (config : Configuration)
    (oracle : Oracle) (a : UwpxPush.Actor ι) :
  processStep platform config oracle a ((asProcess t).locals a) t.shared
    = (Process.move platform config oracle a ((asProcess t).locals a) t.shared.process).map
      fun (place, process) => (place, { t.shared with
        process, threads := a.assigned ((asProcess t).locals a) t.shared.threads })
  := by
  rw [processStep, UwpxPush.Actor.assigned]
  rcases hcontrol : a.control ((asProcess t).locals a) with _ | ⟨c, k⟩
  · rfl
  · have hkept := (h.kept c).thread
    rw [Process.controller_eq hcontrol] at hkept
    change t.shared.threads c = _ at hkept
    dsimp only
    rw [hkept, k.not_misuses]
    rfl

omit [DecidableEq ι] in
/-- Nothing has ended the process while no component was aborted. -/
theorem Driven.halted_eq (h : Driven platform t) (hio : t.shared.io.fields.aborted = false) :
  t.shared.halted = t.shared.process.failed
  := by
  have hserver : t.shared.process.server.aborted = false := (h.kept .pushServer).aborted
  have htcp : t.shared.process.tcp.aborted = false := (h.kept .tcpServer).aborted
  have hxmpp : t.shared.process.xmpp.aborted = false := (h.kept .xmppClient).aborted
  rw [Shared.halted, Process.halted, hserver, htcp, hxmpp, hio]
  simp only [Bool.or_false]

omit [DecidableEq ι] in
/-- When the server was stopped, so were its components, if they were started. -/
theorem Driven.closed (h : Driven platform t)
    (hreturned : Stack.controller t.shared.serverPtr (t.locals .main) = .returned)
    (c : Component) :
  (t.shared.owned c).Closed
  := by
  have hsound := h.supervised.sound c
  apply (h.kept c).closed hsound
  have hserver : Sound .returned (Process.worker (asProcess t) .pushServer)
      t.shared.process.server := by
    rw [← hreturned]
    exact h.supervised.server
  have hplace := ServerPlace.of_returned hserver.returned
  cases c with
  | pushServer => exact .inr hreturned
  | tcpServer =>
      change ServerPlace.tcp platform _ = _ ∨ ServerPlace.tcp platform _ = _
      rcases hplace with hplace | hplace
      · rw [hplace]
        exact .inl rfl
      · rw [hplace]
        exact .inr rfl
  | xmppClient =>
      change ServerPlace.xmpp platform _ = _ ∨ ServerPlace.xmpp platform _ = _
      rcases hplace with hplace | hplace
      · rw [hplace]
        exact .inl rfl
      · rw [hplace]
        exact .inr rfl

omit [DecidableEq ι] in
/-- The destructors find components that were stopped. -/
theorem Driven.destroyed (h : Driven platform t)
    (hreturned : Stack.controller t.shared.serverPtr (t.locals .main) = .returned)
    (c : Component) :
  Main.destroyed platform c t.shared = t.shared
  := if_pos ((h.closed hreturned c).destructible platform.debug)

/-- A step of `server.start()` or `server.stop()` is one of the controller. -/
theorem Driven.serverControl (h : Driven platform t) {k : Controller}
    (hcontrol : Main.serverControl platform config oracle
      (Stack.controller t.shared.serverPtr (t.locals .main)) t.shared = some (k, s)) :
  ∃ f, Controller.step (Stack.controller t.shared.serverPtr (t.locals .main))
      t.shared.process.server = some (k, f)
    ∧ s = { t.shared with
      process := { t.shared.process with server := f }
      threads := UwpxPush.Actor.assigned (.controller : UwpxPush.Actor ι)
        (Stack.controller t.shared.serverPtr (t.locals .main)) t.shared.threads }
  := by
  have heq := h.processStep_eq config oracle .controller
  obtain ⟨⟨k', process⟩, hmove, hs⟩ := Option.map_eq_some_iff.mp (heq.symm.trans hcontrol)
  obtain ⟨⟨k'', f⟩, hstep, hprocess⟩ := Option.map_eq_some_iff.mp hmove
  cases hprocess
  cases hs
  exact ⟨f, hstep, rfl⟩

/-- The main thread makes a step of the controller. -/
theorem Driven.drives_controller (h : Driven platform t) (hok : t.shared.halted = false)
    {k : Controller} {stack : Stack}
    (hcontrol : Main.serverControl platform config oracle
      (Stack.controller t.shared.serverPtr (t.locals .main)) t.shared = some (k, s))
    (hstack : stack.controller t.shared.serverPtr = k) :
  Drives platform config oracle t ⟨Function.update t.locals .main stack, s⟩ (some .controller)
  := by
  obtain ⟨f, hstep, rfl⟩ := h.serverControl hcontrol
  have hmove : Process.step platform config oracle .controller
      ((asProcess t).locals .controller) t.shared.process
        = some (k, { t.shared.process with server := f }) := by
    rw [Shared.halted, Bool.or_eq_false_iff] at hok
    rw [Process.step, if_neg]
    · exact congrArg (Option.map _) hstep
    · rw [hok.1]
      rintro ⟨⟩
  apply Drives.acts hmove
  · rw [asProcess_main, hstack]
  · rfl

/-- The main thread makes another step. -/
theorem drives_main {stack : Stack}
    (hstack : stack.controller s.serverPtr = Stack.controller t.shared.serverPtr (t.locals .main))
    (hprocess : s.process = t.shared.process) (hthreads : s.threads = t.shared.threads) :
  Drives platform config oracle t ⟨Function.update t.locals .main stack, s⟩ none
  := by
  apply Drives.passes _ _ hthreads
  · rintro a ⟨⟩
  · rw [asProcess_main, hstack, hprocess]
    exact congrArg (Threads.mk · _) (Function.update_eq_self ..)

/-- The IO thread or the user makes a step. -/
theorem drives_other {b : Actor ι} {place : b.Place} (hmain : b ≠ .main)
    (hthread : ∀ a, b ≠ .thread a) (hptr : s.serverPtr = t.shared.serverPtr)
    (hprocess : s.process = t.shared.process) (hthreads : s.threads = t.shared.threads) :
  Drives platform config oracle t ⟨Function.update t.locals b place, s⟩ none
  := by
  apply Drives.passes _ (asProcess_other hmain hthread hptr hprocess) hthreads
  rintro a ⟨⟩

/-- A turn of a thread of the process. -/
theorem Driven.next_thread (noInput : Bool) (config : Configuration) (oracle : Oracle)
    (h : Driven platform t) (hio : t.shared.io.fields.aborted = false)
    (ha : a ≠ .controller) :
  let t' := Threads.next (step noInput platform config oracle) (.thread a) t
  Drives platform config oracle t t' (some a)
    ∧ (t' = t ∨ ∃ place process threads,
      t' = ⟨Function.update t.locals (.thread a) place, { t.shared with process, threads }⟩)
  := by
  intro t'
  have hplace : t.locals (.thread a) = (asProcess t).locals a := (asProcess_locals ha).symm
  have hmove : step noInput platform config oracle (.thread a) (t.locals (.thread a)) t.shared
      = (Process.step platform config oracle a ((asProcess t).locals a) t.shared.process).map
        fun (place, process) => (place, { t.shared with
          process, threads := a.assigned ((asProcess t).locals a) t.shared.threads }) := by
    have heq := h.processStep_eq config oracle a
    have hmove : move noInput platform config oracle (.thread a) (t.locals (.thread a)) t.shared
        = processStep platform config oracle a (t.locals (.thread a)) t.shared := by
      cases a with
      | controller => exact (ha rfl).elim
      | _ => rfl
    rw [step, Process.step, hmove, hplace, heq, Shared.halted, hio, Bool.or_false,
      Shared.created]
    split
    · rfl
    · rfl
  rcases hstep : Process.step platform config oracle a ((asProcess t).locals a)
      t.shared.process with _ | ⟨place, process⟩
  · rw [hstep] at hmove
    have hnext : t' = t := Threads.next_of_none hmove
    rw [hnext]
    refine ⟨.passes ?_ rfl rfl, .inl rfl⟩
    rintro _ ⟨⟩
    exact hstep
  · rw [hstep] at hmove
    have hnext := Threads.next_of_some hmove
    rw [show t' = _ from hnext]
    refine ⟨.acts hstep ?_ rfl, .inr ⟨_, _, _, rfl⟩⟩
    exact asProcess_thread ha place rfl

/-- A turn of an actor is one of the process: of the same thread, or of the controller or none
where the main thread has it. -/
def Turn (platform : Platform) (config : Configuration) (oracle : Oracle) (b : Actor ι)
    (t t' : Threads (Actor.Place (ι := ι)) (Shared ι)) : Prop :=
  ∃ label, Drives platform config oracle t t' label
    ∧ (b = .main → label = none ∨ label = some .controller)
    ∧ ∀ a, a ≠ .controller → b = .thread a → label = some a

theorem Turn.of_none {b : Actor ι} (h : Drives platform config oracle t t' none)
    (hb : ∀ a, b = .thread a → a = .controller) :
  Turn platform config oracle b t t'
  := by
  refine ⟨none, h, fun _ => .inl rfl, ?_⟩
  intro a ha heq
  exact (ha (hb a heq)).elim

/-- A turn in which nothing happens. -/
theorem Turn.stays {b : Actor ι} (hb : ∀ a, b = .thread a → a = .controller) :
  Turn platform config oracle b t t
  := by
  apply Turn.of_none _ hb
  apply Drives.passes _ rfl rfl
  rintro a ⟨⟩

theorem Turn.of_controller (h : Drives platform config oracle t t' (some .controller)) :
  Turn platform config oracle .main t t'
  := by
  refine ⟨_, h, fun _ => .inr rfl, ?_⟩
  rintro a ha ⟨⟩

/-- A turn of the main thread. -/
theorem next_main (noInput : Bool) (platform : Platform) (config : Configuration)
    (oracle : Oracle) (t : Threads (Actor.Place (ι := ι)) (Shared ι)) :
  let t' := Threads.next (step noInput platform config oracle) .main t
  t' = t ∧ (t.shared.halted = true
      ∨ mainStep noInput platform config oracle (t.locals .main) t.shared = none)
    ∨ t.shared.halted = false ∧ ∃ stack s,
      mainStep noInput platform config oracle (t.locals .main) t.shared = some (stack, s)
        ∧ t' = ⟨Function.update t.locals .main stack, s⟩
  := by
  intro t'
  rcases hhalted : t.shared.halted with _ | _
  · have hstep : step noInput platform config oracle .main (t.locals .main) t.shared
        = mainStep noInput platform config oracle (t.locals .main) t.shared := by
      rw [step, hhalted]
      rfl
    rcases hmain : mainStep noInput platform config oracle (t.locals .main) t.shared with
      _ | ⟨stack, s⟩
    · rw [hmain] at hstep
      exact .inl ⟨Threads.next_of_none hstep, .inr rfl⟩
    · rw [hmain] at hstep
      exact .inr ⟨rfl, stack, s, rfl, Threads.next_of_some hstep⟩
  · apply Or.inl
    refine ⟨Threads.next_of_none ?_, .inl rfl⟩
    rw [step, hhalted]
    rfl

/-- A turn of the user, who leaves the console or sends a signal. -/
theorem next_user (noInput : Bool) (platform : Platform) (config : Configuration)
    (oracle : Oracle) (t : Threads (Actor.Place (ι := ι)) (Shared ι)) :
  let t' := Threads.next (step noInput platform config oracle) .user t
  t' = t ∧ (t.shared.halted = true ∨ t.locals .user = (0 : ℕ))
    ∨ ∃ inputs : ℕ, t.locals .user = inputs + 1
      ∧ t' = ⟨Function.update t.locals .user inputs,
        if noInput then { t.shared with pending := true }
        else { t.shared with scheduler := { t.shared.scheduler with left := true } }⟩
  := by
  intro t'
  rcases hinputs : (t.locals .user : ℕ) with _ | inputs
  · apply Or.inl
    refine ⟨Threads.next_of_none ?_, .inr rfl⟩
    rw [step]
    split
    · rfl
    · exact congrArg (move noInput platform config oracle .user · t.shared) hinputs
  · rcases hhalted : t.shared.halted with _ | _
    · apply Or.inr
      refine ⟨inputs, rfl, Threads.next_of_some ?_⟩
      rw [step, hhalted]
      exact congrArg (move noInput platform config oracle .user · t.shared) hinputs
    · apply Or.inl
      refine ⟨Threads.next_of_none ?_, .inl rfl⟩
      rw [step, hhalted]
      rfl

/-- A turn of the controller, which is the main thread. -/
theorem next_controller :
  Threads.next (step noInput platform config oracle) (.thread .controller) t = t
  := by
  apply Threads.next_of_none
  rw [step]
  split
  · rfl
  · rfl

/-- A turn of the user or of a thread of the process: the user makes an input, or what `main` and
the IO thread look at stays as it is. -/
theorem Driven.next_other (noInput : Bool) (config : Configuration) (oracle : Oracle)
    (h : Driven platform t) (haborted : t.shared.io.fields.aborted = false) {b : Actor ι}
    (hmain : b ≠ .main) (hio : b ≠ .io) :
  let t' := Threads.next (step noInput platform config oracle) b t
  (t'.shared.serverPtr = t.shared.serverPtr ∧ t'.shared.pending = t.shared.pending
      ∧ t'.shared.scheduler = t.shared.scheduler ∧ t'.locals .user = t.locals .user)
    ∨ ∃ inputs : ℕ, t.locals .user = inputs + 1
      ∧ t' = ⟨Function.update t.locals .user inputs,
        if noInput then { t.shared with pending := true }
        else { t.shared with scheduler := { t.shared.scheduler with left := true } }⟩
  := by
  intro t'
  have hsame : t' = t → t'.shared.serverPtr = t.shared.serverPtr
      ∧ t'.shared.pending = t.shared.pending ∧ t'.shared.scheduler = t.shared.scheduler
      ∧ t'.locals .user = t.locals .user := by
    intro heq
    rw [heq]
    exact ⟨rfl, rfl, rfl, rfl⟩
  cases b with
  | main => exact (hmain rfl).elim
  | io => exact (hio rfl).elim
  | user => exact (next_user noInput platform config oracle t).imp_left fun heq => hsame heq.1
  | thread a =>
      apply Or.inl
      by_cases ha : a = .controller
      · subst ha
        exact hsame next_controller
      · rcases (h.next_thread noInput config oracle haborted ha).2 with
          heq | ⟨place, process, threads, heq⟩
        · exact hsame heq
        · rw [show t' = _ from heq]
          exact ⟨rfl, rfl, rfl, rfl⟩

omit [DecidableEq ι] in
/-- At the start of the program the process is at its start. -/
theorem Driven.initial (platform : Platform) (inputs : ℕ) (messages : ι → List String)
    (changes : List Bool) (world : World) :
  asProcess (Main.initial platform inputs messages changes world)
      = Process.initial platform messages changes world
    ∧ Driven platform (Main.initial platform inputs messages changes world)
  := by
  have hprocess : asProcess (Main.initial platform inputs messages changes world)
      = Process.initial platform messages changes world := by
    apply congrArg (Threads.mk · _)
    funext a
    cases a <;> rfl
  use hprocess
  constructor
  · rw [hprocess]
    exact Process.Supervised.initial messages changes world
  · have hfirst : ∀ c, Process.controller platform
        (@Process.initial ι platform messages changes world) c = Process.first platform := by
      intro c
      cases c with
      | pushServer => rfl
      | tcpServer =>
          change ServerPlace.tcp platform (.worker (if _ then _ else _)) = _
          split <;> rfl
      | xmppClient =>
          change ServerPlace.xmpp platform (.worker (if _ then _ else _)) = _
          split <;> rfl
    intro c
    rw [hprocess, hfirst]
    cases c <;> exact Owned.Kept.initial platform

end Main

end UwpxPush
