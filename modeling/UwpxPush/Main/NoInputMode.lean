import UwpxPush.Main.Driving

/-!
# No input mode

The handler of `SIGINT` reaches the server through `serverPtr`, which is set while `main` waits
in its loop and at no other time.  A signal that is handled before is without effect, and a
later one makes the handler stop the server and end the loop.
-/

namespace UwpxPush

namespace Main

/-- The handler has not found a server. -/
inductive Idle : Option Handler → Prop where
  | none : Idle none
  | ifServerPtr : Idle (some .ifServerPtr)

/-- Where `main`, its handler and `serverPtr` are, and where that is in `start()` and `stop()` of
the server. -/
inductive Headless : Stack → Bool → Controller → Prop where
  | starting {k : Controller} (hk : k = .assertNotRunning ∨ k = .storeStarting ∨ k = .create)
      {handler : Option Handler} (h : Idle handler) : Headless ⟨.startServer k, handler⟩ false k
  | publishing {handler : Option Handler} (h : Idle handler) :
      Headless ⟨.setServerPtr, handler⟩ false .ifStarting
  | waiting {handler : Option Handler} (h : Idle handler) :
      Headless ⟨.whileServerPtr, handler⟩ true .ifStarting
  | stopping {k : Controller} (hk : k.isStopping = true) :
      Headless ⟨.whileServerPtr, some (.stop k)⟩ true k
  | clearing : Headless ⟨.whileServerPtr, some .clearServerPtr⟩ true .returned
  | leaving {handler : Option Handler} (h : Idle handler) :
      Headless ⟨.whileServerPtr, handler⟩ false .returned
  | destroying (c : Component) {handler : Option Handler} (h : Idle handler) :
      Headless ⟨.destroy c, handler⟩ false .returned
  | returned : Headless ⟨.returned, none⟩ false .returned

/-- Without a server the handler returns at once. -/
theorem Headless.unaware {place : Place} {ptr : Bool} {k : Controller}
    (h : Headless ⟨place, some .ifServerPtr⟩ ptr k) (hptr : ptr = false) :
  Headless ⟨place, none⟩ ptr k
  := by
  cases h with
  | starting hk hidle => exact .starting hk .none
  | publishing hidle => exact .publishing .none
  | waiting hidle => cases hptr
  | leaving hidle => exact .leaving .none
  | destroying c hidle => exact .destroying c .none

/-- The handler stops the server while `main` waits. -/
theorem Headless.of_stop {place : Place} {ptr : Bool} {k k' : Controller}
    (h : Headless ⟨place, some (.stop k)⟩ ptr k') :
  place = .whileServerPtr ∧ ptr = true ∧ k' = k ∧ k.isStopping = true
  := by
  cases h with
  | stopping hk => exact ⟨rfl, rfl, rfl, hk⟩
  | starting hk hidle => cases hidle
  | publishing hidle => cases hidle
  | waiting hidle => cases hidle
  | leaving hidle => cases hidle
  | destroying c hidle => cases hidle

/-- The handler clears the pointer once the server was stopped. -/
theorem Headless.of_clear {place : Place} {ptr : Bool} {k : Controller}
    (h : Headless ⟨place, some .clearServerPtr⟩ ptr k) :
  place = .whileServerPtr ∧ ptr = true ∧ k = .returned
  := by
  cases h with
  | clearing => exact ⟨rfl, rfl, rfl⟩
  | starting hk hidle => cases hidle
  | publishing hidle => cases hidle
  | waiting hidle => cases hidle
  | leaving hidle => cases hidle
  | destroying c hidle => cases hidle

/-- A signal interrupts `main`. -/
theorem Headless.interrupt {place : Place} {ptr : Bool} {k : Controller}
    (h : Headless ⟨place, none⟩ ptr k) (hne : place ≠ .returned) :
  Headless ⟨place, some .ifServerPtr⟩ ptr k
  := by
  cases h with
  | starting hk hidle => exact .starting hk .ifServerPtr
  | publishing hidle => exact .publishing .ifServerPtr
  | waiting hidle => exact .waiting .ifServerPtr
  | leaving hidle => exact .leaving .ifServerPtr
  | destroying c hidle => exact .destroying c .ifServerPtr
  | returned => exact (hne rfl).elim

/-- The pointer is set while `main` waits. -/
theorem Headless.place {stack : Stack} {ptr : Bool} {k : Controller} (h : Headless stack ptr k)
    (hptr : ptr = true) :
  stack.place = .whileServerPtr
  := by
  cases h with
  | starting hk hidle => cases hptr
  | publishing hidle => cases hptr
  | leaving hidle => cases hptr
  | destroying c hidle => cases hptr
  | returned => cases hptr
  | _ => rfl

/-- `main` itself does not stop the server. -/
theorem Headless.ne_stopServer {stack : Stack} {ptr : Bool} {k : Controller}
    (h : Headless stack ptr k) (k' : Controller) :
  stack.place ≠ .stopServer k'
  := by
  cases h <;> rintro ⟨⟩

/-- `main` returns after the server was stopped. -/
theorem Headless.of_returned {stack : Stack} {ptr : Bool} {k : Controller}
    (h : Headless stack ptr k) (hplace : stack.place = .returned) :
  k = .returned
  := by
  cases h with
  | returned => rfl
  | _ => cases hplace

/-- The relation says where the main thread is in `start()` and `stop()` of the server. -/
theorem Headless.controller_eq {stack : Stack} {ptr : Bool} {k : Controller}
    (h : Headless stack ptr k) :
  stack.controller ptr = k
  := by
  cases h with
  | waiting hidle => cases hidle <;> rfl
  | leaving hidle => cases hidle <;> rfl
  | _ => rfl

section

variable {ι : Type} {platform : Platform} {config : Configuration} {oracle : Oracle}
  {t : Threads (Actor.Place (ι := ι)) (Shared ι)} {stack : Stack} {s : Shared ι}

/-- What holds of the threads in no input mode. -/
structure NoInputMode (platform : Platform) (t : Threads (Actor.Place (ι := ι)) (Shared ι)) :
    Prop where
  driven : Driven platform t
  headless : Headless (t.locals .main) t.shared.serverPtr
    (Stack.controller t.shared.serverPtr (t.locals .main))
  io : t.shared.io.fields.aborted = false ∧ t.shared.io.fields.created = false

theorem NoInputMode.initial (inputs : ℕ) (messages : ι → List String) (changes : List Bool)
    (world : World) :
  NoInputMode platform (Main.initial platform inputs messages changes world)
  := by
  refine ⟨(Driven.initial platform inputs messages changes world).2, ?_, rfl, rfl⟩
  change Headless ⟨.startServer (Process.first platform), none⟩ false (Process.first platform)
  rw [Process.first]
  cases platform.debug with
  | false => exact .starting (.inr (.inl rfl)) .none
  | true => exact .starting (.inl rfl) .none

variable [DecidableEq ι]

/-- What the main thread keeps in a step. -/
structure NoInputMode.Keeps (platform : Platform) (config : Configuration) (oracle : Oracle)
    (t : Threads (Actor.Place (ι := ι)) (Shared ι)) (stack : Stack) (s : Shared ι) : Prop where
  turn : Turn platform config oracle .main t ⟨Function.update t.locals .main stack, s⟩
  headless : Headless stack s.serverPtr (stack.controller s.serverPtr)
  io : s.io = t.shared.io

/-- A step of the main thread that is not one of the controller. -/
theorem NoInputMode.Keeps.of_main
    (hheadless : Headless stack s.serverPtr (Stack.controller t.shared.serverPtr (t.locals .main)))
    (hprocess : s.process = t.shared.process) (hthreads : s.threads = t.shared.threads)
    (hio : s.io = t.shared.io) :
  NoInputMode.Keeps platform config oracle t stack s
  := by
  have hcontroller := hheadless.controller_eq
  constructor
  · apply Turn.of_none (drives_main hcontroller hprocess hthreads)
    rintro a ⟨⟩
  · rw [hcontroller]
    exact hheadless
  · exact hio

/-- A step of the main thread in `start()` or `stop()` of the server. -/
theorem NoInputMode.Keeps.of_control (h : NoInputMode platform t) (hok : t.shared.halted = false)
    {k k' : Controller} (hk : Stack.controller t.shared.serverPtr (t.locals .main) = k)
    (hcontrol : serverControl platform config oracle k t.shared = some (k', s))
    (hheadless : ∀ {w f f'}, Sound k w f → Controller.step k f = some (k', f') →
      Headless stack t.shared.serverPtr k') :
  NoInputMode.Keeps platform config oracle t stack s
  := by
  subst hk
  have hserver := h.driven.supervised.server
  obtain ⟨f, hstep, hs⟩ := h.driven.serverControl hcontrol
  have hnext := hheadless hserver hstep
  have hturn := Turn.of_controller
    (h.driven.drives_controller hok hcontrol hnext.controller_eq)
  subst hs
  refine ⟨hturn, ?_, rfl⟩
  change Headless stack t.shared.serverPtr (stack.controller t.shared.serverPtr)
  rw [hnext.controller_eq]
  exact hnext

/-- A step of `main` while no handler interrupts it. -/
theorem NoInputMode.placeStep (h : NoInputMode platform t) (hok : t.shared.halted = false)
    {place place' : Place} (hstack : t.locals .main = (⟨place, none⟩ : Stack))
    (hstep : Main.placeStep true platform config oracle place t.shared = some (place', s)) :
  NoInputMode.Keeps platform config oracle t ⟨place', none⟩ s ∧ s.pending = t.shared.pending
  := by
  have hheadless := h.headless
  rw [hstack] at hheadless
  generalize hptr : t.shared.serverPtr = ptr,
    hk : Stack.controller t.shared.serverPtr ⟨place, none⟩ = k at hheadless
  rw [← hstack] at hk
  have hmain : Headless ⟨place', none⟩ s.serverPtr k → s.process = t.shared.process →
      s.threads = t.shared.threads → s.io = t.shared.io →
      NoInputMode.Keeps platform config oracle t ⟨place', none⟩ s := by
    subst hk
    exact NoInputMode.Keeps.of_main
  cases hheadless with
  | @starting k hstart hidle =>
      obtain ⟨⟨k', s'⟩, hcontrol, heq⟩ := Option.map_eq_some_iff.mp hstep
      cases heq
      constructor
      · apply NoInputMode.Keeps.of_control h hok hk hcontrol
        intro w f f' hsound hmove
        rw [hptr]
        rcases Controller.step_start hstart hsound hmove with rfl | hk'
        · exact .publishing .none
        · rw [if_neg (by rcases hk' with rfl | rfl <;> rintro ⟨⟩)]
          exact .starting (.inr hk') .none
      · subst hk
        obtain ⟨f, -, rfl⟩ := h.driven.serverControl hcontrol
        rfl
  | publishing hidle =>
      cases hstep
      exact ⟨hmain (.waiting hidle) rfl rfl rfl, rfl⟩
  | waiting hidle =>
      cases hstep
      rw [if_pos hptr] at hmain ⊢
      refine ⟨hmain ?_ rfl rfl rfl, rfl⟩
      rw [hptr]
      exact .waiting hidle
  | leaving hidle =>
      cases hstep
      rw [if_neg (by rw [hptr]; rintro ⟨⟩)] at hmain ⊢
      refine ⟨hmain ?_ rfl rfl rfl, rfl⟩
      rw [hptr]
      exact .destroying _ hidle
  | destroying c hidle =>
      have hdestroyed := h.driven.destroyed hk
      have hnext : s = t.shared ∧ Headless ⟨place', none⟩ false .returned := by
        cases c with
        | pushServer =>
            cases hstep
            exact ⟨hdestroyed _, .destroying _ .none⟩
        | tcpServer =>
            cases hstep
            exact ⟨hdestroyed _, .returned⟩
        | xmppClient =>
            cases hstep
            exact ⟨hdestroyed _, .destroying _ .none⟩
      obtain ⟨rfl, hnext⟩ := hnext
      rw [hptr] at hmain
      exact ⟨hmain hnext rfl rfl rfl, rfl⟩
  | returned => cases hstep

/-- A step of the handler. -/
theorem NoInputMode.handlerStep (h : NoInputMode platform t) (hok : t.shared.halted = false)
    {place : Place} {hd : Handler} {handler : Option Handler}
    (hstack : t.locals .main = (⟨place, some hd⟩ : Stack))
    (hstep : Main.handlerStep platform config oracle hd t.shared = some (handler, s)) :
  NoInputMode.Keeps platform config oracle t ⟨place, handler⟩ s ∧ s.pending = t.shared.pending
  := by
  have hheadless := h.headless
  have hmain : Headless ⟨place, handler⟩ s.serverPtr
        (Stack.controller t.shared.serverPtr (t.locals .main)) → s.process = t.shared.process →
      s.threads = t.shared.threads → s.io = t.shared.io →
      NoInputMode.Keeps platform config oracle t ⟨place, handler⟩ s :=
    NoInputMode.Keeps.of_main
  rw [hstack] at hheadless hmain
  cases hd with
  | ifServerPtr =>
      cases hstep
      refine ⟨hmain ?_ rfl rfl rfl, rfl⟩
      by_cases hptr : t.shared.serverPtr = true
      · rw [if_pos hptr]
        obtain rfl : place = .whileServerPtr := hheadless.place hptr
        rw [hptr]
        exact .stopping rfl
      · rw [if_neg hptr]
        exact hheadless.unaware (Bool.eq_false_iff.mpr hptr)
  | stop k =>
      obtain ⟨⟨k', s'⟩, hcontrol, heq⟩ := Option.map_eq_some_iff.mp hstep
      cases heq
      obtain ⟨rfl, hptr, -, hstop⟩ := hheadless.of_stop
      have hk : Stack.controller t.shared.serverPtr (t.locals .main) = k := by
        rw [hstack]
        rfl
      constructor
      · apply NoInputMode.Keeps.of_control h hok hk hcontrol
        intro w f f' hsound hmove
        rw [hptr]
        rcases Controller.step_stop hstop hsound hmove with rfl | hk'
        · exact .clearing
        · rw [if_neg (by rintro rfl; cases hk')]
          exact .stopping hk'
      · subst hk
        obtain ⟨f, -, rfl⟩ := h.driven.serverControl hcontrol
        rfl
  | clearServerPtr =>
      cases hstep
      obtain ⟨rfl, -, -⟩ := hheadless.of_clear
      exact ⟨hmain (.leaving .none) rfl rfl rfl, rfl⟩

/-- A step of the main thread. -/
theorem NoInputMode.mainStep (h : NoInputMode platform t) (hok : t.shared.halted = false)
    (hstep : Main.mainStep true platform config oracle (t.locals .main) t.shared
      = some (stack, s)) :
  NoInputMode.Keeps platform config oracle t stack s
  := by
  have hheadless := h.headless
  rcases hstack : (t.locals .main : Stack) with ⟨place, handler⟩
  rw [hstack] at hstep hheadless
  cases handler with
  | some hd =>
      obtain ⟨⟨handler, s'⟩, hhandler, heq⟩ := Option.map_eq_some_iff.mp hstep
      cases heq
      exact (h.handlerStep hok hstack hhandler).1
  | none =>
      rw [Main.mainStep] at hstep
      split at hstep
      · next hpending =>
          cases hstep
          apply NoInputMode.Keeps.of_main
          · rw [hstack]
            exact hheadless.interrupt hpending.2
          · rfl
          · rfl
          · rfl
      · obtain ⟨⟨place', s'⟩, hplace, heq⟩ := Option.map_eq_some_iff.mp hstep
        cases heq
        exact (h.placeStep hok hstack hplace).1

/-- The IO thread does not exist. -/
theorem NoInputMode.next_io (h : NoInputMode platform t) :
  Threads.next (step true platform config oracle) .io t = t
  := by
  apply Threads.next_of_none
  rw [step, if_pos]
  rw [Shared.created, h.io.2, Bool.not_false, Bool.or_true]

/-- Every step keeps what holds, and is one of the process. -/
theorem NoInputMode.next (h : NoInputMode platform t) (a : Actor ι) :
  let t' := Threads.next (step true platform config oracle) a t
  NoInputMode platform t' ∧ Turn platform config oracle a t t'
  := by
  intro t'
  have hself : (∀ b, a = .thread b → b = .controller) → t' = t →
      NoInputMode platform t' ∧ Turn platform config oracle a t t' := by
    intro ha heq
    rw [heq]
    exact ⟨h, .stays ha⟩
  cases a with
  | main =>
      rcases next_main true platform config oracle t with ⟨heq, -⟩ | ⟨hok, stack, s, hmain, heq⟩
      · exact hself (by rintro b ⟨⟩) heq
      · have hkeeps := h.mainStep hok hmain
        rw [show t' = _ from heq]
        obtain ⟨label, hdrives, -⟩ := hkeeps.turn
        refine ⟨⟨h.driven.next hdrives, hkeeps.headless, ?_⟩, hkeeps.turn⟩
        rw [hkeeps.io]
        exact h.io
  | io => exact hself (by rintro b ⟨⟩) h.next_io
  | user =>
      rcases next_user true platform config oracle t with ⟨heq, -⟩ | ⟨inputs, -, heq⟩
      · exact hself (by rintro b ⟨⟩) heq
      · have hdrives : Drives platform config oracle t t' none := by
          rw [show t' = _ from heq]
          exact drives_other (by rintro ⟨⟩) (by rintro b ⟨⟩) rfl rfl rfl
        refine ⟨?_, .of_none hdrives (by rintro b ⟨⟩)⟩
        have hdriven := h.driven.next hdrives
        rw [show t' = _ from heq] at hdriven ⊢
        exact ⟨hdriven, h.headless, h.io⟩
  | thread b =>
      by_cases hb : b = .controller
      · subst hb
        exact hself (by rintro b ⟨⟩; rfl) next_controller
      · obtain ⟨hdrives, hcases⟩ := h.driven.next_thread true config oracle h.io.1 hb
        have hdriven := h.driven.next hdrives
        refine ⟨?_, some b, hdrives, by rintro ⟨⟩, ?_⟩
        · rcases hcases with heq | ⟨place, process, threads, heq⟩
          · rw [show t' = t from heq]
            exact h
          · rw [heq] at hdriven
            rw [show t' = _ from heq]
            exact ⟨hdriven, h.headless, h.io⟩
        · rintro a - ⟨⟩
          rfl

end

/-- In no input mode, in every interleaving of the main thread, with any number of signals, and
the threads of the server, its components and its clients: no assertion about the field of a
component fails, no thread is destroyed or replaced that was not joined, and none is joined that
does not exist; there is no IO thread, `main` itself does not stop the server, `serverPtr` is set
only while `main` waits in its loop, and the handler is in `stop()` only while it is set; and when
`main` returns, every thread that was created has ended and was joined, and the server has
stopped. -/
theorem noInputMode_closes {ι : Type} [DecidableEq ι] (platform : Platform)
    (config : Configuration) (oracle : Oracle) (inputs : ℕ) (messages : ι → List String)
    (changes : List Bool) (world : World) (schedule : List (Actor ι)) :
  let t := Threads.run (step true platform config oracle) schedule
    (initial platform inputs messages changes world)
  let stack := t.locals .main
  (∀ c, (t.shared.owned c).fields.aborted = false)
    ∧ (t.shared.io.fields.aborted = false ∧ t.shared.io.fields.created = false)
    ∧ (∀ k, stack.place ≠ .stopServer k)
    ∧ (t.shared.serverPtr = true → stack.place = .whileServerPtr)
    ∧ (∀ k, stack.handler = some (.stop k) → t.shared.serverPtr = true)
    ∧ (stack.place = .returned →
      (∀ c, (t.shared.owned c).Closed) ∧ Process.Stopped (asProcess t))
  := by
  intro t stack
  have hmode : NoInputMode platform t :=
    Threads.run_invariant (fun a _ h => (h.next a).1)
      (NoInputMode.initial inputs messages changes world) schedule
  have hheadless : Headless stack t.shared.serverPtr (Stack.controller t.shared.serverPtr stack) :=
    hmode.headless
  refine ⟨fun c => (hmode.driven.kept c).aborted, hmode.io, ?_, hheadless.place, ?_, ?_⟩
  · intro k
    exact hheadless.ne_stopServer k
  · intro k hhandler
    have hstop : Headless ⟨stack.place, some (.stop k)⟩ t.shared.serverPtr
        (Stack.controller t.shared.serverPtr stack) := by
      rw [← hhandler]
      exact hheadless
    exact hstop.of_stop.2.1
  · intro hplace
    have hreturned := hheadless.of_returned hplace
    exact ⟨hmode.driven.closed hreturned, hmode.driven.supervised.stopped hreturned⟩

end Main

end UwpxPush
