import Mathlib.Algebra.Order.BigOperators.Group.Finset
import UwpxPush.Run.Endless
import UwpxPush.Server.Stages

/-!
# The end of the server

In a fair run in which the process is not ended and no request to stop is overwritten, the
thread of the server comes to its end once it was asked to stop: it stops the TCP server, whose
thread waits for the handlers, and then the XMPP client.
-/

namespace UwpxPush

namespace Process

variable {ι : Type} {platform : Platform} {config : Configuration} {oracle : Oracle}

/-! ### What holds until a request is overwritten -/

section Undisturbed

variable {t : Threads (Actor.Place (ι := ι)) (Process ι)}

/-- The service waits for those of its threads that are in a handler. -/
structure Attended (t : Threads (Actor.Place (ι := ι)) (Process ι)) : Prop where
  nodup : t.shared.handling.Nodup
  handler : ∀ i ∈ t.shared.handling, Handler.handler (t.locals (.handler i)) ≠ none

/-- The process has not ended, and no request to stop was overwritten. -/
structure Undisturbed (platform : Platform)
    (t : Threads (Actor.Place (ι := ι)) (Process ι)) : Prop where
  notLost : ∀ c, NotLost (controller platform t c) (worker t c) (t.shared.fields c)
  proper : ServerPlace.Proper (t.locals .server)
  attended : Attended t
  halted : t.shared.halted = false

theorem Undisturbed.initial (messages : ι → List String) (changes : List Bool) (world : World) :
  Undisturbed platform (Process.initial platform messages changes world)
  := by
  have hstarting : Starting (first platform)
      (if platform.debug then .assertStarting else .unlessStarting)
      ⟨.notRunning, false, false, false⟩ := by
    rw [first]
    cases platform.debug with
    | false => exact .storeStarting (.inr rfl)
    | true => exact .assertNotRunning (.inl rfl)
  have hplace : ∀ w : Worker, w = .assertStarting ∨ w = .unlessStarting →
      (ServerPlace.worker w).tcp platform = first platform
        ∧ (ServerPlace.worker w).xmpp platform = first platform := by
    rintro w (rfl | rfl)
    · exact ⟨rfl, rfl⟩
    · exact ⟨rfl, rfl⟩
  obtain ⟨htcp, hxmpp⟩ :=
    hplace (if platform.debug then .assertStarting else .unlessStarting) (by split <;> simp)
  constructor
  · intro c
    apply Or.inl
    cases c with
    | pushServer => exact hstarting
    | tcpServer =>
        change Starting (ServerPlace.tcp platform (.worker _)) _ _
        rw [htcp]
        exact hstarting
    | xmppClient =>
        change Starting (ServerPlace.xmpp platform (.worker _)) _ _
        rw [hxmpp]
        exact hstarting
  · trivial
  · exact ⟨List.nodup_nil, by rintro i ⟨⟩⟩
  · rfl

theorem not_failed {s : Process ι} (h : s.halted = false) :
  s.failed = false
  := by
  simp only [halted, Bool.or_eq_false_iff] at h
  exact h.1.1.1

variable [DecidableEq ι]

theorem Attended.of_same {a : Actor ι} {place : a.Place} {s : Process ι} (h : Attended t)
    (ha : ∀ i, a ≠ .handler i) (hhandling : s.handling = t.shared.handling) :
  Attended ⟨Function.update t.locals a place, s⟩
  := by
  constructor
  · rw [hhandling]
    exact h.nodup
  · intro i hi
    rw [hhandling] at hi
    rw [Threads.locals_moved_of_ne (ha i).symm]
    exact h.handler i hi

/-- A step of a handler. -/
theorem Attended.handlerStep {i : ι} {place : Handler} {s : Process ι} (h : Attended t)
    (hok : s.failed = false)
    (hstep : Process.handlerStep platform config oracle i (t.locals (.handler i)) t.shared
      = some (place, s)) :
  Attended ⟨Function.update t.locals (.handler i) place, s⟩
  := by
  have hother : ∀ {j}, j ≠ i → j ∈ t.shared.handling → Handler.handler
      ((⟨Function.update t.locals (.handler i) place, s⟩ : Threads Actor.Place (Process ι)).locals
        (.handler j)) ≠ none := by
    intro j hj hmem
    rw [Threads.locals_moved_of_ne (by rintro ⟨⟩; exact hj rfl)]
    exact h.handler j hmem
  rcases handlerStep_cases hok hstep with
    ⟨hidle, hbusy, hhandling, -⟩ | ⟨-, -, hhandling, -⟩ | ⟨p, p', -, hbusy, -, hhandling, -⟩
  · constructor
    · rw [hhandling]
      apply List.Nodup.cons _ h.nodup
      intro hmem
      exact h.handler i hmem hidle
    · intro j hj
      rw [hhandling] at hj
      by_cases hji : j = i
      · subst hji
        rw [Threads.locals_moved_self]
        exact hbusy
      · exact hother hji ((List.mem_cons.mp hj).resolve_left hji)
  · constructor
    · rw [hhandling]
      exact h.nodup.erase i
    · intro j hj
      rw [hhandling, h.nodup.mem_erase_iff] at hj
      exact hother hj.1 hj.2
  · constructor
    · rw [hhandling]
      exact h.nodup
    · intro j hj
      rw [hhandling] at hj
      by_cases hji : j = i
      · subst hji
        rw [Threads.locals_moved_self, hbusy]
        rintro ⟨⟩
      · exact hother hji hj

/-- Only the handlers change what the service waits for. -/
theorem handling_step {a : Actor ι} {place : a.Place} {s : Process ι}
    (ha : ∀ i, a ≠ .handler i)
    (hmove : move platform config oracle a (t.locals a) t.shared = some (place, s)) :
  s.handling = t.shared.handling
  := by
  cases a with
  | controller =>
      obtain ⟨⟨k, f⟩, -, heq⟩ := Option.map_eq_some_iff.mp hmove
      cases heq
      rfl
  | server =>
      have hkeeps := (serverMoves hmove).keeps
      simp only [resources, Prod.mk.injEq] at hkeeps
      exact hkeeps.2.2.2
  | tcp => rw [(tcpMoves hmove).keeps]
  | xmpp =>
      obtain ⟨failed, hkeeps⟩ := (xmppMoves hmove).keeps
      rw [hkeeps]
  | handler i => exact (ha i rfl).elim
  | network =>
      rcases hchanges : t.locals .network with _ | ⟨connected, changes⟩
      · rw [hchanges] at hmove
        cases hmove
      · rw [hchanges] at hmove
        cases hmove
        rfl

theorem Attended.step {a : Actor ι} {place : a.Place} {s : Process ι} (h : Attended t)
    (hok : s.failed = false)
    (hmove : move platform config oracle a (t.locals a) t.shared = some (place, s)) :
  Attended ⟨Function.update t.locals a place, s⟩
  := by
  by_cases ha : ∃ i, a = .handler i
  · obtain ⟨i, rfl⟩ := ha
    exact h.handlerStep hok hmove
  · have hne : ∀ i, a ≠ .handler i := not_exists.mp ha
    exact h.of_same hne (handling_step hne hmove)

/-- What holds is kept unless the process ends or a request is overwritten. -/
theorem Undisturbed.next (h : Undisturbed platform t) (a : Actor ι)
    (hnot : ∀ c,
      ¬Overwrites (controller platform (Threads.next (step platform config oracle) a t) c)
        (worker (Threads.next (step platform config oracle) a t) c))
    (hok : (Threads.next (step platform config oracle) a t).shared.halted = false) :
  Undisturbed platform (Threads.next (step platform config oracle) a t)
  := by
  have hnotLost := fun c => (h.notLost c).moves (moves_next a t c) (hnot c)
  rcases hstep : Process.step platform config oracle a (t.locals a) t.shared with _ | ⟨place, s⟩
  · rw [Threads.next_of_none hstep]
    exact h
  · rw [Threads.next_of_some hstep] at hnotLost hok ⊢
    have hmove := (Option.ite_none_left_eq_some.mp hstep).2
    refine ⟨hnotLost, ?_, h.attended.step (not_failed hok) hmove, hok⟩
    cases a with
    | server => exact proper_serverStep h.proper hmove
    | _ => exact h.proper

end Undisturbed

/-! ### Fair runs -/

/-- A run of the process that is not disturbed, in which every thread but the controller takes
turns again and again.  Between their turns nothing may happen, too. -/
structure FairRun [DecidableEq ι] (platform : Platform) (config : Configuration)
    (oracle : Oracle) (σ : ℕ → Option (Actor ι))
    (u : ℕ → Threads (Actor.Place (ι := ι)) (Process ι)) : Prop where
  endless : Endless (Threads.nextOption (step platform config oracle)) σ u
  recurs : ∀ a, a ≠ .controller → Recurs σ (some a)
  undisturbed : ∀ n, Undisturbed platform (u n)

namespace FairRun

variable [DecidableEq ι] {σ : ℕ → Option (Actor ι)}
  {u : ℕ → Threads (Actor.Place (ι := ι)) (Process ι)} {n : ℕ}

/-- A turn passes because the actor has no step, or the actor makes one. -/
theorem turn (h : FairRun platform config oracle σ u) (n : ℕ) :
  u (n + 1) = u n ∧ (∀ a, σ n = some a → (u n).shared.created a = true →
      move platform config oracle a ((u n).locals a) (u n).shared = none)
    ∨ ∃ a place s, σ n = some a
      ∧ move platform config oracle a ((u n).locals a) (u n).shared = some (place, s)
      ∧ u (n + 1) = ⟨Function.update (u n).locals a place, s⟩
  := by
  have hnext := h.endless n
  rcases hturn : σ n with _ | a
  · rw [hturn] at hnext
    exact .inl ⟨hnext, by rintro a ⟨⟩⟩
  · rw [hturn] at hnext
    rcases hstep : step platform config oracle a ((u n).locals a) (u n).shared with _ | ⟨place, s⟩
    · refine .inl ⟨hnext.trans (Threads.next_of_none hstep), ?_⟩
      rintro _ ⟨⟩ hcreated
      rw [step, if_neg] at hstep
      · exact hstep
      · rw [(h.undisturbed n).halted, hcreated]
        rintro ⟨⟩
    · exact .inr ⟨a, place, s, rfl, (Option.ite_none_left_eq_some.mp hstep).2,
        hnext.trans (Threads.next_of_some hstep)⟩

/-- An actor whose thread was created and that has a step makes it in its turn. -/
theorem acts (h : FairRun platform config oracle σ u) {a : Actor ι} (hturn : σ n = some a)
    (hcreated : (u n).shared.created a = true)
    (hmove : ∃ x, move platform config oracle a ((u n).locals a) (u n).shared = some x) :
  ∃ place s, move platform config oracle a ((u n).locals a) (u n).shared = some (place, s)
    ∧ u (n + 1) = ⟨Function.update (u n).locals a place, s⟩
  := by
  obtain ⟨x, hmove⟩ := hmove
  rcases h.turn n with ⟨-, hnone⟩ | ⟨b, place, s, hb, hstep, hnext⟩
  · rw [hnone a hturn hcreated] at hmove
    cases hmove
  · cases hturn.symm.trans hb
    exact ⟨place, s, hstep, hnext⟩

theorem moves (h : FairRun platform config oracle σ u) (n : ℕ) (c : Component) :
  ComponentMoves platform c (u n) (u (n + 1))
  := by
  rw [h.endless n]
  rcases σ n with _ | a
  · exact .stays ..
  · exact moves_next a (u n) c

/-- A component whose controller waits and whose thread has not returned was asked to stop. -/
theorem requested (h : FairRun platform config oracle σ u) {c : Component}
    (hjoin : controller platform (u n) c = .join) (hworker : worker (u n) c ≠ .returned) :
  (u n).shared.fields c = ⟨.stopRequested, true, false, false⟩ ∧ worker (u n) c ≠ .storeRunning
  := by
  have hstopping := (h.undisturbed n).notLost c
  rw [hjoin] at hstopping
  have hasked := hstopping.stopping (.inl rfl)
  exact ⟨hasked.requested hworker, hasked.ne_storeRunning⟩

/-! ### The threads that the server joins -/

/-- The thread of the server is at a place and joins a thread that has not returned. -/
def Waits (place : ServerPlace) (c : Component)
    (t : Threads (Actor.Place (ι := ι)) (Process ι)) : Prop :=
  t.locals .server = place ∧ worker t c ≠ .returned

section Waiting

variable {place : ServerPlace} {c : Component}

/-- The thread that is joined was asked to stop. -/
theorem asked (h : FairRun platform config oracle σ u) (hplace : place.joins = some c)
    (hwaits : Waits place c (u n)) :
  (u n).shared.fields c = ⟨.stopRequested, true, false, false⟩ ∧ worker (u n) c ≠ .storeRunning
  := h.requested (controller_joins hwaits.1 hplace) hwaits.2

end Waiting

end FairRun

/-! ### The TCP server and its handlers -/

section Service

variable [Fintype ι] {handlers : ι → Handler} {tcp : TcpPlace} {s s' : Process ι}

variable [DecidableEq ι] {i : ι} {place : Handler}

variable {t : Threads (Actor.Place (ι := ι)) (Process ι)}

namespace FairRun

variable {σ : ℕ → Option (Actor ι)} {u : ℕ → Threads (Actor.Place (ι := ι)) (Process ι)} {n : ℕ}

/-- The server was asked to stop. -/
def Asked (platform : Platform) (t : Threads (Actor.Place (ι := ι)) (Process ι)) : Prop :=
  Stopping (controller platform t .pushServer) (worker t .pushServer) (t.shared.fields .pushServer)

end FairRun

end Service

end Process

end UwpxPush
