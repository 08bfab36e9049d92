import UwpxPush.Main.Exit
import UwpxPush.Main.NoInputMode

/-!
# Leaving by a signal

A signal that is handled before `serverPtr` is set is without effect.  One that is pending while
it is set makes the handler ask the server to stop.  When the thread of the server has ended, the
handler joins it and clears `serverPtr`, and `main` returns, though more signals may interrupt it.
-/

namespace UwpxPush

namespace Main

/-! ### Signals that come too early -/

/-- No signal was found since `serverPtr` was set. -/
inductive Unheard : Stack → Bool → Prop where
  | starting (k : Controller) {handler : Option Handler} (h : Idle handler) :
      Unheard ⟨.startServer k, handler⟩ false
  | publishing {handler : Option Handler} (h : Idle handler) :
      Unheard ⟨.setServerPtr, handler⟩ false
  | waiting : Unheard ⟨.whileServerPtr, none⟩ true

section

variable {ι : Type} [DecidableEq ι] {platform : Platform} {config : Configuration}
  {oracle : Oracle} {t : Threads (Actor.Place (ι := ι)) (Shared ι)} {stack : Stack}
  {s : Shared ι}

/-- Before `serverPtr` is set, the handler comes and goes. -/
theorem Unheard.interrupted {place : Place} {handler : Option Handler}
    (hunheard : ∀ {handler}, Idle handler → Unheard ⟨place, handler⟩ false) (h : Idle handler)
    (hptr : t.shared.serverPtr = false)
    (hplace : ∀ {place' s}, handler = none →
      placeStep true platform config oracle place t.shared = some (place', s) →
      Unheard ⟨place', none⟩ s.serverPtr)
    (hstep :
      Main.mainStep true platform config oracle ⟨place, handler⟩ t.shared = some (stack, s)) :
  Unheard stack s.serverPtr
  := by
  cases h with
  | ifServerPtr =>
      rw [Main.mainStep, Main.handlerStep, hptr] at hstep
      cases hstep
      rw [hptr]
      exact hunheard .none
  | none =>
      rw [Main.mainStep] at hstep
      split at hstep
      · cases hstep
        change Unheard _ t.shared.serverPtr
        rw [hptr]
        exact hunheard .ifServerPtr
      · obtain ⟨⟨place', s'⟩, hmove, heq⟩ := Option.map_eq_some_iff.mp hstep
        cases heq
        exact hplace rfl hmove

/-- A step of the main thread, when no signal is pending while `serverPtr` is set. -/
theorem Unheard.mainStep (hmode : NoInputMode platform t)
    (h : Unheard (t.locals .main) t.shared.serverPtr)
    (hquiet : ¬(t.shared.serverPtr = true ∧ t.shared.pending = true))
    (hstep : Main.mainStep true platform config oracle (t.locals .main) t.shared
      = some (stack, s)) :
  Unheard stack s.serverPtr
  := by
  generalize hstack : (t.locals .main : Stack) = stack₀, hptr : t.shared.serverPtr = ptr at h
  rw [hstack] at hstep
  cases h with
  | starting k hidle =>
      apply Unheard.interrupted (.starting k) hidle hptr _ hstep
      rintro place' s rfl hplace
      obtain ⟨⟨k', s'⟩, hcontrol, heq⟩ := Option.map_eq_some_iff.mp hplace
      cases heq
      have hk : Stack.controller t.shared.serverPtr (t.locals .main) = k := by
        rw [hstack]
        rfl
      subst hk
      obtain ⟨f, -, rfl⟩ := hmode.driven.serverControl hcontrol
      change Unheard _ t.shared.serverPtr
      rw [hptr]
      split
      · exact .publishing .none
      · exact .starting k' .none
  | publishing hidle =>
      apply Unheard.interrupted .publishing hidle hptr _ hstep
      rintro place' s - hplace
      cases hplace
      exact .waiting
  | waiting =>
      rw [Main.mainStep, if_neg (fun hpending => hquiet ⟨hptr, hpending.1⟩), Main.placeStep, hptr]
        at hstep
      cases hstep
      rw [hptr]
      exact .waiting

/-! ### The way to the request -/

variable {σ : ℕ → Actor ι} {u : ℕ → Threads (Actor.Place (ι := ι)) (Shared ι)} {n : ℕ}

/-- In no input mode the program makes a run. -/
theorem NoInputMode.mainRun
    (hrun : Endless (Threads.next (step true platform config oracle)) σ u)
    (hmode : ∀ n, NoInputMode platform (u n)) :
  MainRun true platform config oracle σ u
  := by
  constructor
  · exact hrun
  · exact fun n => (hmode n).driven
  · exact fun n => (hmode n).io.1
  · intro n
    rw [hrun n]
    exact ((hmode n).next (σ n)).2
  · intro n hreturned
    have hheadless := (hmode n).headless
    generalize Stack.controller (u n).shared.serverPtr ((u n).locals .main) = k at hheadless
    generalize (u n).shared.serverPtr = ptr at hheadless
    rw [Returned] at hreturned
    generalize ((u n).locals .main : Stack) = stack at hheadless hreturned
    cases hheadless with
    | returned => rfl
    | _ => cases hreturned

/-- The turns of the others leave the main thread and `serverPtr` as they are. -/
theorem NoInputMode.frame (hrun : Endless (Threads.next (step true platform config oracle)) σ u)
    (hmode : ∀ n, NoInputMode platform (u n)) (hturn : σ n ≠ .main) :
  (u (n + 1)).locals .main = (u n).locals .main
    ∧ (u (n + 1)).shared.serverPtr = (u n).shared.serverPtr
    ∧ ((u n).shared.pending = true → (u (n + 1)).shared.pending = true)
  := by
  use (NoInputMode.mainRun hrun hmode).main_of_ne hturn
  rw [hrun n]
  by_cases hio : σ n = .io
  · rw [hio, (hmode n).next_io]
    exact ⟨rfl, id⟩
  · rcases (hmode n).driven.next_other true config oracle (hmode n).io.1 hturn hio with
      ⟨hptr, hpending, -⟩ | ⟨inputs, -, heq⟩
    · exact ⟨hptr, hpending.trans⟩
    · rw [heq]
      exact ⟨rfl, fun _ => rfl⟩

end

end Main

namespace Sample

/-- The client's message is handled, a signal comes, and its handler stops the server. -/
def interrupted : List (Main.Actor Unit) :=
  List.replicate 3 .main
    ++ (schedule [(15, .server), (5, .xmpp), (5, .tcp), (30, .handler ())]).map .thread
    ++ List.replicate 2 .main ++ [.user] ++ List.replicate 8 .main
    ++ (schedule [(20, .server), (8, .tcp), (12, .server), (30, .xmpp), (8, .server),
      (1, .controller), (1, .network)]).map .thread
    ++ List.replicate 8 .main ++ [.io]

end Sample

end UwpxPush
