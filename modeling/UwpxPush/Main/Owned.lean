import UwpxPush.Main.Process
import UwpxPush.Server.Stages

/-!
# Components and their threads

The optional of a component holds a thread from its creation in `start()` to the end of
`stop()`, so `join()` finds one; no assertion of the component fails, and its field is
`NOT_RUNNING` again when `stop()` has returned.
-/

namespace UwpxPush

/-- The optional holds a thread. -/
def Controller.hasThread : Controller → Bool
  | .assertNotRunning => false
  | .storeStarting => false
  | .create => false
  | .returned => false
  | _ => true

/-- No thread is missing, and none is in the way. -/
theorem Controller.not_misuses (k : Controller) :
  k.misuses k.hasThread = false
  := by
  cases k <;> rfl

/-- The controller aborts where it finds a component that is already running. -/
theorem Controller.aborted_step {k k' : Controller} {f f' : Fields}
    (hk : k = .assertNotRunning → f.state = .notRunning)
    (h : Controller.step k f = some (k', f')) :
  f'.aborted = f.aborted
  := by
  cases k with
  | assertNotRunning =>
      rw [Controller.step, if_pos (hk rfl)] at h
      cases h
      rfl
  | join =>
      rw [Controller.step] at h
      split at h
      · cases h
        rfl
      · cases h
  | returned => cases h
  | _ =>
      cases h
      rfl

/-- The thread aborts where the field is neither `STARTING` nor `STOP_REQUESTED`. -/
theorem Worker.aborted_step {body w w' : Worker} {f f' : Fields}
    (hw : w = .assertStopRequested → f.state = .stopRequested)
    (h : Worker.step body w f = some (w', f')) :
  f'.aborted = f.aborted
  := by
  cases w with
  | assertStopRequested =>
      rw [Worker.step, if_pos (hw rfl)] at h
      cases h
      rfl
  | unlessStarting =>
      rw [Worker.step] at h
      split at h
      · cases h
        rfl
      · cases h
        rfl
  | returned => cases h
  | _ =>
      cases h
      rfl

/-- `stop()` returns from its first test, or it leaves the field `NOT_RUNNING`. -/
theorem Controller.of_returned {k : Controller} {f f' : Fields}
    (h : Controller.step k f = some (.returned, f')) :
  k = .ifWaitingForJoin ∨ f'.state = .notRunning
  := by
  cases k with
  | ifWaitingForJoin => exact .inl rfl
  | storeNotRunning =>
      cases h
      exact .inr rfl
  | assertNotRunning =>
      rw [Controller.step] at h
      split at h <;> cases h
  | ifStarting =>
      rw [Controller.step] at h
      split at h <;> cases h
  | ifRunning =>
      rw [Controller.step] at h
      split at h <;> cases h
  | unlessWaitingForJoin =>
      rw [Controller.step] at h
      split at h <;> cases h
  | join =>
      rw [Controller.step] at h
      split at h <;> cases h
  | _ => cases h

/-- `start()` finds the field `NOT_RUNNING`. -/
theorem Sound.notRunning {w : Worker} {f : Fields} (h : Sound .assertNotRunning w f) :
  f.state = .notRunning
  := by
  cases h.isStarting nofun nofun nofun with
  | assertNotRunning hw => rfl
  | early hk hw => rcases hk with hk | hk | hk <;> cases hk
  | looping hk hw => rcases hk with hk | hk | hk | hk <;> cases hk

/-- The second test of `stop()` finds the field `RUNNING`. -/
theorem Sound.running {w : Worker} {f : Fields} (h : Sound .ifRunning w f) :
  f.state = .running
  := by
  cases h.isStarting nofun nofun nofun with
  | early hk hw => rcases hk with hk | hk | hk <;> cases hk
  | looping hk hw => rfl

/-- A thread that comes to the second read of its assertion was asked to stop. -/
theorem Sound.stopRequested {k : Controller} {f : Fields} (h : Sound k .assertStopRequested f) :
  f.state = .stopRequested
  := by
  rcases h with h | h | h
  · cases h with
    | assertNotRunning hw => rcases hw with hw | hw <;> cases hw
    | storeStarting hw => rcases hw with hw | hw <;> cases hw
    | create hw => rcases hw with hw | hw <;> cases hw
    | early hk hw => rcases hw with hw | hw | hw <;> cases hw
    | looping hk hw => rcases hw with hw | hw | ⟨i, hw⟩ <;> cases hw
  · cases h with
    | asked hstore hw => rfl
  · cases h with
    | overwritten hw => rcases hw with hw | hw | ⟨i, hw⟩ <;> cases hw

/-- `start()` goes on, or has created the thread. -/
theorem Controller.step_start {k k' : Controller} {w : Worker} {f f' : Fields}
    (hk : k = .assertNotRunning ∨ k = .storeStarting ∨ k = .create) (h : Sound k w f)
    (hstep : Controller.step k f = some (k', f')) :
  k' = .ifStarting ∨ k' = .storeStarting ∨ k' = .create
  := by
  rcases hk with rfl | rfl | rfl
  · rw [Controller.step, if_pos h.notRunning] at hstep
    cases hstep
    exact .inr (.inl rfl)
  · cases hstep
    exact .inr (.inr rfl)
  · cases hstep
    exact .inl rfl

/-- The controller is in `stop()` of a component that it has started. -/
def Controller.isStopping : Controller → Bool
  | .ifStarting => true
  | .ifRunning => true
  | .unlessWaitingForJoin => true
  | .storeStopRequested => true
  | .join => true
  | .storeNotRunning => true
  | _ => false

/-- `stop()` goes on, or returns. -/
theorem Controller.step_stop {k k' : Controller} {w : Worker} {f f' : Fields}
    (hk : k.isStopping = true) (h : Sound k w f) (hstep : Controller.step k f = some (k', f')) :
  k' = .returned ∨ k'.isStopping = true
  := by
  cases k with
  | ifStarting =>
      cases hstep
      split
      · exact .inr rfl
      · exact .inr rfl
  | ifRunning =>
      rw [Controller.step, if_pos h.running] at hstep
      cases hstep
      exact .inr rfl
  | unlessWaitingForJoin =>
      cases hstep
      split
      · exact .inr rfl
      · exact .inr rfl
  | storeStopRequested =>
      cases hstep
      exact .inr rfl
  | join =>
      rw [Controller.step] at hstep
      split at hstep
      · cases hstep
        exact .inr rfl
      · cases hstep
  | storeNotRunning =>
      cases hstep
      exact .inl rfl
  | _ => cases hk

/-- The optional holds a thread until the end of `stop()`. -/
theorem Sound.hasThread_step {k k' : Controller} {w : Worker} {f f' : Fields} (h : Sound k w f)
    (hstep : Controller.step k f = some (k', f')) :
  k'.hasThread = k.assign k.hasThread
  := by
  cases k with
  | assertNotRunning =>
      rw [Controller.step, if_pos h.notRunning] at hstep
      cases hstep
      rfl
  | ifStarting =>
      cases hstep
      split <;> rfl
  | ifRunning =>
      cases hstep
      split <;> rfl
  | ifWaitingForJoin =>
      have hjoin : Controller.ifWaitingForJoin ≠ .join := by rintro ⟨⟩
      have hstore : Controller.ifWaitingForJoin ≠ .storeNotRunning := by rintro ⟨⟩
      have hreturned : Controller.ifWaitingForJoin ≠ .returned := by rintro ⟨⟩
      cases h.isStarting hjoin hstore hreturned with
      | early hk hw => rcases hk with hk | hk | hk <;> cases hk
      | looping hk hw => rcases hk with hk | hk | hk | hk <;> cases hk
  | unlessWaitingForJoin =>
      cases hstep
      split <;> rfl
  | join =>
      rw [Controller.step] at hstep
      split at hstep
      · cases hstep
        rfl
      · cases hstep
  | returned => cases hstep
  | _ =>
      cases hstep
      rfl

/-- Before `start()` the field is `NOT_RUNNING`. -/
theorem Sound.notRunning_first {platform : Platform} {w : Worker} {f : Fields}
    (h : Sound (Process.first platform) w f) :
  f.state = .notRunning
  := by
  revert h
  rw [Process.first]
  split
  · exact Sound.notRunning
  · intro h
    have hjoin : Controller.storeStarting ≠ .join := by rintro ⟨⟩
    have hstore : Controller.storeStarting ≠ .storeNotRunning := by rintro ⟨⟩
    have hreturned : Controller.storeStarting ≠ .returned := by rintro ⟨⟩
    cases h.isStarting hjoin hstore hreturned with
    | storeStarting hw => rfl
    | early hk hw => rcases hk with hk | hk | hk <;> cases hk
    | looping hk hw => rcases hk with hk | hk | hk | hk <;> cases hk

namespace Main

/-- What the optional and the field of a component are, where its controller is at a place. -/
structure Owned.Kept (k : Controller) (o : Owned) : Prop where
  aborted : o.fields.aborted = false
  thread : o.thread = k.hasThread
  notRunning : k = .returned → o.fields.state = .notRunning

/-- The thread of the component, if one was created, has ended and was joined, and the field is
`NOT_RUNNING`. -/
structure Owned.Closed (o : Owned) : Prop where
  ended : o.fields.created = true → o.fields.ended = true
  thread : o.thread = false
  state : o.fields.state = .notRunning

namespace Owned.Kept

variable {k k' : Controller} {w w' : Worker} {o : Owned} {f : Fields} {platform : Platform}

theorem initial (platform : Platform) :
  Owned.Kept (Process.first platform) ⟨⟨.notRunning, false, false, false⟩, false⟩
  := by
  rw [Process.first]
  cases platform.debug with
  | false => exact ⟨rfl, rfl, by rintro ⟨⟩⟩
  | true => exact ⟨rfl, rfl, by rintro ⟨⟩⟩

/-- A step of `start()` or `stop()` keeps what holds. -/
theorem control (h : o.Kept k) (hsound : Sound k w o.fields)
    (hstep : Controller.step k o.fields = some (k', f)) :
  Owned.Kept k' ⟨f, k.assign o.thread⟩
  := by
  constructor
  · have haborted := Controller.aborted_step (by rintro rfl; exact hsound.notRunning) hstep
    exact haborted.trans h.aborted
  · change k.assign o.thread = _
    rw [h.thread, hsound.hasThread_step hstep]
  · rintro rfl
    rcases Controller.of_returned hstep with rfl | hstate
    · cases hsound.hasThread_step hstep
    · exact hstate

/-- A step of the thread keeps what holds. -/
theorem worker {c : Component} (h : o.Kept k) (hsound : Sound k w o.fields)
    (hstep : c.threadRun w o.fields = some (w', f)) :
  Owned.Kept k ⟨f, o.thread⟩
  := by
  obtain ⟨body, -, hc⟩ := threadRun_eq c
  rw [hc] at hstep
  constructor
  · have haborted := Worker.aborted_step (by rintro rfl; exact hsound.stopRequested) hstep
    exact haborted.trans h.aborted
  · exact h.thread
  · rintro rfl
    obtain rfl := hsound.returned
    cases hstep

/-- Before `start()` and after `stop()` the thread has ended, if there was one, and was
joined. -/
theorem closed (h : o.Kept k) (hsound : Sound k w o.fields)
    (hk : k = Process.first platform ∨ k = .returned) :
  o.Closed
  := by
  rcases hk with rfl | rfl
  · constructor
    · intro hcreated
      rw [hsound.not_created] at hcreated
      cases hcreated
    · rw [h.thread, Process.first]
      split <;> rfl
    · exact hsound.notRunning_first
  · constructor
    · intro _
      exact hsound.ended
    · exact h.thread
    · exact h.notRunning rfl

end Owned.Kept

/-- The destructor finds a component that was stopped. -/
theorem Owned.Closed.destructible {o : Owned} (h : o.Closed) (debug : Bool) :
  o.Destructible debug
  := ⟨fun _ => h.state, h.thread⟩

end Main

end UwpxPush
