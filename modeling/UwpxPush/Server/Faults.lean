import UwpxPush.Program.Outcome
import UwpxPush.Server.Quiet

/-!
# Surroundings that fail

Every call to Redis, to the XMPP server or to an HTTP server may throw, before or after it
has taken effect; the HTTP servers and the random sources may answer anything; and the
connection may be up or down whenever it is asked for.
-/

namespace UwpxPush

/-- The call leaves the process. -/
def Call.External : Call → Prop
  | lrange _ => True
  | get _ => True
  | set _ _ => True
  | del _ => True
  | rpush _ _ => True
  | expire _ _ => True
  | expireat _ _ => True
  | isConnected => True
  | send _ => True
  | post _ => True
  | _ => False

instance : Inhabited Oracle :=
  ⟨⟨fun _ => ⟨fun _ => 0, fun _ => ⟨0, CryptoUtils.length_alphanum_sub_one_pos⟩⟩,
    fun _ => ⟨false, 0, ""⟩⟩⟩

/-- The response that is sent. -/
def Output.reply? : Output → Option Message
  | reply m => some m
  | _ => none

namespace World

/-- The responses that were sent. -/
def replies (w : World) : List Message :=
  w.log.filterMap Output.reply?

/-- How a call is answered while the connection is up or not. -/
def answer (oracle : Oracle) (up : Bool) (c : Call) (w : World) :
    Except Failure c.Response × World :=
  let a := World.perform oracle c { w with connected := up }
  (a.1, { a.2 with connected := w.connected })

/-- The call may be answered so. -/
def Answers (c : Call) (w : World) (r : Except Failure c.Response) (w' : World) : Prop :=
  ∃ oracle up, World.answer oracle up c w = (r, w')
    ∨ c.External ∧ (∃ what, r = .error (.exception what))
      ∧ (w' = w ∨ w' = (World.answer oracle up c w).2)

end World

/-- The program may end so. -/
abbrev Server.Outcome {α : Type} (p : Server α) (w : World) (r : Except Failure α) (w' : World) :
    Prop :=
  Program.Outcome World.Answers p w r w'

section

variable {oracle : Oracle} {up : Bool} {c : Call} {w w' : World} {e : Failure} {α β : Type}

namespace World

/-- Only one call asks for the connection. -/
theorem answer_eq (h : c ≠ .isConnected) :
  answer oracle up c w = World.perform oracle c w
  := by
  obtain ⟨redis, connected, token, created, requests, log⟩ := w
  cases c with
  | lrange k =>
      simp only [answer, World.perform, reading]
      split
      · rfl
      · rfl
  | get k =>
      simp only [answer, World.perform, reading]
      split
      · rfl
      · rfl
  | rpush k l =>
      simp only [answer, World.perform, writing]
      split
      · rfl
      · rfl
  | isConnected => exact (h rfl).elim
  | _ => rfl

/-- What the surroundings do when nothing fails is one way to answer. -/
theorem answers_perform (oracle : Oracle) (c : Call) (w : World) :
  Answers c w (World.perform oracle c w).1 (World.perform oracle c w).2
  := by
  use oracle, w.connected
  apply Or.inl
  by_cases h : c = .isConnected
  · subst h
    rfl
  · rw [answer_eq h]

/-- Every failure of a call is an exception. -/
theorem answers_error (h : Answers c w (.error e) w') :
  e.IsException
  := by
  obtain ⟨oracle, up, h | ⟨-, ⟨what, he⟩, -⟩⟩ := h
  · have he : (World.perform oracle c { w with connected := up }).1 = .error e :=
      congrArg Prod.fst h
    rw [perform_error he]
    exact ⟨_, rfl⟩
  · cases he
    exact ⟨what, rfl⟩

/-- A call that returns has been performed. -/
theorem perform_of_answers (hc : c ≠ .isConnected) {x : c.Response}
    (h : Answers c w (.ok x) w') :
  ∃ oracle, World.perform oracle c w = (.ok x, w')
  := by
  obtain ⟨oracle, up, h | ⟨-, ⟨what, he⟩, -⟩⟩ := h
  · use oracle
    rw [← answer_eq hc, h]
  · cases he

/-- A call leaves what it found or what it leaves when it is performed. -/
theorem Answers.related {r : Except Failure c.Response} (h : Answers c w r w')
    (rel : World → World → Prop) (refl : rel w w)
    (performed : ∀ oracle up, rel w (World.answer oracle up c w).2) :
  rel w w'
  := by
  obtain ⟨oracle, up, h | ⟨-, -, rfl | rfl⟩⟩ := h
  · have := performed oracle up
    rw [h] at this
    apply this
  · apply refl
  · apply performed

end World

/-! ### What calls leave alone -/

theorem World.answer_reading (h : IsReading c) :
  (World.answer oracle up c w).2 = w
  := by
  rw [World.answer, perform_of_isReading h]

theorem World.redis_answer (h : ¬c.Writing) :
  (World.answer oracle up c w).2.redis = w.redis
  := by
  cases c with
  | lrange k => rw [World.answer_reading (.inl ⟨k, rfl⟩)]
  | get k => rw [World.answer_reading (.inr ⟨k, rfl⟩)]
  | set k a => exact (h trivial).elim
  | del k => exact (h trivial).elim
  | rpush k l => exact (h trivial).elim
  | expire k t => exact (h trivial).elim
  | expireat k t => exact (h trivial).elim
  | _ => rfl

variable (oracle up w) in
/-- A Redis command changes nothing but the store. -/
theorem World.answer_redis (h : c.Redis) :
  ∃ redis, (World.answer oracle up c w).2 = { w with redis }
  := by
  rcases h with h | h
  · exact ⟨w.redis, World.answer_reading h⟩
  · cases c with
    | set k a => exact ⟨_, rfl⟩
    | del k => exact ⟨_, rfl⟩
    | rpush k l =>
        simp only [World.answer, World.perform, World.writing]
        split
        · exact ⟨_, rfl⟩
        · exact ⟨w.redis, rfl⟩
    | expire k t => exact ⟨_, rfl⟩
    | expireat k t => exact ⟨_, rfl⟩
    | _ => exact h.elim

theorem World.replies_answer (h : c.Quiet) :
  (World.answer oracle up c w).2.replies = w.replies
  := by
  have hredis : c.Redis → (World.answer oracle up c w).2.replies = w.replies := by
    intro hr
    obtain ⟨redis, heq⟩ := World.answer_redis oracle up w hr
    rw [heq]
    rfl
  cases c with
  | lrange k => exact hredis (.inl (.inl ⟨k, rfl⟩))
  | get k => exact hredis (.inl (.inr ⟨k, rfl⟩))
  | set k a => exact hredis (.inr trivial)
  | del k => exact hredis (.inr trivial)
  | rpush k l => exact hredis (.inr trivial)
  | expire k t => exact hredis (.inr trivial)
  | expireat k t => exact hredis (.inr trivial)
  | reply m => exact h.elim
  | send q => simp [World.answer, World.perform, World.tell, World.replies, Output.reply?]
  | sending u m => simp [World.answer, World.perform, World.tell, World.replies, Output.reply?]
  | post r => simp [World.answer, World.perform, World.tell, World.replies, Output.reply?]
  | _ => rfl

theorem World.token_answer (h : ∀ token, c ≠ .writeToken token) :
  (World.answer oracle up c w).2.token = w.token
  := by
  have hredis : c.Redis → (World.answer oracle up c w).2.token = w.token := by
    intro hr
    obtain ⟨redis, heq⟩ := World.answer_redis oracle up w hr
    rw [heq]
  cases c with
  | lrange k => exact hredis (.inl (.inl ⟨k, rfl⟩))
  | get k => exact hredis (.inl (.inr ⟨k, rfl⟩))
  | set k a => exact hredis (.inr trivial)
  | del k => exact hredis (.inr trivial)
  | rpush k l => exact hredis (.inr trivial)
  | expire k t => exact hredis (.inr trivial)
  | expireat k t => exact hredis (.inr trivial)
  | writeToken token => exact (h token rfl).elim
  | _ => rfl

/-! ### What programs leave alone -/

/-- What every call of a program leaves alone is left alone by the program. -/
theorem outcome_unchanged {γ : Type} (f : World → γ) {P : Call → Prop} {p : Server α}
    (hp : p.Calls P) (hf : ∀ c, P c → ∀ oracle up w, f (World.answer oracle up c w).2 = f w)
    {r : Except Failure α} (h : Server.Outcome p w r w') :
  f w' = f w
  := by
  apply hp.outcome_related (fun w w' => f w' = f w) _ _ _ h
  · intro w
    rfl
  · intro w₁ w₂ w₃ h₁ h₂
    rw [h₂, h₁]
  · intro c hc w r w' ha
    apply ha.related (fun w w' => f w' = f w) rfl
    intro oracle up
    apply hf c hc

/-- A program that only reads leaves the world alone. -/
theorem outcome_reading {p : Server α} (hp : p.Calls IsReading) {r : Except Failure α}
    (h : Server.Outcome p w r w') :
  w' = w
  := by
  apply outcome_unchanged id hp _ h
  intro c hc oracle up w
  apply World.answer_reading hc

/-- A program that writes nothing leaves the store alone. -/
theorem outcome_notWriting {p : Server α} (hp : p.Calls fun c => ¬c.Writing)
    {r : Except Failure α} (h : Server.Outcome p w r w') :
  w'.redis = w.redis
  := by
  apply outcome_unchanged World.redis hp _ h
  intro c hc oracle up w
  apply World.redis_answer hc

/-- A program that does not write the WNS token in memory leaves it alone. -/
theorem outcome_token {p : Server α} (hp : p.Calls fun c => ∀ token, c ≠ .writeToken token)
    {r : Except Failure α} (h : Server.Outcome p w r w') :
  w'.token = w.token
  := by
  apply outcome_unchanged World.token hp _ h
  intro c hc oracle up w
  apply World.token_answer hc

/-- Redis commands that return have been performed. -/
theorem outcome_commands {p : Server α} (hp : Commands p) {a : α}
    (h : Server.Outcome p w (.ok a) w') (oracle : Oracle) :
  Server.run oracle p w = (.ok a, w')
  := by
  have hperform : ∀ c, c.Redis → ∀ w x w', World.Answers c w (.ok x) w' →
      World.perform oracle c w = (.ok x, w') := by
    intro c hc w x w' ha
    have hne : c ≠ .isConnected := by
      rintro rfl
      rcases hc with (⟨k, hk⟩ | ⟨k, hk⟩) | hc
      · cases hk
      · cases hk
      · exact hc
    obtain ⟨oracle', h⟩ := World.perform_of_answers hne ha
    rw [← h]
    rcases hc with (⟨k, rfl⟩ | ⟨k, rfl⟩) | hc
    · rfl
    · rfl
    · cases c with
      | set k a => rfl
      | del k => rfl
      | rpush k l => rfl
      | expire k t => rfl
      | expireat k t => rfl
      | _ => exact hc.elim
  exact Program.Straight.run_eq hperform hp h

/-! ### Programs that send no response -/

/-- From this world the program sends no response, and its failures are exceptions. -/
def CalmAt (w : World) (p : Server α) : Prop :=
  ∀ r w', Server.Outcome p w r w' →
    w'.replies = w.replies ∧ ∀ e, r = .error e → e.IsException

/-- From this world the program returns after it has sent one response, or it throws an
exception before that. -/
def RespondsAt (w : World) (p : Server Unit) : Prop :=
  ∀ r w', Server.Outcome p w r w' →
    (∃ m, r = .ok () ∧ w'.replies = w.replies ++ [m])
      ∨ ∃ e : Failure, r = .error e ∧ e.IsException ∧ w'.replies = w.replies

theorem Quiet.calmAt {p : Server α} (hp : Quiet p) (w : World) :
  CalmAt w p
  := by
  intro r w' h
  constructor
  · apply outcome_unchanged World.replies hp.calls _ h
    intro c hc oracle up w
    apply World.replies_answer hc
  · rintro e rfl
    apply hp.outcome_error _ h
    intro c _ w e w'
    apply World.answers_error

theorem calmAt_bind {p : Server α} {f : α → Server β} (hp : CalmAt w p)
    (hf : ∀ a w', Server.Outcome p w (.ok a) w' → CalmAt w' (f a)) :
  CalmAt w (p >>= f)
  := by
  intro r w' h
  rcases Program.outcome_bind.mp h with ⟨a, t, ha, h⟩ | ⟨e, he, rfl⟩
  · obtain ⟨hreplies, herror⟩ := hf a t ha r w' h
    use hreplies.trans (hp _ _ ha).1, herror
  · use (hp _ _ he).1
    rintro e' ⟨⟩
    apply (hp _ _ he).2 e rfl

/-- What comes before the response is calm. -/
theorem respondsAt_bind {p : Server α} {f : α → Server Unit} (hp : CalmAt w p)
    (hf : ∀ a w', Server.Outcome p w (.ok a) w' → RespondsAt w' (f a)) :
  RespondsAt w (p >>= f)
  := by
  intro r w' h
  rcases Program.outcome_bind.mp h with ⟨a, t, ha, h⟩ | ⟨e, he, rfl⟩
  · have hreplies := (hp _ _ ha).1
    rcases hf a t ha r w' h with ⟨m, hr, hm⟩ | ⟨e, hr, he, hm⟩
    · apply Or.inl
      use m, hr
      rw [hm, hreplies]
    · apply Or.inr
      use e, hr, he
      rw [hm, hreplies]
  · apply Or.inr
    exact ⟨e, rfl, (hp _ _ he).2 e rfl, (hp _ _ he).1⟩

/-- A response is sent. -/
theorem outcome_reply {m : Message} {r : Except Failure Unit} :
  Server.Outcome (ClientSslSession.reply m) w r w' ↔ r = .ok () ∧ w' = w.tell (.reply m)
  := by
  apply Iff.trans (Program.outcome_invoke (c := Call.reply m))
  constructor
  · rintro ⟨oracle, up, h | ⟨h, -⟩⟩
    · rw [World.answer_eq (by rintro ⟨⟩)] at h
      cases h
      exact ⟨rfl, rfl⟩
    · exact h.elim
  · rintro ⟨rfl, rfl⟩
    apply World.answers_perform default

theorem replies_tell (m : Message) :
  (w.tell (.reply m)).replies = w.replies ++ [m]
  := by
  simp [World.tell, World.replies, Output.reply?]

theorem respondsAt_reply (w : World) (m : Message) :
  RespondsAt w (ClientSslSession.reply m)
  := by
  intro r w' h
  obtain ⟨rfl, rfl⟩ := outcome_reply.mp h
  exact .inl ⟨m, rfl, replies_tell m⟩

end

end UwpxPush
