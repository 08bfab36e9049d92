import UwpxPush.KeyValue.Agree
import UwpxPush.Program.Apart
import UwpxPush.Server.Quiet

/-!
# What threads look at

A `View` is the part of the world that a thread of the server looks at: the entries under some
keys, what it sends, and what it alone reads and writes.  The thread of the registrations draws
names; the thread of the notifications holds the token and makes the HTTP requests.  The calls
of each are answered alike in worlds that look the same to it, and change nothing that the other
one looks at.
-/

namespace UwpxPush

open KeyValue

/-- The call is a Redis command on a key of `K`. -/
def Call.On (K : String → Prop) : Call → Prop
  | .lrange k => K k
  | .get k => K k
  | .set k _ => K k
  | .del k => K k
  | .rpush k _ => K k
  | .expire k _ => K k
  | .expireat k _ => K k
  | _ => False

/-- The call is one of a registration on the keys of `K`. -/
def Call.Registering (K : String → Prop) (c : Call) : Prop :=
  c.On K ∨ c = .random ∨ c.PubSub ∨ ∃ m, c = .reply m

/-- The call is one of a notification on the keys of `K`. -/
def Call.Notifying (K : String → Prop) (c : Call) : Prop :=
  c.On K ∨ c = .now ∨ c = .readToken ∨ (∃ token, c = .writeToken token)
    ∨ (∃ r, c = .post r) ∨ ∃ channelUri content, c = .sending channelUri content

/-- What is sent to a client or to the XMPP server, not to WNS. -/
def Output.isRegistration : Output → Bool
  | .reply _ => true
  | .iq _ => true
  | _ => false

/-- The part of the world that a thread looks at. -/
structure View (α : Type) where
  keys : String → Prop
  shown : Output → Bool
  own : World → α

namespace View

/-- The worlds look the same. -/
structure Same {α : Type} (v : View α) (w w' : World) : Prop where
  redis : Store.Agree v.keys w.redis w'.redis
  connected : w.connected = w'.connected
  log : w.log.filter v.shown = w'.log.filter v.shown
  own : v.own w = v.own w'

/-- The view of a registration. -/
def registration (K : String → Prop) (shown : Output → Bool) : View Nat where
  keys := K
  shown := shown
  own := World.created

/-- The view of a notification. -/
def notification (K : String → Prop) : View (Option WnsToken × Nat) where
  keys := K
  shown o := !o.isRegistration
  own w := (w.token, w.requests)

end View

section

variable {α : Type} {v : View α} {K L : String → Prop} {oracle oracle' : Oracle}
  {w w' w'' : World} {c : Call}

theorem View.Same.refl (v : View α) (w : World) :
  v.Same w w
  := ⟨.refl _, rfl, rfl, rfl⟩

theorem View.Same.trans (h : v.Same w w') (h' : v.Same w' w'') :
  v.Same w w''
  := ⟨h.redis.trans h'.redis, h.connected.trans h'.connected, h.log.trans h'.log,
    h.own.trans h'.own⟩

theorem Call.On.mono (h : c.On K) (hKL : ∀ k, K k → L k) :
  c.On L
  := by
  cases c with
  | lrange k => exact hKL k h
  | get k => exact hKL k h
  | set k a => exact hKL k h
  | del k => exact hKL k h
  | rpush k l => exact hKL k h
  | expire k seconds => exact hKL k h
  | expireat k seconds => exact hKL k h
  | _ => exact h.elim

/-- A Redis command on a key that two stores agree on. -/
theorem perform_on (hc : c.On K) (h : Store.Agree K w.redis w'.redis) :
  ∃ r s s', World.perform oracle c w = (r, { w with redis := s })
    ∧ World.perform oracle' c w' = (r, { w' with redis := s' }) ∧ Store.Agree K s s'
  := by
  cases c with
  | lrange k =>
      rw [World.perform, World.perform, h.range hc]
      rcases w'.redis.range k with e | l
      · exact ⟨_, _, _, rfl, rfl, h⟩
      · exact ⟨_, _, _, rfl, rfl, h⟩
  | get k =>
      rw [World.perform, World.perform, h.get hc]
      rcases w'.redis.get k with e | a
      · exact ⟨_, _, _, rfl, rfl, h⟩
      · exact ⟨_, _, _, rfl, rfl, h⟩
  | set k a => exact ⟨_, _, _, rfl, rfl, h.put k _⟩
  | del k => exact ⟨_, _, _, rfl, rfl, h.del k⟩
  | rpush k l =>
      rw [World.perform, World.perform]
      rcases h.push hc l with ⟨e, he, he'⟩ | ⟨s, s', hs, hs', hagree⟩
      · rw [he, he']
        exact ⟨_, _, _, rfl, rfl, h⟩
      · rw [hs, hs']
        exact ⟨_, _, _, rfl, rfl, hagree⟩
  | expire k seconds =>
      refine ⟨_, _, _, rfl, rfl, ?_⟩
      rw [h.clock]
      exact h.expireAt hc _
  | expireat k seconds => exact ⟨_, _, _, rfl, rfl, h.expireAt hc _⟩
  | _ => exact hc.elim

/-- A Redis command on a key that nobody looks at. -/
theorem perform_off (hc : c.On fun k => ¬K k) (oracle : Oracle) (w : World) :
  ∃ r s, World.perform oracle c w = (r, { w with redis := s }) ∧ Store.Agree K w.redis s
  := by
  cases c with
  | lrange k =>
      rw [World.perform]
      rcases w.redis.range k with e | l
      · exact ⟨_, _, rfl, .refl _⟩
      · exact ⟨_, _, rfl, .refl _⟩
  | get k =>
      rw [World.perform]
      rcases w.redis.get k with e | a
      · exact ⟨_, _, rfl, .refl _⟩
      · exact ⟨_, _, rfl, .refl _⟩
  | set k a => exact ⟨_, _, rfl, .of_put hc _⟩
  | del k => exact ⟨_, _, rfl, .of_del hc⟩
  | rpush k l =>
      rw [World.perform]
      rcases hpush : w.redis.push k l with e | s
      · exact ⟨_, _, rfl, .refl _⟩
      · exact ⟨_, _, rfl, .of_push hc hpush⟩
  | expire k seconds => exact ⟨_, _, rfl, .of_expireAt hc _⟩
  | expireat k seconds => exact ⟨_, _, rfl, .of_expireAt hc _⟩
  | _ => exact hc.elim

/-- What is told to worlds that look the same is shown in both or in neither. -/
theorem View.log_tell (h : w.log.filter v.shown = w'.log.filter v.shown) (o : Output) :
  (w.tell o).log.filter v.shown = (w'.tell o).log.filter v.shown
  := by
  simp only [World.tell, List.filter_append, h]

/-- What is not shown does not matter. -/
theorem View.log_tell_of_not_shown {o : Output} (ho : v.shown o = false) (w : World) :
  (w.tell o).log.filter v.shown = w.log.filter v.shown
  := by
  simp [World.tell, List.filter_append, ho]

/-- The calls of a registration are answered alike in worlds that look the same to it, whatever
the HTTP servers answer. -/
theorem respects_registering (K : String → Prop) (shown : Output → Bool)
    (h : oracle.draws = oracle'.draws) :
  Program.Respects (World.perform oracle) (World.perform oracle') (Call.Registering K)
    (View.registration K shown).Same
  := by
  rintro c (hon | rfl | (rfl | ⟨q, rfl⟩) | ⟨m, rfl⟩) w w' hsame
  · obtain ⟨r, s, s', hw, hw', hagree⟩ := perform_on hon hsame.redis
    rw [hw, hw']
    exact ⟨rfl, hagree, hsame.connected, hsame.log, hsame.own⟩
  · have hcreated : w.created = w'.created := hsame.own
    constructor
    · simp only [World.perform, h, hcreated]
    · exact ⟨hsame.redis, hsame.connected, hsame.log, congrArg (· + 1) hcreated⟩
  · exact ⟨congrArg Except.ok hsame.connected, hsame⟩
  · exact ⟨rfl, hsame.redis, hsame.connected, View.log_tell hsame.log _, hsame.own⟩
  · exact ⟨rfl, hsame.redis, hsame.connected, View.log_tell hsame.log _, hsame.own⟩

/-- The calls of a notification are answered alike in worlds that look the same to it. -/
theorem respects_notifying (K : String → Prop) (oracle : Oracle) :
  Program.Respects (World.perform oracle) (World.perform oracle) (Call.Notifying K)
    (View.notification K).Same
  := by
  rintro c (hon | rfl | rfl | ⟨token, rfl⟩ | ⟨r, rfl⟩ | ⟨channelUri, content, rfl⟩) w w' hsame
  · obtain ⟨r, s, s', hw, hw', hagree⟩ := perform_on hon hsame.redis
    rw [hw, hw']
    exact ⟨rfl, hagree, hsame.connected, hsame.log, hsame.own⟩
  · exact ⟨congrArg Except.ok hsame.redis.clock, hsame⟩
  · exact ⟨congrArg Except.ok (Prod.mk.inj hsame.own).1, hsame⟩
  · refine ⟨rfl, hsame.redis, hsame.connected, hsame.log, ?_⟩
    exact Prod.ext rfl (Prod.mk.inj hsame.own).2
  · have hrequests : w.requests = w'.requests := (Prod.mk.inj hsame.own).2
    constructor
    · simp only [World.perform, hrequests]
    · refine ⟨hsame.redis, hsame.connected, View.log_tell hsame.log _, ?_⟩
      exact Prod.ext (Prod.mk.inj hsame.own).1 (congrArg (· + 1) hrequests)
  · exact ⟨rfl, hsame.redis, hsame.connected, View.log_tell hsame.log _, hsame.own⟩

/-- A registration changes nothing that a notification on other keys looks at. -/
theorem same_of_registering (hc : c.Registering fun k => ¬K k) (oracle : Oracle) (w : World) :
  (View.notification K).Same w (World.perform oracle c w).2
  := by
  rcases hc with hon | rfl | (rfl | ⟨q, rfl⟩) | ⟨m, rfl⟩
  · obtain ⟨r, s, hw, hagree⟩ := perform_off hon oracle w
    rw [hw]
    exact ⟨hagree, rfl, rfl, rfl⟩
  · exact ⟨.refl _, rfl, rfl, rfl⟩
  · exact .refl _ _
  · exact ⟨.refl _, rfl, (View.log_tell_of_not_shown rfl w).symm, rfl⟩
  · exact ⟨.refl _, rfl, (View.log_tell_of_not_shown rfl w).symm, rfl⟩

/-- A notification changes nothing that a registration on other keys looks at. -/
theorem same_of_notifying (hc : c.Notifying fun k => ¬K k) (oracle : Oracle) (w : World) :
  (View.registration K Output.isRegistration).Same w (World.perform oracle c w).2
  := by
  rcases hc with hon | rfl | rfl | ⟨token, rfl⟩ | ⟨r, rfl⟩ | ⟨channelUri, content, rfl⟩
  · obtain ⟨r, s, hw, hagree⟩ := perform_off hon oracle w
    rw [hw]
    exact ⟨hagree, rfl, rfl, rfl⟩
  · exact .refl _ _
  · exact .refl _ _
  · exact ⟨.refl _, rfl, rfl, rfl⟩
  · exact ⟨.refl _, rfl, (View.log_tell_of_not_shown rfl w).symm, rfl⟩
  · exact ⟨.refl _, rfl, (View.log_tell_of_not_shown rfl w).symm, rfl⟩

end

end UwpxPush
