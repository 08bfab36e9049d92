import UwpxPush.Wns.WnsClient

/-!
# What the WNS client changes

A notification, and a request for a new token, change nothing in the store but the entry of
the WNS token, which they leave as it was or as a list of three, and send nothing but HTTP
requests.
-/

namespace UwpxPush

open KeyValue

/-- `e` is the entry of a WNS token. -/
def IsTokenEntry (e : Entry String) : Prop :=
  ∃ (token type : String) (seconds : Int), e.value = .list [token, type, toString seconds]

/-- The world `w'` differs from `w` in the entry of the WNS token, the token in memory, the
HTTP requests made, and in outputs that satisfy `P`. -/
structure WnsEffect (P : Output → Prop) (w w' : World) : Prop where
  lookup : ∀ k, k ≠ RedisClient.WNS_TOKEN_KEY → w'.redis.lookup k = w.redis.lookup k
  entry : w'.redis.lookup RedisClient.WNS_TOKEN_KEY = w.redis.lookup RedisClient.WNS_TOKEN_KEY
    ∨ ∀ e, w'.redis.lookup RedisClient.WNS_TOKEN_KEY = some e → IsTokenEntry e
  clock : w'.redis.clock = w.redis.clock
  created : w'.created = w.created
  connected : w'.connected = w.connected
  outputs : ∃ out, w'.log = w.log ++ out ∧ ∀ o ∈ out, P o

namespace WnsEffect

variable {P Q : Output → Prop}

theorem refl (w : World) :
  WnsEffect P w w
  where
  lookup _ _ := rfl
  entry := .inl rfl
  clock := rfl
  created := rfl
  connected := rfl
  outputs := ⟨[], by simp⟩

theorem trans {w w' w'' : World} (h : WnsEffect P w w') (h' : WnsEffect P w' w'') :
  WnsEffect P w w''
  where
  lookup k hk := (h'.lookup k hk).trans (h.lookup k hk)
  entry := by
    rcases h'.entry with he' | he'
    · rw [he']
      apply h.entry
    · exact .inr he'
  clock := h'.clock.trans h.clock
  created := h'.created.trans h.created
  connected := h'.connected.trans h.connected
  outputs := by
    obtain ⟨out, hlog, hout⟩ := h.outputs
    obtain ⟨out', hlog', hout'⟩ := h'.outputs
    use out ++ out'
    constructor
    · rw [hlog', hlog, List.append_assoc]
    · intro o ho
      rcases List.mem_append.mp ho with ho | ho
      · apply hout o ho
      · apply hout' o ho

theorem mono {w w' : World} (h : WnsEffect P w w') (hPQ : ∀ o, P o → Q o) :
  WnsEffect Q w w'
  where
  lookup := h.lookup
  entry := h.entry
  clock := h.clock
  created := h.created
  connected := h.connected
  outputs := by
    obtain ⟨out, hlog, hout⟩ := h.outputs
    exact ⟨out, hlog, fun o ho => hPQ o (hout o ho)⟩

end WnsEffect

/-! ### The programs of the client -/

section Effects

variable (platform : Platform) (config : Configuration) {oracle : Oracle} {P : Output → Prop}

/-- Every run of the program has the effect of the WNS client. -/
def KeepsWns {α : Type} (oracle : Oracle) (P : Output → Prop) (p : Server α) : Prop :=
  Program.Keeps (World.perform oracle) (WnsEffect P) p

theorem keepsWns_pure {α : Type} (a : α) :
  KeepsWns oracle P (pure a)
  := Program.keeps_pure WnsEffect.refl a

theorem keepsWns_throw {α : Type} (e : Failure) :
  KeepsWns oracle P (throw e : Server α)
  := Program.keeps_throw WnsEffect.refl e

theorem keepsWns_bind {α β : Type} {p : Server α} {f : α → Server β}
    (hp : KeepsWns oracle P p) (hf : ∀ a, KeepsWns oracle P (f a)) :
  KeepsWns oracle P (p >>= f)
  := by
  apply Program.keeps_bind _ hp hf
  intro s t u
  apply WnsEffect.trans

/-- A program that only reads the clock has the effect. -/
theorem keepsWns_now {α : Type} {p : Server α} (h : p.Calls (· = .now)) :
  KeepsWns oracle P p
  := by
  intro w
  rw [h.run_eq]
  · apply WnsEffect.refl
  · rintro c rfl w
    rfl

/-- The token in memory may be read, -/
theorem keepsWns_readToken :
  KeepsWns oracle P WnsClient.readToken
  := WnsEffect.refl

/-- and it may be replaced. -/
theorem keepsWns_writeToken (token : Option WnsToken) :
  KeepsWns oracle P (WnsClient.writeToken token)
  := fun w => {
  lookup _ _ := rfl
  entry := .inl rfl
  clock := rfl
  created := rfl
  connected := rfl
  outputs := ⟨[], (List.append_nil w.log).symm, by simp⟩ }

/-- A request may be made where it satisfies `P`. -/
theorem keepsWns_post {r : HttpRequest} (h : P (.post r)) :
  KeepsWns oracle P (WnsClient.post r)
  := fun w => {
  lookup _ _ := rfl
  entry := .inl rfl
  clock := rfl
  created := rfl
  connected := rfl
  outputs := ⟨[.post r], rfl, by simpa using h⟩ }

/-- Writing the token replaces its entry, which is there until the token expires. -/
theorem run_setWnsToken (token type : String) (expires : Int) (w : World) :
  Server.run oracle (RedisClient.setWnsToken token type expires) w
    = (.ok (), { w with
      redis := (((w.redis.set RedisClient.WNS_TOKEN_KEY token).del RedisClient.WNS_TOKEN_KEY).put
        RedisClient.WNS_TOKEN_KEY
        ⟨.list [token, type, toString (RedisClient.toTimeT expires)], none⟩).expireAt
          RedisClient.WNS_TOKEN_KEY (RedisClient.toTimeT expires * second) })
  := by
  have hpush : ∀ (s : Store String String) (k : String) (l : List String),
      (s.del k).push k l = .ok ((s.del k).put k ⟨.list l, none⟩) := by
    intro s k l
    apply Store.push_of_none
    rw [Store.lookup_del, if_pos rfl]
  simp only [RedisClient.setWnsToken, Program.run_bind, Server.run_set, Server.run_del,
    Server.run_rpush, Server.run_expireat, hpush, World.writing]

/-- The token is stored as a list of three. -/
theorem keepsWns_setWnsToken (token type : String) (expires : Int) :
  KeepsWns oracle P (RedisClient.setWnsToken token type expires)
  := by
  intro w
  change WnsEffect P w (Server.run oracle (RedisClient.setWnsToken token type expires) w).2
  rw [run_setWnsToken]
  constructor
  · intro k hk
    rw [Store.lookup_expireAt_of_ne _ hk, Store.lookup_put_of_ne _ hk, Store.lookup_del,
      if_neg hk, Store.lookup_set, if_neg hk]
  · apply Or.inr
    intro e he
    obtain ⟨d, hd⟩ := Store.lookup_of_expireAt _ he
    rw [Store.lookup_put _ _ _ rfl, if_pos rfl, Option.some.injEq, Entry.mk.injEq] at hd
    exact ⟨token, type, RedisClient.toTimeT expires, hd.1.symm⟩
  · simp
  · rfl
  · rfl
  · exact ⟨[], by simp⟩

theorem calls_getExpiresDate (expiresInSeconds : Nat) :
  (WnsToken.getExpiresDate expiresInSeconds).Calls (· = .now)
  := by
  apply Program.calls_bind
  · apply Program.calls_invoke
    rfl
  · intro now
    apply Program.calls_pure

theorem calls_convert {α : Type} (r : Except String α) :
  (WnsToken.convert r).Calls (· = .now)
  := by
  cases r with
  | ok a => apply Program.calls_pure
  | error what => apply Program.calls_throw

/-- The answer to a token request is read with the clock only. -/
theorem calls_fromResponse (response : String) :
  (WnsToken.fromResponse platform response).Calls (· = .now)
  := by
  unfold WnsToken.fromResponse
  split
  · split
    · apply Program.calls_pure
    · apply Program.calls_throw
  · split
    · apply Program.calls_pure
    · apply Program.calls_bind (calls_convert _)
      intro type
      split
      · apply Program.calls_pure
      · apply Program.calls_bind (calls_convert _)
        intro token
        split
        · apply Program.calls_pure
        · apply Program.calls_bind (calls_convert _)
          intro expiresInSeconds
          apply Program.calls_bind (calls_getExpiresDate _)
          intro expires
          apply Program.calls_pure

/-- The token is checked with the clock. -/
theorem calls_isTokenValid :
  WnsClient.isTokenValid.Calls fun c => c = .now ∨ c = .readToken
  := by
  apply Program.calls_bind
  · apply Program.calls_invoke
    exact .inr rfl
  · rintro (_ | token)
    · apply Program.calls_pure
    · apply Program.calls_bind
      · apply Program.calls_invoke
        exact .inl rfl
      · intro now
        apply Program.calls_pure

theorem keepsWns_isTokenValid :
  KeepsWns oracle P WnsClient.isTokenValid
  := by
  intro w
  rw [calls_isTokenValid.run_eq]
  · apply WnsEffect.refl
  · rintro c (rfl | rfl) w
    · rfl
    · rfl

/-- A new token is requested once, and stored if it was granted. -/
theorem keepsWns_requestNewToken (h : P (.post (WnsClient.tokenRequest config))) :
  KeepsWns oracle P (WnsClient.requestNewToken platform config)
  := by
  apply keepsWns_bind (keepsWns_post h)
  intro response
  split
  · apply keepsWns_pure
  · apply keepsWns_bind (keepsWns_now (calls_fromResponse platform _))
    intro token
    apply keepsWns_bind (keepsWns_writeToken token)
    intro _
    cases token with
    | none => apply keepsWns_pure
    | some token =>
        apply keepsWns_bind (keepsWns_setWnsToken _ _ _)
        intro _
        apply keepsWns_pure

/-- An answer may lead to the request of a new token. -/
theorem keepsWns_handleResponseCode (h : P (.post (WnsClient.tokenRequest config)))
    (statusCode : Int) :
  KeepsWns oracle P (WnsClient.handleResponseCode platform config statusCode)
  := by
  unfold WnsClient.handleResponseCode
  split
  · apply keepsWns_pure
  · split
    · apply keepsWns_bind (keepsWns_requestNewToken platform config h)
      intro success
      split
      · apply keepsWns_pure
      · apply keepsWns_pure
    · split
      · apply keepsWns_pure
      · apply keepsWns_pure

/-- The attempts repeat the same request. -/
theorem keepsWns_postAttempts (h : P (.post (WnsClient.tokenRequest config)))
    {request : HttpRequest} (hr : P (.post request)) (attempts : Nat) :
  KeepsWns oracle P (WnsClient.postAttempts platform config request attempts)
  := by
  induction attempts with
  | zero => apply keepsWns_pure
  | succ attempts ih =>
      apply keepsWns_bind (keepsWns_post hr)
      intro response
      split
      · apply ih
      · apply keepsWns_bind (keepsWns_handleResponseCode platform config h _)
        rintro (_ | _ | _)
        · apply keepsWns_pure
        · apply ih
        · apply keepsWns_pure

/-- What `send_raw_notification` may send after it began: requests for a token, and
requests that carry the content to the channel URI. -/
def IsNotification (channelUri content : String) (o : Output) : Prop :=
  o = .post (WnsClient.tokenRequest config) ∨
    ∃ token, o = .post (WnsClient.notification token channelUri content)

/-- A notification begins with its log line, and goes on with requests for a token and
requests to the channel URI. -/
theorem sendRawNotification_effect (channelUri content : String) (w : World) :
  WnsEffect (IsNotification config channelUri content) (w.tell (.sending channelUri content))
    (Server.run oracle (WnsClient.sendRawNotification platform config channelUri content) w).2
  := by
  have h : IsNotification config channelUri content (.post (WnsClient.tokenRequest config)) :=
    .inl rfl
  suffices hw : KeepsWns oracle (IsNotification config channelUri content)
      (WnsClient.postNotification platform config channelUri content) from hw _
  apply keepsWns_bind
  · apply keepsWns_bind keepsWns_isTokenValid
    intro valid
    split
    · apply keepsWns_pure
    · apply keepsWns_requestNewToken platform config h
  · intro ready
    split
    · apply keepsWns_bind keepsWns_readToken
      rintro (_ | token)
      · apply keepsWns_throw
      · apply keepsWns_postAttempts platform config h
        exact .inr ⟨token, rfl⟩
    · apply keepsWns_pure

end Effects

end UwpxPush
