import UwpxPush.Interleaving.Basic
import UwpxPush.Program.Step
import UwpxPush.Server.Runs

/-!
# Concurrent writes of the WNS token

The threads of the server can each request a token and store it.  Here any number of calls
of `setWnsToken` take turns, one Redis command at a turn, while the clock goes on.  The
commands of a schedule are `SET`, `DEL`, `RPUSH` and `EXPIREAT` for each call, in its order.
No command fails and the entry that is left is the token of one call if and only if the
latest `SET` or `DEL` before every `RPUSH` is a `DEL`, and one `RPUSH` alone comes after the
last of them (`tokenStored_iff`).
-/

namespace UwpxPush

open KeyValue

variable {ι : Type}

namespace TokenWrites

/-! ### Calls that take turns -/

/-- What is left of a call, or of the times that go by at the turns of the clock. -/
abbrev Place : Option ι → Type
  | none => List ℕ
  | some _ => Server Unit

/-- The next step of a call, or of the clock. -/
def step (oracle : Oracle) : (i : Option ι) → Place i → World → Option (Place i × World)
  | none, [], _ => none
  | none, dt :: times, w => some (times, { w with redis := w.redis.advance dt })
  | some _, p, w => Program.step (World.perform oracle) p w

/-- The call that stores a token. -/
def call (token : WnsToken) : Server Unit :=
  RedisClient.setWnsToken token.token token.type token.expires

/-- The calls are about to begin. -/
def initial (tokens : ι → WnsToken) (times : List ℕ) (w : World) :
    Threads (Place (ι := ι)) World where
  locals
    | none => times
    | some i => call (tokens i)
  shared := w

/-! ### Commands -/

/-- The commands of a call. -/
inductive Command where
  | set
  | del
  | rpush
  | expireat
  deriving DecidableEq

/-- The command of a call at its `n`-th turn. -/
def Command.ofTurn : ℕ → Option Command
  | 0 => some .set
  | 1 => some .del
  | 2 => some .rpush
  | 3 => some .expireat
  | _ => none

/-- The commands of a schedule; both have the latest first. -/
def commands [DecidableEq ι] : List (Option ι) → List (ι × Command)
  | [] => []
  | none :: past => commands past
  | some i :: past =>
      match Command.ofTurn (past.count (some i)) with
      | none => commands past
      | some c => (i, c) :: commands past

/-- The calls whose `RPUSH` came since the latest `SET` or `DEL`, if that was a `DEL`. -/
def sinceDel : List (ι × Command) → Option (List ι)
  | [] => none
  | (_, .set) :: _ => none
  | (_, .del) :: _ => some []
  | (i, .rpush) :: past => (sinceDel past).map (· ++ [i])
  | (_, .expireat) :: past => sinceDel past

/-- The latest `SET` or `DEL` before every `RPUSH` is a `DEL`. -/
def Ordered : List (ι × Command) → Prop
  | [] => True
  | (_, .rpush) :: past => sinceDel past ≠ none ∧ Ordered past
  | _ :: past => Ordered past

/-! ### The entry of the token -/

/-- When the entry of a token is to expire. -/
def expiry (token : WnsToken) : Int :=
  RedisClient.toTimeT token.expires * second

/-- The list that a call stores. -/
def triple (token : WnsToken) : List String :=
  [token.token, token.type, toString (RedisClient.toTimeT token.expires)]

/-- The entry has the given value, and the deadline of some call or none. -/
def EntryIs (tokens : ι → WnsToken) (w : World) (v : Value String) : Prop :=
  ∃ d, w.redis.lookup RedisClient.WNS_TOKEN_KEY = some ⟨v, d⟩
    ∧ ∀ t, d = some t → ∃ i, t = expiry (tokens i)

/-- What the commands of a schedule have left under the key. -/
def Holds (tokens : ι → WnsToken) (past : List (ι × Command)) (w : World) : Prop :=
  match sinceDel past with
  | none => past = [] ∨ ∃ a, EntryIs tokens w (.string a)
  | some [] => w.redis.lookup RedisClient.WNS_TOKEN_KEY = none
  | some (i :: l) => EntryIs tokens w (.list ((i :: l).flatMap fun i => triple (tokens i)))

variable {tokens : ι → WnsToken} {past : List (ι × Command)} {w : World} {i : ι}

theorem EntryIs.advance {v : Value String} (h : EntryIs tokens w v) {dt : ℕ}
    (hexpiry : ∀ i, w.redis.clock + dt < expiry (tokens i)) :
  EntryIs tokens { w with redis := w.redis.advance dt } v
  := by
  obtain ⟨d, hlookup, hd⟩ := h
  refine ⟨d, Store.lookup_advance hlookup ?_, hd⟩
  cases d with
  | none => rfl
  | some t =>
      obtain ⟨i, rfl⟩ := hd t rfl
      simpa using hexpiry i

theorem EntryIs.expireat {v : Value String} (h : EntryIs tokens w v)
    (hexpiry : w.redis.clock < expiry (tokens i)) :
  EntryIs tokens
    { w with redis := w.redis.expireAt RedisClient.WNS_TOKEN_KEY (expiry (tokens i)) } v
  := by
  obtain ⟨d, hlookup, hd⟩ := h
  use some (expiry (tokens i))
  constructor
  · dsimp only
    rw [Store.lookup_expireAt _ _ _ hexpiry, if_pos rfl, hlookup]
    rfl
  · rintro t ⟨⟩
    exact ⟨i, rfl⟩

/-- Time goes by. -/
theorem Holds.advance (h : Holds tokens past w) {dt : ℕ}
    (hexpiry : ∀ i, w.redis.clock + dt < expiry (tokens i)) :
  Holds tokens past { w with redis := w.redis.advance dt }
  := by
  unfold Holds at h ⊢
  split
  · rename_i hnone
    rw [hnone] at h
    rcases h with h | ⟨a, h⟩
    · exact .inl h
    · exact .inr ⟨a, h.advance hexpiry⟩
  · rename_i hnil
    rw [hnil] at h
    rw [Option.eq_none_iff_forall_not_mem]
    intro e he
    cases h.symm.trans (Store.lookup_of_advance he)
  · rename_i i l hcons
    rw [hcons] at h
    exact h.advance hexpiry

/-- `SET` leaves a string. -/
theorem Holds.set (a : String) :
  Holds tokens ((i, .set) :: past)
    { w with redis := w.redis.set RedisClient.WNS_TOKEN_KEY a }
  := by
  apply Or.inr
  use a, none
  constructor
  · dsimp only
    rw [Store.lookup_set, if_pos rfl]
  · nofun

/-- `DEL` leaves nothing. -/
theorem Holds.del :
  Holds tokens ((i, .del) :: past) { w with redis := w.redis.del RedisClient.WNS_TOKEN_KEY }
  := by
  change Store.lookup _ _ = none
  dsimp only
  rw [Store.lookup_del, if_pos rfl]

/-- `RPUSH` appends the list of its call. -/
theorem Holds.rpush (h : Holds tokens past w) (hsince : sinceDel past ≠ none) :
  ∃ redis, w.redis.push RedisClient.WNS_TOKEN_KEY (triple (tokens i)) = .ok redis
    ∧ redis.clock = w.redis.clock ∧ Holds tokens ((i, .rpush) :: past) { w with redis }
  := by
  obtain ⟨l, hl⟩ := Option.ne_none_iff_exists'.mp hsince
  unfold Holds at h ⊢
  simp only [sinceDel]
  rw [hl] at h ⊢
  cases l with
  | nil =>
      refine ⟨_, Store.push_of_none h _, rfl, none, ?_, nofun⟩
      dsimp only
      rw [Store.lookup_put _ _ _ rfl, if_pos rfl]
      simp
  | cons j l =>
      obtain ⟨d, hlookup, hd⟩ := h
      refine ⟨_, Store.push_of_list hlookup _, rfl, d, ?_, hd⟩
      have hlive := Store.live_of_lookup hlookup
      dsimp only
      rw [Store.lookup_put _ _ _ (by exact hlive), if_pos rfl]
      simp

/-- `RPUSH` fails on a string. -/
theorem Holds.rpush_error (h : Holds tokens past w) (hpast : past ≠ [])
    (hsince : sinceDel past = none) :
  w.redis.push RedisClient.WNS_TOKEN_KEY (triple (tokens i)) = .error .wrongType
  := by
  unfold Holds at h
  rw [hsince] at h
  obtain ⟨a, d, hlookup, -⟩ := h.resolve_left hpast
  apply Store.push_of_string hlookup

/-- `EXPIREAT` keeps the value. -/
theorem Holds.expireat (h : Holds tokens past w) (hpast : past ≠ [])
    (hexpiry : w.redis.clock < expiry (tokens i)) :
  Holds tokens ((i, .expireat) :: past)
    { w with redis := w.redis.expireAt RedisClient.WNS_TOKEN_KEY (expiry (tokens i)) }
  := by
  unfold Holds at h ⊢
  simp only [sinceDel]
  split
  · rename_i hnone
    rw [hnone] at h
    obtain ⟨a, h⟩ := h.resolve_left hpast
    exact .inr ⟨a, h.expireat hexpiry⟩
  · rename_i hnil
    rw [hnil] at h
    dsimp only at h ⊢
    rw [Store.lookup_expireAt _ _ _ hexpiry, if_pos rfl, h]
    rfl
  · rename_i j l hcons
    rw [hcons] at h
    exact h.expireat hexpiry

/-! ### The calls, command by command -/

/-- What is left of a call after its first turns. -/
def rest (token : WnsToken) : ℕ → Server Unit
  | 0 => call token
  | 1 => do
      Redis.del RedisClient.WNS_TOKEN_KEY
      Redis.rpush RedisClient.WNS_TOKEN_KEY (triple token)
      Redis.expireat RedisClient.WNS_TOKEN_KEY (RedisClient.toTimeT token.expires)
  | 2 => do
      Redis.rpush RedisClient.WNS_TOKEN_KEY (triple token)
      Redis.expireat RedisClient.WNS_TOKEN_KEY (RedisClient.toTimeT token.expires)
  | 3 => Redis.expireat RedisClient.WNS_TOKEN_KEY (RedisClient.toTimeT token.expires)
  | _ => return

variable {oracle : Oracle}

theorem step_set (token : WnsToken) (w : World) :
  (rest token 0).step (World.perform oracle) w = some (rest token 1,
    { w with redis := w.redis.set RedisClient.WNS_TOKEN_KEY token.token })
  := rfl

theorem step_del (token : WnsToken) (w : World) :
  (rest token 1).step (World.perform oracle) w = some (rest token 2,
    { w with redis := w.redis.del RedisClient.WNS_TOKEN_KEY })
  := rfl

theorem step_rpush {token : WnsToken} {w : World} {redis : Store String String}
    (h : w.redis.push RedisClient.WNS_TOKEN_KEY (triple token) = .ok redis) :
  (rest token 2).step (World.perform oracle) w = some (rest token 3, { w with redis })
  := by
  apply Program.step_invoke_ok
  rw [World.perform, h]
  rfl

theorem step_rpush_error {token : WnsToken} {w : World}
    (h : w.redis.push RedisClient.WNS_TOKEN_KEY (triple token) = .error .wrongType) :
  (rest token 2).step (World.perform oracle) w = some (.throw wrongType, w)
  := by
  apply Program.step_invoke_error
  rw [World.perform, h]
  rfl

theorem step_expireat (token : WnsToken) (w : World) :
  (rest token 3).step (World.perform oracle) w = some (rest token 4,
    { w with redis := w.redis.expireAt RedisClient.WNS_TOKEN_KEY (expiry token) })
  := rfl

theorem rest_ne_throw (token : WnsToken) (n : ℕ) (e : Failure) :
  rest token n ≠ .throw e
  := by
  rcases n with _ | _ | _ | _ | n <;> nofun

/-! ### Reading back -/

/-- The token is read back through the three getters. -/
structure ReadsBack (oracle : Oracle) (w : World) (token : WnsToken) : Prop where
  getWnsToken : Server.run oracle RedisClient.getWnsToken w = (.ok (some token.token), w)
  getWnsTokenType : Server.run oracle RedisClient.getWnsTokenType w
    = (.ok (some token.type), w)
  getWnsTokenExpireDate : Server.run oracle RedisClient.getWnsTokenExpireDate w
    = (.ok (some (RedisClient.fromTimeT (RedisClient.toTimeT token.expires))), w)

/-- The whole seconds of a time point are in the range of `strtoll`. -/
theorem toTimeT_bounds {t : Int} (hlow : -2 ^ 63 ≤ t) (hhigh : t < 2 ^ 63) :
  -2 ^ 63 ≤ RedisClient.toTimeT t ∧ RedisClient.toTimeT t < 2 ^ 63
  := by
  have habs : (RedisClient.toTimeT t).natAbs ≤ t.natAbs := Int.natAbs_tdiv_le_natAbs t second
  have hsecond : 0 ≤ second := by decide
  rcases Int.le_total 0 t with ht | ht
  · omega
  · have hneg : 0 ≤ RedisClient.toTimeT (-t) := Int.tdiv_nonneg (Int.neg_nonneg.mpr ht) hsecond
    rw [RedisClient.toTimeT, Int.neg_tdiv, ← RedisClient.toTimeT] at hneg
    omega

/-- The list of a call is read back as its token. -/
theorem EntryIs.readsBack (h : EntryIs tokens w (.list (triple (tokens i))))
    (hlow : -2 ^ 63 ≤ (tokens i).expires) (hhigh : (tokens i).expires < 2 ^ 63) :
  ReadsBack oracle w (tokens i)
  := by
  obtain ⟨d, hlookup, -⟩ := h
  have hentry : w.contents RedisClient.WNS_TOKEN_KEY = some ⟨.list (triple (tokens i)), d⟩ :=
    hlookup
  have helements : w.contents.elements RedisClient.WNS_TOKEN_KEY = triple (tokens i) :=
    Contents.elements_of_eq hentry
  have hlist : w.contents.NotString RedisClient.WNS_TOKEN_KEY := by
    intro a d' ha
    cases hentry.symm.trans ha
  have hget (i : ℕ) : Server.run oracle (RedisClient.getOfThree RedisClient.WNS_TOKEN_KEY i) w
      = _ :=
    run_getOfThree_of_notString hlist i
  rw [helements] at hget
  constructor
  · exact hget 0
  · exact hget 1
  · rw [RedisClient.getWnsTokenExpireDate, Server.run, Program.run_bind_ok _ (hget 2)]
    change (Except.ok (some (RedisClient.fromTimeT (strtoll (cStr (toString _))))), w) = _
    obtain ⟨hlow', hhigh'⟩ := toTimeT_bounds hlow hhigh
    rw [cStr_toString, strtoll_toString hlow' hhigh']

/-- What is read back is a list of three. -/
theorem ReadsBack.length {token : WnsToken} (h : ReadsBack oracle w token) :
  w.contents.NotString RedisClient.WNS_TOKEN_KEY
    ∧ (w.contents.elements RedisClient.WNS_TOKEN_KEY).length = 3
  := by
  obtain ⟨-, hlist, hread⟩ := run_getOfThree_ok h.getWnsToken
  use hlist
  by_contra hlength
  rw [if_neg hlength] at hread
  cases hread

/-- The entry that the commands have left is read back if and only if it is the list of one
call. -/
theorem Holds.readsBack_iff (h : Holds tokens past w) (hpast : past ≠ [])
    (hlow : ∀ i, -2 ^ 63 ≤ (tokens i).expires) (hhigh : ∀ i, (tokens i).expires < 2 ^ 63) :
  (∃ i, ReadsBack oracle w (tokens i)) ↔ ∃ i, sinceDel past = some [i]
  := by
  unfold Holds at h
  constructor
  · rintro ⟨i, hread⟩
    obtain ⟨hlist, hlength⟩ := hread.length
    rcases hsince : sinceDel past with _ | l
    · rw [hsince] at h
      obtain ⟨a, d, hlookup, -⟩ := h.resolve_left hpast
      exact (hlist a d hlookup).elim
    · rw [hsince] at h
      rcases l with _ | ⟨j, l⟩
      · have hnone : w.contents RedisClient.WNS_TOKEN_KEY = none := h
        rw [Contents.elements, hnone] at hlength
        cases hlength
      · obtain ⟨d, hlookup, -⟩ := h
        have helements : w.contents.elements RedisClient.WNS_TOKEN_KEY
            = (j :: l).flatMap fun i => triple (tokens i) := Contents.elements_of_eq hlookup
        rw [helements] at hlength
        rcases l with _ | ⟨k, l⟩
        · exact ⟨j, rfl⟩
        · simp [triple] at hlength
  · rintro ⟨i, hsince⟩
    rw [hsince] at h
    use i
    apply EntryIs.readsBack (i := i) _ (hlow i) (hhigh i)
    simpa using h

/-! ### Every schedule -/

variable [DecidableEq ι] {events : List (Option ι)} {t : Threads (Place (ι := ι)) World}

/-- As long as the commands are ordered, every call is where its turns have brought it and
the entry is what they left; after that, some call has failed. -/
def Sound (tokens : ι → WnsToken) (events : List (Option ι))
    (t : Threads (Place (ι := ι)) World) : Prop :=
  Ordered (commands events)
      ∧ (∀ i, t.locals (some i) = rest (tokens i) (events.count (some i)))
      ∧ Holds tokens (commands events) t.shared
    ∨ ¬Ordered (commands events) ∧ ∃ i, t.locals (some i) = Program.throw wrongType

omit [DecidableEq ι] in
theorem ordered_of_cons {c : ι × Command} {past : List (ι × Command)}
    (h : Ordered (c :: past)) :
  Ordered past
  := by
  obtain ⟨i, c⟩ := c
  cases c with
  | rpush => exact h.2
  | _ => exact h

/-- A turn of a call adds its command. -/
theorem commands_cons {i : ι} {n : ℕ} (hn : events.count (some i) = n) {c : Command}
    (hc : Command.ofTurn n = some c) :
  commands (some i :: events) = (i, c) :: commands events
  := by
  rw [commands, hn, hc]

/-- A call that has returned adds no command. -/
theorem commands_of_returned {i : ι} {n : ℕ} (hn : events.count (some i) = n + 4) :
  commands (some i :: events) = commands events
  := by
  rw [commands, hn]
  rfl

variable (events) in
/-- A turn adds one command at most. -/
theorem commands_cases (i : ι) :
  commands (some i :: events) = commands events
    ∨ ∃ c, commands (some i :: events) = (i, c) :: commands events
  := by
  rw [commands]
  split
  · exact .inl rfl
  · exact .inr ⟨_, rfl⟩

/-- A call that had a turn has issued a command. -/
theorem commands_ne_nil {i : ι} (h : events.count (some i) ≠ 0) :
  commands events ≠ []
  := by
  induction events with
  | nil => exact (h rfl).elim
  | cons e events ih =>
      intro hnil
      have hrest : commands events = [] := by
        cases e with
        | none => apply hnil
        | some j =>
            rcases commands_cases events j with hsame | ⟨c, hcons⟩
            · rw [← hsame, hnil]
            · rw [hcons] at hnil
              cases hnil
      have hcount : events.count (some i) = 0 := by
        by_contra hcount
        exact ih hcount hrest
      have he : e = some i := by
        by_contra he
        rw [List.count_cons_of_ne he] at h
        exact h hcount
      subst he
      rw [commands_cons hcount rfl] at hnil
      cases hnil

/-- A command takes no time. -/
theorem clock_step {p p' : Server Unit} {w w' : World}
    (h : p.step (World.perform oracle) w = some (p', w')) :
  w'.redis.clock = w.redis.clock
  := by
  cases p with
  | pure a => cases h
  | throw e => cases h
  | call c k =>
      cases h
      apply World.clock_perform

/-- No step sets the clock back. -/
theorem clock_le_next (e : Option ι) :
  t.shared.redis.clock ≤ (Threads.next (step oracle) e t).shared.redis.clock
  := by
  rcases hstep : step oracle e (t.locals e) t.shared with _ | ⟨p, w⟩
  · rw [Threads.next_of_none hstep]
  · rw [Threads.next_of_some hstep]
    cases e with
    | none =>
        cases hp : t.locals none with
        | nil =>
            rw [hp] at hstep
            cases hstep
        | cons dt times =>
            rw [hp] at hstep
            cases hstep
            exact Int.le_add_of_nonneg_right (Int.natCast_nonneg dt)
    | some i => exact (clock_step hstep).ge

/-- A call makes its next step. -/
theorem Sound.turn {i : ι} {n : ℕ} {c : Command} {w : World}
    (hlocals : ∀ i, t.locals (some i) = rest (tokens i) (events.count (some i)))
    (hn : events.count (some i) = n) (hc : Command.ofTurn n = some c)
    (hstep : (rest (tokens i) n).step (World.perform oracle) t.shared
      = some (rest (tokens i) (n + 1), w))
    (hord : Ordered ((i, c) :: commands events))
    (hholds : Holds tokens ((i, c) :: commands events) w) :
  Sound tokens (some i :: events) (Threads.next (step oracle) (some i) t)
  := by
  have hmove : step oracle (some i) (t.locals (some i)) t.shared
      = some (rest (tokens i) (n + 1), w) := by
    rw [hlocals, hn]
    apply hstep
  rw [Threads.next_of_some hmove, Sound, commands_cons hn hc]
  refine .inl ⟨hord, ?_, hholds⟩
  intro j
  by_cases hj : j = i
  · subst hj
    rw [List.count_cons_self, hn]
    apply Function.update_self
  · have hne : some j ≠ some i := fun h => hj (Option.some.inj h)
    rw [List.count_cons_of_ne hne.symm, ← hlocals]
    apply Function.update_of_ne hne

/-- A failure stays. -/
theorem Sound.failed (hnot : ¬Ordered (commands events))
    (hfailed : ∃ i, t.locals (some i) = Program.throw wrongType) (e : Option ι) :
  Sound tokens (e :: events) (Threads.next (step oracle) e t)
  := by
  obtain ⟨i, hi⟩ := hfailed
  refine .inr ⟨?_, i, ?_⟩
  · cases e with
    | none => apply hnot
    | some j =>
        rcases commands_cases events j with hsame | ⟨c, hcons⟩
        · rw [hsame]
          apply hnot
        · rw [hcons]
          apply mt ordered_of_cons hnot
  · by_cases he : e = some i
    · subst he
      rw [Threads.next_of_none]
      · apply hi
      · rw [hi]
        rfl
    · rw [Threads.locals_next_of_ne (Ne.symm he)]
      apply hi

/-- A turn of a call. -/
theorem Sound.call (h : Sound tokens events t) (i : ι)
    (hexpiry : ∀ i, t.shared.redis.clock < expiry (tokens i)) :
  Sound tokens (some i :: events) (Threads.next (step oracle) (some i) t)
  := by
  rcases h with ⟨hord, hlocals, hholds⟩ | ⟨hnot, hfailed⟩
  · rcases hn : events.count (some i) with _ | _ | _ | _ | n
    · exact .turn hlocals hn rfl (step_set _ _) hord (.set _)
    · exact .turn hlocals hn rfl (step_del _ _) hord .del
    · by_cases hsince : sinceDel (commands events) = none
      · have hpast := commands_ne_nil (i := i) (by rw [hn]; nofun)
        have hmove : step oracle (some i) (t.locals (some i)) t.shared
            = some (Program.throw wrongType, t.shared) := by
          rw [hlocals, hn]
          apply step_rpush_error (hholds.rpush_error hpast hsince)
        rw [Threads.next_of_some hmove]
        refine .inr ⟨?_, i, Function.update_self _ _ _⟩
        rw [commands_cons hn rfl]
        exact fun hord => hord.1 hsince
      · obtain ⟨redis, hpush, -, hholds'⟩ := hholds.rpush (i := i) hsince
        exact .turn hlocals hn rfl (step_rpush hpush) ⟨hsince, hord⟩ hholds'
    · have hpast := commands_ne_nil (i := i) (by rw [hn]; nofun)
      exact .turn hlocals hn rfl (step_expireat _ _) hord (hholds.expireat hpast (hexpiry i))
    · have hmove : step oracle (some i) (t.locals (some i)) t.shared = none := by
        rw [hlocals, hn]
        rfl
      rw [Threads.next_of_none hmove]
      refine .inl ⟨?_, ?_, ?_⟩
      · rw [commands_of_returned hn]
        apply hord
      · intro j
        rw [hlocals]
        by_cases hj : j = i
        · subst hj
          rw [List.count_cons_self, hn]
          rfl
        · have hne : some i ≠ some j := fun h => hj (Option.some.inj h).symm
          rw [List.count_cons_of_ne hne]
      · rw [commands_of_returned hn]
        apply hholds
  · exact .failed hnot hfailed _

/-- A turn of the clock. -/
theorem Sound.clock (h : Sound tokens events t)
    (hexpiry : ∀ i, (Threads.next (step oracle) none t).shared.redis.clock < expiry (tokens i)) :
  Sound tokens (none :: events) (Threads.next (step oracle) none t)
  := by
  rcases h with ⟨hord, hlocals, hholds⟩ | ⟨hnot, hfailed⟩
  · refine .inl ⟨hord, ?_, ?_⟩
    · intro i
      have hne : some i ≠ none := nofun
      rw [List.count_cons_of_ne hne.symm, ← hlocals]
      apply Threads.locals_next_of_ne hne
    · rcases hp : t.locals none with _ | ⟨dt, times⟩
      · have hmove : step oracle none (t.locals none) t.shared = none := by
          rw [hp]
          rfl
        rw [Threads.next_of_none hmove]
        apply hholds
      · have hmove : step oracle none (t.locals none) t.shared
            = some (times, { t.shared with redis := t.shared.redis.advance dt }) := by
          rw [hp]
          rfl
        rw [Threads.next_of_some hmove] at hexpiry ⊢
        apply hholds.advance hexpiry
  · exact .failed hnot hfailed _

/-- The calls and the entry after every schedule, as long as no call's token has expired. -/
theorem sound_run {times : List ℕ} {w : World}
    {past : List (Transition (Option ι) (Threads (Place (ι := ι)) World))}
    (h : Run (Threads.next (step oracle)) (· = initial tokens times w) past t)
    (hexpiry : ∀ i, t.shared.redis.clock < expiry (tokens i)) :
  Sound tokens (past.map Transition.event) t
  := by
  induction h with
  | start h =>
      subst h
      exact .inl ⟨trivial, fun i => rfl, .inl rfl⟩
  | @next past t h e ih =>
      have hbefore : ∀ i, t.shared.redis.clock < expiry (tokens i) := by
        intro i
        apply Int.lt_of_le_of_lt (clock_le_next e) (hexpiry i)
      cases e with
      | none => exact (ih hbefore).clock hexpiry
      | some i => exact (ih hbefore).call i hbefore

end TokenWrites

open TokenWrites

/-- Calls of `set_wns_token` that have taken turns, one command at a turn, leave the token of
one of them, and none of their commands fails, if and only if the latest `SET` or `DEL`
before every `RPUSH` is a `DEL` and one `RPUSH` alone comes after the last of them. -/
theorem tokenStored_iff {ι : Type} [DecidableEq ι] {oracle : Oracle} {tokens : ι → WnsToken}
    {times : List ℕ} {w : World}
    {past : List (Transition (Option ι) (Threads (Place (ι := ι)) World))}
    {t : Threads (Place (ι := ι)) World}
    (h : Run (Threads.next (step oracle)) (· = initial tokens times w) past t)
    (hlow : ∀ i, -2 ^ 63 ≤ (tokens i).expires) (hhigh : ∀ i, (tokens i).expires < 2 ^ 63)
    (hended : ∀ i, step oracle (some i) (t.locals (some i)) t.shared = none)
    (hexpiry : ∀ i, t.shared.redis.clock < expiry (tokens i)) :
  (∀ i, t.locals (some i) ≠ Program.throw wrongType) ∧ (∃ i, ReadsBack oracle t.shared (tokens i))
    ↔ Ordered (TokenWrites.commands (past.map Transition.event))
      ∧ ∃ i, sinceDel (TokenWrites.commands (past.map Transition.event)) = some [i]
  := by
  rcases TokenWrites.sound_run h hexpiry with ⟨hord, hlocals, hholds⟩ | ⟨hnot, i, hi⟩
  · have hreturned : ∀ i, t.locals (some i) ≠ Program.throw wrongType := by
      intro i
      rw [hlocals]
      apply rest_ne_throw
    have hpast : ∀ _ : ι, TokenWrites.commands (past.map Transition.event) ≠ [] := by
      intro i
      apply commands_ne_nil (i := i)
      intro hcount
      have hend := hended i
      rw [hlocals, hcount] at hend
      cases hend
    constructor
    · rintro ⟨-, i, hread⟩
      exact ⟨hord, (hholds.readsBack_iff (hpast i) hlow hhigh).mp ⟨i, hread⟩⟩
    · rintro ⟨-, i, hsince⟩
      exact ⟨hreturned, (hholds.readsBack_iff (hpast i) hlow hhigh).mpr ⟨i, hsince⟩⟩
  · constructor
    · rintro ⟨hreturned, -⟩
      exact (hreturned i hi).elim
    · rintro ⟨hord, -⟩
      exact (hnot hord).elim

/-- Two tokens that are stored at the same time. -/
def Sample.tokens (i : Bool) : WnsToken :=
  ⟨"bearer", if i then "first" else "second", 1700000000 * second⟩

/-- The calls take the turns of a schedule. -/
def Sample.turns (schedule : List (Option Bool)) :
    List (Transition (Option Bool) (Threads (Place (ι := Bool)) World))
      × Threads (Place (ι := Bool)) World :=
  Run.trace (Threads.next (step Sample.oracle)) [] (initial Sample.tokens [1] Sample.world)
    schedule

/-- One call after the other, and a nanosecond in between. -/
def Sample.sequential : List (Option Bool) :=
  [some true, some true, some true, some true, none, some false, some false, some false,
    some false]

theorem tokenStored_iff_sequential :
  (∀ i, (Sample.turns Sample.sequential).2.locals (some i) ≠ Program.throw wrongType)
      ∧ (∃ i, ReadsBack Sample.oracle (Sample.turns Sample.sequential).2.shared (Sample.tokens i))
    ↔ Ordered (TokenWrites.commands ((Sample.turns Sample.sequential).1.map Transition.event))
      ∧ ∃ i, sinceDel (TokenWrites.commands
        ((Sample.turns Sample.sequential).1.map Transition.event)) = some [i]
  := by
  have hstart : Run (Threads.next (step Sample.oracle))
      (· = initial Sample.tokens [1] Sample.world) [] (initial Sample.tokens [1] Sample.world) :=
    .start rfl
  apply tokenStored_iff (hstart.of_trace Sample.sequential) (by decide) (by decide)
  · intro i
    cases i <;> rfl
  · decide +kernel

/-- The list of a call is pushed onto the string that the other has stored, which fails; and
two lists that are pushed one after the other are read back as no token. -/
theorem not_tokenStored_interleaved :
  (Sample.turns [some true, some true, some false, some true]).2.locals (some true)
      = Program.throw wrongType
    ∧ (let t := (Sample.turns [some true, some true, some false, some false, some true,
        some false, some true, some false]).2
      (∀ i, t.locals (some i) = Program.pure ())
        ∧ (∀ i, t.shared.redis.clock < expiry (Sample.tokens i))
        ∧ ∀ i, ¬ReadsBack Sample.oracle t.shared (Sample.tokens i))
  := by
  use rfl
  refine ⟨?_, ?_, ?_⟩
  · intro i
    cases i <;> rfl
  · decide +kernel
  · intro i hread
    have hlength := hread.length.2
    revert hlength
    decide +kernel

end UwpxPush
