import UwpxPush.Server.TokenWrites
import UwpxPush.Wns.Authorization

/-!
# The stored WNS token

A token that is stored over anything is loaded again, with its time of expiry rounded down to
whole seconds, until that time (`loadTokenFromDb_stored`).
-/

namespace UwpxPush

open KeyValue TokenWrites

variable {oracle : Oracle} {w : World} {token : WnsToken}

/-- The entry of the token some time after it was stored. -/
theorem lookup_stored {dt : Nat} :
  ((Server.run oracle (call token) w).2.redis.advance dt).lookup RedisClient.WNS_TOKEN_KEY
    = if w.redis.clock + dt < expiry token then some ⟨.list (triple token), some (expiry token)⟩
      else none
  := by
  rw [call, run_setWnsToken, Store.lookup_advance_expireAt_put]
  rfl

/-- A token that is read back is loaded. -/
theorem run_loadTokenFromDb (h : ReadsBack oracle w token) :
  Server.run oracle WnsClient.loadTokenFromDb w
    = (.ok (), { w with
      token := some
        ⟨token.type, token.token, RedisClient.fromTimeT (RedisClient.toTimeT token.expires)⟩ })
  := by
  rw [WnsClient.loadTokenFromDb, Server.run, Program.run_bind_ok _ h.getWnsToken]
  dsimp only
  rw [Program.run_bind_ok _ h.getWnsTokenType]
  dsimp only
  rw [Program.run_bind_ok _ h.getWnsTokenExpireDate]
  rfl

/-- Without an entry nothing is loaded. -/
theorem run_loadTokenFromDb_none (h : w.redis.lookup RedisClient.WNS_TOKEN_KEY = none) :
  Server.run oracle WnsClient.loadTokenFromDb w = (.ok (), w)
  := by
  have hentry : w.contents RedisClient.WNS_TOKEN_KEY = none := h
  have hlist : w.contents.NotString RedisClient.WNS_TOKEN_KEY := by
    intro a d ha
    cases hentry.symm.trans ha
  have hread : Server.run oracle RedisClient.getWnsToken w = (.ok none, w) := by
    rw [RedisClient.getWnsToken, run_getOfThree_of_notString hlist, Contents.elements, hentry]
    rfl
  rw [WnsClient.loadTokenFromDb, Server.run, Program.run_bind_ok _ hread]
  rfl

/-- A time from the epoch on is rounded down to whole seconds. -/
theorem expiry_eq (hlow : 0 ≤ token.expires) :
  expiry token = token.expires / second * second
  := by
  rw [expiry, RedisClient.toTimeT, Int.tdiv_eq_ediv_of_nonneg hlow]

theorem expiry_le (hlow : 0 ≤ token.expires) :
  expiry token ≤ token.expires
  := by
  rw [expiry_eq hlow]
  apply Int.ediv_mul_le _ (by decide)

theorem fromTimeT_toTimeT (hlow : 0 ≤ token.expires) (hhigh : token.expires < 2 ^ 63) :
  RedisClient.fromTimeT (RedisClient.toTimeT token.expires) = expiry token
  := by
  apply wrap64_eq_iff.mpr
  have hle := expiry_le hlow
  have hnonneg : 0 ≤ expiry token :=
    Int.mul_nonneg (Int.tdiv_nonneg hlow (by decide)) (by decide)
  change -2 ^ 63 ≤ expiry token ∧ expiry token < 2 ^ 63
  omega

/-- Only a token that has not expired is found valid. -/
theorem clock_lt_of_isTokenValid {r : World} (htoken : w.token = some token)
    (h : Server.run oracle WnsClient.isTokenValid w = (.ok true, r)) :
  w.redis.clock < token.expires
  := by
  by_contra hnot
  have hnone : ∀ t, ¬w.HasToken t := by
    rintro t ⟨ht, hvalid⟩
    cases htoken.symm.trans ht
    exact hnot hvalid
  cases h.symm.trans (run_isTokenValid_of_not hnone)

/-- A token that is stored over any contents of its entry is loaded until the time of expiry
rounded down to whole seconds, and expires at that time then; from that time on nothing is
loaded.  While the loaded token is valid, so is the stored one. -/
theorem loadTokenFromDb_stored (oracle : Oracle) (token : WnsToken) (hlow : 0 ≤ token.expires)
    (hhigh : token.expires < 2 ^ 63) (w v : World) (dt : Nat) :
  let rounded := { token with expires := token.expires / second * second }
  let stored := Server.run oracle
    (RedisClient.setWnsToken token.token token.type token.expires) w
  let u : World := { v with redis := stored.2.redis.advance dt }
  stored.1 = .ok ()
    ∧ Server.run oracle WnsClient.loadTokenFromDb u
      = (.ok (), if rounded.expires ≤ u.redis.clock then u else { u with token := some rounded })
    ∧ ∀ u' : World, u'.token = some rounded →
      Server.run oracle WnsClient.isTokenValid u' = (.ok true, u') → u'.redis.clock < token.expires
  := by
  intro rounded stored u
  have hclock : u.redis.clock = w.redis.clock + dt := by
    change stored.2.redis.clock + dt = _
    rw [(keepsWns_setWnsToken (P := fun _ => True) _ _ _ w).clock]
  have hrounded : rounded.expires = expiry token := (expiry_eq hlow).symm
  have hlookup : u.redis.lookup RedisClient.WNS_TOKEN_KEY = _ := lookup_stored
  refine ⟨congrArg Prod.fst (run_setWnsToken _ _ _ _), ?_, ?_⟩
  · rw [hrounded, hclock]
    split
    · next hexpired =>
        rw [if_neg (Int.not_lt.mpr hexpired)] at hlookup
        apply run_loadTokenFromDb_none hlookup
    · next hlive =>
        rw [if_pos (Int.not_le.mp hlive)] at hlookup
        have hentry : EntryIs (fun _ : Unit => token) u (.list (triple token)) := by
          refine ⟨_, hlookup, ?_⟩
          rintro t ⟨⟩
          exact ⟨(), rfl⟩
        have hread : ReadsBack oracle u token := hentry.readsBack (i := ()) (by omega) hhigh
        rw [run_loadTokenFromDb hread, fromTimeT_toTimeT hlow hhigh, ← hrounded]
  · intro u' htoken hvalid
    have hlt := clock_lt_of_isTokenValid htoken hvalid
    rw [hrounded] at hlt
    exact Int.lt_of_lt_of_le hlt (expiry_le hlow)

/-- A token that expires half a second after a whole one. -/
def Sample.fractional : WnsToken :=
  ⟨"bearer", "key", 1700000000 * second + 500000000⟩

/-- The token is stored over a string, and loaded until the whole second. -/
theorem loadTokenFromDb_stored_fractional :
  let rounded := { Sample.fractional with expires := Sample.fractional.expires / second * second }
  let w := { Sample.untouched with
    redis := Sample.untouched.redis.set RedisClient.WNS_TOKEN_KEY "key" }
  let stored := Server.run Sample.oracle (RedisClient.setWnsToken "key" "bearer"
    Sample.fractional.expires) w
  let u : World := { Sample.untouched with redis := stored.2.redis.advance 1 }
  stored.1 = .ok ()
    ∧ Server.run Sample.oracle WnsClient.loadTokenFromDb u
      = (.ok (), if rounded.expires ≤ u.redis.clock then u else { u with token := some rounded })
    ∧ ∀ u' : World, u'.token = some rounded →
      Server.run Sample.oracle WnsClient.isTokenValid u' = (.ok true, u') →
        u'.redis.clock < Sample.fractional.expires
  := loadTokenFromDb_stored Sample.oracle Sample.fractional (by decide) (by decide) _ _ 1

end UwpxPush
