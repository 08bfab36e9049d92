import UwpxPush.Tcp.RoundTrip
import UwpxPush.Wns.Effect

/-!
# The responses of the token server

What `WnsToken::from_response` makes of a response: the token of an object that grants one,
nothing where a field is missing, and an exception, which nobody catches, where a field is
not of its type.  The time of expiry goes through `size_t`, the seconds of a duration and
the nanoseconds of a time point, each of 64 bits.
-/

namespace UwpxPush

namespace WnsToken

/-- The document grants a token with a number of seconds. -/
def Grants (js : Json) (type token : String) (seconds : Nat) : Prop :=
  js.field "token_type" = .string type ∧ js.field "access_token" = .string token
    ∧ toSize (js.field "expires_in") = .ok seconds

/-- The time of expiry of a token that is granted at a time. -/
def expiresAt (now : Int) (expiresInSeconds : Nat) : Int :=
  wrap64 (now + wrap64 (wrap64 expiresInSeconds * second))

/-! ### What is made of a response -/

variable {platform : Platform} {oracle : Oracle} {w : World} {response : String} {js : Json}

/-- A response is read without a change. -/
theorem world_fromResponse :
  (Server.run oracle (fromResponse platform response) w).2 = w
  := by
  apply (calls_fromResponse platform response).run_eq
  rintro c rfl w
  rfl

theorem run_fromResponse {r : Except Failure (Option WnsToken)}
    (h : (Server.run oracle (fromResponse platform response) w).1 = r) :
  Server.run oracle (fromResponse platform response) w = (r, w)
  := by
  rw [← h]
  exact congrArg (Prod.mk _) world_fromResponse

/-- What is not a document is no token. -/
theorem run_fromResponse_none (h : platform.parse response = none)
    (hrange : platform.outOfRange response = none) :
  Server.run oracle (fromResponse platform response) w = (.ok none, w)
  := by
  rw [fromResponse, h]
  dsimp only
  rw [hrange]
  rfl

/-- Only the `parse_error` is caught. -/
theorem run_fromResponse_outOfRange {what : String} (h : platform.parse response = none)
    (hrange : platform.outOfRange response = some what) :
  Server.run oracle (fromResponse platform response) w = (.error (.exception what), w)
  := by
  rw [fromResponse, h]
  dsimp only
  rw [hrange]
  rfl

/-- The fields before the first that is missing are of their types. -/
def Misses (js : Json) : Prop :=
  js.contains "token_type" = false
    ∨ (js.field "token_type").IsStr
      ∧ (js.contains "access_token" = false
        ∨ (js.field "access_token").IsStr ∧ js.contains "expires_in" = false)

/-- The fields before the first that cannot be converted are of their types. -/
def Mistypes (js : Json) : Prop :=
  js.contains "token_type" = true
    ∧ (¬(js.field "token_type").IsStr
      ∨ js.contains "access_token" = true
        ∧ (¬(js.field "access_token").IsStr
          ∨ js.contains "expires_in" = true ∧ ∀ n, toSize (js.field "expires_in") ≠ .ok n))

variable (oracle w) in
/-- What becomes of a document. -/
theorem fromResponse_cases (h : platform.parse response = some js) :
  (∃ type token seconds, Grants js type token seconds
      ∧ Server.run oracle (fromResponse platform response) w
        = (.ok (some ⟨type, token, expiresAt w.redis.clock seconds⟩), w))
    ∨ Misses js ∧ Server.run oracle (fromResponse platform response) w = (.ok none, w)
    ∨ Mistypes js ∧ ∃ what,
      Server.run oracle (fromResponse platform response) w = (.error (.exception what), w)
  := by
  rw [fromResponse, h]
  dsimp only
  cases hctype : js.contains "token_type" with
  | false => exact .inr (.inl ⟨.inl hctype, rfl⟩)
  | true =>
      rcases Json.toStr_cases (js.field "token_type") with ⟨type, htype⟩ | ⟨hnot, what, hwhat⟩
      · rw [htype]
        cases hctoken : js.contains "access_token" with
        | false => exact .inr (.inl ⟨.inr ⟨⟨type, htype⟩, .inl hctoken⟩, rfl⟩)
        | true =>
            rcases Json.toStr_cases (js.field "access_token") with ⟨token, htoken⟩
              | ⟨hnot, what, hwhat⟩
            · rw [htoken]
              cases hcexpires : js.contains "expires_in" with
              | false =>
                  exact .inr (.inl ⟨.inr ⟨⟨type, htype⟩, .inr ⟨⟨token, htoken⟩, hcexpires⟩⟩, rfl⟩)
              | true =>
                  rcases hsize : toSize (js.field "expires_in") with what | seconds
                  · refine .inr (.inr ⟨⟨hctype, .inr ⟨hctoken, .inr ⟨hcexpires, ?_⟩⟩⟩, what, rfl⟩)
                    intro n hn
                    cases hsize.symm.trans hn
                  · exact .inl ⟨type, token, seconds, ⟨htype, htoken, hsize⟩, rfl⟩
            · rw [hwhat]
              exact .inr (.inr ⟨⟨hctype, .inr ⟨hctoken, .inl hnot⟩⟩, what, rfl⟩)
      · rw [hwhat]
        exact .inr (.inr ⟨⟨hctype, .inl hnot⟩, what, rfl⟩)

theorem Grants.not_misses {type token : String} {seconds : Nat} (h : Grants js type token seconds) :
  ¬Misses js
  := by
  obtain ⟨htype, htoken, hseconds⟩ := h
  rintro (hnot | ⟨-, hnot | ⟨-, hnot⟩⟩)
  · rw [contains_of_field htype nofun] at hnot
    cases hnot
  · rw [contains_of_field htoken nofun] at hnot
    cases hnot
  · rw [contains_of_field rfl] at hnot
    · cases hnot
    · intro hnull
      rw [hnull] at hseconds
      cases hseconds

/-- Only objects contain a key. -/
theorem object_of_contains {key : String} (h : js.contains key = true) :
  ∃ fields, js = .object fields
  := by
  cases js with
  | object fields => exact ⟨fields, rfl⟩
  | _ => cases h

theorem Grants.not_mistypes {type token : String} {seconds : Nat}
    (h : Grants js type token seconds) :
  ¬Mistypes js
  := by
  obtain ⟨htype, htoken, hseconds⟩ := h
  rintro ⟨-, hnot | ⟨-, hnot | ⟨-, hnot⟩⟩⟩
  · exact hnot ⟨type, htype⟩
  · exact hnot ⟨token, htoken⟩
  · exact hnot seconds hseconds

end WnsToken

open WnsToken

/-! ### Requests for a token -/

section Requests

variable {platform : Platform} {config : Configuration} {oracle : Oracle} {w : World}

/-- The answer to a request for a token grants one. -/
def HttpResponse.Grants (platform : Platform) (response : HttpResponse) (type token : String)
    (seconds : Nat) : Prop :=
  response.statusCode = 200
    ∧ ∃ js, platform.parse response.text = some js ∧ WnsToken.Grants js type token seconds

/-- A token that is granted is requested and stored. -/
theorem run_requestNewToken (hstatus : (oracle.http w.requests).statusCode = 200)
    {token : Option WnsToken}
    (h : (Server.run oracle (fromResponse platform (oracle.http w.requests).text)
      (World.perform oracle (.post (WnsClient.tokenRequest config)) w).2).1 = .ok token) :
  ∃ w', Server.run oracle (WnsClient.requestNewToken platform config) w = (.ok token.isSome, w')
    ∧ w'.token = token ∧ w'.requests = w.requests + 1
  := by
  rw [WnsClient.requestNewToken, Server.run, Program.run_bind_ok _ rfl,
    if_neg (not_not.mpr hstatus), Program.run_bind_ok _ (run_fromResponse h),
    Program.run_bind_ok _ rfl]
  cases token with
  | none => exact ⟨_, rfl, rfl, rfl⟩
  | some token =>
      dsimp only
      rw [Program.run_bind_ok _ (run_setWnsToken _ _ _ _)]
      exact ⟨_, rfl, rfl, rfl⟩

/-- The exception of a conversion goes through. -/
theorem run_requestNewToken_error (hstatus : (oracle.http w.requests).statusCode = 200)
    {e : Failure}
    (h : (Server.run oracle (fromResponse platform (oracle.http w.requests).text)
      (World.perform oracle (.post (WnsClient.tokenRequest config)) w).2).1 = .error e) :
  (Server.run oracle (WnsClient.requestNewToken platform config) w).1 = .error e
  := by
  rw [WnsClient.requestNewToken, Server.run, Program.run_bind_ok _ rfl,
    if_neg (not_not.mpr hstatus), Program.run_bind_error _ (run_fromResponse h)]

/-- An answer without a document is no token. -/
theorem run_requestNewToken_false (hstatus : (oracle.http w.requests).statusCode ≠ 200) :
  (Server.run oracle (WnsClient.requestNewToken platform config) w).1 = .ok false
  := by
  rw [WnsClient.requestNewToken, Server.run, Program.run_bind_ok _ rfl, if_pos hstatus]
  rfl

variable (platform config oracle w) in
/-- The token is requested and stored, or there is none and the request fails. -/
theorem requestNewToken_cases :
  (∃ type token seconds, (oracle.http w.requests).Grants platform type token seconds
      ∧ ∃ w', Server.run oracle (WnsClient.requestNewToken platform config) w = (.ok true, w')
        ∧ w'.token = some ⟨type, token, expiresAt w.redis.clock seconds⟩
        ∧ w'.requests = w.requests + 1)
    ∨ (∀ type token seconds, ¬(oracle.http w.requests).Grants platform type token seconds)
      ∧ (Server.run oracle (WnsClient.requestNewToken platform config) w).1 ≠ .ok true
  := by
  by_cases hstatus : (oracle.http w.requests).statusCode = 200
  · cases hparse : platform.parse (oracle.http w.requests).text with
    | none =>
        apply Or.inr
        constructor
        · rintro type token seconds ⟨-, js, hjs, -⟩
          cases hparse.symm.trans hjs
        · cases hrange : platform.outOfRange (oracle.http w.requests).text with
          | none =>
              obtain ⟨w', hrun, -⟩ := run_requestNewToken hstatus
                (congrArg Prod.fst (run_fromResponse_none hparse hrange))
              rw [hrun]
              nofun
          | some what =>
              rw [run_requestNewToken_error hstatus
                (congrArg Prod.fst (run_fromResponse_outOfRange hparse hrange))]
              nofun
    | some js =>
        rcases fromResponse_cases oracle _ hparse with
          ⟨type, token, seconds, hgrants, hread⟩ | ⟨hmisses, hread⟩ | ⟨hmistypes, what, hread⟩
        · apply Or.inl
          use type, token, seconds, ⟨hstatus, js, hparse, hgrants⟩
          apply run_requestNewToken hstatus (congrArg Prod.fst hread)
        · apply Or.inr
          constructor
          · rintro type token seconds ⟨-, js', hjs, hgrants⟩
            cases hparse.symm.trans hjs
            exact hgrants.not_misses hmisses
          · obtain ⟨w', hrun, -⟩ := run_requestNewToken hstatus
              (congrArg Prod.fst hread)
            rw [hrun]
            nofun
        · apply Or.inr
          constructor
          · rintro type token seconds ⟨-, js', hjs, hgrants⟩
            cases hparse.symm.trans hjs
            exact hgrants.not_mistypes hmistypes
          · rw [run_requestNewToken_error hstatus (congrArg Prod.fst hread)]
            nofun
  · apply Or.inr
    constructor
    · rintro type token seconds ⟨h, -⟩
      exact hstatus h
    · rw [run_requestNewToken_false hstatus]
      nofun

end Requests

/-! ### Documents that are read as they should be -/

namespace WnsToken

/-- The document is the response to a successful request for a token. -/
def IsTokenResponse (js : Json) : Prop :=
  (∃ fields, js = .object fields) ∧ (js.field "token_type").IsStr
    ∧ (js.field "access_token").IsStr ∧ (js.field "expires_in").IsSize

/-- Each field that is there is of its type, as long as those before it are there. -/
def Tidy (js : Json) : Prop :=
  js.contains "token_type" = true →
    (js.field "token_type").IsStr ∧ (js.contains "access_token" = true →
      (js.field "access_token").IsStr ∧ (js.contains "expires_in" = true →
        (js.field "expires_in").IsSize))

variable {js : Json}

theorem Misses.tidy (h : Misses js) :
  Tidy js
  := by
  intro htype
  rcases h with hnot | ⟨hstr, h⟩
  · cases hnot.symm.trans htype
  · use hstr
    intro htoken
    rcases h with hnot | ⟨hstr, hnot⟩
    · cases hnot.symm.trans htoken
    · use hstr
      intro hexpires
      cases hnot.symm.trans hexpires

theorem Misses.not_isTokenResponse (h : Misses js) :
  ¬IsTokenResponse js
  := by
  rintro ⟨-, ⟨type, htype⟩, ⟨token, htoken⟩, i, hexpires, -⟩
  rcases h with hnot | ⟨-, hnot | ⟨-, hnot⟩⟩
  · cases hnot.symm.trans (contains_of_field htype nofun)
  · cases hnot.symm.trans (contains_of_field htoken nofun)
  · cases hnot.symm.trans (contains_of_field hexpires nofun)

theorem Mistypes.not_tidy (h : Mistypes js) :
  ¬Tidy js
  := by
  obtain ⟨htype, h⟩ := h
  intro htidy
  obtain ⟨hstr, htidy⟩ := htidy htype
  rcases h with hnot | ⟨htoken, h⟩
  · exact hnot hstr
  · obtain ⟨hstr, htidy⟩ := htidy htoken
    rcases h with hnot | ⟨hexpires, hnot⟩
    · exact hnot hstr
    · obtain ⟨i, hi, -⟩ := htidy hexpires
      rw [hi] at hnot
      exact hnot _ rfl

/-- A document that grants a token is tidy where its number of seconds is. -/
theorem Grants.tidy_iff {type token : String} {seconds : Nat} (h : Grants js type token seconds) :
  Tidy js ↔ IsTokenResponse js
  := by
  obtain ⟨htype, htoken, hseconds⟩ := h
  have hexpires : js.contains "expires_in" = true := by
    apply contains_of_field rfl
    intro hnull
    rw [hnull] at hseconds
    cases hseconds
  constructor
  · intro h
    obtain ⟨hstr, h⟩ := h (contains_of_field htype nofun)
    obtain ⟨hstr', h⟩ := h (contains_of_field htoken nofun)
    exact ⟨object_of_contains hexpires, hstr, hstr', h hexpires⟩
  · rintro ⟨-, hstr, hstr', hsize⟩ -
    exact ⟨hstr, fun _ => ⟨hstr', fun _ => hsize⟩⟩

end WnsToken

/-- The response of the token server is read without an exception, as a token exactly when it
is one, and the request for a token returns, if and only if each field that is there is of its
type, as long as those before it are there. -/
theorem fromResponse_returns_iff (platform : Platform) (config : Configuration) (oracle : Oracle)
    (response : String) (w : World) :
  (∃ token, Server.run oracle (fromResponse platform response) w = (.ok token, w)
      ∧ (token.isSome = true
        ↔ ∃ js, platform.parse response = some js ∧ IsTokenResponse js))
    ∧ ((oracle.http w.requests).statusCode = 200 → (oracle.http w.requests).text = response →
      ∃ b, (Server.run oracle (WnsClient.requestNewToken platform config) w).1 = .ok b)
  ↔ (platform.parse response = none → platform.outOfRange response = none)
    ∧ ∀ js, platform.parse response = some js → Tidy js
  := by
  constructor
  · rintro ⟨⟨result, hresult, htoken⟩, -⟩
    constructor
    · intro hnone
      by_contra hrange
      obtain ⟨what, hwhat⟩ := Option.ne_none_iff_exists'.mp hrange
      cases hresult.symm.trans (run_fromResponse_outOfRange hnone hwhat)
    intro js hjs
    rcases fromResponse_cases oracle w hjs with
      ⟨type, token, seconds, hgrants, hread⟩ | ⟨hmisses, -⟩ | ⟨-, what, hread⟩
    · cases hresult.symm.trans hread
      obtain ⟨js', hjs', hresponse⟩ := htoken.mp rfl
      cases hjs.symm.trans hjs'
      exact hgrants.tidy_iff.mpr hresponse
    · apply hmisses.tidy
    · cases hresult.symm.trans hread
  · rintro ⟨hrange, htidy⟩
    have hread : ∀ w, ∃ token, Server.run oracle (fromResponse platform response) w = (.ok token, w)
        ∧ (token.isSome = true
          ↔ ∃ js, platform.parse response = some js ∧ IsTokenResponse js) := by
      intro w
      cases hparse : platform.parse response with
      | none =>
          use none, run_fromResponse_none hparse (hrange hparse)
          constructor
          · nofun
          · rintro ⟨js, ⟨⟩, -⟩
      | some js =>
          rcases fromResponse_cases oracle w hparse with
            ⟨type, token, seconds, hgrants, hread⟩ | ⟨hmisses, hread⟩ | ⟨hmistypes, -⟩
          · refine ⟨_, hread, ?_⟩
            constructor
            · intro _
              exact ⟨js, rfl, hgrants.tidy_iff.mp (htidy js hparse)⟩
            · intro _
              rfl
          · use none, hread
            constructor
            · nofun
            · rintro ⟨js', hjs', hresponse⟩
              cases hjs'
              exact (hmisses.not_isTokenResponse hresponse).elim
          · exact (hmistypes.not_tidy (htidy js hparse)).elim
    use hread w
    intro hstatus htext
    obtain ⟨token, hread, -⟩ :=
      hread (World.perform oracle (.post (WnsClient.tokenRequest config)) w).2
    rw [← htext] at hread
    obtain ⟨w', hrun, -⟩ := run_requestNewToken hstatus (congrArg Prod.fst hread)
    exact ⟨_, congrArg Prod.fst hrun⟩

namespace Sample

/-- A response whose number of seconds is a string. -/
def quoted : Json :=
  .object [("access_token", .string "key"), ("expires_in", .string "86400"),
    ("token_type", .string "bearer")]

/-- The text of the response. -/
def quotedText : String :=
  "\x7b\"access_token\":\"key\",\"expires_in\":\"86400\",\"token_type\":\"bearer\"\x7d"

/-- The HTTP servers always give the same answer. -/
def answering (response : HttpResponse) : Oracle where
  draws _ := ⟨fun _ => ⟨0, by decide⟩, fun _ => ⟨0, CryptoUtils.length_alphanum_sub_one_pos⟩⟩
  http _ := response

/-- A world in which nothing has happened. -/
def untouched : World where
  redis := .empty (1600000000 * second)
  connected := false
  token := none
  created := 0
  requests := 0
  log := []

end Sample

/-- The exception of the conversion leaves the request for a token. -/
theorem not_fromResponse_returns_quoted :
  let platform := Sample.reading Sample.quotedText Sample.quoted
  let oracle := Sample.answering ⟨true, 200, Sample.quotedText⟩
  let config : Configuration := ⟨⟨"packet", "secret"⟩, ⟨"push@example.org"⟩⟩
  (Server.run oracle (fromResponse platform Sample.quotedText) Sample.untouched).1
      = .error (.exception "type must be number, but is string")
    ∧ (Server.run oracle (WnsClient.requestNewToken platform config) Sample.untouched).1
      = .error (.exception "type must be number, but is string")
    ∧ ¬((∃ token, Server.run oracle (fromResponse platform Sample.quotedText) Sample.untouched
          = (.ok token, Sample.untouched)
        ∧ (token.isSome = true
          ↔ ∃ js, platform.parse Sample.quotedText = some js ∧ IsTokenResponse js))
      ∧ ((oracle.http 0).statusCode = 200 → (oracle.http 0).text = Sample.quotedText →
        ∃ b, (Server.run oracle (WnsClient.requestNewToken platform config) Sample.untouched).1
          = .ok b))
  := by
  refine ⟨rfl, rfl, ?_⟩
  rintro ⟨⟨token, hread, -⟩, -⟩
  cases hread

/-! ### Times of expiry -/

/-- What 64 bits keep. -/
theorem wrap64_eq_iff {i : Int} :
  wrap64 i = i ↔ -2 ^ 63 ≤ i ∧ i < 2 ^ 63
  := by
  rw [wrap64, Int.bmod_eq_iff (by decide), Int.sub_self]
  simp

namespace WnsToken

/-- The number of seconds reaches the time of expiry as it is written: no conversion on the
way changes it, and the token is valid until that time. -/
def Keeps (js : Json) (now : Int) (token : WnsToken) : Prop :=
  ∃ n : Nat, toSize (js.field "expires_in") = .ok n ∧ (js.field "expires_in").IsNumber n
    ∧ wrap64 n = n ∧ wrap64 (n * second) = n * second ∧ token.expires = now + n * second
    ∧ ∀ (oracle : Oracle) (w : World), w.token = some token → w.redis.clock < now + n * second →
      Server.run oracle WnsClient.isTokenValid w = (.ok true, w)

/-- The number of seconds is an integer that fits, and so does the time of expiry. -/
def Fits (v : Json) (now : Int) : Prop :=
  ∃ i : Int, v.IsNumber i ∧ 0 ≤ i ∧ i * second < 2 ^ 63
    ∧ -2 ^ 63 ≤ now + i * second ∧ now + i * second < 2 ^ 63

/-- A number that is an integer of 64 bits is converted as it is. -/
theorem toSize_of_isNumber {v : Json} {n : Nat} (h : v.IsNumber n) (hn : n < 2 ^ 63) :
  toSize v = .ok n
  := by
  have hmod : (n % 2 ^ 64 : Int) = n := by
    apply Int.emod_eq_of_lt
    · omega
    · omega
  cases v with
  | integer j =>
      obtain rfl : j = n := h
      rw [toSize, hmod, Int.toNat_natCast]
  | float m e =>
      rw [toSize, Json.truncate_of_isNumber h, if_pos (by omega), hmod, Int.toNat_natCast]
  | _ => exact h.elim

/-- A token that has been granted expires as it is written if and only if its number of
seconds fits. -/
theorem Grants.keeps_iff {js : Json} {type token : String} {seconds : Nat} {now : Int}
    (h : Grants js type token seconds) :
  Keeps js now ⟨type, token, expiresAt now seconds⟩ ↔ Fits (js.field "expires_in") now
  := by
  obtain ⟨-, -, hseconds⟩ := h
  constructor
  · rintro ⟨n, hn, hnumber, hwrap, hproduct, hexpires, -⟩
    cases hseconds.symm.trans hn
    use seconds, hnumber, Int.natCast_nonneg seconds, (wrap64_eq_iff.mp hproduct).2
    apply wrap64_eq_iff.mp
    rw [expiresAt, hwrap, hproduct] at hexpires
    apply hexpires
  · rintro ⟨i, hnumber, hlow, hproduct, hexpires⟩
    obtain ⟨n, rfl⟩ := Int.eq_ofNat_of_zero_le hlow
    have hsecond : (n : Int) * second = n * 1000000000 := rfl
    have hn : n < 2 ^ 63 := by omega
    cases hseconds.symm.trans (toSize_of_isNumber hnumber hn)
    have hwrap : wrap64 seconds = seconds := wrap64_eq_iff.mpr (by omega)
    have hwrap' : wrap64 (seconds * second) = seconds * second := wrap64_eq_iff.mpr (by omega)
    have heq : expiresAt now seconds = now + seconds * second := by
      rw [expiresAt, hwrap, hwrap', wrap64_eq_iff.mpr hexpires]
    refine ⟨seconds, hseconds, hnumber, hwrap, hwrap', heq, ?_⟩
    intro oracle w htoken hclock
    rw [WnsClient.isTokenValid, Server.run, Program.run_bind_ok _ rfl, htoken]
    apply congrArg (fun b => (Except.ok b, w))
    apply decide_eq_true
    rw [heq]
    apply hclock

end WnsToken

/-- The token of a response expires as many seconds after the current time as are written, and
is valid until then, if and only if the number of seconds of a response that grants a token is
an integer that fits into the clock, and so does the time of expiry. -/
theorem expires_eq_iff (platform : Platform) (oracle : Oracle) (response : String) (w : World) :
  (∀ token w', Server.run oracle (fromResponse platform response) w = (.ok (some token), w') →
    ∃ js, platform.parse response = some js ∧ Keeps js w.redis.clock token)
  ↔ ∀ js type token seconds, platform.parse response = some js → Grants js type token seconds →
    Fits (js.field "expires_in") w.redis.clock
  := by
  constructor
  · intro h js type token seconds hparse hgrants
    rcases fromResponse_cases oracle w hparse with
      ⟨type', token', seconds', hgrants', hread⟩ | ⟨hmisses, -⟩ | ⟨hmistypes, -⟩
    · obtain ⟨js', hjs', hkeeps⟩ := h _ _ hread
      cases hparse.symm.trans hjs'
      apply hgrants'.keeps_iff.mp hkeeps
    · exact (hgrants.not_misses hmisses).elim
    · exact (hgrants.not_mistypes hmistypes).elim
  · intro h token w' hread
    cases hparse : platform.parse response with
    | none =>
        cases hrange : platform.outOfRange response with
        | none => cases hread.symm.trans (run_fromResponse_none hparse hrange)
        | some what => cases hread.symm.trans (run_fromResponse_outOfRange hparse hrange)
    | some js =>
        rcases fromResponse_cases oracle w hparse with
          ⟨type, value, seconds, hgrants, hread'⟩ | ⟨-, hread'⟩ | ⟨-, what, hread'⟩
        · cases hread.symm.trans hread'
          exact ⟨js, rfl, hgrants.keeps_iff.mpr (h _ _ _ _ hparse hgrants)⟩
        · cases hread.symm.trans hread'
        · cases hread.symm.trans hread'

/-- A response with ten thousand million seconds. -/
def Sample.lasting : Json :=
  .object [("access_token", .string "key"), ("expires_in", .integer 10000000000),
    ("token_type", .string "bearer")]

/-- The text of the response. -/
def Sample.lastingText : String :=
  "\x7b\"access_token\":\"key\",\"expires_in\":10000000000,\"token_type\":\"bearer\"\x7d"

/-- The token of the response has expired already. -/
theorem not_expires_eq_lasting :
  let platform := Sample.reading Sample.lastingText Sample.lasting
  let oracle := Sample.answering ⟨true, 200, Sample.lastingText⟩
  let token : WnsToken := ⟨"bearer", "key", 1600000000 * second + 10 ^ 19 - 2 ^ 64⟩
  Server.run oracle (fromResponse platform Sample.lastingText) Sample.untouched
      = (.ok (some token), Sample.untouched)
    ∧ Server.run oracle WnsClient.isTokenValid { Sample.untouched with token := some token }
      = (.ok false, { Sample.untouched with token := some token })
    ∧ ¬∀ token w', Server.run oracle (fromResponse platform Sample.lastingText) Sample.untouched
          = (.ok (some token), w') →
        ∃ js, platform.parse Sample.lastingText = some js
          ∧ Keeps js Sample.untouched.redis.clock token
  := by
  intro platform oracle token
  have hread : Server.run oracle (fromResponse platform Sample.lastingText) Sample.untouched
      = (.ok (some token), Sample.untouched) := rfl
  refine ⟨hread, rfl, ?_⟩
  intro h
  obtain ⟨js, hjs, n, hn, -, -, hproduct, -⟩ := h token _ hread
  cases hjs
  cases hn
  revert hproduct
  decide

end UwpxPush
