import UwpxPush.Tcp.Valid

/-!
# The fields of a document

The constructors of the messages read the fields of a document in a fixed order and stop at
the first one that is not usable.  A field that is missing, empty or out of range leaves the
message invalid, and one of a wrong type throws.  The parser asserts that its message is
valid, so a document of the first kind ends the process where assertions are compiled in.
-/

namespace UwpxPush

/-- How a field is found: it can be used, it is missing, empty or out of range, or it has a
wrong type. -/
inductive FieldState where
  | usable
  | lacking
  | mistyped
  deriving DecidableEq

/-- A value that is not null under a key is a field. -/
theorem contains_of_field {j v : Json} {key : String} (h : j.field key = v) (hv : v ≠ .null) :
  j.contains key = true
  := by
  cases j with
  | object fields =>
      rw [Json.contains, List.any_eq_true]
      by_contra hnone
      apply hv
      have hfind : fields.find? (fun f => f.1 == key) = none := by
        rw [List.find?_eq_none]
        intro f hf heq
        exact hnone ⟨f, hf, heq⟩
      rw [← h, Json.field, hfind]
      rfl
  | _ => exact (hv h.symm).elim

namespace FieldState

/-- The state of the first field that is not usable. -/
def first : List FieldState → FieldState
  | [] => usable
  | usable :: l => first l
  | s :: _ => s

/-- A field with a state for its value, which is lacking where it is missing. -/
def present (key : String) (state : Json → FieldState) (j : Json) : FieldState :=
  if j.contains key then state (j.field key) else lacking

/-- A version must be between 1 and that of the server. -/
def ofVersion (v : Json) : FieldState :=
  match v.toInt with
  | .ok version => if 1 ≤ version ∧ version ≤ AbstractMessage.VERSION then usable else lacking
  | .error _ => mistyped

def ofString : Json → FieldState
  | .string _ => usable
  | _ => mistyped

/-- A string must not be empty. -/
def ofNonEmpty : Json → FieldState
  | .string s => if s = "" then lacking else usable
  | _ => mistyped

def ofBoolean : Json → FieldState
  | .boolean _ => usable
  | _ => mistyped

/-- The fields every message has; the action has been read before. -/
def version (j : Json) : FieldState :=
  present "version" ofVersion j

/-- A field must be a string that is not empty. -/
def nonEmpty (key : String) (j : Json) : FieldState :=
  present key ofNonEmpty j

/-- The fields of a request in the order of their checks. -/
def setChannelUri (j : Json) : List FieldState :=
  [version j, nonEmpty "channel_uri" j, nonEmpty "device_id" j]

def setPushAccounts (j : Json) : List FieldState :=
  version j :: present "accounts" (fun _ => usable) j
    :: ((j.field "accounts").values.map (nonEmpty "account_id") ++ [nonEmpty "device_id" j])

def requestTestPush (j : Json) : List FieldState :=
  [version j, nonEmpty "device_id" j]

/-- The fields of an account in the order of their checks. -/
def pushAccount (j : Json) : List FieldState :=
  [nonEmpty "account_id" j, nonEmpty "node" j, nonEmpty "secret" j,
    present "success" ofBoolean j]

/-- The list of accounts is checked after its elements. -/
def successSetPushAccounts (j : Json) : List FieldState :=
  version j :: ((j.field "accounts").values.flatMap pushAccount
    ++ [if (j.field "accounts").values = [] then lacking else usable, nonEmpty "push_bare_jid" j])

/-- The text of an error may be empty. -/
def errorResponse (j : Json) : List FieldState :=
  [version j, present "error" ofString j]

/-- The fields of a response, by its status. -/
def response (j : Json) : List FieldState :=
  if (j.field "status").toInt = .ok SuccessResponseMessage.STATUS then
    if j.contains "accounts" then successSetPushAccounts j else [version j]
  else if (j.field "status").toInt = .ok ErrorResponseMessage.STATUS then
    errorResponse j
  else []

/-- The fields of a document, in the order in which they are read, by its action. -/
def fields (j : Json) : List FieldState :=
  match j.field "action" with
  | .string action =>
      if action = SetChannelUriMessage.ACTION then setChannelUri j
      else if action = SetPushAccountsMessage.ACTION then setPushAccounts j
      else if action = RequestTestPushMessage.ACTION then requestTestPush j
      else if action = AbstractResponseMessage.ACTION then response j
      else []
  | _ => []

/-! ### What is decoded -/

/-- The state of the fields that a result tells. -/
def ofResult {α : Type} : Except DecodeError α → FieldState
  | .ok _ => usable
  | .error (.rejected _) => lacking
  | .error (.thrown _) => mistyped

/-- The first field that is not usable is in the first list that has one. -/
theorem first_append (l l' : List FieldState) :
  first (l ++ l') = if first l = usable then first l' else first l
  := by
  induction l with
  | nil => rfl
  | cons s l ih =>
      cases s with
      | usable => apply ih
      | lacking => rfl
      | mistyped => rfl

section

open DecodeError

variable {α β : Type} {x : Except DecodeError α} {f : α → Except DecodeError β}
  {l k : List FieldState} {j : Json} {key label : String}

/-- One computation after another reads the fields of the first and then those of the
second. -/
theorem ofResult_bind (hx : ofResult x = first l)
    (hf : ∀ a, x = .ok a → ofResult (f a) = first k) :
  ofResult (x >>= f) = first (l ++ k)
  := by
  rw [first_append, ← hx]
  match x with
  | .ok a => apply hf a rfl
  | .error (.rejected _) => rfl
  | .error (.thrown _) => rfl

/-- A list is decoded element by element. -/
theorem ofResult_mapM {g : Json → Except DecodeError α} {state : Json → List FieldState}
    (h : ∀ j, ofResult (g j) = first (state j)) (values : List Json) :
  ofResult (values.mapM g) = first (values.flatMap state)
  := by
  induction values with
  | nil => rfl
  | cons j values ih =>
      rw [List.mapM_cons, List.flatMap_cons]
      apply ofResult_bind (h j)
      intro a _
      have hpure : first (values.flatMap state) = first (values.flatMap state ++ []) := by simp
      rw [hpure]
      apply ofResult_bind ih
      intro as _
      rfl

/-- A check of a field ends as the state of the field says. -/
theorem ofResult_require {state : Json → FieldState} {g : Json → Except DecodeError α}
    (h : ∀ v, ofResult (g v) = state v) :
  ofResult (require j key label >>= g) = first [present key state j]
  := by
  unfold require present
  split
  · simp only [Bind.bind, Except.bind]
    rw [h]
    cases state (j.field key) with
    | usable => rfl
    | lacking => rfl
    | mistyped => rfl
  · rfl

/-- So does a check that it is not empty. -/
theorem ofResult_requireNonEmpty :
  ofResult (requireNonEmpty j key label) = first [nonEmpty key j]
  := by
  apply ofResult_require
  intro v
  cases v with
  | string s =>
      by_cases hs : s = ""
      · simp only [ofNonEmpty, hs, if_true]
        rfl
      · have hconvert : convert (Json.string s).toStr = .ok s := rfl
        simp only [ofNonEmpty, hs, if_false, hconvert, Bind.bind, Except.bind]
        rfl
  | _ => rfl

/-- The version and the action of a document whose action has been read. -/
theorem ofResult_abstractMessage {action : String} (ha : j.field "action" = .string action)
    (hne : action ≠ "") :
  ofResult (AbstractMessage.fromJson j) = first [version j]
  := by
  have hcontains := contains_of_field ha (by simp)
  have haction : requireNonEmpty j "action" "action" = .ok action := by
    have hconvert : convert (Json.string action).toStr = .ok action := rfl
    simp only [requireNonEmpty, require, hcontains, if_true, ha, hconvert, hne, if_false,
      Bind.bind, Except.bind]
    rfl
  have hfrom : AbstractMessage.fromJson j = require j "version" "version" >>= fun v =>
      convert v.toInt >>= fun version =>
        if version < 1 ∨ version > AbstractMessage.VERSION then
          throw (.rejected s!"Invalid message 'version' value. Expected version >= 1 and <= {AbstractMessage.VERSION}, but received: {version}")
        else .ok ⟨version, action⟩ := by
    simp only [AbstractMessage.fromJson, requireInt, bind_assoc]
    congr 1
    funext v
    congr 1
    funext version
    split
    · rfl
    · rw [haction]
      rfl
  rw [hfrom]
  apply ofResult_require
  intro v
  unfold ofVersion
  match v.toInt with
  | .error _ => rfl
  | .ok version =>
      simp only [convert, Bind.bind, Except.bind]
      by_cases hversion : 1 ≤ version ∧ version ≤ AbstractMessage.VERSION
      · rw [if_pos hversion, if_neg (by omega)]
        rfl
      · rw [if_neg hversion, if_pos (by omega)]
        rfl

theorem ofResult_setChannelUri (ha : j.field "action" = .string SetChannelUriMessage.ACTION) :
  ofResult (SetChannelUriMessage.fromJson j) = first (setChannelUri j)
  := by
  apply ofResult_bind (ofResult_abstractMessage ha (by decide))
  intro m _
  apply ofResult_bind ofResult_requireNonEmpty
  intro channelUri _
  apply ofResult_bind (k := []) ofResult_requireNonEmpty
  intro deviceId _
  rfl

theorem ofResult_require_self :
  ofResult (require j key label) = first [present key (fun _ => usable) j]
  := by
  unfold require present
  split
  · rfl
  · rfl

theorem require_ok {v : Json} (h : require j key label = .ok v) :
  v = j.field key
  := by
  unfold require at h
  split at h
  · cases h
    rfl
  · cases h

/-- The account ids are checked one by one. -/
theorem ofResult_setPushAccounts
    (ha : j.field "action" = .string SetPushAccountsMessage.ACTION) :
  ofResult (SetPushAccountsMessage.fromJson j) = first (setPushAccounts j)
  := by
  apply ofResult_bind (ofResult_abstractMessage ha (by decide))
  intro m _
  apply ofResult_bind (k := (j.field "accounts").values.map (nonEmpty "account_id")
    ++ [nonEmpty "device_id" j]) ofResult_require_self
  intro array harray
  rw [require_ok harray, ← List.flatMap_pure_eq_map]
  apply ofResult_bind (ofResult_mapM (fun _ => ofResult_requireNonEmpty) _)
  intro accounts _
  apply ofResult_bind (k := []) ofResult_requireNonEmpty
  intro deviceId _
  rfl

theorem ofResult_requestTestPush
    (ha : j.field "action" = .string RequestTestPushMessage.ACTION) :
  ofResult (RequestTestPushMessage.fromJson j) = first (requestTestPush j)
  := by
  apply ofResult_bind (ofResult_abstractMessage ha (by decide))
  intro m _
  apply ofResult_bind (k := []) ofResult_requireNonEmpty
  intro deviceId _
  rfl

/-- An account is read where its fields are usable. -/
theorem ofResult_pushAccount (j : Json) :
  ofResult (PushAccount.fromJson j) = first (pushAccount j)
  := by
  apply ofResult_bind ofResult_requireNonEmpty
  intro accountId _
  apply ofResult_bind ofResult_requireNonEmpty
  intro node _
  apply ofResult_bind ofResult_requireNonEmpty
  intro secret _
  apply ofResult_require
  intro v
  cases v with
  | _ => rfl

/-- The status of a response has been read before. -/
theorem ofResult_abstractResponse {status : Int}
    (ha : j.field "action" = .string AbstractResponseMessage.ACTION)
    (hs : (j.field "status").toInt = .ok status) (hne : status ≠ -1) :
  ofResult (AbstractResponseMessage.fromJson j) = first [version j]
  := by
  have hcontains : j.contains "status" = true := by
    apply contains_of_field rfl
    intro hnull
    rw [hnull] at hs
    cases hs
  apply ofResult_bind (k := []) (ofResult_abstractMessage ha (by decide))
  intro m _
  have hstatus : requireInt j "status" = .ok status := by
    simp only [requireInt, require, hcontains, if_true, Bind.bind, Except.bind, hs]
    rfl
  simp only [hstatus, hne, if_false, Bind.bind, Except.bind]
  rfl

theorem ofResult_successResponse
    (ha : j.field "action" = .string AbstractResponseMessage.ACTION)
    (hs : (j.field "status").toInt = .ok SuccessResponseMessage.STATUS) :
  ofResult (SuccessResponseMessage.fromJson j) = first [version j]
  := by
  apply ofResult_bind (k := []) (ofResult_abstractResponse ha hs (by decide))
  intro m _
  rfl

/-- An empty list is read from an empty array only. -/
theorem mapM_eq_nil {g : Json → Except DecodeError α} {values : List Json} {as : List α}
    (h : values.mapM g = .ok as) :
  as = [] ↔ values = []
  := by
  cases values with
  | nil =>
      cases h
      simp
  | cons v values =>
      rw [List.mapM_cons] at h
      obtain ⟨a, -, h⟩ := Except.bind_eq_ok h
      obtain ⟨as', -, h⟩ := Except.bind_eq_ok h
      cases h
      simp

theorem ofResult_successSetPushAccounts
    (ha : j.field "action" = .string AbstractResponseMessage.ACTION)
    (hs : (j.field "status").toInt = .ok SuccessResponseMessage.STATUS)
    (hc : j.contains "accounts" = true) :
  ofResult (SuccessSetPushAccountsMessage.fromJson j) = first (successSetPushAccounts j)
  := by
  apply ofResult_bind (ofResult_successResponse ha hs)
  intro m _
  have hrequire : require j "accounts" "accounts" = .ok (j.field "accounts") := by
    simp [require, hc]
  simp only [hrequire]
  apply ofResult_bind (ofResult_mapM ofResult_pushAccount _)
  intro accounts haccounts
  by_cases hnil : accounts = []
  · rw [if_pos ((mapM_eq_nil haccounts).mp hnil), if_pos hnil]
    rfl
  · rw [if_neg (mt (mapM_eq_nil haccounts).mpr hnil), if_neg hnil]
    apply ofResult_bind (l := [nonEmpty "push_bare_jid" j]) (k := []) ofResult_requireNonEmpty
    intro pushBareJid _
    rfl

theorem ofResult_errorResponse
    (ha : j.field "action" = .string AbstractResponseMessage.ACTION)
    (hs : (j.field "status").toInt = .ok ErrorResponseMessage.STATUS) :
  ofResult (ErrorResponseMessage.fromJson j) = first (errorResponse j)
  := by
  apply ofResult_bind (ofResult_abstractResponse ha hs (by decide))
  intro m _
  apply ofResult_require
  intro v
  cases v with
  | _ => rfl

end

end FieldState

open FieldState

namespace Parser

/-- A constructor leaves a message invalid when the first field that is not usable is
lacking. -/
theorem construct_eq_invalid {α : Type} {f : α → Message} {r : Except DecodeError α} :
  Parsed.construct f r = .ok .invalid ↔ ofResult r = lacking
  := by
  match r with
  | .ok a => simp [Parsed.construct, ofResult]
  | .error (.rejected warning) => simp [Parsed.construct, ofResult]
  | .error (.thrown what) => simp [Parsed.construct, ofResult]

/-- A response is invalid where its first unusable field is lacking. -/
theorem parseResponse_eq_invalid {j : Json}
    (ha : j.field "action" = .string AbstractResponseMessage.ACTION) :
  parseResponse j = .ok .invalid ↔ first (response j) = lacking
  := by
  unfold parseResponse response
  by_cases hc : j.contains "status" = true
  · rw [if_pos hc]
    match hs : (j.field "status").toInt with
    | .error what => simp [first]
    | .ok status =>
        simp only [Except.ok.injEq]
        by_cases hsuccess : status = SuccessResponseMessage.STATUS
        · rw [if_pos hsuccess, if_pos hsuccess]
          rw [hsuccess] at hs
          split
          · next haccounts =>
              rw [construct_eq_invalid, ofResult_successSetPushAccounts ha hs haccounts]
          · rw [construct_eq_invalid, ofResult_successResponse ha hs]
        · rw [if_neg hsuccess, if_neg hsuccess]
          by_cases herror : status = ErrorResponseMessage.STATUS
          · rw [if_pos herror, if_pos herror]
            rw [herror] at hs
            rw [construct_eq_invalid, ofResult_errorResponse ha hs]
          · rw [if_neg herror, if_neg herror]
            simp [first]
  · have hnull : j.field "status" = .null := by
      by_contra hne
      exact hc (contains_of_field rfl hne)
    rw [if_neg hc, hnull]
    simp [Json.toInt, first]

/-- The message of a document is left invalid when its first field that is not usable is
lacking. -/
theorem parseAction_eq_invalid {j : Json} {action : String}
    (ha : j.field "action" = .string action) :
  parseAction action j = .ok .invalid ↔ first (fields j) = lacking
  := by
  unfold parseAction fields
  simp only [ha]
  split
  · next h => rw [construct_eq_invalid, ofResult_setChannelUri (h ▸ ha)]
  · split
    · next h => rw [construct_eq_invalid, ofResult_setPushAccounts (h ▸ ha)]
    · split
      · next h => rw [construct_eq_invalid, ofResult_requestTestPush (h ▸ ha)]
      · split
        · next h => apply parseResponse_eq_invalid (h ▸ ha)
        · simp [first]

theorem construct_eq_error {α : Type} {f : α → Message} {r : Except DecodeError α} {e : Failure}
    (h : Parsed.construct f r = .error e) :
  ∃ what, e = .exception what
  := by
  match r with
  | .ok a => cases h
  | .error (.rejected _) => cases h
  | .error (.thrown what) =>
      cases h
      exact ⟨what, rfl⟩

/-- The constructors fail by exceptions only. -/
theorem parseAction_eq_error {j : Json} {action : String} {e : Failure}
    (h : parseAction action j = .error e) :
  ∃ what, e = .exception what
  := by
  unfold parseAction at h
  split at h
  · apply construct_eq_error h
  · split at h
    · apply construct_eq_error h
    · split at h
      · apply construct_eq_error h
      · split at h
        · unfold parseResponse at h
          split at h
          · split at h
            · next what _ =>
                cases h
                exact ⟨what, rfl⟩
            · split at h
              · split at h
                · apply construct_eq_error h
                · apply construct_eq_error h
              · split at h
                · apply construct_eq_error h
                · cases h
          · cases h
        · cases h

/-- The assertion fails on a document whose message is left invalid. -/
theorem parseJson_of_lacking {j : Json} (h : first (fields j) = lacking) :
  parseJson true j = .error (.assertion "!result || result->is_valid()")
  := by
  match ha : j.field "action" with
  | .string action =>
      have hinvalid := (parseAction_eq_invalid ha).mpr h
      have hne : action ≠ "" := by
        rintro rfl
        simp only [fields, ha] at h
        cases h
      have hstr : (Json.string action).toStr = .ok action := rfl
      simp [parseJson, contains_of_field ha (by simp), ha, hstr, hne, hinvalid]
  | .null | .boolean _ | .integer _ | .float _ _ | .array _ | .object _ =>
      simp only [fields, ha] at h
      cases h

/-- Everything else is parsed, or fails by an exception. -/
theorem parseJson_of_not {debug : Bool} {j : Json}
    (h : debug = false ∨ first (fields j) ≠ lacking) :
  (∃ r, parseJson debug j = .ok r) ∨ ∃ what, parseJson debug j = .error (.exception what)
  := by
  unfold parseJson
  split
  · split
    · next what _ => exact .inr ⟨what, rfl⟩
    · next action hstr =>
        have ha : j.field "action" = .string action := by
          match hf : j.field "action" with
          | .string s =>
              rw [hf] at hstr
              cases hstr
              rfl
          | .null | .boolean _ | .integer _ | .float _ _ | .array _ | .object _ =>
              rw [hf] at hstr
              cases hstr
        split
        · exact .inl ⟨_, rfl⟩
        · split
          · next hinvalid =>
              rcases h with rfl | hne
              · exact .inl ⟨_, rfl⟩
              · exact (hne ((parseAction_eq_invalid ha).mp hinvalid)).elim
          · match hr : parseAction action j with
            | .ok r => exact .inl ⟨r, rfl⟩
            | .error e =>
                obtain ⟨what, rfl⟩ := parseAction_eq_error hr
                exact .inr ⟨what, rfl⟩
  · exact .inl ⟨_, rfl⟩

/-- The parser returns in a release build, or where the first unusable field is not lacking. -/
theorem parse_ok_of_not {platform : Platform} {s : String}
    (h : platform.debug = false ∨ ∀ j, platform.parse s = some j → first (fields j) ≠ lacking) :
  ∃ r, parse platform s = .ok r
  := by
  unfold parse
  match hs : platform.parse s with
  | none => exact ⟨.null, rfl⟩
  | some j =>
      rcases parseJson_of_not (h.imp id fun h => h j hs) with ⟨r, hr⟩ | ⟨what, hr⟩
      · exact ⟨r, by simp only [hr]⟩
      · exact ⟨.null, by simp only [hr]⟩

/-- A string is parsed without a failed assertion if and only if assertions are left out or
it is no document whose first field that is not usable is missing, empty or out of range. -/
theorem parse_ok_iff (platform : Platform) (s : String) :
  (∃ r, parse platform s = .ok r)
    ↔ platform.debug = false ∨ ∀ j, platform.parse s = some j → first (fields j) ≠ lacking
  := by
  constructor
  · rintro ⟨r, hr⟩
    by_contra hnot
    simp only [not_or, Bool.not_eq_false, not_forall, ne_eq, not_not] at hnot
    obtain ⟨hdebug, j, hs, hlacking⟩ := hnot
    rw [parse, hs] at hr
    simp only [hdebug, parseJson_of_lacking hlacking] at hr
    cases hr
  · apply parse_ok_of_not

end Parser

/-- A request for a channel URI without a version. -/
def Sample.unversioned : Json :=
  .object [("action", .string "set_channel_uri")]

/-- A platform with assertions that parses this request. -/
def Sample.parsing : Platform where
  sha256 _ _ := 0
  parse s := if s = "\x7b\"action\":\"set_channel_uri\"\x7d" then some Sample.unversioned else none
  outOfRange _ := none
  dump _ := ""
  toText _ := none
  order l := l
  order_perm l := .refl l
  debug := true

/-- A request without a version ends the process. -/
theorem not_parse_ok_unversioned :
  Sample.parsing.debug = true
    ∧ ¬∃ r, Parser.parse Sample.parsing "\x7b\"action\":\"set_channel_uri\"\x7d" = .ok r
  := by
  have h : Parser.parse Sample.parsing "\x7b\"action\":\"set_channel_uri\"\x7d"
      = .error (.assertion "!result || result->is_valid()") := by
    rfl
  use rfl
  rintro ⟨r, hr⟩
  rw [h] at hr
  cases hr

end UwpxPush
