import Mathlib.Data.List.Forall2
import UwpxPush.Tcp.RoundTrip

/-!
# The grammar of requests

`Describes` says which document is a request, and which one, once it is known how a version
and a list of accounts are written.  `Writing.strict` is the written grammar, and
`Writing.lenient` is what the conversions of the JSON library make of it.  The parser makes
the requests of the second, so it keeps to the grammar but for versions and lists of accounts
that are converted although they are none.
-/

namespace UwpxPush

/-- How the version and the list of accounts of a request are written. -/
structure Writing where
  version : Json → Int → Prop
  accounts : Json → List Json → Prop

namespace Writing

/-- A version is an integer and a list of accounts an array. -/
def strict : Writing where
  version v i := v = .integer i
  accounts v l := v = .array l

/-- A version is what is converted to `int`, and accounts are what a loop visits. -/
def lenient : Writing where
  version v i := v.toInt = .ok i
  accounts v l := v.values = l

end Writing

/-- The value is a string that is not empty. -/
def IsString (v : Json) (s : String) : Prop :=
  v = .string s ∧ s ≠ ""

/-- The document is an object with the version and the action of a message, which are a
version the server speaks and this action. -/
def Begins (writing : Writing) (j : Json) (m : AbstractMessage) (action : String) : Prop :=
  (∃ fields, j = .object fields) ∧ writing.version (j.field "version") m.version
    ∧ (m.version = 1 ∨ m.version = 2) ∧ j.field "action" = .string action ∧ m.action = action

/-- The document is the request `m`. -/
def Describes (writing : Writing) (j : Json) : Message → Prop
  | .setChannelUri m =>
      Begins writing j m.toAbstractMessage SetChannelUriMessage.ACTION
        ∧ IsString (j.field "channel_uri") m.channelUri ∧ IsString (j.field "device_id") m.deviceId
  | .setPushAccounts m =>
      Begins writing j m.toAbstractMessage SetPushAccountsMessage.ACTION
        ∧ (∃ l, j.contains "accounts" = true ∧ writing.accounts (j.field "accounts") l
          ∧ List.Forall₂ (fun v account => IsString (v.field "account_id") account) l m.accounts)
        ∧ IsString (j.field "device_id") m.deviceId
  | .requestTestPush m =>
      Begins writing j m.toAbstractMessage RequestTestPushMessage.ACTION
        ∧ IsString (j.field "device_id") m.deviceId
  | _ => False

/-- The message is a request. -/
def Message.IsRequest : Message → Prop
  | setChannelUri _ => True
  | setPushAccounts _ => True
  | requestTestPush _ => True
  | _ => False

/-! ### What the constructors accept -/

theorem Except.bind_eq_ok_iff {ε α β : Type} {x : Except ε α} {f : α → Except ε β} {b : β} :
  x >>= f = .ok b ↔ ∃ a, x = .ok a ∧ f a = .ok b
  := by
  constructor
  · apply Except.bind_eq_ok
  · rintro ⟨a, rfl, h⟩
    apply h

/-- A list is computed element by element. -/
theorem Except.mapM_eq_ok_iff {ε α β : Type} {f : α → Except ε β} {l : List α} {l' : List β} :
  l.mapM f = .ok l' ↔ List.Forall₂ (fun a b => f a = .ok b) l l'
  := by
  induction l generalizing l' with
  | nil =>
      rw [List.mapM_nil, List.forall₂_nil_left_iff]
      constructor
      · rintro ⟨⟩
        rfl
      · rintro rfl
        rfl
  | cons a l ih =>
      rw [List.mapM_cons, Except.bind_eq_ok_iff, List.forall₂_cons_left_iff]
      constructor
      · rintro ⟨b, hb, h⟩
        obtain ⟨bs, hbs, h⟩ := Except.bind_eq_ok h
        cases h
        exact ⟨b, bs, hb, ih.mp hbs, rfl⟩
      · rintro ⟨b, bs, hb, hbs, rfl⟩
        use b, hb
        rw [ih.mpr hbs]
        rfl

namespace DecodeError

variable {j : Json} {key label s : String} {i : Int}

theorem requireNonEmpty_eq_ok_iff :
  requireNonEmpty j key label = .ok s ↔ IsString (j.field key) s
  := by
  constructor
  · intro h
    obtain ⟨v, hv, hread⟩ := Except.bind_eq_ok h
    obtain rfl := FieldState.require_ok hv
    obtain ⟨t, ht, -⟩ := Except.bind_eq_ok hread
    cases hfield : j.field key with
    | string u =>
        have hu : s = u := requireNonEmpty_eq h (by rw [hfield]; rfl)
        exact ⟨by rw [hu], requireNonEmpty_ok h⟩
    | _ =>
        rw [hfield] at ht
        cases ht
  · rintro ⟨hfield, hne⟩
    apply requireNonEmpty_of hfield hne

theorem requireInt_eq_ok_iff :
  requireInt j key = .ok i ↔ (j.field key).toInt = .ok i
  := by
  constructor
  · intro h
    obtain ⟨v, hv, h⟩ := Except.bind_eq_ok h
    obtain rfl := FieldState.require_ok hv
    rcases hint : (j.field key).toInt with e | n
    · rw [hint] at h
      cases h
    · rw [hint] at h
      cases h
      rfl
  · intro h
    have hcontains : j.contains key = true := by
      apply contains_of_field rfl
      intro hnull
      rw [hnull] at h
      cases h
    rw [requireInt, require_of hcontains, ok_bind, h]
    rfl

theorem require_eq_ok_iff {v : Json} :
  require j key label = .ok v ↔ j.contains key = true ∧ j.field key = v
  := by
  unfold require
  split
  · next h => simp [h]
  · next h => simp [h]

end DecodeError

open DecodeError

variable {j : Json}

/-- A document with a field is an object. -/
theorem object_of_field {key s : String} (h : j.field key = .string s) :
  ∃ fields, j = .object fields
  := by
  cases j with
  | object fields => exact ⟨fields, rfl⟩
  | _ => cases h

theorem AbstractMessage.fromJson_eq_ok_iff {m : AbstractMessage} {action : String}
    (ha : j.field "action" = .string action) (hne : action ≠ "") :
  AbstractMessage.fromJson j = .ok m ↔ Begins .lenient j m action
  := by
  rw [AbstractMessage.fromJson, Except.bind_eq_ok_iff]
  constructor
  · rintro ⟨version, hversion, h⟩
    rw [requireInt_eq_ok_iff] at hversion
    split at h
    · cases h
    · next hrange =>
        obtain ⟨action', haction, h⟩ := Except.bind_eq_ok h
        cases h
        rw [requireNonEmpty_eq_ok_iff, IsString, ha] at haction
        obtain ⟨heq, -⟩ := haction
        cases heq
        have hone : version = 1 ∨ version = 2 := by
          unfold VERSION at hrange
          omega
        exact ⟨object_of_field ha, hversion, hone, ha, rfl⟩
  · rintro ⟨-, hversion, hrange, -, haction⟩
    use m.version, requireInt_eq_ok_iff.mpr hversion
    rw [if_neg (by unfold VERSION; omega),
      requireNonEmpty_eq_ok_iff.mpr ⟨haction ▸ ha, haction ▸ hne⟩]
    rfl

theorem SetChannelUriMessage.fromJson_eq_ok_iff {m : SetChannelUriMessage}
    (ha : j.field "action" = .string ACTION) :
  SetChannelUriMessage.fromJson j = .ok m ↔ Describes .lenient j (.setChannelUri m)
  := by
  have hbegins := fun base =>
    AbstractMessage.fromJson_eq_ok_iff (m := base) ha (by decide)
  simp only [SetChannelUriMessage.fromJson, Except.bind_eq_ok_iff, hbegins,
    requireNonEmpty_eq_ok_iff]
  constructor
  · rintro ⟨base, hbase, channelUri, huri, deviceId, hdevice, ⟨⟩⟩
    exact ⟨hbase, huri, hdevice⟩
  · rintro ⟨hbase, huri, hdevice⟩
    exact ⟨_, hbase, _, huri, _, hdevice, rfl⟩

theorem SetPushAccountsMessage.fromJson_eq_ok_iff {m : SetPushAccountsMessage}
    (ha : j.field "action" = .string ACTION) :
  SetPushAccountsMessage.fromJson j = .ok m ↔ Describes .lenient j (.setPushAccounts m)
  := by
  have hbegins := fun base =>
    AbstractMessage.fromJson_eq_ok_iff (m := base) ha (by decide)
  simp only [SetPushAccountsMessage.fromJson, Except.bind_eq_ok_iff, hbegins,
    requireNonEmpty_eq_ok_iff, require_eq_ok_iff, Except.mapM_eq_ok_iff]
  constructor
  · rintro ⟨base, hbase, v, ⟨hcontains, rfl⟩, accounts, haccounts, deviceId, hdevice, ⟨⟩⟩
    exact ⟨hbase, ⟨_, hcontains, rfl, haccounts⟩, hdevice⟩
  · rintro ⟨hbase, ⟨l, hcontains, rfl, haccounts⟩, hdevice⟩
    exact ⟨_, hbase, _, ⟨hcontains, rfl⟩, _, haccounts, _, hdevice, rfl⟩

theorem RequestTestPushMessage.fromJson_eq_ok_iff {m : RequestTestPushMessage}
    (ha : j.field "action" = .string ACTION) :
  RequestTestPushMessage.fromJson j = .ok m ↔ Describes .lenient j (.requestTestPush m)
  := by
  have hbegins := fun base =>
    AbstractMessage.fromJson_eq_ok_iff (m := base) ha (by decide)
  simp only [RequestTestPushMessage.fromJson, Except.bind_eq_ok_iff, hbegins,
    requireNonEmpty_eq_ok_iff]
  constructor
  · rintro ⟨base, hbase, deviceId, hdevice, ⟨⟩⟩
    exact ⟨hbase, hdevice⟩
  · rintro ⟨hbase, hdevice⟩
    exact ⟨_, hbase, _, hdevice, rfl⟩

/-- The responses are no requests. -/
theorem Parser.not_isRequest_of_parseResponse {m : Message}
    (h : parseResponse j = .ok (.valid m)) :
  ¬m.IsRequest
  := by
  unfold parseResponse at h
  split at h
  · split at h
    · cases h
    · split at h
      · split at h
        · obtain ⟨a, -, rfl⟩ := construct_valid h
          exact id
        · obtain ⟨a, -, rfl⟩ := construct_valid h
          exact id
      · split at h
        · obtain ⟨a, -, rfl⟩ := construct_valid h
          exact id
        · cases h
  · cases h

/-- The parser makes the requests of the lenient grammar. -/
theorem Parser.parseJson_eq_valid_iff {debug : Bool} {m : Message} (hm : m.IsRequest) :
  parseJson debug j = .ok (.valid m) ↔ Describes .lenient j m
  := by
  constructor
  · intro h
    obtain ⟨action, haction, h⟩ := parseJson_eq_valid h
    have ha : j.field "action" = .string action := by
      cases hfield : j.field "action" with
      | string s =>
          rw [hfield] at haction
          cases haction
          rfl
      | _ =>
          rw [hfield] at haction
          cases haction
    unfold parseAction at h
    split at h
    · next heq =>
        obtain ⟨a, hr, rfl⟩ := construct_valid h
        exact (SetChannelUriMessage.fromJson_eq_ok_iff (heq ▸ ha)).mp hr
    · split at h
      · next heq =>
          obtain ⟨a, hr, rfl⟩ := construct_valid h
          exact (SetPushAccountsMessage.fromJson_eq_ok_iff (heq ▸ ha)).mp hr
      · split at h
        · next heq =>
            obtain ⟨a, hr, rfl⟩ := construct_valid h
            exact (RequestTestPushMessage.fromJson_eq_ok_iff (heq ▸ ha)).mp hr
        · split at h
          · exact (not_isRequest_of_parseResponse h hm).elim
          · cases h
  · intro h
    cases m with
    | setChannelUri m =>
        obtain ⟨-, -, -, ha, -⟩ := h.1
        apply parseJson_of _ ha (by decide)
        rw [parseAction, if_pos rfl, (SetChannelUriMessage.fromJson_eq_ok_iff ha).mpr h]
        rfl
    | setPushAccounts m =>
        obtain ⟨-, -, -, ha, -⟩ := h.1
        apply parseJson_of _ ha (by decide)
        rw [parseAction, if_neg (by decide), if_pos rfl,
          (SetPushAccountsMessage.fromJson_eq_ok_iff ha).mpr h]
        rfl
    | requestTestPush m =>
        obtain ⟨-, -, -, ha, -⟩ := h.1
        apply parseJson_of _ ha (by decide)
        rw [parseAction, if_neg (by decide), if_neg (by decide), if_pos rfl,
          (RequestTestPushMessage.fromJson_eq_ok_iff ha).mpr h]
        rfl
    | _ => exact hm.elim

/-! ### Where the parser keeps to the grammar -/

/-- A version of the server. -/
def IsVersion (v : Json) : Prop :=
  v = .integer 1 ∨ v = .integer 2

/-- A value that is converted to a version of the server although it is none: `true`, a
number whose integer part is one, or an integer that is cast to one. -/
def IsDisguisedVersion : Json → Prop
  | .boolean b => b = true
  | .float m e => Json.castFloat m e = 1 ∨ Json.castFloat m e = 2
  | .integer i => (Json.castInt i = 1 ∨ Json.castInt i = 2) ∧ i ≠ 1 ∧ i ≠ 2
  | _ => False

/-- The value has an account id. -/
def IsAccount (v : Json) : Prop :=
  ∃ account, IsString (v.field "account_id") account

/-- An array of accounts. -/
def IsAccounts : Json → Prop
  | .array l => ∀ v ∈ l, IsAccount v
  | _ => False

/-- A value whose iteration yields accounts although it is no array: `null`, or an object
whose values are accounts. -/
def IsDisguisedAccounts : Json → Prop
  | .null => True
  | .object fields => ∀ f ∈ fields, IsAccount f.2
  | _ => False

/-- The document is a request but for how its version and its accounts are written. -/
def Asks (j : Json) : Prop :=
  (∃ fields, j = .object fields)
    ∧ (IsVersion (j.field "version") ∨ IsDisguisedVersion (j.field "version"))
    ∧ (∃ deviceId, IsString (j.field "device_id") deviceId)
    ∧ (j.field "action" = .string SetChannelUriMessage.ACTION
        ∧ (∃ channelUri, IsString (j.field "channel_uri") channelUri)
      ∨ j.field "action" = .string SetPushAccountsMessage.ACTION ∧ j.contains "accounts" = true
        ∧ (IsAccounts (j.field "accounts") ∨ IsDisguisedAccounts (j.field "accounts"))
      ∨ j.field "action" = .string RequestTestPushMessage.ACTION)

theorem castInt_one_or_two {i : Int} (h : i = 1 ∨ i = 2) :
  Json.castInt i = i
  := by
  apply Json.castInt_eq
  omega

/-- What is converted to a version. -/
theorem toInt_version_iff {v : Json} :
  (∃ i, v.toInt = .ok i ∧ (i = 1 ∨ i = 2)) ↔ IsVersion v ∨ IsDisguisedVersion v
  := by
  cases v with
  | integer i =>
      simp only [Json.toInt, Except.ok.injEq, exists_eq_left', IsVersion, Json.integer.injEq,
        IsDisguisedVersion]
      constructor
      · intro h
        by_cases hi : i = 1 ∨ i = 2
        · exact .inl hi
        · exact .inr ⟨h, not_or.mp hi⟩
      · rintro (h | ⟨h, -⟩)
        · rw [castInt_one_or_two h]
          apply h
        · apply h
  | float m e => simp [Json.toInt, IsVersion, IsDisguisedVersion]
  | boolean b => cases b <;> simp [Json.toInt, IsVersion, IsDisguisedVersion]
  | _ => simp [Json.toInt, IsVersion, IsDisguisedVersion]

theorem forall₂_isAccount_iff {l : List Json} :
  (∃ accounts, List.Forall₂ (fun v account => IsString (v.field "account_id") account) l accounts)
    ↔ ∀ v ∈ l, IsAccount v
  := by
  induction l with
  | nil => simp
  | cons v l ih =>
      rw [List.forall_mem_cons, ← ih]
      constructor
      · rintro ⟨accounts, h⟩
        cases h with
        | cons h hl => exact ⟨⟨_, h⟩, ⟨_, hl⟩⟩
      · rintro ⟨⟨account, h⟩, ⟨accounts, hl⟩⟩
        exact ⟨account :: accounts, .cons h hl⟩

/-- A value that has an account id is an object. -/
theorem not_isAccount {v : Json} (h : ∀ key, v.field key = .null) :
  ¬IsAccount v
  := by
  rintro ⟨account, hv, -⟩
  rw [h] at hv
  cases hv

/-- What is iterated as accounts. -/
theorem values_accounts_iff {v : Json} :
  (∀ a ∈ v.values, IsAccount a) ↔ IsAccounts v ∨ IsDisguisedAccounts v
  := by
  have hlone : ∀ a : Json, (∀ key, a.field key = .null) → ¬∀ b ∈ [a], IsAccount b := by
    intro a ha h
    apply not_isAccount ha
    apply h a List.mem_cons_self
  have hneither : ¬(False ∨ False) := not_or.mpr ⟨id, id⟩
  cases v with
  | null => simp [Json.values, IsDisguisedAccounts]
  | array l => simp [Json.values, IsAccounts, IsDisguisedAccounts]
  | object fields =>
      simp only [Json.values, List.forall_mem_map, IsAccounts, IsDisguisedAccounts, false_or]
  | boolean b => exact iff_of_false (hlone (.boolean b) fun _ => rfl) hneither
  | integer i => exact iff_of_false (hlone (.integer i) fun _ => rfl) hneither
  | float m e => exact iff_of_false (hlone (.float m e) fun _ => rfl) hneither
  | string s => exact iff_of_false (hlone (.string s) fun _ => rfl) hneither

/-- The lenient grammar describes what is a request but for its version and its accounts. -/
theorem describes_lenient_iff :
  (∃ m, m.IsRequest ∧ Describes .lenient j m) ↔ Asks j
  := by
  rw [Asks, ← toInt_version_iff, ← values_accounts_iff, ← forall₂_isAccount_iff]
  constructor
  · rintro ⟨m, hm, h⟩
    cases m with
    | setChannelUri m =>
        obtain ⟨⟨hobject, hversion, hrange, ha, -⟩, huri, hdevice⟩ := h
        exact ⟨hobject, ⟨_, hversion, hrange⟩, ⟨_, hdevice⟩, .inl ⟨ha, _, huri⟩⟩
    | setPushAccounts m =>
        obtain ⟨⟨hobject, hversion, hrange, ha, -⟩, ⟨_, hcontains, rfl, haccounts⟩, hdevice⟩ := h
        exact ⟨hobject, ⟨_, hversion, hrange⟩, ⟨_, hdevice⟩,
          .inr (.inl ⟨ha, hcontains, _, haccounts⟩)⟩
    | requestTestPush m =>
        obtain ⟨⟨hobject, hversion, hrange, ha, -⟩, hdevice⟩ := h
        exact ⟨hobject, ⟨_, hversion, hrange⟩, ⟨_, hdevice⟩, .inr (.inr ha)⟩
    | _ => exact hm.elim
  · rintro ⟨hobject, ⟨version, hversion, hrange⟩, ⟨deviceId, hdevice⟩,
      ⟨ha, channelUri, huri⟩ | ⟨ha, hcontains, accounts, haccounts⟩ | ha⟩
    · exact ⟨.setChannelUri ⟨⟨version, _⟩, channelUri, deviceId⟩, trivial,
        ⟨hobject, hversion, hrange, ha, rfl⟩, huri, hdevice⟩
    · exact ⟨.setPushAccounts ⟨⟨version, _⟩, accounts, deviceId⟩, trivial,
        ⟨hobject, hversion, hrange, ha, rfl⟩, ⟨_, hcontains, rfl, haccounts⟩, hdevice⟩
    · exact ⟨.requestTestPush ⟨⟨version, _⟩, deviceId⟩, trivial,
        ⟨hobject, hversion, hrange, ha, rfl⟩, hdevice⟩

/-- The beginnings of the two grammars differ in the version. -/
theorem begins_strict_iff {m : AbstractMessage} {action : String} :
  Begins .strict j m action ↔ Begins .lenient j m action ∧ IsVersion (j.field "version")
  := by
  constructor
  · rintro ⟨hobject, hversion, hrange, haction⟩
    have hinteger : j.field "version" = .integer m.version := hversion
    constructor
    · use hobject
      constructor
      · change (j.field "version").toInt = .ok m.version
        rw [hinteger, Json.toInt, castInt_one_or_two hrange]
      · exact ⟨hrange, haction⟩
    · rw [IsVersion, hinteger]
      rcases hrange with hone | htwo
      · rw [hone]
        exact .inl rfl
      · rw [htwo]
        exact .inr rfl
  · rintro ⟨⟨hobject, hversion, hrange, haction⟩, hinteger⟩
    use hobject
    constructor
    · have hcast : (j.field "version").toInt = .ok m.version := hversion
      change j.field "version" = .integer m.version
      rcases hinteger with hone | htwo
      · rw [hone, Json.toInt, castInt_one_or_two (.inl rfl)] at hcast
        rw [hone, Except.ok.inj hcast]
      · rw [htwo, Json.toInt, castInt_one_or_two (.inr rfl)] at hcast
        rw [htwo, Except.ok.inj hcast]
    · exact ⟨hrange, haction⟩

/-- The grammars differ in the version and the accounts. -/
theorem describes_strict_iff {m : Message} :
  Describes .strict j m ↔ Describes .lenient j m ∧ IsVersion (j.field "version")
    ∧ (j.field "action" = .string SetPushAccountsMessage.ACTION → IsAccounts (j.field "accounts"))
  := by
  cases m with
  | setChannelUri m =>
      rw [Describes, Describes, begins_strict_iff]
      constructor
      · rintro ⟨⟨hbegins, hversion⟩, hfields⟩
        refine ⟨⟨hbegins, hfields⟩, hversion, ?_⟩
        intro haccounts
        exact absurd (Json.string.inj (hbegins.2.2.2.1.symm.trans haccounts)) (by decide)
      · rintro ⟨⟨hbegins, hfields⟩, hversion, -⟩
        exact ⟨⟨hbegins, hversion⟩, hfields⟩
  | setPushAccounts m =>
      rw [Describes, Describes, begins_strict_iff]
      constructor
      · rintro ⟨⟨hbegins, hversion⟩, ⟨l, hcontains, harray, haccounts⟩, hdevice⟩
        have heq : j.field "accounts" = .array l := harray
        refine ⟨⟨hbegins, ⟨l, hcontains, ?_, haccounts⟩, hdevice⟩, hversion, ?_⟩
        · change (j.field "accounts").values = l
          rw [heq, Json.values]
        · intro _
          rw [heq]
          apply forall₂_isAccount_iff.mp ⟨_, haccounts⟩
      · rintro ⟨⟨hbegins, ⟨l, hcontains, hvalues, haccounts⟩, hdevice⟩, hversion, harray⟩
        have hl : (j.field "accounts").values = l := hvalues
        refine ⟨⟨hbegins, hversion⟩, ⟨l, hcontains, ?_, haccounts⟩, hdevice⟩
        change j.field "accounts" = .array l
        have hisarray := harray hbegins.2.2.2.1
        cases hfield : j.field "accounts" with
        | array l' =>
            rw [hfield] at hl
            exact congrArg _ hl
        | _ =>
            rw [hfield] at hisarray
            exact hisarray.elim
  | requestTestPush m =>
      rw [Describes, Describes, begins_strict_iff]
      constructor
      · rintro ⟨⟨hbegins, hversion⟩, hfields⟩
        refine ⟨⟨hbegins, hfields⟩, hversion, ?_⟩
        intro haccounts
        exact absurd (Json.string.inj (hbegins.2.2.2.1.symm.trans haccounts)) (by decide)
      · rintro ⟨⟨hbegins, hfields⟩, hversion, -⟩
        exact ⟨⟨hbegins, hversion⟩, hfields⟩
  | _ => exact ⟨False.elim, fun h => h.1⟩

/-- The parser makes the requests of the written grammar from a document, and no others, if
and only if the document, where it is a request but for its version and its accounts, has the
integer 1 or 2 as its version and an array as its accounts. -/
theorem parsesRequests_iff (debug : Bool) (j : Json) :
  (∀ m, m.IsRequest → (Parser.parseJson debug j = .ok (.valid m) ↔ Describes .strict j m))
    ↔ (Asks j → IsVersion (j.field "version")
      ∧ (j.field "action" = .string SetPushAccountsMessage.ACTION →
        IsAccounts (j.field "accounts")))
  := by
  constructor
  · intro h hasks
    obtain ⟨m, hm, hdescribes⟩ := describes_lenient_iff.mpr hasks
    have hstrict := (h m hm).mp ((Parser.parseJson_eq_valid_iff hm).mpr hdescribes)
    exact (describes_strict_iff.mp hstrict).2
  · intro h m hm
    rw [Parser.parseJson_eq_valid_iff hm, describes_strict_iff]
    constructor
    · intro hdescribes
      exact ⟨hdescribes, h (describes_lenient_iff.mp ⟨m, hm, hdescribes⟩)⟩
    · intro hdescribes
      apply hdescribes.1

/-- A request with the version `2 ^ 32 + 1`. -/
def Sample.disguised : Json :=
  .object [("action", .string "request_test_push"), ("device_id", .string "phone"),
    ("version", .integer (2 ^ 32 + 1))]

/-- The request is taken for one with the version 1, which it does not have. -/
theorem not_parsesRequests_disguised :
  Parser.parseJson true Sample.disguised
      = .ok (.valid (.requestTestPush ⟨⟨1, "request_test_push"⟩, "phone"⟩))
    ∧ ¬∀ m, m.IsRequest →
      (Parser.parseJson true Sample.disguised = .ok (.valid m) ↔ Describes .strict Sample.disguised m)
  := by
  have hparse : Parser.parseJson true Sample.disguised
      = .ok (.valid (.requestTestPush ⟨⟨1, "request_test_push"⟩, "phone"⟩)) := by
    rfl
  use hparse
  intro h
  have hversion := (describes_strict_iff.mp ((h (.requestTestPush _) trivial).mp hparse)).2.1
  rcases hversion with hone | htwo
  · cases hone
  · cases htwo

end UwpxPush
