import UwpxPush.Tcp.Fields

/-!
# Round trips of messages

A message that the parser makes, or that is made for sending from strings that are not empty,
is `WellFormed`, and a well-formed message is read back from the document it is written
into.  The notifications are read back by their own constructors.
-/

namespace Json

/-! ### Fields that are set -/

/-- A field that is inserted is found under its key, and the others stay. -/
theorem find?_insertField (key key' : String) (v : Json) (fields : List (String × Json)) :
  (insertField key v fields).find? (fun f => f.1 == key')
    = if key' = key then some (key, v) else fields.find? (fun f => f.1 == key')
  := by
  induction fields with
  | nil =>
      by_cases h : key' = key
      · simp [insertField, h]
      · simp [insertField, h, Ne.symm h]
  | cons f fields ih =>
      unfold insertField
      split
      · by_cases h : key' = key
        · simp [h]
        · simp [h, Ne.symm h]
      · split
        · next heq =>
            by_cases h : key' = key
            · simp [h]
            · have hf : (f.1 == key') = false := by
                rw [beq_eq_false_iff_ne, ← heq]
                apply Ne.symm h
              simp [h, Ne.symm h, hf]
        · next hne =>
            rw [List.find?_cons, List.find?_cons, ih]
            by_cases h : key' = key
            · have hf : (f.1 == key) = false := by
                rw [beq_eq_false_iff_ne]
                apply Ne.symm hne
              simp [h, hf]
            · simp [h]

/-- A field reads as it was set. -/
theorem field_set (key key' : String) (v j : Json) :
  (j.set key v).field key' = if key' = key then v else j.field key'
  := by
  cases j with
  | object fields =>
      simp only [set, field, find?_insertField]
      split
      · rfl
      · rfl
  | _ =>
      by_cases h : key' = key
      · simp [set, field, h]
      · simp [set, field, h, Ne.symm h]

/-- An object has the keys that were set. -/
theorem contains_set (key key' : String) (v j : Json) :
  (j.set key v).contains key' = (key' = key || j.contains key')
  := by
  cases j with
  | object fields =>
      simp only [set, contains, ← List.isSome_find?, find?_insertField]
      split
      · next h => simp [h]
      · next h => simp [h]
  | _ =>
      by_cases h : key' = key
      · simp [set, contains, h]
      · simp [set, contains, h, Ne.symm h]

/-- A cast keeps what is an `int`. -/
theorem castInt_eq {i : Int} (h : -2 ^ 31 ≤ i ∧ i < 2 ^ 31) :
  castInt i = i
  := by
  rw [castInt, Int.bmod_eq_of_le]
  · omega
  · omega

/-- A number is read into 32 bits. -/
theorem castInt_bounds (i : Int) :
  -2 ^ 31 ≤ castInt i ∧ castInt i < 2 ^ 31
  := by
  have hlow := Int.le_bmod (x := i) (m := 2 ^ 32) (by decide)
  have hhigh := Int.bmod_lt (x := i) (m := 2 ^ 32) (by decide)
  rw [castInt]
  omega

/-- Every number that is read is an `int`. -/
theorem toInt_bounds {j : Json} {i : Int} (h : j.toInt = .ok i) :
  -2 ^ 31 ≤ i ∧ i < 2 ^ 31
  := by
  cases j with
  | integer n =>
      cases h
      apply castInt_bounds
  | float m e =>
      cases h
      unfold castFloat
      simp only
      split
      · next hi => apply hi
      · omega
  | boolean b =>
      cases h
      cases b with
      | true => decide
      | false => decide
  | _ => cases h

end Json

namespace UwpxPush

/-! ### Well-formed messages -/

/-- What holds of a response or a request besides what the parser guarantees of every
message. -/
def Message.WellFormed : Message → Prop
  | successResponse m =>
      (successResponse m).Valid ∧ m.status = SuccessResponseMessage.STATUS
  | successSetPushAccounts m =>
      (successSetPushAccounts m).Valid ∧ m.status = SuccessResponseMessage.STATUS
        ∧ m.accounts ≠ []
        ∧ (∀ a ∈ m.accounts, a.accountId ≠ "" ∧ a.node ≠ "" ∧ a.secret ≠ "")
        ∧ m.pushBareJid ≠ ""
  | errorResponse m => (errorResponse m).Valid ∧ m.status = ErrorResponseMessage.STATUS
  | m => m.Valid

namespace DecodeError

variable {j : Json} {key label s : String} {i : Int}

theorem require_of (h : j.contains key = true) :
  require j key label = .ok (j.field key)
  := by
  rw [require, if_pos h]

/-- A string under a key is read when it is not empty. -/
theorem requireNonEmpty_of (h : j.field key = .string s) (hs : s ≠ "") :
  requireNonEmpty j key label = .ok s
  := by
  rw [requireNonEmpty, require_of (contains_of_field h (by simp)), h]
  simp only [Json.toStr, convert, Bind.bind, Except.bind, if_neg hs]
  rfl

/-- An integer under a key is read when it is an `int`. -/
theorem requireInt_of (h : j.field key = .integer i) (hi : -2 ^ 31 ≤ i ∧ i < 2 ^ 31) :
  requireInt j key = .ok i
  := by
  rw [requireInt, require_of (contains_of_field h (by simp)), h]
  simp only [Json.toInt, Json.castInt_eq hi, convert, Bind.bind, Except.bind]

end DecodeError

open DecodeError

variable {j : Json}

/-- The version and the action are read back. -/
theorem AbstractMessage.fromJson_of {m : AbstractMessage} (h : m.Valid) (ha : m.action ≠ "")
    (hversion : j.field "version" = .integer m.version)
    (haction : j.field "action" = .string m.action) :
  AbstractMessage.fromJson j = .ok m
  := by
  obtain ⟨hlow, hhigh⟩ := h
  unfold VERSION at hhigh
  rw [fromJson, requireInt_of hversion (by omega)]
  simp only [Bind.bind, Except.bind]
  rw [if_neg (by unfold VERSION; omega)]
  simp only [requireNonEmpty_of haction ha]
  rfl

theorem ok_bind {α β : Type} (a : α) (f : α → Except DecodeError β) :
  (Except.ok a >>= f) = f a
  := rfl

/-- A valid request is read back as it was written. -/
theorem SetChannelUriMessage.fromJson_toJson {m : SetChannelUriMessage}
    (h : (Message.setChannelUri m).Valid) :
  SetChannelUriMessage.fromJson (m.toJson .null) = .ok m
  := by
  obtain ⟨hvalid, haction, huri, hdevice⟩ := h
  rw [fromJson, AbstractMessage.fromJson_of hvalid, ok_bind, requireNonEmpty_of _ huri, ok_bind,
    requireNonEmpty_of _ hdevice, ok_bind]
  · rfl
  · simp [toJson, Json.field_set]
  · simp [toJson, Json.field_set]
  · rw [haction]
    decide
  · simp [toJson, AbstractMessage.toJson, Json.field_set]
  · simp [toJson, AbstractMessage.toJson, Json.field_set]

/-- The account ids are read back in their order. -/
theorem mapM_accountId {accounts : List String} (h : ∀ account ∈ accounts, account ≠ "") :
  (accounts.map fun account => Json.null.set "account_id" (.string account)).mapM
      (fun accountJson => requireNonEmpty accountJson "account_id" "accountId")
    = .ok accounts
  := by
  induction accounts with
  | nil => rfl
  | cons account accounts ih =>
      rw [List.map_cons, List.mapM_cons, requireNonEmpty_of _ (h account List.mem_cons_self),
        ok_bind, ih fun a ha => h a (List.mem_cons_of_mem account ha), ok_bind]
      · rfl
      · simp [Json.field_set]

theorem SetPushAccountsMessage.fromJson_toJson {m : SetPushAccountsMessage}
    (h : (Message.setPushAccounts m).Valid) :
  SetPushAccountsMessage.fromJson (m.toJson .null) = .ok m
  := by
  obtain ⟨hvalid, haction, haccounts, hdevice⟩ := h
  have harray : (m.toJson .null).field "accounts" = .array
      (m.accounts.map fun account => Json.null.set "account_id" (.string account)) := by
    simp [toJson, Json.field_set]
  rw [fromJson, AbstractMessage.fromJson_of hvalid, ok_bind, require_of, ok_bind, harray,
    Json.values, mapM_accountId haccounts, ok_bind, requireNonEmpty_of _ hdevice, ok_bind]
  · rfl
  · simp [toJson, Json.field_set]
  · simp [toJson, Json.contains_set]
  · rw [haction]
    decide
  · simp [toJson, AbstractMessage.toJson, Json.field_set]
  · simp [toJson, AbstractMessage.toJson, Json.field_set]

theorem RequestTestPushMessage.fromJson_toJson {m : RequestTestPushMessage}
    (h : (Message.requestTestPush m).Valid) :
  RequestTestPushMessage.fromJson (m.toJson .null) = .ok m
  := by
  obtain ⟨hvalid, haction, hdevice⟩ := h
  rw [fromJson, AbstractMessage.fromJson_of hvalid, ok_bind, requireNonEmpty_of _ hdevice,
    ok_bind]
  · rfl
  · simp [toJson, Json.field_set]
  · rw [haction]
    decide
  · simp [toJson, AbstractMessage.toJson, Json.field_set]
  · simp [toJson, AbstractMessage.toJson, Json.field_set]

/-- The version, the action and the status are read back. -/
theorem AbstractResponseMessage.fromJson_of {m : AbstractResponseMessage}
    (h : m.toAbstractMessage.Valid) (ha : m.action ≠ "")
    (hs : -1 < m.status ∧ m.status < 2 ^ 31)
    (hversion : j.field "version" = .integer m.version)
    (haction : j.field "action" = .string m.action)
    (hstatus : j.field "status" = .integer m.status) :
  AbstractResponseMessage.fromJson j = .ok m
  := by
  rw [fromJson, AbstractMessage.fromJson_of h ha hversion haction, ok_bind,
    requireInt_of hstatus (by omega), ok_bind, if_neg (by omega)]
  rfl

/-- A response is read back as it was written. -/
theorem ErrorResponseMessage.fromJson_toJson {m : ErrorResponseMessage}
    (h : (Message.errorResponse m).WellFormed) :
  ErrorResponseMessage.fromJson (m.toJson .null) = .ok m
  := by
  obtain ⟨⟨hvalid, haction⟩, hstatus⟩ := h
  have herror : (m.toJson .null).field "error" = .string m.error := by
    simp [toJson, Json.field_set]
  rw [fromJson, AbstractResponseMessage.fromJson_of hvalid, ok_bind, require_of, ok_bind, herror]
  · rfl
  · simp [toJson, Json.contains_set]
  · rw [haction]
    decide
  · rw [hstatus]
    decide
  · simp [toJson, AbstractResponseMessage.toJson, AbstractMessage.toJson, Json.field_set]
  · simp [toJson, AbstractResponseMessage.toJson, AbstractMessage.toJson, Json.field_set]
  · simp [toJson, AbstractResponseMessage.toJson, Json.field_set]

theorem SuccessResponseMessage.fromJson_of {m : SuccessResponseMessage}
    (h : m.toAbstractMessage.Valid ∧ m.action = AbstractResponseMessage.ACTION)
    (hs : m.status = SuccessResponseMessage.STATUS)
    (hversion : j.field "version" = .integer m.version)
    (haction : j.field "action" = .string m.action)
    (hstatus : j.field "status" = .integer m.status) :
  SuccessResponseMessage.fromJson j = .ok m
  := by
  rw [fromJson, AbstractResponseMessage.fromJson_of h.1 _ _ hversion haction hstatus, ok_bind]
  · rfl
  · rw [h.2]
    decide
  · rw [hs]
    decide

theorem SuccessResponseMessage.fromJson_toJson {m : SuccessResponseMessage}
    (h : (Message.successResponse m).WellFormed) :
  SuccessResponseMessage.fromJson (m.toJson .null) = .ok m
  := by
  apply fromJson_of h.1 h.2
  · simp [toJson, AbstractResponseMessage.toJson, AbstractMessage.toJson, Json.field_set]
  · simp [toJson, AbstractResponseMessage.toJson, AbstractMessage.toJson, Json.field_set]
  · simp [toJson, AbstractResponseMessage.toJson, Json.field_set]

/-- An account whose fields are not empty is read back as it was written. -/
theorem PushAccount.fromJson_toJson {a : PushAccount}
    (h : a.accountId ≠ "" ∧ a.node ≠ "" ∧ a.secret ≠ "") :
  PushAccount.fromJson (a.toJson .null) = .ok a
  := by
  have hsuccess : (a.toJson .null).field "success" = .boolean a.success := by
    simp [toJson, Json.field_set]
  rw [fromJson, requireNonEmpty_of _ h.1, ok_bind, requireNonEmpty_of _ h.2.1, ok_bind,
    requireNonEmpty_of _ h.2.2, ok_bind, require_of, ok_bind, hsuccess]
  · rfl
  · simp [toJson, Json.contains_set]
  · simp [toJson, Json.field_set]
  · simp [toJson, Json.field_set]
  · simp [toJson, Json.field_set]

/-- The accounts of a response are read back in their order. -/
theorem mapM_pushAccount {accounts : List PushAccount}
    (h : ∀ a ∈ accounts, a.accountId ≠ "" ∧ a.node ≠ "" ∧ a.secret ≠ "") :
  (accounts.map fun account => account.toJson .null).mapM PushAccount.fromJson = .ok accounts
  := by
  induction accounts with
  | nil => rfl
  | cons account accounts ih =>
      rw [List.map_cons, List.mapM_cons,
        PushAccount.fromJson_toJson (h account List.mem_cons_self), ok_bind,
        ih fun a ha => h a (List.mem_cons_of_mem account ha), ok_bind]
      rfl

/-- A response with accounts is read back as it was written. -/
theorem SuccessSetPushAccountsMessage.fromJson_toJson {m : SuccessSetPushAccountsMessage}
    (h : (Message.successSetPushAccounts m).WellFormed) :
  SuccessSetPushAccountsMessage.fromJson (m.toJson .null) = .ok m
  := by
  obtain ⟨hvalid, hstatus, hne, haccounts, hjid⟩ := h
  have harray : (m.toJson .null).field "accounts"
      = .array (m.accounts.map fun account => account.toJson .null) := by
    simp [toJson, Json.field_set]
  rw [fromJson, SuccessResponseMessage.fromJson_of hvalid hstatus, ok_bind, require_of, ok_bind,
    harray, Json.values, mapM_pushAccount haccounts, ok_bind, if_neg hne,
    requireNonEmpty_of _ hjid, ok_bind]
  · rfl
  · simp [toJson, Json.field_set]
  · simp [toJson, Json.contains_set]
  · simp [toJson, SuccessResponseMessage.toJson, AbstractResponseMessage.toJson,
      AbstractMessage.toJson, Json.field_set]
  · simp [toJson, SuccessResponseMessage.toJson, AbstractResponseMessage.toJson,
      AbstractMessage.toJson, Json.field_set]
  · simp [toJson, SuccessResponseMessage.toJson, AbstractResponseMessage.toJson, Json.field_set]

/-! ### What the parser makes -/

theorem AbstractResponseMessage.status_of_fromJson {m : AbstractResponseMessage}
    (h : AbstractResponseMessage.fromJson j = .ok m) {status : Int}
    (hs : (j.field "status").toInt = .ok status) :
  m.status = status
  := by
  obtain ⟨base, -, h⟩ := Except.bind_eq_ok h
  obtain ⟨status', hstatus, h⟩ := Except.bind_eq_ok h
  obtain ⟨v, hv, hint⟩ := Except.bind_eq_ok hstatus
  rw [FieldState.require_ok hv, hs] at hint
  cases hint
  split at h
  · cases h
  · cases h
    rfl

/-- The fields of an account that was read are not empty. -/
theorem PushAccount.of_fromJson {a : PushAccount} (h : PushAccount.fromJson j = .ok a) :
  a.accountId ≠ "" ∧ a.node ≠ "" ∧ a.secret ≠ ""
  := by
  obtain ⟨accountId, hid, h⟩ := Except.bind_eq_ok h
  obtain ⟨node, hnode, h⟩ := Except.bind_eq_ok h
  obtain ⟨secret, hsecret, h⟩ := Except.bind_eq_ok h
  obtain ⟨v, -, h⟩ := Except.bind_eq_ok h
  obtain ⟨success, -, h⟩ := Except.bind_eq_ok h
  cases h
  exact ⟨requireNonEmpty_ok hid, requireNonEmpty_ok hnode, requireNonEmpty_ok hsecret⟩

theorem of_mapM_pushAccount {values : List Json} {accounts : List PushAccount}
    (h : values.mapM PushAccount.fromJson = .ok accounts) :
  ∀ a ∈ accounts, a.accountId ≠ "" ∧ a.node ≠ "" ∧ a.secret ≠ ""
  := by
  induction values generalizing accounts with
  | nil =>
      cases h
      simp
  | cons v values ih =>
      rw [List.mapM_cons] at h
      obtain ⟨a, ha, h⟩ := Except.bind_eq_ok h
      obtain ⟨as, has, h⟩ := Except.bind_eq_ok h
      cases h
      intro b hb
      rcases List.mem_cons.mp hb with rfl | hb
      · apply PushAccount.of_fromJson ha
      · apply ih has b hb

/-- A response with accounts that was read has at least one. -/
theorem SuccessSetPushAccountsMessage.of_fromJson {m : SuccessSetPushAccountsMessage}
    (h : SuccessSetPushAccountsMessage.fromJson j = .ok m)
    (hs : (j.field "status").toInt = .ok SuccessResponseMessage.STATUS) :
  m.status = SuccessResponseMessage.STATUS ∧ m.accounts ≠ []
    ∧ (∀ a ∈ m.accounts, a.accountId ≠ "" ∧ a.node ≠ "" ∧ a.secret ≠ "") ∧ m.pushBareJid ≠ ""
  := by
  obtain ⟨base, hbase, h⟩ := Except.bind_eq_ok h
  obtain ⟨response, hresponse, hr⟩ := Except.bind_eq_ok hbase
  cases hr
  obtain ⟨array, -, h⟩ := Except.bind_eq_ok h
  obtain ⟨accounts, haccounts, h⟩ := Except.bind_eq_ok h
  split at h
  · cases h
  · next hne =>
      obtain ⟨pushBareJid, hjid, h⟩ := Except.bind_eq_ok h
      cases h
      exact ⟨AbstractResponseMessage.status_of_fromJson hresponse hs, hne,
        of_mapM_pushAccount haccounts, requireNonEmpty_ok hjid⟩

namespace Parser

/-- A response that was read can be written and read back. -/
theorem parseResponse_wellFormed {m : Message} (h : parseResponse j = .ok (.valid m))
    (hvalid : m.Valid) :
  m.WellFormed
  := by
  unfold parseResponse at h
  split at h
  · split at h
    · cases h
    · next status hs =>
        split at h
        · next hsuccess =>
            rw [hsuccess] at hs
            split at h
            · obtain ⟨a, ha, rfl⟩ := construct_valid h
              exact ⟨hvalid, SuccessSetPushAccountsMessage.of_fromJson ha hs⟩
            · obtain ⟨a, ha, rfl⟩ := construct_valid h
              obtain ⟨response, hresponse, hr⟩ := Except.bind_eq_ok ha
              cases hr
              exact ⟨hvalid, AbstractResponseMessage.status_of_fromJson hresponse hs⟩
        · split at h
          · next herror =>
              rw [herror] at hs
              obtain ⟨a, ha, rfl⟩ := construct_valid h
              obtain ⟨response, hresponse, hr⟩ := Except.bind_eq_ok ha
              obtain ⟨v, -, hr⟩ := Except.bind_eq_ok hr
              obtain ⟨error, -, hr⟩ := Except.bind_eq_ok hr
              cases hr
              exact ⟨hvalid, AbstractResponseMessage.status_of_fromJson hresponse hs⟩
          · cases h
  · cases h

/-- Every message the parser makes is well formed. -/
theorem parse_wellFormed {platform : Platform} {s : String} {m : Message}
    (h : parse platform s = .ok (.valid m)) :
  m.WellFormed
  := by
  have hvalid := parse_valid h
  obtain ⟨j, action, -, haction, hm⟩ := parse_eq_valid h
  unfold parseAction at hm
  split at hm
  · obtain ⟨a, ha, rfl⟩ := construct_valid hm
    apply hvalid
  · split at hm
    · obtain ⟨a, ha, rfl⟩ := construct_valid hm
      apply hvalid
    · split at hm
      · obtain ⟨a, ha, rfl⟩ := construct_valid hm
        apply hvalid
      · split at hm
        · apply parseResponse_wellFormed hm hvalid
        · cases hm

/-! ### What the parser reads back -/

/-- A message is parsed where the parser of its action reads it. -/
theorem parseJson_of {debug : Bool} {m : Message} (action : String)
    (ha : j.field "action" = .string action) (hne : action ≠ "")
    (hm : parseAction action j = .ok (.valid m)) :
  parseJson debug j = .ok (.valid m)
  := by
  have hstr : (Json.string action).toStr = .ok action := rfl
  simp [parseJson, contains_of_field ha (by simp), ha, hstr, hne, hm]

theorem parseAction_response :
  parseAction AbstractResponseMessage.ACTION j = parseResponse j
  := by
  rw [parseAction, if_neg (by decide), if_neg (by decide), if_neg (by decide), if_pos rfl]

/-- A response of a known status is told apart by that status. -/
theorem parseResponse_of {status : Int} (hs : j.field "status" = .integer status)
    (hb : -2 ^ 31 ≤ status ∧ status < 2 ^ 31) :
  parseResponse j = if status = SuccessResponseMessage.STATUS then
      if j.contains "accounts" then
        Parsed.construct .successSetPushAccounts (SuccessSetPushAccountsMessage.fromJson j)
      else Parsed.construct .successResponse (SuccessResponseMessage.fromJson j)
    else if status = ErrorResponseMessage.STATUS then
      Parsed.construct .errorResponse (ErrorResponseMessage.fromJson j)
    else .ok .null
  := by
  have hint : (Json.integer status).toInt = .ok status := by
    rw [Json.toInt, Json.castInt_eq hb]
  simp only [parseResponse, contains_of_field hs (by simp), if_true, hs, hint]

/-- A response is parsed where the parser of its status reads it. -/
theorem parseJson_response {debug : Bool} {m : Message} {status : Int}
    (ha : j.field "action" = .string AbstractResponseMessage.ACTION)
    (hs : j.field "status" = .integer status) (hb : -2 ^ 31 ≤ status ∧ status < 2 ^ 31)
    (hm : (if status = SuccessResponseMessage.STATUS then
        if j.contains "accounts" then
          Parsed.construct .successSetPushAccounts (SuccessSetPushAccountsMessage.fromJson j)
        else Parsed.construct .successResponse (SuccessResponseMessage.fromJson j)
      else if status = ErrorResponseMessage.STATUS then
        Parsed.construct .errorResponse (ErrorResponseMessage.fromJson j)
      else .ok .null) = .ok (.valid m)) :
  parseJson debug j = .ok (.valid m)
  := by
  apply parseJson_of _ ha (by decide)
  rw [parseAction_response, parseResponse_of hs hb, hm]

/-- A well-formed message is read back from its document. -/
theorem parseJson_toJson {m : Message} (h : m.WellFormed) (debug : Bool) :
  parseJson debug m.toJson = .ok (.valid m)
  := by
  cases m with
  | setChannelUri m =>
      apply parseJson_of SetChannelUriMessage.ACTION
      · rw [← h.2.1]
        simp [Message.toJson, SetChannelUriMessage.toJson, AbstractMessage.toJson, Json.field_set]
      · decide
      · rw [parseAction, if_pos rfl, Message.toJson, SetChannelUriMessage.fromJson_toJson h]
        rfl
  | setPushAccounts m =>
      apply parseJson_of SetPushAccountsMessage.ACTION
      · rw [← h.2.1]
        simp [Message.toJson, SetPushAccountsMessage.toJson, AbstractMessage.toJson,
          Json.field_set]
      · decide
      · rw [parseAction, if_neg (by decide), if_pos rfl, Message.toJson,
          SetPushAccountsMessage.fromJson_toJson h]
        rfl
  | requestTestPush m =>
      apply parseJson_of RequestTestPushMessage.ACTION
      · rw [← h.2.1]
        simp [Message.toJson, RequestTestPushMessage.toJson, AbstractMessage.toJson,
          Json.field_set]
      · decide
      · rw [parseAction, if_neg (by decide), if_neg (by decide), if_pos rfl, Message.toJson,
          RequestTestPushMessage.fromJson_toJson h]
        rfl
  | successResponse m =>
      have hread := SuccessResponseMessage.fromJson_toJson h
      obtain ⟨⟨-, haction⟩, hstatus⟩ := h
      have hs : (m.toJson .null).field "status" = .integer m.status := by
        simp [SuccessResponseMessage.toJson, AbstractResponseMessage.toJson, Json.field_set]
      have haccounts : (m.toJson .null).contains "accounts" = false := by
        simp only [SuccessResponseMessage.toJson, AbstractResponseMessage.toJson,
          AbstractMessage.toJson, Json.contains_set]
        rfl
      apply parseJson_response _ hs
      · rw [hstatus]
        decide
      · rw [if_pos hstatus, haccounts, hread]
        rfl
      · rw [← haction]
        simp [SuccessResponseMessage.toJson, AbstractResponseMessage.toJson,
          AbstractMessage.toJson, Json.field_set]
  | successSetPushAccounts m =>
      have hread := SuccessSetPushAccountsMessage.fromJson_toJson h
      obtain ⟨⟨-, haction⟩, hstatus, -⟩ := h
      have hs : (m.toJson .null).field "status" = .integer m.status := by
        simp [SuccessSetPushAccountsMessage.toJson, SuccessResponseMessage.toJson,
          AbstractResponseMessage.toJson, Json.field_set]
      have haccounts : (m.toJson .null).contains "accounts" = true := by
        simp [SuccessSetPushAccountsMessage.toJson, Json.contains_set]
      apply parseJson_response _ hs
      · rw [hstatus]
        decide
      · rw [if_pos hstatus, if_pos haccounts, hread]
        rfl
      · rw [← haction]
        simp [SuccessSetPushAccountsMessage.toJson, SuccessResponseMessage.toJson,
          AbstractResponseMessage.toJson, AbstractMessage.toJson, Json.field_set]
  | errorResponse m =>
      have hread := ErrorResponseMessage.fromJson_toJson h
      obtain ⟨⟨-, haction⟩, hstatus⟩ := h
      have hs : (m.toJson .null).field "status" = .integer m.status := by
        simp [ErrorResponseMessage.toJson, AbstractResponseMessage.toJson, Json.field_set]
      apply parseJson_response _ hs
      · rw [hstatus]
        decide
      · rw [if_neg (by rw [hstatus]; decide), if_pos hstatus, hread]
        rfl
      · rw [← haction]
        simp [ErrorResponseMessage.toJson, AbstractResponseMessage.toJson,
          AbstractMessage.toJson, Json.field_set]

theorem parse_of_parseJson {platform : Platform} {s : String} {m : Message}
    (hs : platform.parse s = some j) (hm : parseJson platform.debug j = .ok (.valid m)) :
  parse platform s = .ok (.valid m)
  := by
  simp [parse, hs, hm]

end Parser

/-! ### Notifications -/

/-- A notification made for sending or by its constructor. -/
def PushMessage.WellFormed (m : PushMessage) : Prop :=
  m.Valid ∧ m.action ≠ "" ∧ m.accountId ≠ ""
    ∧ (-2 ^ 31 ≤ m.messageCount ∧ m.messageCount < 2 ^ 31)
    ∧ (-2 ^ 31 ≤ m.pendingSubscriptionCount ∧ m.pendingSubscriptionCount < 2 ^ 31)

/-- A push that is well formed is read back as it was written. -/
theorem PushMessage.fromJson_toJson {m : PushMessage} (h : m.WellFormed) :
  PushMessage.fromJson (m.toJson .null) = .ok m
  := by
  obtain ⟨hvalid, haction, hid, hcount, hpending⟩ := h
  rw [fromJson, AbstractMessage.fromJson_of hvalid haction, ok_bind, requireNonEmpty_of _ hid,
    ok_bind, requireInt_of _ hcount, ok_bind, requireInt_of _ hpending, ok_bind]
  · rfl
  · simp [toJson, Json.field_set]
  · simp [toJson, Json.field_set]
  · simp [toJson, Json.field_set]
  · simp [toJson, AbstractMessage.toJson, Json.field_set]
  · simp [toJson, AbstractMessage.toJson, Json.field_set]

/-- A message that was read has a version and an action. -/
theorem AbstractMessage.of_fromJson {m : AbstractMessage}
    (h : AbstractMessage.fromJson j = .ok m) :
  m.Valid ∧ m.action ≠ ""
  := by
  use (AbstractMessage.fromJson_ok h).1
  obtain ⟨version, -, h⟩ := Except.bind_eq_ok h
  split at h
  · cases h
  · obtain ⟨action, haction, h⟩ := Except.bind_eq_ok h
    cases h
    apply requireNonEmpty_ok haction

theorem requireInt_bounds {key : String} {i : Int} (h : requireInt j key = .ok i) :
  -2 ^ 31 ≤ i ∧ i < 2 ^ 31
  := by
  obtain ⟨v, -, h⟩ := Except.bind_eq_ok h
  match hv : v.toInt with
  | .ok n =>
      rw [hv] at h
      cases h
      apply Json.toInt_bounds hv
  | .error what =>
      rw [hv] at h
      cases h

/-- A notification that its constructor makes is well formed. -/
theorem PushMessage.of_fromJson {m : PushMessage} (h : PushMessage.fromJson j = .ok m) :
  m.WellFormed
  := by
  obtain ⟨base, hbase, h⟩ := Except.bind_eq_ok h
  obtain ⟨accountId, hid, h⟩ := Except.bind_eq_ok h
  obtain ⟨messageCount, hcount, h⟩ := Except.bind_eq_ok h
  obtain ⟨pendingSubscriptionCount, hpending, h⟩ := Except.bind_eq_ok h
  cases h
  obtain ⟨hvalid, haction⟩ := AbstractMessage.of_fromJson hbase
  exact ⟨hvalid, haction, requireNonEmpty_ok hid, requireInt_bounds hcount,
    requireInt_bounds hpending⟩

/-- A test push is read back as it was written. -/
theorem TestPushMessage.fromJson_toJson {m : TestPushMessage} (h : m.Valid ∧ m.action ≠ "") :
  TestPushMessage.fromJson (m.toJson .null) = .ok m
  := by
  rw [fromJson, AbstractMessage.fromJson_of h.1 h.2, ok_bind]
  · rfl
  · simp [toJson, AbstractMessage.toJson, Json.field_set]
  · simp [toJson, AbstractMessage.toJson, Json.field_set]

/-! ### The whole format -/

/-- The messages made by the constructors for sending. -/
inductive Message.Sent : Message → Prop where
  | setChannelUri {channelUri deviceId : String} (uri : channelUri ≠ "")
      (device : deviceId ≠ "") : Sent (.setChannelUri (.ofFields channelUri deviceId))
  | setPushAccounts {accounts : List String} {deviceId : String}
      (ids : ∀ account ∈ accounts, account ≠ "") (device : deviceId ≠ "") :
      Sent (.setPushAccounts (.ofFields accounts deviceId))
  | requestTestPush {deviceId : String} (device : deviceId ≠ "") :
      Sent (.requestTestPush (.ofFields deviceId))
  | successResponse : Sent (.successResponse .ofSuccess)
  | errorResponse (error : String) : Sent (.errorResponse (.ofError error))
  | successSetPushAccounts {accounts : List PushAccount} {pushBareJid : String}
      (some : accounts ≠ [])
      (strings : ∀ a ∈ accounts, a.accountId ≠ "" ∧ a.node ≠ "" ∧ a.secret ≠ "")
      (jid : pushBareJid ≠ "") :
      Sent (.successSetPushAccounts (.ofFields accounts pushBareJid))

/-- The messages that the server sends can be read back. -/
theorem Message.Sent.wellFormed {m : Message} (h : m.Sent) :
  m.WellFormed
  := by
  have hvalid : ∀ action, (AbstractMessage.ofAction action).Valid := by
    intro action
    show (1 : Int) ≤ 2 ∧ (2 : Int) ≤ 2
    decide
  cases h with
  | setChannelUri uri device => exact ⟨hvalid _, rfl, uri, device⟩
  | setPushAccounts ids device => exact ⟨hvalid _, rfl, ids, device⟩
  | requestTestPush device => exact ⟨hvalid _, rfl, device⟩
  | successResponse => exact ⟨⟨hvalid _, rfl⟩, rfl⟩
  | errorResponse error => exact ⟨⟨hvalid _, rfl⟩, rfl⟩
  | successSetPushAccounts some strings jid =>
      exact ⟨⟨hvalid _, rfl⟩, rfl, some, strings, jid⟩

/-- Where a document is parsed back from its text, every message that the parser makes or
that is made for sending is read back from its text, and so are the notifications. -/
theorem round_trip (platform origin : Platform) :
  (∀ m : Message, (∃ s, Parser.parse origin s = .ok (.valid m)) ∨ m.Sent →
      platform.parse (platform.dump m.toJson) = some m.toJson →
      Parser.parse platform (platform.dump m.toJson) = .ok (.valid m))
    ∧ (∀ m : PushMessage, (∃ j, PushMessage.fromJson j = .ok m)
        ∨ (∃ accountId a b, accountId ≠ "" ∧ (-2 ^ 31 ≤ a ∧ a < 2 ^ 31)
          ∧ (-2 ^ 31 ≤ b ∧ b < 2 ^ 31) ∧ m = .ofFields accountId a b) →
      platform.parse (platform.dump (m.toJson .null)) = some (m.toJson .null) →
      (platform.parse (platform.dump (m.toJson .null))).map PushMessage.fromJson = some (.ok m))
    ∧ ∀ m : TestPushMessage, (∃ j, TestPushMessage.fromJson j = .ok m) ∨ m = .ofTest →
      platform.parse (platform.dump (m.toJson .null)) = some (m.toJson .null) →
      (platform.parse (platform.dump (m.toJson .null))).map TestPushMessage.fromJson
        = some (.ok m)
  := by
  have hversion : (1 : Int) ≤ AbstractMessage.VERSION
      ∧ AbstractMessage.VERSION ≤ AbstractMessage.VERSION := by decide
  constructor
  · intro m h hp
    apply Parser.parse_of_parseJson hp
    apply Parser.parseJson_toJson
    rcases h with ⟨s, hs⟩ | hsent
    · apply Parser.parse_wellFormed hs
    · apply hsent.wellFormed
  · constructor
    · intro m h hp
      rw [hp, Option.map_some, PushMessage.fromJson_toJson]
      rcases h with ⟨j, hj⟩ | ⟨accountId, a, b, hid, ha, hb, rfl⟩
      · apply PushMessage.of_fromJson hj
      · have haction : PushMessage.ACTION ≠ "" := by decide
        exact ⟨hversion, haction, hid, ha, hb⟩
    · intro m h hp
      rw [hp, Option.map_some, TestPushMessage.fromJson_toJson]
      rcases h with ⟨j, hj⟩ | rfl
      · obtain ⟨base, hbase, hr⟩ := Except.bind_eq_ok hj
        cases hr
        apply AbstractMessage.of_fromJson hbase
      · exact ⟨hversion, by decide⟩

/-- A platform that reads the text of a document back. -/
def Sample.reading (text : String) (j : Json) : Platform where
  sha256 _ _ := 0
  parse s := if s = text then some j else none
  outOfRange _ := none
  dump _ := text
  toText _ := none
  order l := l
  order_perm l := .refl l
  debug := true

theorem Sample.parse_reading (text : String) (j : Json) :
  (Sample.reading text j).parse ((Sample.reading text j).dump j) = some j
  := if_pos rfl

/-- The documents of a request and of a response with accounts, of a notification and of a test
notification. -/
theorem round_trip_samples :
  (let m := Message.setPushAccounts (.ofFields ["alice", "bob"] "phone")
    let platform := Sample.reading
      ("\x7b\"accounts\":[\x7b\"account_id\":\"alice\"\x7d,\x7b\"account_id\":\"bob\"\x7d],"
        ++ "\"action\":\"set_push_accounts\",\"device_id\":\"phone\",\"version\":2\x7d") m.toJson
    Parser.parse platform (platform.dump m.toJson) = .ok (.valid m))
  ∧ (let account : PushAccount := ⟨"alice", "node", "secret", true⟩
    let m := Message.successSetPushAccounts (.ofFields [account] "push@example.org")
    let platform := Sample.reading
      ("\x7b\"accounts\":[\x7b\"account_id\":\"alice\",\"node\":\"node\",\"secret\":\"secret\","
        ++ "\"success\":true\x7d],\"action\":\"response\",\"push_bare_jid\":\"push@example.org\","
        ++ "\"status\":1,\"version\":2\x7d") m.toJson
    Parser.parse platform (platform.dump m.toJson) = .ok (.valid m))
  ∧ (let m := PushMessage.ofFields "alice" 2 (-1)
    let platform := Sample.reading
      ("\x7b\"account_id\":\"alice\",\"action\":\"push\",\"message_count\":2,"
        ++ "\"pending_subscription_count\":-1,\"version\":2\x7d") (m.toJson .null)
    (platform.parse (platform.dump (m.toJson .null))).map PushMessage.fromJson = some (.ok m))
  ∧ (let m := TestPushMessage.ofTest
    let platform := Sample.reading "\x7b\"action\":\"test_push\",\"version\":2\x7d" (m.toJson .null)
    (platform.parse (platform.dump (m.toJson .null))).map TestPushMessage.fromJson
      = some (.ok m))
  := by
  refine ⟨?_, ?_, ?_, ?_⟩
  · apply (round_trip _ (Sample.reading "" .null)).1
    · exact .inr (.setPushAccounts (by decide) (by decide))
    · apply Sample.parse_reading
  · apply (round_trip _ (Sample.reading "" .null)).1
    · exact .inr (.successSetPushAccounts (by decide) (by decide) (by decide))
    · apply Sample.parse_reading
  · apply (round_trip _ (Sample.reading "" .null)).2.1
    · exact .inr ⟨"alice", 2, -1, by decide, by decide, by decide, rfl⟩
    · apply Sample.parse_reading
  · apply (round_trip _ (Sample.reading "" .null)).2.2
    · exact .inr rfl
    · apply Sample.parse_reading

end UwpxPush
