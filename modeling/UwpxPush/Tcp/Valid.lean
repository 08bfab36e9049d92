import UwpxPush.Tcp.Parser

/-!
# Valid messages

`Message.Valid` says what holds of every message the parser makes: its version is one the
server speaks, its action is that of its class, and the strings of a request are not empty.
-/

namespace UwpxPush

namespace AbstractMessage

/-- The version is one the server speaks. -/
def Valid (m : AbstractMessage) : Prop :=
  1 ≤ m.version ∧ m.version ≤ VERSION

instance (m : AbstractMessage) : Decidable m.Valid :=
  inferInstanceAs (Decidable (_ ∧ _))

end AbstractMessage

namespace Message

/-- What the parser guarantees about a message. -/
def Valid : Message → Prop
  | setChannelUri m =>
      m.toAbstractMessage.Valid ∧ m.action = SetChannelUriMessage.ACTION
        ∧ m.channelUri ≠ "" ∧ m.deviceId ≠ ""
  | setPushAccounts m =>
      m.toAbstractMessage.Valid ∧ m.action = SetPushAccountsMessage.ACTION
        ∧ (∀ account ∈ m.accounts, account ≠ "") ∧ m.deviceId ≠ ""
  | requestTestPush m =>
      m.toAbstractMessage.Valid ∧ m.action = RequestTestPushMessage.ACTION ∧ m.deviceId ≠ ""
  | successResponse m =>
      m.toAbstractMessage.Valid ∧ m.action = AbstractResponseMessage.ACTION
  | successSetPushAccounts m =>
      m.toAbstractMessage.Valid ∧ m.action = AbstractResponseMessage.ACTION
  | errorResponse m =>
      m.toAbstractMessage.Valid ∧ m.action = AbstractResponseMessage.ACTION

instance : (m : Message) → Decidable m.Valid
  | setChannelUri _ => inferInstanceAs (Decidable (_ ∧ _))
  | setPushAccounts _ => inferInstanceAs (Decidable (_ ∧ _))
  | requestTestPush _ => inferInstanceAs (Decidable (_ ∧ _))
  | successResponse _ => inferInstanceAs (Decidable (_ ∧ _))
  | successSetPushAccounts _ => inferInstanceAs (Decidable (_ ∧ _))
  | errorResponse _ => inferInstanceAs (Decidable (_ ∧ _))

end Message

/-! ### What is decoded -/

/-- A computation with two parts returns when both do. -/
theorem Except.bind_eq_ok {ε α β : Type} {x : Except ε α} {f : α → Except ε β} {b : β}
    (h : x >>= f = .ok b) :
  ∃ a, x = .ok a ∧ f a = .ok b
  := by
  cases x with
  | error e => cases h
  | ok a => exact ⟨a, rfl, h⟩

namespace DecodeError

/-- A string that must not be empty is not empty. -/
theorem requireNonEmpty_ok {j : Json} {key label s : String}
    (h : requireNonEmpty j key label = .ok s) :
  s ≠ ""
  := by
  obtain ⟨v, -, h⟩ := Except.bind_eq_ok h
  obtain ⟨t, -, h⟩ := Except.bind_eq_ok h
  split at h
  · cases h
  · next ht =>
      cases h
      apply ht

/-- A string that is required is the string under its key. -/
theorem requireNonEmpty_eq {j : Json} {key label s t : String}
    (h : requireNonEmpty j key label = .ok s) (ht : (j.field key).toStr = .ok t) :
  s = t
  := by
  obtain ⟨v, hv, h⟩ := Except.bind_eq_ok h
  unfold require at hv
  split at hv
  · cases hv
    obtain ⟨u, hu, h⟩ := Except.bind_eq_ok h
    rw [ht] at hu
    cases hu
    split at h
    · cases h
    · cases h
      rfl
  · cases hv

end DecodeError

open DecodeError

/-- A message that was read has a version in range and its own action. -/
theorem AbstractMessage.fromJson_ok {j : Json} {m : AbstractMessage}
    (h : AbstractMessage.fromJson j = .ok m) :
  m.Valid ∧ ∀ action, (j.field "action").toStr = .ok action → m.action = action
  := by
  obtain ⟨version, -, h⟩ := Except.bind_eq_ok h
  split at h
  · cases h
  · next hversion =>
      obtain ⟨action, haction, h⟩ := Except.bind_eq_ok h
      cases h
      constructor
      · unfold AbstractMessage.Valid
        simp only [not_or, not_lt] at hversion
        exact hversion
      · intro action' ha
        apply requireNonEmpty_eq haction ha

/-- A request that was read is valid. -/
theorem SetChannelUriMessage.fromJson_ok {j : Json} {m : SetChannelUriMessage}
    (h : SetChannelUriMessage.fromJson j = .ok m)
    (ha : (j.field "action").toStr = .ok SetChannelUriMessage.ACTION) :
  (Message.setChannelUri m).Valid
  := by
  obtain ⟨base, hbase, h⟩ := Except.bind_eq_ok h
  obtain ⟨channelUri, huri, h⟩ := Except.bind_eq_ok h
  obtain ⟨deviceId, hdevice, h⟩ := Except.bind_eq_ok h
  cases h
  obtain ⟨hvalid, haction⟩ := AbstractMessage.fromJson_ok hbase
  exact ⟨hvalid, haction _ ha, requireNonEmpty_ok huri, requireNonEmpty_ok hdevice⟩

/-- Every string of a list that is decoded is not empty. -/
theorem mapM_requireNonEmpty_ok {l : List Json} {key label : String} {strings : List String}
    (h : l.mapM (fun j => requireNonEmpty j key label) = .ok strings) :
  ∀ s ∈ strings, s ≠ ""
  := by
  induction l generalizing strings with
  | nil =>
      cases h
      simp
  | cons j l ih =>
      rw [List.mapM_cons] at h
      obtain ⟨s, hs, h⟩ := Except.bind_eq_ok h
      obtain ⟨strings', hstrings, h⟩ := Except.bind_eq_ok h
      cases h
      intro t ht
      rcases List.mem_cons.mp ht with rfl | ht
      · apply requireNonEmpty_ok hs
      · apply ih hstrings t ht

theorem SetPushAccountsMessage.fromJson_ok {j : Json} {m : SetPushAccountsMessage}
    (h : SetPushAccountsMessage.fromJson j = .ok m)
    (ha : (j.field "action").toStr = .ok SetPushAccountsMessage.ACTION) :
  (Message.setPushAccounts m).Valid
  := by
  obtain ⟨base, hbase, h⟩ := Except.bind_eq_ok h
  obtain ⟨array, harray, h⟩ := Except.bind_eq_ok h
  obtain ⟨accounts, haccounts, h⟩ := Except.bind_eq_ok h
  obtain ⟨deviceId, hdevice, h⟩ := Except.bind_eq_ok h
  cases h
  obtain ⟨hvalid, haction⟩ := AbstractMessage.fromJson_ok hbase
  exact ⟨hvalid, haction _ ha, mapM_requireNonEmpty_ok haccounts, requireNonEmpty_ok hdevice⟩

theorem RequestTestPushMessage.fromJson_ok {j : Json} {m : RequestTestPushMessage}
    (h : RequestTestPushMessage.fromJson j = .ok m)
    (ha : (j.field "action").toStr = .ok RequestTestPushMessage.ACTION) :
  (Message.requestTestPush m).Valid
  := by
  obtain ⟨base, hbase, h⟩ := Except.bind_eq_ok h
  obtain ⟨deviceId, hdevice, h⟩ := Except.bind_eq_ok h
  cases h
  obtain ⟨hvalid, haction⟩ := AbstractMessage.fromJson_ok hbase
  exact ⟨hvalid, haction _ ha, requireNonEmpty_ok hdevice⟩

theorem AbstractResponseMessage.fromJson_ok {j : Json} {m : AbstractResponseMessage}
    (h : AbstractResponseMessage.fromJson j = .ok m)
    (ha : (j.field "action").toStr = .ok AbstractResponseMessage.ACTION) :
  m.toAbstractMessage.Valid ∧ m.action = AbstractResponseMessage.ACTION
  := by
  obtain ⟨base, hbase, h⟩ := Except.bind_eq_ok h
  obtain ⟨status, -, h⟩ := Except.bind_eq_ok h
  split at h
  · cases h
  · cases h
    obtain ⟨hvalid, haction⟩ := AbstractMessage.fromJson_ok hbase
    exact ⟨hvalid, haction _ ha⟩

/-- An error that was read is valid. -/
theorem ErrorResponseMessage.fromJson_ok {j : Json} {m : ErrorResponseMessage}
    (h : ErrorResponseMessage.fromJson j = .ok m)
    (ha : (j.field "action").toStr = .ok AbstractResponseMessage.ACTION) :
  (Message.errorResponse m).Valid
  := by
  obtain ⟨base, hbase, h⟩ := Except.bind_eq_ok h
  obtain ⟨error, -, h⟩ := Except.bind_eq_ok h
  obtain ⟨text, -, h⟩ := Except.bind_eq_ok h
  cases h
  apply AbstractResponseMessage.fromJson_ok hbase ha

theorem SuccessResponseMessage.fromJson_ok {j : Json} {m : SuccessResponseMessage}
    (h : SuccessResponseMessage.fromJson j = .ok m)
    (ha : (j.field "action").toStr = .ok AbstractResponseMessage.ACTION) :
  (Message.successResponse m).Valid
  := by
  obtain ⟨base, hbase, h⟩ := Except.bind_eq_ok h
  cases h
  apply AbstractResponseMessage.fromJson_ok hbase ha

/-- A response with accounts that was read is valid. -/
theorem SuccessSetPushAccountsMessage.fromJson_ok {j : Json}
    {m : SuccessSetPushAccountsMessage} (h : SuccessSetPushAccountsMessage.fromJson j = .ok m)
    (ha : (j.field "action").toStr = .ok AbstractResponseMessage.ACTION) :
  (Message.successSetPushAccounts m).Valid
  := by
  obtain ⟨base, hbase, h⟩ := Except.bind_eq_ok h
  obtain ⟨array, -, h⟩ := Except.bind_eq_ok h
  obtain ⟨accounts, -, h⟩ := Except.bind_eq_ok h
  split at h
  · cases h
  · obtain ⟨pushBareJid, -, h⟩ := Except.bind_eq_ok h
    cases h
    apply SuccessResponseMessage.fromJson_ok hbase ha

namespace Parser

/-- A valid message comes from a constructor that accepted the document. -/
theorem construct_valid {α : Type} {f : α → Message} {r : Except DecodeError α} {m : Message}
    (h : Parsed.construct f r = .ok (.valid m)) :
  ∃ a, r = .ok a ∧ m = f a
  := by
  match r with
  | .ok a =>
      cases h
      exact ⟨a, rfl, rfl⟩
  | .error (.rejected _) => cases h
  | .error (.thrown _) => cases h

/-- Every response that was read is valid. -/
theorem parseResponse_valid {j : Json} {m : Message} (h : parseResponse j = .ok (.valid m))
    (ha : (j.field "action").toStr = .ok AbstractResponseMessage.ACTION) :
  m.Valid
  := by
  unfold parseResponse at h
  split at h
  · split at h
    · cases h
    · split at h
      · split at h
        · obtain ⟨a, hm, rfl⟩ := construct_valid h
          apply SuccessSetPushAccountsMessage.fromJson_ok hm ha
        · obtain ⟨a, hm, rfl⟩ := construct_valid h
          apply SuccessResponseMessage.fromJson_ok hm ha
      · split at h
        · obtain ⟨a, hm, rfl⟩ := construct_valid h
          apply ErrorResponseMessage.fromJson_ok hm ha
        · cases h
  · cases h

/-- Every message that was read for its own action is valid. -/
theorem parseAction_valid {action : String} {j : Json} {m : Message}
    (h : parseAction action j = .ok (.valid m)) (ha : (j.field "action").toStr = .ok action) :
  m.Valid
  := by
  unfold parseAction at h
  split at h
  · next heq =>
      obtain ⟨a, hm, rfl⟩ := construct_valid h
      apply SetChannelUriMessage.fromJson_ok hm (heq ▸ ha)
  · split at h
    · next heq =>
        obtain ⟨a, hm, rfl⟩ := construct_valid h
        apply SetPushAccountsMessage.fromJson_ok hm (heq ▸ ha)
    · split at h
      · next heq =>
          obtain ⟨a, hm, rfl⟩ := construct_valid h
          apply RequestTestPushMessage.fromJson_ok hm (heq ▸ ha)
      · split at h
        · next heq => apply parseResponse_valid h (heq ▸ ha)
        · cases h

/-- A message that is made from a document is made for its action. -/
theorem parseJson_eq_valid {debug : Bool} {j : Json} {m : Message}
    (h : parseJson debug j = .ok (.valid m)) :
  ∃ action, (j.field "action").toStr = .ok action ∧ parseAction action j = .ok (.valid m)
  := by
  unfold parseJson at h
  split at h
  · split at h
    · cases h
    · next action haction =>
        split at h
        · cases h
        · split at h
          · split at h
            · cases h
            · cases h
          · exact ⟨action, haction, h⟩
  · cases h

/-- A message that the parser makes is made for the action of a document. -/
theorem parse_eq_valid {platform : Platform} {s : String} {m : Message}
    (h : parse platform s = .ok (.valid m)) :
  ∃ j action, platform.parse s = some j ∧ (j.field "action").toStr = .ok action
    ∧ parseAction action j = .ok (.valid m)
  := by
  unfold parse at h
  split at h
  · cases h
  · next j hj =>
      have hparse : parseJson platform.debug j = .ok (.valid m) := by
        split at h
        · cases h
        · apply h
      obtain ⟨action, haction, hm⟩ := parseJson_eq_valid hparse
      exact ⟨j, action, hj, haction, hm⟩

/-- Every message the parser makes is valid. -/
theorem parse_valid {platform : Platform} {s : String} {m : Message}
    (h : parse platform s = .ok (.valid m)) :
  m.Valid
  := by
  obtain ⟨j, action, -, haction, hm⟩ := parse_eq_valid h
  apply parseAction_valid hm haction

end Parser

end UwpxPush
