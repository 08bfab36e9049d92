import Mathlib.Data.List.Perm.Basic
import UwpxPush.Tcp.RoundTrip
import UwpxPush.Xmpp.XmppClient

/-!
# The counts of a notification

The loop over the children of the form of a notification writes two counts.  Where each of
their variables occurs in one field at most and the numbers fit into an `int`, they are the
numbers that are written in these fields, whatever the order of the children is and whatever
else is there (`sendV2Push_eq`).
-/

namespace UwpxPush

namespace XmppClient

/-- The child is a field of the variable. -/
def isField (var : String) (s : Stanza) : Bool :=
  s.getName == some "field" && s.getAttribute "var" == some var

/-- The number that is written in a field. -/
def written (s : Stanza) : Option Int :=
  ((s.getChildByName "value").bind Stanza.getText).bind scanInteger

/-- The number that is written in the field of the variable, or `count` where there is none. -/
def countOf (count : Int) (var : String) (children : List Stanza) : Int :=
  ((children.find? (isField var)).bind written).getD count

/-- The child is a field of one of the two counts. -/
def isCount (s : Stanza) : Bool :=
  isField "message-count" s || isField "pending-subscription-count" s

/-- The children of a form are tags, each variable of a count occurs in one field at most, and
the numbers fit into an `int`. -/
structure IsForm (children : List Stanza) : Prop where
  tags : ∀ s ∈ children, s.getName ≠ none
  message : (children.filter (isField "message-count")).length ≤ 1
  pending : (children.filter (isField "pending-subscription-count")).length ≤ 1
  fits : ∀ s ∈ children, isCount s = true → ∀ i, written s = some i → -2 ^ 31 ≤ i ∧ i < 2 ^ 31

/-! ### One child -/

variable {var : String} {s : Stanza} {children : List Stanza} {a b : Int}

/-- A child is a field of one variable at most. -/
theorem isField_unique {var' : String} (h : isField var s = true)
    (h' : isField var' s = true) :
  var = var'
  := by
  simp only [isField, Bool.and_eq_true, beq_iff_eq] at h h'
  exact Option.some.inj (h.2.symm.trans h'.2)

/-- A number that fits is read. -/
theorem fieldCount_eq (h : ∀ i, written s = some i → -2 ^ 31 ≤ i ∧ i < 2 ^ 31) :
  fieldCount a s = .ok ((written s).getD a)
  := by
  unfold written at h ⊢
  unfold fieldCount
  split
  · next hnone =>
      rw [hnone]
      rfl
  · next text htext =>
      rw [htext, Option.bind_some] at h ⊢
      cases hscan : scanInteger text with
      | none =>
          rw [stoi, hscan]
          rfl
      | some i =>
          rw [stoi, hscan]
          dsimp only
          rw [if_pos (h i hscan)]
          rfl

theorem readField_message (h : isField "message-count" s = true) :
  readField (a, b) s = do return (← fieldCount a s, b)
  := by
  simp only [isField, Bool.and_eq_true, beq_iff_eq] at h
  simp only [readField, h, if_true]

theorem readField_pending (h : isField "pending-subscription-count" s = true) :
  readField (a, b) s = do return (a, ← fieldCount b s)
  := by
  simp only [isField, Bool.and_eq_true, beq_iff_eq] at h
  simp only [readField, h, if_true]
  rw [if_neg (by decide)]

/-- Other children change nothing. -/
theorem readField_other (htag : s.getName ≠ none) (h : isCount s = false) :
  readField (a, b) s = .ok (a, b)
  := by
  obtain ⟨name, hname⟩ := Option.ne_none_iff_exists'.mp htag
  obtain ⟨hmessage, hpending⟩ := Bool.or_eq_false_iff.mp h
  simp only [isField, hname, Bool.and_eq_false_iff, beq_eq_false_iff_ne, ne_eq,
    Option.some.injEq] at hmessage hpending
  simp only [readField, hname]
  split
  · next hfield =>
      have hvar := hmessage.resolve_left (not_not.mpr hfield)
      have hvar' := hpending.resolve_left (not_not.mpr hfield)
      cases hattribute : s.getAttribute "var" with
      | none => rfl
      | some var =>
          rw [hattribute, Option.some.injEq] at hvar hvar'
          dsimp only
          rw [if_neg hvar, if_neg hvar']
  · rfl

/-! ### All children -/

theorem IsForm.tail (h : IsForm (s :: children)) :
  IsForm children
  where
  tags t ht := h.tags t (List.mem_cons_of_mem s ht)
  message := Nat.le_trans (((List.sublist_cons_self s children).filter _).length_le) h.message
  pending := Nat.le_trans (((List.sublist_cons_self s children).filter _).length_le) h.pending
  fits t ht := h.fits t (List.mem_cons_of_mem s ht)

theorem countOf_cons_of_field (h : isField var s = true) :
  countOf a var (s :: children) = (written s).getD a
  := by
  rw [countOf, List.find?_cons_of_pos h, Option.bind_some]

theorem countOf_cons_of_not (h : isField var s = false) :
  countOf a var (s :: children) = countOf a var children
  := by
  rw [countOf, List.find?_cons_of_neg (by rw [h]; decide), countOf]

/-- After its only field a count stays. -/
theorem countOf_of_unique (hs : isField var s = true)
    (h : ((s :: children).filter (isField var)).length ≤ 1) :
  countOf a var children = a
  := by
  rw [List.filter_cons_of_pos hs, List.length_cons] at h
  have hnil : children.filter (isField var) = [] := List.eq_nil_of_length_eq_zero (by omega)
  have hnone : children.find? (isField var) = none := by
    rw [List.find?_eq_none]
    exact List.filter_eq_nil_iff.mp hnil
  rw [countOf, hnone]
  rfl

/-- The loop reads both counts. -/
theorem foldlM_readField (h : IsForm children) :
  children.foldlM readField (a, b)
    = .ok (countOf a "message-count" children, countOf b "pending-subscription-count" children)
  := by
  induction children generalizing a b with
  | nil => rfl
  | cons s children ih =>
      rw [List.foldlM_cons]
      cases hmessage : isField "message-count" s with
      | true =>
          have hcount : isCount s = true := by rw [isCount, hmessage, Bool.true_or]
          have hpending : isField "pending-subscription-count" s = false := by
            rw [Bool.eq_false_iff]
            intro hpending
            exact absurd (isField_unique hmessage hpending) (by decide)
          rw [readField_message hmessage, fieldCount_eq (h.fits s List.mem_cons_self hcount)]
          change children.foldlM readField ((written s).getD a, b) = _
          rw [ih h.tail, countOf_cons_of_field hmessage, countOf_cons_of_not hpending,
            countOf_of_unique hmessage h.message]
      | false =>
          rw [countOf_cons_of_not hmessage]
          cases hpending : isField "pending-subscription-count" s with
          | true =>
              have hcount : isCount s = true := by rw [isCount, hpending, Bool.or_true]
              rw [readField_pending hpending, fieldCount_eq (h.fits s List.mem_cons_self hcount)]
              change children.foldlM readField (a, (written s).getD b) = _
              rw [ih h.tail, countOf_cons_of_field hpending,
                countOf_of_unique hpending h.pending]
          | false =>
              have hother : isCount s = false := by
                rw [isCount, hmessage, hpending]
                rfl
              rw [countOf_cons_of_not hpending,
                readField_other (h.tags s List.mem_cons_self) hother]
              apply ih h.tail

/-- The children of the form of a notification. -/
def formOf (notificationNode : Stanza) : List Stanza :=
  ((notificationNode.getChildByName "x").map Stanza.getChildren).getD []

theorem readCounts_eq {notificationNode : Stanza} (h : IsForm (formOf notificationNode)) :
  readCounts notificationNode
    = .ok (countOf 0 "message-count" (formOf notificationNode),
      countOf 0 "pending-subscription-count" (formOf notificationNode))
  := by
  unfold formOf at h ⊢
  unfold readCounts
  cases hx : notificationNode.getChildByName "x" with
  | none => rfl
  | some xNode =>
      rw [hx] at h
      apply foldlM_readField h

/-! ### Other orders and other children -/

/-- A count depends on its own field only. -/
theorem countOf_filter (hvar : ∀ s, isField var s = true → isCount s = true) :
  countOf a var (children.filter isCount) = countOf a var children
  := by
  induction children with
  | nil => rfl
  | cons s children ih =>
      cases hs : isField var s with
      | true =>
          rw [List.filter_cons_of_pos (hvar s hs), countOf_cons_of_field hs,
            countOf_cons_of_field hs]
      | false =>
          rw [countOf_cons_of_not hs, ← ih]
          by_cases hcount : isCount s = true
          · rw [List.filter_cons_of_pos hcount, countOf_cons_of_not hs]
          · rw [List.filter_cons_of_neg hcount]

/-- A count does not depend on the order of the children. -/
theorem countOf_perm {children' : List Stanza} (hperm : children.Perm children')
    (h : (children.filter (isField var)).length ≤ 1) :
  countOf a var children = countOf a var children'
  := by
  have hfilter := hperm.filter (isField var)
  have heq : children.filter (isField var) = children'.filter (isField var) := by
    cases hl : children.filter (isField var) with
    | nil =>
        rw [hl] at hfilter
        exact (List.nil_perm.mp hfilter).symm
    | cons s l =>
        rw [hl, List.length_cons] at h
        obtain rfl : l = [] := List.eq_nil_of_length_eq_zero (by omega)
        rw [hl] at hfilter
        exact hfilter.symm.eq_singleton.symm
  rw [countOf, countOf, ← List.head?_filter, ← List.head?_filter, heq]

/-- The counts of two forms with the same fields of counts are the same. -/
theorem countOf_eq_of_perm {children' : List Stanza}
    (hperm : (children.filter isCount).Perm (children'.filter isCount))
    (hvar : ∀ s, isField var s = true → isCount s = true)
    (h : (children.filter (isField var)).length ≤ 1) :
  countOf a var children = countOf a var children'
  := by
  have hle : ((children.filter isCount).filter (isField var)).length ≤ 1 :=
    Nat.le_trans (List.filter_sublist.filter _).length_le h
  calc
    countOf a var children = countOf a var (children.filter isCount) := (countOf_filter hvar).symm
    _ = countOf a var (children'.filter isCount) := countOf_perm hperm hle
    _ = countOf a var children' := countOf_filter hvar

end XmppClient

open XmppClient

/-- The counts that are written in the fields of a notification are passed on, each as itself,
whatever the order of the fields and the other children of the form are. -/
theorem sendV2Push_eq {notificationNode : Stanza} (h : IsForm (formOf notificationNode)) :
  let messageCount := countOf 0 "message-count" (formOf notificationNode)
  let pendingSubscriptionCount :=
    countOf 0 "pending-subscription-count" (formOf notificationNode)
  (∀ handler accountId node, sendV2Push handler accountId node notificationNode
      = handler node accountId messageCount pendingSubscriptionCount)
    ∧ (∀ notificationNode', IsForm (formOf notificationNode') →
      ((formOf notificationNode).filter isCount).Perm ((formOf notificationNode').filter isCount) →
      ∀ handler accountId node, sendV2Push handler accountId node notificationNode'
        = sendV2Push handler accountId node notificationNode)
    ∧ ∀ accountId, let j :=
        (PushMessage.ofFields accountId messageCount pendingSubscriptionCount).toJson .null
      j.field "message_count" = .integer messageCount
        ∧ j.field "pending_subscription_count" = .integer pendingSubscriptionCount
  := by
  have hpush : ∀ {notificationNode}, IsForm (formOf notificationNode) →
      ∀ handler accountId node, sendV2Push handler accountId node notificationNode
        = handler node accountId (countOf 0 "message-count" (formOf notificationNode))
          (countOf 0 "pending-subscription-count" (formOf notificationNode)) := by
    intro notificationNode h handler accountId node
    rw [sendV2Push, readCounts_eq h]
    rfl
  refine ⟨hpush h, ?_, ?_⟩
  · intro notificationNode' h' hperm handler accountId node
    have hmessage : ∀ s, isField "message-count" s = true → isCount s = true := by
      intro s hs
      rw [isCount, hs, Bool.true_or]
    have hpending : ∀ s, isField "pending-subscription-count" s = true → isCount s = true := by
      intro s hs
      rw [isCount, hs, Bool.or_true]
    rw [hpush h, hpush h', countOf_eq_of_perm hperm hmessage h.message,
      countOf_eq_of_perm hperm hpending h.pending]
  · intro accountId
    constructor
    · simp [PushMessage.toJson, PushMessage.ofFields, Json.field_set]
    · simp [PushMessage.toJson, PushMessage.ofFields, Json.field_set]

/-- A notification with a title, a pending subscription count and a message count. -/
def Sample.counts : Stanza :=
  .tag "notification" [("xmlns", "urn:xmpp:push:0")]
    [.tag "x" [] [.tag "title" [] [],
      .tag "field" [("var", "pending-subscription-count")] [.tag "value" [] [.text "7"]],
      .tag "field" [("var", "message-count")] [.tag "value" [] [.text "3"]]]]

theorem Sample.isForm_counts :
  IsForm (formOf Sample.counts)
  where
  tags := by decide
  message := by decide
  pending := by decide
  fits := by
    intro s hs hcount i hi
    have hmem : s = .tag "title" [] []
        ∨ s = .tag "field" [("var", "pending-subscription-count")] [.tag "value" [] [.text "7"]]
        ∨ s = .tag "field" [("var", "message-count")] [.tag "value" [] [.text "3"]] := by
      simpa [formOf, Sample.counts, Stanza.getChildByName, Stanza.getChildren, Stanza.getName]
        using hs
    rcases hmem with rfl | rfl | rfl
    · cases hi
    · obtain rfl : i = 7 := (Option.some.inj hi).symm
      decide
    · obtain rfl : i = 3 := (Option.some.inj hi).symm
      decide

theorem sendV2Push_eq_counts :
  IsForm (formOf Sample.counts)
    ∧ ∀ handler accountId node,
      sendV2Push handler accountId node Sample.counts = handler node accountId 3 7
  := ⟨Sample.isForm_counts, (sendV2Push_eq Sample.isForm_counts).1⟩

end UwpxPush
