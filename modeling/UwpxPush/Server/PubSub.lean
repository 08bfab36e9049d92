import UwpxPush.Server.Ownership

/-!
# PubSub nodes

What a history says about the nodes on the XMPP server: which requests to create and to
delete nodes were sent.  A registration deletes the old nodes that no account has, and sets
up the nodes that are not old.
-/

namespace UwpxPush

open KeyValue

/-- The outputs set the node up, and do not delete it after that. -/
def SetsUp (node : String) (out : List Output) : Prop :=
  ∃ before after, out = before ++ .iq (.publishEmpty node) :: .iq (.subscribe node) :: after
    ∧ .iq (.delete node) ∉ after

/-- The outputs create the node, and do not delete it after that. -/
def Creates (node : String) (out : List Output) : Prop :=
  ∃ before after, out = before ++ .iq (.publishEmpty node) :: after
    ∧ .iq (.delete node) ∉ after

/-- The node was set up while the connection was up, and was not deleted after that. -/
def SetUp (node : String) : History → Prop
  | [] => False
  | t :: past =>
      t.before.connected = true ∧ SetsUp node (outputs t)
        ∨ SetUp node past ∧ .iq (.delete node) ∉ outputs t

/-- The node was created and not deleted after that. -/
def Alive (node : String) : History → Prop
  | [] => False
  | t :: past => Creates node (outputs t) ∨ Alive node past ∧ .iq (.delete node) ∉ outputs t

theorem SetsUp.creates {node : String} {out : List Output} (h : SetsUp node out) :
  Creates node out
  := by
  obtain ⟨before, after, rfl, hdelete⟩ := h
  use before, .iq (.subscribe node) :: after, rfl
  simpa using hdelete

theorem SetUp.cons {node : String} {past : History} {t : Transition Event World}
    (h : SetUp node past) (hdelete : .iq (.delete node) ∉ outputs t) :
  SetUp node (t :: past)
  := .inr ⟨h, hdelete⟩

/-- A node that is set up was set up in some transition. -/
theorem SetUp.exists {node : String} {past : History} (h : SetUp node past) :
  ∃ t ∈ past, t.before.connected = true ∧ SetsUp node (outputs t)
  := by
  induction past with
  | nil => cases h
  | cons t past ih =>
      rcases h with ⟨hc, hsets⟩ | ⟨h, -⟩
      · exact ⟨t, List.mem_cons_self, hc, hsets⟩
      · obtain ⟨u, hu, hsets⟩ := ih h
        exact ⟨u, List.mem_cons_of_mem t hu, hsets⟩

/-! ### Names -/

/-- A name that is drawn has no NUL, so C functions see all of it. -/
theorem cStr_node (oracle : Oracle) (i : Nat) :
  cStr (oracle.node i) = oracle.node i
  := by
  apply cStr_eq
  have hnul : '\x00' ∉ CryptoUtils.alphanum := by decide
  intro hmem
  apply hnul
  simp only [Oracle.node, CryptoUtils.urlSafeRandomToken, String.toList_ofList,
    List.mem_ofFn] at hmem
  obtain ⟨j, hj⟩ := hmem
  rw [← hj]
  apply List.get_mem

/-- The last element of a list with a property. -/
theorem exists_last {α : Type} {p : α → Prop} {l : List α} (h : ∃ a ∈ l, p a) :
  ∃ before a after, l = before ++ a :: after ∧ p a ∧ ∀ b ∈ after, ¬p b
  := by
  induction l using List.reverseRecOn with
  | nil => simp at h
  | append_singleton l a ih =>
      by_cases ha : p a
      · exact ⟨l, a, [], rfl, ha, by simp⟩
      · obtain ⟨b, hb, hpb⟩ := h
        rcases List.mem_append.mp hb with hb | hb
        · obtain ⟨before, c, after, rfl, hc, hafter⟩ := ih ⟨b, hb, hpb⟩
          refine ⟨before, c, after ++ [a], by simp, hc, ?_⟩
          intro d hd
          rcases List.mem_append.mp hd with hd | hd
          · apply hafter d hd
          · rw [List.mem_singleton.mp hd]
            apply ha
        · rw [List.mem_singleton.mp hb] at hpb
          exact (ha hpb).elim

/-- Two elements have a property when there is one before the last one. -/
theorem one_lt_length_filter {α : Type} {p : α → Prop} [DecidablePred p] {l : List α} :
  1 < (l.filter p).length ↔ ∃ before a after, l = before ++ a :: after ∧ p a
    ∧ (∀ b ∈ after, ¬p b) ∧ ∃ b ∈ before, p b
  := by
  constructor
  · intro h
    have hsome : ∃ a ∈ l, p a := by
      obtain ⟨a, ha⟩ := List.exists_mem_of_length_pos (by omega : 0 < (l.filter p).length)
      simp only [List.mem_filter, decide_eq_true_eq] at ha
      exact ⟨a, ha⟩
    obtain ⟨before, a, after, rfl, ha, hafter⟩ := exists_last hsome
    have hnil : after.filter p = [] := by simpa using hafter
    rw [List.filter_append, List.filter_cons_of_pos (by simpa using ha), hnil,
      List.length_append, List.length_singleton] at h
    obtain ⟨b, hb⟩ := List.exists_mem_of_length_pos (by omega : 0 < (before.filter p).length)
    simp only [List.mem_filter, decide_eq_true_eq] at hb
    exact ⟨before, a, after, rfl, ha, hafter, b, hb⟩
  · rintro ⟨before, a, after, rfl, ha, -, b, hb, hpb⟩
    have hpos : 0 < (before.filter p).length := by
      apply List.length_pos_of_mem
      simp only [List.mem_filter, decide_eq_true_eq]
      exact ⟨hb, hpb⟩
    rw [List.filter_append, List.filter_cons_of_pos (by simpa using ha)]
    simp only [List.length_append, List.length_cons]
    omega

namespace PushServer

variable {platform : Platform} {config : Configuration} {connected : Bool}
  {oldNodes : List String} {accounts : List PushAccount} {node : String}

/-- A node that is not old is added when an account has it. -/
theorem mem_map_addNodes (h : ∃ a ∈ accounts, a.node = node) (hold : node ∉ oldNodes) :
  node ∈ (collected oldNodes accounts).addNodes.map Prod.fst
  := by
  obtain ⟨before, a, after, rfl, ha, hafter⟩ := exists_last h
  rw [List.mem_map]
  use (node, before.length)
  constructor
  · rw [mem_addNodes]
    refine ⟨before, a, after, rfl, rfl, ha, hafter, ?_⟩
    intro hmem
    exact (hold hmem).elim
  · rfl

/-- A node is added when two accounts have it. -/
theorem mem_map_addNodes_of_two (h : 1 < (accounts.filter (·.node = node)).length) :
  node ∈ (collected oldNodes accounts).addNodes.map Prod.fst
  := by
  obtain ⟨before, a, after, rfl, ha, hafter, hbefore⟩ := one_lt_length_filter.mp h
  rw [List.mem_map]
  use (node, before.length)
  constructor
  · rw [mem_addNodes]
    exact ⟨before, a, after, rfl, rfl, ha, hafter, fun _ => hbefore⟩
  · rfl

/-- Only nodes of accounts are added, and old ones only when two accounts have them. -/
theorem of_mem_map_addNodes (h : node ∈ (collected oldNodes accounts).addNodes.map Prod.fst) :
  (∃ a ∈ accounts, a.node = node)
    ∧ (node ∈ oldNodes → 1 < (accounts.filter (·.node = node)).length)
  := by
  obtain ⟨⟨n, j⟩, hn, rfl⟩ := List.mem_map.mp h
  obtain ⟨before, a, after, rfl, -, ha, hafter, hold⟩ := mem_addNodes.mp hn
  constructor
  · exact ⟨a, by simp, ha⟩
  · intro hmem
    rw [one_lt_length_filter]
    exact ⟨before, a, after, rfl, ha, hafter, hold hmem⟩

/-- The old nodes that no account has are deleted, and no others. -/
theorem delete_mem_registrationOutputs :
  .iq (.delete node) ∈ registrationOutputs platform config connected oldNodes accounts
    ↔ connected = true ∧ ∃ n ∈ oldNodes, (∀ a ∈ accounts, a.node ≠ n) ∧ cStr n = node
  := by
  have horder : ∀ n, n ∈ platform.order (collected oldNodes accounts).deleteNodes
      ↔ n ∈ oldNodes ∧ ∀ a ∈ accounts, a.node ≠ n := by
    intro n
    rw [(platform.order_perm _).mem_iff, mem_deleteNodes]
  cases connected with
  | false => simp [registrationOutputs, sent]
  | true =>
      simp only [registrationOutputs, sent, if_true, List.mem_append, List.mem_flatMap, horder,
        deleteOutputs, setupOutputs, List.mem_cons, List.not_mem_nil, or_false,
        Output.iq.injEq, reduceCtorEq, Iq.delete.injEq, false_or, and_false, exists_false,
        true_and]
      constructor
      · rintro ⟨n, ⟨hold, hall⟩, rfl⟩
        exact ⟨n, hold, hall, rfl⟩
      · rintro ⟨n, hold, hall, rfl⟩
        exact ⟨n, ⟨hold, hall⟩, rfl⟩

variable (platform config) in
/-- The nodes that are added are set up when the connection is up. -/
theorem setsUp_registrationOutputs
    (h : node ∈ (collected oldNodes accounts).addNodes.map Prod.fst) :
  SetsUp (cStr node) (registrationOutputs platform config true oldNodes accounts)
  := by
  have hmem : node ∈ (platform.order (collected oldNodes accounts).addNodes).map Prod.fst := by
    apply ((platform.order_perm _).map Prod.fst).mem_iff.mpr h
  obtain ⟨l, l', hl⟩ := List.append_of_mem hmem
  rw [registrationOutputs, hl]
  simp only [sent, if_true, List.flatMap_append, List.flatMap_cons]
  use (platform.order (collected oldNodes accounts).deleteNodes).flatMap deleteOutputs
    ++ l.flatMap setupOutputs, l'.flatMap setupOutputs
    ++ [.reply (.successSetPushAccounts
      (.ofFields (answer platform true oldNodes accounts) config.xmpp.bareJid))]
  constructor
  · simp only [setupOutputs, List.append_assoc, List.cons_append, List.nil_append]
  · simp [setupOutputs]

/-- A node is created only when it is added. -/
theorem creates_registrationOutputs
    (h : Creates node (registrationOutputs platform config connected oldNodes accounts)) :
  connected = true ∧ ∃ n ∈ (collected oldNodes accounts).addNodes.map Prod.fst, cStr n = node
  := by
  obtain ⟨before, after, heq, -⟩ := h
  have hmem : .iq (.publishEmpty node)
      ∈ registrationOutputs platform config connected oldNodes accounts := by
    rw [heq]
    simp
  cases connected with
  | false => simp [registrationOutputs, sent] at hmem
  | true =>
      use rfl
      simp only [registrationOutputs, sent, if_true, List.mem_append, List.mem_flatMap,
        deleteOutputs, setupOutputs, List.mem_cons, List.not_mem_nil, or_false,
        Output.iq.injEq, reduceCtorEq, Iq.publishEmpty.injEq, false_or, and_false, exists_false]
        at hmem
      obtain ⟨n, hn, rfl⟩ := hmem
      exact ⟨n, ((platform.order_perm _).map Prod.fst).mem_iff.mp hn, rfl⟩

/-! ### The nodes of a registration -/

namespace Registered

variable {oracle : Oracle} {past : History} {w w' : World} {m : SetPushAccountsMessage}
  {valid : (Message.setPushAccounts m).Valid} {channelUri version : String}
  {pushAccounts : List PushAccount}

/-- An old node is seen as a whole by C functions. -/
theorem cStr_old (h : Registered platform config oracle m.deviceId version m.accounts w w'
      channelUri oldNodes pushAccounts) (howned : AllOwned platform oracle past w)
    {node : String} (hn : node ∈ oldNodes) :
  cStr node = node
  := by
  obtain ⟨k, -, hk⟩ := h.old_node hn
  obtain ⟨d, hd⟩ := Contents.nodeUnder_eq_some.mp hk
  obtain ⟨i, _, _, ho⟩ := howned _ _ _ hd
  rw [ho.node_eq, cStr_node]

/-- A node is deleted when the connection is up, it is old and no account has it. -/
theorem delete_mem (h : Registered platform config oracle m.deviceId version m.accounts w w'
      channelUri oldNodes pushAccounts) (howned : AllOwned platform oracle past w)
    {node : String} :
  .iq (.delete node) ∈ outputs ⟨.received (.setPushAccounts m) valid, w, w'⟩
    ↔ w.connected = true ∧ node ∈ oldNodes ∧ ∀ a ∈ pushAccounts, a.node ≠ node
  := by
  rw [outputs_eq h.log, delete_mem_registrationOutputs]
  constructor
  · rintro ⟨hc, n, hn, hall, rfl⟩
    rw [h.cStr_old howned hn]
    exact ⟨hc, hn, hall⟩
  · rintro ⟨hc, hn, hall⟩
    exact ⟨hc, node, hn, hall, h.cStr_old howned hn⟩

/-- A node that is added while the connection is up is set up. -/
theorem setsUp (h : Registered platform config oracle m.deviceId version m.accounts w w'
      channelUri oldNodes pushAccounts)
    (hreached : Reached platform config oracle past w)
    (howned : AllOwned platform oracle past w) (hc : w.connected = true) {node : String}
    (hn : node ∈ (collected oldNodes pushAccounts).addNodes.map Prod.fst) :
  SetsUp node (outputs ⟨.received (.setPushAccounts m) valid, w, w'⟩)
  := by
  have hsets := setsUp_registrationOutputs platform config hn
  obtain ⟨⟨a, ha, rfl⟩, -⟩ := of_mem_map_addNodes hn
  obtain ⟨i, _, _, -, hnode, -⟩ := h.account_owned valid hreached howned ha
  rw [hnode, cStr_node, ← hnode] at hsets
  rw [outputs_eq h.log, hc]
  apply hsets

/-- A node that is created is added while the connection is up. -/
theorem of_creates (valid : (Message.setPushAccounts m).Valid)
    (h : Registered platform config oracle m.deviceId version m.accounts w w'
      channelUri oldNodes pushAccounts)
    (hreached : Reached platform config oracle past w)
    (howned : AllOwned platform oracle past w) {node : String}
    (hcreates : Creates node (outputs ⟨.received (.setPushAccounts m) valid, w, w'⟩)) :
  w.connected = true ∧ node ∈ (collected oldNodes pushAccounts).addNodes.map Prod.fst
  := by
  rw [outputs_eq h.log] at hcreates
  obtain ⟨hc, n, hn, rfl⟩ := creates_registrationOutputs hcreates
  obtain ⟨⟨a, ha, rfl⟩, -⟩ := of_mem_map_addNodes hn
  obtain ⟨i, _, _, -, hnode, -⟩ := h.account_owned valid hreached howned ha
  rw [hnode, cStr_node, ← hnode]
  exact ⟨hc, hn⟩

end Registered

end PushServer

end UwpxPush
