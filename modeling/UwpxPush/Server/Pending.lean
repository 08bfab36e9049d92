import Mathlib.Data.List.Dedup
import Mathlib.Data.List.Induction
import UwpxPush.Server.PushServer

/-!
# The accounts of an answer

The loop of `set_push_accounts` over the accounts collects the answer, the nodes to delete
and the nodes to add.  A node is deleted when it is old and no account has it, and it is
added when an account has it that is not the first one with an old node.
-/

namespace UwpxPush

namespace PushServer

/-- What the loop collects for given accounts. -/
def collected (oldNodes : List String) (accounts : List PushAccount) : Pending :=
  accounts.foldl Pending.add { pushAccounts := [], deleteNodes := oldNodes.dedup, addNodes := [] }

/-- Set the flags of the accounts whose nodes are added. -/
def setFlags (success : Bool) (added : List (String × Nat)) (accounts : List PushAccount) :
    List PushAccount :=
  added.foldl (fun l n => l.modify n.2 fun account => { account with success }) accounts

variable {oldNodes : List String} {accounts : List PushAccount}

theorem collected_append (account : PushAccount) :
  collected oldNodes (accounts ++ [account]) = (collected oldNodes accounts).add account
  := by
  rw [collected, List.foldl_append]
  rfl

@[simp]
theorem pushAccounts_collected :
  (collected oldNodes accounts).pushAccounts = accounts
  := by
  induction accounts using List.reverseRecOn with
  | nil => rfl
  | append_singleton accounts account ih => rw [collected_append, Pending.add, ih]

theorem nodup_deleteNodes :
  (collected oldNodes accounts).deleteNodes.Nodup
  := by
  induction accounts using List.reverseRecOn with
  | nil => apply List.nodup_dedup
  | append_singleton accounts account ih =>
      rw [collected_append]
      apply ih.erase

/-- The old nodes that no account has are deleted. -/
theorem mem_deleteNodes {node : String} :
  node ∈ (collected oldNodes accounts).deleteNodes
    ↔ node ∈ oldNodes ∧ ∀ a ∈ accounts, a.node ≠ node
  := by
  induction accounts using List.reverseRecOn with
  | nil => simp [collected]
  | append_singleton accounts account ih =>
      rw [collected_append, Pending.add, nodup_deleteNodes.mem_erase_iff, ih]
      constructor
      · rintro ⟨hne, hold, hall⟩
        use hold
        intro a ha
        rcases List.mem_append.mp ha with ha | ha
        · apply hall a ha
        · rw [List.mem_singleton.mp ha]
          apply hne.symm
      · rintro ⟨hold, hall⟩
        constructor
        · apply (hall account (by simp)).symm
        · use hold
          intro a ha
          apply hall a
          simp [ha]

/-- The added nodes are those of accounts. -/
theorem exists_of_mem_addNodes {node : String} {j : Nat}
    (h : (node, j) ∈ (collected oldNodes accounts).addNodes) :
  ∃ a ∈ accounts, a.node = node
  := by
  induction accounts using List.reverseRecOn with
  | nil => cases h
  | append_singleton accounts account ih =>
      have hold : (node, j) ∈ (collected oldNodes accounts).addNodes →
          ∃ a ∈ accounts ++ [account], a.node = node := by
        intro h
        obtain ⟨a, ha, hnode⟩ := ih h
        exact ⟨a, List.mem_append_left _ ha, hnode⟩
      simp only [collected_append, Pending.add] at h
      split at h
      · apply hold h
      · rcases List.mem_cons.mp h with h | h
        · cases h
          exact ⟨account, by simp, rfl⟩
        · apply hold (List.mem_filter.mp h).1

/-- An account replaces what is added for its node, unless the node was to be deleted. -/
theorem mem_addNodes_append {node : String} {j : Nat} (account : PushAccount) :
  (node, j) ∈ (collected oldNodes (accounts ++ [account])).addNodes
    ↔ (node, j) ∈ (collected oldNodes accounts).addNodes ∧ account.node ≠ node
      ∨ account.node ∉ (collected oldNodes accounts).deleteNodes ∧ node = account.node
        ∧ j = accounts.length
  := by
  simp only [collected_append, Pending.add, pushAccounts_collected]
  split
  · next hmem =>
      -- No account has had the node, so none is added for it.
      have hne : (node, j) ∈ (collected oldNodes accounts).addNodes → account.node ≠ node := by
        rintro h rfl
        obtain ⟨a, ha, hnode⟩ := exists_of_mem_addNodes h
        exact (mem_deleteNodes.mp hmem).2 a ha hnode
      constructor
      · intro h
        exact .inl ⟨h, hne h⟩
      · rintro (⟨h, -⟩ | ⟨hmem', -⟩)
        · apply h
        · exact (hmem' hmem).elim
  · next hmem =>
      simp only [List.mem_cons, List.mem_filter, decide_eq_true_eq, Prod.mk.injEq]
      constructor
      · rintro (⟨rfl, rfl⟩ | ⟨h, hne⟩)
        · exact .inr ⟨hmem, rfl, rfl⟩
        · exact .inl ⟨h, Ne.symm hne⟩
      · rintro (⟨h, hne⟩ | ⟨-, rfl, rfl⟩)
        · exact .inr ⟨h, Ne.symm hne⟩
        · exact .inl ⟨rfl, rfl⟩

/-- A node is added for the last account that has it, unless that is the only one and the
node is old. -/
theorem mem_addNodes {node : String} {j : Nat} :
  (node, j) ∈ (collected oldNodes accounts).addNodes
    ↔ ∃ before account after, accounts = before ++ account :: after ∧ before.length = j
      ∧ account.node = node ∧ (∀ a ∈ after, a.node ≠ node)
      ∧ (node ∈ oldNodes → ∃ a ∈ before, a.node = node)
  := by
  induction accounts using List.reverseRecOn with
  | nil => simp [collected]
  | append_singleton accounts account ih =>
      rw [mem_addNodes_append, ih, mem_deleteNodes]
      constructor
      · rintro (⟨⟨before, a, after, rfl, hj, ha, hafter, hold⟩, hne⟩ | ⟨hmem, rfl, rfl⟩)
        · use before, a, after ++ [account]
          refine ⟨by simp, hj, ha, ?_, hold⟩
          intro b hb
          rcases List.mem_append.mp hb with hb | hb
          · apply hafter b hb
          · rw [List.mem_singleton.mp hb]
            apply hne
        · use accounts, account, []
          refine ⟨rfl, rfl, rfl, by simp, ?_⟩
          intro hold
          by_contra hall
          apply hmem
          use hold
          intro a ha heq
          exact hall ⟨a, ha, heq⟩
      · rintro ⟨before, a, after, heq, hj, ha, hafter, hold⟩
        rcases List.eq_nil_or_concat after with rfl | ⟨after, b, rfl⟩
        · obtain ⟨rfl, hb⟩ := List.append_inj' heq rfl
          cases hb
          refine .inr ⟨?_, ha.symm, hj.symm⟩
          rintro ⟨hmem, hall⟩
          rw [ha] at hmem hall
          obtain ⟨b, hb, hbn⟩ := hold hmem
          exact hall b hb hbn
        · have heq' : accounts ++ [account] = (before ++ a :: after) ++ [b] := by
            rw [heq]
            simp
          obtain ⟨rfl, hb⟩ := List.append_inj' heq' rfl
          cases hb
          refine .inl ⟨⟨before, a, after, rfl, hj, ha, ?_, hold⟩, hafter account (by simp)⟩
          intro b hb
          apply hafter b
          simp [hb]

/-- A node is added once. -/
theorem nodup_addNodes :
  ((collected oldNodes accounts).addNodes.map Prod.fst).Nodup
  := by
  induction accounts using List.reverseRecOn with
  | nil => simp [collected]
  | append_singleton accounts account ih =>
      rw [collected_append, Pending.add]
      split
      · apply ih
      · simp only [List.map_cons, List.nodup_cons]
        constructor
        · simp
        · apply List.Nodup.sublist _ ih
          apply List.Sublist.map
          apply List.filter_sublist

/-! ### The flags -/

/-- Setting flags changes the accounts at the given positions, and only their flags. -/
theorem getElem?_setFlags (success : Bool) (added : List (String × Nat)) (j : Nat) :
  (setFlags success added accounts)[j]?
    = accounts[j]?.map fun a =>
      if j ∈ added.map Prod.snd then { a with success } else a
  := by
  induction added generalizing accounts with
  | nil => simp [setFlags]
  | cons n added ih =>
      rw [setFlags, List.foldl_cons, ← setFlags, ih, List.getElem?_modify]
      match accounts[j]? with
      | none => simp
      | some a =>
          by_cases hn : n.2 = j
          · simp [hn]
          · have hmem : j ∈ (n :: added).map Prod.snd ↔ j ∈ added.map Prod.snd := by
              rw [List.map_cons, List.mem_cons]
              apply or_iff_right (Ne.symm hn)
            simp only [hn, hmem, Option.map_eq_map, Option.map_some, if_false]

/-- Setting flags keeps everything that does not depend on them. -/
theorem map_setFlags {β : Type} (success : Bool) (added : List (String × Nat))
    (f : PushAccount → β) (hf : ∀ a success, f { a with success } = f a) :
  (setFlags success added accounts).map f = accounts.map f
  := by
  apply List.ext_getElem?
  intro j
  rw [List.getElem?_map, getElem?_setFlags, List.getElem?_map, Option.map_map]
  congr 1
  funext a
  simp only [Function.comp_apply]
  split
  · apply hf
  · rfl

end PushServer

end UwpxPush
