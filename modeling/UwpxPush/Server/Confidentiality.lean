import UwpxPush.Server.Ownership

/-!
# Confidentiality between devices

The node and the secret of an account are found again under the hash of the device id and
the account id joined by an underscore, so a device is told what was drawn for another one
when their accounts are joined to the same string, and only then.
-/

namespace UwpxPush

/-- No device is told a node or a secret that was drawn for an account of another device. -/
def Confidential (oracle : Oracle) (past : History) : Prop :=
  ∀ t ∈ past, ∀ deviceId accounts, told t deviceId = some accounts → ∀ a ∈ accounts,
    ∀ i other accountId, Drawn past i other accountId → other ≠ deviceId →
      a.node ≠ oracle.node i ∧ a.secret ≠ oracle.secret i

/-- Where the accounts of different devices are joined to different strings, no device is
told what was drawn for another one. -/
theorem confidential_of_joinedApart {platform : Platform} {config : Configuration}
    {oracle : Oracle} {past : History} {w : World} (h : Reached platform config oracle past w)
    (hfresh : Admitted (Fresh oracle) past) (hsecrets : Admitted (FreshSecrets oracle) past)
    (hcollision : NoCollision platform past) (hjoined : JoinedApart past) :
  Confidential oracle past
  := by
  intro t ht deviceId accounts htold a ha i other accountId hother hne
  obtain ⟨hlisted, j, owner, accountId', hdrawn, hnode, hsecret, hkey⟩ :=
    h.told_owned hfresh ht htold ha
  have howner : deviceId = owner :=
    hjoined.keysApart hcollision _ _ _ _ hlisted hdrawn.listed hkey
  have hij : j ≠ i := by
    rintro rfl
    apply hne
    rw [howner]
    apply (h.drawn_unique hother hdrawn).1
  constructor
  · rw [hnode]
    intro heq
    apply hij (h.node_injective hfresh (h.drawn_lt hdrawn) (h.drawn_lt hother) heq)
  · rw [hsecret]
    intro heq
    apply hij (h.secret_injective hsecrets (h.drawn_lt hdrawn) (h.drawn_lt hother) heq)

/-- Two devices register accounts that are joined to different strings. -/
theorem confidential_twoRegistrations :
  Confidential Sample.oracle (Sample.run Sample.twoRegistrations).1
  := by
  obtain ⟨hfresh, hsecrets, hcollision, hjoined⟩ :
      Admitted (Fresh Sample.oracle) (Sample.run Sample.twoRegistrations).1
        ∧ Admitted (FreshSecrets Sample.oracle) (Sample.run Sample.twoRegistrations).1
        ∧ NoCollision Sample.platform (Sample.run Sample.twoRegistrations).1
        ∧ JoinedApart (Sample.run Sample.twoRegistrations).1 := by
    decide +kernel
  exact confidential_of_joinedApart (Sample.reached_run Sample.twoRegistrations) hfresh hsecrets
    hcollision hjoined

/-- Two devices whose accounts are joined to the same string. -/
def Sample.ambiguous : List Event :=
  [setChannelUri "x" (by decide), setPushAccounts "x" ["y_z"] (by decide),
    setChannelUri "x_y" (by decide), setPushAccounts "x_y" ["z"] (by decide)]

/-- The device `x_y` is told the node and the secret of the account `y_z` of the device `x`. -/
theorem not_confidential_ambiguous :
  Reached Sample.platform Sample.config Sample.oracle (Sample.run Sample.ambiguous).1
      (Sample.run Sample.ambiguous).2
    ∧ Admitted (Fresh Sample.oracle) (Sample.run Sample.ambiguous).1
    ∧ Admitted (FreshSecrets Sample.oracle) (Sample.run Sample.ambiguous).1
    ∧ NoCollision Sample.platform (Sample.run Sample.ambiguous).1
    ∧ ¬Confidential Sample.oracle (Sample.run Sample.ambiguous).1
  := by
  let past := (Sample.run Sample.ambiguous).1
  obtain ⟨hfresh, hsecrets, hcollision, hdrawn, t, ht, htold⟩ :
      Admitted (Fresh Sample.oracle) past ∧ Admitted (FreshSecrets Sample.oracle) past
        ∧ NoCollision Sample.platform past
        ∧ (∃ t ∈ past, t.event.deviceId = some "x" ∧ t.before.created ≤ 0
          ∧ 0 < t.after.created ∧ t.event.accounts[0 - t.before.created]? = some "y_z")
        ∧ ∃ t ∈ past, told t "x_y"
          = some [⟨"z", Sample.oracle.node 0, Sample.oracle.secret 0, true⟩] := by
    decide +kernel
  refine ⟨Sample.reached_run Sample.ambiguous, hfresh, hsecrets, hcollision, ?_⟩
  intro h
  apply (h t ht _ _ htold _ List.mem_cons_self 0 "x" "y_z" hdrawn (by decide)).1
  rfl

end UwpxPush
