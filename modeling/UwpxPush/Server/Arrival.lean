import UwpxPush.Server.Delivery
import UwpxPush.Server.Expiry
import UwpxPush.Server.Sizes
import UwpxPush.Server.Stability

/-!
# Which events arrive

The list of a device is determined by the last channel URI it set and by its last
registration, and the record of a node by the registration that told it last.  A registration
that draws a new node makes a record of three entries, through which events arrive; one that
tells a node again appends to the record, and events for the node are dropped from then on.
-/

namespace UwpxPush

open KeyValue

/-- The channel URI that a request has set for the device. -/
def uriSet (t : Transition Event World) (deviceId : String) : Option String :=
  match t.event with
  | .received (.setChannelUri m) _ =>
      if m.deviceId = deviceId ∧ .reply (.successResponse .ofSuccess) ∈ outputs t then
        some m.channelUri
      else none
  | _ => none

/-- The last channel URI that was set for the device. -/
def lastUri (past : History) (deviceId : String) : Option String :=
  past.findSome? fun t => uriSet t deviceId

/-- The protocol version of a request to set accounts. -/
def Event.version : Event → Int
  | received (.setPushAccounts m) _ => m.version
  | _ => 0

/-- The list of a device as the requests of the device determine it. -/
def deviceList (platform : Platform) (past : History) (deviceId : String) : List String :=
  match lastUri past deviceId with
  | none => []
  | some channelUri => channelUri ::
      match lastRegistration past deviceId with
      | none => []
      | some t => toString t.event.version
          :: t.event.accounts.map (RedisClient.genAccount platform deviceId)

/-- The device has the list that its requests determine, and it has set a channel URI before it
was registered. -/
structure DeviceKnown (platform : Platform) (past : History) (w : World) (deviceId : String) :
    Prop where
  list : w.contents.elements deviceId = deviceList platform past deviceId
  uri : lastUri past deviceId = none → lastRegistration past deviceId = none

section

variable {platform : Platform} {config : Configuration} {oracle : Oracle} {past : History}
  {t : Transition Event World} {w w' : World} {e : Event} {d : String}

theorem lastUri_of_some {uri : String} (h : uriSet t d = some uri) :
  lastUri (t :: past) d = some uri
  := by rw [lastUri, List.findSome?_cons, h]

theorem lastUri_of_none (h : uriSet t d = none) :
  lastUri (t :: past) d = lastUri past d
  := by
  rw [lastUri, List.findSome?_cons, h]
  rfl

theorem Named.of_uriSet {uri : String} (ht : t ∈ past) (h : uriSet t d = some uri) :
  Named past d
  := by
  unfold uriSet at h
  split at h
  · next m valid he =>
      split at h
      · next hd =>
          use t, ht
          rw [he, ← hd.1]
          rfl
      · cases h
  · cases h

theorem mem_of_lastRegistration (h : lastRegistration past d = some t) :
  t ∈ past ∧ ∃ accounts, told t d = some accounts
  := by
  use List.mem_of_find?_eq_some h
  have hsome := List.find?_some h
  exact Option.isSome_iff_exists.mp hsome

theorem lastRegistration_of_not_named (h : ¬Named past d) :
  lastRegistration past d = none
  := by
  rw [Option.eq_none_iff_forall_ne_some]
  intro t ht
  obtain ⟨hmem, accounts, htold⟩ := mem_of_lastRegistration ht
  exact h (Named.of_told hmem htold)

theorem lastUri_of_not_named (h : ¬Named past d) :
  lastUri past d = none
  := by
  rw [lastUri, List.findSome?_eq_none_iff]
  intro t ht
  rw [Option.eq_none_iff_forall_ne_some]
  intro uri huri
  exact h (Named.of_uriSet ht huri)

/-! ### The list of a device -/

/-- A transition without success for the device leaves its list as it is determined. -/
theorem DeviceKnown.of_same (h : DeviceKnown platform past w d) (htold : told t d = none)
    (huri : uriSet t d = none) (hsame : w'.contents d = w.contents d) :
  DeviceKnown platform (t :: past) w' d
  := by
  constructor
  · rw [Contents.elements_eq_of_apply_eq hsame, deviceList, lastUri_of_none huri,
      lastRegistration_of_none htold]
    apply h.list
  · rw [lastUri_of_none huri, lastRegistration_of_none htold]
    apply h.uri

/-- A registration of the device determines its list. -/
theorem DeviceKnown.registered {m : SetPushAccountsMessage}
    {valid : (Message.setPushAccounts m).Valid} {channelUri : String} {oldNodes : List String}
    {pushAccounts : List PushAccount} (h : DeviceKnown platform past w m.deviceId)
    (hr : PushServer.Registered platform config oracle m.deviceId (toString m.version)
      m.accounts w w' channelUri oldNodes pushAccounts) :
  DeviceKnown platform (⟨.received (.setPushAccounts m) valid, w, w'⟩ :: past) w' m.deviceId
  := by
  have htold : told ⟨.received (.setPushAccounts m) valid, w, w'⟩ m.deviceId = some _ :=
    told_registered hr
  have hlast : lastRegistration (⟨.received (.setPushAccounts m) valid, w, w'⟩ :: past) m.deviceId
      = some _ :=
    lastRegistration_of_told htold
  have huri : lastUri (⟨.received (.setPushAccounts m) valid, w, w'⟩ :: past) m.deviceId
      = some channelUri := by
    rw [lastUri_of_none rfl]
    have hhead := hr.head
    rw [h.list, deviceList] at hhead
    split at hhead
    · cases hhead
    · next uri huri =>
        rw [huri]
        apply hhead
  have hkeys : pushAccounts.map (Contents.accountKey platform m.deviceId)
      = m.accounts.map (RedisClient.genAccount platform m.deviceId) := by
    rw [← PushServer.map_accountId_resolveAll
      (c := w.contents) w.created m.accounts, ← hr.resolved, List.map_map]
    rfl
  constructor
  · rw [Contents.elements_of_eq hr.contents_device, deviceList, huri, hlast, hkeys]
    rfl
  · rw [huri]
    rintro ⟨⟩

/-- A new channel URI is the first entry of the list of the device. -/
theorem DeviceKnown.setChannelUri (h : DeviceKnown platform past w d) {uri : String}
    (htold : told t d = none) (huri : uriSet t d = some uri)
    (hlist : w'.contents.elements d = uri :: (w.contents.elements d).tail) :
  DeviceKnown platform (t :: past) w' d
  := by
  constructor
  · rw [hlist, h.list, deviceList, deviceList, lastUri_of_some huri,
      lastRegistration_of_none htold]
    rcases hlast : lastUri past d with _ | uri'
    · rw [h.uri hlast]
      rfl
    · rfl
  · rw [lastUri_of_some huri]
    rintro ⟨⟩

/-- A request to set a channel URI determines the list of its device. -/
theorem DeviceKnown.move_setChannelUri {m : SetChannelUriMessage}
    {valid : (Message.setChannelUri m).Valid} (h : DeviceKnown platform past w d) :
  DeviceKnown platform (⟨.received (.setChannelUri m) valid, w,
      w.handle platform config oracle (.received (.setChannelUri m) valid)⟩ :: past)
    (w.handle platform config oracle (.received (.setChannelUri m) valid)) d
  := by
  have hcases := @handle_setChannelUri platform config oracle w m
  have hhandle : (Server.run oracle (PushServer.processMessage platform config (.setChannelUri m))
      w).2 = w.handle platform config oracle (.received (.setChannelUri m) valid) := rfl
  rw [hhandle] at hcases
  generalize w.handle platform config oracle (.received (.setChannelUri m) valid) = w' at hcases ⊢
  have hfailed : ∀ {out : List Output}, w'.log = w.log ++ out →
      .reply (.successResponse .ofSuccess) ∉ out →
      uriSet ⟨.received (.setChannelUri m) valid, w, w'⟩ d = none := by
    intro out hlog hout
    apply if_neg
    rw [outputs_eq hlog]
    rintro ⟨-, hmem⟩
    exact hout hmem
  rcases hcases with ⟨-, redis, -, hlookup, rfl⟩ | rfl | ⟨error, rfl⟩
  · have hlog : (({ w with redis } : World).tell (.reply (.successResponse .ofSuccess))).log
        = w.log ++ [.reply (.successResponse .ofSuccess)] := rfl
    have hcontents : (({ w with redis } : World).tell
        (.reply (.successResponse .ofSuccess))).contents
        = w.contents.setChannelUri (w.redis.clock + timeout) m.deviceId m.channelUri := hlookup
    have htold : told ⟨.received (.setChannelUri m) valid, w,
        ({ w with redis } : World).tell (.reply (.successResponse .ofSuccess))⟩ d = none :=
      told_of_no_accounts hlog (by simp [Output.accounts])
    by_cases hm : m.deviceId = d
    · subst hm
      apply h.setChannelUri htold
      · apply if_pos
        rw [outputs_eq hlog]
        exact ⟨rfl, List.mem_cons_self⟩
      · rw [hcontents]
        exact Contents.elements_of_eq (if_pos rfl)
    · apply h.of_same htold
      · apply if_neg
        rintro ⟨heq, -⟩
        exact hm heq
      · rw [hcontents]
        exact if_neg (Ne.symm hm)
  · have hlog : w'.log = w'.log ++ [] := (List.append_nil _).symm
    exact h.of_same (told_of_log_eq rfl d) (hfailed hlog (by simp)) rfl
  · have hlog : (w.tell (.reply (.errorResponse (.ofError error)))).log
        = w.log ++ [.reply (.errorResponse (.ofError error))] := rfl
    exact h.of_same (told_of_no_accounts hlog (by simp [Output.accounts]))
      (hfailed hlog (by simp)) rfl

/-- Every event leaves a device with the list that its requests determine. -/
theorem DeviceKnown.move (h : DeviceKnown platform past w d)
    (hreached : Reached platform config oracle past w)
    (hreached' : Reached platform config oracle (⟨e, w, w'⟩ :: past) w')
    (hunexpired : Unexpired past ⟨e, w, w'⟩)
    (hfresh : Admitted (Fresh oracle) (⟨e, w, w'⟩ :: past))
    (hroles : RolesApart platform oracle (⟨e, w, w'⟩ :: past))
    (hd : Named (⟨e, w, w'⟩ :: past) d) :
  DeviceKnown platform (⟨e, w, w'⟩ :: past) w' d
  := by
  obtain rfl : w' = w.handle platform config oracle e := by
    cases hreached'
    rfl
  by_cases he : ∃ m valid, e = .received (.setChannelUri m) valid
  · obtain ⟨m, valid, rfl⟩ := he
    apply h.move_setChannelUri
  · have huri : ∀ w', uriSet ⟨e, w, w'⟩ d = none := by
      intro w'
      unfold uriSet
      split
      · next m valid heq => exact (he ⟨m, valid, heq⟩).elim
      · rfl
    have hmove := handle_move platform config oracle w hreached.typed e
    generalize w.handle platform config oracle e = w' at *
    have hmove' := hmove
    cases hmove with
    | @registered m valid _ channelUri oldNodes pushAccounts hr =>
        by_cases hm : d = m.deviceId
        · subst hm
          apply h.registered hr
        · apply h.of_same _ (huri _)
          · exact hmove'.contents_foreign hreached hreached' hfresh hroles rfl (.inl ⟨hd, hm⟩)
          · apply if_neg
            intro heq
            exact hm (Option.some.inj heq).symm
    | refused hr =>
        apply h.of_same (told_refused hr d) (huri _)
        rw [World.contents, hr.redis, World.contents]
    | @channelUri m valid _ uri contents clock connected created log =>
        exact (he ⟨m, valid, rfl⟩).elim
    | other heffect =>
        obtain ⟨out, hlog, hout⟩ := heffect.outputs
        apply h.of_same (told_of_no_accounts hlog fun o ho => (hout o ho).accounts.1) (huri _)
        apply heffect.lookup
        rintro rfl
        exact hroles.token hd
    | connection up => exact h.of_same (told_of_log_eq rfl d) (huri _) rfl
    | advance dt =>
        apply h.of_same _ (huri _) (congrFun (hunexpired dt rfl) d)
        exact told_of_log_eq rfl d

/-- In every run without expiry whose names are new and whose keys have one role each, the list
of a device is determined by its last requests. -/
theorem Reached.deviceKnown (h : Reached platform config oracle past w)
    (hunexpired : Admitted Unexpired past) (hfresh : Admitted (Fresh oracle) past)
    (hroles : RolesApart platform oracle past) (hd : Named past d) :
  DeviceKnown platform past w d
  := by
  induction h with
  | start hw =>
      obtain ⟨t, ht, -⟩ := hd
      cases ht
  | @next past w h e ih =>
      have hold : DeviceKnown platform past w d := by
        by_cases hnamed : Named past d
        · exact ih hunexpired.2 hfresh.2 hroles.of_cons hnamed
        · have hmove := handle_move platform config oracle w (Reached.typed h) e
          constructor
          · rw [hroles.elements_of_not_named (Reached.owned h hfresh.2).2 hmove.created.1 hd
              hnamed, deviceList, lastUri_of_not_named hnamed]
          · intro _
            exact lastRegistration_of_not_named hnamed
      exact hold.move h (Run.next h e) hunexpired.1 hfresh hroles hd

/-! ### The records of nodes -/

/-- The nodes a device is told were drawn for it. -/
theorem Reached.told_drawn (h : Reached platform config oracle past w)
    (hfresh : Admitted (Fresh oracle) past) (hroles : RolesApart platform oracle past)
    (ht : t ∈ past) {accounts : List PushAccount} (htold : told t d = some accounts)
    {a : PushAccount} (ha : a ∈ accounts) :
  ∃ i accountId, Drawn past i d accountId ∧ a.node = oracle.node i
  := by
  obtain ⟨hlisted, i, owner, accountId, hdrawn, hnode, -, hkey⟩ := h.told_owned hfresh ht htold ha
  obtain rfl := hroles.apart _ _ _ _ hlisted hdrawn.listed hkey
  exact ⟨i, accountId, hdrawn, hnode⟩

/-- The records of the nodes that a device was told last stay as they are. -/
theorem Reached.record_kept (h : Reached platform config oracle past w)
    (hunexpired : Admitted Unexpired past) (hfresh : Admitted (Fresh oracle) past)
    (hroles : RolesApart platform oracle past) (hlast : lastRegistration past d = some t)
    {accounts : List PushAccount} (htold : told t d = some accounts) {a : PushAccount}
    (ha : a ∈ accounts) :
  w.contents a.node = t.after.contents a.node
  := by
  induction h with
  | start hw => cases hlast
  | @next past w h e ih =>
      have hreached' : Reached platform config oracle _ _ := Run.next h e
      have hmove := handle_move platform config oracle w (Reached.typed h) e
      rcases hnew : told ⟨e, w, w.handle platform config oracle e⟩ d with _ | accounts'
      · rw [lastRegistration_of_none hnew] at hlast
        rw [← ih hunexpired.2 hfresh.2 hroles.of_cons hlast]
        obtain ⟨i, accountId, hdrawn, hnode⟩ := Reached.told_drawn h hfresh.2 hroles.of_cons
          (mem_of_lastRegistration hlast).1 htold ha
        have hd : Named (⟨e, w, w.handle platform config oracle e⟩ :: past) d :=
          hdrawn.cons.listed.named
        rw [hnode]
        rcases hmove.contents_own h hreached' hfresh hroles hnew (node_ne_token i)
          (Ne.symm (hroles.ne_node hreached' hd (hreached'.drawn_lt hdrawn.cons)))
          (fun d' hne => .inr (.inr ⟨i, d, accountId, hdrawn.cons, hne.symm, rfl⟩)) with
          ⟨-, hsame⟩ | ⟨dt, he, -⟩
        · exact hsame
        · exact congrFun (hunexpired.1 dt he) _
      · rw [lastRegistration_of_told hnew] at hlast
        cases hlast
        rfl

/-- The node of the account at a position is the one drawn for it, or one drawn before. -/
theorem PushServer.Registered.node_at {m : SetPushAccountsMessage} {version channelUri : String}
    {oldNodes : List String} {pushAccounts : List PushAccount}
    (hr : Registered platform config oracle m.deviceId version m.accounts w w' channelUri oldNodes
      pushAccounts) (hreached : Reached platform config oracle past w)
    (howned : AllOwned platform oracle past w) {j : Nat} {a : PushAccount}
    (ha : pushAccounts[j]? = some a) :
  w.contents.reusable platform m.deviceId a.accountId = none
      ∧ a.node = oracle.node (w.created + j)
    ∨ (∃ secret, w.contents.reusable platform m.deviceId a.accountId = some (a.node, secret))
      ∧ ∃ i < w.created, a.node = oracle.node i
  := by
  rw [hr.resolved, resolveAll, List.getElem?_mapIdx, Option.map_eq_some_iff] at ha
  obtain ⟨accountId, -, rfl⟩ := ha
  rw [accountId_resolve]
  unfold resolve
  split
  · next hnone => exact .inl ⟨hnone, rfl⟩
  · next node secret hreuse =>
      obtain ⟨hnode, -⟩ := Contents.reusable_eq_some.mp hreuse
      obtain ⟨deadline, hstring⟩ := Contents.nodeUnder_eq_some.mp hnode
      obtain ⟨i, owner, accountId', ho⟩ := howned _ _ _ hstring
      exact .inr ⟨⟨secret, hreuse⟩, i, hreached.drawn_lt ho.drawn, ho.node_eq⟩

/-- A node that is drawn for an account is the node of this account only. -/
theorem PushServer.Registered.records_drawn {m : SetPushAccountsMessage}
    {valid : (Message.setPushAccounts m).Valid} {version channelUri : String}
    {oldNodes : List String} {pushAccounts : List PushAccount}
    (hr : Registered platform config oracle m.deviceId version m.accounts w w' channelUri oldNodes
      pushAccounts) (hreached : Reached platform config oracle past w)
    (hreached' : Reached platform config oracle
      (⟨.received (.setPushAccounts m) valid, w, w'⟩ :: past) w')
    (hfresh : Admitted (Fresh oracle) (⟨.received (.setPushAccounts m) valid, w, w'⟩ :: past))
    (howned : AllOwned platform oracle past w) {a : PushAccount} (ha : a ∈ pushAccounts)
    (hnone : w.contents.reusable platform m.deviceId a.accountId = none) :
  ∃ i, w.created ≤ i ∧ i < w'.created ∧ a.node = oracle.node i
    ∧ Contents.records m.deviceId pushAccounts a.node = [a.accountId, m.deviceId, a.secret]
  := by
  obtain ⟨before, after, heq⟩ := List.append_of_mem ha
  have hlength : pushAccounts.length = m.accounts.length := by
    rw [hr.resolved, length_resolveAll]
  have hlt : ∀ {j : Nat} {c : PushAccount}, pushAccounts[j]? = some c →
      w.created + j < w'.created := by
    intro j c hc
    have hj := (List.getElem?_eq_some_iff.mp hc).1
    rw [hr.created]
    omega
  have hindex : pushAccounts[before.length]? = some a := by
    rw [heq, List.getElem?_append_right le_rfl]
    simp
  have hnode : a.node = oracle.node (w.created + before.length) := by
    rcases hr.node_at hreached howned hindex with ⟨-, hnode⟩ | ⟨⟨secret, hreuse⟩, -⟩
    · apply hnode
    · cases hnone.symm.trans hreuse
  have honly : ∀ {j : Nat} {c : PushAccount}, pushAccounts[j]? = some c → c.node = a.node →
      j = before.length := by
    intro j c hc hca
    rcases hr.node_at hreached howned hc with ⟨-, hn⟩ | ⟨-, i, hi, hn⟩
    · have := hreached'.node_injective hfresh (hlt hc) (hlt hindex)
        (hn.symm.trans (hca.trans hnode))
      omega
    · have := hreached'.node_injective hfresh
        (lt_of_lt_of_le hi (by rw [hr.created]; omega)) (hlt hindex)
        (hn.symm.trans (hca.trans hnode))
      omega
  use w.created + before.length, Nat.le_add_right _ _, hlt hindex, hnode
  have hbefore : before.filter (·.node = a.node) = [] := by
    rw [List.filter_eq_nil_iff]
    intro c hc hca
    obtain ⟨j, hj⟩ := List.mem_iff_getElem?.mp hc
    have hjlt := (List.getElem?_eq_some_iff.mp hj).1
    have := honly (by rw [heq, List.getElem?_append_left hjlt, hj]) (by simpa using hca)
    omega
  have hafter : after.filter (·.node = a.node) = [] := by
    rw [List.filter_eq_nil_iff]
    intro c hc hca
    obtain ⟨j, hj⟩ := List.mem_iff_getElem?.mp hc
    have hmem : pushAccounts[before.length + (j + 1)]? = some c := by
      rw [heq, List.getElem?_append_right (Nat.le_add_right _ _)]
      simpa using hj
    have := honly hmem (by simpa using hca)
    omega
  rw [Contents.records, heq, List.filter_append, List.filter_cons_of_pos (by simp), hbefore, hafter]
  rfl

/-- After a registration, the list of the node of an account has exactly three entries if and
only if the node was drawn for it. -/
theorem PushServer.Registered.record_iff {m : SetPushAccountsMessage}
    {valid : (Message.setPushAccounts m).Valid} {version channelUri : String}
    {oldNodes : List String} {pushAccounts : List PushAccount}
    (hr : Registered platform config oracle m.deviceId version m.accounts w w' channelUri oldNodes
      pushAccounts) (hreached : Reached platform config oracle past w)
    (hreached' : Reached platform config oracle
      (⟨.received (.setPushAccounts m) valid, w, w'⟩ :: past) w')
    (hfresh : Admitted (Fresh oracle) (⟨.received (.setPushAccounts m) valid, w, w'⟩ :: past))
    {a : PushAccount} (ha : a ∈ pushAccounts) :
  (w.contents.reusable platform m.deviceId a.accountId = none
      ∧ w'.contents.elements a.node = [a.accountId, m.deviceId, a.secret])
    ∨ (w.contents.reusable platform m.deviceId a.accountId ≠ none
      ∧ (w'.contents.elements a.node).length ≠ 3)
  := by
  obtain ⟨howned, hlists⟩ := hreached.owned hfresh.2
  have hne := hr.account_ne_device valid hreached hreached' howned hfresh.1 ha
  have hlist : w'.contents.elements a.node
      = w.contents.elements a.node ++ Contents.records m.deviceId pushAccounts a.node :=
    Contents.elements_of_eq (hr.contents_account hreached.typed ha hne)
  rcases hreuse : w.contents.reusable platform m.deviceId a.accountId with _ | ⟨node, secret⟩
  · obtain ⟨i, hle, hlt, hnode, hrecords⟩ :=
      hr.records_drawn hreached hreached' hfresh howned ha hreuse
    apply Or.inl
    use rfl
    rw [hlist, hrecords, hnode, elements_of_fresh hlists hfresh.1 rfl hle hlt]
    rfl
  · apply Or.inr
    use nofun
    obtain ⟨j, hj⟩ := List.mem_iff_getElem?.mp ha
    have hthree : (w.contents.elements a.node).length = 3 := by
      rcases hr.node_at hreached howned hj with ⟨hnone, -⟩ | ⟨⟨s, hs⟩, -⟩
      · cases hnone.symm.trans hreuse
      · obtain ⟨-, hsecret⟩ := Contents.reusable_eq_some.mp hs
        obtain ⟨x, y, hl⟩ := Contents.secretOf_eq_some.mp hsecret
        rw [hl]
        rfl
    have hsecret : a.secret ∈ ([] ++ Contents.records m.deviceId pushAccounts a.node).drop 2 :=
      Contents.secret_mem_records ha []
    have hpos := List.length_pos_of_mem hsecret
    rw [List.nil_append, List.length_drop] at hpos
    rw [hlist, List.length_append]
    omega

end

/-! ### The delivery of an event -/

/-- The content that an event is to be turned into: for version 2 the JSON of the account id and
the counts, otherwise the notification with the account id as it is printed. -/
def pushContent (platform : Platform) (version : Int) (accountId : String)
    (notification : Stanza) : Option String :=
  if version = 2 then
    match XmppClient.readCounts notification with
    | .ok counts =>
        some (platform.dump ((PushMessage.ofFields accountId counts.1 counts.2).toJson .null))
    | .error _ => none
  else platform.toText (notification.addChild (XmppClient.accountNode accountId))

/-- The content that is sent for it: a printed notification that is too long is replaced. -/
def sentContent (version : Int) (content : String) : String :=
  if version ≠ 2 ∧ 4096 < content.utf8ByteSize then "New message received!" else content

/-- The channel URI and the content of a notification. -/
def Output.notification? : Output → Option (String × String)
  | .sending channelUri content => some (channelUri, content)
  | _ => none

/-- The notifications that are sent in a transition. -/
def notified (t : Transition Event World) : List (String × String) :=
  (outputs t).filterMap Output.notification?

section

variable {platform : Platform} {config : Configuration} {oracle : Oracle} {past : History}
  {t : Transition Event World} {w w' : World} {e : Event} {d : String}

/-- The content for a valid version. -/
theorem eventContent_toString {version : Int} (h : version = 1 ∨ version = 2)
    (accountId : String) (notification : Stanza) :
  eventContent platform (some (toString version)) accountId notification
    = (pushContent platform version accountId notification).map (sentContent version)
  := by
  rcases h with rfl | rfl
  · have hone : toString (1 : Int) ≠ "2" := by decide
    rw [eventContent, if_neg (by simpa using hone), pushContent, if_neg (by decide)]
    congr 1
    funext msg
    simp [sentContent]
  · have htwo : toString (2 : Int) = "2" := by decide
    rw [eventContent, htwo, if_pos rfl, pushContent, if_pos rfl]
    rcases XmppClient.readCounts notification with error | counts
    · rfl
    · simp [sentContent]

theorem size_sentContent {version : Int} (h : version ≠ 2) (content : String) :
  (sentContent version content).utf8ByteSize ≤ 4096
  := by
  unfold sentContent
  split
  · decide
  · next hsize => exact not_lt.mp fun hlong => hsize ⟨h, hlong⟩

theorem Event.version_valid {m : SetPushAccountsMessage}
    (valid : (Message.setPushAccounts m).Valid) :
  m.version = 1 ∨ m.version = 2
  := by
  obtain ⟨hge, hle⟩ := valid.1
  simp only [AbstractMessage.VERSION] at hle
  omega

/-- An event that is turned into a notification notifies once. -/
theorem notified_notify {stanza : Stanza} {channelUri content : String}
    (h : w.handle platform config oracle (.stanza stanza)
      = (Server.run oracle (notify platform config channelUri content) w).2) :
  notified ⟨.stanza stanza, w, w.handle platform config oracle (.stanza stanza)⟩
    = [(channelUri, content)]
  := by
  obtain ⟨out, hlog, hout⟩ := notify_outputs channelUri content
  have hnone : out.filterMap Output.notification? = [] := by
    rw [List.filterMap_eq_nil_iff]
    intro o ho
    rcases hout o ho with rfl | ⟨token, rfl⟩
    · rfl
    · rfl
  rw [notified, h, outputs_eq hlog, List.filterMap_cons, hnone]
  rfl

/-- The list of a registered device begins with its channel URI and its protocol version. -/
theorem DeviceKnown.heads (h : DeviceKnown platform past w d) {channelUri : String}
    (huri : lastUri past d = some channelUri) (hlast : lastRegistration past d = some t) :
  (w.contents.elements d).head? = some channelUri
    ∧ (w.contents.elements d)[1]? = some (toString t.event.version)
  := by
  rw [h.list, deviceList, huri, hlast]
  exact ⟨rfl, rfl⟩

/-- An event for a node that a device was told last is turned into one notification of its
channel URI if the node was drawn for it, and into none if it was told the node before. -/
theorem Reached.notified_cases (h : Reached platform config oracle past w)
    (hunexpired : Admitted Unexpired past) (hfresh : Admitted (Fresh oracle) past)
    (hroles : RolesApart platform oracle past) {channelUri : String}
    (huri : lastUri past d = some channelUri) (hlast : lastRegistration past d = some t)
    {accounts : List PushAccount} (htold : told t d = some accounts) {a : PushAccount}
    (ha : a ∈ accounts) {stanza notification : Stanza}
    (hevent : IsEvent config stanza a.node notification) {content : String}
    (hcontent : pushContent platform t.event.version a.accountId notification = some content) :
  (t.before.contents.reusable platform d a.accountId = none
      ∧ notified ⟨.stanza stanza, w, w.handle platform config oracle (.stanza stanza)⟩
        = [(channelUri, sentContent t.event.version content)])
    ∨ (t.before.contents.reusable platform d a.accountId ≠ none
      ∧ notified ⟨.stanza stanza, w, w.handle platform config oracle (.stanza stanza)⟩ = [])
  := by
  obtain ⟨hmem, -⟩ := mem_of_lastRegistration hlast
  have hkept := h.record_kept hunexpired hfresh hroles hlast htold ha
  have hknown := (h.deviceKnown hunexpired hfresh hroles (Named.of_told hmem htold)).heads huri
    hlast
  have hhandle : w.handle platform config oracle (.stanza stanza)
      = (Server.run oracle (handleEvent platform config a.node notification) w).2 := by
    rw [World.handle, onStanza_event hevent]
  obtain ⟨newer, older, rfl, hbefore, hafter, hmove⟩ := h.move_of_mem hmem
  obtain ⟨e, before, after⟩ := t
  obtain ⟨m, valid, uri, oldNodes, pushAccounts, rfl, rfl, hr, rfl⟩ := hmove.told htold
  obtain ⟨b, hb, haccount, hnode, -⟩ := PushServer.mem_answer ha
  rw [hnode] at hkept hhandle hevent
  rw [haccount] at hcontent ⊢
  change pushContent platform m.version b.accountId notification = some content at hcontent
  rcases hr.record_iff hbefore hafter (Admitted.of_append hfresh) hb with
    ⟨hnone, hlist⟩ | ⟨hsome, hlength⟩
  · apply Or.inl
    use hnone
    apply notified_notify
    rw [hhandle]
    congr 1
    have hreach : w.contents.Reaches b.node b.accountId m.deviceId channelUri := by
      constructor
      · use b.secret
        rw [Contents.elements_eq_of_apply_eq hkept]
        apply hlist
      · apply hknown.1
    apply run_handleEvent hreach
    · rw [hknown.2]
      change eventContent platform (some (toString m.version)) _ _ = _
      rw [eventContent_toString (Event.version_valid valid), hcontent]
      rfl
  · apply Or.inr
    use hsome
    have hsame : w.handle platform config oracle (.stanza stanza) = w := by
      rw [hhandle]
      apply run_handleEvent_dropped
      rintro accountId deviceId channelUri ⟨⟨secret, hthree⟩, -⟩
      rw [Contents.elements_eq_of_apply_eq hkept] at hthree
      rw [hthree] at hlength
      exact (hlength rfl).elim
    rw [hsame, notified, outputs_eq_nil rfl]
    rfl

end

/-- The node is one that is drawn in the transition. -/
def Drew (oracle : Oracle) (t : Transition Event World) (node : String) : Prop :=
  ∃ i, t.before.created ≤ i ∧ i < t.after.created ∧ node = oracle.node i

/-- Every event for a node that a device was told last is turned into one notification of its
last channel URI with the account id in the form for the version of the device. -/
def Arrives (platform : Platform) (config : Configuration) (oracle : Oracle) (past : History)
    (w : World) : Prop :=
  ∀ d channelUri t accounts, lastUri past d = some channelUri →
    lastRegistration past d = some t → told t d = some accounts →
    ∀ a ∈ accounts, ∀ stanza notification content,
      IsEvent config stanza a.node notification →
      pushContent platform t.event.version a.accountId notification = some content →
      notified ⟨.stanza stanza, w, w.handle platform config oracle (.stanza stanza)⟩
        = [(channelUri, content)]

/-- A node that is drawn for an account is not one that the account had before. -/
theorem Reached.reusable_of_drew {platform : Platform} {config : Configuration}
    {oracle : Oracle} {past : History} {t : Transition Event World} {w : World} {d : String}
    (h : Reached platform config oracle past w) (hfresh : Admitted (Fresh oracle) past)
    (ht : t ∈ past) {accounts : List PushAccount} (htold : told t d = some accounts)
    {a : PushAccount} (ha : a ∈ accounts) (hdrew : Drew oracle t a.node) :
  t.before.contents.reusable platform d a.accountId = none
  := by
  obtain ⟨newer, older, rfl, hbefore, hafter, hmove⟩ := h.move_of_mem ht
  obtain ⟨e, before, after⟩ := t
  obtain ⟨m, valid, uri, oldNodes, pushAccounts, rfl, rfl, hr, rfl⟩ := hmove.told htold
  have hfresh' := Admitted.of_append hfresh
  obtain ⟨b, hb, haccount, hnode, -⟩ := PushServer.mem_answer ha
  obtain ⟨i, hle, hlt, hi⟩ := hdrew
  obtain ⟨j, hj⟩ := List.mem_iff_getElem?.mp hb
  rw [haccount]
  rcases hr.node_at hbefore (hbefore.owned hfresh'.2).1 hj with ⟨hnone, -⟩ | ⟨-, k, hk, hold⟩
  · apply hnone
  · have hki : k = i := by
      apply hafter.node_injective hfresh' (lt_of_lt_of_le hk (le_of_lt (lt_of_le_of_lt hle hlt)))
        hlt
      rw [← hold, ← hnode, hi]
    subst hki
    exact absurd hk (not_lt.mpr hle)

/-- In every run without expiry whose names are new and whose keys have one role each, an event
for a node that the last registration of a device drew is turned into one notification of the
last channel URI of the device, with the content for its version. -/
theorem notified_of_drew {platform : Platform} {config : Configuration} {oracle : Oracle}
    {past : History} {w : World} (h : Reached platform config oracle past w)
    (hunexpired : Admitted Unexpired past) (hfresh : Admitted (Fresh oracle) past)
    (hroles : RolesApart platform oracle past) {d channelUri : String}
    {t : Transition Event World} (huri : lastUri past d = some channelUri)
    (hlast : lastRegistration past d = some t) {accounts : List PushAccount}
    (htold : told t d = some accounts) {a : PushAccount} (ha : a ∈ accounts)
    (hdrew : Drew oracle t a.node) {stanza notification : Stanza}
    (hevent : IsEvent config stanza a.node notification) {content : String}
    (hcontent : pushContent platform t.event.version a.accountId notification = some content) :
  notified ⟨.stanza stanza, w, w.handle platform config oracle (.stanza stanza)⟩
    = [(channelUri, sentContent t.event.version content)]
  := by
  have hnone := h.reusable_of_drew hfresh (mem_of_lastRegistration hlast).1 htold ha hdrew
  rcases h.notified_cases hunexpired hfresh hroles huri hlast htold ha hevent hcontent with
    ⟨-, hnotified⟩ | ⟨hsome, -⟩
  · apply hnotified
  · exact (hsome hnone).elim

/-- If an event arrives, then its node was not one the account had before, and its content is
sent as it is. -/
theorem Reached.of_arrives {platform : Platform} {config : Configuration} {oracle : Oracle}
    {past : History} {w : World} (h : Reached platform config oracle past w)
    (hunexpired : Admitted Unexpired past) (hfresh : Admitted (Fresh oracle) past)
    (hroles : RolesApart platform oracle past) (harrives : Arrives platform config oracle past w)
    {d channelUri : String} {t : Transition Event World} (huri : lastUri past d = some channelUri)
    (hlast : lastRegistration past d = some t) {accounts : List PushAccount}
    (htold : told t d = some accounts) {a : PushAccount} (ha : a ∈ accounts)
    {stanza notification : Stanza} (hevent : IsEvent config stanza a.node notification)
    {content : String}
    (hcontent : pushContent platform t.event.version a.accountId notification = some content) :
  t.before.contents.reusable platform d a.accountId = none
    ∧ sentContent t.event.version content = content
  := by
  have hsent := harrives d _ t _ huri hlast htold a ha stanza _ _ hevent hcontent
  rcases h.notified_cases hunexpired hfresh hroles huri hlast htold ha hevent hcontent with
    ⟨hnone, hnotified⟩ | ⟨-, hnotified⟩
  · use hnone
    exact congrArg Prod.snd (List.singleton_inj.mp (hnotified.symm.trans hsent))
  · cases hnotified.symm.trans hsent

namespace Sample

mutual

/-- The text of a tree whose strings have no special characters. -/
def xml : Stanza → String
  | .text data => data
  | .tag name attributes [] => "<" ++ name ++ xmlAttributes attributes ++ "/>"
  | .tag name attributes (child :: children) =>
      "<" ++ name ++ xmlAttributes attributes ++ ">" ++ xml child ++ xmlChildren children
        ++ "</" ++ name ++ ">"

def xmlChildren : List Stanza → String
  | [] => ""
  | child :: children => xml child ++ xmlChildren children

def xmlAttributes : List (String × String) → String
  | [] => ""
  | (name, value) :: rest => " " ++ name ++ "=\"" ++ value ++ "\"" ++ xmlAttributes rest

end

/-- A platform that prints trees. -/
def xmlPrinter : Platform :=
  { platform with toText := fun s => some (xml s) }

/-- A request of a client with version 1. -/
def setPushAccountsV1 : SetPushAccountsMessage :=
  { SetPushAccountsMessage.ofFields ["alice"] "phone" with version := 1 }

theorem setPushAccountsV1_valid :
  (Message.setPushAccounts setPushAccountsV1).Valid
  := by decide

/-- A device with version 1 sets its channel URI and registers an account. -/
def registrationV1 : History × World :=
  Run.trace (fun e w => w.handle xmlPrinter config oracle e) [] world
    [setChannelUri "phone" phone_channelUri, .received _ setPushAccountsV1_valid]

theorem reached_registrationV1 :
  Reached xmlPrinter config oracle registrationV1.1 registrationV1.2
  := Run.of_trace (.start initial_world) _

/-- A notification with a text of 5000 characters. -/
def longNotification : Stanza :=
  .tag "notification" [("xmlns", "urn:xmpp:push:0")] [.text (repeated 5000 'a')]

/-- An event with the long notification. -/
def longPush (node : String) : Stanza :=
  .tag "message" [("from", "push@example.org")]
    [.tag "event" [("xmlns", "http://jabber.org/protocol/pubsub#event")]
      [.tag "items" [("node", node)] [.tag "item" [] [longNotification]]]]

theorem isEvent_longPush (node : String) :
  IsEvent config (longPush node) node longNotification
  where
  sender := rfl
  items := ⟨_, _, rfl, rfl, rfl, rfl, rfl, rfl⟩

theorem lt_xml_longNotification (account : Stanza) :
  4096 < (xml (longNotification.addChild account)).utf8ByteSize
  := by
  have hlength := length_le_utf8ByteSize (List.replicate 5000 'a')
  rw [List.length_replicate] at hlength
  simp only [longNotification, Stanza.addChild, List.cons_append, xml, String.utf8ByteSize_append,
    repeated]
  omega

/-- The registration of the device with version 1. -/
def firstV1 : Transition Event World :=
  let before := Run.trace (fun e w => w.handle xmlPrinter config oracle e) [] world
    [setChannelUri "phone" phone_channelUri]
  ⟨.received _ setPushAccountsV1_valid, before.2,
    before.2.handle xmlPrinter config oracle (.received _ setPushAccountsV1_valid)⟩

end Sample

/-- A device registers an account, and an event arrives for its node. -/
theorem notified_of_drew_registration :
  notified ⟨.stanza (Sample.push (Sample.oracle.node 0)), (Sample.run Sample.registration).2,
      (Sample.run Sample.registration).2.handle Sample.platform Sample.config Sample.oracle
        (.stanza (Sample.push (Sample.oracle.node 0)))⟩
    = [(Sample.channelUri, sentContent 2 (Sample.dump
        ((PushMessage.ofFields "alice" 0 0).toJson .null)))]
  := by
  obtain ⟨hfresh, hroles, huri, htold, hbefore, hafter⟩ :
      Admitted (Fresh Sample.oracle) (Sample.run Sample.registration).1
        ∧ RolesApart Sample.platform Sample.oracle (Sample.run Sample.registration).1
        ∧ lastUri (Sample.run Sample.registration).1 "phone" = some Sample.channelUri
        ∧ told Sample.first "phone" = some [Sample.alice]
        ∧ Sample.first.before.created ≤ 0 ∧ 0 < Sample.first.after.created := by
    decide +kernel
  exact notified_of_drew (Sample.reached_run Sample.registration) ⟨nofun, nofun, trivial⟩ hfresh
    hroles huri (t := Sample.first) rfl htold (List.mem_singleton_self _)
    ⟨0, hbefore, hafter, rfl⟩ (Sample.isEvent_push _) rfl

/-- The node of a device with version 1 does not get a long notification as it is printed. -/
theorem Sample.not_arrives_long (h : Admitted Unexpired registrationV1.1)
    (hfresh : Admitted (Fresh oracle) registrationV1.1)
    (hroles : RolesApart xmlPrinter oracle registrationV1.1) :
  ¬Arrives xmlPrinter config oracle registrationV1.1 registrationV1.2
  := by
  intro harrives
  obtain ⟨huri, htold⟩ : lastUri registrationV1.1 "phone" = some channelUri
      ∧ told firstV1 "phone" = some [alice] := by
    decide +kernel
  obtain ⟨-, hsame⟩ := reached_registrationV1.of_arrives h hfresh hroles harrives huri
    (t := firstV1) rfl htold (List.mem_singleton_self _) (isEvent_longPush (oracle.node 0)) rfl
  have hshort : (sentContent 1 (xml (longNotification.addChild
      (XmppClient.accountNode alice.accountId)))).utf8ByteSize ≤ 4096 :=
    size_sentContent (by decide) _
  have hlong := lt_xml_longNotification (XmppClient.accountNode alice.accountId)
  refine absurd hlong (not_lt.mpr (le_trans (le_of_eq ?_) hshort))
  exact congrArg String.utf8ByteSize hsame.symm

/-- A long notification for a device with version 1 is replaced by a text without the account,
and an event for a node that a device was told twice is dropped. -/
theorem not_arrives_replaced :
  (Reached Sample.xmlPrinter Sample.config Sample.oracle Sample.registrationV1.1
      Sample.registrationV1.2
    ∧ (Admitted Unexpired Sample.registrationV1.1
      ∧ Admitted (Fresh Sample.oracle) Sample.registrationV1.1
      ∧ RolesApart Sample.xmlPrinter Sample.oracle Sample.registrationV1.1)
    ∧ ¬Arrives Sample.xmlPrinter Sample.config Sample.oracle Sample.registrationV1.1
      Sample.registrationV1.2)
  ∧ (let past := Sample.again 0 :: (Sample.run Sample.registration).1
    Reached Sample.platform Sample.config Sample.oracle past (Sample.again 0).after
      ∧ (Admitted Unexpired past ∧ Admitted (Fresh Sample.oracle) past
        ∧ RolesApart Sample.platform Sample.oracle past)
      ∧ ¬Arrives Sample.platform Sample.config Sample.oracle past (Sample.again 0).after)
  := by
  constructor
  · have hunexpired : Admitted Unexpired Sample.registrationV1.1 := ⟨nofun, nofun, trivial⟩
    obtain ⟨hfresh, hroles⟩ : Admitted (Fresh Sample.oracle) Sample.registrationV1.1
        ∧ RolesApart Sample.xmlPrinter Sample.oracle Sample.registrationV1.1 := by
      decide +kernel
    use Sample.reached_registrationV1, ⟨hunexpired, hfresh, hroles⟩
    exact Sample.not_arrives_long hunexpired hfresh hroles
  · intro past
    have hreached : Reached Sample.platform Sample.config Sample.oracle past
        (Sample.again 0).after :=
      Sample.reached_run (Sample.registration
        ++ [Sample.setPushAccounts "phone" ["alice"] Sample.phone_alice])
    have hunexpired : Admitted Unexpired past := ⟨nofun, nofun, nofun, trivial⟩
    obtain ⟨hfresh, hroles, huri, htold, hreuse⟩ : Admitted (Fresh Sample.oracle) past
        ∧ RolesApart Sample.platform Sample.oracle past
        ∧ lastUri past "phone" = some Sample.channelUri
        ∧ told (Sample.again 0) "phone" = some [Sample.alice]
        ∧ (Sample.again 0).before.contents.reusable Sample.platform "phone" "alice"
          = some (Sample.alice.node, Sample.alice.secret) := by
      decide +kernel
    use hreached, ⟨hunexpired, hfresh, hroles⟩
    intro harrives
    obtain ⟨hnone, -⟩ := hreached.of_arrives hunexpired hfresh hroles harrives huri
      (t := Sample.again 0) rfl htold (List.mem_singleton_self _)
      (Sample.isEvent_push (Sample.oracle.node 0)) rfl
    cases hnone.symm.trans hreuse

end UwpxPush
