import UwpxPush.Json.Dump
import UwpxPush.Server.Delivery
import UwpxPush.Server.NotifiedUris

/-!
# The sizes of notifications

A raw notification carries at most 5000 bytes.  A test push and a notification for version 1
always fit; one for version 2 fits if and only if the escaped account id and the two counts
take at most 4908 bytes (`fits_iff`).
-/

namespace UwpxPush

open KeyValue

/-- Every content that is passed to `send_raw_notification` has at most 5000 bytes. -/
def Fits (t : Transition Event World) : Prop :=
  ∀ channelUri content, .sending channelUri content ∈ outputs t → content.utf8ByteSize ≤ 5000

/-- If the stanza is an event for a device of version 2, then the account id of its node and
its counts take at most 4908 bytes. -/
def PushFits (config : Configuration) (c : Contents) (stanza : Stanza) : Prop :=
  ∀ node notification, IsEvent config stanza node notification →
    ∀ accountId deviceId channelUri, c.Reaches node accountId deviceId channelUri →
      (c.elements deviceId)[1]? = some "2" →
        ∀ counts, XmppClient.readCounts notification = .ok counts →
          pushSize accountId counts ≤ 4908

/-- The size of the content that is sent. -/
def Output.size : Output → Nat
  | .sending _ content => content.utf8ByteSize
  | _ => 0

/-- What is sent is no content above 5000 bytes. -/
def Output.Fits (o : Output) : Prop :=
  ∀ channelUri content, o = .sending channelUri content → content.utf8ByteSize ≤ 5000

section

variable {platform : Platform} {config : Configuration} {oracle : Oracle} {w w' : World}
  {e : Event} {past : History}

/-- A transition whose outputs fit. -/
theorem fits_of_outputs {out : List Output} (hlog : w'.log = w.log ++ out)
    (hout : ∀ o ∈ out, o.Fits) :
  Fits ⟨e, w, w'⟩
  := by
  intro channelUri content hmem
  rw [outputs_eq hlog] at hmem
  apply hout _ hmem _ _ rfl

/-- A test push has at most 34 bytes. -/
theorem size_testPush_le (hdump : platform.Dumps) (version : Option String) :
  (PushServer.testPush platform version).utf8ByteSize ≤ 34
  := by
  unfold PushServer.testPush
  split
  · rw [size_testPush hdump]
  · decide

theorem fits_testPush (hdump : platform.Dumps) (m : RequestTestPushMessage)
    (valid : (Message.requestTestPush m).Valid) :
  Fits ⟨.received (.requestTestPush m) valid, w,
    w.handle platform config oracle (.received (.requestTestPush m) valid)⟩
  := by
  have heffect : WnsEffect Output.Fits w
      (w.handle platform config oracle (.received (.requestTestPush m) valid)) := by
    apply effect_processMessage_of
    · intro m _ channelUri content h
      cases h
    · apply effect_sendTestPush_of
      · intro m _ channelUri content h
        cases h
      · intro channelUri content h
        cases h
      · intro channelUri version _ channelUri' content h
        cases h
        have := size_testPush_le hdump version
        omega
      · intro channelUri version token _ channelUri' content h
        cases h
  obtain ⟨out, hlog, hout⟩ := heffect.outputs
  apply fits_of_outputs hlog hout

/-- A content for version 1 has at most 4096 bytes. -/
theorem size_eventContent_v1 {version : Option String} {accountId content : String}
    {notification : Stanza} (hversion : version ≠ some "2")
    (h : eventContent platform version accountId notification = some content) :
  content.utf8ByteSize ≤ 4096
  := by
  rw [eventContent, if_neg hversion, Option.map_eq_some_iff] at h
  obtain ⟨msg, -, rfl⟩ := h
  split
  · decide
  · omega

/-- A content for version 2 is the text of a push. -/
theorem size_eventContent_v2 (hdump : platform.Dumps) (accountId : String)
    {notification : Stanza} {counts : Int × Int}
    (hcounts : XmppClient.readCounts notification = .ok counts) :
  ∃ content, eventContent platform (some "2") accountId notification = some content
    ∧ content.utf8ByteSize = 92 + pushSize accountId counts
  := by
  rw [eventContent, if_pos rfl, hcounts]
  exact ⟨_, rfl, size_push hdump accountId counts⟩

variable (oracle) in
/-- The outputs of an event of a node that leads to a device with a channel URI. -/
theorem handle_event_outputs {stanza notification : Stanza}
    {node accountId deviceId channelUri content : String}
    (hevent : IsEvent config stanza node notification)
    (hreach : w.contents.Reaches node accountId deviceId channelUri)
    (hcontent : eventContent platform (w.contents.elements deviceId)[1]? accountId notification
      = some content) :
  ∃ out, (w.handle platform config oracle (.stanza stanza)).log
      = w.log ++ .sending channelUri content :: out
    ∧ ∀ o ∈ out, IsNotification config channelUri content o
  := by
  rw [World.handle, onStanza_event hevent, run_handleEvent hreach hcontent]
  apply notify_outputs

theorem fits_stanza_iff (hdump : platform.Dumps) (stanza : Stanza) :
  Fits ⟨.stanza stanza, w, w.handle platform config oracle (.stanza stanza)⟩
    ↔ PushFits config w.contents stanza
  := by
  constructor
  · intro hfits node notification hevent accountId deviceId channelUri hreach hversion counts
      hcounts
    obtain ⟨content, hcontent, hsize⟩ :=
      size_eventContent_v2 hdump accountId hcounts
    rw [← hversion] at hcontent
    obtain ⟨out, hlog, -⟩ := handle_event_outputs oracle hevent hreach hcontent
    have hle := hfits channelUri content (by
      rw [outputs_eq hlog]
      apply List.mem_cons_self)
    omega
  · intro hpush
    rcases handle_stanza platform config oracle w stanza with hsame
      | ⟨node, notification, accountId, deviceId, channelUri, content, hevent, hreach, hcontent, -⟩
    · rw [hsame]
      apply fits_of_outputs (List.append_nil w.log).symm
      simp
    · obtain ⟨out, hlog, hout⟩ := handle_event_outputs oracle hevent hreach hcontent
      apply fits_of_outputs hlog
      intro o ho uri text heq
      rcases List.mem_cons.mp ho with rfl | ho
      · cases heq
        by_cases hversion : (w.contents.elements deviceId)[1]? = some "2"
        · rw [hversion] at hcontent
          rcases hcounts : XmppClient.readCounts notification with error | counts
          · rw [eventContent, if_pos rfl, hcounts] at hcontent
            cases hcontent
          · obtain ⟨text, htext, hsize⟩ :=
              size_eventContent_v2 hdump accountId hcounts
            cases htext.symm.trans hcontent
            have := hpush node notification hevent accountId deviceId channelUri hreach hversion
              counts hcounts
            omega
        · have := size_eventContent_v1 hversion hcontent
          omega
      · rcases hout o ho with rfl | ⟨token, rfl⟩
        · cases heq
        · cases heq

end

/-! ### A long account id -/

/-- A character that is repeated. -/
def repeated (n : ℕ) (c : Char) : String :=
  String.ofList (List.replicate n c)

theorem repeated_ne {n : ℕ} (c : Char) (h : 0 < n) :
  repeated n c ≠ ""
  := by
  intro hnil
  have hlength := congrArg String.length hnil
  rw [repeated, String.length_ofList, List.length_replicate] at hlength
  rw [hlength] at h
  exact absurd h (by decide)

/-- Every character takes a byte. -/
theorem length_le_utf8ByteSize (l : List Char) :
  l.length ≤ (String.ofList l).utf8ByteSize
  := by
  induction l with
  | nil => apply Nat.zero_le
  | cons c l ih =>
      have := c.utf8Size_pos
      rw [String.ofList_cons, String.utf8ByteSize_append, String.utf8ByteSize_singleton,
        List.length_cons]
      omega

theorem le_pushSize_repeated (n : ℕ) (counts : Int × Int) :
  n ≤ pushSize (repeated n 'a') counts
  := by
  have hescape : Json.escape (repeated n 'a') = repeated n 'a' := by
    have ha : Json.escapeChar 'a' = ['a'] := by decide
    rw [Json.escape, repeated, String.toList_ofList]
    congr 1
    induction n with
    | zero => rfl
    | succ n ih =>
        rw [List.replicate_succ, List.flatMap_cons, ih, ha]
        rfl
  have hlength := length_le_utf8ByteSize (List.replicate n 'a')
  rw [List.length_replicate] at hlength
  rw [pushSize, hescape]
  change n ≤ (String.ofList (List.replicate n 'a')).utf8ByteSize + _ + _
  omega

namespace Sample

/-- An account id of 5000 characters. -/
def longId : String :=
  repeated 5000 'a'

/-- The SHA-256 of the device `phone` joined with the long account id. -/
def longDigest : List UInt8 :=
  [110, 35, 149, 141, 101, 219, 55, 0, 153, 147, 250, 129, 149, 142, 174, 199, 209, 49, 28, 249,
   210, 188, 143, 108, 134, 150, 185, 252, 206, 182, 185, 9]

/-- The JSON printer on flat objects of numbers and strings. -/
def print : Json → String
  | .object fields => Json.dumpObject (fields.filterMap fun f =>
      match f.2 with
      | .integer i => some (f.1, .integer i)
      | .string s => some (f.1, .string s)
      | _ => none)
  | _ => ""

/-- A platform whose JSON printer escapes strings, and which has one string to hash. -/
def printer : Platform :=
  { platform with
    dump := print
    sha256 := fun _ i => longDigest.getD i 0 }

theorem dumps_printer :
  printer.Dumps
  := by
  intro fields
  change Json.dumpObject _ = _
  congr 1
  rw [List.filterMap_map]
  trans fields.filterMap some
  · congr 1
    funext f
    rcases f with ⟨name, i | s⟩
    · rfl
    · rfl
  · apply List.filterMap_some

/-- A PubSub event of the server for a node. -/
def push (node : String) : Stanza :=
  .tag "message" [("from", "push@example.org")]
    [.tag "event" [("xmlns", "http://jabber.org/protocol/pubsub#event")]
      [.tag "items" [("node", node)]
        [.tag "item" []
          [.tag "notification" [("xmlns", "urn:xmpp:push:0")] []]]]]

/-- The notification of the event. -/
def notification : Stanza :=
  .tag "notification" [("xmlns", "urn:xmpp:push:0")] []

theorem isEvent_push (node : String) :
  IsEvent config (push node) node notification
  where
  sender := rfl
  items := ⟨_, _, rfl, rfl, rfl, rfl, rfl, rfl⟩

theorem longId_valid :
  (Message.setPushAccounts (.ofFields [longId] "phone")).Valid
  := by
  refine ⟨by decide, rfl, ?_, by decide⟩
  intro account haccount
  rw [List.mem_singleton.mp haccount]
  exact repeated_ne 'a' (by decide)

/-- The run in which a device sets its channel URI. -/
def introduction : History × World :=
  Run.trace (fun e w => w.handle printer config oracle e) [] world
    [setChannelUri "phone" phone_channelUri]

theorem reached_introduction :
  Reached printer config oracle introduction.1 introduction.2
  := Run.of_trace (.start initial_world) _

/-- The device registers the long account id. -/
def longRequest : Transition Event World :=
  ⟨setPushAccounts "phone" [longId] longId_valid, introduction.2,
    introduction.2.handle printer config oracle (setPushAccounts "phone" [longId] longId_valid)⟩

/-- The device registers a short account id. -/
def shortRequest : Transition Event World :=
  ⟨setPushAccounts "phone" ["alice"] phone_alice, introduction.2,
    introduction.2.handle printer config oracle (setPushAccounts "phone" ["alice"] phone_alice)⟩

theorem reached_shortRequest :
  Reached printer config oracle (shortRequest :: introduction.1) shortRequest.after
  := Run.next reached_introduction _

/-- The node of the short account id has an event. -/
def shortEvent : Transition Event World :=
  ⟨.stanza (push (oracle.node 0)), shortRequest.after,
    shortRequest.after.handle printer config oracle (.stanza (push (oracle.node 0)))⟩

theorem reached_longRequest :
  Reached printer config oracle (longRequest :: introduction.1) longRequest.after
  := Run.next reached_introduction _

/-- The lists of the first node and of the device after that. -/
theorem elements_longRequest :
  longRequest.after.contents.elements (oracle.node 0) = [longId, "phone", oracle.secret 0]
    ∧ longRequest.after.contents.elements "phone"
      = [channelUri, "2", RedisClient.genAccount printer "phone" longId]
  := by
  have htold : (told longRequest "phone").isSome = true := by decide +kernel
  have hunder : introduction.2.contents.nodeUnder
      (RedisClient.genAccount printer "phone" longId) = none := by
    decide +kernel
  have hempty : introduction.2.contents.elements (oracle.node 0) = [] := by decide +kernel
  have hcreated : introduction.2.created = 0 := by decide +kernel
  have hdevice : introduction.2.contents.elements "phone" = [channelUri] := by decide +kernel
  obtain ⟨accounts, haccounts⟩ := Option.isSome_iff_exists.mp htold
  obtain ⟨m, valid, uri, oldNodes, pushAccounts, he, -, hr, -⟩ :=
    (handle_move printer config oracle _ reached_introduction.typed _).told haccounts
  cases he
  have hpush : pushAccounts = [PushServer.freshAccount oracle 0 longId] := by
    have hreuse : introduction.2.contents.reusable printer "phone" longId = none := by
      rw [Contents.reusable, hunder]
    apply hr.resolved.trans
    change PushServer.resolveAll printer oracle introduction.2.contents "phone" _ [longId] = _
    rw [PushServer.resolveAll_cons, PushServer.resolve, hreuse, hcreated]
    rfl
  have huri : some uri = some channelUri := by
    rw [← hr.head]
    change (introduction.2.contents.elements "phone").head? = _
    rw [hdevice]
    rfl
  cases huri
  constructor
  · have hne : oracle.node 0 ≠ "phone" := by decide
    have hold : oracle.node 0 ∉ (introduction.2.contents.elements "phone").drop 2 := by
      rw [hdevice]
      apply List.not_mem_nil
    have hmem : ∃ a ∈ pushAccounts, a.node = oracle.node 0 := by
      rw [hpush]
      exact ⟨_, List.mem_singleton_self _, rfl⟩
    apply (Contents.elements_of_eq ((congrFun hr.contents _).trans
      (Contents.setPushAccounts_node hne (oracle.length_node 0) hold hmem))).trans
    rw [hempty, hpush]
    rfl
  · apply (Contents.elements_of_eq hr.contents_device).trans
    rw [hpush]
    rfl

theorem not_pushFits_longRequest :
  ¬PushFits config longRequest.after.contents (push (oracle.node 0))
  := by
  intro h
  obtain ⟨hnode, hphone⟩ := elements_longRequest
  have hle := h _ _ (isEvent_push _) longId "phone" channelUri
    ⟨⟨_, hnode⟩, by rw [hphone]; rfl⟩ (by rw [hphone]; rfl) (0, 0) rfl
  have hlarge : 5000 ≤ pushSize longId (0, 0) := le_pushSize_repeated 5000 (0, 0)
  omega

end Sample

section

variable {platform : Platform} {config : Configuration} {oracle : Oracle} {w : World}
  {past : History}

/-- The contents of all notifications of an event fit if and only if it is no stanza for
version 2 whose account id and counts are too long. -/
theorem fits_iff (hdump : platform.Dumps) (h : Reached platform config oracle past w)
    (e : Event) :
  Fits ⟨e, w, w.handle platform config oracle e⟩
    ↔ ∀ stanza, e = .stanza stanza → PushFits config w.contents stanza
  := by
  have hmove := handle_move platform config oracle w h.typed e
  have hnone (hnotifies : ∀ channelUri, ¬w.contents.Notifies channelUri e) :
      Fits ⟨e, w, w.handle platform config oracle e⟩ := by
    intro channelUri content hmem
    exact (hnotifies channelUri (hmove.notifies hmem ⟨content, .inl rfl⟩)).elim
  cases e with
  | stanza stanza =>
      rw [fits_stanza_iff hdump]
      constructor
      · rintro hpush _ ⟨⟩
        apply hpush
      · intro hpush
        apply hpush _ rfl
  | received m valid =>
      apply iff_of_true _ nofun
      cases m with
      | requestTestPush m => apply fits_testPush hdump
      | _ => exact hnone fun _ => id
  | _ => exact iff_of_true (hnone fun _ => id) nofun

end

/-- An event for the short account id is turned into a notification, which fits. -/
theorem fits_iff_shortEvent :
  .sending Sample.channelUri
      ("\x7b\"account_id\":\"alice\",\"action\":\"push\",\"message_count\":0,"
        ++ "\"pending_subscription_count\":0,\"version\":2\x7d") ∈ outputs Sample.shortEvent
    ∧ Fits Sample.shortEvent
    ∧ (Fits Sample.shortEvent ↔ ∀ stanza, Sample.shortEvent.event = .stanza stanza →
      PushFits Sample.config Sample.shortEvent.before.contents stanza)
  := by
  have hiff := fits_iff Sample.dumps_printer Sample.reached_shortRequest
    (.stanza (Sample.push (Sample.oracle.node 0)))
  refine ⟨by decide +kernel, ?_, hiff⟩
  have hsizes : ∀ o ∈ outputs Sample.shortEvent, o.size ≤ 5000 := by decide +kernel
  intro channelUri content hmem
  exact hsizes _ hmem

/-- An event for the long account id is turned into a notification above 5000 bytes. -/
theorem not_fits_longRequest :
  Sample.printer.Dumps
    ∧ Reached Sample.printer Sample.config Sample.oracle
      (Sample.longRequest :: Sample.introduction.1) Sample.longRequest.after
    ∧ ¬Fits ⟨.stanza (Sample.push (Sample.oracle.node 0)), Sample.longRequest.after,
      Sample.longRequest.after.handle Sample.printer Sample.config Sample.oracle
        (.stanza (Sample.push (Sample.oracle.node 0)))⟩
  := by
  use Sample.dumps_printer, Sample.reached_longRequest
  rw [fits_stanza_iff Sample.dumps_printer]
  apply Sample.not_pushFits_longRequest

end UwpxPush
