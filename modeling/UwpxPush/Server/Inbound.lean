import UwpxPush.Framing.Basic
import UwpxPush.Server.Answering
import UwpxPush.Server.Responses
import UwpxPush.Tcp.Grammar

/-!
# Requests on a connection

A client writes its requests one after the other and ends each with a NUL, as the server ends
its responses.  The session hands every buffer that it receives to the push server as one
string, of which the parser reads the part before the first NUL.  So each request is handled
once if and only if each buffer holds one request with its NUL (`handsOn_iff`).
-/

namespace UwpxPush

open Framing

namespace ClientSslSession

/-- `std::string::assign`: a character for each byte of the buffer. -/
def assign (buffer : List UInt8) : String :=
  String.ofList (buffer.map Char.ofUInt8)

def onReceived (messageHandler : String → Server Unit) (buffer : List UInt8) : Server Unit :=
  messageHandler (assign buffer)

/-- Receive some buffers. -/
def receive (messageHandler : String → Server Unit) (chunks : List (List UInt8)) : Server Unit :=
  chunks.forM (onReceived messageHandler)

/-- What `Send` is given for a message: the message and a NUL, which is the end of it. -/
def send (msg : List UInt8) : List UInt8 :=
  msg ++ [0]

end ClientSslSession

/-- What the parser makes of the string of some bytes. -/
def Parser.parseBytes (platform : Platform) (bytes : List UInt8) : Except Failure Parsed :=
  Parser.parse platform (ClientSslSession.assign bytes)

/-- The bytes are the text of a request, which has no NUL in it. -/
def IsRequestText (platform : Platform) (text : List UInt8) : Prop :=
  0 ∉ text ∧ ∃ m, Parser.parseBytes platform text = .ok (.valid m) ∧ m.IsRequest

/-- Whenever one of the buffers replaces the accounts of a device, its account keys are
there. -/
def KeysAlong (platform : Platform) (config : Configuration) : List (List UInt8) → World → Prop
  | [], _ => True
  | chunk :: chunks, w =>
      (∀ request, Parser.parseBytes platform chunk = .ok (.valid (.setPushAccounts request)) →
        KeysPresent w request.deviceId)
      ∧ ∀ w', Server.Outcome (ClientSslSession.onReceived
          (PushServer.onMessageReceived platform config) chunk) w (.ok ()) w' →
        KeysAlong platform config chunks w'

/-- The server is handed the texts, one by one and in their order, and however the
surroundings answer or fail, it sends one response for each. -/
structure HandsOn (platform : Platform) (config : Configuration)
    (texts chunks : List (List UInt8)) : Prop where
  handed : chunks.map (Parser.parseBytes platform) = texts.map (Parser.parseBytes platform)
  answered : ∀ w r w', KeysAlong platform config chunks w →
    Server.Outcome (ClientSslSession.receive (PushServer.onMessageReceived platform config) chunks)
      w r w' →
    r = .ok () ∧ ∃ responses, responses.length = texts.length
      ∧ w'.replies = w.replies ++ responses

/-- The white space of a document. -/
def isWhiteSpace (b : UInt8) : Bool :=
  b = 0x20 || b = 0x09 || b = 0x0A || b = 0x0D

/-- The byte order mark of UTF-8. -/
def byteOrderMark : List UInt8 :=
  [0xEF, 0xBB, 0xBF]

/-- The bytes are white space, which a byte order mark may precede. -/
def IsBlank (bytes : List UInt8) : Prop :=
  ∃ space : List UInt8, space.all isWhiteSpace = true
    ∧ (bytes = space ∨ bytes = byteOrderMark ++ space)

/-- The buffer holds the text with its NUL, but for what is blank before it. -/
def Holds (text chunk : List UInt8) : Prop :=
  ∃ blank beyond, IsBlank blank ∧ blank ++ chunk = text ++ 0 :: beyond

/-- How the JSON library reads texts. -/
structure ReadsText (platform : Platform) : Prop where
  /-- A NUL is the end of the input. -/
  nul : ∀ s, platform.parse s = platform.parse (cStr s)
  /-- What is blank before a request is skipped. -/
  skips : ∀ blank text, IsBlank blank → IsRequestText platform (blank ++ text) →
    Parser.parseBytes platform text = Parser.parseBytes platform (blank ++ text)
  /-- The text of a request does not end with that of another. -/
  whole : ∀ l text, IsRequestText platform (l ++ text) → IsRequestText platform text →
    IsBlank l
  /-- Nor does it have two others in it that follow each other. -/
  apart : ∀ l text text' l', IsRequestText platform (l ++ text ++ text' ++ l') →
    IsRequestText platform text → ¬IsRequestText platform text'

section

variable {platform : Platform} {config : Configuration} {text chunk : List UInt8}
  {texts chunks : List (List UInt8)} {w w' : World}

/-! ### Bytes -/

theorem ofUInt8_injective :
  Function.Injective Char.ofUInt8
  := by
  intro b b' h
  have hleft : ∀ b, (Char.ofUInt8 b).toUInt8 = b := UInt8.toUInt8_toUInt32
  rw [← hleft b, h, hleft]

theorem ClientSslSession.assign_injective :
  Function.Injective assign
  := by
  intro bytes bytes' h
  apply List.map_injective_iff.mpr ofUInt8_injective
  exact String.ofList_injective h

/-- A C function sees the bytes before the first NUL. -/
theorem cStr_assign (bytes : List UInt8) :
  cStr (ClientSslSession.assign bytes) = ClientSslSession.assign (frame 0 bytes)
  := by
  have hnul : (fun b => decide (b ≠ '\x00')) ∘ Char.ofUInt8 = fun b => decide (b ≠ 0) := by
    ext b
    have hb : Char.ofUInt8 b = '\x00' ↔ b = 0 := ofUInt8_injective.eq_iff' rfl
    simp [hb]
  rw [cStr, ClientSslSession.assign, String.toList_ofList, List.takeWhile_map, hnul]
  rfl

theorem IsBlank.not_mem {blank : List UInt8} (h : IsBlank blank) :
  0 ∉ blank
  := by
  obtain ⟨space, hspace, rfl | rfl⟩ := h
  · intro hmem
    have := List.all_eq_true.mp hspace 0 hmem
    cases this
  · intro hmem
    rcases List.mem_append.mp hmem with hmark | hmem
    · revert hmark
      decide
    · have := List.all_eq_true.mp hspace 0 hmem
      cases this

/-! ### Reading -/

/-- Only the bytes before the first NUL are read. -/
theorem ReadsText.parseBytes_frame (h : ReadsText platform) (bytes : List UInt8) :
  Parser.parseBytes platform (frame 0 bytes) = Parser.parseBytes platform bytes
  := by
  rw [Parser.parseBytes, Parser.parseBytes, Parser.parse, Parser.parse, ← cStr_assign,
    ← h.nul]

/-- A buffer that holds a text is read as the text. -/
theorem ReadsText.parseBytes_of_holds (h : ReadsText platform)
    (hrequest : IsRequestText platform text) (hholds : Holds text chunk) :
  Parser.parseBytes platform chunk = Parser.parseBytes platform text
  := by
  obtain ⟨blank, beyond, hblank, heq⟩ := hholds
  obtain ⟨left, rfl, rfl⟩ := append_cons_of_not_mem heq hblank.not_mem
  have hleft : 0 ∉ left := mt (List.mem_append_right blank) hrequest.1
  rw [← h.parseBytes_frame, frame_append_cons hleft]
  apply h.skips blank left hblank hrequest

/-- What is read as a request has the text of one before its first NUL. -/
theorem ReadsText.isRequestText_frame (h : ReadsText platform)
    (hrequest : IsRequestText platform text)
    (hchunk : Parser.parseBytes platform chunk = Parser.parseBytes platform text) :
  IsRequestText platform (frame 0 chunk)
  := by
  obtain ⟨-, m, hm, hrequest⟩ := hrequest
  use not_mem_frame, m
  rw [h.parseBytes_frame, hchunk]
  exact ⟨hm, hrequest⟩

/-! ### Answering -/

/-- Buffers that are read as messages are answered once each. -/
theorem answered_of_valid
    (hvalid : ∀ chunk ∈ chunks, ∃ m, Parser.parseBytes platform chunk = .ok (.valid m))
    (hkeys : KeysAlong platform config chunks w) {r : Except Failure Unit}
    (h : Server.Outcome
      (ClientSslSession.receive (PushServer.onMessageReceived platform config) chunks) w r w') :
  r = .ok () ∧ ∃ responses, responses.length = chunks.length
    ∧ w'.replies = w.replies ++ responses
  := by
  induction chunks generalizing w with
  | nil =>
      obtain ⟨rfl, rfl⟩ := h
      exact ⟨rfl, [], rfl, (List.append_nil _).symm⟩
  | cons chunk chunks ih =>
      obtain ⟨⟨m, hm⟩, hvalid⟩ := List.forall_mem_cons.mp hvalid
      obtain ⟨hkeys, hrest⟩ := hkeys
      have hanswered : ∀ {r : Except Failure Unit} {t : World},
          Server.Outcome (ClientSslSession.onReceived
            (PushServer.onMessageReceived platform config) chunk) w r t →
          r = .ok () ∧ ∃ response, t.replies = w.replies ++ [response] := by
        intro r t ho
        rw [ClientSslSession.onReceived, onMessageReceived_eq hm] at ho
        obtain ⟨hr, response, hreplies, -⟩ := outcome_processMessage
          (by
            rintro request rfl
            apply hkeys request hm) ho
        exact ⟨hr, response, hreplies⟩
      rcases Program.outcome_bind.mp h with ⟨_, t, hfirst, h⟩ | ⟨e, herror, -⟩
      · obtain ⟨-, response, hreplies⟩ := hanswered hfirst
        obtain ⟨hr, responses, hlength, hresponses⟩ := ih hvalid (hrest t hfirst) h
        use hr, response :: responses
        constructor
        · rw [List.length_cons, List.length_cons, hlength]
        · rw [hresponses, hreplies, List.append_assoc, List.singleton_append]
      · cases (hanswered herror).1

/-- Texts that are handed on are what the buffers are read as. -/
theorem parseBytes_of_handed
    (handed : chunks.map (Parser.parseBytes platform) = texts.map (Parser.parseBytes platform))
    (hchunk : chunk ∈ chunks) :
  ∃ text ∈ texts, Parser.parseBytes platform chunk = Parser.parseBytes platform text
  := by
  have hmem : Parser.parseBytes platform chunk ∈ chunks.map (Parser.parseBytes platform) :=
    List.mem_map_of_mem hchunk
  rw [handed, List.mem_map] at hmem
  obtain ⟨text, htext, hread⟩ := hmem
  exact ⟨text, htext, hread.symm⟩

/-- Where the texts are handed on, they are answered. -/
theorem handsOn_of_handed (htexts : ∀ text ∈ texts, IsRequestText platform text)
    (handed : chunks.map (Parser.parseBytes platform) = texts.map (Parser.parseBytes platform)) :
  HandsOn platform config texts chunks
  := by
  have hlength : chunks.length = texts.length := by
    simpa using congrArg List.length handed
  use handed
  intro w r w' hkeys h
  rw [← hlength]
  apply answered_of_valid _ hkeys h
  intro chunk hchunk
  obtain ⟨text, htext, hread⟩ := parseBytes_of_handed handed hchunk
  obtain ⟨-, m, hm, -⟩ := htexts text htext
  exact ⟨m, hread.trans hm⟩

/-! ### Buffers and texts -/

/-- Where all buffers are read as requests, none lies within the text of a request: it would be
followed there by what the next buffer begins with. -/
theorem ReadsText.mem_of_frames (h : ReadsText platform)
    (htexts : ∀ text ∈ texts, IsRequestText platform text)
    (hframes : ∀ chunk ∈ chunks, IsRequestText platform (frame 0 chunk))
    (hstream : chunks.flatten = stream 0 texts) (hchunk : chunk ∈ chunks) :
  0 ∈ chunk
  := by
  by_contra hnul
  have hrequest := hframes chunk hchunk
  rw [frame_of_not_mem hnul] at hrequest
  obtain ⟨before, after, rfl⟩ := List.append_of_mem hchunk
  rw [List.flatten_append, List.flatten_cons] at hstream
  rcases stream_eq_append hstream with hnil | ⟨l, text, rest, hmem, htail⟩
  · obtain ⟨rfl, -⟩ := List.append_eq_nil_iff.mp hnil
    exact h.apart [] [] [] [] hrequest hrequest hrequest
  · obtain ⟨left, rfl, hleft⟩ := append_cons_of_not_mem htail hnul
    have htext := htexts _ hmem
    cases after with
    | nil => simp at hleft
    | cons next after =>
        have hnext := hframes next (by simp)
        have hprefix := frame_prefix (z := 0) next after.flatten
        rw [← List.flatten_cons, hleft, frame_append_cons] at hprefix
        · obtain ⟨l', rfl⟩ := hprefix
          apply h.apart l chunk (frame 0 next) l' _ hrequest hnext
          simpa using htext
        · intro hmem
          apply htext.1
          simp [hmem]

/-- Texts that are handed on are held by the buffers, one by one. -/
theorem ReadsText.holds_of_handed (h : ReadsText platform)
    (htexts : ∀ text ∈ texts, IsRequestText platform text)
    (hstream : chunks.flatten = stream 0 texts)
    (handed : chunks.map (Parser.parseBytes platform) = texts.map (Parser.parseBytes platform)) :
  List.Forall₂ Holds texts chunks
  := by
  have hframe : ∀ text ∈ texts, ∀ chunk,
      Parser.parseBytes platform chunk = Parser.parseBytes platform text →
      IsRequestText platform (frame 0 chunk) := by
    intro text htext chunk hread
    apply h.isRequestText_frame (htexts text htext) hread
  have hnul : ∀ chunk ∈ chunks, 0 ∈ chunk := by
    intro chunk hchunk
    apply h.mem_of_frames htexts _ hstream hchunk
    intro chunk hchunk
    obtain ⟨text, htext, hread⟩ := parseBytes_of_handed handed hchunk
    apply hframe text htext chunk hread
  have hlength : chunks.length = texts.length := by
    simpa using congrArg List.length handed
  have hcut : List.Forall₂
      (fun text chunk => ∃ l beyond, 0 ∉ l ∧ l ++ chunk = text ++ 0 :: beyond) texts chunks :=
    forall₂_of_mem (fun text htext => (htexts text htext).1) hnul hlength
      (List.not_mem_nil (a := 0)) hstream
  have hread : List.Forall₂ (fun text chunk => text ∈ texts
      ∧ Parser.parseBytes platform text = Parser.parseBytes platform chunk) texts chunks := by
    rw [List.forall₂_and_left]
    use fun text htext => htext
    rw [← List.forall₂_map_right_iff (R := fun text r => Parser.parseBytes platform text = r),
      ← List.forall₂_map_left_iff (R := Eq), List.forall₂_eq_eq_eq, handed]
  apply List.Forall₂.mp _ hread hcut
  rintro text chunk ⟨htext, hread⟩ ⟨l, beyond, hl, heq⟩
  obtain ⟨left, rfl, rfl⟩ := append_cons_of_not_mem heq hl
  have hleft : 0 ∉ left := mt (List.mem_append_right l) (htexts _ htext).1
  refine ⟨l, beyond, h.whole l left (htexts _ htext) ?_, heq⟩
  rw [← frame_append_cons hleft beyond]
  apply hframe _ htext _ hread.symm

end

/-- Requests that are written on a connection, each ended by a NUL, are handed to the server
and answered, one by one and in their order, if and only if each buffer that is received holds
one of them with its NUL, but for what is blank before it and came with the one before. -/
theorem handsOn_iff {platform : Platform} {config : Configuration}
    {texts chunks : List (List UInt8)} (hreads : ReadsText platform)
    (htexts : ∀ text ∈ texts, IsRequestText platform text)
    (hstream : chunks.flatten = texts.flatMap ClientSslSession.send) :
  HandsOn platform config texts chunks ↔ List.Forall₂ Holds texts chunks
  := by
  constructor
  · intro h
    apply hreads.holds_of_handed htexts hstream h.handed
  · intro h
    apply handsOn_of_handed htexts
    clear hstream
    induction h with
    | nil => rfl
    | cons hholds hrest ih =>
        obtain ⟨htext, htexts⟩ := List.forall_mem_cons.mp htexts
        rw [List.map_cons, List.map_cons, hreads.parseBytes_of_holds htext hholds, ih htexts]

/-! ### Two requests -/

/-- A request for a test notification to a device. -/
def Sample.testPush (deviceId : String) : String :=
  "\x7b\"action\":\"request_test_push\",\"device_id\":\"" ++ deviceId ++ "\",\"version\":2\x7d"

/-- The bytes of two such requests. -/
def Sample.requestTexts : List (List UInt8) :=
  ["phone", "watch"].map fun deviceId => (Sample.testPush deviceId).toList.map Char.toUInt8

/-- A build without assertions that reads the two requests, each up to a NUL. -/
def Sample.connection : Platform :=
  { Sample.release with
    parse s := (["phone", "watch"].find? fun deviceId => cStr s = Sample.testPush deviceId).map
      fun deviceId => (Message.requestTestPush (.ofFields deviceId)).toJson }

namespace Sample

theorem assign_testPush :
  ∀ deviceId ∈ ["phone", "watch"],
    ClientSslSession.assign ((testPush deviceId).toList.map Char.toUInt8) = testPush deviceId
  := by
  decide +kernel

theorem isRequestText_connection {text : List UInt8} :
  IsRequestText connection text ↔ text ∈ requestTexts
  := by
  constructor
  · rintro ⟨hnul, m, hm, -⟩
    have hsome : connection.parse (ClientSslSession.assign text) ≠ none := by
      intro hnone
      rw [Parser.parseBytes, Parser.parse, hnone] at hm
      cases hm
    obtain ⟨deviceId, hfind⟩ : ∃ deviceId, ["phone", "watch"].find? (fun deviceId =>
        cStr (ClientSslSession.assign text) = testPush deviceId) = some deviceId := by
      rw [← Option.ne_none_iff_exists']
      intro hnone
      apply hsome
      rw [connection]
      simp only [hnone, Option.map_none]
    have hdevice := List.mem_of_find?_eq_some hfind
    have htext := List.find?_some hfind
    rw [decide_eq_true_eq, cStr_assign, frame_of_not_mem hnul,
      ← assign_testPush deviceId hdevice] at htext
    rw [requestTexts, ClientSslSession.assign_injective htext]
    apply List.mem_map_of_mem hdevice
  · intro htext
    obtain ⟨deviceId, hdevice, rfl⟩ := List.mem_map.mp htext
    have hnul : ∀ text ∈ requestTexts, 0 ∉ text := by
      decide +kernel
    have hparse : ∀ deviceId ∈ ["phone", "watch"],
        Parser.parse connection (testPush deviceId)
          = .ok (.valid (.requestTestPush (.ofFields deviceId))) := by
      decide +kernel
    use hnul _ htext, .requestTestPush (.ofFields deviceId)
    rw [Parser.parseBytes, assign_testPush deviceId hdevice]
    exact ⟨hparse deviceId hdevice, trivial⟩

/-- The two texts have the same length. -/
theorem length_requestTexts :
  ∀ text ∈ requestTexts, text.length = 62
  := by
  decide +kernel

theorem readsText_connection :
  ReadsText connection
  where
  nul s := by
    have hnul : '\x00' ∉ (cStr s).toList := by
      rw [cStr, String.toList_ofList]
      apply not_mem_frame
    rw [connection]
    simp only [cStr_eq hnul]
  skips blank text hblank h := by
    cases blank with
    | nil => rfl
    | cons b blank =>
        have hhead : ∀ text ∈ requestTexts, text.head? = some 0x7B := by
          decide +kernel
        have hb := hhead _ (isRequestText_connection.mp h)
        obtain ⟨space, hspace, rfl | hmark⟩ := hblank
        · cases hb
          cases hspace
        · rw [byteOrderMark] at hmark
          cases hmark
          cases hb
  whole l text h htext := by
    have hlength := length_requestTexts _ (isRequestText_connection.mp h)
    have hlength' := length_requestTexts _ (isRequestText_connection.mp htext)
    rw [List.length_append, hlength', Nat.add_eq_right, List.length_eq_zero_iff] at hlength
    exact ⟨[], rfl, .inl hlength⟩
  apart l text text' l' h htext htext' := by
    have hlength := length_requestTexts _ (isRequestText_connection.mp h)
    have hlength' := length_requestTexts _ (isRequestText_connection.mp htext)
    have hlength'' := length_requestTexts _ (isRequestText_connection.mp htext')
    simp only [List.length_append] at hlength
    omega

end Sample

/-- The two requests are received one by one. -/
theorem handsOn_iff_one_by_one :
  HandsOn Sample.connection Sample.config Sample.requestTexts
    (Sample.requestTexts.map ClientSslSession.send)
  := by
  apply (handsOn_iff Sample.readsText_connection
    (fun text => Sample.isRequestText_connection.mpr) List.flatMap_def.symm).mpr
  rw [List.forall₂_map_right_iff, List.forall₂_same]
  intro text htext
  exact ⟨[], [], ⟨[], rfl, .inl rfl⟩, rfl⟩

/-- Two requests that are received together are handed on as one string, of which the parser
reads the first. -/
theorem not_handsOn_together :
  ReadsText Sample.connection
    ∧ (∀ text ∈ Sample.requestTexts, IsRequestText Sample.connection text)
    ∧ ¬HandsOn Sample.connection Sample.config Sample.requestTexts
      [Sample.requestTexts.flatMap ClientSslSession.send]
  := by
  refine ⟨Sample.readsText_connection, fun text => Sample.isRequestText_connection.mpr, ?_⟩
  intro h
  have hlength := congrArg List.length h.handed
  rw [List.length_map, List.length_map, Sample.requestTexts, List.length_map] at hlength
  cases hlength

end UwpxPush
