import UwpxPush.Server.PushServer
import UwpxPush.Uri.Basic

/-!
# Channel URIs

The server posts its token to the channel URIs it accepts.  These are, as the parts of a URI
go, the ones with the scheme `https`, a subdomain of `notify.windows.com` as the host, neither
user information nor a port, the path `/` and a token as the query
(`isValidChannelUri_iff`).
-/

namespace UwpxPush

namespace PushServer

/-- One label of a domain name. -/
structure IsLabel (l : List Char) : Prop where
  nonempty : l ≠ []
  length : l.length ≤ 63
  chars : ∀ c ∈ l, c.isAlphanum = true ∨ c = '-'
  first : l.head? ≠ some '-'
  last : l.getLast? ≠ some '-'

/-- The value of a token. -/
structure IsTokenValue (l : List Char) : Prop where
  nonempty : l ≠ []
  chars : ∀ c ∈ l, c.isAlphanum = true ∨ c = '_' ∨ c = '%'

/-- The URI with a subdomain of `notify.windows.com` as its host and a token as its query. -/
def channelUri (label value : List Char) : Uri where
  scheme := "https".toList
  authority := some ⟨none, label ++ ".notify.windows.com".toList, none⟩
  path := "/".toList
  query := some ("token=".toList ++ value)
  fragment := none

/-- The parts of a URI that are those of a channel URI. -/
def IsChannelUri (u : Uri) : Prop :=
  ∃ label value, IsLabel label ∧ IsTokenValue value ∧ u = channelUri label value

/-! ### The words of the regular expression -/

theorem isAlphaNum_eq (c : Char) :
  isAlphaNum c = c.isAlphanum
  := by
  rw [Bool.eq_iff_iff]
  delta isAlphaNum Char.isAlphanum Char.isAlpha Char.isUpper Char.isLower Char.isDigit
  simp only [Bool.or_eq_true, Bool.and_eq_true, decide_eq_true_eq, Char.le_def, ge_iff_le]

theorem ne_hyphen {c : Char} (h : isAlphaNum c = true) :
  c ≠ '-'
  := by
  rintro rfl
  exact absurd h (by decide)

theorem label_char_iff {c : Char} :
  (isAlphaNum c || c == '-') = true ↔ c.isAlphanum = true ∨ c = '-'
  := by
  rw [Bool.or_eq_true, beq_iff_eq, isAlphaNum_eq]

theorem value_char_iff {c : Char} :
  (isAlphaNum c || c == '_' || c == '%') = true ↔ c.isAlphanum = true ∨ c = '_' ∨ c = '%'
  := by
  rw [Bool.or_eq_true, Bool.or_eq_true, beq_iff_eq, beq_iff_eq, isAlphaNum_eq, or_assoc]

/-- A label begins and ends with a letter or a digit. -/
theorem matches_label_iff {l : List Char} :
  (∃ a t, l = a :: t ∧ isAlphaNum a = true
    ∧ (Regex.opt (.seq (.upTo 61 fun c => isAlphaNum c || c == '-') (.one isAlphaNum))).Matches t)
    ↔ IsLabel l
  := by
  constructor
  · rintro ⟨a, t, rfl, ha, rfl | ⟨v, w, rfl, ⟨hlength, hv⟩, b, rfl, hb⟩⟩
    · constructor
      · nofun
      · rw [List.length_singleton]
        decide
      · rw [List.forall_mem_singleton, ← isAlphaNum_eq]
        exact .inl ha
      · rw [List.head?_cons, ne_eq, Option.some.injEq]
        apply ne_hyphen ha
      · rw [List.getLast?_singleton, ne_eq, Option.some.injEq]
        apply ne_hyphen ha
    · constructor
      · nofun
      · rw [List.length_cons, List.length_append, List.length_singleton]
        omega
      · rw [List.forall_mem_cons, List.forall_mem_append, List.forall_mem_singleton,
          ← isAlphaNum_eq, ← isAlphaNum_eq]
        exact ⟨.inl ha, fun c hc => label_char_iff.mp (hv c hc), .inl hb⟩
      · rw [List.head?_cons, ne_eq, Option.some.injEq]
        apply ne_hyphen ha
      · rw [← List.cons_append, List.getLast?_concat, ne_eq, Option.some.injEq]
        apply ne_hyphen hb
  · intro h
    obtain ⟨a, t, rfl⟩ := List.exists_cons_of_ne_nil h.nonempty
    have hchars := List.forall_mem_cons.mp h.chars
    have ha : isAlphaNum a = true := by
      rw [isAlphaNum_eq]
      apply hchars.1.resolve_right
      intro heq
      exact h.first (congrArg some heq)
    refine ⟨a, t, rfl, ha, ?_⟩
    rcases List.eq_nil_or_concat' t with rfl | ⟨v, b, rfl⟩
    · exact .inl rfl
    · have hlength := h.length
      rw [List.length_cons, List.length_append, List.length_singleton] at hlength
      have hlast := h.last
      rw [← List.cons_append, List.getLast?_concat] at hlast
      rw [List.forall_mem_append, List.forall_mem_singleton] at hchars
      have hb : isAlphaNum b = true := by
        rw [isAlphaNum_eq]
        apply hchars.2.2.resolve_right
        intro heq
        exact hlast (congrArg some heq)
      refine .inr ⟨v, [b], rfl, ⟨by omega, ?_⟩, b, rfl, hb⟩
      intro c hc
      exact label_char_iff.mpr (hchars.2.1 c hc)

/-- The words of the regular expression. -/
theorem isValidChannelUri_iff_exists {uri : String} :
  isValidChannelUri uri = true ↔ ∃ label value, IsLabel label ∧ IsTokenValue value
    ∧ uri.toList
      = "https://".toList ++ (label ++ (".notify.windows.com/?token=".toList ++ value))
  := by
  rw [isValidChannelUri, Regex.accepts_iff]
  constructor
  · rintro ⟨_, _, heq, rfl, _, _, rfl, ⟨a, rfl, ha⟩, t, _, rfl, ht, _, value, rfl, rfl, hvalue⟩
    refine ⟨a :: t, value, matches_label_iff.mp ⟨a, t, rfl, ha, ht⟩, ?_, heq⟩
    exact ⟨hvalue.1, fun c hc => value_char_iff.mp (hvalue.2 c hc)⟩
  · rintro ⟨label, value, hlabel, hvalue, heq⟩
    obtain ⟨a, t, rfl, ha, ht⟩ := matches_label_iff.mpr hlabel
    rw [heq]
    refine ⟨_, _, rfl, rfl, [a], _, rfl, ⟨a, rfl, ha⟩, t, _, rfl, ht, _, value, rfl, rfl, ?_⟩
    exact ⟨hvalue.nonempty, fun c hc => value_char_iff.mpr (hvalue.chars c hc)⟩

/-! ### The parts of a channel URI -/

variable {label value : List Char}

/-- The word of a channel URI. -/
theorem toList_channelUri :
  (channelUri label value).toList
    = "https://".toList ++ (label ++ (".notify.windows.com/?token=".toList ++ value))
  := by
  simp [channelUri, Uri.toList, Uri.authorityToList, Uri.Authority.toList, Uri.affix, Uri.suffix]

/-- The characters of the host are letters, digits, hyphens and dots. -/
theorem not_mem_host (hlabel : IsLabel label) {c : Char} (hc : c.isAlphanum = false)
    (hhyphen : c ≠ '-') (hdot : c ≠ '.') :
  c ∉ label ++ ".notify.windows.com".toList
  := by
  have hall : (".notify.windows.com".toList.all fun c => c.isAlphanum || c == '.') = true := by
    decide
  have hdomain : ∀ c ∈ ".notify.windows.com".toList, c.isAlphanum = true ∨ c = '.' := by
    intro c hmem
    rw [← beq_iff_eq (b := '.'), ← Bool.or_eq_true]
    exact List.all_eq_true.mp hall c hmem
  rw [List.mem_append]
  rintro (hmem | hmem)
  · rcases hlabel.chars c hmem with h | h
    · cases hc.symm.trans h
    · exact hhyphen h
  · rcases hdomain c hmem with h | h
    · cases hc.symm.trans h
    · exact hdot h

theorem not_mem_value (hvalue : IsTokenValue value) :
  '#' ∉ value
  := by
  intro hmem
  rcases hvalue.chars _ hmem with h | h | h
  · exact absurd h (by decide)
  · exact absurd h (by decide)
  · exact absurd h (by decide)

/-- The parts of a channel URI contain no delimiter that would end them. -/
theorem proper_channelUri (hlabel : IsLabel label) (hvalue : IsTokenValue value) :
  (channelUri label value).Proper
  := by
  have hhost : ∀ c : Char, c.isAlphanum = false → c ≠ '-' → c ≠ '.' →
      c ∉ (Uri.Authority.mk none (label ++ ".notify.windows.com".toList) none).toList := by
    intro c hc hhyphen hdot
    rw [Uri.Authority.toList, Uri.affix, Uri.suffix, List.nil_append, List.append_nil]
    apply not_mem_host hlabel hc hhyphen hdot
  constructor
  · change ':' ∉ "https".toList
    decide
  · rintro a ⟨⟩
    refine ⟨⟨?_, ?_, ?_⟩, hhost '/' (by decide) (by decide) (by decide)⟩
    · apply not_mem_host hlabel (by decide) (by decide) (by decide)
    · rintro _ ⟨⟩
    · intro _
      rw [Uri.suffix, List.append_nil]
      apply not_mem_host hlabel (by decide) (by decide) (by decide)
  · intro _
    exact .inr ⟨[], rfl⟩
  · rintro ⟨⟩
  · change '?' ∉ '/' :: '/' :: (Uri.Authority.toList _ ++ ['/'])
    simp only [List.mem_cons, List.mem_append, List.not_mem_nil, not_or]
    exact ⟨by decide, by decide, hhost '?' (by decide) (by decide) (by decide), by decide, id⟩
  · change '#' ∉ '/' :: '/' :: (Uri.Authority.toList _ ++ '/' :: '?' :: ("token=".toList ++ value))
    have htoken : '#' ∉ "token=".toList := by decide
    simp only [List.mem_cons, List.mem_append, not_or]
    exact ⟨by decide, by decide, hhost '#' (by decide) (by decide) (by decide), by decide,
      by decide, htoken, not_mem_value hvalue⟩

end PushServer

open PushServer

/-- A string is accepted as a channel URI if and only if it is split into the parts of one. -/
theorem isValidChannelUri_iff (uri : String) :
  isValidChannelUri uri = true ↔ ∃ u, Uri.split uri.toList = some u ∧ IsChannelUri u
  := by
  rw [isValidChannelUri_iff_exists]
  constructor
  · rintro ⟨label, value, hlabel, hvalue, heq⟩
    use channelUri label value
    constructor
    · rw [Uri.split_eq_some_iff]
      exact ⟨toList_channelUri.trans heq.symm, proper_channelUri hlabel hvalue⟩
    · exact ⟨label, value, hlabel, hvalue, rfl⟩
  · rintro ⟨_, hsplit, label, value, hlabel, hvalue, rfl⟩
    refine ⟨label, value, hlabel, hvalue, ?_⟩
    rw [← (Uri.split_eq_some_iff.mp hsplit).1, toList_channelUri]

end UwpxPush
