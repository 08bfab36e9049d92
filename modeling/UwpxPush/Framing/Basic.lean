import Mathlib.Data.List.Count
import Mathlib.Data.List.Forall2
import Mathlib.Data.List.TakeWhile

/-!
# Texts that are ended by a mark

Texts are sent one after the other, each ended by a mark that it does not contain.  What
arrives is their stream, cut into chunks anywhere.  Where there are as many chunks as texts and
each has a mark, they go together one by one (`forall₂_of_mem`): with what came before it, a
chunk is the text with its mark and the beginning of the next one.
-/

namespace Framing

variable {α : Type} (z : α)

/-- The stream of some texts. -/
def stream (texts : List (List α)) : List α :=
  texts.flatMap (· ++ [z])

/-- What comes before the first mark. -/
def frame [DecidableEq α] (chunk : List α) : List α :=
  chunk.takeWhile (· ≠ z)

variable {z} {text chunk before after tail : List α} {texts chunks : List (List α)}

@[simp]
theorem stream_nil :
  stream z ([] : List (List α)) = []
  := rfl

@[simp]
theorem stream_cons (text : List α) (texts : List (List α)) :
  stream z (text :: texts) = text ++ z :: stream z texts
  := by
  rw [stream, List.flatMap_cons, List.append_assoc]
  rfl

/-! ### Cutting a stream -/

/-- What has no mark ends before the first one. -/
theorem append_cons_of_not_mem (h : chunk ++ tail = text ++ z :: after) (hchunk : z ∉ chunk) :
  ∃ left, text = chunk ++ left ∧ tail = left ++ z :: after
  := by
  rcases List.append_eq_append_iff.mp h with ⟨left, htext, htail⟩ | ⟨beyond, rfl, hbeyond⟩
  · exact ⟨left, htext, htail⟩
  · cases beyond with
    | nil => exact ⟨[], by simp, by simpa using hbeyond.symm⟩
    | cons a beyond =>
        obtain ⟨rfl, -⟩ := List.cons_eq_cons.mp hbeyond
        exact (hchunk (by simp)).elim

/-- What has a mark goes to the first one or beyond. -/
theorem append_cons_of_mem (h : chunk ++ tail = text ++ z :: after) (htext : z ∉ text)
    (hchunk : z ∈ chunk) :
  ∃ beyond, chunk = text ++ z :: beyond ∧ after = beyond ++ tail
  := by
  rcases List.append_eq_append_iff.mp h with ⟨left, rfl, -⟩ | ⟨beyond, rfl, hbeyond⟩
  · exact (htext (List.mem_append_left left hchunk)).elim
  · cases beyond with
    | nil =>
        rw [List.append_nil] at hchunk
        exact (htext hchunk).elim
    | cons a beyond =>
        obtain ⟨rfl, hafter⟩ := List.cons_eq_cons.mp hbeyond
        exact ⟨beyond, rfl, hafter⟩

/-- Wherever a stream is cut, what follows begins with the end of a text. -/
theorem stream_eq_append (h : before ++ tail = stream z texts) :
  tail = [] ∨ ∃ l text rest, l ++ text ∈ texts ∧ tail = text ++ z :: stream z rest
  := by
  induction texts generalizing before with
  | nil =>
      obtain ⟨-, htail⟩ := List.append_eq_nil_iff.mp h
      exact .inl htail
  | cons text texts ih =>
      rw [stream_cons] at h
      rcases List.append_eq_append_iff.mp h with ⟨left, rfl, htail⟩ | ⟨beyond, -, hbeyond⟩
      · exact .inr ⟨before, left, texts, List.mem_cons_self, htail⟩
      · cases beyond with
        | nil => exact .inr ⟨text, [], texts, by simp, hbeyond.symm⟩
        | cons a beyond =>
            obtain ⟨-, hstream⟩ := List.cons_eq_cons.mp hbeyond
            rcases ih hstream.symm with hnil | ⟨l, text', rest, hmem, htail⟩
            · exact .inl hnil
            · exact .inr ⟨l, text', rest, List.mem_cons_of_mem text hmem, htail⟩

variable [DecidableEq α]

/-! ### Frames -/

/-- Without a mark the frame is all. -/
theorem frame_of_not_mem (h : z ∉ text) :
  frame z text = text
  := by
  rw [frame, List.takeWhile_eq_self_iff]
  intro a ha
  rw [decide_eq_true_eq]
  rintro rfl
  apply h ha

theorem frame_append_cons (h : z ∉ text) (after : List α) :
  frame z (text ++ z :: after) = text
  := by
  have hall : ∀ a ∈ text, decide (a ≠ z) = true := by
    intro a ha
    rw [decide_eq_true_eq]
    rintro rfl
    apply h ha
  rw [frame, List.takeWhile_append_of_pos hall, List.takeWhile_cons_of_neg (by simp),
    List.append_nil]

theorem not_mem_frame :
  z ∉ frame z chunk
  := by
  intro h
  have := List.mem_takeWhile_imp h
  simp at this

/-- The frame of a beginning is a beginning of the frame. -/
theorem frame_prefix (chunk after : List α) :
  frame z chunk <+: frame z (chunk ++ after)
  := by
  rw [frame, frame, List.takeWhile_append]
  split
  · next hall =>
      rw [(List.takeWhile_prefix _).eq_of_length hall]
      apply List.prefix_append
  · apply List.prefix_refl

/-! ### One chunk for each text -/

/-- There is one mark for each text. -/
theorem count_stream (h : ∀ text ∈ texts, z ∉ text) :
  (stream z texts).count z = texts.length
  := by
  induction texts with
  | nil => rfl
  | cons text texts ih =>
      obtain ⟨htext, htexts⟩ := List.forall_mem_cons.mp h
      rw [stream_cons, List.count_append, List.count_cons_self, ih htexts,
        List.count_eq_zero_of_not_mem htext, Nat.zero_add, List.length_cons]

/-- Chunks with a mark each have that many marks. -/
theorem length_le_count (h : ∀ chunk ∈ chunks, z ∈ chunk) :
  chunks.length ≤ chunks.flatten.count z
  := by
  induction chunks with
  | nil => apply Nat.zero_le
  | cons chunk chunks ih =>
      obtain ⟨hchunk, hchunks⟩ := List.forall_mem_cons.mp h
      have hpos := List.count_pos_iff.mpr hchunk
      have hle := ih hchunks
      rw [List.flatten_cons, List.count_append, List.length_cons]
      omega

/-- Where there are as many chunks as texts and each has a mark, each goes from the text before
it, of which it lacks no more than a beginning, beyond its mark. -/
theorem forall₂_of_mem (htexts : ∀ text ∈ texts, z ∉ text) (hchunks : ∀ chunk ∈ chunks, z ∈ chunk)
    (hlength : chunks.length = texts.length) (hbefore : z ∉ before)
    (h : before ++ chunks.flatten = stream z texts) :
  List.Forall₂ (fun text chunk => ∃ l beyond, z ∉ l ∧ l ++ chunk = text ++ z :: beyond)
    texts chunks
  := by
  induction texts generalizing chunks before with
  | nil =>
      rw [List.length_nil, List.length_eq_zero_iff] at hlength
      rw [hlength]
      apply List.Forall₂.nil
  | cons text texts ih =>
      cases chunks with
      | nil => cases hlength
      | cons chunk chunks =>
          obtain ⟨htext, htexts⟩ := List.forall_mem_cons.mp htexts
          obtain ⟨hchunk, hchunks⟩ := List.forall_mem_cons.mp hchunks
          rw [stream_cons, List.flatten_cons, ← List.append_assoc] at h
          obtain ⟨beyond, hbeyond, hrest⟩ :=
            append_cons_of_mem h htext (List.mem_append_right before hchunk)
          -- The marks of the other texts are all needed for the other chunks.
          have hnone : z ∉ beyond := by
            have hcount := congrArg (List.count z) hrest
            have hle := length_le_count hchunks
            rw [count_stream htexts, List.count_append] at hcount
            rw [List.length_cons, List.length_cons] at hlength
            rw [← List.count_eq_zero]
            omega
          apply List.Forall₂.cons ⟨before, beyond, hbefore, hbeyond⟩
          apply ih htexts hchunks (Nat.succ_injective hlength) hnone hrest.symm

end Framing
