import MemoryListing.Proofs.Lines
import MemoryListing.Proofs.Reading
import MemoryListing.Proofs.Spacing
import MemoryListing.Proofs.Spellings

/-!
# Dumps written by hand

The rows of a dump can be written in many ways: each number in any of its spellings, the
numbers of a row spaced out in any way on a line of their own, the lines ended in either
way, and the last of them perhaps not ended at all. `Dump.Written` says all this of a
text, and a text is a dump that is accepted exactly if it is so written, with the rows
that it writes as the outcome.

A spelling of a number holds no blank (`Hex.isWord_of_read_eq_ok`), so the words of the
line are the numbers again. A carriage return in front of a line feed may belong to the
space on the line or to the line end. It does not matter which: both leave the same words
(`Text.words_dropReturn`).
-/

namespace MemoryListing

namespace Hex

/-! ## Spelled numbers are words -/

/-- The characters of a run are not blank. -/
theorem Run.isBlank_eq_false {t : Text} {ds : List Nat} (h : Run t ds) :
    ∀ c ∈ t, Text.isBlank c = false := by
  intro c hc
  rcases h.mem c hc with rfl | hd
  · decide
  · exact forall_digit (p := fun c => Text.isBlank c = false) (by decide +kernel) hd

/-- What is not a digit in a number is not blank, either. -/
theorem isBlank_of_mem_sign {s : Text}
    (hs : s = "+".toList ∨ s = "0x".toList ∨ s = "0X".toList ∨ s = "_".toList) :
    ∀ c ∈ s, Text.isBlank c = false := by
  rcases hs with rfl | rfl | rfl | rfl <;> exact List.all_iff_forall_prop.1 (by decide)

/-- **A spelling of a number is a word.** -/
theorem Spells.isWord {t : Text} {n : Nat} (h : Spells t n) : Text.IsWord t := by
  obtain ⟨sign, base, separator, digits, values, rfl, hsign, hbase, hseparator, hrun, -⟩ := h
  constructor
  · exact List.append_ne_nil_of_right_ne_nil _
      (List.append_ne_nil_of_right_ne_nil _ hrun.ne_nil)
  · intro c hc
    rw [List.mem_append, List.mem_append, List.mem_append] at hc
    rcases hc with (hc | hc) | hc | hc
    · exact isBlank_of_mem_sign (.inl (hsign.resolve_left (List.ne_nil_of_mem hc))) c hc
    · have hbase := hbase.resolve_left (List.ne_nil_of_mem hc)
      exact isBlank_of_mem_sign (.inr (hbase.imp_right .inl)) c hc
    · have hseparator := hseparator.resolve_left (List.ne_nil_of_mem hc)
      exact isBlank_of_mem_sign (.inr (.inr (.inr hseparator.1))) c hc
    · exact hrun.isBlank_eq_false c hc

theorem isWord_of_read_eq_ok {t : Text} {v : UInt32} (h : read t = .ok v) : Text.IsWord t :=
  (spells_of_read_eq_ok h).isWord

end Hex

namespace Row

/-! ## Rows on lines -/

/-- **Words that write a row**: the first one is its address and the others are its bytes,
one by one. -/
def WrittenBy (r : Row) (words : List Text) : Prop :=
  ∃ w ws, words = w :: ws ∧ Hex.read w = .ok r.address.toUInt32 ∧
    List.Forall₂ (fun w b => Hex.read w = .ok b.toUInt32) ws r.bytes

variable {r : Row} {words : List Text} {line : Text}

theorem ofLine_eq_ok_iff_writtenBy : ofLine line = .ok r ↔ r.WrittenBy line.words := by
  rw [ofLine_eq_ok_iff]
  simp only [Hex.readAddress_eq_ok_iff, Hex.readByte_eq_ok_iff]
  rfl

/-- What writes a row are words. -/
theorem WrittenBy.isWord (h : r.WrittenBy words) : ∀ w ∈ words, Text.IsWord w := by
  obtain ⟨w, ws, rfl, hw, hws⟩ := h
  have hall := hws.imp fun _ _ h => And.intro (Hex.isWord_of_read_eq_ok h) h
  exact List.forall_mem_cons.2
    ⟨Hex.isWord_of_read_eq_ok hw, ((List.forall₂_and_left ws r.bytes).1 hall).1⟩

theorem WrittenBy.ne_nil (h : r.WrittenBy words) : words ≠ [] := by
  obtain ⟨w, ws, rfl, -⟩ := h
  exact List.cons_ne_nil w ws

/-- **A line with a row**: words that write the row, spaced out in some way. -/
def OnLine (r : Row) (line : Text) : Prop :=
  ∃ words, r.WrittenBy words ∧ Text.LineOf words line

/-- The words of a line with a row write the row. -/
theorem OnLine.writtenBy_words (h : r.OnLine line) : r.WrittenBy line.words := by
  obtain ⟨words, hwords, hline⟩ := h
  rw [hline.words_eq hwords.isWord]
  exact hwords

theorem OnLine.newline_not_mem (h : r.OnLine line) : '\n' ∉ line := by
  obtain ⟨words, hwords, hline⟩ := h
  exact hline.newline_not_mem hwords.isWord

theorem OnLine.ne_nil (h : r.OnLine line) : line ≠ [] := by
  rintro rfl
  exact h.writtenBy_words.ne_nil rfl

/-- **A line of text whose words write a row is a line with the row.** -/
theorem onLine_of_writtenBy_words (hn : '\n' ∉ line) (h : r.WrittenBy line.words) :
    r.OnLine line := by
  rcases Text.isSpace_or_lineOf_words hn with hs | hline
  · exact absurd (Text.words_of_space hs) h.ne_nil
  · exact ⟨_, h, hline⟩

end Row

namespace Dump

/-! ## Written dumps -/

/-- **A text that writes rows**, one after the other, each on a line of its own. A line is
ended by a line feed, with a carriage return in front of it or without, and the last line
need not be ended. -/
inductive Written : List Row → Text → Prop where
  | nil : Written [] []
  | last {r : Row} {line : Text} (hr : r.OnLine line) : Written [r] line
  | line {r : Row} {rows : List Row} {line ending t : Text} (hr : r.OnLine line)
      (hending : ending = "\n".toList ∨ ending = "\r\n".toList) (ht : Written rows t) :
      Written (r :: rows) (line ++ ending ++ t)

/-- The words of the lines of a text write rows, line by line. -/
def LinesWrite (t : Text) (rows : List Row) : Prop :=
  List.Forall₂ (fun line r => r.WrittenBy (Text.words line)) t.lines rows

variable {t : Text} {rows : List Row}

theorem read_eq_ok_iff_linesWrite : (read t).result = .ok rows ↔ LinesWrite t rows := by
  rw [read_eq_ok_iff]
  simp only [Row.ofLine_eq_ok_iff_writtenBy]
  rfl

/-- A line with a row in front of a text is the first line, whichever way it is ended. -/
theorem LinesWrite.line {r : Row} {line ending : Text} (hr : r.OnLine line)
    (hending : ending = "\n".toList ∨ ending = "\r\n".toList) (ht : LinesWrite t rows) :
    LinesWrite (line ++ ending ++ t) (r :: rows) := by
  have hn := hr.newline_not_mem
  unfold LinesWrite
  rcases hending with rfl | rfl
  · have hlines : Text.lines (line ++ "\n".toList ++ t) = line.dropReturn :: Text.lines t := by
      rw [List.append_assoc]
      exact Text.lines_append_newline hn t
    rw [hlines, List.forall₂_cons, Text.words_dropReturn]
    exact ⟨hr.writtenBy_words, ht⟩
  · -- the carriage return is taken for the last character of the line at first
    have hn' : '\n' ∉ line ++ ['\r'] := by
      rw [List.mem_append, not_or]
      exact ⟨hn, by decide⟩
    have hlines : Text.lines (line ++ "\r\n".toList ++ t)
        = (line ++ ['\r']).dropReturn :: Text.lines t := by
      rw [← Text.lines_append_newline hn', List.append_assoc, List.append_assoc]
      rfl
    rw [hlines, List.forall₂_cons, Text.words_dropReturn,
      Text.words_append_space (Text.isSpace_nil.cons (by decide) (by decide))]
    exact ⟨hr.writtenBy_words, ht⟩

/-- **What is written is on the lines.** -/
theorem Written.linesWrite (h : Written rows t) : LinesWrite t rows := by
  induction h with
  | nil => exact .nil
  | last hr =>
    unfold LinesWrite
    rw [Text.lines_of_not_mem hr.ne_nil hr.newline_not_mem]
    exact .cons hr.writtenBy_words .nil
  | line hr hending _ ih => exact ih.line hr hending

/-- **What is on the lines is written.** -/
theorem LinesWrite.written (h : LinesWrite t rows) : Written rows t := by
  induction rows generalizing t with
  | nil =>
    have hlines := List.forall₂_nil_right_iff.1 h
    rcases Text.lines_cases t with ⟨rfl, -⟩ | ⟨-, hcons⟩ | ⟨line, rest, -, -, hcons⟩
    · exact .nil
    · rw [hcons] at hlines
      cases hlines
    · rw [hcons] at hlines
      cases hlines
  | cons r rows ih =>
    unfold LinesWrite at h
    rcases Text.lines_cases t with ⟨-, hnil⟩ | ⟨hn, hcons⟩ | ⟨line, rest, rfl, hn, hcons⟩
    · rw [hnil] at h
      cases h
    · rw [hcons, List.forall₂_cons, List.forall₂_nil_left_iff] at h
      obtain ⟨hwords, rfl⟩ := h
      exact .last (Row.onLine_of_writtenBy_words hn hwords)
    · rw [hcons, List.forall₂_cons, Text.words_dropReturn] at h
      obtain ⟨hwords, hrest⟩ := h
      have hwritten :=
        Written.line (Row.onLine_of_writtenBy_words hn hwords) (.inl rfl) (ih hrest)
      rwa [List.append_assoc] at hwritten

/-- **A dump is accepted exactly if it is written in one of the ways in which dumps are
written, with the rows that it writes.** It has then one line for each row: the first word
of the line is read as the address, and the others are read as the bytes, one by one. -/
theorem accepted_iff_written (t : Text) (rows : List Row) :
    ((read t).result = .ok rows ↔ t.lines.length = rows.length ∧
      ∀ i (hl : i < t.lines.length) (hr : i < rows.length), ∃ w ws,
        Text.words t.lines[i] = w :: ws ∧ Hex.read w = .ok rows[i].address.toUInt32 ∧
        List.Forall₂ (fun w b => Hex.read w = .ok b.toUInt32) ws rows[i].bytes) ∧
    ((read t).result = .ok rows ↔ Written rows t) := by
  rw [read_eq_ok_iff_linesWrite]
  exact ⟨List.forall₂_iff_get, LinesWrite.written, Written.linesWrite⟩

example : (read "\x0b+0200\u20280_1 0X2 \r\r\n0x_210\r".toList).result
    = .ok [⟨0x200, [1, 2]⟩, ⟨0x210, []⟩] := by
  decide

end Dump

end MemoryListing
