import MemoryListing.Text

/-!
# Lines and words

A line ends at a line feed, and a carriage return right before the line feed
belongs to the line end. What follows the last line feed is a line only if it
is not empty, so a final line end opens no further line; and it has no line
end of its own, so a carriage return at the end of the text stays in it.

The words of a line are its longest runs of characters that are not blank.
Blanks before the first word, after the last one and between two of them are
layout and leave no trace, so a line of blanks has no words at all. A character
is blank if it has the property White_Space. The carriage return and the line
feed are among the blanks, so a carriage return that does not end a line is an
ordinary blank.
-/

namespace MemoryListing

namespace Text

/-! ## Lines -/

/-- A terminated line without the carriage return of its line end. -/
def dropReturn (line : Text) : Text :=
  if line.getLast? = some '\r' then line.dropLast else line

/-- The lines that the pieces between line feeds stand for: all but the last
piece are terminated lines, and the last piece is a line if it is not empty. -/
def linesOfPieces : List Text → List Text
  | [] => []
  | [last] => if last.isEmpty then [] else [last]
  | piece :: next :: rest => dropReturn piece :: linesOfPieces (next :: rest)

/-- **The lines of a text**, in order and without their line ends. -/
def lines (t : Text) : List Text :=
  linesOfPieces (t.splitOn '\n')

theorem linesOfPieces_cons (piece : Text) {rest : List Text} (h : rest ≠ []) :
    linesOfPieces (piece :: rest) = dropReturn piece :: linesOfPieces rest := by
  cases rest with
  | nil => exact absurd rfl h
  | cons next rest => rfl

/-- A text without a line feed is one piece. -/
theorem splitOn_newline_of_not_mem {l : Text} (h : '\n' ∉ l) :
    l.splitOn '\n' = [l] := by
  rw [List.splitOn_eq_splitOnP, List.splitOnP_eq_singleton]
  intro c hc
  exact beq_eq_false_iff_ne.2 fun hn => h (hn ▸ hc)

@[simp] theorem lines_nil : lines [] = [] := rfl

/-- The first piece ends at the first line feed. -/
theorem splitOn_append_newline {l : Text} (h : '\n' ∉ l) (t : Text) :
    (l ++ '\n' :: t).splitOn '\n' = l :: t.splitOn '\n' := by
  have hl := splitOn_newline_of_not_mem h
  rw [List.splitOn_eq_splitOnP] at hl ⊢
  rw [List.splitOnP_append_cons l t (by simp), hl]
  rfl

/-- **The first line ends at the first line feed.** -/
@[simp] theorem lines_append_newline {l : Text} (h : '\n' ∉ l) (t : Text) :
    lines (l ++ '\n' :: t) = dropReturn l :: lines t := by
  rw [lines, splitOn_append_newline h, linesOfPieces_cons, lines]
  rw [List.splitOn_eq_splitOnP]
  exact List.splitOnP_ne_nil _ _

/-- A text without a line feed is one line, unless it is empty. -/
@[simp] theorem lines_of_not_mem {l : Text} (hne : l ≠ []) (h : '\n' ∉ l) : lines l = [l] := by
  rw [lines, splitOn_newline_of_not_mem h]
  simp [linesOfPieces, hne]

/-! ## Blanks -/

/-- The ranges of the property White_Space. -/
def blankRanges : List CodeRange :=
  [⟨0x9, 0xd⟩, ⟨0x20, 0x20⟩, ⟨0x85, 0x85⟩, ⟨0xa0, 0xa0⟩, ⟨0x1680, 0x1680⟩,
   ⟨0x2000, 0x200a⟩, ⟨0x2028, 0x2029⟩, ⟨0x202f, 0x202f⟩, ⟨0x205f, 0x205f⟩,
   ⟨0x3000, 0x3000⟩]

/-- **A character is blank** if it has the property White_Space. -/
def isBlank (c : Char) : Bool :=
  CodeRange.covers blankRanges c

/-! ## Words -/

/-- **The words of a text**, in order: the pieces between blanks that are not
empty. -/
def words (t : Text) : List Text :=
  (t.splitOnP isBlank).filter (fun w => !w.isEmpty)

/-- **Words split at a blank.** -/
@[simp] theorem words_append_blank (s t : Text) {c : Char} (h : isBlank c) :
    words (s ++ c :: t) = words s ++ words t := by
  rw [words, List.splitOnP_append_cons s t h, List.filter_append]
  rfl

/-- A text that is not empty and has no blank in it is one word. -/
theorem words_of_not_blank {w : Text} (hne : w ≠ []) (h : ∀ c ∈ w, isBlank c = false) :
    words w = [w] := by
  rw [words, List.splitOnP_eq_singleton h]
  simp [hne]

end Text

end MemoryListing
