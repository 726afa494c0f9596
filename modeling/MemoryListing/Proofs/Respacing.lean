import Mathlib.Logic.Relation
import MemoryListing.Proofs.JoinedTexts
import MemoryListing.Proofs.Spacing

/-!
# Space and line ends make no difference

A text can be laid out in many ways. A line may end in a carriage return and a line feed
or in a line feed alone, words may stand further in or further apart, a line may go on
with space behind its last word, and the line feed behind the last line can be there or
not. One such change is a `Text.Respacing`, and texts are `Text.Respaced` if changes in
either direction, as many as one likes, lead from one to the other.

No change touches the words of any line or the number of lines
(`Text.Respacing.words_lines_eq`), so none of them ever does
(`Text.Respaced.words_lines_eq`). And the words of the lines are all that the readers look
at (`LineFormat.read_congr`): respaced texts are read alike, whether they are accepted or
refused, with the same notices (`Input.read_respaced`).

A line that gets space in front or behind has to have a word. Behind the last line feed
there is no line, and space that is put there makes one, which is blank and refused.
-/

namespace MemoryListing

namespace Text

/-! ## Changes of the layout -/

/-- **A line of a text**, with its place: what stands before and behind it. Behind it stands
the line feed that ends it, unless the text ends there. -/
structure LineIn (before line after : Text) : Prop where
  /-- The line starts the text or follows a line feed. -/
  starts : before = [] ∨ before.getLast? = some '\n'
  /-- The line is one line. -/
  newline_not_mem : '\n' ∉ line
  /-- The line ends the text or a line feed follows. -/
  ends : after = [] ∨ after.head? = some '\n'

/-- **One change of the layout of a text.** -/
inductive Respacing : Text → Text → Prop where
  /-- A carriage return is put in front of a line feed. -/
  | lineEnd (before after : Text) :
      Respacing (before ++ '\n' :: after) (before ++ '\r' :: '\n' :: after)
  /-- Space is put in front of a line with a word. -/
  | start {before line after s : Text} (hline : LineIn before line after)
      (hwords : line.words ≠ []) (hs : IsSpace s) :
      Respacing (before ++ line ++ after) (before ++ (s ++ line) ++ after)
  /-- Space is put behind a line with a word. -/
  | stop {before line after s : Text} (hline : LineIn before line after)
      (hwords : line.words ≠ []) (hs : IsSpace s) :
      Respacing (before ++ line ++ after) (before ++ (line ++ s) ++ after)
  /-- Some space is replaced by other space. -/
  | between (before s s' after : Text) (hs : IsSpace s) (hne : s ≠ []) (hs' : IsSpace s')
      (hne' : s' ≠ []) :
      Respacing (before ++ s ++ after) (before ++ s' ++ after)
  /-- A line feed is put behind the last line, which has a word. -/
  | final {before line : Text} (hline : LineIn before line []) (hwords : line.words ≠ []) :
      Respacing (before ++ line) (before ++ line ++ ['\n'])

/-- **Texts of one layout or another**: changes of the layout and their reversals lead from
one to the other. -/
def Respaced (t t' : Text) : Prop :=
  Relation.EqvGen Respacing t t'

/-! ## The words of the lines -/

variable {before line line' after l s t t' : Text}

/-- Terminated lines and the rest of a line are what there is before any place of a text. -/
theorem exists_terminated_append (t : Text) :
    ∃ before l, t = before ++ l ∧ (before = [] ∨ before.getLast? = some '\n') ∧ '\n' ∉ l := by
  by_cases hn : '\n' ∈ t
  · obtain ⟨l, rest, hreverse, hl⟩ := List.eq_append_cons_of_mem (List.mem_reverse.2 hn)
    refine ⟨rest.reverse ++ ['\n'], l.reverse, ?_, .inr List.getLast?_concat,
      fun h => hl (List.mem_reverse.1 h)⟩
    rw [← List.reverse_reverse t, hreverse, List.reverse_append, List.reverse_cons]
  · exact ⟨[], t, rfl, .inl rfl, hn⟩

/-- The rest of a line and what the next line feed begins are what there is behind any
place of a text. -/
theorem exists_append_newline (t : Text) :
    ∃ l after, t = l ++ after ∧ '\n' ∉ l ∧ (after = [] ∨ after.head? = some '\n') := by
  by_cases hn : '\n' ∈ t
  · obtain ⟨l, rest, rfl, hl⟩ := List.eq_append_cons_of_mem hn
    exact ⟨l, '\n' :: rest, rfl, hl, .inr rfl⟩
  · exact ⟨t, [], (List.append_nil t).symm, hn, .inl rfl⟩

/-- **The words of a text, line by line, with one of the lines in front of a line feed.** -/
theorem map_words_lines_append_newline (hbefore : before = [] ∨ before.getLast? = some '\n')
    (hl : '\n' ∉ l) (after : Text) :
    (lines (before ++ l ++ '\n' :: after)).map words
      = before.lines.map words ++ words l :: after.lines.map words := by
  rw [List.append_assoc, lines_append (terminated_of_getLast? hbefore),
    lines_append_newline hl, List.map_append, List.map_cons, words_dropReturn]

/-- **The words of a text, line by line, with one of the lines in its place.** -/
theorem LineIn.map_words_lines (h : LineIn before line after) (hne : line ≠ []) :
    (lines (before ++ line ++ after)).map words
      = before.lines.map words ++ words line :: (lines after.tail).map words := by
  rcases h.ends with rfl | hafter
  · rw [List.append_nil, lines_append (terminated_of_getLast? h.starts),
      lines_of_not_mem hne h.newline_not_mem, List.map_append]
    rfl
  · obtain ⟨rest, rfl⟩ := List.head?_eq_some_iff.1 hafter
    exact map_words_lines_append_newline h.starts h.newline_not_mem rest

/-- **A line can be replaced by another one with the same words.** -/
theorem LineIn.words_lines_replace (h : LineIn before line after) (hne : line ≠ [])
    (hn : '\n' ∉ line') (hne' : line' ≠ []) (hwords : words line' = words line) :
    (lines (before ++ line' ++ after)).map words
      = (lines (before ++ line ++ after)).map words := by
  have h' : LineIn before line' after := ⟨h.starts, hn, h.ends⟩
  rw [h.map_words_lines hne, h'.map_words_lines hne', hwords]

theorem ne_nil_of_words_ne_nil (h : line.words ≠ []) : line ≠ [] := by
  rintro rfl
  exact h (words_of_space isSpace_nil)

/-- Space splits words, whichever space it is. -/
theorem words_append_space_append (hs : IsSpace s) (hne : s ≠ []) (l t : Text) :
    words (l ++ s ++ t) = words l ++ words t := by
  obtain ⟨c, s, rfl⟩ := List.exists_cons_of_ne_nil hne
  rw [List.append_assoc, List.cons_append, words_append_blank l _ (hs c List.mem_cons_self).1,
    words_space_append fun a ha => hs a (List.mem_cons_of_mem c ha)]

/-- **A change of the layout leaves the words of each line as they are.** -/
theorem Respacing.words_lines_eq (h : Respacing t t') : t'.lines.map words = t.lines.map words := by
  cases h with
  | lineEnd before after =>
    obtain ⟨before, l, rfl, hbefore, hl⟩ := exists_terminated_append before
    have hreturn : '\n' ∉ l ++ ['\r'] := List.not_mem_append hl (by decide)
    have hwords : words (l ++ ['\r']) = words l := words_append_space (by decide) l
    have hlines := map_words_lines_append_newline hbefore hreturn after
    rw [hwords, ← map_words_lines_append_newline hbefore hl] at hlines
    rw [← hlines]
    simp only [List.append_assoc, List.singleton_append]
  | @start before line after s hline hwords hs =>
    have hne := ne_nil_of_words_ne_nil hwords
    exact hline.words_lines_replace hne
      (List.not_mem_append hs.newline_not_mem hline.newline_not_mem)
      (List.append_ne_nil_of_right_ne_nil s hne) (words_space_append hs line)
  | @stop before line after s hline hwords hs =>
    have hne := ne_nil_of_words_ne_nil hwords
    exact hline.words_lines_replace hne
      (List.not_mem_append hline.newline_not_mem hs.newline_not_mem)
      (List.append_ne_nil_of_left_ne_nil hne s) (words_append_space hs line)
  | between before s s' after hs hne hs' hne' =>
    -- the space is part of a line, with what there is of the line on both sides
    obtain ⟨before, l, rfl, hbefore, hl⟩ := exists_terminated_append before
    obtain ⟨r, after, rfl, hr, hafter⟩ := exists_append_newline after
    have hn : ∀ {s : Text}, IsSpace s → '\n' ∉ l ++ s ++ r :=
      fun hs => List.not_mem_append (List.not_mem_append hl hs.newline_not_mem) hr
    have hnonempty : ∀ {s : Text}, s ≠ [] → l ++ s ++ r ≠ [] :=
      fun hne => List.append_ne_nil_of_left_ne_nil (List.append_ne_nil_of_right_ne_nil l hne) r
    have hwords : words (l ++ s' ++ r) = words (l ++ s ++ r) := by
      rw [words_append_space_append hs' hne', words_append_space_append hs hne]
    have hline : LineIn before (l ++ s ++ r) after := ⟨hbefore, hn hs, hafter⟩
    have hlines := hline.words_lines_replace (hnonempty hne) (hn hs') (hnonempty hne') hwords
    simpa only [List.append_assoc] using hlines
  | @final before line hline hwords =>
    rw [map_words_lines_append_newline hline.starts hline.newline_not_mem,
      ← List.append_nil (before ++ line), hline.map_words_lines (ne_nil_of_words_ne_nil hwords)]
    rfl

/-- **Texts that differ in their layout have the same words on their lines.** -/
theorem Respaced.words_lines_eq (h : Respaced t t') : t'.lines.map words = t.lines.map words := by
  induction h with
  | rel t t' h => exact h.words_lines_eq
  | refl t => rfl
  | symm t t' _ ih => exact ih.symm
  | trans t u t' _ _ ih ih' => exact ih'.trans ih

end Text

/-! ## Reading -/

/-- **Reading goes by what each line is read as.** -/
theorem Input.readLines_congr {α ε : Type} {ofLine : Text → Except ε α}
    {noticed : Nat → α → List Notice} {lines lines' : List Text}
    (h : lines'.map ofLine = lines.map ofLine) (number : Nat) :
    readLines ofLine noticed number lines' = readLines ofLine noticed number lines := by
  induction lines generalizing lines' number with
  | nil => rw [List.map_eq_nil_iff.1 h]
  | cons line lines ih =>
    obtain ⟨line', lines', rfl, hline, hlines⟩ := List.map_eq_cons_iff.1 h
    unfold readLines
    rw [hline]
    cases ofLine line with
    | error e => rfl
    | ok a =>
      dsimp only
      rw [ih hlines]

theorem LineFormat.read_congr {α ε : Type} {f : LineFormat α ε} {t t' : Text}
    (h : t'.lines.map f.ofLine = t.lines.map f.ofLine) : f.read t' = f.read t := by
  unfold read
  rw [Input.readLines_congr h]

/-- **The layout of a text makes no difference.** However carriage returns are put in front
of line feeds, space is put in front of lines with words and behind them or exchanged for
other space, and the line feed behind a last line with words is put there or left out: the
text is read alike before and after, as a dump and as a symbol list. The result is the same,
be it rows, symbols or an error, and so are the notices. -/
theorem Input.read_respaced {t t' : Text} (h : t.Respaced t') :
    Dump.read t' = Dump.read t ∧ SymbolTable.read t' = SymbolTable.read t := by
  have hwords := h.words_lines_eq
  rw [Dump.read_eq_read, Dump.read_eq_read, SymbolTable.read_eq_read, SymbolTable.read_eq_read]
  constructor
  · refine LineFormat.read_congr ?_
    show t'.lines.map (Row.ofWords ∘ Text.words) = t.lines.map (Row.ofWords ∘ Text.words)
    rw [← List.map_map, ← List.map_map, hwords]
  · refine LineFormat.read_congr ?_
    show t'.lines.map (Symbol.ofWords ∘ Text.words) = t.lines.map (Symbol.ofWords ∘ Text.words)
    rw [← List.map_map, ← List.map_map, hwords]

/-- A tab, a carriage return, an ideographic space and a last line feed more, and the bad
word is still found on the second line, among the bytes of a row or behind a name. -/
theorem Input.read_respaced_of_bad_word :
    let t : Text := "10 1\n20 zz".toList
    let t' : Text := "10\t1\r\n\u300020 zz\n".toList
    t.Respaced t' ∧ Dump.read t' = Dump.read t ∧ SymbolTable.read t' = SymbolTable.read t ∧
      (Dump.read t').notices = [.oddRow 1 0x10 1] ∧
      (Dump.read t').result
        = .error (.row 2 (.badWord (.byte 0) "zz".toList (.notHex (.badDigit 122)))) ∧
      (SymbolTable.read t').result
        = .error (.symbol 2 (.badAddress "zz".toList (.notHex (.badDigit 122)))) := by
  intro t t'
  have htab : Text.Respacing t "10\t1\n20 zz".toList :=
    .between "10".toList [' '] ['\t'] "1\n20 zz".toList (by decide) (by decide) (by decide)
      (by decide)
  have hreturn : Text.Respacing "10\t1\n20 zz".toList "10\t1\r\n20 zz".toList :=
    .lineEnd "10\t1".toList "20 zz".toList
  have hline : Text.LineIn "10\t1\r\n".toList "20 zz".toList [] :=
    ⟨.inr (by decide), by decide, .inl rfl⟩
  have hspace : Text.Respacing "10\t1\r\n20 zz".toList "10\t1\r\n\u300020 zz".toList :=
    .start hline (by decide) (s := ['\u3000']) (by decide)
  have hline' : Text.LineIn "10\t1\r\n".toList "\u300020 zz".toList [] :=
    ⟨.inr (by decide), by decide, .inl rfl⟩
  have hfinal : Text.Respacing "10\t1\r\n\u300020 zz".toList t' := .final hline' (by decide)
  have h : t.Respaced t' :=
    .trans _ _ _ (.rel _ _ htab) (.trans _ _ _ (.rel _ _ hreturn)
      (.trans _ _ _ (.rel _ _ hspace) (.rel _ _ hfinal)))
  obtain ⟨hdump, hlist⟩ := read_respaced h
  exact ⟨h, hdump, hlist, by decide +kernel, by decide +kernel, by decide +kernel⟩

end MemoryListing
