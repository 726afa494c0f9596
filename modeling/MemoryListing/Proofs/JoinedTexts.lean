import MemoryListing.Proofs.FirstBadLine
import MemoryListing.Proofs.Lines

/-!
# Texts one behind the other

Two texts can be put one behind the other where the first one is empty or its last line
is ended. Reading the whole is then reading the two and joining what came of it
(`Input.Joined`): a first text that is refused decides by itself, and behind one that is
read the second text is read as it would be alone, with its lines counted on.
`Input.read_append_joined` says so of dumps and of symbol lists, for all texts.

It holds in every format in which the number of a line is only mentioned
(`LineFormat.joined_read_append`). The lines of the whole are the lines of both
(`Text.lines_append`), and so are its items, or else its first bad line is that of the
first text that has one (`LineFormat.FirstBadLine.append_left`,
`LineFormat.FirstBadLine.append_right`).
-/

namespace MemoryListing

/-- The warnings of an operation. -/
def Logged.warnings {α : Type} (l : Logged α) : List Notice :=
  l.notices.filter fun n => n.level = .warn

namespace Input

/-- **What comes of two texts one behind the other**, from what comes of each alone and
the number of lines of the first one. -/
structure Joined {α : Type} (counted : Nat → Notice) (lines : Nat)
    (first second whole : Logged (Except InputError (List α))) : Prop where
  /-- A refusal of the first text is all that comes of both. -/
  of_error : ∀ e, first.result = .error e → whole = first
  /-- A refusal of the second text is reported with its line counted on, and so are the
  warnings behind those about the first text. -/
  of_ok_error : ∀ items e, first.result = .ok items → second.result = .error e →
    whole = ⟨first.warnings ++ second.warnings.map (Notice.moveDown lines),
      .error (e.moveDown lines)⟩
  /-- The items of both texts come one behind the other, and so do the warnings. The items
  are counted together. -/
  of_ok_ok : ∀ items items', first.result = .ok items → second.result = .ok items' →
    whole = ⟨first.warnings ++ second.warnings.map (Notice.moveDown lines)
      ++ [counted (items.length + items'.length)], .ok (items ++ items')⟩

end Input

namespace LineFormat

variable {α ε : Type} {f : LineFormat α ε} {items first second : List α}

/-! ## Notices further down -/

theorem noticesFrom_append (number : Nat) (first second : List α) :
    f.noticesFrom number (first ++ second)
      = f.noticesFrom number first ++ f.noticesFrom (number + first.length) second := by
  unfold noticesFrom
  rw [List.zipIdx_append, List.flatMap_append]

/-- **Notices about items further down are the same notices moved down.** -/
theorem noticesFrom_add (number k : Nat) (items : List α) :
    f.noticesFrom (number + k) items = (f.noticesFrom number items).map (Notice.moveDown k) := by
  induction items generalizing number with
  | nil => rfl
  | cons a items ih =>
    have htail := ih (number + 1)
    rw [Nat.add_right_comm] at htail
    show f.noticed (number + k) a ++ f.noticesFrom (number + k + 1) items
      = (f.noticed number a ++ f.noticesFrom (number + 1) items).map _
    rw [List.map_append, f.noticed_add, htail]

theorem filter_noticesFrom (number : Nat) (items : List α) :
    (f.noticesFrom number items).filter (fun n => n.level = .warn)
      = f.noticesFrom number items := by
  refine List.filter_eq_self.2 fun n hn => decide_eq_true ?_
  obtain ⟨p, -, hp⟩ := List.mem_flatMap.1 hn
  exact f.level_noticed p.2 p.1 n hp

/-- All that is noticed about the items are warnings, and the count is none. -/
theorem warnings_read_of_accepts {t : Text} (h : f.Accepts t.lines items) :
    (f.read t).warnings = f.noticesFrom 1 items := by
  have hcounted : (f.counted items.length).level ≠ .warn := by
    rw [f.level_counted]
    exact nofun
  rw [read_of_accepts h]
  show List.filter _ (_ ++ [_]) = _
  rw [List.filter_append, filter_noticesFrom, List.filter_singleton]
  simp [hcounted]

theorem warnings_read_of_firstBadLine {t : Text} {number : Nat} {cause : ε}
    (h : f.FirstBadLine t.lines number cause items) :
    (f.read t).warnings = f.noticesFrom 1 items := by
  rw [read_of_firstBadLine h]
  exact filter_noticesFrom 1 items

/-! ## Both texts -/

variable (f) in
/-- **Behind terminated lines a text is read on.** -/
theorem joined_read_append {a : Text} (ha : Text.Terminated a) (b : Text) :
    Input.Joined f.counted a.lines.length (f.read a) (f.read b) (f.read (a ++ b)) := by
  have hlines : Text.lines (a ++ b) = a.lines ++ b.lines := Text.lines_append ha b
  -- notices about the second text, in the numbers of the whole
  have hmoved : ∀ {first second : List α}, f.Accepts a.lines first →
      f.noticesFrom 1 (first ++ second) = f.noticesFrom 1 first
        ++ (f.noticesFrom 1 second).map (Notice.moveDown a.lines.length) := by
    intro first second hfirst
    rw [noticesFrom_append, noticesFrom_add, hfirst.length_eq]
  refine ⟨?_, ?_, ?_⟩
  · intro e he
    obtain ⟨number, cause, items, -, hbad⟩ := read_eq_error_iff.1 he
    rw [read_of_firstBadLine hbad]
    refine read_of_firstBadLine ?_
    rw [hlines]
    exact hbad.append_right b.lines
  · intro items e hitems he
    have hfirst := read_eq_ok_iff.1 hitems
    obtain ⟨number, cause, items', rfl, hbad⟩ := read_eq_error_iff.1 he
    have hwhole : f.FirstBadLine (Text.lines (a ++ b)) (number + a.lines.length) cause
        (items ++ items') := by
      rw [hlines]
      exact hbad.append_left hfirst
    rw [read_of_firstBadLine hwhole, warnings_read_of_accepts hfirst,
      warnings_read_of_firstBadLine hbad, hmoved hfirst, f.refused_add]
  · intro items items' hitems hitems'
    have hfirst := read_eq_ok_iff.1 hitems
    have hsecond := read_eq_ok_iff.1 hitems'
    have hwhole : f.Accepts (Text.lines (a ++ b)) (items ++ items') := by
      rw [hlines]
      exact hfirst.append hsecond
    rw [read_of_accepts hwhole, warnings_read_of_accepts hfirst,
      warnings_read_of_accepts hsecond, hmoved hfirst, List.length_append]

end LineFormat

/-- A text that is empty or ends with a line feed consists of terminated lines. -/
theorem Text.terminated_of_getLast? {t : Text} (h : t = [] ∨ t.getLast? = some '\n') :
    Terminated t := by
  rcases h with rfl | h
  · exact .nil
  · obtain ⟨u, rfl⟩ := List.getLast?_eq_some_iff.1 h
    exact terminated_append_newline u

/-- **Two texts one behind the other are read as one**, be they dumps or symbol lists, for
all texts of which the first one is empty or ends with a line feed. -/
theorem Input.read_append_joined {a : Text} (ha : a = [] ∨ a.getLast? = some '\n') (b : Text) :
    Joined .rowsRead a.lines.length (Dump.read a) (Dump.read b) (Dump.read (a ++ b)) ∧
      Joined .symbolsRead a.lines.length (SymbolTable.read a) (SymbolTable.read b)
        (SymbolTable.read (a ++ b)) := by
  have hterminated := Text.terminated_of_getLast? ha
  simp only [Dump.read_eq_read, SymbolTable.read_eq_read]
  exact ⟨Dump.format.joined_read_append hterminated b,
    SymbolTable.format.joined_read_append hterminated b⟩

/-- The blank line of the second text is refused as the third line of both, whether they are
dumps or symbol lists. A row of another size is noticed in each. -/
theorem Input.read_append_joined_of_blank_line :
    let a : Text := "0200 01\r\n".toList
    let b : Text := "0201 02\n\n03 4\n".toList
    (Dump.read (a ++ b)).notices = [.oddRow 1 0x200 1, .oddRow 2 0x201 1] ∧
      (Dump.read (a ++ b)).result = .error (.row 3 .noAddress) ∧
      (SymbolTable.read (a ++ b)).notices = [] ∧
      (SymbolTable.read (a ++ b)).result = .error (.symbol 3 (.wordCount 0)) := by
  intro a b
  have ha : a.getLast? = some '\n' := by decide +kernel
  obtain ⟨hdump, hsymbols⟩ := read_append_joined (.inr ha) b
  have hrows : (Dump.read a).result = .ok [⟨0x200, [1]⟩] := by decide +kernel
  have hrow : (Dump.read b).result = .error (.row 2 .noAddress) := by decide +kernel
  have hlist : (SymbolTable.read a).result = .ok [⟨"0200".toList, 1⟩] := by decide +kernel
  have hline : (SymbolTable.read b).result = .error (.symbol 2 (.wordCount 0)) := by
    decide +kernel
  rw [hdump.of_ok_error _ _ hrows hrow, hsymbols.of_ok_error _ _ hlist hline]
  decide +kernel

end MemoryListing
