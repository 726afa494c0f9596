import Mathlib.Data.List.Forall2
import MemoryListing.Input

/-!
# The first bad line decides

Dumps and symbol lists are read alike, and what they have in common is a
`LineFormat`: how a line is read as an item, what is noticed about it, how a refusal
is reported, and how the items are counted in the end. Reading a text in a format
(`LineFormat.read`) is reading a dump in the format of dumps (`Dump.read_eq_read`)
and reading a symbol list in that of symbol lists (`SymbolTable.read_eq_read`).

The outcome is said once for all formats. Either every line is an item, or there is
a first line that is none (`LineFormat.accepts_or_firstBadLine`), with the items of
the lines before it. In the first case all items are returned
(`LineFormat.read_of_accepts`). In the second the bad line is reported under its
number, what was noticed about the lines before it stays, and what stands behind it
makes no difference (`LineFormat.read_of_firstBadLine`).
-/

namespace MemoryListing

/-- Lists are paired by relations that agree on the members of the first one. -/
theorem forall₂_congr_of_mem {α β : Type} {R S : α → β → Prop} {l : List α} {u : List β}
    (h : ∀ a ∈ l, ∀ b, R a b ↔ S a b) : List.Forall₂ R l u ↔ List.Forall₂ S l u := by
  rw [List.forall₂_iff_zip, List.forall₂_iff_zip]
  refine and_congr_right fun _ => ?_
  constructor
  · intro hR a b hmem
    exact (h a (List.of_mem_zip hmem).1 b).1 (hR hmem)
  · intro hS a b hmem
    exact (h a (List.of_mem_zip hmem).1 b).2 (hS hmem)

/-! ## Line numbers further down -/

/-- A notice with its line moved down. -/
def Notice.moveDown (k : Nat) : Notice → Notice
  | .oddRow line address size => .oddRow (line + k) address size
  | n => n

/-- A refusal with its line moved down. -/
def InputError.moveDown (k : Nat) : InputError → InputError
  | .row line cause => .row (line + k) cause
  | .symbol line cause => .symbol (line + k) cause
  | .unreadable cause => .unreadable cause

/-- **How the lines of a text are read.** Each is an item or refused, and it has a
number that notices and refusals mention and that nothing else depends on. -/
structure LineFormat (α ε : Type) where
  /-- Reads the item on a line. -/
  ofLine : Text → Except ε α
  /-- What is noticed about the item on the line with a number. -/
  noticed : Nat → α → List Notice
  /-- The report of a refused line. -/
  refused : Nat → ε → InputError
  /-- What is noticed in the end about the number of items. -/
  counted : Nat → Notice
  /-- What is noticed about an item is a warning. -/
  level_noticed : ∀ n a, ∀ x ∈ noticed n a, x.level = .warn := by simp
  /-- The number of items is no warning. -/
  level_counted : ∀ k, (counted k).level = .debug := by intro k; rfl
  /-- Notices mention the number of the line. -/
  noticed_add : ∀ n k a, noticed (n + k) a = (noticed n a).map (Notice.moveDown k) := by simp
  /-- Refusals mention the number of the line. -/
  refused_add : ∀ n k e, refused (n + k) e = (refused n e).moveDown k := by intros; rfl

namespace LineFormat

variable {α ε : Type} (f : LineFormat α ε)

/-- **Reads a text** line by line. -/
def read (t : Text) : Logged (Except InputError (List α)) :=
  let reading := Input.readLines f.ofLine f.noticed 1 t.lines
  match reading.result with
  | .error (line, e) => ⟨reading.notices, .error (f.refused line e)⟩
  | .ok items => ⟨reading.notices ++ [f.counted items.length], .ok items⟩

/-- What is noticed about the items on consecutive lines, the first of which has a
given number. -/
def noticesFrom (number : Nat) (items : List α) : List Notice :=
  (items.zipIdx number).flatMap fun p => f.noticed p.2 p.1

/-- **Every line is an item.** -/
def Accepts (lines : List Text) (items : List α) : Prop :=
  List.Forall₂ (fun line a => f.ofLine line = .ok a) lines items

/-- **The first bad line** has this number, counted from one, and this is wrong with
it. The lines before it are items. -/
structure FirstBadLine (lines : List Text) (number : Nat) (cause : ε) (items : List α) :
    Prop where
  /-- Lines are counted from one. -/
  pos : 1 ≤ number
  /-- The line is there, and it is refused. -/
  refuses : ∃ line, lines[number - 1]? = some line ∧ f.ofLine line = .error cause
  /-- The lines before it are items. -/
  earlier : f.Accepts (lines.take (number - 1)) items

variable {f} {lines before after : List Text} {items first second : List α}
  {number : Nat} {cause : ε}

/-! ## Where the first bad line is -/

theorem Accepts.append (h : f.Accepts before first) (h' : f.Accepts after second) :
    f.Accepts (before ++ after) (first ++ second) :=
  List.rel_append h h'

variable (f lines) in
/-- Lines are items all together if each of them is one. -/
theorem exists_accepts_iff :
    (∃ items, f.Accepts lines items) ↔ ∀ line ∈ lines, ∃ a, f.ofLine line = .ok a := by
  induction lines with
  | nil => exact ⟨fun _ => nofun, fun _ => ⟨[], .nil⟩⟩
  | cons line lines ih =>
    rw [List.forall_mem_cons, ← ih]
    constructor
    · rintro ⟨_, h⟩
      obtain ⟨a, items, hline, h, -⟩ := List.forall₂_cons_left_iff.1 h
      exact ⟨⟨a, hline⟩, ⟨items, h⟩⟩
    · rintro ⟨⟨a, hline⟩, ⟨items, h⟩⟩
      exact ⟨a :: items, .cons hline h⟩

/-- Behind lines that are items the first bad line of the rest is the first one of
all. -/
theorem FirstBadLine.append_left (h : f.FirstBadLine after number cause second)
    (h' : f.Accepts before first) :
    f.FirstBadLine (before ++ after) (number + before.length) cause (first ++ second) := by
  have hpos := h.pos
  have hindex : number + before.length - 1 = before.length + (number - 1) := by omega
  refine ⟨by omega, ?_, ?_⟩
  · rw [hindex, List.getElem?_append_right (Nat.le_add_right _ _), Nat.add_sub_cancel_left]
    exact h.refuses
  · rw [hindex, List.take_length_add_append]
    exact h'.append h.earlier

/-- More lines behind it leave the first bad line where it is. -/
theorem FirstBadLine.append_right (h : f.FirstBadLine before number cause items)
    (after : List Text) : f.FirstBadLine (before ++ after) number cause items := by
  obtain ⟨line, hline, hcause⟩ := h.refuses
  obtain ⟨hlt, -⟩ := List.getElem?_eq_some_iff.1 hline
  refine ⟨h.pos, ⟨line, ?_, hcause⟩, ?_⟩
  · rw [List.getElem?_append_left hlt]
    exact hline
  · rw [List.take_append_of_le_length (Nat.le_of_lt hlt)]
    exact h.earlier

variable (f) in
/-- **Either all lines are items or there is a first bad line.** -/
theorem accepts_or_firstBadLine (lines : List Text) :
    (∃ items, f.Accepts lines items) ∨
      ∃ number cause items, f.FirstBadLine lines number cause items := by
  induction lines with
  | nil => exact .inl ⟨[], .nil⟩
  | cons line lines ih =>
    cases hline : f.ofLine line with
    | error cause => exact .inr ⟨1, cause, [], Nat.le_refl 1, ⟨line, rfl, hline⟩, .nil⟩
    | ok a =>
      have hone : f.Accepts [line] [a] := .cons hline .nil
      rcases ih with ⟨items, h⟩ | ⟨number, cause, items, h⟩
      · exact .inl ⟨_, hone.append h⟩
      · exact .inr ⟨_, cause, _, h.append_left hone⟩

/-! ## The outcome -/

/-- Items are read off the front, and reading goes on behind them with the number of
the next line. -/
theorem readLines_append (h : f.Accepts before items) (number : Nat) (after : List Text) :
    Input.readLines f.ofLine f.noticed number (before ++ after) =
      let others := Input.readLines f.ofLine f.noticed (number + before.length) after
      ⟨f.noticesFrom number items ++ others.notices, others.result.map (items ++ ·)⟩ := by
  induction h generalizing number with
  | nil =>
    show _ = Logged.mk ([] ++ _) (Except.map id _)
    rw [Except.map_id]
    rfl
  | @cons line a lines items hline _ ih =>
    have hlength : number + (line :: lines).length = number + 1 + lines.length := by
      rw [List.length_cons, Nat.add_right_comm, Nat.add_assoc]
    simp only [List.cons_append, Input.readLines, hline, ih (number + 1), hlength, noticesFrom,
      List.zipIdx_cons, List.flatMap_cons, List.append_assoc]
    cases (Input.readLines f.ofLine f.noticed (number + 1 + lines.length) after).result with
    | error e => rfl
    | ok others => rfl

/-- **A text whose lines are all items is read as these items.** -/
theorem read_of_accepts {t : Text} (h : f.Accepts t.lines items) :
    f.read t = ⟨f.noticesFrom 1 items ++ [f.counted items.length], .ok items⟩ := by
  have hlines := readLines_append h 1 []
  simp only [List.append_nil, Input.readLines, Except.map] at hlines
  simp only [read, hlines]

/-- **A text with a bad line is refused at the first one.** -/
theorem read_of_firstBadLine {t : Text} (h : f.FirstBadLine t.lines number cause items) :
    f.read t = ⟨f.noticesFrom 1 items, .error (f.refused number cause)⟩ := by
  obtain ⟨line, hline, hcause⟩ := h.refuses
  obtain ⟨hlt, rfl⟩ := List.getElem?_eq_some_iff.1 hline
  have hpos := h.pos
  have hnumber : 1 + (t.lines.take (number - 1)).length = number := by
    rw [List.length_take]
    omega
  -- the bad line and what follows it are what is left behind the items
  have hlines := readLines_append h.earlier 1 (t.lines.drop (number - 1))
  rw [List.take_append_drop, List.drop_eq_getElem_cons hlt, hnumber] at hlines
  simp only [Input.readLines, hcause, List.append_nil, Except.map] at hlines
  simp only [read, hlines]

/-- **A text is read where every line is an item.** -/
theorem read_eq_ok_iff {t : Text} : (f.read t).result = .ok items ↔ f.Accepts t.lines items := by
  constructor
  · intro h
    rcases f.accepts_or_firstBadLine t.lines with ⟨items', hall⟩ | ⟨number, cause, _, hbad⟩
    · rw [read_of_accepts hall] at h
      rwa [← Except.ok.inj h]
    · rw [read_of_firstBadLine hbad] at h
      cases h
  · intro h
    rw [read_of_accepts h]

/-- **A text is refused where it has a bad line**, and the first one is reported. -/
theorem read_eq_error_iff {t : Text} {e : InputError} :
    (f.read t).result = .error e ↔ ∃ number cause items, e = f.refused number cause ∧
      f.FirstBadLine t.lines number cause items := by
  constructor
  · intro h
    rcases f.accepts_or_firstBadLine t.lines with ⟨items, hall⟩ | ⟨number, cause, items, hbad⟩
    · rw [read_of_accepts hall] at h
      cases h
    · rw [read_of_firstBadLine hbad] at h
      exact ⟨number, cause, items, (Except.error.inj h).symm, hbad⟩
  · rintro ⟨number, cause, items, rfl, hbad⟩
    rw [read_of_firstBadLine hbad]

end LineFormat

/-! ## The two formats -/

/-- **The format of dumps**: rows, noticed if they have another size than expected. -/
def Dump.format : LineFormat Row RowError where
  ofLine := Row.ofLine
  noticed := sizeNotices
  refused := .row
  counted := .rowsRead
  level_noticed := by
    intro n a x hx
    unfold sizeNotices at hx
    split at hx
    · cases hx
    · rw [List.mem_singleton.1 hx]
      rfl
  noticed_add := by
    intro n k a
    unfold sizeNotices
    split <;> rfl

/-- Reading a dump is reading in the format of dumps. -/
theorem Dump.read_eq_read (t : Text) : read t = format.read t := by
  simp only [read, LineFormat.read, format]
  cases (Input.readLines Row.ofLine sizeNotices 1 t.lines).result <;> rfl

/-- **The format of symbol lists**: symbols, about which nothing is noticed. -/
def SymbolTable.format : LineFormat Symbol SymbolError where
  ofLine := Symbol.ofLine
  noticed := fun _ _ => []
  refused := .symbol
  counted := .symbolsRead

/-- Reading a symbol list is reading in the format of symbol lists. -/
theorem SymbolTable.read_eq_read (t : Text) : read t = format.read t := by
  simp only [read, LineFormat.read, format]
  cases (Input.readLines Symbol.ofLine (fun _ _ => []) 1 t.lines).result <;> rfl

end MemoryListing
