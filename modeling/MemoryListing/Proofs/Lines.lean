import Mathlib.Data.List.Basic
import Mathlib.Data.Nat.Init
import MemoryListing.Text.Line

/-!
# Texts of whole lines

A text that is empty or ends with a line feed is a row of terminated lines
(`Text.Terminated`), and what is put behind it starts a line of its own:
`Text.lines_append`. Where no carriage return is involved, the lines of such a
text give the text back (`Text.unlines_lines`). A text that is made up of lines
without line feeds is cut at its line feeds into those lines
(`Text.splitOn_unlines`).
-/

namespace MemoryListing

namespace Text

/-- **A text of terminated lines**, built line by line from the front. -/
inductive Terminated : Text → Prop where
  | nil : Terminated []
  | line {l t : Text} (hl : '\n' ∉ l) (ht : Terminated t) : Terminated (l ++ '\n' :: t)

/-- A character in front of terminated lines belongs to the first of them, or is
a line of its own if it is a line feed. -/
theorem Terminated.cons {t : Text} (ht : Terminated t) (hne : t ≠ []) (c : Char) :
    Terminated (c :: t) := by
  cases ht with
  | nil => exact absurd rfl hne
  | @line l t hl ht =>
    by_cases hc : c = '\n'
    · rw [hc]
      exact .line (l := []) nofun (.line hl ht)
    · refine .line (l := c :: l) (fun hm => ?_) ht
      rcases List.mem_cons.1 hm with h | h
      · exact hc h.symm
      · exact hl h

/-- A text that ends with a line feed consists of terminated lines. -/
@[simp] theorem terminated_append_newline (t : Text) : Terminated (t ++ ['\n']) := by
  induction t with
  | nil => exact .line (l := []) nofun .nil
  | cons c t ih => exact ih.cons (List.append_ne_nil_of_right_ne_nil _ nofun) c

/-- **Behind terminated lines a new line starts.** -/
theorem lines_append {t : Text} (ht : Terminated t) (u : Text) :
    lines (t ++ u) = lines t ++ lines u := by
  induction ht with
  | nil => rfl
  | line hl _ ih =>
    rw [List.append_assoc, List.cons_append, lines_append_newline hl, ih,
      lines_append_newline hl]
    rfl

/-- **How a text starts**: with a line that a line feed ends, or with its only line, or not
at all. -/
theorem lines_cases (t : Text) :
    (t = [] ∧ lines t = []) ∨ ('\n' ∉ t ∧ lines t = [t]) ∨
      ∃ line rest, t = line ++ '\n' :: rest ∧ '\n' ∉ line ∧
        lines t = dropReturn line :: lines rest := by
  by_cases hn : '\n' ∈ t
  · obtain ⟨line, rest, rfl, hline⟩ := List.eq_append_cons_of_mem hn
    exact .inr (.inr ⟨line, rest, rfl, hline, lines_append_newline hline rest⟩)
  · cases t with
    | nil => exact .inl ⟨rfl, lines_nil⟩
    | cons c t => exact .inr (.inl ⟨hn, lines_of_not_mem (List.cons_ne_nil c t) hn⟩)

theorem dropReturn_subset (line : Text) : dropReturn line ⊆ line := by
  unfold dropReturn
  split
  next => exact List.dropLast_subset line
  next => exact List.Subset.refl line

/-- **A line holds no line feed.** -/
theorem newline_not_mem_of_mem_lines {t line : Text} (h : line ∈ lines t) : '\n' ∉ line := by
  induction hlength : t.length using Nat.strong_induction_on generalizing t with
  | _ n ih =>
    rcases lines_cases t with ⟨-, hlines⟩ | ⟨hn, hlines⟩ | ⟨first, rest, rfl, hfirst, hlines⟩
    · rw [hlines] at h
      cases h
    · rw [hlines] at h
      rwa [List.mem_singleton.1 h]
    · rw [hlines] at h
      rcases List.mem_cons.1 h with rfl | h
      · exact fun hmem => hfirst (dropReturn_subset first hmem)
      · refine ih rest.length ?_ h rfl
        rw [← hlength, List.length_append, List.length_cons]
        omega

/-- The text with the given lines, each of them terminated by a line feed. -/
def unlines (ls : List Text) : Text :=
  ls.flatMap (· ++ ['\n'])

@[simp] theorem unlines_cons (l : Text) (ls : List Text) :
    unlines (l :: ls) = l ++ '\n' :: unlines ls := by
  show (l ++ ['\n']) ++ unlines ls = _
  rw [List.append_assoc]
  rfl

@[simp] theorem unlines_append (ls ls' : List Text) : unlines (ls ++ ls') = unlines ls ++ unlines ls' :=
  List.flatMap_append

@[simp] theorem terminated_unlines (ls : List Text) : Terminated (unlines ls) := by
  rcases List.eq_nil_or_concat' ls with rfl | ⟨init, last, rfl⟩
  · exact .nil
  · rw [unlines_append, unlines_cons, ← List.append_assoc]
    exact terminated_append_newline _

/-- **Lines without line feeds are the lines of the text they make up**, but for carriage
returns that belong to the line ends. -/
@[simp] theorem lines_unlines {ls : List Text} (h : ∀ l ∈ ls, '\n' ∉ l) :
    lines (unlines ls) = ls.map dropReturn := by
  induction ls with
  | nil => rfl
  | cons l ls ih =>
    rw [unlines_cons, lines_append_newline (h l List.mem_cons_self),
      ih fun l hl => h l (List.mem_cons_of_mem _ hl), List.map_cons]

@[simp] theorem dropReturn_of_not_mem {l : Text} (h : '\r' ∉ l) : dropReturn l = l :=
  if_neg fun hl => h (List.mem_of_getLast? hl)

/-- Terminated lines without carriage returns are what the text consists of. -/
theorem unlines_lines {t : Text} (ht : Terminated t) (h : '\r' ∉ t) :
    unlines (lines t) = t := by
  induction ht with
  | nil => rfl
  | @line l t hl _ ih =>
    have hr : '\r' ∉ l := fun hm => h (List.mem_append_left _ hm)
    have ht : '\r' ∉ t := fun hm => h (List.mem_append_right _ (List.mem_cons_of_mem _ hm))
    rw [lines_append_newline hl, dropReturn_of_not_mem hr, unlines_cons, ih ht]

/-- **Lines that hold no line feed are the pieces of the text they make up**, but
for the empty piece behind the last line feed. -/
theorem splitOn_unlines {ls : List Text} (h : ∀ l ∈ ls, '\n' ∉ l) :
    (unlines ls).splitOn '\n' = ls ++ [[]] := by
  induction ls with
  | nil => rfl
  | cons l ls ih =>
    rw [unlines_cons, splitOn_append_newline (h l List.mem_cons_self),
      ih fun l hl => h l (List.mem_cons_of_mem _ hl), List.cons_append]

end Text

end MemoryListing
