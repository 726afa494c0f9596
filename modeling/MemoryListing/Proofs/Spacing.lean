import Mathlib.Data.Nat.Init
import MemoryListing.Text.Line

/-!
# Words spaced out on a line

Words can be written on a line in many ways: with any space between two of them, as
long as there is some, and with any space in front and behind (`Text.LineOf`). Space is
made of blanks of every kind but the line feed, which would end the line
(`Text.IsSpace`). Splitting the line gives the words back (`Text.LineOf.words_eq`), and
every line is such a line of its own words, unless it is all space
(`Text.isSpace_or_lineOf_words`).

A carriage return is a blank, so it makes no difference to the words of a line whether
it is taken for a part of the line end (`Text.words_dropReturn`).
-/

namespace MemoryListing

namespace Text

/-- **Space on a line**: blanks without a line feed. -/
def IsSpace (s : Text) : Prop :=
  ∀ c ∈ s, isBlank c = true ∧ c ≠ '\n'

instance (s : Text) : Decidable (IsSpace s) :=
  List.decidableBAll _ s

/-- A word by itself: some characters and none of them blank. -/
def IsWord (w : Text) : Prop :=
  w ≠ [] ∧ ∀ c ∈ w, isBlank c = false

-- it is enough to look at the characters of the text, and not at all that there are
instance (w : Text) : Decidable (∀ c ∈ w, isBlank c = false) :=
  List.decidableBAll _ w

instance (w : Text) : Decidable (IsWord w) :=
  inferInstanceAs (Decidable (_ ∧ _))

/-- **Words one behind the other**, with some space between two of them. -/
inductive Spaced : List Text → Text → Prop where
  | last {w : Text} : Spaced [w] w
  | next {w s t : Text} {ws : List Text} (hs : IsSpace s) (hne : s ≠ []) (ht : Spaced ws t) :
      Spaced (w :: ws) (w ++ s ++ t)

/-- **A line of words**: the words spaced out, with space in front and behind or none. -/
def LineOf (ws : List Text) (line : Text) : Prop :=
  ∃ before body after, line = before ++ body ++ after ∧
    IsSpace before ∧ IsSpace after ∧ Spaced ws body

variable {s t w line : Text} {ws : List Text}

@[simp] theorem isSpace_nil : IsSpace [] :=
  nofun

theorem IsSpace.cons {c : Char} (hc : isBlank c = true) (hn : c ≠ '\n') (hs : IsSpace s) :
    IsSpace (c :: s) := by
  intro a ha
  rcases List.mem_cons.1 ha with rfl | ha
  · exact ⟨hc, hn⟩
  · exact hs a ha

/-! ## Space leaves no trace -/

@[simp] theorem words_cons_blank {c : Char} (h : isBlank c = true) (t : Text) :
    words (c :: t) = words t :=
  words_append_blank [] t h

@[simp] theorem words_space_append (hs : IsSpace s) (t : Text) : words (s ++ t) = words t := by
  induction s with
  | nil => rfl
  | cons c s ih =>
    rw [List.cons_append, words_cons_blank (hs c List.mem_cons_self).1]
    exact ih fun a ha => hs a (List.mem_cons_of_mem _ ha)

@[simp] theorem words_of_space (hs : IsSpace s) : words s = [] := by
  rw [← List.append_nil s]
  exact words_space_append hs []

@[simp] theorem words_append_space (hs : IsSpace s) (t : Text) : words (t ++ s) = words t := by
  cases s with
  | nil => rw [List.append_nil]
  | cons c s =>
    rw [words_append_blank t s (hs c List.mem_cons_self).1,
      words_of_space fun a ha => hs a (List.mem_cons_of_mem c ha), List.append_nil]

/-- The carriage return of a line end is no part of a word. -/
@[simp] theorem words_dropReturn (line : Text) : words (dropReturn line) = words line := by
  unfold dropReturn
  split
  next h =>
    obtain ⟨l, rfl⟩ := List.getLast?_eq_some_iff.1 h
    rw [List.dropLast_concat]
    exact (words_append_space (isSpace_nil.cons (by decide) (by decide)) l).symm
  next => rfl

/-! ## From words to lines and back -/

@[simp] theorem IsWord.words_eq (hw : IsWord w) : words w = [w] :=
  words_of_not_blank hw.1 hw.2

/-- Words that are spaced out are found again. -/
theorem Spaced.words_eq (h : Spaced ws t) (hws : ∀ w ∈ ws, IsWord w) : words t = ws := by
  induction h with
  | last => exact (hws _ List.mem_cons_self).words_eq
  | @next w s t ws hs hne _ ih =>
    obtain ⟨c, s, rfl⟩ := List.exists_cons_of_ne_nil hne
    -- the first blank behind the word splits it off
    rw [List.append_assoc, List.cons_append, words_append_blank w _ (hs c List.mem_cons_self).1,
      (hws w List.mem_cons_self).words_eq,
      words_space_append (fun a ha => hs a (List.mem_cons_of_mem _ ha)),
      ih fun w hw => hws w (List.mem_cons_of_mem _ hw)]
    rfl

/-- **The words of a line of words are these words.** -/
theorem LineOf.words_eq (h : LineOf ws line) (hws : ∀ w ∈ ws, IsWord w) : words line = ws := by
  obtain ⟨before, body, after, rfl, hbefore, hafter, hbody⟩ := h
  rw [words_append_space hafter, words_space_append hbefore, hbody.words_eq hws]

theorem IsSpace.newline_not_mem (hs : IsSpace s) : '\n' ∉ s :=
  fun h => (hs _ h).2 rfl

theorem IsWord.newline_not_mem (hw : IsWord w) : '\n' ∉ w :=
  fun h => absurd (hw.2 _ h) (by decide)

theorem Spaced.newline_not_mem (h : Spaced ws t) (hws : ∀ w ∈ ws, IsWord w) : '\n' ∉ t := by
  induction h with
  | last => exact (hws _ List.mem_cons_self).newline_not_mem
  | next hs _ _ ih =>
    rw [List.mem_append, List.mem_append, not_or, not_or]
    exact ⟨⟨(hws _ List.mem_cons_self).newline_not_mem, hs.newline_not_mem⟩,
      ih fun w hw => hws w (List.mem_cons_of_mem _ hw)⟩

/-- A line of words is one line. -/
theorem LineOf.newline_not_mem (h : LineOf ws line) (hws : ∀ w ∈ ws, IsWord w) :
    '\n' ∉ line := by
  obtain ⟨before, body, after, rfl, hbefore, hafter, hbody⟩ := h
  rw [List.mem_append, List.mem_append, not_or, not_or]
  exact ⟨⟨hbefore.newline_not_mem, hbody.newline_not_mem hws⟩, hafter.newline_not_mem⟩

/-- A blank in front is part of the space in front. -/
theorem LineOf.blank_cons {c : Char} (hc : isBlank c = true) (hn : c ≠ '\n')
    (h : LineOf ws line) : LineOf ws (c :: line) := by
  obtain ⟨before, body, after, rfl, hbefore, hafter, hbody⟩ := h
  exact ⟨c :: before, body, after, rfl, hbefore.cons hc hn, hafter, hbody⟩

theorem lineOf_word_append (w : Text) (hs : IsSpace s) : LineOf [w] (w ++ s) :=
  ⟨[], w, s, rfl, isSpace_nil, hs, .last⟩

/-- One word more in front of a line, a blank behind it. -/
theorem LineOf.word_append {c : Char} (hc : isBlank c = true) (hn : c ≠ '\n')
    (h : LineOf ws line) (w : Text) : LineOf (w :: ws) (w ++ c :: line) := by
  obtain ⟨before, body, after, rfl, hbefore, hafter, hbody⟩ := h
  refine ⟨[], w ++ c :: before ++ body, after, ?_, isSpace_nil, hafter,
    .next (hbefore.cons hc hn) (List.cons_ne_nil _ _) hbody⟩
  simp only [List.nil_append, List.append_assoc, List.cons_append]

/-- A line without blanks is nothing or one word, and in any other line a word or nothing
stands before the first blank. -/
theorem not_blank_or_eq_append (line : Text) :
    (∀ c ∈ line, isBlank c = false) ∨ ∃ w c rest, line = w ++ c :: rest ∧
      (∀ a ∈ w, isBlank a = false) ∧ isBlank c = true := by
  cases h : line.find? isBlank with
  | none => exact .inl fun c hc => Bool.eq_false_iff.2 (List.find?_eq_none.1 h c hc)
  | some c =>
    obtain ⟨hc, w, rest, rfl, hw⟩ := List.find?_eq_some_iff_append.1 h
    exact .inr ⟨w, c, rest, rfl, fun a ha => by simpa using hw a ha, hc⟩

/-- **Every line is a line of its words**, unless it is all space. -/
theorem isSpace_or_lineOf_words (h : '\n' ∉ line) :
    IsSpace line ∨ LineOf line.words line := by
  -- the word ahead of the first blank goes together with the blank
  induction hlength : line.length using Nat.strong_induction_on generalizing line with
  | _ n ih =>
    rcases not_blank_or_eq_append line with hword | ⟨w, c, rest, rfl, hw, hc⟩
    · cases line with
      | nil => exact .inl isSpace_nil
      | cons c l =>
        rw [words_of_not_blank (List.cons_ne_nil c l) hword]
        have hline := lineOf_word_append (c :: l) isSpace_nil
        rw [List.append_nil] at hline
        exact .inr hline
    · rw [List.mem_append, List.mem_cons, not_or, not_or] at h
      obtain ⟨-, hcn, hn⟩ := h
      have hlt : rest.length < n := by
        rw [← hlength, List.length_append, List.length_cons]
        omega
      have hrest := ih rest.length hlt hn rfl
      rw [words_append_blank w rest hc]
      cases w with
      | nil => exact hrest.imp (·.cons hc (Ne.symm hcn)) (·.blank_cons hc (Ne.symm hcn))
      | cons a w =>
        rw [words_of_not_blank (List.cons_ne_nil a w) hw]
        refine .inr ?_
        rcases hrest with hs | hline
        · rw [words_of_space hs]
          exact lineOf_word_append (a :: w) (hs.cons hc (Ne.symm hcn))
        · exact hline.word_append hc (Ne.symm hcn) (a :: w)

end Text

end MemoryListing
