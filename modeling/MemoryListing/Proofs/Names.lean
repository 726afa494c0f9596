import Mathlib.Data.List.Basic
import MemoryListing.Proofs.Reading

/-!
# Names hold no blanks

A name is the lower case of a word. A word holds no blank, and the lower case
of a character that is no blank is none either: the runs of lower-case
characters and the ranges of blanks have nothing in common
(`CaseRun.lower_disjoint_blanks`, checked run by run). So a name that was read
from a symbol list holds no blank (`SymbolTable.isBlank_of_mem_name`), and in
particular no line feed.
-/

namespace MemoryListing

namespace CaseRun

/-- The lower-case forms of a run. -/
def lowerRange (r : CaseRun) : CodeRange :=
  ⟨r.lower, r.lower + (r.last - r.first)⟩

/-- A code point is its own lower-case form, or that form lies in the lower-case
range of a run. -/
theorem lowerPoint_eq_or (n : Nat) :
    lowerPoint n = n ∨ ∃ r ∈ table,
      r.lowerRange.first ≤ lowerPoint n ∧ lowerPoint n ≤ r.lowerRange.last := by
  unfold lowerPoint
  split
  next r hr =>
    have hc := List.find?_some hr
    simp only [contains, Bool.and_eq_true, decide_eq_true_eq] at hc
    refine .inr ⟨r, List.mem_of_find?_eq_some hr, ?_⟩
    simp only [apply, lowerRange]
    omega
  next => exact .inl rfl

/-- **No lower-case form is a blank.** -/
theorem lower_disjoint_blanks : ∀ r ∈ table, ∀ b ∈ Text.blankRanges,
    r.lowerRange.last < b.first ∨ b.last < r.lowerRange.first := by
  decide +kernel

end CaseRun

namespace Text

theorem isBlank_eq_false_iff {c : Char} :
    isBlank c = false ↔ ∀ b ∈ blankRanges, c.toNat < b.first ∨ b.last < c.toNat := by
  simp only [isBlank, CodeRange.covers, List.any_eq_false, CodeRange.contains,
    Bool.and_eq_true, decide_eq_true_eq, not_and_or, Nat.not_le]

/-- The character of a code point is that code point, unless there is none. -/
theorem toNat_ofNat (n : Nat) : (Char.ofNat n).toNat = n ∨ Char.ofNat n = '\x00' := by
  by_cases h : n.isValidChar
  · refine .inl ?_
    rw [Char.ofNat, dif_pos h]
    rfl
  · refine .inr ?_
    rw [Char.ofNat, dif_neg h]
    rfl

/-- The lower case of a character that is no blank holds no blank. -/
theorem isBlank_of_mem_lowerChar {c d : Char} (hc : isBlank c = false)
    (hd : d ∈ lowerChar c) : isBlank d = false := by
  unfold lowerChar at hd
  split at hd
  next =>
    have hall : ∀ e ∈ ['i', '\u0307'], isBlank e = false :=
      List.forall_mem_cons.2 ⟨by decide, List.forall_mem_singleton.2 (by decide)⟩
    exact hall d hd
  next =>
    rw [List.mem_singleton.1 hd]
    rcases toNat_ofNat (CaseRun.lowerPoint c.toNat) with hn | hn
    · rcases CaseRun.lowerPoint_eq_or c.toNat with hp | ⟨r, hr, hfirst, hlast⟩
      · rwa [hp, Char.ofNat_toNat]
      · refine isBlank_eq_false_iff.2 fun b hb => ?_
        rw [hn]
        have hdisjoint := CaseRun.lower_disjoint_blanks r hr b hb
        omega
    · rw [hn]
      decide

theorem isBlank_of_mem_lowercaseAfter {before t : Text}
    (ht : ∀ c ∈ t, isBlank c = false) {d : Char} (hd : d ∈ lowercaseAfter before t) :
    isBlank d = false := by
  induction t generalizing before with
  | nil => cases hd
  | cons c t ih =>
    rcases List.mem_append.1 hd with hd | hd
    · split at hd
      next =>
        -- both sigmas are letters
        rw [List.mem_singleton.1 hd]
        split <;> decide
      next => exact isBlank_of_mem_lowerChar (ht c List.mem_cons_self) hd
    · exact ih (fun c hc => ht c (List.mem_cons_of_mem _ hc)) hd

/-- **The lower case of a text without blanks holds no blanks.** -/
theorem isBlank_of_mem_lowercase {t : Text} (ht : ∀ c ∈ t, isBlank c = false) {d : Char}
    (hd : d ∈ t.lowercase) : isBlank d = false :=
  isBlank_of_mem_lowercaseAfter ht hd

/-- No piece of a split holds what the text was split at. -/
theorem not_of_mem_splitOnP {α : Type} {p : α → Bool} {l w : List α}
    (hw : w ∈ l.splitOnP p) : ∀ c ∈ w, p c = false := by
  induction l generalizing w with
  | nil =>
    rw [List.splitOnP_nil, List.mem_singleton] at hw
    rw [hw]
    exact nofun
  | cons a l ih =>
    rw [List.splitOnP_cons_eq_if_modifyHead] at hw
    split at hw
    next =>
      rcases List.mem_cons.1 hw with rfl | hw
      · exact nofun
      · exact ih hw
    next ha =>
      -- the character is put in front of the first piece
      obtain ⟨w₀, rest, hl⟩ := List.exists_cons_of_ne_nil (List.splitOnP_ne_nil p l)
      rw [hl, List.modifyHead_cons] at hw
      rw [hl] at ih
      rcases List.mem_cons.1 hw with rfl | hw
      · intro c hc
        rcases List.mem_cons.1 hc with rfl | hc
        · exact Bool.eq_false_iff.2 ha
        · exact ih List.mem_cons_self c hc
      · exact ih (List.mem_cons_of_mem _ hw)

/-- A word holds no blank. -/
theorem isBlank_of_mem_words {t w : Text} (hw : w ∈ t.words) :
    ∀ c ∈ w, isBlank c = false :=
  not_of_mem_splitOnP (List.mem_of_mem_filter hw)

end Text

/-- The name of a line holds no blank. -/
theorem Symbol.isBlank_of_mem_name {line : Text} {s : Symbol}
    (h : ofLine line = .ok s) : ∀ c ∈ s.name, Text.isBlank c = false := by
  obtain ⟨name, w, hwords, hname, -⟩ := ofLine_eq_ok_iff.1 h
  have hmem : name ∈ line.words := hwords ▸ List.mem_cons_self
  intro c hc
  rw [hname] at hc
  exact Text.isBlank_of_mem_lowercase (Text.isBlank_of_mem_words hmem) hc

/-- **The names of a symbol list hold no blanks.** -/
theorem SymbolTable.isBlank_of_mem_name {t : Text} {symbols : List Symbol}
    (h : (read t).result = .ok symbols) :
    ∀ s ∈ symbols, ∀ c ∈ s.name, Text.isBlank c = false := by
  intro s hs
  obtain ⟨i, hi, rfl⟩ := List.getElem_of_mem hs
  have hall := List.forall₂_iff_get.1 (read_eq_ok_iff.1 h)
  exact Symbol.isBlank_of_mem_name (hall.2 i (hall.1 ▸ hi) hi)

end MemoryListing
