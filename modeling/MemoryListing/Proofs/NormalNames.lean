import MemoryListing.Proofs.Lines
import MemoryListing.Proofs.Names
import MemoryListing.Proofs.WrittenDumps

/-!
# Names are in normal form

The name of a symbol is the lower case of a word. It is a word itself, and it is its
own lower case (`Text.IsNormalName`). So a symbol list can be written anew from the
symbols that were read, name and address on one line each, and reading it gives the
same symbols: `SymbolTable.names_are_normal`.

What carries this is that the lower case of a text is its own lower case
(`Text.lowercase_lowercase`), for all texts. No lower-case form is an upper-case
character of some run. This is checked for all pairs of runs (`CaseRun.lower_isApart`):
the forms of the one lie in front of the other or behind it, or they fall between its
characters, as where letters alternate with their lower case. So a character of a
lower-case text is its own lower case when it stands alone (`Text.IsLower`). The two
characters that are treated apart do not come up: a lower-case text holds no capital
sigma, whose lower case depends on the neighbours, and no capital I with a dot, whose
lower case is two characters.
-/

namespace MemoryListing

namespace CaseRun

/-! ## Lower-case forms are no upper-case characters -/

/-- **Whether the lower-case forms of a run are apart from the characters of another
run**: behind them, in front of them, or all of the other parity. -/
def isApart (r s : CaseRun) : Bool :=
  Nat.blt s.last r.lowerRange.first || Nat.blt r.lowerRange.last s.first ||
    (s.step == 2 && (r.step == 2 || r.first == r.last) && (r.lower + s.first) % 2 == 1)

/-- **The lower-case forms of all runs are apart from the characters of all runs.** -/
theorem lower_isApart : (table.all fun r => table.all fun s => r.isApart s) = true := by
  decide +kernel

theorem contains_iff {r : CaseRun} {n : Nat} :
    r.contains n = true ↔ r.first ≤ n ∧ n ≤ r.last ∧ (n - r.first) % r.step = 0 := by
  simp only [contains, Bool.and_eq_true, decide_eq_true_eq, beq_iff_eq, and_assoc]

theorem not_contains_apply {r s : CaseRun} (h : r.isApart s = true) {n : Nat}
    (hn : r.contains n = true) : ¬ s.contains (r.apply n) = true := by
  rw [contains_iff] at hn ⊢
  obtain ⟨hrfirst, hrlast, hrmod⟩ := hn
  rintro ⟨hfirst, hlast, hmod⟩
  simp only [apply] at hfirst hlast hmod
  simp only [isApart, lowerRange, Bool.or_eq_true, Bool.and_eq_true, beq_iff_eq,
    Nat.blt_eq] at h
  rcases h with (h | h) | ⟨⟨hs, hr⟩, hparity⟩
  · omega
  · omega
  · rw [hs] at hmod
    rcases hr with hr | hr
    · rw [hr] at hrmod
      omega
    · omega

theorem lowerPoint_of_contains {r : CaseRun} {n : Nat}
    (h : table.find? (·.contains n) = some r) : lowerPoint n = r.apply n := by
  unfold lowerPoint
  rw [h]

theorem lowerPoint_of_not_contains {n : Nat} (h : ∀ r ∈ table, ¬ r.contains n = true) :
    lowerPoint n = n := by
  unfold lowerPoint
  rw [List.find?_eq_none.2 h]

/-- **A lower-case form is its own lower-case form.** -/
@[simp] theorem lowerPoint_lowerPoint (n : Nat) : lowerPoint (lowerPoint n) = lowerPoint n := by
  cases hr : table.find? (·.contains n) with
  | none =>
    have hn := lowerPoint_of_not_contains (List.find?_eq_none.1 hr)
    rw [hn, hn]
  | some r =>
    rw [lowerPoint_of_contains hr]
    refine lowerPoint_of_not_contains fun s hs => ?_
    have hcontains := List.find?_some hr
    have hapart := List.all_eq_true.1 lower_isApart r (List.mem_of_find?_eq_some hr)
    exact not_contains_apply (List.all_eq_true.1 hapart s hs) hcontains

/-- The code point of the capital I with a dot is no lower-case form. -/
theorem lower_ne_dotted : ∀ r ∈ table, r.lowerRange.last < 0x130 ∨ 0x130 < r.lowerRange.first := by
  decide +kernel

theorem lowerPoint_ne_dotted {n : Nat} (h : n ≠ 0x130) : lowerPoint n ≠ 0x130 := by
  rcases lowerPoint_eq_or n with hn | ⟨r, hr, hfirst, hlast⟩
  · rwa [hn]
  · have hdotted := lower_ne_dotted r hr
    omega

end CaseRun

namespace Text

/-! ## Lower case is its own lower case -/

/-- **A lower-case character**: it is its own lower case where it stands alone. -/
def IsLower (c : Char) : Prop :=
  lowerChar c = [c]

instance (c : Char) : Decidable (IsLower c) :=
  inferInstanceAs (Decidable (lowerChar c = [c]))

/-- A capital sigma has a lower case. -/
theorem IsLower.ne_sigma {c : Char} (h : IsLower c) : c ≠ 'Σ' := by
  rintro rfl
  exact absurd h (by decide)

/-- **The lower case of a character consists of lower-case characters.** -/
theorem isLower_of_mem_lowerChar {c d : Char} (h : d ∈ lowerChar c) : IsLower d := by
  unfold lowerChar at h
  split at h
  next =>
    rcases List.mem_cons.1 h with rfl | h
    · decide
    · rw [List.mem_singleton.1 h]
      decide
  next hc =>
    rw [List.mem_singleton.1 h]
    rcases toNat_ofNat (CaseRun.lowerPoint c.toNat) with hn | hn
    · have hne : c.toNat ≠ 0x130 := fun he => hc (Char.toNat_inj.1 he)
      have hne' : Char.ofNat (CaseRun.lowerPoint c.toNat) ≠ 'İ' := by
        intro he
        rw [he] at hn
        exact CaseRun.lowerPoint_ne_dotted hne hn.symm
      unfold IsLower lowerChar
      rw [if_neg hne', hn, CaseRun.lowerPoint_lowerPoint]
    · rw [hn]
      decide

theorem isLower_of_mem_lowercaseAfter {before t : Text} {d : Char}
    (hd : d ∈ lowercaseAfter before t) : IsLower d := by
  induction t generalizing before with
  | nil => cases hd
  | cons c t ih =>
    rcases List.mem_append.1 hd with hd | hd
    · split at hd
      next =>
        rw [List.mem_singleton.1 hd]
        split <;> decide
      next => exact isLower_of_mem_lowerChar hd
    · exact ih hd

/-- Lower-case characters stay as they are, whatever stands in front of them. -/
theorem lowercaseAfter_of_isLower {before t : Text} (h : ∀ c ∈ t, IsLower c) :
    lowercaseAfter before t = t := by
  induction t generalizing before with
  | nil => rfl
  | cons c t ih =>
    have hc : IsLower c := h c List.mem_cons_self
    rw [lowercaseAfter, if_neg hc.ne_sigma, hc,
      ih fun d hd => h d (List.mem_cons_of_mem c hd)]
    rfl

/-- **The lower case of a text is its own lower case.** -/
@[simp] theorem lowercase_lowercase (t : Text) : t.lowercase.lowercase = t.lowercase :=
  lowercaseAfter_of_isLower fun _ hd => isLower_of_mem_lowercaseAfter hd

theorem lowerChar_ne_nil (c : Char) : lowerChar c ≠ [] := by
  unfold lowerChar
  split <;> exact List.cons_ne_nil _ _

/-- Only the empty text has an empty lower case. -/
theorem lowercase_ne_nil {t : Text} (h : t ≠ []) : t.lowercase ≠ [] := by
  obtain ⟨c, t, rfl⟩ := List.exists_cons_of_ne_nil h
  unfold lowercase lowercaseAfter
  refine List.append_ne_nil_of_left_ne_nil ?_ _
  split
  · exact List.cons_ne_nil _ _
  · exact lowerChar_ne_nil c

/-! ## Names -/

/-- What a text is split into are words. -/
theorem isWord_of_mem_words {t w : Text} (h : w ∈ t.words) : IsWord w := by
  have hne := (List.mem_filter.1 h).2
  rw [Bool.not_eq_true', List.isEmpty_eq_false_iff] at hne
  exact ⟨hne, isBlank_of_mem_words h⟩

/-- **A name in normal form**: a word that is its own lower case. -/
structure IsNormalName (name : Text) : Prop where
  /-- A name is not empty. -/
  ne_nil : name ≠ []
  /-- A name holds no blank. -/
  not_blank : ∀ c ∈ name, isBlank c = false
  /-- A name is its own lower case. -/
  lowercase_eq : name.lowercase = name

theorem IsNormalName.isWord {name : Text} (h : IsNormalName name) : IsWord name :=
  ⟨h.ne_nil, h.not_blank⟩

/-- **The lower case of a word is a name in normal form.** -/
theorem IsWord.isNormalName_lowercase {w : Text} (h : IsWord w) : IsNormalName w.lowercase where
  ne_nil := lowercase_ne_nil h.1
  not_blank := fun _ hc => isBlank_of_mem_lowercase h.2 hc
  lowercase_eq := lowercase_lowercase w

end Text

namespace Symbol

/-- What was read from a line has a name in normal form. -/
theorem isNormalName_of_ofLine_eq_ok {line : Text} {s : Symbol} (h : ofLine line = .ok s) :
    s.name.IsNormalName := by
  obtain ⟨name, word, hwords, hname, -⟩ := ofLine_eq_ok_iff.1 h
  have hmem : name ∈ line.words := hwords ▸ List.mem_cons_self
  rw [hname]
  exact (Text.isWord_of_mem_words hmem).isNormalName_lowercase

/-- **A line with a symbol**: its name and a spelling of its address, spaced out in some
way. -/
def OnLine (s : Symbol) (line : Text) : Prop :=
  ∃ word, Hex.read word = .ok s.address.toUInt32 ∧ Text.LineOf [s.name, word] line

/-- The name, a space and a spelling of the address are a line with the symbol. -/
theorem onLine_of_read {s : Symbol} {word : Text} (h : Hex.read word = .ok s.address.toUInt32) :
    s.OnLine (s.name ++ ' ' :: word) := by
  have hline := Text.lineOf_word_append word Text.isSpace_nil
  rw [List.append_nil] at hline
  exact ⟨word, h, hline.word_append (by decide) (by decide) s.name⟩

variable {s : Symbol} {line : Text}

theorem OnLine.words_eq (h : s.OnLine line) (hname : s.name.IsNormalName) :
    ∃ word, Hex.read word = .ok s.address.toUInt32 ∧ line.words = [s.name, word] ∧
      '\n' ∉ line := by
  obtain ⟨word, hread, hline⟩ := h
  have hwords : ∀ w ∈ [s.name, word], Text.IsWord w :=
    List.forall_mem_cons.2 ⟨hname.isWord,
      List.forall_mem_singleton.2 (Hex.isWord_of_read_eq_ok hread)⟩
  exact ⟨word, hread, hline.words_eq hwords, hline.newline_not_mem hwords⟩

/-- **A line with a symbol is one line, and it is read as the symbol**, if the name is in
normal form. -/
theorem OnLine.ofWords_eq_ok (h : s.OnLine line) (hname : s.name.IsNormalName) :
    (line ≠ [] ∧ '\n' ∉ line) ∧ ofWords line.words = .ok s := by
  obtain ⟨word, hread, hwords, hn⟩ := h.words_eq hname
  refine ⟨⟨?_, hn⟩, ?_⟩
  · rintro rfl
    cases hwords
  · exact ofLine_eq_ok_iff.2 ⟨s.name, word, hwords, hname.lowercase_eq.symm,
      Hex.readAddress_eq_ok_iff.2 hread⟩

end Symbol

/-- **The words of a text of lines are the words of these lines**, whether the last of them
is ended or not. -/
theorem Text.map_words_lines {ls : List Text} (hls : ∀ l ∈ ls, l ≠ [] ∧ '\n' ∉ l) {t : Text}
    (ht : t = unlines ls ∨ t ++ ['\n'] = unlines ls) : t.lines.map words = ls.map words := by
  have hdrop : ∀ ls : List Text, (ls.map dropReturn).map words = ls.map words := by
    intro ls
    rw [List.map_map]
    exact List.map_congr_left fun l _ => words_dropReturn l
  rcases ht with rfl | ht
  · rw [lines_unlines fun l hl => (hls l hl).2, hdrop]
  · rcases List.eq_nil_or_concat' ls with rfl | ⟨init, last, rfl⟩
    · exact absurd ht (List.append_ne_nil_of_right_ne_nil _ (List.cons_ne_nil _ _))
    · obtain ⟨hne, hn⟩ := hls last (List.mem_append_right _ List.mem_cons_self)
      -- the last line is all that stands behind the others
      have htext : t = unlines init ++ last := by
        rw [unlines_append, unlines_cons, ← List.append_assoc] at ht
        exact List.append_cancel_right ht
      rw [htext, lines_append (terminated_unlines init), lines_of_not_mem hne hn,
        lines_unlines fun l hl => (hls l (List.mem_append_left _ hl)).2, List.map_append, hdrop,
        List.map_append]

namespace SymbolTable

variable {t : Text} {symbols : List Symbol}

/-- **Symbols written on lines are read back**, if their names are in normal form. -/
theorem read_of_onLine {lines : List Text} (hnames : ∀ s ∈ symbols, s.name.IsNormalName)
    (hlines : List.Forall₂ Symbol.OnLine symbols lines)
    (ht : t = Text.unlines lines ∨ t ++ ['\n'] = Text.unlines lines) :
    (read t).result = .ok symbols := by
  have hall := (List.forall₂_and_left symbols lines).2 ⟨hnames, hlines⟩
  obtain ⟨hls, hwords⟩ := (List.forall₂_and_left lines symbols).1
    (hall.flip.imp fun _ _ h => h.2.ofWords_eq_ok h.1)
  have hread : List.Forall₂ (fun ws s => Symbol.ofWords ws = .ok s) (t.lines.map Text.words)
      symbols := by
    rw [Text.map_words_lines hls ht]
    exact List.forall₂_map_left_iff.2 hwords
  exact read_eq_ok_iff.2 (List.forall₂_map_left_iff.1 hread)

/-- **The symbols that are read are in normal form**, for every symbol list that is
accepted. Each name is a word and its own lower case, and a list that is written anew from
the symbols, in their order and each on a line of its own, is read as the same symbols, in
whatever spelling the addresses are written. -/
theorem names_are_normal (h : (read t).result = .ok symbols) :
    (∀ s ∈ symbols, s.name.IsNormalName) ∧
      ∀ (lines : List Text) (t' : Text), List.Forall₂ Symbol.OnLine symbols lines →
        (t' = Text.unlines lines ∨ t' ++ ['\n'] = Text.unlines lines) →
        (read t').result = .ok symbols := by
  have hnames : ∀ s ∈ symbols, s.name.IsNormalName := by
    have hall := (read_eq_ok_iff.1 h).flip.imp fun _ _ hline =>
      And.intro (Symbol.isNormalName_of_ofLine_eq_ok hline) hline
    exact ((List.forall₂_and_left symbols t.lines).1 hall).1
  exact ⟨hnames, fun lines t' hlines ht => read_of_onLine hnames hlines ht⟩

/-- Sigmas at the end of a word, in front of a mark and alone, and a capital I with a dot. The
list is written anew with other spellings, and its last line is not ended. -/
theorem names_are_normal_of_sigmas :
    let t : Text := "ΟΔΥΣΣΕΥΣ 0x10\nİΣ. +2\r\nΣ 00_3\n".toList
    let symbols : List Symbol :=
      [⟨"οδυσσευς".toList, 0x10⟩, ⟨"i\u0307ς.".toList, 2⟩, ⟨"σ".toList, 3⟩]
    (read t).result = .ok symbols ∧ (∀ s ∈ symbols, s.name.IsNormalName) ∧
      (read "οδυσσευς +1_0\ni\u0307ς. 0X_2\nσ 003".toList).result = .ok symbols := by
  intro t symbols
  have h : (read t).result = .ok symbols := by decide +kernel
  obtain ⟨hnames, hread⟩ := names_are_normal h
  refine ⟨h, hnames, hread ["οδυσσευς +1_0".toList, "i\u0307ς. 0X_2".toList, "σ 003".toList] _
    ?_ (.inr ?_)⟩
  · have hfirst : Hex.read "+1_0".toList = .ok 0x10 := by decide +kernel
    have hsecond : Hex.read "0X_2".toList = .ok 2 := by decide +kernel
    have hthird : Hex.read "003".toList = .ok 3 := by decide +kernel
    exact .cons (Symbol.onLine_of_read hfirst) (.cons (Symbol.onLine_of_read hsecond)
      (.cons (Symbol.onLine_of_read hthird) .nil))
  · decide +kernel

end SymbolTable

end MemoryListing
