import MemoryListing.Proofs.BadWords

/-!
# Refused symbol lists

A symbol list is read as a whole or not at all. It is read if every line consists of
two words and the second of them is an address, and then each line gives one symbol.
If some line is otherwise, the first such line is reported, and nothing else: no symbol
of the lines before it, and no notice. `SymbolTable.read_whole_or_nothing` says so for
all texts.

On one line the number of words comes first. Where it is not two, it is what the
complaint is about, whatever the words are; only of two words is the second one read
(`Symbol.ofLine_eq_error_iff`).
-/

namespace MemoryListing

namespace Symbol

/-- **Words that are a symbol**: two, and the second one is an address. -/
def WellFormed (words : List Text) : Prop :=
  ∃ name word, words = [name, word] ∧ Hex.Fits 0xffff word

/-- **Words that write a symbol**: its name, in whatever case, and its address. -/
def WrittenBy (s : Symbol) (words : List Text) : Prop :=
  ∃ name word, words = [name, word] ∧ s.name = name.lowercase ∧
    Hex.read word = .ok s.address.toUInt32

/-- **Why words are no symbol**: there are not two of them, or there are and the second
one is no address. -/
inductive Refused (words : List Text) : SymbolError → Prop where
  | wordCount (h : words.length ≠ 2) : Refused words (.wordCount words.length)
  | badAddress {name word : Text} {cause : Hex.NumberError} (hwords : words = [name, word])
      (hcause : Hex.Misfit 0xffff word cause) : Refused words (.badAddress word cause)

variable {line : Text} {words : List Text} {s : Symbol} {cause : SymbolError}

theorem ofLine_eq_ok_iff_writtenBy : ofLine line = .ok s ↔ s.WrittenBy line.words := by
  rw [ofLine_eq_ok_iff]
  simp only [Hex.readAddress_eq_ok_iff]
  rfl

theorem exists_ofLine_iff : (∃ s, ofLine line = .ok s) ↔ WellFormed line.words := by
  simp only [ofLine_eq_ok_iff]
  constructor
  · rintro ⟨s, name, word, hwords, -, haddress⟩
    exact ⟨name, word, hwords, Hex.fits_of_readAddress_eq_ok haddress⟩
  · rintro ⟨name, word, hwords, hfits⟩
    obtain ⟨v, hv⟩ := Hex.exists_readUpTo_iff.2 hfits
    have haddress : Hex.readAddress word = .ok v.toUInt16 := map_eq_ok_iff.2 ⟨v, hv, rfl⟩
    exact ⟨⟨name.lowercase, v.toUInt16⟩, name, word, hwords, rfl, haddress⟩

/-- Another number of words than two is what is wrong with a line. -/
theorem ofWords_of_length_ne (h : words.length ≠ 2) :
    ofWords words = .error (.wordCount words.length) := by
  rcases words with _ | ⟨name, _ | ⟨word, _ | ⟨next, rest⟩⟩⟩
  · rfl
  · rfl
  · exact absurd rfl h
  · rfl

/-- **A line is refused for the number of its words, or else for its second word.** -/
theorem ofLine_eq_error_iff : ofLine line = .error cause ↔ Refused line.words cause := by
  unfold ofLine
  generalize line.words = words
  by_cases hcount : words.length = 2
  · obtain ⟨name, word, rfl⟩ := List.length_eq_two.1 hcount
    simp only [ofWords]
    constructor
    · intro h
      cases hword : Hex.readAddress word with
      | error e =>
        rw [hword] at h
        cases h
        exact .badAddress rfl (Hex.readAddress_eq_error_iff.1 hword)
      | ok a =>
        rw [hword] at h
        cases h
    · rintro (h | ⟨hwords, hcause⟩)
      · exact absurd rfl h
      · cases hwords
        rw [Hex.readAddress_eq_error_iff.2 hcause]
  · rw [ofWords_of_length_ne hcount]
    constructor
    · intro h
      cases h
      exact .wordCount hcount
    · rintro (h | ⟨hwords, -⟩)
      · rfl
      · rw [hwords] at hcount
        exact absurd rfl hcount

end Symbol

namespace SymbolTable

/-- **A symbol list is refused at a line**, counted from one, for a reason that this line
gives, and every line before it is a symbol. -/
structure RefusedAt (t : Text) (number : Nat) (cause : SymbolError) : Prop where
  /-- Lines are counted from one. -/
  pos : 1 ≤ number
  /-- The line is there and gives the reason. -/
  refuses : ∃ line, t.lines[number - 1]? = some line ∧ Symbol.Refused line.words cause
  /-- The lines before it are symbols. -/
  earlier : ∀ line ∈ t.lines.take (number - 1), Symbol.WellFormed line.words

variable {t : Text} {number : Nat} {cause : SymbolError}

theorem refusedAt_iff :
    RefusedAt t number cause ↔ ∃ symbols, format.FirstBadLine t.lines number cause symbols := by
  have hearlier : (∃ symbols, format.Accepts (t.lines.take (number - 1)) symbols) ↔
      ∀ line ∈ t.lines.take (number - 1), Symbol.WellFormed line.words := by
    rw [format.exists_accepts_iff]
    exact forall₂_congr fun _ _ => Symbol.exists_ofLine_iff
  constructor
  · rintro ⟨hpos, ⟨line, hline, hrefused⟩, h⟩
    obtain ⟨symbols, hsymbols⟩ := hearlier.2 h
    exact ⟨symbols, hpos, ⟨line, hline, Symbol.ofLine_eq_error_iff.2 hrefused⟩, hsymbols⟩
  · rintro ⟨symbols, hpos, ⟨line, hline, hrefused⟩, h⟩
    exact ⟨hpos, ⟨line, hline, Symbol.ofLine_eq_error_iff.1 hrefused⟩, hearlier.1 ⟨symbols, h⟩⟩

/-- Nothing is ever noticed about a symbol. -/
theorem noticesFrom_format (symbols : List Symbol) : format.noticesFrom 1 symbols = [] :=
  List.flatMap_eq_nil_iff.2 fun _ _ => rfl

/-- **A symbol list is read as a whole or not at all**: with one symbol for each line if
every line is one, and otherwise not, whatever the other lines are. The first line that
is no symbol is reported then, and nothing is noticed. -/
theorem read_whole_or_nothing (t : Text) :
    ((∃ symbols, (read t).result = .ok symbols) ↔
      ∀ line ∈ t.lines, Symbol.WellFormed line.words) ∧
    (∀ symbols, (read t).result = .ok symbols →
      List.Forall₂ (fun line s => s.WrittenBy (Text.words line)) t.lines symbols ∧
        (read t).notices = [.symbolsRead symbols.length]) ∧
    (∀ e, (read t).result = .error e → ∃ number cause, e = .symbol number cause ∧
      RefusedAt t number cause) ∧
    ∀ number cause, RefusedAt t number cause →
      (read t).result = .error (.symbol number cause) ∧ (read t).notices = [] := by
  simp only [read_eq_read, refusedAt_iff]
  refine ⟨?_, ?_, ?_, ?_⟩
  · simp only [LineFormat.read_eq_ok_iff, format.exists_accepts_iff]
    exact forall₂_congr fun _ _ => Symbol.exists_ofLine_iff
  · intro symbols h
    rw [LineFormat.read_eq_ok_iff] at h
    refine ⟨h.imp fun _ _ => Symbol.ofLine_eq_ok_iff_writtenBy.1, ?_⟩
    rw [LineFormat.read_of_accepts h, noticesFrom_format]
    rfl
  · intro e h
    obtain ⟨number, cause, symbols, rfl, hbad⟩ := LineFormat.read_eq_error_iff.1 h
    exact ⟨number, cause, rfl, symbols, hbad⟩
  · rintro number cause ⟨symbols, hbad⟩
    rw [LineFormat.read_of_firstBadLine hbad, noticesFrom_format]
    exact ⟨rfl, rfl⟩

/-- The second line has three words, none of which is looked at, and the third line none. -/
example : (read "start 0200\nloop zz zz\n\n".toList).result =
    .error (.symbol 2 (.wordCount 3)) := by
  decide +kernel

end SymbolTable

end MemoryListing
