import MemoryListing.CommandLine.Options
import MemoryListing.Proofs.ShownBytes
import MemoryListing.Proofs.TableText
import MemoryListing.Proofs.WrittenDumps

/-!
# Numbers in printed texts

Numbers of all sizes are printed in hexadecimal digits, in columns and in sentences, with
the sign of the base and without it. The reader of written numbers undoes all of these
printings: `Hex.read_undoes_printing`.

For a text to be read back it is first taken apart at its blanks. What is found there are
fixed words and numbers, and a comma may stand right behind a number. `Text.ReadsAs` says
so of a text, with the list of what is found, in order. The sentences are written with one
blank between two words (`Text.unwords`), and so they are taken apart into the words that
they were put together from (`Text.words_unwords`).

The line of a symbol is not taken apart at blanks, since a name may be any text. Its
number is the first six characters of the line (`SymbolTable.Shows`).
-/

namespace MemoryListing

namespace Text

variable {t w behind : Text} {ws : List Text}

/-! ## Decimal numbers -/

/-- The characters of decimal numbers are digits. -/
theorem isDigit_of_mem_decimal {n : Nat} {c : Char} (h : c ∈ decimal n) : c.isDigit = true :=
  Nat.isDigit_of_mem_toDigits (by decide) (by decide) h

/-- A decimal digit is not blank. -/
theorem isBlank_of_isDigit {c : Char} (h : c.isDigit = true) : isBlank c = false := by
  have hapart : ∀ b ∈ blankRanges, b.last < '0'.toNat ∨ '9'.toNat < b.first := by decide
  obtain ⟨hzero, hnine⟩ := Char.isDigit_iff_toNat.1 h
  refine isBlank_eq_false_iff.2 fun b hb => ?_
  have hb := hapart b hb
  omega

theorem isWord_decimal (n : Nat) : IsWord (decimal n) :=
  ⟨Nat.toDigits_ne_nil, fun _ hc => isBlank_of_isDigit (isDigit_of_mem_decimal hc)⟩

/-- A word goes on up to the next blank. -/
theorem IsWord.append (hw : IsWord w) (hbehind : ∀ c ∈ behind, isBlank c = false) :
    IsWord (w ++ behind) :=
  ⟨List.append_ne_nil_of_left_ne_nil hw.1 _,
    fun c hc => (List.mem_append.1 hc).elim (hw.2 c) (hbehind c)⟩

/-! ## Sentences -/

/-- Words with one blank between two of them. -/
def unwords (ws : List Text) : Text :=
  List.intercalate [' '] ws

@[simp] theorem unwords_singleton (w : Text) : unwords [w] = w :=
  List.intercalate_singleton

@[simp] theorem unwords_cons_cons (w w' : Text) (ws : List Text) :
    unwords (w :: w' :: ws) = w ++ [' '] ++ unwords (w' :: ws) :=
  List.intercalate_cons_cons

theorem spaced_unwords (h : ws ≠ []) : Spaced ws (unwords ws) := by
  induction ws with
  | nil => exact absurd rfl h
  | cons w ws ih =>
    cases ws with
    | nil => simpa using Spaced.last
    | cons w' ws =>
      have hblank : IsSpace [' '] := isSpace_nil.cons (by decide) (by decide)
      rw [unwords_cons_cons]
      exact .next hblank (List.cons_ne_nil _ _) (ih (List.cons_ne_nil _ _))

/-- **A sentence is taken apart into its words.** -/
theorem words_unwords (h : ∀ w ∈ ws, IsWord w) : words (unwords ws) = ws := by
  cases ws with
  | nil => rfl
  | cons w ws => exact (spaced_unwords (List.cons_ne_nil w ws)).words_eq h

/-! ## What is found in a text -/

/-- **A part of a text**: a fixed word, or a number and what stands right behind it. -/
inductive Part where
  /-- This word. -/
  | word (w : Text)
  /-- A word that is read as this number once it is cut off from what stands behind. -/
  | number (v : UInt32) (behind : Text)

/-- Whether a word shows a part. -/
def Part.ShownBy (word : Text) : Part → Prop
  | .word w => word = w
  | .number v behind => ∃ digits, word = digits ++ behind ∧ Hex.read digits = .ok v

/-- **A text reads as parts**: its words show them, one by one. -/
def ReadsAs (t : Text) (parts : List Part) : Prop :=
  List.Forall₂ Part.ShownBy t.words parts

/-- Words that are put together into a sentence, and the parts that they show. -/
def Part.Written : List Text → List Part → Prop :=
  List.Forall₂ fun word part => IsWord word ∧ part.ShownBy word

theorem Part.Written.nil : Written [] [] :=
  List.Forall₂.nil

variable {parts : List Part}

/-- **A sentence reads as the parts that its words show.** -/
theorem readsAs_of_eq_unwords (ht : t = unwords ws) (h : Part.Written ws parts) :
    t.ReadsAs parts := by
  obtain ⟨hwords, hshown⟩ := (List.forall₂_and_left ws parts).1 h
  unfold ReadsAs
  rwa [ht, words_unwords hwords]

theorem Part.Written.word (hw : IsWord w) (h : Written ws parts) :
    Written (w :: ws) (.word w :: parts) :=
  .cons ⟨hw, rfl⟩ h

/-- A printed number with characters behind it that are not blank. -/
theorem Part.Written.number {digits : Text} {v : UInt32} (hread : Hex.read digits = .ok v)
    (hbehind : ∀ c ∈ behind, isBlank c = false) (h : Written ws parts) :
    Written ((digits ++ behind) :: ws) (.number v behind :: parts) :=
  .cons ⟨(Hex.isWord_of_read_eq_ok hread).append hbehind, digits, rfl, hread⟩ h

end Text

namespace Hex

/-- A printed address is read back, whatever the width. -/
theorem read_digits_address (width : Nat) (a : UInt16) :
    read (digits width a.toNat) = .ok a.toUInt32 := by
  rw [← UInt16.toNat_toUInt32, read_digits]

theorem read_prefixed_address (width : Nat) (a : UInt16) :
    read (prefixed width a.toNat) = .ok a.toUInt32 := by
  rw [← UInt16.toNat_toUInt32, read_prefixed]

end Hex

/-! ## The texts that show numbers -/

open Text (decimal isWord_decimal readsAs_of_eq_unwords unwords unwords_cons_cons
  unwords_singleton)

/-- A gap is worded with both of its addresses. -/
theorem Gap.readsAs_message (g : Gap) :
    g.message.ReadsAs [.word "row".toList, .word (decimal g.row), .word "stated".toList,
      .word "at".toList, .number g.stated.toUInt32 [','], .word "expected".toList,
      .number g.expected []] := by
  refine readsAs_of_eq_unwords ?_ (.word (by decide) <| .word (isWord_decimal _) <|
    .word (by decide) <| .word (by decide) <| .number (Hex.read_digits_address 4 _) (by decide) <|
    .word (by decide) <| .number (Hex.read_digits 4 _) nofun .nil)
  unfold message
  simp

/-- A number beyond its limit is worded with both. -/
theorem Hex.NumberError.readsAs_message (v limit : UInt32) :
    (outOfRange v limit).message.ReadsAs [.word "value".toList, .number v [],
      .word "exceeds".toList, .word "maximum".toList, .number limit []] := by
  refine readsAs_of_eq_unwords ?_ (.word (by decide) <| .number (read_prefixed 0 _) nofun <|
    .word (by decide) <| .word (by decide) <| .number (read_prefixed 0 _) nofun .nil)
  unfold message
  simp

/-- A base beyond its limit is worded with its value. -/
theorem CommandLine.readsAs_baseMessage (v limit : UInt32) :
    (baseMessage (.outOfRange v limit)).ReadsAs [.number v [], .word "does".toList,
      .word "not".toList, .word "fit".toList, .word "in".toList, .word "16".toList,
      .word "bits".toList] := by
  refine readsAs_of_eq_unwords ?_ (.number (Hex.read_prefixed 0 _) nofun <|
    .word (by decide) <| .word (by decide) <| .word (by decide) <| .word (by decide) <|
    .word (by decide) <| .word (by decide) .nil)
  unfold baseMessage
  simp

namespace Notice

/-- A row of another size is noticed with its address. -/
theorem readsAs_message_oddRow (line : Nat) (a : UInt16) (size : Nat) :
    (oddRow line a size).message.ReadsAs [.word "line".toList, .word (decimal line ++ [':']),
      .word "row".toList, .word "at".toList, .number a.toUInt32 [], .word "has".toList,
      .word (decimal size), .word "bytes,".toList, .word "expected".toList,
      .word "16".toList] := by
  refine readsAs_of_eq_unwords ?_ (.word (by decide) <|
    .word ((isWord_decimal _).append (by decide)) <| .word (by decide) <| .word (by decide) <|
    .number (Hex.read_digits_address 4 _) nofun <| .word (by decide) <|
    .word (isWord_decimal _) <| .word (by decide) <| .word (by decide) <| .word (by decide) .nil)
  unfold message
  simp only [unwords_cons_cons, unwords_singleton, List.append_assoc]
  rfl

/-- Where an image is cut, both addresses of the gap are noticed. -/
theorem readsAs_message_imageCut (g : Gap) (size : Nat) :
    (imageCut g size).message.ReadsAs [.word "row".toList, .word (decimal g.row),
      .word "stated".toList, .word "at".toList, .number g.stated.toUInt32 [','],
      .word "expected".toList, .number g.expected [','], .word "truncating".toList,
      .word "image".toList, .word "at".toList, .word (decimal size),
      .word "bytes".toList] := by
  refine readsAs_of_eq_unwords ?_ (.word (by decide) <| .word (isWord_decimal _) <|
    .word (by decide) <| .word (by decide) <| .number (Hex.read_digits_address 4 _) (by decide) <|
    .word (by decide) <| .number (Hex.read_digits 4 _) (by decide) <| .word (by decide) <|
    .word (by decide) <| .word (by decide) <| .word (isWord_decimal _) <|
    .word (by decide) .nil)
  unfold message Gap.message
  simp

/-- A shared address is noticed as the key that it would be. -/
theorem readsAs_message_sharedAddress (a : UInt16) :
    (sharedAddress a).message.ReadsAs [.word "several".toList, .word "symbols".toList,
      .word "at".toList, .number a.toUInt32 [','], .word "wrapped".toList,
      .word "table".toList, .word "has".toList, .word "duplicate".toList,
      .word "keys".toList] := by
  refine readsAs_of_eq_unwords ?_ (.word (by decide) <| .word (by decide) <|
    .word (by decide) <| .number (Hex.read_prefixed_address 4 _) (by decide) <|
    .word (by decide) <| .word (by decide) <| .word (by decide) <| .word (by decide) <|
    .word (by decide) .nil)
  unfold message
  simp

end Notice

namespace Image

/-- The block of a gap shows the address stated and the one expected. -/
theorem readsAs_listing_of_gap (bytes : List UInt8) (g : Gap) (layout : Layout) :
    (listing layout ⟨bytes, some g⟩).ReadsAs [.number g.stated.toUInt32 [],
      .word "!=".toList, .number g.expected []] := by
  have hline : (Hex.digits 4 g.stated.toNat ++ " != ".toList
      ++ Hex.digits 4 g.expected.toNat).ReadsAs [.number g.stated.toUInt32 [],
        .word "!=".toList, .number g.expected []] := by
    refine readsAs_of_eq_unwords ?_ (.number (Hex.read_digits_address 4 _) nofun <|
      .word (by decide) <| .number (Hex.read_digits 4 _) nofun .nil)
    simp
  -- the line feed behind it is a blank
  unfold Text.ReadsAs at hline ⊢
  rw [← List.append_nil (Text.words _)] at hline
  rwa [listing, Text.words_append_blank _ [] (by decide)]

/-- The block of bytes shows all of them. -/
theorem readsAs_listing_body (bytes : List UInt8) :
    (listing .body ⟨bytes, none⟩).ReadsAs (bytes.map fun b => .number b.toUInt32 [',']) := by
  unfold Text.ReadsAs
  rw [words_listing_body rfl, List.forall₂_map_left_iff, List.forall₂_map_right_iff,
    List.forall₂_same]
  intro b _
  refine ⟨Hex.prefixed 2 b.toNat, rfl, ?_⟩
  rw [← UInt8.toNat_toUInt32, Hex.read_prefixed]

end Image

/-- **Reading undoes every printing of a number**, with any minimum of digits and with the
sign of the base or without it. So the addresses of a gap can be read back from the block
that stands in the place of an image and from the wording of the gap, the address of a
symbol from its line, and a number that is too great from the complaint about it, together
with its limit. The same goes for all else that is printed in hexadecimal digits: the bytes
of an image, the base that is refused, and the addresses that notices mention. -/
theorem Hex.read_undoes_printing :
    (∀ (width : Nat) (v : UInt32),
      read (digits width v.toNat) = .ok v ∧ read (prefixed width v.toNat) = .ok v) ∧
    (∀ (bytes : List UInt8) (g : Gap) (layout : Layout),
      (Image.listing layout ⟨bytes, some g⟩).ReadsAs
        [.number g.stated.toUInt32 [], .word "!=".toList, .number g.expected []]) ∧
    (∀ g : Gap, g.message.ReadsAs [.word "row".toList, .word (decimal g.row),
      .word "stated".toList, .word "at".toList, .number g.stated.toUInt32 [','],
      .word "expected".toList, .number g.expected []]) ∧
    (∀ symbols : List Symbol, ∃ lines, List.Forall₂ SymbolTable.Shows lines symbols ∧
      SymbolTable.listing .body symbols = Text.unlines lines ∧
      SymbolTable.listing .wrapped symbols
        = Text.unlines (SymbolTable.openingLine :: (lines ++ [SymbolTable.closingLine]))) ∧
    (∀ v limit : UInt32, (NumberError.outOfRange v limit).message.ReadsAs
      [.word "value".toList, .number v [], .word "exceeds".toList, .word "maximum".toList,
        .number limit []]) ∧
    (∀ bytes : List UInt8, (Image.listing .body ⟨bytes, none⟩).ReadsAs
      (bytes.map fun b => .number b.toUInt32 [','])) ∧
    (∀ v limit : UInt32, (CommandLine.baseMessage (.outOfRange v limit)).ReadsAs
      [.number v [], .word "does".toList, .word "not".toList, .word "fit".toList,
        .word "in".toList, .word "16".toList, .word "bits".toList]) ∧
    ∀ (a : UInt16) (line size : Nat) (g : Gap),
      (Notice.oddRow line a size).message.ReadsAs
        [.word "line".toList, .word (decimal line ++ [':']), .word "row".toList,
          .word "at".toList, .number a.toUInt32 [], .word "has".toList, .word (decimal size),
          .word "bytes,".toList, .word "expected".toList, .word "16".toList] ∧
      (Notice.imageCut g size).message.ReadsAs
        [.word "row".toList, .word (decimal g.row), .word "stated".toList, .word "at".toList,
          .number g.stated.toUInt32 [','], .word "expected".toList, .number g.expected [','],
          .word "truncating".toList, .word "image".toList, .word "at".toList,
          .word (decimal size), .word "bytes".toList] ∧
      (Notice.sharedAddress a).message.ReadsAs
        [.word "several".toList, .word "symbols".toList, .word "at".toList,
          .number a.toUInt32 [','], .word "wrapped".toList, .word "table".toList,
          .word "has".toList, .word "duplicate".toList, .word "keys".toList] := by
  refine ⟨fun width v => ⟨read_digits width v, read_prefixed width v⟩,
    Image.readsAs_listing_of_gap, Gap.readsAs_message, fun symbols => ?_,
    NumberError.readsAs_message, Image.readsAs_listing_body, CommandLine.readsAs_baseMessage,
    fun a line size g => ⟨Notice.readsAs_message_oddRow line a size,
      Notice.readsAs_message_imageCut g size, Notice.readsAs_message_sharedAddress a⟩⟩
  refine ⟨symbols.map SymbolTable.lineText, ?_, SymbolTable.listing_body_eq symbols,
    SymbolTable.listing_wrapped_eq symbols⟩
  rw [List.forall₂_map_left_iff, List.forall₂_same]
  exact fun s _ => SymbolTable.shows_lineText s

/-- An address above those that a row can state has five digits, and no zeros in front. -/
example : (Image.listing .wrapped ⟨[1], some ⟨4097, 0x20, 0x10000⟩⟩) = "0020 != 10000\n".toList ∧
    Hex.read "10000".toList = .ok 0x10000 := by
  decide

end MemoryListing
