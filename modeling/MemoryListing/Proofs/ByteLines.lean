import MemoryListing.Proofs.DigitOrder
import MemoryListing.Proofs.ShownBytes

/-!
# The lines of an image

The body of an image is a row of lines of eight bytes, with fewer bytes in the last
one. Items are printed one after the other, and a line ends where the next item is
about to start a new one, so the end of the last line has to be added: an image
without bytes then has one line, which is empty, and an image whose bytes fill its
lines has no empty line behind them.

`Image.byteLines` gives the lines by their numbers: how many there are, and which bytes
each of them shows. The items follow it because they depend on the index in one way
only, by whether it is a multiple of eight: behind a full line they start over
(`Image.items_bytesPerLine_cons`). `Image.listing_lines` says this of every image
without a gap, and how long the text is.
-/

namespace MemoryListing

namespace Image

/-! ## The item of a byte -/

/-- **A byte is shown in two digits.** -/
theorem byteItem_eq (b : UInt8) :
    byteItem b = "0x".toList ++ [Nat.digitChar (b.toNat / 16), Nat.digitChar (b.toNat % 16)]
      ++ ", ".toList := by
  have hquotient : b.toNat / 16 < 16 := Nat.div_lt_of_lt_mul b.toNat_lt_size
  rw [byteItem, Hex.prefixed, Hex.digits_succ Nat.one_pos, Hex.digits_one hquotient]
  rfl

@[simp] theorem length_byteItem (b : UInt8) : (byteItem b).length = 6 := by
  rw [byteItem_eq]
  rfl

/-! ## Where the items break -/

theorem items_append (index : Nat) (bytes more : List UInt8) :
    items index (bytes ++ more) = items index bytes ++ items (index + bytes.length) more := by
  induction bytes generalizing index with
  | nil => rfl
  | cons b bytes ih =>
    rw [List.cons_append, items, items, ih, List.length_cons, Nat.add_comm bytes.length 1,
      ← Nat.add_assoc, List.append_assoc _ (items _ _)]

/-- Inside of a line nothing breaks. -/
theorem items_of_pos {index : Nat} {bytes : List UInt8} (hpos : 0 < index)
    (hlength : index + bytes.length ≤ bytesPerLine) :
    items index bytes = bytes.flatMap byteItem := by
  induction bytes generalizing index with
  | nil => rfl
  | cons b bytes ih =>
    rw [List.length_cons] at hlength
    -- the indexes from one to seven are no multiples of eight
    have hindex : ¬ (index % bytesPerLine = 0 ∧ index ≠ 0) := by
      rw [Nat.mod_eq_of_lt (by omega)]
      omega
    rw [items, if_neg hindex, List.nil_append, ih (Nat.succ_pos index) (by omega),
      List.flatMap_cons]

/-- One line shows its items and nothing else. -/
theorem items_zero_of_length_le {bytes : List UInt8} (h : bytes.length ≤ bytesPerLine) :
    items 0 bytes = bytes.flatMap byteItem := by
  cases bytes with
  | nil => rfl
  | cons b bytes =>
    rw [List.length_cons] at h
    rw [items, if_neg (fun h => h.2 rfl), List.nil_append,
      items_of_pos Nat.one_pos (by omega), List.flatMap_cons]

/-- Items break alike one line further on. -/
theorem items_add_bytesPerLine {index : Nat} (hpos : 0 < index) (bytes : List UInt8) :
    items (index + bytesPerLine) bytes = items index bytes := by
  induction bytes generalizing index with
  | nil => rfl
  | cons b bytes ih =>
    have hbreak : (index + bytesPerLine) % bytesPerLine = 0 ∧ index + bytesPerLine ≠ 0 ↔
        index % bytesPerLine = 0 ∧ index ≠ 0 := by
      rw [Nat.add_mod_right]
      omega
    rw [items, items, ← ih (Nat.succ_pos index), Nat.add_right_comm]
    simp only [hbreak]

/-- **Behind a full line the items start over.** -/
theorem items_bytesPerLine_cons (b : UInt8) (bytes : List UInt8) :
    items bytesPerLine (b :: bytes) = '\n' :: items 0 (b :: bytes) := by
  have hrest : items (bytesPerLine + 1) bytes = items 1 bytes := by
    rw [Nat.add_comm]
    exact items_add_bytesPerLine Nat.one_pos bytes
  rw [items, hrest]
  rfl

/-! ## The lines by their numbers -/

/-- How many lines a number of bytes takes: full ones, and one for the rest. There is
always one. -/
def lineCount (size : Nat) : Nat :=
  max 1 ((size + 7) / 8)

/-- The bytes of a line: eight, or those that are left. -/
def bytesOfLine (bytes : List UInt8) (j : Nat) : List UInt8 :=
  bytes.extract (8 * j) (min (8 * j + 8) bytes.length)

/-- **The lines of the bytes**, without their line feeds. -/
def byteLines (bytes : List UInt8) : List Text :=
  (List.range (lineCount bytes.length)).map fun j => (bytesOfLine bytes j).flatMap byteItem

theorem lineCount_of_le {size : Nat} (h : size ≤ 8) : lineCount size = 1 := by
  unfold lineCount
  omega

theorem lineCount_of_lt {size : Nat} (h : 8 < size) :
    lineCount size = lineCount (size - 8) + 1 := by
  unfold lineCount
  omega

theorem bytesOfLine_eq (bytes : List UInt8) (j : Nat) :
    bytesOfLine bytes j = (bytes.drop (8 * j)).take 8 := by
  rw [bytesOfLine, List.extract_eq_take_drop, List.take_eq_take_iff, List.length_drop]
  omega

theorem byteLines_of_length_le {bytes : List UInt8} (h : bytes.length ≤ 8) :
    byteLines bytes = [bytes.flatMap byteItem] := by
  rw [byteLines, lineCount_of_le h]
  show [(bytesOfLine bytes 0).flatMap byteItem] = _
  rw [bytesOfLine_eq, Nat.mul_zero, List.drop_zero, List.take_of_length_le h]

/-- **More than eight bytes** are a line and the lines of the bytes behind it. -/
theorem byteLines_of_lt_length {bytes : List UInt8} (h : 8 < bytes.length) :
    byteLines bytes = (bytes.take 8).flatMap byteItem :: byteLines (bytes.drop 8) := by
  rw [byteLines, lineCount_of_lt h, List.range_succ_eq_map, List.map_cons, List.map_map,
    byteLines, List.length_drop, bytesOfLine_eq]
  refine congrArg (List.cons _) (List.map_congr_left fun j _ => ?_)
  show (bytesOfLine bytes (j + 1)).flatMap byteItem = _
  rw [bytesOfLine_eq, bytesOfLine_eq, List.drop_drop, Nat.mul_succ, Nat.add_comm]

/-- **Bytes are taken line by line**: those of one line, or eight ahead of others. -/
theorem line_induction {p : List UInt8 → Prop}
    (short : ∀ bytes, bytes.length ≤ 8 → p bytes)
    (long : ∀ bytes, 8 < bytes.length → p (bytes.drop 8) → p bytes) (bytes : List UInt8) :
    p bytes := by
  induction hlength : bytes.length using Nat.strong_induction_on generalizing bytes with
  | _ n ih =>
    by_cases hle : bytes.length ≤ 8
    · exact short bytes hle
    · refine long bytes (Nat.lt_of_not_le hle) (ih _ ?_ _ rfl)
      rw [List.length_drop]
      omega

/-- More than eight items are those of a full line, its end, and the items behind. -/
theorem items_zero_of_lt_length {bytes : List UInt8} (h : 8 < bytes.length) :
    items 0 bytes = (bytes.take 8).flatMap byteItem ++ '\n' :: items 0 (bytes.drop 8) := by
  have htake : (bytes.take 8).length = bytesPerLine :=
    List.length_take_of_le (Nat.le_of_lt h)
  obtain ⟨b, rest, hdrop⟩ : ∃ b rest, bytes.drop 8 = b :: rest :=
    List.exists_cons_of_length_pos (by rw [List.length_drop]; omega)
  conv_lhs => rw [← List.take_append_drop 8 bytes]
  rw [items_append, htake, items_zero_of_length_le (Nat.le_of_eq htake), Nat.zero_add, hdrop,
    items_bytesPerLine_cons]

/-- **The items of bytes, with the last line feed, are the lines of these bytes.** -/
theorem items_append_newline (bytes : List UInt8) :
    items 0 bytes ++ ['\n'] = Text.unlines (byteLines bytes) := by
  induction bytes using line_induction with
  | short bytes h =>
    rw [byteLines_of_length_le h, items_zero_of_length_le h]
    exact (List.flatMap_singleton _ _).symm
  | long bytes h ih =>
    rw [items_zero_of_lt_length h, byteLines_of_lt_length h, Text.unlines_cons, ← ih,
      List.append_assoc, List.cons_append]

/-- **How long the lines are**: six characters for each byte, and the line feeds. -/
theorem length_unlines_byteLines (bytes : List UInt8) :
    (Text.unlines (byteLines bytes)).length = 6 * bytes.length + lineCount bytes.length := by
  have hitems : ∀ bytes : List UInt8, (bytes.flatMap byteItem).length = 6 * bytes.length :=
    fun _ => length_flatMap_of_length fun b _ => length_byteItem b
  induction bytes using line_induction with
  | short bytes h =>
    rw [byteLines_of_length_le h, lineCount_of_le h, ← hitems, Text.unlines_cons,
      List.length_append]
    rfl
  | long bytes h ih =>
    have htake : (bytes.take 8).length = 8 := List.length_take_of_le (Nat.le_of_lt h)
    rw [byteLines_of_lt_length h, lineCount_of_lt h, Text.unlines_cons, List.length_append,
      List.length_cons, ih, hitems, htake, List.length_drop]
    omega

theorem newline_not_mem_byteLines {bytes : List UInt8} {line : Text}
    (h : line ∈ byteLines bytes) : '\n' ∉ line := by
  obtain ⟨j, -, rfl⟩ := List.mem_map.1 h
  intro hmem
  obtain ⟨b, -, hb⟩ := List.mem_flatMap.1 hmem
  exact not_mem_byteItem (by decide) b hb

/-- The lines are written in ASCII, so they have one byte for each character. -/
theorem length_bytes_unlines_byteLines (bytes : List UInt8) :
    (Text.unlines (byteLines bytes)).bytes.length
      = (Text.unlines (byteLines bytes)).length := by
  have hascii : ∀ c ∈ Text.unlines (byteLines bytes), c.toNat < 0x80 := by
    intro c hc
    obtain ⟨line, hline, hc⟩ := List.mem_flatMap.1 hc
    rcases List.mem_append.1 hc with hc | hc
    · obtain ⟨j, -, rfl⟩ := List.mem_map.1 hline
      obtain ⟨b, -, hb⟩ := List.mem_flatMap.1 hc
      rcases mem_byteItem hb with hdigit | rfl | rfl | rfl
      · exact Hex.lt_of_mem_alphabet c hdigit
      · decide
      · decide
      · decide
    · rw [List.mem_singleton.1 hc]
      decide
  rw [Text.bytes_of_ascii hascii, List.length_map]

/-! ## The block of an image -/

/-- **Lines show bytes**, eight to a line. -/
structure ShowsBytes (bytes : List UInt8) (lines : List Text) : Prop where
  /-- There is a line for every eight bytes and one for the rest, but at least one. -/
  length_eq : lines.length = max 1 ((bytes.length + 7) / 8)
  /-- No line holds a line feed. -/
  newline_not_mem : ∀ line ∈ lines, '\n' ∉ line
  /-- A line consists of the items of its bytes, in their order. -/
  getElem?_eq : ∀ j < lines.length, lines[j]?
    = some ((bytes.extract (8 * j) (min (8 * j + 8) bytes.length)).flatMap byteItem)

theorem showsBytes_byteLines (bytes : List UInt8) : ShowsBytes bytes (byteLines bytes) where
  length_eq := by
    rw [byteLines, List.length_map, List.length_range]
    rfl
  newline_not_mem _ h := newline_not_mem_byteLines h
  getElem?_eq := by
    intro j hj
    rw [byteLines, List.length_map, List.length_range] at hj
    rw [byteLines, List.getElem?_map, List.getElem?_range hj]
    rfl

/-- **The block of an image without a gap**: its body consists of lines that show the
bytes, each of them ended by a line feed. A byte takes six characters, so the length
is known, and the declared image is the body between two lines that never change. -/
theorem listing_lines {image : Image} (h : image.gap = none) :
    (∃ lines, ShowsBytes image.bytes lines ∧ image.listing .body = Text.unlines lines) ∧
    (∀ b, byteItem b = "0x".toList
        ++ [Nat.digitChar (b.toNat / 16), Nat.digitChar (b.toNat % 16)] ++ ", ".toList ∧
      Nat.digitChar (b.toNat / 16) ∈ Hex.alphabet ∧
      Nat.digitChar (b.toNat % 16) ∈ Hex.alphabet) ∧
    (image.listing .body).bytes.length
      = 6 * image.bytes.length + max 1 ((image.bytes.length + 7) / 8) ∧
    (image.listing .body).bytes.length
      ≤ 6 * image.bytes.length + image.bytes.length / 8 + 1 ∧
    image.listing .wrapped
      = "code := []byte\x7b\n".toList ++ image.listing .body ++ "\x7d\n".toList := by
  have hbody : image.listing .body = Text.unlines (byteLines image.bytes) := by
    rw [listing_body h, items_append_newline]
  have hlength : (image.listing .body).bytes.length
      = 6 * image.bytes.length + max 1 ((image.bytes.length + 7) / 8) := by
    rw [hbody, length_bytes_unlines_byteLines, length_unlines_byteLines]
    rfl
  refine ⟨⟨_, showsBytes_byteLines image.bytes, hbody⟩, ?_, hlength, ?_, ?_⟩
  · intro b
    exact ⟨byteItem_eq b,
      Hex.digitChar_mem_alphabet _ (Nat.div_lt_of_lt_mul b.toNat_lt_size),
      Hex.digitChar_mem_alphabet _ (Nat.mod_lt _ (by decide))⟩
  · rw [hlength]
    omega
  · exact listing_wrapped h

/-- A line that is full, and one with a single byte. -/
theorem listing_lines_of_nine_bytes :
    let image : Image := ⟨[0, 1, 2, 3, 4, 5, 6, 7, 0xa8], none⟩
    image.gap = none ∧
      (∃ lines, ShowsBytes image.bytes lines ∧ image.listing .body = Text.unlines lines) ∧
      (image.listing .body).bytes.length = 56 ∧
      image.listing .wrapped
        = "code := []byte\x7b\n".toList
          ++ "0x00, 0x01, 0x02, 0x03, 0x04, 0x05, 0x06, 0x07, \n0xa8, \n".toList
          ++ "\x7d\n".toList := by
  intro image
  have hgap : image.gap = none := rfl
  obtain ⟨hlines, -, hlength, -, hwrapped⟩ := listing_lines hgap
  exact ⟨hgap, hlines, hlength.trans (by decide), hwrapped⟩

end Image

end MemoryListing
