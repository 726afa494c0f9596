import MemoryListing.Listing
import MemoryListing.Proofs.Contiguity
import MemoryListing.Proofs.Digits
import MemoryListing.Proofs.Lines

/-!
# A listing shows the bytes of its dump

Between the text of a dump and the text of its listing a byte is read from a
word, put into a row, carried over into the image and printed again. The numbers
at both ends are the same, in the same order (`Image.listing_shows_data`): the
data words of a dump, line by line, and the words of the listing, each without
the comma at its end, are read as one list of values. For a wrapped listing this
is said of the lines between the first and the last one.

Both ends are brought to the bytes of the image. At the dump's end that is
`Dump.read_dataWords`, at the listing's end `Image.words_listing_body`.
-/

namespace MemoryListing

/-- The data words of a dump: those behind the address, line by line. -/
def Dump.dataWords (t : Text) : List Text :=
  t.lines.flatMap fun line => line.words.tail

/-- The reading of a byte. -/
def Hex.ofByte (b : UInt8) : Except Hex.Error UInt32 :=
  .ok b.toUInt32

/-! ## From the dump to the image -/

/-- The words behind the address of a row are read as its bytes. -/
theorem Row.read_words_tail {line : Text} {r : Row} (h : ofLine line = .ok r) :
    line.words.tail.map Hex.read = r.bytes.map Hex.ofByte := by
  obtain ⟨w, ws, hwords, -, hbytes⟩ := ofLine_eq_ok_iff.1 h
  rw [hwords, List.tail_cons]
  clear hwords
  generalize r.bytes = bs at hbytes
  induction hbytes with
  | nil => rfl
  | cons hb _ ih => rw [List.map_cons, List.map_cons, Hex.readByte_eq_ok_iff.1 hb, ih]; rfl

/-- **The data words of an accepted dump are read as the bytes of its rows.** -/
theorem Dump.read_dataWords {t : Text} {rows : List Row} (h : (read t).result = .ok rows) :
    (dataWords t).map Hex.read = (rows.flatMap (·.bytes)).map Hex.ofByte := by
  replace h := read_eq_ok_iff.1 h
  unfold dataWords
  generalize t.lines = ls at h
  induction h with
  | nil => rfl
  | cons hr _ ih =>
    rw [List.flatMap_cons, List.flatMap_cons, List.map_append, List.map_append,
      Row.read_words_tail hr, ih]

namespace Image

/-! ## From the image to the listing -/

/-- A byte between blanks in a listing. -/
def byteWord (b : UInt8) : Text :=
  Hex.prefixed 2 b.toNat ++ [',']

theorem read_dropLast_byteWord (b : UInt8) : Hex.read (byteWord b).dropLast = Hex.ofByte b := by
  have h := Hex.read_prefixed 2 b.toUInt32
  simpa [byteWord, Hex.ofByte] using h

theorem isBlank_of_mem_byteWord (b : UInt8) : ∀ c ∈ byteWord b, Text.isBlank c = false := by
  intro c hc
  cases List.mem_append.1 hc with
  | inl hc =>
    obtain rfl | hc := Hex.mem_prefixed hc
    · rfl
    · exact Hex.isBlank_of_mem_alphabet c hc
  | inr hc =>
    rw [List.mem_singleton.1 hc]
    rfl

theorem words_byteItem_append (b : UInt8) (t : Text) :
    (byteItem b ++ t).words = byteWord b :: t.words := by
  have h : byteItem b ++ t = byteWord b ++ ' ' :: t := by
    simp [byteItem, byteWord]
  have hne : byteWord b ≠ [] :=
    List.append_ne_nil_of_right_ne_nil _ (List.cons_ne_nil _ _)
  rw [h, Text.words_append_blank _ _ (by decide),
    Text.words_of_not_blank hne (isBlank_of_mem_byteWord b)]
  rfl

/-- Line breaks separate bytes as blanks do, so the words are those of the bytes
wherever the lines break. -/
theorem words_items (index : Nat) (bs : List UInt8) :
    (items index bs ++ ['\n']).words = bs.map byteWord := by
  induction bs generalizing index with
  | nil => rfl
  | cons b bs ih =>
    rw [items, List.append_assoc, List.append_assoc, List.map_cons, ← ih (index + 1)]
    split
    · rw [show ∀ t : Text, ['\n'] ++ t = [] ++ '\n' :: t from fun _ => rfl,
        Text.words_append_blank _ _ (by decide)]
      exact words_byteItem_append b _
    · exact words_byteItem_append b _

theorem listing_body {image : Image} (h : image.gap = none) :
    image.listing .body = items 0 image.bytes ++ ['\n'] := by
  unfold listing
  rw [h]
  rfl

/-- A declared image is the body between an opening and a closing line. -/
theorem listing_wrapped {image : Image} (h : image.gap = none) :
    image.listing .wrapped
      = "code := []byte\x7b".toList ++ '\n' :: (image.listing .body ++ "\x7d\n".toList) := by
  unfold listing
  rw [h]
  simp [Layout.enclose]

/-- **The words of a listing are the bytes of its image.** -/
theorem words_listing_body {image : Image} (h : image.gap = none) :
    (image.listing .body).words = image.bytes.map byteWord := by
  rw [listing_body h, words_items]

/-- The characters of an item. -/
theorem mem_byteItem {c : Char} {b : UInt8} (h : c ∈ byteItem b) :
    c ∈ Hex.alphabet ∨ c = 'x' ∨ c = ',' ∨ c = ' ' := by
  have h : c ∈ Hex.prefixed 2 b.toNat ∨ c = ',' ∨ c = ' ' := by simpa [byteItem] using h
  rcases h with h | h
  · rw [← or_assoc]
    exact .inl (Hex.mem_prefixed h).symm
  · exact .inr (.inr h)

/-- A character that is none of these stands in no item. -/
theorem not_mem_byteItem {c : Char} (hc : c ∉ Hex.alphabet ++ ['x', ',', ' ']) (b : UInt8) :
    c ∉ byteItem b := by
  intro h
  refine hc (List.mem_append.2 ((mem_byteItem h).imp_right fun h => ?_))
  simpa using h

/-- Bytes are shown without carriage returns. -/
theorem return_not_mem_items (index : Nat) (bs : List UInt8) : '\r' ∉ items index bs := by
  induction bs generalizing index with
  | nil => exact nofun
  | cons b bs ih =>
    have hbreak : '\r' ∉ if index % bytesPerLine = 0 ∧ index ≠ 0 then ['\n'] else [] := by
      split
      · decide
      · exact nofun
    rw [items, List.mem_append, List.mem_append]
    rintro ((h | h) | h)
    · exact hbreak h
    · exact not_mem_byteItem (by decide) b h
    · exact ih (index + 1) h

/-- **The lines between the first and the last of a wrapped listing are the body.** -/
theorem inner_lines_listing_wrapped {image : Image} (h : image.gap = none) :
    Text.unlines ((image.listing .wrapped).lines.tail.dropLast) = image.listing .body := by
  have hb : Text.Terminated (image.listing .body) := by
    rw [listing_body h]
    exact Text.terminated_append_newline _
  have hr : '\r' ∉ image.listing .body := by
    rw [listing_body h, List.mem_append, not_or]
    exact ⟨return_not_mem_items 0 image.bytes, by decide⟩
  -- the opening line is split off in front, the closing line behind
  have hlast : Text.lines "\x7d\n".toList = ["\x7d".toList] := by decide
  rw [listing_wrapped h, Text.lines_append_newline (by decide), List.tail_cons, Text.lines_append hb, hlast,
    List.dropLast_concat, Text.unlines_lines hb hr]

/-! ## Both ends -/

/-- **A text shows the data of a dump**: every word of it is a number with a comma
behind it, and the numbers are those of the dump's data words, in their order. -/
def ShowsData (shown dump : Text) : Prop :=
  (∀ piece ∈ shown.words, piece.getLast? = some ',' ∧
      ∃ v, Hex.read piece.dropLast = .ok v) ∧
    shown.words.map (fun piece => Hex.read piece.dropLast)
      = (Dump.dataWords dump).map Hex.read

/-- **No byte is lost, repeated, moved or changed** between a dump and the listing
of its image: the body shows the data of the dump, and so does a wrapped listing
between its first and its last line. -/
theorem listing_shows_data {t : Text} {rows : List Row}
    (ht : (Dump.read t).result = .ok rows) {base : UInt16} {policy : GapPolicy}
    {image : Image} (hi : (ofRows base policy rows).result = .ok image)
    (hg : image.gap = none) :
    ShowsData (image.listing .body) t ∧
      ShowsData (Text.unlines ((image.listing .wrapped).lines.tail.dropLast)) t := by
  rw [inner_lines_listing_wrapped hg, and_self]
  obtain ⟨rfl, -⟩ := ofRows_eq_ok_iff.1 hi
  unfold ShowsData
  rw [words_listing_body hg, Dump.read_dataWords ht, List.map_map,
    ← bytes_of_gap_eq_none hg]
  constructor
  · intro piece hp
    obtain ⟨b, -, rfl⟩ := List.mem_map.1 hp
    exact ⟨List.getLast?_concat, b.toUInt32, read_dropLast_byteWord b⟩
  · exact List.map_congr_left fun b _ => read_dropLast_byteWord b

/-- Rows of other sizes, and numbers spelled in other ways than they are shown. -/
theorem listing_shows_data_of_odd_rows :
    let t : Text := "0200 1 +0x_f\r\n0x210\n0220 0XFF".toList
    let rows : List Row := [⟨0x200, [1, 15]⟩, ⟨0x210, []⟩, ⟨0x220, [255]⟩]
    let image : Image := ⟨[1, 15, 255], none⟩
    ((Dump.read t).result = .ok rows ∧ (ofRows 0x200 .strict rows).result = .ok image ∧
      image.gap = none) ∧
      ShowsData (image.listing .body) t ∧
        ShowsData (Text.unlines ((image.listing .wrapped).lines.tail.dropLast)) t := by
  intro t rows image
  have ht : (Dump.read t).result = .ok rows := by decide +kernel
  have hi : (ofRows 0x200 .strict rows).result = .ok image :=
    ofRows_eq_ok_iff.2 ⟨by decide, .inr rfl⟩
  exact ⟨⟨ht, hi, rfl⟩, listing_shows_data ht hi rfl⟩

end Image

end MemoryListing
