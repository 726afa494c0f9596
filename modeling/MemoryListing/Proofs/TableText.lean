import MemoryListing.Listing
import MemoryListing.Proofs.DigitOrder
import MemoryListing.Proofs.Lines
import MemoryListing.Proofs.Names
import MemoryListing.Proofs.TableOrder

/-!
# A symbol table as a text

The text of a table has one line for each line of the symbol list, in another
order. What a line shows can be read back from it: its first six characters are
the address, and the name stands between the quotes. In that order the texts of
the addresses never descend, and lines with one address stand as they stood in
the list. `SymbolTable.listing_shows_symbols` says so for all symbol lists that
are accepted.

Three facts meet here. A name that was read from a list holds no line feed, so
what is printed for a symbol is one line (`SymbolTable.splitOn_listing`). Every
address has four digits, so the texts of addresses are ordered like the addresses
(`SymbolTable.addressText_lt_iff`). And sorting keeps the order of the list where
addresses agree (`SymbolTable.pairwise_placed`).
-/

namespace MemoryListing

namespace SymbolTable

/-! ## The line of a symbol -/

/-- The address of a symbol as its line shows it. -/
def addressText (s : Symbol) : Text :=
  Hex.prefixed 4 s.address.toNat

/-- The line of a symbol without the line feed. -/
def lineText (s : Symbol) : Text :=
  addressText s ++ ": \"".toList ++ s.name ++ "\",".toList

theorem toNat_address_lt (s : Symbol) : s.address.toNat < 16 ^ 4 :=
  s.address.toNat_lt_size

@[simp] theorem length_addressText (s : Symbol) : (addressText s).length = 6 := by
  show (Hex.digits 4 s.address.toNat).length + 2 = 6
  rw [Hex.length_digits (toNat_address_lt s)]

theorem take_lineText (s : Symbol) : (lineText s).take 6 = addressText s := by
  unfold lineText
  rw [List.append_assoc, List.append_assoc, ← length_addressText s]
  exact List.take_left

/-- Symbols whose addresses look alike have one address. -/
theorem addressText_inj {a b : Symbol} : addressText a = addressText b ↔ a.address = b.address := by
  constructor
  · intro h
    exact Hex.digits_toNat_inj (List.append_cancel_left h)
  · intro h
    unfold addressText
    rw [h]

/-- **The texts of addresses are ordered like the addresses.** -/
theorem addressText_lt_iff {a b : Symbol} :
    addressText a < addressText b ↔ a.address < b.address := by
  have hdigits : Hex.digits 4 a.address.toNat < Hex.digits 4 b.address.toNat ↔
      a.address.toNat < b.address.toNat :=
    Hex.digits_lt_digits_iff (toNat_address_lt a) (toNat_address_lt b)
  have hsign : ∀ {c : Char} {u v : Text}, c :: u < c :: v ↔ u < v := by
    intro c u v
    rw [List.cons_lt_cons_iff]
    constructor
    · rintro (hlt | ⟨-, huv⟩)
      · exact absurd hlt (Nat.lt_irrefl _)
      · exact huv
    · exact fun huv => .inr ⟨rfl, huv⟩
  rw [UInt16.lt_iff_toNat_lt, ← hdigits]
  show '0' :: 'x' :: Hex.digits 4 a.address.toNat < '0' :: 'x' :: Hex.digits 4 b.address.toNat
    ↔ _
  rw [hsign, hsign]

theorem newline_not_mem_lineText {s : Symbol} (h : '\n' ∉ s.name) : '\n' ∉ lineText s := by
  have haddress : '\n' ∉ addressText s := by
    intro hmem
    obtain hx | halphabet := Hex.mem_prefixed hmem
    · exact absurd hx (by decide)
    · exact absurd halphabet (by decide)
  unfold lineText
  simp [haddress, h]

/-- **A line shows a symbol**: it is an address of four digits and a name between
quotes, and the first six characters are read as the address. -/
structure Shows (line : Text) (s : Symbol) : Prop where
  /-- What the line consists of. -/
  shape : ∃ ds : Text, ds.length = 4 ∧ (∀ c ∈ ds, c ∈ Hex.alphabet) ∧
    line = "0x".toList ++ ds ++ ": \"".toList ++ s.name ++ "\",".toList
  /-- The address can be read back. -/
  read_address : Hex.read (line.take 6) = .ok s.address.toUInt32

theorem shows_lineText (s : Symbol) : Shows (lineText s) s where
  shape := ⟨Hex.digits 4 s.address.toNat, Hex.length_digits (toNat_address_lt s),
    fun _ hc => Hex.mem_alphabet_of_mem_digits hc, rfl⟩
  read_address := by
    rw [take_lineText, addressText, ← UInt16.toNat_toUInt32, Hex.read_prefixed]

/-! ## The lines of a table -/

/-- The line that opens a declared table. -/
def openingLine : Text :=
  "symbols := SymbolTable\x7b".toList

/-- The line that closes a declared table. -/
def closingLine : Text :=
  "\x7d".toList

/-- The text of a table is made up of the lines of its symbols. -/
theorem listing_body_eq (symbols : List Symbol) :
    listing .body symbols = Text.unlines (symbols.map lineText) := by
  show symbols.flatMap symbolLine = (symbols.map lineText).flatMap (· ++ ['\n'])
  rw [List.flatMap_map]
  refine List.flatMap_congr fun s _ => ?_
  unfold symbolLine lineText
  rw [List.append_assoc _ "\",".toList]
  rfl

/-- A declared table has one line more at either end. -/
theorem listing_wrapped_eq (symbols : List Symbol) :
    listing .wrapped symbols
      = Text.unlines (openingLine :: (symbols.map lineText ++ [closingLine])) := by
  show openingLine ++ ['\n'] ++ listing .body symbols ++ "\x7d\n".toList = _
  rw [listing_body_eq, Text.unlines_cons, List.append_assoc, List.append_assoc]
  unfold Text.unlines
  rw [List.flatMap_append]
  rfl

/-- **The text of a table is cut at its line feeds into the lines of its symbols**, as
long as no name holds one. -/
theorem splitOn_listing {symbols : List Symbol} (h : ∀ s ∈ symbols, '\n' ∉ s.name) :
    (listing .body symbols).splitOn '\n' = symbols.map lineText ++ [[]] ∧
      (listing .wrapped symbols).splitOn '\n'
        = openingLine :: (symbols.map lineText ++ [closingLine]) ++ [[]] := by
  have hlines : ∀ l ∈ symbols.map lineText, '\n' ∉ l := by
    intro l hl
    obtain ⟨s, hs, rfl⟩ := List.mem_map.1 hl
    exact newline_not_mem_lineText (h s hs)
  constructor
  · rw [listing_body_eq, Text.splitOn_unlines hlines]
  · rw [listing_wrapped_eq, Text.splitOn_unlines]
    intro l hl
    rcases List.mem_cons.1 hl with rfl | hl
    · decide
    · rcases List.mem_append.1 hl with hl | hl
      · exact hlines l hl
      · rw [List.mem_singleton.1 hl]
        decide

theorem newline_not_mem_name {t : Text} {symbols : List Symbol}
    (h : (read t).result = .ok symbols) : ∀ s ∈ sort symbols, '\n' ∉ s.name := by
  intro s hs hmem
  have hblank := isBlank_of_mem_name h s ((sort_perm symbols).mem_iff.1 hs) '\n' hmem
  exact absurd hblank (by decide)

/-! ## From the list to the text -/

/-- **Lines show the symbols of a list.** Each line comes with the place of the line
of the list that it shows. -/
structure ShowsList (t : Text) (symbols : List Symbol) (lines : List (Text × Nat)) : Prop where
  /-- There are as many lines as the list has. -/
  length_eq : lines.length = t.lines.length
  /-- Every line of the list is shown, and none is shown twice. -/
  places_perm : (lines.map (·.2)).Perm (List.range t.lines.length)
  /-- A line shows the symbol that stands at its place. -/
  shows_symbol : ∀ p ∈ lines, ∃ line s, t.lines[p.2]? = some line ∧ Symbol.ofLine line = .ok s ∧
    symbols[p.2]? = some s ∧ Shows p.1 s
  /-- The texts of the addresses never descend, and where two agree, the lines stand
  as in the list. -/
  in_order : lines.Pairwise fun p q =>
    p.1.take 6 < q.1.take 6 ∨ p.1.take 6 = q.1.take 6 ∧ p.2 < q.2

/-- The lines of the placed symbols show the list. -/
theorem showsList_placed {t : Text} {symbols : List Symbol}
    (h : (read t).result = .ok symbols) :
    ShowsList t symbols ((placed symbols).map fun p => (lineText p.1, p.2)) := by
  have hread := read_eq_ok_iff.1 h
  have hlength : t.lines.length = symbols.length := hread.length_eq
  have hplaces : ((placed symbols).map fun p => (lineText p.1, p.2)).map (·.2)
      = (placed symbols).map (·.2) := by
    rw [List.map_map]
    rfl
  refine ⟨?_, ?_, ?_, ?_⟩
  · rw [hlength, ← List.length_map (·.2), hplaces, (places_perm symbols).length_eq,
      List.length_range]
  · rw [hplaces, hlength]
    exact places_perm symbols
  · intro p hp
    obtain ⟨⟨s, i⟩, hmem, rfl⟩ := List.mem_map.1 hp
    have hs : symbols[i]? = some s := getElem?_of_mem_placed hmem
    obtain ⟨hi, rfl⟩ := List.getElem?_eq_some_iff.1 hs
    have hi' : i < t.lines.length := hlength ▸ hi
    have hline : Symbol.ofLine t.lines[i] = .ok symbols[i] :=
      (List.forall₂_iff_get.1 hread).2 i hi' hi
    exact ⟨t.lines[i], symbols[i], List.getElem?_eq_getElem hi', hline, hs, shows_lineText _⟩
  · refine List.pairwise_map.2 ((pairwise_placed symbols).imp ?_)
    intro a b hab
    show (lineText a.1).take 6 < (lineText b.1).take 6 ∨
      (lineText a.1).take 6 = (lineText b.1).take 6 ∧ a.2 < b.2
    rw [take_lineText, take_lineText, addressText_lt_iff, addressText_inj]
    exact hab

/-- **The text of a table shows the symbols of its list**, for every list that is
accepted: one line for each line of the list, ordered by the texts of the addresses
first and by the list then. A declared table has the same lines between its opening
and its closing line. -/
theorem listing_shows_symbols {t : Text} {symbols : List Symbol}
    (h : (read t).result = .ok symbols) :
    ∃ lines : List (Text × Nat), ShowsList t symbols lines ∧
      (listing .body (sort symbols)).splitOn '\n' = lines.map (·.1) ++ [[]] ∧
      (listing .wrapped (sort symbols)).splitOn '\n'
        = openingLine :: (lines.map (·.1) ++ [closingLine]) ++ [[]] := by
  have hlines : ((placed symbols).map fun p => (lineText p.1, p.2)).map (·.1)
      = (sort symbols).map lineText := by
    rw [← map_fst_placed, List.map_map, List.map_map]
    rfl
  refine ⟨_, showsList_placed h, ?_⟩
  rw [hlines]
  exact splitOn_listing (newline_not_mem_name h)

/-- Two symbols at one address stay in the order of the list, behind a third one. -/
theorem listing_shows_symbols_of_shared_address :
    let t : Text := "ZERO 0x10\r\n\tone 2\nTwo +0X_2".toList
    let symbols : List Symbol :=
      [⟨"zero".toList, 0x10⟩, ⟨"one".toList, 2⟩, ⟨"two".toList, 2⟩]
    (read t).result = .ok symbols ∧
      ∃ lines : List (Text × Nat), ShowsList t symbols lines ∧
        (listing .body (sort symbols)).splitOn '\n' = lines.map (·.1) ++ [[]] ∧
        (listing .wrapped (sort symbols)).splitOn '\n'
          = openingLine :: (lines.map (·.1) ++ [closingLine]) ++ [[]] := by
  intro t symbols
  have h : (read t).result = .ok symbols := by decide +kernel
  exact ⟨h, listing_shows_symbols h⟩

end SymbolTable

end MemoryListing
