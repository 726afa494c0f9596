import MemoryListing.Proofs.Lines
import MemoryListing.Proofs.Reading

/-!
# Refused dumps

A dump is refused at one place: the leftmost word that is no number of its size, on
the first line that has such a word or has no words at all. `Dump.RefusedAt` says of a
text which line that is and what is wrong with it, in terms of the words of lines and
of the numbers they write, and `Dump.refuses_first_bad_word` says that reading finds
this place and no other, for all texts.

Each field of a row has its word (`RowField.place`) and its greatest number
(`RowField.limit`). A word is fit for its field if it writes a number up to that limit
(`Hex.Fits`), and if not, there is one reason (`Hex.Misfit`). Reading a line stops at
its leftmost misfit (`Row.ofLine_eq_error_iff`), and reading a text at the first line
that is not read, which is the general rule for texts read line by line.
-/

namespace MemoryListing

namespace Hex

/-! ## Words that are no numbers of their size -/

/-- **A word fits a limit** if it writes a number up to that limit. -/
def Fits (limit : UInt32) (word : Text) : Prop :=
  ∃ v, read word = .ok v ∧ v ≤ limit

/-- **Why a word does not fit a limit**: it writes no number, or a greater one. -/
inductive Misfit (limit : UInt32) (word : Text) : NumberError → Prop where
  | notHex {cause : Error} (h : read word = .error cause) : Misfit limit word (.notHex cause)
  | outOfRange {v : UInt32} (h : read word = .ok v) (hv : limit < v) :
    Misfit limit word (.outOfRange v limit)

variable {limit : UInt32} {word : Text} {cause : NumberError}

/-- **A number is refused for the reason that its word does not fit.** -/
theorem readUpTo_eq_error_iff : readUpTo limit word = .error cause ↔ Misfit limit word cause := by
  unfold readUpTo
  constructor
  · intro h
    cases hread : read word with
    | error e =>
      rw [hread] at h
      cases h
      exact .notHex hread
    | ok v =>
      rw [hread] at h
      dsimp only at h
      split at h
      next => cases h
      next hv =>
        cases h
        exact .outOfRange hread (UInt32.not_le.1 hv)
  · rintro (hread | ⟨hread, hv⟩)
    · rw [hread]
    · rw [hread]
      exact if_neg (UInt32.not_le.2 hv)

theorem exists_readUpTo_iff : (∃ v, readUpTo limit word = .ok v) ↔ Fits limit word :=
  exists_congr fun _ => readUpTo_eq_ok_iff

theorem Misfit.not_fits (h : Misfit limit word cause) : ¬ Fits limit word := by
  rintro ⟨v, hread, hv⟩
  cases h with
  | notHex h => cases h.symm.trans hread
  | outOfRange h hlt =>
    cases h.symm.trans hread
    exact UInt32.not_le.2 hlt hv

theorem Misfit.unique {cause' : NumberError} (h : Misfit limit word cause)
    (h' : Misfit limit word cause') : cause = cause' := by
  rw [← readUpTo_eq_error_iff] at h h'
  exact Except.error.inj (h.symm.trans h')

theorem readAddress_eq_error_iff : readAddress word = .error cause ↔ Misfit 0xffff word cause :=
  map_eq_error_iff.trans readUpTo_eq_error_iff

theorem readByte_eq_error_iff : readByte word = .error cause ↔ Misfit 0xff word cause :=
  map_eq_error_iff.trans readUpTo_eq_error_iff

theorem fits_of_readAddress_eq_ok {a : UInt16} (h : readAddress word = .ok a) :
    Fits 0xffff word := by
  obtain ⟨v, hv, -⟩ := map_eq_ok_iff.1 h
  exact exists_readUpTo_iff.1 ⟨v, hv⟩

theorem fits_of_readByte_eq_ok {b : UInt8} (h : readByte word = .ok b) : Fits 0xff word := by
  obtain ⟨v, hv, -⟩ := map_eq_ok_iff.1 h
  exact exists_readUpTo_iff.1 ⟨v, hv⟩

end Hex

/-! ## The leftmost bad word of a line -/

/-- The place of a field's word among the words of its line. -/
def RowField.place : RowField → Nat
  | .address => 0
  | .byte offset => offset + 1

/-- The greatest number that a field can hold. -/
def RowField.limit : RowField → UInt32
  | .address => 0xffff
  | .byte _ => 0xff

theorem RowField.place_injective {field field' : RowField} (h : field.place = field'.place) :
    field = field' := by
  rcases field with _ | offset <;> rcases field' with _ | offset'
  · rfl
  · cases h
  · cases h
  · rw [Nat.succ.inj h]

namespace Row

/-- **Words that are no row**: there are none, or the word of some field does not fit. -/
def Faulty (words : List Text) : Prop :=
  words = [] ∨ ∃ (field : RowField) (word : Text), words[field.place]? = some word ∧
    ¬ Hex.Fits field.limit word

/-- **Why words are no row**: there are none, or a field's word does not fit and the
words of all fields in front of it do. -/
inductive Refused (words : List Text) : RowError → Prop where
  | noAddress (h : words = []) : Refused words .noAddress
  | badWord {field : RowField} {word : Text} {cause : Hex.NumberError}
      (hword : words[field.place]? = some word) (hcause : Hex.Misfit field.limit word cause)
      (hearlier : ∀ earlier : RowField, earlier.place < field.place →
        ∀ w, words[earlier.place]? = some w → Hex.Fits earlier.limit w) :
      Refused words (.badWord field word cause)

theorem Refused.faulty {words : List Text} {cause : RowError} (h : Refused words cause) :
    Faulty words := by
  cases h with
  | noAddress h => exact .inl h
  | badWord hword hcause _ => exact .inr ⟨_, _, hword, hcause.not_fits⟩

/-- **There is one reason why words are no row.** Of two bad words the left one keeps the
right one from being the leftmost. -/
theorem Refused.unique {words : List Text} {cause cause' : RowError} (h : Refused words cause)
    (h' : Refused words cause') : cause = cause' := by
  rcases h with hnil | @⟨field, word, e, hword, he, hearlier⟩
  · rcases h' with - | ⟨hword', -, -⟩
    · rfl
    · rw [hnil] at hword'
      cases hword'
  · rcases h' with hnil | @⟨field', word', e', hword', he', hearlier'⟩
    · rw [hnil] at hword
      cases hword
    · rcases Nat.lt_trichotomy field.place field'.place with hlt | heq | hlt
      · exact absurd (hearlier' field hlt word hword) he.not_fits
      · cases RowField.place_injective heq
        cases Option.some.inj (hword.symm.trans hword')
        rw [he.unique he']
      · exact absurd (hearlier field' hlt word' hword') he'.not_fits

/-- The words of data bytes are refused at the leftmost one that does not fit. -/
theorem exists_misfit_of_bytesOfWords_eq_error {offset : Nat} {ws : List Text}
    {cause : RowError} (h : bytesOfWords offset ws = .error cause) :
    ∃ i word e, cause = .badWord (.byte (offset + i)) word e ∧ ws[i]? = some word ∧
      Hex.Misfit 0xff word e ∧ ∀ j < i, ∀ w, ws[j]? = some w → Hex.Fits 0xff w := by
  induction ws generalizing offset with
  | nil => cases h
  | cons w ws ih =>
    rw [bytesOfWords] at h
    cases hw : Hex.readByte w with
    | error e =>
      rw [hw] at h
      cases h
      exact ⟨0, w, e, rfl, rfl, Hex.readByte_eq_error_iff.1 hw,
        fun j hj => absurd hj (Nat.not_lt_zero j)⟩
    | ok b =>
      rw [hw] at h
      obtain ⟨i, word, e, rfl, hword, he, hearlier⟩ := ih (map_eq_error_iff.1 h)
      refine ⟨i + 1, word, e, ?_, hword, he, ?_⟩
      · rw [Nat.add_right_comm, Nat.add_assoc]
      · rintro (_ | j) hj v hv
        · cases hv
          exact Hex.fits_of_readByte_eq_ok hw
        · exact hearlier j (Nat.lt_of_succ_lt_succ hj) v hv

theorem refused_of_ofWords_eq_error {words : List Text} {cause : RowError}
    (h : ofWords words = .error cause) : Refused words cause := by
  cases words with
  | nil =>
    cases h
    exact .noAddress rfl
  | cons w ws =>
    rw [ofWords] at h
    cases hw : Hex.readAddress w with
    | error e =>
      rw [hw] at h
      cases h
      have hfirst : (w :: ws)[RowField.address.place]? = some w := rfl
      exact .badWord hfirst (Hex.readAddress_eq_error_iff.1 hw)
        fun earlier hlt => absurd hlt (Nat.not_lt_zero earlier.place)
    | ok a =>
      rw [hw] at h
      obtain ⟨i, word, e, rfl, hword, he, hearlier⟩ :=
        exists_misfit_of_bytesOfWords_eq_error (map_eq_error_iff.1 h)
      have hplace : (w :: ws)[(RowField.byte i).place]? = some word := hword
      rw [Nat.zero_add]
      refine .badWord hplace he ?_
      rintro (_ | j) hj v hv
      · cases hv
        exact Hex.fits_of_readAddress_eq_ok hw
      · exact hearlier j (Nat.lt_of_succ_lt_succ hj) v hv

/-- What is read as a row has no fault. -/
theorem not_faulty_of_ofLine_eq_ok {line : Text} {r : Row} (h : ofLine line = .ok r) :
    ¬ Faulty line.words := by
  obtain ⟨w, ws, hwords, haddress, hbytes⟩ := ofLine_eq_ok_iff.1 h
  rw [hwords]
  rintro (hnil | ⟨_ | offset, word, hword, hunfit⟩)
  · cases hnil
  · cases hword
    exact hunfit (Hex.fits_of_readAddress_eq_ok haddress)
  · have hall := hbytes.imp fun _ _ hb => And.intro (Hex.fits_of_readByte_eq_ok hb) hb
    have hfits := ((List.forall₂_and_left ws r.bytes).1 hall).1
    exact hunfit (hfits word (List.mem_of_getElem? hword))

/-- **A line is refused at its leftmost bad word.** -/
theorem ofLine_eq_error_iff {line : Text} {cause : RowError} :
    ofLine line = .error cause ↔ Refused line.words cause := by
  refine ⟨refused_of_ofWords_eq_error, fun h => ?_⟩
  cases hline : ofLine line with
  | error cause' => rw [h.unique (refused_of_ofWords_eq_error hline)]
  | ok r => exact absurd h.faulty (not_faulty_of_ofLine_eq_ok hline)

end Row

namespace Dump

variable {t : Text} {number : Nat} {cause : RowError} {rows : List Row}

/-- **A line of a dump is a dump of its own**, with one row if the line is one. -/
theorem read_line_eq_ok_iff {line : Text} {row : Row} (h : line ∈ t.lines) :
    (read line).result = .ok [row] ↔ Row.ofLine line = .ok row := by
  rw [read_eq_ok_iff]
  by_cases hline : line = []
  · rw [hline]
    exact ⟨nofun, nofun⟩
  · rw [Text.lines_of_not_mem hline (Text.newline_not_mem_of_mem_lines h), List.forall₂_cons]
    exact and_iff_left .nil

variable (rows) in
/-- Lines of a dump are rows if each of them is a dump of one row. -/
theorem forall₂_read_line_iff {lines : List Text} (h : lines ⊆ t.lines) :
    List.Forall₂ (fun line row => (read line).result = .ok [row]) lines rows ↔
      format.Accepts lines rows :=
  forall₂_congr_of_mem fun _ hline _ => read_line_eq_ok_iff (h hline)

/-! ## The place of refusal -/

/-- **A dump is refused at a line**, counted from one, for a reason that this line
gives, and every line before it is a dump of one row. -/
structure RefusedAt (t : Text) (number : Nat) (cause : RowError) (rows : List Row) : Prop where
  /-- Lines are counted from one. -/
  pos : 1 ≤ number
  /-- The line is there, and its leftmost bad word gives the reason. -/
  refuses : ∃ line, t.lines[number - 1]? = some line ∧ Row.Refused line.words cause
  /-- The lines before it are read, each by itself. -/
  earlier : List.Forall₂ (fun line row => (read line).result = .ok [row])
    (t.lines.take (number - 1)) rows

/-- The warnings about rows on consecutive lines, from the first line on: one for each
row that has not sixteen bytes, with its line, its address and the number of its bytes. -/
def oddRows (rows : List Row) : List Notice :=
  ((rows.zipIdx 1).filter fun p => p.1.bytes.length ≠ 16).map fun p =>
    .oddRow p.2 p.1.address p.1.bytes.length

theorem noticesFrom_format (rows : List Row) : format.noticesFrom 1 rows = oddRows rows := by
  unfold LineFormat.noticesFrom oddRows
  induction rows.zipIdx 1 with
  | nil => rfl
  | cons p ps ih =>
    rw [List.flatMap_cons, ih]
    show (if p.1.bytes.length = 16 then [] else _) ++ _ = _
    by_cases hsize : p.1.bytes.length = 16 <;> simp [hsize]

theorem refusedAt_iff :
    RefusedAt t number cause rows ↔ format.FirstBadLine t.lines number cause rows := by
  have hearlier := forall₂_read_line_iff rows (List.take_subset (number - 1) t.lines)
  constructor
  · rintro ⟨hpos, ⟨line, hline, hrefused⟩, h⟩
    exact ⟨hpos, ⟨line, hline, Row.ofLine_eq_error_iff.2 hrefused⟩, hearlier.1 h⟩
  · rintro ⟨hpos, ⟨line, hline, hrefused⟩, h⟩
    exact ⟨hpos, ⟨line, hline, Row.ofLine_eq_error_iff.1 hrefused⟩, hearlier.2 h⟩

/-- **A dump is refused at the first bad word of its first bad line**, and at no other
place. What is noticed then are the rows of another size before that line. A dump with
a bad line is refused. One that is accepted has a row on each line; all rows of another
size are noticed then, and in the end the number of the rows. -/
theorem refuses_first_bad_word (t : Text) :
    (∀ e, (read t).result = .error e → ∃ number cause rows, e = .row number cause ∧
      RefusedAt t number cause rows ∧ (read t).notices = oddRows rows) ∧
    (∀ number cause rows, RefusedAt t number cause rows →
      (read t).result = .error (.row number cause)) ∧
    (∀ line ∈ t.lines, Row.Faulty line.words → ∃ e, (read t).result = .error e) ∧
    ∀ rows, (read t).result = .ok rows →
      List.Forall₂ (fun line row => (read line).result = .ok [row]) t.lines rows ∧
        (read t).notices = oddRows rows ++ [.rowsRead rows.length] := by
  simp only [forall₂_read_line_iff _ (List.Subset.refl t.lines), refusedAt_iff, read_eq_read t]
  refine ⟨?_, ?_, ?_, ?_⟩
  · intro e h
    obtain ⟨number, cause, rows, rfl, hbad⟩ := LineFormat.read_eq_error_iff.1 h
    refine ⟨number, cause, rows, rfl, hbad, ?_⟩
    rw [LineFormat.read_of_firstBadLine hbad, noticesFrom_format]
  · intro number cause rows hbad
    rw [LineFormat.read_of_firstBadLine hbad]
    rfl
  · intro line hline hfaulty
    cases hread : (format.read t).result with
    | error e => exact ⟨e, rfl⟩
    | ok rows =>
      have haccepts := LineFormat.read_eq_ok_iff.1 hread
      obtain ⟨row, hrow⟩ := (format.exists_accepts_iff t.lines).1 ⟨rows, haccepts⟩ line hline
      exact absurd hfaulty (Row.not_faulty_of_ofLine_eq_ok hrow)
  · intro rows h
    have haccepts := LineFormat.read_eq_ok_iff.1 h
    refine ⟨haccepts, ?_⟩
    rw [LineFormat.read_of_accepts haccepts, noticesFrom_format]
    rfl

/-- The leftmost bad word of the second line, in front of another one and of a bad line. -/
example : (read "0200 01\n0210 02 100 zz\n\n".toList).result =
    .error (.row 2 (.badWord (.byte 1) "100".toList (.outOfRange 0x100 0xff))) := by
  decide +kernel

end Dump

end MemoryListing
