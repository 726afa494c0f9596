import MemoryListing.Proofs.BadSymbols
import MemoryListing.Proofs.NormalNames
import MemoryListing.Proofs.PrintedNumbers
import MemoryListing.Proofs.Unambiguity

/-!
# A complaint tells the error

What is wrong with a dump or a symbol list is put into a sentence, and the sentence repeats
the word that is wrong. A word can be anything without blanks: it may hold quotes, colons
and pieces of other complaints. Still the sentence tells what it is about. If two
complaints are worded alike, they are the same, down to the byte that is no digit, and it
was the same reader that made them: `InputError.same_of_same_message`.

A complaint is put together in layers, and each of them is taken apart by itself. A decimal
number ends at the first character that is no digit (`Text.decimal_append_cons_inj`), a
printed hexadecimal one at the first that is none of the alphabet. A word ends with the
colon behind its closing quote, since that is where the first blank stands
(`Text.quoted_append_inj`). A byte is shown in a way that can be read back
(`Text.byteShownAs_shownByte`). And wherever one of several things can be said, they begin
with different letters.

That a complaint repeats a word is all that has to be known about it
(`InputError.RepeatsWord`), and the complaints about a text all do, because its words come
from its lines.
-/

namespace MemoryListing

/-! ## Numbers, words and bytes in a sentence -/

namespace Text

variable {m n : Nat} {a b : Char} {u v w w' : Text}

theorem decimal_injective : Function.Injective decimal := by
  intro m n h
  have hread := congrArg (fun ds => Nat.ofDigitChars 10 ds 0) h
  simpa only [decimal, Nat.ofDigitChars_ten_toDigits] using hread

/-- A decimal number ends at the first character that is no digit. -/
theorem decimal_append_cons_inj (ha : a.isDigit = false) (hb : b.isDigit = false)
    (h : decimal m ++ a :: u = decimal n ++ b :: v) : m = n ∧ u = v := by
  obtain ⟨hdecimal, -, hrest⟩ := append_cons_inj (p := fun c => c.isDigit = true)
    (fun _ hc => isDigit_of_mem_decimal hc) (fun _ hc => isDigit_of_mem_decimal hc)
    (Bool.eq_false_iff.1 ha) (Bool.eq_false_iff.1 hb) h
  exact ⟨decimal_injective hdecimal, hrest⟩

/-- **A word between quotes ends where its closing quote, a colon and a blank stand**, whatever
it holds itself. -/
theorem quoted_append_inj (hw : w.IsWord) (hw' : w'.IsWord)
    (h : w ++ ("': ".toList ++ u) = w' ++ ("': ".toList ++ v)) : w = w' ∧ u = v := by
  have hends : ∀ {w : Text}, w.IsWord → ∀ c ∈ w ++ ['\'', ':'], isBlank c = false :=
    fun hw => (hw.append (by decide)).2
  have hsplit : ∀ w u : Text, w ++ ("': ".toList ++ u) = (w ++ ['\'', ':']) ++ ' ' :: u :=
    fun w u => (List.append_assoc w ['\'', ':'] (' ' :: u)).symm
  rw [hsplit, hsplit] at h
  obtain ⟨hquoted, -, hrest⟩ := append_cons_inj (hends hw) (hends hw') (by decide) (by decide) h
  exact ⟨List.append_cancel_right hquoted, hrest⟩

/-- The byte that is shown as a text, if there is one. -/
def byteShownAs : Text → Option UInt8
  | [c] => some (UInt8.ofNat c.toNat)
  | ['\\', 't'] => some 0x09
  | ['\\', 'r'] => some 0x0d
  | ['\\', 'n'] => some 0x0a
  -- the quotes and the backslash stand for themselves
  | ['\\', c] => some (UInt8.ofNat c.toNat)
  | '\\' :: 'x' :: ds => (Hex.readByte ds).toOption
  | _ => none

/-- **A byte that is shown in a message can be read back.** -/
@[simp] theorem byteShownAs_shownByte (b : UInt8) : byteShownAs (shownByte b) = some b := by
  have hall : ∀ n < 256, byteShownAs (shownByte (UInt8.ofNat n)) = some (UInt8.ofNat n) := by
    decide +kernel
  have h := hall b.toNat b.toNat_lt_size
  rwa [UInt8.ofNat_toNat] at h

theorem shownByte_injective : Function.Injective shownByte := by
  intro b b' h
  have hread := byteShownAs_shownByte b
  rw [h, byteShownAs_shownByte] at hread
  exact (Option.some.inj hread).symm

end Text

/-! ## What is wrong with a word -/

namespace Hex

/-- **The complaints about written numbers differ.** -/
theorem Error.message_injective : Function.Injective Error.message := by
  intro e e' h
  cases e <;> cases e' <;> unfold message at h
  case badDigit.badDigit b b' =>
    rw [Text.shownByte_injective (List.append_cancel_left (List.append_cancel_right h))]
  all_goals first | rfl | simp at h

/-- Both numbers in a complaint about a number that is too great are found again. -/
theorem NumberError.outOfRange_message_inj {v v' limit limit' : UInt32}
    (h : (outOfRange v limit).message = (outOfRange v' limit').message) :
    v = v' ∧ limit = limit' := by
  have hshape : ∀ v limit : UInt32, (outOfRange v limit).message
      = "value 0x".toList ++ (digits 0 v.toNat ++ ' ' :: ("exceeds maximum 0x".toList
        ++ digits 0 limit.toNat)) := by
    intro v limit
    unfold message prefixed
    simp
  rw [hshape, hshape] at h
  obtain ⟨hvalue, -, hrest⟩ :=
    digits_append_cons_inj (by decide) (by decide) (List.append_cancel_left h)
  have hlimit := List.append_cancel_left hrest
  exact ⟨UInt32.toNat_inj.1 (digits_injective v.toNat_lt_size v'.toNat_lt_size hvalue),
    UInt32.toNat_inj.1 (digits_injective limit.toNat_lt_size limit'.toNat_lt_size hlimit)⟩

/-- A number that is too great is complained about in other words than a text that is no
number. -/
theorem NumberError.notHex_message_ne {e : Error} {v limit : UInt32} :
    (notHex e).message ≠ (outOfRange v limit).message := by
  intro h
  unfold message prefixed at h
  cases e <;> unfold Error.message at h <;> simp at h

/-- **The complaints about numbers of limited size differ.** -/
theorem NumberError.message_injective : Function.Injective NumberError.message := by
  intro e e' h
  cases e with
  | notHex cause =>
    cases e' with
    | notHex cause' => rw [Error.message_injective h]
    | outOfRange v' limit' => exact absurd h notHex_message_ne
  | outOfRange v limit =>
    cases e' with
    | notHex cause' => exact absurd h.symm notHex_message_ne
    | outOfRange v' limit' =>
      obtain ⟨rfl, rfl⟩ := outOfRange_message_inj h
      rfl

end Hex

/-! ## What is wrong with a line -/

/-- The name of a field ends at the blank in front of the word. -/
theorem RowField.name_append_inj {field field' : RowField} {u v : Text}
    (h : field.name ++ (" '".toList ++ u) = field'.name ++ (" '".toList ++ v)) :
    field = field' ∧ u = v := by
  unfold name at h
  cases field with
  | address =>
    cases field' with
    | address => exact ⟨rfl, List.append_cancel_left (List.append_cancel_left h)⟩
    | byte offset' => simp at h
  | byte offset =>
    cases field' with
    | address => simp at h
    | byte offset' =>
      simp only [List.append_assoc] at h
      obtain ⟨rfl, hrest⟩ :=
        Text.decimal_append_cons_inj rfl rfl (List.append_cancel_left h)
      exact ⟨rfl, (List.cons.inj hrest).2⟩

/-- The word that a complaint about a row repeats is a word. -/
def RowError.RepeatsWord : RowError → Prop
  | .noAddress => True
  | .badWord _ word _ => word.IsWord

/-- The word that a complaint about a symbol repeats is a word. -/
def SymbolError.RepeatsWord : SymbolError → Prop
  | .wordCount _ => True
  | .badAddress word _ => word.IsWord

/-- **The complaints about rows differ.** -/
theorem RowError.message_inj {e e' : RowError} (he : e.RepeatsWord) (he' : e'.RepeatsWord)
    (h : e.message = e'.message) : e = e' := by
  unfold message at h
  cases e with
  | noAddress =>
    cases e' with
    | noAddress => rfl
    | badWord field' word' cause' => simp at h
  | badWord field word cause =>
    cases e' with
    | noAddress => simp at h
    | badWord field' word' cause' =>
      simp only [List.append_assoc] at h
      obtain ⟨rfl, hrest⟩ := RowField.name_append_inj (List.append_cancel_left h)
      obtain ⟨rfl, hcause⟩ := Text.quoted_append_inj he he' hrest
      rw [Hex.NumberError.message_injective hcause]

/-- **The complaints about symbols differ.** -/
theorem SymbolError.message_inj {e e' : SymbolError} (he : e.RepeatsWord)
    (he' : e'.RepeatsWord) (h : e.message = e'.message) : e = e' := by
  unfold message at h
  cases e with
  | wordCount found =>
    cases e' with
    | wordCount found' =>
      simp only [List.append_assoc] at h
      obtain ⟨rfl, -⟩ := Text.decimal_append_cons_inj rfl rfl (List.append_cancel_left h)
      rfl
    | badAddress word' cause' => simp at h
  | badAddress word cause =>
    cases e' with
    | wordCount found' => simp at h
    | badAddress word' cause' =>
      simp only [List.append_assoc] at h
      obtain ⟨rfl, hcause⟩ := Text.quoted_append_inj he he' (List.append_cancel_left h)
      rw [Hex.NumberError.message_injective hcause]

/-! ## What is wrong with a text -/

namespace InputError

/-- The word that a complaint about a text repeats is a word. -/
def RepeatsWord : InputError → Prop
  | .unreadable _ => False
  | .row _ cause => cause.RepeatsWord
  | .symbol _ cause => cause.RepeatsWord

/-- The number of a line ends at the colon. -/
theorem line_append_inj {opening m m' : Text} {line line' : Nat}
    (h : opening ++ Text.decimal line ++ ": ".toList ++ m
      = opening ++ Text.decimal line' ++ ": ".toList ++ m') : line = line' ∧ m = m' := by
  simp only [List.append_assoc] at h
  obtain ⟨rfl, hrest⟩ := Text.decimal_append_cons_inj rfl rfl (List.append_cancel_left h)
  exact ⟨rfl, (List.cons.inj hrest).2⟩

/-- **The complaints about texts differ.** -/
theorem message_inj {e e' : InputError} (he : e.RepeatsWord) (he' : e'.RepeatsWord)
    (h : e.message = e'.message) : e = e' := by
  unfold message at h
  cases e with
  | unreadable => exact absurd he id
  | row line cause =>
    cases e' with
    | unreadable => exact absurd he' id
    | row line' cause' =>
      obtain ⟨rfl, hcause⟩ := line_append_inj h
      rw [RowError.message_inj he he' hcause]
    | symbol line' cause' => simp at h
  | symbol line cause =>
    cases e' with
    | unreadable => exact absurd he' id
    | row line' cause' => simp at h
    | symbol line' cause' =>
      obtain ⟨rfl, hcause⟩ := line_append_inj h
      rw [SymbolError.message_inj he he' hcause]

end InputError

/-- A dump that is refused is refused for a row, and the complaint repeats a word. -/
theorem Dump.exists_row_of_read_eq_error {t : Text} {e : InputError}
    (h : (read t).result = .error e) :
    ∃ line cause, e = .row line cause ∧ cause.RepeatsWord := by
  rw [read_eq_read] at h
  obtain ⟨line, cause, rows, rfl, hbad⟩ := LineFormat.read_eq_error_iff.1 h
  refine ⟨line, cause, rfl, ?_⟩
  obtain ⟨l, -, hrefused⟩ := hbad.refuses
  cases Row.ofLine_eq_error_iff.1 hrefused with
  | noAddress => exact trivial
  | badWord hword => exact Text.isWord_of_mem_words (List.mem_of_getElem? hword)

/-- A symbol list that is refused is refused for a symbol, and the complaint repeats a
word. -/
theorem SymbolTable.exists_symbol_of_read_eq_error {t : Text} {e : InputError}
    (h : (read t).result = .error e) :
    ∃ line cause, e = .symbol line cause ∧ cause.RepeatsWord := by
  rw [read_eq_read] at h
  obtain ⟨line, cause, symbols, rfl, hbad⟩ := LineFormat.read_eq_error_iff.1 h
  refine ⟨line, cause, rfl, ?_⟩
  obtain ⟨l, -, hrefused⟩ := hbad.refuses
  cases Symbol.ofLine_eq_error_iff.1 hrefused with
  | wordCount => exact trivial
  | badAddress hwords =>
    refine Text.isWord_of_mem_words (t := l) ?_
    rw [hwords]
    exact List.mem_cons_of_mem _ List.mem_cons_self

/-- **Which complaint it is tells which reader made it**: rows are refused in dumps, and
symbols in symbol lists. -/
theorem InputError.refused_iff {t : Text} {e : InputError}
    (h : (Dump.read t).result = .error e ∨ (SymbolTable.read t).result = .error e) :
    ((Dump.read t).result = .error e ↔ ∃ line cause, e = .row line cause) ∧
      ((SymbolTable.read t).result = .error e ↔ ∃ line cause, e = .symbol line cause) := by
  have hrow : (Dump.read t).result = .error e → ∃ line cause, e = .row line cause := by
    intro h
    obtain ⟨line, cause, rfl, -⟩ := Dump.exists_row_of_read_eq_error h
    exact ⟨line, cause, rfl⟩
  have hsymbol : (SymbolTable.read t).result = .error e → ∃ line cause, e = .symbol line cause := by
    intro h
    obtain ⟨line, cause, rfl, -⟩ := SymbolTable.exists_symbol_of_read_eq_error h
    exact ⟨line, cause, rfl⟩
  refine ⟨⟨hrow, ?_⟩, ⟨hsymbol, ?_⟩⟩
  · rintro ⟨line, cause, rfl⟩
    refine h.resolve_right fun h => ?_
    obtain ⟨line', cause', he⟩ := hsymbol h
    cases he
  · rintro ⟨line, cause, rfl⟩
    refine h.resolve_left fun h => ?_
    obtain ⟨line', cause', he⟩ := hrow h
    cases he

/-- The complaint about a text repeats a word. -/
theorem InputError.repeatsWord {t : Text} {e : InputError}
    (h : (Dump.read t).result = .error e ∨ (SymbolTable.read t).result = .error e) :
    e.RepeatsWord := by
  rcases h with h | h
  · obtain ⟨line, cause, rfl, hrepeats⟩ := Dump.exists_row_of_read_eq_error h
    exact hrepeats
  · obtain ⟨line, cause, rfl, hrepeats⟩ := SymbolTable.exists_symbol_of_read_eq_error h
    exact hrepeats

/-- **A complaint tells what it is about.** If what is said of two texts, read as a dump or
as a symbol list, is worded alike, then the errors are the same, and it was the same reader
that found them. -/
theorem InputError.same_of_same_message {t t' : Text} {e e' : InputError}
    (h : (Dump.read t).result = .error e ∨ (SymbolTable.read t).result = .error e)
    (h' : (Dump.read t').result = .error e' ∨ (SymbolTable.read t').result = .error e')
    (hmessage : e.message = e'.message) :
    e = e' ∧ ((Dump.read t).result = .error e ↔ (Dump.read t').result = .error e') ∧
      ((SymbolTable.read t).result = .error e ↔ (SymbolTable.read t').result = .error e') := by
  obtain rfl := message_inj (repeatsWord h) (repeatsWord h') hmessage
  obtain ⟨hrow, hsymbol⟩ := refused_iff h
  obtain ⟨hrow', hsymbol'⟩ := refused_iff h'
  exact ⟨rfl, hrow.trans hrow'.symm, hsymbol.trans hsymbol'.symm⟩

/-- Two texts that share no line are refused for the same word on the same line, in the same
words. The word looks as if its quotes were closed by itself. -/
theorem InputError.same_of_same_message_of_quotes :
    ∃ e e', (Dump.read "0200 01\n0210 ':".toList).result = .error e ∧
      (Dump.read "0 1 2\n\t+0_1 ': zz\n".toList).result = .error e' ∧
      e.message = "failed to parse memory row on line 2: invalid data byte 0 '':': ".toList
        ++ "invalid hex digit '\\''".toList ∧
      e.message = e'.message ∧ e = e' := by
  let e : InputError := .row 2 (.badWord (.byte 0) "':".toList (.notHex (.badDigit 0x27)))
  have h : (Dump.read "0200 01\n0210 ':".toList).result = .error e := by decide +kernel
  have h' : (Dump.read "0 1 2\n\t+0_1 ': zz\n".toList).result = .error e := by decide +kernel
  exact ⟨e, e, h, h', by decide +kernel, rfl, (same_of_same_message (.inl h) (.inl h') rfl).1⟩

end MemoryListing
