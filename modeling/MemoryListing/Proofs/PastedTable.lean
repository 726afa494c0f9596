import MemoryListing.Proofs.SharedAddresses

/-!
# Declared tables that can be pasted

A declared table is there to be pasted into a program. Two things are asked of it
then. An address may be the key of one line only, and whether that is so is noticed
when the table is printed. And what stands between the quotes of a line must be
read as the name of its symbol.

A reader of programs takes a literal from its opening quote on. A backslash takes
the character behind it as an escape, and the first quote that is not taken so
closes the literal (`Text.readLiteral`). Names are printed as they are, so a line
reads back if its name holds neither of the two characters, and only then:
`SymbolTable.keys_and_literals` says so of every table that is printed without a
notice of shared addresses. A list may well be accepted with other names in it
(`SymbolTable.not_pastes_of_quote`).
-/

namespace MemoryListing

namespace Text

/-! ## Literals -/

/-- **What is read of a literal** from behind its opening quote. -/
structure Literal where
  /-- What stands ahead of the closing quote, escapes as they are written. -/
  content : Text
  /-- Whether there is an escape in it. -/
  hasEscape : Bool
  /-- What follows the closing quote. -/
  rest : Text
  deriving DecidableEq

/-- A literal with some more characters at the start of its content. -/
def Literal.push (characters : Text) (escape : Bool) (l : Literal) : Literal :=
  ⟨characters ++ l.content, escape || l.hasEscape, l.rest⟩

/-- Reads what is left of a literal. The next character is taken as an escape if a
backslash stands ahead of it. -/
def readLiteralFrom (taken : Bool) : Text → Option Literal
  | [] => none
  | c :: rest =>
    if taken then (readLiteralFrom false rest).map (.push [c] false)
    else if c = '"' then some ⟨[], false, rest⟩
    else if c = '\\' then (readLiteralFrom true rest).map (.push [c] true)
    else (readLiteralFrom false rest).map (.push [c] false)

/-- **Reads a literal** from behind its opening quote, if it is ever closed. -/
def readLiteral (t : Text) : Option Literal :=
  readLiteralFrom false t

theorem readLiteral_quote (rest : Text) : readLiteral ('"' :: rest) = some ⟨[], false, rest⟩ :=
  rfl

theorem readLiteral_backslash (rest : Text) :
    readLiteral ('\\' :: rest) = (readLiteralFrom true rest).map (.push ['\\'] true) :=
  rfl

/-- A character that is neither a quote nor a backslash is content. -/
theorem readLiteral_cons {c : Char} (hquote : c ≠ '"') (hback : c ≠ '\\') (rest : Text) :
    readLiteral (c :: rest) = (readLiteral rest).map (.push [c] false) := by
  unfold readLiteral
  rw [readLiteralFrom, if_neg Bool.false_ne_true, if_neg hquote, if_neg hback]

/-- Characters that are neither quotes nor backslashes are content up to the quote
behind them. -/
theorem readLiteral_append_quote {name : Text} (hquote : '"' ∉ name) (hback : '\\' ∉ name)
    (rest : Text) : readLiteral (name ++ '"' :: rest) = some ⟨name, false, rest⟩ := by
  induction name with
  | nil => exact readLiteral_quote rest
  | cons c name ih =>
    rw [List.mem_cons, not_or] at hquote hback
    rw [List.cons_append, readLiteral_cons (Ne.symm hquote.1) (Ne.symm hback.1),
      ih hquote.2 hback.2]
    rfl

/-- Content without an escape holds neither quotes nor backslashes. -/
theorem not_mem_content {t : Text} {l : Literal} (h : readLiteral t = some l)
    (hescape : l.hasEscape = false) : '"' ∉ l.content ∧ '\\' ∉ l.content := by
  induction t generalizing l with
  | nil => cases h
  | cons c t ih =>
    by_cases hquote : c = '"'
    · rw [hquote, readLiteral_quote] at h
      cases h
      exact ⟨nofun, nofun⟩
    · by_cases hback : c = '\\'
      · rw [hback, readLiteral_backslash] at h
        obtain ⟨l', -, rfl⟩ := Option.map_eq_some_iff.1 h
        cases hescape
      · rw [readLiteral_cons hquote hback] at h
        obtain ⟨l', hl', rfl⟩ := Option.map_eq_some_iff.1 h
        obtain ⟨hq, hb⟩ := ih hl' hescape
        exact ⟨List.not_mem_cons_of_ne_of_not_mem (Ne.symm hquote) hq,
          List.not_mem_cons_of_ne_of_not_mem (Ne.symm hback) hb⟩

/-- **A name is read back from between quotes** if it holds neither a quote nor a
backslash, and only then. -/
theorem readLiteral_append_quote_iff {name rest : Text} :
    readLiteral (name ++ '"' :: rest) = some ⟨name, false, rest⟩ ↔ '"' ∉ name ∧ '\\' ∉ name :=
  ⟨fun h => not_mem_content h rfl, fun h => readLiteral_append_quote h.1 h.2 rest⟩

end Text

namespace SymbolTable

/-! ## Keys -/

/-- Symbols with different addresses have different keys. -/
theorem nodup_keys {symbols : List Symbol} (h : (symbols.map (·.address)).Nodup) :
    ((symbols.map lineText).map (·.take 6)).Nodup := by
  rw [List.map_map]
  refine List.pairwise_map.2 ((List.pairwise_map.1 h).imp fun {a b} hab hkey => hab ?_)
  have hkey : (lineText a).take 6 = (lineText b).take 6 := hkey
  rwa [take_lineText, take_lineText, addressText_inj] at hkey

/-! ## Lines -/

/-- **A line can be pasted for a symbol**: behind the key stands a literal that is
closed right before the comma at the end of the line, has no escape in it and holds
the name of the symbol. -/
def Pastes (line : Text) (s : Symbol) : Prop :=
  ∃ body, line = addressText s ++ ": \"".toList ++ body ∧
    Text.readLiteral body = some ⟨s.name, false, [',']⟩

/-- **The line of a symbol can be pasted** if the name holds neither a quote nor a
backslash, and only then. -/
theorem pastes_lineText_iff {s : Symbol} :
    Pastes (lineText s) s ↔ '"' ∉ s.name ∧ '\\' ∉ s.name := by
  have hline : lineText s = addressText s ++ ": \"".toList ++ (s.name ++ ['"', ',']) := by
    unfold lineText
    rw [List.append_assoc _ s.name]
    rfl
  have hname : Text.readLiteral (s.name ++ ['"', ',']) = some ⟨s.name, false, [',']⟩ ↔
      '"' ∉ s.name ∧ '\\' ∉ s.name := Text.readLiteral_append_quote_iff
  rw [← hname]
  constructor
  · rintro ⟨body, hbody, hread⟩
    rw [hline] at hbody
    rwa [← List.append_cancel_left hbody] at hread
  · intro hread
    exact ⟨_, hline, hread⟩

/-- **A declared table that is printed without a notice of shared addresses** has
lines with different keys, and the line of a symbol can be pasted if and only if the
name holds neither a quote nor a backslash. This is so for every list that is
accepted. -/
theorem keys_and_literals {t : Text} {symbols : List Symbol}
    (h : (read t).result = .ok symbols)
    (hnotice : ∀ a, Notice.sharedAddress a ∉ (print .wrapped (sort symbols)).notices) :
    ∃ lines : List Text,
      (print .wrapped (sort symbols)).result.splitOn '\n'
        = openingLine :: (lines ++ [closingLine]) ++ [[]] ∧
      (lines.map (·.take 6)).Nodup ∧
      List.Forall₂ (fun line s => Shows line s ∧
        (Pastes line s ↔ '"' ∉ s.name ∧ '\\' ∉ s.name)) lines (sort symbols) := by
  refine ⟨(sort symbols).map lineText, (splitOn_listing (newline_not_mem_name h)).2,
    nodup_keys (no_sharedAddress_iff.1 hnotice), ?_⟩
  rw [List.forall₂_map_left_iff]
  exact List.forall₂_same.2 fun s _ => ⟨shows_lineText s, pastes_lineText_iff⟩

/-- A name like any other, and one with a quote in it. -/
theorem keys_and_literals_of_quote :
    let t : Text := "loop 0216\nA\"B 0200\n".toList
    let symbols : List Symbol := [⟨"loop".toList, 0x216⟩, ⟨"a\"b".toList, 0x200⟩]
    ((read t).result = .ok symbols ∧
      ∀ a, Notice.sharedAddress a ∉ (print .wrapped (sort symbols)).notices) ∧
      ∃ lines : List Text,
        (print .wrapped (sort symbols)).result.splitOn '\n'
          = openingLine :: (lines ++ [closingLine]) ++ [[]] ∧
        (lines.map (·.take 6)).Nodup ∧
        List.Forall₂ (fun line s => Shows line s ∧
          (Pastes line s ↔ '"' ∉ s.name ∧ '\\' ∉ s.name)) lines (sort symbols) := by
  intro t symbols
  have h : (read t).result = .ok symbols := by decide +kernel
  have hnotice : ∀ a, Notice.sharedAddress a ∉ (print .wrapped (sort symbols)).notices := by
    rw [no_sharedAddress_iff, ((sort_perm symbols).map _).nodup_iff]
    decide
  exact ⟨⟨h, hnotice⟩, keys_and_literals h hnotice⟩

/-- **Not every table that is printed without a notice can be pasted**: a quote in a
name closes the literal early. -/
theorem not_pastes_of_quote :
    ¬ ∀ (t : Text) (symbols : List Symbol), (read t).result = .ok symbols →
      (∀ a, Notice.sharedAddress a ∉ (print .wrapped (sort symbols)).notices) →
      ∃ lines : List Text,
        (print .wrapped (sort symbols)).result.splitOn '\n'
          = openingLine :: (lines ++ [closingLine]) ++ [[]] ∧
        (lines.map (·.take 6)).Nodup ∧ List.Forall₂ Pastes lines (sort symbols) := by
  intro hall
  set s : Symbol := ⟨"a\"b".toList, 0x200⟩
  have hread : (read "a\"b 200".toList).result = .ok [s] := by decide +kernel
  have hsort : sort [s] = [s] := List.mergeSort_singleton s
  have hnotice : ∀ a, Notice.sharedAddress a ∉ (print .wrapped (sort [s])).notices := by
    rw [hsort, no_sharedAddress_iff]
    exact List.nodup_singleton _
  obtain ⟨lines, hsplit, -, hpastes⟩ := hall _ _ hread hnotice
  -- the only line is that of the symbol
  have hlines : lines = [lineText s] := by
    have h := (splitOn_listing (newline_not_mem_name hread)).2.symm.trans hsplit
    rw [hsort] at h
    exact (List.append_cancel_right (List.cons.inj (List.append_cancel_right h)).2).symm
  rw [hlines, hsort] at hpastes
  have hquote := (pastes_lineText_iff.1 (List.forall₂_cons.1 hpastes).1).1
  exact hquote (by decide)

end SymbolTable

end MemoryListing
