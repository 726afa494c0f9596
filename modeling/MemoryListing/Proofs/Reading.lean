import MemoryListing.Proofs.FirstBadLine

/-!
# What a text was read as

A dump that is accepted pairs its lines with rows, and a row pairs the words of
its line with numbers. Reading says so one word and one line at a time; here it
is said of whole lines (`Row.ofLine_eq_ok_iff`, `Symbol.ofLine_eq_ok_iff`) and of
whole texts (`Dump.read_eq_ok_iff`, `SymbolTable.read_eq_ok_iff`), with
`List.Forall₂` for the pairing, as of all texts that are read line by line. What is
noticed on the way is said apart from the result, in the order of the lines.
-/

namespace MemoryListing

/-- A converted result is a success exactly where there was one to convert. -/
theorem map_eq_ok_iff {ε α β : Type} {f : α → β} {x : Except ε α} {b : β} :
    x.map f = .ok b ↔ ∃ a, x = .ok a ∧ f a = b := by
  cases x with
  | error e => exact ⟨nofun, nofun⟩
  | ok a =>
    constructor
    · intro h
      exact ⟨a, rfl, Except.ok.inj h⟩
    · rintro ⟨_, h, rfl⟩
      cases h
      rfl

/-- A converted result is a failure exactly where there was one to convert. -/
theorem map_eq_error_iff {ε α β : Type} {f : α → β} {x : Except ε α} {e : ε} :
    x.map f = .error e ↔ x = .error e := by
  cases x with
  | error e' =>
    show Except.error e' = Except.error e ↔ _
    rw [Except.error.injEq, Except.error.injEq]
  | ok a => exact ⟨nofun, nofun⟩

namespace Hex

/-- A number within a limit. -/
theorem readUpTo_eq_ok_iff {limit v : UInt32} {word : Text} :
    readUpTo limit word = .ok v ↔ read word = .ok v ∧ v ≤ limit := by
  unfold readUpTo
  cases read word with
  | error e => exact ⟨nofun, nofun⟩
  | ok u =>
    dsimp only
    split
    next h =>
      rw [Except.ok.injEq, Except.ok.injEq]
      exact ⟨fun hv => ⟨hv, hv ▸ h⟩, fun hv => hv.1⟩
    next h =>
      refine ⟨nofun, fun hv => absurd hv.2 ?_⟩
      rwa [← Except.ok.inj hv.1]

/-- A number that is converted once it is known to be within a limit, by a
conversion that loses nothing there. -/
theorem map_readUpTo_eq_ok_iff {β : Type} {limit : UInt32} {narrow : UInt32 → β}
    {widen : β → UInt32} (hle : ∀ b, widen b ≤ limit) (hnw : ∀ b, narrow (widen b) = b)
    (hwn : ∀ v ≤ limit, widen (narrow v) = v) {word : Text} {b : β} :
    (readUpTo limit word).map narrow = .ok b ↔ read word = .ok (widen b) := by
  rw [map_eq_ok_iff]
  constructor
  · rintro ⟨v, h, rfl⟩
    obtain ⟨hv, hlimit⟩ := readUpTo_eq_ok_iff.1 h
    rw [hv, hwn v hlimit]
  · intro h
    exact ⟨widen b, readUpTo_eq_ok_iff.2 ⟨h, hle b⟩, hnw b⟩

/-- An address is a written number of 16 bits. -/
theorem readAddress_eq_ok_iff {word : Text} {a : UInt16} :
    readAddress word = .ok a ↔ read word = .ok a.toUInt32 := by
  refine map_readUpTo_eq_ok_iff (fun b => ?_) (fun b => UInt16.toUInt16_toUInt32 b)
    (fun v hv => ?_)
  · rw [UInt32.le_iff_toNat_le, UInt16.toNat_toUInt32]
    exact Nat.le_of_lt_succ b.toNat_lt_size
  · rw [← UInt32.toNat_inj, UInt16.toNat_toUInt32, UInt32.toNat_toUInt16]
    exact Nat.mod_eq_of_lt (Nat.lt_succ_of_le (UInt32.le_iff_toNat_le.1 hv))

/-- A data byte is a written number of 8 bits. -/
theorem readByte_eq_ok_iff {word : Text} {b : UInt8} :
    readByte word = .ok b ↔ read word = .ok b.toUInt32 := by
  refine map_readUpTo_eq_ok_iff (fun b => ?_) (fun b => UInt8.toUInt8_toUInt32 b)
    (fun v hv => ?_)
  · rw [UInt32.le_iff_toNat_le, UInt8.toNat_toUInt32]
    exact Nat.le_of_lt_succ b.toNat_lt_size
  · rw [← UInt32.toNat_inj, UInt8.toNat_toUInt32, UInt32.toNat_toUInt8]
    exact Nat.mod_eq_of_lt (Nat.lt_succ_of_le (UInt32.le_iff_toNat_le.1 hv))

end Hex

namespace Row

/-- The bytes of a row are those of its words, one by one. -/
theorem bytesOfWords_eq_ok_iff {offset : Nat} {ws : List Text} {bs : List UInt8} :
    bytesOfWords offset ws = .ok bs
      ↔ List.Forall₂ (fun w b => Hex.readByte w = .ok b) ws bs := by
  induction ws generalizing offset bs with
  | nil =>
    rw [List.forall₂_nil_left_iff, bytesOfWords, Except.ok.injEq]
    exact eq_comm
  | cons w ws ih =>
    rw [List.forall₂_cons_left_iff, bytesOfWords]
    cases hw : Hex.readByte w with
    | error e => exact ⟨nofun, nofun⟩
    | ok b =>
      show (bytesOfWords (offset + 1) ws).map (b :: ·) = .ok bs ↔ _
      rw [map_eq_ok_iff]
      constructor
      · rintro ⟨bs', h, rfl⟩
        exact ⟨b, bs', rfl, ih.1 h, rfl⟩
      · rintro ⟨_, bs', hb, h, rfl⟩
        cases hb
        exact ⟨bs', ih.2 h, rfl⟩

/-- **A line is a row** if it has words, the first of them an address and the
others data bytes. -/
theorem ofLine_eq_ok_iff {line : Text} {r : Row} :
    ofLine line = .ok r
      ↔ ∃ w ws, line.words = w :: ws ∧ Hex.readAddress w = .ok r.address
        ∧ List.Forall₂ (fun w b => Hex.readByte w = .ok b) ws r.bytes := by
  unfold ofLine
  cases line.words with
  | nil => exact ⟨nofun, nofun⟩
  | cons w ws =>
    simp only [ofWords]
    cases hw : Hex.readAddress w with
    | error e =>
      refine ⟨nofun, fun ⟨_, _, h, ha, _⟩ => ?_⟩
      cases h
      cases hw.symm.trans ha
    | ok a =>
      show (bytesOfWords 0 ws).map (fun bs => (⟨a, bs⟩ : Row)) = .ok r ↔ _
      rw [map_eq_ok_iff]
      constructor
      · rintro ⟨bs, h, rfl⟩
        exact ⟨w, ws, rfl, hw, bytesOfWords_eq_ok_iff.1 h⟩
      · rintro ⟨_, _, h, ha, hb⟩
        cases h
        cases hw.symm.trans ha
        exact ⟨r.bytes, bytesOfWords_eq_ok_iff.2 hb, rfl⟩

end Row

namespace Symbol

/-- **A line is a symbol** if it has two words, the second of them an address. -/
theorem ofLine_eq_ok_iff {line : Text} {s : Symbol} :
    ofLine line = .ok s
      ↔ ∃ name w, line.words = [name, w] ∧ s.name = name.lowercase
        ∧ Hex.readAddress w = .ok s.address := by
  unfold ofLine
  rcases line.words with _ | ⟨name, _ | ⟨w, _ | ⟨w', ws⟩⟩⟩
  · exact ⟨nofun, nofun⟩
  · exact ⟨nofun, nofun⟩
  · simp only [ofWords]
    cases hw : Hex.readAddress w with
    | error e =>
      refine ⟨nofun, fun ⟨_, _, h, _, ha⟩ => ?_⟩
      cases h
      cases hw.symm.trans ha
    | ok a =>
      constructor
      · intro h
        cases h
        exact ⟨name, w, rfl, rfl, hw⟩
      · rintro ⟨_, _, h, hn, ha⟩
        cases h
        cases hw.symm.trans ha
        rw [← hn]
  · exact ⟨nofun, nofun⟩

end Symbol

namespace Dump

/-- **A dump is accepted** if all its lines are rows. -/
theorem read_eq_ok_iff {t : Text} {rows : List Row} :
    (read t).result = .ok rows
      ↔ List.Forall₂ (fun l r => Row.ofLine l = .ok r) t.lines rows := by
  rw [read_eq_read]
  exact LineFormat.read_eq_ok_iff

/-- What is noticed about an accepted dump: its rows of another size in the order
of the lines, and in the end the number of rows. -/
theorem notices_read_of_eq_ok {t : Text} {rows : List Row}
    (h : (read t).result = .ok rows) :
    (read t).notices
      = ((rows.zipIdx 1).flatMap fun p => sizeNotices p.2 p.1)
        ++ [.rowsRead rows.length] := by
  rw [read_eq_read] at h ⊢
  rw [LineFormat.read_of_accepts (LineFormat.read_eq_ok_iff.1 h)]
  rfl

/-- **A dump without a warning has rows of the expected size only.** -/
theorem length_bytes_of_no_warning {t : Text} {rows : List Row}
    (h : (read t).result = .ok rows) (hw : ∀ n ∈ (read t).notices, n.level ≠ .warn) :
    ∀ r ∈ rows, r.bytes.length = rowSize := by
  intro r hr
  by_contra hsize
  obtain ⟨i, hi, rfl⟩ := List.getElem_of_mem hr
  -- the row would be noticed with the number of its line
  refine hw (.oddRow (1 + i) rows[i].address rows[i].bytes.length) ?_ rfl
  rw [notices_read_of_eq_ok h]
  refine List.mem_append_left _ (List.mem_flatMap.2 ⟨(rows[i], 1 + i), ?_, ?_⟩)
  · refine List.mem_of_getElem? (i := i) ?_
    rw [List.getElem?_zipIdx, List.getElem?_eq_getElem hi]
    rfl
  · simp only [sizeNotices, if_neg hsize, List.mem_singleton]

end Dump

namespace SymbolTable

/-- **A symbol list is accepted** if all its lines are symbols. -/
theorem read_eq_ok_iff {t : Text} {symbols : List Symbol} :
    (read t).result = .ok symbols
      ↔ List.Forall₂ (fun l s => Symbol.ofLine l = .ok s) t.lines symbols := by
  rw [read_eq_read]
  exact LineFormat.read_eq_ok_iff

end SymbolTable

end MemoryListing
