import MemoryListing.Proofs.SoundStarts

/-!
# How a number may be written

A number has many spellings: digits of either case, leading zeros as many as one likes,
signs in front or none, underscores between digits. `Hex.Spells` is the grammar of all
of them, with the number that is written, and nothing in it speaks of reading. The
reader accepts the spellings of numbers of 32 bits and gives their number
(`Hex.read_of_spells`), and it accepts no other text (`Hex.spells_of_read_eq_ok`).

The grammar builds a run of digits up from the left, as the reader meets it, so a run is
a sound start at every stage (`Hex.Run.sound`). The other way about, a sound start that
ends in a digit is a run, perhaps with an underscore in front (`Hex.exists_run_of_sound`).
-/

namespace MemoryListing

namespace Hex

/-- **A run of digits** with their values. A single underscore may stand between two
digits. -/
inductive Run : Text → List Nat → Prop where
  | digit {c : Char} {d : Nat} (hd : digitValue? c = some d) : Run [c] [d]
  | next {t : Text} {ds : List Nat} {c : Char} {d : Nat} (ht : Run t ds)
      (hd : digitValue? c = some d) : Run (t ++ [c]) (ds ++ [d])
  | separated {t : Text} {ds : List Nat} {c : Char} {d : Nat} (ht : Run t ds)
      (hd : digitValue? c = some d) : Run (t ++ ['_', c]) (ds ++ [d])

/-- **A text spells a number**: a plus sign, the sign of the base and a run of digits, the
signs only if one likes. An underscore may stand between the sign of the base and the
first digit. The number is the value of the digits to the base sixteen. -/
def Spells (t : Text) (n : Nat) : Prop :=
  ∃ (sign base separator digits : Text) (values : List Nat),
    t = sign ++ base ++ (separator ++ digits) ∧
    (sign = [] ∨ sign = "+".toList) ∧
    (base = [] ∨ base = "0x".toList ∨ base = "0X".toList) ∧
    (separator = [] ∨ separator = "_".toList ∧ base ≠ []) ∧
    Run digits values ∧ n = Nat.ofDigits 16 values.reverse

/-! ## Digits -/

/-- A property of digits is checked for the characters of the ASCII range. -/
theorem forall_digit {p : Char → Prop} [DecidablePred p]
    (h : ∀ n < 0x80, (digitValue? (Char.ofNat n)).isSome → p (Char.ofNat n)) {c : Char}
    (hc : (digitValue? c).isSome) : p c := by
  obtain ⟨d, hd⟩ := Option.isSome_iff_exists.1 hc
  have hp := h c.toNat (toNat_lt_of_digitValue? hd)
  rw [Char.ofNat_toNat] at hp
  exact hp hc

/-- A digit is one byte. -/
theorem exists_bytes_digit {c : Char} {d : Nat} (h : digitValue? c = some d) :
    ∃ b : UInt8, Text.bytes [c] = [b] ∧ b.toChar = c := by
  obtain ⟨b, bs, hbytes, ⟨-, hb, hbs⟩ | ⟨hge, -⟩⟩ := Text.exists_utf8EncodeChar_eq_cons c
  · refine ⟨b, ?_, hb⟩
    rw [← hbs, ← hbytes]
    exact List.append_nil _
  · exact absurd (toNat_lt_of_digitValue? h) (Nat.not_lt.2 hge)

/-! ## The characters of a run -/

theorem Run.ne_nil {t : Text} {ds : List Nat} (h : Run t ds) : t ≠ [] := by
  cases h with
  | digit => exact List.cons_ne_nil _ _
  | next => exact List.append_ne_nil_of_right_ne_nil _ (List.cons_ne_nil _ _)
  | separated => exact List.append_ne_nil_of_right_ne_nil _ (List.cons_ne_nil _ _)

theorem Run.values_ne_nil {t : Text} {ds : List Nat} (h : Run t ds) : ds ≠ [] := by
  cases h with
  | digit => exact List.cons_ne_nil _ _
  | next => exact List.append_ne_nil_of_right_ne_nil _ (List.cons_ne_nil _ _)
  | separated => exact List.append_ne_nil_of_right_ne_nil _ (List.cons_ne_nil _ _)

theorem Run.mem {t : Text} {ds : List Nat} (h : Run t ds) :
    ∀ c ∈ t, c = '_' ∨ (digitValue? c).isSome := by
  have hdigit : ∀ {c d}, digitValue? c = some d → (digitValue? c).isSome :=
    fun hd => Option.isSome_iff_exists.2 ⟨_, hd⟩
  induction h with
  | digit hd =>
    intro a ha
    rw [List.mem_singleton.1 ha]
    exact .inr (hdigit hd)
  | next _ hd ih =>
    intro a ha
    rcases List.mem_append.1 ha with ha | ha
    · exact ih a ha
    · rw [List.mem_singleton.1 ha]
      exact .inr (hdigit hd)
  | separated _ hd ih =>
    intro a ha
    rcases List.mem_append.1 ha with ha | ha
    · exact ih a ha
    · rcases List.mem_cons.1 ha with rfl | ha
      · exact .inl rfl
      · rw [List.mem_singleton.1 ha]
        exact .inr (hdigit hd)

/-- No character but digits and the underscore is in a run. -/
theorem Run.not_mem {t : Text} {ds : List Nat} (h : Run t ds) {c : Char} (hc : c ≠ '_')
    (hd : digitValue? c = none) : c ∉ t := by
  intro hmem
  rcases h.mem c hmem with rfl | hsome
  · exact hc rfl
  · rw [hd] at hsome
    cases hsome

/-! ## From the grammar to the reader -/

/-- A digit behind a sound start, in terms of characters. -/
theorem sound_append_digit {based : Bool} {p : List UInt8} (hp : Sound based p) {c : Char}
    {d : Nat} (hd : digitValue? c = some d)
    (hlt : Nat.ofDigits 16 (digitsIn p ++ [d]).reverse < 2 ^ 32) :
    Sound based (p ++ Text.bytes [c]) ∧ separable based (p ++ Text.bytes [c]) = true ∧
      digitsIn (p ++ Text.bytes [c]) = digitsIn p ++ [d] := by
  obtain ⟨b, hbytes, rfl⟩ := exists_bytes_digit hd
  rw [ofDigits_reverse_concat] at hlt
  rw [hbytes, separable_concat, digitsIn_concat_digit hd]
  exact ⟨sound_concat_iff.2 ⟨hp, .inr ⟨d, hd, hlt⟩⟩, Option.isSome_iff_exists.2 ⟨d, hd⟩, rfl⟩

/-- **A run is a sound start** if its value fits, also behind an underscore that the sign
of the base allows, and its digits are the digits of the start. -/
theorem Run.sound {t : Text} {ds : List Nat} (h : Run t ds) {based : Bool} {separator : Text}
    (hs : separator = [] ∨ separator = "_".toList ∧ based = true)
    (hlt : Nat.ofDigits 16 ds.reverse < 2 ^ 32) :
    Sound based (Text.bytes (separator ++ t)) ∧
      separable based (Text.bytes (separator ++ t)) = true ∧
      digitsIn (Text.bytes (separator ++ t)) = ds := by
  induction h with
  | digit hd =>
    rw [Text.bytes_append]
    rcases hs with rfl | ⟨rfl, hbased⟩
    · exact sound_append_digit sound_nil hd hlt
    · exact sound_append_digit (sound_concat_iff.2 ⟨sound_nil, .inl ⟨rfl, hbased⟩⟩) hd hlt
  | next _ hd ih =>
    have hlt' := hlt
    rw [ofDigits_reverse_concat] at hlt'
    obtain ⟨hsound, -, hdigits⟩ := ih (by omega)
    rw [← List.append_assoc, Text.bytes_append, ← hdigits]
    exact sound_append_digit hsound hd (hdigits.symm ▸ hlt)
  | separated _ hd ih =>
    have hlt' := hlt
    rw [ofDigits_reverse_concat] at hlt'
    obtain ⟨hsound, hseparable, hdigits⟩ := ih (by omega)
    -- the underscore comes behind a digit
    have hunder := sound_concat_iff.2 ⟨hsound, .inl ⟨rfl, hseparable⟩⟩
    rw [← digitsIn_concat_underscore] at hdigits
    rw [List.append_cons, ← List.append_assoc, ← List.append_assoc, Text.bytes_append,
      Text.bytes_append, ← hdigits]
    exact sound_append_digit hunder hd (hdigits.symm ▸ hlt)

/-- The signs of a spelling are those that the text opens with. -/
def Opening.ofSpelling {sign base separator digits : Text} {values : List Nat}
    (hsign : sign = [] ∨ sign = "+".toList)
    (hbase : base = [] ∨ base = "0x".toList ∨ base = "0X".toList)
    (hseparator : separator = [] ∨ separator = "_".toList ∧ base ≠ [])
    (hrun : Run digits values) : Opening (sign ++ base ++ (separator ++ digits)) where
  sign := sign
  base := base
  rest := separator ++ digits
  text_eq := rfl
  sign_eq := hsign
  base_eq := hbase
  no_sign := by
    rintro rfl ⟨u, hu⟩
    have hmem : '+' ∈ base ++ (separator ++ digits) := by
      rw [← List.nil_append base, ← hu]
      exact List.mem_cons_self
    rcases List.mem_append.1 hmem with hmem | hmem
    · rcases hbase with rfl | rfl | rfl
      · cases hmem
      · exact absurd hmem (by decide)
      · exact absurd hmem (by decide)
    · rcases List.mem_append.1 hmem with hmem | hmem
      · rcases hseparator with rfl | ⟨rfl, -⟩
        · cases hmem
        · exact absurd hmem (by decide)
      · exact hrun.not_mem (by decide) (by decide) hmem
  no_base := by
    rintro rfl
    rcases hseparator with rfl | ⟨-, hne⟩
    · constructor
      · rintro ⟨u, hu⟩
        refine hrun.not_mem (c := 'x') (by decide) (by decide) ?_
        rw [← List.nil_append digits, ← hu]
        exact List.mem_cons_of_mem _ List.mem_cons_self
      · rintro ⟨u, hu⟩
        refine hrun.not_mem (c := 'X') (by decide) (by decide) ?_
        rw [← List.nil_append digits, ← hu]
        exact List.mem_cons_of_mem _ List.mem_cons_self
    · exact absurd rfl hne

/-- **A spelling of a number of 32 bits is read as that number.** -/
theorem read_of_spells {t : Text} {n : Nat} (h : Spells t n) (hn : n < 2 ^ 32) :
    read t = .ok (UInt32.ofNat n) := by
  obtain ⟨sign, base, separator, digits, values, rfl, hsign, hbase, hseparator, hrun, rfl⟩ := h
  have hbased : separator = [] ∨ separator = "_".toList ∧ (!base.isEmpty) = true := by
    refine hseparator.imp_right fun ⟨hs, hne⟩ => ⟨hs, ?_⟩
    rw [Bool.not_eq_true', List.isEmpty_eq_false_iff]
    exact hne
  obtain ⟨hsound, hseparable, hdigits⟩ := hrun.sound hbased hn
  rw [(Opening.ofSpelling hsign hbase hseparator hrun).read_eq]
  show readDigits none (!base.isEmpty) (Text.bytes (separator ++ digits)) = _
  rw [readDigits_of_sound hsound, hdigits, if_neg hrun.values_ne_nil, hseparable,
    if_pos rfl]
  unfold valueIn
  rw [hdigits]

/-! ## From the reader to the grammar -/

/-- **A sound start that ends in a digit is a run**, perhaps with an underscore in front
that the sign of the base allows. -/
theorem exists_run_of_sound {based : Bool} {p : List UInt8} (hp : Sound based p)
    (hlast : ∃ b, p.getLast? = some b ∧ (digitValue? b.toChar).isSome) :
    ∃ separator digits, p.map UInt8.toChar = separator ++ digits ∧
      (separator = [] ∨ separator = "_".toList ∧ based = true) ∧ Run digits (digitsIn p) := by
  -- an underscore is taken together with the digit behind it, so two bytes may go at once
  induction hlength : p.length using Nat.strong_induction_on generalizing p with
  | _ m ih =>
    obtain ⟨b, hb, hd⟩ := hlast
    obtain ⟨q, rfl⟩ := List.getLast?_eq_some_iff.1 hb
    obtain ⟨d, hd⟩ := Option.isSome_iff_exists.1 hd
    have hq := (sound_concat_iff.1 hp).1
    rw [List.length_append, List.length_singleton] at hlength
    rw [List.map_append, digitsIn_concat_digit hd]
    rcases List.eq_nil_or_concat' q with rfl | ⟨q', c, rfl⟩
    · exact ⟨[], _, rfl, .inl rfl, .digit hd⟩
    · rw [List.length_append, List.length_singleton] at hlength
      rcases hq.symbols c (List.mem_append_right _ List.mem_cons_self) with rfl | hc
      · rw [List.map_append, digitsIn_concat_underscore, List.append_assoc]
        rcases hq.underscores q' (List.prefix_refl _) with hlast' | ⟨rfl, hbased⟩
        · obtain ⟨separator, digits, hmap, hs, hrun⟩ :=
            ih q'.length (by omega) (sound_concat_iff.1 hq).1 hlast' rfl
          refine ⟨separator, digits ++ ['_', b.toChar], ?_, hs, .separated hrun hd⟩
          rw [hmap, List.append_assoc]
          rfl
        · exact ⟨"_".toList, _, rfl, .inr ⟨rfl, hbased⟩, .digit hd⟩
      · obtain ⟨separator, digits, hmap, hs, hrun⟩ :=
          ih (q' ++ [c]).length (by rw [List.length_append, List.length_singleton]; omega) hq
            ⟨c, List.getLast?_concat, hc⟩ rfl
        refine ⟨separator, digits ++ [b.toChar], ?_, hs, .next hrun hd⟩
        rw [hmap, List.append_assoc]
        rfl

/-- What opens with signs and goes on soundly to its end consists of ASCII characters. -/
theorem Opening.rest_eq {t : Text} (o : Opening t) (h : Sound o.based o.digits) :
    o.rest = o.digits.map UInt8.toChar := by
  obtain ⟨u, hrest, hu⟩ := Text.eq_append_of_bytes_eq h.lt (List.append_nil o.digits).symm
  rw [hrest, Text.bytes_eq_nil_iff.1 hu, List.append_nil]

/-- What is read as a number behind the signs is sound to its end, has a digit, and does
not end in an underscore. -/
theorem sound_of_readDigits_eq_ok {based : Bool} {p : List UInt8} {v : UInt32}
    (h : readDigits none based p = .ok v) :
    Sound based p ∧ (∃ b, p.getLast? = some b ∧ (digitValue? b.toChar).isSome) ∧
      v.toNat = valueIn p := by
  have hsound : Sound based p := by
    by_contra hnot
    obtain ⟨q, b, rest, rfl, hq, hb⟩ := exists_sound_of_not_sound hnot
    rw [readDigits_append_of_sound hq, readDigits_of_unsound_concat hq hb] at h
    cases h
  rw [readDigits_of_sound hsound] at h
  split at h
  next => cases h
  next hne =>
    split at h
    next hseparable =>
      cases h
      refine ⟨hsound, ?_, UInt32.toNat_ofNat_of_lt' hsound.fits⟩
      rcases separable_eq_true_iff.1 hseparable with hlast | ⟨hnil, -⟩
      · exact hlast
      · rw [hnil] at hne
        exact absurd rfl hne
    next => cases h

/-- **A text that is read as a number spells it.** -/
theorem spells_of_read_eq_ok {t : Text} {v : UInt32} (h : read t = .ok v) :
    Spells t v.toNat := by
  obtain ⟨o⟩ := Opening.nonempty t
  rw [o.read_eq] at h
  obtain ⟨hsound, hlast, hvalue⟩ := sound_of_readDigits_eq_ok h
  obtain ⟨separator, digits, hmap, hs, hrun⟩ := exists_run_of_sound hsound hlast
  have htext : t = o.sign ++ o.base ++ (separator ++ digits) := by
    rw [← hmap, ← o.rest_eq hsound]
    exact o.text_eq
  have hseparator : separator = [] ∨ separator = "_".toList ∧ o.base ≠ [] := by
    refine hs.imp_right fun ⟨hsep, hbased⟩ => ⟨hsep, fun hnil => ?_⟩
    unfold Opening.based at hbased
    rw [hnil] at hbased
    cases hbased
  exact ⟨o.sign, o.base, separator, digits, _, htext, o.sign_eq, o.base_eq, hseparator, hrun,
    hvalue⟩

/-- **The reader accepts the spellings of numbers of 32 bits and nothing else**, and gives
the number that is spelled. -/
theorem read_accepts_spellings (t : Text) (n : Nat) :
    (read t).map UInt32.toNat = .ok n ↔ Spells t n ∧ n < 2 ^ 32 := by
  constructor
  · intro h
    cases hread : read t with
    | error e =>
      rw [hread] at h
      cases h
    | ok v =>
      rw [hread] at h
      cases h
      exact ⟨spells_of_read_eq_ok hread, v.toNat_lt⟩
  · rintro ⟨h, hn⟩
    rw [read_of_spells h hn]
    exact congrArg Except.ok (UInt32.toNat_ofNat_of_lt' hn)

end Hex

end MemoryListing
