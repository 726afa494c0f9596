import Mathlib.Data.Bool.AllAny
import Mathlib.Data.List.Induction
import Mathlib.Data.Nat.Digits.Defs
import Mathlib.Data.UInt
import MemoryListing.Proofs.Digits

/-!
# How far a written number goes well

Behind the signs that may open a written number (`Hex.Opening`) come its digits. A
start of them is sound if it could be the start of a number of 32 bits: it holds
digits and underscores only, each underscore stands where one may, and the value of
the digits fits (`Hex.Sound`). Nothing is said of what follows, so an underscore may
end a sound start, and the empty start is sound.

The reader keeps the value of the digits so far and whether an underscore may come
next. Both are functions of the start that it has behind it (`Hex.soFar`,
`Hex.separable`), and as long as that start is sound the reader goes on
(`Hex.readDigits_append_of_sound`). At the first byte that makes it unsound the reader
stops, and this byte alone decides the complaint (`Hex.readDigits_of_unsound_concat`).
-/

namespace MemoryListing

namespace Text

/-! ## Characters at the start of some bytes -/

theorem toChar_ofNat_toNat {c : Char} (h : c.toNat < 0x80) :
    (UInt8.ofNat c.toNat).toChar = c := by
  refine Char.toNat_inj.1 ?_
  show (UInt8.ofNat c.toNat).toUInt32.toNat = c.toNat
  rw [UInt8.toNat_toUInt32, UInt8.toNat_ofNat']
  omega

/-- The bytes of ASCII characters are ASCII bytes. -/
theorem lt_of_mem_bytes {t : Text} (h : ∀ c ∈ t, c.toNat < 0x80) : ∀ b ∈ bytes t, b < 0x80 := by
  rw [bytes_of_ascii h]
  intro b hb
  obtain ⟨c, hc, rfl⟩ := List.mem_map.1 hb
  rw [UInt8.lt_iff_toNat_lt, UInt8.toNat_ofNat']
  exact Nat.lt_of_le_of_lt (Nat.mod_le _ _) (h c hc)

theorem map_toChar_bytes {t : Text} (h : ∀ c ∈ t, c.toNat < 0x80) :
    (bytes t).map UInt8.toChar = t := by
  rw [bytes_of_ascii h, List.map_map]
  exact (List.map_congr_left fun c hc => toChar_ofNat_toNat (h c hc)).trans (List.map_id t)

/-- **The first byte of a character** is the whole of it in the ASCII range, and lies
above the bytes that continue a character otherwise. -/
theorem exists_utf8EncodeChar_eq_cons (c : Char) :
    ∃ b bs, String.utf8EncodeChar c = b :: bs ∧
      (c.toNat < 0x80 ∧ b.toChar = c ∧ bs = [] ∨ 0x80 ≤ c.toNat ∧ 0xc0 ≤ b) := by
  by_cases h : c.toNat < 0x80
  · exact ⟨UInt8.ofNat c.toNat, [], utf8EncodeChar_of_lt h,
      .inl ⟨h, toChar_ofNat_toNat h, rfl⟩⟩
  · have hc : ¬ c.val.toNat ≤ 0x7f := fun hle => h (Nat.lt_succ_of_le hle)
    have hmark : ∀ n, 0xc0 ≤ n → n < 0x100 → (0xc0 : UInt8) ≤ UInt8.ofNat n := by
      intro n hle hlt
      rw [UInt8.le_iff_toNat_le, UInt8.toNat_ofNat_of_lt' hlt]
      exact hle
    unfold String.utf8EncodeChar
    dsimp only
    rw [if_neg hc]
    -- the mark of the first byte is added to what is left of the code point
    split
    · exact ⟨_, _, rfl, .inr ⟨Nat.le_of_not_lt h, hmark _ (by omega) (by omega)⟩⟩
    · split
      · exact ⟨_, _, rfl, .inr ⟨Nat.le_of_not_lt h, hmark _ (by omega) (by omega)⟩⟩
      · exact ⟨_, _, rfl, .inr ⟨Nat.le_of_not_lt h, hmark _ (by omega) (by omega)⟩⟩

/-- **ASCII bytes at the start of a text are characters**, and the text goes on behind
them. -/
theorem eq_append_of_bytes_eq {t : Text} {as bs : List UInt8} (has : ∀ b ∈ as, b < 0x80)
    (h : bytes t = as ++ bs) : ∃ u, t = as.map UInt8.toChar ++ u ∧ bytes u = bs := by
  induction as generalizing t with
  | nil => exact ⟨t, rfl, h⟩
  | cons a as ih =>
    cases t with
    | nil => cases h
    | cons c t =>
      obtain ⟨b, more, hc, hfirst⟩ := exists_utf8EncodeChar_eq_cons c
      have hcons : String.utf8EncodeChar c ++ bytes t = a :: (as ++ bs) := h
      rw [hc, List.cons_append] at hcons
      obtain ⟨rfl, htail⟩ := List.cons.inj hcons
      rcases hfirst with ⟨-, rfl, rfl⟩ | ⟨-, hle⟩
      · obtain ⟨u, rfl, hu⟩ := ih (fun b hb => has b (List.mem_cons_of_mem _ hb)) htail
        exact ⟨u, rfl, hu⟩
      · exact absurd (has b List.mem_cons_self) (UInt8.not_lt.2 (UInt8.le_trans (by decide) hle))

/-- ASCII characters start a text if their bytes start its bytes. -/
theorem prefix_of_bytes_prefix {s t : Text} (hs : ∀ c ∈ s, c.toNat < 0x80)
    (h : bytes s <+: bytes t) : s <+: t := by
  obtain ⟨bs, hbs⟩ := h
  obtain ⟨u, rfl, -⟩ := eq_append_of_bytes_eq (lt_of_mem_bytes hs) hbs.symm
  rw [map_toChar_bytes hs]
  exact List.prefix_append s u

end Text

namespace Hex

/-! ## What opens a number -/

/-- **A text as a written number opens**: a plus sign, the sign of the base, and the
rest. Either sign is there if the text has it at its place. -/
structure Opening (t : Text) where
  /-- The plus sign, or nothing. -/
  sign : Text
  /-- The sign of the base, or nothing. -/
  base : Text
  /-- The text behind the signs. -/
  rest : Text
  /-- The text is made up of the three. -/
  text_eq : t = sign ++ base ++ rest
  /-- How a plus sign is written. -/
  sign_eq : sign = [] ∨ sign = "+".toList
  /-- How the sign of the base is written. -/
  base_eq : base = [] ∨ base = "0x".toList ∨ base = "0X".toList
  /-- No plus sign is left out. -/
  no_sign : sign = [] → ¬ "+".toList <+: t
  /-- No sign of the base is left out. -/
  no_base : base = [] → ¬ "0x".toList <+: rest ∧ ¬ "0X".toList <+: rest

/-- The signs are made up of ASCII characters. -/
theorem lt_of_mem_sign {s : Text} (hs : s = "+".toList ∨ s = "0x".toList ∨ s = "0X".toList) :
    ∀ c ∈ s, c.toNat < 0x80 := by
  rcases hs with rfl | rfl | rfl <;> exact List.all_iff_forall_prop.1 (by decide)

namespace Opening

variable {t : Text}

/-- Whether the sign of the base is there. -/
def based (o : Opening t) : Bool :=
  !o.base.isEmpty

/-- The bytes of the signs. -/
def signs (o : Opening t) : List UInt8 :=
  Text.bytes (o.sign ++ o.base)

/-- The bytes behind the signs. -/
def digits (o : Opening t) : List UInt8 :=
  Text.bytes o.rest

theorem bytes_eq (o : Opening t) : t.bytes = o.signs ++ o.digits := by
  unfold signs digits
  rw [← Text.bytes_append, ← o.text_eq]

theorem ascii_signs (o : Opening t) : ∀ c ∈ o.sign ++ o.base, c.toNat < 0x80 := by
  intro c hc
  rcases List.mem_append.1 hc with hc | hc
  · exact lt_of_mem_sign (.inl (o.sign_eq.resolve_left (List.ne_nil_of_mem hc))) c hc
  · exact lt_of_mem_sign (.inr (o.base_eq.resolve_left (List.ne_nil_of_mem hc))) c hc

theorem signs_lt (o : Opening t) : ∀ b ∈ o.signs, b < 0x80 :=
  Text.lt_of_mem_bytes o.ascii_signs

theorem map_toChar_signs (o : Opening t) : o.signs.map UInt8.toChar = o.sign ++ o.base :=
  Text.map_toChar_bytes o.ascii_signs

/-- Every text opens in some way. -/
theorem nonempty (t : Text) : Nonempty (Opening t) := by
  have hbase : ∀ u : Text, ∃ base rest : Text, u = base ++ rest ∧
      (base = [] ∨ base = "0x".toList ∨ base = "0X".toList) ∧
      (base = [] → ¬ "0x".toList <+: rest ∧ ¬ "0X".toList <+: rest) := by
    intro u
    by_cases hx : "0x".toList <+: u
    · obtain ⟨rest, rfl⟩ := hx
      exact ⟨_, rest, rfl, .inr (.inl rfl), nofun⟩
    · by_cases hX : "0X".toList <+: u
      · obtain ⟨rest, rfl⟩ := hX
        exact ⟨_, rest, rfl, .inr (.inr rfl), nofun⟩
      · exact ⟨[], u, rfl, .inl rfl, fun _ => ⟨hx, hX⟩⟩
  by_cases hsign : "+".toList <+: t
  · obtain ⟨u, rfl⟩ := hsign
    obtain ⟨base, rest, rfl, hb, hno⟩ := hbase u
    exact ⟨⟨_, base, rest, (List.append_assoc _ _ _).symm, .inr rfl, hb, nofun, hno⟩⟩
  · obtain ⟨base, rest, rfl, hb, hno⟩ := hbase t
    exact ⟨⟨[], base, rest, rfl, .inl rfl, hb, fun _ => hsign, hno⟩⟩

theorem dropPlus_bytes (o : Opening t) : dropPlus t.bytes = Text.bytes (o.base ++ o.rest) := by
  have ht := o.text_eq
  rw [List.append_assoc] at ht
  rcases o.sign_eq with hs | hs
  · rw [hs, List.nil_append] at ht
    rw [← ht]
    cases hbytes : t.bytes with
    | nil => rfl
    | cons b bs =>
      refine if_neg ?_
      rintro rfl
      have hplus := lt_of_mem_sign (.inl rfl)
      exact o.no_sign hs (Text.prefix_of_bytes_prefix hplus ⟨bs, hbytes.symm⟩)
  · rw [hs] at ht
    rw [congrArg Text.bytes ht]
    rfl

theorem dropBase_bytes (o : Opening t) :
    dropBase (Text.bytes (o.base ++ o.rest)) = (o.digits, o.based) := by
  unfold digits based
  rcases o.base_eq with hb | hb | hb
  · obtain ⟨hx, hX⟩ := o.no_base hb
    rw [hb, List.nil_append]
    rcases hbytes : Text.bytes o.rest with _ | ⟨b, _ | ⟨c, bs⟩⟩
    · rfl
    · rfl
    · refine if_neg ?_
      rintro ⟨rfl, rfl | rfl⟩
      · have hbase := lt_of_mem_sign (.inr (.inl rfl))
        exact hx (Text.prefix_of_bytes_prefix hbase ⟨bs, hbytes.symm⟩)
      · have hbase := lt_of_mem_sign (.inr (.inr rfl))
        exact hX (Text.prefix_of_bytes_prefix hbase ⟨bs, hbytes.symm⟩)
  · rw [hb]
    rfl
  · rw [hb]
    rfl

/-- **What is read of a text** is what is read behind its signs. -/
theorem read_eq (o : Opening t) : read t = readDigits none o.based o.digits := by
  unfold read
  rw [o.dropPlus_bytes, o.dropBase_bytes]

end Opening

/-! ## Sound starts -/

/-- **The value of a digit** of either case: the place of its lower-case form among the
printed digits. -/
def digitValue? (c : Char) : Option Nat :=
  alphabet.idxOf? c.toLower

/-- Digits belong to the ASCII range. -/
theorem toNat_lt_of_digitValue? {c : Char} {d : Nat} (h : digitValue? c = some d) :
    c.toNat < 0x80 := by
  have hmem : c.toLower ∈ alphabet := by
    by_contra hnot
    unfold digitValue? at h
    rw [List.idxOf?_eq_none_iff.2 hnot] at h
    cases h
  unfold Char.toLower at hmem
  split at hmem
  next hupper =>
    have hle : c.toNat ≤ 0x5a := UInt32.le_iff_toNat_le.1 hupper.2
    omega
  next => exact lt_of_mem_alphabet c hmem

/-- The reader of bytes knows the same digits. -/
theorem digit?_eq_digitValue? (b : UInt8) : digit? b = digitValue? b.toChar := by
  have hall : ∀ n < 256, digit? (UInt8.ofNat n) = digitValue? (UInt8.ofNat n).toChar := by
    decide +kernel
  have h := hall b.toNat b.toNat_lt_size
  rwa [UInt8.ofNat_toNat] at h

/-- The values of the digits among some bytes, in their order. -/
def digitsIn (bs : List UInt8) : List Nat :=
  bs.filterMap fun b => digitValue? b.toChar

/-- The number that the digits among some bytes write. -/
def valueIn (bs : List UInt8) : Nat :=
  Nat.ofDigits 16 (digitsIn bs).reverse

/-- **A sound start** of what stands behind the signs. -/
structure Sound (based : Bool) (p : List UInt8) : Prop where
  /-- It holds digits and underscores only. -/
  symbols : ∀ b ∈ p, b = 0x5f ∨ (digitValue? b.toChar).isSome
  /-- An underscore comes right behind a digit, or right behind the sign of the base. -/
  underscores : ∀ q, q ++ [0x5f] <+: p →
    (∃ b, q.getLast? = some b ∧ (digitValue? b.toChar).isSome) ∨ q = [] ∧ based = true
  /-- The value of the digits fits in 32 bits. -/
  fits : valueIn p < 2 ^ 32

/-- Whether an underscore may come behind a start. -/
def separable (based : Bool) (p : List UInt8) : Bool :=
  match p.getLast? with
  | none => based
  | some b => (digitValue? b.toChar).isSome

/-- The value of the digits so far, if there are any. -/
def soFar (p : List UInt8) : Option UInt32 :=
  if digitsIn p = [] then none else some (UInt32.ofNat (valueIn p))

variable {based : Bool} {p : List UInt8} {b : UInt8}

theorem soFar_of_ne (h : digitsIn p ≠ []) : soFar p = some (UInt32.ofNat (valueIn p)) :=
  if_neg h

@[simp] theorem digitsIn_concat_underscore (p : List UInt8) : digitsIn (p ++ [0x5f]) = digitsIn p := by
  unfold digitsIn
  rw [List.filterMap_append]
  exact List.append_nil _

theorem digitsIn_concat_digit {d : Nat} (hd : digitValue? b.toChar = some d) (p : List UInt8) :
    digitsIn (p ++ [b]) = digitsIn p ++ [d] := by
  unfold digitsIn
  rw [List.filterMap_append]
  simp only [List.filterMap_cons, hd, List.filterMap_nil]

@[simp] theorem valueIn_concat_underscore (p : List UInt8) : valueIn (p ++ [0x5f]) = valueIn p := by
  unfold valueIn
  rw [digitsIn_concat_underscore]

/-- **One digit more** takes the value sixteen times. -/
theorem ofDigits_reverse_concat (ds : List Nat) (d : Nat) :
    Nat.ofDigits 16 (ds ++ [d]).reverse = 16 * Nat.ofDigits 16 ds.reverse + d := by
  rw [List.reverse_concat, Nat.ofDigits_cons]
  exact Nat.add_comm _ _

theorem valueIn_concat_digit {d : Nat} (hd : digitValue? b.toChar = some d) (p : List UInt8) :
    valueIn (p ++ [b]) = 16 * valueIn p + d := by
  unfold valueIn
  rw [digitsIn_concat_digit hd, ofDigits_reverse_concat]

theorem separable_eq_true_iff :
    separable based p = true ↔
      (∃ b, p.getLast? = some b ∧ (digitValue? b.toChar).isSome) ∨ p = [] ∧ based = true := by
  unfold separable
  cases h : p.getLast? with
  | none =>
    rw [List.getLast?_eq_none_iff.1 h]
    exact ⟨fun hb => .inr ⟨rfl, hb⟩, fun hb => hb.elim (fun ⟨_, hl, _⟩ => nomatch hl) (·.2)⟩
  | some b =>
    have hne : p ≠ [] := by
      rintro rfl
      cases h
    constructor
    · exact fun hb => .inl ⟨b, rfl, hb⟩
    · rintro (⟨_, hl, hb⟩ | ⟨hp, -⟩)
      · cases hl
        exact hb
      · exact absurd hp hne

theorem separable_concat (based : Bool) (p : List UInt8) (b : UInt8) :
    separable based (p ++ [b]) = (digitValue? b.toChar).isSome := by
  unfold separable
  rw [List.getLast?_concat]

@[simp] theorem sound_nil : Sound based [] where
  symbols := nofun
  underscores := fun q hq =>
    absurd (List.prefix_nil.1 hq) (List.append_ne_nil_of_right_ne_nil q (List.cons_ne_nil _ _))
  fits := by decide

/-- **One byte more keeps a start sound** if it is an underscore where one may come, or
a digit with which the value still fits. -/
theorem sound_concat_iff :
    Sound based (p ++ [b]) ↔ Sound based p ∧
      (b = 0x5f ∧ separable based p = true ∨
        ∃ d, digitValue? b.toChar = some d ∧ 16 * valueIn p + d < 2 ^ 32) := by
  constructor
  · intro h
    have hb : b = 0x5f ∧ separable based p = true ∨
        ∃ d, digitValue? b.toChar = some d ∧ 16 * valueIn p + d < 2 ^ 32 := by
      rcases h.symbols b (List.mem_append_right _ List.mem_cons_self) with rfl | hd
      · exact .inl ⟨rfl, separable_eq_true_iff.2 (h.underscores p (List.prefix_refl _))⟩
      · obtain ⟨d, hd⟩ := Option.isSome_iff_exists.1 hd
        exact .inr ⟨d, hd, valueIn_concat_digit hd p ▸ h.fits⟩
    refine ⟨⟨fun c hc => h.symbols c (List.mem_append_left _ hc),
      fun q hq => h.underscores q (hq.trans (List.prefix_append _ _)), ?_⟩, hb⟩
    rcases hb with ⟨rfl, -⟩ | ⟨d, -, hlt⟩
    · exact valueIn_concat_underscore p ▸ h.fits
    · omega
  · rintro ⟨h, hb⟩
    refine ⟨?_, ?_, ?_⟩
    · intro c hc
      rcases List.mem_append.1 hc with hc | hc
      · exact h.symbols c hc
      · rw [List.mem_singleton.1 hc]
        rcases hb with ⟨rfl, -⟩ | ⟨d, hd, -⟩
        · exact .inl rfl
        · exact .inr (Option.isSome_iff_exists.2 ⟨d, hd⟩)
    · intro q hq
      rcases List.prefix_concat_iff.1 hq with hq | hq
      · -- the underscore is the byte in question
        obtain ⟨rfl, hbyte⟩ := List.append_inj' hq rfl
        rcases hb with ⟨-, hs⟩ | ⟨d, hd, -⟩
        · exact separable_eq_true_iff.1 hs
        · cases hbyte
          cases hd
      · exact h.underscores q hq
    · rcases hb with ⟨rfl, -⟩ | ⟨d, hd, hlt⟩
      · exact (valueIn_concat_underscore p).symm ▸ h.fits
      · exact (valueIn_concat_digit hd p).symm ▸ hlt

/-! ## Reading a sound start -/

/-- Without digits the value is zero, too. -/
theorem toNat_getD_soFar (h : Sound based p) : ((soFar p).getD 0).toNat = valueIn p := by
  unfold soFar
  split
  next hnil =>
    unfold valueIn
    rw [hnil]
    rfl
  next =>
    rw [Option.getD_some]
    exact UInt32.toNat_ofNat_of_lt h.fits

/-- **The complaint about a byte** with which a start is not sound any more. -/
def complaint (b : UInt8) : Error :=
  if b = 0x5f then .strayUnderscore
  else if (digitValue? b.toChar).isSome then .tooLarge
  else .badDigit b

/-- **The reader takes one byte more** as long as the start stays sound. -/
theorem readDigits_of_sound_concat (h : Sound based (p ++ [b])) (rest : List UInt8) :
    readDigits (soFar p) (separable based p) (b :: rest)
      = readDigits (soFar (p ++ [b])) (separable based (p ++ [b])) rest := by
  obtain ⟨hp, hb⟩ := sound_concat_iff.1 h
  rw [separable_concat]
  rcases hb with ⟨rfl, hs⟩ | ⟨d, hd, hlt⟩
  · rw [readDigits, if_pos rfl, hs, if_pos rfl]
    unfold soFar
    rw [digitsIn_concat_underscore, valueIn_concat_underscore]
    rfl
  · have hvalue := toNat_getD_soFar hp
    have hlt' : 16 * ((soFar p).getD 0).toNat + d < UInt32.size := hvalue.symm ▸ hlt
    rw [readDigits_cons ((digit?_eq_digitValue? b).trans hd) hlt', hd]
    have hne : digitsIn (p ++ [b]) ≠ [] := by
      rw [digitsIn_concat_digit hd]
      exact List.append_ne_nil_of_right_ne_nil _ (List.cons_ne_nil d [])
    have hsoFar : soFar (p ++ [b]) = some (UInt32.ofNatLT _ hlt') := by
      rw [soFar_of_ne hne, Option.some.injEq, ← UInt32.toNat_inj, UInt32.toNat_ofNatLT,
        UInt32.toNat_ofNat_of_lt' h.fits, valueIn_concat_digit hd, hvalue]
    rw [hsoFar]
    rfl

/-- **The reader stops at the first byte that makes the start unsound**, and the byte
decides what the complaint is. -/
theorem readDigits_of_unsound_concat (hp : Sound based p) (h : ¬ Sound based (p ++ [b]))
    (rest : List UInt8) :
    readDigits (soFar p) (separable based p) (b :: rest) = .error (complaint b) := by
  have hb := fun hb => h (sound_concat_iff.2 ⟨hp, hb⟩)
  unfold complaint
  rw [readDigits]
  by_cases hunder : b = 0x5f
  · have hs : ¬ separable based p = true := fun hs => hb (.inl ⟨hunder, hs⟩)
    rw [if_pos hunder, if_pos hunder, if_neg hs]
  · rw [if_neg hunder, if_neg hunder, digit?_eq_digitValue?]
    cases hd : digitValue? b.toChar with
    | none => rfl
    | some d =>
      have hge : ¬ 16 * ((soFar p).getD 0).toNat + d < UInt32.size := by
        rw [toNat_getD_soFar hp]
        exact fun hlt => hb (.inr ⟨d, hd, hlt⟩)
      simp only [push?, dif_neg hge]
      rfl

/-- **A sound start is read through**: what follows is read with the value so far. -/
theorem readDigits_append_of_sound (h : Sound based p) (rest : List UInt8) :
    readDigits none based (p ++ rest) = readDigits (soFar p) (separable based p) rest := by
  induction p using List.reverseRecOn generalizing rest with
  | nil => rfl
  | append_singleton p b ih =>
    rw [List.append_assoc, ih (sound_concat_iff.1 h).1]
    exact readDigits_of_sound_concat h rest

/-- **What is read of digits that are sound to their end**: their value, unless there
is no digit or an underscore stands at the end. -/
theorem readDigits_of_sound (h : Sound based p) :
    readDigits none based p
      = if digitsIn p = [] then .error .noDigits
        else if separable based p then .ok (UInt32.ofNat (valueIn p))
        else .error .strayUnderscore := by
  have hend := readDigits_append_of_sound h []
  rw [List.append_nil] at hend
  rw [hend]
  unfold soFar
  split
  next => rfl
  next => rfl

/-- **What is not sound stops being so at some byte.** -/
theorem exists_sound_of_not_sound {d : List UInt8} (h : ¬ Sound based d) :
    ∃ p b rest, d = p ++ b :: rest ∧ Sound based p ∧ ¬ Sound based (p ++ [b]) := by
  induction d using List.reverseRecOn with
  | nil => exact absurd sound_nil h
  | append_singleton d b ih =>
    by_cases hd : Sound based d
    · exact ⟨d, b, [], rfl, hd, h⟩
    · obtain ⟨p, c, rest, rfl, hp, hc⟩ := ih hd
      exact ⟨p, c, rest ++ [b], by simp, hp, hc⟩

/-- The bytes of a sound start are ASCII characters. -/
theorem Sound.lt (h : Sound based p) : ∀ b ∈ p, b < 0x80 := by
  intro b hb
  rcases h.symbols b hb with rfl | hd
  · decide
  · obtain ⟨d, hd⟩ := Option.isSome_iff_exists.1 hd
    have hlt : b.toUInt32.toNat < 0x80 := toNat_lt_of_digitValue? hd
    rwa [UInt8.toNat_toUInt32] at hlt

end Hex

end MemoryListing
