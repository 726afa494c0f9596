import Mathlib.Data.Nat.Init
import MemoryListing.Hex
import MemoryListing.Text.Line

/-!
# Printed numbers are read back

A number is printed in lower-case hexadecimal digits, filled up with zeros to a
width, behind the sign of the base or without it. The reader of written numbers
undoes all of these printings, for every width and every number of 32 bits:
`Hex.read_digits` without the sign of the base, `Hex.read_prefixed` with it.

Printing splits off the *last* digit of a number while reading starts at the
first one. The step between them is therefore stated with more bytes behind
(`Hex.readDigits_toDigits_append`): whatever follows is read with the printed
number as the value so far, and a last digit is one thing that can follow.
-/

namespace MemoryListing

namespace Text

/-- A text of ASCII characters has one byte for each of them. -/
theorem bytes_of_ascii {t : Text} (h : ∀ c ∈ t, c.toNat < 0x80) :
    bytes t = t.map fun c => UInt8.ofNat c.toNat := by
  induction t with
  | nil => rfl
  | cons c t ih =>
    show String.utf8EncodeChar c ++ bytes t = _
    rw [utf8EncodeChar_of_lt (h c List.mem_cons_self),
      ih fun c hc => h c (List.mem_cons_of_mem _ hc)]
    rfl

end Text

namespace Hex

/-! ## The characters of printed numbers -/

/-- The digits that numbers are printed in. -/
def alphabet : Text := "0123456789abcdef".toList

theorem digitChar_mem_alphabet : ∀ d < 16, Nat.digitChar d ∈ alphabet := by
  decide

/-- The sixteen digits are checked one by one. -/
theorem forall_mem_alphabet {p : Char → Prop} [DecidablePred p] (h : alphabet.all p = true) :
    ∀ c ∈ alphabet, p c :=
  fun c hc => of_decide_eq_true (List.all_eq_true.1 h c hc)

theorem lt_of_mem_alphabet : ∀ c ∈ alphabet, c.toNat < 0x80 :=
  forall_mem_alphabet (by decide)

theorem isBlank_of_mem_alphabet : ∀ c ∈ alphabet, Text.isBlank c = false :=
  forall_mem_alphabet (by decide)

/-- A printed digit is read as its value. -/
theorem digit?_digitChar : ∀ d < 16, digit? (UInt8.ofNat (Nat.digitChar d).toNat) = some d := by
  decide

theorem mem_alphabet_of_mem_toDigits {n : Nat} {c : Char} (h : c ∈ Nat.toDigits 16 n) :
    c ∈ alphabet := by
  induction n using Nat.strong_induction_on with
  | _ n ih =>
    rw [Nat.toDigits_eq_if (by decide)] at h
    split at h
    next hn =>
      rw [List.mem_singleton.1 h]
      exact digitChar_mem_alphabet n hn
    next hn =>
      cases List.mem_append.1 h with
      | inl h => exact ih (n / 16) (Nat.div_lt_self (by omega) (by decide)) h
      | inr h =>
        rw [List.mem_singleton.1 h]
        exact digitChar_mem_alphabet _ (Nat.mod_lt _ (by decide))

/-- **Numbers are printed in digits**, the zeros in front included. -/
theorem mem_alphabet_of_mem_digits {width n : Nat} {c : Char} (h : c ∈ digits width n) :
    c ∈ alphabet := by
  cases List.mem_append.1 h with
  | inl h =>
    rw [(List.mem_replicate.1 h).2]
    exact List.mem_cons_self
  | inr h => exact mem_alphabet_of_mem_toDigits h

/-- The sign of the base adds one letter that is no digit. -/
theorem mem_prefixed {width n : Nat} {c : Char} (h : c ∈ prefixed width n) :
    c = 'x' ∨ c ∈ alphabet := by
  have h : c = '0' ∨ c = 'x' ∨ c ∈ digits width n := by simpa [prefixed] using h
  obtain rfl | rfl | h := h
  · exact .inr List.mem_cons_self
  · exact .inl rfl
  · exact .inr (mem_alphabet_of_mem_digits h)

theorem bytes_digits (width n : Nat) :
    Text.bytes (digits width n) = (digits width n).map fun c => UInt8.ofNat c.toNat :=
  Text.bytes_of_ascii fun c hc => lt_of_mem_alphabet c (mem_alphabet_of_mem_digits hc)

/-! ## Reading them back -/

/-- A digit that leaves the value within 32 bits is put behind the value. -/
theorem readDigits_cons {v : Option UInt32} {separable : Bool} {b : UInt8} {d : Nat}
    (hd : digit? b = some d) (h : 16 * (v.getD 0).toNat + d < UInt32.size)
    (rest : List UInt8) :
    readDigits v separable (b :: rest)
      = readDigits (some (UInt32.ofNatLT _ h)) true rest := by
  have hb : b ≠ 0x5f := by
    rintro rfl
    cases hd
  rw [readDigits, if_neg hb, hd]
  simp only [push?, dif_pos h]

/-- Zeros in front leave the value at zero. -/
theorem readDigits_zeros (k : Nat) {v : Option UInt32} (hv : v.getD 0 = 0)
    (separable : Bool) (rest : List UInt8) :
    ∃ v' separable', v'.getD 0 = 0 ∧
      readDigits v separable (List.replicate k 0x30 ++ rest)
        = readDigits v' separable' rest := by
  induction k generalizing v separable with
  | zero => exact ⟨v, separable, hv, rfl⟩
  | succ k ih =>
    obtain ⟨v', separable', hv', h⟩ := ih (v := some 0) rfl true
    refine ⟨v', separable', hv', ?_⟩
    rw [List.replicate_succ, List.cons_append, ← h]
    refine (readDigits_cons (d := 0) rfl ?_ _).trans ?_
    · rw [hv]
      decide
    · simp only [hv]
      rfl

/-- **What follows a printed number is read with that number as the value so
far.** -/
theorem readDigits_toDigits_append {n : Nat} (hn : n < UInt32.size) {v : Option UInt32}
    (hv : v.getD 0 = 0) (separable : Bool) (rest : List UInt8) :
    readDigits v separable
        (((Nat.toDigits 16 n).map fun c => UInt8.ofNat c.toNat) ++ rest)
      = readDigits (some (UInt32.ofNatLT n hn)) true rest := by
  induction n using Nat.strong_induction_on generalizing v separable rest with
  | _ n ih =>
    rw [Nat.toDigits_eq_if (by decide)]
    split
    next h =>
      refine (readDigits_cons (digit?_digitChar n h) ?_ rest).trans ?_
      · rw [hv]
        simpa using hn
      · simp [hv]
    next h =>
      -- all digits but the last one are read by induction, with the last one behind
      have hq : n / 16 < UInt32.size := by omega
      rw [List.map_append, List.append_assoc, ih (n / 16) (by omega) hq hv]
      have hr := digit?_digitChar (n % 16) (Nat.mod_lt _ (by decide))
      have hs : 16 * ((some (UInt32.ofNatLT (n / 16) hq)).getD 0).toNat + n % 16 = n := by
        simp only [Option.getD_some, UInt32.toNat_ofNatLT]
        omega
      refine (readDigits_cons hr (hs.symm ▸ hn) rest).trans ?_
      simp only [hs]

/-- The digits of a number are read as that number. -/
@[simp] theorem readDigits_digits (width : Nat) (v : UInt32) (separable : Bool) :
    readDigits none separable (Text.bytes (digits width v.toNat)) = .ok v := by
  obtain ⟨v', separable', hv', h⟩ := readDigits_zeros
    (width - (Nat.toDigits 16 v.toNat).length) (v := none) rfl separable
    (((Nat.toDigits 16 v.toNat).map fun c => UInt8.ofNat c.toNat) ++ [])
  rw [bytes_digits, digits, List.leftpad, List.map_append, List.map_replicate,
    ← List.append_nil (List.map _ (Nat.toDigits 16 v.toNat))]
  refine h.trans ?_
  rw [readDigits_toDigits_append v.toNat_lt_size hv' separable' []]
  simp [readDigits]

theorem dropPlus_of_not_mem {bs : List UInt8} (h : 0x2b ∉ bs) : dropPlus bs = bs := by
  cases bs with
  | nil => rfl
  | cons b bs =>
    refine if_neg fun hb => h ?_
    rw [hb]
    exact List.mem_cons_self

theorem dropBase_of_not_mem {bs : List UInt8} (hx : 0x78 ∉ bs) (hX : 0x58 ∉ bs) :
    dropBase bs = (bs, false) := by
  rcases bs with _ | ⟨b, _ | ⟨c, bs⟩⟩
  · rfl
  · rfl
  · refine if_neg fun h => ?_
    rcases h.2 with rfl | rfl
    · exact hx (by simp)
    · exact hX (by simp)

/-- A byte that no digit has is not among the bytes of a number. -/
theorem not_mem_bytes_digits {b : UInt8} (hb : ∀ c ∈ alphabet, UInt8.ofNat c.toNat ≠ b)
    (width n : Nat) : b ∉ Text.bytes (digits width n) := by
  rw [bytes_digits]
  intro h
  obtain ⟨c, hc, rfl⟩ := List.mem_map.1 h
  exact hb c (mem_alphabet_of_mem_digits hc) rfl

/-- **A printed number is read back**, whatever the width. -/
@[simp] theorem read_digits (width : Nat) (v : UInt32) : read (digits width v.toNat) = .ok v := by
  have hplus : 0x2b ∉ Text.bytes (digits width v.toNat) :=
    not_mem_bytes_digits (forall_mem_alphabet (by decide)) _ _
  have hx : 0x78 ∉ Text.bytes (digits width v.toNat) :=
    not_mem_bytes_digits (forall_mem_alphabet (by decide)) _ _
  have hX : 0x58 ∉ Text.bytes (digits width v.toNat) :=
    not_mem_bytes_digits (forall_mem_alphabet (by decide)) _ _
  rw [read, dropPlus_of_not_mem hplus, dropBase_of_not_mem hx hX]
  exact readDigits_digits width v false

/-- **A number printed with the sign of its base is read back**, whatever the
width. -/
@[simp] theorem read_prefixed (width : Nat) (v : UInt32) :
    read (prefixed width v.toNat) = .ok v := by
  rw [read, prefixed, Text.bytes_append]
  exact readDigits_digits width v true

/-- Different numbers are printed differently. -/
theorem digits_injective {width m n : Nat} (hm : m < UInt32.size) (hn : n < UInt32.size)
    (h : digits width m = digits width n) : m = n := by
  have hr := read_digits width (UInt32.ofNatLT m hm)
  rw [UInt32.toNat_ofNatLT, h] at hr
  have hv := Except.ok.inj (hr.symm.trans (read_digits width (UInt32.ofNatLT n hn)))
  simpa using congrArg UInt32.toNat hv

/-- Addresses that are printed alike are equal. -/
theorem digits_toNat_inj {width : Nat} {a b : UInt16}
    (h : digits width a.toNat = digits width b.toNat) : a = b := by
  have hlt : ∀ x : UInt16, x.toNat < UInt32.size := fun x =>
    Nat.lt_trans x.toNat_lt_size (by decide)
  exact UInt16.toNat_inj.1 (digits_injective (hlt a) (hlt b) h)

end Hex

end MemoryListing
