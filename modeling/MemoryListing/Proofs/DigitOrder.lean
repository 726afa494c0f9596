import Mathlib.Algebra.Group.Nat.Defs
import MemoryListing.Proofs.Digits

/-!
# Printed numbers of one width sort like their values

Numbers that fit into a width are printed in exactly that many digits, zeros in
front included, and then the order of the texts is the order of the numbers
(`Hex.digits_lt_digits_iff`): a table that is sorted by address is sorted by the
texts of its addresses as well. Without the zeros this fails, since `9` comes
behind `10` as a text.

A number of one digit more is the number without its last digit, printed one
digit narrower, and that digit behind it (`Hex.digits_succ`). The induction on
the width follows this, so texts are compared by what stands ahead of the last
character first and by the last character then.
-/

namespace MemoryListing

namespace Hex

/-- A number below the base is one digit. -/
theorem digits_one {n : Nat} (h : n < 16) : digits 1 n = [Nat.digitChar n] := by
  unfold digits
  rw [Nat.toDigits_of_lt_base h]
  rfl

/-- **One digit more**: the digits of all but the last place, and that place. -/
theorem digits_succ {width : Nat} (hw : 0 < width) (n : Nat) :
    digits (width + 1) n = digits width (n / 16) ++ [Nat.digitChar (n % 16)] := by
  unfold digits
  rw [List.leftpad, List.leftpad, List.append_assoc]
  by_cases h : n < 16
  · -- the last zero of the padding is the quotient's digit
    rw [Nat.toDigits_of_lt_base h, Nat.div_eq_of_lt h, Nat.mod_eq_of_lt h]
    obtain ⟨k, rfl⟩ := Nat.exists_eq_add_of_lt hw
    show List.replicate (0 + k + 1) '0' ++ [Nat.digitChar n]
      = List.replicate (0 + k) '0' ++ (['0'] ++ [Nat.digitChar n])
    rw [List.replicate_succ', List.append_assoc]
  · have hsplit : Nat.toDigits 16 n = Nat.toDigits 16 (n / 16) ++ [Nat.digitChar (n % 16)] := by
      rw [Nat.toDigits_eq_if (by decide), if_neg h]
    rw [hsplit, List.length_append, List.length_singleton, Nat.add_sub_add_right]

theorem div_lt_pow {width n : Nat} (h : n < 16 ^ (width + 1)) : n / 16 < 16 ^ width :=
  Nat.div_lt_of_lt_mul (Nat.pow_succ' ▸ h)

/-- A number that fits into a width has that many digits. -/
@[simp] theorem length_digits {width n : Nat} (h : n < 16 ^ (width + 1)) :
    (digits (width + 1) n).length = width + 1 := by
  induction width generalizing n with
  | zero =>
    rw [digits_one h]
    rfl
  | succ width ih =>
    rw [digits_succ (Nat.succ_pos width), List.length_append, ih (div_lt_pow h)]
    rfl

/-- Digits are ordered like their values. -/
theorem digitChar_lt_digitChar_iff :
    ∀ d < 16, ∀ e < 16, Nat.digitChar d < Nat.digitChar e ↔ d < e := by
  decide

theorem singleton_lt_singleton_iff {c d : Char} : [c] < [d] ↔ c < d := by
  rw [List.cons_lt_cons_iff]
  exact or_iff_left fun h => List.not_lt_nil [] h.2

/-- Texts of one length are compared by their last characters only if they agree
ahead of them. -/
theorem append_singleton_lt_iff {s t : Text} (h : s.length = t.length) {c d : Char} :
    s ++ [c] < t ++ [d] ↔ s < t ∨ s = t ∧ c < d := by
  induction s generalizing t with
  | nil =>
    rw [List.eq_nil_of_length_eq_zero h.symm, List.nil_append, List.nil_append,
      singleton_lt_singleton_iff]
    constructor
    · exact fun hcd => .inr ⟨rfl, hcd⟩
    · rintro (hlt | ⟨-, hcd⟩)
      · exact absurd hlt (List.not_lt_nil [])
      · exact hcd
  | cons a s ih =>
    cases t with
    | nil => cases h
    | cons b t =>
      rw [List.cons_append, List.cons_append, List.cons_lt_cons_iff, List.cons_lt_cons_iff,
        ih (Nat.succ.inj h), List.cons.injEq, and_or_left, or_assoc, and_assoc]

/-- **Numbers of one width are ordered as texts like their values.** -/
theorem digits_lt_digits_iff {width m n : Nat} (hm : m < 16 ^ (width + 1))
    (hn : n < 16 ^ (width + 1)) : digits (width + 1) m < digits (width + 1) n ↔ m < n := by
  induction width generalizing m n with
  | zero =>
    rw [digits_one hm, digits_one hn, singleton_lt_singleton_iff,
      digitChar_lt_digitChar_iff m hm n hn]
  | succ width ih =>
    have hmq := div_lt_pow hm
    have hnq := div_lt_pow hn
    have hlength : (digits (width + 1) (m / 16)).length = (digits (width + 1) (n / 16)).length :=
      (length_digits hmq).trans (length_digits hnq).symm
    -- quotients that are printed alike are neither less nor greater than each other
    have hquotient : digits (width + 1) (m / 16) = digits (width + 1) (n / 16) ↔
        m / 16 = n / 16 := by
      refine ⟨fun h => ?_, fun h => congrArg _ h⟩
      have hmn := ih hmq hnq
      have hnm := ih hnq hmq
      rw [h] at hmn hnm
      exact Nat.le_antisymm (Nat.le_of_not_lt (mt hnm.2 (List.lt_irrefl _)))
        (Nat.le_of_not_lt (mt hmn.2 (List.lt_irrefl _)))
    rw [digits_succ (Nat.succ_pos width), digits_succ (Nat.succ_pos width),
      append_singleton_lt_iff hlength, ih hmq hnq, hquotient,
      digitChar_lt_digitChar_iff _ (Nat.mod_lt m (by decide)) _ (Nat.mod_lt n (by decide))]
    omega

end Hex

end MemoryListing
