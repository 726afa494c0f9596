import MemoryListing.Image
import MemoryListing.Proofs.Reading

/-!
# The rows that make an image

An image is made of the rows at the start of a dump that stand where they are
expected. `Image.inPlace` counts them, in numbers without bound, and the image
is described by that count alone: its bytes are those of the counted rows
(`Image.bytes_upToGap`), and its gap is the row behind them, if there is one
(`Image.gap_upToGap`).

The builder counts expected addresses in 32 bits and stops at the greatest of
them. That is never reached, since only a row that is in place moves the count
on, and such a row states an address of 16 bits.

Nothing here asks how many bytes a row holds. A dump that is read without a
warning has rows of sixteen bytes only, and then the position of a byte in the
image is its distance from the base: `Image.bytes_in_place`.
-/

namespace MemoryListing

namespace Image

/-- **How many rows at the start stand where they are expected**, the first one
at an address. Addresses are counted without bound. -/
def inPlace (expected : Nat) : List Row → Nat
  | [] => 0
  | r :: rest =>
    if r.address.toNat = expected then inPlace (expected + rowSize) rest + 1 else 0

@[simp] theorem inPlace_cons_of_eq {expected : Nat} {r : Row} (h : r.address.toNat = expected)
    (rest : List Row) :
    inPlace expected (r :: rest) = inPlace (expected + rowSize) rest + 1 :=
  if_pos h

@[simp] theorem inPlace_cons_of_ne {expected : Nat} {r : Row} (h : r.address.toNat ≠ expected)
    (rest : List Row) : inPlace expected (r :: rest) = 0 :=
  if_neg h

theorem inPlace_le_length (expected : Nat) (rows : List Row) :
    inPlace expected rows ≤ rows.length := by
  induction rows generalizing expected with
  | nil => exact Nat.le_refl 0
  | cons r rest ih =>
    by_cases h : r.address.toNat = expected
    · simpa [h] using ih _
    · simp [h]

/-- A counted row stands sixteen bytes behind the row before it. -/
theorem address_of_lt_inPlace {expected k : Nat} {rows : List Row}
    (hk : k < inPlace expected rows) :
    ∃ r, rows[k]? = some r ∧ r.address.toNat = expected + rowSize * k := by
  induction rows generalizing expected k with
  | nil => exact absurd hk (Nat.not_lt_zero k)
  | cons r rest ih =>
    by_cases h : r.address.toNat = expected
    · rw [inPlace_cons_of_eq h] at hk
      cases k with
      | zero => exact ⟨r, rfl, h⟩
      | succ k =>
        obtain ⟨r', hr', ha⟩ := ih (Nat.lt_of_succ_lt_succ hk)
        refine ⟨r', hr', ha.trans ?_⟩
        rw [Nat.mul_succ]
        omega
    · rw [inPlace_cons_of_ne h] at hk
      exact absurd hk (Nat.not_lt_zero k)

/-- The row behind the counted ones is out of place. -/
theorem address_inPlace_ne {expected : Nat} {rows : List Row} {r : Row}
    (hr : rows[inPlace expected rows]? = some r) :
    r.address.toNat ≠ expected + rowSize * inPlace expected rows := by
  induction rows generalizing expected with
  | nil => cases hr
  | cons r' rest ih =>
    by_cases h : r'.address.toNat = expected
    · rw [inPlace_cons_of_eq h] at hr ⊢
      intro ha
      refine ih hr (ha.trans ?_)
      rw [Nat.mul_succ]
      omega
    · rw [inPlace_cons_of_ne h] at hr ⊢
      cases hr
      exact h

/-! ## The image by that count -/

/-- Behind an address that a row can state, the count of expected addresses is
not at its end. -/
@[simp] theorem toNat_nextAddress {a : UInt32} (h : a.toNat < UInt16.size) :
    (nextAddress a).toNat = a.toNat + rowSize := by
  have hs : a.toNat + rowSize < UInt32.size := by
    simp only [UInt16.size, UInt32.size, rowSize] at h ⊢
    omega
  rw [nextAddress, if_pos hs, UInt32.toNat_add, UInt32.toNat_ofNat']
  simp only [UInt16.size, UInt32.size, rowSize] at h hs ⊢
  omega

theorem toUInt32_eq_iff {a : UInt16} {b : UInt32} : a.toUInt32 = b ↔ a.toNat = b.toNat := by
  rw [← UInt32.toNat_inj, UInt16.toNat_toUInt32]

/-- **One step of the builder**: a row that is in place is put in front of the
image of the rows behind it, which are expected from sixteen bytes further on. -/
theorem upToGap_cons_of_eq (row : Nat) {expected : UInt32} {r : Row}
    (h : r.address.toNat = expected.toNat) (rest : List Row) :
    ∃ next : UInt32, next.toNat = expected.toNat + rowSize ∧
      upToGap row expected (r :: rest)
        = ⟨r.bytes ++ (upToGap (row + 1) next rest).bytes,
          (upToGap (row + 1) next rest).gap⟩ :=
  ⟨nextAddress expected, toNat_nextAddress (h ▸ r.address.toNat_lt_size),
    if_pos (toUInt32_eq_iff.2 h)⟩

theorem upToGap_cons_of_ne {row : Nat} {expected : UInt32} {r : Row}
    (h : r.address.toNat ≠ expected.toNat) (rest : List Row) :
    upToGap row expected (r :: rest) = ⟨[], some ⟨row, r.address, expected⟩⟩ :=
  if_neg fun he => h (toUInt32_eq_iff.1 he)

/-- **The bytes of an image** are those of the rows in place. -/
@[simp] theorem bytes_upToGap (row : Nat) (expected : UInt32) (rows : List Row) :
    (upToGap row expected rows).bytes
      = (rows.take (inPlace expected.toNat rows)).flatMap (·.bytes) := by
  induction rows generalizing row expected with
  | nil => rfl
  | cons r rest ih =>
    by_cases h : r.address.toNat = expected.toNat
    · obtain ⟨next, hnext, hstep⟩ := upToGap_cons_of_eq row h rest
      rw [hstep, inPlace_cons_of_eq h, List.take_succ_cons, List.flatMap_cons,
        ← hnext, ← ih]
    · simp [upToGap_cons_of_ne h, h]

/-- **The gap of an image** is the row behind those in place. -/
@[simp] theorem gap_upToGap (row : Nat) (expected : UInt32) (rows : List Row) :
    (upToGap row expected rows).gap
      = rows[inPlace expected.toNat rows]?.map fun r =>
          ⟨row + inPlace expected.toNat rows, r.address,
            UInt32.ofNat (expected.toNat + rowSize * inPlace expected.toNat rows)⟩ := by
  induction rows generalizing row expected with
  | nil => rfl
  | cons r rest ih =>
    by_cases h : r.address.toNat = expected.toNat
    · obtain ⟨next, hnext, hstep⟩ := upToGap_cons_of_eq row h rest
      rw [hstep, inPlace_cons_of_eq h]
      show (upToGap (row + 1) next rest).gap = _
      rw [ih, hnext, List.getElem?_cons_succ, Nat.mul_succ,
        show ∀ k, row + 1 + k = row + (k + 1) by omega,
        show ∀ k, expected.toNat + rowSize + rowSize * k
          = expected.toNat + (rowSize * k + rowSize) by omega]
    · simp [upToGap_cons_of_ne h, h]

/-- **When a dump gives an image**: always under the lenient policy, and under the
strict one if there is no gap. -/
theorem ofRows_eq_ok_iff {base : UInt16} {policy : GapPolicy} {rows : List Row}
    {image : Image} :
    (ofRows base policy rows).result = .ok image
      ↔ image = upToGap 0 base.toUInt32 rows ∧ (policy = .lenient ∨ image.gap = none) := by
  simp only [ofRows]
  cases hg : (upToGap 0 base.toUInt32 rows).gap with
  | none =>
    show Except.ok _ = Except.ok image ↔ _
    rw [Except.ok.injEq]
    constructor
    · rintro rfl
      exact ⟨rfl, .inr hg⟩
    · rintro ⟨rfl, -⟩
      rfl
  | some gap =>
    cases policy with
    | strict =>
      refine ⟨nofun, ?_⟩
      rintro ⟨rfl, h | h⟩
      · cases h
      · cases hg.symm.trans h
    | lenient =>
      show Except.ok _ = Except.ok image ↔ _
      rw [Except.ok.injEq]
      constructor
      · rintro rfl
        exact ⟨rfl, .inl rfl⟩
      · rintro ⟨rfl, -⟩
        rfl

/-- The number of rows that an image is made of: those before the gap, or all of
them without one. -/
def rowCount (image : Image) (rows : List Row) : Nat :=
  match image.gap with
  | some gap => gap.row
  | none => rows.length

@[simp] theorem rowCount_upToGap (expected : UInt32) (rows : List Row) :
    (upToGap 0 expected rows).rowCount rows = inPlace expected.toNat rows := by
  rw [rowCount, gap_upToGap]
  cases h : rows[inPlace expected.toNat rows]? with
  | none => exact Nat.le_antisymm (List.getElem?_eq_none_iff.1 h) (inPlace_le_length _ _)
  | some r => exact Nat.zero_add _

/-- An image without a gap holds the bytes of all rows. -/
theorem bytes_of_gap_eq_none {row : Nat} {expected : UInt32} {rows : List Row}
    (h : (upToGap row expected rows).gap = none) :
    (upToGap row expected rows).bytes = rows.flatMap (·.bytes) := by
  rw [gap_upToGap, Option.map_eq_none_iff, List.getElem?_eq_none_iff] at h
  rw [bytes_upToGap, List.take_of_length_le h]

/-! ## Where a byte stands -/

/-- In pieces of one length, an index divides into the number of a piece and an
index there. -/
theorem getElem?_flatMap_of_length {α β : Type} {l : List α} {f : α → List β} {n : Nat}
    (hn : 0 < n) (h : ∀ a ∈ l, (f a).length = n) (i : Nat) :
    (l.flatMap f)[i]? = l[i / n]?.bind fun a => (f a)[i % n]? := by
  induction l generalizing i with
  | nil => rfl
  | cons a l ih =>
    have ha : (f a).length = n := h a List.mem_cons_self
    rw [List.flatMap_cons]
    by_cases hi : i < n
    · rw [List.getElem?_append_left (ha ▸ hi), Nat.div_eq_of_lt hi, Nat.mod_eq_of_lt hi]
      rfl
    · -- behind the first piece both the index and its quotient move on by one piece
      have hle : n ≤ i := Nat.le_of_not_lt hi
      rw [List.getElem?_append_right (ha ▸ hle), ha,
        ih (fun b hb => h b (List.mem_cons_of_mem _ hb)), Nat.div_eq_sub_div hn hle,
        List.getElem?_cons_succ, Nat.mod_eq_sub_mod hle]

theorem length_flatMap_of_length {α β : Type} {l : List α} {f : α → List β} {n : Nat}
    (h : ∀ a ∈ l, (f a).length = n) : (l.flatMap f).length = n * l.length := by
  rw [List.length_flatMap, List.map_congr_left h, List.map_const', List.sum_replicate_nat,
    Nat.mul_comm]

/-- **A dump that is read without a warning keeps every byte at its stated
address**, under both policies: the image has sixteen bytes for each row before
the gap, and the byte at an index is a byte of the row whose number is a
sixteenth of it, stated as far behind the base as the index says. -/
theorem bytes_in_place {t : Text} {rows : List Row} (ht : (Dump.read t).result = .ok rows)
    (hw : ∀ n ∈ (Dump.read t).notices, n.level ≠ .warn) {base : UInt16}
    {policy : GapPolicy} {image : Image}
    (hi : (ofRows base policy rows).result = .ok image) :
    image.bytes.length = 16 * image.rowCount rows ∧
      ∀ i < 16 * image.rowCount rows, ∃ r b, rows[i / 16]? = some r ∧
        r.bytes[i % 16]? = some b ∧ image.bytes[i]? = some b ∧
        r.address.toNat + i % 16 = base.toNat + i := by
  have hsize := Dump.length_bytes_of_no_warning ht hw
  obtain ⟨rfl, -⟩ := ofRows_eq_ok_iff.1 hi
  rw [rowCount_upToGap, UInt16.toNat_toUInt32, bytes_upToGap, UInt16.toNat_toUInt32]
  set m := inPlace base.toNat rows with hm
  have htake : ∀ r ∈ rows.take m, r.bytes.length = 16 :=
    fun r hr => hsize r (List.mem_of_mem_take hr)
  constructor
  · rw [length_flatMap_of_length htake, List.length_take_of_le (inPlace_le_length _ _)]
  · intro i hlt
    -- a row in place is stated sixteen bytes further on for each row before it, and
    -- that many bytes of the image stand before its own
    have hk : i / 16 < m := by omega
    obtain ⟨r, hr, ha⟩ := address_of_lt_inPlace hk
    have hlen : i % 16 < r.bytes.length := by
      rw [hsize r (List.mem_of_getElem? hr)]
      exact Nat.mod_lt i (by decide)
    refine ⟨r, r.bytes[i % 16], hr, List.getElem?_eq_getElem hlen, ?_, ?_⟩
    · rw [getElem?_flatMap_of_length (by decide) htake, List.getElem?_take_of_lt hk, hr]
      exact List.getElem?_eq_getElem hlen
    · rw [ha, rowSize, Nat.add_assoc, Nat.div_add_mod]

/-- Sixteen bytes at the base are kept, and a row behind a gap is not. -/
theorem bytes_in_place_before_gap :
    let t : Text := "200 1 2 3 4 5 6 7 8 9 a b c d e f 10\n".toList
      ++ "230 0 0 0 0 0 0 0 0 0 0 0 0 0 0 0 0".toList
    let rows : List Row := [⟨0x200, [1, 2, 3, 4, 5, 6, 7, 8, 9, 10, 11, 12, 13, 14, 15, 16]⟩,
      ⟨0x230, List.replicate 16 0⟩]
    let image : Image := ⟨[1, 2, 3, 4, 5, 6, 7, 8, 9, 10, 11, 12, 13, 14, 15, 16],
      some ⟨1, 0x230, 0x210⟩⟩
    ((Dump.read t).result = .ok rows ∧ (∀ n ∈ (Dump.read t).notices, n.level ≠ .warn) ∧
      (ofRows 0x200 .lenient rows).result = .ok image) ∧
      image.bytes.length = 16 * image.rowCount rows ∧
        ∀ i < 16 * image.rowCount rows, ∃ r b, rows[i / 16]? = some r ∧
          r.bytes[i % 16]? = some b ∧ image.bytes[i]? = some b ∧
          r.address.toNat + i % 16 = (0x200 : UInt16).toNat + i := by
  intro t rows image
  have ht : (Dump.read t).result = .ok rows := by decide +kernel
  have hw : ∀ n ∈ (Dump.read t).notices, n.level ≠ .warn := by decide +kernel
  have hi : (ofRows 0x200 .lenient rows).result = .ok image := by decide +kernel
  exact ⟨⟨ht, hw, hi⟩, bytes_in_place ht hw hi⟩

end Image

end MemoryListing
