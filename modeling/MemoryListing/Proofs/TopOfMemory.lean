import MemoryListing.Proofs.GapPolicies

/-!
# No dump passes the top of memory

A row states an address of 16 bits, and the builder counts the addresses that it
expects in 32 bits, sixteen for each row. Such a count could fail in two ways. It
could come back to the bottom of memory, and a dump that goes on there would look
as if it were in sequence. Or it could come to its end, where the addition stays
at the greatest value, and would then expect one address of all further rows.

Neither happens, and the reason is the same. The count moves on only behind a row
that is in place, and such a row states the very address that the count is at. So
the count has 16 bits whenever it moves, and it is never more than sixteen above
them. A row that is expected there is out of place whatever it states.

The states of the builder between two rows are `Image.Reaches`: a number of rows
in the image and the address expected of the next one. What one step does to the
count is `Image.nextAddress_of_stated`, what a run does is
`Image.Reaches.toNat_expected`. `Image.stays_within_memory` puts together what
follows for the gaps that are reported and for the number of rows.
-/

namespace MemoryListing

namespace Image

/-- **The builder comes to a row**: it has put the rows ahead of it into the image,
each of them where it was expected, and expects this one at an address. -/
inductive Reaches (base : UInt16) (rows : List Row) : Nat → UInt32 → Prop where
  | start : Reaches base rows 0 base.toUInt32
  | next {k : Nat} {expected : UInt32} {r : Row} (h : Reaches base rows k expected)
      (hr : rows[k]? = some r) (ha : r.address.toUInt32 = expected) :
      Reaches base rows (k + 1) (nextAddress expected)

variable {base : UInt16} {rows : List Row} {k : Nat} {expected : UInt32} {r r' : Row}

/-! ## The count of expected addresses -/

/-- An expected address that a row states has 16 bits. -/
theorem toNat_lt_of_stated (ha : r.address.toUInt32 = expected) :
    expected.toNat < UInt16.size := by
  rw [← toUInt32_eq_iff.1 ha]
  exact r.address.toNat_lt_size

/-- **One step of the count**: behind an address that a row states, the addition does
not come to its end. -/
theorem nextAddress_of_stated (ha : r.address.toUInt32 = expected) :
    expected.toNat + 16 < UInt32.size ∧ nextAddress expected = expected + 16 := by
  have hlt := toNat_lt_of_stated ha
  have hroom : expected.toNat + 16 < UInt32.size := by
    simp only [UInt16.size, UInt32.size] at hlt ⊢
    omega
  exact ⟨hroom, if_pos hroom⟩

/-- **The count of a run** is what counting without bound gives. -/
theorem Reaches.toNat_expected (h : Reaches base rows k expected) :
    expected.toNat = base.toNat + 16 * k := by
  induction h with
  | start => exact UInt16.toNat_toUInt32 base
  | @next k expected r _ _ ha ih =>
    rw [toNat_nextAddress (toNat_lt_of_stated ha), ih, Nat.mul_succ, Nat.add_assoc]
    rfl

/-- What the builder has done when it comes to a row, and what is left for it to do. -/
theorem Reaches.upToGap_eq (h : Reaches base rows k expected) :
    upToGap 0 base.toUInt32 rows
      = ⟨(rows.take k).flatMap (·.bytes) ++ (upToGap k expected (rows.drop k)).bytes,
        (upToGap k expected (rows.drop k)).gap⟩ := by
  induction h with
  | start => rfl
  | @next k expected r _ hr ha ih =>
    obtain ⟨hk, rfl⟩ := List.getElem?_eq_some_iff.1 hr
    have hstep : upToGap k expected (rows.drop k)
        = ⟨rows[k].bytes ++ (upToGap (k + 1) (nextAddress expected) (rows.drop (k + 1))).bytes,
          (upToGap (k + 1) (nextAddress expected) (rows.drop (k + 1))).gap⟩ := by
      rw [List.drop_eq_getElem_cons hk]
      exact if_pos ha
    rw [ih, hstep, List.take_succ_eq_append_getElem hk, List.flatMap_append,
      List.flatMap_singleton, List.append_assoc]

/-- The builder comes to no row behind the first one out of place. -/
theorem Reaches.le_inPlace (h : Reaches base rows k expected) :
    k ≤ inPlace base.toNat rows := by
  induction h with
  | start => exact Nat.zero_le _
  | @next k expected r h hr ha ih =>
    refine Nat.lt_of_le_of_ne ih ?_
    rintro rfl
    exact address_inPlace_ne hr ((toUInt32_eq_iff.1 ha).trans h.toNat_expected)

/-- The builder comes to every row up to the first one out of place. -/
theorem exists_reaches (h : k ≤ inPlace base.toNat rows) :
    ∃ expected, Reaches base rows k expected := by
  induction k with
  | zero => exact ⟨_, .start⟩
  | succ k ih =>
    obtain ⟨expected, hreach⟩ := ih (Nat.le_of_succ_le h)
    obtain ⟨r, hr, ha⟩ := address_of_lt_inPlace (Nat.lt_of_succ_le h)
    exact ⟨_, hreach.next hr (toUInt32_eq_iff.2 (ha.trans hreach.toNat_expected.symm))⟩

/-- **The count of expected addresses is exact** in the run of the builder over a
dump. -/
structure CountsExactly (base : UInt16) (rows : List Row) : Prop where
  /-- The builder comes to all rows of the image, and to what stands behind them. -/
  exists_reaches : ∀ k ≤ (upToGap 0 base.toUInt32 rows).rowCount rows,
    ∃ expected, Reaches base rows k expected
  /-- There the image consists of the rows ahead and of what is still to come. -/
  upToGap_eq : ∀ k expected, Reaches base rows k expected →
    upToGap 0 base.toUInt32 rows
      = ⟨(rows.take k).flatMap (·.bytes) ++ (upToGap k expected (rows.drop k)).bytes,
        (upToGap k expected (rows.drop k)).gap⟩
  /-- The count is what counting without bound gives. -/
  toNat_expected : ∀ k expected, Reaches base rows k expected →
    expected.toNat = base.toNat + 16 * k
  /-- Wherever the count moves on, there is room for the addition. -/
  no_saturation : ∀ k expected r, Reaches base rows k expected → rows[k]? = some r →
    r.address.toUInt32 = expected →
    expected.toNat + 16 < UInt32.size ∧ nextAddress expected = expected + 16

theorem countsExactly (base : UInt16) (rows : List Row) : CountsExactly base rows where
  exists_reaches := by
    intro k hk
    rw [rowCount_upToGap, UInt16.toNat_toUInt32] at hk
    exact exists_reaches hk
  upToGap_eq _ _ h := h.upToGap_eq
  toNat_expected _ _ h := h.toNat_expected
  no_saturation _ _ _ _ _ ha := nextAddress_of_stated ha

/-! ## The rows from a base to the top -/

/-- **How many rows can stand in memory** from a base on. -/
def capacity (base : UInt16) : Nat :=
  (0xffff - base.toNat) / 16 + 1

theorem capacity_le (base : UInt16) : capacity base ≤ 4096 := by
  unfold capacity
  omega

/-- Every row in place takes sixteen addresses of those that a row can state. -/
theorem inPlace_le_capacity (base : UInt16) (rows : List Row) :
    inPlace base.toNat rows ≤ capacity base := by
  cases h : inPlace base.toNat rows with
  | zero => exact Nat.zero_le _
  | succ n =>
    -- the last row in place decides
    have hn : n < inPlace base.toNat rows := h.symm ▸ Nat.lt_succ_self n
    obtain ⟨r, -, ha⟩ := address_of_lt_inPlace hn
    have hlt := r.address.toNat_lt_size
    simp only [UInt16.size, rowSize] at hlt ha
    unfold capacity
    omega

/-- Behind a row at the top of memory no row is in place. -/
theorem inPlace_le_of_top (hr : rows[k]? = some r) (htop : 0xfff0 ≤ r.address.toNat) :
    inPlace base.toNat rows ≤ k + 1 := by
  refine Nat.le_of_not_lt fun hlt => ?_
  obtain ⟨r₁, hr₁, ha₁⟩ := address_of_lt_inPlace (Nat.lt_of_succ_lt hlt)
  obtain ⟨r₂, -, ha₂⟩ := address_of_lt_inPlace hlt
  rw [hr, Option.some.injEq] at hr₁
  subst hr₁
  have hlt₂ := r₂.address.toNat_lt_size
  simp only [UInt16.size, rowSize] at hlt₂ ha₁ ha₂
  omega

/-! ## The gaps -/

/-- **A gap within memory.** -/
structure WithinMemory (base : UInt16) (rows : List Row) (gap : Gap) : Prop where
  /-- It tells what the row with its number states. -/
  stated_eq : ∃ r, rows[gap.row]? = some r ∧ gap.stated = r.address
  /-- The expected address is that of counting without bound. -/
  expected_eq : gap.expected.toNat = base.toNat + 16 * gap.row
  /-- The row states another one. -/
  stated_ne : gap.stated.toNat ≠ gap.expected.toNat
  /-- The expected address is at most sixteen above the addresses of rows. -/
  expected_le : gap.expected.toNat ≤ 0x1000f
  /-- The rows ahead of the gap fit into memory. -/
  row_le : gap.row ≤ capacity base

theorem FirstOutOfPlace.withinMemory (h : FirstOutOfPlace base rows k r) :
    WithinMemory base rows (gapAt base k r) where
  stated_eq := ⟨r, h.getElem?_eq, rfl⟩
  expected_eq := h.toNat_expected
  stated_ne := h.toNat_expected.symm ▸ h.address_ne
  expected_le := h.toNat_expected.symm ▸ Nat.le_of_lt_succ h.expected_lt
  row_le := h.inPlace_eq ▸ inPlace_le_capacity base rows

/-- The gap of an image is made by the first row out of place. -/
theorem exists_firstOutOfPlace {gap : Gap}
    (h : (upToGap 0 base.toUInt32 rows).gap = some gap) :
    ∃ k r, FirstOutOfPlace base rows k r ∧ gap = gapAt base k r := by
  by_contra hno
  have hnone : ∀ k r, ¬ FirstOutOfPlace base rows k r := by
    intro k r hfirst
    refine hno ⟨k, r, hfirst, ?_⟩
    rw [hfirst.upToGap_eq] at h
    exact (Option.some.inj h).symm
  rw [upToGap_of_no_firstOutOfPlace hnone] at h
  cases h

/-- If not all rows are in place, the first one that is not makes the gap. -/
theorem exists_gap_of_inPlace_lt (h : inPlace base.toNat rows < rows.length) :
    ∃ r, FirstOutOfPlace base rows (inPlace base.toNat rows) r ∧
      (upToGap 0 base.toUInt32 rows).gap = some (gapAt base (inPlace base.toNat rows) r) := by
  have hfirst := firstOutOfPlace_inPlace (List.getElem?_eq_getElem h)
  exact ⟨_, hfirst, congrArg Image.gap hfirst.upToGap_eq⟩

/-- Without a gap all rows are in place. -/
theorem length_le_of_no_gap (h : (upToGap 0 base.toUInt32 rows).gap = none) :
    rows.length ≤ inPlace base.toNat rows := by
  refine Nat.le_of_not_lt fun hlt => ?_
  obtain ⟨r, -, hgap⟩ := exists_gap_of_inPlace_lt hlt
  rw [h] at hgap
  cases hgap

/-- **A row behind one at the top of memory is out of place**, whatever it states. It is
the gap if the builder comes to it, and otherwise the gap is a row ahead of it. -/
theorem exists_gap_behind_top (hr : rows[k]? = some r) (htop : 0xfff0 ≤ r.address.toNat)
    (hr' : rows[k + 1]? = some r') :
    ∃ gap, (upToGap 0 base.toUInt32 rows).gap = some gap ∧ gap.row ≤ k + 1 ∧
      ∀ expected, Reaches base rows (k + 1) expected →
        gap.row = k + 1 ∧ gap.stated = r'.address ∧ 0xffff < gap.expected.toNat := by
  have hle : inPlace base.toNat rows ≤ k + 1 := inPlace_le_of_top hr htop
  obtain ⟨hk, -⟩ := List.getElem?_eq_some_iff.1 hr'
  obtain ⟨r₁, hfirst, hgap⟩ := exists_gap_of_inPlace_lt (Nat.lt_of_le_of_lt hle hk)
  refine ⟨_, hgap, hle, fun expected hreach => ?_⟩
  have hrow : inPlace base.toNat rows = k + 1 := Nat.le_antisymm hle hreach.le_inPlace
  rw [hrow] at hfirst ⊢
  -- the row at the top is in place, so what is expected behind it lies above memory
  have ha := hfirst.address_eq k (Nat.lt_succ_self k) r hr
  obtain rfl : r₁ = r' := Option.some.inj (hfirst.getElem?_eq.symm.trans hr')
  refine ⟨rfl, rfl, ?_⟩
  rw [hfirst.toNat_expected]
  omega

/-! ## Every dump -/

/-- **No dump passes the top of memory**, whatever the base and the policy. A gap that
is reported tells the address of counting without bound, and the rows ahead of it fit
into memory. So do all rows of a dump without a gap, of which there are at most 4096,
and more rows than fit always have a gap. The count of expected addresses never comes
to its end. And a row behind one that is stated in the last sixteen addresses is never
part of an image: it is reported, unless a row ahead of it already is. -/
theorem stays_within_memory (base : UInt16) (policy : GapPolicy) (rows : List Row) :
    (∀ gap, reportedGap (ofRows base policy rows).result = some gap →
      WithinMemory base rows gap) ∧
    (reportedGap (ofRows base policy rows).result = none → rows.length ≤ capacity base) ∧
    capacity base ≤ 4096 ∧
    (capacity base < rows.length →
      ∃ gap, reportedGap (ofRows base policy rows).result = some gap) ∧
    CountsExactly base rows ∧
    ∀ k r r', rows[k]? = some r → 0xfff0 ≤ r.address.toNat → rows[k + 1]? = some r' →
      ∃ gap, reportedGap (ofRows base policy rows).result = some gap ∧ gap.row ≤ k + 1 ∧
        ∀ expected, Reaches base rows (k + 1) expected →
          gap.row = k + 1 ∧ gap.stated = r'.address ∧ 0xffff < gap.expected.toNat := by
  rw [reportedGap_ofRows]
  refine ⟨?_, ?_, capacity_le base, ?_, countsExactly base rows, ?_⟩
  · intro gap hgap
    obtain ⟨k, r, hfirst, rfl⟩ := exists_firstOutOfPlace hgap
    exact hfirst.withinMemory
  · intro hgap
    exact Nat.le_trans (length_le_of_no_gap hgap) (inPlace_le_capacity base rows)
  · intro hlength
    obtain ⟨r, -, hgap⟩ :=
      exists_gap_of_inPlace_lt (Nat.lt_of_le_of_lt (inPlace_le_capacity base rows) hlength)
    exact ⟨_, hgap⟩
  · intro k r r' hr htop hr'
    exact exists_gap_behind_top hr htop hr'

/-- A dump that goes on at the address that sixteen bits would wrap to. -/
theorem stays_within_memory_of_wrapped_row :
    let rows : List Row := [⟨0xfff8, [1]⟩, ⟨0x0008, [2]⟩]
    let gap : Gap := ⟨1, 0x0008, 0x10008⟩
    (reportedGap (ofRows 0xfff8 .lenient rows).result = some gap ∧
      capacity 0xfff8 < rows.length ∧ Reaches 0xfff8 rows 1 0x10008) ∧
      WithinMemory 0xfff8 rows gap ∧
        ∃ gap', reportedGap (ofRows 0xfff8 .lenient rows).result = some gap' ∧
          gap'.row = 1 ∧ gap'.stated = 0x0008 ∧ 0xffff < gap'.expected.toNat := by
  intro rows gap
  have hgap : reportedGap (ofRows 0xfff8 .lenient rows).result = some gap := by decide
  have hreach : Reaches 0xfff8 rows 1 0x10008 := Reaches.start.next rfl rfl
  obtain ⟨hwithin, -, -, -, -, htop⟩ := stays_within_memory 0xfff8 .lenient rows
  obtain ⟨gap', hgap', -, hrow⟩ := htop 0 _ _ rfl (by decide) rfl
  exact ⟨⟨hgap, by decide, hreach⟩, hwithin gap hgap, gap', hgap', hrow _ hreach⟩

end Image

end MemoryListing
