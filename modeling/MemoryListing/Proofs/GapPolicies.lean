import MemoryListing.Proofs.Contiguity

/-!
# What the policies make of a dump

The policies differ in what they do about a gap and in nothing else. Where the gap is
does not depend on them: it is the first row that does not state the base and sixteen
for each row ahead of it (`Image.FirstOutOfPlace`). The strict policy reports it. The
lenient one reports the same gap beside the image that the rows ahead of it make, and
that is the image that the strict policy makes of these rows alone.
`Image.policies_agree` says so of every dump.

The builder looks at the stated addresses one after the other and stops at the gap.
Rows behind the gap are therefore not looked at, and how many bytes a row holds is
looked at nowhere.
-/

namespace MemoryListing

namespace Image

/-- **The first row out of place.** Addresses are counted without bound. -/
structure FirstOutOfPlace (base : UInt16) (rows : List Row) (k : Nat) (r : Row) : Prop where
  /-- The row has this number. -/
  getElem?_eq : rows[k]? = some r
  /-- It does not state the address that its number asks for. -/
  address_ne : r.address.toNat ≠ base.toNat + 16 * k
  /-- Every row ahead of it does. -/
  address_eq : ∀ j < k, ∀ r', rows[j]? = some r' → r'.address.toNat = base.toNat + 16 * j

variable {base : UInt16} {rows : List Row} {k : Nat} {r : Row}

/-! ## The gap by the first row out of place -/

/-- The row behind those in place is the first one out of place. -/
theorem firstOutOfPlace_inPlace (h : rows[inPlace base.toNat rows]? = some r) :
    FirstOutOfPlace base rows (inPlace base.toNat rows) r where
  getElem?_eq := h
  address_ne := address_inPlace_ne h
  address_eq := by
    intro j hj r' hr'
    obtain ⟨r'', hr'', ha⟩ := address_of_lt_inPlace hj
    rw [hr'] at hr''
    cases hr''
    exact ha

/-- **The rows ahead of the first one out of place are those in place.** -/
theorem FirstOutOfPlace.inPlace_eq (h : FirstOutOfPlace base rows k r) :
    inPlace base.toNat rows = k := by
  obtain ⟨hk, -⟩ := List.getElem?_eq_some_iff.1 h.getElem?_eq
  rcases Nat.lt_trichotomy (inPlace base.toNat rows) k with hlt | heq | hgt
  · have hr := List.getElem?_eq_getElem (Nat.lt_trans hlt hk)
    exact absurd (h.address_eq _ hlt _ hr) (address_inPlace_ne hr)
  · exact heq
  · obtain ⟨r', hr', ha⟩ := address_of_lt_inPlace hgt
    rw [h.getElem?_eq] at hr'
    cases hr'
    exact absurd ha h.address_ne

/-- The address expected of it is at most sixteen above those that a row can state. -/
theorem FirstOutOfPlace.expected_lt (h : FirstOutOfPlace base rows k r) :
    base.toNat + 16 * k < UInt16.size + 16 := by
  cases k with
  | zero => exact Nat.lt_add_right 16 base.toNat_lt_size
  | succ j =>
    -- the row ahead of it states the address sixteen below
    obtain ⟨hk, -⟩ := List.getElem?_eq_some_iff.1 h.getElem?_eq
    obtain ⟨r', hr⟩ : ∃ r', rows[j]? = some r' :=
      ⟨_, List.getElem?_eq_getElem (Nat.lt_of_succ_lt hk)⟩
    have ha := h.address_eq j (Nat.lt_succ_self j) r' hr
    have hlt := r'.address.toNat_lt_size
    omega

/-- The gap that the first row out of place makes. -/
def gapAt (base : UInt16) (k : Nat) (r : Row) : Gap :=
  ⟨k, r.address, UInt32.ofNat (base.toNat + 16 * k)⟩

/-- The builder counts far enough for the expected address of a gap. -/
theorem FirstOutOfPlace.toNat_expected (h : FirstOutOfPlace base rows k r) :
    (gapAt base k r).expected.toNat = base.toNat + 16 * k := by
  have hlt := h.expected_lt
  refine UInt32.toNat_ofNat_of_lt ?_
  simp only [UInt16.size, UInt32.size] at hlt ⊢
  omega

/-- **The image up to a gap**: the bytes of the rows ahead of the first one out of
place, and the gap that this row makes. -/
theorem FirstOutOfPlace.upToGap_eq (h : FirstOutOfPlace base rows k r) :
    upToGap 0 base.toUInt32 rows = ⟨(rows.take k).flatMap (·.bytes), some (gapAt base k r)⟩ := by
  have hbytes := bytes_upToGap 0 base.toUInt32 rows
  have hgap := gap_upToGap 0 base.toUInt32 rows
  rw [UInt16.toNat_toUInt32, h.inPlace_eq] at hbytes hgap
  rw [h.getElem?_eq, Nat.zero_add] at hgap
  rw [← hbytes]
  exact congrArg (Image.mk _) hgap

/-- **The image without a gap**: the bytes of all rows. -/
theorem upToGap_of_no_firstOutOfPlace (h : ∀ k r, ¬ FirstOutOfPlace base rows k r) :
    upToGap 0 base.toUInt32 rows = ⟨rows.flatMap (·.bytes), none⟩ := by
  have hgap : (upToGap 0 base.toUInt32 rows).gap = none := by
    rw [gap_upToGap, UInt16.toNat_toUInt32, Option.map_eq_none_iff,
      Option.eq_none_iff_forall_ne_some]
    exact fun r hr => h _ r (firstOutOfPlace_inPlace hr)
  rw [← bytes_of_gap_eq_none hgap]
  exact congrArg (Image.mk _) hgap

/-! ## What becomes of an image -/

/-- An image without a gap is the result under either policy. -/
theorem ofRows_of_no_gap {bytes : List UInt8}
    (h : upToGap 0 base.toUInt32 rows = ⟨bytes, none⟩) (policy : GapPolicy) :
    ofRows base policy rows = ⟨[.imageBuilt bytes.length], .ok ⟨bytes, none⟩⟩ := by
  unfold ofRows
  rw [h]

/-- Under the strict policy a gap is the result. -/
theorem ofRows_strict_of_gap {bytes : List UInt8} {gap : Gap}
    (h : upToGap 0 base.toUInt32 rows = ⟨bytes, some gap⟩) :
    ofRows base .strict rows = ⟨[], .error gap⟩ := by
  unfold ofRows
  rw [h]

/-- Under the lenient policy the image is the result, with the gap. -/
theorem ofRows_lenient_of_gap {bytes : List UInt8} {gap : Gap}
    (h : upToGap 0 base.toUInt32 rows = ⟨bytes, some gap⟩) :
    ofRows base .lenient rows
      = ⟨[.imageCut gap bytes.length, .imageBuilt bytes.length], .ok ⟨bytes, some gap⟩⟩ := by
  unfold ofRows
  rw [h]

/-- The gap that a result reports, as an error or beside an image. -/
def reportedGap : Except Gap Image → Option Gap
  | .error gap => some gap
  | .ok image => image.gap

/-- **Either policy reports the gap of the image.** -/
theorem reportedGap_ofRows (base : UInt16) (policy : GapPolicy) (rows : List Row) :
    reportedGap (ofRows base policy rows).result = (upToGap 0 base.toUInt32 rows).gap := by
  rcases h : upToGap 0 base.toUInt32 rows with ⟨bytes, _ | gap⟩
  · rw [ofRows_of_no_gap h]
    rfl
  · cases policy with
    | strict => rw [ofRows_strict_of_gap h]; rfl
    | lenient => rw [ofRows_lenient_of_gap h]; rfl

/-! ## What is not looked at -/

/-- Rows behind the first one out of place do not matter. -/
theorem FirstOutOfPlace.take_append (h : FirstOutOfPlace base rows k r) (rest : List Row) :
    FirstOutOfPlace base (rows.take (k + 1) ++ rest) k r := by
  obtain ⟨hk, -⟩ := List.getElem?_eq_some_iff.1 h.getElem?_eq
  have hsame : ∀ j ≤ k, (rows.take (k + 1) ++ rest)[j]? = rows[j]? := by
    intro j hj
    have hlt : j < (rows.take (k + 1)).length := by
      rw [List.length_take_of_le hk]
      exact Nat.lt_succ_of_le hj
    rw [List.getElem?_append_left hlt, List.getElem?_take_of_lt (Nat.lt_succ_of_le hj)]
  refine ⟨(hsame k (Nat.le_refl k)).trans h.getElem?_eq, h.address_ne, ?_⟩
  intro j hj r' hr'
  exact h.address_eq j hj r' ((hsame j (Nat.le_of_lt hj)).symm.trans hr')

/-- Ahead of the first row out of place there is no gap. -/
theorem FirstOutOfPlace.no_firstOutOfPlace_take (h : FirstOutOfPlace base rows k r) :
    ∀ j r', ¬ FirstOutOfPlace base (rows.take k) j r' := by
  intro j r' h'
  have hr' := h'.getElem?_eq
  rw [List.getElem?_take] at hr'
  split at hr'
  next hj => exact h'.address_ne (h.address_eq j hj r' hr')
  next => cases hr'

/-- Rows that state the same addresses are in place alike. -/
theorem inPlace_congr {rows' : List Row} (h : rows'.map (·.address) = rows.map (·.address))
    (expected : Nat) : inPlace expected rows' = inPlace expected rows := by
  induction rows generalizing rows' expected with
  | nil => rw [List.map_eq_nil_iff.1 h]
  | cons r rows ih =>
    obtain ⟨r', rows', rfl, hr, hrows⟩ := List.map_eq_cons_iff.1 h
    rw [inPlace, inPlace, hr, ih hrows]

/-- **Where the gap is depends on the stated addresses alone.** -/
theorem gap_upToGap_congr {rows' : List Row}
    (h : rows'.map (·.address) = rows.map (·.address)) (row : Nat) (expected : UInt32) :
    (upToGap row expected rows').gap = (upToGap row expected rows).gap := by
  have hstated : ∀ (l : List Row) (m : Nat), l[m]?.map (fun r =>
      (⟨row + m, r.address, UInt32.ofNat (expected.toNat + rowSize * m)⟩ : Gap))
      = (l.map (·.address))[m]?.map fun a =>
        ⟨row + m, a, UInt32.ofNat (expected.toNat + rowSize * m)⟩ := by
    intro l m
    rw [List.getElem?_map, Option.map_map]
    rfl
  rw [gap_upToGap, gap_upToGap, inPlace_congr h, hstated, hstated, h]

/-! ## Both policies -/

/-- **What the policies make of a dump with a gap.** -/
structure EndsAtGap (base : UInt16) (rows : List Row) (gap : Gap) (bytes : List UInt8) :
    Prop where
  /-- The rows ahead of the gap, taken alone, make an image of the bytes. -/
  rows_before : ofRows base .strict (rows.take gap.row)
    = ⟨[.imageBuilt bytes.length], .ok ⟨bytes, none⟩⟩
  /-- The strict policy fails with the gap and notices nothing. -/
  strict : ofRows base .strict rows = ⟨[], .error gap⟩
  /-- The lenient policy keeps these bytes, reports the gap and notices both. -/
  lenient : ofRows base .lenient rows
    = ⟨[.imageCut gap bytes.length, .imageBuilt bytes.length], .ok ⟨bytes, some gap⟩⟩
  /-- Whatever stands behind the row at the gap changes nothing. -/
  rows_behind : ∀ policy rest,
    ofRows base policy (rows.take (gap.row + 1) ++ rest) = ofRows base policy rows

theorem FirstOutOfPlace.endsAtGap (h : FirstOutOfPlace base rows k r) :
    EndsAtGap base rows (gapAt base k r) ((rows.take k).flatMap (·.bytes)) where
  rows_before :=
    ofRows_of_no_gap (upToGap_of_no_firstOutOfPlace h.no_firstOutOfPlace_take) .strict
  strict := ofRows_strict_of_gap h.upToGap_eq
  lenient := ofRows_lenient_of_gap h.upToGap_eq
  rows_behind := by
    intro policy rest
    have hbehind := (h.take_append rest).upToGap_eq
    rw [List.take_append_of_le_length ?_, List.take_take] at hbehind
    · rw [Nat.min_eq_left (Nat.le_succ k), ← h.upToGap_eq] at hbehind
      unfold ofRows
      rw [← hbehind]
      rfl
    · obtain ⟨hk, -⟩ := List.getElem?_eq_some_iff.1 h.getElem?_eq
      rw [List.length_take_of_le hk]
      exact Nat.le_succ k

/-- The line of a log about an image that a gap ends. -/
theorem line_imageCut (gap : Gap) (size : Nat) :
    (Notice.imageCut gap size).line
      = "WARN row ".toList ++ Text.decimal gap.row ++ " stated at ".toList
        ++ Hex.digits 4 gap.stated.toNat ++ ", expected ".toList
        ++ Hex.digits 4 gap.expected.toNat ++ ", truncating image at ".toList
        ++ Text.decimal size ++ " bytes".toList :=
  rfl

/-- The line of a log about an image that was built. -/
theorem line_imageBuilt (size : Nat) :
    (Notice.imageBuilt size).line
      = "DEBUG built memory image of ".toList ++ Text.decimal size ++ " bytes".toList :=
  rfl

/-- **The policies agree on every dump**, up to what they do about a gap. Without a row
out of place both give the bytes of all rows, and no gap. With one, the first of them is
the gap that both report, and the rows ahead of it make the image that is kept or
refused. How many bytes the rows hold does not matter for which row is reported. What is
noticed about a gap and about an image goes to the log in two lines of different level. -/
theorem policies_agree (base : UInt16) (rows : List Row) :
    ((∀ k r, ¬ FirstOutOfPlace base rows k r) → ∀ policy,
      ofRows base policy rows
        = ⟨[.imageBuilt (rows.flatMap (·.bytes)).length], .ok ⟨rows.flatMap (·.bytes), none⟩⟩) ∧
    (∀ k r, FirstOutOfPlace base rows k r → ∃ gap bytes,
      gap.row = k ∧ gap.stated = r.address ∧ gap.expected.toNat = base.toNat + 16 * k ∧
      EndsAtGap base rows gap bytes) ∧
    (∀ rows', rows'.map (·.address) = rows.map (·.address) → ∀ policy policy',
      reportedGap (ofRows base policy' rows').result
        = reportedGap (ofRows base policy rows).result) ∧
    ∀ gap size,
      (Notice.imageCut gap size).line
        = "WARN row ".toList ++ Text.decimal gap.row ++ " stated at ".toList
          ++ Hex.digits 4 gap.stated.toNat ++ ", expected ".toList
          ++ Hex.digits 4 gap.expected.toNat ++ ", truncating image at ".toList
          ++ Text.decimal size ++ " bytes".toList ∧
      (Notice.imageBuilt size).line
        = "DEBUG built memory image of ".toList ++ Text.decimal size ++ " bytes".toList := by
  refine ⟨?_, ?_, ?_, fun gap size => ⟨line_imageCut gap size, line_imageBuilt size⟩⟩
  · intro h policy
    exact ofRows_of_no_gap (upToGap_of_no_firstOutOfPlace h) policy
  · intro k r h
    exact ⟨gapAt base k r, _, rfl, rfl, h.toNat_expected, h.endsAtGap⟩
  · intro rows' h policy policy'
    rw [reportedGap_ofRows, reportedGap_ofRows, gap_upToGap_congr h]

/-- A row without bytes is out of place, and the row behind it is where it was expected. -/
theorem policies_agree_behind_gap :
    let rows : List Row := [⟨0x200, [1]⟩, ⟨0x230, []⟩, ⟨0x210, [2]⟩]
    FirstOutOfPlace 0x200 rows 1 ⟨0x230, []⟩ ∧
      ∃ gap bytes, gap.row = 1 ∧ gap.stated = 0x230 ∧ gap.expected.toNat = 0x210 ∧
        EndsAtGap 0x200 rows gap bytes := by
  intro rows
  have h : FirstOutOfPlace 0x200 rows 1 ⟨0x230, []⟩ := by
    refine ⟨rfl, by decide, ?_⟩
    intro j hj r' hr'
    obtain rfl := Nat.lt_one_iff.1 hj
    cases hr'
    rfl
  exact ⟨h, (policies_agree 0x200 rows).2.1 1 _ h⟩

end Image

end MemoryListing
