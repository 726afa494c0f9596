import MemoryListing.Proofs.TableText

/-!
# Which shared addresses are noticed

Printing a declared table is preceded by a look at the addresses of its symbols,
since an address can be a key once only. What is noticed then is exact: one notice
for each address that several symbols share, in ascending order, and none for any
other address. `SymbolTable.TellsShared` says this of a list of addresses, and no two
lists are like that (`SymbolTable.TellsShared.unique`). It speaks of the addresses of
the symbols as often as they occur and not of their order, so lists with the same
symbols in different orders are noticed alike.

The look is one pass over the symbols that counts for each address how often it has
occurred (`SymbolTable.countOne`), and then takes the addresses that were counted
more than once (`SymbolTable.repeated`). The pass keeps the counts of the symbols it
has seen: `SymbolTable.Counts.countOne` is its step, `SymbolTable.Counts.foldl` a whole
run. At its end it has found the shared addresses, however often each of them occurred
and however far apart (`SymbolTable.tellsShared_sharedAddresses`).

Noticing changes nothing in what is printed. `SymbolTable.shared_addresses_noticed`
says of every list of symbols what is noticed and that all of them are printed.
-/

namespace MemoryListing

namespace SymbolTable

variable {symbols symbols' : List Symbol} {addresses addresses' : List UInt16}

/-! ## The addresses that several symbols share -/

/-- **Addresses tell what symbols share**: they ascend, and they are those of more
than one symbol. -/
structure TellsShared (addresses : List UInt16) (symbols : List Symbol) : Prop where
  /-- Each is greater than the one before it. -/
  ascending : addresses.Pairwise (· < ·)
  /-- An address is among them if at least two symbols have it, and only then. -/
  mem_iff : ∀ a, a ∈ addresses ↔ 2 ≤ (symbols.map (·.address)).count a

theorem TellsShared.nodup (h : TellsShared addresses symbols) : addresses.Nodup :=
  h.ascending.imp UInt16.ne_of_lt

/-- **The addresses that symbols share** are determined by the addresses of the
symbols, whatever their order. -/
theorem TellsShared.unique (h : TellsShared addresses symbols)
    (h' : TellsShared addresses' symbols') (hperm : symbols'.Perm symbols) :
    addresses' = addresses := by
  have hmem : ∀ a, a ∈ addresses' ↔ a ∈ addresses := by
    intro a
    rw [h'.mem_iff, h.mem_iff, (hperm.map _).count_eq]
  refine List.Perm.eq_of_pairwise ?_ h'.ascending h.ascending
    ((List.perm_ext_iff_of_nodup h'.nodup h.nodup).2 hmem)
  exact fun a b _ _ hab hba => absurd hba (UInt16.lt_asymm hab)

/-! ## Counting them -/

/-- **Counts are those of some symbols**: they stand in the order of the addresses, every
address that occurs has its number of symbols, and no other address has a number. -/
structure Counts (counts : List (UInt16 × Nat)) (symbols : List Symbol) : Prop where
  /-- Each address is greater than the one before it. -/
  ascending : counts.Pairwise fun p q => p.1 < q.1
  /-- The number of an address is that of its symbols, and it is not zero. -/
  mem_iff : ∀ a n, (a, n) ∈ counts ↔ (symbols.map (·.address)).count a = n ∧ 0 < n

variable {counts : List (UInt16 × Nat)} {s : Symbol} {a : UInt16} {n : Nat}

theorem counts_nil : Counts [] [] := by
  refine ⟨.nil, fun a n => ⟨nofun, ?_⟩⟩
  rintro ⟨rfl, hpos⟩
  exact absurd hpos (Nat.lt_irrefl 0)

/-- At another address nothing is counted. -/
theorem mem_countOne_of_ne (ha : a ≠ s.address) :
    (a, n) ∈ countOne counts s ↔ (a, n) ∈ counts := by
  have hnew : ∀ m, (a, n) ≠ (s.address, m) := fun m h => ha (Prod.mk.inj h).1
  induction counts with
  | nil => simp [countOne, ha]
  | cons p rest ih =>
    obtain ⟨b, m⟩ := p
    unfold countOne
    split
    · rw [List.mem_cons, or_iff_right (hnew 1)]
    · split
      next heq =>
        rw [← heq, List.mem_cons, List.mem_cons, or_iff_right (hnew _), or_iff_right (hnew _)]
      next =>
        rw [List.mem_cons, List.mem_cons]
        exact or_congr_right ih

/-- At the address of the symbol the number grows by one. -/
theorem mem_countOne_self (hasc : counts.Pairwise fun p q => p.1 < q.1) :
    (s.address, n) ∈ countOne counts s ↔
      (∃ m, (s.address, m) ∈ counts ∧ n = m + 1) ∨ n = 1 ∧ ∀ m, (s.address, m) ∉ counts := by
  induction counts with
  | nil => simp [countOne]
  | cons p rest ih =>
    obtain ⟨hfirst, hrest⟩ := List.pairwise_cons.1 hasc
    have ih := ih hrest
    -- the address is ahead of the first one, is the first one, or is behind it
    unfold countOne
    split
    next hlt =>
      have hnone : ∀ m, (s.address, m) ∉ p :: rest := by grind
      simp [hnone]
    next =>
      split
      next heq => grind
      next hne =>
        have hp : ∀ m, (s.address, m) ≠ p := by grind
        simp only [List.mem_cons, hp, false_or]
        exact ih

theorem pairwise_countOne (hasc : counts.Pairwise fun p q => p.1 < q.1) (s : Symbol) :
    (countOne counts s).Pairwise fun p q => p.1 < q.1 := by
  induction counts with
  | nil => exact List.pairwise_singleton _ _
  | cons p rest ih =>
    obtain ⟨hfirst, hrest⟩ := List.pairwise_cons.1 hasc
    have ih := ih hrest
    unfold countOne
    split
    next hlt =>
      refine List.pairwise_cons.2 ⟨?_, hasc⟩
      grind [UInt16.lt_trans]
    next =>
      split
      next heq => exact List.pairwise_cons.2 ⟨hfirst, hrest⟩
      next hne =>
        refine List.pairwise_cons.2 ⟨?_, ih⟩
        rintro ⟨a, n⟩ hmem
        by_cases ha : a = s.address
        · grind
        · exact hfirst _ ((mem_countOne_of_ne ha).1 hmem)

/-- The number of an address is found among the counts, or it is zero and not found. -/
theorem Counts.not_mem_iff (h : Counts counts symbols) :
    (∀ n, (a, n) ∉ counts) ↔ (symbols.map (·.address)).count a = 0 := by
  simp only [h.mem_iff, not_and]
  grind

/-- **One step**: a symbol is counted behind those that were counted before. -/
theorem Counts.countOne (h : Counts counts symbols) (s : Symbol) :
    Counts (countOne counts s) (symbols ++ [s]) := by
  refine ⟨pairwise_countOne h.ascending s, fun a n => ?_⟩
  rw [List.map_append, List.count_append, List.map_singleton]
  by_cases ha : a = s.address
  · subst ha
    rw [mem_countOne_self h.ascending, h.not_mem_iff, List.count_singleton_self]
    simp only [h.mem_iff]
    grind
  · have hnone : a ∉ [s.address] := fun hmem => ha (List.mem_singleton.1 hmem)
    rw [mem_countOne_of_ne ha, h.mem_iff, List.count_eq_zero_of_not_mem hnone, Nat.add_zero]

/-- **A run** over further symbols counts all of them. -/
theorem Counts.foldl (h : Counts counts symbols) (more : List Symbol) :
    Counts (more.foldl SymbolTable.countOne counts) (symbols ++ more) := by
  induction more generalizing counts symbols with
  | nil =>
    rw [List.append_nil]
    exact h
  | cons s more ih =>
    have hstep := ih (h.countOne s)
    rwa [List.append_assoc] at hstep

/-- **The addresses counted more than once** are those that the symbols share. -/
theorem Counts.tellsShared (h : Counts counts symbols) :
    TellsShared (repeated counts) symbols where
  ascending := List.pairwise_map.2 (h.ascending.filter _)
  mem_iff a := by
    have hmem : a ∈ repeated counts ↔ ∃ n, (a, n) ∈ counts ∧ 1 < n := by
      simp [repeated]
    rw [hmem]
    simp only [h.mem_iff]
    grind

/-- **The shared addresses** are what symbols share. -/
theorem tellsShared_sharedAddresses (symbols : List Symbol) :
    TellsShared (sharedAddresses symbols) symbols :=
  (counts_nil.foldl symbols).tellsShared

/-! ## What is noticed, and what is printed -/

/-- **No address is noticed as shared** if all addresses differ, and only then. -/
theorem no_sharedAddress_iff {symbols : List Symbol} :
    (∀ a, Notice.sharedAddress a ∉ (print .wrapped symbols).notices) ↔
      (symbols.map (·.address)).Nodup := by
  rw [List.nodup_iff_count_le_one]
  constructor
  · intro h a
    refine Nat.le_of_not_lt fun hcount => h a ?_
    exact List.mem_map_of_mem (((tellsShared_sharedAddresses symbols).mem_iff a).2 hcount)
  · intro h a hmem
    obtain ⟨b, hb, -⟩ := List.mem_map.1 hmem
    exact absurd (((tellsShared_sharedAddresses symbols).mem_iff b).1 hb) (Nat.not_lt_of_le (h b))

/-- **Lists with the same symbols** share the same addresses. -/
theorem sharedAddresses_perm (h : symbols'.Perm symbols) :
    sharedAddresses symbols' = sharedAddresses symbols :=
  (tellsShared_sharedAddresses symbols).unique (tellsShared_sharedAddresses symbols') h

theorem notices_print_wrapped (symbols : List Symbol) :
    (print .wrapped symbols).notices = (sharedAddresses symbols).map .sharedAddress :=
  rfl

/-- **Nothing is noticed** if all addresses differ, and only then. -/
theorem notices_print_eq_nil_iff :
    (print .wrapped symbols).notices = [] ↔ (symbols.map (·.address)).Nodup := by
  rw [← no_sharedAddress_iff, notices_print_wrapped, List.map_eq_nil_iff,
    List.eq_nil_iff_forall_not_mem]
  refine forall_congr' fun a => not_congr ?_
  rw [List.mem_map_of_injective fun _ _ => Notice.sharedAddress.inj]

/-- **What is noticed of a declared table is exact**, for every list of symbols and
whatever their order: a warning for each address that at least two of them have, in
ascending order, and none for another address. They are found by one pass that counts
the addresses. So nothing is noticed just if all addresses differ, and lists with the
same symbols, such as a list and its table, are noticed alike. Nothing is ever noticed
of a bare table, and in either layout every symbol is printed, in the order given. -/
theorem shared_addresses_noticed (symbols : List Symbol) :
    (∃ addresses, TellsShared addresses symbols ∧
      (print .wrapped symbols).notices = addresses.map .sharedAddress ∧
      repeated (symbols.foldl countOne ∅) = addresses) ∧
    (∀ a, (Notice.sharedAddress a).line
      = "WARN several symbols at ".toList ++ Hex.prefixed 4 a.toNat
        ++ ", wrapped table has duplicate keys".toList) ∧
    ((print .wrapped symbols).notices = [] ↔ (symbols.map (·.address)).Nodup) ∧
    (∀ symbols', symbols'.Perm symbols →
      (print .wrapped symbols').notices = (print .wrapped symbols).notices) ∧
    (print .wrapped (sort symbols)).notices = (print .wrapped symbols).notices ∧
    (print .body symbols).notices = [] ∧
    ∃ lines, List.Forall₂ Shows lines symbols ∧
      (print .body symbols).result = Text.unlines lines ∧
      (print .wrapped symbols).result
        = Text.unlines (openingLine :: (lines ++ [closingLine])) := by
  have hperm : ∀ symbols', symbols'.Perm symbols →
      (print .wrapped symbols').notices = (print .wrapped symbols).notices := by
    intro symbols' h
    rw [notices_print_wrapped, notices_print_wrapped, sharedAddresses_perm h]
  refine ⟨?_, fun _ => rfl, notices_print_eq_nil_iff, hperm, hperm _ (sort_perm symbols), rfl,
    ?_⟩
  · exact ⟨_, tellsShared_sharedAddresses symbols, rfl, rfl⟩
  · refine ⟨symbols.map lineText, ?_, listing_body_eq symbols, listing_wrapped_eq symbols⟩
    rw [List.forall₂_map_left_iff]
    exact List.forall₂_same.2 fun s _ => shows_lineText s

/-- Addresses that occur twice and three times, with others between them. -/
theorem shared_addresses_noticed_of_reversed_list :
    let symbols : List Symbol := [⟨"a".toList, 0x10⟩, ⟨"b".toList, 2⟩, ⟨"c".toList, 0x10⟩,
      ⟨"d".toList, 3⟩, ⟨"e".toList, 2⟩, ⟨"f".toList, 0x10⟩]
    symbols.reverse.Perm symbols ∧
      (print .wrapped symbols.reverse).notices = [.sharedAddress 2, .sharedAddress 0x10] := by
  intro symbols
  have hperm : symbols.reverse.Perm symbols := List.reverse_perm symbols
  obtain ⟨⟨addresses, -, hnotices, hcounted⟩, -, -, hsame, -⟩ := shared_addresses_noticed symbols
  have hrepeated : repeated (symbols.foldl countOne ∅) = [2, 0x10] := by decide +kernel
  refine ⟨hperm, ?_⟩
  rw [hsame _ hperm, hnotices, ← hcounted, hrepeated]
  rfl

end SymbolTable

end MemoryListing
