import Mathlib.Data.List.Pairwise
import MemoryListing.Proofs.TableOrder

/-!
# A table is the stable sort of its list

Two things are asked of a table: addresses never descend in it, and the symbols at
any one address are those of the list at that address, as often as there and in that
order. Together these say all there is to say. A list with both properties
(`SymbolTable.StablyOrders`) is the table (`SymbolTable.StablyOrders.eq_sort`), so
nothing else, such as the names, can have had a part in the order.

That the symbols at an address keep their order is not asked about pairs of symbols,
since equal symbols could not be told apart then. It is asked about the list of all
symbols at the address, `SymbolTable.symbolsAt`.

One consequence concerns tables that are extended: a table with more symbols behind
it is sorted into the table that its list would have given with these symbols behind
it. `SymbolTable.sorted_stably` states everything at once.
-/

namespace MemoryListing

namespace SymbolTable

/-- **The symbols at an address**, in the order of the list. -/
def symbolsAt (a : UInt16) (symbols : List Symbol) : List Symbol :=
  symbols.filter fun s => s.address = a

/-- **A table orders a list stably.** -/
structure StablyOrders (table symbols : List Symbol) : Prop where
  /-- Addresses never descend. -/
  ascending : table.Pairwise fun s s' => s.address ≤ s'.address
  /-- The symbols at each address are those of the list, in its order. -/
  symbolsAt_eq : ∀ a, symbolsAt a table = symbolsAt a symbols

variable {symbols table table' : List Symbol}

/-! ## Symbols at one address -/

@[simp] theorem symbolsAt_cons (a : UInt16) (s : Symbol) (symbols : List Symbol) :
    symbolsAt a (s :: symbols)
      = (if s.address = a then [s] else []) ++ symbolsAt a symbols := by
  unfold symbolsAt
  by_cases h : s.address = a
  · rw [if_pos h, List.filter_cons, if_pos (decide_eq_true h), List.singleton_append]
  · rw [if_neg h, List.filter_cons, if_neg (fun hs => h (of_decide_eq_true hs)),
      List.nil_append]

@[simp] theorem symbolsAt_append (a : UInt16) (x y : List Symbol) :
    symbolsAt a (x ++ y) = symbolsAt a x ++ symbolsAt a y :=
  List.filter_append x y

@[simp] theorem mem_symbolsAt {a : UInt16} {s : Symbol} :
    s ∈ symbolsAt a symbols ↔ s ∈ symbols ∧ s.address = a := by
  rw [symbolsAt, List.mem_filter, decide_eq_true_eq]

/-- Lists with the same symbols at every address have the same symbols. -/
theorem mem_iff_of_symbolsAt_eq (h : ∀ a, symbolsAt a table = symbolsAt a table')
    (s : Symbol) : s ∈ table ↔ s ∈ table' := by
  have hself : ∀ l : List Symbol, s ∈ l ↔ s ∈ symbolsAt s.address l := by
    simp
  rw [hself table, hself table', h]

/-! ## The table -/

/-- **Addresses never descend in a table.** -/
theorem pairwise_sort (symbols : List Symbol) :
    (sort symbols).Pairwise fun s s' => s.address ≤ s'.address :=
  (List.pairwise_mergeSort addressLE_trans addressLE_total symbols).imp of_decide_eq_true

/-- **The symbols at an address are those of the list**, in its order. -/
@[simp] theorem symbolsAt_sort (a : UInt16) (symbols : List Symbol) :
    symbolsAt a (sort symbols) = symbolsAt a symbols := by
  -- they are in order already, so sorting keeps them as a part of the table
  have hordered : (symbolsAt a symbols).Pairwise fun s s' => addressLE s s' = true := by
    refine List.pairwise_of_forall_mem_list fun s hs s' hs' => decide_eq_true ?_
    rw [(mem_symbolsAt.1 hs).2, (mem_symbolsAt.1 hs').2]
    exact UInt16.le_refl a
  have hpart : List.Sublist (symbolsAt a symbols) (sort symbols) :=
    List.sublist_mergeSort addressLE_trans addressLE_total hordered List.filter_sublist
  have hat : symbolsAt a (symbolsAt a symbols) = symbolsAt a symbols :=
    List.filter_eq_self.2 fun s hs => decide_eq_true (mem_symbolsAt.1 hs).2
  -- and the table has no more of them
  have hlength : (symbolsAt a symbols).length = (symbolsAt a (sort symbols)).length :=
    ((sort_perm symbols).filter _).length_eq.symm
  have hsub : List.Sublist (symbolsAt a (symbolsAt a symbols)) (symbolsAt a (sort symbols)) :=
    hpart.filter _
  rw [hat] at hsub
  exact (hsub.eq_of_length hlength).symm

theorem stablyOrders_sort (symbols : List Symbol) : StablyOrders (sort symbols) symbols where
  ascending := pairwise_sort symbols
  symbolsAt_eq a := symbolsAt_sort a symbols

/-! ## Nothing else is one -/

/-- The first of some symbols whose addresses never descend has the least address. -/
theorem address_le_of_mem {s s' : Symbol}
    (h : (s :: table).Pairwise fun s s' => s.address ≤ s'.address) (hs' : s' ∈ s :: table) :
    s.address ≤ s'.address := by
  rcases List.mem_cons.1 hs' with rfl | hs'
  · exact UInt16.le_refl _
  · exact List.rel_of_pairwise_cons h hs'

/-- **Addresses that never descend and the symbols at each address determine a list.** -/
theorem eq_of_symbolsAt_eq (h : table.Pairwise fun s s' => s.address ≤ s'.address)
    (h' : table'.Pairwise fun s s' => s.address ≤ s'.address)
    (hat : ∀ a, symbolsAt a table = symbolsAt a table') : table = table' := by
  have hmem := mem_iff_of_symbolsAt_eq hat
  induction table generalizing table' with
  | nil => exact (List.eq_nil_iff_forall_not_mem.2 fun s hs => nomatch (hmem s).2 hs).symm
  | cons s table ih =>
    cases table' with
    | nil => exact nomatch (hmem s).1 List.mem_cons_self
    | cons s' table' =>
      -- either list begins at the least of its addresses, which is the same one, and
      -- the symbols there begin alike
      have haddress : s'.address = s.address :=
        UInt16.le_antisymm (address_le_of_mem h' ((hmem s).1 List.mem_cons_self))
          (address_le_of_mem h ((hmem s').2 List.mem_cons_self))
      have hfirst := hat s.address
      rw [symbolsAt_cons, symbolsAt_cons, if_pos rfl, if_pos haddress] at hfirst
      obtain rfl : s = s' := (List.cons.inj hfirst).1
      have hrest : ∀ a, symbolsAt a table = symbolsAt a table' := by
        intro a
        have ha := hat a
        rw [symbolsAt_cons, symbolsAt_cons] at ha
        exact List.append_cancel_left ha
      rw [ih h.of_cons h'.of_cons hrest (mem_iff_of_symbolsAt_eq hrest)]

/-- **Only the table orders its list stably.** -/
theorem StablyOrders.eq_sort (h : StablyOrders table symbols) : table = sort symbols :=
  eq_of_symbolsAt_eq h.ascending (pairwise_sort symbols) fun a =>
    (h.symbolsAt_eq a).trans (symbolsAt_sort a symbols).symm

/-- Lists with the same symbols at every address have one table. -/
theorem sort_congr {x y : List Symbol} (h : ∀ a, symbolsAt a x = symbolsAt a y) :
    sort x = sort y :=
  StablyOrders.eq_sort ⟨pairwise_sort x, fun a => (symbolsAt_sort a x).trans (h a)⟩

/-- **More symbols behind a table** are sorted in as if they stood behind its list. -/
theorem sort_sort_append (x y : List Symbol) : sort (sort x ++ y) = sort (x ++ y) := by
  refine sort_congr fun a => ?_
  simp

/-- **A table is the stable sort of its list by address**: addresses never descend, and
at each address stand the symbols of the list at that address, in its order. So it has
the symbols of the list, each as often as there, and it is the only list of this kind.
More symbols can be sorted into it as if they had been in the list all along. -/
theorem sorted_stably (symbols : List Symbol) :
    StablyOrders (sort symbols) symbols ∧
    (sort symbols).Perm symbols ∧
    (∀ table, StablyOrders table symbols → table = sort symbols) ∧
    ∀ more, sort (sort symbols ++ more) = sort (symbols ++ more) :=
  ⟨stablyOrders_sort symbols, sort_perm symbols, fun _ h => h.eq_sort,
    sort_sort_append symbols⟩

/-- Equal symbols, and names that are not in order. -/
theorem sorted_stably_of_equal_symbols :
    let symbols : List Symbol :=
      [⟨"c".toList, 5⟩, ⟨"b".toList, 5⟩, ⟨"z".toList, 1⟩, ⟨"c".toList, 5⟩]
    let table : List Symbol :=
      [⟨"z".toList, 1⟩, ⟨"c".toList, 5⟩, ⟨"b".toList, 5⟩, ⟨"c".toList, 5⟩]
    StablyOrders table symbols ∧ table = sort symbols := by
  intro symbols table
  have h : StablyOrders table symbols := by
    refine ⟨by decide, fun a => ?_⟩
    -- the symbols that are in other places have another address than the rest
    by_cases h5 : 5 = a
    · subst h5
      simp [symbols, table]
    · simp [symbols, table, h5]
  exact ⟨h, (sorted_stably symbols).2.2.1 table h⟩

end SymbolTable

end MemoryListing
