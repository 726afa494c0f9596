import Mathlib.Data.List.Nodup
import MemoryListing.Symbol

/-!
# The order of a symbol table

A table holds the symbols of a list in the order of their addresses, and those
at one address in the order of the list. Both are said at once by keeping with
each symbol its **place** in the list: `SymbolTable.placed` are the symbols of
the table with their places, the places are those of the list, each taken once
(`SymbolTable.places_perm`), and every entry comes behind the entries before it
by address or, at the same address, by place (`SymbolTable.pairwise_placed`).

Places tell symbols apart that are equal in name and address, so nothing is
assumed of the list.
-/

namespace MemoryListing

namespace SymbolTable

/-- Whether the address of a symbol lets it stand ahead of another one. -/
def addressLE (a b : Symbol) : Bool :=
  decide (a.address ≤ b.address)

theorem addressLE_trans (a b c : Symbol) (hab : addressLE a b) (hbc : addressLE b c) :
    addressLE a c :=
  decide_eq_true (UInt16.le_trans (of_decide_eq_true hab) (of_decide_eq_true hbc))

theorem addressLE_total (a b : Symbol) : (addressLE a b || addressLE b a) = true := by
  rw [Bool.or_eq_true]
  exact (UInt16.le_total a.address b.address).imp decide_eq_true decide_eq_true

/-- **The symbols of a table**, each with its place in the list. -/
def placed (symbols : List Symbol) : List (Symbol × Nat) :=
  symbols.zipIdx.mergeSort (List.zipIdxLE addressLE)

/-- Without the places, these are the symbols in the order of the table. -/
@[simp] theorem map_fst_placed (symbols : List Symbol) :
    (placed symbols).map (·.1) = sort symbols :=
  List.mergeSort_zipIdx

/-- A table has the symbols of its list. -/
theorem sort_perm (symbols : List Symbol) : (sort symbols).Perm symbols :=
  List.mergeSort_perm symbols _

/-- **Every place of the list is taken once.** -/
theorem places_perm (symbols : List Symbol) :
    ((placed symbols).map (·.2)).Perm (List.range symbols.length) := by
  have h := (List.mergeSort_perm symbols.zipIdx (List.zipIdxLE addressLE)).map Prod.snd
  rwa [List.zipIdx_map_snd, ← List.range_eq_range'] at h

/-- A symbol stands at its place in the list. -/
theorem getElem?_of_mem_placed {symbols : List Symbol} {p : Symbol × Nat}
    (h : p ∈ placed symbols) : symbols[p.2]? = some p.1 :=
  List.mk_mem_zipIdx_iff_getElem?.1 (List.mem_mergeSort.1 h)

/-- **One entry comes before another**, by its address or, at the same address, by
its place in the list. -/
def ComesBefore (a b : Symbol × Nat) : Prop :=
  a.1.address < b.1.address ∨ a.1.address = b.1.address ∧ a.2 < b.2

/-- **The entries of a table stand in their order.** -/
theorem pairwise_placed (symbols : List Symbol) : (placed symbols).Pairwise ComesBefore := by
  have hsorted := List.pairwise_mergeSort (List.zipIdxLE_trans addressLE_trans)
    (List.zipIdxLE_total addressLE_total) symbols.zipIdx
  have hplaces : (placed symbols).Pairwise (fun a b => a.2 ≠ b.2) :=
    List.pairwise_map.1 ((places_perm symbols).nodup_iff.2 List.nodup_range)
  refine (hsorted.and hplaces).imp ?_
  rintro a b ⟨hle, hne⟩
  unfold List.zipIdxLE at hle
  split at hle
  next hab =>
    have hab : a.1.address ≤ b.1.address := of_decide_eq_true hab
    split at hle
    next hba =>
      -- the addresses agree, and the places decide
      have hba : b.1.address ≤ a.1.address := of_decide_eq_true hba
      exact .inr ⟨UInt16.le_antisymm hab hba,
        Nat.lt_of_le_of_ne (of_decide_eq_true hle) hne⟩
    next hba =>
      have hba : ¬ b.1.address ≤ a.1.address := fun h => hba (decide_eq_true h)
      exact .inl (UInt16.not_le.1 hba)
  next => cases hle

end SymbolTable

end MemoryListing
