import Mathlib.Logic.Basic
import MemoryListing.Block

/-!
# Writing blocks to an output of bounded capacity

An output takes as many of the bytes it is offered as there is room for, and a
text is written by offering what is left of it again and again, until nothing is
left or nothing was taken (`Output.offerAll`). Written so or at one go, a text ends
up the same (`Output.offerAll_eq_write`), and it may be cut in the middle of a
character.

Of a run of calls the texts alone decide. What an output holds is, at any time, as
much of all texts so far as its capacity lets through: `Output.Holds` is kept by
every call, failed ones included (`Output.holds_write`), and so by every run
(`Output.holds_afterBlocks`). From that it can be told which calls fail, and that
nothing is lost, repeated or moved: `Output.writeBlocks_within_capacity`.
-/

namespace MemoryListing

/-! ## The bytes of a block -/

/-- The bytes that write a block. -/
def Block.bytes (b : Block) : List UInt8 :=
  b.print.result.bytes

/-- **Only a bare table without symbols has an empty text.** -/
theorem Block.bytes_eq_nil_iff {b : Block} : b.bytes = [] ↔ b = .symbols .body [] := by
  unfold bytes
  rw [Text.bytes_eq_nil_iff]
  constructor
  · intro h
    cases b with
    | image layout i =>
      -- every shape of an image ends with a line feed
      have hne : i.listing layout ≠ [] := by
        unfold Image.listing
        cases i.gap <;> cases layout <;> simp [Layout.enclose]
      exact absurd h hne
    | symbols layout list =>
      cases layout with
      | wrapped => cases h
      | body =>
        cases list with
        | nil => rfl
        | cons s list => cases h
  · rintro rfl
    rfl

namespace Output

/-! ## One text -/

theorem eq_of_bytes_eq {o o' : Output} (hcapacity : o.capacity = o'.capacity)
    (hbytes : o.bytes = o'.bytes) : o = o' := by
  cases o
  cases o'
  cases hcapacity
  cases hbytes
  rfl

/-- An output without room is left as it is. -/
theorem fill_of_room_eq_zero {o : Output} (h : o.room = 0) (bs : List UInt8) : o.fill bs = o := by
  refine eq_of_bytes_eq rfl ?_
  show o.bytes ++ bs.take o.room = o.bytes
  rw [h, List.take_zero, List.append_nil]

/-- **Offers bytes to an output**, which takes as many of them as there is room for
and tells how many these are. -/
def offer (o : Output) (bs : List UInt8) : Output × Nat :=
  (o.fill bs, min bs.length o.room)

/-- **Offers bytes again and again** until all of them are taken. An output that
takes none is full. -/
def offerAll (o : Output) (bs : List UInt8) : Output × Except WriteError Unit :=
  if bs = [] then (o, .ok ())
  else if (o.offer bs).2 = 0 then ((o.offer bs).1, .error .full)
  else offerAll (o.offer bs).1 (bs.drop (o.offer bs).2)
termination_by bs.length
decreasing_by
  rename_i hne htaken
  have hpos := List.length_pos_iff.2 hne
  rw [List.length_drop]
  omega

@[simp] theorem offerAll_nil (o : Output) : o.offerAll [] = (o, .ok ()) := by
  unfold offerAll
  rw [if_pos rfl]

/-- A full output takes nothing. -/
theorem offerAll_of_room_eq_zero {o : Output} (h : o.room = 0) {bs : List UInt8}
    (hne : bs ≠ []) : o.offerAll bs = (o, .error .full) := by
  unfold offerAll offer
  rw [if_neg hne, h, Nat.min_zero, if_pos rfl, fill_of_room_eq_zero h]

theorem room_fill (o : Output) (bs : List UInt8) : (o.fill bs).room = o.room - bs.length := by
  simp only [room, fill, List.length_append, List.length_take]
  omega

/-- **Offering a text piece by piece writes it**: in the end the output holds the same,
and it has failed in the same cases. -/
theorem offerAll_eq_write (o : Output) (t : Text) : o.offerAll t.bytes = o.write t := by
  unfold write
  generalize t.bytes = bs
  by_cases hne : bs = []
  · rw [hne, offerAll_nil, if_pos (show [].length ≤ o.room from Nat.zero_le _)]
    refine Prod.ext (eq_of_bytes_eq rfl ?_) rfl
    show o.bytes = o.bytes ++ [].take o.room
    rw [List.take_nil, List.append_nil]
  · have hlength := List.length_pos_iff.2 hne
    by_cases hroom : o.room = 0
    · rw [offerAll_of_room_eq_zero hroom hne, fill_of_room_eq_zero hroom, if_neg (by omega)]
    · have htaken : (o.offer bs).2 ≠ 0 := by
        show min bs.length o.room ≠ 0
        omega
      rw [offerAll, if_neg hne, if_neg htaken]
      show (o.fill bs).offerAll (bs.drop (min bs.length o.room)) = _
      by_cases hfits : bs.length ≤ o.room
      · rw [if_pos hfits, Nat.min_eq_left hfits, List.drop_length, offerAll_nil]
      · -- what is left is offered to an output that is full now
        have hleft : bs.drop (min bs.length o.room) ≠ [] := by
          rw [← List.length_pos_iff, List.length_drop]
          omega
        have hfull : (o.fill bs).room = 0 := by
          rw [room_fill]
          omega
        rw [offerAll_of_room_eq_zero hfull hleft, if_neg hfits]

/-! ## What an output holds -/

/-- **An output holds what was written**, as far as its capacity goes. -/
def Holds (o : Output) (written : List UInt8) : Prop :=
  o.bytes = written.take o.capacity

@[simp] theorem holds_empty (capacity : Nat) : (empty capacity).Holds [] :=
  List.take_nil.symm

/-- What is left of a text that was cut does not show behind more bytes. -/
theorem take_take_append {α : Type} (n : Nat) (l m : List α) :
    (l.take n ++ m).take n = (l ++ m).take n := by
  rw [List.take_append, List.take_append, List.take_take, Nat.min_self, List.length_take]
  congr 2
  omega

/-- **One more text**: an output holds it behind what was written before, whether
there was room for all of it or not. -/
theorem holds_write {o : Output} {written : List UInt8} (h : o.Holds written) (t : Text) :
    (o.write t).1.Holds (written ++ t.bytes) := by
  show (o.write t).1.bytes = (written ++ t.bytes).take o.capacity
  rw [bytes_write, h, take_take_append]

/-- **When a text fails**: it is not empty, and all texts together exceed the
capacity. -/
theorem write_fails_iff {o : Output} {written : List UInt8} (h : o.Holds written) (t : Text) :
    (o.write t).2 = .error .full ↔
      t.bytes ≠ [] ∧ o.capacity < (written ++ t.bytes).length := by
  have hroom : o.room = o.capacity - written.length := by
    unfold room
    rw [h, List.length_take]
    omega
  rw [← List.length_pos_iff, List.length_append]
  show (if t.bytes.length ≤ o.room then Except.ok () else Except.error WriteError.full)
    = .error .full ↔ _
  split
  next hfits => exact ⟨nofun, fun ⟨hpos, hlt⟩ => by omega⟩
  next hfits => exact ⟨fun _ => by omega, fun _ => rfl⟩

/-- **The output after some blocks**, each of them offered piece by piece. -/
def afterBlocks (o : Output) (blocks : List Block) : Output :=
  blocks.foldl (fun o b => (o.offerAll b.bytes).1) o

@[simp] theorem afterBlocks_nil (o : Output) : o.afterBlocks [] = o := rfl

theorem afterBlocks_cons (o : Output) (b : Block) (blocks : List Block) :
    o.afterBlocks (b :: blocks) = (o.write b.print.result).1.afterBlocks blocks := by
  rw [← offerAll_eq_write]
  rfl

@[simp] theorem capacity_afterBlocks (o : Output) (blocks : List Block) :
    (o.afterBlocks blocks).capacity = o.capacity := by
  induction blocks generalizing o with
  | nil => rfl
  | cons b blocks ih =>
    rw [afterBlocks_cons, ih]
    rfl

/-- **A run of blocks**: an output holds their texts, one behind the other. -/
theorem holds_afterBlocks {o : Output} {written : List UInt8} (h : o.Holds written)
    (blocks : List Block) : (o.afterBlocks blocks).Holds (written ++ blocks.flatMap Block.bytes) := by
  induction blocks generalizing o written with
  | nil =>
    simpa using h
  | cons b blocks ih =>
    rw [afterBlocks_cons, List.flatMap_cons, ← List.append_assoc]
    exact ih (holds_write h b.print.result)

@[simp] theorem length_writeBlocks (o : Output) (blocks : List Block) :
    (o.writeBlocks blocks).length = blocks.length := by
  induction blocks generalizing o with
  | nil => rfl
  | cons b blocks ih => exact congrArg (· + 1) (ih _)

/-- **The calls of a run.** Each of them finds the output as the blocks ahead of it
left it. -/
theorem getElem?_writeBlocks (o : Output) (blocks : List Block) (k : Nat) :
    (o.writeBlocks blocks)[k]?
      = blocks[k]?.map fun b => (o.afterBlocks (blocks.take k)).writeBlock b := by
  induction blocks generalizing o k with
  | nil => rfl
  | cons b blocks ih =>
    cases k with
    | zero => rfl
    | succ k =>
      rw [writeBlocks, List.getElem?_cons_succ, List.getElem?_cons_succ, List.take_succ_cons,
        afterBlocks_cons, ih]
      rfl

/-! ## The calls of a run -/

/-- A call of a run: the output as the call left it, whether the call failed, and what
was noticed. -/
abbrev Call : Type :=
  Logged (Output × Except WriteError Unit)

/-- **What becomes of a call** on an output of some capacity, by what was written ahead
of it. -/
structure CallWithin (capacity : Nat) (written : List UInt8) (b : Block) (call : Call) :
    Prop where
  /-- The capacity stays. -/
  capacity_eq : call.result.1.capacity = capacity
  /-- The output holds all that was written, as far as its capacity goes. -/
  bytes_eq : call.result.1.bytes = (written ++ b.bytes).take capacity
  /-- When the call fails. -/
  fails_iff : call.result.2 = .error .full ↔
    b.bytes ≠ [] ∧ capacity < (written ++ b.bytes).length
  /-- When the call succeeds. -/
  succeeds_iff : call.result.2 = .ok () ↔
    b.bytes = [] ∨ (written ++ b.bytes).length ≤ capacity
  /-- What is noticed is what is noticed about the block. -/
  notices_eq : call.notices = b.print.notices

/-- A call fails or succeeds. -/
theorem eq_ok_iff_ne_full {result : Except WriteError Unit} :
    result = .ok () ↔ result ≠ .error .full := by
  cases result with
  | ok _ => exact ⟨fun _ => nofun, fun _ => rfl⟩
  | error e =>
    cases e
    exact ⟨nofun, fun h => absurd rfl h⟩

/-- A call on an output that holds what was written. -/
theorem callWithin_writeBlock {o : Output} {written : List UInt8} (h : o.Holds written)
    (b : Block) : CallWithin o.capacity written b (o.writeBlock b) := by
  have hfails : (o.writeBlock b).result.2 = .error .full ↔
      b.bytes ≠ [] ∧ o.capacity < (written ++ b.bytes).length :=
    write_fails_iff h b.print.result
  refine ⟨rfl, holds_write h b.print.result, hfails, ?_, rfl⟩
  rw [eq_ok_iff_ne_full, ne_eq, hfails, not_and_or, not_not, Nat.not_lt]

/-- The calls of a run, with what was written ahead of each. -/
theorem callWithin_writeBlocks {capacity k : Nat} {blocks : List Block} {b : Block}
    (hb : blocks[k]? = some b) {call : Call}
    (hcall : ((empty capacity).writeBlocks blocks)[k]? = some call) :
    CallWithin capacity ((blocks.take k).flatMap Block.bytes) b call := by
  rw [getElem?_writeBlocks, hb] at hcall
  cases hcall
  have h := callWithin_writeBlock (holds_afterBlocks (holds_empty capacity) (blocks.take k)) b
  rwa [capacity_afterBlocks] at h

/-- An output that was full once stays as it is. -/
theorem CallWithin.eq_of_full {capacity : Nat} {written written' : List UInt8} {b b' : Block}
    {call later : Call}
    (h : CallWithin capacity written b call) (h' : CallWithin capacity written' b' later)
    (hfull : call.result.2 = .error .full) (hfurther : written ++ b.bytes <+: written') :
    later.result.1 = call.result.1 ∧ (b'.bytes ≠ [] → later.result.2 = .error .full) := by
  have hlt := (h.fails_iff.1 hfull).2
  obtain ⟨more, rfl⟩ := hfurther
  constructor
  · refine eq_of_bytes_eq (h'.capacity_eq.trans h.capacity_eq.symm) ?_
    rw [h.bytes_eq, h'.bytes_eq, List.append_assoc (written ++ b.bytes),
      List.take_append_of_le_length (Nat.le_of_lt hlt)]
  · intro hne
    refine h'.fails_iff.2 ⟨hne, Nat.lt_of_lt_of_le hlt ?_⟩
    rw [List.append_assoc (written ++ b.bytes)]
    exact (List.prefix_append _ _).length_le

/-- What was written ahead of a call, and the text of the call, stand ahead of all
later calls. -/
theorem written_extends {blocks : List Block} {i j : Nat} (hij : i < j) {b : Block}
    (hb : blocks[i]? = some b) :
    (blocks.take i).flatMap Block.bytes ++ b.bytes <+: (blocks.take j).flatMap Block.bytes := by
  have htake : blocks.take (i + 1) = blocks.take i ++ [b] := by
    rw [List.take_add_one, hb]
    rfl
  obtain ⟨rest, hrest⟩ := List.take_prefix_take_left (l := blocks) (Nat.succ_le_of_lt hij)
  refine ⟨rest.flatMap Block.bytes, ?_⟩
  rw [← hrest, htake, List.flatMap_append, List.flatMap_append, List.flatMap_singleton]

/-- **Writing to an output of bounded capacity loses, repeats and moves nothing**, for
every capacity and every run of calls. Each call offers its text piece by piece to the
output that the calls ahead of it left, and leaves in it the start of all texts so far.
It fails if its text is not empty and all texts so far exceed the capacity. Behind a
call that failed the output stays as it is, and every call with a text fails. A call
without a text, which only a bare table without symbols has, succeeds. -/
theorem writeBlocks_within_capacity (capacity : Nat) (blocks : List Block) :
    let calls := (empty capacity).writeBlocks blocks
    calls.length = blocks.length ∧
    (∀ (k : Nat) (b : Block) (call : Call), blocks[k]? = some b → calls[k]? = some call →
      call.result = ((empty capacity).afterBlocks (blocks.take k)).offerAll b.bytes ∧
      CallWithin capacity ((blocks.take k).flatMap Block.bytes) b call) ∧
    (∀ (i j : Nat) (b : Block) (call later : Call), i < j →
      calls[i]? = some call → call.result.2 = .error .full →
      blocks[j]? = some b → calls[j]? = some later →
      later.result.1 = call.result.1 ∧ (b.bytes ≠ [] → later.result.2 = .error .full)) ∧
    (∀ b : Block, b.bytes = [] ↔ b = .symbols .body []) ∧
    ∀ (k : Nat) (call : Call), blocks[k]? = some (.symbols .body []) →
      calls[k]? = some call → call.result.2 = .ok () := by
  refine ⟨?_, ?_, ?_, fun b => Block.bytes_eq_nil_iff, ?_⟩
  · exact length_writeBlocks (empty capacity) blocks
  · intro k b call hb hcall
    refine ⟨?_, callWithin_writeBlocks hb hcall⟩
    rw [getElem?_writeBlocks, hb] at hcall
    cases hcall
    exact (offerAll_eq_write _ _).symm
  · intro i j b call later hij hcall hfull hb hlater
    obtain ⟨b', hb', -⟩ := Option.map_eq_some_iff.1 ((getElem?_writeBlocks _ _ _).symm.trans hcall)
    exact (callWithin_writeBlocks hb' hcall).eq_of_full (callWithin_writeBlocks hb hlater) hfull
      (written_extends hij hb')
  · intro k call hb hcall
    exact (callWithin_writeBlocks hb hcall).succeeds_iff.2 (.inl (Block.bytes_eq_nil_iff.2 rfl))

/-- The output ends inside a character of the first text: the second block has no text,
and the third one finds no room. -/
theorem writeBlocks_within_capacity_inside_character :
    let blocks : List Block :=
      [.symbols .body [⟨"é".toList, 1⟩], .symbols .body [], .image .body ⟨[1], none⟩]
    let calls := (empty 10).writeBlocks blocks
    ∃ first second third, (calls[0]? = some first ∧ calls[1]? = some second ∧
        calls[2]? = some third) ∧
      first.result.1.bytes = Text.bytes "0x0001: \"".toList ++ [0xc3] ∧
      first.result.2 = .error .full ∧ second.result.2 = .ok () ∧
      third.result.1 = first.result.1 ∧ third.result.2 = .error .full := by
  intro blocks calls
  obtain ⟨-, hcall, hlater, -, hempty⟩ := writeBlocks_within_capacity 10 blocks
  have hfirst := (hcall 0 _ _ rfl rfl).2
  have hfull := hfirst.fails_iff.2 ⟨by decide, by decide⟩
  obtain ⟨hsame, hthird⟩ := hlater 0 2 _ _ _ (by decide) rfl hfull rfl rfl
  exact ⟨_, _, _, ⟨rfl, rfl, rfl⟩, hfirst.bytes_eq.trans (by decide), hfull,
    hempty 1 _ rfl rfl, hsame, hthird (by decide)⟩

end Output

end MemoryListing
