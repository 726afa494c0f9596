import MemoryListing.Listing
import MemoryListing.Proofs.Digits
import MemoryListing.Proofs.Names

/-!
# A listing can be taken apart again

The two blocks of a listing stand back to back, and nothing but their own shape
separates them: an image can be empty, a gap takes the place of the bytes and
looks the same in either layout, and names are printed as they are. Still no two
contents are printed alike (`listings_injective`).

Each part of a listing says where it ends. A number is a run of digits, and the
character behind the run is no digit and tells what the number was: a comma ends
a data byte, a colon the address of a symbol, a blank the address that a gap
states. A name ends with its line, as long as it holds no line feed. One lemma,
`append_cons_inj`, covers all of these; the rest of the module puts parts behind
one another, each lemma with the text that follows as a variable.
-/

namespace MemoryListing

/-- **A run that is ended by something outside of it is determined**, and so are
what ends it and what follows. -/
theorem append_cons_inj {α : Type} {p : α → Prop} {l m u v : List α} {a b : α}
    (hl : ∀ c ∈ l, p c) (hm : ∀ c ∈ m, p c) (ha : ¬ p a) (hb : ¬ p b)
    (h : l ++ a :: u = m ++ b :: v) : l = m ∧ a = b ∧ u = v := by
  induction l generalizing m with
  | nil =>
    cases m with
    | nil =>
      obtain ⟨hab, huv⟩ := List.cons.inj h
      exact ⟨rfl, hab, huv⟩
    | cons d m =>
      obtain ⟨rfl, -⟩ := List.cons.inj h
      exact absurd (hm a List.mem_cons_self) ha
  | cons c l ih =>
    cases m with
    | nil =>
      obtain ⟨rfl, -⟩ := List.cons.inj h
      exact absurd (hl c List.mem_cons_self) hb
    | cons d m =>
      obtain ⟨rfl, hrest⟩ := List.cons.inj h
      obtain ⟨rfl, hab, huv⟩ := ih (fun c hc => hl c (List.mem_cons_of_mem _ hc))
        (fun c hc => hm c (List.mem_cons_of_mem _ hc)) hrest
      exact ⟨rfl, hab, huv⟩

/-- A printed number ends at the first character that is no digit. -/
theorem Hex.digits_append_cons_inj {width width' m n : Nat} {a b : Char} {u v : Text}
    (ha : a ∉ alphabet) (hb : b ∉ alphabet)
    (h : digits width m ++ a :: u = digits width' n ++ b :: v) :
    digits width m = digits width' n ∧ a = b ∧ u = v :=
  append_cons_inj (fun _ hc => mem_alphabet_of_mem_digits hc)
    (fun _ hc => mem_alphabet_of_mem_digits hc) ha hb h

/-! ## The block of a symbol table -/

namespace SymbolTable

theorem symbolLine_append (s : Symbol) (u : Text) :
    symbolLine s ++ u
      = '0' :: 'x' :: (Hex.digits 4 s.address.toNat
        ++ ':' :: ' ' :: '"' :: ((s.name ++ ['"', ',']) ++ '\n' :: u)) := by
  simp [symbolLine, Hex.prefixed]

/-- A line whose name holds no line feed determines its symbol. -/
theorem symbolLine_append_inj {a b : Symbol} {u v : Text} (ha : '\n' ∉ a.name)
    (hb : '\n' ∉ b.name) (h : symbolLine a ++ u = symbolLine b ++ v) :
    a = b ∧ u = v := by
  rw [symbolLine_append, symbolLine_append] at h
  -- a colon ends the address, and a line feed what stands between the quotes
  obtain ⟨haddress, -, h⟩ := Hex.digits_append_cons_inj (by decide) (by decide)
    (List.cons.inj (List.cons.inj h).2).2
  obtain ⟨hname, -, huv⟩ := append_cons_inj (p := (· ≠ '\n'))
    (fun c hc hn => by simp [hn, ha] at hc) (fun c hc hn => by simp [hn, hb] at hc)
    (fun hn => hn rfl) (fun hn => hn rfl) (List.cons.inj (List.cons.inj h).2).2
  cases a
  cases b
  rw [Symbol.mk.injEq]
  exact ⟨⟨List.append_cancel_right hname, Hex.digits_toNat_inj haddress⟩, huv⟩

/-- Lines of symbols end where no zero follows. -/
theorem symbolLines_append_inj {s₁ s₂ : List Symbol} (h₁ : ∀ s ∈ s₁, '\n' ∉ s.name)
    (h₂ : ∀ s ∈ s₂, '\n' ∉ s.name) {u v : Text} (hu : u.head? ≠ some '0')
    (hv : v.head? ≠ some '0')
    (h : s₁.flatMap symbolLine ++ u = s₂.flatMap symbolLine ++ v) :
    s₁ = s₂ ∧ u = v := by
  induction s₁ generalizing s₂ with
  | nil =>
    cases s₂ with
    | nil => exact ⟨rfl, h⟩
    | cons b s₂ =>
      rw [List.flatMap_nil, List.nil_append] at h
      exact absurd (congrArg List.head? h) hu
  | cons a s₁ ih =>
    cases s₂ with
    | nil =>
      rw [List.flatMap_nil, List.nil_append] at h
      exact absurd (congrArg List.head? h.symm) hv
    | cons b s₂ =>
      rw [List.flatMap_cons, List.flatMap_cons, List.append_assoc, List.append_assoc] at h
      obtain ⟨rfl, hrest⟩ := symbolLine_append_inj (h₁ a List.mem_cons_self)
        (h₂ b List.mem_cons_self) h
      obtain ⟨rfl, huv⟩ := ih (fun s hs => h₁ s (List.mem_cons_of_mem _ hs))
        (fun s hs => h₂ s (List.mem_cons_of_mem _ hs)) hrest
      exact ⟨rfl, huv⟩

theorem head?_listing_wrapped (s : List Symbol) : (listing .wrapped s).head? = some 's' :=
  rfl

theorem head?_listing_body_ne (s : List Symbol) : (listing .body s).head? ≠ some 's' := by
  cases s with
  | nil => exact nofun
  | cons a s => exact nofun

/-- **The block of a symbol table determines layout and symbols.** -/
theorem listing_inj {l₁ l₂ : Layout} {s₁ s₂ : List Symbol}
    (h₁ : ∀ s ∈ s₁, '\n' ∉ s.name) (h₂ : ∀ s ∈ s₂, '\n' ∉ s.name)
    (h : listing l₁ s₁ = listing l₂ s₂) : l₁ = l₂ ∧ s₁ = s₂ := by
  cases l₁ with
  | body =>
    cases l₂ with
    | body =>
      refine ⟨rfl, (symbolLines_append_inj (u := []) (v := []) h₁ h₂ nofun nofun ?_).1⟩
      rw [List.append_nil, List.append_nil]
      exact h
    | wrapped => exact absurd ((congrArg List.head? h).trans rfl) (head?_listing_body_ne s₁)
  | wrapped =>
    cases l₂ with
    | body =>
      exact absurd ((congrArg List.head? h.symm).trans rfl) (head?_listing_body_ne s₂)
    | wrapped =>
      simp only [listing, Layout.enclose, List.append_assoc] at h
      have h := List.append_cancel_left (List.append_cancel_left h)
      exact ⟨rfl, (symbolLines_append_inj h₁ h₂ (by decide) (by decide) h).1⟩

end SymbolTable

/-! ## The block of an image -/

namespace Image

/-- A text that does not go on with a data byte. -/
def NoByteNext (u : Text) : Prop :=
  ∀ b v, u ≠ byteItem b ++ v

theorem byteItem_append (b : UInt8) (u : Text) :
    byteItem b ++ u = '0' :: 'x' :: (Hex.digits 2 b.toNat ++ ',' :: ' ' :: u) := by
  simp [byteItem, Hex.prefixed]

theorem byteItem_append_inj {a b : UInt8} {u v : Text}
    (h : byteItem a ++ u = byteItem b ++ v) : a = b ∧ u = v := by
  rw [byteItem_append, byteItem_append] at h
  obtain ⟨hd, -, h⟩ := Hex.digits_append_cons_inj (by decide) (by decide)
    (List.cons.inj (List.cons.inj h).2).2
  have hlt : ∀ x : UInt8, x.toNat < UInt32.size := fun x =>
    Nat.lt_trans x.toNat_lt_size (by decide)
  exact ⟨UInt8.toNat_inj.1 (Hex.digits_injective (hlt _) (hlt _) hd), (List.cons.inj h).2⟩

theorem noByteNext_of_head?_ne {u : Text} (h : u.head? ≠ some '0') : NoByteNext u :=
  fun b v hu => h (by rw [hu, byteItem_append]; rfl)

/-- The line of a symbol is no data byte: a colon ends its number. -/
theorem noByteNext_symbolTable (l : Layout) (s : List Symbol) :
    NoByteNext (SymbolTable.listing l s) := by
  cases l with
  | wrapped =>
    refine noByteNext_of_head?_ne ?_
    rw [SymbolTable.head?_listing_wrapped]
    decide
  | body =>
    cases s with
    | nil => exact noByteNext_of_head?_ne nofun
    | cons a s =>
      intro b v h
      have h : SymbolTable.symbolLine a ++ s.flatMap SymbolTable.symbolLine
          = byteItem b ++ v := h
      rw [SymbolTable.symbolLine_append, byteItem_append] at h
      obtain ⟨-, hc, -⟩ := Hex.digits_append_cons_inj (by decide) (by decide)
        (List.cons.inj (List.cons.inj h).2).2
      exact absurd hc (by decide)

/-- **The bytes of an image end at the line feed that no byte follows.** -/
theorem items_append_inj {index : Nat} {bs₁ bs₂ : List UInt8} {u v : Text}
    (hu : NoByteNext u) (hv : NoByteNext v)
    (h : items index bs₁ ++ '\n' :: u = items index bs₂ ++ '\n' :: v) :
    bs₁ = bs₂ ∧ u = v := by
  -- a line feed that bytes follow is the one in front of the next line
  have hend : ∀ {index : Nat} {b : UInt8} {bs : List UInt8} {u v : Text}, NoByteNext u →
      '\n' :: u ≠ items index (b :: bs) ++ '\n' :: v := by
    intro index b bs u v hu h
    rw [items, List.append_assoc, List.append_assoc] at h
    split at h
    · exact hu _ _ (List.cons.inj h).2
    · rw [List.nil_append, byteItem_append] at h
      exact absurd (List.cons.inj h).1 (by decide)
  induction bs₁ generalizing index bs₂ with
  | nil =>
    cases bs₂ with
    | nil => exact ⟨rfl, (List.cons.inj h).2⟩
    | cons b bs₂ => exact absurd h (hend hu)
  | cons a bs₁ ih =>
    cases bs₂ with
    | nil => exact absurd h.symm (hend hv)
    | cons b bs₂ =>
      simp only [items, List.append_assoc] at h
      obtain ⟨rfl, hrest⟩ := byteItem_append_inj (List.append_cancel_left h)
      obtain ⟨rfl, huv⟩ := ih hrest
      exact ⟨rfl, huv⟩

theorem items_zero (bs : List UInt8) :
    items 0 bs = [] ∨ ∃ t, items 0 bs = '0' :: 'x' :: t := by
  cases bs with
  | nil => exact .inl rfl
  | cons b bs =>
    refine .inr ⟨Hex.digits 2 b.toNat ++ ',' :: ' ' :: items 1 bs, ?_⟩
    exact byteItem_append b (items 1 bs)

/-! ### The three shapes of the block -/

theorem listing_append_of_gap {i : Image} {g : Gap} (hg : i.gap = some g) (l : Layout)
    (u : Text) :
    i.listing l ++ u
      = Hex.digits 4 g.stated.toNat
        ++ ' ' :: '!' :: '=' :: ' ' :: (Hex.digits 4 g.expected.toNat ++ '\n' :: u) := by
  unfold listing
  rw [hg]
  simp

theorem listing_append_body {i : Image} (hg : i.gap = none) (u : Text) :
    i.listing .body ++ u = items 0 i.bytes ++ '\n' :: u := by
  unfold listing
  rw [hg]
  simp [Layout.enclose]

theorem listing_append_wrapped {i : Image} (hg : i.gap = none) (u : Text) :
    i.listing .wrapped ++ u
      = "code := []byte\x7b\n".toList ++ (items 0 i.bytes ++ '\n' :: '\x7d' :: '\n' :: u) := by
  unfold listing
  rw [hg]
  simp [Layout.enclose]

/-- A gap is not printed like bytes: a blank ends its first number, and what
bytes or a declaration begin with is ended otherwise. -/
theorem listing_append_ne_of_gap {i₁ i₂ : Image} {g : Gap} (h₁ : i₁.gap = some g)
    (h₂ : i₂.gap = none) (l₁ l₂ : Layout) (u v : Text) :
    i₁.listing l₁ ++ u ≠ i₂.listing l₂ ++ v := by
  intro h
  rw [listing_append_of_gap h₁] at h
  have hno : ∀ {m : Text} {b : Char} {w : Text}, (∀ c ∈ m, c ∈ Hex.alphabet) →
      b ∉ Hex.alphabet → b ≠ ' ' →
      Hex.digits 4 g.stated.toNat ++ ' ' :: '!' :: '=' :: ' ' ::
        (Hex.digits 4 g.expected.toNat ++ '\n' :: u) ≠ m ++ b :: w := by
    intro m b w hm hb hne h
    exact hne (append_cons_inj (fun _ hc => Hex.mem_alphabet_of_mem_digits hc) hm
      (by decide) hb h).2.1.symm
  cases l₂ with
  | body =>
    rw [listing_append_body h₂] at h
    obtain hs | ⟨t, hs⟩ := items_zero i₂.bytes
    · rw [hs] at h
      exact hno (m := []) nofun (by decide) (by decide) h
    · rw [hs] at h
      exact hno (List.forall_mem_singleton.2 (by decide)) (by decide) (by decide) h
  | wrapped =>
    rw [listing_append_wrapped h₂] at h
    exact hno (List.forall_mem_singleton.2 (by decide)) (by decide) (by decide) h

/-- The layout of bytes shows in the first character. -/
theorem listing_body_append_ne_wrapped {i₁ i₂ : Image} (h₁ : i₁.gap = none)
    (h₂ : i₂.gap = none) (u v : Text) :
    i₁.listing .body ++ u ≠ i₂.listing .wrapped ++ v := by
  intro h
  rw [listing_append_body h₁, listing_append_wrapped h₂] at h
  have hhead := congrArg List.head? h
  obtain hs | ⟨t, hs⟩ := items_zero i₁.bytes
  · rw [hs] at hhead
    exact absurd hhead (by simp)
  · rw [hs] at hhead
    exact absurd hhead (by simp)

/-- **What the block of an image determines**: the layout and the bytes, or the
two addresses of the gap that stands in their place. -/
def SameBlock (i₁ : Image) (l₁ : Layout) (i₂ : Image) (l₂ : Layout) : Prop :=
  (i₁.gap = none ∧ i₂.gap = none ∧ l₁ = l₂ ∧ i₁.bytes = i₂.bytes) ∨
    ∃ g₁ g₂, i₁.gap = some g₁ ∧ i₂.gap = some g₂ ∧ g₁.stated = g₂.stated ∧
      g₁.expected = g₂.expected

/-- **The block of an image ends where no data byte follows.** -/
theorem listing_append_inj {i₁ i₂ : Image} {l₁ l₂ : Layout} {u v : Text}
    (hu : NoByteNext u) (hv : NoByteNext v)
    (h : i₁.listing l₁ ++ u = i₂.listing l₂ ++ v) :
    SameBlock i₁ l₁ i₂ l₂ ∧ u = v := by
  cases h₁ : i₁.gap with
  | some g₁ =>
    cases h₂ : i₂.gap with
    | some g₂ =>
      rw [listing_append_of_gap h₁, listing_append_of_gap h₂] at h
      obtain ⟨hstated, -, h⟩ := Hex.digits_append_cons_inj (by decide) (by decide) h
      obtain ⟨hexpected, -, huv⟩ := Hex.digits_append_cons_inj (by decide) (by decide)
        (List.cons.inj (List.cons.inj (List.cons.inj h).2).2).2
      refine ⟨.inr ⟨g₁, g₂, h₁, h₂, Hex.digits_toNat_inj hstated, ?_⟩, huv⟩
      exact UInt32.toNat_inj.1 (Hex.digits_injective g₁.expected.toNat_lt_size
        g₂.expected.toNat_lt_size hexpected)
    | none => exact absurd h (listing_append_ne_of_gap h₁ h₂ l₁ l₂ u v)
  | none =>
    cases h₂ : i₂.gap with
    | some g₂ => exact absurd h.symm (listing_append_ne_of_gap h₂ h₁ l₂ l₁ v u)
    | none =>
      cases l₁ with
      | body =>
        cases l₂ with
        | body =>
          rw [listing_append_body h₁, listing_append_body h₂] at h
          obtain ⟨hbytes, huv⟩ := items_append_inj hu hv h
          exact ⟨.inl ⟨h₁, h₂, rfl, hbytes⟩, huv⟩
        | wrapped => exact absurd h (listing_body_append_ne_wrapped h₁ h₂ u v)
      | wrapped =>
        cases l₂ with
        | body => exact absurd h.symm (listing_body_append_ne_wrapped h₂ h₁ v u)
        | wrapped =>
          rw [listing_append_wrapped h₁, listing_append_wrapped h₂] at h
          -- behind the bytes of a declaration its closing line follows, and no byte
          obtain ⟨hbytes, huv⟩ := items_append_inj (noByteNext_of_head?_ne (by simp))
            (noByteNext_of_head?_ne (by simp)) (List.append_cancel_left h)
          exact ⟨.inl ⟨h₁, h₂, rfl, hbytes⟩, (List.cons.inj (List.cons.inj huv).2).2⟩

end Image

/-! ## Both blocks -/

/-- **A listing determines what it lists**, as long as no name holds a line feed:
the layout, the symbols, and either the bytes of the image or the two addresses
of its gap. The names that are read from a symbol list hold none. -/
theorem listings_injective :
    (∀ (i₁ i₂ : Image) (l₁ l₂ : Layout) (s₁ s₂ : List Symbol),
      (∀ s ∈ s₁, '\n' ∉ s.name) → (∀ s ∈ s₂, '\n' ∉ s.name) →
      i₁.listing l₁ ++ SymbolTable.listing l₁ s₁
        = i₂.listing l₂ ++ SymbolTable.listing l₂ s₂ →
      l₁ = l₂ ∧ s₁ = s₂ ∧
        ((i₁.gap = none ∧ i₂.gap = none ∧ i₁.bytes = i₂.bytes) ∨
          ∃ g₁ g₂, i₁.gap = some g₁ ∧ i₂.gap = some g₂ ∧ g₁.stated = g₂.stated ∧
            g₁.expected = g₂.expected)) ∧
    ∀ (t : Text) (symbols : List Symbol), (SymbolTable.read t).result = .ok symbols →
      ∀ s ∈ symbols, '\n' ∉ s.name := by
  constructor
  · intro i₁ i₂ l₁ l₂ s₁ s₂ h₁ h₂ h
    obtain ⟨hblock, htable⟩ := Image.listing_append_inj
      (Image.noByteNext_symbolTable l₁ s₁) (Image.noByteNext_symbolTable l₂ s₂) h
    obtain ⟨hlayout, hsymbols⟩ := SymbolTable.listing_inj h₁ h₂ htable
    refine ⟨hlayout, hsymbols, ?_⟩
    obtain ⟨hg₁, hg₂, -, hbytes⟩ | hgaps := hblock
    · exact .inl ⟨hg₁, hg₂, hbytes⟩
    · exact .inr hgaps
  · intro t symbols h s hs hmem
    have hblank : Text.isBlank '\n' = false := SymbolTable.isBlank_of_mem_name h s hs '\n' hmem
    exact absurd hblank (by decide)

/-- Two images with one gap are printed alike whatever stands in front of it, and
a name may look like the end of its block. -/
theorem listings_injective_at_gap :
    let i₁ : Image := ⟨[1], some ⟨1, 0x230, 0x210⟩⟩
    let i₂ : Image := ⟨[], some ⟨7, 0x230, 0x210⟩⟩
    let s : Symbol := ⟨"a\",\x7d".toList, 0x210⟩
    (i₁.listing .wrapped ++ SymbolTable.listing .wrapped [s]
        = i₂.listing .wrapped ++ SymbolTable.listing .wrapped [s] ∧
      (Layout.wrapped = .wrapped ∧ [s] = [s] ∧
        ((i₁.gap = none ∧ i₂.gap = none ∧ i₁.bytes = i₂.bytes) ∨
          ∃ g₁ g₂, i₁.gap = some g₁ ∧ i₂.gap = some g₂ ∧ g₁.stated = g₂.stated ∧
            g₁.expected = g₂.expected))) ∧
      (SymbolTable.read "A\",\x7d 210".toList).result = .ok [s] ∧ '\n' ∉ s.name := by
  intro i₁ i₂ s
  have hread : (SymbolTable.read "A\",\x7d 210".toList).result = .ok [s] := by
    decide +kernel
  have hname : ∀ a ∈ [s], '\n' ∉ a.name := listings_injective.2 _ _ hread
  exact ⟨⟨rfl, listings_injective.1 i₁ i₂ .wrapped .wrapped [s] [s] hname hname rfl⟩, hread,
    hname s List.mem_cons_self⟩

end MemoryListing
