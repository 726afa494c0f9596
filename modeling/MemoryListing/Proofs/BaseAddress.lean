import MemoryListing.Program
import MemoryListing.Proofs.BadWords
import MemoryListing.Proofs.GapPolicies
import MemoryListing.Proofs.Names
import MemoryListing.Proofs.Spacing

/-!
# The base is read like the addresses of a dump

The base of a conversion comes from the command line, the addresses of rows and symbols
from files. They are written alike: a word is a base if and only if it is a dump of one row
without bytes, and if and only if it names the address behind any name, and it is the same
address each time. A base is read by itself and complained about in words of its own
(`CommandLine.readBase`); what is accepted is what is accepted everywhere
(`CommandLine.readBase_eq`).

A command line with a base that is refused converts nothing, wherever the base stands on it
and whatever the files are. Of one argument it is said first what can become of the
arguments behind it (`CommandLine.Step`), and of any number of them by induction
(`CommandLine.readFrom_append_of_refused`): only a request for the version or the help
text, ahead of the base, is answered before it is looked at.

So the address that a dump begins with can be given as the base, and then its first row is
in place. `CommandLine.bases_like_addresses` says all of this.
-/

namespace MemoryListing

namespace CommandLine

/-! ## Reading a base -/

variable {value : Text} {a : UInt16}

/-- **A base is read as an address**, and refused in words of its own. -/
theorem readBase_eq (value : Text) :
    readBase value = (Hex.readAddress value).mapError baseMessage := by
  unfold readBase Hex.readAddress Hex.readUpTo
  cases Hex.read value with
  | error e => rfl
  | ok v =>
    dsimp only
    have hfits : v ≤ 0xffff ↔ v.toNat < UInt16.size :=
      UInt32.le_iff_toNat_le.trans Nat.lt_succ_iff.symm
    by_cases h : v.toNat < UInt16.size
    · rw [dif_pos h, if_pos (hfits.2 h)]
      refine congrArg Except.ok (UInt16.toNat_inj.1 ?_)
      rw [UInt16.toNat_ofNatLT, UInt32.toNat_toUInt16, Nat.mod_eq_of_lt h]
    · rw [dif_neg h, if_neg (mt hfits.1 h)]
      rfl

theorem readBase_eq_ok_iff : readBase value = .ok a ↔ Hex.readAddress value = .ok a := by
  rw [readBase_eq]
  cases Hex.readAddress value with
  | error e => exact ⟨nofun, nofun⟩
  | ok b =>
    show Except.ok b = Except.ok a ↔ _
    rw [Except.ok.injEq, Except.ok.injEq]

/-! ## What an argument does -/

/-- **What can become of the arguments behind an argument**: it is refused or answered,
whatever they are, or the reading goes on with them, or none of them can be there. -/
inductive Step (f : List Text → Except UsageError Command) : Prop where
  /-- The command line is refused. -/
  | refused (e : UsageError) (h : ∀ rest, f rest = .error e)
  /-- The version or the help text is asked for. -/
  | asked (c : Command) (hc : c = .version ∨ c = .help) (h : ∀ rest, f rest = .ok c)
  /-- The reading goes on. -/
  | next (g : Given) (pending : Option Pending) (h : ∀ rest, f rest = readFrom g pending rest)
  /-- No argument may follow. -/
  | last (h : ∀ extra rest, f (extra :: rest) = .error (.unexpectedArgument extra))

/-- What has to be settled first is refused, or the step is the one behind it. -/
theorem Step.bind {x : Except UsageError Given} {f : Given → List Text → Except UsageError Command}
    (h : ∀ g, Step (f g)) : Step fun rest => x.bind fun g => f g rest := by
  cases x with
  | error e => exact .refused e fun _ => rfl
  | ok g => exact h g

/-- **A switch** is refused or answered, or the reading goes on behind it. -/
theorem Step.switch (g : Given) (s : Switch) :
    Step fun rest => (g.turn s).bind fun
      | .inl command => .ok command
      | .inr g => readFrom g none rest := by
  cases s with
  | version => exact .asked .version (.inl rfl) fun _ => rfl
  | help => exact .asked .help (.inr rfl) fun _ => rfl
  | lenient =>
    unfold Given.turn
    dsimp only
    split
    · exact .refused _ fun _ => rfl
    · exact .next _ none fun _ => rfl
  | wrap =>
    unfold Given.turn
    dsimp only
    split
    · exact .refused _ fun _ => rfl
    · exact .next _ none fun _ => rfl

/-- **What one argument does**, whatever was given ahead of it. -/
theorem step_readFrom (g : Given) (pending : Option Pending) (argument : Text) :
    Step fun rest => readFrom g pending (argument :: rest) := by
  unfold readFrom
  cases Argument.ofText argument with
  | terminator => exact .last fun _ _ => rfl
  | long name value =>
    dsimp only
    cases Parameter.ofName? name with
    | none => exact .refused _ fun _ => rfl
    | some p =>
      cases p with
      | switch s =>
        cases value with
        | none => exact .bind fun g => .switch g s
        | some v => exact .refused _ fun _ => rfl
      | setting s =>
        cases value with
        | none => exact .bind fun g => .next g (some ⟨s, none⟩) fun _ => rfl
        | some v => exact .bind fun g => .bind fun g => .next g none fun _ => rfl
  | short letter =>
    dsimp only
    cases Switch.ofLetter? letter with
    | none => exact .refused _ fun _ => rfl
    | some s => exact .bind fun g => .switch g s
  | plain value =>
    dsimp only
    split
    · exact .next _ _ fun _ => rfl
    · exact .refused _ fun _ => rfl

/-- **An argument that is always refused is refused behind any others**, unless they ask
for the version or the help text. -/
theorem readFrom_append_of_refused {argument : Text}
    (h : ∀ g pending rest, ∃ e, readFrom g pending (argument :: rest) = .error e)
    (before after : List Text) (g : Given) (pending : Option Pending) :
    (∃ c, (c = .version ∨ c = .help) ∧ readFrom g pending before = .ok c) ∨
      ∃ e, readFrom g pending (before ++ argument :: after) = .error e := by
  induction before generalizing g pending with
  | nil => exact .inr (h g pending after)
  | cons first before ih =>
    rw [List.cons_append]
    cases step_readFrom g pending first with
    | refused e he => exact .inr ⟨e, he _⟩
    | asked c hc hasked => exact .inl ⟨c, hc, hasked before⟩
    | next g' pending' hnext =>
      rw [hnext, hnext]
      exact ih g' pending'
    | last hlast =>
      refine .inr ?_
      -- whatever stands ahead of it, the argument is one that may not follow
      cases before with
      | nil => exact ⟨_, hlast _ _⟩
      | cons extra before => exact ⟨_, hlast _ _⟩

/-! ## A base on the command line -/

/-- The argument that gives a base. -/
def baseArgument (value : Text) : Text :=
  "--base=".toList ++ value

/-- The pending setting is settled first, then the base is set. -/
theorem readFrom_baseArgument (g : Given) (pending : Option Pending) (value : Text)
    (rest : List Text) :
    readFrom g pending (baseArgument value :: rest)
      = (settle g pending).bind fun g => (g.set .base value).bind fun g =>
          readFrom g none rest := by
  rfl

/-- **A base that is no address is refused**, whatever was given ahead of it. -/
theorem readFrom_baseArgument_of_error {reason : Text} (h : readBase value = .error reason)
    (g : Given) (pending : Option Pending) (rest : List Text) :
    ∃ e, readFrom g pending (baseArgument value :: rest) = .error e := by
  have hset : ∀ g : Given, ∃ e, g.set .base value = .error e := by
    intro g
    unfold Given.set
    dsimp only
    rw [h]
    split
    · exact ⟨_, rfl⟩
    · exact ⟨_, rfl⟩
  rw [readFrom_baseArgument]
  cases settle g pending with
  | error e => exact ⟨e, rfl⟩
  | ok g =>
    obtain ⟨e, he⟩ := hset g
    refine ⟨e, ?_⟩
    show (g.set .base value).bind _ = _
    rw [he]
    rfl

/-- **A base alone on the command line** asks for a conversion with it, if it is an
address. -/
theorem read_baseArgument_iff :
    read [baseArgument value] = .ok (.convert { base := a }) ↔ readBase value = .ok a := by
  have hread : read [baseArgument value]
      = (Given.set {} .base value).bind fun g => .ok (.convert g.options) :=
    readFrom_baseArgument {} none value []
  rw [hread]
  unfold Given.set
  cases readBase value with
  | error reason => exact ⟨nofun, nofun⟩
  | ok b =>
    show Except.ok (Command.convert { base := b }) = _ ↔ _
    simp

end CommandLine

/-! ## Words by themselves -/

section

variable {v name : Text} {a : UInt16}

/-- **A word is a dump of one row without bytes** if it is an address. -/
theorem Dump.read_word_eq_ok_iff (hv : v.IsWord) :
    (read v).result = .ok [⟨a, []⟩] ↔ Hex.readAddress v = .ok a := by
  rw [read_eq_ok_iff, Text.lines_of_not_mem hv.1 hv.newline_not_mem, List.forall₂_cons,
    Row.ofLine_eq_ok_iff, hv.words_eq, and_iff_left .nil]
  constructor
  · rintro ⟨w, ws, hwords, haddress, -⟩
    cases hwords
    exact haddress
  · exact fun haddress => ⟨v, [], rfl, haddress, .nil⟩

/-- **A name and a word are a list of one symbol** if the word is its address. -/
theorem SymbolTable.read_name_eq_ok_iff (hname : name.IsWord) (hv : v.IsWord) :
    (∃ s, (read (name ++ ' ' :: v)).result = .ok [s] ∧ s.address = a) ↔
      Hex.readAddress v = .ok a := by
  have hline : '\n' ∉ name ++ ' ' :: v := by
    simp [hname.newline_not_mem, hv.newline_not_mem]
  have hwords : Text.words (name ++ ' ' :: v) = [name, v] := by
    rw [Text.words_append_blank _ _ (by decide)]
    simp [hname, hv]
  have hne : name ++ ' ' :: v ≠ [] := List.append_ne_nil_of_left_ne_nil hname.1 _
  simp only [read_eq_ok_iff, Text.lines_of_not_mem hne hline, List.forall₂_cons,
    List.forall₂_nil_left_iff, and_true, Symbol.ofLine_eq_ok_iff, hwords]
  constructor
  · rintro ⟨s, ⟨_, _, heq, -, haddress⟩, rfl⟩
    cases heq
    exact haddress
  · exact fun haddress => ⟨⟨name.lowercase, a⟩, ⟨name, v, rfl, rfl, haddress⟩, rfl⟩

end

/-! ## The base of a dump -/

/-- **A dump that is not empty begins with an address**, and its first row states it. -/
theorem Dump.exists_first_address {t : Text} {rows : List Row}
    (h : (read t).result = .ok rows) {line : Text} {rest : List Text}
    (hlines : t.lines = line :: rest) :
    ∃ w ws r rows', line.words = w :: ws ∧ rows = r :: rows' ∧
      Hex.readAddress w = .ok r.address := by
  rw [read_eq_ok_iff, hlines] at h
  obtain ⟨r, rows', hr, -, rfl⟩ := List.forall₂_cons_left_iff.1 h
  obtain ⟨w, ws, hwords, haddress, -⟩ := Row.ofLine_eq_ok_iff.1 hr
  exact ⟨w, ws, r, rows', hwords, rfl, haddress⟩

/-- A row that stands at the base is not at a gap. -/
theorem Image.row_ne_zero_of_reportedGap {r : Row} {rows : List Row} {policy : GapPolicy}
    {gap : Gap} (h : reportedGap (ofRows r.address policy (r :: rows)).result = some gap) :
    gap.row ≠ 0 := by
  rw [reportedGap_ofRows, gap_upToGap, Option.map_eq_some_iff] at h
  obtain ⟨r', -, rfl⟩ := h
  rw [inPlace_cons_of_eq (UInt16.toNat_toUInt32 r.address).symm, Nat.zero_add]
  exact Nat.succ_ne_zero _

/-- **Bases and addresses are written alike.** A word is read as a base exactly where it is
read as the address of a row and as the address of a symbol of any name, and as the same
number. A value that is no base makes the program answer with a usage error, whatever the
files are and whatever else is asked for, unless it is the version or the help text that
was asked for ahead of it. The first word of a dump is a base, and with this base the first
row is at no gap, under either policy. -/
theorem CommandLine.bases_like_addresses :
    (∀ v a, readBase v = .ok a ↔ read [baseArgument v] = .ok (.convert { base := a })) ∧
    (∀ v : Text, v.IsWord → ∀ a,
      (readBase v = .ok a ↔ (Dump.read v).result = .ok [⟨a, []⟩]) ∧
      ∀ name : Text, name.IsWord → (readBase v = .ok a ↔
        ∃ s, (SymbolTable.read (name ++ ' ' :: v)).result = .ok [s] ∧ s.address = a)) ∧
    (∀ v message, readBase v = .error message → ∀ before after,
      read before ≠ .ok .version → read before ≠ .ok .help → ∀ files,
      let answer := Program.answer files (before ++ baseArgument v :: after)
      answer.exitCode = 2 ∧ answer.printed = []) ∧
    ∀ t rows, (Dump.read t).result = .ok rows → ∀ line rest, t.lines = line :: rest →
      ∃ w ws a, line.words = w :: ws ∧ readBase w = .ok a ∧
        ∀ policy gap, Image.reportedGap (Image.ofRows a policy rows).result = some gap →
          gap.row ≠ 0 := by
  refine ⟨?_, ?_, ?_, ?_⟩
  · intro v a
    exact read_baseArgument_iff.symm
  · intro v hv a
    rw [readBase_eq_ok_iff, Dump.read_word_eq_ok_iff hv]
    exact ⟨Iff.rfl, fun name hname => (SymbolTable.read_name_eq_ok_iff hname hv).symm⟩
  · intro v message hv before after hversion hhelp files answer
    have hrefused := readFrom_append_of_refused (readFrom_baseArgument_of_error hv)
      before after {} none
    rcases hrefused with ⟨c, rfl | rfl, hasked⟩ | ⟨e, he⟩
    · exact absurd hasked hversion
    · exact absurd hasked hhelp
    · have hanswer : answer = .ofUsageError e := by
        show Program.answer files (before ++ baseArgument v :: after) = _
        simp only [Program.answer, Program.run, read, he]
        rfl
      rw [hanswer]
      exact ⟨rfl, rfl⟩
  · intro t rows h line rest hlines
    obtain ⟨w, ws, r, rows', hwords, rfl, haddress⟩ := Dump.exists_first_address h hlines
    exact ⟨w, ws, r.address, hwords, readBase_eq_ok_iff.2 haddress,
      fun policy gap => Image.row_ne_zero_of_reportedGap⟩

/-- A sign and an underscore are read alike in all places. A base that is too large is
refused behind another option, without any file. And a dump has its gap behind its first
row if that row gives the base. -/
theorem CommandLine.bases_like_addresses_of_signed_word :
    (Text.IsWord "+0x1_0".toList ∧ Text.IsWord "s'".toList ∧
      readBase "+0x1_0".toList = .ok 0x10 ∧
      (Dump.read "+0x1_0".toList).result = .ok [⟨0x10, []⟩] ∧
      ∃ s, (SymbolTable.read "s' +0x1_0".toList).result = .ok [s] ∧ s.address = 0x10) ∧
    (readBase "10000".toList = .error "0x10000 does not fit in 16 bits".toList ∧
      (Program.answer (fun _ => .error .missing)
        ["--wrap".toList, "--base=10000".toList]).exitCode = 2) ∧
    ∃ rows gap, (Dump.read "0x210 1\n0230 2\n".toList).result = .ok rows ∧
      readBase "0x210".toList = .ok 0x210 ∧
      Image.reportedGap (Image.ofRows 0x210 .lenient rows).result = some gap ∧
      gap.row ≠ 0 := by
  obtain ⟨-, hwords, hrefused, hfirst⟩ := bases_like_addresses
  refine ⟨?_, ?_, ?_⟩
  · have hv : Text.IsWord "+0x1_0".toList := by decide
    have hname : Text.IsWord "s'".toList := by decide
    have hbase : readBase "+0x1_0".toList = .ok 0x10 := by decide
    obtain ⟨hdump, hlist⟩ := hwords _ hv 0x10
    exact ⟨hv, hname, hbase, hdump.1 hbase, (hlist _ hname).1 hbase⟩
  · have hbase : readBase "10000".toList = .error "0x10000 does not fit in 16 bits".toList := by
      decide
    exact ⟨hbase, (hrefused _ _ hbase ["--wrap".toList] [] (by decide) (by decide) _).1⟩
  · let t := "0x210 1\n0230 2\n".toList
    let rows : List Row := [⟨0x210, [1]⟩, ⟨0x230, [2]⟩]
    have ht : (Dump.read t).result = .ok rows := by decide
    obtain ⟨w, ws, a, hline, hbase, hrow⟩ :=
      hfirst t rows ht "0x210 1".toList ["0230 2".toList] (by decide)
    have hw : "0x210".toList = w := (List.cons.inj hline).1
    subst hw
    have ha : (0x210 : UInt16) = a := by
      have h : readBase "0x210".toList = .ok 0x210 := by decide
      exact Except.ok.inj (h.symm.trans hbase)
    subst ha
    let gap : Gap := ⟨1, 0x230, 0x220⟩
    have hgap : Image.reportedGap (Image.ofRows 0x210 .lenient rows).result = some gap := by
      decide
    exact ⟨rows, gap, ht, hbase, hgap, hrow .lenient gap hgap⟩

end MemoryListing
