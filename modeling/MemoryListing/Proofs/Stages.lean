import MemoryListing.Program
import MemoryListing.Proofs.Contiguity

/-!
# The stages of a conversion

A conversion has two stages, one for the dump and one for the symbol list, and
the second begins when the first one's block is printed. `Program.answer_staged`
says what is left of a run that ends in either stage, and in whose words it
reports the failure.

The stages know nothing of each other. The first is made of the dump alone
(`Conversion.imageBlock_of_image`), so that two runs on one dump can be compared; of
the second only the layout of the options counts
(`Conversion.symbolBlock_of_layout_eq`).

What a run does on the way is recorded as a list of events. The symbol list is fetched
behind the block of the image and not at all if there is none
(`Program.events_of_image`, `Program.events_of_no_image`), and what is printed and
reported bit by bit adds up to the answer (`Program.record_eq`).
-/

namespace MemoryListing

/-! ## What an answer reports -/

namespace Answer

/-- **An answer that reports a failure.** Whatever notices are seen, the reason is
the last line of the error stream. -/
structure Fails (a : Answer) (printed reason : Text) : Prop where
  /-- The output stream is left with this text. -/
  printed_eq : a.printed = printed
  /-- The exit code is that of a failed conversion. -/
  exitCode_eq : a.exitCode = 1
  /-- The last line of the error stream gives the reason. -/
  last_errorLine : ∀ threshold,
    (a.errorLines threshold).getLast? = some ("ERROR: ".toList ++ reason)

/-- **An answer that reports a success.** -/
structure Succeeds (a : Answer) (printed : Text) : Prop where
  /-- The output stream is left with this text. -/
  printed_eq : a.printed = printed
  /-- The exit code is that of a success. -/
  exitCode_eq : a.exitCode = 0
  /-- Nothing but notices is on the error stream. -/
  closing_eq : a.closing = none

theorem fails_ofOutcome {o : Outcome} {f : Failure} (h : o.failure = some f) :
    (ofOutcome o).Fails o.printed f.message where
  printed_eq := printed_ofOutcome o
  exitCode_eq := by simp [h]
  last_errorLine threshold := by simp [errorLines, h]

theorem succeeds_ofOutcome {o : Outcome} (h : o.failure = none) :
    (ofOutcome o).Succeeds o.printed where
  printed_eq := printed_ofOutcome o
  exitCode_eq := by simp [h]
  closing_eq := by simp [h]

end Answer

namespace Conversion

open CommandLine (Options)

variable {o : Options} {dump symbols : Except FileError Text}

/-! ## The stage of the dump -/

/-- The dump of a source gives an image under the options. -/
def HasImage (o : Options) (dump : Except FileError Text) (image : Image) : Prop :=
  ∃ rows, (Dump.readSource dump).result = .ok rows ∧
    (Image.ofRows o.base o.policy rows).result = .ok image

/-- **A dump that is no dump ends the run.** -/
theorem imageBlock_of_unreadable {e : InputError}
    (h : (Dump.readSource dump).result = .error e) :
    ∃ notices, imageBlock o dump = .failed notices (.input o.dumpPath e) := by
  refine ⟨(Dump.readSource dump).notices, ?_⟩
  simp only [imageBlock]
  rw [h]

/-- **A gap that is refused ends the run.** -/
theorem imageBlock_of_gap {rows : List Row} {gap : Gap}
    (h : (Dump.readSource dump).result = .ok rows)
    (hg : (Image.ofRows o.base o.policy rows).result = .error gap) :
    ∃ notices, imageBlock o dump = .failed notices (.gap o.dumpPath gap) := by
  refine ⟨(Dump.readSource dump).notices ++ (Image.ofRows o.base o.policy rows).notices, ?_⟩
  simp only [imageBlock]
  rw [h]
  simp only [hg]

/-- **An image is printed.** -/
theorem imageBlock_of_image {image : Image} (h : HasImage o dump image) :
    ∃ notices, imageBlock o dump = ⟨image.listing o.layout, notices, none⟩ := by
  obtain ⟨rows, hr, hi⟩ := h
  refine ⟨(Dump.readSource dump).notices ++ (Image.ofRows o.base o.policy rows).notices
    ++ [.imageFrom image.bytes.length o.dumpPath o.policy], ?_⟩
  simp only [imageBlock]
  rw [hr]
  simp only [hi]

/-- The stage of the dump prints nothing unless there is an image. -/
theorem imageBlock_of_no_image (h : ∀ image, ¬HasImage o dump image) :
    ∃ notices f, imageBlock o dump = .failed notices f := by
  cases hd : (Dump.readSource dump).result with
  | error e =>
    obtain ⟨notices, hstage⟩ := imageBlock_of_unreadable (o := o) hd
    exact ⟨notices, _, hstage⟩
  | ok rows =>
    cases hi : (Image.ofRows o.base o.policy rows).result with
    | error gap =>
      obtain ⟨notices, hstage⟩ := imageBlock_of_gap hd hi
      exact ⟨notices, _, hstage⟩
    | ok image => exact absurd ⟨rows, hd, hi⟩ (h image)

/-- Under the lenient policy every dump gives an image. -/
theorem exists_hasImage_of_lenient (hp : o.policy = .lenient) {rows : List Row}
    (h : (Dump.readSource dump).result = .ok rows) : ∃ image, HasImage o dump image :=
  ⟨_, rows, h, Image.ofRows_eq_ok_iff.2 ⟨rfl, .inl hp⟩⟩

/-! ## The stage of the symbol list -/

/-- A symbol list that is none prints nothing. -/
theorem symbolBlock_of_error {e : InputError}
    (h : (SymbolTable.readSource symbols).result = .error e) :
    (symbolBlock o symbols).printed = [] ∧
      (symbolBlock o symbols).failure = some (.input o.symbolsPath e) := by
  simp only [symbolBlock]
  rw [h]
  exact ⟨rfl, rfl⟩

/-- A symbol list prints its table. -/
theorem symbolBlock_of_ok {list : List Symbol}
    (h : (SymbolTable.readSource symbols).result = .ok list) :
    (symbolBlock o symbols).printed
        = SymbolTable.listing o.layout (SymbolTable.sort list) ∧
      (symbolBlock o symbols).failure = none := by
  simp only [symbolBlock]
  rw [h]
  exact ⟨rfl, rfl⟩

/-- **Of all options only the layout shows in the block of a symbol table.** -/
theorem symbolBlock_of_layout_eq {o' : Options} (hl : o'.layout = o.layout)
    (symbols : Except FileError Text) :
    (symbolBlock o' symbols).printed = (symbolBlock o symbols).printed ∧
      (symbolBlock o' symbols).failure.isSome = (symbolBlock o symbols).failure.isSome := by
  cases h : (SymbolTable.readSource symbols).result with
  | error e =>
    obtain ⟨hprinted, hfailure⟩ := symbolBlock_of_error (o := o) h
    obtain ⟨hprinted', hfailure'⟩ := symbolBlock_of_error (o := o') h
    rw [hprinted, hprinted', hfailure, hfailure']
    exact ⟨rfl, rfl⟩
  | ok list =>
    obtain ⟨hprinted, hfailure⟩ := symbolBlock_of_ok (o := o) h
    obtain ⟨hprinted', hfailure'⟩ := symbolBlock_of_ok (o := o') h
    rw [hprinted, hprinted', hfailure, hfailure', hl]
    exact ⟨rfl, rfl⟩

end Conversion

/-! ## The order of events -/

/-- **Something that a run does.** -/
inductive Event where
  /-- The file at a path is fetched. -/
  | fetched (path : Text)
  /-- Notices are reported, and then a text is printed. -/
  | emitted (notices : List Notice) (printed : Text)

namespace Event

/-- The text that an event prints. -/
def printed : Event → Text
  | fetched _ => []
  | emitted _ t => t

/-- The notices that an event reports. -/
def notices : Event → List Notice
  | fetched _ => []
  | emitted ns _ => ns

@[simp] theorem printed_fetched (path : Text) : (fetched path).printed = [] := rfl

@[simp] theorem notices_fetched (path : Text) : (fetched path).notices = [] := rfl

@[simp] theorem printed_emitted (ns : List Notice) (t : Text) :
    (emitted ns t).printed = t := rfl

@[simp] theorem notices_emitted (ns : List Notice) (t : Text) :
    (emitted ns t).notices = ns := rfl

/-- The event that a stage ends with. -/
def ofStage (stage : Outcome) : Event :=
  .emitted stage.notices stage.printed

@[simp] theorem printed_ofStage (stage : Outcome) :
    (ofStage stage).printed = stage.printed := rfl

@[simp] theorem notices_ofStage (stage : Outcome) :
    (ofStage stage).notices = stage.notices := rfl

end Event

/-- **Events that make up an answer**: bit by bit they print and report what it says. -/
structure Answer.MadeOf (a : Answer) (events : List Event) : Prop where
  /-- The printed texts make up the output stream. -/
  printed_eq : events.flatMap Event.printed = a.printed
  /-- The notices are those of the answer, in its order. -/
  notices_eq : events.flatMap Event.notices = a.notices

namespace Program

open CommandLine (Options)
open Conversion (HasImage)

/-- A run on files that are known, with everything that it does. -/
def record (files : Text → Except FileError Text) (arguments : List Text) :
    Answer × List Event :=
  let fetch : Text → StateM (List Event) (Except FileError Text) := fun path => do
    modify (· ++ [.fetched path])
    return files path
  let emit : List Notice → Text → StateM (List Event) Unit := fun notices printed =>
    modify (· ++ [.emitted notices printed])
  Id.run ((run fetch emit arguments).run [])

/-- What a conversion does: the dump is fetched and its stage reported, and then, if
that did not fail, the symbol list. -/
def conversionEvents (o : Options) (files : Text → Except FileError Text) : List Event :=
  let first := Conversion.imageBlock o (files o.dumpPath)
  .fetched o.dumpPath :: .ofStage first ::
    if first.failure.isSome then []
    else [.fetched o.symbolsPath, .ofStage (Conversion.symbolBlock o (files o.symbolsPath))]

variable {files : Text → Except FileError Text} {arguments : List Text} {o : Options}

theorem record_of_convert (h : CommandLine.read arguments = .ok (.convert o)) :
    record files arguments = (answer files arguments, conversionEvents o files) := by
  rw [answer_of_convert files h]
  unfold record conversionEvents Conversion.run
  cases hf : (Conversion.imageBlock o (files o.dumpPath)).failure with
  | none => simp [run, h, runConversion, runStage, hf, Event.ofStage]
  | some f => simp [run, h, runConversion, runStage, hf, Event.ofStage, Outcome.andThen]

/-- A text that is known beforehand, whatever it is, is printed at once. -/
theorem record_of_text (files : Text → Except FileError Text) {t : Text}
    (h : ∀ (m : Type → Type) [Monad m] (fetch : Text → m (Except FileError Text))
      (emit : List Notice → Text → m Unit), run fetch emit arguments = runText emit t) :
    (record files arguments).1 = answer files arguments ∧
      (answer files arguments).MadeOf (record files arguments).2 := by
  refine ⟨?_, ?_, ?_⟩ <;> simp [record, answer, h, runText]

/-- **What a run prints and reports as it goes is what its answer says**, in the same
order. -/
theorem record_eq (files : Text → Except FileError Text) (arguments : List Text) :
    (record files arguments).1 = answer files arguments ∧
      (answer files arguments).MadeOf (record files arguments).2 := by
  cases hread : CommandLine.read arguments with
  | error e => refine ⟨?_, ?_, ?_⟩ <;> simp [record, answer, run, hread, Answer.ofUsageError]
  | ok request =>
    cases request with
    | version => exact record_of_text files fun m _ fetch emit => by rw [run, hread]
    | help => exact record_of_text files fun m _ fetch emit => by rw [run, hread]
    | convert o =>
      rw [record_of_convert hread, answer_of_convert files hread]
      unfold conversionEvents Conversion.run Outcome.andThen
      cases hf : (Conversion.imageBlock o (files o.dumpPath)).failure with
      | none => exact ⟨rfl, by simp [hf, Outcome.after], by simp [hf, Outcome.after]⟩
      | some f => exact ⟨rfl, by simp [hf], by simp [hf]⟩

/-- **The symbol list is fetched behind the block of the image**, which is all that is
printed by then. -/
theorem events_of_image (h : CommandLine.read arguments = .ok (.convert o)) {image : Image}
    (hi : HasImage o (files o.dumpPath) image) :
    ∃ notices, (record files arguments).2
      = [.fetched o.dumpPath, .emitted notices (image.listing o.layout),
        .fetched o.symbolsPath, .ofStage (Conversion.symbolBlock o (files o.symbolsPath))] := by
  obtain ⟨notices, hstage⟩ := Conversion.imageBlock_of_image hi
  refine ⟨notices, ?_⟩
  rw [record_of_convert h, conversionEvents, hstage]
  rfl

/-- **Without an image nothing is printed and the symbol list is never fetched.** -/
theorem events_of_no_image (h : CommandLine.read arguments = .ok (.convert o))
    (hi : ∀ image, ¬HasImage o (files o.dumpPath) image) :
    ∃ notices, (record files arguments).2
      = [.fetched o.dumpPath, .emitted notices []] := by
  obtain ⟨notices, f, hstage⟩ := Conversion.imageBlock_of_no_image hi
  refine ⟨notices, ?_⟩
  rw [record_of_convert h, conversionEvents, hstage]
  rfl

/-! ## The whole run -/

/-- The dump alone decides the answer: it is the same with every symbol list. -/
def DecidedByDump (arguments : List Text) (o : Options)
    (files : Text → Except FileError Text) : Prop :=
  ∀ files' : Text → Except FileError Text, files' o.dumpPath = files o.dumpPath →
    answer files' arguments = answer files arguments

section

variable {arguments : List Text} {o : Options}
  (h : CommandLine.read arguments = .ok (.convert o)) {files : Text → Except FileError Text}

include h

/-- A failure ahead of the symbol list leaves nothing printed. -/
theorem answer_of_failed {f : Failure}
    (hf : ∃ notices, Conversion.imageBlock o (files o.dumpPath) = .failed notices f) :
    (answer files arguments).Fails [] f.message ∧ DecidedByDump arguments o files := by
  obtain ⟨notices, hstage⟩ := hf
  have hrun : ∀ symbols,
      Conversion.run o (files o.dumpPath) symbols = .failed notices f := by
    intro symbols
    rw [Conversion.run, hstage]
    rfl
  constructor
  · rw [answer_of_convert files h, hrun]
    exact Answer.fails_ofOutcome rfl
  · intro files' hd
    rw [answer_of_convert files h, answer_of_convert files' h, hd, hrun, hrun]

/-- **Behind an image the stage of the symbol list decides**: what is printed
there is its block, and the answer fails if it does. -/
theorem answer_of_image {image : Image} (hi : HasImage o (files o.dumpPath) image) :
    ∃ outcome : Outcome, answer files arguments = .ofOutcome outcome ∧
      outcome.printed = image.listing o.layout
        ++ (Conversion.symbolBlock o (files o.symbolsPath)).printed ∧
      outcome.failure = (Conversion.symbolBlock o (files o.symbolsPath)).failure := by
  obtain ⟨notices, hstage⟩ := Conversion.imageBlock_of_image hi
  refine ⟨(Conversion.symbolBlock o (files o.symbolsPath)).after (image.listing o.layout)
    notices, ?_, rfl, rfl⟩
  rw [answer_of_convert files h, Conversion.run, hstage]
  rfl

/-- A symbol list that is none leaves the image printed and nothing behind it. -/
theorem answer_of_symbols_error {image : Image} (hi : HasImage o (files o.dumpPath) image)
    {e : InputError}
    (hs : (SymbolTable.readSource (files o.symbolsPath)).result = .error e) :
    (answer files arguments).Fails (image.listing o.layout)
      (Failure.input o.symbolsPath e).message := by
  obtain ⟨outcome, ha, hprinted, hfailure⟩ := answer_of_image h hi
  obtain ⟨hnothing, hfails⟩ := Conversion.symbolBlock_of_error (o := o) hs
  rw [hnothing, List.append_nil] at hprinted
  rw [ha, ← hprinted]
  exact Answer.fails_ofOutcome (hfailure.trans hfails)

/-- Two inputs that can be used give both blocks. -/
theorem answer_of_symbols_ok {image : Image} (hi : HasImage o (files o.dumpPath) image)
    {symbols : List Symbol}
    (hs : (SymbolTable.readSource (files o.symbolsPath)).result = .ok symbols) :
    (answer files arguments).Succeeds
      (image.listing o.layout ++ SymbolTable.listing o.layout (SymbolTable.sort symbols)) := by
  obtain ⟨outcome, ha, hprinted, hfailure⟩ := answer_of_image h hi
  obtain ⟨hblock, hnone⟩ := Conversion.symbolBlock_of_ok (o := o) hs
  rw [hblock] at hprinted
  rw [ha, ← hprinted]
  exact Answer.succeeds_ofOutcome (hfailure.trans hnone)

/-- The block of an image is the same with every symbol list. -/
theorem prefix_printed {image : Image} (hi : HasImage o (files o.dumpPath) image) :
    image.listing o.layout <+: (answer files arguments).printed := by
  obtain ⟨outcome, ha, hprinted, -⟩ := answer_of_image h hi
  rw [ha, Answer.printed_ofOutcome, hprinted]
  exact List.prefix_append _ _

/-- **Under the lenient policy a run fails only when an input cannot be read.** -/
theorem exitCode_eq_zero_iff_of_lenient (hp : o.policy = .lenient) :
    (answer files arguments).exitCode = 0 ↔
      (∃ rows, (Dump.readSource (files o.dumpPath)).result = .ok rows) ∧
        ∃ symbols, (SymbolTable.readSource (files o.symbolsPath)).result = .ok symbols := by
  cases hd : (Dump.readSource (files o.dumpPath)).result with
  | error e =>
    have hfails := (answer_of_failed h (Conversion.imageBlock_of_unreadable hd)).1
    rw [hfails.exitCode_eq]
    exact ⟨nofun, nofun⟩
  | ok rows =>
    obtain ⟨image, hi⟩ := Conversion.exists_hasImage_of_lenient hp hd
    cases hs : (SymbolTable.readSource (files o.symbolsPath)).result with
    | error e =>
      rw [(answer_of_symbols_error h hi hs).exitCode_eq]
      exact ⟨nofun, nofun⟩
    | ok symbols =>
      rw [(answer_of_symbols_ok h hi hs).exitCode_eq]
      exact ⟨fun _ => ⟨⟨rows, rfl⟩, symbols, rfl⟩, fun _ => rfl⟩

end

/-- **A run is made of two stages**, for all files and all options. A dump that
cannot be used leaves nothing printed, and the symbol list makes no difference.
A symbol list that cannot be used leaves the block of the image, and one that can
puts its block behind it. The block of an image comes first whatever the symbol
list is, and what comes behind it is, for one symbol list in one layout, the same
behind every image. Under the lenient policy no gap makes a run fail. -/
theorem answer_staged {arguments : List Text} {o : Options}
    (h : CommandLine.read arguments = .ok (.convert o))
    (files : Text → Except FileError Text) :
    (∀ e, (Dump.readSource (files o.dumpPath)).result = .error e →
      (answer files arguments).Fails []
        ("failed to parse ".toList ++ o.dumpPath.quoted ++ ": ".toList ++ e.message) ∧
      DecidedByDump arguments o files) ∧
    (∀ rows gap, (Dump.readSource (files o.dumpPath)).result = .ok rows →
      (Image.ofRows o.base o.policy rows).result = .error gap →
      (answer files arguments).Fails []
        ("failed to convert ".toList ++ o.dumpPath.quoted ++ ": ".toList ++ gap.refusal) ∧
      DecidedByDump arguments o files) ∧
    (∀ image, HasImage o (files o.dumpPath) image →
      (∀ e, (SymbolTable.readSource (files o.symbolsPath)).result = .error e →
        (answer files arguments).Fails (image.listing o.layout)
          ("failed to parse ".toList ++ o.symbolsPath.quoted ++ ": ".toList
            ++ e.message)) ∧
      (∀ symbols, (SymbolTable.readSource (files o.symbolsPath)).result = .ok symbols →
        (answer files arguments).Succeeds (image.listing o.layout
          ++ SymbolTable.listing o.layout (SymbolTable.sort symbols))) ∧
      ∀ files' : Text → Except FileError Text, files' o.dumpPath = files o.dumpPath →
        image.listing o.layout <+: (answer files' arguments).printed) ∧
    (∃ block exitCode, ∀ (arguments' : List Text) (o' : Options)
      (files' : Text → Except FileError Text) (image' : Image),
      CommandLine.read arguments' = .ok (.convert o') → o'.layout = o.layout →
      files' o'.symbolsPath = files o.symbolsPath →
      HasImage o' (files' o'.dumpPath) image' →
      (answer files' arguments').printed = image'.listing o.layout ++ block ∧
        (answer files' arguments').exitCode = exitCode) ∧
    (o.policy = .lenient →
      ((answer files arguments).exitCode = 0 ↔
        (∃ rows, (Dump.readSource (files o.dumpPath)).result = .ok rows) ∧
          ∃ symbols, (SymbolTable.readSource (files o.symbolsPath)).result = .ok symbols)) := by
  refine ⟨?_, ?_, ?_, ?_, ?_⟩
  · intro e hd
    exact answer_of_failed h (Conversion.imageBlock_of_unreadable hd)
  · intro rows gap hd hg
    exact answer_of_failed h (Conversion.imageBlock_of_gap hd hg)
  · intro image hi
    refine ⟨fun e hs => answer_of_symbols_error h hi hs,
      fun symbols hs => answer_of_symbols_ok h hi hs, fun files' hd => ?_⟩
    exact prefix_printed h (hd ▸ hi)
  · refine ⟨(Conversion.symbolBlock o (files o.symbolsPath)).printed,
      if (Conversion.symbolBlock o (files o.symbolsPath)).failure.isSome then 1 else 0, ?_⟩
    intro arguments' o' files' image' h' hl hs hi
    -- the other run's block is made under its own options, of which the layout counts
    obtain ⟨outcome, ha, hprinted, hfailure⟩ := answer_of_image h' hi
    obtain ⟨hblock, hfails⟩ :=
      Conversion.symbolBlock_of_layout_eq hl (files o.symbolsPath)
    rw [ha, Answer.printed_ofOutcome, Answer.exitCode_ofOutcome, hprinted, hfailure, hs,
      hblock, hfails, hl]
    exact ⟨rfl, rfl⟩
  · exact exitCode_eq_zero_iff_of_lenient h

/-- A gap that is allowed, in front of a symbol list and in front of none. -/
theorem answer_staged_of_lenient_gap :
    let arguments : List Text := ["--lenient".toList]
    let o : Options := { policy := .lenient }
    let dump : Text → Except FileError Text := fun path =>
      if path = "code.txt".toList then .ok "0200 01\n0230 02\n".toList else .error .missing
    let both : Text → Except FileError Text := fun path =>
      if path = "symbols.txt".toList then .ok "start 0200\n".toList else dump path
    CommandLine.read arguments = .ok (.convert o) ∧
      (answer both arguments).Succeeds "0230 != 0210\n0x0200: \"start\",\n".toList ∧
      (answer dump arguments).Fails "0230 != 0210\n".toList
        ("failed to parse ".toList ++ o.symbolsPath.quoted ++ ": ".toList
          ++ (InputError.unreadable .missing).message) := by
  intro arguments o dump both
  have h : CommandLine.read arguments = .ok (.convert o) := rfl
  have hi : HasImage o (.ok "0200 01\n0230 02\n".toList)
      ⟨[1], some ⟨1, 0x230, 0x210⟩⟩ := by
    refine ⟨[⟨0x200, [1]⟩, ⟨0x230, [2]⟩], ?_, ?_⟩
    · decide +kernel
    · decide +kernel
  have hs : (SymbolTable.readSource (both o.symbolsPath)).result
      = .ok [⟨"start".toList, 0x200⟩] := by
    decide +kernel
  have htable : SymbolTable.sort [⟨"start".toList, 0x200⟩] = [⟨"start".toList, 0x200⟩] :=
    List.mergeSort_singleton _
  have hsucceeds := ((answer_staged h both).2.2.1 _ hi).2.1 _ hs
  rw [htable] at hsucceeds
  exact ⟨h, hsucceeds, ((answer_staged h dump).2.2.1 _ hi).1 (.unreadable .missing) rfl⟩

end Program

end MemoryListing
