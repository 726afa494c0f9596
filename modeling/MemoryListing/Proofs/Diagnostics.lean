import Mathlib.Data.List.Basic
import MemoryListing.Block
import MemoryListing.Program
import MemoryListing.Proofs.Digits
import MemoryListing.Proofs.TableOrder

/-!
# Notices stay apart from what is printed

A level chooses which notices of a run are seen, and that is all it does:
`Program.levels_choose_log_lines` says so of every command line, all files and any two
levels. The run with the lower level prints the same text, ends with the same code and
the same closing line, and its log consists of those lines of the other log that it
admits. Each notice is one line of the log, even if it mentions a path with a line feed
in it, and its level can be told from the line (`Level.ofLine?`), so nothing but the log
itself is needed to cut it down.

What is noticed is put together from steps. `Conversion.steps` lists the seven steps of
a conversion, each with what it notices on its own, and `Logged.andThen` joins two of
them: a step that fails is the last one that is heard of. The conversion itself is made
of two stages that print. Each stage is heard as its steps are, with the same notices
and the same failure, and so is the conversion (`Conversion.heard_run`).
-/

namespace MemoryListing

/-! ## A notice is one line -/

@[simp] theorem Text.newline_not_mem_decimal (n : Nat) : '\n' ∉ Text.decimal n :=
  fun h => absurd (Nat.isDigit_of_mem_toDigits (by decide) (by decide) h) (by decide)

@[simp] theorem Hex.newline_not_mem_digits (width n : Nat) : '\n' ∉ digits width n :=
  fun h => absurd (mem_alphabet_of_mem_digits h) (by decide)

/-- **A quoted text holds no line feed**, whatever stands between the quotes. -/
@[simp] theorem Text.newline_not_mem_quoted (t : Text) : '\n' ∉ t.quoted := by
  have hpoint : ∀ c, '\n' ∉ namedPoint c := by
    intro c h
    have hdigits : '\n' ∉ Nat.toDigits 16 c.toNat :=
      fun h => absurd (Hex.mem_alphabet_of_mem_toDigits h) (by decide)
    simp [namedPoint, hdigits] at h
  have hchar : ∀ c, '\n' ∉ quotedChar c := by
    intro c
    by_cases hc : c = '\n'
    · rw [hc]
      decide
    · unfold quotedChar
      split
      iterate 6 decide
      split
      · exact hpoint c
      · exact List.not_mem_cons_of_ne_of_not_mem (Ne.symm hc) nofun
  have hflat : '\n' ∉ t.flatMap quotedChar := by
    intro h
    obtain ⟨c, -, hc⟩ := List.mem_flatMap.1 h
    exact hchar c hc
  simp [quoted, hflat]

@[simp] theorem Gap.newline_not_mem_message (g : Gap) : '\n' ∉ g.message := by
  unfold message
  simp only [List.mem_append, not_or, and_assoc]
  exact ⟨by decide, Text.newline_not_mem_decimal _, by decide,
    Hex.newline_not_mem_digits _ _, by decide, Hex.newline_not_mem_digits _ _⟩

@[simp] theorem Notice.newline_not_mem_message (n : Notice) : '\n' ∉ n.message := by
  unfold message
  cases n with
  | oddRow line address size =>
    simp only [List.mem_append, not_or, and_assoc]
    exact ⟨by decide, Text.newline_not_mem_decimal _, by decide,
      Hex.newline_not_mem_digits _ _, by decide, Text.newline_not_mem_decimal _, by decide,
      Text.newline_not_mem_decimal _⟩
  | rowsRead count | symbolsRead count | imageBuilt size =>
    simp only [List.mem_append, not_or, and_assoc]
    exact ⟨by decide, Text.newline_not_mem_decimal _, by decide⟩
  | imageCut gap size =>
    simp only [List.mem_append, not_or, and_assoc]
    exact ⟨gap.newline_not_mem_message, by decide, Text.newline_not_mem_decimal _, by decide⟩
  | sharedAddress address =>
    simp only [Hex.prefixed, List.mem_append, not_or, and_assoc]
    exact ⟨by decide, by decide, Hex.newline_not_mem_digits _ _, by decide⟩
  | imageFrom size path policy =>
    have hpolicy : '\n' ∉ policy.name := by
      cases policy <;> decide
    simp only [List.mem_append, not_or, and_assoc]
    exact ⟨Text.newline_not_mem_decimal _, by decide, path.newline_not_mem_quoted, by decide,
      hpolicy, by decide⟩
  | symbolsFrom count path =>
    simp only [List.mem_append, not_or, and_assoc]
    exact ⟨Text.newline_not_mem_decimal _, by decide, path.newline_not_mem_quoted⟩

/-- **A notice is reported in one line.** -/
@[simp] theorem Notice.newline_not_mem_line (n : Notice) : '\n' ∉ n.line := by
  have hname : '\n' ∉ n.level.name := by
    cases n.level <;> decide
  simp only [line, List.mem_append, not_or, and_assoc]
  exact ⟨hname, by decide, n.newline_not_mem_message⟩

/-! ## Levels -/

namespace Level

/-- The names that choose a level, in ascending order of what they let through. -/
def names : List Text :=
  ["off".toList, "error".toList, "warn".toList, "info".toList, "debug".toList]

/-- The level that a line of a log begins with. -/
def ofLine? (line : Text) : Option Level :=
  [error, warn, info, debug].find? fun l => l.name == line.takeWhile (· ≠ ' ')

/-- Whether a line of a log is admitted at a threshold. -/
def admits (threshold : Option Level) (line : Text) : Bool :=
  match threshold, ofLine? line with
  | some t, some l => decide (l.rank ≤ t.rank)
  | _, _ => false

/-- **The level of a notice can be told from its line.** -/
@[simp] theorem ofLine?_line (n : Notice) : ofLine? n.line = some n.level := by
  unfold Notice.line
  cases n.level <;> rfl

@[simp] theorem admits_line (threshold : Option Level) (n : Notice) :
    admits threshold n.line = n.isSeen threshold := by
  unfold admits
  rw [ofLine?_line]
  cases threshold <;> rfl

/-- What a name lets through: the levels whose rank is below its place. -/
theorem isSeen_ofName?_iff {i : Nat} {name : Text} (h : names[i]? = some name) (n : Notice) :
    n.isSeen (ofName? name) = true ↔ n.level.rank < i := by
  have hseen : ∀ l : Level, n.isSeen (some l) = true ↔ n.level.rank < l.rank + 1 :=
    fun l => decide_eq_true_iff.trans Nat.lt_succ_iff.symm
  match i, h with
  | 0, h =>
    cases h
    exact ⟨nofun, nofun⟩
  | 1, h =>
    cases h
    exact hseen .error
  | 2, h =>
    cases h
    exact hseen .warn
  | 3, h =>
    cases h
    exact hseen .info
  | 4, h =>
    cases h
    exact hseen .debug

end Level

/-! ## Steps -/

namespace Logged

variable {α β ε φ : Type}

/-- **One step and then another**, which may use the value of the first. A step that
fails is the last one, and what was noticed up to its failure stays noticed. -/
def andThen (first : Logged (Except ε α)) (next : α → Logged (Except ε β)) :
    Logged (Except ε β) :=
  match first.result with
  | .error e => ⟨first.notices, .error e⟩
  | .ok a => ⟨first.notices ++ (next a).notices, (next a).result⟩

/-- A step whose failure is reported in a context. -/
def inContext (step : Logged (Except ε α)) (context : ε → φ) : Logged (Except φ α) :=
  ⟨step.notices, step.result.mapError context⟩

/-- The step that notices one thing. -/
def noticing (n : Notice) : Logged (Except ε Unit) :=
  ⟨[n], .ok ()⟩

/-- The step that prints a block. -/
def printing (block : Logged Text) : Logged (Except ε Unit) :=
  ⟨block.notices, .ok ()⟩

variable {step : Logged (Except ε α)} {context : ε → φ} {next : α → Logged (Except φ β)}

theorem inContext_andThen_of_error {e : ε} (h : step.result = .error e) :
    (step.inContext context).andThen next = ⟨step.notices, .error (context e)⟩ := by
  unfold inContext
  rw [h]
  rfl

theorem inContext_andThen_of_ok {a : α} (h : step.result = .ok a) :
    (step.inContext context).andThen next
      = ⟨step.notices ++ (next a).notices, (next a).result⟩ := by
  unfold inContext
  rw [h]
  rfl

/-- **It does not matter which of three steps are joined first.** -/
theorem andThen_assoc {γ : Type} (first : Logged (Except ε α))
    (second : α → Logged (Except ε β)) (third : β → Logged (Except ε γ)) :
    (first.andThen second).andThen third
      = first.andThen fun a => (second a).andThen third := by
  unfold andThen
  cases first.result with
  | error e => rfl
  | ok a => cases h : (second a).result <;> simp [h]

end Logged

/-- What is heard of an outcome: everything but the printed text. -/
def Outcome.heard (o : Outcome) : Logged (Except Failure Unit) :=
  ⟨o.notices, match o.failure with
    | none => .ok ()
    | some f => .error f⟩

/-- **Stages are heard one after the other**, up to the one that fails. -/
theorem Outcome.heard_andThen (first second : Outcome) :
    (first.andThen second).heard = first.heard.andThen fun _ => second.heard := by
  unfold heard andThen Logged.andThen
  cases hf : first.failure with
  | none => rfl
  | some f => simp [hf]

namespace Conversion

open CommandLine (Options)

/-- The steps that end with the block of the image. -/
def imageSteps (o : Options) (dump : Except FileError Text) :
    Logged (Except Failure Unit) :=
  ((Dump.readSource dump).inContext (.input o.dumpPath)).andThen fun rows =>
  ((Image.ofRows o.base o.policy rows).inContext (.gap o.dumpPath)).andThen fun image =>
  (Logged.noticing (.imageFrom image.bytes.length o.dumpPath o.policy)).andThen fun _ =>
  .printing (Block.image o.layout image).print

/-- The steps that end with the block of the symbol table. -/
def symbolSteps (o : Options) (symbols : Except FileError Text) :
    Logged (Except Failure Unit) :=
  ((SymbolTable.readSource symbols).inContext (.input o.symbolsPath)).andThen fun list =>
  (Logged.noticing (.symbolsFrom list.length o.symbolsPath)).andThen fun _ =>
  .printing (Block.symbols o.layout (SymbolTable.sort list)).print

/-- **The steps of a conversion**: the dump is read, its image is built, the size of
the image is noticed and its block is printed; then the symbol list is read, its length
is noticed and the block of its table is printed. -/
def steps (o : Options) (dump symbols : Except FileError Text) :
    Logged (Except Failure Unit) :=
  ((Dump.readSource dump).inContext (.input o.dumpPath)).andThen fun rows =>
  ((Image.ofRows o.base o.policy rows).inContext (.gap o.dumpPath)).andThen fun image =>
  (Logged.noticing (.imageFrom image.bytes.length o.dumpPath o.policy)).andThen fun _ =>
  (Logged.printing (Block.image o.layout image).print).andThen fun _ =>
  symbolSteps o symbols

variable (o : Options) (dump symbols : Except FileError Text)

theorem heard_symbolBlock : (symbolBlock o symbols).heard = symbolSteps o symbols := by
  unfold symbolSteps
  cases hread : (SymbolTable.readSource symbols).result with
  | error e =>
    rw [Logged.inContext_andThen_of_error hread]
    simp only [symbolBlock]
    rw [hread]
    rfl
  | ok list =>
    -- the length is noticed of the table, which has as many symbols as the list
    have hlength : (SymbolTable.sort list).length = list.length :=
      (SymbolTable.sort_perm list).length_eq
    rw [Logged.inContext_andThen_of_ok hread]
    simp only [symbolBlock]
    rw [hread, ← hlength]
    rfl

theorem heard_imageBlock : (imageBlock o dump).heard = imageSteps o dump := by
  unfold imageSteps
  cases hread : (Dump.readSource dump).result with
  | error e =>
    rw [Logged.inContext_andThen_of_error hread]
    simp only [imageBlock]
    rw [hread]
    rfl
  | ok rows =>
    rw [Logged.inContext_andThen_of_ok hread]
    simp only [imageBlock]
    rw [hread]
    cases hbuild : (Image.ofRows o.base o.policy rows).result with
    | error gap =>
      rw [Logged.inContext_andThen_of_error hbuild]
      simp only [hbuild]
      rfl
    | ok image =>
      rw [Logged.inContext_andThen_of_ok hbuild]
      simp only [hbuild]
      rw [List.append_assoc]
      rfl

/-- **What is heard of a conversion are its steps**, up to the one that fails. -/
theorem heard_run : (run o dump symbols).heard = steps o dump symbols := by
  rw [run, Outcome.heard_andThen, heard_imageBlock, heard_symbolBlock]
  simp only [steps, imageSteps, Logged.andThen_assoc]

end Conversion

/-! ## What is seen of a run -/

namespace Answer

/-- The lines of the log at a threshold. -/
def log (a : Answer) (threshold : Option Level) : List Text :=
  (a.notices.filter (·.isSeen threshold)).map Notice.line

/-- The closing line stands behind the log. -/
theorem errorLines_eq (a : Answer) (threshold : Option Level) :
    a.errorLines threshold = a.log threshold ++ a.closing.toList :=
  rfl

/-- **The log at a threshold is cut out of any log that shows more.** -/
theorem log_eq_filter (a : Answer) {lower higher : Option Level}
    (h : ∀ n : Notice, n.isSeen lower = true → n.isSeen higher = true) :
    a.log lower = (a.log higher).filter (Level.admits lower) := by
  have hline : Level.admits lower ∘ Notice.line = (·.isSeen lower) :=
    funext (Level.admits_line lower)
  have hboth : (fun n : Notice => n.isSeen lower && n.isSeen higher) = (·.isSeen lower) := by
    funext n
    rw [Bool.and_eq_left_iff_imp]
    exact h n
  unfold log
  rw [List.filter_map, hline, List.filter_filter, hboth]

/-- **The log shows every notice at the highest level.** -/
theorem log_debug (a : Answer) :
    a.log (Level.ofName? "debug".toList) = a.notices.map Notice.line := by
  have hall : ∀ n ∈ a.notices, n.isSeen (Level.ofName? "debug".toList) = true := by
    intro n _
    have hname : Level.names[4]? = some "debug".toList := rfl
    rw [Level.isSeen_ofName?_iff hname]
    cases n.level <;> decide
  unfold log
  rw [List.filter_eq_self.2 hall]

/-- **An answer reports what is heard of the outcome.** -/
theorem heard_ofOutcome (o : Outcome) :
    (ofOutcome o).notices = o.heard.notices ∧
      (ofOutcome o).closing = match o.heard.result with
        | .ok () => none
        | .error f => some ("ERROR: ".toList ++ f.message) := by
  unfold ofOutcome Outcome.heard
  cases o.failure with
  | none => exact ⟨rfl, rfl⟩
  | some f => exact ⟨rfl, rfl⟩

theorem newline_not_mem_of_mem_log {a : Answer} {threshold : Option Level} {line : Text}
    (h : line ∈ a.log threshold) : '\n' ∉ line := by
  obtain ⟨n, -, rfl⟩ := List.mem_map.1 h
  exact n.newline_not_mem_line

end Answer

/-- **What is seen of a run.** -/
structure Report where
  /-- The text on the output stream. -/
  printed : Text
  /-- The exit code. -/
  exitCode : UInt8
  /-- The lines of the log. -/
  log : List Text
  /-- The line that says what went wrong, if something did. -/
  closing : Option Text
  deriving DecidableEq

namespace Program

open CommandLine (Options)

/-- What is seen of a run on files that are known, when a level is asked for by name. -/
def report (files : Text → Except FileError Text) (arguments : List Text)
    (levelName : Text) : Report :=
  let a := answer files arguments
  ⟨a.printed, a.exitCode, a.log (Level.ofName? levelName), a.closing⟩

/-- Only a conversion notices anything. -/
theorem notices_answer_of_no_convert {files : Text → Except FileError Text}
    {arguments : List Text} (h : ∀ o, CommandLine.read arguments ≠ .ok (.convert o)) :
    (answer files arguments).notices = [] := by
  simp only [answer, run]
  cases hread : CommandLine.read arguments with
  | error e => rfl
  | ok request =>
    cases request with
    | version => rfl
    | help => rfl
    | convert o => exact absurd hread (h o)

/-- **A level chooses lines of the log and nothing else**, for every command line and
all files. Of two levels, the run with the lower one prints the same text, has the same
exit code and the same closing line, and its log is what the lower level admits of the
log of the other run. The error stream is the log, in which every notice is one line,
and the closing line behind it. The log at the highest level reports the steps of the
conversion, one after the other up to the one whose failure the closing line gives, and
a command line that asks for no conversion leaves the log empty. -/
theorem levels_choose_log_lines (files : Text → Except FileError Text)
    (arguments : List Text) :
    (∀ (i j : Nat) (lower higher : Text), i ≤ j →
      Level.names[i]? = some lower → Level.names[j]? = some higher →
      let low := report files arguments lower
      let high := report files arguments higher
      low.printed = high.printed ∧ low.exitCode = high.exitCode ∧
        low.closing = high.closing ∧
        low.log = high.log.filter (Level.admits (Level.ofName? lower))) ∧
    (∀ levelName,
      let seen := report files arguments levelName
      (answer files arguments).errorLines (Level.ofName? levelName)
          = seen.log ++ seen.closing.toList ∧
        ∀ line ∈ seen.log, '\n' ∉ line) ∧
    (∀ o, CommandLine.read arguments = .ok (.convert o) →
      let steps := Conversion.steps o (files o.dumpPath) (files o.symbolsPath)
      let full := report files arguments "debug".toList
      full.log = steps.notices.map Notice.line ∧
        full.closing = match steps.result with
          | .ok () => none
          | .error f => some ("ERROR: ".toList ++ f.message)) ∧
    ((∀ o, CommandLine.read arguments ≠ .ok (.convert o)) →
      ∀ levelName, (report files arguments levelName).log = []) := by
  refine ⟨?_, ?_, ?_, ?_⟩
  · intro i j lower higher hij hlower hhigher low high
    refine ⟨rfl, rfl, rfl, Answer.log_eq_filter _ fun n hseen => ?_⟩
    rw [Level.isSeen_ofName?_iff hlower] at hseen
    rw [Level.isSeen_ofName?_iff hhigher]
    exact Nat.lt_of_lt_of_le hseen hij
  · intro levelName seen
    exact ⟨Answer.errorLines_eq _ _, fun line => Answer.newline_not_mem_of_mem_log⟩
  · intro o h steps full
    have hsteps : (Conversion.run o (files o.dumpPath) (files o.symbolsPath)).heard = steps :=
      Conversion.heard_run o _ _
    obtain ⟨hnotices, hclosing⟩ :=
      Answer.heard_ofOutcome (Conversion.run o (files o.dumpPath) (files o.symbolsPath))
    rw [hsteps, ← answer_of_convert files h] at hnotices hclosing
    refine ⟨?_, hclosing⟩
    rw [← hnotices]
    exact Answer.log_debug _
  · intro h levelName
    simp only [report, Answer.log]
    rw [notices_answer_of_no_convert h]
    rfl

/-- A gap that is allowed and behind it a symbol list that is refused, at two levels. -/
theorem levels_choose_log_lines_of_refused_symbols :
    let arguments : List Text := ["--lenient".toList]
    let files : Text → Except FileError Text := fun path =>
      .ok (if path = "code.txt".toList then "0200 01\n0230 02\n".toList else "start\n".toList)
    let warnings := report files arguments "warn".toList
    let all := report files arguments "debug".toList
    CommandLine.read arguments = .ok (.convert { policy := .lenient }) ∧
      warnings.printed = all.printed ∧
      all.log = ["WARN line 1: row at 0200 has 1 bytes, expected 16".toList,
        "WARN line 2: row at 0230 has 1 bytes, expected 16".toList,
        "DEBUG parsed 2 memory rows".toList,
        "WARN row 1 stated at 0230, expected 0210, truncating image at 1 bytes".toList,
        "DEBUG built memory image of 1 bytes".toList,
        "INFO 1 bytes from \"code.txt\" (Lenient)".toList] ∧
      warnings.log = ["WARN line 1: row at 0200 has 1 bytes, expected 16".toList,
        "WARN line 2: row at 0230 has 1 bytes, expected 16".toList,
        "WARN row 1 stated at 0230, expected 0210, truncating image at 1 bytes".toList] ∧
      warnings.closing.isSome := by
  intro arguments files warnings all
  have h : CommandLine.read arguments = .ok (.convert { policy := .lenient }) := rfl
  obtain ⟨hlevels, -, hsteps, -⟩ := levels_choose_log_lines files arguments
  obtain ⟨hprinted, -, hclosing, hlog⟩ :=
    hlevels 2 4 "warn".toList "debug".toList (by decide) rfl rfl
  obtain ⟨hfull, hreason⟩ := hsteps _ h
  refine ⟨h, hprinted, ?_, ?_, ?_⟩
  · rw [hfull]
    decide +kernel
  · rw [hlog, hfull]
    decide +kernel
  · rw [hclosing, hreason]
    decide +kernel

end Program

end MemoryListing
