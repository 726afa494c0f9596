import MemoryListing.Program

/-!
# Where a path leads

The program names its two files by paths, and a directory says what is there. A path
that joins names by slashes leads to the place with these components, as long as every
place on the way is a directory (`Directory.read_path`), and a single dot in front of it
makes no difference (`Directory.read_dot_slash`). So a run in a directory that holds a
dump and a symbol list converts their texts (`Program.answer_of_holds`), and without
arguments these are the files of two fixed names (`Program.answer_of_default_files`).
-/

namespace MemoryListing

/-- **A component of a path that stands for itself.** -/
structure IsName (c : Text) : Prop where
  /-- It is not empty. -/
  ne_nil : c ≠ []
  /-- It is not the single dot. -/
  ne_dot : c ≠ ['.']
  /-- It is not the two dots. -/
  ne_dots : c ≠ ['.', '.']
  /-- It is one component. -/
  slash_not_mem : '/' ∉ c
  /-- The system allows its length. -/
  length_le : (Text.bytes c).length ≤ nameLimit

/-- The path that joins names by slashes. -/
def pathOf (names : List Text) : Text :=
  ['/'].intercalate names

namespace Directory

variable {d : Directory}

/-- **A path that can be followed** up to its last name, whatever is there. -/
structure Leads (d : Directory) (names : List Text) : Prop where
  /-- There is a last name. -/
  ne_nil : names ≠ []
  /-- Every component stands for itself. -/
  isName : ∀ c ∈ names, IsName c
  /-- Every place on the way is a directory. -/
  directory : ∀ k < names.length, d.node? (.inside (names.take k)) = some .directory
  /-- The system allows the length of the path. -/
  length_le : (Text.bytes (pathOf names)).length ≤ pathLimit

/-- The text of a file is found at a path. -/
def Holds (d : Directory) (path t : Text) : Prop :=
  ∃ names, pathOf names = path ∧ d.Leads names ∧
    d.node? (.inside names) = some (.file t.bytes)

/-- A name leads one place further. -/
theorem follow_cons_name {above : List Text}
    (ha : d.node? (.inside above) = some .directory) {c : Text} (hc : IsName c)
    (rest : List Text) :
    d.follow (.inside above) (c :: rest) = d.follow (.inside (above ++ [c])) rest := by
  have hempty : c.isEmpty = false := List.isEmpty_eq_false_iff.2 hc.ne_nil
  have hlength : ¬nameLimit < (Text.bytes c).length := Nat.not_lt.2 hc.length_le
  rw [follow, ha]
  simp [hempty, hc.ne_dot, hc.ne_dots, hlength, Place.child?]

/-- **Names lead to the place with these components**, one after the other. -/
theorem follow_names {names : List Text} (hnames : ∀ c ∈ names, IsName c) :
    ∀ above : List Text,
      (∀ k < names.length, d.node? (.inside (above ++ names.take k)) = some .directory) →
      d.follow (.inside above) names = d.follow (.inside (above ++ names)) [] := by
  induction names with
  | nil =>
    intro above _
    rw [List.append_nil]
  | cons c rest ih =>
    intro above hdir
    have ha : d.node? (.inside above) = some .directory := by
      simpa using hdir 0 (Nat.zero_lt_succ _)
    have hrest : ∀ k < rest.length,
        d.node? (.inside (above ++ [c] ++ rest.take k)) = some .directory := by
      intro k hk
      simpa using hdir (k + 1) (Nat.succ_lt_succ hk)
    rw [follow_cons_name ha (hnames c List.mem_cons_self),
      ih (fun c' hc' => hnames c' (List.mem_cons_of_mem _ hc')) (above ++ [c]) hrest,
      List.append_assoc]
    rfl

/-- **What is read at a path** is what the directory has at its components. -/
theorem read_path {names : List Text} (h : d.Leads names) :
    d.read (pathOf names) = match d.node? (.inside names) with
      | none => .error .missing
      | some n => n.read := by
  have hsplit : (pathOf names).splitOn '/' = names :=
    List.splitOn_intercalate '/' (fun c hc => (h.isName c hc).slash_not_mem) h.ne_nil
  have hpath : pathOf names ≠ [] := by
    intro hnil
    rw [hnil] at hsplit
    have hempty : ([] : Text) ∈ names := hsplit ▸ List.mem_singleton_self _
    exact (h.isName [] hempty).ne_nil rfl
  have hlength : ¬pathLimit < (Text.bytes (pathOf names)).length :=
    Nat.not_lt.2 h.length_le
  rw [read, if_neg (by simp [hpath]), if_neg hlength, hsplit,
    follow_names h.isName [] h.directory, List.nil_append, follow]
  cases d.node? (.inside names) <;> rfl

/-- A file of the working directory is held at its name. -/
theorem holds_of_isName {name t : Text} (hname : IsName name)
    (hnode : d.node? (.inside [name]) = some (.file t.bytes)) : d.Holds name t := by
  have hpath : pathOf [name] = name := List.append_nil name
  refine ⟨[name], hpath, ⟨nofun, ?_, ?_, ?_⟩, hnode⟩
  · intro c hc
    rwa [List.mem_singleton.1 hc]
  · intro k hk
    rw [Nat.lt_one_iff.1 hk]
    rfl
  · rw [hpath]
    exact Nat.le_trans hname.length_le (by decide)

/-- **A file that is held is read**, in whatever characters its text is. -/
theorem read_of_holds {path t : Text} (h : d.Holds path t) : d.read path = .ok t := by
  obtain ⟨names, rfl, hleads, hnode⟩ := h
  rw [read_path hleads, hnode]
  simp only [Node.read, Text.ofBytes?_bytes]

/-- **A path behind a single dot** leads where it leads without it. -/
theorem read_dot_slash {path : Text} (hpath : path ≠ [])
    (hlength : (Text.bytes path).length + 2 ≤ pathLimit) :
    d.read ('.' :: '/' :: path) = d.read path := by
  have hsplit : ('.' :: '/' :: path).splitOn '/' = ['.'] :: path.splitOn '/' :=
    List.splitOnP_append_cons ['.'] path (by decide)
  have hbytes : Text.bytes ('.' :: '/' :: path) = 46 :: 47 :: Text.bytes path := rfl
  have hdot : d.follow (.inside []) (['.'] :: path.splitOn '/')
      = d.follow (.inside []) (path.splitOn '/') := rfl
  have hlong : ¬pathLimit < (Text.bytes path).length := by omega
  have hlong' : ¬pathLimit < (Text.bytes path).length + 2 := Nat.not_lt.2 hlength
  simp [read, hpath, hbytes, hlong, hlong', hsplit, hdot]

end Directory

namespace Program

/-- **In a directory that holds a dump and a symbol list** the program converts their
texts. -/
theorem answer_of_holds {d : Directory} {arguments : List Text} {o : CommandLine.Options}
    (h : CommandLine.read arguments = .ok (.convert o)) {dump symbols : Text}
    (hdump : d.Holds o.dumpPath dump) (hsymbols : d.Holds o.symbolsPath symbols) :
    answer d.read arguments = .ofOutcome (Conversion.run o (.ok dump) (.ok symbols)) := by
  rw [answer_of_convert d.read h, Directory.read_of_holds hdump,
    Directory.read_of_holds hsymbols]

/-- Without arguments the files are `code.txt` and `symbols.txt` of the working
directory. -/
theorem answer_of_default_files {d : Directory} {dump symbols : Text}
    (hdump : d.node? (.inside ["code.txt".toList]) = some (.file dump.bytes))
    (hsymbols : d.node? (.inside ["symbols.txt".toList]) = some (.file symbols.bytes)) :
    answer d.read [] = .ofOutcome (Conversion.run {} (.ok dump) (.ok symbols)) := by
  have hcode : IsName "code.txt".toList := by
    constructor <;> decide
  have hlist : IsName "symbols.txt".toList := by
    constructor <;> decide
  exact answer_of_holds rfl (Directory.holds_of_isName hcode hdump)
    (Directory.holds_of_isName hlist hsymbols)

end Program

end MemoryListing
