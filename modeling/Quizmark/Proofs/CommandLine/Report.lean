import Quizmark.CommandLine.Run
import Quizmark.Proofs.Error
import Quizmark.Proofs.Gate
import Quizmark.Proofs.Node.Written

/-!
# What the command reports

The command reports the errors of the file and of its document, but not those of the settings: the
options are put together before it looks at the file. There is one reportable error that it does not
report, that of a gate that would admit every path.

* `EmptyGate`: the variables choose such a gate.
* `ofSettings_error_iff`: this is all that can be wrong with the options.
* `processFile_ofText`: what becomes of a file with a text.
* `run_reports`: what the command reports, and when an error escapes it.
-/

namespace Quizmark.Command

/-! ## Options -/

/-- The variables choose a gate without a text, which is an error: a directory that is named by
separators alone, or an empty suffix where no directory is named. -/
inductive EmptyGate (env : Environment) : Error → Prop where
  | directory {name : String} : env "QSPEC2MDX_SPEC_DIR" = some name → name ≠ "" →
    (∀ c ∈ name.toList, c = '/' ∨ c = '\\') → EmptyGate env .emptyDirectory
  | suffix : (env "QSPEC2MDX_SPEC_DIR").getD "" = "" → env "QSPEC2MDX_SPEC_SUFFIX" = some "" →
    EmptyGate env .emptySuffix

/-- An empty gate is an error of the library and not of the system. -/
theorem EmptyGate.isReportable {env : Environment} {error : Error} (h : EmptyGate env error) :
    error.isReportable = true := by
  cases h <;> rfl

/-- The only error of a directory gate: its name has nothing but separators. -/
theorem ofDirectory_error_iff {name : String} {error : Error} :
    Gate.ofDirectory name = .error error ↔
      (∀ c ∈ name.toList, c = '/' ∨ c = '\\') ∧ error = .emptyDirectory := by
  rw [← Gate.bareName_eq_nil_iff]
  by_cases h : Gate.bareName name = []
  · rw [Gate.ofDirectory_error h, Except.error.injEq, eq_comm]
    exact (and_iff_right h).symm
  · rw [Gate.ofDirectory_ok h]
    simp [h]

/-- The only error of a suffix gate: its suffix is empty. -/
theorem ofSuffix_error_iff {ending : String} {error : Error} :
    Gate.ofSuffix ending = .error error ↔ ending = "" ∧ error = .emptySuffix := by
  rw [Gate.ofSuffix]
  by_cases h : ending = ""
  · rw [if_pos (String.isEmpty_iff.mpr h), Except.error.injEq, eq_comm]
    exact (and_iff_right h).symm
  · rw [if_neg (mt String.isEmpty_iff.mp h)]
    simp [h]

/-- Options cannot be made exactly where their gate cannot be made. -/
theorem ofSettings_error_iff_gate {settings : Settings} {error : Error} (rewrites : Bool) :
    PipelineOptions.ofSettings rewrites settings = .error error ↔
      settings.gate = .error error := by
  rw [PipelineOptions.ofSettings, QuestionOptions.ofSettings]
  cases settings.gate <;> simp [bind, Except.bind, pure, Except.pure]

/-- A gate without a text is all that can be wrong with the options. -/
theorem ofSettings_error_iff {env : Environment} {settings : Settings} {error : Error}
    (h : Settings.ofEnvironment env = .ok settings) (rewrites : Bool) :
    PipelineOptions.ofSettings rewrites settings = .error error ↔ EmptyGate env error := by
  obtain ⟨flag, -, hsettings⟩ := bind_ok h
  cases hsettings
  rw [ofSettings_error_iff_gate, Settings.gate]
  have hsuffix : (env "QSPEC2MDX_SPEC_SUFFIX").getD ".qspec.md" = "" ↔
      env "QSPEC2MDX_SPEC_SUFFIX" = some "" := by
    cases env "QSPEC2MDX_SPEC_SUFFIX" <;> simp
  -- The directory decides which gate is made; an empty one counts as none.
  by_cases hname : (env "QSPEC2MDX_SPEC_DIR").getD "" = ""
  · have hnone : (env "QSPEC2MDX_SPEC_DIR").filter (fun name => !name.isEmpty) = none := by
      cases hdir : env "QSPEC2MDX_SPEC_DIR" with
      | none => rfl
      | some name => simpa [hdir] using hname
    simp only [hnone]
    rw [ofSuffix_error_iff, hsuffix]
    constructor
    · rintro ⟨hempty, rfl⟩
      exact .suffix hname hempty
    · intro hgate
      cases hgate with
      | directory hdir hne => simp [hdir, hne] at hname
      | suffix _ hempty => exact ⟨hempty, rfl⟩
  · obtain ⟨name, hdir⟩ : ∃ name, env "QSPEC2MDX_SPEC_DIR" = some name := by
      cases hdir : env "QSPEC2MDX_SPEC_DIR" with
      | none => simp [hdir] at hname
      | some name => exact ⟨name, rfl⟩
    have hne : name ≠ "" := by simpa [hdir] using hname
    have hsome : (env "QSPEC2MDX_SPEC_DIR").filter (fun name => !name.isEmpty) = some name := by
      simp [hdir, hne]
    simp only [hsome]
    rw [ofDirectory_error_iff]
    constructor
    · rintro ⟨hall, rfl⟩
      exact .directory hdir hne hall
    · intro hgate
      cases hgate with
      | directory hother _ hall =>
        rw [hdir, Option.some.injEq] at hother
        exact ⟨hother ▸ hall, rfl⟩
      | suffix hempty => exact absurd hempty hname

/-! ## Files -/

/-- The text of the file at a path, if it can be read and decoded. -/
def textAt? (readFile : String → FileRead) (path : String) : Option String :=
  if path.toList.any fun c => c.toNat = 0 then none
  else
    match readFile path with
    | .content octets => (Text.Utf8.decode octets).toOption
    | _ => none

theorem result_processSource (options : PipelineOptions) (path text : String) :
    (processSource options path text).result =
      Markdown.parse text >>= Root.process options path := by
  rw [processSource]
  cases Markdown.parse text <;> rfl

section File

variable {settings : Settings} {readFile : String → FileRead} {arguments : Arguments}
  {options : PipelineOptions}

/-- A file with a text is processed with that text. -/
theorem processFile_of_text {text : String}
    (hoptions : PipelineOptions.ofSettings arguments.rewritesAdmonitions settings = .ok options)
    (htext : textAt? readFile (DocPath.simplify arguments.file) = some text) :
    processFile settings readFile arguments =
      process arguments options (DocPath.simplify arguments.file) text := by
  unfold textAt? at htext
  split at htext
  · cases htext
  next hnull =>
    cases hread : readFile (DocPath.simplify arguments.file) with
    | missing => simp [hread] at htext
    | failed reason => simp [hread] at htext
    | content octets =>
      cases hdecode : Text.Utf8.decode octets with
      | error fault => simp [hread, hdecode, Except.toOption] at htext
      | ok found =>
        obtain rfl : found = text := by simpa [hread, hdecode, Except.toOption] using htext
        simp only [processFile, hoptions, hnull, hread, hdecode, bind, Except.bind,
          Bool.false_eq_true, if_false]

/-- An error of the library ends in a line of the log and the exit status 1, with no output. -/
theorem process_of_error {path text : String} {error : Error}
    (h : Markdown.parse text >>= Root.process options path = .error error)
    (hreportable : error.isReportable = true) :
    ∃ log, process arguments options path text =
      .ok { exit := 1, output := "", log := log ++ ["ERROR qspec2mdx: " ++ error.message] } := by
  rw [← result_processSource] at h
  simp only [process, h, hreportable, if_true]
  exact ⟨_, rfl⟩

/-- A document that comes out is dumped. If it can be, its text is the output and the exit status is
0; if not, the error of the dump gets out. -/
theorem process_of_ok {path text : String} {root : Root}
    (h : Markdown.parse text >>= Root.process options path = .ok root) :
    ∃ log, process arguments options path text = root.toNode.dump.map fun payload => {
      exit := 0, output := payload.render arguments.indent.toNat ++ "\n", log } := by
  rw [← result_processSource] at h
  refine ⟨if arguments.isVerbose then (processSource options path text).events.map eventLine
    else [], ?_⟩
  simp only [process, h]
  cases root.toNode.dump <;> rfl

/-- An error that gets out of the command is none of the library's. -/
theorem isReportable_of_process {path text : String} {error : Error}
    (h : process arguments options path text = .error error) : error.isReportable = false := by
  unfold process at h
  dsimp only at h
  split at h
  next root _ =>
    rcases bind_eq_error_iff.mp h with hdump | ⟨payload, -, hreport⟩
    · rw [Node.dump_eq_error hdump]
      rfl
    · cases hreport
  · split at h
    · cases h
    next hno =>
      cases h
      exact Bool.eq_false_iff.mpr hno

/-- Once there are options, no reportable error is left. -/
theorem isReportable_of_processFile {error : Error}
    (hoptions : PipelineOptions.ofSettings arguments.rewritesAdmonitions settings = .ok options)
    (h : processFile settings readFile arguments = .error error) : error.isReportable = false := by
  by_cases hnull : (DocPath.simplify arguments.file).toList.any (fun c => c.toNat = 0) = true
  · simp only [processFile, hoptions, hnull, bind, Except.bind, if_true] at h
    cases h
    rfl
  · simp only [processFile, hoptions, hnull, bind, Except.bind, pure, Except.pure,
      Bool.false_eq_true, if_false] at h
    split at h
    · cases h
    · cases h
    next octets _ =>
      cases hdecode : Text.Utf8.decode octets with
      | error fault => simp [hdecode] at h
      | ok text =>
        simp only [hdecode] at h
        exact isReportable_of_process h

end File

/-! ## The command -/

/-- **What the command reports.** Let the settings be readable and the command line name a file.

* A reportable error escapes from the command exactly if the settings choose an empty gate; it is
  the error of that gate.
* Otherwise there are options, and the command reports what becomes of the text of the file: a
  reportable error with the exit code 1, its message in the last line of the log and no output, and
  a document with the exit code 0 and what is written of it as the output. A document that is nested
  too deep to be written ends the command with the error of the writer. -/
theorem run_reports {env : Environment} {settings : Settings} {args : List String}
    {arguments : Arguments} (readFile : String → FileRead)
    (hsettings : Settings.ofEnvironment env = .ok settings)
    (hargs : Arguments.read args = .run arguments) :
    (∀ error, run env readFile args = .error error ∧ error.isReportable = true ↔
      EmptyGate env error) ∧
    ((∀ error, ¬ EmptyGate env error) → ∃ options,
      PipelineOptions.ofSettings arguments.rewritesAdmonitions settings = .ok options ∧
      ∀ text, textAt? readFile (DocPath.simplify arguments.file) = some text →
        (∀ error, Markdown.parse text >>= Root.process options (DocPath.simplify arguments.file) =
            .error error → error.isReportable = true →
          ∃ log, run env readFile args = .ok (.done {
            exit := 1, output := "", log := log ++ ["ERROR qspec2mdx: " ++ error.message] })) ∧
        ∀ root, Markdown.parse text >>= Root.process options (DocPath.simplify arguments.file) =
            .ok root →
          ∃ log, run env readFile args = root.toNode.dump.map fun payload => .done {
            exit := 0, output := payload.render arguments.indent.toNat ++ "\n", log }) := by
  have hrun : run env readFile args =
      processFile settings readFile arguments >>= fun report => .ok (.done report) := by
    simp only [run, hsettings, hargs, bind, Except.bind, pure, Except.pure]
  constructor
  · intro error
    rw [← ofSettings_error_iff hsettings arguments.rewritesAdmonitions, hrun]
    -- The options are made before anything is caught, so their error is the one that gets out.
    cases hoptions : PipelineOptions.ofSettings arguments.rewritesAdmonitions settings with
    | error fault =>
      have hgate := (ofSettings_error_iff hsettings _).mp hoptions
      have hfile : processFile settings readFile arguments = .error fault := by
        simp only [processFile, hoptions, bind, Except.bind]
      rw [hfile]
      constructor
      · rintro ⟨h, -⟩
        cases h
        rfl
      · intro h
        cases h
        exact ⟨rfl, hgate.isReportable⟩
    | ok options =>
      constructor
      · rintro ⟨h, hreportable⟩
        rcases bind_eq_error_iff.mp h with hfile | ⟨report, -, hreport⟩
        · rw [isReportable_of_processFile hoptions hfile] at hreportable
          cases hreportable
        · cases hreport
      · intro h
        cases h
  · intro hgate
    cases hoptions : PipelineOptions.ofSettings arguments.rewritesAdmonitions settings with
    | error fault => exact absurd ((ofSettings_error_iff hsettings _).mp hoptions) (hgate fault)
    | ok options =>
      refine ⟨options, rfl, fun text htext => ⟨fun error herror hreportable => ?_,
        fun root hroot => ?_⟩⟩
      · obtain ⟨log, hlog⟩ := process_of_error herror hreportable
        refine ⟨log, ?_⟩
        rw [hrun, processFile_of_text hoptions htext, hlog]
        rfl
      · obtain ⟨log, hlog⟩ := process_of_ok hroot
        refine ⟨log, ?_⟩
        rw [hrun, processFile_of_text hoptions htext, hlog]
        cases root.toNode.dump <;> rfl

/-- A question spec that has a title alone. -/
def lakes : List Nat := "# Lakes\n".toUTF8.toList.map UInt8.toNat

theorem run_reports_lakes :
    ∃ log, run (fun _ => none) (fun _ => .content lakes) ["lakes.qspec.md"] = .ok (.done {
      exit := 1, output := ""
      log := log ++ ["ERROR qspec2mdx: Question spec requires \"## Type\": lakes.qspec.md"] }) := by
  have hsettings : Settings.ofEnvironment (fun _ => none) = .ok {} := by rfl
  have hargs : Arguments.read ["lakes.qspec.md"] = .run { file := "lakes.qspec.md" } := by rfl
  have hgate : ∀ error, ¬ EmptyGate (fun _ => none) error := by
    intro error h
    cases h with
    | directory hdir => cases hdir
    | suffix _ hempty => cases hempty
  obtain ⟨options, hoptions, hreports⟩ :=
    (run_reports (fun _ => .content lakes) hsettings hargs).2 hgate
  obtain rfl : {} = options := by cases hoptions; rfl
  have htext : textAt? (fun _ => .content lakes) (DocPath.simplify "lakes.qspec.md") =
      some "# Lakes\n" := by decide +kernel
  have hfault : fault? (Markdown.parse "# Lakes\n" >>=
      Root.process {} (DocPath.simplify "lakes.qspec.md")) =
        some (.malformed .missingType "lakes.qspec.md") := by decide +kernel
  exact (hreports _ htext).1 _ (error_of_fault? hfault) rfl

/-- The variables of a process with an empty suffix. -/
def noSuffix : Environment := fun name =>
  if name = "QSPEC2MDX_SPEC_SUFFIX" then some "" else none

/-- An empty suffix ends the command with an error that it does not report. -/
theorem emptySuffix_escapes :
    ∃ settings arguments, Settings.ofEnvironment noSuffix = .ok settings ∧
      Arguments.read ["a.md"] = .run arguments ∧
      run noSuffix (fun _ => .content [104, 105, 10]) ["a.md"] = .error .emptySuffix ∧
      Error.emptySuffix.isReportable = true := by
  refine ⟨{ specSuffix := "" }, { file := "a.md" }, rfl, rfl, rfl, rfl⟩

end Quizmark.Command
