import Catalog.Command.Execution
import Catalog.Proofs.Command.Session
import Catalog.Proofs.FileTree.Growth
import Catalog.Proofs.Loading

/-!
The commands with one result: the tools, the table of the tools, and the settings. All reading comes
before the first thing that is written. Main statements: an output file holds what would have been
printed, and a run that fails has printed nothing and touched no file.
-/

namespace Catalog

/-! ### Writing a file -/

namespace Run

variable {session : Session} {path text : String} {ready after : FileTree} {fault : FileFault}

theorem run_ensureDirectories (failure : FileFault → Failure) {missing : List String}
    (h : missing.foldlM FileTree.ensureDirectory session.tree = .ok after) :
    (missing.forM fun directory => change failure (·.ensureDirectory directory)).run.run session
      = (.ok (), { session with tree := after }) := by
  induction missing generalizing session with
  | nil =>
    cases Result.pure_eq_ok.1 h
    rfl
  | cons directory rest ih =>
    rw [List.foldlM_cons, Result.bind_eq_ok] at h
    obtain ⟨next, hnext, hrest⟩ := h
    rw [List.forM, run_bind, run_change, hnext]
    exact ih hrest

/-- A directory that cannot be made ends the run, and those before it stay. -/
theorem run_ensureDirectories_error (failure : FileFault → Failure) {missing : List String}
    (h : missing.foldlM FileTree.ensureDirectory session.tree = .error fault) :
    ∃ grown, session.tree.Grows grown
      ∧ (missing.forM fun directory => change failure (·.ensureDirectory directory)).run.run session
        = (.error (failure fault), { session with tree := grown }) := by
  induction missing generalizing session with
  | nil => cases h
  | cons directory rest ih =>
    rw [List.forM, run_bind, run_change]
    rw [List.foldlM_cons] at h
    cases hnext : FileTree.ensureDirectory session.tree directory with
    | error cause =>
      rw [hnext] at h
      cases h
      exact ⟨session.tree, .refl _, rfl⟩
    | ok next =>
      rw [hnext] at h
      obtain ⟨grown, hgrows, hrun⟩ := @ih { session with tree := next } h
      exact ⟨grown, (FileTree.grows_ensureDirectory hnext).trans hgrows, hrun⟩

/-- Creates the directories above a path that are missing. -/
def makeParents (path : String) : Run Unit :=
  match Path.parent? path with
  | some above => if above = "" then pure () else makeDirectories above
  | none => pure ()

theorem writeFile_eq (path text : String) : writeFile path text = (do
    makeParents path
    change (.write path) (·.write path text)
    say (·.info s!"wrote {path}")) := by
  unfold writeFile makeParents
  cases Path.parent? path with
  | none => rfl
  | some above => by_cases habove : above = "" <;> simp [habove]

theorem run_makeParents_eq (path : String) (session : Session) :
    (makeParents path).run.run session = match session.tree.missingParents path with
      | .ok missing => (missing.forM fun directory =>
          change (.create ((Path.parent? path).getD "")) (·.ensureDirectory directory)).run.run session
      | .error fault => (.error (.create ((Path.parent? path).getD "") fault), session) := by
  unfold makeParents FileTree.missingParents
  cases Path.parent? path with
  | none => rfl
  | some above =>
    dsimp only
    by_cases habove : above = ""
    · rw [if_pos habove, if_pos habove]
      rfl
    · rw [if_neg habove, if_neg habove, makeDirectories, run_bind, run_get]
      dsimp only
      cases session.tree.missingDirectories above <;> rfl

theorem run_makeParents (h : session.tree.withParents path = .ok ready) :
    (makeParents path).run.run session = (.ok (), { session with tree := ready }) := by
  obtain ⟨missing, hmissing, hmade⟩ := Result.bind_eq_ok.1 h
  rw [run_makeParents_eq, hmissing]
  exact run_ensureDirectories _ hmade

theorem run_makeParents_error (h : session.tree.withParents path = .error fault) :
    ∃ failure grown, session.tree.Grows grown
      ∧ (makeParents path).run.run session = (.error failure, { session with tree := grown }) := by
  rw [run_makeParents_eq]
  unfold FileTree.withParents at h
  cases hmissing : session.tree.missingParents path with
  | error cause => exact ⟨_, session.tree, .refl _, rfl⟩
  | ok missing =>
    rw [hmissing] at h
    obtain ⟨grown, hgrows, hrun⟩ := run_ensureDirectories_error _ h
    exact ⟨_, grown, hgrows, hrun⟩

/-- Where a file can be written, it is, and nothing is printed. -/
theorem run_writeFile (session : Session) (h : session.tree.CanHold path) (text : String) :
    ∃ after, session.tree.Stores after path text ∧ (writeFile path text).run.run session
      = (.ok (), { session with tree := after, log := session.log.info s!"wrote {path}" }) := by
  obtain ⟨ready, location, hready, hgrows, hfile, hat⟩ := h.exists_withParents
  have hwrite : ready.write path text
      = .ok (ready.put location (.file text.toUTF8 (ready.executableAt location))) :=
    FileTree.write_eq_ok.2 ⟨location, hfile, hat, rfl⟩
  refine ⟨_, hgrows.stores hfile hat text, ?_⟩
  rw [writeFile_eq, run_bind, run_makeParents hready]
  dsimp only
  rw [run_bind, run_change, hwrite]
  rfl

/-- Where no file can be written, the run fails. Directories may have been made before that. -/
theorem run_writeFile_error (session : Session) (h : ¬ session.tree.CanHold path) (text : String) :
    ∃ failure grown, session.tree.Grows grown
      ∧ (writeFile path text).run.run session = (.error failure, { session with tree := grown }) := by
  rw [writeFile_eq, run_bind]
  cases hready : session.tree.withParents path with
  | error fault =>
    obtain ⟨failure, grown, hgrows, hrun⟩ := run_makeParents_error hready
    exact ⟨failure, grown, hgrows, by rw [hrun]⟩
  | ok ready =>
    rw [run_makeParents hready]
    dsimp only
    rw [run_bind, run_change]
    cases hwrite : ready.write path text with
    | error fault => exact ⟨.write path fault, ready, FileTree.grows_withParents hready, rfl⟩
    | ok after =>
      obtain ⟨location, hfile, hat, -⟩ := FileTree.write_eq_ok.1 hwrite
      exact absurd (FileTree.canHold_of_withParents hready hfile hat) h

/-! ### Outcomes -/

theorem outcome_of_ok {run : Run Unit} {tree : FileTree} {session : Session} (verbose : Bool)
    (h : run.run.run { tree } = (.ok (), session)) : run.outcome tree verbose =
      { tree := session.tree, stdout := session.stdout
        stderr := (session.log.conclude none).lines verbose, code := 0 } := by
  have hrun : (ExceptT.run run).run { tree } = (.ok (), session) := h
  rw [outcome, hrun]
  rfl

theorem outcome_of_error {run : Run Unit} {tree : FileTree} {session : Session} {failure : Failure}
    (verbose : Bool) (h : run.run.run { tree } = (.error failure, session)) :
    run.outcome tree verbose = { tree := session.tree, stdout := session.stdout
                                 stderr := (session.log.conclude (some failure)).lines verbose
                                 code := 1 } := by
  have hrun : (ExceptT.run run).run { tree } = (.error failure, session) := h
  rw [outcome, hrun]
  rfl

end Run

/-! ### Commands with one result -/

/-- The output file of a command with one result, which may go to standard output instead. -/
def Command.output? : Command → Option (Option String)
  | .registry _ output | .registryTable output | .settings output => some output
  | _ => none

/-- The command with another output. -/
def Command.withOutput (command : Command) (output : Option String) : Command :=
  match command with
  | .registry format _ => .registry format output
  | .registryTable _ => .registryTable output
  | .settings _ => .settings output
  | other => other

/-- The same run with another output. -/
def Invocation.withOutput (invocation : Invocation) (output : Option String) : Invocation :=
  { invocation with command := invocation.command.withOutput output }

namespace Invocation

variable {machine : Machine} {invocation : Invocation} {output : Option String}

theorem withOutput_self (h : invocation.command.output? = some output) :
    invocation.withOutput output = invocation := by
  obtain ⟨root, program, verbose, command⟩ := invocation
  cases command <;> cases h <;> rfl

/-- Wherever the result goes, it is read first, and the same way. -/
theorem exists_reading (machine : Machine) (h : invocation.command.output? = some output) :
    ∃ reading : FileTree → Reading String, ∀ other, (invocation.withOutput other).run machine
      = (do Run.writeOutput other (← Run.look reading)) := by
  obtain ⟨root, program, verbose, command⟩ := invocation
  cases command with
  | registry format => exact ⟨Reading.registry (root.getD Layout.defaultRoot) format, fun _ => rfl⟩
  | registryTable =>
    exact ⟨fun _ => Reading.registryTable machine.programs program, fun _ => rfl⟩
  | settings => exact ⟨Reading.settings (root.getD Layout.defaultRoot), fun _ => rfl⟩
  | schema | suggest | completions | version => cases h

/-- What a run with one result does: the reading fails and nothing else happens, or it gives a text,
whatever the output is. -/
theorem run_cases (machine : Machine) (h : invocation.command.output? = some output) :
    ∃ log : Log, (∃ failure, ∀ other, ((invocation.withOutput other).run machine).run.run
        { tree := machine.tree } = (.error failure, { tree := machine.tree, log }))
      ∨ ∃ text, ∀ other, ((invocation.withOutput other).run machine).run.run { tree := machine.tree }
        = (Run.writeOutput other text).run.run { tree := machine.tree, log } := by
  obtain ⟨reading, hreading⟩ := exists_reading machine h
  simp only [hreading, Run.run_bind, Run.run_look]
  rcases (reading machine.tree).run.run .empty with ⟨failure | text, log⟩
  · exact ⟨log, .inl ⟨failure, fun _ => rfl⟩⟩
  · exact ⟨log, .inr ⟨text, fun _ => rfl⟩⟩

end Invocation

theorem Machine.execute_of_parse {machine : Machine} {program : Option String}
    {arguments : List String} {invocation : Invocation}
    (h : CommandLine.parse program arguments = .ok invocation) : machine.execute program arguments
      = (invocation.run machine).outcome machine.tree invocation.verbose := by
  rw [execute, h]

/-- A command line with a fault leaves the files alone, and it prints nothing but what it asks for. -/
theorem CommandLine.Fault.outcome_of_failure {fault : Fault} {machine : Machine}
    {arguments : List String} (h : (fault.outcome machine arguments).code ≠ 0) :
    (fault.outcome machine arguments).stdout = ""
      ∧ (fault.outcome machine arguments).tree = machine.tree := by
  cases fault with
  | help | version => exact absurd rfl h
  | _ => exact ⟨rfl, rfl⟩

/-! ### The results -/

section execute

variable {machine : Machine} {program : Option String}
  {arguments plain redirected : List String} {invocation : Invocation} {path : String}

/-- Of a run that prints its result, the result goes to the output file instead, whichever path that is:
also that of a file that was read. The run succeeds exactly if a file can be written there. -/
theorem output_file_holds_stdout (machine : Machine)
    (hplain : CommandLine.parse program plain = .ok invocation)
    (hprints : invocation.command.output? = some none)
    (hsuccess : (machine.execute program plain).code = 0)
    (hredirected : CommandLine.parse program redirected = .ok (invocation.withOutput (some path))) :
    ((machine.execute program redirected).code = 0 ↔ machine.tree.CanHold path)
      ∧ (machine.tree.CanHold path → (machine.execute program redirected).stdout = ""
        ∧ machine.tree.Stores (machine.execute program redirected).tree path
          (machine.execute program plain).stdout) := by
  obtain ⟨log, ⟨failure, hrun⟩ | ⟨text, hrun⟩⟩ := Invocation.run_cases machine hprints
  · rw [Machine.execute_of_parse hplain, ← Invocation.withOutput_self hprints,
      Run.outcome_of_error _ (hrun none)] at hsuccess
    cases hsuccess
  · have hprint : (machine.execute program plain).stdout = text := by
      rw [Machine.execute_of_parse hplain, ← Invocation.withOutput_self hprints,
        Run.outcome_of_ok _ (hrun none)]
      exact String.empty_append
    rw [hprint, Machine.execute_of_parse hredirected]
    by_cases hholds : machine.tree.CanHold path
    · obtain ⟨after, hstores, hwrite⟩ :=
        Run.run_writeFile { tree := machine.tree, log } hholds text
      rw [Run.outcome_of_ok _ ((hrun (some path)).trans hwrite)]
      exact ⟨iff_of_true rfl hholds, fun _ => ⟨rfl, hstores⟩⟩
    · obtain ⟨failure, grown, -, hwrite⟩ :=
        Run.run_writeFile_error { tree := machine.tree, log } hholds text
      rw [Run.outcome_of_error _ ((hrun (some path)).trans hwrite)]
      exact ⟨iff_of_false Nat.one_ne_zero hholds, fun h => absurd h hholds⟩

/-- A source of the settings in the current directory. -/
def oneSetting : Machine where
  tree :=
    { entries := [(["settings.toml"],
        .file "[jobs]\ntype = \"Integer\"\ndescription = \"Jobs.\"\n".toUTF8 false)]
      current := [] }
  programs := { finds := fun _ => false, answer := fun call => .error call.line }
  version := "1.0.0"

/-- The documentation of the one setting. -/
def oneSettingText : String :=
  "[\n  \x7b\n    \"key\": \"jobs\",\n    \"type\": \"number\",\n    \"description\": \"Jobs.\",\n"
    ++ "    \"docs\": \"Jobs.\",\n    \"optional\": false\n  \x7d\n]\n"

/-- The source itself may be the output file. -/
theorem output_file_holds_stdout_oneSetting :
    (oneSetting.execute none ["settings"]).stdout = oneSettingText
      ∧ (oneSetting.execute none ["settings", "-o", "settings.toml"]).code = 0
      ∧ (oneSetting.execute none ["settings", "-o", "settings.toml"]).stdout = ""
      ∧ oneSetting.tree.Stores (oneSetting.execute none ["settings", "-o", "settings.toml"]).tree
        "settings.toml" oneSettingText := by
  have hplain : CommandLine.parse none ["settings"]
      = .ok ⟨none, "mise", false, .settings none⟩ := by rfl
  have hredirected : CommandLine.parse none ["settings", "-o", "settings.toml"]
      = .ok ⟨none, "mise", false, .settings (some "settings.toml")⟩ := by rfl
  have hsuccess : (oneSetting.execute none ["settings"]).code = 0 := by decide +kernel
  have hstdout : (oneSetting.execute none ["settings"]).stdout = oneSettingText := by
    decide +kernel
  have hholds : oneSetting.tree.CanHold "settings.toml" :=
    @FileTree.canHold_of_locateFile _ _ ["settings.toml"] rfl nofun
  obtain ⟨hcode, hwritten⟩ :=
    output_file_holds_stdout oneSetting hplain rfl hsuccess hredirected
  rw [hstdout] at hwritten
  exact ⟨hstdout, hcode.2 hholds, hwritten hholds⟩

/-- What a failed run with one result leaves behind: the tree as it was, or grown on the way to an
output file that cannot be written. -/
theorem tree_of_failure {output : Option String} (houtput : invocation.command.output? = some output)
    (verbose : Bool)
    (hfailure : ((invocation.run machine).outcome machine.tree verbose).code ≠ 0) :
    ((invocation.run machine).outcome machine.tree verbose).stdout = ""
      ∧ (((invocation.run machine).outcome machine.tree verbose).tree = machine.tree
        ∨ machine.tree.Grows ((invocation.run machine).outcome machine.tree verbose).tree
          ∧ ∃ path, output = some path ∧ ¬ machine.tree.CanHold path) := by
  obtain ⟨log, ⟨failure, hrun⟩ | ⟨text, hrun⟩⟩ := Invocation.run_cases machine houtput
  all_goals
    replace hrun := hrun output
    rw [Invocation.withOutput_self houtput] at hrun
  · rw [Run.outcome_of_error _ hrun]
    exact ⟨rfl, .inl rfl⟩
  · cases output with
    | none =>
      rw [Run.outcome_of_ok _ hrun] at hfailure
      exact absurd rfl hfailure
    | some path =>
      by_cases hholds : machine.tree.CanHold path
      · obtain ⟨after, -, hwrite⟩ := Run.run_writeFile { tree := machine.tree, log } hholds text
        rw [Run.outcome_of_ok _ (hrun.trans hwrite)] at hfailure
        exact absurd rfl hfailure
      · obtain ⟨failure, grown, hgrows, hwrite⟩ :=
          Run.run_writeFile_error { tree := machine.tree, log } hholds text
        rw [Run.outcome_of_error _ (hrun.trans hwrite)]
        exact ⟨rfl, .inr ⟨hgrows, path, rfl, hholds⟩⟩

/-- A run that is to have one result and fails has printed nothing, and it has created, changed and
removed no file. At most it has created directories, on the way to an output file that cannot be
written. -/
theorem failure_touches_no_file (machine : Machine)
    (hcommand : ∀ invocation, CommandLine.parse program arguments = .ok invocation →
      invocation.command.output? ≠ none)
    (hfailure : (machine.execute program arguments).code ≠ 0) :
    (machine.execute program arguments).stdout = ""
      ∧ (∀ place content executable,
        (machine.execute program arguments).tree.at? place = some (.file content executable)
          ↔ machine.tree.at? place = some (.file content executable))
      ∧ ((machine.execute program arguments).tree = machine.tree
        ∨ machine.tree.Grows (machine.execute program arguments).tree
          ∧ ∃ invocation path, CommandLine.parse program arguments = .ok invocation
            ∧ invocation.command.output? = some (some path) ∧ ¬ machine.tree.CanHold path) := by
  have hcases : (machine.execute program arguments).stdout = ""
      ∧ ((machine.execute program arguments).tree = machine.tree
        ∨ machine.tree.Grows (machine.execute program arguments).tree
          ∧ ∃ invocation path, CommandLine.parse program arguments = .ok invocation
            ∧ invocation.command.output? = some (some path) ∧ ¬ machine.tree.CanHold path) := by
    cases hparse : CommandLine.parse program arguments with
    | error fault =>
      have hexecute : machine.execute program arguments = fault.outcome machine arguments := by
        rw [Machine.execute, hparse]
      rw [hexecute] at hfailure ⊢
      obtain ⟨hstdout, htree⟩ := CommandLine.Fault.outcome_of_failure hfailure
      exact ⟨hstdout, .inl htree⟩
    | ok invocation =>
      obtain ⟨output, houtput⟩ := Option.ne_none_iff_exists'.1 (hcommand invocation hparse)
      rw [Machine.execute_of_parse hparse] at hfailure ⊢
      obtain ⟨hstdout, htree | ⟨hgrows, path, rfl, hholds⟩⟩ :=
        tree_of_failure houtput invocation.verbose hfailure
      · exact ⟨hstdout, .inl htree⟩
      · exact ⟨hstdout, .inr ⟨hgrows, invocation, path, rfl, houtput, hholds⟩⟩
  have hgrows : machine.tree.Grows (machine.execute program arguments).tree := by
    rcases hcases.2 with htree | ⟨hgrows, -⟩
    · rw [htree]
      exact .refl _
    · exact hgrows
  exact ⟨hcases.1, fun place content executable => hgrows.file_iff, hcases.2⟩

/-- The output file would lie under a regular file. A directory on the way there is made, and the
settings are as they were. -/
theorem failure_touches_no_file_oneSetting :
    (oneSetting.execute none ["settings", "-o", "new/../settings.toml/list"]).stdout = ""
      ∧ (oneSetting.execute none ["settings", "-o", "new/../settings.toml/list"]).tree.isDirectory
        "new" = true
      ∧ ∀ place content executable,
        (oneSetting.execute none ["settings", "-o", "new/../settings.toml/list"]).tree.at? place
            = some (.file content executable)
          ↔ oneSetting.tree.at? place = some (.file content executable) := by
  have hparse : CommandLine.parse none ["settings", "-o", "new/../settings.toml/list"]
      = .ok ⟨none, "mise", false, .settings (some "new/../settings.toml/list")⟩ := by rfl
  have hcommand : ∀ invocation,
      CommandLine.parse none ["settings", "-o", "new/../settings.toml/list"] = .ok invocation →
        invocation.command.output? ≠ none := by
    intro invocation h
    rw [hparse] at h
    cases h
    nofun
  have hfailure :
      (oneSetting.execute none ["settings", "-o", "new/../settings.toml/list"]).code ≠ 0 := by
    decide +kernel
  obtain ⟨hstdout, hfiles, -⟩ := failure_touches_no_file oneSetting hcommand hfailure
  exact ⟨hstdout, by decide +kernel, hfiles⟩

end execute

end Catalog
