import Catalog.Proofs.Command.Output
import Catalog.Proofs.Suggestion.Gathering

/-!
The command for suggestions. Main statement: whatever the tool manager does, a request for suggestions
succeeds, and what is printed is the list that was gathered.
-/

namespace Catalog

open Suggestion

/-! ### The command line of a request -/

namespace CommandLine

/-- The arguments of a request are operands: none of them has the form of an option. -/
theorem step_operand (state : State) (generator : Generator) (hclosed : state.closed = false)
    (hpending : state.pending = .nothing ∨ ∃ texts, state.pending = .operands texts) :
    state.step (.inner .suggest) generator.name = state.operand (.inner .suggest) generator.name := by
  have hword : Word.of generator.name = .plain := by
    cases generator <;> rfl
  rw [State.step, if_neg (by simp [hclosed]), hword]
  rcases hpending with hpending | ⟨texts, hpending⟩ <;> rw [hpending]

/-- Names that follow other names wait with them. -/
theorem foldlM_names (texts : List String) : ∀ generators : List Generator,
    (generators.map Generator.name).foldlM (State.step · (.inner .suggest))
        { pending := .operands texts }
      = .ok { pending := .operands (texts ++ generators.map Generator.name) }
  | [] => by simp [pure, Except.pure]
  | generator :: rest => by
    rw [List.map_cons, List.foldlM_cons, step_operand _ _ rfl (.inr ⟨texts, rfl⟩)]
    refine (foldlM_names (texts ++ [generator.name]) rest).trans ?_
    rw [List.append_assoc, List.singleton_append]

theorem ofName?_name (generator : Generator) : Generator.ofName? generator.name = some generator := by
  cases generator <;> rfl

theorem readInner_names {generators : List Generator} (h : generators ≠ []) :
    readInner .suggest (generators.map Generator.name) = .ok { generators } := by
  obtain ⟨first, rest, rfl⟩ := List.exists_cons_of_ne_nil h
  have hread : ((first :: rest).map Generator.name).mapM
      (fun text => required (Generator.ofName? text)) = .ok ((first :: rest).map id) :=
    Result.mapM_map_eq_ok fun generator _ => by rw [ofName?_name]; rfl
  have haccept : Given.acceptOperands {} (.inner .suggest) ((first :: rest).map Generator.name)
      = .ok { generators := first :: rest } := by
    simp only [Given.acceptOperands, Level.operands, hread, Result.ok_bind, List.map_id]
    rfl
  have hoperands : ((first :: rest).map Generator.name).foldlM (State.step · (.inner .suggest)) {}
      = .ok { pending := .operands ((first :: rest).map Generator.name) } := by
    rw [List.map_cons, List.foldlM_cons, step_operand _ _ rfl (.inl rfl)]
    exact foldlM_names [first.name] rest
  rw [readInner, hoperands, Result.ok_bind]
  dsimp only [State.settle]
  rw [haccept]
  rfl

/-- Any generators that are named can be asked for. -/
theorem parse_names (program : Option String) {generators : List Generator} (h : generators ≠ []) :
    parse program ("suggest" :: generators.map Generator.name)
      = .ok ⟨none, program.getD defaultProgram, false, .suggest generators⟩ := by
  have hname : isCommandName "suggest" = true := by rfl
  have hcommand : CommandName.ofText? "suggest" = some .suggest := by rfl
  rw [parse, readOuter, hname]
  dsimp only [Bool.not_false, Bool.and_true]
  rw [enter, hcommand]
  dsimp only
  rw [readInner_names h, Result.ok_bind, CommandName.command, if_neg h]
  rfl

end CommandLine

/-! ### What is said -/

namespace Log

/-- Nothing but details was said. -/
structure Quiet (log : Log) : Prop where
  warnings : log.warnings = 0
  details : ∀ event ∈ log.events, event.level = .debug

variable {log : Log}

theorem quiet_empty : Quiet empty :=
  ⟨rfl, by simp [empty]⟩

theorem Quiet.debug (h : log.Quiet) (message : String) : (log.debug message).Quiet := by
  refine ⟨h.warnings, fun event hmem => ?_⟩
  rcases List.mem_append.1 hmem with hmem | hmem
  · exact h.details event hmem
  · rw [List.mem_singleton.1 hmem]

theorem Quiet.detailed (h : log.Quiet) (messages : List String) : (log.details messages).Quiet := by
  induction messages generalizing log with
  | nil => exact h
  | cons message rest ih => exact ih (h.debug message)

theorem Quiet.conclude (h : log.Quiet) : log.conclude none = log := by
  simp [Log.conclude, h.warnings]

/-- The line of a detail is indented. -/
theorem Quiet.exists_message (h : log.Quiet) {verbose : Bool} {line : String}
    (hmem : line ∈ log.lines verbose) : verbose = true ∧ ∃ message, line = "  " ++ message := by
  simp only [lines, List.mem_map, List.mem_filter, Bool.or_eq_true, decide_eq_true_eq] at hmem
  obtain ⟨event, ⟨hevent, hshown⟩, rfl⟩ := hmem
  have hlevel := h.details event hevent
  refine ⟨hshown.resolve_right fun hne => hne hlevel, event.message, ?_⟩
  rw [Event.line, hlevel]

end Log

/-! ### The result -/

/-- What is printed for a request. -/
def suggestionText (programs : Programs) (program : String) (generators : List Generator) : String :=
  (Json.arr ((gather programs program generators).suggestions.map Suggestion.toJson)).pretty

/-- Gathering suggestions gives a text, and only speaks of details. -/
theorem Reading.exists_run_suggestions (programs : Programs) (program : String)
    (generators : List Generator) {log : Log} (h : log.Quiet) : ∃ later : Log, later.Quiet
      ∧ (Reading.suggestions programs program generators).run.run log
        = (.ok (suggestionText programs program generators), later) :=
  ⟨_, ((h.debug _).detailed _).debug _, rfl⟩

theorem Run.exists_run_suggest (machine : Machine) {invocation : Invocation}
    {generators : List Generator} (h : invocation.command = .suggest generators) :
    ∃ log : Log, log.Quiet ∧ (invocation.run machine).run.run { tree := machine.tree }
      = (.ok (), { tree := machine.tree, log,
                   stdout := suggestionText machine.programs invocation.program generators }) := by
  obtain ⟨log, hquiet, hread⟩ := Reading.exists_run_suggestions machine.programs
    invocation.program generators Log.quiet_empty
  refine ⟨log, hquiet, ?_⟩
  rw [Invocation.run, h]
  dsimp only
  rw [run_bind, run_look, hread]
  exact congrArg (fun stdout => (Except.ok (), Session.mk machine.tree stdout log))
    String.empty_append

/-- Any generators can be asked for, and whatever the tool manager is like and does, such a request
succeeds: what is printed is the list that was gathered, no file is touched, and nothing but details
is said, none of which is an error. A line is one message as it is rendered: a detail, shown on request
only, may quote what the tool manager wrote to its standard error over several lines. -/
theorem suggest_always_succeeds (machine : Machine) (program : Option String)
    {generators : List Generator} (h : generators ≠ []) :
    CommandLine.parse program ("suggest" :: generators.map Generator.name)
        = .ok ⟨none, program.getD CommandLine.defaultProgram, false, .suggest generators⟩
      ∧ ∀ arguments invocation, CommandLine.parse program arguments = .ok invocation →
        invocation.command = .suggest generators →
          (machine.execute program arguments).code = 0
            ∧ (machine.execute program arguments).tree = machine.tree
            ∧ (machine.execute program arguments).stdout
              = (Json.arr ((gather machine.programs invocation.program generators).suggestions.map
                  Suggestion.toJson)).pretty
            ∧ (∀ line ∈ (machine.execute program arguments).stderr,
                ¬ "ERROR".toList <+: line.toList)
            ∧ (invocation.verbose = false → (machine.execute program arguments).stderr = []) := by
  refine ⟨CommandLine.parse_names program h, fun arguments invocation hparse hcommand => ?_⟩
  obtain ⟨log, hquiet, hrun⟩ := Run.exists_run_suggest machine hcommand
  rw [Machine.execute_of_parse hparse, Run.outcome_of_ok _ hrun, hquiet.conclude]
  refine ⟨rfl, rfl, rfl, fun line hmem hprefix => ?_, fun hverbose => ?_⟩
  · obtain ⟨-, message, rfl⟩ := hquiet.exists_message hmem
    simp at hprefix
  · refine List.eq_nil_iff_forall_not_mem.2 fun line hmem => ?_
    have hshown := (hquiet.exists_message hmem).1
    rw [hverbose] at hshown
    cases hshown

/-- A tool manager with an unusual row, text that is no UTF-8, and an error; else it is killed. -/
def brokenManager : Machine where
  tree := { entries := [(["bin"], .directory), (["bin", "mise"], .file .empty true)], current := [] }
  programs := FileTree.programs
    { entries := [(["bin"], .directory), (["bin", "mise"], .file .empty true)], current := [] }
    ["/bin"] [(["bin", "mise"], fun arguments =>
      if arguments = ["tasks", "-J"] then ⟨"[\x7b\"name\": 1\x7d]".toUTF8, .empty, some 0⟩
      else if arguments = ["registry"] then ⟨⟨#[0xff, 0x20, 0x61]⟩, .empty, some 0⟩
      else if arguments = ["plugins", "--all"] then ⟨.empty, ⟨#[0x6e, 0x6f, 0xff]⟩, some 3⟩
      else ⟨.empty, .empty, none⟩)]
  version := "1.0.0"

/-- What the four generators give. -/
def brokenSuggestions : List Suggestion :=
  [ofError "failed to parse task list JSON: invalid type: integer `1`, expected a string",
    { name := "\uFFFD", description := some "a" },
    ofError "mise plugins --all failed (exit 3): no\uFFFD",
    ofError "mise settings --keys failed (exit -1): "]

theorem suggest_always_succeeds_brokenManager :
    (brokenManager.execute none ["suggest", "-v", "tasks", "registry", "plugins", "settings"]).code
        = 0
      ∧ (brokenManager.execute none
          ["suggest", "-v", "tasks", "registry", "plugins", "settings"]).stdout
        = (Json.arr (brokenSuggestions.map Suggestion.toJson)).pretty
      ∧ ∀ line ∈ (brokenManager.execute none
          ["suggest", "-v", "tasks", "registry", "plugins", "settings"]).stderr,
        ¬ "ERROR".toList <+: line.toList := by
  obtain ⟨-, hrun⟩ := suggest_always_succeeds brokenManager none
    (show [Generator.tasks, .registry, .plugins, .settings] ≠ [] by decide)
  have hparse : CommandLine.parse none ["suggest", "-v", "tasks", "registry", "plugins", "settings"]
      = .ok ⟨none, "mise", true, .suggest [.tasks, .registry, .plugins, .settings]⟩ := by rfl
  have hgathered : (gather brokenManager.programs "mise"
      [.tasks, .registry, .plugins, .settings]).suggestions = brokenSuggestions := by
    decide +kernel
  obtain ⟨hcode, -, hstdout, hlines, -⟩ := hrun _ _ hparse rfl
  rw [hgathered] at hstdout
  exact ⟨hcode, hstdout, hlines⟩

end Catalog
