import Catalog.Command.Basic
import Catalog.Command.Failure
import Catalog.Log
import Catalog.Program

/-!
Runs, step by step. A step either reads, and then it can only speak and fail, or it belongs to a
session and can also print and write files. A session keeps what was done before a failure.
-/

namespace Catalog

/-- What a run finds: the files, the other programs, the version of this one, and the texts that are
made from the description of its command line. -/
structure Machine where
  tree : FileTree
  programs : Programs
  version : String
  /-- What is shown of a command line that is not run: the help that it asks for, or its fault. -/
  notice : List String → String := fun _ => ""
  /-- The script that lets a shell complete command lines. -/
  completions : Shell → String := fun _ => ""

/-- A step that reads. -/
abbrev Reading := ExceptT Failure (StateM Log)

namespace Reading

/-- Speaks. -/
def say (speak : Log → Log) : Reading Unit :=
  modify speak

/-- Goes on with a result, or fails. -/
def check {ε α : Type} (failure : ε → Failure) (result : Except ε α) : Reading α :=
  match result with
  | .ok value => pure value
  | .error fault => throw (failure fault)

end Reading

/-- The state of a run. -/
structure Session where
  tree : FileTree
  stdout : String := ""
  log : Log := .empty

/-- A step of a session. -/
abbrev Run := ExceptT Failure (StateM Session)

namespace Run

/-- Speaks. -/
def say (speak : Log → Log) : Run Unit :=
  modify fun session => { session with log := speak session.log }

/-- Does a step that reads the files as they are now. -/
def look {α : Type} (reading : FileTree → Reading α) : Run α := do
  let session ← get
  let (result, log) := (reading session.tree).run session.log
  set { session with log }
  match result with
  | .ok value => return value
  | .error failure => throw failure

/-- Prints to standard output. -/
def print (text : String) : Run Unit :=
  modify fun session => { session with stdout := session.stdout ++ text }

/-- Changes the files, or fails. -/
def change (failure : FileFault → Failure) (edit : FileTree → Except FileFault FileTree) :
    Run Unit := do
  match edit (← get).tree with
  | .ok tree => modify fun session => { session with tree }
  | .error fault => throw (failure fault)

/-- Creates a directory and the directories above it that are missing. Those that were created before
a failure stay. -/
def makeDirectories (path : String) : Run Unit := do
  match (← get).tree.missingDirectories path with
  | .ok missing =>
    missing.forM fun directory => change (.create path) (·.ensureDirectory directory)
  | .error fault => throw (.create path fault)

/-- Writes a file, and first the directories above it that are missing. -/
def writeFile (path text : String) : Run Unit := do
  match Path.parent? path with
  | some above => if above ≠ "" then makeDirectories above
  | none => pure ()
  change (.write path) (·.write path text)
  say (·.info s!"wrote {path}")

/-- Writes a result to a file, or to standard output if there is none. -/
def writeOutput (output : Option String) (text : String) : Run Unit :=
  match output with
  | some path => writeFile path text
  | none => print text

end Run

/-- What a run leaves behind. -/
structure Outcome where
  tree : FileTree
  stdout : String
  stderr : List String
  code : Nat

/-- The messages at the end of a run: the number of warnings, and why it failed. -/
def Log.conclude (log : Log) (failure : Option Failure) : Log :=
  let counted :=
    if log.warnings > 0 then log.info s!"finished with {log.warnings} warning(s)" else log
  match failure with
  | some failure => counted.error failure.line
  | none => counted

/-- Runs a session on the files of a tree. -/
def Run.outcome (run : Run Unit) (tree : FileTree) (verbose : Bool) : Outcome :=
  let (result, session) := (ExceptT.run run).run { tree }
  let failure :=
    match result with
    | .ok () => none
    | .error failure => some failure
  { tree := session.tree
    stdout := session.stdout
    stderr := (session.log.conclude failure).lines verbose
    code := if failure.isSome then 1 else 0 }

end Catalog
