import Catalog.FileTree

/-!
Other programs. What they answer to a call is a function of the call; a program is found on the
search path, or at the path that its name is.
-/

namespace Catalog

/-- A call of a program. -/
structure Call where
  program : String
  arguments : List String
  deriving DecidableEq, Repr

/-- A call as it is shown: the program and its arguments with spaces between them. -/
def Call.line (call : Call) : String :=
  String.intercalate " " (call.program :: call.arguments)

/-- The programs a run can call. -/
structure Programs where
  /-- Whether a program can be called. -/
  finds : String → Bool
  /-- The output of a call, or the message of why it fails. -/
  answer : Call → Except String String

/-- What a program that was called leaves behind: the bytes on its two output streams, and its exit
code, which is missing if it was killed. -/
structure Exit where
  stdout : ByteArray
  stderr : ByteArray
  code : Option Nat

namespace Exit

/-- The exit code as messages show it. -/
def codeText (exit : Exit) : String :=
  match exit.code with
  | some code => toString code
  | none => "-1"

/-- The output of a call, which fails unless the exit code is zero. -/
def outcome (exit : Exit) (call : Call) : Except String String :=
  if exit.code = some 0 then .ok (Text.ofUtf8Lossy exit.stdout)
  else
    let complaint :=
      String.ofList (Text.trim (Text.ofUtf8Lossy exit.stderr).toList)
    .error s!"{call.line} failed (exit {exit.codeText}): {complaint}"

end Exit

namespace FileTree

/-- The path of a program. A name of several components is a path itself, which is looked up as its
components say, without slashes and dots at its end; any other name is looked up along the search
path. -/
def programPath? (tree : FileTree) (search : List String) (program : String) : Option String :=
  let components := Path.components program
  let candidates :=
    if components.length ≤ 1 then search.map (Path.join · program)
    else if Path.isAbsolute program then [program]
    else [String.intercalate "/" components]
  candidates.find? tree.isExecutable

/-- The location of a program that is called. A name with a slash is taken as it is written, so that
a slash or a dot at its end asks for a directory. -/
def calledProgram (tree : FileTree) (search : List String) (program : String) :
    Except FileFault Location := do
  if '/' ∈ program.toList then tree.locate program
  else
    match tree.programPath? search program with
    | some path => tree.locate path
    | none => throw .notFound

/-- The programs on the search path of a tree. The behaviour of each is known by its location. -/
def programs (tree : FileTree) (search : List String)
    (behaviours : List (Location × (List String → Exit))) : Programs :=
  let behaviour (program : String) : Except FileFault (List String → Exit) := do
    match Keyed.get? behaviours (← tree.calledProgram search program) with
    | some behaviour => return behaviour
    | none => throw .notFound
  { finds := fun program => (tree.programPath? search program).isSome
    answer := fun call =>
      match behaviour call.program with
      | .ok exit => (exit call.arguments).outcome call
      | .error fault => .error s!"failed to execute: {call.program}: {fault.message}" }

end FileTree

end Catalog
