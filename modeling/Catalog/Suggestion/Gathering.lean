import Catalog.Program
import Catalog.Suggestion.Generator

/-!
Gathering suggestions from several generators. It never fails: a generator that does gives one
suggestion that stands for the error, and the others are not touched by it.
-/

namespace Catalog.Suggestion

/-- What came of asking generators: the suggestions, the calls that were made, and the details to be
shown on request. -/
structure Gathered where
  suggestions : List Suggestion := []
  calls : List Call := []
  details : List String := []
  deriving DecidableEq, Repr

/-- One result after the other. -/
def Gathered.append (first second : Gathered) : Gathered :=
  { suggestions := first.suggestions ++ second.suggestions
    calls := first.calls ++ second.calls
    details := first.details ++ second.details }

/-- The call that asks for the listing of a generator. -/
def Generator.call (generator : Generator) (program : String) : Call :=
  ⟨program, generator.arguments⟩

/-- The suggestions of a generator, or the message of why there are none. -/
def Generator.answer (generator : Generator) (programs : Programs) (program : String) :
    Except String (List Suggestion) := do
  let text ← programs.answer (generator.call program)
  (generator.read text).mapError ListingFault.message

/-- The detail about a call. -/
def callDetail (call : Call) : String :=
  s!"exec: {call.line}"

/-- Asks one generator. -/
def ask (programs : Programs) (program : String) (generator : Generator) : Gathered :=
  let call := generator.call program
  match generator.answer programs program with
  | .ok suggestions => { suggestions, calls := [call], details := [callDetail call] }
  | .error message =>
    { suggestions := [ofError message]
      calls := [call]
      details := [callDetail call, s!"generator {generator.name} failed: {message}"] }

/-- The message that a program cannot be called. -/
def notFound (program : String) : String :=
  s!"{program} not found on PATH"

/-- Asks the generators one by one; if the program cannot be called, each of them stands for that
error and nothing is called. -/
def gather (programs : Programs) (program : String) (generators : List Generator) : Gathered :=
  if programs.finds program then
    (generators.map (ask programs program)).foldr Gathered.append {}
  else
    { suggestions := generators.map fun _ => ofError (notFound program)
      details := [notFound program] }

end Catalog.Suggestion
