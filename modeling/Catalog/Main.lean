import Catalog.Command.Execution

/-!
The command line program. It takes a picture of the files that a command may read or write, runs the
command on it, and writes the files that the run changed. It cannot start other programs, so none is
found, and it has no text for help and no script for completions.
-/

namespace Catalog

/-- The path of a location in the file system. -/
def absolute (location : Location) : String :=
  "/" ++ String.intercalate "/" location

/-- The paths that a run may read or write. -/
def Invocation.paths (invocation : Invocation) : List String :=
  let root := invocation.root.getD Layout.defaultRoot
  let output :=
    match invocation.command with
    | .registry _ output | .registryTable output | .settings output => output.toList
    | _ => []
  [Path.join root "registry", Path.join root "registry.toml", Layout.settings root,
    Layout.mainSchema root, Layout.taskSchema root, Layout.rcSchema root] ++ output

/-- Looks at a file or a directory. A file that cannot be read counts as missing. -/
def observe (here : Location) (location : Location) : IO (List (Location × FileEntry)) := do
  let path := (← IO.currentDir) / absolute location
  if ← path.isDir then
    if location.getLast? = some "registry" && location ≠ here then
      let inside ← (← path.readDir).toList.mapM fun entry => do
        let place := location ++ [entry.fileName]
        if ← entry.path.isDir then return (place, FileEntry.directory)
        return (place, FileEntry.file (← IO.FS.readBinFile entry.path) false)
      return (location, .directory) :: inside
    return [(location, .directory)]
  try
    return [(location, .file (← IO.FS.readBinFile path) false)]
  catch _ => return []

/-- Takes a picture of the files at some paths. -/
def picture (paths : List String) : IO FileTree := do
  let here := ((Path.segments (← IO.currentDir).toString).filter (· ≠ ""))
  let locations := (paths.flatMap (Path.places here)).eraseDups
  let entries ← (Path.places [] (absolute here) ++ locations).eraseDups.mapM (observe here)
  return { entries := Keyed.ofPairs entries.flatten, current := here }

/-- Writes what a run changed. -/
def commit (before after : FileTree) : IO Unit := do
  for (location, entry) in after.entries do
    if entry matches .directory && (before.at? location).isNone then
      IO.FS.createDirAll (absolute location)
  for (location, content) in after.changedSince before do
    IO.FS.writeBinFile (absolute location) content

end Catalog

open Catalog in
/-- Runs the program. -/
def main (arguments : List String) : IO UInt32 := do
  let program ← IO.getEnv "MISE_BIN"
  let paths :=
    match CommandLine.parse program arguments with
    | .ok invocation => invocation.paths
    | .error _ => []
  let tree ← picture paths
  let programs : Programs :=
    { finds := fun _ => false
      answer := fun call => .error s!"failed to execute: {call.program}" }
  let machine : Machine := { tree, programs, version := "0.1.0" }
  let outcome := machine.execute program arguments
  commit tree outcome.tree
  IO.print outcome.stdout
  for line in outcome.stderr do
    IO.eprintln line
  return UInt32.ofNat outcome.code
