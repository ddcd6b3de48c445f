import Catalog.Command.Execution
import Catalog.Proofs.Command.Session
import Catalog.Proofs.Loading

/-!
What a run that brings the schemas up to date makes of the files. The run is described by a function of
the files alone.
-/

namespace Catalog.Schema

variable {root : String} {tree : FileTree}

/-! ### The steps -/

/-- The entries of the settings. -/
def entries (root : String) (tree : FileTree) : Except Failure (List Setting.Entry) :=
  (Setting.load tree (Layout.settings root)).mapError (.settings (Layout.settings root))

/-- The main schema with the settings in it. -/
def main (root : String) (entries : List Setting.Entry) (tree : FileTree) : Except Failure Json := do
  let schema ← (Loading.json tree (Layout.mainSchema root)).mapError .document
  (Setting.mergeProperties schema (Setting.properties entries)).mapError .definition

/-- What the first two files give: the entries, and the main schema with the settings in it. -/
def sources (root : String) (tree : FileTree) : Except Failure (List Setting.Entry × Json) := do
  let entries ← entries root tree
  return (entries, ← main root entries tree)

/-- The task schema with the definitions of the main one, if there is a task schema. -/
def task? (root : String) (main : Json) (tree : FileTree) : Except Failure (Option Json) :=
  if tree.isFile (Layout.taskSchema root) then do
    let schema ← (Loading.json tree (Layout.taskSchema root)).mapError .document
    return some (← (Setting.syncDefinitions main schema).mapError .definition)
  else return none

/-- Writes a schema. -/
def save (path : String) (schema : Json) (tree : FileTree) : Except Failure FileTree :=
  (tree.write path schema.pretty).mapError (.write path)

theorem gives_entries (root : String) (tree : FileTree) :
    (Reading.entries root tree).Gives (entries root tree) := by
  refine Reading.gives_say (Reading.gives_say ?_)
  rw [← bind_pure (entries root tree)]
  exact Reading.gives_bind (Reading.gives_check _ _) fun entries =>
    Reading.gives_say (Reading.gives_pure entries)

theorem gives_main (root : String) (entries : List Setting.Entry) (tree : FileTree) :
    (Reading.mainSchema root entries tree).Gives (main root entries tree) :=
  Reading.gives_say <| Reading.gives_bind (Reading.gives_check _ _) fun _ =>
    Reading.gives_say (Reading.gives_check _ _)

theorem gives_task? (root : String) (main : Json) (tree : FileTree) :
    (Reading.taskSchema root main tree).Gives (task? root main tree) := by
  by_cases hfile : tree.isFile (Layout.taskSchema root) = true
  · simp only [Reading.taskSchema, task?, if_pos hfile]
    exact Reading.gives_bind (Reading.gives_check _ _) fun _ =>
      Reading.gives_bind (Reading.gives_check _ _) fun _ => Reading.gives_pure _
  · simp only [Reading.taskSchema, task?, if_neg hfile]
    exact Reading.gives_say (Reading.gives_pure none)

/-! ### The run -/

/-- The last part of a run: the schema of the settings that are read early. -/
def finish (root : String) (entries : List Setting.Entry) (tree : FileTree) :
    Except Failure Unit × FileTree :=
  match save (Layout.rcSchema root) (Setting.rcSchema entries) tree with
  | .ok after => (.ok (), after)
  | .error failure => (.error failure, tree)

/-- The part of a run behind the main schema. -/
def follow (root : String) (entries : List Setting.Entry) (main : Json) (tree : FileTree) :
    Except Failure Unit × FileTree :=
  match task? root main tree with
  | .error failure => (.error failure, tree)
  | .ok none => finish root entries tree
  | .ok (some task) =>
    match save (Layout.taskSchema root) task tree with
    | .ok after => finish root entries after
    | .error failure => (.error failure, tree)

/-- The result of a run, and the files that it leaves. -/
def outcome (root : String) (tree : FileTree) : Except Failure Unit × FileTree :=
  match sources root tree with
  | .error failure => (.error failure, tree)
  | .ok (entries, main) =>
    match save (Layout.mainSchema root) main tree with
    | .ok after => follow root entries main after
    | .error failure => (.error failure, tree)

theorem endsPlain_directory (root : String) : Path.EndsPlain (Path.join root "schema") :=
  Path.endsPlain_join root ⟨"schem".toList, 'a', rfl, by decide, by decide⟩

/-- The documents that a run reads or writes. -/
inductive Document
  | settings
  | main
  | task
  | rc

/-- The name of a document in its directory. -/
def Document.name : Document → String
  | settings => "settings.toml"
  | main => "mise.json"
  | task => "mise-task.json"
  | rc => "miserc.json"

theorem Document.isName (document : Document) : Path.IsName document.name := by
  cases document <;> decide

theorem sources_eq_ok {found : List Setting.Entry} {merged : Json} :
    sources root tree = .ok (found, merged) ↔ ∃ document schema,
      Loading.table tree (Layout.settings root) = .ok document
      ∧ Setting.build document = .ok found
      ∧ Loading.json tree (Layout.mainSchema root) = .ok schema
      ∧ Setting.mergeProperties schema (Setting.properties found) = .ok merged := by
  simp only [sources, entries, main, Setting.load, Result.bind_eq_ok, Result.mapError_eq_ok,
    Result.pure_eq_ok, Prod.mk.injEq]
  constructor
  · rintro ⟨_, ⟨document, hdocument, hbuild⟩, _, ⟨schema, hschema, hmerge⟩, rfl, rfl⟩
    exact ⟨document, schema, hdocument, hbuild, hschema, hmerge⟩
  · rintro ⟨document, schema, hdocument, hbuild, hschema, hmerge⟩
    exact ⟨found, ⟨document, hdocument, hbuild⟩, merged, ⟨schema, hschema, hmerge⟩, rfl, rfl⟩

/-- The main schema can only be read if its directory is there. -/
theorem isDirectory_of_sources {entries : List Setting.Entry} {main : Json}
    (h : sources root tree = .ok (entries, main)) :
    tree.isDirectory (Path.join root "schema") = true := by
  obtain ⟨_, schema, -, -, hschema, -⟩ := sources_eq_ok.1 h
  obtain ⟨text, htext, -⟩ := Loading.json_eq_ok.1 hschema
  rw [Loading.text_eq, FileTree.find?] at htext
  cases hlocate : tree.locate (Layout.mainSchema root) with
  | error fault => simp [hlocate] at htext
  | ok location =>
    obtain ⟨place, hplace, hat, -⟩ :=
      FileTree.exists_of_locate_join (endsPlain_directory root) Document.main.isName hlocate
    simp [FileTree.isDirectory, FileTree.find?, hplace, hat]

theorem isDirectory_of_save {path directory : String} {schema : Json} {after : FileTree}
    (h : save path schema tree = .ok after) (hdirectory : tree.isDirectory directory = true) :
    after.isDirectory directory = true := by
  obtain ⟨location, -, hat, rfl⟩ := FileTree.write_eq_ok.1 (Result.mapError_eq_ok.1 h)
  exact FileTree.isDirectory_put hat hdirectory

section save

variable {name : String} {schema : Json} (hname : Path.IsName name)
  (h : tree.isDirectory (Path.join root "schema") = true)

include hname h

theorem goes_save {after : FileTree} (hsave : save (Layout.inSchema root name) schema tree = .ok after) :
    (Run.writeFile (Layout.inSchema root name) schema.pretty).Goes tree (.ok ()) after :=
  Run.goes_writeFile (endsPlain_directory root) hname h (Result.mapError_eq_ok.1 hsave)

theorem goes_save_error {failure : Failure}
    (hsave : save (Layout.inSchema root name) schema tree = .error failure) :
    (Run.writeFile (Layout.inSchema root name) schema.pretty).Goes tree (.error failure) tree := by
  unfold save at hsave
  cases hwrite : tree.write (Layout.inSchema root name) schema.pretty with
  | ok after => simp [hwrite, Except.mapError] at hsave
  | error fault =>
    rw [hwrite] at hsave
    cases hsave
    exact Run.goes_writeFile_error (endsPlain_directory root) hname h hwrite

end save

theorem goes_finish (entries : List Setting.Entry)
    (h : tree.isDirectory (Path.join root "schema") = true) :
    (Run.writeFile (Layout.rcSchema root) (Setting.rcSchema entries).pretty).Goes tree
      (finish root entries tree).1 (finish root entries tree).2 := by
  unfold finish
  split
  · rename_i after hsave
    exact goes_save Document.rc.isName h hsave
  · rename_i failure hsave
    exact goes_save_error Document.rc.isName h hsave

theorem goes_follow (entries : List Setting.Entry) (main : Json)
    (h : tree.isDirectory (Path.join root "schema") = true) : Run.Goes (do
        match ← Run.look (Reading.taskSchema root main) with
        | some task => Run.writeFile (Layout.taskSchema root) task.pretty
        | none => pure ()
        Run.writeFile (Layout.rcSchema root) (Setting.rcSchema entries).pretty) tree
      (follow root entries main tree).1 (follow root entries main tree).2 := by
  have htask := Run.goes_look (gives_task? root main tree)
  unfold follow
  rcases htask? : task? root main tree with failure | _ | task <;> rw [htask?] at htask
  · exact htask.bind_error
  · exact htask.bind (goes_finish entries h)
  · refine htask.bind ?_
    dsimp only
    split
    · rename_i after hsave
      exact (goes_save Document.task.isName h hsave).bind
        (goes_finish entries (isDirectory_of_save hsave h))
    · rename_i failure hsave
      exact (goes_save_error Document.task.isName h hsave).bind_error

/-- A run does what the function of the files says. -/
theorem goes_outcome (root : String) (tree : FileTree) :
    (Run.schema root).Goes tree (outcome root tree).1 (outcome root tree).2 := by
  have hentries := Run.goes_look (gives_entries root tree)
  have hmain := fun entries => Run.goes_look (gives_main root entries tree)
  unfold outcome
  cases hsources : sources root tree with
  | error failure =>
    rcases hfound : entries root tree with cause | entries <;> rw [hfound] at hentries
    · rw [sources, hfound] at hsources
      cases hsources
      exact hentries.bind_error
    · rcases hschema : main root entries tree with cause | schema
      · rw [sources, hfound] at hsources
        simp only [bind, Except.bind, hschema] at hsources
        cases hsources
        exact hentries.bind (hschema ▸ hmain entries).bind_error
      · rw [sources, hfound] at hsources
        simp only [bind, Except.bind, hschema] at hsources
        cases hsources
  | ok found =>
    obtain ⟨entries, main⟩ := found
    have hdirectory := isDirectory_of_sources hsources
    obtain ⟨_, hfound, hrest⟩ := Result.bind_eq_ok.1 hsources
    obtain ⟨_, hschema, hpair⟩ := Result.bind_eq_ok.1 hrest
    cases Result.pure_eq_ok.1 hpair
    rw [hfound] at hentries
    refine hentries.bind ((hschema ▸ hmain entries).bind ?_)
    simp only
    split
    · rename_i after hsave
      exact (goes_save Document.main.isName hdirectory hsave).bind
        (goes_follow entries main (isDirectory_of_save hsave hdirectory))
    · rename_i failure hsave
      exact (goes_save_error Document.main.isName hdirectory hsave).bind_error

/-! ### Failures -/

/-- Whether a failure comes from a document that is read: it is missing, cannot be read, breaks its
format, holds an authoring error or lacks a definition. -/
def ofInput : Failure → Bool
  | .settings _ _ | .document _ | .definition _ => true
  | _ => false

theorem ofInput_of_save {path : String} {schema : Json} {failure : Failure}
    (h : save path schema tree = .error failure) : ofInput failure = false := by
  unfold save at h
  cases hwrite : tree.write path schema.pretty with
  | ok after => simp [hwrite, Except.mapError] at h
  | error fault =>
    rw [hwrite] at h
    cases h
    rfl

/-- The last part of a run reads nothing. -/
theorem ofInput_of_finish {entries : List Setting.Entry} {failure : Failure} {after : FileTree}
    (h : finish root entries tree = (.error failure, after)) : ofInput failure = false := by
  unfold finish at h
  split at h
  · cases h
  · rename_i hsave
    cases h
    exact ofInput_of_save hsave

/-- Behind the main schema, a run fails for what it reads only on the task schema, and then it writes
nothing more. -/
theorem task?_of_follow {entries : List Setting.Entry} {main : Json} {failure : Failure}
    {after : FileTree} (h : follow root entries main tree = (.error failure, after))
    (hinput : ofInput failure = true) : task? root main tree = .error failure ∧ after = tree := by
  unfold follow at h
  split at h
  · rename_i htask
    cases h
    exact ⟨htask, rfl⟩
  · rw [ofInput_of_finish h] at hinput
    cases hinput
  · split at h
    · rw [ofInput_of_finish h] at hinput
      cases hinput
    · rename_i hsave
      cases h
      rw [ofInput_of_save hsave] at hinput
      cases hinput

/-- The task schema depends on what is found at its path alone. -/
theorem task?_congr {main : Json} {other : FileTree}
    (h : other.find? (Layout.taskSchema root) = tree.find? (Layout.taskSchema root)) :
    task? root main other = task? root main tree := by
  have hfile : other.isFile (Layout.taskSchema root) = tree.isFile (Layout.taskSchema root) := by
    rw [FileTree.isFile, FileTree.isFile, h]
  have hjson : Loading.json other (Layout.taskSchema root)
      = Loading.json tree (Layout.taskSchema root) := by
    rw [Loading.json, Loading.json, Loading.text_congr h]
  rw [task?, task?, hfile, hjson]

theorem save_eq_ok {name : String} {schema : Json} {after : FileTree} (hname : Path.IsName name) :
    save (Layout.inSchema root name) schema tree = .ok after
      ↔ ∃ location, tree.locate (Layout.inSchema root name) = .ok location
        ∧ tree.at? location ≠ some .directory
        ∧ after = tree.put location (.file schema.pretty.toUTF8 (tree.executableAt location)) := by
  rw [save, Result.mapError_eq_ok, FileTree.write_eq_ok, Layout.inSchema,
    FileTree.locateFile_join hname]

/-- A run that fails for a document that it reads leaves all files as they were if the document is the
settings or the main schema. If it is the task schema, the main schema is up to date by then, and
everything else is as it was. -/
theorem files_of_input_failure {session later : Session} {failure : Failure}
    (h : (Run.schema root).run.run session = (.error failure, later))
    (hinput : ofInput failure = true) :
    (sources root session.tree = .error failure ∧ later.tree = session.tree)
    ∨ ∃ entries main location, sources root session.tree = .ok (entries, main)
      ∧ session.tree.isFile (Layout.taskSchema root) = true
      ∧ task? root main session.tree = .error failure
      ∧ session.tree.locate (Layout.mainSchema root) = .ok location
      ∧ later.tree = session.tree.put location
          (.file main.pretty.toUTF8 (session.tree.executableAt location))
      ∧ ∀ place, place ≠ location → later.tree.at? place = session.tree.at? place := by
  obtain ⟨hresult, htree⟩ := (goes_outcome root session.tree).eq rfl h
  have hrun : outcome root session.tree = (.error failure, later.tree) :=
    Prod.ext hresult.symm htree.symm
  unfold outcome at hrun
  split at hrun
  · rename_i hsources
    obtain ⟨hfailure, hlater⟩ := Prod.mk.inj hrun
    cases hfailure
    exact .inl ⟨hsources, hlater.symm⟩
  · rename_i entries main hsources
    split at hrun
    · rename_i mid hsave
      obtain ⟨htask, hlater⟩ := task?_of_follow hrun hinput
      obtain ⟨location, hlocate, hat, rfl⟩ := (save_eq_ok Document.main.isName).1 hsave
      have htaskPath : session.tree.locate (Layout.taskSchema root) ≠ .ok location :=
        FileTree.locate_join_ne Document.main.isName Document.task.isName (by decide) hlocate
      rw [task?_congr (FileTree.find?_put hat htaskPath)] at htask
      have hfile : session.tree.isFile (Layout.taskSchema root) = true := by
        by_contra hfile
        rw [task?, if_neg hfile] at htask
        cases htask
      refine .inr ⟨entries, main, location, hsources, hfile, htask, hlocate, hlater, ?_⟩
      intro place hplace
      rw [hlater, FileTree.at?_put_of_ne hplace]
    · rename_i hsave
      obtain ⟨hfailure, -⟩ := Prod.mk.inj hrun
      cases hfailure
      rw [ofInput_of_save hsave] at hinput
      cases hinput

/-- A project without settings whose task schema has no definitions. -/
def bareTask : FileTree where
  entries := [(["settings.toml"], .file "".toUTF8 false), (["schema"], .directory),
    (["schema", "mise.json"], .file "\x7b\"$defs\":\x7b\"settings\":\x7b\x7d\x7d\x7d".toUTF8 false),
    (["schema", "mise-task.json"], .file "\x7b\x7d".toUTF8 false)]
  current := []

/-- Its main schema with the settings in it. -/
def bareMain : Json :=
  .obj [("$defs", .obj [("settings", .obj [("properties", .obj [])])])]

/-- The project after the main schema is written. -/
def bareTaskLater : FileTree :=
  bareTask.put ["schema", "mise.json"] (.file bareMain.pretty.toUTF8 false)

theorem sources_bareTask : sources "." bareTask = .ok ([], bareMain) := by
  refine sources_eq_ok.2
    ⟨[], .obj [("$defs", .obj [("settings", .obj [])])], ?_, by cbv, ?_, rfl⟩
  · exact Loading.table_eq_ok.2 ⟨_, Loading.text_of_file rfl rfl, by cbv⟩
  · exact Loading.json_eq_ok.2 ⟨_, Loading.text_of_file rfl rfl, by cbv⟩

theorem outcome_bareTask : outcome "." bareTask
    = (.error (.definition (.missingDefinition "$defs")), bareTaskLater) := by
  have hsave : save (Layout.mainSchema ".") bareMain bareTask = .ok bareTaskLater :=
    (save_eq_ok Document.main.isName).2 ⟨["schema", "mise.json"], rfl, nofun, rfl⟩
  have hjson : Loading.json bareTaskLater (Layout.taskSchema ".") = .ok (.obj []) :=
    Loading.json_eq_ok.2 ⟨_, Loading.text_of_file rfl rfl, by cbv⟩
  have htask : task? "." bareMain bareTaskLater
      = .error (.definition (.missingDefinition "$defs")) := by
    have hfile : bareTaskLater.isFile (Layout.taskSchema ".") = true := rfl
    rw [task?, if_pos hfile, hjson]
    rfl
  unfold outcome
  rw [sources_bareTask]
  dsimp only
  rw [hsave]
  dsimp only
  rw [follow, htask]

theorem files_of_input_failure_bareTask : ∃ later : Session,
    (Run.schema ".").run.run { tree := bareTask }
        = (.error (.definition (.missingDefinition "$defs")), later)
      ∧ ofInput (.definition (.missingDefinition "$defs")) = true
      ∧ ((sources "." bareTask = .error (.definition (.missingDefinition "$defs"))
          ∧ later.tree = bareTask)
        ∨ ∃ entries main location, sources "." bareTask = .ok (entries, main)
          ∧ bareTask.isFile (Layout.taskSchema ".") = true
          ∧ task? "." main bareTask = .error (.definition (.missingDefinition "$defs"))
          ∧ bareTask.locate (Layout.mainSchema ".") = .ok location
          ∧ later.tree = bareTask.put location
              (.file main.pretty.toUTF8 (bareTask.executableAt location))
          ∧ ∀ place, place ≠ location → later.tree.at? place = bareTask.at? place) := by
  obtain ⟨stdout, log, hrun⟩ := goes_outcome "." bareTask { tree := bareTask } rfl
  rw [outcome_bareTask] at hrun
  exact ⟨_, hrun, rfl, files_of_input_failure hrun rfl⟩

/-- A run may fail for a document and yet have changed a file. -/
theorem not_files_kept_of_input_failure : ¬ ∀ (root : String) (session later : Session)
    (failure : Failure), (Run.schema root).run.run session = (.error failure, later) →
      ofInput failure = true → later.tree = session.tree := by
  intro hkept
  obtain ⟨stdout, log, hrun⟩ := goes_outcome "." bareTask { tree := bareTask } rfl
  rw [outcome_bareTask] at hrun
  have hsame : bareTaskLater = bareTask := hkept _ _ _ _ hrun rfl
  have hcontent := congrArg (·.read (Layout.mainSchema ".")) hsame
  exact absurd hcontent (by decide +kernel)

end Catalog.Schema
