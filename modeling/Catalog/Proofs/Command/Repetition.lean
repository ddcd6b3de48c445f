import Catalog.Proofs.Command.Schema
import Catalog.Proofs.Json.Printer
import Catalog.Proofs.Setting.Schema

/-!
Bringing the schemas up to date a second time. Main statement: after a run that succeeds, another one
leaves all files as they are. It succeeds as well, unless the settings made the main schema deeper than
the reader of documents goes; then it fails on that schema.
-/

namespace Catalog.Schema

open Json (HasText Lasting Readable rereadFloat)

variable {root : String} {tree after : FileTree} {entries : List Setting.Entry} {main : Json}

/-! ### Written schemas -/

/-- A file holds the text of a schema. -/
def Holds (path : String) (schema : Json) (tree : FileTree) : Prop :=
  ∃ executable, tree.find? path = some (.file schema.pretty.toUTF8 executable)

theorem Holds.isFile {path : String} {schema : Json} (h : Holds path schema tree) :
    tree.isFile path = true := by
  obtain ⟨executable, hfound⟩ := h
  rw [FileTree.isFile, hfound]

theorem Holds.text {path : String} {schema : Json} (h : Holds path schema tree) :
    Loading.text tree path = .ok schema.pretty := by
  obtain ⟨executable, hfound⟩ := h
  rw [Loading.text_eq, hfound]
  dsimp only
  rw [Text.ofUtf8?_toUTF8]

section save

variable {name : String} {schema : Json} (hname : Path.IsName name)

include hname

theorem holds_of_save (h : save (Layout.inSchema root name) schema tree = .ok after) :
    Holds (Layout.inSchema root name) schema after := by
  obtain ⟨location, hlocate, hat, rfl⟩ := (save_eq_ok hname).1 h
  exact ⟨_, FileTree.find?_eq_some.2 ⟨location, (FileTree.locate_put hat).2 hlocate,
    FileTree.at?_put_self (FileTree.ne_nil_of_at? hat)⟩⟩

/-- Saving the same text again changes nothing. -/
theorem save_of_holds (h : Holds (Layout.inSchema root name) schema tree) :
    save (Layout.inSchema root name) schema tree = .ok tree := by
  obtain ⟨executable, hfound⟩ := h
  obtain ⟨location, hlocate, hat⟩ := FileTree.find?_eq_some.1 hfound
  have hdirectory : tree.at? location ≠ some .directory := by
    rw [hat]
    nofun
  have hexecutable : tree.executableAt location = executable := by
    rw [FileTree.executableAt, hat]
    cases executable <;> rfl
  refine (save_eq_ok hname).2 ⟨location, hlocate, hdirectory, ?_⟩
  rw [hexecutable, FileTree.put_eq_self (FileTree.ne_nil_of_at? hdirectory) hat]

/-- What is found under another name stays. -/
theorem find?_of_save {directory other : String} (hother : Path.IsName other) (hne : name ≠ other)
    (h : save (Layout.inSchema root name) schema tree = .ok after) :
    after.find? (Path.join directory other) = tree.find? (Path.join directory other) := by
  obtain ⟨location, hlocate, hat, rfl⟩ := (save_eq_ok hname).1 h
  exact FileTree.find?_put hat (FileTree.locate_join_ne hname hother hne hlocate)

end save

/-! ### A run that succeeds -/

/-- Writes the task schema, if there is one. -/
def saveTask (root : String) : Option Json → FileTree → Except Failure FileTree
  | none, tree => .ok tree
  | some task, tree => save (Layout.taskSchema root) task tree

theorem find?_of_saveTask {task : Option Json} {directory other : String} (hother : Path.IsName other)
    (hne : "mise-task.json" ≠ other) (h : saveTask root task tree = .ok after) :
    after.find? (Path.join directory other) = tree.find? (Path.join directory other) := by
  cases task with
  | none =>
    cases h
    rfl
  | some task => exact find?_of_save Document.task.isName hother hne h

theorem finish_eq_ok : finish root entries tree = (.ok (), after)
    ↔ save (Layout.rcSchema root) (Setting.rcSchema entries) tree = .ok after := by
  unfold finish
  cases save (Layout.rcSchema root) (Setting.rcSchema entries) tree <;> simp

theorem follow_eq_ok : follow root entries main tree = (.ok (), after) ↔ ∃ task mid,
    task? root main tree = .ok task ∧ saveTask root task tree = .ok mid
      ∧ save (Layout.rcSchema root) (Setting.rcSchema entries) mid = .ok after := by
  unfold follow
  rcases task? root main tree with failure | _ | task
  · simp
  · simp [saveTask, finish_eq_ok]
  · cases hsave : save (Layout.taskSchema root) task tree with
    | error failure => simp [saveTask, hsave]
    | ok mid => simp [saveTask, hsave, finish_eq_ok]

/-- A run succeeds if the sources are read, and the schemas are written one after the other. -/
theorem outcome_eq_ok : outcome root tree = (.ok (), after) ↔ ∃ entries main first task second,
    sources root tree = .ok (entries, main)
      ∧ save (Layout.mainSchema root) main tree = .ok first
      ∧ task? root main first = .ok task ∧ saveTask root task first = .ok second
      ∧ save (Layout.rcSchema root) (Setting.rcSchema entries) second = .ok after := by
  unfold outcome
  rcases sources root tree with failure | ⟨entries, main⟩
  · simp
  · cases hsave : save (Layout.mainSchema root) main tree with
    | error failure => simp [hsave, ← and_assoc]
    | ok first => simp [hsave, follow_eq_ok]

/-- What a run that succeeds leaves of the files that it starts from: the settings as they were, and the
texts of the schemas. -/
structure Written (root : String) (tree : FileTree) (entries : List Setting.Entry) (main : Json)
    (task : Option Json) (after : FileTree) : Prop where
  keepsSettings : after.find? (Layout.settings root) = tree.find? (Layout.settings root)
  holdsMain : Holds (Layout.mainSchema root) main after
  holdsTask : ∀ schema, task = some schema → Holds (Layout.taskSchema root) schema after
  keepsTask : task = none →
    after.find? (Layout.taskSchema root) = tree.find? (Layout.taskSchema root)
  holdsRc : Holds (Layout.rcSchema root) (Setting.rcSchema entries) after

theorem written_of_outcome (h : outcome root tree = (.ok (), after)) : ∃ entries main task,
    sources root tree = .ok (entries, main) ∧ task? root main tree = .ok task
      ∧ Written root tree entries main task after := by
  obtain ⟨entries, main, first, task, second, hsources, hfirst, htask, hsecond, hafter⟩ :=
    outcome_eq_ok.1 h
  -- All that is read and written lies under different names, so each step leaves the rest alone.
  have hrest : ∀ {directory other : String}, Path.IsName other → "mise-task.json" ≠ other →
      "miserc.json" ≠ other →
      after.find? (Path.join directory other) = first.find? (Path.join directory other) :=
    fun hother htaskName hrcName => (find?_of_save Document.rc.isName hother hrcName hafter).trans
      (find?_of_saveTask hother htaskName hsecond)
  have hmain : after.find? (Layout.mainSchema root) = first.find? (Layout.mainSchema root) :=
    hrest Document.main.isName (by decide) (by decide)
  have hplace : first.find? (Layout.taskSchema root) = tree.find? (Layout.taskSchema root) :=
    find?_of_save Document.main.isName Document.task.isName (by decide) hfirst
  have hlater : after.find? (Layout.taskSchema root) = second.find? (Layout.taskSchema root) :=
    find?_of_save Document.rc.isName Document.task.isName (by decide) hafter
  rw [task?_congr hplace] at htask
  refine ⟨entries, main, task, hsources, htask, ?_, ?_, ?_, ?_, holds_of_save Document.rc.isName hafter⟩
  · exact (hrest Document.settings.isName (by decide) (by decide)).trans
      (find?_of_save Document.main.isName Document.settings.isName (by decide) hfirst)
  · rw [Holds, hmain]
    exact holds_of_save Document.main.isName hfirst
  · rintro schema rfl
    rw [Holds, hlater]
    exact holds_of_save Document.task.isName hsecond
  · rintro rfl
    cases hsecond
    exact hlater.trans hplace

/-! ### A second run -/

/-- What is read from the document at a path has a property in all its scalars. -/
def ScalarsAt (path : String) (scalar : Json → Prop) (tree : FileTree) : Prop :=
  ∀ schema, Loading.json tree path = .ok schema → schema.Every scalar fun _ => True

/-- A scalar that is read, and then read back as it is. -/
def Kept (json : Json) : Prop :=
  Readable json ∧ Lasting rereadFloat json

theorem hasText_of_kept : ∀ json : Json, Kept json → HasText json
  | .int _, h => h.1
  | .float _, h => h.2.1
  | .null, _ | .bool _, _ | .str _, _ | .arr _, _ | .obj _, _ => trivial

/-- A scalar that, if it is a number, may be written as a whole number that fits 64 bits. Among them
negative zero alone is a float. -/
def Whole : Json → Prop
  | .float x => x = -0
  | _ => True

theorem lasting_of_whole : ∀ json : Json, Whole json → Lasting rereadFloat json
  | .float x, h => by
    have hzero : (-0 : Float).isFinite = true ∧ rereadFloat (-0) = -0 := by decide +kernel
    exact h ▸ hzero
  | .null, _ | .bool _, _ | .int _, _ | .str _, _ | .arr _, _ | .obj _, _ => trivial

theorem ScalarsAt.imp {path : String} {scalar scalar' : Json → Prop} (h : ScalarsAt path scalar tree)
    (hscalar : ∀ json, scalar json → scalar' json) : ScalarsAt path scalar' tree :=
  fun schema hschema => (h schema hschema).imp hscalar fun _ _ => trivial

theorem scalarsAt_of_json {path : String} {schema : Json} {scalar : Json → Prop}
    (hjson : Loading.json tree path = .ok schema) (h : schema.Every scalar fun _ => True) :
    ScalarsAt path scalar tree := by
  intro found hfound
  rw [hjson] at hfound
  cases hfound
  exact h

theorem scalarsAt_of_error {path : String} {fault : LoadFault} {scalar : Json → Prop}
    (h : Loading.json tree path = .error fault) : ScalarsAt path scalar tree := by
  intro found hfound
  rw [h] at hfound
  cases hfound

theorem sound_of_scalarsAt {path : String} {schema : Json}
    (hlasting : ScalarsAt path (Lasting rereadFloat) tree)
    (h : Loading.json tree path = .ok schema) : schema.Sound Kept Json.depthLimit := by
  obtain ⟨text, -, hparse⟩ := Loading.json_eq_ok.1 h
  have hsound := Json.sound_of_parse hparse
  exact ⟨Json.Every.combine (fun _ hkeys _ => hkeys) hsound.every (hlasting schema h),
    hsound.depth_le⟩

theorem json_of_holds {path : String} {schema : Json} (h : Holds path schema tree)
    (htext : schema.Every HasText fun _ => True) : Loading.json tree path
      = if schema.depth ≤ Json.depthLimit then .ok (schema.reread rereadFloat)
        else .error (.invalidJson path .tooDeep) := by
  rw [Loading.json, h.text]
  simp only [bind, Except.bind, Json.parse_pretty htext]
  split <;> rfl

/-- The sources give the same a second time, unless the main schema is too deep by then. -/
theorem sources_again (h : sources root tree = .ok (entries, main))
    (hlasting : ScalarsAt (Layout.mainSchema root) (Lasting rereadFloat) tree)
    (hsettings : after.find? (Layout.settings root) = tree.find? (Layout.settings root))
    (hmain : Holds (Layout.mainSchema root) main after) : sources root after
      = if main.depth ≤ Json.depthLimit then .ok (entries, main)
        else .error (.document (.invalidJson (Layout.mainSchema root) .tooDeep)) := by
  obtain ⟨document, schema, hdocument, hbuild, hschema, hmerge⟩ := sources_eq_ok.1 h
  obtain ⟨text, htext, hparse⟩ := Loading.table_eq_ok.1 hdocument
  have hevery := (sound_of_scalarsAt hlasting hschema).every
  have hjson := json_of_holds hmain (Setting.hasText_mergeProperties hmerge
    (hevery.imp hasText_of_kept fun _ _ => trivial) (Setting.hasText_properties hparse hbuild))
  have hagain : Loading.table after (Layout.settings root) = .ok document :=
    Loading.table_eq_ok.2 ⟨text, (Loading.text_congr hsettings).trans htext, hparse⟩
  by_cases hdepth : main.depth ≤ Json.depthLimit
  · rw [if_pos hdepth] at hjson ⊢
    exact sources_eq_ok.2 ⟨document, _, hagain, hbuild, hjson,
      Setting.mergeProperties_reread hmerge (hevery.imp (fun _ hkept => hkept.2) fun _ => id)⟩
  · rw [if_neg hdepth] at hjson ⊢
    have hentries : Schema.entries root after = .ok entries := by
      simp only [Schema.entries, Setting.load, hagain, hbuild, Except.mapError, bind, Except.bind]
    have hfails : Schema.main root entries after
        = .error (.document (.invalidJson (Layout.mainSchema root) .tooDeep)) := by
      simp only [Schema.main, hjson, Except.mapError, bind, Except.bind]
    simp only [sources, hentries, hfails, bind, Except.bind]

theorem task?_eq_some {task : Json} : task? root main tree = .ok (some task)
    ↔ tree.isFile (Layout.taskSchema root) = true ∧ ∃ schema,
      Loading.json tree (Layout.taskSchema root) = .ok schema
      ∧ Setting.syncDefinitions main schema = .ok task := by
  unfold task?
  by_cases hfile : tree.isFile (Layout.taskSchema root) = true
  · simp only [hfile, if_true, true_and, Result.bind_eq_ok, Result.mapError_eq_ok,
      Result.pure_eq_ok, Option.some.injEq, exists_eq_right]
  · simp [hfile, Result.pure_eq_ok]

/-- The task schema is the same a second time. -/
theorem task?_again {task : Json} (hsources : sources root tree = .ok (entries, main))
    (h : task? root main tree = .ok (some task))
    (hmain : ScalarsAt (Layout.mainSchema root) (Lasting rereadFloat) tree)
    (htask : ScalarsAt (Layout.taskSchema root) (Lasting rereadFloat) tree)
    (hheld : Holds (Layout.taskSchema root) task after) :
    task? root main after = .ok (some task) := by
  obtain ⟨_, schema, -, -, hschema, hmerge⟩ := sources_eq_ok.1 hsources
  obtain ⟨-, source, hsource, hsync⟩ := task?_eq_some.1 h
  have hschemaSound : schema.Sound Kept (125 + 1 + 1) := sound_of_scalarsAt hmain hschema
  have hsourceSound : source.Sound Kept (125 + 1 + 1) := sound_of_scalarsAt htask hsource
  have htaskSound : task.Sound Kept (125 + 1 + 1) := by
    refine Setting.sound_syncDefinitions hsync hsourceSound fun name hname definition hdefinition => ?_
    have hne : name ≠ "settings" := by
      rintro rfl
      revert hname
      decide
    rw [Setting.definition?_of_mergeProperties hmerge hne] at hdefinition
    exact Setting.sound_definition? hschemaSound hdefinition
  have hjson := json_of_holds hheld (htaskSound.every.imp hasText_of_kept fun _ _ => trivial)
  have hdepth : task.depth ≤ Json.depthLimit := htaskSound.depth_le
  rw [if_pos hdepth,
    Json.reread_of_lasting (htaskSound.every.imp (fun _ hkept => hkept.2) fun _ => id)] at hjson
  exact task?_eq_some.2 ⟨hheld.isFile, task, hjson, Setting.syncDefinitions_synced hsync⟩

/-- A second run finds everything as it would write it, unless it does not get past the main schema. -/
theorem outcome_again (h : outcome root tree = (.ok (), after))
    (hmain : ScalarsAt (Layout.mainSchema root) (Lasting rereadFloat) tree)
    (htask : ScalarsAt (Layout.taskSchema root) (Lasting rereadFloat) tree) :
    ∃ entries main, sources root tree = .ok (entries, main)
      ∧ Holds (Layout.mainSchema root) main after ∧ outcome root after
      = (if main.depth ≤ Json.depthLimit then .ok ()
          else .error (.document (.invalidJson (Layout.mainSchema root) .tooDeep)), after) := by
  obtain ⟨entries, main, task, hsources, hfound, hwritten⟩ := written_of_outcome h
  have hagain := sources_again hsources hmain hwritten.keepsSettings hwritten.holdsMain
  refine ⟨entries, main, hsources, hwritten.holdsMain, ?_⟩
  by_cases hdepth : main.depth ≤ Json.depthLimit
  · rw [if_pos hdepth] at hagain ⊢
    have hsave : task? root main after = .ok task ∧ saveTask root task after = .ok after := by
      cases task with
      | none => exact ⟨(task?_congr (hwritten.keepsTask rfl)).trans hfound, rfl⟩
      | some task =>
        have hheld := hwritten.holdsTask task rfl
        exact ⟨task?_again hsources hfound hmain htask hheld, save_of_holds Document.task.isName hheld⟩
    exact outcome_eq_ok.2 ⟨entries, main, after, task, after, hagain,
      save_of_holds Document.main.isName hwritten.holdsMain, hsave.1, hsave.2,
      save_of_holds Document.rc.isName hwritten.holdsRc⟩
  · rw [if_neg hdepth] at hagain ⊢
    unfold outcome
    rw [hagain]

/-- A run that succeeds leaves files that no further run changes. The next one succeeds as well if the
main schema is not nested too deep by then, and else it fails on that schema. -/
theorem schema_again {session later : Session}
    (h : (Run.schema root).run.run session = (.ok (), later))
    (hmain : ScalarsAt (Layout.mainSchema root) (Lasting rereadFloat) session.tree)
    (htask : ScalarsAt (Layout.taskSchema root) (Lasting rereadFloat) session.tree) :
    ∃ main, Holds (Layout.mainSchema root) main later.tree
      ∧ ∀ again : Session, again.tree = later.tree →
        ∃ last : Session, last.tree = later.tree ∧ (Run.schema root).run.run again
          = (if main.depth ≤ Json.depthLimit then .ok ()
              else .error (.document (.invalidJson (Layout.mainSchema root) .tooDeep)), last) := by
  obtain ⟨hresult, htree⟩ := (goes_outcome root session.tree).eq rfl h
  obtain ⟨_, main, -, hheld, hagain⟩ := outcome_again (Prod.ext hresult.symm htree.symm) hmain htask
  refine ⟨main, hheld, fun again hsame => ?_⟩
  obtain ⟨stdout, log, hrun⟩ := goes_outcome root later.tree again hsame
  rw [hagain] at hrun
  exact ⟨⟨later.tree, stdout, log⟩, rfl, hrun⟩

/-- Settings with one that is read early. -/
def colorSettings : String :=
  "[color]\ntype = \"Bool\"\ndescription = \"d\"\nrc = true"

/-- A project with these settings, and with a definition that the task schema has to share. -/
def sharedTask : FileTree where
  entries := [(["settings.toml"], .file colorSettings.toUTF8 false), (["schema"], .directory),
    (["schema", "mise.json"], .file (String.toUTF8
      "\x7b\"$defs\":\x7b\"settings\":\x7b\x7d,\"task\":\x7b\"type\":\"object\"\x7d\x7d\x7d") true),
    (["schema", "mise-task.json"], .file "\x7b\"$defs\":\x7b\x7d\x7d".toUTF8 false)]
  current := []

/-- Its setting. -/
def color : Setting.Entry :=
  .leaf {
    key := "color", shape := .boolean, default := some (.value (.bool false)), description := "d"
    docs := "d", deprecated := false, allowed := none, env := none, optional := false
    literal := none, hide := false, rc := true }

/-- Its main schema with the setting in it. -/
def colorMain : Json :=
  .obj [("$defs", .obj [("settings", .obj [("properties", .obj [("color", color.schema)])]),
    ("task", .obj [("type", .str "object")])])]

/-- Its task schema with the shared definition. -/
def colorTask : Json :=
  .obj [("$defs", .obj [("task", .obj [("type", .str "object")])])]

set_option maxRecDepth 2000 in
theorem parse_colorSettings : Toml.parse colorSettings = .ok [("color",
    .table [("type", .string "Bool"), ("description", .string "d"), ("rc", .boolean true)])] := by
  cbv

set_option maxRecDepth 2000 in
theorem json_main_sharedTask : Loading.json sharedTask (Layout.mainSchema ".")
    = .ok (.obj [("$defs", .obj [("settings", .obj []), ("task", .obj [("type", .str "object")])])]) :=
  Loading.json_eq_ok.2 ⟨_, Loading.text_of_file rfl rfl, by cbv⟩

theorem json_task_sharedTask :
    Loading.json sharedTask (Layout.taskSchema ".") = .ok (.obj [("$defs", .obj [])]) :=
  Loading.json_eq_ok.2 ⟨_, Loading.text_of_file rfl rfl, by cbv⟩

theorem exists_outcome_sharedTask : ∃ after, outcome "." sharedTask = (.ok (), after) := by
  have hsources : sources "." sharedTask = .ok ([color], colorMain) :=
    sources_eq_ok.2 ⟨_, _,
      Loading.table_eq_ok.2 ⟨_, Loading.text_of_file rfl rfl, parse_colorSettings⟩, by cbv,
      json_main_sharedTask, rfl⟩
  have hmain : save (Layout.mainSchema ".") colorMain sharedTask = .ok
      (sharedTask.put ["schema", "mise.json"] (.file colorMain.pretty.toUTF8 true)) :=
    (save_eq_ok Document.main.isName).2 ⟨_, rfl, by rintro ⟨⟩, rfl⟩
  have htask : task? "." colorMain sharedTask = .ok (some colorTask) :=
    task?_eq_some.2 ⟨rfl, _, json_task_sharedTask, rfl⟩
  rw [← task?_congr (find?_of_save Document.main.isName Document.task.isName (by decide) hmain)] at htask
  exact ⟨_, outcome_eq_ok.2 ⟨_, _, _, _, _, hsources, hmain, htask,
    (save_eq_ok Document.task.isName).2 ⟨["schema", "mise-task.json"], rfl, by rintro ⟨⟩, rfl⟩,
    (save_eq_ok Document.rc.isName).2 ⟨["schema", "miserc.json"], rfl, by rintro ⟨⟩, rfl⟩⟩⟩

theorem schema_again_sharedTask : ∃ later : Session,
    (Run.schema ".").run.run { tree := sharedTask } = (.ok (), later)
      ∧ ScalarsAt (Layout.mainSchema ".") (Lasting rereadFloat) sharedTask
      ∧ ScalarsAt (Layout.taskSchema ".") (Lasting rereadFloat) sharedTask
      ∧ ∃ main, Holds (Layout.mainSchema ".") main later.tree
        ∧ ∀ again : Session, again.tree = later.tree →
          ∃ last : Session, last.tree = later.tree ∧ (Run.schema ".").run.run again
            = (if main.depth ≤ Json.depthLimit then .ok ()
                else .error (.document (.invalidJson (Layout.mainSchema ".") .tooDeep)), last) := by
  obtain ⟨after, houtcome⟩ := exists_outcome_sharedTask
  obtain ⟨stdout, log, hrun⟩ := goes_outcome "." sharedTask { tree := sharedTask } rfl
  rw [houtcome] at hrun
  have hmain : ScalarsAt (Layout.mainSchema ".") (Lasting rereadFloat) sharedTask :=
    scalarsAt_of_json json_main_sharedTask (by simp [Json.Every, Json.EveryMember, Lasting])
  have htask : ScalarsAt (Layout.taskSchema ".") (Lasting rereadFloat) sharedTask :=
    scalarsAt_of_json json_task_sharedTask (by simp [Json.Every, Json.EveryMember])
  exact ⟨_, hrun, hmain, htask, schema_again hrun hmain htask⟩

/-- The settings of a project with one whose default is nested deep: lists in tables. -/
def deepSettings : List Char :=
  "[a]\ntype = \"Path\"\ndescription = \"d\"\ndefault".toList
    ++ (List.replicate 61 ['.', 'a']).flatten
    ++ '=' :: (List.replicate 62 '[' ++ List.replicate 62 ']')

/-- What they read as. -/
def deepDocument : Toml.Table :=
  [("a", .table [("type", .string "Path"), ("description", .string "d"),
    ("default", (fun value => .table [("a", value)])^[61]
      ((fun value => .array [value])^[61] (.array [])))])]

/-- A project with these settings. -/
def deep : FileTree where
  entries := [(["settings.toml"], .file (String.ofList deepSettings).toUTF8 false),
    (["schema"], .directory),
    (["schema", "mise.json"], .file "\x7b\"$defs\":\x7b\"settings\":\x7b\x7d\x7d\x7d".toUTF8 false)]
  current := []

set_option maxRecDepth 5000 in
theorem parse_deepSettings {text : String} (h : text.toList = deepSettings) :
    Toml.parse text = .ok deepDocument := by
  simp only [Toml.parse, Toml.parsePlain, Toml.parseStatements, h]
  cbv

theorem json_deep : Loading.json deep (Layout.mainSchema ".")
    = .ok (.obj [("$defs", .obj [("settings", .obj [])])]) :=
  Loading.json_eq_ok.2 ⟨_, Loading.text_of_file rfl rfl, by cbv⟩

/-- The main schema of the project gets deeper than the reader of documents goes. -/
theorem exists_sources_deep : ∃ entries main, sources "." deep = .ok (entries, main)
    ∧ Json.depthLimit < main.depth := by
  have hdocument : Loading.table deep (Layout.settings ".") = .ok deepDocument :=
    Loading.table_eq_ok.2 ⟨_, Loading.text_of_file rfl rfl, parse_deepSettings String.toList_ofList⟩
  exact ⟨_, _, sources_eq_ok.2 ⟨_, _, hdocument, rfl, json_deep, rfl⟩, by decide +kernel⟩

theorem exists_outcome_deep : ∃ after, outcome "." deep = (.ok (), after) := by
  obtain ⟨entries, main, hsources, -⟩ := exists_sources_deep
  have hmain : save (Layout.mainSchema ".") main deep = .ok
      (deep.put ["schema", "mise.json"] (.file main.pretty.toUTF8 false)) :=
    (save_eq_ok Document.main.isName).2 ⟨_, rfl, by rintro ⟨⟩, rfl⟩
  exact ⟨_, outcome_eq_ok.2 ⟨_, _, _, none, _, hsources, hmain, rfl, rfl,
    (save_eq_ok Document.rc.isName).2 ⟨["schema", "miserc.json"], rfl, by rintro ⟨⟩, rfl⟩⟩⟩

/-- A run need not succeed again, even if all numbers of the schemas are whole. -/
theorem not_succeeds_again : ¬ ∀ (root : String) (session later again : Session),
    (Run.schema root).run.run session = (.ok (), later) →
      ScalarsAt (Layout.mainSchema root) Whole session.tree →
      ScalarsAt (Layout.taskSchema root) Whole session.tree → again.tree = later.tree →
      ∃ last : Session, last.tree = later.tree ∧ (Run.schema root).run.run again = (.ok (), last) := by
  intro hagain
  obtain ⟨after, houtcome⟩ := exists_outcome_deep
  obtain ⟨found, deeper, hsources, hdepth⟩ := exists_sources_deep
  have hmain : ScalarsAt (Layout.mainSchema ".") Whole deep :=
    scalarsAt_of_json json_deep (by simp [Json.Every, Json.EveryMember])
  have htask : ScalarsAt (Layout.taskSchema ".") Whole deep := scalarsAt_of_error rfl
  obtain ⟨entries, main, hsame, -, hsecond⟩ :=
    outcome_again houtcome (hmain.imp lasting_of_whole) (htask.imp lasting_of_whole)
  rw [hsources] at hsame
  cases hsame
  rw [if_neg (Nat.not_le.2 hdepth)] at hsecond
  obtain ⟨stdout, log, hrun⟩ := goes_outcome "." deep { tree := deep } rfl
  rw [houtcome] at hrun
  obtain ⟨last, -, hlast⟩ := hagain "." _ _ { tree := after } hrun hmain htask rfl
  obtain ⟨hresult, -⟩ := (goes_outcome "." after).eq rfl hlast
  rw [hsecond] at hresult
  cases hresult

end Catalog.Schema
