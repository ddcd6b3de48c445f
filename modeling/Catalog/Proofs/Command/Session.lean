import Catalog.Command.Session
import Catalog.Proofs.FileTree

/-!
Runs by what they read and write alone. What was said and printed before decides neither the result of
a step nor the files that it leaves, so both follow from the files that the step finds.
-/

namespace Catalog

variable {α β : Type}

/-! ### Steps that read -/

/-- The result of a reading, whatever was said before it. -/
def Reading.Gives (reading : Reading α) (result : Except Failure α) : Prop :=
  ∀ log : Log, (reading.run.run log).1 = result

namespace Reading

theorem gives_pure (value : α) : Gives (pure value) (.ok value) :=
  fun _ => rfl

theorem gives_check {ε : Type} (failure : ε → Failure) (result : Except ε α) :
    Gives (check failure result) (result.mapError failure) := by
  intro log
  cases result <;> rfl

theorem run_bind (reading : Reading α) (next : α → Reading β) (log : Log) :
    (reading >>= next).run.run log = match reading.run.run log with
      | (.ok value, mid) => (next value).run.run mid
      | (.error failure, mid) => (.error failure, mid) := by
  rw [ExceptT.run_bind, StateT.run_bind]
  rcases reading.run.run log with ⟨_ | _, _⟩ <;> rfl

theorem gives_bind {reading : Reading α} {next : α → Reading β} {result : Except Failure α}
    {results : α → Except Failure β} (h : Gives reading result)
    (hnext : ∀ value, Gives (next value) (results value)) :
    Gives (reading >>= next) (result >>= results) := by
  intro log
  rw [← h log, run_bind]
  rcases reading.run.run log with ⟨failure | value, mid⟩
  · rfl
  · exact hnext value mid

/-- Speaking first does not change the result. -/
theorem gives_say {speak : Log → Log} {next : Unit → Reading α} {result : Except Failure α}
    (h : Gives (next ()) result) : Gives (say speak >>= next) result :=
  fun log => h (speak log)

end Reading

/-! ### Steps of a session -/

/-- A run goes from the files that it finds to a result and to the files that it leaves, whatever was
said and printed before it. -/
def Run.Goes (run : Run α) (tree : FileTree) (result : Except Failure α) (after : FileTree) : Prop :=
  ∀ session : Session, session.tree = tree →
    ∃ stdout log, run.run.run session = (result, ⟨after, stdout, log⟩)

namespace Run

variable {tree mid after : FileTree} {run : Run α} {result : Except Failure α}

/-- A run has one result. -/
theorem Goes.eq (h : run.Goes tree result after) {session end_ : Session} {found : Except Failure α}
    (htree : session.tree = tree) (hrun : run.run.run session = (found, end_)) :
    found = result ∧ end_.tree = after := by
  obtain ⟨stdout, log, hgoes⟩ := h session htree
  rw [hgoes] at hrun
  cases hrun
  exact ⟨rfl, rfl⟩

theorem run_bind (run : Run α) (next : α → Run β) (session : Session) :
    (run >>= next).run.run session = match run.run.run session with
      | (.ok value, mid) => (next value).run.run mid
      | (.error failure, mid) => (.error failure, mid) := by
  rw [ExceptT.run_bind, StateT.run_bind]
  rcases run.run.run session with ⟨_ | _, _⟩ <;> rfl

theorem Goes.bind {next : α → Run β} {value : α} {result : Except Failure β}
    (h : run.Goes tree (.ok value) mid) (hnext : (next value).Goes mid result after) :
    (run >>= next).Goes tree result after := by
  intro session htree
  obtain ⟨stdout, log, hrun⟩ := h session htree
  rw [run_bind, hrun]
  exact hnext _ rfl

/-- Nothing comes after a failure. -/
theorem Goes.bind_error {next : α → Run β} {failure : Failure}
    (h : run.Goes tree (.error failure) after) : (run >>= next).Goes tree (.error failure) after := by
  intro session htree
  obtain ⟨stdout, log, hrun⟩ := h session htree
  rw [run_bind, hrun]
  exact ⟨stdout, log, rfl⟩

theorem goes_say (speak : Log → Log) : (say speak).Goes tree (.ok ()) tree := by
  rintro session rfl
  exact ⟨_, _, rfl⟩

theorem run_get (session : Session) : (get : Run Session).run.run session = (.ok session, session) :=
  rfl

theorem run_look (reading : FileTree → Reading α) (session : Session) :
    (look reading).run.run session = (((reading session.tree).run.run session.log).1,
      { session with log := ((reading session.tree).run.run session.log).2 }) := by
  rw [look, run_bind, run_get]
  dsimp only
  cases hrun : (reading session.tree).run.run session.log with
  | mk result log =>
    have hread : (reading session.tree).run session.log = (result, log) := hrun
    rw [hread]
    cases result <;> rfl

/-- Reading leaves the files as they are. -/
theorem goes_look {reading : FileTree → Reading α} (h : (reading tree).Gives result) :
    (look reading).Goes tree result tree := by
  rintro session rfl
  rw [← h session.log, run_look]
  exact ⟨_, _, rfl⟩

/-- Writing a file where its directory is there makes no directory. -/
theorem writeFile_join {directory name text : String} (hdirectory : Path.EndsPlain directory)
    (hname : Path.IsName name) (h : tree.isDirectory directory = true) :
    writeFile (Path.join directory name) text = (do
      makeDirectories directory
      change (.write (Path.join directory name)) (·.write (Path.join directory name) text)
      say (·.info s!"wrote {Path.join directory name}")) := by
  have hne : directory ≠ "" := by
    rintro rfl
    obtain ⟨front, last, hlist, -⟩ := hdirectory
    simp at hlist
  unfold writeFile
  rw [Path.parent?_join hdirectory hname]
  simp only [if_pos hne]

theorem run_change (failure : FileFault → Failure) (edit : FileTree → Except FileFault FileTree)
    (session : Session) : (change failure edit).run.run session = match edit session.tree with
      | .ok tree => (.ok (), { session with tree })
      | .error fault => (.error (failure fault), session) := by
  rw [change, run_bind, run_get]
  dsimp only
  cases edit session.tree <;> rfl

theorem goes_change {failure : FileFault → Failure} {edit : FileTree → Except FileFault FileTree}
    (h : edit tree = .ok after) : (change failure edit).Goes tree (.ok ()) after := by
  rintro session rfl
  exact ⟨session.stdout, session.log, by rw [run_change, h]⟩

theorem goes_change_error {failure : FileFault → Failure}
    {edit : FileTree → Except FileFault FileTree} {fault : FileFault} (h : edit tree = .error fault) :
    (change failure edit).Goes tree (.error (failure fault)) tree := by
  rintro session rfl
  exact ⟨session.stdout, session.log, by rw [run_change, h]⟩

/-- A directory that is there is not made. -/
theorem goes_makeDirectories {directory : String} (h : tree.isDirectory directory = true) :
    (makeDirectories directory).Goes tree (.ok ()) tree := by
  rintro session rfl
  refine ⟨session.stdout, session.log, ?_⟩
  rw [makeDirectories, run_bind, run_get]
  dsimp only
  rw [FileTree.missingDirectories_of_isDirectory h]
  rfl

section writeFile

variable {directory name text : String} (hdirectory : Path.EndsPlain directory)
  (hname : Path.IsName name) (h : tree.isDirectory directory = true)

include hdirectory hname h

theorem goes_writeFile (hwrite : tree.write (Path.join directory name) text = .ok after) :
    (writeFile (Path.join directory name) text).Goes tree (.ok ()) after := by
  rw [writeFile_join hdirectory hname h]
  exact (goes_makeDirectories h).bind ((goes_change hwrite).bind (goes_say _))

theorem goes_writeFile_error {fault : FileFault}
    (hwrite : tree.write (Path.join directory name) text = .error fault) :
    (writeFile (Path.join directory name) text).Goes tree
      (.error (.write (Path.join directory name) fault)) tree := by
  rw [writeFile_join hdirectory hname h]
  exact (goes_makeDirectories h).bind (goes_change_error hwrite).bind_error

end writeFile

end Run

end Catalog
