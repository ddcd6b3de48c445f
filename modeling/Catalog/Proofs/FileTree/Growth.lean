import Catalog.Proofs.FileTree.Listing
import Catalog.Proofs.Path

/-!
Trees that grow by directories. A tree that has grown keeps every file and every way. Main statement: if
a file could be written at a path once some directories were there, then making the directories above the
path is enough.
-/

namespace Catalog.FileTree

variable {tree mid later : FileTree} {path above : String} {location place : Location}

/-- A tree grows to a later one that has the same entries and, where there was nothing, maybe
directories. -/
structure Grows (tree later : FileTree) : Prop where
  current : later.current = tree.current
  entry : ∀ place, later.at? place = tree.at? place
    ∨ tree.at? place = none ∧ later.at? place = some .directory

namespace Grows

theorem refl (tree : FileTree) : tree.Grows tree :=
  ⟨rfl, fun _ => .inl rfl⟩

theorem trans (h : tree.Grows mid) (h' : mid.Grows later) : tree.Grows later := by
  refine ⟨h'.current.trans h.current, fun place => ?_⟩
  rcases h.entry place with hsame | ⟨hnone, hdirectory⟩
  · rw [← hsame]
    exact h'.entry place
  · rcases h'.entry place with hsame | ⟨hmid, -⟩
    · exact .inr ⟨hnone, hsame.trans hdirectory⟩
    · rw [hdirectory] at hmid
      cases hmid

theorem directory (h : tree.Grows later) (hat : tree.at? place = some .directory) :
    later.at? place = some .directory := by
  rcases h.entry place with hsame | ⟨-, hdirectory⟩
  · rw [hsame, hat]
  · exact hdirectory

/-- Growing adds, changes and removes no file. -/
theorem file_iff (h : tree.Grows later) {content : ByteArray} {executable : Bool} :
    later.at? place = some (.file content executable)
      ↔ tree.at? place = some (.file content executable) := by
  rcases h.entry place with hsame | ⟨hnone, hdirectory⟩
  · rw [hsame]
  · simp [hnone, hdirectory]

/-- A directory of the later tree was there, or nothing was. -/
theorem directory_or_none (h : tree.Grows later) (hat : later.at? place = some .directory) :
    tree.at? place = some .directory ∨ tree.at? place = none := by
  rcases h.entry place with hsame | ⟨hnone, -⟩
  · exact .inl (hsame ▸ hat)
  · exact .inr hnone

/-! ### Ways -/

theorem foldlM_descend (h : tree.Grows later) : ∀ {segments : List String} {place : Location},
    segments.foldlM tree.descend place = .ok location →
      segments.foldlM later.descend place = .ok location
  | [], _, hway => hway
  | segment :: rest, place, hway => by
    rw [List.foldlM_cons, Result.bind_eq_ok] at hway ⊢
    obtain ⟨next, hnext, hrest⟩ := hway
    rw [descend_eq_ok] at hnext
    exact ⟨next, descend_eq_ok.2 ⟨h.directory hnext.1, hnext.2⟩, h.foldlM_descend hrest⟩

theorem locate (h : tree.Grows later) (hway : tree.locate path = .ok location) :
    later.locate path = .ok location := by
  rw [locate_eq_ok] at hway ⊢
  rw [h.current]
  exact ⟨hway.1, hway.2.1, h.foldlM_descend hway.2.2⟩

/-- A way of the later tree was there, or something was missing on it. -/
theorem foldlM_descend_or (h : tree.Grows later) :
    ∀ {segments : List String} {place : Location},
      segments.foldlM later.descend place = .ok location →
        segments.foldlM tree.descend place = .ok location
          ∨ segments.foldlM tree.descend place = .error .notFound
  | [], _, hway => .inl hway
  | segment :: rest, place, hway => by
    rw [List.foldlM_cons, Result.bind_eq_ok] at hway
    obtain ⟨next, hnext, hrest⟩ := hway
    rw [descend_eq_ok] at hnext
    rcases h.directory_or_none hnext.1 with hat | hat
    · rw [List.foldlM_cons, descend_eq_ok.2 ⟨hat, hnext.2⟩]
      exact h.foldlM_descend_or hrest
    · right
      rw [List.foldlM_cons, descend, hat]
      rfl

theorem locate_or (h : tree.Grows later) (hway : later.locate path = .ok location) :
    tree.locate path = .ok location ∨ tree.locate path = .error .notFound := by
  obtain ⟨hne, hlimit, hway⟩ := locate_eq_ok.1 hway
  rw [h.current] at hway
  rw [FileTree.locate, walk, if_neg hne, if_neg (Nat.not_lt.2 hlimit)]
  exact h.foldlM_descend_or hway

end Grows

/-! ### Making a directory -/

theorem at?_put_directory (h : tree.at? location = none) :
    (tree.put location .directory).at? location = some .directory := by
  have hne : tree.at? location ≠ some .directory := by simp [h]
  exact at?_put_self (ne_nil_of_at? hne)

theorem grows_put (h : tree.at? location = none) : tree.Grows (tree.put location .directory) := by
  refine ⟨rfl, fun place => ?_⟩
  by_cases hplace : place = location
  · subst hplace
    exact .inr ⟨h, at?_put_directory h⟩
  · exact .inl (at?_put_of_ne hplace)

/-- A directory that the later tree has may be made first. -/
theorem Grows.put (h : tree.Grows later) (hnone : tree.at? location = none)
    (hat : later.at? location = some .directory) : (tree.put location .directory).Grows later := by
  refine ⟨h.current, fun place => ?_⟩
  by_cases hplace : place = location
  · subst hplace
    rw [at?_put_directory hnone]
    exact .inl hat
  · rw [at?_put_of_ne hplace]
    exact h.entry place

theorem makeDirectory_eq_ok : tree.makeDirectory path = .ok later
    ↔ ∃ location, tree.locate path = .ok location ∧ tree.at? location = none
      ∧ later = tree.put location .directory := by
  unfold makeDirectory
  rw [Result.bind_eq_ok]
  refine exists_congr fun location => and_congr_right fun _ => ?_
  cases hat : tree.at? location with
  | none => simp only [Result.pure_eq_ok]; simp [eq_comm]
  | some entry => simp [throw, throwThe, MonadExceptOf.throw]

theorem ensureDirectory_eq_ok (h : tree.ensureDirectory path = .ok later) :
    tree.makeDirectory path = .ok later ∨ tree.isDirectory path = true ∧ later = tree := by
  unfold ensureDirectory at h
  split at h
  · rename_i hmake
    cases h
    exact .inl hmake
  · split at h
    · rename_i hdirectory
      cases h
      exact .inr ⟨hdirectory, rfl⟩
    · cases h

theorem grows_ensureDirectory (h : tree.ensureDirectory path = .ok later) : tree.Grows later := by
  rcases ensureDirectory_eq_ok h with hmake | ⟨-, rfl⟩
  · obtain ⟨location, -, hnone, rfl⟩ := makeDirectory_eq_ok.1 hmake
    exact grows_put hnone
  · exact .refl _

/-- A directory of the later tree can be made where its path leads somewhere already. -/
theorem Grows.exists_ensureDirectory (h : tree.Grows later)
    (hlater : later.isDirectory path = true) (hlocate : tree.locate path = .ok location) :
    ∃ mid, tree.ensureDirectory path = .ok mid ∧ tree.Grows mid ∧ mid.Grows later
      ∧ mid.isDirectory path = true := by
  obtain ⟨_, hlaterLocate, hlaterAt⟩ := isDirectory_iff.1 hlater
  cases (h.locate hlocate).symm.trans hlaterLocate
  rcases h.directory_or_none hlaterAt with hat | hat
  · have hdirectory : tree.isDirectory path = true := isDirectory_iff.2 ⟨location, hlocate, hat⟩
    refine ⟨tree, ?_, .refl tree, h, hdirectory⟩
    unfold ensureDirectory
    split
    · rename_i hmake
      obtain ⟨_, hsame, hnone, -⟩ := makeDirectory_eq_ok.1 hmake
      cases hsame.symm.trans hlocate
      rw [hat] at hnone
      cases hnone
    · rw [if_pos hdirectory]
  · have hmake : tree.makeDirectory path = .ok (tree.put location .directory) :=
      makeDirectory_eq_ok.2 ⟨location, hlocate, hat, rfl⟩
    have hgrows := grows_put hat
    refine ⟨_, by rw [ensureDirectory, hmake], hgrows, h.put hat hlaterAt, ?_⟩
    exact isDirectory_iff.2 ⟨location, hgrows.locate hlocate, at?_put_directory hat⟩

/-! ### The path above a path -/

/-- Where the path above leads, the empty one to the current directory, is a directory. -/
def Opens (tree : FileTree) (above : String) : Prop :=
  if above = "" then tree.at? tree.current = some .directory else tree.isDirectory above = true

theorem opens_iff (h : above ≠ "") : tree.Opens above ↔ tree.isDirectory above = true := by
  rw [Opens, if_neg h]

theorem foldlM_blanks {blanks : List String} (h : ∀ blank ∈ blanks, Path.IsBlank blank)
    (hat : tree.at? place = some .directory) : blanks.foldlM tree.descend place = .ok place := by
  induction blanks with
  | nil => rfl
  | cons blank rest ih =>
    obtain ⟨hblank, hrest⟩ := List.forall_mem_cons.1 h
    have hstay : tree.descend place blank = .ok place := by
      refine descend_eq_ok.2 ⟨hat, ?_, ?_⟩
      · rcases hblank with rfl | rfl <;> decide
      · rcases hblank with rfl | rfl <;> rfl
    rw [List.foldlM_cons, hstay]
    exact ih hrest

theorem eq_of_foldlM_blanks {blanks : List String} (h : ∀ blank ∈ blanks, Path.IsBlank blank)
    (hway : blanks.foldlM tree.descend place = .ok location) : location = place := by
  induction blanks generalizing place with
  | nil => exact (Result.pure_eq_ok.1 hway).symm
  | cons blank rest ih =>
    obtain ⟨hblank, hrest⟩ := List.forall_mem_cons.1 h
    rw [List.foldlM_cons, Result.bind_eq_ok] at hway
    obtain ⟨next, hnext, hway⟩ := hway
    obtain ⟨-, -, rfl⟩ := descend_eq_ok.1 hnext
    rw [ih hrest hway]
    rcases hblank with rfl | rfl <;> rfl

theorem isDirectory_root (tree : FileTree) : tree.isDirectory "/" = true :=
  isDirectory_iff.2 ⟨[], rfl, rfl⟩

/-- The way along a path is the way to the path above, and one name more. -/
theorem exists_front (h : Path.Continues path above) (hlimit : path.utf8ByteSize ≤ pathLimit) :
    ∃ front name, Path.segments path = front ++ [name] ∧ ∀ tree : FileTree, tree.Opens above
      ↔ ∃ place, front.foldlM tree.descend (if Path.isAbsolute path then [] else tree.current)
          = .ok place ∧ tree.at? place = some .directory := by
  cases h with
  | current name relative written =>
    refine ⟨[], name, written, fun tree => ?_⟩
    simp [Opens, relative]
  | root blanks name absolute hblanks written =>
    refine ⟨blanks, name, written, fun tree => ⟨fun _ => ⟨[], ?_, rfl⟩, fun _ => ?_⟩⟩
    · rw [absolute]
      exact foldlM_blanks hblanks rfl
    · exact isDirectory_root tree
  | directory _ blanks name ne trimmed shorter size start hblanks written =>
    refine ⟨Path.segments above ++ blanks, name, written, fun tree => ?_⟩
    rw [opens_iff ne, isDirectory_iff, ← start]
    simp only [locate_eq_ok, List.foldlM_append, Result.bind_eq_ok]
    constructor
    · rintro ⟨place, ⟨-, -, hway⟩, hat⟩
      exact ⟨place, ⟨place, hway, foldlM_blanks hblanks hat⟩, hat⟩
    · rintro ⟨place, ⟨turn, hway, hblank⟩, hat⟩
      rw [eq_of_foldlM_blanks hblanks hblank] at hat
      exact ⟨turn, ⟨ne, size.trans hlimit, hway⟩, hat⟩

/-- A path leads somewhere only if the path above leads to a directory. -/
theorem opens_of_locate (h : Path.Continues path above) (hlocate : tree.locate path = .ok location) :
    tree.Opens above := by
  obtain ⟨-, hlimit, hway⟩ := locate_eq_ok.1 hlocate
  obtain ⟨front, name, hsegments, hfront⟩ := exists_front h hlimit
  rw [hsegments, List.foldlM_append] at hway
  obtain ⟨place, hplace, hname⟩ := Result.bind_eq_ok.1 hway
  simp only [List.foldlM_cons, Result.bind_eq_ok, descend_eq_ok] at hname
  obtain ⟨_, ⟨hat, -⟩, -⟩ := hname
  exact (hfront tree).2 ⟨place, hplace, hat⟩

/-- A way of the later tree is there as soon as the path above leads to a directory. -/
theorem Grows.locate_of_opens (h : tree.Grows later) (hcontinues : Path.Continues path above)
    (hopens : tree.Opens above) (hlater : later.locate path = .ok location) :
    tree.locate path = .ok location := by
  obtain ⟨hne, hlimit, hway⟩ := locate_eq_ok.1 hlater
  obtain ⟨front, name, hsegments, hfront⟩ := exists_front hcontinues hlimit
  obtain ⟨place, hplace, hat⟩ := (hfront tree).1 hopens
  rw [hsegments, List.foldlM_append, h.current, h.foldlM_descend hplace, Result.ok_bind] at hway
  simp only [List.foldlM_cons, List.foldlM_nil, Result.bind_eq_ok, Result.pure_eq_ok,
    descend_eq_ok] at hway
  obtain ⟨_, ⟨-, hname, hnext⟩, rfl⟩ := hway
  refine locate_eq_ok.2 ⟨hne, hlimit, ?_⟩
  rw [hsegments, List.foldlM_append, hplace, Result.ok_bind]
  simp only [List.foldlM_cons, List.foldlM_nil, Result.bind_eq_ok, Result.pure_eq_ok,
    descend_eq_ok]
  exact ⟨_, ⟨hat, hname, hnext⟩, rfl⟩

/-! ### Making directories -/

/-- Where a relative path starts is a directory. -/
def Starts (tree : FileTree) (path : String) : Prop :=
  Path.isAbsolute path = true ∨ tree.at? tree.current = some .directory

/-- A path to a directory of the later tree is missing only if something is missing on the way to
it. -/
theorem Grows.missingFrom_eq (h : tree.Grows later) (hlater : later.isDirectory path = true)
    (hmissing : tree.isDirectory path = false) (hne : path ≠ "") (above : List String) :
    tree.missingFrom (path :: above) = match tree.locate path with
      | .ok _ => .ok [path]
      | .error _ => (tree.missingFrom above).map (path :: ·) := by
  obtain ⟨location, hlocate, hat⟩ := isDirectory_iff.1 hlater
  rw [missingFrom, if_neg hne]
  rcases h.locate_or hlocate with hway | hway
  · rcases h.directory_or_none hat with hdirectory | hnone
    · rw [isDirectory_iff.2 ⟨location, hway, hdirectory⟩] at hmissing
      cases hmissing
    · rw [makeDirectory_eq_ok.2 ⟨location, hway, hnone, rfl⟩, hway]
  · have hmake : tree.makeDirectory path = .error .notFound := by
      rw [makeDirectory, hway]
      rfl
    rw [hmake, hway]

theorem starts_above (hcontinues : Path.Continues path above) (hne : above ≠ "")
    (h : tree.Starts path) : tree.Starts above := by
  rw [Starts, hcontinues.isAbsolute_eq hne]
  exact h

/-- The current directory and the root are there. -/
theorem shorter_of_not_opens (h : Path.Continues path above) (hstarts : tree.Starts path)
    (hopens : ¬ tree.Opens above) : above ≠ "" ∧ above.length < path.length := by
  cases h with
  | current name relative =>
    rw [Starts, relative] at hstarts
    exact absurd (hstarts.resolve_left (by simp)) (by simpa [Opens] using hopens)
  | root => exact absurd (isDirectory_root tree) hopens
  | directory _ _ _ ne _ shorter => exact ⟨ne, shorter⟩

/-- A directory of the later tree can be made with the directories above it. -/
theorem Grows.exists_missingFrom (h : tree.Grows later) (bound : Nat)
    (hform : Path.IsAbove path) (hbound : path.length ≤ bound) (hstarts : tree.Starts path)
    (hlater : later.isDirectory path = true) : ∃ missing mid,
      tree.missingFrom (path :: Path.ancestorsUpTo bound path) = .ok missing
      ∧ missing.reverse.foldlM ensureDirectory tree = .ok mid ∧ tree.Grows mid ∧ mid.Grows later
      ∧ mid.isDirectory path = true := by
  induction bound generalizing path with
  | zero =>
    rcases hform with rfl | ⟨hne, -⟩
    · simp at hbound
    · simp at hbound
      exact absurd hbound hne
  | succ bound ih =>
    cases hmissing : tree.isDirectory path with
    | true =>
      exact ⟨[], tree, missingFrom_of_isDirectory hmissing _, rfl, .refl tree, h, hmissing⟩
    | false =>
      rcases hform with rfl | ⟨hne, htrimmed⟩
      · rw [isDirectory_root] at hmissing
        cases hmissing
      obtain ⟨above, hparent, hcontinues⟩ := Path.exists_parent? hne htrimmed
      obtain ⟨location, hlocate, -⟩ := isDirectory_iff.1 hlater
      rw [Path.ancestorsUpTo, hparent, h.missingFrom_eq hlater hmissing hne]
      dsimp only
      by_cases hopens : tree.Opens above
      · have hway := h.locate_of_opens hcontinues hopens hlocate
        obtain ⟨mid, hensure, hkept⟩ := h.exists_ensureDirectory hlater hway
        rw [hway]
        exact ⟨[path], mid, rfl, by simp [hensure], hkept⟩
      · have hway : tree.locate path = .error .notFound :=
          (h.locate_or hlocate).resolve_left fun hway => hopens (opens_of_locate hcontinues hway)
        obtain ⟨habove, hshorter⟩ := shorter_of_not_opens hcontinues hstarts hopens
        have hopensLater := (opens_iff habove).1 (opens_of_locate hcontinues hlocate)
        obtain ⟨missing, mid, hfound, hmade, hgrows, hmid, hdirectory⟩ :=
          ih (hcontinues.isAbove habove) (by omega) (starts_above hcontinues habove hstarts) hopensLater
        obtain ⟨last, hensure, hlast, hkept⟩ := hmid.exists_ensureDirectory hlater
          (hmid.locate_of_opens hcontinues ((opens_iff habove).2 hdirectory) hlocate)
        refine ⟨path :: missing, last, ?_, ?_, hgrows.trans hlast, hkept⟩
        · rw [hway]
          dsimp only
          rw [hfound]
          rfl
        · rw [List.reverse_cons, List.foldlM_append, hmade, Result.ok_bind]
          simp [hensure]

/-! ### Writing a file -/

/-- A file can be created or overwritten at a path: with some more directories, but not the one that the
path starts from, the path leads to a place that is no directory. -/
structure CanHold (tree : FileTree) (path : String) : Prop where
  starts : tree.Starts path
  place : ∃ later location, tree.Grows later ∧ later.locateFile path = .ok location
    ∧ later.at? location ≠ some .directory

/-- The directories to be created so that the path above a path leads to a directory. -/
def missingParents (tree : FileTree) (path : String) : Except FileFault (List String) :=
  match Path.parent? path with
  | some above => if above = "" then .ok [] else tree.missingDirectories above
  | none => .ok []

/-- The tree with the directories above a path. -/
def withParents (tree : FileTree) (path : String) : Except FileFault FileTree := do
  (← tree.missingParents path).foldlM ensureDirectory tree

theorem locateFile_eq_ok : tree.locateFile path = .ok location
    ↔ (Path.segments path).getLast? ≠ some "" ∧ tree.locate path = .ok location := by
  unfold locateFile
  by_cases hlast : (Path.segments path).getLast? = some ""
  · simp [hlast, throw, throwThe, MonadExceptOf.throw]
  · simp [hlast]

/-- A path to what is no directory ends in a name. -/
theorem isTrimmed_of_locateFile (h : tree.locateFile path = .ok location)
    (hat : tree.at? location ≠ some .directory) : path ≠ "" ∧ Path.IsTrimmed path := by
  obtain ⟨hlast, hlocate⟩ := locateFile_eq_ok.1 h
  obtain ⟨hne, -, hway⟩ := locate_eq_ok.1 hlocate
  refine ⟨hne, ?_⟩
  have hpath : path = String.ofList path.toList.reverse.reverse := by simp
  rw [Path.IsTrimmed, Path.trimRight.eq_def]
  split
  · rename_i rest hreverse
    rw [hreverse] at hpath
    rw [hpath, ← List.nil_append ('/' :: rest), Path.segments_reverse (by simp),
      List.getLast?_concat] at hlast
    exact absurd rfl hlast
  · rename_i rest hreverse
    rw [hreverse] at hpath
    rw [hpath, ← List.singleton_append, Path.segments_reverse (by simp), List.foldlM_append] at hway
    obtain ⟨place, -, hdot⟩ := Result.bind_eq_ok.1 hway
    simp only [List.foldlM_cons, List.foldlM_nil, Result.bind_eq_ok, Result.pure_eq_ok,
      descend_eq_ok] at hdot
    obtain ⟨_, ⟨hdirectory, -, rfl⟩, rfl⟩ := hdot
    exact absurd hdirectory hat
  · rfl

/-- Where a file can be written, making the directories above its path is enough. -/
theorem CanHold.exists_withParents (h : tree.CanHold path) : ∃ ready location,
    tree.withParents path = .ok ready ∧ tree.Grows ready ∧ ready.locateFile path = .ok location
      ∧ ready.at? location ≠ some .directory := by
  obtain ⟨hstarts, later, location, hgrows, hfile, hat⟩ := h
  obtain ⟨hne, htrimmed⟩ := isTrimmed_of_locateFile hfile hat
  obtain ⟨hlast, hlocate⟩ := locateFile_eq_ok.1 hfile
  obtain ⟨above, hparent, hcontinues⟩ := Path.exists_parent? hne htrimmed
  have hreach {ready : FileTree} (hready : ready.Grows later) (hopens : ready.Opens above) :
      ready.locateFile path = .ok location ∧ ready.at? location ≠ some .directory :=
    ⟨locateFile_eq_ok.2 ⟨hlast, hready.locate_of_opens hcontinues hopens hlocate⟩,
      fun hdirectory => hat (hready.directory hdirectory)⟩
  by_cases habove : above = ""
  · refine ⟨tree, location, ?_, .refl tree, hreach hgrows ?_⟩
    · simp [withParents, missingParents, hparent, habove]
    · by_contra hopens
      exact (shorter_of_not_opens hcontinues hstarts hopens).1 habove
  · have hopens := (opens_iff habove).1 (opens_of_locate hcontinues hlocate)
    obtain ⟨missing, ready, hfound, hmade, hready, hkept, hdirectory⟩ :=
      hgrows.exists_missingFrom above.length (hcontinues.isAbove habove) le_rfl
        (starts_above hcontinues habove hstarts) hopens
    refine ⟨ready, location, ?_, hready, hreach hkept ((opens_iff habove).2 hdirectory)⟩
    rw [withParents, missingParents, hparent]
    dsimp only
    rw [if_neg habove, missingDirectories, Path.ancestors, hfound]
    exact hmade

theorem grows_foldlM_ensureDirectory : ∀ {missing : List String} {tree : FileTree},
    missing.foldlM ensureDirectory tree = .ok later → tree.Grows later
  | [], _, h => Result.pure_eq_ok.1 h ▸ .refl _
  | first :: rest, _, h => by
    rw [List.foldlM_cons, Result.bind_eq_ok] at h
    obtain ⟨next, hnext, hrest⟩ := h
    exact (grows_ensureDirectory hnext).trans (grows_foldlM_ensureDirectory hrest)

theorem grows_withParents (h : tree.withParents path = .ok later) : tree.Grows later := by
  obtain ⟨missing, -, hmade⟩ := Result.bind_eq_ok.1 h
  exact grows_foldlM_ensureDirectory hmade

/-- A path that leads somewhere starts somewhere. -/
theorem starts_of_locate (h : tree.locate path = .ok location) : tree.Starts path := by
  obtain ⟨-, -, hway⟩ := locate_eq_ok.1 h
  rcases hsegments : Path.segments path with _ | ⟨first, rest⟩
  · simp [Path.segments, List.splitOnP_ne_nil] at hsegments
  · rw [hsegments, List.foldlM_cons, Result.bind_eq_ok] at hway
    obtain ⟨_, hfirst, -⟩ := hway
    have hat := (descend_eq_ok.1 hfirst).1
    by_cases habsolute : Path.isAbsolute path = true
    · exact .inl habsolute
    · rw [if_neg habsolute] at hat
      exact .inr hat

theorem mem_of_missingFrom {paths missing : List String} (h : tree.missingFrom paths = .ok missing) :
    ∀ path ∈ missing, path ∈ paths ∧ path ≠ "" := by
  induction paths generalizing missing with
  | nil =>
    cases h
    simp
  | cons first above ih =>
    rw [missingFrom] at h
    split at h
    · cases h
      simp
    · rename_i hne
      split at h
      · cases h
        simp [hne]
      · obtain ⟨found, hfound, rfl⟩ := Result.map_eq_ok.1 h
        intro path hpath
        rcases List.mem_cons.1 hpath with rfl | hpath
        · exact ⟨List.mem_cons_self, hne⟩
        · exact ⟨List.mem_cons_of_mem _ (ih hfound path hpath).1, (ih hfound path hpath).2⟩
      · split at h
        · cases h
          simp
        · cases h

theorem starts_of_ensureDirectory (h : tree.ensureDirectory path = .ok later) : tree.Starts path := by
  rcases ensureDirectory_eq_ok h with hmake | ⟨hdirectory, -⟩
  · obtain ⟨_, hlocate, -⟩ := makeDirectory_eq_ok.1 hmake
    exact starts_of_locate hlocate
  · obtain ⟨_, hlocate, -⟩ := isDirectory_iff.1 hdirectory
    exact starts_of_locate hlocate

/-- The directories that are missing above a path start where it does. -/
theorem isAbsolute_of_mem_missingParents (hne : path ≠ "") (htrimmed : Path.IsTrimmed path)
    {missing : List String} (h : tree.missingParents path = .ok missing) {directory : String}
    (hmem : directory ∈ missing) : Path.isAbsolute directory = Path.isAbsolute path := by
  obtain ⟨above, hparent, hcontinues⟩ := Path.exists_parent? hne htrimmed
  rw [missingParents, hparent] at h
  dsimp only at h
  split at h
  · cases h
    cases hmem
  · rename_i habove
    obtain ⟨found, hfound, rfl⟩ := Result.map_eq_ok.1 h
    obtain ⟨hmem, hdirectory⟩ := mem_of_missingFrom hfound directory (List.mem_reverse.1 hmem)
    rw [← hcontinues.isAbsolute_eq habove]
    rcases List.mem_cons.1 hmem with rfl | hmem
    · rfl
    · exact Path.isAbsolute_of_mem_ancestorsUpTo (hcontinues.isAbove habove) hmem hdirectory

/-- The directory that a path starts from is not made on the way. -/
theorem starts_of_withParents (h : tree.withParents path = .ok later)
    (hfile : later.locateFile path = .ok location) (hat : later.at? location ≠ some .directory) :
    tree.Starts path := by
  obtain ⟨hne, htrimmed⟩ := isTrimmed_of_locateFile hfile hat
  obtain ⟨missing, hmissing, hmade⟩ := Result.bind_eq_ok.1 h
  rcases missing with _ | ⟨first, rest⟩
  · cases Result.pure_eq_ok.1 hmade
    exact starts_of_locate (locateFile_eq_ok.1 hfile).2
  · rw [List.foldlM_cons, Result.bind_eq_ok] at hmade
    obtain ⟨next, hfirst, -⟩ := hmade
    rw [Starts, ← isAbsolute_of_mem_missingParents hne htrimmed hmissing List.mem_cons_self]
    exact starts_of_ensureDirectory hfirst

/-- Where the directories above a path can be made and the path then leads to no directory, a file can
be written. -/
theorem canHold_of_withParents (h : tree.withParents path = .ok later)
    (hfile : later.locateFile path = .ok location) (hat : later.at? location ≠ some .directory) :
    tree.CanHold path :=
  ⟨starts_of_withParents h hfile hat, later, location, grows_withParents h, hfile, hat⟩

theorem canHold_of_locateFile (h : tree.locateFile path = .ok location)
    (hat : tree.at? location ≠ some .directory) : tree.CanHold path :=
  ⟨starts_of_locate (locateFile_eq_ok.1 h).2, tree, location, .refl tree, h, hat⟩

/-- No file can be written where a directory is. -/
theorem not_canHold_of_isDirectory (h : tree.isDirectory path = true) : ¬ tree.CanHold path := by
  rintro ⟨-, later, location, hgrows, hfile, hat⟩
  obtain ⟨place, hlocate, hdirectory⟩ := isDirectory_iff.1 h
  cases (hgrows.locate hlocate).symm.trans (locateFile_eq_ok.1 hfile).2
  exact hat (hgrows.directory hdirectory)

/-- If a path leads somewhere, all paths above it lead to directories. -/
theorem isDirectory_of_mem_ancestors (hform : Path.IsAbove path)
    (h : tree.locate path = .ok location) (hmem : above ∈ Path.ancestors path) (hne : above ≠ "") :
    tree.isDirectory above = true := by
  refine Path.forall_mem_ancestorsUpTo (P := fun other => ∃ location, tree.locate other = .ok location)
    (Q := fun other => tree.isDirectory other = true) ?_ ?_ hform ⟨location, h⟩ above hmem hne
  · rintro path above hcontinues hne ⟨location, hlocate⟩
    exact (opens_iff hne).1 (opens_of_locate hcontinues hlocate)
  · intro other hdirectory
    obtain ⟨location, hlocate, -⟩ := isDirectory_iff.1 hdirectory
    exact ⟨location, hlocate⟩

/-- No file can be written below a file. -/
theorem not_canHold_of_isFile (hmem : above ∈ Path.ancestors path) (h : tree.isFile above = true) :
    ¬ tree.CanHold path := by
  rintro ⟨-, later, location, hgrows, hfile, hat⟩
  obtain ⟨content, executable, hfind⟩ := isFile_iff.1 h
  obtain ⟨place, hlocate, hplace⟩ := find?_eq_some.1 hfind
  have hopens := isDirectory_of_mem_ancestors (.inr (isTrimmed_of_locateFile hfile hat))
    (locateFile_eq_ok.1 hfile).2 hmem (locate_eq_ok.1 hlocate).1
  obtain ⟨_, hlater, hdirectory⟩ := isDirectory_iff.1 hopens
  cases (hgrows.locate hlocate).symm.trans hlater
  rw [hgrows.file_iff.2 hplace] at hdirectory
  cases hdirectory

/-- A later tree has a file with a text at a path, which can be executed if one was there that could,
and otherwise differs by new directories alone. -/
def Stores (tree later : FileTree) (path text : String) : Prop :=
  ∃ location, later.locate path = .ok location
    ∧ later.at? location = some (.file text.toUTF8 (tree.executableAt location))
    ∧ ∀ other ≠ location, later.at? other = tree.at? other
      ∨ tree.at? other = none ∧ later.at? other = some .directory

theorem Grows.stores (h : tree.Grows later) (hfile : later.locateFile path = .ok location)
    (hat : later.at? location ≠ some .directory) (text : String) :
    tree.Stores (later.put location (.file text.toUTF8 (later.executableAt location))) path text := by
  have hkept : later.executableAt location = tree.executableAt location := by
    unfold executableAt
    rcases h.entry location with hsame | ⟨-, hdirectory⟩
    · rw [hsame]
    · exact absurd hdirectory hat
  refine ⟨location, (locate_put hat).2 (locateFile_eq_ok.1 hfile).2, ?_, fun other hother => ?_⟩
  · rw [at?_put_self (ne_nil_of_at? hat), hkept]
  · rw [at?_put_of_ne hother]
    exact h.entry other

end Catalog.FileTree
