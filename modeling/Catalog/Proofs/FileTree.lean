import Catalog.Layout
import Catalog.Loading
import Catalog.Proofs.Path.Segments
import Catalog.Proofs.Result

/-!
What writing a file changes. A path leads to the same location before and after, since only directories
lead on; so every other file keeps its text, and the directories above a file that is there need not be
made.
-/

namespace Catalog

namespace Path

/-- A text that names one entry of a directory. -/
abbrev IsName (name : String) : Prop :=
  name ≠ "" ∧ name ≠ "." ∧ name ≠ ".." ∧ '/' ∉ name.toList

/-- The last segment of a name in a directory is that name. -/
theorem exists_segments_join (directory : String) {name : String} (h : '/' ∉ name.toList) :
    ∃ front, segments (join directory name) = front ++ [name] := by
  unfold join
  split
  · exact ⟨[], segments_of_noSlash h⟩
  · split
    · rename_i hslash
      obtain ⟨front, hfront⟩ := List.getLast?_eq_some_iff.1 hslash
      have hdirectory : directory = String.ofList front ++ "/" := by
        rw [← String.toList_inj, hfront]
        simp
      rw [hdirectory]
      exact ⟨_, segments_append_slash _ _ h⟩
    · exact ⟨_, segments_append_slash _ _ h⟩

/-- A text whose path can be told from what stands behind it: it ends neither in a slash nor in a dot. -/
abbrev EndsPlain (path : String) : Prop :=
  ∃ front last, path.toList = front ++ [last] ∧ last ≠ '/' ∧ last ≠ '.'

theorem trimRight_of_plain {c : Char} (hslash : c ≠ '/') (hdot : c ≠ '.') (s : List Char) :
    trimRight (c :: s) = c :: s := by
  unfold trimRight
  split <;> simp_all

theorem trimRight_slash (s : List Char) : trimRight ('/' :: s) = trimRight s := by
  rw [trimRight]

theorem join_of_endsPlain {directory : String} (h : EndsPlain directory) (name : String) :
    join directory name = directory ++ "/" ++ name := by
  obtain ⟨front, last, hlist, hslash, -⟩ := h
  have hne : directory ≠ "" := by
    rintro rfl
    simp at hlist
  simp [join, hne, hlist, hslash]

theorem segments_join {directory name : String} (h : EndsPlain directory) (hname : '/' ∉ name.toList) :
    segments (join directory name) = segments directory ++ [name] := by
  rw [join_of_endsPlain h, segments_append_slash _ _ hname]

/-- The reverse of a name is cut nowhere. -/
theorem trimRight_reverse_name {name : String} (h : IsName name) (above : List Char) :
    trimRight (name.toList.reverse ++ '/' :: above) = name.toList.reverse ++ '/' :: above := by
  obtain ⟨hempty, hdot, -, hslash⟩ := h
  rcases hreverse : name.toList.reverse with _ | ⟨last, front⟩
  · rw [List.reverse_eq_nil_iff, String.toList_eq_nil_iff] at hreverse
    exact absurd hreverse hempty
  · have hmem : ∀ c ∈ last :: front, c ≠ '/' := by
      rintro c hc rfl
      rw [← hreverse, List.mem_reverse] at hc
      exact hslash hc
    rw [List.cons_append, trimRight.eq_def]
    split
    · rename_i heq
      cases heq
      exact absurd rfl (hmem '/' List.mem_cons_self)
    · rename_i rest heq
      -- A slash behind a last dot would have to end the name, which then is a single dot.
      obtain ⟨rfl, hbehind⟩ := List.cons.inj heq
      rcases front with _ | ⟨c, front⟩
      · refine absurd (String.toList_inj.1 ?_) hdot
        rw [← List.reverse_reverse name.toList, hreverse]
        rfl
      · obtain ⟨rfl, -⟩ := List.cons.inj hbehind
        exact absurd rfl (hmem '/' (by simp))
    · rfl

/-- The directory above a name in a directory is that directory. -/
theorem parent?_join {directory name : String} (h : EndsPlain directory) (hname : IsName name) :
    parent? (join directory name) = some directory := by
  rw [join_of_endsPlain h]
  obtain ⟨front, last, hlist, hslash, hdot⟩ := h
  have hreverse : (directory ++ "/" ++ name).toList.reverse
      = name.toList.reverse ++ '/' :: directory.toList.reverse := by simp
  have hdrop : (name.toList.reverse ++ '/' :: directory.toList.reverse).dropWhile (· ≠ '/')
      = '/' :: directory.toList.reverse :=
    Text.dropWhile_ne (by simpa using hname.2.2.2) _
  have htrim : trimRight ('/' :: directory.toList.reverse) = directory.toList.reverse := by
    rw [trimRight_slash, hlist, List.reverse_append, List.reverse_singleton, List.singleton_append,
      trimRight_of_plain hslash hdot]
  unfold parent?
  rw [hreverse, trimRight_reverse_name hname]
  split
  · rename_i heq
    simp at heq
  · rw [hdrop, htrim]
    split
    · rename_i heq
      simp [hlist] at heq
    · simp

theorem endsPlain_join (directory : String) {name : String} (h : EndsPlain name) :
    EndsPlain (join directory name) := by
  obtain ⟨front, last, hlist, hplain⟩ := h
  unfold join
  split
  · exact ⟨front, last, hlist, hplain⟩
  · split
    · exact ⟨directory.toList ++ front, last, by simp [hlist], hplain⟩
    · exact ⟨directory.toList ++ '/' :: front, last, by simp [hlist], hplain⟩

theorem advance_name {name : String} (h : IsName name) (place : List String) :
    advance place name = place ++ [name] := by
  simp [advance, h.1, h.2.1, h.2.2.1]

end Path

namespace FileTree

variable {tree : FileTree} {path : String} {location place : Location} {entry : FileEntry}

/-! ### Entries -/

theorem at?_put_of_ne (h : place ≠ location) : (tree.put location entry).at? place = tree.at? place := by
  unfold at? put
  rw [Keyed.get?_put_of_ne h.symm]

theorem at?_put_self (h : location ≠ []) : (tree.put location entry).at? location = some entry := by
  simp [at?, put, h]

theorem put_eq_self (h : location ≠ []) (hentry : tree.at? location = some entry) :
    tree.put location entry = tree := by
  rw [at?, if_neg h] at hentry
  rw [put, Keyed.put_eq_self hentry]

/-- There is no way through a location that holds no directory. -/
theorem ne_nil_of_at? (h : tree.at? location ≠ some .directory) : location ≠ [] := by
  rintro rfl
  exact h rfl

/-! ### Ways -/

theorem descend_eq_ok {segment : String} :
    tree.descend place segment = .ok location ↔ tree.at? place = some .directory
      ∧ segment.utf8ByteSize ≤ nameLimit ∧ location = Path.advance place segment := by
  unfold descend
  cases tree.at? place with
  | none => simp
  | some found =>
    cases found with
    | file => simp
    | directory =>
      by_cases hlimit : nameLimit < segment.utf8ByteSize
      · simp [hlimit, Nat.not_le.2 hlimit]
      · simp [hlimit, Nat.le_of_not_lt hlimit, eq_comm]

/-- A file in the place of no directory neither opens nor closes a way. -/
theorem at?_put_eq_directory {content : ByteArray} {executable : Bool}
    (h : tree.at? location ≠ some .directory) :
    (tree.put location (.file content executable)).at? place = some .directory
      ↔ tree.at? place = some .directory := by
  by_cases hplace : place = location
  · subst hplace
    rw [at?_put_self (ne_nil_of_at? h)]
    simp [h]
  · rw [at?_put_of_ne hplace]

theorem foldlM_descend_put {content : ByteArray} {executable : Bool} {target : Location}
    (h : tree.at? location ≠ some .directory) : ∀ (segments : List String) (place : Location),
      segments.foldlM (tree.put location (.file content executable)).descend place = .ok target
        ↔ segments.foldlM tree.descend place = .ok target
  | [], place => by simp
  | segment :: rest, place => by
    simp only [List.foldlM_cons, Result.bind_eq_ok, descend_eq_ok, at?_put_eq_directory h,
      foldlM_descend_put h rest]

theorem locate_eq_ok : tree.locate path = .ok location ↔ path ≠ "" ∧ path.utf8ByteSize ≤ pathLimit
    ∧ (Path.segments path).foldlM tree.descend (if Path.isAbsolute path then [] else tree.current)
      = .ok location := by
  unfold locate walk
  by_cases hempty : path = ""
  · simp [hempty]
  · by_cases hlimit : pathLimit < path.utf8ByteSize
    · simp [hempty, hlimit, Nat.not_le.2 hlimit]
    · simp [hempty, hlimit, Nat.le_of_not_lt hlimit]

theorem locate_put {content : ByteArray} {executable : Bool} {target : Location}
    (h : tree.at? location ≠ some .directory) :
    (tree.put location (.file content executable)).locate path = .ok target
      ↔ tree.locate path = .ok target := by
  rw [locate_eq_ok, locate_eq_ok, foldlM_descend_put h]
  rfl

/-- A path to another location finds there what it found before. -/
theorem find?_put {content : ByteArray} {executable : Bool}
    (h : tree.at? location ≠ some .directory) (hpath : tree.locate path ≠ .ok location) :
    (tree.put location (.file content executable)).find? path = tree.find? path := by
  unfold find?
  cases hbefore : tree.locate path with
  | ok target =>
    rw [(locate_put h).2 hbefore]
    refine at?_put_of_ne ?_
    rintro rfl
    exact hpath hbefore
  | error fault =>
    cases hafter : (tree.put location (.file content executable)).locate path with
    | ok target =>
      rw [(locate_put h).1 hafter] at hbefore
      cases hbefore
    | error other => rfl

theorem find?_eq_some : tree.find? path = some entry
    ↔ ∃ location, tree.locate path = .ok location ∧ tree.at? location = some entry := by
  unfold find?
  cases tree.locate path <;> simp

/-- Writing a file removes no directory. -/
theorem isDirectory_put {content : ByteArray} {executable : Bool}
    (h : tree.at? location ≠ some .directory) (hpath : tree.isDirectory path = true) :
    (tree.put location (.file content executable)).isDirectory path = true := by
  rw [isDirectory, find?_put h]
  · exact hpath
  · intro hlocate
    rw [isDirectory, find?, hlocate] at hpath
    simp_all

/-! ### A name in a directory -/

/-- Where a path ends in a name, its location does, and what is above is a directory. -/
theorem getLast?_of_locate_join {directory name : String} (hname : Path.IsName name)
    (h : tree.locate (Path.join directory name) = .ok location) :
    location.getLast? = some name := by
  obtain ⟨front, hsegments⟩ := Path.exists_segments_join directory hname.2.2.2
  obtain ⟨-, -, h⟩ := locate_eq_ok.1 h
  rw [hsegments, List.foldlM_append] at h
  obtain ⟨place, -, h⟩ := Result.bind_eq_ok.1 h
  simp only [List.foldlM_cons, List.foldlM_nil, Result.bind_eq_ok, Result.pure_eq_ok,
    descend_eq_ok] at h
  obtain ⟨_, ⟨-, -, rfl⟩, rfl⟩ := h
  rw [Path.advance_name hname, List.getLast?_concat]

/-- Paths that end in different names lead to different locations. -/
theorem locate_join_ne {directory other name differing : String} (hname : Path.IsName name)
    (hdiffering : Path.IsName differing) (hne : name ≠ differing)
    (h : tree.locate (Path.join directory name) = .ok location) :
    tree.locate (Path.join other differing) ≠ .ok location := by
  intro hother
  have hlast := getLast?_of_locate_join hname h
  rw [getLast?_of_locate_join hdiffering hother] at hlast
  exact hne (Option.some.inj hlast).symm

/-- A path to a name in a directory leads through that directory. -/
theorem exists_of_locate_join {directory name : String} (h : Path.EndsPlain directory)
    (hname : Path.IsName name) (hlocate : tree.locate (Path.join directory name) = .ok location) :
    ∃ place, tree.locate directory = .ok place ∧ tree.at? place = some .directory
      ∧ location = place ++ [name] := by
  obtain ⟨-, hlimit, hfold⟩ := locate_eq_ok.1 hlocate
  rw [Path.segments_join h hname.2.2.2, List.foldlM_append] at hfold
  obtain ⟨place, hplace, hlast⟩ := Result.bind_eq_ok.1 hfold
  simp only [List.foldlM_cons, List.foldlM_nil, Result.bind_eq_ok, Result.pure_eq_ok,
    descend_eq_ok] at hlast
  obtain ⟨_, ⟨hdirectory, -, rfl⟩, rfl⟩ := hlast
  refine ⟨place, locate_eq_ok.2 ⟨?_, ?_, ?_⟩, hdirectory, Path.advance_name hname place⟩
  · obtain ⟨front, last, hlist, -⟩ := h
    rintro rfl
    simp at hlist
  · rw [Path.join_of_endsPlain h, String.utf8ByteSize_append, String.utf8ByteSize_append] at hlimit
    omega
  · rw [← hplace, Path.join_of_endsPlain h]
    obtain ⟨front, last, hlist, -⟩ := h
    cases front <;> simp [Path.isAbsolute, hlist]

/-- Nothing is made where a directory is. -/
theorem missingFrom_of_isDirectory (h : tree.isDirectory path = true) (above : List String) :
    tree.missingFrom (path :: above) = .ok [] := by
  unfold missingFrom
  split
  · rfl
  · have hmake : tree.makeDirectory path = .error .fileExists := by
      unfold isDirectory find? at h
      unfold makeDirectory
      cases hlocate : tree.locate path with
      | error fault => simp [hlocate] at h
      | ok place =>
        rw [hlocate] at h
        cases hat : tree.at? place with
        | none => simp [hat] at h
        | some entry => simp [bind, Except.bind, hat, throw, throwThe, MonadExceptOf.throw]
    rw [hmake]

theorem missingDirectories_of_isDirectory (h : tree.isDirectory path = true) :
    tree.missingDirectories path = .ok [] := by
  rw [missingDirectories, missingFrom_of_isDirectory h]
  rfl

/-- Whether the file at a location can be executed. -/
def executableAt (tree : FileTree) (location : Location) : Bool :=
  tree.at? location matches some (.file _ true)

/-- A written file keeps the mark that it can be executed. -/
theorem write_eq_ok {after : FileTree} {text : String} : tree.write path text = .ok after
    ↔ ∃ location, tree.locateFile path = .ok location ∧ tree.at? location ≠ some .directory
      ∧ after = tree.put location (.file text.toUTF8 (tree.executableAt location)) := by
  unfold write
  rw [Result.bind_eq_ok]
  refine exists_congr fun location => and_congr_right fun _ => ?_
  unfold executableAt
  cases hat : tree.at? location with
  | none => simp only [Result.pure_eq_ok]; simp [eq_comm]
  | some entry =>
    cases entry with
    | directory => simp [throw, throwThe, MonadExceptOf.throw]
    | file content executable =>
      simp only [Result.pure_eq_ok]
      cases executable <;> simp [eq_comm]

theorem locateFile_join {directory name : String} (hname : Path.IsName name) :
    tree.locateFile (Path.join directory name) = tree.locate (Path.join directory name) := by
  obtain ⟨front, hsegments⟩ := Path.exists_segments_join directory hname.2.2.2
  unfold locateFile
  rw [if_pos]
  rw [hsegments, List.getLast?_concat]
  simpa using hname.1

end FileTree

namespace Loading

/-- The text of a file by the entry that its path finds. -/
theorem text_eq (tree : FileTree) (path : String) : text tree path = match tree.find? path with
    | none => .error (.notFound path)
    | some .directory => .error (.unreadable path .isDirectory)
    | some (.file content _) =>
      match Text.ofUtf8? content with
      | some text => .ok text
      | none => .error (.unreadable path .notUtf8) := by
  unfold text FileTree.find? FileTree.read
  cases tree.locate path with
  | error fault => rfl
  | ok location =>
    rcases Option.eq_none_or_eq_some (tree.at? location) with hat | ⟨_ | ⟨content, _⟩, hat⟩
    · simp [hat]
    · simp only [bind, Except.bind, hat]
      rfl
    · simp only [bind, Except.bind, hat]
      cases Text.ofUtf8? content <;> rfl

/-- The text of a file depends on what its path finds alone. -/
theorem text_congr {tree other : FileTree} {path : String} (h : other.find? path = tree.find? path) :
    text other path = text tree path := by
  rw [text_eq, text_eq, h]

theorem json_eq_ok {tree : FileTree} {path : String} {document : Json} :
    json tree path = .ok document
      ↔ ∃ source, text tree path = .ok source ∧ Json.parse source = .ok document := by
  simp only [json, Result.bind_eq_ok, Result.mapError_eq_ok]

theorem table_eq_ok {tree : FileTree} {path : String} {document : Toml.Table} :
    table tree path = .ok document
      ↔ ∃ source, text tree path = .ok source ∧ Toml.parse source = .ok document := by
  simp only [table, Result.bind_eq_ok, Result.mapError_eq_ok]

end Loading

end Catalog
