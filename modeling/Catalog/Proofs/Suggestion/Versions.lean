import Catalog.Proofs.Suggestion.Names

/-!
Versions in a listing of installed tools: the second words of its lines. Main statement: one suggestion
stands for each tool, made from the versions on its own lines, and over all tools these are the versions
of the listing, each once.
-/

namespace Catalog.Suggestion

variable {name : String}

/-- The versions of a tool, in the order of the lines that start with its name. -/
def versions (text name : String) : List String :=
  ((Text.lines text.toList).filter (firstWord? · = some name)).filterMap secondWord?

/-- The tool and the version of a line that has both. -/
def installedRow? (line : List Char) : Option (String × String) :=
  (firstWord? line).bind fun name => (secondWord? line).map (name, ·)

/-! ### Rows -/

/-- The versions of a tool in the rows of a listing. -/
def rowVersions (rows : List WordRow) (name : String) : List String :=
  (rows.filter (·.1 = name)).filterMap (·.2.head?)

theorem versions_eq (text name : String) : versions text name = rowVersions (wordRows text) name := by
  rw [wordRows_eq, versions, rowVersions]
  induction Text.lines text.toList with
  | nil => rfl
  | cons line lines ih =>
    rw [List.filter_cons, List.filterMap_cons, firstWord?_eq]
    cases hrow : wordRow? line with
    | none => simpa using ih
    | some row =>
      have hsecond : secondWord? line = row.2.head? := by
        rw [secondWord?_eq, hrow, Option.bind_some]
      by_cases hname : row.1 = name
      · simp [hname, List.filterMap_cons, hsecond, ih]
      · simpa [hname] using ih

theorem rowVersions_concat (rows : List WordRow) (row : WordRow) (name : String) :
    rowVersions (rows ++ [row]) name
      = rowVersions rows name ++ if row.1 = name then row.2.head?.toList else [] := by
  rw [rowVersions, List.filter_append, List.filterMap_append, ← rowVersions]
  by_cases hname : row.1 = name
  · cases hversion : row.2.head? <;> simp [hname, hversion]
  · simp [hname]

theorem keys_addVersion (tools : List WordRow) (row : WordRow) :
    Keyed.keys (addVersion tools row)
      = if row.1 ∈ Keyed.keys tools then Keyed.keys tools else Keyed.keys tools ++ [row.1] :=
  Keyed.keys_put tools row.1 _

/-- A row adds its version to those of its own tool. -/
theorem versions_addVersion (tools : List WordRow) (row : WordRow) (name : String) :
    (Keyed.get? (addVersion tools row) name).getD []
      = (Keyed.get? tools name).getD [] ++ if row.1 = name then row.2.head?.toList else [] := by
  rw [addVersion]
  by_cases hname : row.1 = name
  · rw [if_pos hname, ← hname, Keyed.get?_put_self, Option.getD_some]
  · rw [if_neg hname, Keyed.get?_put_of_ne hname, List.append_nil]

theorem versions_foldl_addVersion (rows : List WordRow) (name : String) :
    (Keyed.get? (rows.foldl addVersion []) name).getD [] = rowVersions rows name := by
  induction rows using List.reverseRecOn with
  | nil => rfl
  | append_singleton rows row ih =>
    rw [List.foldl_append, List.foldl_cons, List.foldl_nil, versions_addVersion, ih, rowVersions_concat]

/-- The tools of all rows with their versions. -/
theorem foldl_addVersion (rows : List WordRow) :
    rows.foldl addVersion [] = (rows.map (·.1)).eraseDups.map fun name =>
      (name, rowVersions rows name) := by
  have hkeys : Keyed.keys (rows.foldl addVersion []) = (rows.map (·.1)).eraseDups :=
    Keyed.keys_foldl keys_addVersion rows
  have hnodup : (Keyed.keys (rows.foldl addVersion [])).Nodup := hkeys ▸ Keyed.nodup_eraseDups _
  rw [Keyed.eq_map_keys hnodup [], hkeys]
  simp only [versions_foldl_addVersion]

theorem ofInstalled_eq (text : String) :
    ofInstalled text = (names text).eraseDups.map fun name => ofVersions name (versions text name) := by
  rw [ofInstalled, foldl_addVersion, List.map_map, ← names_eq]
  refine List.map_congr_left fun name _ => ?_
  rw [versions_eq]
  rfl

/-! ### The whole listing -/

theorem map_versions (text name : String) :
    (versions text name).map (name, ·)
      = ((Text.lines text.toList).filterMap installedRow?).filter (·.1 = name) := by
  rw [versions]
  induction Text.lines text.toList with
  | nil => rfl
  | cons line lines ih =>
    rw [List.filter_cons, List.filterMap_cons, installedRow?]
    cases hfirst : firstWord? line with
    | none => simpa using ih
    | some first =>
      by_cases hname : first = name
      · cases hsecond : secondWord? line with
        | none => simpa [hname, List.filterMap_cons, hsecond] using ih
        | some second => simpa [hname, List.filterMap_cons, hsecond] using ih
      · cases secondWord? line <;> simpa [hname] using ih

/-- The versions of all tools are those of the lines, each with the tool that its line starts with. -/
theorem perm_versions (text : String) :
    ((names text).eraseDups.flatMap fun name => (versions text name).map (name, ·)).Perm
      ((Text.lines text.toList).filterMap installedRow?) := by
  have hcover : ∀ row ∈ (Text.lines text.toList).filterMap installedRow?,
      row.1 ∈ (names text).eraseDups := by
    intro row hrow
    obtain ⟨line, hline, hinstalled⟩ := List.mem_filterMap.1 hrow
    obtain ⟨first, hfirst, hsecond⟩ := Option.bind_eq_some_iff.1 hinstalled
    obtain ⟨_, -, rfl⟩ := Option.map_eq_some_iff.1 hsecond
    exact List.mem_eraseDups.2 (List.mem_filterMap.2 ⟨line, hline, hfirst⟩)
  simp only [map_versions]
  exact Keyed.perm_flatMap_filter (Keyed.nodup_eraseDups _) hcover

/-- One suggestion stands for each installed tool, in the order of the first appearances. A tool with
several versions is offered with an `@` behind its name, and shows all of them in the order of its lines.
Over all tools, these are the versions of all lines, each once and with its own tool. -/
theorem installed_by_name (text : String) :
    Generator.installed.read text = .ok ((names text).eraseDups.map fun name =>
        match versions text name with
        | [] => { name }
        | [version] => { name, description := some version }
        | several => { name := name ++ "@", description := some (String.intercalate ", " several) })
      ∧ (names text).eraseDups.Nodup
      ∧ (∀ line, firstWord? line = none ↔ Text.allBlank line = true)
      ∧ ((names text).eraseDups.flatMap fun name => (versions text name).map (name, ·)).Perm
          ((Text.lines text.toList).filterMap installedRow?) := by
  refine ⟨?_, Keyed.nodup_eraseDups _, fun _ => firstWord?_eq_none_iff, perm_versions text⟩
  rw [Generator.read, ofInstalled_eq]
  refine congrArg _ (List.map_congr_left fun name _ => ?_)
  rcases versions text name with _ | ⟨version, _ | ⟨next, rest⟩⟩ <;> rfl

/-- Rows of three tools in turn, one of which has no version. -/
example : ofInstalled "node 20\n  go\n\njq\t1.7 x\nnode 22\n"
    = [{ name := "node@", description := some "20, 22" }, { name := "go" },
      { name := "jq", description := some "1.7" }] := by decide +kernel

end Catalog.Suggestion
