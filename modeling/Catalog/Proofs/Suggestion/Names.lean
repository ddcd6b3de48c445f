import Catalog.Proofs.Keyed
import Catalog.Proofs.Text.Words
import Catalog.Suggestion.Generator

/-!
Names in a listing: the first words of its lines. Main statement: the registry gives one suggestion for
each name, in the order of the first appearances and with the second word of the line where the name
appears first, so that rows of names that have appeared add nothing.
-/

namespace Catalog.Suggestion

variable {line : List Char} {text rest name : String}

/-! ### Words of lines -/

/-- The first word of a line. -/
def firstWord? (line : List Char) : Option String :=
  (Text.words line)[0]?.map String.ofList

/-- The word behind the first one. -/
def secondWord? (line : List Char) : Option String :=
  (Text.words line)[1]?.map String.ofList

/-- The names of a listing, one for each line that is not blank. -/
def names (text : String) : List String :=
  (Text.lines text.toList).filterMap firstWord?

/-- The line where a name appears first. -/
def firstLine? (text name : String) : Option (List Char) :=
  (Text.lines text.toList).find? (firstWord? · = some name)

/-- The words of a line as a row. -/
def wordRow? (line : List Char) : Option WordRow :=
  match (Text.words line).map String.ofList with
  | [] => none
  | name :: rest => some (name, rest)

theorem wordRow?_congr {other : List Char} (h : Text.words line = Text.words other) :
    wordRow? line = wordRow? other := by
  rw [wordRow?, wordRow?, h]

theorem firstWord?_eq (line : List Char) : firstWord? line = (wordRow? line).map (·.1) := by
  unfold firstWord? wordRow?
  cases Text.words line <;> rfl

theorem secondWord?_eq (line : List Char) : secondWord? line = (wordRow? line).bind (·.2.head?) := by
  unfold secondWord? wordRow?
  rcases Text.words line with _ | ⟨first, _ | ⟨second, rest⟩⟩ <;> rfl

/-- A line has a first word unless it is blank. -/
theorem firstWord?_eq_none_iff : firstWord? line = none ↔ Text.allBlank line = true := by
  rw [← Text.words_eq_nil_iff, firstWord?]
  cases Text.words line <;> simp

/-- The rows of a listing are the words of its lines, with the white space around them or without. -/
theorem wordRows_eq (text : String) :
    wordRows text = (Text.lines text.toList).filterMap wordRow? := by
  have htrim : ∀ line, (if Text.trim line ≠ [] then wordRow? (Text.trim line) else none)
      = wordRow? line := fun line => by
    rw [wordRow?_congr (Text.words_trim line)]
    split
    · rfl
    · rename_i hnil
      have hwords : Text.words line = [] := by
        rw [← Text.words_trim, not_ne_iff.1 hnil]
        rfl
      rw [wordRow?, hwords]
      rfl
  rw [show wordRows text = (Text.rows text.toList).filterMap wordRow? from rfl, Text.rows,
    List.filterMap_filter, List.filterMap_map]
  exact List.filterMap_congr fun line _ => by simpa using htrim line

theorem names_eq (text : String) : names text = (wordRows text).map (·.1) := by
  rw [wordRows_eq, List.map_filterMap, names]
  exact List.filterMap_congr fun line _ => firstWord?_eq line

/-- The entry of a name is the row of the line where it appears first. -/
theorem get?_wordRows (text name : String) :
    Keyed.get? (wordRows text) name = (firstLine? text name).bind fun line =>
      (wordRow? line).map (·.2) := by
  rw [wordRows_eq, firstLine?]
  induction Text.lines text.toList with
  | nil => rfl
  | cons line lines ih =>
    rw [List.filterMap_cons, List.find?_cons, firstWord?_eq]
    cases hrow : wordRow? line with
    | none => simpa using ih
    | some row =>
      by_cases hname : row.1 = name
      · simp [Keyed.get?, hname, hrow]
      · simpa [Keyed.get?, hname] using ih

theorem description_eq (text name : String) :
    ((Keyed.get? (wordRows text) name).getD []).head?
      = (firstLine? text name).bind secondWord? := by
  rw [get?_wordRows]
  cases firstLine? text name with
  | none => rfl
  | some line =>
    rw [Option.bind_some, Option.bind_some, secondWord?_eq]
    cases wordRow? line <;> rfl

/-! ### Texts put together -/

/-- Two texts meet at a line feed, so that no line goes on from the one to the other. -/
def MeetAtFeed (text rest : String) : Prop :=
  text.toList.getLast? = some '\n' ∨ rest.toList.head? = some '\n'

instance (text rest : String) : Decidable (MeetAtFeed text rest) :=
  inferInstanceAs (Decidable (_ ∨ _))

theorem wordRows_append (h : MeetAtFeed text rest) :
    wordRows (text ++ rest) = wordRows text ++ wordRows rest := by
  have hended : ∀ s : List Char, (Text.lines (s ++ ['\n'])).filterMap wordRow?
      = (Text.lines s).filterMap wordRow? :=
    Text.filterMap_lines_concat_feed rfl fun line => wordRow?_congr (Text.words_dropReturn line)
  rw [wordRows_eq, wordRows_eq, wordRows_eq, String.toList_append]
  rcases h with h | h
  · obtain ⟨front, hfront⟩ := List.getLast?_eq_some_iff.1 h
    rw [hfront, List.append_assoc, List.singleton_append, Text.lines_feed_append,
      List.filterMap_append]
  · obtain ⟨back, hback⟩ := List.head?_eq_some_iff.1 h
    have hfeed : Text.lines ('\n' :: back) = [[]] ++ Text.lines back :=
      Text.lines_feed_append [] back
    rw [hback, Text.lines_feed_append, hfeed, List.filterMap_append, List.filterMap_append, hended]
    rfl

/-! ### The registry -/

theorem keys_addFirst (rows : List WordRow) (row : WordRow) :
    Keyed.keys (addFirst rows row)
      = if row.1 ∈ Keyed.keys rows then Keyed.keys rows else Keyed.keys rows ++ [row.1] := by
  rw [addFirst]
  simp only [Keyed.has_iff]
  split
  · rfl
  · simp [Keyed.keys]

/-- A row that is left out would not be found behind the first row of its name. -/
theorem get?_addFirst (rows : List WordRow) (row : WordRow) (name : String) :
    Keyed.get? (addFirst rows row) name = Keyed.get? (rows ++ [row]) name := by
  rw [addFirst]
  split
  · rename_i hrow
    rw [Keyed.get?_append, Keyed.get?, Keyed.get?]
    split
    · rename_i hname
      obtain ⟨held, hheld⟩ := Option.isSome_iff_exists.1 hrow
      rw [← hname, hheld, Option.some_or]
    · rw [Option.or_none]
  · rfl

theorem get?_foldl_addFirst (rows : List WordRow) (name : String) :
    Keyed.get? (rows.foldl addFirst []) name = Keyed.get? rows name := by
  induction rows using List.reverseRecOn with
  | nil => rfl
  | append_singleton rows row ih =>
    rw [List.foldl_append, List.foldl_cons, List.foldl_nil, get?_addFirst, Keyed.get?_append, ih,
      Keyed.get?_append]

theorem keys_foldl_addFirst (rows : List WordRow) :
    Keyed.keys (rows.foldl addFirst []) = (rows.map (·.1)).eraseDups :=
  Keyed.keys_foldl keys_addFirst rows

/-- The first rows of all names. -/
theorem foldl_addFirst (rows : List WordRow) :
    rows.foldl addFirst [] = (rows.map (·.1)).eraseDups.map fun name =>
      (name, (Keyed.get? rows name).getD []) := by
  have hkeys := keys_foldl_addFirst rows
  have hnodup : (Keyed.keys (rows.foldl addFirst [])).Nodup := hkeys ▸ Keyed.nodup_eraseDups _
  rw [Keyed.eq_map_keys hnodup [], hkeys]
  simp only [get?_foldl_addFirst]

theorem ofRegistry_eq (text : String) :
    ofRegistry text = (names text).eraseDups.map fun name =>
      { name, description := (firstLine? text name).bind secondWord? } := by
  rw [ofRegistry, foldl_addFirst, List.map_map, ← names_eq]
  refine List.map_congr_left fun name _ => ?_
  rw [← description_eq]
  rfl

/-- Rows of names that are there change nothing. -/
theorem foldl_addFirst_of_mem {rows : List WordRow} :
    ∀ {more : List WordRow}, (∀ row ∈ more, row.1 ∈ Keyed.keys rows) → more.foldl addFirst rows = rows
  | [], _ => rfl
  | row :: more, h => by
    obtain ⟨hrow, hmore⟩ := List.forall_mem_cons.1 h
    rw [List.foldl_cons, addFirst, if_pos (Keyed.has_iff.2 hrow)]
    exact foldl_addFirst_of_mem hmore

theorem ofRegistry_append (hmeet : MeetAtFeed text rest)
    (h : ∀ name ∈ names rest, name ∈ names text) : ofRegistry (text ++ rest) = ofRegistry text := by
  have hrows : ∀ row ∈ wordRows rest, row.1 ∈ Keyed.keys ((wordRows text).foldl addFirst []) := by
    intro row hrow
    rw [keys_foldl_addFirst, List.mem_eraseDups, ← names_eq]
    refine h row.1 ?_
    rw [names_eq]
    exact List.mem_map_of_mem hrow
  rw [ofRegistry, wordRows_append hmeet, List.foldl_append, foldl_addFirst_of_mem hrows]
  rfl

/-- The registry gives one suggestion for each name, in the order of the first appearances. It shows the
second word of the line where the name appears first, if there is one. Lines behind that only hold names
that have appeared change nothing, whatever else they hold. -/
theorem registry_by_name (text : String) : ∃ suggestions,
    Generator.registry.read text = .ok suggestions
      ∧ suggestions = (names text).eraseDups.map (fun name =>
          { name, description := (firstLine? text name).bind secondWord? })
      ∧ (suggestions.map (·.name)).Nodup
      ∧ (∀ line, firstWord? line = none ↔ Text.allBlank line = true)
      ∧ ∀ rest, MeetAtFeed text rest → (∀ name ∈ names rest, name ∈ names text) →
          Generator.registry.read (text ++ rest) = .ok suggestions := by
  have hnames : (ofRegistry text).map (·.name) = (names text).eraseDups := by
    rw [ofRegistry_eq, List.map_map]
    exact List.map_id' _
  refine ⟨ofRegistry text, rfl, ofRegistry_eq text, ?_, fun _ => firstWord?_eq_none_iff, ?_⟩
  · rw [hnames]
    exact Keyed.nodup_eraseDups (names text)
  · intro rest hmeet h
    rw [Generator.read, ofRegistry_append hmeet h]

/-- Rows of two tools in turn, one of them without a backend. -/
def interleavedRows : String :=
  "node   core:node\n\n  jq\nnode asdf:x\n"

theorem registry_by_name_interleavedRows :
    MeetAtFeed interleavedRows "jq aqua:jq\n\tnode"
      ∧ (∀ name ∈ names "jq aqua:jq\n\tnode", name ∈ names interleavedRows)
      ∧ Generator.registry.read (interleavedRows ++ "jq aqua:jq\n\tnode")
        = .ok [{ name := "node", description := some "core:node" }, { name := "jq" }] := by
  have hmeet : MeetAtFeed interleavedRows "jq aqua:jq\n\tnode" := by decide
  have hnames : ∀ name ∈ names "jq aqua:jq\n\tnode", name ∈ names interleavedRows := by decide
  obtain ⟨suggestions, -, hsuggestions, -, -, happend⟩ := registry_by_name interleavedRows
  refine ⟨hmeet, hnames, ?_⟩
  rw [happend _ hmeet hnames, hsuggestions]
  decide +kernel

end Catalog.Suggestion
