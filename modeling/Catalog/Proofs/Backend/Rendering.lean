import Catalog.Backend.Descriptor
import Catalog.Proofs.Keyed
import Catalog.Proofs.Text.Split

/-!
Descriptors written out with their options. Main statement: parsing undoes writing, for a tag and a slug
that end where they are written to end and options whose texts hold none of the marks between them. The
values may hold further equals signs, brackets and colons, and names and values may be empty.
-/

namespace Catalog.Backend

theorem Options.get?_ofPairs_of_nodup {pairs : List (String × String)} (h : (Keyed.keys pairs).Nodup)
    (name : String) : (Options.ofPairs pairs).get? name = Keyed.get? pairs name := by
  rw [ofPairs, get?_setAll, get?_empty, Option.or_none]
  exact Keyed.get?_eq_of_perm h pairs.reverse_perm.symm name

/-- Options that are set with distinct names are exactly these. -/
theorem Options.perm_entries_ofPairs {pairs : List (String × String)} (h : (Keyed.keys pairs).Nodup) :
    (Options.ofPairs pairs).entries.Perm pairs :=
  Keyed.perm_of_get? (Options.ofPairs pairs).nodup_keys h (get?_ofPairs_of_nodup h)

namespace Descriptor

/-- An option as written. -/
def writtenPair (pair : String × String) : String :=
  pair.1 ++ "=" ++ pair.2

/-- A descriptor with options as written. -/
def written (tag slug : String) (pairs : List (String × String)) : String :=
  tag ++ ":" ++ slug ++ "[" ++ ",".intercalate (pairs.map writtenPair) ++ "]"

/-- A text of one line that a mark may follow: it is not empty, and it holds the mark at most as its first
character. -/
structure EndsBefore (mark : Char) (text : String) : Prop where
  ne : text ≠ ""
  one_line : '\n' ∉ text.toList
  late : mark ∉ text.toList.tail

instance (mark : Char) (text : String) : Decidable (EndsBefore mark text) :=
  decidable_of_iff (text ≠ "" ∧ '\n' ∉ text.toList ∧ mark ∉ text.toList.tail)
    ⟨fun ⟨hne, hline, hlate⟩ => ⟨hne, hline, hlate⟩, fun h => ⟨h.ne, h.one_line, h.late⟩⟩

/-- A text that may stand in an option. -/
structure FitsOption (text : String) : Prop where
  one_line : '\n' ∉ text.toList
  no_comma : ',' ∉ text.toList
  trimmed : Text.IsTrimmed text.toList

instance (text : String) : Decidable (FitsOption text) :=
  decidable_of_iff ('\n' ∉ text.toList ∧ ',' ∉ text.toList ∧ Text.IsTrimmed text.toList)
    ⟨fun ⟨hline, hcomma, htrimmed⟩ => ⟨hline, hcomma, htrimmed⟩,
      fun h => ⟨h.one_line, h.no_comma, h.trimmed⟩⟩

/-- An option that can be written: a name without an equals sign, and a value. -/
structure Writable (pair : String × String) : Prop where
  name : FitsOption pair.1
  value : FitsOption pair.2
  no_equals : '=' ∉ pair.1.toList

instance (pair : String × String) : Decidable (Writable pair) :=
  decidable_of_iff (FitsOption pair.1 ∧ FitsOption pair.2 ∧ '=' ∉ pair.1.toList)
    ⟨fun ⟨hname, hvalue, hequals⟩ => ⟨hname, hvalue, hequals⟩,
      fun h => ⟨h.name, h.value, h.no_equals⟩⟩

/-! ### Options -/

theorem toList_writtenPair (pair : String × String) :
    (writtenPair pair).toList = pair.1.toList ++ '=' :: pair.2.toList := by
  simp [writtenPair]

theorem not_mem_writtenPair {c : Char} {pair : String × String} (hname : c ∉ pair.1.toList)
    (hequals : c ≠ '=') (hvalue : c ∉ pair.2.toList) : c ∉ (writtenPair pair).toList := by
  rw [toList_writtenPair, List.mem_append, List.mem_cons]
  rintro (h | h | h)
  · exact hname h
  · exact hequals h
  · exact hvalue h

/-- An option is cut at the sign that was written behind its name. -/
theorem optionPair_written {pair : String × String} (h : Writable pair) :
    optionPair (writtenPair pair).toList = pair := by
  rw [optionPair, toList_writtenPair, Text.cut?_append h.no_equals]
  simp only [Option.getD_some, Text.trim_eq_self h.name.trimmed, Text.trim_eq_self h.value.trimmed,
    String.ofList_toList]

/-- No option is blank, not even one without a name and a value. -/
theorem allBlank_writtenPair (pair : String × String) :
    Text.allBlank (writtenPair pair).toList = false := by
  rw [Text.allBlank, List.all_eq_false]
  refine ⟨'=', ?_, by decide⟩
  rw [toList_writtenPair]
  simp

/-- The text between the brackets. -/
def clauseText (pairs : List (String × String)) : List Char :=
  [','].intercalate (pairs.map fun pair => (writtenPair pair).toList)

theorem splitOnP_clauseText {pairs : List (String × String)} (hne : pairs ≠ [])
    (h : ∀ pair ∈ pairs, Writable pair) :
    (clauseText pairs).splitOnP (· = ',') = pairs.map fun pair => (writtenPair pair).toList := by
  refine List.splitOn_intercalate ',' (List.forall_mem_map.2 fun pair hpair => ?_) (by simpa using hne)
  exact not_mem_writtenPair (h pair hpair).name.no_comma (by decide) (h pair hpair).value.no_comma

theorem optionPairs_clauseText {pairs : List (String × String)} (hne : pairs ≠ [])
    (h : ∀ pair ∈ pairs, Writable pair) : optionPairs (clauseText pairs) = pairs := by
  have hkept : (pairs.map fun pair => (writtenPair pair).toList).filter (!Text.allBlank ·)
      = pairs.map fun pair => (writtenPair pair).toList := by
    rw [List.filter_eq_self, List.forall_mem_map]
    intro pair _
    rw [allBlank_writtenPair]
    rfl
  rw [optionPairs, splitOnP_clauseText hne h, hkept, List.map_map]
  exact (List.map_congr_left fun pair hpair => optionPair_written (h pair hpair)).trans pairs.map_id

theorem clauseText_ne_nil {pairs : List (String × String)} (hne : pairs ≠ []) :
    clauseText pairs ≠ [] := by
  obtain ⟨pair, rest, rfl⟩ := List.exists_cons_of_ne_nil hne
  rw [clauseText, List.map_cons, toList_writtenPair]
  cases rest <;> simp

theorem feed_not_mem_clauseText {pairs : List (String × String)} (h : ∀ pair ∈ pairs, Writable pair) :
    '\n' ∉ clauseText pairs := by
  rw [clauseText, Text.mem_intercalate_iff (by decide)]
  rintro ⟨_, hmem, hfeed⟩
  obtain ⟨pair, hpair, rfl⟩ := List.mem_map.1 hmem
  exact not_mem_writtenPair (h pair hpair).name.one_line (by decide) (h pair hpair).value.one_line hfeed

/-! ### The whole descriptor -/

/-- A text is cut at the mark that follows it. -/
theorem EndsBefore.cutLate?_append {mark : Char} {text : String} (h : EndsBefore mark text)
    (after : List Char) : cutLate? mark (text.toList ++ mark :: after) = some (text.toList, after) := by
  have hlate := h.late
  obtain ⟨first, rest, htext⟩ : ∃ first rest, text.toList = first :: rest :=
    List.exists_cons_of_ne_nil fun hnil => h.ne (String.toList_eq_nil_iff.1 hnil)
  rw [htext, List.tail_cons] at hlate
  rw [htext, List.cons_append, cutLate?, Text.cut?_append hlate]
  rfl

theorem splitClause_of_endsBefore {slug : String} {clause : List Char} (hslug : EndsBefore '[' slug)
    (hclause : clause ≠ []) :
    splitClause (slug.toList ++ '[' :: (clause ++ [']'])) = (slug.toList, some clause) := by
  have hlength : 2 ≤ (clause ++ [']']).length := by
    have hpos := List.length_pos_iff.2 hclause
    rw [List.length_append, List.length_singleton]
    omega
  rw [splitClause, hslug.cutLate?_append]
  dsimp only
  rw [List.getLast?_concat, if_pos (by simpa using hlength), List.dropLast_concat]

theorem toList_written (tag slug : String) (pairs : List (String × String)) :
    (written tag slug pairs).toList
      = tag.toList ++ ':' :: (slug.toList ++ '[' :: (clauseText pairs ++ [']'])) := by
  simp [written, clauseText, String.toList_intercalate, Function.comp_def]

theorem split?_written {tag slug : String} {pairs : List (String × String)} (htag : EndsBefore ':' tag)
    (hslug : EndsBefore '[' slug) (hne : pairs ≠ []) (h : ∀ pair ∈ pairs, Writable pair) :
    split? (written tag slug pairs).toList = some (tag.toList, slug.toList, some (clauseText pairs)) := by
  have hline : '\n' ∉ (written tag slug pairs).toList := by
    rw [toList_written]
    simp [htag.one_line, hslug.one_line, feed_not_mem_clauseText h]
  have hclause := splitClause_of_endsBefore hslug (clauseText_ne_nil hne)
  rw [split?, if_neg hline, toList_written, htag.cutLate?_append]
  -- the slug has a first character, so the split goes on to the clause
  cases hrest : slug.toList ++ '[' :: (clauseText pairs ++ [']']) with
  | nil => simp at hrest
  | cons first rest =>
    dsimp only
    rw [← hrest, hclause]

/-- A descriptor that is written with options is parsed as the same tag and slug with exactly these
options. -/
theorem parse_written {tag slug : String} {pairs : List (String × String)} (htag : EndsBefore ':' tag)
    (hslug : EndsBefore '[' slug) (hne : pairs ≠ []) (hnames : (Keyed.keys pairs).Nodup)
    (h : ∀ pair ∈ pairs, Writable pair) :
    (parse (written tag slug pairs)).tag = tag
      ∧ (parse (written tag slug pairs)).slug = slug
      ∧ (parse (written tag slug pairs)).options.entries.Perm pairs
      ∧ ∀ name, (parse (written tag slug pairs)).options.get? name = Keyed.get? pairs name := by
  have hparse : parse (written tag slug pairs)
      = { raw := written tag slug pairs, tag, slug, options := .ofPairs pairs } := by
    rw [parse, split?_written htag hslug hne h]
    simp only [String.ofList_toList, Option.map_some, Option.getD_some, optionsOf,
      optionPairs_clauseText hne h]
  rw [hparse]
  exact ⟨rfl, rfl, Options.perm_entries_ofPairs hnames, Options.get?_ofPairs_of_nodup hnames⟩

/-- A value with every mark but the comma, an option without a name and a value, and a flag. -/
def oddOptions : List (String × String) :=
  [("exe", "a=[b]: c"), ("", ""), ("flag", "")]

theorem parse_written_oddOptions :
    EndsBefore ':' ":" ∧ EndsBefore '[' "[x]:y" ∧ oddOptions ≠ [] ∧ (Keyed.keys oddOptions).Nodup
      ∧ (∀ pair ∈ oddOptions, Writable pair)
      ∧ written ":" "[x]:y" oddOptions = "::[x]:y[exe=a=[b]: c,=,flag=]"
      ∧ (parse (written ":" "[x]:y" oddOptions)).tag = ":"
      ∧ (parse (written ":" "[x]:y" oddOptions)).slug = "[x]:y"
      ∧ (parse (written ":" "[x]:y" oddOptions)).options.entries.Perm oddOptions
      ∧ (parse (written ":" "[x]:y" oddOptions)).options.get? "exe" = some "a=[b]: c" := by
  have htag : EndsBefore ':' ":" := by decide
  have hslug : EndsBefore '[' "[x]:y" := by decide
  have hnames : (Keyed.keys oddOptions).Nodup := by simp [oddOptions, Keyed.keys]
  have hwritable : ∀ pair ∈ oddOptions, Writable pair := by decide
  obtain ⟨htag', hslug', hperm, hget⟩ := parse_written htag hslug (by decide) hnames hwritable
  exact ⟨htag, hslug, by decide, hnames, hwritable, by decide, htag', hslug', hperm, hget "exe"⟩

end Descriptor

end Catalog.Backend
