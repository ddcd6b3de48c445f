import Catalog.Proofs.Backend.Kind
import Catalog.Proofs.Tool.Listing

/-!
The table of tools as Markdown. Names are escaped, and pages are written as they are. Main statement: the
table has its head and one line for each record, in order and each of two cells, exactly if no name and
no page in it holds a line feed and no page holds a bare bar.
-/

namespace Catalog.Tool

/-! ### Bars -/

/-- The number of bars without a backslash before them, in a text behind a character. -/
def bareBarsAfter : Char → List Char → Nat
  | _, [] => 0
  | before, c :: rest => (if c = '|' ∧ before ≠ '\\' then 1 else 0) + bareBarsAfter c rest

/-- The number of bars without a backslash before them. These bars part the cells of a line. -/
def bareBars (s : List Char) : Nat :=
  bareBarsAfter ' ' s

theorem bareBarsAfter_of_ne {before : Char} (h : before ≠ '\\') (s : List Char) :
    bareBarsAfter before s = bareBars s := by
  cases s <;> simp [bareBars, bareBarsAfter, h]

theorem bareBarsAfter_append {c : Char} (hc : c ≠ '|') (rest : List Char) :
    ∀ (before : Char) (s : List Char),
      bareBarsAfter before (s ++ c :: rest) = bareBarsAfter before s + bareBarsAfter c rest
  | before, [] => by simp [bareBarsAfter, hc]
  | before, d :: s => by
    rw [List.cons_append, bareBarsAfter, bareBarsAfter, bareBarsAfter_append hc rest d s,
      Nat.add_assoc]

theorem toList_escapeCell (s : String) :
    (escapeCell s).toList = s.toList.flatMap fun c => if c = '|' then ['\\', '|'] else [c] :=
  String.toList_ofList

/-- An escaped text has no bare bar, whatever stands before it. -/
theorem bareBarsAfter_escapeCell (s : String) :
    ∀ before, bareBarsAfter before (escapeCell s).toList = 0 := by
  rw [toList_escapeCell]
  induction s.toList with
  | nil => exact fun _ => rfl
  | cons c rest ih =>
    intro before
    rw [List.flatMap_cons]
    by_cases hc : c = '|' <;> simp [bareBarsAfter, hc, ih]

/-- The bars of a backend in a cell are those of its page. -/
theorem bareBarsAfter_markdown (link : Link) (before : Char) :
    bareBarsAfter before link.markdown.toList = bareBars link.url.toList := by
  unfold Link.markdown
  split
  · rename_i hurl
    have hlist : ("`" ++ escapeCell link.name ++ "`").toList
        = '`' :: ((escapeCell link.name).toList ++ '`' :: []) := by simp
    rw [hlist, bareBarsAfter, bareBarsAfter_append (by decide), bareBarsAfter_escapeCell, hurl]
    rfl
  · have hlist : ("[" ++ escapeCell link.name ++ "](" ++ link.url ++ ")").toList
        = '[' :: ((escapeCell link.name).toList ++ ']' :: '(' :: (link.url.toList ++ ')' :: [])) := by
      simp
    rw [hlist, bareBarsAfter, bareBarsAfter_append (by decide), bareBarsAfter_escapeCell,
      bareBarsAfter, bareBarsAfter_append (by decide), bareBarsAfter_of_ne (by decide)]
    simp [bareBarsAfter]

/-! ### Rows -/

/-- The backends in the row of a record: those with a name. -/
def Record.shown (record : Record) : List Link :=
  record.backends.filter (·.name ≠ "")

/-- The line of a record: its row without the line feed. -/
def Record.line (record : Record) : List Char :=
  record.markdownRow.toList.dropLast

/-- The text of the second cell. -/
def Record.cell (record : Record) : List Char :=
  [' '].intercalate (record.shown.map fun link => link.markdown.toList)

theorem toList_markdownRow (record : Record) :
    record.markdownRow.toList
      = '|' :: ' ' :: ((escapeCell record.name).toList ++ ' ' :: '|' :: ' ' ::
          (record.cell ++ ' ' :: '|' :: [])) ++ ['\n'] := by
  simp [Record.markdownRow, Record.cell, Record.shown, String.toList_intercalate,
    List.map_map, Function.comp_def]

theorem line_eq (record : Record) :
    record.line = '|' :: ' ' :: ((escapeCell record.name).toList ++ ' ' :: '|' :: ' ' ::
      (record.cell ++ ' ' :: '|' :: [])) := by
  rw [Record.line, toList_markdownRow, List.dropLast_concat]

theorem row_eq_line_feed (record : Record) : record.markdownRow.toList = record.line ++ ['\n'] := by
  rw [toList_markdownRow, line_eq]

theorem bareBarsAfter_cell :
    ∀ links : List Link,
      bareBarsAfter ' ' ([' '].intercalate (links.map fun link => link.markdown.toList))
        = (links.map fun link => bareBars link.url.toList).sum
  | [] => rfl
  | [link] => by simp [bareBarsAfter_markdown]
  | link :: next :: rest => by
    have ih := bareBarsAfter_cell (next :: rest)
    simp only [List.map_cons] at ih ⊢
    rw [List.intercalate_cons_cons, List.append_assoc, List.singleton_append,
      bareBarsAfter_append (by decide), bareBarsAfter_markdown, ih]
    rfl

/-- Three bars part the cells of a row, and the pages may have more. -/
theorem bareBars_line (record : Record) :
    bareBars record.line
      = 3 + (record.shown.map fun link => bareBars link.url.toList).sum := by
  have hcell := bareBarsAfter_cell record.shown
  rw [← Record.cell] at hcell
  rw [line_eq, bareBars, bareBarsAfter, bareBarsAfter, bareBarsAfter_append (by decide),
    bareBarsAfter_escapeCell, bareBarsAfter, bareBarsAfter, bareBarsAfter_append (by decide), hcell]
  simp [bareBarsAfter]
  omega

/-! ### Lines -/

theorem feed_mem_escapeCell (s : String) :
    '\n' ∈ (escapeCell s).toList ↔ '\n' ∈ s.toList := by
  rw [toList_escapeCell, List.mem_flatMap]
  constructor
  · rintro ⟨c, hc, h⟩
    split at h
    · simp at h
    · rwa [List.mem_singleton.1 h]
  · exact fun h => ⟨'\n', h, by simp⟩

theorem feed_mem_markdown (link : Link) :
    '\n' ∈ link.markdown.toList ↔ '\n' ∈ link.name.toList ∨ '\n' ∈ link.url.toList := by
  unfold Link.markdown
  split
  · rename_i hurl
    simp [feed_mem_escapeCell, hurl]
  · simp [feed_mem_escapeCell]

theorem feed_mem_line (record : Record) :
    '\n' ∈ record.line ↔ '\n' ∈ record.name.toList
      ∨ ∃ link ∈ record.shown, '\n' ∈ link.name.toList ∨ '\n' ∈ link.url.toList := by
  have hcell : '\n' ∈ record.cell
      ↔ ∃ link ∈ record.shown, '\n' ∈ link.name.toList ∨ '\n' ∈ link.url.toList := by
    rw [Record.cell, Text.mem_intercalate_iff (by decide)]
    simp [feed_mem_markdown]
  rw [line_eq, ← hcell, ← feed_mem_escapeCell record.name]
  simp

/-- The lines of the head of the table. -/
def headLines : List (List Char) :=
  ["| Tool | Backends |".toList, "| ---- | -------- |".toList]

theorem toList_markdownHead : markdownHead.toList = Text.ended headLines := by
  decide +kernel

theorem feed_not_mem_headLines : ∀ line ∈ headLines, '\n' ∉ line := by
  decide +kernel

theorem map_dropReturn_headLines : headLines.map Text.dropReturn = headLines := by
  decide +kernel

theorem toList_markdown (records : List Record) :
    (markdown records).toList = Text.ended (headLines ++ records.map Record.line) := by
  have hrows : (String.join (records.map Record.markdownRow)).toList
      = Text.ended (records.map Record.line) := by
    rw [String.toList_join, Text.ended, List.flatMap_map, List.flatMap_map]
    exact List.flatMap_congr fun record _ => row_eq_line_feed record
  rw [markdown, String.toList_append, toList_markdownHead, hrows, Text.ended_append]

theorem dropReturn_line (record : Record) : Text.dropReturn record.line = record.line := by
  have hlast : record.line.getLast? = some '|' := by
    simp [line_eq, List.getLast?_cons, List.getLast?_append]
  simp [Text.dropReturn, hlast]

/-- The table has one line for each record if no line feed comes from the records. -/
theorem lines_markdown_iff (records : List Record) :
    Text.lines (markdown records).toList = headLines ++ records.map Record.line
      ↔ ∀ record ∈ records, '\n' ∉ record.line := by
  constructor
  · intro hlines record hrecord
    have hmem : record.line ∈ Text.lines (markdown records).toList := by
      rw [hlines]
      exact List.mem_append_right _ (List.mem_map_of_mem hrecord)
    exact Text.not_mem_of_mem_lines hmem
  · intro h
    have hfeed : ∀ line ∈ headLines ++ records.map Record.line, '\n' ∉ line :=
      List.forall_mem_append.2 ⟨feed_not_mem_headLines, List.forall_mem_map.2 h⟩
    have hrows : (records.map Record.line).map Text.dropReturn = records.map Record.line := by
      simp only [List.map_map, Function.comp_def, dropReturn_line]
    rw [toList_markdown, Text.lines_ended hfeed, List.map_append, map_dropReturn_headLines, hrows]

/-- A record fits into a row of two cells: nothing in it ends the line, and no page ends a cell. -/
structure Record.FitsRow (record : Record) : Prop where
  name_feed : '\n' ∉ record.name.toList
  link_feed : ∀ link ∈ record.shown, '\n' ∉ link.name.toList ∧ '\n' ∉ link.url.toList
  page_bars : ∀ link ∈ record.shown, bareBars link.url.toList = 0

theorem bareBars_line_iff (record : Record) :
    bareBars record.line = 3 ↔ ∀ link ∈ record.shown, bareBars link.url.toList = 0 := by
  rw [bareBars_line, Nat.add_eq_left, List.sum_eq_zero_iff]
  exact List.forall_mem_map

theorem fitsRow_iff (record : Record) :
    record.FitsRow ↔ '\n' ∉ record.line ∧ bareBars record.line = 3 := by
  rw [feed_mem_line, bareBars_line_iff]
  constructor
  · rintro ⟨hname, hlinks, hbars⟩
    refine ⟨?_, hbars⟩
    rintro (h | ⟨link, hlink, h⟩)
    · exact hname h
    · exact h.elim (hlinks link hlink).1 (hlinks link hlink).2
  · rintro ⟨h, hbars⟩
    exact ⟨fun hname => h (.inl hname),
      fun link hlink => ⟨fun hname => h (.inr ⟨link, hlink, .inl hname⟩),
        fun hurl => h (.inr ⟨link, hlink, .inr hurl⟩)⟩,
      hbars⟩

/-- The table has its head and one line for each record, in order and each with the three bars of a row
of two cells, exactly if every record fits into such a row. -/
theorem markdown_iff (records : List Record) :
    (Text.lines (markdown records).toList = headLines ++ records.map Record.line
        ∧ ∀ record ∈ records, bareBars record.line = 3)
      ↔ ∀ record ∈ records, record.FitsRow := by
  simp only [lines_markdown_iff, fitsRow_iff, ← forall₂_and]

/-- A page of a listed backend ends the cell. -/
theorem markdown_barPage :
    ofListing "x cargo:a|b"
        = [{ name := "x", backends := [⟨"cargo:a|b", "https://crates.io/crates/a|b", []⟩] }]
      ∧ markdown (ofListing "x cargo:a|b")
        = markdownHead ++ "| x | [cargo:a\\|b](https://crates.io/crates/a|b) |\n"
      ∧ (ofListing "x cargo:a|b").map (fun record => bareBars record.line) = [4] := by
  decide +kernel

/-! ### Listings -/

theorem shown_of_mem_ofListing {text : String} {record : Record} (h : record ∈ ofListing text) :
    record.shown = record.backends := by
  obtain ⟨_, -, name, tag, slug, -, rfl⟩ := exists_line_of_mem_ofListing h
  simp [Record.shown]

/-- A row of a listing is one line, and so is what is made of it. -/
theorem feed_not_mem_line {text : String} {record : Record} (h : record ∈ ofListing text) :
    '\n' ∉ record.line := by
  rw [feed_mem_line, shown_of_mem_ofListing h]
  obtain ⟨line, hline, name, tag, slug, hsplit, rfl⟩ := exists_line_of_mem_ofListing h
  have hfeed : '\n' ∉ name ++ (tag ++ slug) := fun hmem => by
    rcases List.mem_cons.1 (forall_mem_of_splitLine? hsplit _ hmem) with hspace | hmem
    · cases hspace
    · exact Text.not_mem_of_mem_lines hline hmem
  simp only [List.mem_append, not_or] at hfeed
  obtain ⟨hname, htag, hslug⟩ := hfeed
  have hpage : '\n' ∉ (Backend.resolve (String.ofList tag) (String.ofList slug) .empty).toList :=
    fun hmem => (Backend.Kind.feed_mem_url hmem).elim (by simpa using hslug) (by simp)
  simp [hname, htag, hslug, hpage]

/-- The table of a listing always has one line for each record, and the pages decide whether this is a
row of two cells. -/
theorem markdown_ofListing (text : String) :
    Text.lines (markdown (ofListing text)).toList
        = headLines ++ (ofListing text).map Record.line
      ∧ ∀ record ∈ ofListing text, bareBars record.line = 3
        ↔ ∀ link ∈ record.backends, bareBars link.url.toList = 0 := by
  refine ⟨(lines_markdown_iff _).2 fun record => feed_not_mem_line, fun record hrecord => ?_⟩
  rw [bareBars_line_iff, shown_of_mem_ofListing hrecord]

end Catalog.Tool
