import Catalog.Tool.Record

/-!
The table of tools and backends: written as Markdown, and read from the lines of a live listing.
Such a line holds a name, spaces and a descriptor; the clause of the descriptor is passed over.
-/

namespace Catalog.Tool

/-- Text of a table cell: a bar would end the cell. -/
def escapeCell (s : String) : String :=
  String.ofList (s.toList.flatMap fun c => if c = '|' then ['\\', '|'] else [c])

/-- A backend in a cell: a link to its page, or its name as code. -/
def Link.markdown (link : Link) : String :=
  if link.url = "" then "`" ++ escapeCell link.name ++ "`"
  else "[" ++ escapeCell link.name ++ "](" ++ link.url ++ ")"

/-- The row of a record. Backends without a name are left out. -/
def Record.markdownRow (record : Record) : String :=
  let links := (record.backends.filter (·.name ≠ "")).map Link.markdown
  "| " ++ escapeCell record.name ++ " | " ++ String.intercalate " " links ++ " |\n"

/-- The head of the table. -/
def markdownHead : String :=
  "| Tool | Backends |\n| ---- | -------- |\n"

/-- The table of a list of records. -/
def markdown (records : List Record) : String :=
  markdownHead ++ String.join (records.map Record.markdownRow)

/-- A text without the spaces at its end. -/
def dropFinalSpaces (s : List Char) : List Char :=
  (s.reverse.dropWhile (· = ' ')).reverse

/-- The tag and the slug of the descriptor at the end of a line. Spaces after it do not count, but
the slug has at least one character. -/
def lineDescriptor? (s : List Char) : Option (List Char × List Char) :=
  match Backend.Descriptor.cutLate? ':' s with
  | some (tag, c :: rest) =>
    some (tag, (Backend.Descriptor.splitClause (c :: dropFinalSpaces rest)).1)
  | _ => none

/-- The name, the tag and the slug of a line, whose first character belongs to the name in any case.
The name ends before the first space after it: if no descriptor follows there, none follows later.
The tag may start with the last of several spaces, which it needs if a colon comes next. -/
def splitLine? : List Char → Option (List Char × List Char × List Char)
  | [] => none
  | first :: rest =>
    let name := first :: rest.takeWhile (· ≠ ' ')
    let behind := rest.dropWhile (· ≠ ' ')
    let spaces := behind.takeWhile (· = ' ')
    let text := behind.dropWhile (· = ' ')
    let found :=
      match spaces with
      | [] => none
      | [_] => lineDescriptor? text
      | _ => (lineDescriptor? text).or (lineDescriptor? (' ' :: text))
    found.map fun (tag, slug) => (name, tag, slug)

/-- The record of a line; nothing if the line has another form. -/
def Record.ofLine? (line : List Char) : Option Record :=
  (splitLine? line).map fun (name, tag, slug) =>
    let tag := String.ofList tag
    let slug := String.ofList slug
    { name := String.ofList name
      backends := [⟨tag ++ ":" ++ slug, Backend.resolve tag slug .empty, []⟩] }

/-- The records of a listing, one for each line that has the form. -/
def ofListing (text : String) : List Record :=
  (Text.lines text.toList).filterMap Record.ofLine?

/-- The lines of a listing that are skipped although they are not blank. -/
def skippedLines (text : String) : List String :=
  ((Text.lines text.toList).filter fun line =>
    (Record.ofLine? line).isNone && !Text.allBlank line).map String.ofList

end Catalog.Tool
