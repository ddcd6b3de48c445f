import Catalog.Backend.Options
import Catalog.Text.Split

/-!
Backend descriptors, written `tag:slug` or `tag:slug[name=value,...]`. The first colon that has
something before it ends the tag; a clause in brackets at the very end carries options. A text of
another form is kept as it is, with an empty tag and slug.
-/

namespace Catalog.Backend

/-- A parsed descriptor with the options that hold for it. -/
structure Descriptor where
  raw : String
  tag : String := ""
  slug : String := ""
  options : Options := .empty
  deriving DecidableEq

namespace Descriptor

/-- The text before and after the first `separator` that is not the first character. -/
def cutLate? (separator : Char) : List Char → Option (List Char × List Char)
  | [] => none
  | c :: rest => (Text.cut? separator rest).map fun (before, after) => (c :: before, after)

/-- The slug and the text in brackets after it. Brackets count only if they end the text and hold
something. -/
def splitClause (s : List Char) : List Char × Option (List Char) :=
  match cutLate? '[' s with
  | some (slug, clause) =>
    if clause.getLast? = some ']' && 2 ≤ clause.length then (slug, some clause.dropLast)
    else (s, none)
  | none => (s, none)

/-- The tag, the slug and the clause of a descriptor. A descriptor is one line. -/
def split? (raw : List Char) : Option (List Char × List Char × Option (List Char)) :=
  if '\n' ∈ raw then none
  else
    match cutLate? ':' raw with
    | some (tag, c :: rest) => some (tag, splitClause (c :: rest))
    | _ => none

/-- The name and the value of a pair: split at the first `=`, without the white space around them. A
pair without `=` has an empty value. -/
def optionPair (pair : List Char) : String × String :=
  let (name, value) := (Text.cut? '=' pair).getD (pair, [])
  (String.ofList (Text.trim name), String.ofList (Text.trim value))

/-- The pairs of a clause, separated by commas; blank ones are skipped. -/
def optionPairs (clause : List Char) : List (String × String) :=
  ((clause.splitOnP (· = ',')).filter (!Text.allBlank ·)).map optionPair

/-- The options of a clause; of equal names the last one counts. -/
def optionsOf (clause : List Char) : Options :=
  .ofPairs (optionPairs clause)

/-- Parses a descriptor. -/
def parse (raw : String) : Descriptor :=
  match split? raw.toList with
  | none => { raw }
  | some (tag, slug, clause) =>
    { raw
      tag := String.ofList tag
      slug := String.ofList slug
      options := (clause.map optionsOf).getD .empty }

/-- Puts options under those of the descriptor, which win where both set a name. -/
def withDefaults (descriptor : Descriptor) (options : Options) : Descriptor :=
  { descriptor with options := options.setAll descriptor.options.entries }

/-- Whether the text has the form of a descriptor. -/
def isParsed (descriptor : Descriptor) : Bool :=
  descriptor.tag ≠ ""

/-- The descriptor without its options; empty if the text has another form. -/
def full (descriptor : Descriptor) : String :=
  if descriptor.tag = "" && descriptor.slug = "" then ""
  else descriptor.tag ++ ":" ++ descriptor.slug

end Descriptor

end Catalog.Backend
