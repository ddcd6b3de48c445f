import Catalog.Text.Blank
import Catalog.Unicode.Alphabetic
import Catalog.Unicode.Case
import Catalog.Unicode.Decomposition
import Catalog.Unicode.Numeric

/-!
The order of names in listings. Four levels decide in turn: the base characters without accents and
case, the accents, the case, and the code points. The last level makes it a strict total order.
-/

namespace Catalog.Collation

/-- The punctuation and symbols of ASCII in their collation order. -/
def punctuation : List Char :=
  " _-,;:!?.'\"()[]\x7b\x7d@*/\\&#%`^+<=>|~$".toList

/-- The weight of a base character: punctuation first, by its place in `punctuation` and white space
as a space; then other characters without a class; then digits; then letters regardless of case. -/
def weight (c : Char) : List Nat :=
  if Unicode.isAlphabetic c then [2, (Unicode.lowercase c).toNat]
  else if Unicode.isNumeric c then [1, c.toNat]
  else if Text.isBlank c then [0, 0, c.toNat]
  else [0, punctuation.idxOf c, c.toNat]

/-- A base character with the marks that follow it. -/
structure Cluster where
  base : Char
  marks : List Char

/-- Marks at the front of the text, and the clusters after them. -/
def splitMarks : List Char → List Char × List Cluster
  | [] => ([], [])
  | c :: rest =>
    let (marks, clusters) := splitMarks rest
    if Unicode.isMark c then (c :: marks, clusters) else ([], ⟨c, marks⟩ :: clusters)

/-- The clusters of a text that is decomposed. A mark with nothing before it is a base itself. -/
def clustersOf : List Char → List Cluster
  | [] => []
  | c :: rest =>
    let (marks, clusters) := splitMarks rest
    ⟨c, marks⟩ :: clusters

/-- The clusters of a name. -/
def clusters (name : String) : List Cluster :=
  clustersOf (Unicode.decomposed name.toList)

/-- First level: the weights of the bases. -/
def weights (name : String) : List (List Nat) :=
  (clusters name).map (weight ·.base)

/-- Second level: the marks of each cluster; a cluster without marks comes first. -/
def accents (name : String) : List (List Char) :=
  (clusters name).map (·.marks)

/-- Third level: which bases are uppercase; lowercase comes first. -/
def cases (name : String) : List Bool :=
  (clusters name).map (Unicode.isUppercase ·.base)

/-- Compares two names as listings order them. -/
def collate : String → String → Ordering :=
  compareLex (compareOn weights) <|
  compareLex (compareOn accents) <|
  compareLex (compareOn cases) compare

/-- The items in the order of their names; items with the same name keep their order. -/
def sortBy (name : α → String) (items : List α) : List α :=
  items.mergeSort fun a b => (collate (name a) (name b)).isLE

end Catalog.Collation
