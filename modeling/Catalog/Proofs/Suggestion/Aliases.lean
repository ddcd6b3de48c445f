import Catalog.Proofs.Suggestion.Names
import Catalog.Proofs.Text.Spacing

/-!
Aliases in a listing. Main statement: each line that is not blank gives one suggestion, named by its first
word and described by its other words with single spaces between them, so the text of a command is kept
exactly if it has no other white space than single spaces.
-/

namespace Catalog.Suggestion

variable {line shown other : List Char}

/-- The command of an alias: what stands behind the first word of the line, without the white space
around it. -/
def command (line : List Char) : List Char :=
  Text.trim ((Text.trimStart line).dropWhile (!Text.isBlank ·))

/-- The suggestion for the alias of a line, unless the line is blank. An empty command is not shown. -/
def alias? (line shown : List Char) : Option Suggestion :=
  (firstWord? line).map fun name =>
    { name, description := if shown = [] then none else some (String.ofList shown) }

/-- The aliases of a listing, one for each line that is not blank, with what is to be shown of their
commands. -/
def aliases (shown : List Char → List Char) (listing : String) : List Suggestion :=
  (Text.lines listing.toList).filterMap fun line => alias? line (shown (command line))

/-! ### Lines -/

/-- The words of a line that is not blank are the first one and those of its command. -/
theorem words_eq_cons {c : Char} {rest : List Char} (h : Text.trimStart line = c :: rest) :
    Text.words line = (c :: rest.takeWhile (!Text.isBlank ·)) :: Text.words (command line) := by
  have hc : Text.isBlank c = false :=
    Text.isBlank_of_head?_dropWhile (s := line) (by rw [← Text.trimStart, h]; rfl)
  rw [command, h, Text.words_trim, ← Text.words_trimStart, h, Text.words_cons hc,
    List.dropWhile_cons_of_pos (by simpa using hc)]

theorem command_of_blank (h : Text.trimStart line = []) : command line = [] := by
  rw [command, h]
  rfl

theorem firstWord?_of_blank (h : Text.trimStart line = []) : firstWord? line = none := by
  rw [firstWord?, ← Text.words_trimStart, h]
  rfl

/-- A row gives the words behind its name with single spaces between them. -/
theorem map_wordRow? (line : List Char) :
    ((wordRow? line).map fun row =>
      ({ name := row.1
         description := if row.2 = [] then none else some (String.intercalate " " row.2) } : Suggestion))
      = alias? line (Text.spaced (command line)) := by
  cases hstart : Text.trimStart line with
  | nil =>
    have hnone := firstWord?_of_blank hstart
    rw [alias?, hnone]
    rw [firstWord?_eq, Option.map_eq_none_iff] at hnone
    rw [hnone]
    rfl
  | cons c rest =>
    have hjoined : String.ofList (Text.spaced (command line))
        = String.intercalate " " ((Text.words (command line)).map String.ofList) := by
      rw [← String.toList_inj, String.toList_intercalate, String.toList_ofList, List.map_map, Text.spaced]
      simp [Function.comp_def]
    rw [alias?, firstWord?, wordRow?, words_eq_cons hstart]
    simp [hjoined, Text.spaced_eq_nil_iff]

theorem ofAliases_eq (listing : String) : ofAliases listing = aliases Text.spaced listing := by
  rw [ofAliases, wordRows_eq, List.map_filterMap, aliases]
  exact List.filterMap_congr fun line _ => map_wordRow? line

/-! ### Commands that are kept -/

theorem alias?_eq_none_iff : alias? line shown = none ↔ firstWord? line = none :=
  Option.map_eq_none_iff

/-- Only a blank line does not show what is to be shown. -/
theorem alias?_inj : alias? line shown = alias? line other ↔ firstWord? line = none ∨ shown = other := by
  cases hname : firstWord? line with
  | none => simp [alias?, hname]
  | some name =>
    by_cases hshown : shown = [] <;> by_cases hother : other = [] <;>
      simp [alias?, hname, hshown, hother, String.ofList_inj, eq_comm]

theorem command_of_noWord (h : firstWord? line = none) : command line = [] := by
  cases hstart : Text.trimStart line with
  | nil => exact command_of_blank hstart
  | cons c rest =>
    rw [firstWord?, words_eq_cons hstart] at h
    cases h

/-- A command is kept if it has no other white space than single spaces, and only then. -/
theorem alias?_spaced_iff (line : List Char) :
    alias? line (Text.spaced (command line)) = alias? line (command line)
      ↔ Text.SingleSpaced (command line) := by
  have hself : Text.spaced (command line) = command line ↔ Text.SingleSpaced (command line) :=
    Text.spaced_eq_self_iff (Text.isTrimmed_trim _)
  rw [alias?_inj, hself, or_iff_right_iff_imp]
  intro hblank
  rw [command_of_noWord hblank]
  exact Text.singleSpaced_nil

/-- Two readings of lines give the same if they do line by line, as long as they leave out the same
lines. -/
theorem filterMap_inj_iff {α β : Type} {f g : α → Option β} (h : ∀ a, f a = none ↔ g a = none) :
    ∀ {items : List α}, items.filterMap f = items.filterMap g ↔ ∀ a ∈ items, f a = g a
  | [] => by simp
  | a :: rest => by
    rw [List.forall_mem_cons, ← filterMap_inj_iff h, List.filterMap_cons, List.filterMap_cons]
    have ha := h a
    cases hf : f a <;> cases hg : g a <;> simp_all

/-- Each line of a listing that is not blank gives one suggestion, in order, named by its first word. Of its
command all words are shown, with single spaces between them; so the texts of all commands are kept if and
only if they have no other white space than single spaces. -/
theorem aliases_by_line (listing : String) :
    Generator.shellAliases.read listing = .ok (aliases Text.spaced listing)
      ∧ (Generator.shellAliases.read listing = .ok (aliases id listing)
          ↔ ∀ line ∈ Text.lines listing.toList, Text.SingleSpaced (command line))
      ∧ ∀ line, firstWord? line = none ↔ Text.allBlank line = true := by
  have hread : Generator.shellAliases.read listing = .ok (aliases Text.spaced listing) :=
    congrArg Except.ok (ofAliases_eq listing)
  refine ⟨hread, ?_, fun line => firstWord?_eq_none_iff⟩
  rw [hread, Except.ok.injEq, aliases, aliases, filterMap_inj_iff]
  · simp only [id_eq, alias?_spaced_iff]
  · intro line
    rw [alias?_eq_none_iff, alias?_eq_none_iff]

/-- An alias for a command with a quoted argument, in which two spaces stand side by side. -/
def quotedAlias : String :=
  "greet   echo 'a  b'\n"

/-- What was quoted is changed. -/
theorem read_quotedAlias :
    Generator.shellAliases.read quotedAlias
        = .ok [{ name := "greet", description := some "echo 'a b'" }]
      ∧ aliases id quotedAlias = [{ name := "greet", description := some "echo 'a  b'" }]
      ∧ Generator.shellAliases.read quotedAlias ≠ .ok (aliases id quotedAlias) := by
  decide +kernel

end Catalog.Suggestion
