import Catalog.Proofs.Backend.Descriptor
import Catalog.Proofs.Keyed
import Catalog.Proofs.Text.Split

/-!
The options in the clause of a descriptor. A clause is pieces between commas; each piece gives at most one
option, and of several pieces that give an option of one name the last one counts. Main statement: a name
has a value in a parsed descriptor exactly if the last piece that gives an option of this name gives it
this value.
-/

namespace Catalog.Backend

/-- Looking up in the entries from the back is looking up, as no name stands twice. -/
theorem Options.get?_reverse (options : Options) (name : String) :
    Keyed.get? options.entries.reverse name = options.get? name :=
  Keyed.get?_eq_of_perm options.nodup_keys options.entries.reverse_perm.symm name

namespace Descriptor

variable {piece clause : List Char} {pieces : List (List Char)} {name value raw : String}

/-- The option that a piece of a clause gives: a name and a value on the two sides of the first equals
sign, or a name alone, whose value is empty. White space around a name and a value does not count, and a
blank piece gives no option. -/
inductive Gives : List Char → String → String → Prop
  | pair {before : List Char} (after : List Char) (h : '=' ∉ before) :
    Gives (before ++ '=' :: after) (String.ofList (Text.trim before)) (String.ofList (Text.trim after))
  | flag {piece : List Char} (h : '=' ∉ piece) (hblank : Text.allBlank piece = false) :
    Gives piece (String.ofList (Text.trim piece)) ""

/-- The last of the pieces that give an option of a name gives it this value. -/
inductive LastGives (name value : String) : List (List Char) → Prop
  | last {piece : List Char} {later : List (List Char)} (h : Gives piece name value)
    (hlater : ∀ piece ∈ later, ∀ other, ¬ Gives piece name other) : LastGives name value (piece :: later)
  | later (piece : List Char) {later : List (List Char)} (h : LastGives name value later) :
    LastGives name value (piece :: later)

/-- The clause of a descriptor gives an option. -/
def GivesOption (raw name value : String) : Prop :=
  ∃ tag slug clause, Shortest raw.toList tag slug (some clause)
    ∧ LastGives name value (clause.splitOnP (· = ','))

/-! ### Pieces -/

theorem Gives.not_allBlank (h : Gives piece name value) : Text.allBlank piece = false := by
  cases h with
  | pair after _ =>
    rw [Text.allBlank, List.all_eq_false]
    exact ⟨'=', by simp, by decide⟩
  | flag _ hblank => exact hblank

theorem Gives.optionPair_eq (h : Gives piece name value) : optionPair piece = (name, value) := by
  cases h with
  | pair after h => rw [optionPair, Text.cut?_append h]; rfl
  | flag h _ => rw [optionPair, Text.cut?_eq_none_iff.2 h]; rfl

/-- A piece that is not blank gives one option. -/
theorem gives_iff :
    Gives piece name value ↔ Text.allBlank piece = false ∧ optionPair piece = (name, value) := by
  refine ⟨fun h => ⟨h.not_allBlank, h.optionPair_eq⟩, fun ⟨hblank, hpair⟩ => ?_⟩
  suffices hgives : Gives piece (optionPair piece).1 (optionPair piece).2 by rwa [hpair] at hgives
  unfold optionPair
  cases hcut : Text.cut? '=' piece with
  | none => exact .flag (Text.cut?_eq_none_iff.1 hcut) hblank
  | some sides =>
    obtain ⟨rfl, hbefore⟩ := Text.eq_append_of_cut? hcut
    exact .pair _ hbefore

/-! ### Clauses -/

/-- The options that pieces give, in their order. -/
def given (pieces : List (List Char)) : List (String × String) :=
  (pieces.filter (!Text.allBlank ·)).map optionPair

theorem mem_given_iff : (name, value) ∈ given pieces ↔ ∃ piece ∈ pieces, Gives piece name value := by
  simp [given, gives_iff, and_assoc]

theorem get?_given_eq_none_iff : Keyed.get? (given pieces).reverse name = none
    ↔ ∀ piece ∈ pieces, ∀ value, ¬ Gives piece name value := by
  have hkeys : name ∈ Keyed.keys (given pieces).reverse ↔ ∃ value, (name, value) ∈ given pieces := by
    simp [Keyed.keys]
  rw [Keyed.get?_eq_none_iff, hkeys]
  simp only [mem_given_iff, not_exists, not_and]
  exact ⟨fun h piece hmem value => h value piece hmem, fun h value piece hmem => h piece hmem value⟩

theorem get?_given_singleton :
    Keyed.get? (given [piece]).reverse name = some value ↔ Gives piece name value := by
  rw [gives_iff, given, List.filter_singleton]
  cases Text.allBlank piece with
  | true => simp [Keyed.get?]
  | false => simp [Keyed.get?, Prod.ext_iff]

/-- Of several options of one name the last one counts. -/
theorem get?_given_eq_some_iff : ∀ {pieces : List (List Char)},
    Keyed.get? (given pieces).reverse name = some value ↔ LastGives name value pieces
  | [] => ⟨nofun, nofun⟩
  | piece :: later => by
    have hsplit : given (piece :: later) = given [piece] ++ given later := by
      rw [given, given, given, ← List.map_append, ← List.filter_append, List.singleton_append]
    rw [hsplit, List.reverse_append, Keyed.get?_append, Option.or_eq_some_iff, get?_given_eq_some_iff,
      get?_given_eq_none_iff, get?_given_singleton]
    constructor
    · rintro (h | ⟨hlater, h⟩)
      · exact .later piece h
      · exact .last h hlater
    · rintro (⟨h, hlater⟩ | ⟨_, h⟩)
      · exact .inr ⟨hlater, h⟩
      · exact .inl h

theorem get?_optionsOf_eq_some_iff :
    (optionsOf clause).get? name = some value ↔ LastGives name value (clause.splitOnP (· = ',')) := by
  rw [optionsOf, Options.ofPairs, Options.get?_setAll, Options.get?_empty, Option.or_none]
  exact get?_given_eq_some_iff

/-! ### Descriptors -/

/-- A name has the value that the last piece of the clause with this name gives. -/
theorem get?_parse_eq_some_iff :
    (parse raw).options.get? name = some value ↔ GivesOption raw name value := by
  by_cases hsplits : ∃ tag slug clause, Splits raw.toList tag slug clause
  · obtain ⟨_, _, _, hsplits⟩ := hsplits
    obtain ⟨tag, slug, clause, hshortest⟩ := exists_shortest hsplits
    rw [parse_of_shortest hshortest]
    cases clause with
    | none =>
      refine ⟨nofun, fun ⟨_, _, _, hother, _⟩ => ?_⟩
      obtain ⟨-, -, hclause⟩ := hshortest.unique hother
      cases hclause
    | some clause =>
      refine get?_optionsOf_eq_some_iff.trans ⟨fun h => ⟨tag, slug, clause, hshortest, h⟩, ?_⟩
      rintro ⟨_, _, _, hother, h⟩
      obtain ⟨-, -, hclause⟩ := hshortest.unique hother
      cases hclause
      exact h
  · rw [parse_of_not_splits hsplits]
    refine ⟨nofun, fun ⟨_, _, _, hother, _⟩ => ?_⟩
    exact absurd ⟨_, _, _, hother.toSplits⟩ hsplits

/-- An option beside a descriptor holds if the descriptor does not give it. -/
theorem get?_withDefaults (descriptor : Descriptor) (options : Options) (name : String) :
    (descriptor.withDefaults options).options.get? name
      = (descriptor.options.get? name).or (options.get? name) := by
  rw [withDefaults, Options.get?_setAll, Options.get?_reverse]

/-- Blank pieces are passed over, and the last of two values counts. -/
example : (parse "a:b[x = 1,, x=2 , y]").options.get? "x" = some "2"
    ∧ (parse "a:b[x = 1,, x=2 , y]").options.get? "" = none := by decide

end Descriptor

end Catalog.Backend
