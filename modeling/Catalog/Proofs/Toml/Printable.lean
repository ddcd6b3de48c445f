import Catalog.Proofs.Json.Document
import Catalog.Proofs.Result
import Catalog.Proofs.Toml.Assembly
import Catalog.Proofs.Toml.Undated

/-!
What a document becomes as JSON has a text. The grammar lets in no whole number of more than 64 bits, and
floats that are no finite numbers become null.
-/

namespace Catalog.Toml

open Json (HasText fitsWord)

namespace Value

/-- The JSON value of a value has a text. -/
abbrev Printable (value : Value) : Prop :=
  value.toJson.Every HasText fun _ => True

theorem itemsToJson_eq_map (items : List Value) : itemsToJson items = items.map toJson := by
  induction items with
  | nil => rfl
  | cons item rest ih => rw [itemsToJson, ih, List.map_cons]

theorem entriesToJson_eq_map (entries : Table) :
    entriesToJson entries = entries.map fun (key, value) => (key, value.toJson) := by
  induction entries with
  | nil => rfl
  | cons entry rest ih => rw [entriesToJson, ih, List.map_cons]

theorem printable_array {items : List Value} :
    (array items).Printable ↔ ∀ item ∈ items, item.Printable := by
  rw [Printable, toJson, Json.every_arr, itemsToJson_eq_map, List.forall_mem_map]

theorem printable_table {entries : Table} :
    (table entries).Printable ↔ ∀ entry ∈ entries, entry.2.Printable := by
  rw [Printable, toJson, Json.every_obj, entriesToJson_eq_map, List.forall_mem_map, true_and]

theorem printable_float (x : Float) : (float x).Printable := by
  rw [Printable, toJson]
  split
  · assumption
  · trivial

end Value

theorem inherited_printable : Inherited Value.Printable fun _ => True where
  array _ := Value.printable_array
  table _ := by rw [Value.printable_table, true_and]
  nil := trivial
  extended _ _ := trivial
  filter _ _ := trivial

/-! ### Readers -/

namespace Reader

variable {α β : Type} {P : α → Prop} {Q : β → Prop}

/-- What a reader gives has a property. -/
def Yields (P : α → Prop) (reader : Reader α) : Prop :=
  ∀ ⦃s a rest⦄, reader.run s = .ok (a, rest) → P a

theorem yields_pure {a : α} (h : P a) : Yields P (pure a) := by
  intro s a' rest hrun
  cases hrun
  exact h

theorem yields_stop : Yields P stop :=
  nofun

theorem yields_bind {reader : Reader α} {next : α → Reader β} (hreader : reader.Yields P)
    (hnext : ∀ a, P a → (next a).Yields Q) : Yields Q (reader >>= next) := by
  intro s b rest hrun
  rw [StateT.run_bind] at hrun
  obtain ⟨⟨a, middle⟩, ha, hb⟩ := Result.bind_eq_ok.1 hrun
  exact hnext a (hreader ha) hb

theorem yields_of_forall {reader : Reader α} {next : α → Reader β} (h : ∀ a, (next a).Yields Q) :
    Yields Q (reader >>= next) :=
  yields_bind (P := fun _ => True) (fun _ _ _ _ => trivial) fun a _ => h a

theorem yields_ite {p : Prop} [Decidable p] {first second : Reader α} (hfirst : p → first.Yields P)
    (hsecond : ¬ p → second.Yields P) : Yields P (if p then first else second) := by
  split
  · exact hfirst ‹_›
  · exact hsecond ‹_›

theorem yields_many {more : List Char → Bool} {item : Reader α} (h : item.Yields P) :
    ∀ bound, (many more item bound).Yields fun items => ∀ a ∈ items, P a
  | [] => yields_pure nofun
  | _ :: bound => by
    rw [many]
    refine yields_of_forall fun s => yields_ite (fun _ => ?_) fun _ => yields_pure nofun
    refine yields_bind h fun first hfirst => yields_bind (yields_many h bound) fun later hlater => ?_
    exact yields_pure (List.forall_mem_cons.2 ⟨hfirst, hlater⟩)

theorem yields_repeatWhile {more : List Char → Bool} {item : Reader α} (h : item.Yields P) :
    (repeatWhile more item).Yields fun items => ∀ a ∈ items, P a :=
  yields_of_forall fun s => yields_many h s

end Reader

open Reader

/-! ### Numbers -/

theorem yields_integerOf (negative : Bool) (magnitude : Nat) :
    (integerOf negative magnitude).Yields fitsWord := by
  have hlimit : integerLimit = 2 ^ 63 - 1 := rfl
  unfold integerOf
  split <;> refine yields_ite (fun _ => yields_pure ?_) fun _ => yields_stop
  · unfold fitsWord
    omega
  · unfold fitsWord
    omega

/-- An expression whose scalars are printable. -/
abbrev Expr.Printable : Expr → Prop :=
  Expr.EveryScalar Value.Printable

theorem yields_integer (negative : Bool) (magnitude : Nat) :
    Yields Expr.Printable (do return .integer (← integerOf negative magnitude)) :=
  yields_bind (yields_integerOf negative magnitude) fun _ h => yields_pure h

theorem yields_float (reader : Reader Float) : Yields Expr.Printable (do return .float (← reader)) :=
  yields_of_forall fun x => yields_pure (Value.printable_float x)

theorem yields_decimalNumber (negative : Bool) : (decimalNumber negative).Yields Expr.Printable := by
  refine yields_of_forall fun whole => yields_of_forall fun point => yields_ite (fun _ => ?_) fun _ => ?_
  · exact yields_of_forall fun fraction => yields_of_forall fun exponent => yields_float _
  · refine yields_of_forall fun exponent => ?_
    split
    · exact yields_float _
    · exact yields_integer negative _

theorem yields_base (base : Nat) : Yields Expr.Printable
    (do return .integer (← integerOf false (baseValue base (← digitRun base)))) :=
  yields_of_forall fun _ => yields_integer false _

theorem yields_number : number.Yields Expr.Printable := by
  refine yields_of_forall fun negative => ?_
  extract_lets behindSign
  have hbehindSign : ∀ signed, (behindSign signed).Yields Expr.Printable := by
    intro signed
    refine yields_of_forall fun _ => yields_ite
      (fun _ => yields_pure (Value.printable_float _)) fun _ => ?_
    refine yields_of_forall fun _ => yields_ite
      (fun _ => yields_pure (Value.printable_float _)) fun _ => ?_
    refine yields_ite (fun _ => yields_decimalNumber negative) fun _ => ?_
    refine yields_of_forall fun _ => yields_ite (fun _ => yields_base 16) fun _ => ?_
    refine yields_of_forall fun _ => yields_ite (fun _ => yields_base 8) fun _ => ?_
    exact yields_of_forall fun _ => yields_ite (fun _ => yields_base 2) fun _ =>
      yields_decimalNumber false
  exact yields_ite (fun _ => hbehindSign true) fun _ => yields_of_forall hbehindSign

/-! ### Values -/

theorem yields_scalar (s : List Char) : (scalar s).Yields Expr.Printable := by
  unfold scalar
  split
  · exact yields_of_forall fun _ => yields_pure trivial
  · exact yields_of_forall fun _ => yields_pure trivial
  · exact yields_of_forall fun _ => yields_pure trivial
  · exact yields_of_forall fun _ => yields_pure trivial
  · exact yields_ite (fun _ => yields_of_forall fun _ => yields_pure trivial) fun _ => yields_number

theorem yields_separated {α : Type} {P : α → Prop} {item : Reader α} (h : item.Yields P)
    (trailing : Bool) (blanks : Reader Unit) (closing : Char) :
    (separated trailing blanks closing item).Yields fun items => ∀ a ∈ items, P a := by
  refine yields_of_forall fun _ => yields_of_forall fun _ => yields_ite
    (fun _ => yields_pure nofun) fun _ => ?_
  refine yields_bind h fun first hfirst => yields_of_forall fun _ => ?_
  have hnext : Yields P (do
      exactly [',']
      blanks
      let next ← item
      blanks
      return next) :=
    yields_of_forall fun _ => yields_of_forall fun _ => yields_bind h fun next hnext =>
      yields_of_forall fun _ => yields_pure hnext
  refine yields_bind (yields_repeatWhile hnext) fun later hlater => ?_
  have hall := List.forall_mem_cons.2 ⟨hfirst, hlater⟩
  refine yields_ite (fun _ => ?_) fun _ => yields_pure hall
  exact yields_of_forall fun _ => yields_of_forall fun _ => yields_pure hall

theorem everyScalarItem_iff {P : Value → Prop} (items : List Expr) :
    Expr.EveryScalarItem P items ↔ ∀ item ∈ items, item.EveryScalar P := by
  induction items with
  | nil => simp [Expr.EveryScalarItem]
  | cons item rest ih => simp [Expr.EveryScalarItem, ih]

theorem everyScalarEntry_iff {P : Value → Prop} (entries : List (List String × String × Expr)) :
    Expr.EveryScalarEntry P entries ↔ ∀ entry ∈ entries, entry.2.2.EveryScalar P := by
  induction entries with
  | nil => simp [Expr.EveryScalarEntry]
  | cons entry rest ih => simp [Expr.EveryScalarEntry, ih]

theorem yields_bracesEntry {reader : Reader Expr} (h : reader.Yields Expr.Printable) :
    (bracesEntry reader).Yields fun entry => entry.2.2.Printable :=
  yields_of_forall fun _ => yields_of_forall fun _ => yields_of_forall fun _ =>
    yields_bind h fun _ hvalue => yields_pure hvalue

theorem yields_value : ∀ depth, (value depth).Yields Expr.Printable
  | 0 => yields_of_forall yields_scalar
  | depth + 1 => by
    have ih := yields_value depth
    refine yields_of_forall fun s => ?_
    split
    · refine yields_of_forall fun _ => yields_bind (yields_separated ih true _ _) fun items hitems => ?_
      exact yields_of_forall fun _ => yields_pure ((everyScalarItem_iff items).2 hitems)
    · refine yields_of_forall fun _ =>
        yields_bind (yields_separated (yields_bracesEntry ih) false _ _) fun entries hentries => ?_
      exact yields_of_forall fun _ => yields_pure ((everyScalarEntry_iff entries).2 hentries)
    · exact yields_scalar _

/-! ### Documents -/

theorem yields_bareStatement : bareStatement.Yields (Statement.EveryScalar Value.Printable) := by
  refine yields_of_forall fun _ => yields_ite (fun _ => yields_of_forall fun _ => yields_pure trivial)
    fun _ => ?_
  refine yields_of_forall fun _ => yields_ite (fun _ => yields_of_forall fun _ => yields_pure trivial)
    fun _ => ?_
  exact yields_of_forall fun _ => yields_of_forall fun _ => yields_of_forall fun _ =>
    yields_bind (yields_value valueDepth) fun _ hvalue => yields_pure hvalue

theorem yields_statements : statements.Yields
    fun statements => ∀ statement ∈ statements, statement.EveryScalar Value.Printable := by
  refine yields_of_forall fun _ => yields_of_forall fun _ => yields_repeatWhile ?_
  refine yields_bind (yields_bind yields_bareStatement fun _ h => yields_of_forall fun _ =>
    yields_pure h) fun _ h => yields_of_forall fun _ => yields_pure h

theorem printable_of_parseStatements {text : String} {statements : List Statement}
    (h : parseStatements text = .ok statements) :
    ∀ statement ∈ statements, statement.EveryScalar Value.Printable := by
  unfold parseStatements at h
  split at h
  · rename_i hrun
    cases h
    exact yields_statements hrun
  all_goals cases h

namespace Value

mutual

theorem printable_of_resolved? : ∀ {value resolved : Value}, value.resolved? = some resolved →
    value.Printable → resolved.Printable
  | string _, _, h, hvalue | integer _, _, h, hvalue | float _, _, h, hvalue
  | boolean _, _, h, hvalue | datetime _, _, h, hvalue => by
    cases h
    exact hvalue
  | array items, _, h, hvalue => by
    obtain ⟨resolved, hresolved, rfl⟩ := Option.map_eq_some_iff.1 h
    exact printable_array.2 (printable_of_resolvedItems? hresolved (printable_array.1 hvalue))
  | table entries, _, h, hvalue => by
    rw [resolved?] at h
    split at h
    · obtain ⟨datetime, -, rfl⟩ := Option.map_eq_some_iff.1 h
      trivial
    · obtain ⟨resolved, hresolved, rfl⟩ := Option.map_eq_some_iff.1 h
      exact printable_table.2 (printable_of_resolvedEntries? hresolved (printable_table.1 hvalue))

theorem printable_of_resolvedItems? : ∀ {items resolved : List Value},
    resolvedItems? items = some resolved → (∀ item ∈ items, item.Printable) →
      ∀ item ∈ resolved, item.Printable
  | [], _, h, _ => by
    cases h
    nofun
  | item :: rest, _, h, hitems => by
    obtain ⟨hitem, hrest⟩ := List.forall_mem_cons.1 hitems
    obtain ⟨first, later, hfirst, hlater, rfl⟩ := resolvedItems?_cons_eq_some.1 h
    exact List.forall_mem_cons.2
      ⟨printable_of_resolved? hfirst hitem, printable_of_resolvedItems? hlater hrest⟩

theorem printable_of_resolvedEntries? : ∀ {entries resolved : Table},
    resolvedEntries? entries = some resolved → (∀ entry ∈ entries, entry.2.Printable) →
      ∀ entry ∈ resolved, entry.2.Printable
  | [], _, h, _ => by
    cases h
    nofun
  | (key, value) :: rest, _, h, hentries => by
    obtain ⟨hvalue, hrest⟩ := List.forall_mem_cons.1 hentries
    obtain ⟨first, later, hfirst, hlater, rfl⟩ := resolvedEntries?_cons_eq_some.1 h
    exact List.forall_mem_cons.2
      ⟨printable_of_resolved? hfirst hvalue, printable_of_resolvedEntries? hlater hrest⟩

end

/-- Date-times are printed as their text anyway. -/
theorem printable_undatedEntries {entries : Table} (h : ∀ entry ∈ entries, entry.2.Printable) :
    ∀ entry ∈ undatedEntries entries, entry.2.Printable := by
  have htable : (table (undatedEntries entries)).Printable := by
    rw [Printable, toJson, entriesToJson_undated, ← toJson]
    exact printable_table.2 h
  exact printable_table.1 htable

end Value

/-- The JSON values of a document have a text. -/
theorem printable_of_parse {text : String} {document : Table} (h : parse text = .ok document) :
    ∀ entry ∈ document, entry.2.Printable := by
  obtain ⟨plain, hplain, hresolve⟩ := Result.bind_eq_ok.1 h
  have htable := of_parsePlain inherited_printable hplain fun _ => printable_of_parseStatements
  unfold resolve at hresolve
  split at hresolve
  · rename_i entries hentries
    cases hresolve
    exact Value.printable_of_resolvedEntries? hentries (Value.printable_table.1 htable)
  · cases hresolve

end Catalog.Toml
