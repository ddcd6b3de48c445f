import Catalog.Proofs.Toml.Tables

/-!
What all statements together make of a document. Each change to the tables under construction keeps
what the tables get from their entries: entries are altered in place or added under a key that is not
there, and a header moves a table without a copy. So it holds after every statement, and of the document.
In particular, no table of a document has a key twice.
-/

namespace Catalog.Toml

/-! ### Properties of parts -/

/-- A property that an array gets from its items, and a table from its entries and from a property of its
keys that is kept when a key is added or left out. -/
structure Inherited (P : Value → Prop) (K : List String → Prop) : Prop where
  array : ∀ items, P (.array items) ↔ ∀ item ∈ items, P item
  table : ∀ entries, P (.table entries) ↔ K (Keyed.keys entries) ∧ ∀ entry ∈ entries, P entry.2
  nil : K []
  extended : ∀ {keys}, K keys → ∀ key, K (if key ∈ keys then keys else keys ++ [key])
  filter : ∀ {keys}, K keys → ∀ p, K (keys.filter p)

theorem inherited_distinct : Inherited Value.Distinct List.Nodup where
  array _ := Value.everyTable_array
  table _ := Value.everyTable_table
  nil := List.nodup_nil
  extended := Keyed.nodup_extended
  filter h p := h.filter p

mutual

/-- Whether the value of every scalar in an expression has a property. -/
def Expr.EveryScalar (P : Value → Prop) : Expr → Prop
  | .string s => P (.string s)
  | .integer n => P (.integer n)
  | .float x => P (.float x)
  | .boolean b => P (.boolean b)
  | .datetime d => P (.datetime d)
  | .array items => Expr.EveryScalarItem P items
  | .braces entries => Expr.EveryScalarEntry P entries

/-- Whether the value of every scalar in the items has a property. -/
def Expr.EveryScalarItem (P : Value → Prop) : List Expr → Prop
  | [] => True
  | item :: rest => item.EveryScalar P ∧ Expr.EveryScalarItem P rest

/-- Whether the value of every scalar in the entries has a property. -/
def Expr.EveryScalarEntry (P : Value → Prop) : List (List String × String × Expr) → Prop
  | [] => True
  | (_, _, expr) :: rest => expr.EveryScalar P ∧ Expr.EveryScalarEntry P rest

end

/-- Whether the value of every scalar in a statement has a property. -/
def Statement.EveryScalar (P : Value → Prop) : Statement → Prop
  | .entry _ _ expr => expr.EveryScalar P
  | .table _ _ | .element _ _ => True

theorem draftsToTable_eq_map : ∀ drafts : Drafts,
    draftsToTable drafts = drafts.map fun (key, draft) => (key, draft.toValue)
  | [] => rfl
  | (key, draft) :: rest => by rw [draftsToTable, draftsToTable_eq_map rest]; rfl

theorem tablesToValues_eq_map : ∀ tables : List Drafts,
    tablesToValues tables = tables.map fun table => .table (draftsToTable table)
  | [] => rfl
  | table :: rest => by rw [tablesToValues, tablesToValues_eq_map rest]; rfl

/-- The finished table has a property. -/
abbrev Hold (P : Value → Prop) (drafts : Drafts) : Prop :=
  P (.table (draftsToTable drafts))

/-- A change of entries that keeps a property of their table. -/
def Keeps (P : Value → Prop) (change : Drafts → Option Drafts) : Prop :=
  ∀ ⦃drafts new⦄, change drafts = some new → Hold P drafts → Hold P new

/-- A change of the entry at a key, or of nothing, that keeps a property of its value. -/
def KeepsEntry (P : Value → Prop) (change : Option Draft → Option Draft) : Prop :=
  ∀ ⦃old new⦄, change old = some new → (∀ draft ∈ old, P draft.toValue) → P new.toValue

section inherited

variable {P : Value → Prop} {K : List String → Prop} (hP : Inherited P K)

include hP

theorem hold_iff {drafts : Drafts} :
    Hold P drafts ↔ K (Keyed.keys drafts) ∧ ∀ entry ∈ drafts, P entry.2.toValue := by
  rw [Hold, hP.table, draftsToTable_eq_map, List.forall_mem_map]
  simp [Keyed.keys, Function.comp_def]

theorem hold_nil : Hold P [] :=
  (hold_iff hP).2 ⟨hP.nil, nofun⟩

theorem elements_iff {tables : List Drafts} :
    P (Draft.elements tables).toValue ↔ ∀ table ∈ tables, Hold P table := by
  rw [Draft.toValue, hP.array, tablesToValues_eq_map, List.forall_mem_map]

/-! ### Changing one entry -/

omit hP in
theorem keys_alter {change : Option Draft → Option Draft} {key : String} :
    ∀ {drafts new : Drafts}, alter change key drafts = some new →
      Keyed.keys new
        = if key ∈ Keyed.keys drafts then Keyed.keys drafts else Keyed.keys drafts ++ [key]
  | [], new, h => by
    simp only [alter, Option.map_eq_some_iff] at h
    obtain ⟨draft, -, rfl⟩ := h
    simp [Keyed.keys]
  | (name, draft) :: rest, new, h => by
    rw [alter] at h
    split at h
    · rename_i hname
      obtain ⟨draft', -, rfl⟩ := Option.map_eq_some_iff.1 h
      simp [Keyed.keys, hname]
    · rename_i hname
      obtain ⟨rest', hrest, rfl⟩ := Option.map_eq_some_iff.1 h
      have ih := keys_alter hrest
      have hne : ¬ key = name := fun he => hname he.symm
      simp only [Keyed.keys, List.map_cons, List.mem_cons, hne, false_or] at ih ⊢
      rw [ih]
      by_cases hm : key ∈ List.map (·.1) rest <;> simp [hm]

omit hP in
theorem forall_mem_alter {change : Option Draft → Option Draft} {key : String}
    (hchange : KeepsEntry P change) : ∀ {drafts new : Drafts}, alter change key drafts = some new →
      (∀ entry ∈ drafts, P entry.2.toValue) → ∀ entry ∈ new, P entry.2.toValue
  | [], new, h, _ => by
    obtain ⟨draft, hdraft, rfl⟩ := Option.map_eq_some_iff.1 h
    have := hchange hdraft (by simp)
    simpa using this
  | (name, draft) :: rest, new, h, hall => by
    obtain ⟨hhead, hrest⟩ := List.forall_mem_cons.1 hall
    rw [alter] at h
    split at h
    · obtain ⟨draft', hdraft, rfl⟩ := Option.map_eq_some_iff.1 h
      refine List.forall_mem_cons.2 ⟨hchange hdraft ?_, hrest⟩
      simpa using hhead
    · obtain ⟨rest', halter, rfl⟩ := Option.map_eq_some_iff.1 h
      exact List.forall_mem_cons.2 ⟨hhead, forall_mem_alter hchange halter hrest⟩

theorem keeps_alter {change : Option Draft → Option Draft} (hchange : KeepsEntry P change)
    (key : String) : Keeps P (alter change key) := by
  intro drafts new h hdrafts
  obtain ⟨hkeys, hall⟩ := (hold_iff hP).1 hdrafts
  refine (hold_iff hP).2 ⟨?_, forall_mem_alter hchange h hall⟩
  rw [keys_alter h]
  exact hP.extended hkeys key

omit hP in
theorem forall_mem_alterLast {change : Drafts → Option Drafts} (hchange : Keeps P change) :
    ∀ {tables new : List Drafts}, alterLast change tables = some new →
      (∀ table ∈ tables, Hold P table) → ∀ table ∈ new, Hold P table
  | [], new, h, _ => by cases h
  | [table], new, h, hall => by
    obtain ⟨table', htable, rfl⟩ := Option.map_eq_some_iff.1 h
    have := hchange htable (hall table (by simp))
    simpa using this
  | table :: next :: rest, new, h, hall => by
    obtain ⟨hhead, hrest⟩ := List.forall_mem_cons.1 hall
    obtain ⟨rest', hlast, rfl⟩ := Option.map_eq_some_iff.1 h
    exact List.forall_mem_cons.2 ⟨hhead, forall_mem_alterLast hchange hlast hrest⟩

/-! ### What a statement does -/

omit hP in
theorem of_map_table {change : Drafts → Option Drafts} (hchange : Keeps P change)
    {origin : Origin} {inner : Drafts} {new : Draft}
    (h : (change inner).map (.table origin) = some new) (hinner : Hold P inner) :
    P new.toValue := by
  obtain ⟨inner', hinner', rfl⟩ := Option.map_eq_some_iff.1 h
  exact hchange hinner' hinner

theorem of_map_elements {change : Drafts → Option Drafts} (hchange : Keeps P change)
    {tables : List Drafts} {new : Draft} (h : (alterLast change tables).map .elements = some new)
    (htables : P (Draft.elements tables).toValue) : P new.toValue := by
  obtain ⟨tables', htables', rfl⟩ := Option.map_eq_some_iff.1 h
  have hall := (elements_iff hP).1 htables
  exact (elements_iff hP).2 (forall_mem_alterLast hchange htables' hall)

theorem keeps_addEntry (key : String) {value : Value} (hvalue : P value) :
    ∀ path : List String, Keeps P (addEntry key value path)
  | [] => by
    refine keeps_alter hP ?_ key
    intro old new h _
    dsimp only at h
    split at h
    · cases h
      exact hvalue
    · cases h
  | name :: path => by
    have ih := keeps_addEntry key hvalue path
    refine keeps_alter hP ?_ name
    intro old new h hold
    dsimp only at h
    split at h
    · exact of_map_table ih h (hold_nil hP)
    · exact of_map_table ih h (hold _ rfl)
    -- a table that was mentioned, or an array of tables, is only led through
    · split at h
      · cases h
      · exact of_map_table ih h (hold _ rfl)
    · split at h
      · cases h
      · exact of_map_elements hP ih h (hold _ rfl)
    · cases h
    · cases h

theorem keeps_inside {change : Drafts → Option Drafts} (hchange : Keeps P change) :
    ∀ path : List String, Keeps P (inside change path)
  | [] => hchange
  | name :: path => by
    have ih := keeps_inside hchange path
    refine keeps_alter hP ?_ name
    intro old new h hold
    dsimp only at h
    split at h
    · exact of_map_table ih h (hold_nil hP)
    · exact of_map_table ih h (hold _ rfl)
    · exact of_map_elements hP ih h (hold _ rfl)
    · cases h

theorem hold_concat {drafts : Drafts} (hdrafts : Hold P drafts) {key : String}
    (hkey : key ∉ Keyed.keys drafts) {draft : Draft} (hdraft : P draft.toValue) :
    Hold P (drafts ++ [(key, draft)]) := by
  obtain ⟨hkeys, hall⟩ := (hold_iff hP).1 hdrafts
  refine (hold_iff hP).2 ⟨?_, ?_⟩
  · have h := hP.extended hkeys key
    rw [if_neg hkey] at h
    simpa [Keyed.keys] using h
  · exact List.forall_mem_append.2 ⟨hall, by simpa using hdraft⟩

theorem hold_erase {drafts : Drafts} (hdrafts : Hold P drafts) (key : String) :
    Hold P (Keyed.erase drafts key) := by
  obtain ⟨hkeys, hall⟩ := (hold_iff hP).1 hdrafts
  refine (hold_iff hP).2 ⟨?_, fun entry hmem => hall entry (List.mem_filter.1 hmem).1⟩
  rw [Keyed.keys_erase]
  exact hP.filter hkeys _

theorem keeps_openTable (key : String) : Keeps P (openTable key) := by
  intro drafts new h hdrafts
  unfold openTable at h
  split at h
  · rename_i habsent
    cases h
    exact hold_concat hP hdrafts (Keyed.get?_eq_none_iff.1 habsent) (hold_nil hP)
  · rename_i inner hfound
    cases h
    have hinner := ((hold_iff hP).1 hdrafts).2 _ (Keyed.mem_of_get? hfound)
    refine hold_concat hP (hold_erase hP hdrafts key) ?_ hinner
    simp [Keyed.keys_erase]
  · cases h

theorem keeps_openElement (key : String) : Keeps P (openElement key) := by
  refine keeps_alter hP ?_ key
  intro old new h hold
  dsimp only at h
  split at h
  · cases h
    exact (elements_iff hP).2 (by simpa using hold_nil hP)
  · cases h
    have hall := (elements_iff hP).1 (hold _ rfl)
    exact (elements_iff hP).2 (List.forall_mem_append.2 ⟨hall, by simpa using hold_nil hP⟩)
  · cases h

end inherited

mutual

theorem of_eval? {P : Value → Prop} {K : List String → Prop} (hP : Inherited P K) :
    ∀ {expr : Expr} {value : Value}, expr.EveryScalar P → expr.eval? = some value → P value
  | .string _, _, hexpr, h | .integer _, _, hexpr, h | .float _, _, hexpr, h
  | .boolean _, _, hexpr, h | .datetime _, _, hexpr, h => by
    cases h
    exact hexpr
  | .array items, value, hexpr, h => by
    obtain ⟨values, hvalues, rfl⟩ := Option.map_eq_some_iff.1 h
    exact (hP.array _).2 (of_evalItems? hP hexpr hvalues)
  | .braces entries, value, hexpr, h => by
    obtain ⟨drafts, hdrafts, rfl⟩ := Option.map_eq_some_iff.1 h
    exact hold_of_evalEntries? hP hexpr hdrafts (hold_nil hP)

theorem of_evalItems? {P : Value → Prop} {K : List String → Prop} (hP : Inherited P K) :
    ∀ {items : List Expr} {values : List Value}, Expr.EveryScalarItem P items →
      evalItems? items = some values → ∀ value ∈ values, P value
  | [], _, _, h => by
    cases h
    simp
  | item :: rest, values, hitems, h => by
    simp only [evalItems?, Option.bind_eq_bind, Option.bind_eq_some_iff, Option.pure_def,
      Option.some.injEq] at h
    obtain ⟨value, hvalue, values', hrest, rfl⟩ := h
    exact List.forall_mem_cons.2 ⟨of_eval? hP hitems.1 hvalue, of_evalItems? hP hitems.2 hrest⟩

theorem hold_of_evalEntries? {P : Value → Prop} {K : List String → Prop} (hP : Inherited P K) :
    ∀ {entries : List (List String × String × Expr)} {drafts new : Drafts},
      Expr.EveryScalarEntry P entries → evalEntries? entries drafts = some new →
      Hold P drafts → Hold P new
  | [], _, _, _, h, hdrafts => by
    cases h
    exact hdrafts
  | (path, key, expr) :: rest, drafts, new, hentries, h, hdrafts => by
    simp only [evalEntries?, Option.bind_eq_bind, Option.bind_eq_some_iff] at h
    obtain ⟨value, hvalue, next, hnext, hrest⟩ := h
    have hadded := keeps_addEntry hP key (of_eval? hP hentries.1 hvalue) path hnext hdrafts
    exact hold_of_evalEntries? hP hentries.2 hrest hadded

end

/-! ### The whole document -/

section document

variable {P : Value → Prop} {K : List String → Prop} (hP : Inherited P K)

include hP

/-- All that a statement does is one change inside a table, which keeps what tables get from their
entries. -/
theorem Assembly.exists_inside_of_add? {assembly next : Assembly} {statement : Statement}
    (hstatement : statement.EveryScalar P) (h : assembly.add? statement = some next) :
    ∃ change path, Keeps P change ∧ inside change path assembly.drafts = some next.drafts := by
  cases statement <;>
    simp only [add?, Option.bind_eq_bind, Option.bind_eq_some_iff, Option.pure_def,
      Option.some.injEq] at h
  case entry path key expr =>
    obtain ⟨value, hvalue, drafts, hinside, rfl⟩ := h
    exact ⟨_, _, keeps_addEntry hP key (of_eval? hP hstatement hvalue) path, hinside⟩
  case table path key =>
    obtain ⟨drafts, hinside, rfl⟩ := h
    exact ⟨_, _, keeps_openTable hP key, hinside⟩
  case element path key =>
    obtain ⟨drafts, hinside, rfl⟩ := h
    exact ⟨_, _, keeps_openElement hP key, hinside⟩

theorem Assembly.hold_of_add? {assembly next : Assembly} {statement : Statement}
    (hstatement : statement.EveryScalar P) (h : assembly.add? statement = some next)
    (hdrafts : Hold P assembly.drafts) : Hold P next.drafts := by
  obtain ⟨change, path, hchange, hinside⟩ := exists_inside_of_add? hP hstatement h
  exact keeps_inside hP hchange path hinside hdrafts

/-- A run of statements keeps what tables get from their entries. -/
theorem Assembly.hold_of_foldlM : ∀ {statements : List Statement} {assembly last : Assembly},
    (∀ statement ∈ statements, statement.EveryScalar P) →
    statements.foldlM Assembly.add? assembly = some last → Hold P assembly.drafts →
      Hold P last.drafts
  | [], _, _, _, h, hdrafts => by
    cases h
    exact hdrafts
  | statement :: rest, assembly, last, hstatements, h, hdrafts => by
    obtain ⟨hhead, hlater⟩ := List.forall_mem_cons.1 hstatements
    simp only [List.foldlM_cons, Option.bind_eq_bind, Option.bind_eq_some_iff] at h
    obtain ⟨next, hnext, hrest⟩ := h
    exact hold_of_foldlM hlater hrest (hold_of_add? hP hhead hnext hdrafts)

theorem of_assemble? {statements : List Statement} {document : Table}
    (hstatements : ∀ statement ∈ statements, statement.EveryScalar P)
    (h : assemble? statements = some document) : P (.table document) := by
  simp only [assemble?, Option.bind_eq_bind, Option.bind_eq_some_iff, Option.pure_def,
    Option.some.injEq] at h
  obtain ⟨assembly, hassembly, rfl⟩ := h
  exact Assembly.hold_of_foldlM hP hstatements hassembly (hold_nil hP)

/-- A document has a property of this kind if the scalars of its statements have it. -/
theorem of_parsePlain {text : String} {document : Table} (h : parsePlain text = .ok document)
    (hstatements : ∀ statements, parseStatements text = .ok statements →
      ∀ statement ∈ statements, statement.EveryScalar P) : P (.table document) := by
  unfold parsePlain at h
  cases hparse : parseStatements text with
  | error fault => simp [hparse, bind, Except.bind] at h
  | ok statements =>
    simp only [hparse, bind, Except.bind] at h
    split at h
    · rename_i table hassemble
      cases h
      exact of_assemble? hP (hstatements _ hparse) hassemble
    · cases h

end document

/-! ### Keys -/

mutual

theorem everyScalar_distinct : ∀ expr : Expr, expr.EveryScalar Value.Distinct
  | .string _ | .integer _ | .float _ | .boolean _ | .datetime _ => trivial
  | .array items => everyScalarItem_distinct items
  | .braces entries => everyScalarEntry_distinct entries

theorem everyScalarItem_distinct : ∀ items : List Expr, Expr.EveryScalarItem Value.Distinct items
  | [] => trivial
  | item :: rest => ⟨everyScalar_distinct item, everyScalarItem_distinct rest⟩

theorem everyScalarEntry_distinct : ∀ entries : List (List String × String × Expr),
    Expr.EveryScalarEntry Value.Distinct entries
  | [] => trivial
  | (_, _, expr) :: rest => ⟨everyScalar_distinct expr, everyScalarEntry_distinct rest⟩

end

/-- No table of a document has a key twice, at any depth. -/
theorem distinct_of_parsePlain {text : String} {document : Table}
    (h : parsePlain text = .ok document) : (Value.table document).Distinct := by
  refine of_parsePlain inherited_distinct h fun _ _ statement _ => ?_
  cases statement with
  | entry path key expr => exact everyScalar_distinct expr
  | table path key => trivial
  | element path key => trivial

end Catalog.Toml
