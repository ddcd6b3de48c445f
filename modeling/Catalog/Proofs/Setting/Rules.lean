import Catalog.Proofs.Setting.Authored

/-!
Which tables give a setting. Five rules are checked one after the other: the fields, the type, the
description, the items of the list of allowed values, and the way to split. Main statement: a table gives
a setting if and only if it keeps all of them, and otherwise the fault is that of the first rule that it
breaks. The way to split is checked only beside a variable; one that stands alone goes through, known or
not.
-/

namespace Catalog.Setting

open Toml (Value Table)

/-! ### The rules -/

/-- Values that read as a text. -/
inductive IsText : Value → Prop
  | string (text : String) : IsText (.string text)
  | datetime (datetime : Toml.DateTime) : IsText (.datetime datetime)

/-- The fields that hold a text. -/
def textFields : List String :=
  ["type", "description", "docs", "docs_default", "env", "parse_env"]

/-- The fields that hold a flag. -/
def flagFields : List String :=
  ["optional", "hide", "rc"]

/-- The entries that the table of a setting may have. -/
inductive Fits : String → Value → Prop
  | text {name : String} {value : Value} : name ∈ textFields → IsText value → Fits name value
  | flag {name : String} (b : Bool) : name ∈ flagFields → Fits name (.boolean b)
  | list (items : List Value) : Fits "enum" (.array items)
  | mark (b : Bool) : Fits "deprecated" (.boolean b)
  | note {value : Value} : IsText value → Fits "deprecated" value
  | default (value : Value) : Fits "default" value

/-- The tags that name a kind, without what marks a setting that may be unset. -/
def bareTags : List String :=
  ["String", "Path", "PathBuf", "Url", "Duration", "Bool", "Integer", "ListString", "ListPath",
    "SetString", "IndexMap<String, String>", "BoolOrString"]

/-- A tag that names a kind, bare or wrapped once. -/
def KnownTag (tag : String) : Prop :=
  ∃ bare ∈ bareTags, tag = bare ∨ tag = "Option<" ++ bare ++ ">"

/-- The items of a list of allowed values that carry a value: any that is neither an array nor a table,
an array that is not empty, and a table with a value and no description but a text. -/
inductive Carries : Value → Prop
  | plain {item : Value} : items? item = none → item.table? = none → Carries item
  | pair (first : Value) (rest : List Value) : Carries (.array (first :: rest))
  | described {entries : Table} : "value" ∈ Keyed.keys entries →
      (∀ description, Keyed.get? entries "description" = some description → IsText description) →
      Carries (.table entries)

/-- The ways to split that have a name. -/
def splitModes : List String :=
  ["list_by_comma", "list_by_colon"]

/-- The text that a table has in a field. -/
def textAt? (table : Table) (name : String) : Option String :=
  (Keyed.get? table name).bind Value.text?

/-- What the table of a setting has to satisfy. -/
inductive Rule
  | fields
  | type
  | description
  | items
  | mode
  deriving DecidableEq

namespace Rule

/-- The rules in the order in which they are checked. -/
def order : List Rule :=
  [fields, type, description, items, mode]

/-- A table keeps a rule. -/
def Holds (table : Table) : Rule → Prop
  | fields => ∀ entry ∈ table, Fits entry.1 entry.2
  | type => ∃ tag, textAt? table "type" = some tag ∧ KnownTag tag
  | description => ∃ text, textAt? table "description" = some text ∧ ∃ c ∈ text.toList, ¬ Text.isBlank c
  | items => ∀ items, Keyed.get? table "enum" = some (.array items) → ∀ item ∈ items, Carries item
  | mode => ∀ mode, textAt? table "parse_env" = some mode → mode ∈ splitModes

/-- A rule is checked of a table. The way to split is looked at only beside a variable. -/
def Checked (table : Table) : Rule → Prop
  | mode => "env" ∈ Keyed.keys table
  | _ => True

/-- The faults of a table that breaks a rule. Of several entries that do not fit, the first one counts. -/
inductive Blames (key : String) (table : Table) : Rule → Fault → Prop
  | misfit {before after : Table} {name reason : String} {value : Value} :
      table = before ++ (name, value) :: after → (∀ entry ∈ before, Fits entry.1 entry.2) →
      settingComplaint? name value = some reason → Blames key table fields (.invalid key reason)
  | noType : textAt? table "type" = none → Blames key table type (.invalid key "missing type")
  | unknownType {tag : String} : textAt? table "type" = some tag →
      Blames key table type (.unknownType key tag)
  | description : Blames key table description (.missingDescription key)
  | item : Blames key table items (.invalid key "enum item has no value")
  | mode {mode : String} : textAt? table "parse_env" = some mode →
      Blames key table Rule.mode (.unknownSplit key mode)

theorem mem_order (rule : Rule) : rule ∈ order := by
  cases rule <;> decide

theorem checked_of_ne {rule : Rule} (h : rule ≠ mode) (table : Table) : rule.Checked table := by
  cases rule with
  | mode => exact absurd rfl h
  | fields | type | description | items => trivial

end Rule

/-! ### What each rule reads -/

theorem isSome_text?_iff {value : Value} : value.text?.isSome ↔ IsText value := by
  constructor
  · intro h
    cases value with
    | string text => exact .string text
    | datetime datetime => exact .datetime datetime
    | integer | float | boolean | array | table => cases h
  · rintro (text | datetime) <;> rfl

@[simp] theorem complaint?_text {value : Value} :
    FieldType.text.complaint? value = none ↔ IsText value := by
  rw [← isSome_text?_iff]
  simp [FieldType.complaint?, Option.isSome_iff_ne_none]

@[simp] theorem complaint?_flag {value : Value} :
    FieldType.flag.complaint? value = none ↔ ∃ b, value = .boolean b := by
  cases value <;> simp [FieldType.complaint?, flag?]

@[simp] theorem complaint?_list {value : Value} :
    FieldType.list.complaint? value = none ↔ ∃ items, value = .array items := by
  cases value <;> simp [FieldType.complaint?, items?]

@[simp] theorem complaint?_mark {value : Value} :
    FieldType.mark.complaint? value = none ↔ (∃ b, value = .boolean b) ∨ IsText value := by
  rw [← isSome_text?_iff]
  cases value <;> simp [FieldType.complaint?, Deprecation.ofValue?, Value.text?]

theorem settingFields_cases : ∀ field ∈ settingFields,
    (field.1 ∈ textFields ∧ field.2 = .text) ∨ (field.1 ∈ flagFields ∧ field.2 = .flag)
      ∨ field = ("enum", .list) ∨ field = ("deprecated", .mark) ∨ field = ("default", .anything) := by
  decide

theorem get?_textField : ∀ name ∈ textFields, Keyed.get? settingFields name = some .text := by
  decide

theorem get?_flagField : ∀ name ∈ flagFields, Keyed.get? settingFields name = some .flag := by
  decide

/-- No complaint is made about exactly the entries that a table may have. -/
theorem settingComplaint?_eq_none_iff {name : String} {value : Value} :
    settingComplaint? name value = none ↔ Fits name value := by
  constructor
  · intro h
    unfold settingComplaint? at h
    split at h
    · rename_i fieldType hfield
      rcases settingFields_cases _ (Keyed.mem_of_get? hfield) with
        ⟨hname, rfl⟩ | ⟨hname, rfl⟩ | ⟨rfl, rfl⟩ | ⟨rfl, rfl⟩ | ⟨rfl, rfl⟩
      · exact .text hname (complaint?_text.1 h)
      · obtain ⟨b, rfl⟩ := complaint?_flag.1 h
        exact .flag b hname
      · obtain ⟨items, rfl⟩ := complaint?_list.1 h
        exact .list items
      · rcases complaint?_mark.1 h with ⟨b, rfl⟩ | htext
        · exact .mark b
        · exact .note htext
      · exact .default value
    · cases h
  · rintro (⟨hname, htext⟩ | ⟨b, hname⟩ | items | b | htext | value)
    · rw [settingComplaint?, get?_textField name hname]
      exact complaint?_text.2 htext
    · rw [settingComplaint?, get?_flagField name hname]
      rfl
    · rfl
    · rfl
    · exact complaint?_mark.2 (.inr htext)
    · rfl

/-- A field for a text holds one, if it is there and what is there fits. -/
theorem isText_of_fits {name : String} {value : Value} (hname : name ∈ textFields)
    (h : Fits name value) : IsText value := by
  rw [← settingComplaint?_eq_none_iff, settingComplaint?, get?_textField name hname] at h
  exact complaint?_text.1 h

theorem allowedValue?_table {entries : Table} {value : Value} :
    allowedValue? (.table entries) = some value ↔ Keyed.get? entries "value" = some value
      ∧ ∀ description, Keyed.get? entries "description" = some description → IsText description := by
  rw [allowedValue?]
  cases Keyed.get? entries "description" with
  | none => simp
  | some description =>
    by_cases htext : description.text?.isSome
    · simp [htext, ← isSome_text?_iff]
    · simp [htext, ← isSome_text?_iff]

/-- The items that carry a value are those that one is read from. -/
theorem isSome_allowedValue?_iff {item : Value} : (allowedValue? item).isSome ↔ Carries item := by
  cases item with
  | string | integer | float | boolean | datetime => exact ⟨fun _ => .plain rfl rfl, fun _ => rfl⟩
  | array items =>
    cases items with
    | nil =>
      constructor
      · intro h
        cases h
      · rintro ⟨hitems, -⟩
        cases hitems
    | cons first rest => exact ⟨fun _ => .pair first rest, fun _ => rfl⟩
  | table entries =>
    rw [Option.isSome_iff_exists]
    constructor
    · rintro ⟨value, hallowed⟩
      obtain ⟨hvalue, hdescription⟩ := allowedValue?_table.1 hallowed
      exact .described (Keyed.has_iff.1 (Option.isSome_of_eq_some hvalue)) hdescription
    · rintro (⟨-, htable⟩ | _ | ⟨hmem, hdescription⟩)
      · cases htable
      · obtain ⟨value, hvalue⟩ := Option.isSome_iff_exists.1 (Keyed.has_iff.2 hmem)
        exact ⟨value, allowedValue?_table.2 ⟨hvalue, hdescription⟩⟩

/-! ### Tags -/

theorem isSome_ofBareTag? : ∀ bare ∈ bareTags, (Kind.ofBareTag? bare).isSome := by
  decide

theorem isSome_ofBareTag?_iff {tag : String} : (Kind.ofBareTag? tag).isSome ↔ tag ∈ bareTags := by
  refine ⟨fun h => ?_, isSome_ofBareTag? tag⟩
  unfold Kind.ofBareTag? at h
  split at h
  all_goals first | decide | cases h

/-- The tag in a tag is the tag itself or was wrapped. -/
theorem bareTag_cases (tag : String) :
    bareTag tag = tag ∨ tag = "Option<" ++ bareTag tag ++ ">" := by
  unfold bareTag
  split
  · rename_i rest hrest
    have htag : tag.toList = optionFront ++ rest := (List.isPrefixOf?_eq_some_iff_append_eq.1 hrest).symm
    split
    · rename_i hlast
      obtain ⟨front, rfl⟩ := List.getLast?_eq_some_iff.1 hlast
      right
      have hfront : (String.ofList front).toList = front := String.toList_ofList
      rw [← String.toList_inj, htag, List.dropLast_concat, String.toList_append, String.toList_append,
        hfront, List.append_assoc]
      rfl
    · exact .inl rfl
  · exact .inl rfl

/-- The tags that name a kind are those known. -/
theorem isSome_ofTag?_iff {tag : String} : (Kind.ofTag? tag).isSome ↔ KnownTag tag := by
  rw [Kind.ofTag?, isSome_ofBareTag?_iff]
  constructor
  · intro h
    rcases bareTag_cases tag with hbare | hwrapped
    · exact ⟨_, h, .inl hbare.symm⟩
    · exact ⟨_, h, .inr hwrapped⟩
  · rintro ⟨bare, hbare, rfl | rfl⟩
    · obtain ⟨kind, hkind⟩ := Option.isSome_iff_exists.1 (isSome_ofBareTag?_iff.2 hbare)
      rwa [bareTag_of_ofBareTag? hkind]
    · rwa [bareTag_wrapped]

/-! ### Date-times that count as texts -/

theorem complaint_undated (value : Value) (expected : String) :
    complaint value.undated expected = complaint value expected :=
  congrArg (fun phrase => s!"invalid type: {phrase}, expected {expected}") (Value.phrase_undated value)

theorem complaint?_undated (fieldType : FieldType) (value : Value) :
    fieldType.complaint? value.undated = fieldType.complaint? value := by
  cases fieldType with
  | text => simp only [FieldType.complaint?, Value.text?_undated, complaint_undated]
  | mark => simp only [FieldType.complaint?, ofValue?_undated]
  | flag | list => cases value <;> rfl
  | anything => rfl

theorem settingComplaint?_undated (name : String) (value : Value) :
    settingComplaint? name value.undated = settingComplaint? name value := by
  unfold settingComplaint?
  split
  · exact complaint?_undated _ value
  · rfl

/-- The texts and items of a table that the checks look at, as a source has them. -/
structure Source.Reads (source : Source) (table : Table) : Prop where
  typeTag : source.typeTag = textAt? table "type"
  description : source.description = textAt? table "description"
  allowed : source.allowed = ((Keyed.get? table "enum").map Value.undated).bind items?
  env : source.env = textAt? table "env"
  parseEnv : source.parseEnv = textAt? table "parse_env"

theorem reads_of_ofTable {key : String} {table : Table} {source : Source}
    (h : Source.ofTable key (Value.undatedEntries table) = .ok source) : source.Reads table := by
  unfold Source.ofTable at h
  split at h
  · cases h
  · cases h
    refine ⟨?_, ?_, ?_, ?_, ?_⟩
    · exact Value.bind_get?_undatedEntries Value.text?_undated table "type"
    · exact Value.bind_get?_undatedEntries Value.text?_undated table "description"
    · exact congrArg (·.bind items?) (Value.get?_undatedEntries "enum" table)
    · exact Value.bind_get?_undatedEntries Value.text?_undated table "env"
    · exact Value.bind_get?_undatedEntries Value.text?_undated table "parse_env"

/-- Whether a table sets a flag. One that is missing is not set. -/
def setsFlag (table : Table) (name : String) : Bool :=
  match Keyed.get? table name with
  | some (.boolean b) => b
  | _ => false

/-- A source has the flags that its table sets. -/
theorem getD_flag?_undatedEntries (table : Table) (name : String) :
    ((Keyed.get? (Value.undatedEntries table) name).bind flag?).getD false = setsFlag table name := by
  rw [Value.get?_undatedEntries, setsFlag]
  cases Keyed.get? table name with
  | none => rfl
  | some value => cases value <;> rfl

/-! ### One rule after the other -/

/-- What rules that are checked in order make of a table: a result if it keeps those that are checked of
it, and else the fault of the first one that it breaks. -/
inductive Verdict (key : String) (table : Table) (rules : List Rule) {α : Type} : Except Fault α → Prop
  | accepted (result : α) :
      (∀ rule ∈ rules, rule.Checked table → rule.Holds table) → Verdict key table rules (.ok result)
  | refused {before after : List Rule} {rule : Rule} {fault : Fault} :
      rules = before ++ rule :: after → (∀ earlier ∈ before, earlier.Checked table → earlier.Holds table) →
      rule.Checked table → ¬ rule.Holds table → rule.Blames key table fault →
      Verdict key table rules (.error fault)

namespace Verdict

variable {key : String} {table : Table} {α β : Type}

theorem pure (result : α) : Verdict key table [] (Pure.pure result : Except Fault α) :=
  .accepted result (by simp)

theorem keep {rule : Rule} (result : α) (h : rule.Checked table → rule.Holds table) :
    Verdict key table [rule] (.ok result) :=
  .accepted result (by simpa using h)

theorem blame {rule : Rule} {fault : Fault} (hchecked : rule.Checked table)
    (h : ¬ rule.Holds table) (hblames : rule.Blames key table fault) :
    Verdict key table [rule] (.error fault : Except Fault α) :=
  .refused (List.nil_append _).symm (by simp) hchecked h hblames

/-- The rules of a step that goes on with what an earlier one gives are checked behind those of that
one. -/
theorem bind {rules others : List Rule} {x : Except Fault α} {f : α → Except Fault β}
    (hx : Verdict key table rules x)
    (hf : ∀ result, x = .ok result → (∀ rule ∈ rules, rule.Checked table → rule.Holds table) →
      Verdict key table others (f result)) :
    Verdict key table (rules ++ others) (x >>= f) := by
  cases hx with
  | accepted result hrules =>
    have hnext := hf result rfl hrules
    rw [Result.ok_bind]
    generalize f result = final at hnext ⊢
    cases hnext with
    | accepted final hothers =>
      refine .accepted final fun rule hrule => ?_
      rcases List.mem_append.1 hrule with hrule | hrule
      · exact hrules rule hrule
      · exact hothers rule hrule
    | refused hsplit hbefore hchecked hbroken hblames =>
      refine .refused (by rw [hsplit, List.append_assoc]) (fun earlier hearlier => ?_) hchecked hbroken
        hblames
      rcases List.mem_append.1 hearlier with hearlier | hearlier
      · exact hrules earlier hearlier
      · exact hbefore earlier hearlier
  | @refused before after rule _ hsplit hbefore hchecked hbroken hblames =>
    have hrules : rules ++ others = before ++ rule :: (after ++ others) := by
      rw [hsplit, List.append_assoc, List.cons_append]
    exact .refused hrules hbefore hchecked hbroken hblames

end Verdict

section stages

variable {key : String} {table : Table} {source : Source}

theorem verdict_ofTable (key : String) (table : Table) :
    Verdict key table [.fields] (Source.ofTable key (Value.undatedEntries table)) := by
  rw [Source.ofTable, Value.findSome?_undatedEntries settingComplaint?_undated]
  cases hfound : table.findSome? fun entry => settingComplaint? entry.1 entry.2 with
  | none =>
    rw [List.findSome?_eq_none_iff] at hfound
    exact .keep _ fun _ entry hentry => settingComplaint?_eq_none_iff.1 (hfound entry hentry)
  | some reason =>
    obtain ⟨before, ⟨name, value⟩, after, htable, hreason, hbefore⟩ :=
      List.findSome?_eq_some_iff.1 hfound
    refine .blame trivial ?_ (.misfit htable ?_ hreason)
    · intro hfits
      have hentry := settingComplaint?_eq_none_iff.2 (hfits (name, value) (by simp [htable]))
      exact Option.some_ne_none reason (hreason.symm.trans hentry)
    · exact fun entry hentry => settingComplaint?_eq_none_iff.1 (hbefore entry hentry)

theorem verdict_shape (h : source.Reads table) : Verdict key table [.type] (source.shape key) := by
  rw [Source.shape, h.typeTag]
  cases htag : textAt? table "type" with
  | none =>
    refine .blame trivial ?_ (.noType htag)
    rintro ⟨tag, hsome, -⟩
    rw [htag] at hsome
    cases hsome
  | some tag =>
    dsimp only
    cases hkind : Kind.ofTag? tag with
    | none =>
      refine .blame trivial ?_ (.unknownType htag)
      rintro ⟨other, hother, hknown⟩
      rw [htag] at hother
      cases hother
      rw [← isSome_ofTag?_iff, hkind] at hknown
      cases hknown
    | some kind => exact .keep _ fun _ => ⟨tag, htag, isSome_ofTag?_iff.1 (hkind ▸ rfl)⟩

theorem verdict_requiredDescription (h : source.Reads table) :
    Verdict key table [.description] (source.requiredDescription key) := by
  rw [Source.requiredDescription, h.description]
  cases htext : textAt? table "description" with
  | none =>
    refine .blame trivial ?_ .description
    rintro ⟨text, hsome, -⟩
    rw [htext] at hsome
    cases hsome
  | some text =>
    by_cases hblank : Text.allBlank text.toList
    · simp only [hblank, if_true]
      refine .blame trivial ?_ .description
      rintro ⟨other, hother, c, hmem, hc⟩
      rw [htext] at hother
      cases hother
      exact hc (List.all_eq_true.1 hblank c hmem)
    · simp only [hblank]
      refine .keep _ fun _ => ⟨text, htext, ?_⟩
      simpa [Text.allBlank] using hblank

theorem allowedValues_eq_error {items : List Value} {fault : Fault}
    (h : allowedValues key items = .error fault) : fault = .invalid key "enum item has no value" := by
  obtain ⟨_, item, _, -, hitem, -⟩ := Result.mapM_eq_error.1 h
  split at hitem
  · cases hitem
  · cases hitem
    rfl

theorem exists_allowedValues_iff (key : String) {items : List Value} :
    (∃ values, allowedValues key (Value.undatedItems items) = .ok values)
      ↔ ∀ item ∈ items, Carries item := by
  rw [allowedValues, Result.exists_mapM_iff, Value.undatedItems_eq_map, List.forall_mem_map]
  refine forall₂_congr fun item _ => ?_
  rw [← isSome_allowedValue?_iff, allowedValue?_undated]
  cases allowedValue? item <;> simp

theorem verdict_allowed (h : source.Reads table) :
    Verdict key table [.items] (source.allowed.mapM (allowedValues key)) := by
  rw [h.allowed]
  by_cases hlist : ∃ items, Keyed.get? table "enum" = some (.array items)
  · obtain ⟨items, hitems⟩ := hlist
    have hread : ((Keyed.get? table "enum").map Value.undated).bind items?
        = some (Value.undatedItems items) := by
      rw [hitems]
      rfl
    rw [hread, Option.mapM_some]
    cases hvalues : allowedValues key (Value.undatedItems items) with
    | ok values =>
      refine .keep _ fun _ others hothers => ?_
      rw [hitems] at hothers
      cases hothers
      exact (exists_allowedValues_iff key).1 ⟨values, hvalues⟩
    | error fault =>
      rw [allowedValues_eq_error hvalues]
      refine .blame trivial ?_ .item
      intro hholds
      obtain ⟨values, hok⟩ := (exists_allowedValues_iff key).2 (hholds items hitems)
      rw [hvalues] at hok
      cases hok
  · have hread : ((Keyed.get? table "enum").map Value.undated).bind items? = none := by
      cases hvalue : Keyed.get? table "enum" with
      | none => rfl
      | some value =>
        cases value with
        | array items => exact absurd ⟨items, hvalue⟩ hlist
        | string | integer | float | boolean | datetime | table => rfl
    rw [hread]
    exact .keep none fun _ items hitems => absurd ⟨items, hitems⟩ hlist

/-- The text of a field, where the fields are as they may be. -/
theorem exists_textAt?_of_fields (h : Rule.fields.Holds table) {name : String}
    (hname : name ∈ textFields) : name ∈ Keyed.keys table ↔ ∃ text, textAt? table name = some text := by
  rw [← Keyed.has_iff, Keyed.has, textAt?]
  cases hvalue : Keyed.get? table name with
  | none => simp
  | some value =>
    have htext := isText_of_fits hname (h (name, value) (Keyed.mem_of_get? hvalue))
    simpa using Option.isSome_iff_exists.1 (isSome_text?_iff.2 htext)

theorem exists_ofMode_of_mem {mode : String} (h : mode ∈ splitModes) :
    ∃ split, Split.ofMode key mode = .ok split := by
  simp only [splitModes, List.mem_cons, List.not_mem_nil, or_false] at h
  rcases h with rfl | rfl <;> exact ⟨_, rfl⟩

theorem ofMode_of_not_mem {mode : String} (h : mode ∉ splitModes) :
    Split.ofMode key mode = .error (.unknownSplit key mode) := by
  unfold Split.ofMode
  split
  · exact absurd (by decide) h
  · exact absurd (by decide) h
  · rfl

theorem verdict_binding (h : source.Reads table) (hfields : Rule.fields.Holds table) :
    Verdict key table [.mode] (source.env.mapM fun name => binding key name source.parseEnv) := by
  have hchecked : Rule.mode.Checked table ↔ _ := exists_textAt?_of_fields hfields (by decide)
  rw [h.env, h.parseEnv]
  cases henv : textAt? table "env" with
  | none =>
    refine .keep none fun hmode => ?_
    obtain ⟨name, hname⟩ := hchecked.1 hmode
    rw [henv] at hname
    cases hname
  | some name =>
    rw [Option.mapM_some]
    cases hmode : textAt? table "parse_env" with
    | none =>
      refine .keep _ fun _ mode hsome => ?_
      rw [hmode] at hsome
      cases hsome
    | some mode =>
      by_cases hknown : mode ∈ splitModes
      · obtain ⟨split, hsplit⟩ := exists_ofMode_of_mem hknown
        rw [binding, hsplit]
        refine .keep _ fun _ other hother => ?_
        rw [hmode] at hother
        cases hother
        exact hknown
      · rw [binding, ofMode_of_not_mem hknown]
        refine .blame (hchecked.2 ⟨name, henv⟩) ?_ (.mode hmode)
        exact fun hholds => hknown (hholds mode hmode)

/-- A setting is built by checking the five rules in order. -/
theorem verdict_build (key : String) (table : Table) :
    Verdict key table Rule.order (Element.build key table) := by
  refine (verdict_ofTable key table).bind fun source hsource hfields => ?_
  have hreads := reads_of_ofTable hsource
  refine (verdict_shape hreads).bind fun (tag, shape) _ _ => ?_
  refine (verdict_requiredDescription hreads).bind fun description _ _ => ?_
  refine (verdict_allowed hreads).bind fun allowed _ _ => ?_
  refine (verdict_binding hreads ?_).bind fun env _ _ => .pure _
  exact hfields .fields (List.mem_singleton_self _) trivial

end stages

/-! ### The whole table -/

variable {key : String} {table : Table}

/-- A table gives a setting if and only if it keeps the rules that are checked of it. -/
theorem exists_build_iff :
    (∃ element, Element.build key table = .ok element)
      ↔ ∀ rule : Rule, rule.Checked table → rule.Holds table := by
  have hverdict := verdict_build key table
  constructor
  · rintro ⟨element, helement⟩ rule
    rw [helement] at hverdict
    cases hverdict with
    | accepted _ hrules => exact hrules rule rule.mem_order
  · intro hall
    cases hbuild : Element.build key table with
    | ok element => exact ⟨element, rfl⟩
    | error fault =>
      rw [hbuild] at hverdict
      cases hverdict with
      | refused _ _ hchecked hbroken _ => exact absurd (hall _ hchecked) hbroken

/-- The fault of a table is that of the first rule that it breaks. -/
theorem exists_rule_of_build_eq_error {fault : Fault} (h : Element.build key table = .error fault) :
    ∃ before rule after, Rule.order = before ++ rule :: after
      ∧ (∀ earlier ∈ before, earlier.Checked table → earlier.Holds table)
      ∧ rule.Checked table ∧ ¬ rule.Holds table ∧ rule.Blames key table fault := by
  have hverdict := verdict_build key table
  rw [h] at hverdict
  cases hverdict with
  | refused hsplit hbefore hchecked hbroken hblames =>
    exact ⟨_, _, _, hsplit, hbefore, hchecked, hbroken, hblames⟩

/-- Where a way to split stands beside a variable only, every rule is checked. -/
theorem holds_of_checked (hpaired : "parse_env" ∈ Keyed.keys table → "env" ∈ Keyed.keys table)
    {rule : Rule} (h : rule.Checked table → rule.Holds table) : rule.Holds table := by
  by_cases hrule : rule = .mode
  · subst hrule
    intro mode hmode
    obtain ⟨value, hvalue, -⟩ := Option.bind_eq_some_iff.1 hmode
    have hkey : "parse_env" ∈ Keyed.keys table := Keyed.has_iff.1 (Option.isSome_of_eq_some hvalue)
    exact h (hpaired hkey) mode hmode
  · exact h (Rule.checked_of_ne hrule table)

/-- A table that has a way to split beside a variable only gives a setting if and only if each of its
entries is a known field with a value of its type, it has a known tag, bare or wrapped once, and a
description that is not blank, each item of its list of allowed values carries a value, and the way to
split is one of the two. Otherwise the fault is that of the first of these rules that it breaks. Tables
inside the default and the allowed values are taken as they are; in a loaded document none of them is
marked as a date-time. -/
theorem build_by_rules (key : String)
    (hpaired : "parse_env" ∈ Keyed.keys table → "env" ∈ Keyed.keys table) :
    ((∃ element, Element.build key table = .ok element) ↔ ∀ rule : Rule, rule.Holds table)
      ∧ ∀ fault, Element.build key table = .error fault →
        ∃ before rule after, Rule.order = before ++ rule :: after
          ∧ (∀ earlier ∈ before, earlier.Holds table)
          ∧ ¬ rule.Holds table ∧ rule.Blames key table fault := by
  constructor
  · rw [exists_build_iff]
    constructor
    · intro hall rule
      exact holds_of_checked hpaired (hall rule)
    · intro hall rule _
      exact hall rule
  · intro fault hfault
    obtain ⟨before, rule, after, horder, hbefore, -, hbroken, hblames⟩ :=
      exists_rule_of_build_eq_error hfault
    refine ⟨before, rule, after, horder, fun earlier hearlier => ?_, hbroken, hblames⟩
    exact holds_of_checked hpaired (hbefore earlier hearlier)

/-- A setting with a wrapped tag, a date-time where a text may be, an empty note, a default of any kind, and
an item of each form that carries a value. -/
def pathSetting : Table :=
  [("docs", .datetime (.date ⟨1979, 5, 27⟩)), ("type", .string "Option<ListPath>"),
    ("description", .string " Paths"), ("default", .table [("a", .array [])]), ("hide", .boolean false),
    ("enum", .array [.integer 1, .array [.array [], .integer 2], .table [("value", .string "x")]]),
    ("deprecated", .string ""), ("parse_env", .string "list_by_colon"), ("env", .string "MISE_PATHS")]

theorem build_by_rules_pathSetting :
    ("parse_env" ∈ Keyed.keys pathSetting → "env" ∈ Keyed.keys pathSetting)
      ∧ (∃ element, Element.build "paths" pathSetting = .ok element)
      ∧ ∀ rule : Rule, rule.Holds pathSetting := by
  have hpaired : "parse_env" ∈ Keyed.keys pathSetting → "env" ∈ Keyed.keys pathSetting := by decide
  obtain ⟨element, helement⟩ : ∃ element, Element.build "paths" pathSetting = .ok element := ⟨_, rfl⟩
  obtain ⟨hiff, -⟩ := build_by_rules "paths" hpaired
  exact ⟨hpaired, ⟨element, helement⟩, hiff.1 ⟨element, helement⟩⟩

/-- An unknown way to split is refused beside a variable, and then it counts only after all other rules.
Alone it goes through: the table is refused if and only if it breaks another rule. -/
theorem refuses_unknownMode_iff (key : String) {mode : String} (hmode : textAt? table "parse_env" = some mode)
    (hunknown : mode ∉ splitModes) :
    ((∃ fault, Element.build key table = .error fault)
        ↔ "env" ∈ Keyed.keys table ∨ ∃ rule : Rule, rule ≠ .mode ∧ ¬ rule.Holds table)
      ∧ ∀ fault, Element.build key table = .error fault → (∀ rule : Rule, rule ≠ .mode → rule.Holds table) →
        fault = .unknownSplit key mode := by
  have hbroken : ¬ Rule.mode.Holds table := fun h => hunknown (h mode hmode)
  constructor
  · constructor
    · rintro ⟨fault, hfault⟩
      obtain ⟨_, rule, _, -, -, hchecked, hrule, -⟩ := exists_rule_of_build_eq_error hfault
      by_cases hmodeRule : rule = .mode
      · subst hmodeRule
        exact .inl hchecked
      · exact .inr ⟨rule, hmodeRule, hrule⟩
    · intro hwhy
      cases hbuild : Element.build key table with
      | error fault => exact ⟨fault, rfl⟩
      | ok element =>
        have hall := exists_build_iff.1 ⟨element, hbuild⟩
        rcases hwhy with henv | ⟨rule, hne, hrule⟩
        · exact absurd (hall .mode henv) hbroken
        · exact absurd (hall rule (Rule.checked_of_ne hne table)) hrule
  · intro fault hfault hothers
    obtain ⟨_, rule, _, -, -, -, hrule, hblames⟩ := exists_rule_of_build_eq_error hfault
    have hmodeRule : rule = .mode := by
      by_contra hne
      exact hrule (hothers rule hne)
    subst hmodeRule
    cases hblames with
    | mode hother =>
      rw [hmode] at hother
      cases hother
      rfl

/-- A list with an unknown way to split and no variable. -/
def semicolonSetting : Table :=
  [("type", .string "ListPath"), ("description", .string "d"),
    ("parse_env", .string "list_by_semicolon")]

/-- The same list with a variable. -/
def boundSetting : Table :=
  ("env", .string "MISE_X") :: semicolonSetting

theorem refuses_unknownMode_iff_boundSetting :
    textAt? boundSetting "parse_env" = some "list_by_semicolon" ∧ "list_by_semicolon" ∉ splitModes
      ∧ ∃ fault, Element.build "x" boundSetting = .error fault := by
  have hmode : textAt? boundSetting "parse_env" = some "list_by_semicolon" := rfl
  have hunknown : "list_by_semicolon" ∉ splitModes := by decide
  obtain ⟨hiff, -⟩ := refuses_unknownMode_iff "x" hmode hunknown
  exact ⟨hmode, hunknown, hiff.2 (.inl (by decide))⟩

theorem accepts_unknownMode_semicolonSetting :
    textAt? semicolonSetting "parse_env" = some "list_by_semicolon"
      ∧ "list_by_semicolon" ∉ splitModes
      ∧ ∃ element, Element.build "x" semicolonSetting = .ok element :=
  ⟨rfl, by decide, _, rfl⟩

end Catalog.Setting
