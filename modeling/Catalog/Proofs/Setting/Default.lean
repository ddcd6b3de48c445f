import Catalog.Proofs.Setting.Rules

/-!
The default that the documentation shows for a setting. Main statement: a text that is authored for it comes
first and marks the setting as set, then the literal default. Without either, the type and whether the setting
may be unset decide, and each of the four outcomes belongs to its own case: nothing that is shown for a switch
or for a list is ever shown for another type or for a setting that may be unset.
-/

namespace Catalog.Setting

open Toml (Value Table)

/-- A setting that may be unset: its table says so, or its type is wrapped in `Option<` and `>`. -/
def MayBeUnset (table : Table) : Prop :=
  setsFlag table "optional" = true
    ∨ ∃ bare, textAt? table "type" = some ("Option<" ++ bare ++ ">")

/-- What is shown where no default is authored. -/
structure FallsBack (shape : Shape) (unset : Prop) (shown : Option Default) : Prop where
  switch_iff : shown = some (.value (.bool false)) ↔ shape = .boolean ∧ ¬ unset
  list_iff : shown = some (.value (.arr [])) ↔ shape = .stringArray ∧ ¬ unset
  absent_iff : shown = some .absent ↔ unset
  nothing_iff : shown = none ↔ shape ≠ .boolean ∧ shape ≠ .stringArray ∧ ¬ unset

theorem fallsBack_shownDefault (shape : Shape) (unset : Bool) :
    FallsBack shape (unset = true) (shownDefault shape none none unset).1 := by
  cases shape <;> cases unset <;> constructor <;> simp [shownDefault]

/-! ### Settings that may be unset -/

theorem not_isOptionTag : ∀ bare ∈ bareTags, isOptionTag bare = false := by
  decide

/-- Of the tags that name a kind, only those that are wrapped start as wrapped ones do. -/
theorem isOptionTag_iff {tag : String} (h : KnownTag tag) :
    isOptionTag tag = true ↔ ∃ bare, tag = "Option<" ++ bare ++ ">" := by
  constructor
  · intro hfront
    obtain ⟨bare, hbare, rfl | rfl⟩ := h
    · rw [not_isOptionTag _ hbare] at hfront
      cases hfront
    · exact ⟨bare, rfl⟩
  · rintro ⟨bare, rfl⟩
    rw [isOptionTag, List.isPrefixOf_iff_prefix, String.toList_append, String.toList_append,
      List.append_assoc]
    exact List.prefix_append _ _

section build

variable {key : String} {table : Table} {source : Source} {element : Element}

/-- The text and the flag that decide about the default, as a source has them. -/
theorem default_of_ofTable (h : Source.ofTable key (Value.undatedEntries table) = .ok source) :
    source.docsDefault = textAt? table "docs_default"
      ∧ source.optional = setsFlag table "optional" := by
  unfold Source.ofTable at h
  split at h
  · cases h
  · cases h
    exact ⟨Value.bind_get?_undatedEntries Value.text?_undated table "docs_default",
      getD_flag?_undatedEntries table "optional"⟩

/-! ### Building -/

theorem exists_tag_of_shape {tag : String} {shape : Shape} (h : source.shape key = .ok (tag, shape)) :
    source.typeTag = some tag ∧ KnownTag tag ∧ shownShape? tag = some shape := by
  unfold Source.shape at h
  split at h
  · cases h
  · rename_i htag
    split at h
    · cases h
    · rename_i hkind
      cases h
      refine ⟨htag, isSome_ofTag?_iff.1 (hkind ▸ rfl), ?_⟩
      rw [shownShape?, hkind, Option.map_some]

/-- The default of a setting and its mark are worked out from the type, the literal default, the text for
the documentation, and whether it may be unset. -/
theorem shownDefault_of_ofSource (h : Element.ofSource key source = .ok element) :
    ∃ tag, source.typeTag = some tag ∧ KnownTag tag ∧ shownShape? tag = some element.shape
      ∧ (element.default, element.optional) = shownDefault element.shape element.literal
        source.docsDefault (source.optional || isOptionTag tag) := by
  simp only [Element.ofSource, Result.bind_eq_ok, Result.pure_eq_ok] at h
  obtain ⟨⟨tag, shape⟩, hshape, _, -, _, -, _, -, rfl⟩ := h
  obtain ⟨htag, hknown, hshown⟩ := exists_tag_of_shape hshape
  exact ⟨tag, htag, hknown, hshown, rfl⟩

theorem shownDefault_of_build (h : Element.build key table = .ok element) :
    ∃ tag unset, textAt? table "type" = some tag ∧ shownShape? tag = some element.shape
      ∧ (unset = true ↔ MayBeUnset table)
      ∧ (element.default, element.optional) = shownDefault element.shape
        ((Keyed.get? table "default").map Value.toJson) (textAt? table "docs_default") unset := by
  obtain ⟨source, hsource, helement⟩ := Result.bind_eq_ok.1 h
  obtain ⟨tag, htag, hknown, hshape, hshown⟩ := shownDefault_of_ofSource helement
  obtain ⟨hdocs, hoptional⟩ := default_of_ofTable hsource
  rw [(reads_of_ofTable hsource).typeTag] at htag
  rw [hdocs, hoptional, literal_of_build h] at hshown
  refine ⟨tag, _, htag, hshape, ?_, hshown⟩
  rw [Bool.or_eq_true, isOptionTag_iff hknown, MayBeUnset, htag]
  simp only [Option.some.injEq]

theorem get?_default_toJson (element : Element) :
    element.toJson.get? "default" = element.default.map Default.toJson
      ∧ element.toJson.get? "optional" = some (.bool element.optional) := by
  simp [Element.toJson, Json.get?_obj, Keyed.get?_append, Keyed.get?, get?_member?, get?_deprecatedMember]

/-- The documentation shows a text that is authored for the default as it is, and the setting as set. Without
one, the setting is shown as one that may be unset exactly if it is, and its literal default is shown. If there
is none either, a setting that may be unset shows the mark of absence, a switch `false`, a list the empty list,
and any other setting nothing; and each of these is shown in its own case only. -/
theorem default_by_precedence (h : Element.build key table = .ok element) :
    element.toJson.get? "default" = element.default.map Default.toJson
      ∧ element.toJson.get? "optional" = some (.bool element.optional)
      ∧ (∀ value, Keyed.get? table "docs_default" = some value →
          ∃ text, value.text? = some text ∧ element.default = some (.docs text)
            ∧ element.optional = false)
      ∧ ("docs_default" ∉ Keyed.keys table →
          (element.optional = true ↔ MayBeUnset table)
            ∧ (∀ value, Keyed.get? table "default" = some value →
                element.default = some (.value value.toJson))
            ∧ ("default" ∉ Keyed.keys table →
                ∃ tag, textAt? table "type" = some tag ∧ shownShape? tag = some element.shape
                  ∧ FallsBack element.shape (MayBeUnset table) element.default)) := by
  obtain ⟨tag, unset, htag, hshape, hunset, hshown⟩ := shownDefault_of_build h
  obtain ⟨hdefault, hoptional⟩ := get?_default_toJson element
  refine ⟨hdefault, hoptional, fun value hvalue => ?_, fun hdocs => ?_⟩
  · have hfields : Rule.fields.Holds table := exists_build_iff.1 ⟨element, h⟩ .fields trivial
    have hfits : Fits "docs_default" value := hfields _ (Keyed.mem_of_get? hvalue)
    obtain ⟨text, htext⟩ :=
      Option.isSome_iff_exists.1 (isSome_text?_iff.2 (isText_of_fits (by decide) hfits))
    rw [textAt?, hvalue, Option.bind_some, htext] at hshown
    obtain ⟨hshown, hmark⟩ := Prod.mk.inj hshown
    exact ⟨text, htext, hshown, hmark⟩
  · rw [textAt?, Keyed.get?_eq_none_iff.2 hdocs] at hshown
    obtain ⟨hshown, hmark⟩ := Prod.mk.inj hshown
    refine ⟨?_, fun value hvalue => ?_, fun hliteral => ⟨tag, htag, hshape, ?_⟩⟩
    · rw [hmark, hunset]
    · rw [hshown, hvalue]
      rfl
    · rw [hshown, Keyed.get?_eq_none_iff.2 hliteral, ← hunset]
      exact fallsBack_shownDefault element.shape unset

end build

/-- A list that may be unset by its type, although its table says that it is not optional. -/
def wrappedList : Table :=
  [("optional", .boolean false), ("type", .string "Option<ListPath>"), ("description", .string "Paths")]

/-- A switch that may be unset, with a literal default and a text for the documentation. -/
def documentedSwitch : Table :=
  [("docs_default", .string "None"), ("default", .boolean true), ("optional", .boolean true),
    ("type", .string "Bool"), ("description", .string "Colors")]

theorem default_by_precedence_wrappedList :
    ∃ list switch, Element.build "paths" wrappedList = .ok list
      ∧ Element.build "color" documentedSwitch = .ok switch
      ∧ list.optional = true ∧ list.default = some .absent
      ∧ switch.optional = false ∧ switch.default = some (.docs "None") := by
  obtain ⟨list, hlist⟩ : ∃ list, Element.build "paths" wrappedList = .ok list := ⟨_, rfl⟩
  obtain ⟨switch, hswitch⟩ : ∃ switch, Element.build "color" documentedSwitch = .ok switch := ⟨_, rfl⟩
  have hunset : MayBeUnset wrappedList := .inr ⟨"ListPath", rfl⟩
  obtain ⟨-, -, -, hfallback⟩ := default_by_precedence hlist
  obtain ⟨hoptional, -, hnone⟩ := hfallback (by simp [wrappedList, Keyed.keys])
  obtain ⟨_, -, -, hfalls⟩ := hnone (by simp [wrappedList, Keyed.keys])
  obtain ⟨-, -, hdocs, -⟩ := default_by_precedence hswitch
  obtain ⟨text, htext, hshown, hmark⟩ := hdocs _ rfl
  cases htext
  exact ⟨list, switch, hlist, hswitch, hoptional.2 hunset, hfalls.absent_iff.2 hunset, hmark, hshown⟩

end Catalog.Setting
