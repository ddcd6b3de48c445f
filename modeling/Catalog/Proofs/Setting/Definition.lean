import Catalog.Proofs.Json.Path
import Catalog.Proofs.Setting.Schema

/-!
What changes in the schemas. Main statements: the properties of the settings take their place in the main
schema, and the shared definitions theirs in the task schema; beside these places both documents stay as
they are, and so does the order of the keys. The task schema does not depend on the settings.
-/

namespace Catalog.Setting

open Json (Step SameBeside)

/-- What is left of a document that was to be changed: the changed one, or the old one if the change fails. -/
def afterChange (document : Json) : Except Fault Json → Json
  | .ok changed => changed
  | .error _ => document

/-- The path to the definitions of a schema. -/
def definitionsPath : List Step :=
  [.member "$defs"]

/-- The path to a definition of a schema. -/
def definitionPath (name : String) : List Step :=
  [.member "$defs", .member name]

/-- The path to the properties of the settings. -/
def propertiesPath : List Step :=
  [.member "$defs", .member "settings", .member "properties"]

/-! ### The properties of the settings -/

section merge

variable {schema merged : Json} {properties : List (String × Json)}

theorem exists_mergeProperties_iff (schema : Json) (properties : List (String × Json)) :
    (∃ merged, mergeProperties schema properties = .ok merged)
      ↔ ∃ settings, schema.at? (definitionPath "settings") = some (.obj settings) := by
  constructor
  · rintro ⟨merged, h⟩
    obtain ⟨members, definitions, settings, rfl, hmembers, hdefinitions, -⟩ := mergeProperties_eq_ok.1 h
    refine ⟨settings, Json.at?_member_eq_some.2 ⟨members, _, rfl, hmembers, ?_⟩⟩
    exact Json.at?_member_eq_some.2 ⟨definitions, _, rfl, hdefinitions, rfl⟩
  · rintro ⟨settings, h⟩
    obtain ⟨members, defs, rfl, hmembers, h⟩ := Json.at?_member_eq_some.1 h
    obtain ⟨definitions, value, rfl, hdefinitions, h⟩ := Json.at?_member_eq_some.1 h
    cases h
    exact ⟨_, mergeProperties_eq_ok.2 ⟨members, definitions, settings, rfl, hmembers, hdefinitions, rfl⟩⟩

theorem mergeProperties_eq_error {fault : Fault} (h : mergeProperties schema properties = .error fault) :
    fault = .missingDefinition "$defs.settings" := by
  unfold mergeProperties at h
  split at h
  · split at h
    · cases h
    · cases h
      rfl
  · cases h
    rfl

theorem at?_mergeProperties (h : mergeProperties schema properties = .ok merged) :
    merged.at? propertiesPath = some (.obj properties) := by
  obtain ⟨members, definitions, settings, rfl, -, -, rfl⟩ := mergeProperties_eq_ok.1 h
  simp only [propertiesPath, Json.at?, Json.step?_put_self, Option.bind_some]

theorem sameBeside_mergeProperties (h : mergeProperties schema properties = .ok merged) :
    SameBeside [propertiesPath] merged schema := by
  obtain ⟨members, definitions, settings, rfl, hmembers, hdefinitions, rfl⟩ := mergeProperties_eq_ok.1 h
  have hsettings := Json.sameBeside_put settings "properties" (.obj properties)
  have hinner := Json.sameBeside_put_inner hdefinitions hsettings
  exact Json.sameBeside_put_inner hmembers hinner

/-- The keys on the way to the settings keep their order, and new properties come last in the settings. -/
theorem keysAt?_way (h : mergeProperties schema properties = .ok merged) :
    merged.keysAt? [] = schema.keysAt? []
      ∧ merged.keysAt? definitionsPath = schema.keysAt? definitionsPath
      ∧ ∃ names, schema.keysAt? (definitionPath "settings") = some names
        ∧ merged.keysAt? (definitionPath "settings")
          = some (if "properties" ∈ names then names else names ++ ["properties"]) := by
  obtain ⟨members, definitions, settings, rfl, hmembers, hdefinitions, rfl⟩ := mergeProperties_eq_ok.1 h
  refine ⟨?_, ?_, Keyed.keys settings, ?_, ?_⟩
  · rw [Json.keysAt?_obj, Json.keysAt?_obj, Keyed.keys_put_of_get? hmembers]
  · rw [definitionsPath, Json.keysAt?_member (Keyed.get?_put_self _ _ _), Json.keysAt?_member hmembers,
      Json.keysAt?_obj, Json.keysAt?_obj, Keyed.keys_put_of_get? hdefinitions]
  · rw [definitionPath, Json.keysAt?_member hmembers, Json.keysAt?_member hdefinitions, Json.keysAt?_obj]
  · rw [definitionPath, Json.keysAt?_member (Keyed.get?_put_self _ _ _),
      Json.keysAt?_member (Keyed.get?_put_self _ _ _), Json.keysAt?_obj, Keyed.keys_put]

/-- Outside the properties, only the object that they are put into may get another key. -/
theorem keysAt?_mergeProperties (h : mergeProperties schema properties = .ok merged) {path : List Step}
    (hpath : ¬ propertiesPath <+: path) (hsettings : path ≠ definitionPath "settings") :
    merged.keysAt? path = schema.keysAt? path := by
  by_cases hapart : Json.Apart path propertiesPath
  · have hsame := sameBeside_mergeProperties h path (List.forall_mem_singleton.2 hapart)
    rw [Json.keysAt?, Json.keysAt?, hsame]
  · -- a path that is not apart leads to the properties, and there are three that stop before them
    have hon : path <+: propertiesPath := by
      by_contra hoff
      exact hapart ⟨hoff, hpath⟩
    obtain ⟨hroot, hdefinitions, -⟩ := keysAt?_way h
    have hcases : path = [] ∨ path = definitionsPath ∨ path = definitionPath "settings"
        ∨ path = propertiesPath := by
      simpa [propertiesPath, definitionPath, definitionsPath] using (List.mem_inits path _).2 hon
    rcases hcases with rfl | rfl | rfl | rfl
    · exact hroot
    · exact hdefinitions
    · exact absurd rfl hsettings
    · exact absurd List.prefix_rfl hpath

/-- Properties replace those that were put into the schema before. -/
theorem mergeProperties_merged (h : mergeProperties schema properties = .ok merged)
    (later : List (String × Json)) : mergeProperties merged later = mergeProperties schema later := by
  obtain ⟨members, definitions, settings, rfl, hmembers, hdefinitions, rfl⟩ := mergeProperties_eq_ok.1 h
  refine Eq.trans ?_
    (mergeProperties_eq_ok.2 ⟨members, definitions, settings, rfl, hmembers, hdefinitions, rfl⟩).symm
  refine mergeProperties_eq_ok.2 ⟨_, _, _, rfl, Keyed.get?_put_self _ _ _,
    Keyed.get?_put_self _ _ _, ?_⟩
  rw [Keyed.put_put, Keyed.put_put, Keyed.put_put]

end merge

/-- Properties can be put into a schema if and only if it has an object as the definition of the settings.
They are then found at their place, nothing changes beside it, and the keys of all objects outside stay in
order, a new key coming last in the settings. Properties that are put in later count alone. Where they cannot
be put in the schema stays, for want of the definition. -/
theorem mergeProperties_beside (schema : Json) (properties later : List (String × Json)) :
    ((∃ merged, mergeProperties schema properties = .ok merged)
        ↔ ∃ settings, schema.at? (definitionPath "settings") = some (.obj settings))
      ∧ (∀ merged, mergeProperties schema properties = .ok merged →
        merged.at? propertiesPath = some (.obj properties)
          ∧ (∀ path, Json.Apart path propertiesPath → merged.at? path = schema.at? path)
          ∧ (∀ path, ¬ propertiesPath <+: path → path ≠ definitionPath "settings" →
            merged.keysAt? path = schema.keysAt? path)
          ∧ (∃ names, schema.keysAt? (definitionPath "settings") = some names
            ∧ merged.keysAt? (definitionPath "settings")
              = some (if "properties" ∈ names then names else names ++ ["properties"]))
          ∧ mergeProperties merged later = mergeProperties schema later)
      ∧ ∀ fault, mergeProperties schema properties = .error fault →
        fault = .missingDefinition "$defs.settings"
          ∧ afterChange schema (mergeProperties schema properties) = schema := by
  refine ⟨exists_mergeProperties_iff schema properties, ?_, ?_⟩
  · intro merged h
    refine ⟨at?_mergeProperties h, ?_, ?_, (keysAt?_way h).2.2, mergeProperties_merged h later⟩
    · intro path hpath
      exact sameBeside_mergeProperties h path (List.forall_mem_singleton.2 hpath)
    · intro path hpath hsettings
      exact keysAt?_mergeProperties h hpath hsettings
  · intro fault h
    rw [h]
    exact ⟨mergeProperties_eq_error h, rfl⟩

/-! ### The shared definitions -/

section sync

variable {main task synced : Json}

theorem at?_definitionPath (json : Json) (name : String) :
    json.at? (definitionPath name) = definition? json name := by
  cases json with
  | obj members =>
    rw [definition?, Json.get?_obj, definitionPath, Json.at?, Json.step?]
    cases Keyed.get? members "$defs" with
    | none => rfl
    | some defs =>
      rw [Option.bind_some, Option.bind_some, Json.at?]
      cases defs with
      | obj definitions =>
        rw [Json.get?_obj, Json.step?]
        cases Keyed.get? definitions name <;> rfl
      | null | bool | int | float | str | arr => rfl
  | null | bool | int | float | str | arr => rfl

theorem exists_syncDefinitions_iff (main task : Json) :
    (∃ synced, syncDefinitions main task = .ok synced)
      ↔ ∃ definitions, task.at? definitionsPath = some (.obj definitions) := by
  constructor
  · rintro ⟨synced, h⟩
    obtain ⟨members, definitions, rfl, hmembers, -⟩ := syncDefinitions_eq_ok.1 h
    exact ⟨definitions, Json.at?_member_eq_some.2 ⟨members, _, rfl, hmembers, rfl⟩⟩
  · rintro ⟨definitions, h⟩
    obtain ⟨members, defs, rfl, hmembers, h⟩ := Json.at?_member_eq_some.1 h
    cases h
    exact ⟨_, syncDefinitions_eq_ok.2 ⟨members, definitions, rfl, hmembers, rfl⟩⟩

theorem syncDefinitions_eq_error {fault : Fault} (h : syncDefinitions main task = .error fault) :
    fault = .missingDefinition "$defs" := by
  unfold syncDefinitions at h
  split at h
  · cases h
  · cases h
    rfl

/-- The names under which there is a definition to copy. -/
def copied (main : Json) (names : List String) : List String :=
  names.filter fun name => (definition? main name).isSome

/-- Copying leaves everything beside the definitions that are copied. -/
theorem sameBeside_copyDefinitions (main : Json) : ∀ (names : List String)
    (definitions : List (String × Json)),
    SameBeside ((copied main names).map fun name => [.member name])
      (.obj (names.foldl (copyDefinition main) definitions)) (.obj definitions)
  | [], definitions => .refl _ _
  | name :: rest, definitions => by
    rw [List.foldl_cons]
    have hrest := sameBeside_copyDefinitions main rest (copyDefinition main definitions name)
    cases h : definition? main name with
    | none =>
      rw [copyDefinition_of_none h] at hrest ⊢
      have hcopied : copied main (name :: rest) = copied main rest := by simp [copied, h]
      rwa [hcopied]
    | some definition =>
      rw [copyDefinition_of_some h] at hrest ⊢
      have hcopied : copied main (name :: rest) = name :: copied main rest := by simp [copied, h]
      rw [hcopied, List.map_cons]
      have hput := Json.sameBeside_put definitions name definition
      exact (hrest.mono (List.subset_cons_self _ _)).trans (hput.mono (by simp))

theorem sameBeside_syncDefinitions (h : syncDefinitions main task = .ok synced) :
    SameBeside ((copied main sharedDefinitions).map definitionPath) synced task := by
  obtain ⟨members, definitions, rfl, hmembers, rfl⟩ := syncDefinitions_eq_ok.1 h
  have hinner := sameBeside_copyDefinitions main sharedDefinitions definitions
  have houter := Json.sameBeside_put_inner hmembers hinner
  rwa [List.map_map] at houter

theorem definition?_syncDefinitions (h : syncDefinitions main task = .ok synced) {name : String}
    {definition : Json} (hname : name ∈ sharedDefinitions) (hmain : definition? main name = some definition) :
    definition? synced name = some definition := by
  obtain ⟨members, definitions, rfl, hmembers, rfl⟩ := syncDefinitions_eq_ok.1 h
  rw [definition?, Json.get?_obj, Keyed.get?_put_self, Option.bind_some, Json.get?_obj]
  exact get?_foldl_copyDefinition hmain sharedDefinitions definitions (.inl hname)

/-- Definitions that are there keep their order, and new ones come behind them. -/
theorem exists_keys_foldl_copyDefinition (main : Json) : ∀ (names : List String)
    (definitions : List (String × Json)), ∃ added,
      Keyed.keys (names.foldl (copyDefinition main) definitions) = Keyed.keys definitions ++ added
  | [], definitions => ⟨[], (List.append_nil _).symm⟩
  | name :: rest, definitions => by
    obtain ⟨added, hadded⟩ := exists_keys_foldl_copyDefinition main rest (copyDefinition main definitions name)
    rw [List.foldl_cons, hadded]
    cases h : definition? main name with
    | none => exact ⟨added, by rw [copyDefinition_of_none h]⟩
    | some definition =>
      rw [copyDefinition_of_some h, Keyed.keys_put]
      split
      · exact ⟨added, rfl⟩
      · exact ⟨name :: added, by rw [List.append_assoc, List.singleton_append]⟩

theorem keysAt?_syncDefinitions (h : syncDefinitions main task = .ok synced) :
    synced.keysAt? [] = task.keysAt? []
      ∧ ∃ names added, task.keysAt? definitionsPath = some names
        ∧ synced.keysAt? definitionsPath = some (names ++ added) := by
  obtain ⟨members, definitions, rfl, hmembers, rfl⟩ := syncDefinitions_eq_ok.1 h
  obtain ⟨added, hadded⟩ := exists_keys_foldl_copyDefinition main sharedDefinitions definitions
  refine ⟨?_, Keyed.keys definitions, added, ?_, ?_⟩
  · rw [Json.keysAt?_obj, Json.keysAt?_obj, Keyed.keys_put_of_get? hmembers]
  · rw [definitionsPath, Json.keysAt?_member hmembers, Json.keysAt?_obj]
  · rw [definitionsPath, Json.keysAt?_member (Keyed.get?_put_self _ _ _), Json.keysAt?_obj, hadded]

theorem copyDefinition_congr {other : Json} {name : String}
    (h : definition? other name = definition? main name) (definitions : List (String × Json)) :
    copyDefinition other definitions name = copyDefinition main definitions name := by
  rw [definition?, definition?] at h
  rw [copyDefinition, copyDefinition, h]

/-- Main schemas with the same shared definitions give the same task schema. -/
theorem syncDefinitions_congr {other : Json} (task : Json)
    (h : ∀ name ∈ sharedDefinitions, definition? other name = definition? main name) :
    syncDefinitions other task = syncDefinitions main task := by
  unfold syncDefinitions
  split
  · rw [List.foldl_ext _ _ _ fun definitions name hname => copyDefinition_congr (h name hname) definitions]
  · rfl

end sync

/-- The shared definitions can be copied into a task schema if and only if it has an object for definitions,
and else it stays. Those of the main schema are then found in it, nothing changes beside them, the keys that
were there stay in order, and copying again changes nothing. Properties that were put into the main schema
before do not matter. -/
theorem syncDefinitions_beside (main task : Json) :
    ((∃ synced, syncDefinitions main task = .ok synced)
        ↔ ∃ definitions, task.at? definitionsPath = some (.obj definitions))
      ∧ (∀ fault, syncDefinitions main task = .error fault →
        fault = .missingDefinition "$defs" ∧ afterChange task (syncDefinitions main task) = task)
      ∧ (∀ synced, syncDefinitions main task = .ok synced →
        (∀ name ∈ sharedDefinitions, ∀ definition, main.at? (definitionPath name) = some definition →
            synced.at? (definitionPath name) = some definition)
          ∧ (∀ path, (∀ name ∈ sharedDefinitions, (main.at? (definitionPath name)).isSome →
              Json.Apart path (definitionPath name)) → synced.at? path = task.at? path)
          ∧ synced.keysAt? [] = task.keysAt? []
          ∧ (∃ names added, task.keysAt? definitionsPath = some names
            ∧ synced.keysAt? definitionsPath = some (names ++ added))
          ∧ syncDefinitions main synced = .ok synced)
      ∧ ∀ properties merged, mergeProperties main properties = .ok merged →
        syncDefinitions merged task = syncDefinitions main task := by
  refine ⟨exists_syncDefinitions_iff main task, ?_, ?_, ?_⟩
  · intro fault h
    rw [h]
    exact ⟨syncDefinitions_eq_error h, rfl⟩
  · intro synced h
    obtain ⟨hroot, hdefinitions⟩ := keysAt?_syncDefinitions h
    refine ⟨?_, ?_, hroot, hdefinitions, syncDefinitions_synced h⟩
    · intro name hname definition hdefinition
      rw [at?_definitionPath] at hdefinition ⊢
      exact definition?_syncDefinitions h hname hdefinition
    · intro path hpath
      refine sameBeside_syncDefinitions h path (List.forall_mem_map.2 fun name hname => ?_)
      obtain ⟨hshared, hfound⟩ := List.mem_filter.1 hname
      exact hpath name hshared (at?_definitionPath main name ▸ hfound)
  · intro properties merged h
    refine syncDefinitions_congr task fun name hname => definition?_of_mergeProperties h ?_
    rintro rfl
    exact absurd hname (by decide)

end Catalog.Setting
