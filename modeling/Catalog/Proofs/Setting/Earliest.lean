import Catalog.Proofs.Setting.Entry
import Catalog.Proofs.Setting.Rules

/-!
Settings documents that are refused. Main statement: a document is refused if and only if one of its
entries is invalid when taken alone, and then with the fault of the first such entry. A group is refused
for what is said wrongly about the group itself, and only then for its members in their order.
-/

namespace Catalog.Setting

open Toml (Value Table)

/-! ### Entries that are invalid -/

/-- What the table of a group must not say about the group itself. -/
inductive Misstates : String → Value → Prop
  | description {value : Value} : ¬ IsText value → Misstates "description" value
  | deprecated {value : Value} : ¬ IsText value → (∀ b, value ≠ .boolean b) →
      Misstates "deprecated" value
  | hide {value : Value} : (∀ b, value ≠ .boolean b) → Misstates "hide" value

/-- The members of a group as authored. -/
def memberEntries (table : Table) : Table :=
  table.filter fun entry => entry.1 ∉ ["description", "deprecated", "hide"]

/-- The fault of a value where a single setting has to be. -/
inductive LeafFault (key : String) : Value → Fault → Prop
  | notTable {value : Value} : value.table? = none →
      LeafFault key value (.invalid key "expected a table")
  | refused {table : Table} {fault : Fault} : Element.build key table = .error fault →
      LeafFault key (.table table) fault

/-- The fault of the table of a group: that of the first entry that misstates something about the group,
and where there is none that of the first member with a fault. -/
inductive GroupFault (key : String) (table : Table) : Fault → Prop
  | metadata {before after : Table} {name reason : String} {value : Value} :
      table = before ++ (name, value) :: after → (∀ entry ∈ before, ¬ Misstates entry.1 entry.2) →
      Misstates name value → groupComplaint? name value = some reason →
      GroupFault key table (.invalid key reason)
  | member {before after : Table} {name : String} {value : Value} {fault : Fault} :
      (∀ entry ∈ table, ¬ Misstates entry.1 entry.2) →
      memberEntries table = before ++ (name, value) :: after →
      (∀ entry ∈ before, ¬ ∃ earlier, LeafFault (memberKey key entry.1) entry.2 earlier) →
      LeafFault (memberKey key name) value fault → GroupFault key table fault

/-- The fault that the value under a key of the settings has by itself. -/
inductive EntryFault (key : String) : Value → Fault → Prop
  | notTable {value : Value} : value.table? = none →
      EntryFault key value (.invalid key "expected a table")
  | leaf {table : Table} {fault : Fault} : "type" ∈ Keyed.keys table →
      Element.build key table = .error fault → EntryFault key (.table table) fault
  | group {table : Table} {fault : Fault} : "type" ∉ Keyed.keys table → GroupFault key table fault →
      EntryFault key (.table table) fault

/-- The value under a key of the settings is invalid: no table, a single setting that cannot be built, or
a group that misstates something or has a member that is no table or cannot be built. -/
inductive Invalid (key : String) : Value → Prop
  | notTable {value : Value} : value.table? = none → Invalid key value
  | leaf {table : Table} {fault : Fault} : "type" ∈ Keyed.keys table →
      Element.build key table = .error fault → Invalid key (.table table)
  | metadata {table : Table} {name : String} {value : Value} : "type" ∉ Keyed.keys table →
      (name, value) ∈ table → Misstates name value → Invalid key (.table table)
  | member {table : Table} {name : String} {value : Value} {fault : Fault} : "type" ∉ Keyed.keys table →
      (name, value) ∈ memberEntries table → LeafFault (memberKey key name) value fault →
      Invalid key (.table table)

/-- Of the items with a property, one is the first. -/
theorem exists_first {α : Type} {p : α → Prop} : ∀ {items : List α}, (∃ item ∈ items, p item) →
    ∃ before item after, items = before ++ item :: after ∧ (∀ earlier ∈ before, ¬ p earlier) ∧ p item
  | [], ⟨_, hitem, _⟩ => by cases hitem
  | head :: rest, ⟨item, hitem, hp⟩ => by
    by_cases hhead : p head
    · exact ⟨[], head, rest, rfl, by simp, hhead⟩
    · rcases List.mem_cons.1 hitem with rfl | hitem
      · exact absurd hp hhead
      · obtain ⟨before, first, after, rfl, hbefore, hfirst⟩ := exists_first ⟨item, hitem, hp⟩
        exact ⟨head :: before, first, after, rfl, List.forall_mem_cons.2 ⟨hhead, hbefore⟩, hfirst⟩

/-! ### Members -/

/-- A member is built alike if its date-times are replaced by their texts first. -/
theorem buildMember_undated (key : String) (value : Value) :
    (expectTable key value.undated >>= Element.build key) = expectTable key value >>= Element.build key := by
  cases value with
  | table table => simp [Value.undated, expectTable, Value.table?, Element.build,
      Value.undatedEntries_undatedEntries]
  | string | integer | float | boolean | datetime | array => rfl

theorem buildMember_eq_error {key : String} {value : Value} {fault : Fault} :
    (expectTable key value >>= Element.build key) = .error fault ↔ LeafFault key value fault := by
  constructor
  · intro h
    cases value with
    | table table => exact .refused h
    | string | integer | float | boolean | datetime | array =>
      cases h
      exact .notTable rfl
  · rintro (htable | hbuild)
    · rw [expectTable, htable]
      rfl
    · exact hbuild

theorem exists_buildMember_iff {key : String} {value : Value} :
    (∃ element, (expectTable key value >>= Element.build key) = .ok element)
      ↔ ¬ ∃ fault, LeafFault key value fault := by
  simp only [← buildMember_eq_error, Result.exists_ok_iff]

/-! ### Groups -/

/-- A complaint is made about exactly the entries that misstate something. -/
theorem isSome_groupComplaint?_iff {name : String} {value : Value} :
    (groupComplaint? name value).isSome ↔ Misstates name value := by
  rw [groupComplaint?, Option.isSome_iff_ne_none]
  constructor
  · intro h
    cases hfield : Keyed.get? groupFields name with
    | none => simp [hfield] at h
    | some fieldType =>
      have hmem := Keyed.mem_of_get? hfield
      rw [hfield, Option.bind_some] at h
      simp only [groupFields, List.mem_cons, List.not_mem_nil, or_false, Prod.mk.injEq] at hmem
      rcases hmem with ⟨rfl, rfl⟩ | ⟨rfl, rfl⟩ | ⟨rfl, rfl⟩
      · exact .description (by simpa using h)
      · simp only [ne_eq, complaint?_mark, not_or, not_exists] at h
        exact .deprecated h.2 h.1
      · exact .hide (by simpa using h)
  · rintro (htext | ⟨htext, hflag⟩ | hflag)
    · exact fun h => htext (complaint?_text.1 h)
    · intro h
      rcases complaint?_mark.1 h with ⟨b, hb⟩ | h
      · exact hflag b hb
      · exact htext h
    · intro h
      obtain ⟨b, hb⟩ := complaint?_flag.1 h
      exact hflag b hb

theorem groupComplaint?_eq_none_iff {name : String} {value : Value} :
    groupComplaint? name value = none ↔ ¬ Misstates name value := by
  rw [← isSome_groupComplaint?_iff, Option.not_isSome_iff_eq_none]

theorem groupComplaint?_undated (name : String) (value : Value) :
    groupComplaint? name value.undated = groupComplaint? name value := by
  rw [groupComplaint?, groupComplaint?]
  exact congrArg _ (funext fun fieldType => complaint?_undated fieldType value)

section group

variable {key : String} {table : Table} {fault : Fault}

/-- Reading the table of a group fails at the first entry that misstates something. -/
theorem groupSource_eq_error :
    GroupSource.ofTable key (Value.undatedEntries table) = .error fault
      ↔ ∃ before name value after reason, table = before ++ (name, value) :: after
        ∧ (∀ entry ∈ before, ¬ Misstates entry.1 entry.2)
        ∧ groupComplaint? name value = some reason ∧ fault = .invalid key reason := by
  rw [GroupSource.ofTable, Value.findSome?_undatedEntries groupComplaint?_undated]
  constructor
  · intro h
    split at h
    · rename_i reason hfound
      cases h
      obtain ⟨before, ⟨name, value⟩, after, htable, hreason, hbefore⟩ :=
        List.findSome?_eq_some_iff.1 hfound
      exact ⟨before, name, value, after, reason, htable,
        fun entry hentry => groupComplaint?_eq_none_iff.1 (hbefore entry hentry), hreason, rfl⟩
    · cases h
  · rintro ⟨before, name, value, after, reason, htable, hbefore, hreason, rfl⟩
    have hfound : table.findSome? (fun entry => groupComplaint? entry.1 entry.2) = some reason :=
      List.findSome?_eq_some_iff.2 ⟨before, (name, value), after, htable, hreason,
        fun entry hentry => groupComplaint?_eq_none_iff.2 (hbefore entry hentry)⟩
    rw [hfound]

theorem exists_groupSource_iff :
    (∃ source, GroupSource.ofTable key (Value.undatedEntries table) = .ok source)
      ↔ ∀ entry ∈ table, ¬ Misstates entry.1 entry.2 := by
  have hnone : table.findSome? (fun entry => groupComplaint? entry.1 entry.2) = none
      ↔ ∀ entry ∈ table, ¬ Misstates entry.1 entry.2 := by
    rw [List.findSome?_eq_none_iff]
    exact forall₂_congr fun entry _ => groupComplaint?_eq_none_iff
  rw [← hnone, GroupSource.ofTable, Value.findSome?_undatedEntries groupComplaint?_undated]
  cases table.findSome? fun entry => groupComplaint? entry.1 entry.2 <;> simp

/-- A group that misstates something has a fault, that of the first such entry. -/
theorem exists_groupFault_of_misstates (key : String)
    (h : ∃ entry ∈ table, Misstates entry.1 entry.2) : ∃ fault, GroupFault key table fault := by
  obtain ⟨before, ⟨name, value⟩, after, htable, hbefore, hmisstates⟩ := exists_first h
  obtain ⟨reason, hreason⟩ := Option.isSome_iff_exists.1 (isSome_groupComplaint?_iff.2 hmisstates)
  exact ⟨_, .metadata htable hbefore hmisstates hreason⟩

theorem members_of_groupSource {source : GroupSource}
    (h : GroupSource.ofTable key (Value.undatedEntries table) = .ok source) :
    source.members = Value.undatedEntries (memberEntries table) := by
  unfold GroupSource.ofTable at h
  split at h
  · cases h
  · cases h
    rw [Value.undatedEntries_eq_map, Value.undatedEntries_eq_map, memberEntries, List.filter_map]
    refine congrArg _ (List.filter_congr fun entry _ => ?_)
    simp [has_groupFields]

/-- The members of a group are built from their entries as authored. -/
theorem mapM_members {source : GroupSource}
    (h : GroupSource.ofTable key (Value.undatedEntries table) = .ok source) :
    (source.members.mapM fun (name, value) => do
      Element.build (memberKey key name) (← expectTable (memberKey key name) value))
      = (memberEntries table).mapM fun entry =>
        expectTable (memberKey key entry.1) entry.2 >>= Element.build (memberKey key entry.1) := by
  rw [members_of_groupSource h, Value.undatedEntries_eq_map, List.mapM_map]
  exact Result.mapM_congr fun entry _ => buildMember_undated (memberKey key entry.1) entry.2

theorem buildGroup_eq_error : Group.build key table = .error fault ↔ GroupFault key table fault := by
  rw [Group.build, Result.bind_eq_error]
  constructor
  · rintro (hsource | ⟨source, hsource, hmembers⟩)
    · obtain ⟨before, name, value, after, reason, htable, hbefore, hreason, rfl⟩ :=
        groupSource_eq_error.1 hsource
      exact .metadata htable hbefore (isSome_groupComplaint?_iff.1 (Option.isSome_of_eq_some hreason)) hreason
    · rw [Result.bind_pure_eq_error, mapM_members hsource] at hmembers
      obtain ⟨before, ⟨name, value⟩, after, hentries, hfault, hbefore⟩ := Result.mapM_eq_error.1 hmembers
      refine .member (exists_groupSource_iff.1 ⟨source, hsource⟩) hentries (fun entry hentry => ?_)
        (buildMember_eq_error.1 hfault)
      exact exists_buildMember_iff.1 (hbefore entry hentry)
  · rintro (⟨htable, hbefore, -, hreason⟩ | ⟨hstated, hentries, hbefore, hfault⟩)
    · exact .inl (groupSource_eq_error.2 ⟨_, _, _, _, _, htable, hbefore, hreason, rfl⟩)
    · obtain ⟨source, hsource⟩ := exists_groupSource_iff.2 hstated
      refine .inr ⟨source, hsource, ?_⟩
      rw [Result.bind_pure_eq_error, mapM_members hsource]
      refine Result.mapM_eq_error.2 ⟨_, _, _, hentries, buildMember_eq_error.2 hfault, ?_⟩
      exact fun entry hentry => exists_buildMember_iff.2 (hbefore entry hentry)

end group

/-! ### Entries -/

section entry

variable {key : String} {value : Value} {fault : Fault}

theorem buildEntry_eq_error : Entry.build key value = .error fault ↔ EntryFault key value fault := by
  constructor
  · intro h
    cases value with
    | table table =>
      rw [Entry.build, expectTable, Value.table?, Result.ok_bind] at h
      split at h
      · rename_i htype
        exact .leaf (Keyed.has_iff.1 htype) (Result.bind_pure_eq_error.1 h)
      · rename_i htype
        have hgroup := buildGroup_eq_error.1 (Result.bind_pure_eq_error.1 h)
        exact .group (fun hmem => htype (Keyed.has_iff.2 hmem)) hgroup
    | string | integer | float | boolean | datetime | array =>
      cases h
      exact .notTable rfl
  · rintro (htable | ⟨htype, hbuild⟩ | ⟨htype, hgroup⟩)
    · rw [Entry.build, expectTable, htable]
      rfl
    · rw [Entry.build, expectTable, Value.table?, Result.ok_bind, if_pos (Keyed.has_iff.2 htype), hbuild]
      rfl
    · have hhas : ¬ Keyed.has _ "type" = true := fun hhas => htype (Keyed.has_iff.1 hhas)
      rw [Entry.build, expectTable, Value.table?, Result.ok_bind, if_neg hhas, buildGroup_eq_error.2 hgroup]
      rfl

/-- An entry is invalid if and only if it has a fault by itself. -/
theorem invalid_iff : Invalid key value ↔ ∃ fault, EntryFault key value fault := by
  constructor
  · rintro (htable | ⟨htype, hbuild⟩ | ⟨htype, hentry, hmisstates⟩ | ⟨htype, hentry, hfault⟩)
    · exact ⟨_, .notTable htable⟩
    · exact ⟨_, .leaf htype hbuild⟩
    · obtain ⟨fault, hgroup⟩ := exists_groupFault_of_misstates key ⟨_, hentry, hmisstates⟩
      exact ⟨fault, .group htype hgroup⟩
    · rename_i table name value fault
      by_cases hstated : ∃ entry ∈ table, Misstates entry.1 entry.2
      · obtain ⟨fault, hgroup⟩ := exists_groupFault_of_misstates key hstated
        exact ⟨fault, .group htype hgroup⟩
      · obtain ⟨before, ⟨first, inner⟩, after, hentries, hbefore, earliest, hearliest⟩ :=
          exists_first (p := fun entry => ∃ fault, LeafFault (memberKey key entry.1) entry.2 fault)
            ⟨(name, value), hentry, fault, hfault⟩
        have hfine : ∀ entry ∈ table, ¬ Misstates entry.1 entry.2 :=
          fun entry hentry hmisstates => hstated ⟨entry, hentry, hmisstates⟩
        exact ⟨earliest, .group htype (.member hfine hentries hbefore hearliest)⟩
  · rintro ⟨fault, htable | ⟨htype, hbuild⟩ | ⟨htype, hgroup⟩⟩
    · exact .notTable htable
    · exact .leaf htype hbuild
    · rcases hgroup with ⟨rfl, -, hmisstates, -⟩ | ⟨-, hentries, -, hfault⟩
      · exact .metadata htype (by simp) hmisstates
      · exact .member htype (by simp [hentries]) hfault

end entry

/-! ### The whole document -/

theorem exists_buildEntry_iff {key : String} {value : Value} :
    (∃ entry, Entry.build key value = .ok entry) ↔ ¬ Invalid key value := by
  simp only [invalid_iff, ← buildEntry_eq_error, Result.exists_ok_iff]

theorem build_eq_error {document : Table} {fault : Fault} : build document = .error fault
    ↔ document.mapM (fun entry => Entry.build entry.1 entry.2) = .error fault :=
  Result.bind_pure_eq_error

/-- A document fails with the fault of its first invalid entry. -/
theorem build_eq_error_iff {document : Table} {fault : Fault} : build document = .error fault
    ↔ ∃ before key value after, document = before ++ (key, value) :: after
      ∧ (∀ earlier ∈ before, ¬ Invalid earlier.1 earlier.2) ∧ EntryFault key value fault := by
  rw [build_eq_error, Result.mapM_eq_error]
  constructor
  · rintro ⟨before, ⟨key, value⟩, after, hdocument, hentry, hbefore⟩
    refine ⟨before, key, value, after, hdocument, fun earlier hearlier => ?_, buildEntry_eq_error.1 hentry⟩
    exact exists_buildEntry_iff.1 (hbefore earlier hearlier)
  · rintro ⟨before, key, value, after, hdocument, hbefore, hentry⟩
    refine ⟨before, (key, value), after, hdocument, buildEntry_eq_error.2 hentry, fun earlier hearlier => ?_⟩
    exact exists_buildEntry_iff.2 (hbefore earlier hearlier)

theorem exists_build_eq_error_iff {document : Table} :
    (∃ fault, build document = .error fault) ↔ ∃ entry ∈ document, Invalid entry.1 entry.2 := by
  constructor
  · rintro ⟨fault, hfault⟩
    obtain ⟨before, key, value, after, rfl, -, hentry⟩ := build_eq_error_iff.1 hfault
    exact ⟨(key, value), by simp, invalid_iff.2 ⟨fault, hentry⟩⟩
  · intro hinvalid
    obtain ⟨before, ⟨key, value⟩, after, hdocument, hbefore, hfirst⟩ := exists_first hinvalid
    obtain ⟨fault, hfault⟩ := invalid_iff.1 hfirst
    exact ⟨fault, build_eq_error_iff.2 ⟨before, key, value, after, hdocument, hbefore, hfault⟩⟩

/-- What stands behind an invalid entry does not matter. -/
theorem build_append_of_invalid {key : String} {value : Value} (h : Invalid key value)
    (before after : Table) :
    build (before ++ (key, value) :: after) = build (before ++ [(key, value)]) := by
  obtain ⟨fault, hfault⟩ := invalid_iff.1 h
  have hstop : ∀ after : Table,
      (before ++ (key, value) :: after).mapM (fun entry => Entry.build entry.1 entry.2)
        = before.mapM (fun entry => Entry.build entry.1 entry.2) >>= fun _ => .error fault := by
    intro after
    refine Result.mapM_of_error ?_ before after
    exact buildEntry_eq_error.2 hfault
  exact congrArg (· >>= _) ((hstop after).trans (hstop []).symm)

/-- A document is refused if and only if one of its entries is invalid, with the fault that the first
invalid one has by itself, whatever stands behind it. -/
theorem refused_at_earliest (document : Table) :
    ((∃ fault, build document = .error fault) ↔ ∃ entry ∈ document, Invalid entry.1 entry.2)
      ∧ (∀ fault, build document = .error fault
        ↔ ∃ before key value after, document = before ++ (key, value) :: after
          ∧ (∀ earlier ∈ before, ¬ Invalid earlier.1 earlier.2) ∧ EntryFault key value fault)
      ∧ (∀ key value fault, build [(key, value)] = .error fault ↔ EntryFault key value fault)
      ∧ ∀ before key value after, document = before ++ (key, value) :: after → Invalid key value →
        build document = build (before ++ [(key, value)]) := by
  refine ⟨exists_build_eq_error_iff, fun fault => build_eq_error_iff, ?_, ?_⟩
  · intro key value fault
    rw [build_eq_error, ← buildEntry_eq_error, List.mapM_cons]
    simp only [List.mapM_nil, pure_bind, Result.bind_pure_eq_error]
  · rintro before key value after rfl hinvalid
    exact build_append_of_invalid hinvalid before after

/-- A document with a group that has a member that is no table before it misstates that it is hidden, and
behind the group a value that is no table. -/
def faultyDocument : Table :=
  [("color", switchTable), ("node", .table [("flavor", .string "x"), ("hide", .string "no")]),
    ("jobs", .integer 4)]

theorem refused_at_earliest_faultyDocument :
    ∃ value, faultyDocument = [("color", switchTable)] ++ ("node", value) :: [("jobs", .integer 4)]
      ∧ Invalid "node" value
      ∧ build faultyDocument = build [("color", switchTable), ("node", value)]
      ∧ ∃ fault, build faultyDocument = .error fault := by
  have hinvalid : Invalid "node" (.table [("flavor", .string "x"), ("hide", .string "no")]) :=
    .metadata (by decide) (List.mem_cons_of_mem _ (List.mem_singleton_self _)) (.hide (by simp))
  obtain ⟨hfails, -, -, hbehind⟩ := refused_at_earliest faultyDocument
  refine ⟨_, rfl, hinvalid, hbehind [_] "node" _ _ rfl hinvalid, ?_⟩
  exact hfails.2 ⟨("node", _), List.mem_cons_of_mem _ List.mem_cons_self, hinvalid⟩

end Catalog.Setting
