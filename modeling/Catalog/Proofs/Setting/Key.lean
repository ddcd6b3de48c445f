import Catalog.Proofs.Setting.Properties

/-!
Keys of settings. The key of a member joins two authored keys by a dot, and either of them may hold dots
itself. Main statement: the keys of all settings are pairwise distinct exactly if no group has a member
with the name that a setting beside the group has, seen from the group; so they are where no key at the
top holds a dot.
-/

namespace Catalog.Setting

open Toml (Value Table)

/-! ### Joined keys -/

theorem toList_memberKey (group name : String) :
    (memberKey group name).toList = group.toList ++ '.' :: name.toList := by
  simp [memberKey]

theorem memberKey_injective (group : String) : Function.Injective (memberKey group) := by
  intro name name' h
  rw [← memberName_memberKey group name, h, memberName_memberKey]

/-- A key of three parts is joined from either end. -/
theorem memberKey_memberKey (group inner name : String) :
    memberKey (memberKey group inner) name = memberKey group (memberKey inner name) := by
  simp [memberKey, String.append_assoc]

theorem ne_memberKey (group name : String) : group ≠ memberKey group name := by
  intro h
  have hlen := congrArg (·.toList.length) h
  simp [toList_memberKey] at hlen

/-- If members of two groups have one key, the key of one group is that of a member of the other. -/
theorem exists_of_memberKey_eq {group group' name name' : String} (hne : group ≠ group')
    (h : memberKey group name = memberKey group' name') :
    (∃ inner, group' = memberKey group inner) ∨ ∃ inner, group = memberKey group' inner := by
  have joined : ∀ {short long : String} {rest : List Char}, short ≠ long →
      long.toList = short.toList ++ rest → (∃ text text', '.' :: text = rest ++ '.' :: text') →
      ∃ inner, long = memberKey short inner := by
    intro short long rest hne hlong ⟨text, text', htext⟩
    cases rest with
    | nil => exact absurd (String.toList_injective (by simpa using hlong.symm)) hne
    | cons c inner =>
      obtain ⟨rfl, -⟩ := List.cons.inj htext
      exact ⟨String.ofList inner, String.toList_injective (by simpa [toList_memberKey] using hlong)⟩
  have hlists := congrArg String.toList h
  rw [toList_memberKey, toList_memberKey, List.append_eq_append_iff] at hlists
  rcases hlists with ⟨rest, hlong, htext⟩ | ⟨rest, hlong, htext⟩
  · exact .inl (joined hne hlong ⟨_, _, htext⟩)
  · exact .inr (joined hne.symm hlong ⟨_, _, htext⟩)

/-! ### The settings of an entry -/

/-- The names of the members, if a value is the table of a group: one without a type. -/
def members? : Value → Option (List String)
  | .table table => if "type" ∈ Keyed.keys table then none else some (memberNames table)
  | _ => none

/-- The keys of the settings that the value under a key stands for. -/
def settingKeys (key : String) (value : Value) : List String :=
  match members? value with
  | none => [key]
  | some names => names.map (memberKey key)

theorem keys_of_buildEntry {key : String} {value : Value} {entry : Entry}
    (h : Entry.build key value = .ok entry) :
    entry.elements.map Element.key = settingKeys key value := by
  obtain ⟨hkey, table, rfl, hfollows⟩ := follows_of_buildEntry h
  cases entry with
  | leaf element =>
    have htype : "type" ∈ Keyed.keys table := hfollows
    rw [settingKeys, members?, if_pos htype]
    exact congrArg ([·]) hkey
  | group g =>
    obtain ⟨htype, hmembers⟩ := hfollows
    rw [settingKeys, members?, if_neg htype]
    exact hkey ▸ hmembers

theorem nodup_of_members? {value : Value} {names : List String} (hdistinct : value.Distinct)
    (h : members? value = some names) : names.Nodup := by
  unfold members? at h
  split at h
  · split at h
    · cases h
    · cases h
      exact (Value.everyTable_table.1 hdistinct).1.filter _
  · cases h

theorem nodup_settingKeys {value : Value} (hdistinct : value.Distinct) (key : String) :
    (settingKeys key value).Nodup := by
  unfold settingKeys
  split
  · exact List.nodup_singleton key
  · rename_i hnames
    exact (nodup_of_members? hdistinct hnames).map (memberKey_injective key)

/-- What stands under a joined key has the settings that it has under the second key, each with the
first key put in front. -/
theorem settingKeys_memberKey (group name : String) (value : Value) :
    settingKeys (memberKey group name) value = (settingKeys name value).map (memberKey group) := by
  unfold settingKeys
  split
  · rfl
  · rw [List.map_map]
    exact List.map_congr_left fun inner _ => memberKey_memberKey group name inner

/-! ### Two entries -/

/-- Of two entries with a setting of one key, one is a group and its key with a dot starts the key of
the other. -/
theorem exists_memberKey_of_mem {key other path : String} {value beside : Value} (hne : key ≠ other)
    (h : path ∈ settingKeys key value) (hother : path ∈ settingKeys other beside) :
    (∃ names name, members? value = some names ∧ other = memberKey key name)
      ∨ ∃ names name, members? beside = some names ∧ key = memberKey other name := by
  unfold settingKeys at h hother
  cases hnames : members? value with
  | none =>
    rw [hnames, List.mem_singleton] at h
    cases hbeside : members? beside with
    | none =>
      rw [hbeside, List.mem_singleton] at hother
      exact absurd (h.symm.trans hother) hne
    | some inside =>
      rw [hbeside, List.mem_map] at hother
      obtain ⟨name, -, hname⟩ := hother
      exact .inr ⟨inside, name, rfl, h.symm.trans hname.symm⟩
  | some names =>
    rw [hnames, List.mem_map] at h
    obtain ⟨name, -, hname⟩ := h
    cases hbeside : members? beside with
    | none =>
      rw [hbeside, List.mem_singleton] at hother
      exact .inl ⟨names, name, rfl, hother.symm.trans hname.symm⟩
    | some inside =>
      rw [hbeside, List.mem_map] at hother
      obtain ⟨name', -, hname'⟩ := hother
      rcases exists_of_memberKey_eq hne (hname.trans hname'.symm) with ⟨inner, hinner⟩ | ⟨inner, hinner⟩
      · exact .inl ⟨names, inner, rfl, hinner⟩
      · exact .inr ⟨inside, inner, rfl, hinner⟩

/-- A group and what stands under a key that its own starts have no setting of one key if and only if
none of its members has the name of a setting there. -/
theorem disjoint_memberKey_iff {group name : String} {value beside : Value} {names : List String}
    (hnames : members? value = some names) :
    (settingKeys group value).Disjoint (settingKeys (memberKey group name) beside)
      ↔ names.Disjoint (settingKeys name beside) := by
  rw [settingKeys_memberKey, settingKeys, hnames]
  constructor
  · intro h inner hinner hbeside
    exact h (List.mem_map_of_mem hinner) (List.mem_map_of_mem hbeside)
  · exact List.disjoint_map (memberKey_injective group)

/-! ### The whole document -/

/-- No group has a member with the name that a setting beside the group has, seen from the group. -/
def Apart (document : Table) : Prop :=
  ∀ group name value beside names, Keyed.get? document group = some value →
    members? value = some names → Keyed.get? document (memberKey group name) = some beside →
    names.Disjoint (settingKeys name beside)

/-- The settings of a document, up to their order. -/
theorem perm_settingKeys {document : Table} {entries : List Entry}
    (h : build document = .ok entries) :
    ((entries.flatMap Entry.elements).map Element.key).Perm
      (document.flatMap fun item => settingKeys item.1 item.2) := by
  obtain ⟨authored, hauthored, rfl⟩ := exists_of_build h
  have hkeys : authored.map (fun entry => entry.elements.map Element.key)
      = document.map fun item => settingKeys item.1 item.2 :=
    Result.map_eq_of_mapM (fun _ _ hentry => keys_of_buildEntry hentry) hauthored
  rw [List.flatMap_def (l := document), ← hkeys, ← List.flatMap_def, List.map_flatMap]
  exact (Collation.sortBy_perm Entry.key authored).flatMap_right _

theorem nodup_settingKeys_iff {document : Table} (hdistinct : (Value.table document).Distinct) :
    (document.flatMap fun item => settingKeys item.1 item.2).Nodup ↔ Apart document := by
  obtain ⟨hkeys, hall⟩ := Value.everyTable_table.1 hdistinct
  rw [List.nodup_flatMap]
  constructor
  · rintro ⟨-, hpairs⟩ group name value beside names hvalue hnames hbeside
    have : Std.Symm (Function.onFun List.Disjoint fun item : String × Value =>
        settingKeys item.1 item.2) := ⟨fun _ _ h => h.symm⟩
    refine (disjoint_memberKey_iff hnames).1 (hpairs.forall (Keyed.mem_of_get? hvalue)
      (Keyed.mem_of_get? hbeside) fun hsame => ?_)
    exact ne_memberKey group name (congrArg Prod.fst hsame)
  · intro hapart
    refine ⟨fun item hitem => nodup_settingKeys (hall item hitem) item.1, ?_⟩
    refine (List.pairwise_map.1 hkeys).imp_of_mem ?_
    rintro ⟨key, value⟩ ⟨other, beside⟩ hitem hother hne path hpath hpath'
    have hvalue := Keyed.get?_of_mem hkeys hitem
    have hbeside := Keyed.get?_of_mem hkeys hother
    rcases exists_memberKey_of_mem hne hpath hpath' with
      ⟨names, name, hnames, rfl⟩ | ⟨names, name, hnames, rfl⟩
    · exact (disjoint_memberKey_iff hnames).2 (hapart _ _ _ _ _ hvalue hnames hbeside) hpath hpath'
    · exact (disjoint_memberKey_iff hnames).2 (hapart _ _ _ _ _ hbeside hnames hvalue) hpath' hpath

/-- Where no key at the top holds a dot, no entry can stand under the key of a member. -/
theorem apart_of_undotted {document : Table}
    (h : ∀ key ∈ Keyed.keys document, '.' ∉ key.toList) : Apart document := by
  intro group name value beside names _ _ hbeside
  refine absurd ?_ (h (memberKey group name) (List.mem_map_of_mem (Keyed.mem_of_get? hbeside)))
  simp [toList_memberKey]

/-- The keys of all settings of a document, those at the top and the members of all groups together, are
pairwise distinct if and only if no group has a member with the name that a setting beside the group has,
seen from the group. So they are where no key at the top holds a dot. -/
theorem keys_nodup_iff {document : Table} {entries : List Entry}
    (hdistinct : (Value.table document).Distinct) (h : build document = .ok entries) :
    (((entries.flatMap Entry.elements).map Element.key).Nodup ↔ Apart document)
      ∧ ((∀ key ∈ Keyed.keys document, '.' ∉ key.toList) →
        ((entries.flatMap Entry.elements).map Element.key).Nodup) := by
  have hiff : ((entries.flatMap Entry.elements).map Element.key).Nodup ↔ Apart document := by
    rw [(perm_settingKeys h).nodup_iff, nodup_settingKeys_iff hdistinct]
  exact ⟨hiff, fun hdots => hiff.2 (apart_of_undotted hdots)⟩

/-- A group with a member under a dotted key, and beside it a group and a setting under keys that its own
starts. -/
def dottedDocument : Table :=
  [("a", .table [("b", switchTable), ("c.d", switchTable)]), ("a.b", .table [("b", switchTable)]),
    ("a.c", switchTable)]

theorem keys_nodup_iff_dottedDocument :
    (Value.table dottedDocument).Distinct
      ∧ ∃ entries, build dottedDocument = .ok entries
        ∧ ((entries.flatMap Entry.elements).map Element.key).Perm ["a.b", "a.c.d", "a.b.b", "a.c"]
        ∧ Apart dottedDocument := by
  have hdistinct : (Value.table dottedDocument).Distinct := by
    simp [dottedDocument, switchTable, Value.EveryTable, Value.EveryEntry, Keyed.keys]
  obtain ⟨entries, hbuild⟩ : ∃ entries, build dottedDocument = .ok entries := ⟨_, rfl⟩
  have hperm := perm_settingKeys hbuild
  exact ⟨hdistinct, entries, hbuild, hperm,
    (keys_nodup_iff hdistinct hbuild).1.1 (hperm.nodup_iff.2 (by decide))⟩

/-- A group with one member, and beside it a setting under the key of the member. -/
def clashingDocument : Table :=
  [("a.b", switchTable), ("a", .table [("b", switchTable)])]

theorem keys_not_nodup_clashingDocument :
    (Value.table clashingDocument).Distinct
      ∧ ∃ entries, build clashingDocument = .ok entries
        ∧ (entries.flatMap Entry.elements).map Element.key = ["a.b", "a.b"]
        ∧ ¬ ((entries.flatMap Entry.elements).map Element.key).Nodup := by
  have hdistinct : (Value.table clashingDocument).Distinct := by
    simp [clashingDocument, switchTable, Value.EveryTable, Value.EveryEntry, Keyed.keys]
  obtain ⟨entries, hbuild⟩ : ∃ entries, build clashingDocument = .ok entries := ⟨_, rfl⟩
  have hkeys : (entries.flatMap Entry.elements).map Element.key = ["a.b", "a.b"] :=
    (List.perm_replicate (n := 2)).1 (perm_settingKeys hbuild)
  exact ⟨hdistinct, entries, hbuild, hkeys, hkeys ▸ by decide⟩

end Catalog.Setting
