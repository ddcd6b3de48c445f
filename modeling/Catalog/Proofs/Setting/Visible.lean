import Catalog.Setting.Entry

/-!
What the documentation lists. Main statement: of all settings exactly those are left that are neither hidden
nor members of a hidden group, in their order; of the entries exactly those that have such a setting, each in
its place, and of a group nothing but its hidden members is taken away. So there is nothing left to take away
a second time, and the entries stay in order.
-/

namespace Catalog.Setting

namespace Entry

/-- Whether an entry is hidden as a whole. -/
def isHidden : Entry → Bool
  | leaf element => element.hide
  | group g => g.hide

/-- An entry is listed if it is not hidden and has a setting that is not. -/
def isListed (entry : Entry) : Bool :=
  !entry.isHidden && entry.elements.any (!·.hide)

/-- An entry without the hidden members of a group. -/
def trimmed : Entry → Entry
  | leaf element => leaf element
  | group g => group { g with settings := g.settings.filter (!·.hide) }

theorem isListed_leaf (element : Element) : (leaf element).isListed = !element.hide := by
  simp [isListed, isHidden, elements]

theorem isListed_group (g : Group) : (group g).isListed = (!g.hide && g.settings.any (!·.hide)) :=
  rfl

@[simp] theorem key_trimmed (entry : Entry) : entry.trimmed.key = entry.key := by
  cases entry <;> rfl

theorem isEmpty_shown (settings : List Element) :
    (settings.filter (!·.hide)).isEmpty = !settings.any (!·.hide) := by
  rw [Bool.eq_iff_iff, List.isEmpty_iff, List.filter_eq_nil_iff]
  simp

/-- Listing goes entry by entry: one that is listed is trimmed, and any other is left out. -/
theorem visible?_eq (entry : Entry) :
    entry.visible? = if entry.isListed then some entry.trimmed else none := by
  cases entry with
  | leaf element =>
    rw [isListed_leaf, visible?, trimmed]
    cases element.hide <;> rfl
  | group g =>
    rw [isListed_group, visible?, trimmed, isEmpty_shown]
    cases g.hide <;> cases g.settings.any (!·.hide) <;> rfl

/-- Every setting of a listed entry that is not hidden stays, and an entry that is not listed has none but
hidden ones or is hidden. -/
theorem elements_visible? (entry : Entry) : (entry.visible?.toList).flatMap elements
    = if entry.isHidden then [] else entry.elements.filter (!·.hide) := by
  cases entry with
  | leaf element => cases h : element.hide <;> simp [visible?, isHidden, elements, h]
  | group g =>
    cases h : g.hide with
    | true => simp [visible?, isHidden, h]
    | false =>
      by_cases hempty : g.settings.filter (!·.hide) = []
      · simp [visible?, isHidden, elements, h, hempty]
      · simp [visible?, isHidden, elements, h, hempty]

theorem isListed_trimmed (entry : Entry) : entry.trimmed.isListed = entry.isListed := by
  cases entry with
  | leaf element => rfl
  | group g => simp [trimmed, isListed_group, List.any_filter]

theorem trimmed_trimmed (entry : Entry) : entry.trimmed.trimmed = entry.trimmed := by
  cases entry with
  | leaf element => rfl
  | group g => simp [trimmed, List.filter_filter]

end Entry

/-! ### The whole list -/

/-- The settings that are neither hidden nor members of a hidden group, in order. -/
def shownSettings (entries : List Entry) : List Element :=
  ((entries.filter (!·.isHidden)).flatMap Entry.elements).filter (!·.hide)

theorem visible_eq (entries : List Entry) :
    visible entries = (entries.filter Entry.isListed).map Entry.trimmed := by
  rw [visible, funext Entry.visible?_eq, ← List.filterMap_eq_map, List.filterMap_filter]
  rfl

theorem visible_append (before after : List Entry) :
    visible (before ++ after) = visible before ++ visible after :=
  List.filterMap_append

theorem visible_cons (entry : Entry) (rest : List Entry) :
    visible (entry :: rest) = entry.visible?.toList ++ visible rest := by
  rw [visible, List.filterMap_cons]
  cases entry.visible? <;> rfl

theorem elements_visible : ∀ entries : List Entry,
    (visible entries).flatMap Entry.elements = shownSettings entries
  | [] => rfl
  | entry :: rest => by
    rw [visible_cons, List.flatMap_append, elements_visible rest, entry.elements_visible?]
    cases h : entry.isHidden <;> simp [shownSettings, h]

/-- Nothing is left to take away a second time. -/
theorem visible_visible (entries : List Entry) : visible (visible entries) = visible entries := by
  have hlisted : ((entries.filter Entry.isListed).map Entry.trimmed).filter Entry.isListed
      = (entries.filter Entry.isListed).map Entry.trimmed := by
    rw [List.filter_eq_self, List.forall_mem_map]
    intro entry hentry
    rw [entry.isListed_trimmed]
    exact (List.mem_filter.1 hentry).2
  rw [visible_eq entries, visible_eq, hlisted, List.map_map]
  exact List.map_congr_left fun entry _ => entry.trimmed_trimmed

theorem keys_visible_sublist (entries : List Entry) :
    ((visible entries).map Entry.key).Sublist (entries.map Entry.key) := by
  have hkeys : (visible entries).map Entry.key = (entries.filter Entry.isListed).map Entry.key := by
    rw [visible_eq, List.map_map]
    exact List.map_congr_left fun entry _ => entry.key_trimmed
  rw [hkeys]
  exact List.filter_sublist.map Entry.key

/-- A group is left out where it stands if and only if it is hidden or all its members are. -/
theorem visible_without_iff (before after : List Entry) (g : Group) :
    visible (before ++ .group g :: after) = visible before ++ visible after
      ↔ g.hide = true ∨ ∀ member ∈ g.settings, member.hide = true := by
  have hout : visible (before ++ .group g :: after) = visible before ++ visible after
      ↔ (Entry.group g).isListed = false := by
    rw [visible_append, visible_cons, List.append_cancel_left_eq, List.append_left_eq_self,
      Entry.visible?_eq]
    cases (Entry.group g).isListed <;> simp
  rw [hout, Entry.isListed_group]
  cases g.hide <;> simp

theorem exists_of_group_mem_visible {entries : List Entry} {g : Group} (h : .group g ∈ visible entries) :
    g.hide = false ∧ g.settings ≠ [] ∧ ∃ authored, .group authored ∈ entries
      ∧ g = { authored with settings := authored.settings.filter (!·.hide) } := by
  rw [visible_eq] at h
  obtain ⟨entry, hentry, htrimmed⟩ := List.mem_map.1 h
  obtain ⟨hmem, hlisted⟩ := List.mem_filter.1 hentry
  cases entry with
  | leaf element => cases htrimmed
  | group authored =>
    cases htrimmed
    rw [Entry.isListed_group, Bool.and_eq_true, Bool.not_eq_true'] at hlisted
    obtain ⟨hhide, hany⟩ := hlisted
    refine ⟨hhide, ?_, authored, hmem, rfl⟩
    rw [ne_eq, ← List.isEmpty_iff, Entry.isEmpty_shown, hany]
    exact Bool.false_ne_true

/-- The documentation lists exactly the settings that are neither hidden nor members of a hidden group, each
as it is and in order. It does so entry by entry: a single setting stays where it is, and a group with all
its fields but for its hidden members, so that it has at least one; a group is left out if and only if it is
hidden or has no other members. Listing what is listed changes nothing, and an order of the keys is kept. -/
theorem visible_keeps_shown (entries : List Entry) :
    (visible entries).flatMap Entry.elements = shownSettings entries
      ∧ visible entries = (entries.filter Entry.isListed).map Entry.trimmed
      ∧ (∀ g, .group g ∈ visible entries → g.hide = false ∧ g.settings ≠ []
          ∧ ∃ authored, .group authored ∈ entries
            ∧ g = { authored with settings := authored.settings.filter (!·.hide) })
      ∧ (∀ before g after, entries = before ++ .group g :: after →
          (visible entries = visible before ++ visible after
            ↔ g.hide = true ∨ ∀ member ∈ g.settings, member.hide = true))
      ∧ visible (visible entries) = visible entries
      ∧ ∀ order : String → String → Prop, (entries.map Entry.key).Pairwise order →
          ((visible entries).map Entry.key).Pairwise order := by
  refine ⟨elements_visible entries, visible_eq entries, fun g hg => exists_of_group_mem_visible hg, ?_,
    visible_visible entries, ?_⟩
  · rintro before g after rfl
    exact visible_without_iff before after g
  · intro order hsorted
    exact hsorted.sublist (keys_visible_sublist entries)

end Catalog.Setting
