import Catalog.Keyed
import Catalog.Sorted

/-!
The options of a backend: values by name, in ascending order of the names.
-/

namespace Catalog.Backend

/-- Option values by name. -/
structure Options where
  entries : List (String × String)
  ascending : Sorted.Ascending (·.1) entries := by decide
  deriving DecidableEq

namespace Options

instance : Inhabited Options := ⟨{ entries := [] }⟩

/-- No options. -/
def empty : Options :=
  { entries := [] }

/-- The value of an option. -/
def get? (options : Options) (name : String) : Option String :=
  Keyed.get? options.entries name

/-- Sets the value of an option. -/
def set (options : Options) (name value : String) : Options where
  entries := Sorted.insert (·.1) (name, value) options.entries
  ascending := Sorted.ascending_insert options.ascending _

/-- Sets options one after the other, so that the last value of a name stays. -/
def setAll (options : Options) (pairs : List (String × String)) : Options :=
  pairs.foldl (fun options pair => options.set pair.1 pair.2) options

/-- The options of a list of pairs. -/
def ofPairs (pairs : List (String × String)) : Options :=
  empty.setAll pairs

@[simp] theorem get?_empty (name : String) : empty.get? name = none := rfl

theorem get?_set (options : Options) (name value other : String) :
    (options.set name value).get? other
      = if name = other then some value else options.get? other := by
  obtain ⟨entries, h⟩ := options
  simp only [get?, set]
  induction entries with
  | nil => simp [Sorted.insert, Keyed.get?]
  | cons head rest ih =>
    obtain ⟨hhead, hrest⟩ := List.pairwise_cons.1 h
    unfold Sorted.insert
    split
    · simp only [Keyed.get?]
    · split
      · rename_i heq
        replace heq : name = head.1 := heq
        by_cases hn : name = other
        · simp [Keyed.get?, hn]
        · simp [Keyed.get?, hn, ← heq]
      · rename_i hne
        replace hne : name ≠ head.1 := hne
        by_cases hh : head.1 = other
        · have hno : name ≠ other := fun e => hne (e.trans hh.symm)
          simp [Keyed.get?, hh, hno]
        · simp only [Keyed.get?, if_neg hh]
          exact ih hrest

/-- Of several values that are set for a name the last one counts, and one from before only if there are
none. -/
theorem get?_setAll (options : Options) (pairs : List (String × String)) (name : String) :
    (options.setAll pairs).get? name
      = (Keyed.get? pairs.reverse name).or (options.get? name) := by
  induction pairs generalizing options with
  | nil => rfl
  | cons head rest ih =>
    rw [setAll, List.foldl_cons, ← setAll, ih, get?_set, List.reverse_cons, Keyed.get?_append,
      Option.or_assoc]
    by_cases h : head.1 = name <;> simp [Keyed.get?, h]

theorem nodup_keys (options : Options) : (Keyed.keys options.entries).Nodup :=
  List.pairwise_map.2 (options.ascending.imp Std.ne_of_lt)

end Options

end Catalog.Backend
