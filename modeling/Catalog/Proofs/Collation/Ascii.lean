import Catalog.Proofs.Collation.Extension

/-!
The order of names in ASCII. Main statement: two such names are compared character by character, regardless
of case, in the order of white space, punctuation, control characters, digits and letters; names that differ
in case only are compared where they first differ, and lowercase comes first.
-/

namespace Catalog.Unicode

variable {c : Char}

theorem decompose_ascii (h : c.toNat < 0x80) : decompose c = [c] :=
  if_pos (Nat.lt_trans h (by decide))

theorem isMark_ascii (h : c.toNat < 0x80) : isMark c = false := by
  rw [isMark, markClass?, if_pos (Nat.lt_trans h (by decide))]
  rfl

theorem isUppercase_ascii (h : c.toNat < 0x80) : isUppercase c = c.isUpper :=
  if_pos h

/-- Characters of ASCII are neither taken apart nor moved. -/
theorem decomposed_ascii : ∀ {s : List Char}, (∀ c ∈ s, c.toNat < 0x80) → decomposed s = s
  | [], _ => rfl
  | c :: s, h => by
    obtain ⟨hc, hs⟩ := List.forall_mem_cons.1 h
    have hclass : combiningClass c = 0 := combiningClass_of_not_mark (isMark_ascii hc)
    have hrest : reorder (s.flatMap decompose) = s := decomposed_ascii hs
    rw [decomposed, List.flatMap_cons, decompose_ascii hc, List.singleton_append, reorder, if_pos hclass,
      hrest]

end Catalog.Unicode

namespace Catalog.Collation

variable {a b : String} {c d : Char} {s t : List Char}

/-! ### The order of characters -/

/-- The classes of the characters of ASCII, in the order in which they sort. -/
inductive AsciiClass
  | blank
  | punctuation
  | control
  | digit
  | letter
  deriving DecidableEq, Ord

/-- The class of a character of ASCII. -/
def asciiClass (c : Char) : AsciiClass :=
  if Text.isBlank c then .blank
  else if c ∈ punctuation then .punctuation
  else if c.toNat < 0x20 ∨ c.toNat = 0x7F then .control
  else if c.isDigit then .digit
  else .letter

/-- The place of a character in its class: punctuation has its own order, all else goes by code point. -/
def asciiPlace (c : Char) : Nat :=
  if asciiClass c = .punctuation then punctuation.idxOf c else c.toNat

/-- The order of the characters of ASCII: by class, and by place within a class. -/
def compareAscii : Char → Char → Ordering :=
  compareLex (compareOn asciiClass) (compareOn asciiPlace)

/-! ### Weights by class and place -/

/-- The weight of a character by its class, its place and its code point. -/
def AsciiClass.weight (place code : Nat) : AsciiClass → List Nat
  | blank => [0, 0, code]
  | punctuation => [0, place, code]
  | control => [0, Collation.punctuation.length, code]
  | digit => [1, code]
  | letter => [2, code]

theorem compare_class (k l : AsciiClass) : compare k l = compare k.ctorIdx l.ctorIdx := by
  cases k <;> cases l <;> rfl

/-- A place in a class: punctuation comes behind the space, with which its list starts. -/
structure IsPlace (k : AsciiClass) (place code : Nat) : Prop where
  listed : k = .punctuation → 0 < place ∧ place < punctuation.length
  other : k ≠ .punctuation → place = code

/-- Weights go by class, and within a class by place. -/
theorem compare_classWeight {k l : AsciiClass} {p q m n : Nat} (hp : IsPlace k p m) (hq : IsPlace l q n)
    (hinj : k = .punctuation → l = .punctuation → p = q → m = n) :
    compare (k.weight p m) (l.weight q n) = (compare k l).then (compare p q) := by
  obtain ⟨hp, hcode⟩ := hp
  obtain ⟨hq, hother⟩ := hq
  have hlength : 0 < punctuation.length := by decide
  rw [compare_class]
  cases k <;> cases l <;>
    simp only [AsciiClass.weight, List.compare_cons_cons, AsciiClass.ctorIdx, Nat.compare_eq_ite_lt]
  all_goals grind [Ordering.then]

theorem getLast?_classWeight (k : AsciiClass) (place code : Nat) :
    (k.weight place code).getLast? = some code := by
  cases k <;> rfl

/-- The weight of a character that is no capital letter. -/
def asciiWeight (c : Char) : List Nat :=
  (asciiClass c).weight (asciiPlace c) c.toNat

theorem asciiWeight_inj (h : asciiWeight c = asciiWeight d) : c = d := by
  have hlast := congrArg List.getLast? h
  rw [asciiWeight, asciiWeight, getLast?_classWeight, getLast?_classWeight] at hlast
  exact Char.toNat_inj.1 (Option.some.inj hlast)

theorem exists_place (h : asciiClass c = .punctuation) :
    Text.isBlank c = false ∧ punctuation[asciiPlace c]? = some c := by
  have hplace : asciiPlace c = punctuation.idxOf c := if_pos h
  have hclass : Text.isBlank c = false ∧ c ∈ punctuation := by
    unfold asciiClass at h
    grind
  refine ⟨hclass.1, ?_⟩
  have hlt := List.idxOf_lt_length_iff.2 hclass.2
  rw [hplace, List.getElem?_eq_getElem hlt, List.getElem_idxOf hlt]

theorem isPlace_asciiPlace (c : Char) : IsPlace (asciiClass c) (asciiPlace c) c.toNat := by
  refine ⟨fun h => ?_, fun h => if_neg h⟩
  obtain ⟨hblank, hget⟩ := exists_place h
  obtain ⟨hlt, -⟩ := List.getElem?_eq_some_iff.1 hget
  refine ⟨Nat.pos_of_ne_zero fun hzero => ?_, hlt⟩
  rw [hzero] at hget
  cases hget
  cases hblank

theorem compare_asciiWeight (c d : Char) : compare (asciiWeight c) (asciiWeight d) = compareAscii c d := by
  refine compare_classWeight (isPlace_asciiPlace c) (isPlace_asciiPlace d) fun hc hd hplace => ?_
  have hget := (exists_place hc).2
  rw [hplace, (exists_place hd).2] at hget
  exact congrArg Char.toNat (Option.some.inj hget).symm

theorem compare_map_asciiWeight : ∀ s t : List Char,
    compare (s.map asciiWeight) (t.map asciiWeight) = List.compareLex compareAscii s t
  | [], [] => rfl
  | [], _ :: _ => rfl
  | _ :: _, [] => rfl
  | c :: s, d :: t => by
    rw [List.map_cons, List.map_cons, List.compare_cons_cons, List.compareLex_cons_cons,
      compare_asciiWeight, compare_map_asciiWeight s t]

/-! ### Case -/

theorem of_forall_lt {P : Char → Prop} (h : ∀ n < 0x80, P (Char.ofNat n)) (hc : c.toNat < 0x80) : P c := by
  have hchar := h c.toNat hc
  rwa [Char.ofNat_toNat] at hchar

theorem weight_ascii (h : c.toNat < 0x80) : weight c = asciiWeight c.toLower :=
  of_forall_lt (P := fun c => weight c = asciiWeight c.toLower) (by decide +kernel) h

/-- A character is a capital letter, or it is its own lowercase. -/
theorem toLower_cases (h : c.toNat < 0x80) : (c.isUpper = false ∧ c.toLower = c)
    ∨ (c.isUpper = true ∧ c.toLower.isLower = true ∧ c.toLower.toNat = c.toNat + 32) :=
  of_forall_lt (P := fun c => (c.isUpper = false ∧ c.toLower = c)
    ∨ (c.isUpper = true ∧ c.toLower.isLower = true ∧ c.toLower.toNat = c.toNat + 32))
    (by decide +kernel) h

theorem toNat_toLower_lt_iff : c.toLower.toNat < 0x80 ↔ c.toNat < 0x80 := by
  constructor
  · intro h
    unfold Char.toLower at h
    split at h
    · rename_i hupper
      exact Nat.lt_of_le_of_lt (UInt32.le_iff_toNat_le.1 hupper.2) (by decide)
    · exact h
  · intro h
    exact of_forall_lt (P := fun c => c.toLower.toNat < 0x80) (by decide +kernel) h

/-- Of two characters that differ in case only, one is a lowercase and one a capital letter. -/
theorem case_of_toLower_eq (hc : c.toNat < 0x80) (hd : d.toNat < 0x80) (h : c.toLower = d.toLower)
    (hne : c ≠ d) : (c.isLower = true ∧ c.isUpper = false ∧ d.isUpper = true)
      ∨ (c.isUpper = true ∧ d.isLower = true ∧ d.isUpper = false) := by
  rcases toLower_cases hc with ⟨hcu, hcl⟩ | ⟨hcu, hcl, hcn⟩ <;>
    rcases toLower_cases hd with ⟨hdu, hdl⟩ | ⟨hdu, hdl, hdn⟩
  · exact absurd (hcl.symm.trans (h.trans hdl)) hne
  · rw [← h, hcl] at hdl
    exact .inl ⟨hdl, hcu, hdu⟩
  · rw [h, hdl] at hcl
    exact .inr ⟨hcu, hcl, hdu⟩
  · rw [h, hdn] at hcn
    exact absurd (Char.toNat_inj.1 (Nat.add_right_cancel hcn)).symm hne

/-! ### Names -/

/-- A name in ASCII. -/
def IsAscii (name : String) : Prop :=
  ∀ c ∈ name.toList, c.toNat < 0x80

instance (name : String) : Decidable (IsAscii name) :=
  List.decidableBAll (fun c : Char => c.toNat < 0x80) name.toList

theorem toList_toLower (name : String) : name.toLower.toList = name.toList.map Char.toLower :=
  String.toList_map

theorem toLower_eq_iff : a.toLower = b.toLower
    ↔ a.toList.map Char.toLower = b.toList.map Char.toLower := by
  rw [← String.toList_inj, toList_toLower, toList_toLower]

theorem isAscii_toLower_iff : IsAscii a.toLower ↔ IsAscii a := by
  simp only [IsAscii, toList_toLower, List.forall_mem_map, toNat_toLower_lt_iff]

theorem splitMarks_ascii : ∀ {s : List Char}, (∀ c ∈ s, c.toNat < 0x80) →
    splitMarks s = ([], s.map (⟨·, []⟩))
  | [], _ => rfl
  | c :: s, h => by
    obtain ⟨hc, hs⟩ := List.forall_mem_cons.1 h
    rw [splitMarks, splitMarks_ascii hs, Unicode.isMark_ascii hc]
    rfl

theorem clusters_ascii (h : IsAscii a) : clusters a = a.toList.map (⟨·, []⟩) := by
  rw [clusters, Unicode.decomposed_ascii h]
  cases hchars : a.toList with
  | nil => rfl
  | cons c s =>
    rw [IsAscii, hchars] at h
    rw [clustersOf, splitMarks_ascii (List.forall_mem_cons.1 h).2]
    rfl

theorem weights_ascii (h : IsAscii a) : weights a = a.toLower.toList.map asciiWeight := by
  rw [weights, clusters_ascii h, toList_toLower, List.map_map, List.map_map]
  exact List.map_congr_left fun c hc => weight_ascii (h c hc)

theorem accents_ascii (h : IsAscii a) : accents a = a.toLower.toList.map fun _ => [] := by
  rw [accents, clusters_ascii h, toList_toLower, List.map_map, List.map_map]
  rfl

theorem cases_ascii (h : IsAscii a) : cases a = a.toList.map Char.isUpper := by
  rw [cases, clusters_ascii h, List.map_map]
  exact List.map_congr_left fun c hc => Unicode.isUppercase_ascii (h c hc)

theorem weights_compare_ascii (ha : IsAscii a) (hb : IsAscii b) :
    compareOn weights a b = List.compareLex compareAscii a.toLower.toList b.toLower.toList := by
  rw [compareOn, weights_ascii ha, weights_ascii hb, compare_map_asciiWeight]

/-- Names in ASCII that differ beyond their case are compared by their weights. -/
theorem collate_of_toLower_ne (ha : IsAscii a) (hb : IsAscii b) (h : a.toLower ≠ b.toLower) :
    collate a b = List.compareLex compareAscii a.toLower.toList b.toLower.toList := by
  rw [← weights_compare_ascii ha hb]
  refine collate_of_weights_ne fun heq => h ?_
  have hweights := Std.LawfulEqOrd.eq_of_compare heq
  rw [weights_ascii ha, weights_ascii hb] at hweights
  exact String.toList_inj.1 ((List.map_inj_right fun _ _ => asciiWeight_inj).1 hweights)

/-- Two names agree up to the characters `c` and `d`, which differ. -/
structure DifferAt (a b : String) (c d : Char) : Prop where
  ne : c ≠ d
  agree : ∃ front s t, a.toList = front ++ c :: s ∧ b.toList = front ++ d :: t

theorem exists_difference : ∀ {s t : List Char}, s.map Char.toLower = t.map Char.toLower → s ≠ t →
    ∃ front c d s' t', s = front ++ c :: s' ∧ t = front ++ d :: t' ∧ c ≠ d
      ∧ c.toLower = d.toLower
  | [], [], _, hne => absurd rfl hne
  | [], _ :: _, h, _ => nomatch h
  | _ :: _, [], h, _ => nomatch h
  | c :: s, d :: t, h, hne => by
    obtain ⟨hfirst, hrest⟩ := List.cons.inj h
    by_cases hcd : c = d
    · subst hcd
      obtain ⟨front, e, f, s', t', rfl, rfl, hef, hlower⟩ :=
        exists_difference hrest fun hst => hne (hst ▸ rfl)
      exact ⟨c :: front, e, f, s', t', rfl, rfl, hef, hlower⟩
    · exact ⟨[], c, d, s, t, rfl, rfl, hcd, hfirst⟩

/-- Names in ASCII that are the same but for their case are compared by the case of their letters. -/
theorem collate_of_toLower_eq (ha : IsAscii a) (hb : IsAscii b) (h : a.toLower = b.toLower)
    (hcases : compareOn cases a b ≠ .eq) : collate a b = compareOn cases a b := by
  have hweights : compareOn weights a b = .eq := by
    rw [compareOn, weights_ascii ha, weights_ascii hb, h, Std.compare_self]
  have haccents : compareOn accents a b = .eq := by
    rw [compareOn, accents_ascii ha, accents_ascii hb, h, Std.compare_self]
  rw [collate, compareLex, hweights, Ordering.eq_then, compareLex, haccents, Ordering.eq_then,
    compareLex_of_ne hcases]

/-- The first character that differs decides between names that are the same but for their case. -/
theorem compareOn_cases_ascii (ha : IsAscii a) (hb : IsAscii b) {front s t : List Char}
    (hs : a.toList = front ++ c :: s) (ht : b.toList = front ++ d :: t) (h : c.isUpper ≠ d.isUpper) :
    compareOn cases a b = compare c.isUpper d.isUpper := by
  rw [compareOn, cases_ascii ha, cases_ascii hb, hs, ht, List.map_append, List.map_append,
    compare_append_left, List.map_cons, List.map_cons, List.compare_cons_cons]
  cases hc : c.isUpper <;> cases hd : d.isUpper
  · exact absurd (hc.trans hd.symm) h
  · rfl
  · rfl
  · exact absurd (hc.trans hd.symm) h

/-- Two names in ASCII that differ beyond their case are compared character by character in lowercase, by
class and within a class by place, so the case of their letters does not matter. If they differ in case only,
the first letter that differs decides, and the name with the lowercase letter comes first. -/
theorem collate_ascii (ha : IsAscii a) (hb : IsAscii b) :
    (a.toLower ≠ b.toLower →
        collate a b = List.compareLex compareAscii a.toLower.toList b.toLower.toList
          ∧ ∀ a' b' : String, a'.toLower = a.toLower → b'.toLower = b.toLower →
              collate a' b' = collate a b)
      ∧ (a.toLower = b.toLower → a ≠ b → ∃ c d, DifferAt a b c d
          ∧ ((c.isLower = true ∧ d.isUpper = true ∧ collate a b = .lt)
            ∨ (c.isUpper = true ∧ d.isLower = true ∧ collate a b = .gt))) := by
  refine ⟨fun hne => ?_, fun heq hne => ?_⟩
  · have hlower := collate_of_toLower_ne ha hb hne
    refine ⟨hlower, fun a' b' hsame hother => ?_⟩
    have ha' : IsAscii a' := isAscii_toLower_iff.1 (hsame ▸ isAscii_toLower_iff.2 ha)
    have hb' : IsAscii b' := isAscii_toLower_iff.1 (hother ▸ isAscii_toLower_iff.2 hb)
    rw [hlower, collate_of_toLower_ne ha' hb' (by rwa [hsame, hother]), hsame, hother]
  · obtain ⟨front, c, d, s, t, hs, ht, hcd, hlower⟩ :=
      exists_difference (toLower_eq_iff.1 heq) fun hlist => hne (String.toList_inj.1 hlist)
    have hc : c.toNat < 0x80 := ha c (by simp [hs])
    have hd : d.toNat < 0x80 := hb d (by simp [ht])
    refine ⟨c, d, ⟨hcd, front, s, t, hs, ht⟩, ?_⟩
    rcases case_of_toLower_eq hc hd hlower hcd with ⟨hcl, hcu, hdu⟩ | ⟨hcu, hdl, hdu⟩
    · have hcompare : compareOn cases a b = .lt := by
        rw [compareOn_cases_ascii ha hb hs ht (by simp [hcu, hdu]), hcu, hdu]
        rfl
      refine .inl ⟨hcl, hdu, ?_⟩
      rw [collate_of_toLower_eq ha hb heq (by simp [hcompare]), hcompare]
    · have hcompare : compareOn cases a b = .gt := by
        rw [compareOn_cases_ascii ha hb hs ht (by simp [hcu, hdu]), hcu, hdu]
        rfl
      refine .inr ⟨hcu, hdl, ?_⟩
      rw [collate_of_toLower_eq ha hb heq (by simp [hcompare]), hcompare]

/-- Two names that differ beyond their case, and two that differ in case only. -/
theorem collate_ascii_mixedCase :
    IsAscii "Go_1" ∧ IsAscii "gO-1" ∧ "Go_1".toLower ≠ "gO-1".toLower
      ∧ collate "Go_1" "gO-1" = .lt ∧ collate "GO_1" "go-1" = collate "Go_1" "gO-1"
      ∧ IsAscii "noDe" ∧ IsAscii "nOde" ∧ "noDe".toLower = "nOde".toLower ∧ "noDe" ≠ "nOde"
      ∧ ∃ c d, DifferAt "noDe" "nOde" c d
          ∧ ((c.isLower = true ∧ d.isUpper = true ∧ collate "noDe" "nOde" = .lt)
            ∨ (c.isUpper = true ∧ d.isLower = true ∧ collate "noDe" "nOde" = .gt)) := by
  have hgo : IsAscii "Go_1" := by decide
  have hother : IsAscii "gO-1" := by decide
  have hne : "Go_1".toLower ≠ "gO-1".toLower := by
    rw [ne_eq, toLower_eq_iff]
    decide
  have hnode : IsAscii "noDe" := by decide
  have hsame : IsAscii "nOde" := by decide
  have hlower : "noDe".toLower = "nOde".toLower := toLower_eq_iff.2 (by decide)
  obtain ⟨hcompare, hcase⟩ := (collate_ascii hgo hother).1 hne
  rw [toList_toLower, toList_toLower] at hcompare
  refine ⟨hgo, hother, hne, hcompare.trans (by decide +kernel), ?_, hnode, hsame, hlower, by decide, ?_⟩
  · exact hcase "GO_1" "go-1" (toLower_eq_iff.2 (by decide)) (toLower_eq_iff.2 (by decide))
  · exact (collate_ascii hnode hsame).2 hlower (by decide)

end Catalog.Collation
