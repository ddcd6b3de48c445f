import Catalog.Proofs.Backend.Kind
import Catalog.Proofs.Path.Segments

/-!
Pages of packages within a repository. Main statement: for the two tags whose slugs may go on below the
repository, the first two segments of a slug decide the page and nothing else does. What carries this is
that the text kept of a slug has exactly these segments, whichever of them are empty.
-/

namespace Catalog.Backend

namespace Kind

variable {slug other : String}

/-! ### The first two segments -/

/-- What is kept of a slug has the first two segments of the slug and no others. -/
theorem segments_ownerRepo (slug : String) :
    Path.segments (ownerRepo slug) = (Path.segments slug).take 2 := by
  have hkept : ownerRepo slug = "/".intercalate ((Path.segments slug).take 2) := by
    rw [← String.toList_inj, String.toList_intercalate, List.map_take, Path.map_toList_segments,
      ownerRepo, String.toList_ofList]
    rfl
  rw [hkept, Path.segments_intercalate]
  · intro hnil
    have hlength := congrArg List.length hnil
    rw [List.length_take, Path.length_segments, List.length_nil] at hlength
    omega
  · intro segment hsegment
    exact Path.noSlash_of_mem_segments (List.mem_of_mem_take hsegment)

theorem ownerRepo_eq_iff : ownerRepo slug = ownerRepo other
    ↔ (Path.segments slug).take 2 = (Path.segments other).take 2 := by
  rw [← Path.segments_inj, segments_ownerRepo, segments_ownerRepo]

theorem ownerRepo_eq_self_iff : ownerRepo slug = slug ↔ slug.toList.count '/' ≤ 1 := by
  rw [← Path.segments_inj, segments_ownerRepo, List.take_eq_self_iff, Path.length_segments]
  omega

/-- Only of the empty slug nothing is kept: two segments have a slash between them. -/
theorem ownerRepo_eq_empty_iff : ownerRepo slug = "" ↔ slug = "" := by
  constructor
  · intro hempty
    have hone : ((Path.segments slug).take 2).length = 1 := by
      rw [← segments_ownerRepo, hempty]
      rfl
    rw [List.length_take, Path.length_segments] at hone
    rw [← hempty, eq_comm, ownerRepo_eq_self_iff]
    omega
  · rintro rfl
    rfl

/-- What follows a slug behind a slash is cut off if the slug has a second segment, and starts with the
second segment if it has none. -/
theorem ownerRepo_append_eq_iff (slug rest : String) :
    ownerRepo (slug ++ "/" ++ rest) = ownerRepo slug ↔ '/' ∈ slug.toList := by
  have hslug := Path.length_segments slug
  have hrest := Path.length_segments rest
  rw [ownerRepo_eq_iff, Path.segments_append, ← List.one_le_count_iff]
  constructor
  · intro htake
    have hlength := congrArg List.length htake
    rw [List.length_take, List.length_take, List.length_append] at hlength
    omega
  · intro hslash
    exact List.take_append_of_le_length (by omega)

end Kind

/-! ### Pages -/

variable {tag slug other : String} {options options' : Options}

theorem resolve_github (slug : String) (options : Options) :
    resolve "github" slug options = if slug = "" then "" else "https://github.com/" ++ slug :=
  rfl

/-- Each slug has a page of its own, and the empty one has none. -/
theorem resolve_github_inj :
    resolve "github" slug options = resolve "github" other options' ↔ slug = other := by
  rw [resolve_github, resolve_github]
  constructor
  · intro h
    split_ifs at h with hslug hother hother
    · rw [hslug, hother]
    · simp [← String.toList_inj] at h
    · simp [← String.toList_inj] at h
    · exact (String.append_right_inj _).1 h
  · rintro rfl
    rfl

/-- A slug that goes on below a repository has the page of the repository. -/
theorem resolve_eq_github (htag : tag = "ubi" ∨ tag = "aqua") (slug : String) (options : Options) :
    resolve tag slug options = resolve "github" (Kind.ownerRepo slug) options := by
  simp only [resolve_github, Kind.ownerRepo_eq_empty_iff]
  rcases htag with rfl | rfl
  · rfl
  · rfl

/-- The page of a slug is that of its first two segments, empty ones included. A slash and what follows
it change nothing exactly if the slug holds a slash already; a slug is kept whole exactly if it holds at
most one; and two slugs have the same page exactly if their first two segments are the same, whichever of
the two tags and whatever options they come with. -/
theorem resolve_by_segments (htag : tag = "ubi" ∨ tag = "aqua") (slug : String) (options : Options) :
    (∀ rest, resolve tag (slug ++ "/" ++ rest) options = resolve tag slug options
        ↔ '/' ∈ slug.toList)
      ∧ (slug ≠ "" → (resolve tag slug options = "https://github.com/" ++ slug
        ↔ slug.toList.count '/' ≤ 1))
      ∧ ∀ tag' slug' options', tag' = "ubi" ∨ tag' = "aqua" →
        (resolve tag' slug' options' = resolve tag slug options
          ↔ (Path.segments slug').take 2 = (Path.segments slug).take 2) := by
  refine ⟨fun rest => ?_, fun hne => ?_, fun tag' slug' options' htag' => ?_⟩
  · rw [resolve_eq_github htag, resolve_eq_github htag, resolve_github_inj,
      Kind.ownerRepo_append_eq_iff]
  · have hwhole : "https://github.com/" ++ slug = resolve "github" slug options := by
      rw [resolve_github, if_neg hne]
    rw [hwhole, resolve_eq_github htag, resolve_github_inj, Kind.ownerRepo_eq_self_iff]
  · rw [resolve_eq_github htag', resolve_eq_github htag, resolve_github_inj, Kind.ownerRepo_eq_iff]

/-- A slug without an owner, and one with a third segment that is empty. -/
theorem resolve_by_segments_emptyOwner :
    ("aqua" = "ubi" ∨ "aqua" = "aqua") ∧ ("ubi" = "ubi" ∨ "ubi" = "aqua") ∧ "/cli" ≠ ""
      ∧ '/' ∈ "/cli".toList ∧ "/cli".toList.count '/' ≤ 1
      ∧ resolve "aqua" ("/cli" ++ "/" ++ "/v2") .empty = resolve "aqua" "/cli" .empty
      ∧ resolve "aqua" "/cli" .empty = "https://github.com/" ++ "/cli"
      ∧ resolve "ubi" "/cli/" (.ofPairs [("provider", "gitlab")]) = resolve "aqua" "/cli" .empty := by
  have haqua : "aqua" = "ubi" ∨ "aqua" = "aqua" := .inr rfl
  have hubi : "ubi" = "ubi" ∨ "ubi" = "aqua" := .inl rfl
  have hne : "/cli" ≠ "" := by decide
  have hslash : '/' ∈ "/cli".toList := by decide
  have hcount : "/cli".toList.count '/' ≤ 1 := by decide
  have htake : (Path.segments "/cli/").take 2 = (Path.segments "/cli").take 2 := by decide
  obtain ⟨hrest, hwhole, hsame⟩ := resolve_by_segments haqua "/cli" .empty
  exact ⟨haqua, hubi, hne, hslash, hcount, (hrest "/v2").2 hslash, (hwhole hne).2 hcount,
    (hsame "ubi" "/cli/" _ hubi).2 htake⟩

end Catalog.Backend
