import Catalog.Proofs.Backend.Kind

/-!
Pages of packages. Main statement: there is none for an empty slug and for a plain download only, and any
other page is an absolute web address unless the slug is taken for one by its first four letters alone.
-/

namespace Catalog.Backend

/-- Whether a text starts as a web address does, with the scheme and what follows it. -/
def IsAbsolute (text : String) : Prop :=
  "https://".toList <+: text.toList ∨ "http://".toList <+: text.toList

instance (text : String) : Decidable (IsAbsolute text) :=
  inferInstanceAs (Decidable (_ ∨ _))

theorem IsAbsolute.ne_empty {text : String} (h : IsAbsolute text) : text ≠ "" := by
  rintro rfl
  revert h
  decide

theorem IsAbsolute.append {front : String} (h : IsAbsolute front) (rest : String) :
    IsAbsolute (front ++ rest) := by
  rw [IsAbsolute, String.toList_append]
  exact h.imp (·.trans (List.prefix_append ..)) (·.trans (List.prefix_append ..))

namespace Kind

variable {kind : Kind} {slug tag : String} {options : Options}

/-! ### Kinds and their tags -/

theorem ofTag_tag_of_isKnown (h : kind.isKnown = true) : ofTag kind.tag = kind := by
  cases kind <;> first | rfl | cases h

/-- A known kind is named by its own tag only. -/
theorem ofTag_eq_iff (h : kind.isKnown = true) : ofTag tag = kind ↔ tag = kind.tag := by
  refine ⟨fun hkind => ?_, fun htag => ?_⟩
  · rw [← hkind, tag_ofTag]
  · rw [htag, ofTag_tag_of_isKnown h]

/-! ### Slugs that are pages, and patterns -/

/-- Whether a slug is taken for the page itself. -/
def keepsSlug (slug : String) : Kind → Bool
  | asdf | spm => isAddress slug
  | _ => false

theorem isAddress_iff : isAddress slug = true ↔ "http".toList <+: slug.toList :=
  List.isPrefixOf_iff_prefix

theorem ne_empty_of_isAddress (h : isAddress slug = true) : slug ≠ "" := by
  rintro rfl
  revert h
  decide

theorem keepsSlug_iff :
    kind.keepsSlug slug = true ↔ (kind = asdf ∨ kind = spm) ∧ isAddress slug = true := by
  cases kind <;> simp [keepsSlug]

theorem url_of_keepsSlug (h : kind.keepsSlug slug = true) : kind.url slug options = slug := by
  obtain ⟨rfl | rfl, haddress⟩ := keepsSlug_iff.1 h
  all_goals simp [url, ne_empty_of_isAddress haddress, haddress]

theorem isAbsolute_hosted : IsAbsolute (hosted options slug) := by
  unfold hosted
  split
  · exact .append (by decide) slug
  · exact .append (by decide) slug

/-- A page that is made by a pattern starts with the address of a site. -/
theorem isAbsolute_url (hslug : slug ≠ "") (hkind : kind ≠ http) (h : kind.keepsSlug slug = false) :
    IsAbsolute (kind.url slug options) := by
  unfold url
  rw [if_neg hslug]
  cases kind
  case core => exact ((show IsAbsolute "https://mise.jdx.dev/lang/" by decide).append slug).append ".html"
  case asdf => rw [keepsSlug] at h; simpa [h] using isAbsolute_hosted
  case spm => rw [keepsSlug] at h; simpa [h] using isAbsolute_hosted
  case conda =>
    exact (((show IsAbsolute "https://anaconda.org/" by decide).append _).append "/").append slug
  case http => exact absurd rfl hkind
  all_goals exact .append (by decide) _

/-- Only an empty slug and a plain download have no page. -/
theorem url_eq_empty_iff : kind.url slug options = "" ↔ slug = "" ∨ kind = http := by
  constructor
  · intro hurl
    by_contra! hne
    cases hkeeps : kind.keepsSlug slug with
    | true => exact hne.1 ((url_of_keepsSlug hkeeps).symm.trans hurl)
    | false => exact (isAbsolute_url hne.1 hne.2 hkeeps).ne_empty hurl
  · rintro (rfl | rfl) <;> simp [url]

/-! ### Pages that read options -/

theorem hosted_eq_gitlab_iff :
    hosted options slug = "https://gitlab.com/" ++ slug ↔ options.get? "provider" = some "gitlab" := by
  unfold hosted
  split <;> simp_all

theorem hosted_eq_github_iff :
    hosted options slug = "https://github.com/" ++ slug ↔ options.get? "provider" ≠ some "gitlab" := by
  unfold hosted
  split <;> simp_all

end Kind

open Kind (ofTag)

variable {slug : String} {options : Options}

theorem resolve_conda (h : slug ≠ "") : resolve "conda" slug options
    = "https://anaconda.org/" ++ (options.get? "channel").getD "conda-forge" ++ "/" ++ slug := by
  simp [resolve, ofTag, Kind.url, h]

/-- A repository that is no address has its page on one of the two hosts. -/
theorem resolve_repository {tag : String} (htag : tag = "asdf" ∨ tag = "spm") (h : slug ≠ "")
    (haddress : ¬ "http".toList <+: slug.toList) :
    resolve tag slug options = Kind.hosted options slug := by
  rw [← Kind.isAddress_iff] at haddress
  rcases htag with rfl | rfl <;> simp [resolve, ofTag, Kind.url, h, haddress]

/-! ### All tags -/

/-- There is no page exactly for an empty slug or the tag of plain downloads. A page is an absolute
address in all other cases but one: a slug that starts with the letters of an address and not with a
scheme is passed on as it is for the two tags that take addresses. -/
theorem resolve_absolute_iff (tag slug : String) (options : Options) :
    (resolve tag slug options = "" ↔ slug = "" ∨ tag = "http")
      ∧ ((resolve tag slug options = "" ∨ IsAbsolute (resolve tag slug options))
        ↔ ¬ ((tag = "asdf" ∨ tag = "spm") ∧ "http".toList <+: slug.toList ∧ ¬ IsAbsolute slug)) := by
  have hempty : resolve tag slug options = "" ↔ slug = "" ∨ tag = "http" := by
    rw [resolve, Kind.url_eq_empty_iff, Kind.ofTag_eq_iff rfl]
    rfl
  have hkeeps : (ofTag tag).keepsSlug slug = true
      ↔ (tag = "asdf" ∨ tag = "spm") ∧ "http".toList <+: slug.toList := by
    rw [Kind.keepsSlug_iff, Kind.ofTag_eq_iff rfl, Kind.ofTag_eq_iff rfl, Kind.isAddress_iff]
    rfl
  refine ⟨hempty, ?_⟩
  rw [← and_assoc, ← hkeeps]
  cases h : (ofTag tag).keepsSlug slug with
  | true =>
    have hslug : slug ≠ "" := Kind.ne_empty_of_isAddress (Kind.keepsSlug_iff.1 h).2
    rw [resolve, Kind.url_of_keepsSlug h]
    simp [hslug]
  | false =>
    simp only [Bool.false_eq_true, false_and, not_false_eq_true, iff_true, hempty]
    by_cases hnone : slug = "" ∨ tag = "http"
    · exact .inl hnone
    · obtain ⟨hslug, htag⟩ := not_or.1 hnone
      have hkind : ofTag tag ≠ .http := fun hkind => htag ((Kind.ofTag_eq_iff rfl).1 hkind)
      exact .inr (Kind.isAbsolute_url hslug hkind h)

/-- The name of an owner may start with the letters of an address. -/
theorem resolve_schemelessSlug :
    resolve "asdf" "http-tools/cli" .empty = "http-tools/cli"
      ∧ ¬ (resolve "asdf" "http-tools/cli" .empty = ""
        ∨ IsAbsolute (resolve "asdf" "http-tools/cli" .empty)) := by
  decide

end Catalog.Backend
