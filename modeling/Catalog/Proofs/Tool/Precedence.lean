import Catalog.Proofs.Backend.Clause
import Catalog.Proofs.Backend.Page
import Catalog.Tool.Record

/-!
Options beside a descriptor. Main statement: an option holds with the value that the clause of the
descriptor gives it, and with the one beside the descriptor only if the clause gives none; the page of the
backend is the one that these options lead to.
-/

namespace Catalog.Tool

open Backend (Descriptor Options resolve)
open Backend.Descriptor (GivesOption)

/-- A descriptor with a tag has a slug. -/
theorem slug_ne_of_tag {raw tag : String} (h : (Descriptor.parse raw).tag = tag) (htag : tag ≠ "") :
    (Descriptor.parse raw).slug ≠ "" :=
  Descriptor.slug_ne_of_isParsed (by simpa [Descriptor.isParsed, h] using htag)

/-- The text, the tag and the slug of a backend are those of its descriptor alone. Each option has the
value that the clause of the descriptor gives it, or else the one beside the descriptor, or else none. The
page is the one for the options with these values: conda takes the channel among them, and a repository
that is no address is on the other host exactly if the provider among them says so. -/
theorem options_by_precedence (full : String) (platforms : List String) (options : Options) :
    let entry := BackendEntry.structured full platforms options
    let parsed := Descriptor.parse full
    let effective := entry.spec.options
    entry.spec.raw = full ∧ entry.spec.tag = parsed.tag ∧ entry.spec.slug = parsed.slug
      ∧ (∀ name value, GivesOption full name value → effective.get? name = some value)
      ∧ (∀ name, (¬ ∃ value, GivesOption full name value) → effective.get? name = options.get? name)
      ∧ (Link.ofEntry entry).url = resolve parsed.tag parsed.slug effective
      ∧ (parsed.tag = "conda" → (Link.ofEntry entry).url
          = "https://anaconda.org/" ++ (effective.get? "channel").getD "conda-forge" ++ "/" ++ parsed.slug)
      ∧ (parsed.tag = "asdf" ∨ parsed.tag = "spm" → ¬ "http".toList <+: parsed.slug.toList →
          ((Link.ofEntry entry).url = "https://gitlab.com/" ++ parsed.slug
              ↔ effective.get? "provider" = some "gitlab")
            ∧ ((Link.ofEntry entry).url = "https://github.com/" ++ parsed.slug
              ↔ effective.get? "provider" ≠ some "gitlab")) := by
  intro entry parsed effective
  have heffective (name : String) :
      effective.get? name = (parsed.options.get? name).or (options.get? name) :=
    Descriptor.get?_withDefaults parsed options name
  have hurl : (Link.ofEntry entry).url = resolve parsed.tag parsed.slug effective := rfl
  refine ⟨Descriptor.raw_parse full, rfl, rfl, ?_, ?_, hurl, ?_, ?_⟩
  · intro name value hgives
    rw [heffective, Descriptor.get?_parse_eq_some_iff.2 hgives, Option.some_or]
  · intro name hnone
    have hparsed : parsed.options.get? name = none :=
      Option.eq_none_iff_forall_ne_some.2 fun value hvalue =>
        hnone ⟨value, Descriptor.get?_parse_eq_some_iff.1 hvalue⟩
    rw [heffective, hparsed, Option.none_or]
  · intro htag
    rw [hurl, htag, Backend.resolve_conda (slug_ne_of_tag htag (by decide))]
  · intro htag haddress
    have hslug : parsed.slug ≠ "" := htag.elim (slug_ne_of_tag · (by decide)) (slug_ne_of_tag · (by decide))
    rw [hurl, Backend.resolve_repository htag hslug haddress]
    exact ⟨Backend.Kind.hosted_eq_gitlab_iff, Backend.Kind.hosted_eq_github_iff⟩

/-- A clause with two values for one name, a blank piece and a name without a value. -/
def repeatedClause : String :=
  "spm:org/pkg[provider=none, provider = gitlab,, flag]"

/-- Options that the clause overrides in part. -/
def besideClause : Options :=
  .ofPairs [("provider", "github"), ("channel", "bioconda")]

theorem options_by_precedence_repeatedClause :
    GivesOption repeatedClause "provider" "gitlab"
      ∧ (¬ ∃ value, GivesOption repeatedClause "channel" value)
      ∧ (BackendEntry.structured repeatedClause [] besideClause).spec.options.get? "provider" = some "gitlab"
      ∧ (BackendEntry.structured repeatedClause [] besideClause).spec.options.get? "channel" = some "bioconda"
      ∧ (Link.ofEntry (.structured repeatedClause [] besideClause)).url = "https://gitlab.com/org/pkg" := by
  have hgives : GivesOption repeatedClause "provider" "gitlab" :=
    Descriptor.get?_parse_eq_some_iff.1 (by decide)
  have hnone : ¬ ∃ value, GivesOption repeatedClause "channel" value := by
    rintro ⟨value, hvalue⟩
    have hget := Descriptor.get?_parse_eq_some_iff.2 hvalue
    rw [show (Descriptor.parse repeatedClause).options.get? "channel" = none by decide] at hget
    cases hget
  obtain ⟨-, -, -, hclause, hbeside, -, -, hpage⟩ := options_by_precedence repeatedClause [] besideClause
  have hprovider := hclause "provider" "gitlab" hgives
  have hurl := (hpage (.inr (by decide)) (by decide)).1.2 hprovider
  exact ⟨hgives, hnone, hprovider, (hbeside "channel" hnone).trans (by decide), hurl.trans (by decide)⟩

end Catalog.Tool
