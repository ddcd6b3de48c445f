import Catalog.Backend.Kind
import Catalog.Proofs.Text.Split
import Mathlib

/-!
Kinds of backends. A kind keeps its tag, and its page depends on the options only where they name
another host or another channel.
-/

namespace Catalog.Backend.Kind

variable {kind : Kind} {slug : String} {options : Options}

/-! ### Tags -/

/-- A tag names the kind that is written with it. -/
theorem tag_ofTag (tag : String) : (ofTag tag).tag = tag := by
  unfold ofTag
  split <;> rfl

theorem unknown_ne_ofTag {name tag : String} (h : name ≠ tag) : unknown name ≠ ofTag tag := by
  intro hsame
  have htags := congrArg Kind.tag hsame
  rw [tag_ofTag] at htags
  exact h htags

/-! ### Pages and options -/

/-- Whether the options lead to another page than none would: to the other host of a repository, or to
another channel of conda. -/
def redirects (slug : String) (options : Options) : Kind → Bool
  | asdf | spm => !isAddress slug && options.get? "provider" = some "gitlab"
  | conda => (options.get? "channel").getD "conda-forge" ≠ "conda-forge"
  | _ => false

theorem hosted_eq_iff :
    hosted .empty slug = hosted options slug ↔ options.get? "provider" ≠ some "gitlab" := by
  unfold hosted
  by_cases h : options.get? "provider" = some "gitlab" <;> simp [h]

/-- The page of a repository is the address in the slug, or else one on a host. -/
theorem repository_eq_iff :
    (if isAddress slug then slug else hosted .empty slug)
        = (if isAddress slug then slug else hosted options slug)
      ↔ (!isAddress slug && options.get? "provider" = some "gitlab") = false := by
  cases isAddress slug <;> simp [hosted_eq_iff]

theorem channel_eq_iff (channel : String) :
    "https://anaconda.org/" ++ "conda-forge" ++ "/" ++ slug
        = "https://anaconda.org/" ++ channel ++ "/" ++ slug
      ↔ decide (channel ≠ "conda-forge") = false := by
  rw [String.append_left_inj, String.append_left_inj, String.append_right_inj,
    decide_eq_false_iff_not, not_ne_iff, eq_comm]

/-- The options lead to another page exactly if they redirect. -/
theorem url_eq_iff (h : slug ≠ "") :
    kind.url slug .empty = kind.url slug options ↔ kind.redirects slug options = false := by
  cases kind <;> simp only [url, if_neg h, redirects]
  case asdf => exact repository_eq_iff
  case spm => exact repository_eq_iff
  case conda => exact channel_eq_iff _

/-! ### Characters of a page -/

/-- The owner and the repository are pieces of the slug. -/
theorem mem_of_mem_ownerRepo {c : Char} (hc : c ≠ '/') (h : c ∈ (ownerRepo slug).toList) :
    c ∈ slug.toList := by
  rw [ownerRepo, String.toList_ofList, Text.mem_intercalate_iff (by simpa using hc)] at h
  obtain ⟨piece, hpiece, hmem⟩ := h
  exact (Text.forall_mem_of_mem_splitOnP (List.mem_of_mem_take hpiece) c hmem).1

theorem feed_mem_repository
    (h : '\n' ∈ (if isAddress slug then slug else hosted options slug).toList) :
    '\n' ∈ slug.toList := by
  unfold hosted at h
  split_ifs at h <;> simpa using h

/-- A page holds a line feed only if the slug or the channel does. -/
theorem feed_mem_url (h : '\n' ∈ (kind.url slug options).toList) :
    '\n' ∈ slug.toList
      ∨ ∃ channel, options.get? "channel" = some channel ∧ '\n' ∈ channel.toList := by
  unfold url at h
  split at h
  · cases h
  cases kind
  case ubi => exact .inl (mem_of_mem_ownerRepo (by decide) (by simpa using h))
  case aqua => exact .inl (mem_of_mem_ownerRepo (by decide) (by simpa using h))
  case asdf => exact .inl (feed_mem_repository h)
  case spm => exact .inl (feed_mem_repository h)
  case conda =>
    cases hchannel : options.get? "channel" with
    | none => exact .inl (by simpa [hchannel] using h)
    | some channel =>
      have hmem : '\n' ∈ channel.toList ∨ '\n' ∈ slug.toList := by simpa [hchannel] using h
      exact hmem.elim (fun hc => .inr ⟨channel, rfl, hc⟩) .inl
  case http => cases h
  all_goals exact .inl (by simpa using h)

end Catalog.Backend.Kind
