import Catalog.Proofs.Backend.Kind
import Catalog.Proofs.Tool.Listing
import Catalog.Proofs.Tool.Source

/-!
What a link says about its descriptor. Main statements: a link has the kind that its descriptor names
unless the descriptor starts with a colon, and a row of a listing has the page of its descriptor unless
the clause that it passes over leads to another one.
-/

namespace Catalog.Tool

open Backend (Descriptor Kind)

/-! ### Kinds -/

/-- The kind that a descriptor names; none if the text has another form. -/
def namedKind? (raw : String) : Option Kind :=
  if (Descriptor.parse raw).isParsed then some (.ofTag (Descriptor.parse raw).tag) else none

/-- A tag is cut off at the first colon behind its first character. -/
theorem exists_tag_of_split? {raw tag slug : List Char} {clause : Option (List Char)}
    (h : Descriptor.split? raw = some (tag, slug, clause)) :
    ∃ first rest, tag = first :: rest ∧ ':' ∉ rest ∧ raw.head? = some first := by
  unfold Descriptor.split? at h
  split at h
  · cases h
  split at h
  · rename_i hcut
    obtain ⟨rfl, -⟩ := Prod.mk.inj (Option.some.inj h)
    cases raw with
    | nil => cases hcut
    | cons first rest =>
      rw [Descriptor.cutLate?, Option.map_eq_some_iff] at hcut
      obtain ⟨⟨front, back⟩, hcut, hpair⟩ := hcut
      obtain ⟨rfl, -⟩ := Prod.mk.inj hpair
      exact ⟨first, front, rfl, (Text.eq_append_of_cut? hcut).2, rfl⟩
  · cases h

theorem Link.name_of_split? (entry : BackendEntry) {tag slug : List Char}
    {clause : Option (List Char)}
    (h : Descriptor.split? entry.raw.toList = some (tag, slug, clause)) :
    (Link.ofEntry entry).name = String.ofList tag ++ ":" ++ String.ofList slug := by
  have hshortest := Descriptor.shortest_of_split? h
  obtain ⟨htag, hslug⟩ := entry.spec_parse
  rw [Descriptor.parse_of_shortest hshortest] at htag hslug
  simp [Link.ofEntry, Descriptor.full, htag, hslug, hshortest.tag_ne]

theorem namedKind?_of_split? {raw : String} {tag slug : List Char} {clause : Option (List Char)}
    (h : Descriptor.split? raw.toList = some (tag, slug, clause)) :
    namedKind? raw = some (.ofTag (String.ofList tag)) := by
  have hshortest := Descriptor.shortest_of_split? h
  rw [namedKind?, Descriptor.parse_of_shortest hshortest]
  simp [Descriptor.isParsed, hshortest.tag_ne]

/-- The name of a link is cut at its first colon, even if that starts the tag. -/
theorem Link.kind?_of_name {link : Link} {first : Char} {rest slug : List Char} (h : ':' ∉ rest)
    (hname : link.name = String.ofList (first :: rest) ++ ":" ++ String.ofList slug) :
    link.kind? = if first = ':' then some (.unknown "")
      else some (.ofTag (String.ofList (first :: rest))) := by
  have hlist : link.name.toList = first :: rest ++ ':' :: slug := by simp [hname]
  rw [Link.kind?, hlist]
  split
  · rename_i hfirst
    rw [hfirst]
    rfl
  · rename_i hfirst
    rw [Text.cut?_append (by simpa [h] using Ne.symm hfirst)]
    rfl

theorem Link.kind?_of_not_isParsed {entry : BackendEntry}
    (h : (Descriptor.parse entry.raw).isParsed = false) : (Link.ofEntry entry).kind? = none := by
  rw [Link.kind?, (Link.ofEntry_of_not_isParsed h).1]
  rfl

/-- The kind of a link is the one that its descriptor names, but a colon that starts the tag ends it. -/
theorem Link.kind?_of_isParsed {entry : BackendEntry}
    (h : (Descriptor.parse entry.raw).isParsed = true) :
    (Link.ofEntry entry).kind? = some (if entry.raw.toList.head? = some ':' then .unknown ""
      else .ofTag (Descriptor.parse entry.raw).tag) := by
  obtain ⟨_, _, _, hsplits⟩ := Descriptor.isParsed_iff.1 h
  obtain ⟨⟨tag, slug, clause⟩, hsplit⟩ := Descriptor.exists_split? hsplits
  obtain ⟨first, rest, rfl, hrest, hfirst⟩ := exists_tag_of_split? hsplit
  rw [Link.kind?_of_name hrest (Link.name_of_split? entry hsplit), hfirst,
    Descriptor.parse_of_shortest (Descriptor.shortest_of_split? hsplit)]
  by_cases hcolon : first = ':' <;> simp [hcolon]

/-- A link has the kind that its descriptor names, which its page was found for, exactly if the tag of
the descriptor does not start with a colon. -/
theorem kind?_eq_iff (entry : BackendEntry) :
    (Link.ofEntry entry).kind? = namedKind? entry.raw
      ↔ ¬ ((Descriptor.parse entry.raw).isParsed = true ∧ entry.raw.toList.head? = some ':') := by
  cases hparsed : (Descriptor.parse entry.raw).isParsed with
  | false => simp [Link.kind?_of_not_isParsed hparsed, namedKind?, hparsed]
  | true =>
    obtain ⟨_, _, _, hsplits⟩ := Descriptor.isParsed_iff.1 hparsed
    obtain ⟨⟨tag, slug, clause⟩, hsplit⟩ := Descriptor.exists_split? hsplits
    obtain ⟨first, rest, rfl, hrest, hfirst⟩ := exists_tag_of_split? hsplit
    rw [Link.kind?_of_name hrest (Link.name_of_split? entry hsplit), namedKind?_of_split? hsplit, hfirst]
    by_cases hcolon : first = ':'
    · have hempty : "" ≠ String.ofList (first :: rest) := Ne.symm (by simp)
      simpa [hcolon] using Kind.unknown_ne_ofTag hempty
    · simp [hcolon]

/-- The colon that is the tag here ends an empty tag in the name of the link. -/
theorem kind?_colonTag :
    namedKind? "::x" = some (.unknown ":")
      ∧ (Link.ofEntry (.descriptor "::x")).kind? = some (.unknown "") := by
  decide

/-! ### Pages -/

/-- A row of a listing has one record, with the name and the backend of a tool that has the descriptor of
the row. The two have the same page exactly if the clause of the descriptor, which the row passes over,
does not lead to another one. -/
theorem row_page_iff {name descriptor : String} {k : Nat} (hne : name ≠ "")
    (hname : ' ' ∉ name.toList) (hline : '\n' ∉ name.toList) (hspace : ' ' ∉ descriptor.toList)
    (hparsed : (Descriptor.parse descriptor).isParsed = true) (hk : 0 < k) (m : Nat) :
    ∃ listed built : Link,
      ofListing (row name k descriptor m) = [{ name, backends := [listed] }]
        ∧ Record.build name { backends := [.descriptor descriptor] } = { name, backends := [built] }
        ∧ listed.name = built.name
        ∧ (listed.url = built.url
          ↔ (Kind.ofTag (Descriptor.parse descriptor).tag).redirects
              (Descriptor.parse descriptor).slug (Descriptor.parse descriptor).options = false) := by
  obtain ⟨_, _, _, hsplits⟩ := Descriptor.isParsed_iff.1 hparsed
  obtain ⟨⟨tag, slug, clause⟩, hsplit⟩ := Descriptor.exists_split? hsplits
  have hshortest := Descriptor.shortest_of_split? hsplit
  have hslug : String.ofList slug ≠ "" := by simpa using hshortest.slug_ne
  refine ⟨_, .ofEntry (.descriptor descriptor),
    ofListing_row hne hname hline hspace hsplit hk m, rfl, ?_, ?_⟩
  · exact (Link.name_of_split? (.descriptor descriptor) hsplit).symm
  · simp only [Link.ofEntry, BackendEntry.spec, BackendEntry.raw, Descriptor.url,
      Descriptor.parse_of_shortest hshortest]
    exact Kind.url_eq_iff hslug

/-- The provider in the clause is not the one that leads to the other host. -/
theorem row_page_iff_otherProvider :
    (Descriptor.parse "spm:org/pkg[provider=github]").isParsed = true
      ∧ ∃ listed built : Link,
        ofListing (row "pkg" 2 "spm:org/pkg[provider=github]" 0)
            = [{ name := "pkg", backends := [listed] }]
          ∧ Record.build "pkg" { backends := [.descriptor "spm:org/pkg[provider=github]"] }
            = { name := "pkg", backends := [built] }
          ∧ listed.name = built.name ∧ listed.url = built.url := by
  have hparsed : (Descriptor.parse "spm:org/pkg[provider=github]").isParsed = true := by decide
  obtain ⟨listed, built, hlisted, hbuilt, hname, hpage⟩ := row_page_iff (show "pkg" ≠ "" by decide)
    (by decide) (by decide) (show ' ' ∉ "spm:org/pkg[provider=github]".toList by decide) hparsed
    (show 0 < 2 by decide) 0
  exact ⟨hparsed, listed, built, hlisted, hbuilt, hname, hpage.2 (by decide)⟩

/-- The clause names the other host, and only the tool has the page there. -/
theorem row_page_gitlabProvider :
    ofListing (row "pkg" 1 "spm:org/pkg[provider=gitlab]" 0)
        = [{ name := "pkg", backends := [⟨"spm:org/pkg", "https://github.com/org/pkg", []⟩] }]
      ∧ Record.build "pkg" { backends := [.descriptor "spm:org/pkg[provider=gitlab]"] }
        = { name := "pkg", backends := [⟨"spm:org/pkg", "https://gitlab.com/org/pkg", []⟩] } := by
  decide +kernel

end Catalog.Tool
