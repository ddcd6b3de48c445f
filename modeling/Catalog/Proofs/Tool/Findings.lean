import Catalog.Proofs.Backend.Page
import Catalog.Proofs.Tool.Link

/-!
Findings about tools. Main statement: what is found about records that were built is said by their sources
alone, by whether there are backends, whether each descriptor parses and whether its tag is known. No
record that was built lacks a page that its kind has.
-/

namespace Catalog.Tool

open Backend (Descriptor Kind)

variable {tool : String} {position : Nat} {link : Link} {entry : BackendEntry} {tag : String}

/-! ### Known tags -/

/-- The tags of the known kinds. -/
def knownTags : List String :=
  ["core", "cargo", "npm", "pipx", "go", "gem", "dotnet", "github", "gitlab", "ubi", "vfox", "asdf", "spm",
    "aqua", "conda", "http"]

example : knownTags.length = 16 := rfl

theorem isKnown_ofTag_iff : (Kind.ofTag tag).isKnown = true ↔ tag ∈ knownTags := by
  refine ⟨fun h => ?_, (show ∀ tag ∈ knownTags, (Kind.ofTag tag).isKnown = true by decide) tag⟩
  rw [← Kind.tag_ofTag tag]
  revert h
  cases Kind.ofTag tag <;> simp [Kind.isKnown, Kind.tag, knownTags]

/-- A tag that is not known names the kind that is written with it. -/
theorem ofTag_of_not_mem (h : tag ∉ knownTags) : Kind.ofTag tag = .unknown tag := by
  rw [← isKnown_ofTag_iff] at h
  have htag := Kind.tag_ofTag tag
  cases hkind : Kind.ofTag tag with
  | unknown name => rw [hkind] at htag; rw [← htag]; rfl
  | _ => rw [hkind] at h; exact absurd rfl h

/-! ### One backend -/

/-- The tag that a finding shows: what stands before the first colon, even if that is nothing. -/
def shownTag (raw : String) : String :=
  if raw.toList.head? = some ':' then "" else (Descriptor.parse raw).tag

/-- What there is to find about an authored backend: that its descriptor has another form, or that its tag
is not known. -/
def rawFinding? (tool : String) (position : Nat) (raw : String) : Option Warning :=
  if (Descriptor.parse raw).isParsed then
    if (Descriptor.parse raw).tag ∈ knownTags then none
    else some (warning tool s!"unknown backend prefix: {shownTag raw}")
  else some (warning tool s!"backend #{position} is not a valid prefix:slug descriptor")

theorem Link.finding?_of_known {kind : Kind} (h : link.kind? = some kind) (hknown : kind.isKnown = true)
    (hpage : link.url = "" → kind = .http) : link.finding? tool position = none := by
  unfold Link.finding?
  rw [h]
  cases kind
  case unknown => cases hknown
  case http => simp
  all_goals simpa using hpage

/-- A parsed descriptor has a page, unless it is for a plain download. -/
theorem Link.url_ofEntry_eq_empty (h : (Descriptor.parse entry.raw).isParsed = true)
    (hurl : (Link.ofEntry entry).url = "") : Kind.ofTag (Descriptor.parse entry.raw).tag = .http := by
  obtain ⟨htag, hslug⟩ := entry.spec_parse
  have hresolve : Backend.resolve entry.spec.tag entry.spec.slug entry.spec.options = "" := hurl
  rw [htag, hslug, Backend.resolve, Kind.url_eq_empty_iff] at hresolve
  exact hresolve.resolve_left (Descriptor.slug_ne_of_isParsed h)

/-- A tag starts where its descriptor starts. -/
theorem head?_tag {raw : String} (h : (Descriptor.parse raw).isParsed = true) :
    (Descriptor.parse raw).tag.toList.head? = raw.toList.head? := by
  obtain ⟨_, _, _, hsplits⟩ := Descriptor.isParsed_iff.1 h
  obtain ⟨⟨tag, slug, clause⟩, hsplit⟩ := Descriptor.exists_split? hsplits
  obtain ⟨first, rest, rfl, -, hfirst⟩ := exists_tag_of_split? hsplit
  rw [Descriptor.parse_of_shortest (Descriptor.shortest_of_split? hsplit), hfirst, String.toList_ofList,
    List.head?_cons]

/-- The kind of a link whose tag is not known is unknown too, with the tag that is shown. -/
theorem Link.kind?_of_not_mem (h : (Descriptor.parse entry.raw).isParsed = true)
    (htag : (Descriptor.parse entry.raw).tag ∉ knownTags) :
    (Link.ofEntry entry).kind? = some (.unknown (shownTag entry.raw)) := by
  rw [Link.kind?_of_isParsed h, ofTag_of_not_mem htag, shownTag]
  split <;> rfl

theorem Link.kind?_of_mem (h : (Descriptor.parse entry.raw).isParsed = true)
    (htag : (Descriptor.parse entry.raw).tag ∈ knownTags) :
    (Link.ofEntry entry).kind? = some (.ofTag (Descriptor.parse entry.raw).tag) := by
  have hstart : ∀ tag ∈ knownTags, tag.toList.head? ≠ some ':' := by decide
  rw [Link.kind?_of_isParsed h, if_neg (head?_tag h ▸ hstart _ htag)]

/-- What is found about the link of a backend is said by its descriptor. -/
theorem Link.finding?_ofEntry :
    (Link.ofEntry entry).finding? tool position = rawFinding? tool position entry.raw := by
  unfold rawFinding?
  cases hparsed : (Descriptor.parse entry.raw).isParsed with
  | false => rw [Link.finding?, Link.kind?_of_not_isParsed hparsed]; rfl
  | true =>
    rw [if_pos rfl]
    split
    next htag =>
      exact Link.finding?_of_known (Link.kind?_of_mem hparsed htag) (isKnown_ofTag_iff.2 htag)
        (Link.url_ofEntry_eq_empty hparsed)
    next htag => rw [Link.finding?, Link.kind?_of_not_mem hparsed htag]

/-! ### Tools -/

/-- What there is to find about a tool as authored. -/
def Source.findings (source : Source) (name : String) : List Warning :=
  (if source.backends = [] then [warning name "tool has no backends"] else [])
    ++ (source.backends.zipIdx 1).filterMap fun (entry, position) => rawFinding? name position entry.raw

theorem findings_build (name : String) (source : Source) :
    (Record.build name source).findings = source.findings name := by
  rw [Record.findings, Source.findings, Record.build, List.zipIdx_map, List.filterMap_map]
  simp only [List.map_eq_nil_iff, Function.comp_def, Prod.map, id, Link.finding?_ofEntry]

theorem head?_append {front : String} {c : Char} (h : front.toList.head? = some c) (rest : String) :
    (front ++ rest).toList.head? = some c := by
  rw [String.toList_append, List.head?_append, h, Option.some_or]

/-- The first letters of the messages about a backend. -/
theorem head?_message_of_rawFinding? {raw : String} {finding : Warning}
    (h : rawFinding? tool position raw = some finding) :
    finding.message.toList.head? = some 'u' ∨ finding.message.toList.head? = some 'b' := by
  unfold rawFinding? at h
  split_ifs at h
  · cases h
    exact .inl (head?_append (by decide) _)
  · cases h
    exact .inr (head?_append (head?_append (by decide) _) _)

/-- No message about an authored tool says that a page is missing. -/
theorem message_ne_of_mem_findings {source : Source} {name : String} {finding : Warning}
    (h : finding ∈ source.findings name) (backend : String) :
    finding.message ≠ s!"no url could be resolved for {backend}" := by
  have hother : (s!"no url could be resolved for {backend}").toList.head? = some 'n' :=
    head?_append (by decide) backend
  intro hmessage
  rw [← hmessage] at hother
  rcases List.mem_append.1 h with h | h
  · split at h
    · rw [List.mem_singleton.1 h] at hother
      exact absurd hother (by simp [warning])
    · cases h
  · obtain ⟨⟨entry, position⟩, -, hfinding⟩ := List.mem_filterMap.1 h
    rcases head?_message_of_rawFinding? hfinding with hstart | hstart
    · exact absurd (hstart.symm.trans hother) (by decide)
    · exact absurd (hstart.symm.trans hother) (by decide)

/-- What is found about records that were built is what there is to find about their sources, in the order
of the records and of the backends in each. No page is ever found to be missing. -/
theorem findings_of_sources (tools : List (String × Source)) :
    findings (tools.map fun (name, source) => .build name source)
        = tools.flatMap (fun (name, source) => source.findings name)
      ∧ ∀ finding ∈ findings (tools.map fun (name, source) => .build name source), ∀ backend : String,
        finding.message ≠ s!"no url could be resolved for {backend}" := by
  have hfindings : findings (tools.map fun (name, source) => .build name source)
      = tools.flatMap (fun (name, source) => source.findings name) := by
    rw [findings, List.flatMap_map]
    exact List.flatMap_congr fun (name, source) _ => findings_build name source
  refine ⟨hfindings, fun finding hmem backend => ?_⟩
  rw [hfindings] at hmem
  obtain ⟨⟨name, source⟩, -, hmem⟩ := List.mem_flatMap.1 hmem
  exact message_ne_of_mem_findings hmem backend

/-- A tool without backends, and one with backends of every form. -/
def mixedTools : List (String × Source) :=
  [("ghost", {}),
    ("odd", { backends := [.malformed, .descriptor "weird:a/b", .structured "http:dl" [] .empty,
                .descriptor "::x", .descriptor "cargo:b"] })]

theorem findings_of_sources_mixedTools :
    findings (mixedTools.map fun (name, source) => .build name source)
        = [warning "ghost" "tool has no backends",
          warning "odd" "backend #1 is not a valid prefix:slug descriptor",
          warning "odd" "unknown backend prefix: weird", warning "odd" "unknown backend prefix: "]
      ∧ warning "ghost" "tool has no backends"
        ∈ findings (mixedTools.map fun (name, source) => .build name source)
      ∧ (warning "ghost" "tool has no backends").message
        ≠ "no url could be resolved for " ++ "http:dl" := by
  obtain ⟨hfindings, hmessages⟩ := findings_of_sources mixedTools
  have hall := hfindings.trans (show _ = [warning "ghost" "tool has no backends",
    warning "odd" "backend #1 is not a valid prefix:slug descriptor",
    warning "odd" "unknown backend prefix: weird", warning "odd" "unknown backend prefix: "] by decide +kernel)
  have hmem := hall ▸ List.mem_cons_self
  exact ⟨hall, hmem, hmessages _ hmem "http:dl"⟩

end Catalog.Tool
