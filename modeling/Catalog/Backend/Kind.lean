import Catalog.Backend.Descriptor

/-!
The kinds of backends, and the web page of the package that a backend installs. An unknown kind is
taken to be hosted like most of them, so it still gets a page.
-/

namespace Catalog.Backend

/-- A backend kind; an unknown one keeps its tag. -/
inductive Kind
  | core
  | cargo
  | npm
  | pipx
  | go
  | gem
  | dotnet
  | github
  | gitlab
  | ubi
  | vfox
  | asdf
  | spm
  | aqua
  | conda
  | http
  | unknown (tag : String)
  deriving DecidableEq, Repr

namespace Kind

/-- The kind a tag names. -/
def ofTag (tag : String) : Kind :=
  match tag with
  | "core" => core
  | "cargo" => cargo
  | "npm" => npm
  | "pipx" => pipx
  | "go" => go
  | "gem" => gem
  | "dotnet" => dotnet
  | "github" => github
  | "gitlab" => gitlab
  | "ubi" => ubi
  | "vfox" => vfox
  | "asdf" => asdf
  | "spm" => spm
  | "aqua" => aqua
  | "conda" => conda
  | "http" => http
  | other => unknown other

/-- The tag a kind is written with. -/
def tag : Kind → String
  | core => "core"
  | cargo => "cargo"
  | npm => "npm"
  | pipx => "pipx"
  | go => "go"
  | gem => "gem"
  | dotnet => "dotnet"
  | github => "github"
  | gitlab => "gitlab"
  | ubi => "ubi"
  | vfox => "vfox"
  | asdf => "asdf"
  | spm => "spm"
  | aqua => "aqua"
  | conda => "conda"
  | http => "http"
  | unknown tag => tag

/-- Whether the kind is one of those listed. -/
def isKnown : Kind → Bool
  | unknown _ => false
  | _ => true

/-- The first two segments of a slug, its owner and repository. -/
def ownerRepo (slug : String) : String :=
  String.ofList (List.intercalate ['/'] ((slug.toList.splitOnP (· = '/')).take 2))

/-- Whether a slug is a web address itself. -/
def isAddress (slug : String) : Bool :=
  "http".toList.isPrefixOf slug.toList

/-- The page of a repository on one of the two hosts. -/
def hosted (options : Options) (slug : String) : String :=
  if options.get? "provider" = some "gitlab" then "https://gitlab.com/" ++ slug
  else "https://github.com/" ++ slug

/-- The page of a package. There is none for an empty slug or for a plain download. -/
def url (kind : Kind) (slug : String) (options : Options) : String :=
  if slug = "" then ""
  else
    match kind with
    | core => "https://mise.jdx.dev/lang/" ++ slug ++ ".html"
    | cargo => "https://crates.io/crates/" ++ slug
    | npm => "https://www.npmjs.com/package/" ++ slug
    | pipx => "https://pypi.org/project/" ++ slug
    | go => "https://pkg.go.dev/" ++ slug
    | gem => "https://rubygems.org/gems/" ++ slug
    | dotnet => "https://www.nuget.org/packages/" ++ slug
    | github | vfox | unknown _ => "https://github.com/" ++ slug
    | gitlab => "https://gitlab.com/" ++ slug
    | ubi | aqua => "https://github.com/" ++ ownerRepo slug
    | asdf | spm => if isAddress slug then slug else hosted options slug
    | conda =>
      "https://anaconda.org/" ++ (options.get? "channel").getD "conda-forge" ++ "/" ++ slug
    | http => ""

end Kind

/-- The page of the package named by a tag and a slug. -/
def resolve (tag slug : String) (options : Options) : String :=
  (Kind.ofTag tag).url slug options

/-- The page of the package a descriptor names. -/
def Descriptor.url (descriptor : Descriptor) : String :=
  resolve descriptor.tag descriptor.slug descriptor.options

end Catalog.Backend
