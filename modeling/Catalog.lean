import Catalog.Main
import Catalog.Proofs.Backend.Descriptor
import Catalog.Proofs.Collation
import Catalog.Proofs.Toml.Assembly
import Catalog.Proofs.Tool.Source
import Catalog.Proofs.Tool.Registry
import Catalog.Proofs.Setting.Entry
import Catalog.Proofs.Setting.Properties
import Catalog.Proofs.Suggestion.Gathering
import Catalog.Proofs.Command.Repetition
import Catalog.Proofs.Setting.Authored
import Catalog.Proofs.FileTree.Listing
import Catalog.Proofs.Tool.Directory
import Catalog.Proofs.Tool.Family
import Catalog.Proofs.FileTree.Growth
import Catalog.Proofs.Command.Output
import Catalog.Proofs.Command.Suggest
import Catalog.Proofs.Tool.Listing
import Catalog.Proofs.Tool.Link
import Catalog.Proofs.Tool.Markdown
import Catalog.Proofs.Setting.Key
import Catalog.Proofs.Setting.Earliest
import Catalog.Proofs.Setting.Literal
import Catalog.Proofs.Setting.Visible
import Catalog.Proofs.Setting.Definition
import Catalog.Proofs.Setting.Allowed
import Catalog.Proofs.Backend.Normal
import Catalog.Proofs.Backend.Rendering
import Catalog.Proofs.Setting.Default
import Catalog.Proofs.Setting.Early
import Catalog.Proofs.Backend.Page
import Catalog.Proofs.Backend.Clause
import Catalog.Proofs.Tool.Precedence
import Catalog.Proofs.Tool.Findings
import Catalog.Proofs.Tool.Positional
import Catalog.Proofs.Suggestion.Names
import Catalog.Proofs.Suggestion.Versions
import Catalog.Proofs.Tool.Row
import Catalog.Proofs.Tool.Padding
import Catalog.Proofs.Suggestion.Aliases
import Catalog.Proofs.Collation.Ascii
import Catalog.Proofs.Setting.Shown
import Catalog.Proofs.Backend.Repository
