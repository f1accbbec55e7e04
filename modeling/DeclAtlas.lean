import DeclAtlas.Main
import DeclAtlas.Proofs.Dependency.Plan
import DeclAtlas.Proofs.Interface.CallReading
import DeclAtlas.Proofs.Schema.Ordinals
import DeclAtlas.Proofs.Schema.OutlineReading
import DeclAtlas.Proofs.Schema.JoinedTexts
import DeclAtlas.Proofs.Dependency.Dependents
import DeclAtlas.Proofs.Interface.Confinement
import DeclAtlas.Proofs.Compat.Dates
import DeclAtlas.Proofs.Report.Lossless
import DeclAtlas.Proofs.Schema.Agreement
import DeclAtlas.Proofs.Schema.LastFields
import DeclAtlas.Proofs.Schema.Finding
import DeclAtlas.Proofs.Tree.SearchOrder
import DeclAtlas.Proofs.Character.Classes
import DeclAtlas.Proofs.Pattern.Matching
import DeclAtlas.Proofs.Pattern.Literal
import DeclAtlas.Proofs.Interface.Markers
import DeclAtlas.Proofs.Interface.Candidates
import DeclAtlas.Proofs.Sources.Refusals
import DeclAtlas.Proofs.Compat.Snapshots
import DeclAtlas.Proofs.Interface.InertLines
import DeclAtlas.Proofs.Interface.TableOrder
import DeclAtlas.Proofs.Interface.Growth
import DeclAtlas.Proofs.CrossReference.Independence
import DeclAtlas.Proofs.Nesting.Extent
import DeclAtlas.Proofs.Dependency.OwningRule
import DeclAtlas.Proofs.Dependency.Partition
import DeclAtlas.Proofs.Dependency.Union
import DeclAtlas.Proofs.Dependency.Selection
import DeclAtlas.Proofs.Interface.Overrides
import DeclAtlas.Proofs.Interface.Owners
import DeclAtlas.Proofs.Interface.Conditions
import DeclAtlas.Proofs.Interface.StructFiles
import DeclAtlas.Proofs.Compat.Listings
import DeclAtlas.Proofs.Compat.Queries
import DeclAtlas.Proofs.Compat.BooleanFields
import DeclAtlas.Proofs.Text.Matches
import DeclAtlas.Proofs.Compat.Annotations
import DeclAtlas.Proofs.Schema.Comments
import DeclAtlas.Proofs.Compat.Comments
import DeclAtlas.Proofs.CrossReference.Sections
import DeclAtlas.Proofs.CrossReference.TypeGroups
import DeclAtlas.Proofs.Dependency.Repositories
import DeclAtlas.Proofs.Settings.Configured
import DeclAtlas.Proofs.CrossReference.Members
import DeclAtlas.Proofs.Report.Bullets
import DeclAtlas.Proofs.Interface.Emptiness
import DeclAtlas.Proofs.Service.Formats
import DeclAtlas.Proofs.Nesting.BlockLines
import DeclAtlas.Proofs.Interface.ScanningLoops
import DeclAtlas.Proofs.Dependency.Qualifiers
