import SelectorFinder.Main
import SelectorFinder.Inspection.Session
import SelectorFinder.Proofs.Inspection.Kinds
import SelectorFinder.Proofs.Inspection.Selecting
import SelectorFinder.Proofs.Selector.Counting
import SelectorFinder.Proofs.Dom.Building
import SelectorFinder.Proofs.Dom.Paths
import SelectorFinder.Proofs.Dom.Climbing
import SelectorFinder.Proofs.CommandLine.Targets
import SelectorFinder.Proofs.Dom.AttributeOrder
import SelectorFinder.Proofs.Dom.Numbering
import SelectorFinder.Proofs.Html.Conversion
import SelectorFinder.Proofs.Dom.Counterparts
import SelectorFinder.Proofs.Inspection.Twins
import SelectorFinder.Proofs.Inspection.FullPaths
import SelectorFinder.Proofs.Inspection.Sessions
import SelectorFinder.Proofs.Selector.Additivity
import SelectorFinder.Proofs.Inspection.Locality
import SelectorFinder.Proofs.Selector.Suffixes
import SelectorFinder.Proofs.Inspection.Precedence
import SelectorFinder.Proofs.Inspection.Excluding
import SelectorFinder.Proofs.Inspection.DataWeights
import SelectorFinder.Proofs.Inspection.PathLevels
import SelectorFinder.Proofs.Inspection.Boundaries
import SelectorFinder.Proofs.Html.Places
import SelectorFinder.Proofs.Inspection.Emptiness
import SelectorFinder.Proofs.Dom.Subtrees
import SelectorFinder.Proofs.Dom.Traversal
import SelectorFinder.Proofs.Dom.Listing
import SelectorFinder.Proofs.Dom.TextContent
import SelectorFinder.Proofs.Inspection.Positions
import SelectorFinder.Proofs.Inspection.Walks
import SelectorFinder.Proofs.Inspection.DistinctRanking
import SelectorFinder.Proofs.Report.Painting
