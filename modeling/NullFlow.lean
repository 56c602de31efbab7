import NullFlow.Main
import NullFlow.Proofs.Analysis.Least
import NullFlow.Proofs.Analysis.Termination
import NullFlow.Proofs.Check.ForwardNull
import NullFlow.Proofs.Check.Interprocedural
import NullFlow.Proofs.Check.Once
import NullFlow.Proofs.Check.Order
import NullFlow.Proofs.Check.Reachability
import NullFlow.Proofs.Check.ReverseNull
import NullFlow.Proofs.Check.Sites
import NullFlow.Proofs.Check.Unreachable
import NullFlow.Proofs.Comments.Check
import NullFlow.Proofs.Comments.Pattern
import NullFlow.Proofs.Condition.Outcome
import NullFlow.Proofs.Condition.Tested
import NullFlow.Proofs.Config.Loading
import NullFlow.Proofs.Expression.Guarded
import NullFlow.Proofs.Expression.Parentheses
import NullFlow.Proofs.Graph.Definitions
import NullFlow.Proofs.Graph.Dominators
import NullFlow.Proofs.Graph.Gains
import NullFlow.Proofs.Graph.Gotos
import NullFlow.Proofs.Graph.Marks
import NullFlow.Proofs.Json.Finding
import NullFlow.Proofs.Report.Table
import NullFlow.Proofs.Report.Xml
import NullFlow.Proofs.Structured.Function
import NullFlow.Proofs.Suite.Import
import NullFlow.Proofs.Suite.Matching
import NullFlow.Proofs.Suite.Names
import NullFlow.Proofs.Suite.Validation
import NullFlow.Proofs.Summary.Positions
import NullFlow.World.FileTree
