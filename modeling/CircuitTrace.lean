import CircuitTrace.DataType.Basic
import CircuitTrace.DataType.Registry
import CircuitTrace.DataType.Width
import CircuitTrace.Description.Basic
import CircuitTrace.Description.Document
import CircuitTrace.Description.Load
import CircuitTrace.Digits
import CircuitTrace.Dot
import CircuitTrace.Error
import CircuitTrace.Frontend.Compiler
import CircuitTrace.Frontend.Request
import CircuitTrace.Graph.Basic
import CircuitTrace.Graph.Construction
import CircuitTrace.Graph.Finding
import CircuitTrace.Json.Decode
import CircuitTrace.Json.Read
import CircuitTrace.Json.Value
import CircuitTrace.Json.Write
import CircuitTrace.Listing
import CircuitTrace.Name
import CircuitTrace.Netlist
import CircuitTrace.Options
import CircuitTrace.Pattern
import CircuitTrace.Proofs.Acceptance
import CircuitTrace.Proofs.DataType.Accepted
import CircuitTrace.Proofs.DataType.Acyclic
import CircuitTrace.Proofs.DataType.Descriptions
import CircuitTrace.Proofs.DataType.Dimensions
import CircuitTrace.Proofs.DataType.ExactWidths
import CircuitTrace.Proofs.DataType.Lookup
import CircuitTrace.Proofs.DataType.Overflow
import CircuitTrace.Proofs.DataType.Widths
import CircuitTrace.Proofs.Description.Document
import CircuitTrace.Proofs.Description.Load
import CircuitTrace.Proofs.Description.Renumber
import CircuitTrace.Proofs.Description.Types
import CircuitTrace.Proofs.Description.Vertices
import CircuitTrace.Proofs.Dot.Drawing
import CircuitTrace.Proofs.Dot.Labels
import CircuitTrace.Proofs.Existence
import CircuitTrace.Proofs.Graph.Built
import CircuitTrace.Proofs.Graph.Calls
import CircuitTrace.Proofs.Graph.Construction
import CircuitTrace.Proofs.Graph.Insertion
import CircuitTrace.Proofs.Graph.NameIndex
import CircuitTrace.Proofs.Json.Fields
import CircuitTrace.Proofs.Json.Literals
import CircuitTrace.Proofs.Json.RoundTrip
import CircuitTrace.Proofs.Listing
import CircuitTrace.Proofs.Matching
import CircuitTrace.Proofs.Outcome
import CircuitTrace.Proofs.Pattern.Markers
import CircuitTrace.Proofs.Pattern.OwnName
import CircuitTrace.Proofs.Pattern.Wildcard
import CircuitTrace.Proofs.Regex.Matches
import CircuitTrace.Proofs.Regex.Reading
import CircuitTrace.Proofs.Regex.Yields
import CircuitTrace.Proofs.Resolution
import CircuitTrace.Proofs.Search.Agreement
import CircuitTrace.Proofs.Search.AllPaths
import CircuitTrace.Proofs.Search.BreadthFirst
import CircuitTrace.Proofs.Search.Candidates
import CircuitTrace.Proofs.Search.Complaints
import CircuitTrace.Proofs.Search.DepthLimit
import CircuitTrace.Proofs.Search.Enumeration
import CircuitTrace.Proofs.Search.Fan
import CircuitTrace.Proofs.Search.FanPaths
import CircuitTrace.Proofs.Search.Limits
import CircuitTrace.Proofs.Search.OrderedWalk
import CircuitTrace.Proofs.Search.PathCap
import CircuitTrace.Proofs.Search.Relaxation
import CircuitTrace.Proofs.Search.Shortest
import CircuitTrace.Proofs.Search.SimpleWalk
import CircuitTrace.Proofs.Search.StagedWalk
import CircuitTrace.Proofs.Search.ThroughPoints
import CircuitTrace.Proofs.Search.WalkOrder
import CircuitTrace.Proofs.Unicode.ByteOrder
import CircuitTrace.Regex.Basic
import CircuitTrace.Regex.CharSet
import CircuitTrace.Regex.Read
import CircuitTrace.Regex.Scan
import CircuitTrace.Resolution
import CircuitTrace.Role
import CircuitTrace.Search.BreadthFirst
import CircuitTrace.Search.Enumeration
import CircuitTrace.Search.Limits
import CircuitTrace.Search.Query
import CircuitTrace.Search.Walk
import CircuitTrace.Split
import CircuitTrace.Unicode.Alphabetic
import CircuitTrace.Unicode.CaseFold
import CircuitTrace.Unicode.Digit
import CircuitTrace.Unicode.Lossy
import CircuitTrace.Unicode.Ranges
import CircuitTrace.Unicode.Space
import CircuitTrace.Unicode.Word
import CircuitTrace.Vertex
import CircuitTrace.Waypoints
