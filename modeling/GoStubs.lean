import GoStubs.Main
import GoStubs.Proofs.Go.Aliases
import GoStubs.Proofs.Go.Assembly
import GoStubs.Proofs.Go.LastElement
import GoStubs.Proofs.Go.Recorded
import GoStubs.Proofs.Go.Respelling
import GoStubs.Proofs.Go.Scope
import GoStubs.Proofs.Go.UsableName
import GoStubs.Proofs.Plugin.CommandLine
import GoStubs.Proofs.Plugin.Composition
import GoStubs.Proofs.Plugin.Indexing
import GoStubs.Proofs.Plugin.Log
import GoStubs.Proofs.Plugin.Mapping
import GoStubs.Proofs.Plugin.Outcome
import GoStubs.Proofs.Plugin.OutputPath
import GoStubs.Proofs.Plugin.Parameter
import GoStubs.Proofs.Plugin.Placement
import GoStubs.Proofs.Plugin.Relevance
import GoStubs.Proofs.Plugin.RequestBytes
import GoStubs.Proofs.Plugin.Resolution
import GoStubs.Proofs.Plugin.RunLog
import GoStubs.Proofs.Plugin.SegmentOrder
import GoStubs.Proofs.Plugin.SourceFile
import GoStubs.Proofs.Plugin.UsedImports
import GoStubs.Proofs.Proto.Messages
import GoStubs.Proofs.Rpc.Description
import GoStubs.Proofs.Rpc.NestedNames
import GoStubs.Proofs.Stub.AliasOrder
import GoStubs.Proofs.Stub.DistinctNames
import GoStubs.Proofs.Stub.Hygiene
import GoStubs.Proofs.Stub.Layout
import GoStubs.Proofs.Stub.RoutingKeys
import GoStubs.Proofs.Stub.Series
import GoStubs.Proofs.Stub.StreamAgreement
import GoStubs.Proofs.Stub.TopLevel
import GoStubs.Proofs.Stub.UnaryCalls
import GoStubs.Proofs.Table
import GoStubs.Proofs.Writer.Guards
import GoStubs.Proofs.Writer.Rendering
import GoStubs.Proofs.Writer.Truncation
