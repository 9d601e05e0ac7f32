import FlowOffload.Engine.Demand
import FlowOffload.Laws.Batches
import FlowOffload.Laws.Capacity
import FlowOffload.Laws.Capabilities
import FlowOffload.Laws.Cleanup
import FlowOffload.Laws.Codec
import FlowOffload.Laws.Conservative
import FlowOffload.Laws.Conservation
import FlowOffload.Laws.Constraints
import FlowOffload.Laws.Damage
import FlowOffload.Laws.Duplicates
import FlowOffload.Laws.Digests
import FlowOffload.Laws.DryRuns
import FlowOffload.Laws.Durability
import FlowOffload.Laws.Effects
import FlowOffload.Laws.Exports
import FlowOffload.Laws.Fallback
import FlowOffload.Laws.Frames
import FlowOffload.Laws.Generations
import FlowOffload.Laws.Grants
import FlowOffload.Laws.Identifiers
import FlowOffload.Laws.Locality
import FlowOffload.Laws.Markers
import FlowOffload.Laws.Observations
import FlowOffload.Laws.Operations
import FlowOffload.Laws.OptIn
import FlowOffload.Laws.Ranking
import FlowOffload.Laws.Rebalancing
import FlowOffload.Laws.Recoveries
import FlowOffload.Laws.Redeclaration
import FlowOffload.Laws.Refusals
import FlowOffload.Laws.Removal
import FlowOffload.Laws.Reopen
import FlowOffload.Laws.Replays
import FlowOffload.Laws.Reported
import FlowOffload.Laws.Retention
import FlowOffload.Laws.Rotation
import FlowOffload.Laws.Submission
import FlowOffload.Laws.Suitability
import FlowOffload.Laws.Tables
import FlowOffload.Laws.Utilisation
import FlowOffload.Laws.Visibility
import FlowOffload.Laws.Watermarks
import FlowOffload.Foundation.Fields
import FlowOffload.Foundation.Framing
import FlowOffload.Laws.Clients
import FlowOffload.Laws.Connections
import FlowOffload.Laws.Results
import FlowOffload.Laws.Shutdown
import FlowOffload.Service.Client
