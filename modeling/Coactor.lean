import Coactor.Foundation.Transition
import Coactor.Foundation.ConditionalStore
import Coactor.Foundation.Program
import Coactor.Foundation.Channel
import Coactor.Foundation.Rounds
import Coactor.Foundation.Descent
import Coactor.Foundation.Exclusion
import Coactor.Foundation.Numerals
import Coactor.Foundation.SocketAddress
import Coactor.Foundation.SocketRoundTrip
import Coactor.Foundation.Spread
import Coactor.Coordination.Endpoint
import Coactor.Coordination.Records
import Coactor.Coordination.NodeSession
import Coactor.Coordination.AuthorityLoss
import Coactor.Coordination.LeaseClock
import Coactor.Coordination.LeaseSystem
import Coactor.Coordination.LeaseTerms
import Coactor.Coordination.LeaseInvariant
import Coactor.Coordination.LeaseExclusion
import Coactor.Coordination.Tenancy
import Coactor.Coordination.Acquisition
import Coactor.Coordination.Routing
import Coactor.Coordination.RoutingContract
import Coactor.Coordination.OwnerStore
import Coactor.Coordination.OwnerHistory
import Coactor.Coordination.RoutingSoundness
import Coactor.Coordination.RenewalConflict
import Coactor.Coordination.StoreKeys
import Coactor.Coordination.StoreOperations
import Coactor.Coordination.S3Store
import Coactor.Coordination.TestStore
import Coactor.Coordination.StoreEquivalence
import Coactor.Client.OwnerResolution
import Coactor.Coordination.KeySpace
import Coactor.Runtime.State
import Coactor.Runtime.Core
import Coactor.Runtime.Lifecycle
import Coactor.Runtime.Cases
import Coactor.Runtime.Shutdown
import Coactor.Runtime.Effects
import Coactor.Runtime.Routes
import Coactor.Runtime.Resolution
import Coactor.Runtime.Openings
import Coactor.Runtime.Passivation
import Coactor.Runtime.Draining
import Coactor.Runtime.Completeness
import Coactor.Runtime.Calls
import Coactor.Runtime.Node
import Coactor.Runtime.SelfFence
import Coactor.Runtime.Moves
import Coactor.Runtime.Isolation
import Coactor.Runtime.History
import Coactor.Runtime.Termination
import Coactor.Runtime.Deliveries
import Coactor.Runtime.Callbacks
import Coactor.Runtime.Protocol
import Coactor.Runtime.Authority
import Coactor.Runtime.Acknowledgement
import Coactor.Cluster.System
import Coactor.Cluster.Calls
import Coactor.Cluster.Owners
import Coactor.Cluster.Displacement
import Coactor.Cluster.Liveness
import Coactor.Cluster.Takeover
import Coactor.Cluster.SingleOwner
import Coactor.Transport.Wire
import Coactor.Client.State
import Coactor.Client.Open
import Coactor.Client.ReceiveLoop
import Coactor.Client.System
import Coactor.Client.Cases
import Coactor.Client.OpenMoves
import Coactor.Client.Moves
import Coactor.Client.Pending
import Coactor.Exchange.System
import Coactor.Exchange.Moves
import Coactor.Runtime.Capacity
import Coactor.Runtime.Disconnection
import Coactor.Cluster.Rejection
import Coactor.Runtime.Closures
import Coactor.Client.Journal
import Coactor.Client.Resources
import Coactor.Client.Effects
import Coactor.Client.Pools
import Coactor.Client.Attempts
import Coactor.Client.Iterations
import Coactor.Client.Termination
import Coactor.Client.Residue
import Coactor.Client.Abandonment
import Coactor.Client.Reception
import Coactor.Client.Results
import Coactor.Client.Listening
import Coactor.Client.Placement
import Coactor.Client.Balance
import Coactor.Exchange.Stamps
import Coactor.Exchange.Answers
import Coactor.Exchange.Agreement
import Coactor.Client.PoolMoves
import Coactor.Client.PoolBounds
import Coactor.Client.PoolCounts
import Coactor.Client.PoolRecord
import Coactor.Client.PoolSpread
import Coactor.Client.PoolRuns
import Coactor.Foundation.Conveyor
import Coactor.Client.Streams
import Coactor.Runtime.Succession
import Coactor.Exchange.Events
import Coactor.Exchange.Actions
import Coactor.Exchange.Carriage
import Coactor.Exchange.Order
import Coactor.Exchange.Once
import Coactor.Foundation.Waiting
import Coactor.Runtime.Tenure
import Coactor.Runtime.Progress
import Coactor.Foundation.Fairness
import Coactor.Runtime.Stopping
import Coactor.Foundation.Simulation
import Coactor.Runtime.Registry
import Coactor.Client.Shutdown
import Coactor.Client.Clearance
import Coactor.Client.Loss
import Coactor.Cluster.Serve
import Coactor.Cluster.ServeOrder
import Coactor.Cluster.ServeProgress
