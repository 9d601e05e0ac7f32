import FlowOffload.Engine.Lifecycle
import FlowOffload.Foundation.Machine

/-!
# Runs of the engine

Every public operation that changes the engine, as an input of a machine.  An
input carries the answer the store gives to the commit it causes.  A restart
of the process is a fresh engine over the same store; opening may find any
state that was ever handed to the store, or none.
-/

namespace FlowOffload

inductive Op where
  | openEngine (opening : StoreOpening) (answer : Status)
  | shutdown (answer : Status)
  | restart (config : EngineConfig)
  | registerFlow (flow : FlowDescriptor) (answer : Status)
  | removeFlow (flow : FlowId) (generation : FlowGeneration) (answer : Status)
  | declareTarget (target : TargetDescriptor) (answer : Status)
  | removeTarget (target : TargetId) (incarnation : TargetIncarnation)
      (instant : Timestamp) (answer : Status)
  | ingestLoad (evidence : LoadEvidence)
  | setPolicy (policy : Policy) (answer : Status)
  | setTopologyGeneration (generation : TopologyGeneration) (answer : Status)
  | registerMigrationContract (contract : MigrationContract) (answer : Status)
  | place (request : PlacementRequest) (answer : Status)
  | rebalance (request : RebalanceRequest) (answer : Status)
  | authorize (recommendation : RecommendationId) (instant : Timestamp)
  | revokeAuthorization (authorization : AuthorizationId)
  | issueIntent (authorization : AuthorizationId) (wanted : MigrationIntent)
      (answer : Status)
  | acknowledge (ack : MigrationAcknowledgement) (answer : Status)
  | reportApplied (effect : AppliedEffect) (answer : Status)
  | observe (observation : EffectObservation) (answer : Status)
  | abortMigration (attempt : MigrationAttemptId) (reason : ReasonCode)
      (answer : Status)
  deriving DecidableEq, Repr

/-- The durable state that an opening found in the store. -/
def Op.recovered : Op → Option DurableState
  | .openEngine opening _ => opening.state
  | _ => none

/-- The authorization an intent is issued under. -/
def Op.issuedUnder : Op → Option AuthorizationId
  | .issueIntent authorization _ _ => some authorization
  | _ => none

namespace Impl

def step (s : Impl) : Op → Impl
  | .openEngine opening answer => (s.openEngine opening answer).1
  | .shutdown answer => s.shutdown answer
  | .restart config => init config s.submitted
  | .registerFlow flow answer => (s.registerFlow flow answer).1
  | .removeFlow flow generation answer =>
      (s.removeFlow flow generation answer).1
  | .declareTarget target answer => (s.declareTarget target answer).1
  | .removeTarget target incarnation instant answer =>
      (s.removeTarget target incarnation instant answer).1
  | .ingestLoad evidence => (s.ingestLoad evidence).1
  | .setPolicy policy answer => (s.setPolicy policy answer).1
  | .setTopologyGeneration generation answer =>
      (s.setTopologyGeneration generation answer).1
  | .registerMigrationContract contract answer =>
      (s.registerMigrationContract contract answer).1
  | .place request answer => (s.placeLocked request answer).1
  | .rebalance request answer => (s.rebalanceLocked request answer).1
  | .authorize recommendation instant =>
      (s.authorize recommendation instant).1
  | .revokeAuthorization authorization =>
      (s.revokeAuthorization authorization).1
  | .issueIntent authorization wanted answer =>
      (s.issueIntent authorization wanted answer).1
  | .acknowledge ack answer => (s.acknowledge ack answer).1
  | .reportApplied effect answer => (s.reportApplied effect answer).1
  | .observe observation answer => (s.observe observation answer).1
  | .abortMigration attempt reason answer =>
      (s.abortMigration attempt reason answer).1

/-- The request passes every check in front of planning and is no dry run. -/
def executes (s : Impl) (request : PlacementRequest) : Bool :=
  s.isOpen && (s.requestRefusal request).isNone &&
    (s.requests[request.request]?).isNone &&
    !conflictingItems (sortItems request.items) && !request.dryRun

/-- The request that an operation plans and commits. -/
def wetRequest (s : Impl) : Op → Option PlacementRequest
  | .place request _ => if s.executes request then some request else none
  | _ => none

/-- A recovery finds a state that was handed to the store, or none. -/
def allowed (s : Impl) (op : Op) : Prop :=
  ∀ state ∈ op.recovered, state ∈ s.submitted

instance (s : Impl) (op : Op) : Decidable (s.allowed op) :=
  inferInstanceAs (Decidable (∀ state ∈ op.recovered, state ∈ s.submitted))

end Impl

/-- The engine as a machine whose inputs are its public operations. -/
def engine : Foundation.Machine Impl Op where
  step := Impl.step
  allowed := Impl.allowed

instance (s : Impl) (op : Op) : Decidable (engine.allowed s op) :=
  inferInstanceAs (Decidable (s.allowed op))

end FlowOffload
