import FlowOffload.Engine.Types

/-!
# Engine helpers

The `_locked` helpers of the engine: accounting, the durable image, derived
state (cached demand and exclusive state holders), effective load and fences.
-/

namespace FlowOffload

open Std (ExtTreeMap)

namespace Impl

/-! ## Accounting and persistence -/

def bumpRefusal (counts : ExtTreeMap ReasonCode UInt64) (code : ReasonCode) :
    ExtTreeMap ReasonCode UInt64 :=
  match counts[code]? with
  | none => counts.insert code 1
  | some count => counts.insert code (saturatingIncrement count)

def recordRefusalLocked (s : Impl) (code : ReasonCode) : Impl :=
  { s with
    refusalCounts := bumpRefusal s.refusalCounts code
    counters.refusalsByReasonTotal :=
      saturatingIncrement s.counters.refusalsByReasonTotal }

/-- Liveness is never durable: a restart must re-establish it. -/
def durableTarget (target : TargetState) : TargetDescriptor :=
  { target.descriptor with lifecycle := .unknown }

/-- An unverified application is not a durable fact. -/
def durableAssignment (assignment : Assignment) : Assignment :=
  if assignment.effect ≠ .verified then { assignment with effect := .unknown }
  else assignment

def buildDurableLocked (s : Impl) : DurableState :=
  DurableState.canonicalizeOrder {
    semanticsVersion := kStateSemanticsVersion
    epoch := s.epoch
    boot := s.boot
    scheduleGeneration := s.scheduleGeneration
    topologyGeneration := s.topologyGeneration
    policy := s.policy
    policyPresent := s.policyPresent
    counters := s.counters
    flows := s.flows.toList.map Prod.snd
    targets := s.targets.toList.map fun entry => durableTarget entry.2
    assignments := s.assignments.toList.map fun entry =>
      durableAssignment entry.2
    contracts := s.contracts.toList.map Prod.snd
    migrations := s.migrations.toList.map Prod.snd
    fences := s.fences.toList.map Prod.snd
    watermarks := s.watermarks.toList.map Prod.snd
    requests := s.requests.toList.map Prod.snd
    refusalCounts := s.refusalCounts.toList.map fun entry =>
      ⟨entry.1, entry.2⟩ }

/--
`persist_locked`.  The answer of `Store::commit` is an argument: whether the
device accepts a commit is decided outside the engine.
-/
def persistLocked (s : Impl) (answer : Status) : Impl × Status :=
  if !s.config.persistenceEnabled then (s, .accepted .persistNotConfigured)
  else
    let commits := saturatingIncrement s.counters.persistCommits
    let counted := { s with counters.persistCommits := commits }
    let stored :=
      { counted with submitted := counted.buildDurableLocked :: s.submitted }
    if answer.failed then
      ({ stored with
          counters.persistCommits := if commits > 0 then commits - 1 else commits
          counters.persistFailures :=
            saturatingIncrement s.counters.persistFailures },
        answer)
    else (stored, answer)

/-- The common end of a mutating operation: commit, then report the outcome. -/
def persistThen (s : Impl) (answer : Status) (outcome : ReasonCode) :
    Impl × Status :=
  match s.persistLocked answer with
  | (s, persisted) =>
      if persisted.failed then (s, persisted)
      else (s, .accepted outcome)

/-! ## Demand -/

/-- Stops at the first overflow with the saturated vector. -/
def sumDemands : CapacityVector → List CapacityVector → CapacityVector
  | total, [] => total
  | total, demand :: demands =>
      (CapacityVector.checkedAdd total demand).elim .saturated
        fun sum => sumDemands sum demands

/-- The demands of the registered flows assigned to a target, in flow order. -/
def demandsOn (flows : ExtTreeMap FlowId FlowDescriptor)
    (assignments : ExtTreeMap FlowId Assignment) (target : TargetId) :
    List CapacityVector :=
  assignments.toList.filterMap fun entry =>
    if entry.2.target = target then
      (flows[entry.1]?).map FlowDescriptor.demand
    else none

def committedDemandForLocked (s : Impl) (target : TargetId) : CapacityVector :=
  sumDemands .zero (demandsOn s.flows s.assignments target)

/-- One iteration of the recomputation loop. -/
def chargeAssignment (flows : ExtTreeMap FlowId FlowDescriptor)
    (targets : ExtTreeMap TargetId TargetState)
    (entry : FlowId × Assignment) : ExtTreeMap TargetId TargetState :=
  match targets[entry.2.target]?, flows[entry.1]? with
  | some state, some flow =>
      targets.insert entry.2.target
        { state with
          scheduled :=
            CapacityVector.addOrSaturate state.scheduled flow.demand }
  | _, _ => targets

def recomputeScheduledLocked (s : Impl) : Impl :=
  let zeroed := s.targets.map fun _ state =>
    { state with scheduled := CapacityVector.zero }
  { s with
    targets := s.assignments.toList.foldl (chargeAssignment s.flows) zeroed }

/-! ## Effective load -/

def effectiveLoadLocked (s : Impl) (state : TargetState) (instant : Timestamp) :
    EffectiveLoad :=
  let observedNeeded := s.policy.loadModel ≠ .scheduledOnly
  let reported := state.hasLoad && !state.conflicting &&
    state.load.state = .known
  if state.conflicting then
    { known := false, reason := .rejectedConflictingEvidence }
  else
    let aged := reported && s.config.evidenceFreshness.nanos > 0 &&
      (saturatingElapsed instant state.load.observedAt).nanos >
        s.config.evidenceFreshness.nanos
    let observedKnown := reported && !aged
    if observedNeeded && !observedKnown then
      { known := false
        reason :=
          if state.hasLoad then
            if state.load.state = .unsupported then .rejectedUnsupportedTarget
            else .rejectedStaleEvidence
          else .rejectedMissingEvidence }
    else
      let observed := if observedKnown then state.load.utilized else .zero
      match s.policy.loadModel with
      | .observedOnly => ⟨true, observed, .ok⟩
      | .scheduledOnly => ⟨true, state.scheduled, .ok⟩
      | .maximumOfBoth => ⟨true, .maximum observed state.scheduled, .ok⟩
      | .sumConservative | .unknown =>
          match CapacityVector.checkedAdd observed state.scheduled with
          | none => { known := false, reason := .rejectedCapacityOverflow }
          | some sum => ⟨true, sum, .ok⟩

/-! ## Fences and bounded history -/

/--
Bounded fence history: an inactive fence is evicted first, an active one only
when no inactive one is left.  Each round removes one fence.
-/
def evictFences (limit : Nat) :
    Nat → ExtTreeMap FenceId FenceRecord → UInt64 →
      ExtTreeMap FenceId FenceRecord × UInt64
  | 0, fences, evictions => (fences, evictions)
  | fuel + 1, fences, evictions =>
      if fences.size > limit then
        let entries := fences.toList
        let victim := match entries.find? fun entry => !entry.2.active with
          | some entry => some entry
          | none => entries.head?
        match victim with
        | none => (fences, evictions)
        | some entry =>
            evictFences limit fuel (fences.erase entry.1)
              (saturatingIncrement evictions)
      else (fences, evictions)

def issueFenceLocked (s : Impl) (flow : FlowId) (target : TargetId)
    (reason : ReasonCode) (instant : Timestamp) : Impl × FenceId :=
  let id : FenceId := ⟨s.nextFence⟩
  let record : FenceRecord :=
    { id := id, epoch := s.epoch, boot := s.boot, flow := flow,
      target := target, reason := reason, active := true, issuedAt := instant }
  let fences := s.fences.insertIfNew id record
  let kept := evictFences s.config.maxHistory fences.size fences
    s.counters.historyEvictions
  ({ s with
      nextFence := saturatingIncrement s.nextFence
      fences := kept.1
      counters.historyEvictions := kept.2 },
    id)

def retireFence (fence : FenceRecord) : FenceRecord :=
  if fence.active then
    { fence with active := false, reason := .rejectedFencedBySupersession }
  else fence

def fenceAllActiveLocked (s : Impl) (instant : Timestamp) : Impl :=
  let retired := { s with fences := s.fences.map fun _ f => retireFence f }
  (retired.issueFenceLocked {} {} .rejectedFencedByRestart instant).1

/-- Evicts from the front until the map is within its bound. -/
def evictOldest {κ ν : Type} [Ord κ] [Std.TransOrd κ] (limit : Nat) :
    Nat → ExtTreeMap κ ν → UInt64 → ExtTreeMap κ ν × UInt64
  | 0, entries, evictions => (entries, evictions)
  | fuel + 1, entries, evictions =>
      if entries.size > limit then
        match entries.toList.head? with
        | none => (entries, evictions)
        | some entry =>
            evictOldest limit fuel (entries.erase entry.1)
              (saturatingIncrement evictions)
      else (entries, evictions)

def evictHistoryLocked (s : Impl) : Impl :=
  let recommendations := evictOldest s.config.maxHistory
    s.recommendations.size s.recommendations s.counters.historyEvictions
  let authorizations := evictOldest s.config.maxHistory
    s.authorizations.size s.authorizations recommendations.2
  let requests := evictOldest s.config.maxRequests
    s.requests.size s.requests authorizations.2
  { s with
    recommendations := recommendations.1
    authorizations := authorizations.1
    requests := requests.1
    counters.historyEvictions := requests.2 }

/-! ## Exclusive state and migrations -/

/-- The holder entry that a committed assignment gives rise to. -/
def holderOf (flow : FlowId) (assignment : Assignment) : StateHolder :=
  { flow := flow
    flowGeneration := assignment.flowGeneration
    target := assignment.target
    incarnation := assignment.incarnation
    assignment := assignment.assignment }

/-- One iteration of the rebuild loop. -/
def claimState (flows : ExtTreeMap FlowId FlowDescriptor)
    (holders : ExtTreeMap ExclusiveStateKeyId StateHolder)
    (entry : FlowId × Assignment) :
    ExtTreeMap ExclusiveStateKeyId StateHolder :=
  match flows[entry.1]? with
  | some flow =>
      if flow.statefulness = .stateful && flow.exclusiveStateKey.isValid then
        holders.insert flow.exclusiveStateKey (holderOf entry.1 entry.2)
      else holders
  | none => holders

def rebuildHoldersLocked (s : Impl) : Impl :=
  { s with holders := s.assignments.toList.foldl (claimState s.flows) ∅ }

def findHolderLocked (s : Impl) (key : ExclusiveStateKeyId) :
    Option StateHolder :=
  s.holders[key]?

def migrationsInFlightLocked (s : Impl) : Nat :=
  s.migrations.toList.countP fun entry => entry.2.inFlight

/-- Number of attempts in flight among those a loop ends. -/
def endedCount (s : Impl) (ends : MigrationRecord → Bool) : Nat :=
  s.migrations.toList.countP fun entry => entry.2.inFlight && ends entry.2

/-- A counter incremented once per loop iteration. -/
def bumpBy : Nat → UInt64 → UInt64
  | 0, value => value
  | count + 1, value => bumpBy count (saturatingIncrement value)

/-- The record of an attempt that a loop ends, when it is in flight. -/
def endAttempt (ends : MigrationRecord → Bool) (phase : MigrationPhase)
    (reason : ReasonCode) (record : MigrationRecord) : MigrationRecord :=
  if record.inFlight && ends record then
    { record with intent.phase := phase, abortReason := reason }
  else record

/-- The loops that fence every in-flight attempt selected by `ends`. -/
def fenceAttempts (s : Impl) (ends : MigrationRecord → Bool)
    (reason : ReasonCode) : Impl :=
  { s with
    migrations := s.migrations.map fun _ record =>
      endAttempt ends .fenced reason record
    counters.migrationsFenced :=
      bumpBy (s.endedCount ends) s.counters.migrationsFenced }

/-- The loops that abort every in-flight attempt selected by `ends`. -/
def abortAttempts (s : Impl) (ends : MigrationRecord → Bool)
    (reason : ReasonCode) : Impl :=
  { s with
    migrations := s.migrations.map fun _ record =>
      endAttempt ends .aborted reason record
    counters.migrationsAborted :=
      bumpBy (s.endedCount ends) s.counters.migrationsAborted }

/-- The handoff of an attempt that has ended is no longer pending. -/
def clearPending (ended : MigrationAttemptId → Bool) (holder : StateHolder) :
    StateHolder :=
  if ended holder.pendingAttempt then
    { holder with handoffPending := false, pendingAttempt := {} }
  else holder

/-- The loops over every holder entry. -/
def mapHolders (s : Impl) (f : StateHolder → StateHolder) : Impl :=
  { s with holders := s.holders.map fun _ holder => f holder }

/-- Demotes the effect of every assignment on a target. -/
def demoteEffects (s : Impl) (target : TargetId) : Impl :=
  { s with
    assignments := s.assignments.map fun _ assignment =>
      if assignment.target = target then
        { assignment with effect := .unknown }
      else assignment }

/-- Writes the effect of one flow's assignment, when it has one. -/
def setEffect (s : Impl) (flow : FlowId) (effect : EffectState) : Impl :=
  { s with
    assignments := s.assignments.modify flow fun assignment =>
      { assignment with effect := effect } }

def refusalPriority : ReasonCode → Int
  | .rejectedMissingEvidence | .rejectedConflictingEvidence
  | .rejectedCapacityUnknown | .rejectedUnknownEvidenceSource => 100
  | .rejectedStaleCapabilityGeneration | .rejectedStaleTopologyGeneration
  | .rejectedStaleIncarnation | .rejectedStaleEvidence => 90
  | .rejectedTargetLifecycleUnknown | .rejectedTargetNotReady
  | .rejectedTargetDraining | .rejectedTargetDegraded
  | .rejectedTargetQuiesced | .rejectedTargetRemoved => 85
  | .rejectedUnsupportedTarget | .rejectedUnsupportedFunction
  | .rejectedUnsupportedCapability => 80
  | .rejectedPolicyForbidsDomain | .rejectedPolicyForbidsHost
  | .rejectedPolicyForbidsDevice | .rejectedPolicyFunctionNotAllowed
  | .rejectedPolicyCostClass => 70
  | .rejectedAffinityUnsatisfiable => 65
  | .rejectedCapacityInsufficient | .rejectedCapacityOverSubscribed
  | .rejectedCapacityOverflow => 60
  | .rejectedExclusiveStateConflict => 55
  | _ => 10

/-- Higher priority wins, ties go to the numerically lower reason code. -/
def dominantRefusalLocked (reasons : List ReasonCode) : ReasonCode :=
  (reasons.foldl
    (fun (best : ReasonCode × Int) code =>
      let priority := refusalPriority code
      if priority > best.2 || (priority = best.2 &&
          code.reasonValue < best.1.reasonValue) then (code, priority)
      else best)
    (.rejectedNoEligibleTarget, -1)).1

end Impl

end FlowOffload
