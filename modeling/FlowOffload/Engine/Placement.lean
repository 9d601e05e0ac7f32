import FlowOffload.Engine.State

/-!
# Deterministic placement

`placeLocked` first plans a batch, item by item in canonical order, and then
commits it.  Planning reads the engine state and changes only counters; what
it decides is collected in a `BatchPlan`, whose planned additions and releases
are what later items of the same batch are evaluated against.
-/

namespace FlowOffload

open Foundation
open Std (ExtTreeMap)

/-! ## Policy helpers -/

def preferredDomain (policy : Policy) : ExecutionDomain :=
  match policy.domainPreference with
  | .hostFirst | .hostOnly => .host
  | .offloadFirst | .offloadOnly => .offloadDevice
  | .unknown => .unknown

def fallbackAllowed (policy : Policy) (preferred chosen : ExecutionDomain) :
    Bool :=
  if preferred = .unknown || chosen = preferred then true
  else if chosen = .host && preferred = .offloadDevice then
    policy.fallback = .allowHostFallback || policy.fallback = .allowAnyFallback
  else if chosen = .offloadDevice && preferred = .host then
    policy.fallback = .allowOffloadFallback ||
      policy.fallback = .allowAnyFallback
  else false

def domainOutcome (domain : ExecutionDomain) (fallback : Bool) : ReasonCode :=
  if fallback then
    if domain = .host then .acceptedFallbackToHost
    else .acceptedFallbackToOffload
  else if domain = .host then .acceptedHostPlacement
  else .acceptedOffloadPlacement

def compareRank (a b : RankKey) : Int :=
  if a.sticky ≠ b.sticky then if a.sticky < b.sticky then -1 else 1
  else if a.domainRank ≠ b.domainRank then
    if a.domainRank < b.domainRank then -1 else 1
  else if a.costRank ≠ b.costRank then
    if a.costRank < b.costRank then -1 else 1
  else if a.utilisationPpm ≠ b.utilisationPpm then
    if a.utilisationPpm < b.utilisationPpm then -1 else 1
  else if a.target ≠ b.target then if a.target < b.target then -1 else 1
  else 0

structure RankedCandidate where
  key : RankKey := {}
  view : CandidateView := {}
  deriving DecidableEq, Repr, Inhabited

/-- `none` stands for the refusal `RejectedPolicyCostClass`. -/
def keyFor (view : CandidateView) (sticky : Bool)
    (preferred : ExecutionDomain) : Option RankKey :=
  if view.costClass = .unknown then none
  else some
    { sticky := if sticky then 0 else 1
      domainRank := if view.domain = preferred then 0 else 1
      costRank := EnumTraits.wire view.costClass
      utilisationPpm := view.utilisationPpm
      target := view.target.value }

/-- `std::stable_sort` by rank. -/
def sortRanked (ranked : List RankedCandidate) : List RankedCandidate :=
  canonicalSort (fun a b => compareRank b.key a.key < 0) ranked

def addStep (steps : List ExplanationStep) (code : ReasonCode) (a b : UInt64)
    (detail : String) : List ExplanationStep :=
  if steps.length ≥ kMaxExplanationSteps then steps
  else steps ++ [⟨code, a, b, detail⟩]

/--
`std::lower_bound`: the halving loop over a range given by its first index and
length.  The length strictly decreases, so it is enough fuel.
-/
def lowerBound {α : Type} (less : α → Bool) (values : List α) :
    Nat → Nat → Nat → Nat
  | 0, first, _ => first
  | fuel + 1, first, length =>
      if length = 0 then first
      else
        let half := length / 2
        match values[first + half]? with
        | none => first
        | some value =>
            if less value then
              lowerBound less values fuel (first + half + 1) (length - half - 1)
            else lowerBound less values fuel first half

/-- `std::binary_search`, with the meaning of membership on a sorted list. -/
def binarySearch {α : Type} (less : α → α → Bool) (values : List α)
    (value : α) : Bool :=
  let index := lowerBound (fun x => less x value) values values.length 0
    values.length
  match values[index]? with
  | none => false
  | some found => !less value found

/-! ## Digests -/

def digestOf (bytes : Bytes) : Sha256Digest :=
  if writerOk bytes then Sha256.of bytes else {}

def PlacementItem.lessThan (a b : PlacementItem) : Bool :=
  if a.flow ≠ b.flow then a.flow < b.flow
  else a.flowGeneration < b.flowGeneration

/-- Canonical item order makes the result independent of input order. -/
def sortItems (items : List PlacementItem) : List PlacementItem :=
  canonicalSort (fun a b => b.lessThan a) items

def PlacementItem.encode (v : PlacementItem) : Bytes :=
  writeId v.flow ++ writeId v.flowGeneration

def placementRequestDigest (request : PlacementRequest) : Sha256Digest :=
  digestOf (writeId request.request ++ request.evaluationInstant.encode ++
    writeId request.policyGeneration ++
    writeId request.baseScheduleGeneration ++
    writeU32 request.maxAlternatives ++ writeBoolean request.dryRun ++
    writeList PlacementItem.encode (sortItems request.items))

/-- The decision-relevant part of a placement, as its digest covers it. -/
def FlowPlacement.digestBytes (v : FlowPlacement) : Bytes :=
  writeId v.flow ++ writeId v.flowGeneration ++ writeId v.function ++
    v.outcome.encode ++ writeBoolean v.accepted ++ writeBoolean v.fallback ++
    writeBoolean v.retained ++ writeBoolean v.changed ++ writeId v.target ++
    writeId v.incarnation ++ writeId v.capabilityGeneration ++
    encodeEnum v.domain ++ writeId v.assignment ++ writeId v.recommendation ++
    writeU32 v.alternatives

def placementResultDigest (result : PlacementResult) : Sha256Digest :=
  digestOf (writeId result.request ++ result.status.encode ++
    writeBoolean result.accepted ++ writeBoolean result.duplicate ++
    writeBoolean result.dryRun ++ writeId result.scheduleGeneration ++
    writeList FlowPlacement.digestBytes result.placements ++
    writeList ReasonCount.encode result.refusalSummary)

def Recommendation.encode (v : Recommendation) : Bytes :=
  writeId v.id ++ writeId v.request ++ writeId v.flow ++
    writeId v.flowGeneration ++ writeId v.target ++ writeId v.incarnation ++
    writeId v.capabilityGeneration ++ writeId v.policyGeneration ++
    writeId v.scheduleGeneration ++ writeId v.topologyGeneration ++
    writeId v.epoch ++ v.boot.encode ++ encodeEnum v.domain ++
    v.outcome.encode ++ writeBoolean v.fallback ++ v.issuedAt.encode ++
    writeDigest v.digest

/-! ## Evaluating one target -/

namespace Impl

def lifecycleRefusal (target : TargetState) : Option ReasonCode :=
  if !target.declared then some .rejectedTargetLifecycleUnknown
  else
    match target.descriptor.lifecycle with
    | .ready => none
    | .removed => some .rejectedTargetRemoved
    | .draining => some .rejectedTargetDraining
    | .degraded => some .rejectedTargetDegraded
    | .quiesced => some .rejectedTargetQuiesced
    | .discovered => some .rejectedTargetNotReady
    | .unknown => some .rejectedTargetLifecycleUnknown

def policyRefusal (policy : Policy) (flow : FlowDescriptor)
    (descriptor : TargetDescriptor) : Option ReasonCode :=
  if policy.domainPreference = .hostOnly && descriptor.domain ≠ .host then
    some .rejectedPolicyForbidsDomain
  else if policy.domainPreference = .offloadOnly &&
      descriptor.domain ≠ .offloadDevice then
    some .rejectedPolicyForbidsDomain
  else if !policy.allowedDomains.isEmpty && !binarySearch
      (fun a b => EnumTraits.wire a < EnumTraits.wire b)
      policy.allowedDomains descriptor.domain then
    some .rejectedPolicyForbidsDomain
  else if binarySearch (fun a b => a < b) policy.forbiddenHosts
      descriptor.host then
    some .rejectedPolicyForbidsHost
  else if descriptor.device.isValid && binarySearch (fun a b => a < b)
      policy.forbiddenDevices descriptor.device then
    some .rejectedPolicyForbidsDevice
  else if !policy.allowedFunctions.isEmpty && !binarySearch
      (fun a b => a < b) policy.allowedFunctions flow.function then
    some .rejectedPolicyFunctionNotAllowed
  else if !satisfies descriptor.capabilities
      (flow.requiredCapabilities ||| policy.requiredCapabilities) then
    some .rejectedUnsupportedCapability
  else if flow.statefulness = .stateful && !descriptor.supportsStateful then
    some .rejectedUnsupportedTarget
  else if descriptor.costClass = .unknown ||
      descriptor.costClass.exceeds flow.maxCostClass ||
      descriptor.costClass.exceeds policy.maxCostClass then
    some .rejectedPolicyCostClass
  else none

/-- An unplaced anchor cannot justify locality. -/
def localityRefusal (s : Impl) (flow : FlowDescriptor)
    (descriptor : TargetDescriptor) : Option ReasonCode :=
  if flow.locality = .none then none
  else if flow.localityAnchor = flow.flow then
    some .rejectedAffinityUnsatisfiable
  else
    match s.assignments[flow.localityAnchor]? with
    | none => some .rejectedAffinityUnsatisfiable
    | some anchor =>
        match s.targets[anchor.target]? with
        | none => some .rejectedAffinityUnsatisfiable
        | some anchorTarget =>
            if flow.locality = .sameHostAsFlow &&
                anchorTarget.descriptor.host ≠ descriptor.host then
              some .rejectedAffinityUnsatisfiable
            else if flow.locality = .sameDeviceAsFlow &&
                anchorTarget.descriptor.device ≠ descriptor.device then
              some .rejectedAffinityUnsatisfiable
            else none

/-- The checks that come before the load is looked at, in source order. -/
def admissionRefusal (s : Impl) (flow : FlowDescriptor) (target : TargetState) :
    Option ReasonCode :=
  (lifecycleRefusal target).or
    ((policyRefusal s.policy flow target.descriptor).or
      (s.localityRefusal flow target.descriptor))

def candidateView (flow : FlowDescriptor) (descriptor : TargetDescriptor) :
    CandidateView :=
  { target := descriptor.target
    domain := descriptor.domain
    host := descriptor.host
    device := descriptor.device
    incarnation := descriptor.incarnation
    capabilityGeneration := descriptor.capabilityGeneration
    costClass := descriptor.costClass
    capacity := descriptor.capacity
    demand := flow.demand }

/-- The room the evaluation reports as available. -/
def availableRoom (descriptor : TargetDescriptor) (used : CapacityVector) :
    CapacityVector :=
  if used.exceedsAny descriptor.capacity then .zero
  else
    CapacityVector.saturatingSub
      (CapacityVector.saturatingSub descriptor.capacity descriptor.reserved)
      used

/--
The verdict of the capacity half, against the used load: the refusal, or the
utilisation the target would have with the flow on it.
-/
def capacityVerdict (policy : Policy) (flow : FlowDescriptor)
    (descriptor : TargetDescriptor) (used : CapacityVector) :
    Except ReasonCode (UInt32 × Bool) :=
  if used.exceedsAny descriptor.capacity then
    .error .rejectedCapacityOverSubscribed
  else
    match CapacityVector.checkedAdd flow.demand policy.reserve with
    | none => .error .rejectedCapacityOverflow
    | some requiredTotal =>
        if !(availableRoom descriptor used).dominates requiredTotal then
          .error .rejectedCapacityInsufficient
        else
          match CapacityVector.checkedAdd used flow.demand with
          | none => .error .rejectedCapacityOverflow
          | some after =>
              match aggregateUtilisationPpm after descriptor.capacity with
              | none => .error .rejectedCapacityUnknown
              | some utilisation => .ok utilisation

/-- The capacity half of the evaluation. -/
def evaluateCapacity (policy : Policy) (flow : FlowDescriptor)
    (descriptor : TargetDescriptor) (used : CapacityVector)
    (view : CandidateView) : ReasonCode × CandidateView :=
  match capacityVerdict policy flow descriptor used with
  | .error reason =>
      (reason,
        { view with
          effectiveUsed := used
          available := availableRoom descriptor used })
  | .ok (ppm, saturated) =>
      let preferred := preferredDomain policy
      (.ok,
        { view with
          effectiveUsed := used
          available := availableRoom descriptor used
          utilisationPpm := ppm
          utilisationSaturated := saturated
          fallbackDomain := preferred ≠ .unknown &&
            descriptor.domain ≠ preferred })

def evaluateTargetLocked (s : Impl) (flow : FlowDescriptor)
    (target : TargetState) (instant : Timestamp) : ReasonCode × CandidateView :=
  let view := candidateView flow target.descriptor
  match s.admissionRefusal flow target with
  | some reason => (reason, view)
  | none =>
      let present := target.hasLoad && !target.conflicting
      let load := s.effectiveLoadLocked target instant
      let fresh := load.known && present &&
        s.config.evidenceFreshness.nanos > 0 &&
        (saturatingElapsed instant target.load.observedAt).nanos ≤
          s.config.evidenceFreshness.nanos
      let view := { view with
        loadEvidencePresent := present
        loadEvidenceFresh := fresh }
      if !load.known && !s.policy.allowPlacementWithoutLoadEvidence then
        (load.reason, view)
      else
        -- the explicit opt-in takes an unknown load for an empty one
        let used := if load.known then load.used else .zero
        evaluateCapacity s.policy flow target.descriptor used view

/-! ## Planning a batch -/

structure PendingCommit where
  index : Nat := 0
  flow : FlowId := {}
  generation : FlowGeneration := {}
  target : TargetId := {}
  incarnation : TargetIncarnation := {}
  capability : CapabilityGeneration := {}
  domain : ExecutionDomain := .unknown
  outcome : ReasonCode := .ok
  fallback : Bool := false
  retained : Bool := false
  deriving DecidableEq, Repr, Inhabited

/-- The local variables of `place_locked` and the counters it advances. -/
structure BatchPlan where
  plannedAdd : ExtTreeMap TargetId CapacityVector := ∅
  plannedRelease : ExtTreeMap TargetId CapacityVector := ∅
  batchRefusals : ExtTreeMap ReasonCode UInt64 := ∅
  anyChange : Bool := false
  commits : List PendingCommit := []
  placements : List FlowPlacement := []
  counters : Counters := {}
  refusalCounts : ExtTreeMap ReasonCode UInt64 := ∅

/-- The target as the batch planned so far leaves it. -/
def plannedTarget (plan : BatchPlan) (id : TargetId) (state : TargetState) :
    TargetState :=
  let added := match plan.plannedAdd[id]? with
    | some add => CapacityVector.addOrSaturate state.scheduled add
    | none => state.scheduled
  let released := match plan.plannedRelease[id]? with
    | some release => CapacityVector.saturatingSub added release
    | none => added
  { state with scheduled := released }

/-- The flow keeps its target under a sticky policy. -/
def stickyOn (policy : Policy) (current : Option Assignment)
    (view : CandidateView) : Bool :=
  match current with
  | none => false
  | some assignment =>
      policy.sticky && assignment.target = view.target &&
        assignment.incarnation = view.incarnation

structure Survey where
  ranked : List RankedCandidate := []
  refused : List CandidateView := []

def Survey.refuse (survey : Survey) (view : CandidateView) : Survey :=
  if survey.refused.length < kMaxRankedCandidates then
    { survey with refused := survey.refused ++ [view] }
  else survey

/-- One iteration of the candidate loop. -/
def surveyTarget (s : Impl) (plan : BatchPlan) (flow : FlowDescriptor)
    (current : Option Assignment) (instant : Timestamp) (survey : Survey)
    (entry : TargetId × TargetState) : Survey :=
  let evaluated := s.evaluateTargetLocked flow
    (plannedTarget plan entry.1 entry.2) instant
  let view : CandidateView := { evaluated.2 with
    eligible := evaluated.1 = ReasonCode.ok
    reason := evaluated.1 }
  if view.eligible then
    match keyFor view (stickyOn s.policy current view)
        (preferredDomain s.policy) with
    | none =>
        survey.refuse
          { view with eligible := false, reason := .rejectedPolicyCostClass }
    | some key =>
        if survey.ranked.length < kMaxRankedCandidates then
          { survey with ranked := survey.ranked ++ [⟨key, view⟩] }
        else survey
  else survey.refuse view

def surveyTargets (s : Impl) (plan : BatchPlan) (flow : FlowDescriptor)
    (current : Option Assignment) (instant : Timestamp) : Survey :=
  s.targets.toList.foldl (s.surveyTarget plan flow current instant) {}

/-- The candidates in rank order, each with its position recorded. -/
def rankCandidates (ranked : List RankedCandidate) : List RankedCandidate :=
  (sortRanked ranked).mapIdx fun index candidate =>
    { candidate with view.rank := UInt32.ofNat index }

/-- The first candidate and whether it is a fallback, unless that is refused. -/
def chooseCandidate (policy : Policy) (ranked : List RankedCandidate) :
    Option (CandidateView × Bool) :=
  match ranked with
  | [] => none
  | first :: _ =>
      let fallback := first.key.domainRank ≠ 0
      if fallback && !fallbackAllowed policy (preferredDomain policy)
          first.view.domain then none
      else some (first.view, fallback)

/-- What planning decides about one item. -/
inductive Decision where
  | refused (placement : FlowPlacement) (reason : ReasonCode)
  | accepted (flow : FlowDescriptor) (current : Option Assignment)
      (chosen : CandidateView) (fallback : Bool) (placement : FlowPlacement)

/-- Exclusive state that is live elsewhere is never double-assigned. -/
def conflictingHolder (s : Impl) (flow : FlowDescriptor) :
    Option StateHolder :=
  if flow.statefulness = .stateful then
    match s.findHolderLocked flow.exclusiveStateKey with
    | none => none
    | some holder =>
        if holder.flow ≠ flow.flow ||
            holder.flowGeneration ≠ flow.generation then some holder
        else none
  else none

def explainedPlacement (s : Impl) (request : PlacementRequest)
    (item : PlacementItem) (flow : FlowDescriptor) : FlowPlacement :=
  { flow := item.flow
    flowGeneration := flow.generation
    function := flow.function
    explanation := {
      flow := flow.flow
      flowGeneration := flow.generation
      policyGeneration := s.policyGeneration
      topologyGeneration := s.topologyGeneration
      epoch := s.epoch
      boot := s.boot
      evaluationInstant := request.evaluationInstant } }

def refusedSteps (refused : List CandidateView) : List ExplanationStep :=
  (refused.take kMaxExplanationSteps).foldl
    (fun steps view =>
      addStep steps view.reason view.target.value
        view.utilisationPpm.toUInt64 "target refused")
    []

def effectiveAlternatives (s : Impl) (request : PlacementRequest) : UInt32 :=
  if request.maxAlternatives = 0 then UInt32.ofNat s.config.maxAlternatives
  else min request.maxAlternatives kMaxAlternatives

def decideFlow (s : Impl) (request : PlacementRequest) (plan : BatchPlan)
    (placement : FlowPlacement) (flow : FlowDescriptor) : Decision :=
  let current := s.assignments[flow.flow]?
  let survey := s.surveyTargets plan flow current request.evaluationInstant
  let ranked := rankCandidates survey.ranked
  let steps := refusedSteps survey.refused
  let surveyed := { placement with
    ranked := (ranked.take (s.effectiveAlternatives request).toNat).map
      RankedCandidate.view
    refused := survey.refused.take kMaxExplanationSteps
    alternatives := UInt32.ofNat ranked.length
    explanation.refused := steps }
  match chooseCandidate s.policy ranked with
  | some (chosen, fallback) =>
      .accepted flow current chosen fallback surveyed
  | none =>
      let reasons := survey.refused.map CandidateView.reason
      let dominant := if reasons.isEmpty then .rejectedNoEligibleTarget
        else dominantRefusalLocked reasons
      .refused
        { surveyed with
          explanation.primary := dominant
          explanation.refused :=
            if reasons.isEmpty then
              addStep steps dominant 0 0
                "no execution target is declared for this coordinator incarnation"
            else steps }
        dominant

def decideItem (s : Impl) (request : PlacementRequest) (plan : BatchPlan)
    (item : PlacementItem) : Decision :=
  match s.flows[item.flow]? with
  | none => .refused { flow := item.flow } .rejectedUnknownFlow
  | some flow =>
      if item.flowGeneration.isValid &&
          item.flowGeneration ≠ flow.generation then
        .refused { flow := item.flow } .rejectedStaleFlowGeneration
      else
        let placement := s.explainedPlacement request item flow
        match s.conflictingHolder flow with
        | some holder =>
            .refused
              { placement with
                explanation.primary := .rejectedExclusiveStateConflict
                explanation.refused := addStep []
                  .rejectedExclusiveStateConflict holder.flow.value
                  holder.flowGeneration.value
                  "exclusive state is held by another flow" }
              .rejectedExclusiveStateConflict
        | none => s.decideFlow request plan placement flow

/-- A refused item is counted and reported, and plans nothing. -/
def BatchPlan.refuse (plan : BatchPlan) (placement : FlowPlacement)
    (reason : ReasonCode) : BatchPlan :=
  { plan with
    batchRefusals := plan.batchRefusals.insert reason
      (plan.batchRefusals.getD reason 0 + 1)
    placements := plan.placements ++ [{ placement with outcome := reason }]
    refusalCounts := bumpRefusal plan.refusalCounts reason
    counters.placementsRefused :=
      saturatingIncrement plan.counters.placementsRefused
    counters.refusalsByReasonTotal :=
      saturatingIncrement plan.counters.refusalsByReasonTotal }

/-- Demand added to one target's planned vector. -/
def addPlanned (planned : ExtTreeMap TargetId CapacityVector)
    (target : TargetId) (demand : CapacityVector) :
    ExtTreeMap TargetId CapacityVector :=
  match planned[target]? with
  | some sum => planned.insert target (.addOrSaturate sum demand)
  | none => planned.insert target demand

def acceptedOutcome (policy : Policy) (chosen : CandidateView)
    (fallback retained : Bool) : ReasonCode :=
  if retained then .acceptedStickyRetention
  else if fallback then domainOutcome chosen.domain true
  else if !chosen.loadEvidenceFresh &&
      policy.allowPlacementWithoutLoadEvidence then
    .acceptedWithoutLoadEvidence
  else domainOutcome chosen.domain false

def acceptedSteps (chosen : CandidateView) : List ExplanationStep :=
  let selected := addStep [] .acceptedHostPlacement chosen.target.value
    chosen.rank.toUInt64 ("selected target " ++
      toString chosen.target.value.toNat ++ " rank " ++
      toString chosen.rank.toNat)
  let evidence := addStep selected .acceptedEvidenceRecorded
    chosen.utilisationPpm.toUInt64 (if chosen.loadEvidenceFresh then 1 else 0)
    (if chosen.loadEvidenceFresh then "fresh load evidence"
      else "no fresh load evidence")
  addStep evidence .acceptedNoChangeRequired
    chosen.available.packetsPerSecond chosen.demand.packetsPerSecond
    "capacity available vs required (packets per second)"

/-- An accepted item: a retained one keeps its assignment, any other plans the
release of the old target and the demand on the new one. -/
def BatchPlan.accept (plan : BatchPlan) (policy : Policy)
    (flow : FlowDescriptor) (current : Option Assignment)
    (chosen : CandidateView) (fallback : Bool) (placement : FlowPlacement) :
    BatchPlan :=
  let retained := stickyOn policy current chosen
  let outcome := acceptedOutcome policy chosen fallback retained
  let assignment : AssignmentId := match retained, current with
    | true, some assignment => assignment.assignment
    | _, _ => {}
  let pending : PendingCommit :=
    { index := plan.placements.length
      flow := flow.flow
      generation := flow.generation
      target := chosen.target
      incarnation := chosen.incarnation
      capability := chosen.capabilityGeneration
      domain := chosen.domain
      outcome := outcome
      fallback := fallback
      retained := retained }
  let counters := plan.counters
  { plan with
    plannedAdd := if retained then plan.plannedAdd
      else addPlanned plan.plannedAdd chosen.target flow.demand
    plannedRelease := match retained, current with
      | false, some assignment =>
          addPlanned plan.plannedRelease assignment.target flow.demand
      | _, _ => plan.plannedRelease
    anyChange := plan.anyChange || !retained
    commits := plan.commits ++ [pending]
    counters := { counters with
      placementsRetained := if retained then
        saturatingIncrement counters.placementsRetained
        else counters.placementsRetained
      placementsAccepted := saturatingIncrement counters.placementsAccepted
      placementsFallback := if fallback then
        saturatingIncrement counters.placementsFallback
        else counters.placementsFallback }
    placements := plan.placements ++ [{ placement with
      accepted := true
      fallback := fallback
      retained := retained
      outcome := outcome
      target := chosen.target
      incarnation := chosen.incarnation
      capabilityGeneration := chosen.capabilityGeneration
      domain := chosen.domain
      changed := !retained
      assignment := assignment
      explanation.primary := outcome
      explanation.target := chosen.target
      explanation.incarnation := chosen.incarnation
      explanation.accepted := acceptedSteps chosen }] }

def planItem (s : Impl) (request : PlacementRequest) (plan : BatchPlan)
    (item : PlacementItem) : BatchPlan :=
  match s.decideItem request plan item with
  | .refused placement reason => plan.refuse placement reason
  | .accepted flow current chosen fallback placement =>
      plan.accept s.policy flow current chosen fallback placement

def initialPlan (s : Impl) : BatchPlan :=
  { counters := s.counters, refusalCounts := s.refusalCounts }

def planBatch (s : Impl) (request : PlacementRequest)
    (items : List PlacementItem) : BatchPlan :=
  items.foldl (s.planItem request) s.initialPlan

/-! ## Committing a batch -/

def pendingAssignment (s : Impl) (request : PlacementRequest)
    (published : ScheduleGeneration) (pending : PendingCommit) : Assignment :=
  { assignment := ⟨s.nextAssignment⟩
    flow := pending.flow
    flowGeneration := pending.generation
    target := pending.target
    incarnation := pending.incarnation
    capabilityGeneration := pending.capability
    policyGeneration := s.policyGeneration
    scheduleGeneration := published
    effect := .unknown
    reason := pending.outcome
    committedAt := request.evaluationInstant
    supersedes := match s.assignments[pending.flow]? with
      | some previous => previous.assignment
      | none => {} }

/-- The holder entry of a stateful flow is replaced. -/
def holdState (s : Impl) (flow : FlowId) (holder : StateHolder) : Impl :=
  match s.flows[flow]? with
  | some descriptor =>
      if descriptor.statefulness = .stateful then
        { s with
          holders := s.holders.insert descriptor.exclusiveStateKey holder }
      else s
  | none => s

def commitAssignment (s : Impl) (request : PlacementRequest)
    (published : ScheduleGeneration) (pending : PendingCommit) :
    Impl × AssignmentId :=
  if pending.retained then
    (s, match s.assignments[pending.flow]? with
      | some existing => existing.assignment
      | none => {})
  else
    let assignment := s.pendingAssignment request published pending
    (holdState
      { s with
        nextAssignment := saturatingIncrement s.nextAssignment
        assignments := s.assignments.insert pending.flow assignment }
      pending.flow (holderOf pending.flow assignment),
      assignment.assignment)

def pendingRecommendation (s : Impl) (request : PlacementRequest)
    (published : ScheduleGeneration) (pending : PendingCommit) :
    Recommendation :=
  let recommendation : Recommendation :=
    { id := ⟨s.nextRecommendation⟩
      request := request.request
      flow := pending.flow
      flowGeneration := pending.generation
      target := pending.target
      incarnation := pending.incarnation
      capabilityGeneration := pending.capability
      policyGeneration := s.policyGeneration
      scheduleGeneration := published
      topologyGeneration := s.topologyGeneration
      epoch := s.epoch
      boot := s.boot
      domain := pending.domain
      outcome := pending.outcome
      fallback := pending.fallback
      issuedAt := request.evaluationInstant }
  { recommendation with digest := digestOf recommendation.encode }

/-- One iteration of the commit loop. -/
def commitPending (request : PlacementRequest)
    (published : ScheduleGeneration)
    (state : Impl × List FlowPlacement) (pending : PendingCommit) :
    Impl × List FlowPlacement :=
  let s := state.1
  let recommendation := s.pendingRecommendation request published pending
  let committed := { s with
    nextRecommendation := saturatingIncrement s.nextRecommendation
    }.commitAssignment request published pending
  ({ committed.1 with
      recommendations := committed.1.recommendations.insertIfNew
        recommendation.id recommendation
      counters.recommendationsIssued :=
        saturatingIncrement committed.1.counters.recommendationsIssued },
    state.2.modify pending.index fun placement =>
      { placement with
        recommendation := recommendation.id
        assignment := committed.2 })

def refuseRequest (s : Impl) (result : PlacementResult) (code : ReasonCode) :
    Impl × PlacementResult :=
  (s.recordRefusalLocked code, { result with status := code })

/-- The placement an idempotent duplicate reports for one item. -/
def replayedPlacement (s : Impl) (item : PlacementItem)
    (flow : FlowDescriptor) : FlowPlacement :=
  let placement : FlowPlacement :=
    { flow := item.flow
      flowGeneration := flow.generation
      function := flow.function }
  match s.assignments[item.flow]? with
  | none => { placement with outcome := .rejectedUnknownFlow }
  | some assignment =>
      { placement with
        accepted := true
        retained := true
        target := assignment.target
        incarnation := assignment.incarnation
        capabilityGeneration := assignment.capabilityGeneration
        assignment := assignment.assignment
        outcome := .acceptedIdempotentReplay
        domain := match s.targets[assignment.target]? with
          | some target => target.descriptor.domain
          | none => .unknown }

def replayRequest (s : Impl) (request : PlacementRequest)
    (record : RequestRecord) (result : PlacementResult) :
    Impl × PlacementResult :=
  let replayed := { result with
    duplicate := true
    status := .acceptedIdempotentReplay
    accepted := true
    scheduleGeneration := record.scheduleGeneration
    placements := request.items.filterMap fun (item : PlacementItem) =>
      (s.flows[item.flow]?).map (s.replayedPlacement item) }
  ({ s with
      counters.requestsDeduplicated :=
        saturatingIncrement s.counters.requestsDeduplicated },
    { replayed with digest := placementResultDigest replayed })

def conflictingItems : List PlacementItem → Bool
  | first :: second :: items =>
      (second.flow = first.flow &&
        second.flowGeneration ≠ first.flowGeneration) ||
        conflictingItems (second :: items)
  | _ => false

/-- `std::unique` on the flow identity. -/
def uniqueItems : List PlacementItem → List PlacementItem
  | [] => []
  | item :: items =>
      match uniqueItems items with
      | next :: rest =>
          if item.flow = next.flow then item :: rest
          else item :: next :: rest
      | [] => [item]

/-- The refusal of a request before it is looked up, in source order. -/
def requestRefusal (s : Impl) (request : PlacementRequest) :
    Option ReasonCode :=
  if !request.request.isValid then some .rejectedMalformedInput
  else if request.items.isEmpty then some .rejectedEmptyRequest
  else if request.items.length > s.config.maxFlows then
    some .rejectedOversizedInput
  else if !request.evaluationInstant.isSet then some .rejectedMissingEvidence
  else if !s.policyPresent then some .rejectedMissingEvidence
  else if request.policyGeneration.isValid &&
      request.policyGeneration ≠ s.policyGeneration then
    some .rejectedStalePolicyGeneration
  else if request.baseScheduleGeneration.isValid &&
      request.baseScheduleGeneration ≠ s.scheduleGeneration then
    some .rejectedStaleScheduleGeneration
  else if (placementRequestDigest request).isZero then
    some .rejectedOversizedInput
  else none

def refusalSummary (refusals : ExtTreeMap ReasonCode UInt64) :
    List ReasonCount :=
  refusals.toList.map fun entry => ⟨entry.1, entry.2⟩

/-- The commit loop, run over a state whose counters planning has advanced. -/
def commitBatch (s : Impl) (request : PlacementRequest)
    (published : ScheduleGeneration) (plan : BatchPlan) :
    Impl × List FlowPlacement :=
  plan.commits.foldl (commitPending request published) (s, plan.placements)

/-- The counters that planning advanced, written back to the engine. -/
def withPlan (s : Impl) (plan : BatchPlan) : Impl :=
  { s with counters := plan.counters, refusalCounts := plan.refusalCounts }

/-- The new schedule generation; the cached demand is refreshed here. -/
def publishSchedule (s : Impl) (published : ScheduleGeneration) : Impl :=
  { s with scheduleGeneration := published }.recomputeScheduledLocked

def batchResult (result : PlacementResult) (published : ScheduleGeneration)
    (plan : BatchPlan) (changes : Bool) (placements : List FlowPlacement) :
    PlacementResult :=
  let result := { result with
    placements := placements
    scheduleGeneration := published
    accepted := true
    status := if changes then .acceptedSchedulePublished
      else .acceptedNoChangeRequired
    refusalSummary := refusalSummary plan.batchRefusals }
  { result with digest := placementResultDigest result }

/-- The idempotency record of an executed request, then history and commit. -/
def recordRequest (s : Impl) (request : PlacementRequest)
    (result : PlacementResult) (answer : Status) : Impl :=
  let record : RequestRecord :=
    { request := request.request
      requestDigest := placementRequestDigest request
      resultDigest := result.digest
      scheduleGeneration := result.scheduleGeneration
      outcome := result.status }
  let recorded :=
    { s with requests := s.requests.insert request.request record }
  (recorded.evictHistoryLocked.persistLocked answer).1

/-- Planning and commit of a request that passed every check. -/
def executeRequest (s : Impl) (request : PlacementRequest)
    (items : List PlacementItem) (result : PlacementResult)
    (answer : Status) : Impl × PlacementResult :=
  let plan := s.planBatch request items
  let planned := s.withPlan plan
  let changes := plan.anyChange && !request.dryRun
  let published : ScheduleGeneration :=
    if changes then ⟨s.scheduleGeneration.value + 1⟩ else s.scheduleGeneration
  if changes && !published.isValid then
    planned.refuseRequest { result with placements := plan.placements }
      .rejectedInternalInvariant
  else
    let scheduled := if changes then planned.publishSchedule published
      else planned
    if request.dryRun then
      (scheduled, batchResult result published plan changes plan.placements)
    else
      let committed := scheduled.commitBatch request published plan
      let result := batchResult result published plan changes committed.2
      (committed.1.recordRequest request result answer, result)

def placeLocked (s : Impl) (request : PlacementRequest) (answer : Status) :
    Impl × PlacementResult :=
  let result : PlacementResult :=
    { request := request.request, dryRun := request.dryRun }
  if !s.isOpen then (s, { result with status := .rejectedShuttingDown })
  else
    match s.requestRefusal request with
    | some code => s.refuseRequest result code
    | none =>
        match s.requests[request.request]? with
        | some record =>
            if record.requestDigest ≠ placementRequestDigest request then
              s.refuseRequest result .rejectedConflictingDuplicate
            else s.replayRequest request record result
        | none =>
            let items := sortItems request.items
            if conflictingItems items then
              s.refuseRequest result .rejectedConflictingDuplicate
            else
              s.executeRequest request (uniqueItems items) result answer

end Impl

end FlowOffload
