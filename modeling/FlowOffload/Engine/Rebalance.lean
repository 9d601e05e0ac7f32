import FlowOffload.Engine.Placement

/-!
# Bounded rebalance

A rebalance proposes at most one better target per placed flow, keeps the best
proposals within every bound and reports them as planned intents.  It changes
no placement.
-/

namespace FlowOffload

open Foundation
open Std (ExtTreeMap)

namespace Impl

structure Proposal where
  flow : FlowId := {}
  generation : FlowGeneration := {}
  improvement : UInt32 := 0
  target : TargetId := {}
  incarnation : TargetIncarnation := {}
  capability : CapabilityGeneration := {}
  domain : ExecutionDomain := .unknown
  deriving DecidableEq, Repr, Inhabited

structure RebalancePlan where
  considered : UInt32 := 0
  proposals : List Proposal := []
  refusals : ExtTreeMap ReasonCode UInt64 := ∅

def RebalancePlan.refuse (plan : RebalancePlan) (code : ReasonCode) :
    RebalancePlan :=
  { plan with
    refusals := plan.refusals.insert code (plan.refusals.getD code 0 + 1) }

/-- One iteration of the candidate loop of a rebalance. -/
def surveyAlternative (s : Impl) (flow : FlowDescriptor)
    (assignment : Assignment) (instant : Timestamp)
    (state : List RankedCandidate × RebalancePlan)
    (entry : TargetId × TargetState) : List RankedCandidate × RebalancePlan :=
  if entry.1 = assignment.target then state
  else
    let evaluated := s.evaluateTargetLocked flow entry.2 instant
    if evaluated.1 ≠ ReasonCode.ok then
      (state.1, state.2.refuse evaluated.1)
    else
      match keyFor evaluated.2 false (preferredDomain s.policy) with
      | none => (state.1, state.2.refuse .rejectedPolicyCostClass)
      | some key => (state.1 ++ [⟨key, evaluated.2⟩], state.2)

/-- The proposal for a flow whose current utilisation is known. -/
def proposeMove (s : Impl) (flow : FlowDescriptor) (currentPpm : UInt32)
    (ranked : List RankedCandidate) (plan : RebalancePlan) : RebalancePlan :=
  match sortRanked ranked with
  | [] => plan
  | best :: _ =>
      if best.key.domainRank ≠ 0 && !fallbackAllowed s.policy
          (preferredDomain s.policy) best.view.domain then
        plan.refuse .rejectedPolicyForbidsDomain
      else if best.view.utilisationPpm ≥ currentPpm then plan
      else
        let improvement := currentPpm - best.view.utilisationPpm
        if improvement < s.policy.minImprovementPpm then plan
        else
          { plan with
            proposals := plan.proposals ++
              [{ flow := flow.flow
                 generation := flow.generation
                 improvement := improvement
                 target := best.view.target
                 incarnation := best.view.incarnation
                 capability := best.view.capabilityGeneration
                 domain := best.view.domain }] }

/-- One iteration of the loop over the committed assignments. -/
def considerAssignment (s : Impl) (instant : Timestamp) (plan : RebalancePlan)
    (entry : FlowId × Assignment) : RebalancePlan :=
  let plan := { plan with considered := plan.considered + 1 }
  match s.flows[entry.1]? with
  | none => plan
  | some flow =>
      if flow.pinned then plan.refuse .rejectedMigrationNotPermitted
      else if !flow.allowMigration && !s.policy.allowMigration then
        plan.refuse .rejectedMigrationNotPermitted
      else
        match s.targets[entry.2.target]? with
        | none => plan.refuse .rejectedUnknownTarget
        | some current =>
            let load := s.effectiveLoadLocked current instant
            if !load.known then plan.refuse load.reason
            else
              match aggregateUtilisationPpm load.used
                  current.descriptor.capacity with
              | none => plan.refuse .rejectedCapacityUnknown
              | some (currentPpm, _) =>
                  let surveyed := s.targets.toList.foldl
                    (s.surveyAlternative flow entry.2 instant) ([], plan)
                  s.proposeMove flow currentPpm surveyed.1 surveyed.2

/-- Larger improvements first, ties by flow identity. -/
def sortProposals (proposals : List Proposal) : List Proposal :=
  canonicalSort
    (fun a b =>
      if b.improvement ≠ a.improvement then b.improvement > a.improvement
      else b.flow < a.flow)
    proposals

def rebalanceLimit (s : Impl) (request : RebalanceRequest) : Nat :=
  let requested := if request.maxMigrations = 0 then
    s.policy.maxRebalanceMigrations.toNat
    else min request.maxMigrations.toNat s.policy.maxRebalanceMigrations.toNat
  let inFlight := s.migrationsInFlightLocked
  min (min requested s.config.maxRebalanceMigrations)
    (s.config.maxMigrations - inFlight)

def plannedIntent (s : Impl) (request : RebalanceRequest)
    (proposal : Proposal) : MigrationIntent :=
  let intent : MigrationIntent :=
    { flow := proposal.flow
      flowGeneration := proposal.generation
      destinationTarget := proposal.target
      destinationIncarnation := proposal.incarnation
      destinationCapabilityGeneration := proposal.capability
      policyGeneration := s.policyGeneration
      scheduleGeneration := s.scheduleGeneration
      epoch := s.epoch
      boot := s.boot
      phase := .planned
      issuedAt := request.evaluationInstant }
  match s.assignments[proposal.flow]? with
  | none => intent
  | some assignment =>
      { intent with
        sourceAssignment := assignment.assignment
        sourceTarget := assignment.target
        sourceIncarnation := assignment.incarnation
        sourceCapabilityGeneration := assignment.capabilityGeneration }

def rebalanceReport (s : Impl) (request : RebalanceRequest)
    (plan : RebalancePlan) : RebalanceReport :=
  let proposals := sortProposals plan.proposals
  let limit := s.rebalanceLimit request
  let chosen := proposals.take limit
  let eligible := UInt32.ofNat proposals.length
  let selected := UInt32.ofNat chosen.length
  let truncated := eligible - selected
  let status : ReasonCode := if chosen.isEmpty then .acceptedNoChangeRequired
    else .acceptedRebalanceBounded
  { request := request.request
    dryRun := request.dryRun
    status := status
    scheduleGeneration := s.scheduleGeneration
    considered := plan.considered
    eligible := eligible
    selected := selected
    truncated := truncated
    intents := chosen.map (s.plannedIntent request)
    refusalSummary := refusalSummary plan.refusals
    explanation := {
      primary := status
      policyGeneration := s.policyGeneration
      scheduleGeneration := s.scheduleGeneration
      topologyGeneration := s.topologyGeneration
      epoch := s.epoch
      boot := s.boot
      evaluationInstant := request.evaluationInstant
      accepted := addStep [] .acceptedRebalanceBounded
        plan.considered.toUInt64 selected.toUInt64 "considered/selected"
      refused := addStep [] .rejectedMigrationLimitReached
        truncated.toUInt64 limit.toUInt64 "truncated/limit" } }

def countRebalance (s : Impl) (report : RebalanceReport) : Impl :=
  { s with
    counters.rebalancesExecuted :=
      saturatingIncrement s.counters.rebalancesExecuted
    counters.rebalancesSelected :=
      saturatingAdd s.counters.rebalancesSelected report.selected.toUInt64
    counters.rebalancesTruncated :=
      if report.truncated > 0 then
        saturatingAdd s.counters.rebalancesTruncated report.truncated.toUInt64
      else s.counters.rebalancesTruncated }

def rebalanceLocked (s : Impl) (request : RebalanceRequest) (answer : Status) :
    Impl × RebalanceReport :=
  let refused : RebalanceReport :=
    { request := request.request, dryRun := request.dryRun }
  if !s.isOpen then (s, { refused with status := .rejectedShuttingDown })
  else if !request.evaluationInstant.isSet then
    (s, { refused with status := .rejectedMissingEvidence })
  else if !s.policyPresent then
    (s, { refused with status := .rejectedMissingEvidence })
  else
    let plan := s.assignments.toList.foldl
      (s.considerAssignment request.evaluationInstant) {}
    let report := s.rebalanceReport request plan
    let counted := s.countRebalance report
    if request.dryRun then (counted, report)
    else ((counted.persistLocked answer).1, report)

end Impl

end FlowOffload
