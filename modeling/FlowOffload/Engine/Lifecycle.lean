import FlowOffload.Engine.Effect
import FlowOffload.Engine.Ingest
import FlowOffload.Engine.Rebalance

/-!
# Restart, opening and shutdown

`restoreLocked` rebuilds the engine from a recovered state and fences whatever
was in flight.  `openEngine` takes what `Store::open` found as an argument.
-/

namespace FlowOffload

open Std (ExtTreeMap)

/-- What `Store::open` reported and recovered. -/
structure StoreOpening where
  report : RecoveryReport := {}
  state : Option DurableState := none
  deriving DecidableEq, Repr, Inhabited

namespace Impl

/-- A map filled from a list of records, later records replacing earlier. -/
def indexBy {κ ν : Type} [Ord κ] [Std.TransOrd κ] (key : ν → κ)
    (values : List ν) : ExtTreeMap κ ν :=
  values.foldl (fun entries value => entries.insert (key value) value) ∅

def largest (values : List UInt64) : UInt64 := values.foldl max 0

/-- The maps of a recovered state; nothing in them is declared or active. -/
def loadState (s : Impl) (state : DurableState) : Impl :=
  { s with
    epoch := state.epoch
    boot := state.boot
    policy := state.policy
    policyPresent := state.policyPresent
    policyGeneration := state.policy.generation
    scheduleGeneration := state.scheduleGeneration
    topologyGeneration := state.topologyGeneration
    counters := state.counters
    flows := indexBy FlowDescriptor.flow state.flows
    targets := indexBy (fun target => target.descriptor.target)
      (state.targets.map fun descriptor => { descriptor := descriptor })
    assignments := indexBy Assignment.flow
      (state.assignments.map durableAssignment)
    contracts := indexBy MigrationContract.id state.contracts
    migrations := indexBy (fun record => record.intent.attempt)
      state.migrations
    fences := indexBy FenceRecord.id
      (state.fences.map fun fence => { fence with active := false })
    watermarks := indexBy SourceWatermark.source state.watermarks
    requests := indexBy RequestRecord.request state.requests
    refusalCounts := state.refusalCounts.foldl
      (fun counts count => counts.insert count.code count.count) ∅
    recommendations := ∅
    authorizations := ∅ }

/-- The id counters continue after the largest recovered identity. -/
def resumeCounters (s : Impl) : Impl :=
  { s with
    nextAssignment := saturatingIncrement
      (largest (s.assignments.toList.map fun entry => entry.2.assignment.value))
    nextAttempt := saturatingIncrement
      (largest (s.migrations.toList.map fun entry =>
        entry.2.intent.attempt.value))
    nextFence := saturatingIncrement
      (largest (s.fences.toList.map fun entry => entry.2.id.value))
    nextRecommendation := 1
    nextAuthorization := 1 }

def restoreLocked (s : Impl) (state : DurableState) : Impl :=
  let rebuilt := (s.loadState state).resumeCounters.rebuildHoldersLocked
  (rebuilt.recomputeScheduledLocked.fenceAttempts (fun _ => true)
    .rejectedFencedByRestart).mapHolders fun holder =>
      { holder with handoffPending := false, pendingAttempt := {} }

/-- The recovery report of an engine without persistence. -/
def memoryRecovery : RecoveryReport :=
  { kind := .emptyStore
    code := .recoveryEmptyStore
    usable := true
    detail := "persistence is disabled; state is in memory only" }

def enterIncarnation (s : Impl) (epoch : CoordinatorEpoch)
    (previousBoot : BootId) : Impl :=
  { s with
    epoch := epoch
    boot := if s.config.bootIdOverride.isValid then s.config.bootIdOverride
      else deriveBootId previousBoot epoch
    counters.restarts := saturatingIncrement s.counters.restarts }

/-- Authority granted before the restart is fenced, and the report says so. -/
def fencePrevious (s : Impl) (previousBoot : BootId) : Impl :=
  if previousBoot.isValid then
    let fenced := s.fenceAllActiveLocked {}
    if fenced.recovery.usable then
      { fenced with
        recovery.detail :=
          fenced.recovery.detail ++ "; pre-restart authority fenced" }
    else fenced
  else s

/-- The new incarnation, once the previous epoch and boot are known. -/
def startIncarnation (s : Impl) (previousEpoch : CoordinatorEpoch)
    (previousBoot : BootId) (answer : Status) : Impl × Status :=
  if previousEpoch.value = 0xFFFFFFFFFFFFFFFF then
    (s, .refused .rejectedInternalInvariant)
  else
    let entered := s.enterIncarnation ⟨previousEpoch.value + 1⟩ previousBoot
    let fenced := entered.fencePrevious previousBoot
    match { fenced with isOpen := true }.persistLocked answer with
    | (opened, result) =>
        if result.failed then ({ opened with isOpen := false }, result)
        else (opened, result)

def openEngine (s : Impl) (opening : StoreOpening) (answer : Status) :
    Impl × Status :=
  if s.isOpen then (s, .accepted .acceptedNoChangeRequired)
  else if !s.config.persistenceEnabled then
    { s with recovery := memoryRecovery }.startIncarnation {} {} answer
  else
    let recovered := { s with recovery := opening.report }
    if !opening.report.usable then (recovered, .refused opening.report.code)
    else
      match opening.state with
      | none => recovered.startIncarnation {} {} answer
      | some state =>
          (recovered.restoreLocked state).startIncarnation state.epoch
            state.boot answer

/-- A clean shutdown commits and compacts; both states reach the store. -/
def shutdown (s : Impl) (answer : Status) : Impl :=
  if s.isOpen && s.config.persistenceEnabled then
    let persisted := (s.persistLocked answer).1
    { persisted with
      submitted := persisted.buildDurableLocked :: persisted.submitted
      isOpen := false }
  else { s with isOpen := false }

end Impl

end FlowOffload
