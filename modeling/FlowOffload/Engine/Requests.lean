import FlowOffload.Engine.Placement
import FlowOffload.Model.RoundTrip

/-!
# Requests on the wire

The canonical form of placement and rebalance requests.  Their decoders refuse
one thing more than a list that is too long: a number of alternatives or
migrations above the bound of the engine.
-/

namespace FlowOffload

open Foundation

def PlacementItem.decode : CanonicalReader PlacementItem := do
  let flow ← readId
  let flowGeneration ← readId
  return ⟨flow, flowGeneration⟩

def PlacementRequest.encode (v : PlacementRequest) : Bytes :=
  writeId v.request ++ writeList PlacementItem.encode v.items ++
    v.evaluationInstant.encode ++ writeId v.policyGeneration ++
    writeId v.baseScheduleGeneration ++ writeU32 v.maxAlternatives ++
    writeBoolean v.dryRun

def PlacementRequest.decode : CanonicalReader PlacementRequest := do
  let request ← readId
  let items ← readList PlacementItem.decode kMaxFlows
  let evaluationInstant ← Timestamp.decode
  let policyGeneration ← readId
  let baseScheduleGeneration ← readId
  let maxAlternatives ← readU32
  let dryRun ← readBoolean
  if maxAlternatives > kMaxAlternatives then
    Reader.reject .rejectedOversizedInput
  return ⟨request, items, evaluationInstant, policyGeneration,
    baseScheduleGeneration, maxAlternatives, dryRun⟩

def RebalanceRequest.encode (v : RebalanceRequest) : Bytes :=
  writeId v.request ++ v.evaluationInstant.encode ++
    writeU32 v.maxMigrations ++ writeBoolean v.dryRun

def RebalanceRequest.decode : CanonicalReader RebalanceRequest := do
  let request ← readId
  let evaluationInstant ← Timestamp.decode
  let maxMigrations ← readU32
  let dryRun ← readBoolean
  if maxMigrations.toNat > kMaxRebalanceMigrations then
    Reader.reject .rejectedOversizedInput
  return ⟨request, evaluationInstant, maxMigrations, dryRun⟩

variable {bytes rest : Bytes}

theorem decodePlacementItem_ok_iff {v : PlacementItem} :
    PlacementItem.decode.run bytes = .ok (v, rest) ↔
      bytes = v.encode ++ rest := by
  cases v
  simp [PlacementItem.decode, PlacementItem.encode,
    Reader.run_bind_ok_iff, readId_ok_iff, -StateT.run_bind, -bind_pure_comp]

theorem decodePlacementRequest_ok_iff {v : PlacementRequest} :
    PlacementRequest.decode.run bytes = .ok (v, rest) ↔
      (v.items.length ≤ kMaxFlows ∧ v.maxAlternatives ≤ kMaxAlternatives) ∧
        bytes = v.encode ++ rest := by
  cases v
  simp only [PlacementRequest.decode, Reader.run_bind_ok_iff,
    Reader.run_check_ok_iff]
  simp [PlacementRequest.encode, readId_ok_iff, decodeTimestamp_ok_iff,
    readU32_ok_iff, readBoolean_ok_iff,
    readList_ok_iff_of_total (fun _ _ _ => decodePlacementItem_ok_iff)
      (show kMaxFlows < 2 ^ 32 by decide),
    -StateT.run_bind, -bind_pure_comp, -Bool.exists_bool]
  constructor
  · rintro ⟨hbytes, hitems, halternatives⟩
    exact ⟨⟨hitems, halternatives⟩, hbytes⟩
  · rintro ⟨⟨hitems, halternatives⟩, hbytes⟩
    exact ⟨hbytes, hitems, halternatives⟩

theorem decodeRebalanceRequest_ok_iff {v : RebalanceRequest} :
    RebalanceRequest.decode.run bytes = .ok (v, rest) ↔
      v.maxMigrations.toNat ≤ kMaxRebalanceMigrations ∧
        bytes = v.encode ++ rest := by
  cases v
  simp only [RebalanceRequest.decode, Reader.run_bind_ok_iff,
    Reader.run_check_ok_iff]
  simp [RebalanceRequest.encode, readId_ok_iff, decodeTimestamp_ok_iff,
    readU32_ok_iff, readBoolean_ok_iff, -StateT.run_bind, -bind_pure_comp,
    -Bool.exists_bool, and_comm]

end FlowOffload
