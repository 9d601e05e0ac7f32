import Mathlib.Data.List.Basic
import FlowOffload.Model.Identity

/-!
# Stable reason codes

The numeric value of a reason code is persisted, exported and transported.
`reasonTable` lists the defined codes in declaration order; a wire value that
is not in the table never denotes a code.
-/

namespace FlowOffload

inductive ReasonCode where
  | ok | rejectedMalformedInput | rejectedOversizedInput
  | rejectedTruncatedInput | rejectedCorruptInput | rejectedDuplicateIdentity
  | rejectedConflictingDuplicate | rejectedUnknownFlow
  | rejectedUnknownTarget | rejectedUnknownFunction
  | rejectedUnknownCapability | rejectedEmptyRequest | rejectedTooManyEntries
  | rejectedUnsupportedVersion | rejectedNonCanonicalEncoding
  | rejectedStaleFlowGeneration | rejectedStaleCapabilityGeneration
  | rejectedStaleTopologyGeneration | rejectedStalePolicyGeneration
  | rejectedStaleScheduleGeneration | rejectedStaleIncarnation
  | rejectedStaleEvidence | rejectedFutureGeneration
  | rejectedMissingEvidence | rejectedReplayedEvidence
  | rejectedOutOfOrderEvidence | rejectedConflictingEvidence
  | rejectedUnknownEvidenceSource | rejectedUnsupportedTarget
  | rejectedUnsupportedFunction | rejectedUnsupportedCapability
  | rejectedTargetLifecycleUnknown | rejectedTargetNotReady
  | rejectedTargetDraining | rejectedTargetRemoved | rejectedTargetDegraded
  | rejectedTargetQuiesced | rejectedPolicyForbidsDomain
  | rejectedPolicyForbidsHost | rejectedPolicyForbidsDevice
  | rejectedPolicyCostClass | rejectedPolicyFunctionNotAllowed
  | rejectedPolicyHeadroom | rejectedNoEligibleTarget
  | rejectedIncompatibleTarget | rejectedAffinityUnsatisfiable
  | rejectedCapacityInsufficient | rejectedCapacityUnknown
  | rejectedCapacityOverSubscribed | rejectedCapacityOverflow
  | rejectedFenceActive | rejectedFencedByRestart
  | rejectedFencedBySupersession | rejectedStaleCoordinatorEpoch
  | rejectedStaleBootId | rejectedAuthorizationMissing
  | rejectedAuthorizationSuperseded | rejectedConflictingAuthority
  | rejectedExclusiveStateConflict | rejectedRecommendationMismatch
  | rejectedStatefulMigrationUnsafe | rejectedMigrationContractMissing
  | rejectedMigrationContractMismatch | rejectedMigrationAlreadyInFlight
  | rejectedMigrationNotPermitted | rejectedMigrationSourceBusy
  | rejectedMigrationAttemptUnknown | rejectedMigrationAttemptTerminal
  | rejectedMigrationAckOutOfOrder | rejectedMigrationAckDuplicate
  | rejectedMigrationEffectBeforeAck | rejectedMigrationVerificationMismatch
  | rejectedMigrationSameTarget | rejectedMigrationLimitReached
  | rejectedMigrationFenced | acceptedHostPlacement
  | acceptedOffloadPlacement | acceptedStickyRetention
  | acceptedFallbackToHost | acceptedFallbackToOffload
  | acceptedWithoutLoadEvidence | acceptedNoChangeRequired
  | acceptedRecommendationIssued | acceptedAuthorizationGranted
  | acceptedMigrationIntentIssued | acceptedSourceAckRecorded
  | acceptedDestinationAckRecorded | acceptedAppliedEffectRecorded
  | acceptedVerifiedEffectRecorded | acceptedMigrationCompleted
  | acceptedMigrationAborted | acceptedRebalanceBounded
  | acceptedIdempotentReplay | acceptedTargetRegistered
  | acceptedTargetUpdated | acceptedTargetRemoved | acceptedEvidenceRecorded
  | acceptedPolicyApplied | acceptedFlowRegistered | acceptedFlowUpdated
  | acceptedCancelled | acceptedDrained | acceptedSchedulePublished
  | acceptedMigrationSuperseded | recoveryCleanReopen
  | recoveryTornTailTruncated | recoveryJournalReplayed
  | recoverySnapshotOnly | recoveryJournalOnly | recoveryEmptyStore
  | recoveryIncompatibleVersion | recoverySemanticsMismatch
  | recoveryCorruptSnapshot | recoveryCorruptJournal
  | recoveryTruncatedSnapshot | recoveryOversizedRecord
  | recoveryFencedPreRestartAuthority | recoveryEpochAdvanced
  | recoveryCompacted | recoveryEvidenceDiscarded | persistCommitted
  | persistCommitFailed | persistNotConfigured | persistRotationRequired
  | protocolOk | protocolUnsupportedVersion | protocolMalformedFrame
  | protocolOversizedFrame | protocolUnknownOperation | protocolBackpressure
  | protocolShuttingDown | protocolConnectionLimit | protocolTruncatedFrame
  | protocolIoError | protocolNotConnected | rejectedCancelled
  | rejectedShuttingDown | acceptedShutdownRequested
  | rejectedResourceExhausted | rejectedQueueFull | rejectedWorkerLimit
  | rejectedHistoryLimit | rejectedInternalInvariant | rejectedNotSupported
  | rejectedStoreUnavailable | rejectedLockUnavailable
  deriving DecidableEq, Repr, Inhabited

namespace ReasonCode

/-- Numeric value; the machine-readable identity of the code. -/
def reasonValue : ReasonCode → UInt32
  | .ok => 0
  | .rejectedMalformedInput => 100
  | .rejectedOversizedInput => 101
  | .rejectedTruncatedInput => 102
  | .rejectedCorruptInput => 103
  | .rejectedDuplicateIdentity => 104
  | .rejectedConflictingDuplicate => 105
  | .rejectedUnknownFlow => 106
  | .rejectedUnknownTarget => 107
  | .rejectedUnknownFunction => 108
  | .rejectedUnknownCapability => 109
  | .rejectedEmptyRequest => 110
  | .rejectedTooManyEntries => 111
  | .rejectedUnsupportedVersion => 112
  | .rejectedNonCanonicalEncoding => 113
  | .rejectedStaleFlowGeneration => 120
  | .rejectedStaleCapabilityGeneration => 121
  | .rejectedStaleTopologyGeneration => 122
  | .rejectedStalePolicyGeneration => 123
  | .rejectedStaleScheduleGeneration => 124
  | .rejectedStaleIncarnation => 125
  | .rejectedStaleEvidence => 126
  | .rejectedFutureGeneration => 127
  | .rejectedMissingEvidence => 130
  | .rejectedReplayedEvidence => 131
  | .rejectedOutOfOrderEvidence => 132
  | .rejectedConflictingEvidence => 133
  | .rejectedUnknownEvidenceSource => 134
  | .rejectedUnsupportedTarget => 150
  | .rejectedUnsupportedFunction => 151
  | .rejectedUnsupportedCapability => 152
  | .rejectedTargetLifecycleUnknown => 153
  | .rejectedTargetNotReady => 154
  | .rejectedTargetDraining => 155
  | .rejectedTargetRemoved => 156
  | .rejectedTargetDegraded => 157
  | .rejectedTargetQuiesced => 158
  | .rejectedPolicyForbidsDomain => 160
  | .rejectedPolicyForbidsHost => 161
  | .rejectedPolicyForbidsDevice => 162
  | .rejectedPolicyCostClass => 163
  | .rejectedPolicyFunctionNotAllowed => 164
  | .rejectedPolicyHeadroom => 165
  | .rejectedNoEligibleTarget => 166
  | .rejectedIncompatibleTarget => 167
  | .rejectedAffinityUnsatisfiable => 168
  | .rejectedCapacityInsufficient => 200
  | .rejectedCapacityUnknown => 201
  | .rejectedCapacityOverSubscribed => 202
  | .rejectedCapacityOverflow => 203
  | .rejectedFenceActive => 250
  | .rejectedFencedByRestart => 251
  | .rejectedFencedBySupersession => 252
  | .rejectedStaleCoordinatorEpoch => 253
  | .rejectedStaleBootId => 254
  | .rejectedAuthorizationMissing => 255
  | .rejectedAuthorizationSuperseded => 256
  | .rejectedConflictingAuthority => 257
  | .rejectedExclusiveStateConflict => 258
  | .rejectedRecommendationMismatch => 259
  | .rejectedStatefulMigrationUnsafe => 300
  | .rejectedMigrationContractMissing => 301
  | .rejectedMigrationContractMismatch => 302
  | .rejectedMigrationAlreadyInFlight => 303
  | .rejectedMigrationNotPermitted => 304
  | .rejectedMigrationSourceBusy => 305
  | .rejectedMigrationAttemptUnknown => 306
  | .rejectedMigrationAttemptTerminal => 307
  | .rejectedMigrationAckOutOfOrder => 308
  | .rejectedMigrationAckDuplicate => 309
  | .rejectedMigrationEffectBeforeAck => 310
  | .rejectedMigrationVerificationMismatch => 311
  | .rejectedMigrationSameTarget => 312
  | .rejectedMigrationLimitReached => 313
  | .rejectedMigrationFenced => 314
  | .acceptedHostPlacement => 400
  | .acceptedOffloadPlacement => 401
  | .acceptedStickyRetention => 402
  | .acceptedFallbackToHost => 403
  | .acceptedFallbackToOffload => 404
  | .acceptedWithoutLoadEvidence => 405
  | .acceptedNoChangeRequired => 406
  | .acceptedRecommendationIssued => 407
  | .acceptedAuthorizationGranted => 408
  | .acceptedMigrationIntentIssued => 409
  | .acceptedSourceAckRecorded => 410
  | .acceptedDestinationAckRecorded => 411
  | .acceptedAppliedEffectRecorded => 412
  | .acceptedVerifiedEffectRecorded => 413
  | .acceptedMigrationCompleted => 414
  | .acceptedMigrationAborted => 415
  | .acceptedRebalanceBounded => 416
  | .acceptedIdempotentReplay => 417
  | .acceptedTargetRegistered => 418
  | .acceptedTargetUpdated => 419
  | .acceptedTargetRemoved => 420
  | .acceptedEvidenceRecorded => 421
  | .acceptedPolicyApplied => 422
  | .acceptedFlowRegistered => 423
  | .acceptedFlowUpdated => 424
  | .acceptedCancelled => 425
  | .acceptedDrained => 426
  | .acceptedSchedulePublished => 427
  | .acceptedMigrationSuperseded => 428
  | .recoveryCleanReopen => 500
  | .recoveryTornTailTruncated => 501
  | .recoveryJournalReplayed => 502
  | .recoverySnapshotOnly => 503
  | .recoveryJournalOnly => 504
  | .recoveryEmptyStore => 505
  | .recoveryIncompatibleVersion => 506
  | .recoverySemanticsMismatch => 507
  | .recoveryCorruptSnapshot => 508
  | .recoveryCorruptJournal => 509
  | .recoveryTruncatedSnapshot => 510
  | .recoveryOversizedRecord => 511
  | .recoveryFencedPreRestartAuthority => 512
  | .recoveryEpochAdvanced => 513
  | .recoveryCompacted => 514
  | .recoveryEvidenceDiscarded => 515
  | .persistCommitted => 520
  | .persistCommitFailed => 521
  | .persistNotConfigured => 522
  | .persistRotationRequired => 523
  | .protocolOk => 600
  | .protocolUnsupportedVersion => 601
  | .protocolMalformedFrame => 602
  | .protocolOversizedFrame => 603
  | .protocolUnknownOperation => 604
  | .protocolBackpressure => 605
  | .protocolShuttingDown => 606
  | .protocolConnectionLimit => 607
  | .protocolTruncatedFrame => 608
  | .protocolIoError => 609
  | .protocolNotConnected => 610
  | .rejectedCancelled => 650
  | .rejectedShuttingDown => 651
  | .acceptedShutdownRequested => 652
  | .rejectedResourceExhausted => 900
  | .rejectedQueueFull => 901
  | .rejectedWorkerLimit => 902
  | .rejectedHistoryLimit => 903
  | .rejectedInternalInvariant => 904
  | .rejectedNotSupported => 905
  | .rejectedStoreUnavailable => 906
  | .rejectedLockUnavailable => 907

/-- Every defined code, in the order of the source table. -/
def reasonTable : List ReasonCode :=
  [.ok, .rejectedMalformedInput, .rejectedOversizedInput,
   .rejectedTruncatedInput, .rejectedCorruptInput, .rejectedDuplicateIdentity,
   .rejectedConflictingDuplicate, .rejectedUnknownFlow,
   .rejectedUnknownTarget, .rejectedUnknownFunction,
   .rejectedUnknownCapability, .rejectedEmptyRequest, .rejectedTooManyEntries,
   .rejectedUnsupportedVersion, .rejectedNonCanonicalEncoding,
   .rejectedStaleFlowGeneration, .rejectedStaleCapabilityGeneration,
   .rejectedStaleTopologyGeneration, .rejectedStalePolicyGeneration,
   .rejectedStaleScheduleGeneration, .rejectedStaleIncarnation,
   .rejectedStaleEvidence, .rejectedFutureGeneration,
   .rejectedMissingEvidence, .rejectedReplayedEvidence,
   .rejectedOutOfOrderEvidence, .rejectedConflictingEvidence,
   .rejectedUnknownEvidenceSource, .rejectedUnsupportedTarget,
   .rejectedUnsupportedFunction, .rejectedUnsupportedCapability,
   .rejectedTargetLifecycleUnknown, .rejectedTargetNotReady,
   .rejectedTargetDraining, .rejectedTargetRemoved, .rejectedTargetDegraded,
   .rejectedTargetQuiesced, .rejectedPolicyForbidsDomain,
   .rejectedPolicyForbidsHost, .rejectedPolicyForbidsDevice,
   .rejectedPolicyCostClass, .rejectedPolicyFunctionNotAllowed,
   .rejectedPolicyHeadroom, .rejectedNoEligibleTarget,
   .rejectedIncompatibleTarget, .rejectedAffinityUnsatisfiable,
   .rejectedCapacityInsufficient, .rejectedCapacityUnknown,
   .rejectedCapacityOverSubscribed, .rejectedCapacityOverflow,
   .rejectedFenceActive, .rejectedFencedByRestart,
   .rejectedFencedBySupersession, .rejectedStaleCoordinatorEpoch,
   .rejectedStaleBootId, .rejectedAuthorizationMissing,
   .rejectedAuthorizationSuperseded, .rejectedConflictingAuthority,
   .rejectedExclusiveStateConflict, .rejectedRecommendationMismatch,
   .rejectedStatefulMigrationUnsafe, .rejectedMigrationContractMissing,
   .rejectedMigrationContractMismatch, .rejectedMigrationAlreadyInFlight,
   .rejectedMigrationNotPermitted, .rejectedMigrationSourceBusy,
   .rejectedMigrationAttemptUnknown, .rejectedMigrationAttemptTerminal,
   .rejectedMigrationAckOutOfOrder, .rejectedMigrationAckDuplicate,
   .rejectedMigrationEffectBeforeAck, .rejectedMigrationVerificationMismatch,
   .rejectedMigrationSameTarget, .rejectedMigrationLimitReached,
   .rejectedMigrationFenced, .acceptedHostPlacement,
   .acceptedOffloadPlacement, .acceptedStickyRetention,
   .acceptedFallbackToHost, .acceptedFallbackToOffload,
   .acceptedWithoutLoadEvidence, .acceptedNoChangeRequired,
   .acceptedRecommendationIssued, .acceptedAuthorizationGranted,
   .acceptedMigrationIntentIssued, .acceptedSourceAckRecorded,
   .acceptedDestinationAckRecorded, .acceptedAppliedEffectRecorded,
   .acceptedVerifiedEffectRecorded, .acceptedMigrationCompleted,
   .acceptedMigrationAborted, .acceptedRebalanceBounded,
   .acceptedIdempotentReplay, .acceptedTargetRegistered,
   .acceptedTargetUpdated, .acceptedTargetRemoved, .acceptedEvidenceRecorded,
   .acceptedPolicyApplied, .acceptedFlowRegistered, .acceptedFlowUpdated,
   .acceptedCancelled, .acceptedDrained, .acceptedSchedulePublished,
   .acceptedMigrationSuperseded, .recoveryCleanReopen,
   .recoveryTornTailTruncated, .recoveryJournalReplayed,
   .recoverySnapshotOnly, .recoveryJournalOnly, .recoveryEmptyStore,
   .recoveryIncompatibleVersion, .recoverySemanticsMismatch,
   .recoveryCorruptSnapshot, .recoveryCorruptJournal,
   .recoveryTruncatedSnapshot, .recoveryOversizedRecord,
   .recoveryFencedPreRestartAuthority, .recoveryEpochAdvanced,
   .recoveryCompacted, .recoveryEvidenceDiscarded, .persistCommitted,
   .persistCommitFailed, .persistNotConfigured, .persistRotationRequired,
   .protocolOk, .protocolUnsupportedVersion, .protocolMalformedFrame,
   .protocolOversizedFrame, .protocolUnknownOperation, .protocolBackpressure,
   .protocolShuttingDown, .protocolConnectionLimit, .protocolTruncatedFrame,
   .protocolIoError, .protocolNotConnected, .rejectedCancelled,
   .rejectedShuttingDown, .acceptedShutdownRequested,
   .rejectedResourceExhausted, .rejectedQueueFull, .rejectedWorkerLimit,
   .rejectedHistoryLimit, .rejectedInternalInvariant, .rejectedNotSupported,
   .rejectedStoreUnavailable, .rejectedLockUnavailable]

def reasonCodeCount : Nat := reasonTable.length

/-- The cast of a wire value, defined only on the table. -/
def ofValue? (raw : UInt32) : Option ReasonCode :=
  reasonTable.find? fun code => code.reasonValue == raw

private theorem reasonTable_ctorIdx (code : ReasonCode) :
    reasonTable[code.ctorIdx]? = some code := by
  cases code <;> rfl

theorem mem_reasonTable (code : ReasonCode) : code ∈ reasonTable :=
  List.mem_of_getElem? (reasonTable_ctorIdx code)

private theorem ofValue?_of_mem :
    ∀ code ∈ reasonTable, ofValue? code.reasonValue = some code := by
  decide +kernel

@[simp] theorem ofValue?_reasonValue (code : ReasonCode) :
    ofValue? code.reasonValue = some code :=
  ofValue?_of_mem code (mem_reasonTable code)

theorem reasonValue_injective : Function.Injective reasonValue := by
  intro a b h
  have := congrArg ofValue? h
  simpa using this

private theorem reasonValue_le_of_mem :
    ∀ code ∈ reasonTable, code.reasonValue ≤ 0xFFFF := by
  decide +kernel

theorem reasonValue_le (code : ReasonCode) : code.reasonValue ≤ 0xFFFF :=
  reasonValue_le_of_mem code (mem_reasonTable code)

instance : Ord ReasonCode := ⟨fun a b => compare a.reasonValue b.reasonValue⟩

instance : Std.TransOrd ReasonCode where
  eq_swap := Std.OrientedOrd.eq_swap (α := UInt32)
  isLE_trans := Std.TransOrd.isLE_trans (α := UInt32)

instance : Std.LawfulEqOrd ReasonCode where
  compare_self := Std.ReflOrd.compare_self (α := UInt32)
  eq_of_compare h :=
    reasonValue_injective (Std.LawfulEqOrd.eq_of_compare (α := UInt32) h)

/--
The explicit whitelist of accepted outcomes.  Anything not listed classifies
as a failure.
-/
def isAcceptance (code : ReasonCode) : Bool :=
  let v := code.reasonValue
  if v = 0 || (400 ≤ v && v < 500) then true
  else
    match code with
    | .persistCommitted | .persistNotConfigured | .recoveryCompacted
    | .recoveryCleanReopen | .recoveryJournalReplayed
    | .recoverySnapshotOnly | .recoveryJournalOnly | .recoveryEmptyStore
    | .recoveryTornTailTruncated | .recoveryEpochAdvanced
    | .recoveryFencedPreRestartAuthority | .recoveryEvidenceDiscarded
    | .protocolOk | .acceptedShutdownRequested => true
    | _ => false

end ReasonCode

/--
A status is a reason code; whether it is accepted or refused is derived from
the code itself, whichever constructor built it.
-/
structure Status where
  code : ReasonCode := .ok
  deriving DecidableEq, Repr, Inhabited

namespace Status

def accepted (code : ReasonCode) : Status := ⟨code⟩

def refused (code : ReasonCode) : Status := ⟨code⟩

def ok (status : Status) : Bool := status.code.isAcceptance

def failed (status : Status) : Bool := !status.ok

end Status

end FlowOffload
