import FlowOffload.Service.JsonWriter
import FlowOffload.Store.Recovery

/-!
# Stable names

The names that exports use for the values of the enumerations.  The name of a
reason code is its enumerator.
-/

namespace FlowOffload

open Foundation

/-- The overloads of `to_string` over the enumerations. -/
class Named (E : Type) where
  name : E → String

def toText {E : Type} [Named E] (value : E) : Bytes := utf8 (Named.name value)

instance : Named ExecutionDomain where
  name
    | .host => "host"
    | .offloadDevice => "offload-device"
    | .unknown => "unknown"

instance : Named TargetKind where
  name
    | .hostKernelPath => "host-kernel-path"
    | .hostUserspacePath => "host-userspace-path"
    | .nicHardwareOffload => "nic-hardware-offload"
    | .smartNic => "smartnic"
    | .dpu => "dpu"
    | .unknown => "unknown"

instance : Named TargetLifecycle where
  name
    | .discovered => "discovered"
    | .ready => "ready"
    | .degraded => "degraded"
    | .draining => "draining"
    | .quiesced => "quiesced"
    | .removed => "removed"
    | .unknown => "unknown"

instance : Named Statefulness where
  name
    | .stateless => "stateless"
    | .stateful => "stateful"
    | .unknown => "unknown"

instance : Named CostClass where
  name
    | .economy => "economy"
    | .standard => "standard"
    | .premium => "premium"
    | .scarce => "scarce"
    | .unknown => "unknown"

instance : Named LoadModel where
  name
    | .observedOnly => "observed-only"
    | .scheduledOnly => "scheduled-only"
    | .sumConservative => "sum-conservative"
    | .maximumOfBoth => "maximum-of-both"
    | .unknown => "unknown"

instance : Named EvidenceState where
  name
    | .known => "known"
    | .unsupported => "unsupported"
    | .conflicting => "conflicting"
    | .stale => "stale"
    | .unknown => "unknown"

instance : Named DomainPreference where
  name
    | .hostFirst => "host-first"
    | .offloadFirst => "offload-first"
    | .hostOnly => "host-only"
    | .offloadOnly => "offload-only"
    | .unknown => "unknown"

instance : Named FallbackPolicy where
  name
    | .forbid => "forbid"
    | .allowHostFallback => "allow-host-fallback"
    | .allowOffloadFallback => "allow-offload-fallback"
    | .allowAnyFallback => "allow-any-fallback"
    | .unknown => "unknown"

instance : Named LocalityKind where
  name
    | .sameHostAsFlow => "same-host-as-flow"
    | .sameDeviceAsFlow => "same-device-as-flow"
    | .none => "none"

instance : Named EffectState where
  name
    | .intentIssued => "intent-issued"
    | .acknowledged => "acknowledged"
    | .applied => "applied"
    | .verified => "verified"
    | .unknown => "unknown"

instance : Named MigrationPhase where
  name
    | .planned => "planned"
    | .intentIssued => "intent-issued"
    | .sourceAcknowledged => "source-acknowledged"
    | .destinationAcknowledged => "destination-acknowledged"
    | .effectApplied => "effect-applied"
    | .effectVerified => "effect-verified"
    | .completed => "completed"
    | .aborted => "aborted"
    | .fenced => "fenced"
    | .unknown => "unknown"

instance : Named RecoveryKind where
  name
    | .emptyStore => "empty-store"
    | .cleanReopen => "clean-reopen"
    | .tornTailTruncated => "torn-tail-truncated"
    | .journalReplayed => "journal-replayed"
    | .snapshotOnly => "snapshot-only"
    | .journalOnly => "journal-only"
    | .corrupt => "corrupt"
    | .incompatibleVersion => "incompatible-version"
    | .semanticsMismatch => "semantics-mismatch"
    | .oversized => "oversized"
    | .unavailable => "unavailable"

instance : Named ReasonCode where
  name
    | .ok => "Ok"
    | .rejectedMalformedInput => "RejectedMalformedInput"
    | .rejectedOversizedInput => "RejectedOversizedInput"
    | .rejectedTruncatedInput => "RejectedTruncatedInput"
    | .rejectedCorruptInput => "RejectedCorruptInput"
    | .rejectedDuplicateIdentity => "RejectedDuplicateIdentity"
    | .rejectedConflictingDuplicate => "RejectedConflictingDuplicate"
    | .rejectedUnknownFlow => "RejectedUnknownFlow"
    | .rejectedUnknownTarget => "RejectedUnknownTarget"
    | .rejectedUnknownFunction => "RejectedUnknownFunction"
    | .rejectedUnknownCapability => "RejectedUnknownCapability"
    | .rejectedEmptyRequest => "RejectedEmptyRequest"
    | .rejectedTooManyEntries => "RejectedTooManyEntries"
    | .rejectedUnsupportedVersion => "RejectedUnsupportedVersion"
    | .rejectedNonCanonicalEncoding => "RejectedNonCanonicalEncoding"
    | .rejectedStaleFlowGeneration => "RejectedStaleFlowGeneration"
    | .rejectedStaleCapabilityGeneration => "RejectedStaleCapabilityGeneration"
    | .rejectedStaleTopologyGeneration => "RejectedStaleTopologyGeneration"
    | .rejectedStalePolicyGeneration => "RejectedStalePolicyGeneration"
    | .rejectedStaleScheduleGeneration => "RejectedStaleScheduleGeneration"
    | .rejectedStaleIncarnation => "RejectedStaleIncarnation"
    | .rejectedStaleEvidence => "RejectedStaleEvidence"
    | .rejectedFutureGeneration => "RejectedFutureGeneration"
    | .rejectedMissingEvidence => "RejectedMissingEvidence"
    | .rejectedReplayedEvidence => "RejectedReplayedEvidence"
    | .rejectedOutOfOrderEvidence => "RejectedOutOfOrderEvidence"
    | .rejectedConflictingEvidence => "RejectedConflictingEvidence"
    | .rejectedUnknownEvidenceSource => "RejectedUnknownEvidenceSource"
    | .rejectedUnsupportedTarget => "RejectedUnsupportedTarget"
    | .rejectedUnsupportedFunction => "RejectedUnsupportedFunction"
    | .rejectedUnsupportedCapability => "RejectedUnsupportedCapability"
    | .rejectedTargetLifecycleUnknown => "RejectedTargetLifecycleUnknown"
    | .rejectedTargetNotReady => "RejectedTargetNotReady"
    | .rejectedTargetDraining => "RejectedTargetDraining"
    | .rejectedTargetRemoved => "RejectedTargetRemoved"
    | .rejectedTargetDegraded => "RejectedTargetDegraded"
    | .rejectedTargetQuiesced => "RejectedTargetQuiesced"
    | .rejectedPolicyForbidsDomain => "RejectedPolicyForbidsDomain"
    | .rejectedPolicyForbidsHost => "RejectedPolicyForbidsHost"
    | .rejectedPolicyForbidsDevice => "RejectedPolicyForbidsDevice"
    | .rejectedPolicyCostClass => "RejectedPolicyCostClass"
    | .rejectedPolicyFunctionNotAllowed => "RejectedPolicyFunctionNotAllowed"
    | .rejectedPolicyHeadroom => "RejectedPolicyHeadroom"
    | .rejectedNoEligibleTarget => "RejectedNoEligibleTarget"
    | .rejectedIncompatibleTarget => "RejectedIncompatibleTarget"
    | .rejectedAffinityUnsatisfiable => "RejectedAffinityUnsatisfiable"
    | .rejectedCapacityInsufficient => "RejectedCapacityInsufficient"
    | .rejectedCapacityUnknown => "RejectedCapacityUnknown"
    | .rejectedCapacityOverSubscribed => "RejectedCapacityOverSubscribed"
    | .rejectedCapacityOverflow => "RejectedCapacityOverflow"
    | .rejectedFenceActive => "RejectedFenceActive"
    | .rejectedFencedByRestart => "RejectedFencedByRestart"
    | .rejectedFencedBySupersession => "RejectedFencedBySupersession"
    | .rejectedStaleCoordinatorEpoch => "RejectedStaleCoordinatorEpoch"
    | .rejectedStaleBootId => "RejectedStaleBootId"
    | .rejectedAuthorizationMissing => "RejectedAuthorizationMissing"
    | .rejectedAuthorizationSuperseded => "RejectedAuthorizationSuperseded"
    | .rejectedConflictingAuthority => "RejectedConflictingAuthority"
    | .rejectedExclusiveStateConflict => "RejectedExclusiveStateConflict"
    | .rejectedRecommendationMismatch => "RejectedRecommendationMismatch"
    | .rejectedStatefulMigrationUnsafe => "RejectedStatefulMigrationUnsafe"
    | .rejectedMigrationContractMissing => "RejectedMigrationContractMissing"
    | .rejectedMigrationContractMismatch => "RejectedMigrationContractMismatch"
    | .rejectedMigrationAlreadyInFlight => "RejectedMigrationAlreadyInFlight"
    | .rejectedMigrationNotPermitted => "RejectedMigrationNotPermitted"
    | .rejectedMigrationSourceBusy => "RejectedMigrationSourceBusy"
    | .rejectedMigrationAttemptUnknown => "RejectedMigrationAttemptUnknown"
    | .rejectedMigrationAttemptTerminal => "RejectedMigrationAttemptTerminal"
    | .rejectedMigrationAckOutOfOrder => "RejectedMigrationAckOutOfOrder"
    | .rejectedMigrationAckDuplicate => "RejectedMigrationAckDuplicate"
    | .rejectedMigrationEffectBeforeAck => "RejectedMigrationEffectBeforeAck"
    | .rejectedMigrationVerificationMismatch =>
        "RejectedMigrationVerificationMismatch"
    | .rejectedMigrationSameTarget => "RejectedMigrationSameTarget"
    | .rejectedMigrationLimitReached => "RejectedMigrationLimitReached"
    | .rejectedMigrationFenced => "RejectedMigrationFenced"
    | .acceptedHostPlacement => "AcceptedHostPlacement"
    | .acceptedOffloadPlacement => "AcceptedOffloadPlacement"
    | .acceptedStickyRetention => "AcceptedStickyRetention"
    | .acceptedFallbackToHost => "AcceptedFallbackToHost"
    | .acceptedFallbackToOffload => "AcceptedFallbackToOffload"
    | .acceptedWithoutLoadEvidence => "AcceptedWithoutLoadEvidence"
    | .acceptedNoChangeRequired => "AcceptedNoChangeRequired"
    | .acceptedRecommendationIssued => "AcceptedRecommendationIssued"
    | .acceptedAuthorizationGranted => "AcceptedAuthorizationGranted"
    | .acceptedMigrationIntentIssued => "AcceptedMigrationIntentIssued"
    | .acceptedSourceAckRecorded => "AcceptedSourceAckRecorded"
    | .acceptedDestinationAckRecorded => "AcceptedDestinationAckRecorded"
    | .acceptedAppliedEffectRecorded => "AcceptedAppliedEffectRecorded"
    | .acceptedVerifiedEffectRecorded => "AcceptedVerifiedEffectRecorded"
    | .acceptedMigrationCompleted => "AcceptedMigrationCompleted"
    | .acceptedMigrationAborted => "AcceptedMigrationAborted"
    | .acceptedRebalanceBounded => "AcceptedRebalanceBounded"
    | .acceptedIdempotentReplay => "AcceptedIdempotentReplay"
    | .acceptedTargetRegistered => "AcceptedTargetRegistered"
    | .acceptedTargetUpdated => "AcceptedTargetUpdated"
    | .acceptedTargetRemoved => "AcceptedTargetRemoved"
    | .acceptedEvidenceRecorded => "AcceptedEvidenceRecorded"
    | .acceptedPolicyApplied => "AcceptedPolicyApplied"
    | .acceptedFlowRegistered => "AcceptedFlowRegistered"
    | .acceptedFlowUpdated => "AcceptedFlowUpdated"
    | .acceptedCancelled => "AcceptedCancelled"
    | .acceptedDrained => "AcceptedDrained"
    | .acceptedSchedulePublished => "AcceptedSchedulePublished"
    | .acceptedMigrationSuperseded => "AcceptedMigrationSuperseded"
    | .recoveryCleanReopen => "RecoveryCleanReopen"
    | .recoveryTornTailTruncated => "RecoveryTornTailTruncated"
    | .recoveryJournalReplayed => "RecoveryJournalReplayed"
    | .recoverySnapshotOnly => "RecoverySnapshotOnly"
    | .recoveryJournalOnly => "RecoveryJournalOnly"
    | .recoveryEmptyStore => "RecoveryEmptyStore"
    | .recoveryIncompatibleVersion => "RecoveryIncompatibleVersion"
    | .recoverySemanticsMismatch => "RecoverySemanticsMismatch"
    | .recoveryCorruptSnapshot => "RecoveryCorruptSnapshot"
    | .recoveryCorruptJournal => "RecoveryCorruptJournal"
    | .recoveryTruncatedSnapshot => "RecoveryTruncatedSnapshot"
    | .recoveryOversizedRecord => "RecoveryOversizedRecord"
    | .recoveryFencedPreRestartAuthority => "RecoveryFencedPreRestartAuthority"
    | .recoveryEpochAdvanced => "RecoveryEpochAdvanced"
    | .recoveryCompacted => "RecoveryCompacted"
    | .recoveryEvidenceDiscarded => "RecoveryEvidenceDiscarded"
    | .persistCommitted => "PersistCommitted"
    | .persistCommitFailed => "PersistCommitFailed"
    | .persistNotConfigured => "PersistNotConfigured"
    | .persistRotationRequired => "PersistRotationRequired"
    | .protocolOk => "ProtocolOk"
    | .protocolUnsupportedVersion => "ProtocolUnsupportedVersion"
    | .protocolMalformedFrame => "ProtocolMalformedFrame"
    | .protocolOversizedFrame => "ProtocolOversizedFrame"
    | .protocolUnknownOperation => "ProtocolUnknownOperation"
    | .protocolBackpressure => "ProtocolBackpressure"
    | .protocolShuttingDown => "ProtocolShuttingDown"
    | .protocolConnectionLimit => "ProtocolConnectionLimit"
    | .protocolTruncatedFrame => "ProtocolTruncatedFrame"
    | .protocolIoError => "ProtocolIoError"
    | .protocolNotConnected => "ProtocolNotConnected"
    | .rejectedCancelled => "RejectedCancelled"
    | .rejectedShuttingDown => "RejectedShuttingDown"
    | .acceptedShutdownRequested => "AcceptedShutdownRequested"
    | .rejectedResourceExhausted => "RejectedResourceExhausted"
    | .rejectedQueueFull => "RejectedQueueFull"
    | .rejectedWorkerLimit => "RejectedWorkerLimit"
    | .rejectedHistoryLimit => "RejectedHistoryLimit"
    | .rejectedInternalInvariant => "RejectedInternalInvariant"
    | .rejectedNotSupported => "RejectedNotSupported"
    | .rejectedStoreUnavailable => "RejectedStoreUnavailable"
    | .rejectedLockUnavailable => "RejectedLockUnavailable"

end FlowOffload
