import FlowOffload.Engine.Run
import FlowOffload.Foundation.OrdMap

/-!
# How an observation is received

`ingest_load` checks an observation in front, against its target and against
what the target holds.  `Receives` says which of its endings rests on what, so
that no other proof has to walk through the checks again.
-/

namespace FlowOffload

open Foundation

namespace Impl

variable {s : Impl} {evidence : LoadEvidence}

/-- The source has a watermark above the observation. -/
def outrun (s : Impl) (evidence : LoadEvidence) : Bool :=
  (s.watermarks[evidence.source]?).any fun mark =>
    evidence.sourceSequence < mark.sequence

/-- An observation that passes the checks in front, about a known target. -/
structure Matches (s : Impl) (evidence : LoadEvidence) (target : TargetState) :
    Prop where
  isOpen : s.isOpen = true
  named : (!evidence.target.isValid || !evidence.source.isValid ||
    !evidence.sourceSequence.isValid) = false
  observed : evidence.state ≠ .unknown
  known : lookup s.targets evidence.target = some target
  incarnation : evidence.incarnation = target.descriptor.incarnation
  capability : evidence.capabilityGeneration =
    target.descriptor.capabilityGeneration
  fresh : s.outrun evidence = false

instance (s : Impl) (evidence : LoadEvidence) (target : TargetState) :
    Decidable (s.Matches evidence target) :=
  decidable_of_iff (s.isOpen = true ∧ (!evidence.target.isValid ||
      !evidence.source.isValid || !evidence.sourceSequence.isValid) = false ∧
      evidence.state ≠ .unknown ∧
      lookup s.targets evidence.target = some target ∧
      evidence.incarnation = target.descriptor.incarnation ∧
      evidence.capabilityGeneration =
        target.descriptor.capabilityGeneration ∧ s.outrun evidence = false)
    ⟨fun ⟨h₁, h₂, h₃, h₄, h₅, h₆, h₇⟩ => ⟨h₁, h₂, h₃, h₄, h₅, h₆, h₇⟩,
      fun h => ⟨h.isOpen, h.named, h.observed, h.known, h.incarnation,
        h.capability, h.fresh⟩⟩

/-- The target holds a report of that source under that sequence. -/
def holds (target : TargetState) (evidence : LoadEvidence) : Bool :=
  target.hasLoad && target.load.source = evidence.source &&
    evidence.sourceSequence = target.load.sourceSequence

/-- The target holds a report of a later instant. -/
def predates (target : TargetState) (evidence : LoadEvidence) : Bool :=
  target.hasLoad && evidence.observedAt < target.load.observedAt

def agrees (target : TargetState) (evidence : LoadEvidence) : Bool :=
  evidence.state = target.load.state &&
    evidence.utilized = target.load.utilized

/-- There is room for the watermark of the source. -/
def hasRoomFor (s : Impl) (evidence : LoadEvidence) : Bool :=
  !(s.watermarks.size ≥ s.config.maxEvidenceSources &&
    !s.watermarks.contains evidence.source)

/-- How the engine receives an observation. -/
inductive Receives (s : Impl) (evidence : LoadEvidence) :
    Impl × Status → Prop where
  | refused (code : ReasonCode) (rejects : code.isAcceptance = false) :
      Receives s evidence (s, .refused code)
  | rejected (code : ReasonCode) (rejects : code.isAcceptance = false) :
      Receives s evidence (s.rejectEvidence code)
  | repeated {target : TargetState} (matched : s.Matches evidence target)
      (stored : holds target evidence = true)
      (same : evidence = target.load) :
      Receives s evidence
        ({ s with
            counters.evidenceIdempotent :=
              saturatingIncrement s.counters.evidenceIdempotent },
          .accepted .acceptedIdempotentReplay)
  | outOfOrder {target : TargetState} (matched : s.Matches evidence target)
      (unstored : holds target evidence = false)
      (older : predates target evidence = true) :
      Receives s evidence (s.ingestOutOfOrder target evidence)
  | recorded {target : TargetState} (matched : s.Matches evidence target)
      (unstored : holds target evidence = false)
      (notOlder : predates target evidence = false)
      (room : s.hasRoomFor evidence = true) :
      Receives s evidence (s.recordEvidence target evidence)

theorem receives_ingestLoad (s : Impl) (evidence : LoadEvidence) :
    s.Receives evidence (s.ingestLoad evidence) := by
  unfold ingestLoad
  by_cases hopen : (!s.isOpen) = true
  · rw [if_pos hopen]
    exact .refused _ rfl
  by_cases hnamed : (!evidence.target.isValid || !evidence.source.isValid ||
      !evidence.sourceSequence.isValid) = true
  · rw [if_neg hopen, if_pos hnamed]
    exact .refused _ rfl
  by_cases hobserved : evidence.state = .unknown
  · rw [if_neg hopen, if_neg hnamed, if_pos hobserved]
    exact .refused _ rfl
  rw [if_neg hopen, if_neg hnamed, if_neg hobserved]
  cases hknown : s.targets[evidence.target]? with
  | none => exact .refused _ rfl
  | some target =>
      dsimp only
      by_cases hincarnation :
          evidence.incarnation ≠ target.descriptor.incarnation
      · rw [if_pos hincarnation]
        exact .refused _ rfl
      rw [if_neg hincarnation]
      by_cases hcapability : evidence.capabilityGeneration ≠
          target.descriptor.capabilityGeneration
      · rw [if_pos hcapability]
        exact .refused _ rfl
      rw [if_neg hcapability]
      by_cases hreplayed : ((s.watermarks[evidence.source]?).any fun mark =>
          evidence.sourceSequence < mark.sequence) = true
      · rw [if_pos hreplayed]
        exact .rejected _ rfl
      rw [if_neg hreplayed]
      -- every check in front is passed
      have hmatched : s.Matches evidence target :=
        ⟨by simpa using hopen, by simpa using hnamed, hobserved, hknown,
          not_not.mp hincarnation, not_not.mp hcapability,
          Bool.not_eq_true _ ▸ hreplayed⟩
      by_cases hstored : (target.hasLoad &&
          target.load.source = evidence.source &&
          evidence.sourceSequence = target.load.sourceSequence) = true
      · rw [if_pos hstored]
        by_cases hsame : evidence = target.load
        · rw [if_pos hsame]
          exact .repeated hmatched hstored hsame
        · rw [if_neg hsame]
          exact .rejected _ rfl
      rw [if_neg hstored]
      have hunstored : holds target evidence = false :=
        Bool.not_eq_true _ ▸ hstored
      by_cases holder : (target.hasLoad &&
          evidence.observedAt < target.load.observedAt) = true
      · rw [if_pos holder]
        exact .outOfOrder hmatched hunstored holder
      rw [if_neg holder]
      have hnotOlder : predates target evidence = false :=
        Bool.not_eq_true _ ▸ holder
      by_cases hfull : (s.watermarks.size ≥ s.config.maxEvidenceSources &&
          !s.watermarks.contains evidence.source) = true
      · rw [if_pos hfull]
        exact .refused _ rfl
      rw [if_neg hfull]
      have hroom : s.hasRoomFor evidence = true := by
        rw [hasRoomFor, Bool.not_eq_true', ← Bool.not_eq_true]
        exact hfull
      exact .recorded hmatched hunstored hnotOlder hroom

/-- Receiving an observation touches nothing but the targets, the watermarks
and the accounting. -/
theorem ingestLoad_frame (s : Impl) (evidence : LoadEvidence) :
    ∃ targets watermarks counters, (s.ingestLoad evidence).1 =
      { s with
        targets := targets
        watermarks := watermarks
        counters := counters } := by
  have hreceived := receives_ingestLoad s evidence
  generalize s.ingestLoad evidence = after at hreceived ⊢
  cases hreceived with
  | refused | rejected | repeated | recorded => exact ⟨_, _, _, rfl⟩
  | @outOfOrder target =>
      unfold ingestOutOfOrder
      split
      · exact ⟨_, _, _, rfl⟩
      · exact ⟨_, _, _, rfl⟩

end Impl
end FlowOffload
