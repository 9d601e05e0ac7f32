import FlowOffload.Engine.Evidence

/-!
# How an observation is taken

The checks in front of an observation, and what each of the ways to take it
rests on.
-/

namespace FlowOffload

open Foundation

namespace Impl

variable {s t : Impl} {evidence : LoadEvidence}

theorem Counted.targets (h : s.Counted t) : t.targets = s.targets := by
  obtain ⟨_, _, rfl⟩ := h
  rfl

/-- How an observation ends. -/
inductive Takes (s : Impl) (evidence : LoadEvidence) : Impl × Status → Prop where
  | refused {after : Impl × Status} (refused : after.2.ok = false)
      (counted : s.Counted after.1) : Takes s evidence after
  | repeated {after : Impl × Status} {target : TargetState}
      (matched : s.Matches evidence target)
      (stored : holds target evidence = true)
      (same : evidence = target.load) (accepted : after.2.ok = true)
      (targets : after.1.targets = s.targets) : Takes s evidence after
  | agreed {after : Impl × Status} {target : TargetState}
      (matched : s.Matches evidence target)
      (unstored : holds target evidence = false)
      (older : predates target evidence = true)
      (agreed : agrees target evidence = true) (accepted : after.2.ok = true)
      (targets : after.1.targets = s.targets) : Takes s evidence after
  | recorded {after : Impl × Status} {target : TargetState}
      (matched : s.Matches evidence target)
      (unstored : holds target evidence = false)
      (notOlder : predates target evidence = false)
      (room : s.hasRoomFor evidence = true) (accepted : after.2.ok = true)
      (targets : after.1.targets = s.targets.insert evidence.target
        (mergeEvidence target evidence)) : Takes s evidence after

theorem takes_ingestLoad (s : Impl) (evidence : LoadEvidence) :
    s.Takes evidence (s.ingestLoad evidence) := by
  have hreceived := receives_ingestLoad s evidence
  generalize s.ingestLoad evidence = after at hreceived ⊢
  cases hreceived with
  | refused code rejects => exact .refused rejects ⟨_, _, rfl⟩
  | rejected code rejects => exact .refused rejects ⟨_, _, rfl⟩
  | repeated matched stored same => exact .repeated matched stored same rfl rfl
  | @outOfOrder target matched unstored older =>
      unfold ingestOutOfOrder
      split
      next hagrees => exact .agreed matched unstored older hagrees rfl rfl
      next => exact .refused rfl ⟨_, _, rfl⟩
  | recorded matched unstored notOlder room =>
      exact .recorded matched unstored notOlder room rfl rfl

/-- An observation that matches its target and is not held by it is accepted,
unless it is older and differs or there is no room for its source. -/
theorem accepts_of_matches {target : TargetState}
    (h : s.Matches evidence target)
    (hunstored : holds target evidence = false)
    (hagrees : predates target evidence = true →
      agrees target evidence = true)
    (hroom : predates target evidence = false →
      s.hasRoomFor evidence = true) :
    (s.ingestLoad evidence).2.ok = true := by
  have hreplayed : ((s.watermarks[evidence.source]?).any fun mark =>
      evidence.sourceSequence < mark.sequence) = false := h.fresh
  have hknown : s.targets[evidence.target]? = some target := h.known
  unfold ingestLoad
  rw [h.isOpen, h.named, if_neg (by simp), if_neg (by simp),
    if_neg h.observed, hknown]
  dsimp only
  rw [if_neg (not_not.mpr h.incarnation), if_neg (not_not.mpr h.capability),
    hreplayed, if_neg (by simp)]
  unfold holds at hunstored
  rw [hunstored, if_neg (by simp)]
  cases hpredates : predates target evidence with
  | true =>
      have holder := hpredates
      have hsame := hagrees hpredates
      unfold predates at holder
      unfold agrees at hsame
      rw [holder, if_pos rfl, ingestOutOfOrder, hsame]
      rfl
  | false =>
      have hnotOlder := hpredates
      have hfits := hroom hpredates
      unfold predates at hnotOlder
      rw [hasRoomFor, Bool.not_eq_true'] at hfits
      rw [hnotOlder, if_neg (by simp), hfits]
      rfl

end Impl

end FlowOffload
