import FlowOffload.Engine.Ingestion
import FlowOffload.Laws.Declared
import FlowOffload.Laws.Grants

/-!
# Refused operations

Every check of an operation stands in front of its first change.  What is
refused is counted, and nothing else; only a commit that the store refuses
comes after the change it should have kept.
-/

namespace FlowOffload

open Foundation

namespace Impl

variable {s : Impl} {op : Op}

/-- The operation was refused because the store refused its commit. -/
structure FailsToPersist (s : Impl) (op : Op) : Prop where
  enabled : s.config.persistenceEnabled = true
  handed : (s.step op).submitted ≠ s.submitted
  answered : ∃ answer ∈ op.decision, answer.ok = false

/-! ## Operations that commit nothing -/

theorem counted_ingestLoad {evidence : LoadEvidence}
    (hrefused : (s.ingestLoad evidence).2.ok = false) :
    s.Counted (s.ingestLoad evidence).1 := by
  have htakes := takes_ingestLoad s evidence
  cases htakes with
  | refused refused counted => exact counted
  | repeated matched stored same accepted =>
      exact absurd (hrefused.symm.trans accepted) (by decide)
  | agreed matched unstored older agreed accepted =>
      exact absurd (hrefused.symm.trans accepted) (by decide)
  | recorded matched unstored notOlder room accepted =>
      exact absurd (hrefused.symm.trans accepted) (by decide)

theorem counted_authorize {recommendation : RecommendationId}
    {instant : Timestamp}
    (hrefused : (s.authorize recommendation instant).2.1.ok = false) :
    s.Counted (s.authorize recommendation instant).1 := by
  unfold authorize at hrefused ⊢
  split
  · exact .refl s
  next hopen =>
    rw [if_neg hopen] at hrefused
    split
    · exact ⟨_, _, rfl⟩
    next rec hrec =>
      rw [hrec] at hrefused
      dsimp only at hrefused
      split
      · exact ⟨_, _, rfl⟩
      next hnone =>
        rw [hnone] at hrefused
        cases hrefused

theorem revokeAuthorization_of_refused {authorization : AuthorizationId}
    (hrefused : (s.revokeAuthorization authorization).2.ok = false) :
    (s.revokeAuthorization authorization).1 = s := by
  unfold revokeAuthorization at hrefused ⊢
  split
  · rfl
  next hopen =>
    rw [if_neg hopen] at hrefused
    split
    · rfl
    next stored hstored =>
      rw [hstored] at hrefused
      dsimp only at hrefused
      split
      · rfl
      next hgranted =>
        rw [if_neg hgranted] at hrefused
        cases hrefused

theorem rebalanceLocked_of_refused {request : RebalanceRequest}
    {answer : Status}
    (hrefused : (s.rebalanceLocked request answer).2.status.isAcceptance =
      false) :
    (s.rebalanceLocked request answer).1 = s := by
  have haccepted : ∀ plan : RebalancePlan,
      (s.rebalanceReport request plan).status.isAcceptance = true := by
    intro plan
    unfold rebalanceReport
    dsimp only
    split <;> rfl
  unfold rebalanceLocked at hrefused ⊢
  dsimp only at hrefused ⊢
  split
  · rfl
  next hopen =>
    rw [if_neg hopen] at hrefused
    split
    · rfl
    next hinstant =>
      rw [if_neg hinstant] at hrefused
      split
      · rfl
      next hpolicy =>
        rw [if_neg hpolicy] at hrefused
        split at hrefused
        all_goals
          rw [haccepted] at hrefused
          cases hrefused

/-! ## Operations that end with a commit -/

/-- A commit that is refused was handed to the store. -/
theorem failsToPersist_of_committed {t : Impl} {answer : Status}
    (hdecision : op.decision = some answer) (hstays : s.Settles t)
    (hstep : s.step op = (t.persistLocked answer).1)
    (hrefused : (t.persistLocked answer).2.ok = false) :
    s.FailsToPersist op := by
  have himage := submitted_persistLocked t answer
  rcases himage with ⟨hdisabled, -⟩ | ⟨henabled, image, hhanded, -, -, heq⟩
  · unfold persistLocked at hrefused
    rw [hdisabled] at hrefused
    cases hrefused
  · refine ⟨hstays.config ▸ henabled, ?_, answer, hdecision, ?_⟩
    · rw [hstep, hhanded, hstays.submitted]
      exact List.cons_ne_self image s.submitted
    · rw [← heq]
      exact hrefused

theorem counted_of_decision (hkeyed : s.ledger.Keyed) {answer : Status}
    (hdecision : op.decision = some answer) (hrefused : s.accepted op = false) :
    s.Counted (s.step op) ∨ s.FailsToPersist op := by
  have hends := ends_step hkeyed.attempt hdecision
  have hfails := @failsToPersist_of_committed s op
  generalize s.step op = after at hends hfails ⊢
  generalize s.accepted op = accepted at hends hrefused
  cases hends with
  | refused counted => exact Or.inl counted
  | committed stays targets change =>
      exact Or.inr (hfails hdecision stays rfl hrefused)
  | repeated | redeclared | placed => cases hrefused

/-- A dry run commits nothing, whatever it reports. -/
theorem counted_of_dryRun {request : PlacementRequest} (answer : Status)
    (hdry : request.dryRun = true) :
    s.Counted (s.placeLocked request answer).1 := by
  rcases placeLocked_cases s request answer with hcounted | ⟨hexecutes, -⟩
  · exact hcounted
  · simp [executes, hdry] at hexecutes

theorem counted_of_refused (hkeyed : s.ledger.Keyed)
    (hwithin : op.within = true) (hrefused : s.accepted op = false) :
    s.Counted (s.step op) ∨ s.FailsToPersist op := by
  have hdecides := @counted_of_decision s op hkeyed
  cases op with
  | ingestLoad evidence => exact Or.inl (counted_ingestLoad hrefused)
  | authorize recommendation instant =>
      exact Or.inl (counted_authorize hrefused)
  | revokeAuthorization authorization =>
      have hsame := revokeAuthorization_of_refused hrefused
      rw [step, hsame]
      exact Or.inl (.refl s)
  | rebalance request answer =>
      have hsame := rebalanceLocked_of_refused hrefused
      rw [step, hsame]
      exact Or.inl (.refl s)
  | place request answer =>
      cases hdry : request.dryRun with
      | true => exact Or.inl (counted_of_dryRun answer hdry)
      | false =>
          exact @hdecides answer (by simp [Op.decision, hdry]) hrefused
  | openEngine | shutdown | restart => cases hwithin
  | _ => exact hdecides rfl hrefused

/--
In every reachable state an operation that is refused, but for a commit that
the store refused, changes no more than counters and refusal counts.
-/
theorem refused_operations_change_nothing (config : EngineConfig)
    (inputs : List Op)
    (h : engine.Admits (fun _ _ => True) (init config []) inputs) (op : Op)
    (hwithin : op.within = true)
    (hrefused : (engine.run (init config []) inputs).accepted op = false)
    (hpersists : ¬ (engine.run (init config []) inputs).FailsToPersist op) :
    ∃ counters refusalCounts,
      (engine.run (init config []) inputs).step op =
        { engine.run (init config []) inputs with
          counters := counters
          refusalCounts := refusalCounts } := by
  rcases counted_of_refused (keyed_of_run h) hwithin hrefused with
    hcounted | hfails
  · exact hcounted
  · exact absurd hfails hpersists

/-- A request under a policy that is not in force. -/
def outOfPolicy : Op :=
  .place { sampleRequest 2 1 [1] with policyGeneration := ⟨9⟩ } committed

theorem out_of_policy_changes_nothing :
    ∃ counters refusalCounts,
      (engine.run (init sampleConfig []) twinSetup).step outOfPolicy =
        { engine.run (init sampleConfig []) twinSetup with
          counters := counters
          refusalCounts := refusalCounts } := by
  refine refused_operations_change_nothing sampleConfig twinSetup
    (by decide +kernel) outOfPolicy rfl (by decide +kernel) ?_
  intro hfails
  exact absurd hfails.enabled (by decide +kernel)

end Impl

end FlowOffload
