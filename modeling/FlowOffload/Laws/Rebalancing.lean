import FlowOffload.Engine.Decided
import FlowOffload.Laws.Declared
import FlowOffload.Laws.Exclusive

/-!
# Rebalance plans

What a rebalance proposes for one placed flow, and what the loops of the
source make of it for all of them.  A plan holds the best of these moves,
within every bound, and it changes nothing but the accounting.
-/

namespace FlowOffload

open Foundation
open Std (ExtTreeMap)

namespace Impl

variable {s : Impl} {instant : Timestamp}

/-! ## What is proposed for one flow -/

/-- How full a target is, where its load and its capacity are known. -/
def presentPpm (s : Impl) (target : TargetId) (instant : Timestamp) :
    Option UInt32 :=
  (s.targets[target]?).bind fun current =>
    let load := s.effectiveLoadLocked current instant
    if load.known then
      (aggregateUtilisationPpm load.used current.descriptor.capacity).map
        Prod.fst
    else none

/-- How full a target would be with a flow, where it takes the flow. -/
def projectedPpm (s : Impl) (flow : FlowId) (target : TargetId)
    (instant : Timestamp) : Option UInt32 :=
  (s.flows[flow]?).bind fun flow =>
    (s.targets[target]?).bind fun state =>
      let evaluated := s.evaluateTargetLocked flow state instant
      if evaluated.1 = .ok then some evaluated.2.utilisationPpm else none

def mayMigrate (s : Impl) (flow : FlowDescriptor) : Bool :=
  !flow.pinned && (flow.allowMigration || s.policy.allowMigration)

/-- The domain is preferred, or the policy falls back to it. -/
def admitsDomain (s : Impl) (domain : ExecutionDomain) : Bool :=
  domain = preferredDomain s.policy ||
    fallbackAllowed s.policy (preferredDomain s.policy) domain

/-- The candidate that another target is. -/
def alternativeOf (s : Impl) (flow : FlowDescriptor) (assignment : Assignment)
    (instant : Timestamp) (entry : TargetId × TargetState) :
    Option RankedCandidate :=
  let evaluated := s.evaluateTargetLocked flow entry.2 instant
  if entry.1 ≠ assignment.target ∧ evaluated.1 = .ok then
    (keyFor evaluated.2 false (preferredDomain s.policy)).map
      fun key => ⟨key, evaluated.2⟩
  else none

def alternatives (s : Impl) (flow : FlowDescriptor) (assignment : Assignment)
    (instant : Timestamp) : List RankedCandidate :=
  s.targets.toList.filterMap (s.alternativeOf flow assignment instant)

/-- The move to the best alternative, if it is admissible and improves. -/
def bestMove (s : Impl) (flow : FlowDescriptor) (currentPpm : UInt32)
    (ranked : List RankedCandidate) : Option Proposal :=
  (sortRanked ranked).head?.bind fun best =>
    if s.admitsDomain best.view.domain ∧
        best.view.utilisationPpm < currentPpm ∧
        s.policy.minImprovementPpm ≤ currentPpm - best.view.utilisationPpm then
      some
        { flow := flow.flow
          generation := flow.generation
          improvement := currentPpm - best.view.utilisationPpm
          target := best.view.target
          incarnation := best.view.incarnation
          capability := best.view.capabilityGeneration
          domain := best.view.domain }
    else none

def moveFor (s : Impl) (instant : Timestamp) (entry : FlowId × Assignment) :
    Option Proposal :=
  (s.flows[entry.1]?).bind fun flow =>
    if s.mayMigrate flow then
      (s.presentPpm entry.2.target instant).bind fun currentPpm =>
        s.bestMove flow currentPpm (s.alternatives flow entry.2 instant)
    else none

/-- Every move that a rebalance at an instant may choose from. -/
def eligibleMoves (s : Impl) (instant : Timestamp) : List Proposal :=
  s.assignments.toList.filterMap (s.moveFor instant)

/-! ## The loops -/

@[simp] theorem proposals_refuse (plan : RebalancePlan) (code : ReasonCode) :
    (plan.refuse code).proposals = plan.proposals := rfl

theorem surveyAlternative_eq (flow : FlowDescriptor) (assignment : Assignment)
    (state : List RankedCandidate × RebalancePlan)
    (entry : TargetId × TargetState) :
    (s.surveyAlternative flow assignment instant state entry).1 =
        state.1 ++ (s.alternativeOf flow assignment instant entry).toList ∧
      (s.surveyAlternative flow assignment instant state entry).2.proposals =
        state.2.proposals := by
  unfold surveyAlternative alternativeOf
  dsimp only
  split
  next hsame => simp [hsame]
  next hother =>
    split
    next hrefused => simp [hrefused]
    next hok =>
      rw [if_pos ⟨hother, not_not.mp hok⟩]
      split
      next hkey => simp [hkey]
      next key hkey => simp [hkey]

theorem foldl_surveyAlternative (flow : FlowDescriptor)
    (assignment : Assignment) (entries : List (TargetId × TargetState))
    (state : List RankedCandidate × RebalancePlan) :
    (entries.foldl (s.surveyAlternative flow assignment instant) state).1 =
        state.1 ++
          entries.filterMap (s.alternativeOf flow assignment instant) ∧
      (entries.foldl (s.surveyAlternative flow assignment instant)
        state).2.proposals = state.2.proposals := by
  induction entries generalizing state with
  | nil => simp
  | cons entry entries ih =>
      obtain ⟨hranked, hproposals⟩ :=
        @surveyAlternative_eq s instant flow assignment state entry
      rw [List.foldl_cons, (ih _).1, (ih _).2, hranked, hproposals]
      refine ⟨?_, rfl⟩
      rw [List.filterMap_cons, List.append_assoc]
      cases s.alternativeOf flow assignment instant entry with
      | none => rfl
      | some candidate => rfl

/-- The domain rank of a candidate is that of its domain. -/
theorem domainRank_of_keyFor {view : CandidateView} {sticky : Bool}
    {preferred : ExecutionDomain} {key : RankKey}
    (h : keyFor view sticky preferred = some key) :
    key.domainRank = if view.domain = preferred then 0 else 1 := by
  unfold keyFor at h
  split at h
  · cases h
  · cases h
    rfl

theorem proposals_proposeMove (flow : FlowDescriptor) (currentPpm : UInt32)
    {ranked : List RankedCandidate} (plan : RebalancePlan)
    (hkeys : ∀ candidate ∈ ranked, candidate.key.domainRank =
      if candidate.view.domain = preferredDomain s.policy then 0 else 1) :
    (s.proposeMove flow currentPpm ranked plan).proposals =
      plan.proposals ++ (s.bestMove flow currentPpm ranked).toList := by
  unfold proposeMove bestMove
  cases hsorted : sortRanked ranked with
  | nil => simp
  | cons best rest =>
      have hbest : best ∈ ranked := by
        rw [← mem_sortRanked, hsorted]
        exact List.mem_cons_self
      have hadmits : (best.key.domainRank ≠ 0 && !fallbackAllowed s.policy
          (preferredDomain s.policy) best.view.domain) =
            !s.admitsDomain best.view.domain := by
        rw [hkeys best hbest, admitsDomain]
        by_cases hpreferred : best.view.domain = preferredDomain s.policy
        · simp [hpreferred]
        · simp [hpreferred]
      simp only [hadmits, List.head?_cons, Option.bind_some]
      cases hdomain : s.admitsDomain best.view.domain with
      | false => simp
      | true =>
          by_cases hlower : best.view.utilisationPpm < currentPpm
          · have hnot : ¬ best.view.utilisationPpm ≥ currentPpm :=
              UInt32.not_le.mpr hlower
            by_cases henough : s.policy.minImprovementPpm ≤
                currentPpm - best.view.utilisationPpm
            · simp [hlower, hnot, henough, UInt32.not_lt.mpr henough]
            · simp [hlower, hnot, henough, UInt32.not_le.mp henough]
          · simp [hlower, UInt32.not_lt.mp hlower]

theorem moveFor_of_flow {entry : FlowId × Assignment} {flow : FlowDescriptor}
    (hflow : s.flows[entry.1]? = some flow) :
    s.moveFor instant entry = if s.mayMigrate flow then
      (s.presentPpm entry.2.target instant).bind fun currentPpm =>
        s.bestMove flow currentPpm (s.alternatives flow entry.2 instant)
      else none := by
  rw [moveFor, hflow, Option.bind_some]

theorem presentPpm_of_target {id : TargetId} {current : TargetState}
    (htarget : s.targets[id]? = some current) :
    s.presentPpm id instant =
      if (s.effectiveLoadLocked current instant).known then
        (aggregateUtilisationPpm (s.effectiveLoadLocked current instant).used
          current.descriptor.capacity).map Prod.fst
      else none := by
  rw [presentPpm, htarget, Option.bind_some]

theorem domainRank_of_alternative {flow : FlowDescriptor}
    {assignment : Assignment} {candidate : RankedCandidate}
    (h : candidate ∈ s.alternatives flow assignment instant) :
    candidate.key.domainRank =
      if candidate.view.domain = preferredDomain s.policy then 0 else 1 := by
  obtain ⟨entry, -, hcandidate⟩ := List.mem_filterMap.mp h
  unfold alternativeOf at hcandidate
  dsimp only at hcandidate
  split at hcandidate
  · obtain ⟨key, hkey, rfl⟩ := Option.map_eq_some_iff.mp hcandidate
    exact domainRank_of_keyFor hkey
  · cases hcandidate

theorem proposals_considerAssignment (plan : RebalancePlan)
    (entry : FlowId × Assignment) :
    (s.considerAssignment instant plan entry).proposals =
      plan.proposals ++ (s.moveFor instant entry).toList := by
  unfold considerAssignment
  dsimp only
  split
  next hflow =>
    rw [moveFor, hflow]
    simp
  next flow hflow =>
    rw [moveFor_of_flow hflow, mayMigrate]
    split
    next hpinned => simp [hpinned]
    next hpinned =>
      split
      next hmay => simp_all
      next hmay =>
        have hpermitted : (!flow.pinned &&
            (flow.allowMigration || s.policy.allowMigration)) = true := by
          cases hflowMay : flow.allowMigration <;> simp_all
        rw [if_pos hpermitted]
        split
        next htarget => simp [presentPpm, htarget]
        next current htarget =>
          rw [presentPpm_of_target htarget]
          split
          next hunknown => simp_all
          next hknown =>
            rw [if_pos (by simpa using hknown)]
            split
            next hppm => simp [hppm]
            next currentPpm saturated hppm =>
              obtain ⟨hranked, hproposals⟩ := @foldl_surveyAlternative s
                instant flow entry.2 s.targets.toList ([], { plan with
                  considered := plan.considered + 1 })
              rw [hppm, hranked, List.nil_append, proposals_proposeMove,
                hproposals]
              · rfl
              · exact fun candidate => domainRank_of_alternative

theorem foldl_considerAssignment (entries : List (FlowId × Assignment))
    (plan : RebalancePlan) :
    (entries.foldl (s.considerAssignment instant) plan).proposals =
      plan.proposals ++ entries.filterMap (s.moveFor instant) := by
  induction entries generalizing plan with
  | nil => simp
  | cons entry entries ih =>
      rw [List.foldl_cons, ih, proposals_considerAssignment,
        List.append_assoc, List.filterMap_cons]
      cases s.moveFor instant entry with
      | none => rfl
      | some move => rfl

/-! ## What a move rests on -/

/-- How much emptier the destination of an intent would be than its source
is. -/
def gain (s : Impl) (instant : Timestamp) (intent : MigrationIntent) : Nat :=
  ((s.presentPpm intent.sourceTarget instant).getD 0).toNat -
    ((s.projectedPpm intent.flow intent.destinationTarget instant).getD
      0).toNat

/-- An intent moves a placed flow to a target that takes it and is emptier. -/
structure Justified (s : Impl) (instant : Timestamp) (intent : MigrationIntent)
    (flow : FlowDescriptor) (assignment : Assignment)
    (destination : TargetState) : Prop where
  registered : lookup s.flows intent.flow = some flow
  unpinned : flow.pinned = false
  permitted : flow.allowMigration = true ∨ s.policy.allowMigration = true
  placed : lookup s.assignments intent.flow = some assignment
  source : intent.sourceAssignment = assignment.assignment ∧
    intent.sourceTarget = assignment.target ∧
    intent.sourceIncarnation = assignment.incarnation ∧
    intent.sourceCapabilityGeneration = assignment.capabilityGeneration
  other : intent.destinationTarget ≠ assignment.target
  known : lookup s.targets intent.destinationTarget = some destination
  evaluated : (s.evaluateTargetLocked flow destination instant).1 = .ok
  domain : s.admitsDomain destination.descriptor.domain = true
  improves : ∃ present,
    s.presentPpm assignment.target instant = some present ∧
      (s.evaluateTargetLocked flow destination
        instant).2.utilisationPpm.toNat +
          max 1 s.policy.minImprovementPpm.toNat ≤ present.toNat

/-- The same of a proposal, before it is written out as an intent. -/
structure Worthwhile (s : Impl) (instant : Timestamp) (move : Proposal)
    (flow : FlowDescriptor) (assignment : Assignment)
    (destination : TargetState) : Prop where
  registered : lookup s.flows move.flow = some flow
  unpinned : flow.pinned = false
  permitted : flow.allowMigration = true ∨ s.policy.allowMigration = true
  placed : lookup s.assignments move.flow = some assignment
  other : move.target ≠ assignment.target
  known : lookup s.targets move.target = some destination
  evaluated : (s.evaluateTargetLocked flow destination instant).1 = .ok
  domain : s.admitsDomain destination.descriptor.domain = true
  improves : ∃ present,
    s.presentPpm assignment.target instant = some present ∧
      (s.evaluateTargetLocked flow destination
        instant).2.utilisationPpm.toNat + move.improvement.toNat =
          present.toNat
  enough : max 1 s.policy.minImprovementPpm.toNat ≤ move.improvement.toNat

/-- What is known of an alternative. -/
theorem of_alternative (hkeyed : s.ledger.Keyed) {flow : FlowDescriptor}
    {assignment : Assignment} {candidate : RankedCandidate}
    (h : candidate ∈ s.alternatives flow assignment instant) :
    candidate.view.target ≠ assignment.target ∧
      ∃ destination, lookup s.targets candidate.view.target =
          some destination ∧
        s.evaluateTargetLocked flow destination instant =
          (.ok, candidate.view) ∧
        candidate.view.domain = destination.descriptor.domain := by
  obtain ⟨⟨id, destination⟩, hentry, hcandidate⟩ := List.mem_filterMap.mp h
  have hfound : lookup s.targets id = some destination :=
    lookup_eq_some_iff_mem_toList.mpr hentry
  have hdescribes :=
    describes_evaluateTargetLocked s flow destination instant
  unfold alternativeOf at hcandidate
  dsimp only at hcandidate
  split at hcandidate
  next hother =>
    obtain ⟨key, -, rfl⟩ := Option.map_eq_some_iff.mp hcandidate
    have hid : destination.descriptor.target = id :=
      hkeyed.target id _ (Option.map_eq_some_iff.mpr ⟨_, hfound, rfl⟩)
    have hview : (s.evaluateTargetLocked flow destination
        instant).2.target = id := hdescribes.target.trans hid
    change (s.evaluateTargetLocked flow destination instant).2.target ≠ _ ∧ _
    rw [hview]
    exact ⟨hother.1, destination, hfound, Prod.ext hother.2 rfl,
      hdescribes.domain⟩
  next => cases hcandidate

theorem worthwhile_of_moveFor (hkeyed : s.ledger.Keyed)
    {entry : FlowId × Assignment} {move : Proposal}
    (hentry : lookup s.assignments entry.1 = some entry.2)
    (h : s.moveFor instant entry = some move) : move.flow = entry.1 ∧
      ∃ flow destination,
        s.Worthwhile instant move flow entry.2 destination := by
  obtain ⟨flow, hflow, hmove⟩ := Option.bind_eq_some_iff.mp h
  have hfound : lookup s.flows entry.1 = some flow := hflow
  have hnamed : flow.flow = entry.1 := hkeyed.flow entry.1 flow hfound
  split at hmove
  next hmay =>
    obtain ⟨present, hpresent, hbest⟩ := Option.bind_eq_some_iff.mp hmove
    obtain ⟨best, hhead, hmoved⟩ := Option.bind_eq_some_iff.mp hbest
    have hmem : best ∈ s.alternatives flow entry.2 instant := by
      rw [← mem_sortRanked]
      exact List.mem_of_head? hhead
    obtain ⟨hother, destination, hknown, hevaluated, hdomain⟩ :=
      of_alternative hkeyed hmem
    split at hmoved
    next hchosen =>
      cases hmoved
      obtain ⟨hadmits, hlower, henough⟩ := hchosen
      simp only [mayMigrate, Bool.and_eq_true, Bool.not_eq_true',
        Bool.or_eq_true] at hmay
      have hle : best.view.utilisationPpm ≤ present :=
        UInt32.le_of_lt hlower
      have hsub := UInt32.toNat_sub_of_le present
        best.view.utilisationPpm hle
      rw [UInt32.lt_iff_toNat_lt] at hlower
      rw [UInt32.le_iff_toNat_le] at henough
      refine ⟨hnamed, flow, destination, ?_⟩
      constructor
      case registered => rw [hnamed, hfound]
      case unpinned => exact hmay.1
      case permitted => exact hmay.2
      case placed => rw [hnamed, hentry]
      case other => exact hother
      case known => exact hknown
      case evaluated => rw [hevaluated]
      case domain => rw [← hdomain, hadmits]
      case improves =>
        refine ⟨present, hpresent, ?_⟩
        rw [hevaluated]
        change best.view.utilisationPpm.toNat +
          (present - best.view.utilisationPpm).toNat = present.toNat
        omega
      case enough =>
        change _ ≤ (present - best.view.utilisationPpm).toNat
        omega
    next => cases hmoved
  next => cases hmove

theorem Worthwhile.justified {move : Proposal} {flow : FlowDescriptor}
    {assignment : Assignment} {destination : TargetState}
    (h : s.Worthwhile instant move flow assignment destination)
    {request : RebalanceRequest} :
    s.Justified instant (s.plannedIntent request move) flow assignment
        destination ∧
      s.gain instant (s.plannedIntent request move) =
        move.improvement.toNat := by
  have hplaced : s.assignments[move.flow]? = some assignment := h.placed
  have hflow : s.flows[move.flow]? = some flow := h.registered
  have htarget : s.targets[move.target]? = some destination := h.known
  have hintent : (s.plannedIntent request move).flow = move.flow ∧
      (s.plannedIntent request move).destinationTarget = move.target ∧
      (s.plannedIntent request move).sourceAssignment =
        assignment.assignment ∧
      (s.plannedIntent request move).sourceTarget = assignment.target ∧
      (s.plannedIntent request move).sourceIncarnation =
        assignment.incarnation ∧
      (s.plannedIntent request move).sourceCapabilityGeneration =
        assignment.capabilityGeneration := by
    unfold plannedIntent
    rw [hplaced]
    exact ⟨rfl, rfl, rfl, rfl, rfl, rfl⟩
  obtain ⟨hnamed, hdestination, hsource⟩ := hintent
  obtain ⟨present, hpresent, himproves⟩ := h.improves
  constructor
  · constructor
    case registered => rw [hnamed, h.registered]
    case unpinned => exact h.unpinned
    case permitted => exact h.permitted
    case placed => rw [hnamed, h.placed]
    case source => exact hsource
    case other => rw [hdestination]; exact h.other
    case known => rw [hdestination, h.known]
    case evaluated => exact h.evaluated
    case domain => exact h.domain
    case improves =>
      have henough := h.enough
      exact ⟨present, hpresent, by omega⟩
  · rw [gain, hnamed, hdestination, hsource.2.1, hpresent, projectedPpm,
      hflow, Option.bind_some, htarget, Option.bind_some,
      if_pos h.evaluated, Option.getD_some, Option.getD_some]
    omega

/-! ## The plan -/

/-- Where a move stands among the others: larger improvements first. -/
def Proposal.rank (move : Proposal) : Nat :=
  (2 ^ 32 - move.improvement.toNat) * 2 ^ 64 + move.flow.value.toNat

/-- The comparison that the moves are sorted by. -/
def Proposal.after (a b : Proposal) : Bool :=
  if b.improvement ≠ a.improvement then b.improvement > a.improvement
  else b.flow < a.flow

theorem Proposal.after_iff (a b : Proposal) :
    a.after b = true ↔ b.rank < a.rank := by
  have himprovement := a.improvement.toNat_lt
  have himprovement' := b.improvement.toNat_lt
  have hflow := a.flow.value.toNat_lt
  have hflow' := b.flow.value.toNat_lt
  unfold Proposal.after Proposal.rank
  simp only [ne_eq, ← UInt32.toNat_inj]
  split
  next hne =>
    rw [decide_eq_true_eq, gt_iff_lt, UInt32.lt_iff_toNat_lt]
    omega
  next heq =>
    rw [decide_eq_true_eq, TypedId.lt_iff_toNat_lt]
    omega

theorem ascending_sortProposals (moves : List Proposal) :
    Ascending Proposal.after (sortProposals moves) :=
  ascending_canonicalSort (IsPreorder.of_weight Proposal.after_iff) moves

/-- What is kept of a list with distinct keys has distinct keys. -/
theorem nodup_map_filterMap {α β κ : Type} {f : α → Option β} {key : α → κ}
    {name : β → κ} {l : List α} (hkeys : (l.map key).Nodup)
    (h : ∀ a ∈ l, ∀ b, f a = some b → name b = key a) :
    ((l.filterMap f).map name).Nodup := by
  induction l with
  | nil => exact List.nodup_nil
  | cons a l ih =>
      obtain ⟨hfresh, hrest⟩ := List.nodup_cons.mp hkeys
      have hih := ih hrest fun b hb => h b (List.mem_cons_of_mem _ hb)
      rw [List.filterMap_cons]
      cases hfa : f a with
      | none => exact hih
      | some b =>
          refine List.nodup_cons.mpr ⟨fun hmem => hfresh ?_, hih⟩
          obtain ⟨b', hb', hname⟩ := List.mem_map.mp hmem
          obtain ⟨a', ha', hfa'⟩ := List.mem_filterMap.mp hb'
          refine List.mem_map.mpr ⟨a', ha', ?_⟩
          rw [← h a' (List.mem_cons_of_mem _ ha') b' hfa', hname,
            h a List.mem_cons_self b hfa]

theorem nodup_eligibleMoves (hkeyed : s.ledger.Keyed) :
    ((s.eligibleMoves instant).map Proposal.flow).Nodup := by
  refine nodup_map_filterMap (nodup_fst_toList s.assignments) ?_
  intro entry hentry move hmove
  exact (worthwhile_of_moveFor hkeyed
    (lookup_eq_some_iff_mem_toList.mpr hentry) hmove).1

theorem worthwhile_of_eligible (hkeyed : s.ledger.Keyed) {move : Proposal}
    (h : move ∈ s.eligibleMoves instant) :
    ∃ flow assignment destination,
      s.Worthwhile instant move flow assignment destination := by
  obtain ⟨entry, hentry, hmove⟩ := List.mem_filterMap.mp h
  obtain ⟨-, flow, destination, hworth⟩ := worthwhile_of_moveFor hkeyed
    (lookup_eq_some_iff_mem_toList.mpr hentry) hmove
  exact ⟨flow, entry.2, destination, hworth⟩

/-- The moves that a rebalance settles on. -/
def chosenMoves (s : Impl) (request : RebalanceRequest) : List Proposal :=
  (sortProposals (s.eligibleMoves request.evaluationInstant)).take
    (s.rebalanceLimit request)

/-- A bound that a request may leave open. -/
def withinRequest (request : RebalanceRequest) (count : Nat) : Nat :=
  if request.maxMigrations = 0 then count
  else min count request.maxMigrations.toNat

/-- What an accepted rebalance reports, and what it leaves. -/
structure PlansMoves (s : Impl) (request : RebalanceRequest) (after : Impl)
    (report : RebalanceReport) : Prop where
  unchanged : ∃ counters submitted,
    after = { s with counters := counters, submitted := submitted }
  distinct : (report.intents.map MigrationIntent.flow).Nodup
  justified : ∀ intent ∈ report.intents, ∃ flow assignment destination,
    s.Justified request.evaluationInstant intent flow assignment destination
  ordered : report.intents.Pairwise fun a b =>
    s.gain request.evaluationInstant b < s.gain request.evaluationInstant a ∨
      s.gain request.evaluationInstant a =
        s.gain request.evaluationInstant b ∧ a.flow < b.flow
  bounded : report.intents.length =
    min (min (withinRequest request
      (min (s.eligibleMoves request.evaluationInstant).length
        s.policy.maxRebalanceMigrations.toNat))
      s.config.maxRebalanceMigrations)
      (s.config.maxMigrations - s.migrationsInFlightLocked)
  eligible : report.eligible =
    UInt32.ofNat (s.eligibleMoves request.evaluationInstant).length
  selected : report.selected.toNat = report.intents.length
  accounted : report.selected + report.truncated = report.eligible

/-- The bounds in the order of the source. -/
theorem length_chosenMoves (s : Impl) (request : RebalanceRequest) :
    (s.chosenMoves request).length =
      min (min (withinRequest request
        (min (s.eligibleMoves request.evaluationInstant).length
          s.policy.maxRebalanceMigrations.toNat))
        s.config.maxRebalanceMigrations)
        (s.config.maxMigrations - s.migrationsInFlightLocked) := by
  have hlength := (canonicalSort_perm Proposal.after
    (s.eligibleMoves request.evaluationInstant)).length_eq
  change (sortProposals _).length = _ at hlength
  unfold chosenMoves withinRequest rebalanceLimit
  rw [List.length_take, hlength]
  dsimp only
  split <;> omega

theorem length_chosenMoves_lt (s : Impl) (request : RebalanceRequest) :
    (s.chosenMoves request).length < 2 ^ 32 := by
  have hpolicy := s.policy.maxRebalanceMigrations.toNat_lt
  rw [length_chosenMoves]
  unfold withinRequest
  split <;> omega

/-- The chosen moves name distinct flows, in the order they are sorted by. -/
theorem pairwise_chosenMoves (hkeyed : s.ledger.Keyed)
    (request : RebalanceRequest) :
    (s.chosenMoves request).Pairwise fun a b => a.flow ≠ b.flow ∧
      (b.improvement.toNat < a.improvement.toNat ∨
        a.improvement.toNat = b.improvement.toNat ∧ a.flow < b.flow) := by
  have hperm := canonicalSort_perm Proposal.after
    (s.eligibleMoves request.evaluationInstant)
  have hnodup : ((sortProposals (s.eligibleMoves
      request.evaluationInstant)).map Proposal.flow).Nodup :=
    (hperm.map Proposal.flow).nodup_iff.mpr (nodup_eligibleMoves hkeyed)
  have hboth := (List.pairwise_map.mp hnodup).and
    (ascending_sortProposals (s.eligibleMoves request.evaluationInstant))
  refine (List.Pairwise.sublist (List.take_sublist _ _) hboth).imp ?_
  rintro a b ⟨hdistinct, hafter⟩
  refine ⟨hdistinct, ?_⟩
  rw [Ne, TypedId.eq_iff_toNat_eq] at hdistinct
  rw [Proposal.after] at hafter
  rw [TypedId.lt_iff_toNat_lt]
  split at hafter
  next hne =>
    rw [decide_eq_false_iff_not, gt_iff_lt, UInt32.lt_iff_toNat_lt] at hafter
    rw [ne_eq, ← UInt32.toNat_inj] at hne
    omega
  next heq =>
    rw [decide_eq_false_iff_not, TypedId.lt_iff_toNat_lt] at hafter
    rw [not_not, ← UInt32.toNat_inj] at heq
    omega

/-- A rebalance that is not refused reports the chosen moves. -/
theorem rebalanceLocked_cases (s : Impl) (request : RebalanceRequest)
    (answer : Status) :
    (s.rebalanceLocked request answer).2.status.isAcceptance = false ∨
      ∃ plan : RebalancePlan,
        plan.proposals = s.eligibleMoves request.evaluationInstant ∧
        (s.rebalanceLocked request answer).2 =
          s.rebalanceReport request plan := by
  have hproposals := @foldl_considerAssignment s request.evaluationInstant
    s.assignments.toList {}
  unfold rebalanceLocked
  dsimp only
  split
  · exact Or.inl rfl
  · split
    · exact Or.inl rfl
    · split
      · exact Or.inl rfl
      · refine Or.inr ⟨_, hproposals, ?_⟩
        split <;> rfl

theorem plansMoves_of_accepted (hkeyed : s.ledger.Keyed)
    {request : RebalanceRequest} {answer : Status}
    (haccepted : (s.rebalanceLocked request answer).2.status.isAcceptance =
      true) :
    s.PlansMoves request (s.rebalanceLocked request answer).1
      (s.rebalanceLocked request answer).2 := by
  have hunchanged := rebalanceLocked_eq s request answer
  rcases rebalanceLocked_cases s request answer with
    hrefused | ⟨plan, hplan, hreport⟩
  · exact absurd (hrefused.symm.trans haccepted) (by decide)
  · have hlength := length_chosenMoves_lt s request
    have hchosen : (sortProposals plan.proposals).take
        (s.rebalanceLimit request) = s.chosenMoves request := by
      rw [hplan]
      rfl
    have hmem : ∀ move ∈ s.chosenMoves request,
        move ∈ s.eligibleMoves request.evaluationInstant := fun move hmove =>
      (canonicalSort_perm _ _).mem_iff.mp (List.mem_of_mem_take hmove)
    have hintents : (s.rebalanceLocked request answer).2.intents =
        (s.chosenMoves request).map (s.plannedIntent request) := by
      rw [hreport]
      exact congrArg (List.map _) hchosen
    have hworth : ∀ move ∈ s.chosenMoves request, ∃ flow assignment
        destination, s.Worthwhile request.evaluationInstant move flow
          assignment destination :=
      fun move hmove => worthwhile_of_eligible hkeyed (hmem move hmove)
    have hgain : ∀ move ∈ s.chosenMoves request,
        (s.plannedIntent request move).flow = move.flow ∧
          s.gain request.evaluationInstant (s.plannedIntent request move) =
            move.improvement.toNat := by
      intro move hmove
      obtain ⟨flow, assignment, destination, hmoves⟩ := hworth move hmove
      refine ⟨?_, hmoves.justified.2⟩
      unfold plannedIntent
      split <;> rfl
    have hselected : (s.rebalanceLocked request answer).2.selected =
        UInt32.ofNat (s.chosenMoves request).length := by
      rw [hreport]
      exact congrArg (fun moves => UInt32.ofNat (List.length moves)) hchosen
    have hpairs := pairwise_chosenMoves hkeyed request
    constructor
    case unchanged => exact hunchanged
    case distinct =>
      rw [hintents, List.map_map, List.Nodup, List.pairwise_map]
      refine hpairs.imp_of_mem fun ha hb hpair => ?_
      rw [Function.comp_apply, Function.comp_apply, (hgain _ ha).1,
        (hgain _ hb).1]
      exact hpair.1
    case justified =>
      intro intent hintent
      rw [hintents] at hintent
      obtain ⟨move, hmove, rfl⟩ := List.mem_map.mp hintent
      obtain ⟨flow, assignment, destination, hmoves⟩ := hworth move hmove
      exact ⟨flow, assignment, destination, hmoves.justified.1⟩
    case ordered =>
      rw [hintents, List.pairwise_map]
      refine hpairs.imp_of_mem fun ha hb hpair => ?_
      rw [(hgain _ ha).1, (hgain _ hb).1, (hgain _ ha).2, (hgain _ hb).2]
      exact hpair.2
    case bounded => rw [hintents, List.length_map, length_chosenMoves]
    case eligible =>
      rw [hreport, ← hplan]
      exact congrArg UInt32.ofNat
        (canonicalSort_perm Proposal.after plan.proposals).length_eq
    case selected =>
      rw [hselected, hintents, List.length_map]
      exact UInt32.toNat_ofNat_of_lt' hlength
    case accounted =>
      have hsum : ∀ a b : UInt32, a + (b - a) = b := fun a b => by
        rw [UInt32.add_comm, UInt32.sub_add_cancel]
      rw [hreport]
      exact hsum _ _

/--
In every reachable state an accepted rebalance plans justified moves of
distinct flows, best first, as many as every bound admits, and changes nothing
but the accounting.
-/
theorem rebalance_plans_are_justified (config : EngineConfig)
    (inputs : List Op)
    (h : engine.Admits (fun _ _ => True) (init config []) inputs)
    (request : RebalanceRequest) (answer : Status)
    (haccepted : ((engine.run (init config []) inputs).rebalanceLocked request
      answer).2.status.isAcceptance = true) :
    (engine.run (init config []) inputs).PlansMoves request
      ((engine.run (init config []) inputs).rebalanceLocked request answer).1
      ((engine.run (init config []) inputs).rebalanceLocked request
        answer).2 :=
  plansMoves_of_accepted (keyed_of_run h) haccepted

/-- Two flows share a host, and then an empty one is declared. -/
def sharedHost : List Op :=
  [.openEngine {} committed, .setPolicy (samplePolicy true) committed,
    .declareTarget (sampleHost 1) committed,
    .registerFlow (plainFlow 1 30) committed,
    .registerFlow (plainFlow 2 20) committed,
    .place (sampleRequest 1 1 [1, 2]) committed,
    .declareTarget (sampleHost 2) committed]

theorem shared_host_is_relieved :
    ((((engine.run (init sampleConfig []) sharedHost).rebalanceLocked
        { evaluationInstant := ⟨2⟩, maxMigrations := 1 } committed).2.intents.map
          fun intent => (intent.flow, intent.destinationTarget)) =
        [(⟨2⟩, ⟨2⟩)]) ∧
      (engine.run (init sampleConfig []) sharedHost).PlansMoves
        { evaluationInstant := ⟨2⟩, maxMigrations := 1 }
        ((engine.run (init sampleConfig []) sharedHost).rebalanceLocked
          { evaluationInstant := ⟨2⟩, maxMigrations := 1 } committed).1
        ((engine.run (init sampleConfig []) sharedHost).rebalanceLocked
          { evaluationInstant := ⟨2⟩, maxMigrations := 1 } committed).2 := by
  refine ⟨by decide +kernel, ?_⟩
  exact rebalance_plans_are_justified sampleConfig sharedHost
    (by decide +kernel) { evaluationInstant := ⟨2⟩, maxMigrations := 1 }
    committed (by decide +kernel)

end Impl

end FlowOffload
