import FlowOffload.Laws.Reopen

/-!
# Authority that has been superseded

`issue_intent` checks an authorization again before it acts on it, but not all
of what `authorize` checked.  `Grants` is the engine together with the
recommendation that each authorization was granted for, so that the two lists
of checks can be compared.
-/

namespace FlowOffload

open Foundation

/-- The engine, and the recommendation behind each authorization. -/
structure Grants where
  engine : Impl
  source : AuthorizationId → Option Recommendation := fun _ => none

namespace Grants

open Impl

def begin (config : EngineConfig) : Grants := { engine := init config [] }

/-- The call is granted, under an identity that is not taken. -/
def grants (s : Impl) (recommendation : RecommendationId)
    (instant : Timestamp) : Bool :=
  (s.authorize recommendation instant).2.1.ok &&
    (s.authorizations[(⟨s.nextAuthorization⟩ : AuthorizationId)]?).isNone

def step (g : Grants) (op : Op) : Grants where
  engine := g.engine.step op
  source := match op with
    | .authorize recommendation instant =>
        if grants g.engine recommendation instant then
          Function.update g.source ⟨g.engine.nextAuthorization⟩
            g.engine.recommendations[recommendation]?
        else g.source
    | _ => g.source

end Grants

def granting : Machine Grants Op where
  step := Grants.step
  allowed := fun g op => g.engine.allowed op

instance (g : Grants) (op : Op) : Decidable (granting.allowed g op) :=
  inferInstanceAs (Decidable (g.engine.allowed op))

/-! ## What an authorization keeps of its recommendation -/

/-- The recommendation could be authorized, and the authorization repeats what
it was granted on. -/
structure Authorizes (rec : Recommendation) (a : Authorization) : Prop where
  outcome : Impl.authorizable rec.outcome = true
  flow : a.flow = rec.flow
  flowGeneration : a.flowGeneration = rec.flowGeneration
  target : a.target = rec.target
  incarnation : a.incarnation = rec.incarnation
  capabilityGeneration : a.capabilityGeneration = rec.capabilityGeneration
  epoch : rec.epoch = a.epoch
  boot : rec.boot = a.boot
  scheduleGeneration : rec.scheduleGeneration = a.scheduleGeneration
  policyGeneration : rec.policyGeneration = a.policyGeneration

namespace Impl

variable {s : Impl}

/-- What `authorize` still asks of a recommendation once `issue_intent` has
accepted its authorization. -/
def stands (s : Impl) (rec : Recommendation) : Bool :=
  rec.topologyGeneration = s.topologyGeneration &&
    (s.targets[rec.target]?).any (fun target =>
      target.declared && target.descriptor.lifecycle = .ready &&
        target.descriptor.incarnation = rec.incarnation &&
        target.descriptor.capabilityGeneration = rec.capabilityGeneration) &&
    (s.assignments[rec.flow]?).any fun assignment =>
      assignment.target = rec.target

theorem authorizes_of_refusal {rec : Recommendation} {instant : Timestamp}
    (h : s.authorizationRefusal rec = none) :
    Authorizes rec (s.grantAuthorization rec instant).2 := by
  have hcurrent : authorizable rec.outcome = true ∧ rec.epoch = s.epoch ∧
      rec.boot = s.boot ∧ rec.scheduleGeneration = s.scheduleGeneration ∧
      rec.policyGeneration = s.policyGeneration := by
    unfold authorizationRefusal at h
    grind
  obtain ⟨houtcome, hepoch, hboot, hschedule, hpolicy⟩ := hcurrent
  exact ⟨houtcome, rfl, rfl, rfl, rfl, rfl, hepoch, hboot, hschedule, hpolicy⟩

/-- A check that refuses, or what comes after it. -/
theorem rejects_ite {c : Prop} [Decidable c] {refusal code : ReasonCode}
    {rest : Option ReasonCode} (hrefusal : refusal.isAcceptance = false)
    (hrest : rest = some code → code.isAcceptance = false)
    (h : (if c then some refusal else rest) = some code) :
    code.isAcceptance = false := by
  by_cases hc : c
  · rw [if_pos hc] at h
    cases h
    exact hrefusal
  · rw [if_neg hc] at h
    exact hrest h

theorem rejects_authorizationRefusal {rec : Recommendation}
    {code : ReasonCode} (h : s.authorizationRefusal rec = some code) :
    code.isAcceptance = false := by
  unfold authorizationRefusal at h
  refine rejects_ite rfl (rejects_ite rfl (rejects_ite rfl (rejects_ite rfl
    (rejects_ite rfl ?_)))) h
  cases s.targets[rec.target]? with
  | none => exact fun h => by cases h; rfl
  | some target =>
      refine rejects_ite rfl (rejects_ite rfl (rejects_ite rfl
        (rejects_ite rfl ?_)))
      cases s.flows[rec.flow]? with
      | none => exact fun h => by cases h; rfl
      | some flow =>
          refine rejects_ite rfl fun h => ?_
          split at h
          · cases h
          · cases h
            rfl

theorem authorize_granted {recommendation : RecommendationId}
    {instant : Timestamp} {rec : Recommendation} (hopen : s.isOpen = true)
    (hrec : s.recommendations[recommendation]? = some rec)
    (hnone : s.authorizationRefusal rec = none) :
    s.authorize recommendation instant =
      ((s.grantAuthorization rec instant).1,
        .accepted .acceptedAuthorizationGranted,
        (s.grantAuthorization rec instant).2) := by
  simp only [authorize, hopen, hrec, hnone, Bool.not_true,
    Bool.false_eq_true, if_false]

/-- A call grants an authorization or leaves the table. -/
theorem authorize_cases (s : Impl) (recommendation : RecommendationId)
    (instant : Timestamp) :
    (s.isOpen = true ∧ ∃ rec, s.recommendations[recommendation]? = some rec ∧
        s.authorizationRefusal rec = none) ∨
      (s.authorize recommendation instant).2.1.ok = false ∧
        (s.authorize recommendation instant).1.authorizations =
          s.authorizations := by
  generalize hauthorized : s.authorize recommendation instant = authorized
  unfold authorize at hauthorized
  split at hauthorized
  · subst hauthorized
    exact Or.inr ⟨rfl, rfl⟩
  next hopen =>
    split at hauthorized
    · subst hauthorized
      exact Or.inr ⟨rfl, rfl⟩
    next rec hrec =>
      split at hauthorized
      next code hcode =>
        subst hauthorized
        exact Or.inr ⟨rejects_authorizationRefusal hcode, rfl⟩
      next hnone => exact Or.inl ⟨by simpa using hopen, rec, hrec, hnone⟩

theorem authorizations_grant {rec : Recommendation} {instant : Timestamp}
    {k : AuthorizationId} {a : Authorization}
    (h : lookup (s.grantAuthorization rec instant).1.authorizations k =
      some a) :
    lookup (s.authorizations.insertIfNew ⟨s.nextAuthorization⟩
      (s.grantAuthorization rec instant).2) k = some a :=
  lookup_of_evictOldest h

/-- A table entry after a call is an old one, or the one just granted. -/
theorem authorizations_authorize {recommendation : RecommendationId}
    {instant : Timestamp} {k : AuthorizationId} {a : Authorization}
    (h : lookup (s.authorize recommendation instant).1.authorizations k =
      some a) :
    lookup s.authorizations k = some a ∨
      k = ⟨s.nextAuthorization⟩ ∧
        Grants.grants s recommendation instant = true ∧
        ∃ rec, s.recommendations[recommendation]? = some rec ∧
          Authorizes rec a := by
  rcases authorize_cases s recommendation instant with
    ⟨hopen, rec, hrec, hnone⟩ | ⟨-, heq⟩
  · have hgranted : s.authorize recommendation instant = _ :=
      authorize_granted hopen hrec hnone
    rw [hgranted] at h
    have hinserted := authorizations_grant h
    cases htaken : lookup s.authorizations ⟨s.nextAuthorization⟩ with
    | some old =>
        rw [lookup_insertIfNew_of_some _ htaken] at hinserted
        exact Or.inl hinserted
    | none =>
        by_cases hk : k = ⟨s.nextAuthorization⟩
        · refine Or.inr ⟨hk, ?_, rec, hrec, ?_⟩
          · simp only [Grants.grants, hgranted, Bool.and_eq_true]
            exact ⟨rfl, Option.isNone_iff_eq_none.mpr htaken⟩
          · rw [lookup_insertIfNew_of_none _ _ htaken, hk,
              Function.update_self] at hinserted
            cases hinserted
            exact authorizes_of_refusal hnone
        · exact Or.inl (lookup_of_insertIfNew hk hinserted)
  · rw [heq] at h
    exact Or.inl h

theorem authorizes_revoked {authorization k : AuthorizationId}
    {a : Authorization}
    (h : lookup (s.revokeAuthorization authorization).1.authorizations k =
      some a) :
    ∃ old outcome, lookup s.authorizations k = some old ∧
      a = { old with outcome := outcome } := by
  have hsame : lookup s.authorizations k = some a →
      ∃ old outcome, lookup s.authorizations k = some old ∧
        a = { old with outcome := outcome } :=
    fun hold => ⟨a, a.outcome, hold, rfl⟩
  unfold revokeAuthorization at h
  split at h
  · exact hsame h
  · split at h
    · exact hsame h
    next stored hstored =>
      split at h
      · exact hsame h
      · simp only [releaseFence, lookup_insert] at h
        by_cases hk : k = authorization
        · subst hk
          rw [Function.update_self] at h
          exact ⟨stored, _, hstored, (Option.some.inj h).symm⟩
        · rw [Function.update_of_ne hk] at h
          exact hsame h

/-! ## The two lists of checks -/

/-- What an accepted intent says about the authorization it used. -/
theorem issueIntent_ok {authorization : AuthorizationId}
    {wanted : MigrationIntent} {answer : Status} {stored : Authorization}
    (hstored : lookup s.authorizations authorization = some stored)
    (h : (s.issueIntent authorization wanted answer).2.1.ok = true) :
    s.isOpen = true ∧ s.authorityRefusal stored = none ∧
      ∃ flow, s.flows[stored.flow]? = some flow ∧
        flow.generation = stored.flowGeneration := by
  have hfound : s.authorizations[authorization]? = some stored := hstored
  unfold issueIntent at h
  cases hopen : s.isOpen with
  | false =>
      rw [if_pos (by rw [hopen]; rfl)] at h
      cases h
  | true =>
      rw [if_neg (by rw [hopen]; simp), hfound] at h
      dsimp only at h
      cases hauthority : s.authorityRefusal stored with
      | some code =>
          rw [hauthority] at h
          have hrefused : (Status.refused code).ok = true := h
          rw [show (Status.refused code).ok = false from
            rejects_authorityRefusal hauthority] at hrefused
          cases hrefused
      | none =>
          rw [hauthority] at h
          dsimp only at h
          cases hflow : s.flows[stored.flow]? with
          | none =>
              rw [hflow] at h
              cases h
          | some flow =>
              rw [hflow] at h
              dsimp only at h
              by_cases hgeneration : flow.generation = stored.flowGeneration
              · exact ⟨rfl, rfl, flow, rfl, hgeneration⟩
              · rw [if_pos hgeneration] at h
                cases h

theorem authorize_ok_iff {recommendation : RecommendationId}
    {instant : Timestamp} {rec : Recommendation} (hopen : s.isOpen = true)
    (hrec : lookup s.recommendations recommendation = some rec) :
    (s.authorize recommendation instant).2.1.ok = true ↔
      s.authorizationRefusal rec = none := by
  have hfound : s.recommendations[recommendation]? = some rec := hrec
  constructor
  · intro hok
    rcases authorize_cases s recommendation instant with
      ⟨-, found, hfound', hnone⟩ | ⟨hrefused, -⟩
    · rw [hfound] at hfound'
      cases hfound'
      exact hnone
    · rw [hrefused] at hok
      cases hok
  · intro hnone
    rw [authorize_granted hopen hfound hnone]
    rfl

/-- Once the authorization has passed, only the rest of the checks counts. -/
theorem authorizationRefusal_eq_none_iff {rec : Recommendation}
    {stored : Authorization} {flow : FlowDescriptor}
    (hauthorizes : Authorizes rec stored)
    (hauthority : s.authorityRefusal stored = none)
    (hflow : s.flows[stored.flow]? = some flow)
    (hgeneration : flow.generation = stored.flowGeneration) :
    s.authorizationRefusal rec = none ↔ s.stands rec = true := by
  have hcurrent : stored.epoch = s.epoch ∧ stored.boot = s.boot ∧
      stored.policyGeneration = s.policyGeneration ∧
      stored.scheduleGeneration = s.scheduleGeneration := by
    unfold authorityRefusal at hauthority
    grind
  obtain ⟨hepoch, hboot, hpolicy, hschedule⟩ := hcurrent
  rw [← hauthorizes.epoch] at hepoch
  rw [← hauthorizes.boot] at hboot
  rw [← hauthorizes.policyGeneration] at hpolicy
  rw [← hauthorizes.scheduleGeneration] at hschedule
  rw [hauthorizes.flow] at hflow
  rw [hauthorizes.flowGeneration] at hgeneration
  unfold authorizationRefusal stands
  rw [hflow]
  cases htarget : s.targets[rec.target]? with
  | none => grind [hauthorizes.outcome]
  | some target => grind [hauthorizes.outcome]

end Impl

/-! ## Every run -/

namespace Grants

open Impl

variable {g : Grants}

/-- Every authorization repeats the recommendation it was granted for. -/
structure Sourced (g : Grants) : Prop where
  keyed : g.engine.ledger.Keyed
  source : ∀ k a, lookup g.engine.authorizations k = some a →
    ∃ rec, g.source k = some rec ∧ Authorizes rec a

theorem sourced_begin (config : EngineConfig) : (begin config).Sourced where
  keyed := by
    simpa [begin, init, ledger, Ledger.empty] using
      Ledger.wellFormed_empty.toKeyed
  source := by
    intro k a h
    change lookup ∅ k = some a at h
    simp at h

theorem sourced_step (h : g.Sourced) (op : Op) : (g.step op).Sourced := by
  refine ⟨keyed_step h.keyed op, ?_⟩
  intro k a ha
  have hsame : (g.step op).source = g.source →
      (g.engine.step op).authorizations = g.engine.authorizations →
      ∃ rec, (g.step op).source k = some rec ∧ Authorizes rec a := by
    intro hsource heq
    rw [hsource]
    refine h.source k a ?_
    rw [← heq]
    exact ha
  have hquiet := @authority_step g.engine h.keyed.attempt op
  cases op with
  | openEngine opening answer =>
      cases hopen : g.engine.isOpen with
      | true =>
          refine hsame rfl ?_
          simp [Impl.step, openEngine, hopen]
      | false =>
          rcases (Life.openEngine_frame hopen opening answer).2 with
            ⟨-, heq⟩ | ⟨-, heq⟩
          · exact hsame rfl heq
          · change lookup (g.engine.openEngine opening answer).1.authorizations
              k = some a at ha
            rw [heq] at ha
            simp at ha
  | restart config =>
      change lookup ∅ k = some a at ha
      simp at ha
  | place request answer =>
      exact h.source k a (authorizations_placeLocked ha)
  | authorize recommendation instant =>
      rcases authorizations_authorize ha with
        hold | ⟨rfl, hgrants, rec, hrec, hauthorizes⟩
      · obtain ⟨rec, hsource, hauthorizes⟩ := h.source k a hold
        refine ⟨rec, ?_, hauthorizes⟩
        simp only [step]
        split
        next hgrants =>
          -- an identity that is taken is not granted again
          have hne : k ≠ ⟨g.engine.nextAuthorization⟩ := by
            rintro rfl
            simp only [grants, Bool.and_eq_true] at hgrants
            have hfree := Option.isNone_iff_eq_none.mp hgrants.2
            have htaken : g.engine.authorizations[
                (⟨g.engine.nextAuthorization⟩ : AuthorizationId)]? = some a :=
              hold
            rw [htaken] at hfree
            cases hfree
          rw [Function.update_of_ne hne]
          exact hsource
        · exact hsource
      · refine ⟨rec, ?_, hauthorizes⟩
        simp only [step, if_pos hgrants, Function.update_self]
        exact hrec
  | revokeAuthorization authorization =>
      obtain ⟨old, outcome, hold, rfl⟩ := authorizes_revoked ha
      obtain ⟨rec, hsource, hauthorizes⟩ := h.source k old hold
      exact ⟨rec, hsource, { hauthorizes with }⟩
  | _ => exact hsame rfl (hquiet rfl rfl).2.1

theorem issued_authority_stands_iff (config : EngineConfig)
    (inputs : List Op)
    (h : granting.Admits (fun _ _ => True) (begin config) inputs)
    (authorization : AuthorizationId) (wanted : MigrationIntent)
    (answer : Status) (instant : Timestamp) (stored : Authorization)
    (rec : Recommendation)
    (haccepted : ((granting.run (begin config) inputs).engine.issueIntent
      authorization wanted answer).2.1.ok = true)
    (hstored : lookup (granting.run (begin config)
      inputs).engine.authorizations authorization = some stored)
    (hsource : (granting.run (begin config) inputs).source authorization =
      some rec)
    (hkept : lookup (granting.run (begin config)
      inputs).engine.recommendations stored.recommendation = some rec) :
    ((granting.run (begin config) inputs).engine.authorize
        stored.recommendation instant).2.1.ok = true ↔
      (granting.run (begin config) inputs).engine.stands rec = true := by
  have hsourced : (granting.run (begin config) inputs).Sourced :=
    h.invariant (P := Sourced) (fun _ op hs _ _ => sourced_step hs op)
      (sourced_begin config)
  obtain ⟨found, hfound, hauthorizes⟩ :=
    hsourced.source authorization stored hstored
  rw [hsource] at hfound
  cases hfound
  obtain ⟨hopen, hauthority, flow, hflow, hgeneration⟩ :=
    issueIntent_ok hstored haccepted
  rw [authorize_ok_iff hopen hkept]
  exact authorizationRefusal_eq_none_iff hauthorizes hauthority hflow
    hgeneration

/-- A stateless flow placed on the first host, and authority to move it. -/
def authorized : List Op := (plainIntent true).dropLast

/-- The first host drains: the authority would no longer be granted, and an
intent is issued under it. -/
theorem intent_under_superseded_authority :
    granting.Admits (fun _ _ => True) (begin sampleConfig) (authorized ++
        [.declareTarget { sampleHost 1 with lifecycle := .draining }
          committed]) ∧
      ∃ stored rec,
        lookup (granting.run (begin sampleConfig) (authorized ++
          [.declareTarget { sampleHost 1 with lifecycle := .draining }
            committed])).engine.authorizations ⟨1⟩ = some stored ∧
        (granting.run (begin sampleConfig) (authorized ++
          [.declareTarget { sampleHost 1 with lifecycle := .draining }
            committed])).source ⟨1⟩ = some rec ∧
        lookup (granting.run (begin sampleConfig) (authorized ++
          [.declareTarget { sampleHost 1 with lifecycle := .draining }
            committed])).engine.recommendations stored.recommendation =
              some rec ∧
        ((granting.run (begin sampleConfig) (authorized ++
          [.declareTarget { sampleHost 1 with lifecycle := .draining }
            committed])).engine.issueIntent ⟨1⟩ (sampleIntent 2)
              committed).2.1.ok = true ∧
        ((granting.run (begin sampleConfig) (authorized ++
          [.declareTarget { sampleHost 1 with lifecycle := .draining }
            committed])).engine.authorize stored.recommendation
              ⟨1⟩).2.1.ok = false := by
  refine ⟨by decide +kernel, ?_⟩
  generalize hg : granting.run (begin sampleConfig) (authorized ++
    [.declareTarget { sampleHost 1 with lifecycle := .draining }
      committed]) = g
  have hall : (g.engine.authorizations[(⟨1⟩ : AuthorizationId)]?).map
        Authorization.recommendation = some ⟨1⟩ ∧
      (g.engine.recommendations[(⟨1⟩ : RecommendationId)]?).isSome = true ∧
      g.source ⟨1⟩ = g.engine.recommendations[(⟨1⟩ : RecommendationId)]? ∧
      (g.engine.issueIntent ⟨1⟩ (sampleIntent 2) committed).2.1.ok = true ∧
      (g.engine.authorize ⟨1⟩ ⟨1⟩).2.1.ok = false := by
    subst hg
    decide +kernel
  obtain ⟨hstored, hrec, hsource, hissued, hdenied⟩ := hall
  obtain ⟨stored, hstored, hname⟩ := Option.map_eq_some_iff.mp hstored
  obtain ⟨rec, hrec⟩ := Option.isSome_iff_exists.mp hrec
  rw [← hname] at hdenied
  refine ⟨stored, rec, hstored, hsource.trans hrec, ?_, hissued, hdenied⟩
  rw [hname]
  exact hrec

/-- Undisturbed, the authority stands when the intent is issued. -/
theorem intent_under_standing_authority : ∃ stored,
    lookup (granting.run (begin sampleConfig)
        authorized).engine.authorizations ⟨1⟩ = some stored ∧
      ((granting.run (begin sampleConfig) authorized).engine.authorize
        stored.recommendation ⟨1⟩).2.1.ok = true := by
  have hall : ((granting.run (begin sampleConfig)
        authorized).engine.authorizations[(⟨1⟩ : AuthorizationId)]?).map
        Authorization.recommendation = some ⟨1⟩ ∧
      (((granting.run (begin sampleConfig)
        authorized).engine.recommendations[(⟨1⟩ : RecommendationId)]?).map
        (granting.run (begin sampleConfig) authorized).engine.stands) =
          some true ∧
      (granting.run (begin sampleConfig) authorized).source ⟨1⟩ =
        (granting.run (begin sampleConfig)
          authorized).engine.recommendations[(⟨1⟩ : RecommendationId)]? ∧
      ((granting.run (begin sampleConfig) authorized).engine.issueIntent ⟨1⟩
        (sampleIntent 2) committed).2.1.ok = true := by
    decide +kernel
  obtain ⟨hstored, hrec, hsource, hissued⟩ := hall
  obtain ⟨stored, hstored, hname⟩ := Option.map_eq_some_iff.mp hstored
  obtain ⟨rec, hrec, hstands⟩ := Option.map_eq_some_iff.mp hrec
  refine ⟨stored, hstored, ?_⟩
  refine (issued_authority_stands_iff sampleConfig authorized
    (by decide +kernel) ⟨1⟩ (sampleIntent 2) committed ⟨1⟩ stored rec
    hissued hstored (hsource.trans hrec) ?_).mpr hstands
  rw [hname]
  exact hrec

end Grants

end FlowOffload
