import FlowOffload.Laws.Atomicity
import FlowOffload.Ledger.Content

/-!
# Acknowledged decisions

A `Disk` is an engine together with the last state its store has accepted.
Every decision that changes something ends with a commit, so memory and disk
differ only while a failed commit is outstanding.  What a caller is told in
between is the subject of this module.
-/

namespace FlowOffload

open Foundation
open Std (ExtTreeMap)

/-! ## The engine and its disk -/

/-- An engine, the last state its store accepted, and whether an operation has
changed the content since then without getting it there. -/
structure Disk where
  engine : Impl
  stored : Option DurableState := none
  unsaved : Bool := false

namespace Disk

open Impl

def start (config : EngineConfig) (submitted : List DurableState) : Disk :=
  { engine := Impl.init config submitted }

def step (d : Disk) (op : Op) : Disk :=
  let after := d.engine.step op
  if after.submitted.length = d.engine.submitted.length then
    { d with engine := after }
  else if op.answer.ok then
    { engine := after, stored := after.submitted.head?, unsaved := false }
  else
    { engine := after
      stored := d.stored
      unsaved := d.unsaved || after.content ≠ d.engine.content }

variable {d : Disk} {op : Op}

@[simp] theorem engine_step (d : Disk) (op : Op) :
    (d.step op).engine = d.engine.step op := by
  unfold step
  dsimp only
  split
  · rfl
  · split <;> rfl

theorem step_of_quiet
    (h : (d.engine.step op).submitted = d.engine.submitted) :
    d.step op = { d with engine := d.engine.step op } := by
  unfold step
  dsimp only
  rw [if_pos (by rw [h])]

theorem step_of_saved {image : DurableState}
    (h : (d.engine.step op).submitted = image :: d.engine.submitted)
    (hok : op.answer.ok = true) :
    d.step op =
      { engine := d.engine.step op, stored := some image } := by
  unfold step
  dsimp only
  rw [if_neg (by simp [h]), if_pos hok, h]
  rfl

theorem step_of_unsaved {image : DurableState}
    (h : (d.engine.step op).submitted = image :: d.engine.submitted)
    (hfailed : op.answer.ok = false) :
    d.step op =
      { engine := d.engine.step op
        stored := d.stored
        unsaved := d.unsaved ||
          (d.engine.step op).content ≠ d.engine.content } := by
  unfold step
  dsimp only
  rw [if_neg (by simp [h]), if_neg (by simp [hfailed])]

end Disk

/-- The engine over its store as a machine; the store may hand back anything. -/
def disk : Machine Disk Op where
  step := Disk.step
  allowed := fun _ _ => True

instance (d : Disk) (op : Op) : Decidable (disk.allowed d op) :=
  isTrue trivial

namespace Disk

open Impl

variable {d : Disk} {op : Op}

/-- The last accepted state has the content of the engine. -/
def Saved (d : Disk) : Prop :=
  ∃ state, d.stored = some state ∧ state.content = d.engine.content

/-- Memory and disk agree unless a change is outstanding. -/
structure Synced (d : Disk) : Prop where
  keyed : d.engine.ledger.Keyed
  stamp : d.engine.policyGeneration = d.engine.policy.generation
  saved : d.engine.isOpen = true →
    d.engine.config.persistenceEnabled = true → d.unsaved = false → d.Saved

/--
A call that repeats what the engine holds is made while nothing is
outstanding and repeats a declaration to the letter; and the commit of a
request that places something succeeds.
-/
structure Careful (d : Disk) (op : Op) : Prop where
  repeats : d.engine.isOpen = true → d.engine.repeats op = true →
    d.unsaved = false
  declaration : d.engine.repeats op = true → ∀ target ∈ op.declared,
    ∀ existing ∈ d.engine.targets[target.target]?,
      existing.descriptor = target
  placement : op.answer.ok = false → ∀ request ∈ d.engine.wetRequest op,
    (d.engine.planOf request).anyChange = false ∧ d.unsaved = false

instance (d : Disk) (op : Op) : Decidable (d.Careful op) :=
  decidable_of_iff
    ((d.engine.isOpen = true → d.engine.repeats op = true →
        d.unsaved = false) ∧
      (d.engine.repeats op = true → ∀ target ∈ op.declared,
        ∀ existing ∈ d.engine.targets[target.target]?,
          existing.descriptor = target) ∧
      (op.answer.ok = false → ∀ request ∈ d.engine.wetRequest op,
        (d.engine.planOf request).anyChange = false ∧ d.unsaved = false))
    ⟨fun ⟨h1, h2, h3⟩ => ⟨h1, h2, h3⟩, fun ⟨h1, h2, h3⟩ => ⟨h1, h2, h3⟩⟩

theorem synced_start (config : EngineConfig)
    (submitted : List DurableState) : (start config submitted).Synced where
  keyed := by
    have hempty : (start config submitted).engine.ledger = Ledger.empty := by
      simp [start, init, ledger, Ledger.empty]
    rw [hempty]
    exact Ledger.wellFormed_empty.toKeyed
  stamp := rfl
  saved := fun h => nomatch h

/-- A commit of any state leaves memory and disk in step. -/
theorem saved_of_commit {t : Impl}
    (h : d.engine.isOpen = true →
      d.engine.config.persistenceEnabled = true → d.unsaved = false → d.Saved)
    (hstays : d.engine.Stays t)
    (hstep : d.engine.step op = (t.persistLocked op.answer).1) :
    (d.step op).engine.isOpen = true →
      (d.step op).engine.config.persistenceEnabled = true →
      (d.step op).unsaved = false → (d.step op).Saved := by
  intro hopen hpersist hunsaved
  obtain ⟨counters, submitted, hpersisted⟩ := persistLocked_fst t op.answer
  rw [engine_step, hstep, hpersisted] at hopen hpersist
  have hsubmitted := submitted_persistLocked t op.answer
  rw [← hstep, hstays.submitted] at hsubmitted
  have hcontent : (d.engine.step op).content = t.content := by
    rw [hstep, content_persistLocked]
  rcases hsubmitted with ⟨hdisabled, -⟩ | ⟨-, image, himage, hsame, -, -⟩
  · exact absurd (hdisabled.symm.trans hpersist) (by decide)
  · cases hok : op.answer.ok with
    | true =>
        rw [step_of_saved himage hok]
        exact ⟨image, rfl, hsame.trans hcontent.symm⟩
    | false =>
        rw [step_of_unsaved himage hok] at hunsaved ⊢
        simp only [ne_eq, Bool.or_eq_false_iff, decide_eq_false_iff_not,
          not_not] at hunsaved
        obtain ⟨state, hstate, hagree⟩ := h (hstays.isOpen.symm.trans hopen)
          (by rw [← hstays.config]; exact hpersist) hunsaved.1
        exact ⟨state, hstate, hagree.trans hunsaved.2.symm⟩

/-- A step that leaves content and store alone. -/
theorem saved_of_quiet
    (h : d.engine.isOpen = true →
      d.engine.config.persistenceEnabled = true → d.unsaved = false → d.Saved)
    (hstays : d.engine.Stays (d.engine.step op))
    (hcontent : (d.engine.step op).content = d.engine.content) :
    (d.step op).engine.isOpen = true →
      (d.step op).engine.config.persistenceEnabled = true →
      (d.step op).unsaved = false → (d.step op).Saved := by
  rw [step_of_quiet hstays.submitted]
  intro hopen hpersist hunsaved
  obtain ⟨state, hstate, hagree⟩ := h (hstays.isOpen.symm.trans hopen)
    (by rw [← hstays.config]; exact hpersist) hunsaved
  exact ⟨state, hstate, hagree.trans hcontent.symm⟩

/-- A declaration repeated to the letter writes what is there. -/
theorem setTarget_of_repeated {s : Impl} {target : TargetDescriptor}
    {existing : TargetState} {answer : Status}
    (hfound : lookup s.targets target.target = some existing)
    (hknown : s.repeats (.declareTarget target answer) = true)
    (hsame : existing.descriptor = target) :
    s.setTarget target.target
      { existing with descriptor := target, declared := true } = s := by
  have hentry : s.targets[target.target]? = some existing := hfound
  have hdeclared : existing.declared = true := by
    simp only [repeats, hentry, Option.any_some, Bool.and_eq_true] at hknown
    exact hknown.1.1
  have heq : ({ existing with descriptor := target, declared := true } :
      TargetState) = existing := by
    rw [← hsame, ← hdeclared]
  rw [heq, setTarget, insert_eq_self hfound]

theorem saved_within (h : d.Synced) (hguard : d.Careful op)
    (hwithin : op.within = true) :
    (d.step op).engine.isOpen = true →
      (d.step op).engine.config.persistenceEnabled = true →
      (d.step op).unsaved = false → (d.step op).Saved := by
  cases passes h.keyed hwithin with
  | quiet stays keeps => exact saved_of_quiet h.saved stays keeps.content_eq
  | @redeclared target existing call found known step =>
      have hsame : d.engine.step op = d.engine := by
        rw [step]
        rw [call] at known
        refine setTarget_of_repeated found known ?_
        rw [← call] at known
        exact hguard.declaration known target (by rw [call]; rfl) existing
          found
      refine saved_of_quiet h.saved ?_ (by rw [hsame])
      rw [hsame]
      exact ⟨rfl, rfl, rfl, rfl, rfl, id⟩
  | commits stays step => exact saved_of_commit h.saved stays step

theorem stamp_within {s : Impl} (hkeyed : s.ledger.Keyed)
    (h : s.policyGeneration = s.policy.generation)
    (hwithin : op.within = true) :
    (s.step op).policyGeneration = (s.step op).policy.generation := by
  cases passes hkeyed hwithin with
  | quiet stays keeps => exact stays.stamp h
  | redeclared call found known step =>
      rw [step]
      exact h
  | @commits t stays step =>
      obtain ⟨counters, submitted, heq⟩ := persistLocked_fst t op.answer
      rw [step, heq]
      exact stays.stamp h

theorem saved_openEngine (h : d.Synced) (opening : StoreOpening)
    (answer : Status) :
    (d.step (.openEngine opening answer)).engine.isOpen = true →
      (d.step (.openEngine opening answer)).engine.config.persistenceEnabled =
        true →
      (d.step (.openEngine opening answer)).unsaved = false →
      (d.step (.openEngine opening answer)).Saved := by
  cases hwas : d.engine.isOpen with
  | true =>
      have hsame : d.engine.step (.openEngine opening answer) = d.engine := by
        simp [Impl.step, openEngine, hwas]
      refine saved_of_quiet h.saved ?_ (by rw [hsame])
      rw [hsame]
      exact ⟨rfl, rfl, rfl, rfl, rfl, id⟩
  | false =>
      intro hopen hpersist _
      rw [engine_step] at hopen hpersist
      have hopens := opensWith hwas hopen
      have hstep : d.engine.step (.openEngine opening answer) =
          ((d.engine.entering opening).persistLocked answer).1 :=
        hopens.result
      obtain ⟨counters, submitted, heq⟩ :=
        persistLocked_fst (d.engine.entering opening) answer
      rw [hstep, heq] at hpersist
      have hsubmitted := submitted_persistLocked (d.engine.entering opening)
        answer
      rw [← hstep, (entering_frame d.engine opening).2.1] at hsubmitted
      rcases hsubmitted with ⟨hdisabled, -⟩ | ⟨-, image, himage, hsame, -, hans⟩
      · exact absurd (hdisabled.symm.trans hpersist) (by decide)
      · have hok : answer.ok = true := by
          rw [← hans]
          exact hopens.accepted
        rw [step_of_saved himage hok]
        refine ⟨image, rfl, hsame.trans ?_⟩
        rw [hstep, content_persistLocked]

theorem stamp_openEngine {s : Impl}
    (h : s.policyGeneration = s.policy.generation) (opening : StoreOpening)
    (answer : Status) :
    (s.openEngine opening answer).1.policyGeneration =
      (s.openEngine opening answer).1.policy.generation := by
  have hfound := (found_frame s opening).2.2 h
  have hentering := (entering_frame s opening).2.2 h
  obtain ⟨counters, submitted, heq⟩ :=
    persistLocked_fst (s.entering opening) answer
  cases hwas : s.isOpen with
  | true => simpa [openEngine, hwas] using h
  | false =>
      cases hopen : (s.openEngine opening answer).1.isOpen with
      | true =>
          rw [(opensWith hwas hopen).result, heq]
          exact hentering
      | false =>
          rcases openEngine_of_failed hwas hopen with
            hresult | hresult | ⟨-, hresult⟩
          · rw [hresult]
            exact h
          · rw [hresult]
            exact hfound
          · rw [hresult, heq]
            exact hentering

theorem synced_step (h : d.Synced) (hguard : d.Careful op) :
    (d.step op).Synced := by
  have hkeyed : (d.step op).engine.ledger.Keyed := by
    rw [engine_step]
    exact keyed_step h.keyed op
  refine ⟨hkeyed, ?_, ?_⟩
  · rw [engine_step]
    cases op with
    | openEngine opening answer => exact stamp_openEngine h.stamp _ _
    | shutdown answer =>
        obtain ⟨counters, submitted, heq⟩ := persistLocked_fst d.engine answer
        change (d.engine.shutdown answer).policyGeneration =
          (d.engine.shutdown answer).policy.generation
        unfold shutdown
        split
        · dsimp only
          rw [heq]
          exact h.stamp
        · exact h.stamp
    | restart config => rfl
    | _ => exact stamp_within h.keyed h.stamp rfl
  · cases op with
    | openEngine opening answer => exact saved_openEngine h opening answer
    | shutdown answer =>
        intro hopen
        rw [engine_step] at hopen
        simp only [Impl.step, shutdown] at hopen
        split at hopen <;> cases hopen
    | restart config =>
        intro hopen
        rw [engine_step] at hopen
        cases hopen
    | _ => exact saved_within h hguard rfl

theorem synced_run {config : EngineConfig} {submitted : List DurableState}
    {inputs : List Op}
    (h : disk.Admits Careful (start config submitted) inputs) :
    (disk.run (start config submitted) inputs).Synced :=
  Machine.Admits.invariant (P := Synced)
    (fun _ _ hs _ hguard => synced_step hs hguard)
    (synced_start config submitted) h

/-! ## Accepted decisions -/

theorem not_accepted_of_closed {s : Impl} {answer : Status}
    (hclosed : s.isOpen = false) (h : op.decision = some answer) :
    s.accepted op = false := by
  cases op with
  | place request committed =>
      simp [accepted, placeLocked, hclosed]
  | registerFlow flow committed => simp [accepted, registerFlow, hclosed]; rfl
  | removeFlow flow generation committed =>
      simp [accepted, removeFlow, hclosed]; rfl
  | declareTarget target committed =>
      simp [accepted, declareTarget, hclosed]; rfl
  | removeTarget target incarnation instant committed =>
      simp [accepted, removeTarget, hclosed]; rfl
  | setPolicy policy committed => simp [accepted, setPolicy, hclosed]; rfl
  | setTopologyGeneration generation committed =>
      simp [accepted, setTopologyGeneration, hclosed]; rfl
  | registerMigrationContract contract committed =>
      simp [accepted, registerMigrationContract, hclosed]; rfl
  | issueIntent authorization wanted committed =>
      simp [accepted, issueIntent, hclosed]; rfl
  | acknowledge ack committed => simp [accepted, acknowledge, hclosed]; rfl
  | reportApplied effect committed =>
      simp [accepted, reportApplied, hclosed]; rfl
  | observe observation committed => simp [accepted, observe, hclosed]; rfl
  | abortMigration attempt reason committed =>
      simp [accepted, abortMigration, hclosed]; rfl
  | _ => cases h

/-- Whatever an accepted decision changed has reached the disk. -/
theorem unsaved_of_accepted {answer : Status} (h : d.Synced)
    (hguard : d.Careful op)
    (hpersist : d.engine.config.persistenceEnabled = true)
    (hopen : d.engine.isOpen = true) (hdecision : op.decision = some answer)
    (haccepted : d.engine.accepted op = true) :
    (d.step op).unsaved = false := by
  have hanswer := answer_of_decision hdecision
  have hends := ends_step h.keyed.attempt hdecision
  rw [haccepted] at hends
  generalize hafter : d.engine.step op = after at hends
  -- a state that goes to the store, in a step whose commit succeeds
  have hsaved : ∀ t, d.engine.Stays t → after = (t.persistLocked answer).1 →
      answer.ok = true → (d.step op).unsaved = false := by
    intro t hstays heq hok
    have hsubmitted := submitted_persistLocked t answer
    rw [← heq, ← hafter, hstays.submitted, hstays.config, hpersist]
      at hsubmitted
    rcases hsubmitted with ⟨hdisabled, -⟩ | ⟨-, image, himage, -⟩
    · cases hdisabled
    · rw [step_of_saved himage (by rw [hanswer, hok])]
  generalize htrue : true = accepted at hends
  cases hends with
  | refused counted => cases htrue
  | repeated counted known =>
      rw [step_of_quiet (hafter ▸ counted.submitted_eq)]
      exact hguard.repeats hopen known
  | redeclared call found known =>
      rw [step_of_quiet (by rw [hafter]; rfl)]
      exact hguard.repeats hopen known
  | @placed request _ call executed commit =>
      obtain ⟨t, hstays, heq⟩ := commit.exists_persisted
      cases hok : answer.ok with
      | true => exact hsaved t hstays heq hok
      | false =>
          have hwet : request ∈ d.engine.wetRequest op := by
            rw [call]
            simp [wetRequest, executed]
          obtain ⟨hchange, hunsaved⟩ := hguard.placement
            (by rw [hanswer, hok]) request hwet
          have hcontent := commit.content_eq hchange
          have hsubmitted := submitted_persistLocked t answer
          rw [← heq, ← hafter, hstays.submitted, hstays.config, hpersist]
            at hsubmitted
          rcases hsubmitted with ⟨hdisabled, -⟩ | ⟨-, image, himage, -⟩
          · cases hdisabled
          · rw [step_of_unsaved himage (by rw [hanswer, hok]), hafter,
              hcontent, hunsaved]
            simp
  | @committed t stays targets change =>
      refine hsaved t stays.toStays rfl ?_
      have hsubmitted := submitted_persistLocked t answer
      rw [stays.config, hpersist] at hsubmitted
      rcases hsubmitted with ⟨hdisabled, -⟩ | ⟨-, -, -, -, -, hsame⟩
      · cases hdisabled
      · rw [← hsame]
        exact htrue.symm

/-- The last accepted state is the current one, as far as decisions go. -/
def Durable (d : Disk) : Prop :=
  ∃ state, d.stored = some state ∧ state.content = d.engine.content ∧
    state.policy.generation = d.engine.policyGeneration

theorem generation_of_content {s : Impl} {state : DurableState}
    (h : state.content = s.content) :
    state.policy.generation = s.policy.generation :=
  congrArg (fun content => content.policy.generation) h

theorem within_of_decision {answer : Status}
    (h : op.decision = some answer) : op.within = true := by
  cases op with
  | openEngine opening committed => cases h
  | shutdown committed => cases h
  | restart config => cases h
  | _ => rfl

/-- An operation within an incarnation leaves the engine open as configured. -/
theorem stays_within {s : Impl} (hkeyed : s.ledger.Keyed)
    (hwithin : op.within = true) :
    (s.step op).config = s.config ∧ (s.step op).isOpen = s.isOpen ∧
      (s.step op).epoch = s.epoch ∧ (s.step op).boot = s.boot := by
  cases passes hkeyed hwithin with
  | quiet stays keeps =>
      exact ⟨stays.config, stays.isOpen, stays.epoch, stays.boot⟩
  | redeclared call found known step =>
      rw [step]
      exact ⟨rfl, rfl, rfl, rfl⟩
  | @commits t stays step =>
      obtain ⟨counters, submitted, heq⟩ := persistLocked_fst t op.answer
      rw [step, heq]
      exact ⟨stays.config, stays.isOpen, stays.epoch, stays.boot⟩

theorem durable_of_accepted {answer : Status} (h : d.Synced)
    (hguard : d.Careful op)
    (hpersist : d.engine.config.persistenceEnabled = true)
    (hdecision : op.decision = some answer)
    (haccepted : d.engine.accepted op = true) : (d.step op).Durable := by
  have hopen : d.engine.isOpen = true := by
    cases hopen : d.engine.isOpen with
    | true => rfl
    | false =>
        rw [not_accepted_of_closed hopen hdecision] at haccepted
        cases haccepted
  obtain ⟨hconfig, hisOpen, -, -⟩ := stays_within h.keyed
    (within_of_decision hdecision)
  have hsynced := synced_step h hguard
  obtain ⟨state, hstate, hagree⟩ := hsynced.saved
    (by rw [engine_step, hisOpen, hopen])
    (by rw [engine_step, hconfig, hpersist])
    (unsaved_of_accepted h hguard hpersist hopen hdecision haccepted)
  exact ⟨state, hstate, hagree,
    (generation_of_content hagree).trans hsynced.stamp.symm⟩

theorem accepted_decision_is_durable (config : EngineConfig)
    (submitted : List DurableState) (inputs : List Op) (op : Op)
    (answer : Status)
    (h : disk.Admits Careful (start config submitted) (inputs ++ [op]))
    (hpersist : (disk.run (start config submitted)
      inputs).engine.config.persistenceEnabled = true)
    (hdecision : op.decision = some answer)
    (haccepted : (disk.run (start config submitted) inputs).engine.accepted
      op = true) :
    (disk.run (start config submitted) (inputs ++ [op])).Durable := by
  obtain ⟨hrun, -, hguard, -⟩ := Machine.admits_append.mp h
  rw [Machine.run_append]
  exact durable_of_accepted (synced_run hrun) hguard hpersist hdecision
    haccepted

/-- A registration whose commit fails, and a policy that takes it along. -/
def savedLater : List Op :=
  [.openEngine { report := { usable := true } } committed,
    .registerFlow (sampleFlow 1 7 10) failedCommit,
    .setPolicy (samplePolicy false) committed]

theorem repeated_registration_is_durable :
    (disk.run (start durableConfig []) savedLater).engine.accepted
        (.registerFlow (sampleFlow 1 7 10) committed) = true ∧
      (disk.run (start durableConfig []) (savedLater ++
        [.registerFlow (sampleFlow 1 7 10) committed])).Durable :=
  ⟨by decide +kernel,
    accepted_decision_is_durable durableConfig [] savedLater _ committed
      (by decide +kernel) (by decide +kernel) rfl (by decide +kernel)⟩

/-- One host and one flow, ready to be placed. -/
def readyToPlace : List Op :=
  [.openEngine { report := { usable := true } } committed,
    .setPolicy (samplePolicy false) committed,
    .declareTarget (sampleHost 1) committed,
    .registerFlow (sampleFlow 1 7 10) committed]

/-- The placement is accepted although its commit failed. -/
theorem unsaved_placement_is_accepted :
    (disk.run (start durableConfig [])
        readyToPlace).engine.config.persistenceEnabled = true ∧
      (disk.run (start durableConfig []) readyToPlace).engine.accepted
        (.place (sampleRequest 1 1 [1]) failedCommit) = true ∧
      ¬ (disk.run (start durableConfig []) (readyToPlace ++
        [.place (sampleRequest 1 1 [1]) failedCommit])).Durable := by
  refine ⟨by decide +kernel, by decide +kernel, ?_⟩
  rintro ⟨state, hstate, hagree, -⟩
  have hstored : ((disk.run (start durableConfig []) (readyToPlace ++
      [.place (sampleRequest 1 1 [1]) failedCommit])).stored).map
        (fun state => state.content.assignments.length) = some 0 := by
    decide +kernel
  have hplaced : (disk.run (start durableConfig []) (readyToPlace ++
      [.place (sampleRequest 1 1 [1])
        failedCommit])).engine.content.assignments.length = 1 := by
    decide +kernel
  rw [hstate, Option.map_some, Option.some.injEq, hagree, hplaced] at hstored
  cases hstored

end Disk

end FlowOffload
