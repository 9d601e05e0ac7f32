import FlowOffload.Engine.Handoff
import FlowOffload.Laws.Phases

/-!
# Failed commits

A decision changes the maps first and commits afterwards, and nothing is taken
back when the commit fails.  So a failed decision leaves the state as it was
exactly when there was nothing to change: a target that is removed once more,
or an intent for which every identity is used up.
-/

namespace FlowOffload

open Foundation

namespace Impl

variable {s : Impl} {answer : Status}

theorem sameState_persistLocked {t : Impl} :
    s.SameState (t.persistLocked answer).1 ↔ s.SameState t := by
  obtain ⟨counters, submitted, heq⟩ := persistLocked_fst t answer
  rw [heq]
  constructor <;> rintro ⟨h1, h2, h3, h4, h5, h6, h7, h8, h9, h10, h11, h12⟩ <;>
    exact ⟨h1, h2, h3, h4, h5, h6, h7, h8, h9, h10, h11, h12⟩

theorem Counted.submitted_eq {after : Impl} (h : s.Counted after) :
    after.submitted = s.submitted := by
  obtain ⟨counters, refusals, rfl⟩ := h
  rfl

/-- The decision reached the store, and the store did not take it. -/
structure FailsToCommit (s : Impl) (op : Op) : Prop where
  reached : (s.step op).submitted ≠ s.submitted
  refused : s.accepted op = false

theorem FailsToCommit.sameState_iff {op : Op} {after : Impl}
    {accepted : Bool} (h : s.Ends op answer after accepted)
    (hreached : after.submitted ≠ s.submitted) (hrefused : accepted = false) :
    s.SameState after ↔ s.Idle op := by
  cases h with
  | refused counted => exact absurd counted.submitted_eq hreached
  | repeated counted known => cases hrefused
  | redeclared call found known => cases hrefused
  | placed call executed commit => cases hrefused
  | committed stays targets change =>
      exact sameState_persistLocked.trans change

theorem failed_commit_changes_nothing_iff (config : EngineConfig)
    (inputs : List Op) (op : Op) (answer : Status)
    (h : engine.Admits (fun _ _ => True) (init config []) inputs)
    (hdecision : op.decision = some answer)
    (hfails : (engine.run (init config []) inputs).FailsToCommit op) :
    (engine.run (init config []) inputs).SameState
        ((engine.run (init config []) inputs).step op) ↔
      (engine.run (init config []) inputs).Idle op :=
  FailsToCommit.sameState_iff
    (ends_step (wellFormed_run h).toKeyed.attempt hdecision) hfails.reached
    hfails.refused

/-- An engine that keeps no fence, and a host that is removed twice. -/
def removedTwice : List Op :=
  [.openEngine { report := { usable := true } } committed,
    .declareTarget (sampleHost 1) committed,
    .removeTarget ⟨1⟩ ⟨1⟩ ⟨1⟩ committed]

def fencelessConfig : EngineConfig := { durableConfig with maxHistory := 0 }

/-- The second removal finds nothing left to do. -/
theorem idle_removedTwice :
    (engine.run (init fencelessConfig []) removedTwice).Idle
      (.removeTarget ⟨1⟩ ⟨1⟩ ⟨2⟩ failedCommit) := by
  have hentry : ((engine.run (init fencelessConfig [])
      removedTwice).targets[(⟨1⟩ : TargetId)]?).map (fun target =>
        (target.descriptor.lifecycle, target.declared, target.hasLoad,
          target.conflicting)) = some (.removed, true, false, false) := by
    decide +kernel
  have hassignments : (engine.run (init fencelessConfig [])
      removedTwice).assignments.toList = [] := by
    decide +kernel
  have hmigrations : (engine.run (init fencelessConfig [])
      removedTwice).migrations.toList = [] := by
    decide +kernel
  obtain ⟨existing, hfound, hfields⟩ := Option.map_eq_some_iff.mp hentry
  simp only [Prod.mk.injEq] at hfields
  obtain ⟨hlifecycle, hdeclared, hload, hconflicting⟩ := hfields
  refine ⟨existing, hfound, ⟨hlifecycle, hdeclared, hload, hconflicting, ?_, ?_,
    Std.ExtTreeMap.toList_inj.mp (by decide +kernel)⟩,
    Std.ExtTreeMap.toList_inj.mp (by decide +kernel)⟩
  · intro flow a ha
    rw [lookup_eq_some_iff_mem_toList, hassignments] at ha
    cases ha
  · intro k record hrecord
    rw [lookup_eq_some_iff_mem_toList, hmigrations] at hrecord
    cases hrecord

theorem failed_second_removal_changes_nothing :
    (engine.run (init fencelessConfig []) removedTwice).FailsToCommit
        (.removeTarget ⟨1⟩ ⟨1⟩ ⟨2⟩ failedCommit) ∧
      (engine.run (init fencelessConfig []) removedTwice).SameState
        ((engine.run (init fencelessConfig []) removedTwice).step
          (.removeTarget ⟨1⟩ ⟨1⟩ ⟨2⟩ failedCommit)) := by
  have hfails : (engine.run (init fencelessConfig [])
      removedTwice).FailsToCommit
        (.removeTarget ⟨1⟩ ⟨1⟩ ⟨2⟩ failedCommit) := by
    constructor <;> decide +kernel
  exact ⟨hfails, (failed_commit_changes_nothing_iff fencelessConfig
    removedTwice _ failedCommit (by decide +kernel) rfl hfails).mpr
      idle_removedTwice⟩

/-- A registration that the store refuses is reported as failed, and the flow
is registered all the same. -/
theorem failed_registration_is_kept :
    engine.Admits (fun _ _ => True) (init durableConfig [])
        [.openEngine { report := { usable := true } } committed] ∧
      (engine.run (init durableConfig [])
        [.openEngine { report := { usable := true } } committed]
          ).FailsToCommit (.registerFlow (sampleFlow 1 7 10) failedCommit) ∧
      ¬ (engine.run (init durableConfig [])
        [.openEngine { report := { usable := true } } committed]).SameState
          ((engine.run (init durableConfig [])
            [.openEngine { report := { usable := true } } committed]).step
              (.registerFlow (sampleFlow 1 7 10) failedCommit)) := by
  refine ⟨by decide +kernel, by constructor <;> decide +kernel, ?_⟩
  intro hsame
  have hbefore : (engine.run (init durableConfig [])
      [.openEngine { report := { usable := true } }
        committed]).flows.toList.length = 0 := by
    decide +kernel
  have hafter : ((engine.run (init durableConfig [])
      [.openEngine { report := { usable := true } } committed]).step
        (.registerFlow (sampleFlow 1 7 10)
          failedCommit)).flows.toList.length = 1 := by
    decide +kernel
  rw [hsame.flows, hbefore] at hafter
  cases hafter

end Impl

end FlowOffload
