import FlowOffload.Laws.Reopen
import FlowOffload.Ledger.Numbers

/-!
# Identities over the life of a store

The counters of identities are not stored.  A restart resumes each of them
above the records that it finds, so an identity whose record is gone by then is
given out again.  As long as every opening finds, for each kind, a record with
a number at least as high as all that were given out, no identity is reused.
-/

namespace FlowOffload

open Foundation
open Std (ExtTreeMap)

/-- An engine, and the slots that ever carried an assignment, an attempt or a
fence, each with its number. -/
structure Archive where
  impl : Impl
  assignments : List (FlowId × Nat) := []
  attempts : List (MigrationAttemptId × Nat) := []
  fences : List (FenceId × Nat) := []

namespace Archive

open Impl

variable {a : Archive} {s t : Impl} {op : Op}

/-- What `t` carries in addition to `s`. -/
def grow (a : Archive) (s t : Impl) : Archive where
  impl := t
  assignments :=
    Register.added assignmentNumber s.assignments t.assignments ++
      a.assignments
  attempts :=
    Register.added attemptNumber s.migrations t.migrations ++ a.attempts
  fences := Register.added fenceNumber s.fences t.fences ++ a.fences

/-- The tables that an operation starts from. -/
def before (a : Archive) : Op → Impl
  | .openEngine opening _ => a.impl.reloaded opening
  | _ => a.impl

def step (a : Archive) (op : Op) : Archive :=
  a.grow (a.before op) (a.impl.step op)

/-- No counter has reached its maximum. -/
def Roomy (s : Impl) : Prop :=
  s.nextAssignment.toNat < counterLimit ∧ s.nextAttempt.toNat < counterLimit ∧
    s.nextFence.toNat < counterLimit

instance (s : Impl) : Decidable (Roomy s) := inferInstanceAs (Decidable (_ ∧ _))

/-- The store is in use, and keeps a history. -/
def durable (config : EngineConfig) : Bool :=
  config.persistenceEnabled && decide (1 ≤ config.maxHistory)

def keepsDurable : Op → Bool
  | .restart config => durable config
  | _ => true

def allowed (a : Archive) (op : Op) : Prop :=
  a.impl.allowed op ∧ keepsDurable op = true ∧ Roomy (a.impl.step op)

instance (a : Archive) (op : Op) : Decidable (a.allowed op) :=
  inferInstanceAs (Decidable (_ ∧ _))

/-- Every number is at most one of those that were found. -/
def Reached {κ : Type} (carried : List (κ × Nat)) (found : List Nat) : Prop :=
  ∀ item ∈ carried, ∃ n ∈ found, item.2 ≤ n

instance {κ : Type} (carried : List (κ × Nat)) (found : List Nat) :
    Decidable (Reached carried found) :=
  inferInstanceAs (Decidable (∀ item ∈ carried, ∃ n ∈ found, item.2 ≤ n))

def assignmentsOf (state : Option DurableState) : List Nat :=
  state.elim [] fun state =>
    state.assignments.map fun record => record.assignment.value.toNat

def attemptsOf (state : Option DurableState) : List Nat :=
  state.elim [] fun state =>
    state.migrations.map fun record => record.intent.attempt.value.toNat

def fencesOf (state : Option DurableState) : List Nat :=
  state.elim [] fun state => state.fences.map fun fence => fence.id.value.toNat

/-- An opening that takes effect finds a record with the highest number of
each kind, or one above it. -/
def Recalls (a : Archive) : Op → Prop
  | .openEngine opening _ =>
      a.impl.isOpen = false → opening.report.usable = true →
        Reached a.assignments (assignmentsOf opening.state) ∧
        Reached a.attempts (attemptsOf opening.state) ∧
        Reached a.fences (fencesOf opening.state)
  | _ => True

instance (a : Archive) : (op : Op) → Decidable (a.Recalls op)
  | .openEngine opening _ => inferInstanceAs (Decidable
      (a.impl.isOpen = false → opening.report.usable = true →
        Reached a.assignments (assignmentsOf opening.state) ∧
        Reached a.attempts (attemptsOf opening.state) ∧
        Reached a.fences (fencesOf opening.state)))
  | .restart _ | .shutdown _ | .registerFlow _ _ | .removeFlow _ _ _
  | .declareTarget _ _ | .removeTarget _ _ _ _ | .ingestLoad _
  | .setPolicy _ _ | .setTopologyGeneration _ _
  | .registerMigrationContract _ _ | .place _ _ | .rebalance _ _
  | .authorize _ _ | .revokeAuthorization _ | .issueIntent _ _ _
  | .acknowledge _ _ | .reportApplied _ _ | .observe _ _
  | .abortMigration _ _ _ => isTrue trivial

end Archive

/-- The engine and its archive, as a machine. -/
def archive : Machine Archive Op where
  step := Archive.step
  allowed := Archive.allowed

instance (a : Archive) (op : Op) : Decidable (archive.allowed a op) :=
  inferInstanceAs (Decidable (a.allowed op))

namespace Archive

open Impl

variable {a : Archive} {s t : Impl} {op : Op}

/-! ## What the archive knows of a state -/

/-- The archive has every record of `t`, and no number in it occurs twice. -/
structure Covers (a : Archive) (t : Impl) : Prop where
  assignments : Register.Kept assignmentNumber t.assignments
    t.nextAssignment.toNat a.assignments
  attempts : Register.Kept attemptNumber t.migrations t.nextAttempt.toNat
    a.attempts
  fences : Register.Kept fenceNumber t.fences t.nextFence.toNat a.fences

/-- The counters of `t` are above everything in the archive. -/
structure Bounds (a : Archive) (t : Impl) : Prop where
  assignments : ∀ item ∈ a.assignments, item.2 < t.nextAssignment.toNat
  attempts : ∀ item ∈ a.attempts, item.2 < t.nextAttempt.toNat
  fences : ∀ item ∈ a.fences, item.2 < t.nextFence.toNat

/-- The archive has every record of `t`. -/
structure Holds (a : Archive) (t : Impl) : Prop where
  assignments : ∀ flow assignment, lookup t.assignments flow = some assignment →
    (flow, assignmentNumber flow assignment) ∈ a.assignments
  attempts : ∀ k record, lookup t.migrations k = some record →
    (k, attemptNumber k record) ∈ a.attempts
  fences : ∀ k fence, lookup t.fences k = some fence →
    (k, fenceNumber k fence) ∈ a.fences

/-- The store was given the image of a state that the archive knows. -/
def Knows (a : Archive) (state : DurableState) : Prop :=
  ∃ t : Impl, t.ledger.Keyed ∧ FencesKeyed t.fences ∧
    state = t.buildDurableLocked ∧ a.Holds t

/-- No identity is carried by two records, and the archive has all records. -/
structure Unique (a : Archive) : Prop where
  assignments : (a.assignments.map Prod.snd).Nodup
  attempts : (a.attempts.map Prod.snd).Nodup
  fences : (a.fences.map Prod.snd).Nodup
  holds : a.Holds a.impl

structure Sound (a : Archive) : Prop where
  persistent : a.impl.config.persistenceEnabled = true
  keyed : a.impl.ledger.Keyed
  fences : FencesKeyed a.impl.fences
  covers : a.Covers a.impl
  bounded : a.impl.isOpen = true → a.Bounds a.impl
  known : ∀ state ∈ a.impl.submitted, a.Knows state

theorem Covers.holds (h : a.Covers t) : a.Holds t :=
  ⟨h.assignments.held, h.attempts.held, h.fences.held⟩

theorem Covers.unique (h : a.Covers a.impl) : a.Unique :=
  ⟨h.assignments.unique, h.attempts.unique, h.fences.unique, h.holds⟩

theorem Holds.grow (h : a.Holds t) (u v : Impl) : (a.grow u v).Holds t where
  assignments := fun flow assignment hfound =>
    List.mem_append_right _ (h.assignments flow assignment hfound)
  attempts := fun k record hfound =>
    List.mem_append_right _ (h.attempts k record hfound)
  fences := fun k fence hfound =>
    List.mem_append_right _ (h.fences k fence hfound)

theorem Covers.grow (h : a.Covers s) (hbounds : a.Bounds s)
    (hnumbers : s.Numbers t) (hroom : Roomy t) :
    (a.grow s t).Covers t ∧ (a.grow s t).Bounds t := by
  obtain ⟨hassignments, hbelow⟩ := h.assignments.gives hnumbers.assignments
    hroom.1 hbounds.assignments
  obtain ⟨hattempts, hbelow'⟩ := h.attempts.gives hnumbers.attempts hroom.2.1
    hbounds.attempts
  obtain ⟨hfences, hbelow''⟩ := h.fences.gives hnumbers.fences hroom.2.2
    hbounds.fences
  exact ⟨⟨hassignments, hattempts, hfences⟩, ⟨hbelow, hbelow', hbelow''⟩⟩

/-! ## What an opening finds -/

theorem number_durableAssignment (flow : FlowId) (assignment : Assignment) :
    assignmentNumber flow (durableAssignment assignment) =
      assignmentNumber flow assignment := by
  unfold durableAssignment
  split <;> rfl

theorem Knows.holds {state : DurableState} (h : a.Knows state) (u : Impl) :
    a.Holds (u.restoreLocked state) := by
  obtain ⟨t, hkeyed, hfences, rfl, hholds⟩ := h
  refine ⟨?_, ?_, ?_⟩
  · intro flow assignment hfound
    have hrestored := restored_assignment hkeyed flow
    change lookup (u.restoreLocked t.buildDurableLocked).assignments flow = _
      at hrestored
    rw [hfound, eq_comm, Option.map_eq_some_iff] at hrestored
    obtain ⟨old, hold, rfl⟩ := hrestored
    rw [number_durableAssignment]
    exact hholds.assignments flow old hold
  · intro k record hfound
    have hrestored := restored_attempt hkeyed k
    change lookup (u.restoreLocked t.buildDurableLocked).migrations k = _
      at hrestored
    rw [hfound, eq_comm, Option.map_eq_some_iff] at hrestored
    obtain ⟨old, hold, -⟩ := hrestored
    exact hholds.attempts k old hold
  · intro k fence hfound
    obtain ⟨hmem, hk⟩ := mem_of_lookup_indexBy hfound
    obtain ⟨stored, hstored, rfl⟩ := List.mem_map.mp hmem
    have hperm : t.buildDurableLocked.fences.Perm
        (t.fences.toList.map Prod.snd) := sortByKey_perm _ _
    obtain ⟨entry, hentry, rfl⟩ := List.mem_map.mp (hperm.mem_iff.mp hstored)
    have hlookup := lookup_eq_some_iff_mem_toList.mpr hentry
    have hkey : k = entry.1 := hk.symm.trans (hfences entry.1 entry.2 hlookup)
    subst hkey
    exact hholds.fences entry.1 entry.2 hlookup

/-- The records of a recovered state are all in the tables. -/
theorem Knows.recovers {state : DurableState} (h : a.Knows state) (u : Impl) :
    (∀ n ∈ assignmentsOf (some state), ∃ flow,
        (u.restoreLocked state).assignmentRegister.held flow = some n) ∧
      (∀ n ∈ attemptsOf (some state), ∃ k,
        (u.restoreLocked state).attemptRegister.held k = some n) ∧
      ∀ n ∈ fencesOf (some state), ∃ k,
        (u.restoreLocked state).fenceRegister.held k = some n := by
  obtain ⟨t, hkeyed, hfences, rfl, -⟩ := h
  refine ⟨?_, ?_, ?_⟩
  · intro n hn
    obtain ⟨stored, hstored, rfl⟩ := List.mem_map.mp hn
    have hperm : t.buildDurableLocked.assignments.Perm
        (t.assignments.toList.map fun entry => durableAssignment entry.2) :=
      sortByKey_perm _ _
    obtain ⟨entry, hentry, rfl⟩ := List.mem_map.mp (hperm.mem_iff.mp hstored)
    have hrestored := restored_assignment hkeyed entry.1
    have hlookup : t.ledger.assignment entry.1 = some entry.2 :=
      lookup_eq_some_iff_mem_toList.mpr hentry
    rw [hlookup] at hrestored
    refine ⟨entry.1, ?_⟩
    change ((restoredLedger t.buildDurableLocked).assignment entry.1).map
      (assignmentNumber entry.1) = _
    rw [hrestored]
    rfl
  · intro n hn
    obtain ⟨stored, hstored, rfl⟩ := List.mem_map.mp hn
    have hperm : t.buildDurableLocked.migrations.Perm
        (t.migrations.toList.map Prod.snd) := sortByKey_perm _ _
    obtain ⟨entry, hentry, rfl⟩ := List.mem_map.mp (hperm.mem_iff.mp hstored)
    have hrestored := restored_attempt hkeyed entry.1
    have hlookup : t.ledger.attempt entry.1 = some entry.2 :=
      lookup_eq_some_iff_mem_toList.mpr hentry
    rw [hlookup] at hrestored
    refine ⟨entry.1, ?_⟩
    change ((restoredLedger t.buildDurableLocked).attempt entry.1).map
      (attemptNumber entry.1) = _
    rw [hrestored, hkeyed.attempt entry.1 entry.2 hlookup]
    rfl
  · intro n hn
    obtain ⟨stored, hstored, rfl⟩ := List.mem_map.mp hn
    have hmem : ({ stored with active := false } : FenceRecord) ∈
        t.buildDurableLocked.fences.map fun fence =>
          { fence with active := false } := List.mem_map_of_mem hstored
    obtain ⟨kept, hkept⟩ : ∃ kept, lookup (indexBy FenceRecord.id
        (t.buildDurableLocked.fences.map fun fence =>
          { fence with active := false })) stored.id = some kept :=
      exists_lookup_indexBy hmem rfl
    refine ⟨stored.id, ?_⟩
    change (lookup (indexBy FenceRecord.id (t.buildDurableLocked.fences.map
      fun fence => { fence with active := false })) stored.id).map
        (fenceNumber stored.id) = _
    rw [hkept]
    rfl

/-- Numbers that were found are below the counter that was resumed. -/
theorem Reached.below {κ κ' : Type} {carried : List (κ × Nat)}
    {found : List Nat} {register : Register κ'} (h : Reached carried found)
    (hfound : ∀ n ∈ found, ∃ k, register.held k = some n)
    (hbelow : register.Below) : ∀ item ∈ carried, item.2 < register.next := by
  intro item hitem
  obtain ⟨n, hn, hle⟩ := h item hitem
  obtain ⟨k, hk⟩ := hfound n hn
  exact Nat.lt_of_le_of_lt hle (hbelow k n hk)

theorem covers_restored {state : DurableState} (hcovers : a.Covers t)
    (hknows : a.Knows state) (u : Impl)
    (hroom : Roomy (u.restoreLocked state)) :
    a.Covers (u.restoreLocked state) := by
  obtain ⟨hassignments, hattempts, hfences⟩ := below_restoreLocked u state
  have hholds := hknows.holds u
  exact ⟨⟨hassignments hroom.1, hcovers.assignments.unique, hholds.assignments⟩,
    ⟨hattempts hroom.2.1, hcovers.attempts.unique, hholds.attempts⟩,
    ⟨hfences hroom.2.2, hcovers.fences.unique, hholds.fences⟩⟩

theorem bounds_restored {state : DurableState} (hknows : a.Knows state)
    (u : Impl) (hcovers : a.Covers (u.restoreLocked state))
    (hassignments : Reached a.assignments (assignmentsOf (some state)))
    (hattempts : Reached a.attempts (attemptsOf (some state)))
    (hfences : Reached a.fences (fencesOf (some state))) :
    a.Bounds (u.restoreLocked state) := by
  obtain ⟨hrecovers, hrecovers', hrecovers''⟩ := hknows.recovers u
  exact ⟨hassignments.below hrecovers hcovers.assignments.below,
    hattempts.below hrecovers' hcovers.attempts.below,
    hfences.below hrecovers'' hcovers.fences.below⟩

/-! ## Runs -/

theorem Numbers.roomy (h : s.Numbers t) (hroom : Roomy t) : Roomy s :=
  ⟨Nat.lt_of_le_of_lt h.assignments.le hroom.1,
    Nat.lt_of_le_of_lt h.attempts.le hroom.2.1,
    Nat.lt_of_le_of_lt h.fences.le hroom.2.2⟩

/-- The archive does not grow while the records stay the same. -/
theorem grow_eq (hassignments : t.assignments = s.assignments)
    (hmigrations : t.migrations = s.migrations)
    (hfences : t.fences = s.fences) : a.grow s t = { a with impl := t } := by
  unfold grow
  rw [hassignments, hmigrations, hfences,
    Register.added_eq_nil fun k v hk => by rw [hk, Option.map_some],
    Register.added_eq_nil fun k v hk => by rw [hk, Option.map_some],
    Register.added_eq_nil fun k v hk => by rw [hk, Option.map_some]]
  rfl

theorem covers_of_eq (h : a.Covers s) (hassignments : t.assignments =
      s.assignments) (hnextAssignment : t.nextAssignment = s.nextAssignment)
    (hmigrations : t.migrations = s.migrations)
    (hnextAttempt : t.nextAttempt = s.nextAttempt)
    (hfences : t.fences = s.fences)
    (hnextFence : t.nextFence = s.nextFence) : (a.grow s t).Covers t := by
  rw [grow_eq hassignments hmigrations hfences]
  refine ⟨?_, ?_, ?_⟩
  · rw [hassignments, hnextAssignment]
    exact h.assignments
  · rw [hmigrations, hnextAttempt]
    exact h.attempts
  · rw [hfences, hnextFence]
    exact h.fences

/-- A new engine has no records. -/
theorem covers_init (h : a.Covers s) (config : EngineConfig)
    (submitted : List DurableState) :
    (a.grow s (init config submitted)).Covers (init config submitted) := by
  have hempty : ∀ {κ ν : Type} [Ord κ] [Std.TransOrd κ] [Std.LawfulEqOrd κ]
      [DecidableEq κ] {number : κ → ν → Nat} {m : ExtTreeMap κ ν}
      {carried : List (κ × Nat)}, (carried.map Prod.snd).Nodup →
        Register.Kept number ∅ 1 (Register.added number m ∅ ++ carried) := by
    intro κ ν _ _ _ _ number m carried hunique
    have hadded : Register.added number m ∅ = [] :=
      Register.added_eq_nil fun k v hk => by simp at hk
    rw [hadded]
    refine ⟨fun k n hk => ?_, hunique, fun k v hk => by simp at hk⟩
    change (lookup ∅ k).map (number k) = some n at hk
    simp at hk
  exact ⟨hempty h.assignments.unique, hempty h.attempts.unique,
    hempty h.fences.unique⟩

/-- An opening that takes effect starts above everything in the archive. -/
theorem Sound.found (h : a.Sound) {opening : StoreOpening} {answer : Status}
    (hclosed : a.impl.isOpen = false) (husable : opening.report.usable = true)
    (hstate : ∀ state ∈ opening.state, state ∈ a.impl.submitted)
    (hguard : a.Recalls (.openEngine opening answer))
    (hroom : Roomy (a.impl.found opening).1) :
    a.Covers (a.impl.found opening).1 ∧ a.Bounds (a.impl.found opening).1 := by
  obtain ⟨hassignments, hattempts, hfences⟩ := hguard hclosed husable
  cases hfound : opening.state with
  | none =>
      rw [hfound] at hassignments hattempts hfences
      rw [found_none h.persistent hfound]
      have hnone : ∀ {κ : Type} {carried : List (κ × Nat)},
          Reached carried [] → ∀ item ∈ carried, ∀ n, item.2 < n := by
        intro κ carried hreached item hitem
        obtain ⟨n, hn, -⟩ := hreached item hitem
        cases hn
      exact ⟨⟨h.covers.assignments, h.covers.attempts, h.covers.fences⟩,
        ⟨fun item hitem => hnone hassignments item hitem _,
          fun item hitem => hnone hattempts item hitem _,
          fun item hitem => hnone hfences item hitem _⟩⟩
  | some state =>
      rw [hfound] at hassignments hattempts hfences
      rw [found_some h.persistent hfound] at hroom ⊢
      have hknows := h.known state (hstate state hfound)
      have hcovers := covers_restored h.covers hknows
        { a.impl with recovery := opening.report } hroom
      exact ⟨hcovers, bounds_restored hknows _ hcovers hassignments hattempts
        hfences⟩

theorem Sound.openEngine (h : a.Sound) {opening : StoreOpening}
    {answer : Status} (hallowed : a.allowed (.openEngine opening answer))
    (hguard : a.Recalls (.openEngine opening answer)) :
    (a.step (.openEngine opening answer)).Covers
        (a.impl.openEngine opening answer).1 ∧
      ((a.impl.openEngine opening answer).1.isOpen = true →
        (a.step (.openEngine opening answer)).Bounds
          (a.impl.openEngine opening answer).1) := by
  have hnumbers := numbers_openEngine a.impl opening answer
  have hgrown : a.Covers (a.impl.reloaded opening) →
      a.Bounds (a.impl.reloaded opening) →
      (a.step (.openEngine opening answer)).Covers
        (a.impl.openEngine opening answer).1 ∧
      ((a.impl.openEngine opening answer).1.isOpen = true →
        (a.step (.openEngine opening answer)).Bounds
          (a.impl.openEngine opening answer).1) := by
    intro hcovers hbounds
    obtain ⟨hafter, hbounded⟩ := hcovers.grow hbounds hnumbers hallowed.2.2
    exact ⟨hafter, fun _ => hbounded⟩
  cases hopen : a.impl.isOpen with
  | true =>
      have hbase : a.impl.reloaded opening = a.impl := by
        simp [reloaded, hopen]
      rw [hbase] at hgrown
      exact hgrown h.covers (h.bounded hopen)
  | false =>
      cases husable : opening.report.usable with
      | false =>
          have hbase : a.impl.reloaded opening = a.impl := by
            simp [reloaded, h.persistent, husable]
          have hrefused : (a.impl.openEngine opening answer).1 =
              { a.impl with recovery := opening.report } := by
            simp [Impl.openEngine, hopen, h.persistent, husable]
          have hstep : a.step (.openEngine opening answer) =
              a.grow a.impl (a.impl.openEngine opening answer).1 :=
            congrArg (a.grow · (a.impl.openEngine opening answer).1) hbase
          rw [hstep, hrefused]
          refine ⟨covers_of_eq h.covers rfl rfl rfl rfl rfl rfl, ?_⟩
          intro hafter
          exact absurd (hopen.symm.trans hafter) Bool.false_ne_true
      | true =>
          have hbase : a.impl.reloaded opening = (a.impl.found opening).1 := by
            simp [reloaded, hopen, husable]
          have hroom := Numbers.roomy hnumbers hallowed.2.2
          rw [hbase] at hgrown hroom
          obtain ⟨hcovers, hbounds⟩ := h.found hopen husable hallowed.1 hguard
            hroom
          exact hgrown hcovers hbounds

theorem Sound.tables (h : a.Sound) (hallowed : a.allowed op)
    (hguard : a.Recalls op) :
    (a.step op).Covers (a.impl.step op) ∧
      ((a.impl.step op).isOpen = true →
        (a.step op).Bounds (a.impl.step op)) := by
  have hwithin : op.within = true →
      (a.grow a.impl (a.impl.step op)).Covers (a.impl.step op) ∧
      ((a.impl.step op).isOpen = true →
        (a.grow a.impl (a.impl.step op)).Bounds (a.impl.step op)) := by
    intro hop
    cases hopen : a.impl.isOpen with
    | true =>
        obtain ⟨hafter, hbounded⟩ := h.covers.grow (h.bounded hopen)
          (numbers_step h.keyed hop) hallowed.2.2
        exact ⟨hafter, fun _ => hbounded⟩
    | false =>
        rw [Life.step_of_closed hopen hop]
        refine ⟨covers_of_eq h.covers rfl rfl rfl rfl rfl rfl, ?_⟩
        intro hafter
        exact absurd (hopen.symm.trans hafter) Bool.false_ne_true
  cases op with
  | openEngine opening answer => exact h.openEngine hallowed hguard
  | restart config =>
      exact ⟨covers_init h.covers config a.impl.submitted,
        fun hafter => absurd hafter Bool.false_ne_true⟩
  | shutdown answer =>
      cases hopen : a.impl.isOpen with
      | true =>
          obtain ⟨hafter, hbounded⟩ := h.covers.grow (h.bounded hopen)
            (numbers_shutdown a.impl answer) hallowed.2.2
          exact ⟨hafter, fun _ => hbounded⟩
      | false =>
          have hsame : a.impl.step (.shutdown answer) =
              { a.impl with isOpen := false } := by
            simp [Impl.step, shutdown, hopen]
          change (a.grow a.impl (a.impl.step (.shutdown answer))).Covers _ ∧
            (_ → (a.grow a.impl (a.impl.step (.shutdown answer))).Bounds _)
          rw [hsame]
          exact ⟨covers_of_eq h.covers rfl rfl rfl rfl rfl rfl,
            fun hafter => absurd hafter Bool.false_ne_true⟩
  | _ => exact hwithin rfl

theorem persistent_step (h : a.Sound) (hallowed : a.allowed op) :
    (a.impl.step op).config.persistenceEnabled = true := by
  have hwithin : op.within = true →
      (a.impl.step op).config.persistenceEnabled = true := by
    intro hop
    rw [(Disk.stays_within h.keyed hop).1]
    exact h.persistent
  cases op with
  | openEngine opening answer =>
      cases hopen : a.impl.isOpen with
      | true => simpa [Impl.step, Impl.openEngine, hopen] using h.persistent
      | false =>
          change (a.impl.openEngine opening answer).1.config.persistenceEnabled
            = true
          rw [(Life.openEngine_frame hopen opening answer).1]
          exact h.persistent
  | restart config =>
      have hdurable : durable config = true := hallowed.2.1
      rw [durable, Bool.and_eq_true] at hdurable
      exact hdurable.1
  | shutdown answer =>
      obtain ⟨counters, submitted, heq⟩ := persistLocked_fst a.impl answer
      change (a.impl.shutdown answer).config.persistenceEnabled = true
      unfold shutdown
      split
      · rw [heq]
        exact h.persistent
      · exact h.persistent
  | _ => exact hwithin rfl

theorem Knows.grow {state : DurableState} (h : a.Knows state) (u v : Impl) :
    (a.grow u v).Knows state := by
  obtain ⟨t, hkeyed, hfences, hstate, hholds⟩ := h
  exact ⟨t, hkeyed, hfences, hstate, hholds.grow u v⟩

theorem sound_step (h : a.Sound) (hallowed : a.allowed op)
    (hguard : a.Recalls op) : (a.step op).Sound := by
  obtain ⟨hcovers, hbounded⟩ := h.tables hallowed hguard
  refine ⟨persistent_step h hallowed, keyed_step h.keyed op,
    fencesKeyed_step h.keyed h.fences op, hcovers, hbounded, ?_⟩
  intro state hstate
  rcases recorded_step op state hstate with hold | ⟨counters, rfl⟩
  · exact (h.known state hold).grow _ _
  · exact ⟨{ a.impl.step op with counters := counters },
      keyed_step h.keyed op, fencesKeyed_step h.keyed h.fences op, rfl,
      ⟨hcovers.holds.assignments, hcovers.holds.attempts,
        hcovers.holds.fences⟩⟩

theorem sound_init {config : EngineConfig} (hdurable : durable config = true) :
    Sound { impl := init config [] } := by
  rw [durable, Bool.and_eq_true] at hdurable
  have hempty : ∀ {κ ν : Type} [Ord κ] [Std.TransOrd κ] [Std.LawfulEqOrd κ]
      [DecidableEq κ] {number : κ → ν → Nat},
        Register.Kept number ∅ 1 [] := by
    intro κ ν _ _ _ _ number
    refine ⟨fun k n hk => ?_, List.nodup_nil, fun k v hk => by simp at hk⟩
    change (lookup ∅ k).map (number k) = some n at hk
    simp at hk
  have hkeyed : (init config []).ledger.Keyed := by
    simpa [init, ledger, Ledger.empty] using Ledger.wellFormed_empty.toKeyed
  have hfences : FencesKeyed (init config []).fences := by
    intro k fence hk
    change lookup ∅ k = some fence at hk
    simp at hk
  have hcovers : Covers { impl := init config [] } (init config []) :=
    ⟨hempty, hempty, hempty⟩
  have hsubmitted : (init config []).submitted = [] := rfl
  refine ⟨hdurable.1, hkeyed, hfences, hcovers, fun hopen => ?_,
    fun state hstate => ?_⟩
  · exact absurd hopen Bool.false_ne_true
  · rw [hsubmitted] at hstate
    cases hstate

/--
While no counter reaches its maximum and every opening finds, for each kind, a
record with a number at least as high as all that were given out, no two
assignments, no two attempts and no two fences of a store carry one identity.
-/
theorem identities_are_never_reused {config : EngineConfig}
    (hdurable : durable config = true) (inputs : List Op)
    (h : archive.Admits Recalls { impl := init config [] } inputs) :
    (archive.run { impl := init config [] } inputs).Unique := by
  have hsound : (archive.run { impl := init config [] } inputs).Sound :=
    h.invariant (P := Sound)
      (fun _ _ hs hallowed hguard => sound_step hs hallowed hguard)
      (sound_init hdurable)
  exact hsound.covers.unique

/-- One flow is placed. -/
def placedOnce : List Op :=
  Disk.readyToPlace ++ [.place (sampleRequest 1 1 [1]) committed]

/-- A restart with everything that was committed, and another flow. -/
def restartedAfter (inputs : List Op) : List Op :=
  inputs ++
    [.restart durableConfig,
      .openEngine
        { report := { usable := true }
          state :=
            (engine.run (init durableConfig []) inputs).submitted.head? }
        committed,
      .declareTarget (sampleHost 1) committed,
      .registerFlow (sampleFlow 2 8 10) committed,
      .place (sampleRequest 2 1 [2]) committed]

/-- The second flow gets the next number while the first one is placed. -/
theorem restarted_identities_differ :
    (archive.run { impl := init durableConfig [] }
        (restartedAfter placedOnce)).Unique ∧
      (archive.run { impl := init durableConfig [] }
        (restartedAfter placedOnce)).assignments =
          [(⟨2⟩, 2), (⟨1⟩, 1)] := by
  have hall : archive.Admits Recalls { impl := init durableConfig [] }
        (restartedAfter placedOnce) ∧
      (archive.run { impl := init durableConfig [] }
        (restartedAfter placedOnce)).assignments = [(⟨2⟩, 2), (⟨1⟩, 1)] := by
    decide +kernel
  exact ⟨identities_are_never_reused (by decide) _ hall.1, hall.2⟩

/-- Without the first flow no record of its placement is left, and the second
flow gets its number. -/
theorem removed_identity_is_reused :
    archive.Admits (fun _ _ => True) { impl := init durableConfig [] }
        (restartedAfter (placedOnce ++ [.removeFlow ⟨1⟩ {} committed])) ∧
      ¬ (archive.run { impl := init durableConfig [] }
        (restartedAfter (placedOnce ++
          [.removeFlow ⟨1⟩ {} committed]))).Unique := by
  have hall : archive.Admits (fun _ _ => True)
        { impl := init durableConfig [] }
        (restartedAfter (placedOnce ++ [.removeFlow ⟨1⟩ {} committed])) ∧
      (archive.run { impl := init durableConfig [] }
        (restartedAfter (placedOnce ++
          [.removeFlow ⟨1⟩ {} committed]))).assignments =
            [(⟨2⟩, 1), (⟨1⟩, 1)] := by
    decide +kernel
  obtain ⟨hadmits, hnumbers⟩ := hall
  refine ⟨hadmits, fun h => ?_⟩
  have hunique := h.assignments
  rw [hnumbers] at hunique
  exact absurd hunique (by decide)

end Archive

end FlowOffload
