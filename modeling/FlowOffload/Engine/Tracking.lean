import FlowOffload.Engine.Async

/-!
# One operation under any order of critical sections

One operation is followed by its address, through the call of `submit`, the
queue, the job and the table.  `Next` lists everything that a critical section
can do to it; the invariant `Tracked` also counts how often it was placed and
how often a result was published for it.
-/

namespace FlowOffload.AsyncEngine

open Std (ExtTreeMap)
open Foundation

variable {s t : AsyncEngine} {ref : Nat} {before stage : Stage}
  {operation : AsyncOperation} {ran published : Nat → Nat}

/-! ## One operation -/

/-- An operation and how far its submission has come. -/
def track (s : AsyncEngine) (ref : Nat) : Option (Stage × AsyncOperation) :=
  (s.stageAt ref).bind fun stage =>
    (lookup s.heap ref).map fun operation => (stage, operation)

theorem track_eq_some_iff :
    s.track ref = some (stage, operation) ↔
      s.stageAt ref = some stage ∧ lookup s.heap ref = some operation := by
  unfold track
  cases s.stageAt ref with
  | none => simp
  | some old => cases lookup s.heap ref <;> simp

/-- What one critical section can do to an operation, and whether it places
the request or publishes the result. -/
inductive Next : Option (Stage × AsyncOperation) → Stage → AsyncOperation →
    Bool → Bool → Prop where
  | created (id : OperationId) : Next none .submitted { id := id } false false
  | refused (operation : AsyncOperation) :
      Next (some (.submitted, operation)) .refused operation false false
  | queued (operation : AsyncOperation) :
      Next (some (.submitted, operation)) .queued operation false false
  | inline (operation : AsyncOperation) :
      Next (some (.submitted, operation)) .picked operation false false
  | picked (operation : AsyncOperation) :
      Next (some (.queued, operation)) .picked operation false false
  | asked (stage : Stage) {operation : AsyncOperation}
      (pending : operation.state = .pending) :
      Next (some (stage, operation)) stage
        { operation with cancelRequested := true } false false
  | withdrawn (operation : AsyncOperation) :
      Next (some (.picked, operation)) .returned
        { operation with
          state := .cancelled
          reason := .rejectedCancelled } false false
  | started {operation : AsyncOperation}
      (wanted : operation.cancelRequested = false) :
      Next (some (.picked, operation)) .placing
        { operation with state := .running } false false
  | ran (operation : AsyncOperation) (result : PlacementResult) :
      Next (some (.placing, operation)) (.placed result) operation true false
  | published (operation : AsyncOperation) (result : PlacementResult) :
      Next (some (.placed result, operation)) .returned
        (publish result operation) false true
  | rejected (operation : AsyncOperation) :
      Next (some (.refused, operation)) .returned
        { operation with
          state := .rejected
          reason := .rejectedQueueFull } false false

/-- What an operation looks like at each stage, after it was placed and
published so often. -/
def Fits : Option (Stage × AsyncOperation) → Nat → Nat → Prop
  | none, ran, published => ran = 0 ∧ published = 0
  | some (.submitted, operation), ran, published
  | some (.refused, operation), ran, published
  | some (.queued, operation), ran, published
  | some (.picked, operation), ran, published =>
      operation.state = .pending ∧ operation.hasResult = false ∧
        ran = 0 ∧ published = 0
  | some (.placing, operation), ran, published =>
      operation.state = .running ∧ operation.hasResult = false ∧
        operation.cancelRequested = false ∧ ran = 0 ∧ published = 0
  | some (.placed _, operation), ran, published =>
      operation.state = .running ∧ operation.hasResult = false ∧
        operation.cancelRequested = false ∧ ran = 1 ∧ published = 0
  | some (.returned, operation), ran, published =>
      operation.state.isTerminal = true ∧
        (operation.hasResult = false ∧ ran = 0 ∧ published = 0 ∨
          operation.hasResult = true ∧ operation.cancelRequested = false ∧
            ran = 1 ∧ published = 1)

theorem Fits.next {before : Option (Stage × AsyncOperation)} {r d : Bool}
    {ran published : Nat} (h : Fits before ran published)
    (hnext : Next before stage operation r d) :
    Fits (some (stage, operation)) (ran + r.toNat) (published + d.toNat) := by
  cases hnext with
  | created id => exact ⟨rfl, rfl, h.1, h.2⟩
  | refused | queued | inline | picked => exact h
  | asked stage pending =>
      cases stage with
      | submitted | refused | queued | picked => exact h
      | placing | placed =>
          rw [Fits, pending] at h
          cases h.1
      | returned =>
          rw [Fits, pending] at h
          cases h.1
  | withdrawn => exact ⟨rfl, Or.inl h.2⟩
  | started wanted => exact ⟨rfl, h.2.1, wanted, h.2.2⟩
  | ran =>
      obtain ⟨hstate, hresult, hwanted, hran, hpublished⟩ := h
      exact ⟨hstate, hresult, hwanted, congrArg (· + 1) hran, hpublished⟩
  | published operation result =>
      obtain ⟨-, -, hwanted, hran, hpublished⟩ := h
      refine ⟨?_, Or.inr ⟨rfl, hwanted, hran, congrArg (· + 1) hpublished⟩⟩
      unfold publish
      dsimp only
      split <;> rfl
  | rejected => exact ⟨rfl, Or.inl h.2⟩

theorem Next.id_eq {before : Stage} {old : AsyncOperation} {r d : Bool}
    (h : Next (some (before, old)) stage operation r d) :
    operation.id = old.id := by
  cases h <;> rfl

/-- A cancellation that was asked for is not forgotten. -/
theorem Next.cancelRequested {old : AsyncOperation} {r d : Bool}
    (h : Next (some (before, old)) stage operation r d)
    (hasked : old.cancelRequested = true) :
    operation.cancelRequested = true := by
  cases h with
  | asked => rfl
  | refused | queued | inline | picked | withdrawn | started | ran | published
    | rejected => exact hasked

/-- What was cancelled in time is not placed. -/
theorem Fits.cancelled {ran published : Nat}
    (h : Fits (some (stage, operation)) ran published)
    (hasked : operation.cancelRequested = true) : ran = 0 := by
  cases stage with
  | submitted | refused | queued | picked => exact h.2.2.1
  | placing | placed =>
      rw [Fits, hasked] at h
      cases h.2.2.1
  | returned =>
      rcases h.2 with ⟨-, hran, -⟩ | ⟨-, hwanted, -⟩
      · exact hran
      · rw [hasked] at hwanted
        cases hwanted

theorem Fits.pending {ran published : Nat}
    (h : Fits (some (stage, operation)) ran published)
    (hpending : operation.state = .pending) : ran = 0 := by
  cases stage with
  | submitted | refused | queued | picked => exact h.2.2.1
  | placing | placed | returned =>
      rw [Fits, hpending] at h
      cases h.1

theorem Fits.ended {ran published : Nat}
    (h : Fits (some (stage, operation)) ran published)
    (hended : operation.state.isTerminal = true) : stage = .returned := by
  cases stage with
  | returned => rfl
  | submitted | refused | queued | picked | placing | placed =>
      rw [h.1] at hended
      cases hended

theorem Fits.ran_le {entry : Option (Stage × AsyncOperation)}
    {ran published : Nat} (h : Fits entry ran published) :
    published ≤ ran ∧ ran ≤ 1 := by
  cases entry with
  | none =>
      obtain ⟨hran, hpublished⟩ := h
      omega
  | some entry =>
      obtain ⟨stage, operation⟩ := entry
      cases stage with
      | submitted | refused | queued | picked =>
          obtain ⟨-, -, hran, hpublished⟩ := h
          omega
      | placing | placed =>
          obtain ⟨-, -, -, hran, hpublished⟩ := h
          omega
      | returned =>
          rcases h.2 with ⟨-, hran, hpublished⟩ | ⟨-, -, hran, hpublished⟩ <;>
            omega

theorem Fits.hasResult {ran published : Nat}
    (h : Fits (some (stage, operation)) ran published) :
    operation.hasResult = true ↔ published = 1 := by
  cases stage with
  | submitted | refused | queued | picked =>
      obtain ⟨-, hresult, -, hpublished⟩ := h
      simp [hresult, hpublished]
  | placing | placed =>
      obtain ⟨-, hresult, -, -, hpublished⟩ := h
      simp [hresult, hpublished]
  | returned =>
      rcases h.2 with ⟨hresult, -, hpublished⟩ | ⟨hresult, -, -, hpublished⟩ <;>
        simp [hresult, hpublished]

/-- An ended operation stays as it is. -/
theorem Next.returned {old : AsyncOperation} {r d : Bool} {ran published : Nat}
    (h : Next (some (.returned, old)) stage operation r d)
    (hfits : Fits (some (.returned, old)) ran published) : False := by
  cases h with
  | asked stage pending =>
      rw [Fits, pending] at hfits
      cases hfits.1

/-- An operation that goes on was not over before. -/
theorem Next.live {before : Stage} {old : AsyncOperation} {r d : Bool}
    (h : Next (some (before, old)) stage operation r d) {ran published : Nat}
    (hfits : Fits (some (before, old)) ran published) :
    old.state.isTerminal = false := by
  cases before with
  | submitted | refused | queued | picked =>
      rw [hfits.1]
      rfl
  | placing | placed =>
      rw [hfits.1]
      rfl
  | returned => exact (h.returned hfits).elim

/-! ## One step -/

/-- The submissions, the queue and the table hang together. -/
structure Tracked (s : AsyncEngine) (ran published : Nat → Nat) : Prop where
  stage : ∀ ref, s.stageAt ref = (s.track ref).map Prod.fst
  heap : ∀ ref, lookup s.heap ref = (s.track ref).map Prod.snd
  fresh : ∀ ref, s.allocated ≤ ref → s.track ref = none
  fits : ∀ ref, Fits (s.track ref) (ran ref) (published ref)
  held : ∀ ref stage operation, s.track ref = some (stage, operation) →
    operation.state.isTerminal = false →
      lookup s.operations operation.id = some ref
  queued : ∀ ref ∈ s.pool.queue, ∃ operation,
    s.track ref = some (.queued, operation)
  nodup : s.pool.queue.Nodup

/-- Evictions only drop operations that have ended. -/
def KeepsLive (s t : AsyncEngine) : Prop :=
  ∀ id ref, lookup s.operations id = some ref → s.endedAt ref = false →
    lookup t.operations id = some ref

/-- A step that does nothing to any operation. -/
structure Idle (s t : AsyncEngine) : Prop where
  calls : t.calls = s.calls
  heap : t.heap = s.heap
  allocated : t.allocated = s.allocated
  operations : KeepsLive s t
  queue : t.pool.queue = s.pool.queue

/-- A step that takes one operation on. -/
structure Turns (s t : AsyncEngine) (ref : Nat) (stage : Stage)
    (operation : AsyncOperation) (r d : Bool) : Prop where
  stageAt : t.stageAt = Function.update s.stageAt ref (some stage)
  heap : lookup t.heap = Function.update (lookup s.heap) ref (some operation)
  next : Next (s.track ref) stage operation r d
  known : s.track ref ≠ none ∧ t.allocated = s.allocated ∨
    s.track ref = none ∧ ref = s.allocated ∧
      t.allocated = s.allocated + 1 ∧
      lookup t.operations operation.id = some ref
  operations : KeepsLive s t
  queue : ∀ other ∈ t.pool.queue,
    other = ref ∧ stage = .queued ∨ other ≠ ref ∧ other ∈ s.pool.queue
  nodup : t.pool.queue.Nodup

theorem Idle.stageAt (h : Idle s t) : t.stageAt = s.stageAt := by
  funext ref
  rw [AsyncEngine.stageAt, AsyncEngine.stageAt, h.calls]

theorem Idle.track (h : Idle s t) : t.track = s.track := by
  funext ref
  rw [AsyncEngine.track, AsyncEngine.track, h.stageAt, h.heap]

theorem Tracked.idle (h : Tracked s ran published) (hidle : Idle s t) :
    Tracked t ran published where
  stage ref := by rw [hidle.stageAt, hidle.track, h.stage]
  heap ref := by rw [hidle.heap, hidle.track, h.heap]
  fresh ref href := by
    rw [hidle.track]
    rw [hidle.allocated] at href
    exact h.fresh ref href
  fits ref := by
    rw [hidle.track]
    exact h.fits ref
  held ref stage operation htrack hlive := by
    rw [hidle.track] at htrack
    refine hidle.operations _ _ (h.held ref stage operation htrack hlive) ?_
    rw [endedAt, h.heap, htrack]
    exact hlive
  queued ref href := by
    rw [hidle.queue] at href
    rw [hidle.track]
    exact h.queued ref href
  nodup := by
    rw [hidle.queue]
    exact h.nodup

/-- The counts of one operation go up, those of the others stay. -/
def bump (counts : Nat → Nat) (ref : Nat) (more : Bool) : Nat → Nat :=
  Function.update counts ref (counts ref + more.toNat)

theorem Turns.track {r d : Bool} (h : Turns s t ref stage operation r d) :
    t.track = Function.update s.track ref (some (stage, operation)) := by
  funext other
  rw [AsyncEngine.track, h.stageAt, h.heap]
  by_cases hother : other = ref
  · subst hother
    simp
  · simp [AsyncEngine.track, hother]

theorem Tracked.turns (h : Tracked s ran published) {r d : Bool}
    (hturns : Turns s t ref stage operation r d) :
    Tracked t (bump ran ref r) (bump published ref d) where
  stage other := by
    rw [hturns.stageAt, hturns.track]
    by_cases hother : other = ref
    · subst hother
      simp
    · rw [Function.update_of_ne hother, Function.update_of_ne hother, h.stage]
  heap other := by
    rw [hturns.heap, hturns.track]
    by_cases hother : other = ref
    · subst hother
      simp
    · rw [Function.update_of_ne hother, Function.update_of_ne hother, h.heap]
  fresh other hother := by
    have hne : other ≠ ref := by
      rintro rfl
      rcases hturns.known with ⟨hknown, hsame⟩ | ⟨-, hnew, hmore, -⟩
      · exact hknown (h.fresh other (by omega))
      · omega
    rw [hturns.track, Function.update_of_ne hne]
    refine h.fresh other ?_
    rcases hturns.known with ⟨-, hsame⟩ | ⟨-, -, hmore, -⟩ <;> omega
  fits other := by
    rw [hturns.track]
    by_cases hother : other = ref
    · subst hother
      rw [Function.update_self, bump, bump, Function.update_self,
        Function.update_self]
      exact (h.fits other).next hturns.next
    · rw [Function.update_of_ne hother, bump, bump,
        Function.update_of_ne hother, Function.update_of_ne hother]
      exact h.fits other
  held other stage' operation' htrack hlive := by
    have hkept : ∀ {stage operation},
        s.track other = some (stage, operation) →
        operation.state.isTerminal = false →
          lookup t.operations operation.id = some other := by
      intro stage operation hold hnotEnded
      refine hturns.operations _ _ (h.held other _ _ hold hnotEnded) ?_
      rw [endedAt, h.heap, hold]
      exact hnotEnded
    rw [hturns.track] at htrack
    by_cases hother : other = ref
    · subst hother
      rw [Function.update_self] at htrack
      cases htrack
      cases hold : s.track other with
      | none =>
          rcases hturns.known with ⟨hknown, -⟩ | ⟨-, -, -, hcreated⟩
          · exact absurd hold hknown
          · exact hcreated
      | some old =>
          have hnext := hturns.next
          have hfits := h.fits other
          rw [hold] at hnext hfits
          rw [hnext.id_eq]
          exact hkept hold (hnext.live hfits)
    · rw [Function.update_of_ne hother] at htrack
      exact hkept htrack hlive
  queued other hother := by
    rw [hturns.track]
    rcases hturns.queue other hother with ⟨rfl, rfl⟩ | ⟨hne, hold⟩
    · exact ⟨_, Function.update_self _ _ _⟩
    · rw [Function.update_of_ne hne]
      exact h.queued other hold
  nodup := hturns.nodup

theorem KeepsLive.refl (s : AsyncEngine) : KeepsLive s s :=
  fun _ _ h _ => h

/-! ### The table -/

/-- The eviction loop only erases operations that have ended. -/
theorem lookup_evictEnded (terminal : Nat) {id : OperationId}
    {operations : ExtTreeMap OperationId Nat} (h : lookup operations id = some ref)
    (hlive : s.endedAt ref = false) :
    lookup (s.evictEnded terminal operations) id = some ref := by
  induction terminal generalizing operations with
  | zero => exact h
  | succ terminal ih =>
      rw [evictEnded]
      split
      · split
        next ended hended =>
          refine ih ?_
          rw [lookup_erase, Function.update_of_ne, h]
          rintro rfl
          rw [firstEnded, Option.map_eq_some_iff] at hended
          obtain ⟨entry, hentry, hkey⟩ := hended
          have hmem := List.mem_of_find?_eq_some hentry
          have hover := List.find?_some hentry
          have hlookup : lookup operations entry.1 = some entry.2 :=
            lookup_eq_some_iff_mem_toList.mpr hmem
          rw [hkey, h, Option.some.injEq] at hlookup
          rw [← hlookup, hlive] at hover
          cases hover
        · exact h
      · exact h

theorem makeRoom_callers (s : AsyncEngine) (callers : List PlacementRequest) :
    { s with callers := callers }.makeRoom = s.makeRoom := by
  have heq : ∀ terminal operations,
      { s with callers := callers }.evictEnded terminal operations =
        s.evictEnded terminal operations := by
    intro terminal
    induction terminal with
    | zero => exact fun _ => rfl
    | succ terminal ih =>
        intro operations
        simp only [evictEnded, ih]
        rfl
  exact heq _ _

/-- The operation that a caller makes gets an id that another one has. -/
def overlays (s : AsyncEngine) : AsyncStep → Bool
  | .create caller =>
      caller < s.callers.length &&
        s.makeRoom.size < s.impl.config.maxRequests &&
        (lookup s.makeRoom ⟨s.nextOperation⟩).isSome
  | _ => false

theorem create_step (h : Tracked s ran published) (request : PlacementRequest)
    (hfree : s.makeRoom.size < s.impl.config.maxRequests →
      lookup s.makeRoom ⟨s.nextOperation⟩ = none) :
    Idle s (s.create request) ∨
      ∃ stage operation, Turns s (s.create request) s.allocated stage operation
        false false := by
  have hkeeps : ∀ id ref, lookup s.operations id = some ref →
      s.endedAt ref = false → lookup s.makeRoom id = some ref :=
    fun id ref hlookup hlive => lookup_evictEnded _ hlookup hlive
  have hnone := h.fresh s.allocated (Nat.le_refl _)
  unfold create
  dsimp only
  split
  · exact Or.inl ⟨rfl, rfl, rfl, hkeeps, rfl⟩
  next hroom =>
    have hempty := hfree (Nat.lt_of_not_le hroom)
    refine Or.inr ⟨.submitted, { id := ⟨s.nextOperation⟩ }, ?_⟩
    constructor
    case stageAt =>
      funext other
      by_cases hother : other = s.allocated
      · subst hother
        simp [stageAt]
      · simp [stageAt, hother]
    case heap => exact lookup_insert _ _ _
    case next =>
      rw [hnone]
      exact .created _
    case known =>
      refine Or.inr ⟨hnone, rfl, rfl, ?_⟩
      simp [lookup_insertIfNew_of_none _ _ hempty]
    case operations =>
      intro id ref hlookup hlive
      have hkept := hkeeps id ref hlookup hlive
      have hne : id ≠ ⟨s.nextOperation⟩ := by
        rintro rfl
        rw [hempty] at hkept
        cases hkept
      change lookup (s.makeRoom.insertIfNew _ _) id = some ref
      rw [lookup_insertIfNew_of_none _ _ hempty, Function.update_of_ne hne,
        hkept]
    case queue =>
      intro other hother
      refine Or.inr ⟨?_, hother⟩
      rintro rfl
      obtain ⟨_, hqueued⟩ := h.queued _ hother
      rw [hnone] at hqueued
      cases hqueued
    case nodup => exact h.nodup

/-! ### The call and its job -/

theorem stageAt_setStage (h : s.track ref = some (before, operation))
    (stage : Stage) :
    (s.setStage ref stage).stageAt =
      Function.update s.stageAt ref (some stage) := by
  rw [track_eq_some_iff, stageAt, Option.map_eq_some_iff] at h
  obtain ⟨⟨call, hcall, -⟩, -⟩ := h
  funext other
  by_cases hother : other = ref
  · subst hother
    simp [stageAt, setStage, hcall]
  · simp [stageAt, setStage, hother]

theorem stageAt_self (h : s.track ref = some (stage, operation)) :
    s.stageAt = Function.update s.stageAt ref (some stage) := by
  rw [track_eq_some_iff] at h
  rw [← h.1, Function.update_eq_self]

theorem lookup_heap_update (h : s.track ref = some (stage, operation))
    (f : AsyncOperation → AsyncOperation) :
    lookup (s.update ref f).heap =
      Function.update (lookup s.heap) ref (some (f operation)) := by
  rw [track_eq_some_iff] at h
  rw [update, lookup_modify, h.2]
  rfl

theorem lookup_heap_self (h : s.track ref = some (stage, operation)) :
    lookup s.heap =
      Function.update (lookup s.heap) ref (some operation) := by
  rw [track_eq_some_iff] at h
  rw [← h.2, Function.update_eq_self]

theorem Tracked.of_stageAt (h : Tracked s ran published)
    (hstage : s.stageAt ref = some stage) :
    ∃ operation, s.track ref = some (stage, operation) := by
  rw [h.stage, Option.map_eq_some_iff] at hstage
  obtain ⟨⟨_, operation⟩, htrack, rfl⟩ := hstage
  exact ⟨operation, htrack⟩

/-- A section that takes a submission on, and leaves table and queue alone. -/
theorem Tracked.turn {old : AsyncOperation} {r d : Bool}
    (h : Tracked s ran published) (hold : s.track ref = some (before, old))
    (hnext : Next (some (before, old)) stage operation r d)
    (hbefore : before = .queued → stage = .queued)
    (hstage : t.stageAt = Function.update s.stageAt ref (some stage))
    (hheap : lookup t.heap =
      Function.update (lookup s.heap) ref (some operation))
    (hallocated : t.allocated = s.allocated)
    (hoperations : t.operations = s.operations)
    (hqueue : t.pool.queue = s.pool.queue) :
    Turns s t ref stage operation r d where
  stageAt := hstage
  heap := hheap
  next := by
    rw [hold]
    exact hnext
  known := by
    refine Or.inl ⟨?_, hallocated⟩
    rw [hold]
    exact Option.some_ne_none _
  operations := by
    intro id other hlookup _
    rw [hoperations]
    exact hlookup
  queue other hother := by
    rw [hqueue] at hother
    by_cases hsame : other = ref
    · subst hsame
      obtain ⟨_, hqueued⟩ := h.queued _ hother
      rw [hold] at hqueued
      cases hqueued
      exact Or.inl ⟨rfl, hbefore rfl⟩
    · exact Or.inr ⟨hsame, hother⟩
  nodup := by
    rw [hqueue]
    exact h.nodup

theorem idle_refl (s : AsyncEngine) : Idle s s :=
  ⟨rfl, rfl, rfl, KeepsLive.refl s, rfl⟩

theorem trySubmit_step (h : Tracked s ran published) (ref : Nat) :
    Idle s (s.trySubmit ref) ∨
      ∃ stage operation, Turns s (s.trySubmit ref) ref stage operation
        false false := by
  unfold trySubmit
  split
  next hstage =>
    obtain ⟨operation, hold⟩ := h.of_stageAt hstage
    have hheap := lookup_heap_self hold
    right
    unfold ThreadPool.trySubmit
    split
    · exact ⟨_, _, h.turn hold (.inline operation) nofun
        (stageAt_setStage hold _) hheap rfl rfl rfl⟩
    · split
      · exact ⟨_, _, h.turn hold (.refused operation) nofun
          (stageAt_setStage hold _) hheap rfl rfl rfl⟩
      · split
        · exact ⟨_, _, h.turn hold (.refused operation) nofun
            (stageAt_setStage hold _) hheap rfl rfl rfl⟩
        · have hnew : ref ∉ s.pool.queue := by
            intro hmem
            obtain ⟨_, hqueued⟩ := h.queued ref hmem
            rw [hold] at hqueued
            cases hqueued
          refine ⟨.queued, operation, ?_⟩
          constructor
          case stageAt => exact stageAt_setStage hold _
          case heap => exact hheap
          case next =>
            rw [hold]
            exact .queued operation
          case known =>
            rw [hold]
            exact Or.inl ⟨Option.some_ne_none _, rfl⟩
          case operations => exact KeepsLive.refl s
          case queue =>
            intro other hother
            rcases List.mem_append.mp hother with hmem | hmem
            · refine Or.inr ⟨?_, hmem⟩
              rintro rfl
              exact hnew hmem
            · exact Or.inl ⟨List.mem_singleton.mp hmem, rfl⟩
          case nodup =>
            exact List.nodup_append.mpr ⟨h.nodup, List.nodup_singleton _,
              fun a ha b hb hab => hnew (List.mem_singleton.mp hb ▸ hab ▸ ha)⟩
  · exact Or.inl (idle_refl s)

theorem pick_step (h : Tracked s ran published) :
    Idle s s.pick ∨
      ∃ ref stage operation, Turns s s.pick ref stage operation false false := by
  unfold pick
  split
  · exact Or.inl (idle_refl s)
  next ref queue hqueue =>
    have hnodup := h.nodup
    obtain ⟨operation, hold⟩ := h.queued ref (by
      rw [hqueue]
      exact List.mem_cons_self)
    have hheap := lookup_heap_self hold
    rw [hqueue, List.nodup_cons] at hnodup
    refine Or.inr ⟨ref, .picked, operation, ?_⟩
    constructor
    case stageAt => exact stageAt_setStage hold _
    case heap => exact hheap
    case next =>
      rw [hold]
      exact .picked operation
    case known =>
      rw [hold]
      exact Or.inl ⟨Option.some_ne_none _, rfl⟩
    case operations => exact KeepsLive.refl s
    case queue =>
      intro other hother
      refine Or.inr ⟨?_, ?_⟩
      · rintro rfl
        exact hnodup.1 hother
      · rw [hqueue]
        exact List.mem_cons_of_mem _ hother
    case nodup => exact hnodup.2

theorem start_step (h : Tracked s ran published) (ref : Nat) :
    Idle s (s.start ref) ∨
      ∃ stage operation, Turns s (s.start ref) ref stage operation
        false false := by
  unfold start
  split
  next operation hstage hentry =>
    have hold := track_eq_some_iff.mpr ⟨hstage, hentry⟩
    right
    split
    · exact ⟨_, _, h.turn hold (.withdrawn operation) nofun
        (stageAt_setStage hold _) (lookup_heap_update hold _) rfl rfl rfl⟩
    next hwanted =>
      exact ⟨_, _, h.turn hold (.started (by simpa using hwanted)) nofun
        (stageAt_setStage hold _) (lookup_heap_update hold _) rfl rfl rfl⟩
  · exact Or.inl (idle_refl s)

theorem placeJob_step (h : Tracked s ran published) (ref : Nat)
    (answer : Status) :
    s.stageAt ref ≠ some .placing ∧ Idle s (s.placeJob ref answer) ∨
      s.stageAt ref = some .placing ∧
        ∃ stage operation, Turns s (s.placeJob ref answer) ref stage operation
          true false := by
  unfold placeJob
  split
  next request hcall =>
    have hstage : s.stageAt ref = some .placing := by
      rw [stageAt, hcall]
      rfl
    obtain ⟨operation, hold⟩ := h.of_stageAt hstage
    have hheap := lookup_heap_self hold
    exact Or.inr ⟨hstage, _, _, h.turn hold (.ran operation _) nofun
      (stageAt_setStage hold _) hheap rfl rfl rfl⟩
  next hother =>
    refine Or.inl ⟨?_, idle_refl s⟩
    intro hstage
    rw [stageAt, Option.map_eq_some_iff] at hstage
    obtain ⟨⟨request, stage⟩, hcall, rfl⟩ := hstage
    exact hother request hcall

theorem finish_step (h : Tracked s ran published) (ref : Nat) :
    (∀ result, s.stageAt ref ≠ some (.placed result)) ∧
        Idle s (s.finish ref) ∨
      (∃ result, s.stageAt ref = some (.placed result)) ∧
        ∃ stage operation, Turns s (s.finish ref) ref stage operation
          false true := by
  unfold finish
  split
  next result hstage =>
    obtain ⟨operation, hold⟩ := h.of_stageAt hstage
    exact Or.inr ⟨⟨result, hstage⟩, _, _,
      h.turn hold (.published operation result) nofun
        (stageAt_setStage hold _) (lookup_heap_update hold _) rfl rfl rfl⟩
  next hother => exact Or.inl ⟨hother, idle_refl s⟩

theorem reject_step (h : Tracked s ran published) (ref : Nat) :
    Idle s (s.reject ref) ∨
      ∃ stage operation, Turns s (s.reject ref) ref stage operation
        false false := by
  unfold reject
  split
  next operation hstage hentry =>
    have hold := track_eq_some_iff.mpr ⟨hstage, hentry⟩
    have hfits := h.fits ref
    rw [hold] at hfits
    -- the job was never queued, so the operation waits under its own id
    have hlive : operation.state.isTerminal = false := by
      rw [hfits.1]
      rfl
    rw [h.held ref _ operation hold hlive]
    exact Or.inr ⟨_, _, h.turn hold (.rejected operation) nofun
      (stageAt_setStage hold _) (lookup_heap_update hold _) rfl rfl rfl⟩
  · exact Or.inl (idle_refl s)

theorem cancel_step (h : Tracked s ran published) (id : OperationId) :
    Idle s (s.cancel id).1 ∨
      ∃ ref stage operation, Turns s (s.cancel id).1 ref stage operation
        false false := by
  unfold cancel
  split
  · exact Or.inl (idle_refl s)
  next ref hlookup =>
    split
    next hpending =>
      rw [h.heap, Option.map_map, Option.map_eq_some_iff] at hpending
      obtain ⟨⟨stage, operation⟩, hold, hpending⟩ := hpending
      have hstage := stageAt_self hold
      exact Or.inr ⟨ref, stage, _, h.turn hold (.asked stage hpending)
        (fun hqueued => hqueued) hstage (lookup_heap_update hold _) rfl rfl
        rfl⟩
    · exact Or.inl (idle_refl s)
    · exact Or.inl (idle_refl s)

end FlowOffload.AsyncEngine
