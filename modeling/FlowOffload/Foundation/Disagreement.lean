import Mathlib.Data.List.Basic
import Mathlib.Order.Lattice

/-!
# Sources that disagree

Reports of many sources about one thing, the latest first.  Two sources
disagree when their latest reports for the newest instant give different
values.  Whoever keeps the last report of that instant need only look for one
source that gives another value.
-/

namespace FlowOffload.Foundation

/-- How a report is read. -/
structure Reading (ρ σ τ ν : Type) where
  source : ρ → σ
  instant : ρ → τ
  value : ρ → ν

namespace Reading

variable {ρ σ τ ν : Type} [DecidableEq σ] [LinearOrder τ] (V : Reading ρ σ τ ν)

/-- The latest report of a source for an instant. -/
def latest (reports : List ρ) (source : σ) (instant : τ) : Option ρ :=
  reports.find? fun r => V.source r = source ∧ V.instant r = instant

def Disagree (reports : List ρ) : Prop :=
  ∃ a ∈ reports, ∃ b ∈ reports,
    V.instant a = V.instant b ∧ (∀ r ∈ reports, V.instant r ≤ V.instant a) ∧
      V.latest reports (V.source a) (V.instant a) = some a ∧
      V.latest reports (V.source b) (V.instant b) = some b ∧
      V.value a ≠ V.value b

/-- Another source's latest report for the instant of a report gives another
value. -/
def Opposed (reports : List ρ) (r : ρ) : Prop :=
  ∃ b ∈ reports, V.latest reports (V.source b) (V.instant r) = some b ∧
    V.source b ≠ V.source r ∧ V.value b ≠ V.value r

instance [DecidableEq ρ] [DecidableEq ν] (reports : List ρ) :
    Decidable (V.Disagree reports) :=
  inferInstanceAs (Decidable (∃ a ∈ reports, ∃ b ∈ reports, _))

instance [DecidableEq ρ] [DecidableEq ν] (reports : List ρ) (r : ρ) :
    Decidable (V.Opposed reports r) :=
  inferInstanceAs (Decidable (∃ b ∈ reports, _))

/-- The report is its source's latest one, for the newest instant. -/
structure Tracks (reports : List ρ) (c : ρ) : Prop where
  last : V.latest reports (V.source c) (V.instant c) = some c
  newest : ∀ r ∈ reports, V.instant r ≤ V.instant c

variable {V} {reports : List ρ} {r c : ρ}

theorem of_latest {source : σ} {instant : τ}
    (h : V.latest reports source instant = some r) :
    r ∈ reports ∧ V.source r = source ∧ V.instant r = instant := by
  have hread := List.find?_some h
  exact ⟨List.mem_of_find?_eq_some h, by simpa using hread⟩

theorem latest_cons (r : ρ) (reports : List ρ) (source : σ) (instant : τ) :
    V.latest (r :: reports) source instant =
      if V.source r = source ∧ V.instant r = instant then some r
      else V.latest reports source instant := by
  unfold latest
  rw [List.find?_cons]
  by_cases h : V.source r = source ∧ V.instant r = instant
  · simp [h]
  · simp only [h, decide_false, if_false]

theorem Tracks.mem (h : V.Tracks reports c) : c ∈ reports :=
  (of_latest h.last).1

/-- Only what is reported for the newest instant counts. -/
theorem Tracks.disagree_iff (h : V.Tracks reports c) :
    V.Disagree reports ↔ V.Opposed reports c := by
  constructor
  · rintro ⟨a, ha, b, hb, hinstants, hnewest, hlatestA, hlatestB, hvalues⟩
    have hinstant : V.instant a = V.instant c :=
      le_antisymm (h.newest a ha) (hnewest c h.mem)
    -- one of two values is not the tracked one
    have hopposed : ∀ x ∈ reports,
        V.latest reports (V.source x) (V.instant x) = some x →
        V.instant x = V.instant c → V.value x ≠ V.value c →
        V.Opposed reports c := by
      intro x hx hlatest hinstant hvalue
      refine ⟨x, hx, by rw [← hinstant, hlatest], fun hsource => ?_, hvalue⟩
      rw [hsource, hinstant, h.last] at hlatest
      exact hvalue (congrArg V.value (Option.some.inj hlatest)).symm
    by_cases hvalue : V.value a = V.value c
    · refine hopposed b hb hlatestB (hinstants.symm.trans hinstant) ?_
      exact fun heq => hvalues (hvalue.trans heq.symm)
    · exact hopposed a ha hlatestA hinstant hvalue
  · rintro ⟨b, hb, hlatest, -, hvalue⟩
    have hinstant : V.instant b = V.instant c := (of_latest hlatest).2.2
    exact ⟨b, hb, c, h.mem, hinstant, by rw [hinstant]; exact h.newest,
      by rw [hinstant]; exact hlatest, h.last, hvalue⟩

/-! ## One more report -/

theorem tracks_singleton (r : ρ) : V.Tracks [r] r where
  last := by simp [latest_cons]
  newest := by simp

theorem not_disagree_singleton (r : ρ) : ¬ V.Disagree [r] := by
  rw [(tracks_singleton r).disagree_iff]
  rintro ⟨b, hb, -, hsource, -⟩
  cases List.mem_singleton.mp hb
  exact hsource rfl

/-- A report that changes no source's latest one for the newest instant. -/
theorem Tracks.silent (h : V.Tracks reports c)
    (hinstant : V.instant r ≤ V.instant c)
    (hlatest : ∀ source, V.latest (r :: reports) source (V.instant c) =
      V.latest reports source (V.instant c)) :
    V.Tracks (r :: reports) c ∧
      (V.Disagree (r :: reports) ↔ V.Disagree reports) := by
  have htracks : V.Tracks (r :: reports) c := by
    refine ⟨(hlatest _).trans h.last, ?_⟩
    simp only [List.forall_mem_cons]
    exact ⟨hinstant, h.newest⟩
  refine ⟨htracks, ?_⟩
  rw [htracks.disagree_iff, h.disagree_iff]
  constructor
  · rintro ⟨b, -, hread, hother⟩
    rw [hlatest] at hread
    exact ⟨b, (of_latest hread).1, hread, hother⟩
  · rintro ⟨b, hb, hread, hother⟩
    exact ⟨b, List.mem_cons_of_mem _ hb, (hlatest _).trans hread, hother⟩

theorem Tracks.older (h : V.Tracks reports c)
    (holder : V.instant r < V.instant c) :
    V.Tracks (r :: reports) c ∧
      (V.Disagree (r :: reports) ↔ V.Disagree reports) := by
  refine h.silent (le_of_lt holder) fun source => ?_
  rw [latest_cons, if_neg fun hread => (ne_of_lt holder) hread.2]

theorem Tracks.again (h : V.Tracks reports c) :
    V.Tracks (c :: reports) c ∧
      (V.Disagree (c :: reports) ↔ V.Disagree reports) := by
  refine h.silent (le_refl _) fun source => ?_
  rw [latest_cons]
  split
  next hread => rw [← hread.1, h.last]
  next => rfl

/-- A report that is not older than the tracked one takes its place. -/
theorem Tracks.next (h : V.Tracks reports c)
    (hnext : V.instant c ≤ V.instant r) : V.Tracks (r :: reports) r := by
  refine ⟨by simp [latest_cons], ?_⟩
  simp only [List.forall_mem_cons]
  exact ⟨le_refl _, fun b hb => le_trans (h.newest b hb) hnext⟩

/-- After a report, its source disagrees with whoever opposed it before. -/
theorem Tracks.next_disagree_iff (h : V.Tracks reports c)
    (hnext : V.instant c ≤ V.instant r) :
    V.Disagree (r :: reports) ↔ V.Opposed reports r := by
  rw [(h.next hnext).disagree_iff]
  constructor
  · rintro ⟨b, -, hread, hsource, hvalue⟩
    rw [latest_cons, if_neg fun hread => hsource hread.1.symm] at hread
    exact ⟨b, (of_latest hread).1, hread, hsource, hvalue⟩
  · rintro ⟨b, hb, hread, hsource, hvalue⟩
    refine ⟨b, List.mem_cons_of_mem _ hb, ?_, hsource, hvalue⟩
    rw [latest_cons, if_neg fun hread => hsource hread.1.symm, hread]

/-- Nothing opposes a report of a newer instant. -/
theorem Tracks.not_opposed (h : V.Tracks reports c)
    (hnewer : V.instant c < V.instant r) : ¬ V.Opposed reports r := by
  rintro ⟨b, hb, hread, -⟩
  have hinstant : V.instant b = V.instant r := (of_latest hread).2.2
  exact absurd (h.newest b hb) (by rw [hinstant]; exact not_le.mpr hnewer)

/-- What opposes a report that repeats the tracked value for its instant
opposed the tracked one already. -/
theorem Tracks.opposed_of_agrees (h : V.Tracks reports c)
    (hinstant : V.instant r = V.instant c) (hvalue : V.value r = V.value c)
    (hopposed : V.Opposed reports r) : V.Opposed reports c := by
  obtain ⟨b, hb, hread, -, hother⟩ := hopposed
  rw [hinstant] at hread
  rw [hvalue] at hother
  refine ⟨b, hb, hread, fun hsource => ?_, hother⟩
  rw [hsource, h.last] at hread
  exact hother (congrArg V.value (Option.some.inj hread)).symm

end Reading

end FlowOffload.Foundation
