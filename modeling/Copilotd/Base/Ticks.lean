import Mathlib.Order.Bounds.Basic
import Mathlib.Data.List.Basic

/-!
# Ticks and the plans that cover them

A set of ticks in a linear order is looked at from time to time.  Each look plans
the newest tick since the look before it, if there is one, and `Covers` says that a
list of planned ticks is what a list of looks has to plan.  `IsNext` is what a
planner has to remember between two looks: the least tick it has not seen.
-/
namespace Copilotd.Base.Ticks

variable {τ : Type*} [LinearOrder τ] {Tick : Set τ}

/-- The ticks strictly after `t`. -/
def After (Tick : Set τ) (t : τ) : Set τ := { u | u ∈ Tick ∧ t < u }

/-- The ticks up to `t`. -/
def UpTo (Tick : Set τ) (t : τ) : Set τ := { u | u ∈ Tick ∧ u ≤ t }

/-- The ticks in `(start, now]`. -/
def Within (Tick : Set τ) (start now : τ) : Set τ := { u | u ∈ Tick ∧ start < u ∧ u ≤ now }

/-- The least tick after `t`, or that there is none. -/
def IsNext (Tick : Set τ) (t : τ) : Option τ → Prop
  | some u => IsLeast (After Tick t) u
  | none => After Tick t = ∅

/-- The looks at `times`, the first of them after a look at `start`, plan `planned`. -/
inductive Covers (Tick : Set τ) : τ → List τ → List τ → Prop where
  | nil (start : τ) : Covers Tick start [] []
  | hit {start now tick : τ} {times planned : List τ}
      (newest : IsGreatest (Within Tick start now) tick)
      (rest : Covers Tick now times planned) : Covers Tick start (now :: times) (tick :: planned)
  | miss {start now : τ} {times planned : List τ} (none : Within Tick start now = ∅)
      (rest : Covers Tick now times planned) : Covers Tick start (now :: times) planned

variable {start : τ}

/-- No tick falls between a look and the next one as long as the remembered tick is not due. -/
theorem IsNext.within_empty {now : τ} {next : Option τ} (least : IsNext Tick start next)
    (notDue : ∀ u ∈ next, now < u) : Within Tick start now = ∅ := by
  rw [Set.eq_empty_iff_forall_notMem]
  rintro u ⟨tick, after, upTo⟩
  cases next with
  | none =>
    have absent : u ∉ After Tick start := by
      rw [show After Tick start = ∅ from least]
      exact Set.notMem_empty u
    exact absent ⟨tick, after⟩
  | some first =>
    have bound : first ≤ u := least.2 ⟨tick, after⟩
    exact absurd (bound.trans upTo) (not_le.mpr (notDue first rfl))

theorem IsNext.advance {now : τ} {next : Option τ} (least : IsNext Tick start next)
    (later : start ≤ now) (notDue : ∀ u ∈ next, now < u) : IsNext Tick now next := by
  cases next with
  | none =>
    have empty : After Tick start = ∅ := least
    refine Set.subset_eq_empty ?_ empty
    exact fun u after => ⟨after.1, later.trans_lt after.2⟩
  | some first =>
    refine ⟨⟨least.1.1, notDue first rfl⟩, ?_⟩
    exact fun u after => least.2 ⟨after.1, later.trans_lt after.2⟩

/-- Once the remembered tick is due, the newest tick of all is the newest since the last look. -/
theorem newest_within {first now tick : τ} (least : IsLeast (After Tick start) first)
    (due : first ≤ now) (newest : IsGreatest (UpTo Tick now) tick) :
    IsGreatest (Within Tick start now) tick ∧ first ≤ tick := by
  have reached : first ≤ tick := newest.2 ⟨least.1.1, due⟩
  refine ⟨⟨⟨newest.1.1, least.1.2.trans_le reached, newest.1.2⟩, ?_⟩, reached⟩
  exact fun u within => newest.2 ⟨within.1, within.2.2⟩

/-- What is planned is a tick after the first look. -/
theorem Covers.bounds {times planned : List τ} (covers : Covers Tick start times planned)
    (ordered : (start :: times).Pairwise (· ≤ ·)) : ∀ u ∈ planned, u ∈ Tick ∧ start < u := by
  induction covers with
  | nil => simp
  | hit newest rest ih =>
    rw [List.pairwise_cons] at ordered
    intro u member
    rcases List.mem_cons.mp member with rfl | later
    · exact ⟨newest.1.1, newest.1.2.1⟩
    · obtain ⟨tick, after⟩ := ih ordered.2 u later
      exact ⟨tick, (ordered.1 _ (List.mem_cons_self ..)).trans_lt after⟩
  | miss none rest ih =>
    rw [List.pairwise_cons] at ordered
    intro u member
    obtain ⟨tick, after⟩ := ih ordered.2 u member
    exact ⟨tick, (ordered.1 _ (List.mem_cons_self ..)).trans_lt after⟩

/-- Looks at non-decreasing times plan every tick at most once, in order. -/
theorem Covers.increasing {times planned : List τ}
    (covers : Covers Tick start times planned) (ordered : (start :: times).Pairwise (· ≤ ·)) :
    planned.Pairwise (· < ·) := by
  induction covers with
  | nil => exact List.Pairwise.nil
  | hit newest rest ih =>
    rw [List.pairwise_cons] at ordered
    rw [List.pairwise_cons]
    refine ⟨?_, ih ordered.2⟩
    intro u later
    exact newest.1.2.2.trans_lt (rest.bounds ordered.2 u later).2
  | miss none rest ih =>
    rw [List.pairwise_cons] at ordered
    exact ih ordered.2

end Copilotd.Base.Ticks
