import Mathlib.Data.List.Basic
import Mathlib.Logic.Relation

/-!
# Runs of a labelled transition system

A system is an executable partial step function `step : σ → ε → Option σ`:
the label says which party moves and how its environment answers, and `none`
means that the label is not enabled.  Interleavings are then label lists, and a
property of every interleaving is a property of every list that `run` accepts.
-/
namespace Copilotd.Base.Run

variable {σ ε : Type*}

/-- The state after a list of labels, if every label is enabled in turn. -/
def run (step : σ → ε → Option σ) : σ → List ε → Option σ
  | s, [] => some s
  | s, e :: es => (step s e).bind fun t => run step t es

/-- Every label of the list meets `Ok` in the state in which it is taken. -/
def Along (step : σ → ε → Option σ) (Ok : σ → ε → Prop) : σ → List ε → Prop
  | _, [] => True
  | s, e :: es => Ok s e ∧ ∀ t ∈ step s e, Along step Ok t es

instance decidableAlong (step : σ → ε → Option σ) (Ok : σ → ε → Prop)
    [∀ s e, Decidable (Ok s e)] : (s : σ) → (es : List ε) → Decidable (Along step Ok s es)
  | _, [] => isTrue trivial
  | s, e :: es =>
    have := fun t => decidableAlong step Ok t es
    inferInstanceAs (Decidable (Ok s e ∧ ∀ t ∈ step s e, Along step Ok t es))

variable {step : σ → ε → Option σ}

theorem run_cons (s : σ) (e : ε) (es : List ε) :
    run step s (e :: es) = (step s e).bind fun t => run step t es := rfl

variable {s u : σ} {es : List ε} {e : ε}

theorem run_cons_eq_some :
    run step s (e :: es) = some u ↔ ∃ t, step s e = some t ∧ run step t es = some u := by
  rw [run_cons, Option.bind_eq_some_iff]

theorem run_append (s : σ) (es fs : List ε) :
    run step s (es ++ fs) = (run step s es).bind fun t => run step t fs := by
  induction es generalizing s with
  | nil => rfl
  | cons e es ih =>
    rw [List.cons_append, run_cons, run_cons]
    cases step s e with
    | none => rfl
    | some t => exact ih t

variable {Ok : σ → ε → Prop} {t : σ}

/-- A condition along a run is one along each of its parts. -/
theorem along_append {fs : List ε} (reached : run step s es = some t)
    (along : Along step Ok s (es ++ fs)) :
    Along step Ok s es ∧ Along step Ok t fs := by
  induction es generalizing s with
  | nil =>
    cases reached
    exact ⟨trivial, along⟩
  | cons e es ih =>
    obtain ⟨u, taken, rest⟩ := run_cons_eq_some.mp reached
    have tail := ih rest (along.2 u taken)
    refine ⟨⟨along.1, ?_⟩, tail.2⟩
    intro v also
    rw [taken] at also
    cases also
    exact tail.1

variable {Also : σ → ε → Prop}

/-- Two conditions along one run. -/
theorem along_and (along : Along step Ok s es) (also : Along step Also s es) :
    Along step (fun s e => Ok s e ∧ Also s e) s es := by
  induction es generalizing s with
  | nil => trivial
  | cons e es ih =>
    refine ⟨⟨along.1, also.1⟩, ?_⟩
    intro t taken
    exact ih (along.2 t taken) (also.2 t taken)

/-- A condition on the labels alone. -/
theorem along_of_forall {Ok : ε → Prop} (all : ∀ e ∈ es, Ok e) :
    Along step (fun _ e => Ok e) s es := by
  induction es generalizing s with
  | nil => trivial
  | cons e es ih =>
    refine ⟨all e (List.mem_cons_self ..), ?_⟩
    intro t _
    exact ih fun e member => all e (List.mem_cons_of_mem _ member)

/-- Equivalent conditions hold along the same runs. -/
theorem along_congr (same : ∀ s e, Ok s e ↔ Also s e) (s : σ) (es : List ε) :
    Along step Ok s es ↔ Along step Also s es := by
  induction es generalizing s with
  | nil => exact Iff.rfl
  | cons e es ih =>
    exact and_congr (same s e) (forall_congr' fun t => forall_congr' fun _ => ih t)

/-- A property kept by every step that meets `Ok` holds wherever a run of such
steps ends. -/
theorem run_inv_along {Ok : σ → ε → Prop} {Inv : σ → Prop}
    (keep : ∀ s e t, Inv s → Ok s e → step s e = some t → Inv t)
    {s u : σ} {es : List ε} (along : Along step Ok s es) (start : Inv s)
    (reached : run step s es = some u) : Inv u := by
  induction es generalizing s with
  | nil =>
    cases reached
    exact start
  | cons e es ih =>
    obtain ⟨t, taken, rest⟩ := run_cons_eq_some.mp reached
    exact ih (along.2 t taken) (keep s e t start along.1 taken) rest

variable {Inv : σ → Prop}

/-- What follows from the invariant at one step holds along the whole run. -/
theorem along_of_inv {Safe : σ → ε → Prop}
    (keep : ∀ s e t, Inv s → Ok s e → step s e = some t → Inv t)
    (safe : ∀ s e, Inv s → Ok s e → Safe s e) (along : Along step Ok s es) (start : Inv s) :
    Along step Safe s es := by
  induction es generalizing s with
  | nil => trivial
  | cons e es ih =>
    refine ⟨safe s e start along.1, ?_⟩
    intro t taken
    exact ih (along.2 t taken) (keep s e t start along.1 taken)

/-- The unconditional invariant rule. -/
theorem run_inv {Inv : σ → Prop} (keep : ∀ s e t, Inv s → step s e = some t → Inv t)
    {s u : σ} {es : List ε} (start : Inv s) (reached : run step s es = some u) : Inv u := by
  induction es generalizing s with
  | nil =>
    cases reached
    exact start
  | cons e es ih =>
    obtain ⟨t, taken, rest⟩ := run_cons_eq_some.mp reached
    exact ih (keep s e t start taken) rest

/-- A reflexive and transitive relation that every step respects relates the two
ends of a run. -/
theorem run_rel {R : σ → σ → Prop} (refl : ∀ s, R s s) (trans : ∀ s t u, R s t → R t u → R s u)
    (one : ∀ s e t, step s e = some t → R s t) (reached : run step s es = some u) : R s u := by
  induction es generalizing s with
  | nil =>
    cases reached
    exact refl _
  | cons e es ih =>
    obtain ⟨t, taken, rest⟩ := run_cons_eq_some.mp reached
    exact trans s t u (one s e t taken) (ih rest)

/-- Some step of the run satisfies `P`. -/
def Somewhere (step : σ → ε → Option σ) (P : σ → ε → σ → Prop) : σ → List ε → Prop
  | _, [] => False
  | s, e :: es => ∃ t, step s e = some t ∧ (P s e t ∨ Somewhere step P t es)

/-- A property that every step keeps unless it satisfies `P` holds to the end of a run
in which no step does. -/
theorem run_unless {P : σ → ε → σ → Prop}
    (keep : ∀ s e t, Inv s → step s e = some t → P s e t ∨ Inv t) (start : Inv s)
    (reached : run step s es = some u) :
    Somewhere step P s es ∨ Inv u := by
  induction es generalizing s with
  | nil =>
    cases reached
    exact .inr start
  | cons e es ih =>
    obtain ⟨t, taken, rest⟩ := run_cons_eq_some.mp reached
    rcases keep s e t start taken with here | kept
    · exact .inl ⟨t, taken, .inl here⟩
    · rcases ih kept rest with later | last
      · exact .inl ⟨t, taken, .inr later⟩
      · exact .inr last

/-! ## States on the way -/

/-- A state that the run passes through. -/
def Passes (step : σ → ε → Option σ) (s : σ) (es : List ε) (t : σ) : Prop :=
  ∃ earlier, earlier <+: es ∧ run step s earlier = some t

theorem passes_start (s : σ) (es : List ε) : Passes step s es s :=
  ⟨[], List.nil_prefix, rfl⟩

theorem passes_end (reached : run step s es = some u) :
    Passes step s es u := ⟨es, List.prefix_rfl, reached⟩

theorem passes_cons (taken : step s e = some t) (passes : Passes step t es u) :
    Passes step s (e :: es) u := by
  obtain ⟨earlier, before, reached⟩ := passes
  exact ⟨e :: earlier, List.prefix_cons_inj e |>.mpr before,
    run_cons_eq_some.mpr ⟨t, taken, reached⟩⟩

/-- An invariant that a step which meets `Ok` keeps between two states of which `Good` holds,
along a run of such steps all of whose states are good. -/
theorem run_inv_passes {Good : σ → Prop}
    (keep : ∀ s e t, Inv s → Good s → Good t → Ok s e → step s e = some t → Inv t)
    (good : ∀ t, Passes step s es t → Good t) (along : Along step Ok s es) (start : Inv s)
    (reached : run step s es = some u) : Inv u := by
  induction es generalizing s with
  | nil =>
    cases reached
    exact start
  | cons e es ih =>
    obtain ⟨t, taken, rest⟩ := run_cons_eq_some.mp reached
    have next : ∀ v, Passes step t es v → Good v :=
      fun v passes => good v (passes_cons taken passes)
    have here := keep s e t start (good s (passes_start s _)) (next t (passes_start t es)) along.1
    exact ih next (along.2 t taken) (here taken) rest

/-- From a state on the way the run goes on to its end. -/
theorem Passes.onwards (passes : Passes step s es t) (reached : run step s es = some u) :
    ∃ later, run step t later = some u := by
  obtain ⟨earlier, ⟨later, rfl⟩, before⟩ := passes
  rw [run_append, before, Option.bind_some] at reached
  exact ⟨later, reached⟩

/-- What holds at the end and not at the start came up on the way. -/
theorem run_origin {Q N : σ → Prop} (keep : ∀ s e t, Inv s → step s e = some t → Inv t)
    (one : ∀ s e t, Inv s → step s e = some t → Q t → Q s ∨ N t) (start : Inv s)
    (reached : run step s es = some u) (final : Q u) :
    Q s ∨ ∃ t, Passes step s es t ∧ N t := by
  induction es generalizing s with
  | nil =>
    cases reached
    exact .inl final
  | cons e es ih =>
    obtain ⟨t, taken, rest⟩ := run_cons_eq_some.mp reached
    rcases ih (keep s e t start taken) rest with before | ⟨later, passes, new⟩
    · rcases one s e t start taken before with held | new
      · exact .inl held
      · exact .inr ⟨t, passes_cons taken (passes_start t es), new⟩
    · exact .inr ⟨later, passes_cons taken passes, new⟩

/-- A run that breaks a condition breaks it at one of its steps. -/
theorem breach_of_not_along (reached : run step s es = some u) (broken : ¬ Along step Ok s es) :
    ∃ t e next later, Passes step s es t ∧ step t e = some next ∧ ¬ Ok t e ∧
      Passes step s es next ∧ run step next later = some u := by
  induction es generalizing s with
  | nil => exact absurd trivial broken
  | cons e es ih =>
    obtain ⟨t, taken, rest⟩ := run_cons_eq_some.mp reached
    by_cases here : Ok s e
    · have later : ¬ Along step Ok t es := by
        intro along
        refine broken ⟨here, ?_⟩
        intro other also
        rw [taken] at also
        cases also
        exact along
      obtain ⟨found, label, next, after, passes, step_, bad, also, onwards⟩ := ih rest later
      exact ⟨found, label, next, after, passes_cons taken passes, step_, bad,
        passes_cons taken also, onwards⟩
    · exact ⟨s, e, t, es, passes_start s _, taken, here,
        passes_cons taken (passes_start t es), rest⟩

end Copilotd.Base.Run
