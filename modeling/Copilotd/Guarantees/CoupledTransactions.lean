import Copilotd.Guarantees.ContentTransactions
import Copilotd.Source.Storage.Transactions

/-!
# Volatile and durable writes

The content store keeps the writes of a coupled transaction by the class of the exception that
leaves it.  The database raises `CommittedCancellation` only after its commit, but it also passes on
the one that a body raises, after it has rolled back.
-/
namespace Copilotd.Guarantees.CoupledTransactions

open Base.Run Source.Core.VolatileContent Source.Storage.Transactions
open Guarantees.ContentTransactions

variable {V : Type}

/-- Both stores keep the body's writes or neither does, and the ending tells which. -/
structure Agrees (before written after : Store V) (ending : Option Error) (committed : Bool) :
    Prop where
  kept : committed = true → lookup after = lookup written
  undone : committed = false → lookup after = lookup before
  reported : ending = none ∨ ending = some .committedCancellation ↔ committed = true

theorem commits_iff {ending : Option Error} :
    commits ending = true ↔ ending = none ∨ ending = some .committedCancellation := by
  cases ending with
  | none => simp [commits]
  | some error => cases error <;> simp [commits]

/-! ## The database -/

section Database

variable {block : Block} {cause : Cause} {cancellation committed : Bool} {events : List Event}
  {ending : Option Error}

theorem left_run (runs : run Block.step block events = some ⟨.left ending, committed⟩)
    {before : Option Error} (stage : block.stage = .left before) :
    events = [] ∧ ending = before ∧ committed = block.committed := by
  cases events with
  | nil =>
    cases runs
    cases stage
    exact ⟨rfl, rfl, rfl⟩
  | cons event events =>
    obtain ⟨next, taken, _⟩ := run_cons_eq_some.mp runs
    unfold Block.step at taken
    rw [stage] at taken
    cases taken

theorem rollingBack_run
    (runs : run Block.step ⟨.rollingBack cause cancellation, false⟩ events =
      some ⟨.left ending, committed⟩) :
    committed = false ∧
      ((.settled .done ∈ events ∧ ∃ cancelled, ending = some (rolledBack cause cancelled)) ∨
        .settled .done ∉ events ∧ ∃ error, ending = some (.other error)) := by
  induction events generalizing cancellation with
  | nil => cases runs
  | cons event events ih =>
    obtain ⟨next, taken, rest⟩ := run_cons_eq_some.mp runs
    cases event with
    | bodyEnds _ => cases taken
    | cancelled =>
      cases taken
      simpa using ih rest
    | settled answer =>
      cases answer with
      | done =>
        cases taken
        obtain ⟨rfl, rfl, rfl⟩ := left_run rest rfl
        exact ⟨rfl, .inl ⟨by simp, cancellation, rfl⟩⟩
      | failed error =>
        cases taken
        obtain ⟨rfl, rfl, rfl⟩ := left_run rest rfl
        exact ⟨rfl, .inr ⟨by simp, error, rfl⟩⟩

theorem committing_run
    (runs : run Block.step ⟨.committing cancellation, false⟩ events =
      some ⟨.left ending, committed⟩) : commits ending = committed := by
  induction events generalizing cancellation with
  | nil => cases runs
  | cons event events ih =>
    obtain ⟨next, taken, rest⟩ := run_cons_eq_some.mp runs
    cases event with
    | bodyEnds _ => cases taken
    | cancelled =>
      cases taken
      exact ih rest
    | settled answer =>
      cases answer with
      | done =>
        cases taken
        obtain ⟨rfl, rfl, rfl⟩ := left_run rest rfl
        cases cancellation <;> rfl
      | failed error =>
        cases taken
        obtain ⟨rfl, ⟨_, cancelled, rfl⟩ | ⟨_, other, rfl⟩⟩ := rollingBack_run rest
        · rfl
        · rfl

theorem commits_rolledBack (error : Error) (cancelled : Bool) :
    commits (some (rolledBack (.body error) cancelled)) = true ↔
      error = .committedCancellation := by
  cases error with
  | committedCancellation => cases cancelled <;> simp [rolledBack, isCancelled, commits]
  | capacity => cases cancelled <;> simp [rolledBack, isCancelled, cancelledError, commits]
  | other name =>
    have fails : commits (some (rolledBack (.body (.other name)) cancelled)) = false := by
      unfold rolledBack
      dsimp only
      split <;> rfl
    simp [fails]

theorem reported_iff {raised : Option Error}
    (runs : run Block.step {} (.bodyEnds raised :: events) = some ⟨.left ending, committed⟩) :
    commits ending = committed ↔
      ¬ (raised = some .committedCancellation ∧ .settled .done ∈ events) := by
  obtain ⟨next, taken, rest⟩ := run_cons_eq_some.mp runs
  cases raised with
  | none =>
    cases taken
    simp [committing_run rest]
  | some error =>
    cases taken
    obtain ⟨rfl, ⟨done, cancelled, rfl⟩ | ⟨failed, other, rfl⟩⟩ := rollingBack_run rest
    · have what := commits_rolledBack error cancelled
      simp only [← Bool.not_eq_true, what, Option.some.injEq, done, and_true]
    · simp [commits, failed]

end Database

/-! ## Both stores -/

/-- A coupled transaction agrees exactly if its body does not raise `CommittedCancellation` before a
rollback that succeeds. -/
theorem coupled_agrees (codec : Codec V) (program : Program V) (maxItems maxBytes : Nat)
    (items : 1 ≤ maxItems) (bytes : 1 ≤ maxBytes) {entered body : Program V}
    {store after : Store V} {events : List Event} {ending : Option Error} {committed : Bool}
    (member : (entered, store) ∈ blocks codec program (empty V maxItems maxBytes items bytes))
    (result : coupled codec body store events = some (after, ending, committed)) :
    Agrees store (exec codec body store.begin).1 after ending committed ↔
      ¬ ((exec codec body store.begin).2 = some .committedCancellation ∧
        .settled .done ∈ events) := by
  have consistent := blocks_consistent codec program (empty_consistent items bytes) member
  obtain ⟨sound, keeps⟩ := exec_keeps codec body (begin_consistent consistent)
  unfold coupled at result
  dsimp only at result
  split at result
  · rename_i last flag runs
    cases result
    rw [← reported_iff runs]
    constructor
    · intro agrees
      exact Bool.eq_iff_iff.mpr (commits_iff.trans agrees.reported)
    · intro same
      refine ⟨?_, ?_, commits_iff.symm.trans (Bool.eq_iff_iff.mp same)⟩
      · intro done
        unfold lookup
        rw [(commit_step keeps sound (same.trans done)).1]
      · intro failed
        exact (rollback_step keeps sound (same.trans failed)).1
  · cases result

/-! ## A cancelled commit and a cancellation out of the body -/

def overwrites : Program (List UInt8) := .put [] (some "a") ""

def overwriting : Program (List UInt8) :=
  .seq (.put [97] (some "a") "") (.transaction overwrites)

theorem overwriting_enters : (overwrites, beforeBlock) ∈
    blocks byteStrings overwriting (empty _ 4 16 (by decide) (by decide)) :=
  List.mem_append_right _ (List.mem_cons_self ..)

/-- The task is cancelled during a commit that succeeds. -/
theorem coupled_agrees_cancelled_commit :
    ∃ after, coupled byteStrings overwrites beforeBlock [.cancelled, .settled .done] =
        some (after, some .committedCancellation, true) ∧
      Agrees beforeBlock (exec byteStrings overwrites beforeBlock.begin).1 after
        (some .committedCancellation) true := by
  obtain ⟨after, result⟩ : ∃ after, coupled byteStrings overwrites beforeBlock
      [.cancelled, .settled .done] = some (after, some .committedCancellation, true) := ⟨_, rfl⟩
  have agrees := coupled_agrees byteStrings overwriting 4 16 (by decide) (by decide)
    overwriting_enters result
  exact ⟨after, result, agrees.mpr (by decide)⟩

/-- The body overwrites the entry and lets a `CommittedCancellation` of its own out. -/
def overwritesAndRaises : Program (List UInt8) := .seq overwrites (.raise .committedCancellation)

theorem raised_cancellation_keeps_writes :
    (coupled byteStrings overwritesAndRaises beforeBlock [.settled .done]).map
        (fun result => (result.2, (lookup result.1 "a").map (·.byteSize))) =
        some ((some .committedCancellation, false), some 0) ∧
      (lookup beforeBlock "a").map (·.byteSize) = some 1 ∧
      ∀ after, coupled byteStrings overwritesAndRaises beforeBlock [.settled .done] =
          some (after, some .committedCancellation, false) →
        ¬ Agrees beforeBlock (exec byteStrings overwritesAndRaises beforeBlock.begin).1 after
          (some .committedCancellation) false := by
  refine ⟨by decide +kernel, by decide +kernel, ?_⟩
  intro after _ agrees
  cases agrees.reported.mp (.inr rfl)

end Copilotd.Guarantees.CoupledTransactions
