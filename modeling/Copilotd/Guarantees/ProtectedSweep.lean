import Copilotd.Source.Core.ProtectedRecovery
import Mathlib.Data.List.Pairwise
import Mathlib.Data.List.Nodup
import Mathlib.Data.List.Perm.Subperm
import Mathlib.Order.Nat

/-!
# The sweep over the protected bindings

What the sweep has passed is an interval that begins behind the starting cursor
and, once the sweep has wrapped, goes on from the first binding.  Every page lies
in what is not passed yet, so no binding is attempted twice; the page's last
binding passes all that was protected before it.
-/
namespace Copilotd.Guarantees.ProtectedSweep
open Source.Core.ProtectedRecovery

variable {ThreadId : Type*} [LinearOrder ThreadId] {bindings : Bindings ThreadId}
  {start : Option ThreadId} {sweep : Sweep ThreadId}

/-! ## Pages -/

def Reached (cursor : Option ThreadId) (thread : ThreadId) : Prop := ∃ last ∈ cursor, thread ≤ last

variable {thread : ThreadId}

theorem not_reached {cursor : Option ThreadId} :
    cursor.all (· < thread) = true ↔ ¬ Reached cursor thread := by
  cases cursor <;> simp [Reached]

theorem mem_page {query limit : Nat} {after through : Option ThreadId}
    (member : thread ∈ eagerBindings bindings query limit after through) :
    thread ∈ bindings.threads ∧ ¬ Reached after thread ∧ ∀ last ∈ through, thread ≤ last := by
  have chosen := List.mem_filter.mp (List.mem_of_mem_take member)
  simp only [Bool.and_eq_true, Option.all_eq_true, decide_eq_true_eq] at chosen
  refine ⟨chosen.1, ?_, chosen.2.2⟩
  rintro ⟨last, isLast, le⟩
  exact absurd (chosen.2.1.2 last isLast) (not_lt.mpr le)

theorem page_complete {query limit : Nat} {after through : Option ThreadId}
    (positive : 1 ≤ limit) (exists_ : thread ∈ bindings.threads)
    (isProtected : bindings.protectedAt query thread = true) (ahead : ¬ Reached after thread)
    (inside : ∀ last ∈ through, thread ≤ last) :
    thread ∈ eagerBindings bindings query limit after through ∨
      ∃ last ∈ (eagerBindings bindings query limit after through).getLast?, last < thread := by
  have chosen : thread ∈ bindings.threads.filter fun thread =>
      bindings.protectedAt query thread && after.all (· < thread) &&
        through.all (thread ≤ ·) := by
    rw [List.mem_filter, isProtected, not_reached.mpr ahead]
    simp only [Bool.and_self, Bool.true_and, Option.all_eq_true, decide_eq_true_eq]
    exact ⟨exists_, inside⟩
  have sorted := bindings.ascending.filter fun thread =>
    bindings.protectedAt query thread && after.all (· < thread) && through.all (thread ≤ ·)
  rw [← List.take_append_drop limit (bindings.threads.filter _)] at chosen sorted
  rcases List.mem_append.mp chosen with front | back
  · exact .inl front
  · right
    have nonempty : (bindings.threads.filter fun thread => bindings.protectedAt query thread &&
        after.all (· < thread) && through.all (thread ≤ ·)).take limit ≠ [] := by
      intro empty
      rw [List.take_eq_nil_iff] at empty
      rcases empty with zero | none_
      · omega
      · rw [none_, List.drop_nil] at back
        cases back
    exact ⟨_, List.getLast?_eq_some_getLast nonempty,
      (List.pairwise_append.mp sorted).2.2 _ (List.getLast_mem nonempty) thread back⟩

omit [LinearOrder ThreadId] in
theorem resumePage_eq {concurrency : Nat} {page : List ThreadId} (positive : 1 ≤ concurrency)
    (nonempty : page ≠ []) : resumePage concurrency page sweep = { sweep with
      attempts := sweep.attempts ++ page
      afterThreadId := page.getLast?
      cursor := page.getLast? } := by
  have groups : ∀ count, 0 < count → (count - 1) * concurrency < page.length →
      (List.range count).foldl (fun sweep index =>
        resumeGroup sweep ((page.drop (index * concurrency)).take concurrency)) sweep =
      { sweep with
        attempts := sweep.attempts ++ page.take (count * concurrency)
        afterThreadId := (page.take (count * concurrency)).getLast?
        cursor := (page.take (count * concurrency)).getLast? } := by
    intro count
    induction count with
    | zero => exact fun absurd => by cases absurd
    | succ count ih =>
      intro _ inside
      rw [Nat.add_sub_cancel] at inside
      have split : page.take ((count + 1) * concurrency) = page.take (count * concurrency) ++
          (page.drop (count * concurrency)).take concurrency := by
        rw [Nat.succ_mul, List.take_add]
      have more : (page.drop (count * concurrency)).take concurrency ≠ [] := by
        intro empty
        rw [List.take_eq_nil_iff, List.drop_eq_nil_iff] at empty
        omega
      rw [List.range_succ, List.foldl_append, split, List.getLast?_append_of_ne_nil _ more,
        ← List.append_assoc]
      cases count with
      | zero => simp [resumeGroup]
      | succ count =>
        have before := Nat.mul_le_mul_right concurrency (Nat.le_succ count)
        rw [ih (Nat.succ_pos _) (Nat.lt_of_le_of_lt before inside)]
        rfl
  have length := List.length_pos_of_ne_nil nonempty
  have count := Nat.div_add_mod (page.length + concurrency - 1) concurrency
  have rest := Nat.mod_lt (page.length + concurrency - 1) positive
  rw [Nat.mul_comm] at count
  unfold resumePage
  rw [groups, List.take_of_length_le (by omega)]
  · exact Nat.div_pos (by omega) positive
  · rw [Nat.sub_mul]
    omega

/-! ## Rounds -/

/-- The binding comes behind the starting cursor. -/
def Behind (start : Option ThreadId) (thread : ThreadId) : Prop := ∃ first ∈ start, first < thread

def Passed (start : Option ThreadId) (sweep : Sweep ThreadId) (thread : ThreadId) : Prop :=
  if sweep.wrapped then Behind start thread ∨ Reached sweep.afterThreadId thread
  else Behind start thread ∧ Reached sweep.afterThreadId thread

/-- The range of the pages: behind the starting cursor, then up to it. -/
def Ranged (start : Option ThreadId) (sweep : Sweep ThreadId) : Prop :=
  if sweep.wrapped then sweep.throughThreadId = start
  else sweep.throughThreadId = none ∧
    ∀ thread, Behind start thread ∨ Reached sweep.afterThreadId thread

/-- The invariant of the rounds. -/
structure Progress (bindings : Bindings ThreadId) (start : Option ThreadId)
    (sweep : Sweep ThreadId) : Prop where
  once : sweep.attempts.Nodup
  known : sweep.attempts ⊆ bindings.threads
  passed : ∀ thread ∈ sweep.attempts, Passed start sweep thread
  complete : ∀ thread ∈ bindings.threads, (∀ query, bindings.protectedAt query thread = true) →
    Passed start sweep thread → thread ∈ sweep.attempts
  ranged : Ranged start sweep

def nextPage (bindings : Bindings ThreadId) (pageSize : Nat) (sweep : Sweep ThreadId) :
    List ThreadId :=
  eagerBindings bindings sweep.queries pageSize sweep.afterThreadId sweep.throughThreadId

section Round

variable {pageSize : Nat} (progress : Progress bindings start sweep)

include progress

theorem Progress.page_new (member : thread ∈ nextPage bindings pageSize sweep) :
    ¬ Passed start sweep thread := by
  obtain ⟨_, ahead, inside⟩ := mem_page member
  have ranged := progress.ranged
  intro passed
  unfold Passed at passed
  unfold Ranged at ranged
  split at passed
  next wrapped =>
    rw [if_pos wrapped] at ranged
    rcases passed with ⟨first, isFirst, behind⟩ | reached
    · rw [← ranged] at isFirst
      exact absurd behind (not_lt.mpr (inside first isFirst))
    · exact ahead reached
  next => exact ahead passed.2

theorem Progress.page_all (positive : 1 ≤ pageSize) (exists_ : thread ∈ bindings.threads)
    (throughout : ∀ query, bindings.protectedAt query thread = true)
    (missed : thread ∉ sweep.attempts) (scope : sweep.wrapped = false → Behind start thread) :
    thread ∈ nextPage bindings pageSize sweep ∨
      ∃ last ∈ (nextPage bindings pageSize sweep).getLast?, last < thread := by
  have ranged := progress.ranged
  have open_ : ¬ Passed start sweep thread := fun passed =>
    missed (progress.complete thread exists_ throughout passed)
  unfold Passed at open_
  unfold Ranged at ranged
  cases wrapped : sweep.wrapped with
  | false =>
    rw [wrapped] at open_ ranged
    refine page_complete positive exists_ (throughout _)
      (fun reached => open_ ⟨scope wrapped, reached⟩) ?_
    rw [ranged.1]
    exact fun last none_ => by cases none_
  | true =>
    rw [wrapped] at open_ ranged
    refine page_complete positive exists_ (throughout _) (fun reached => open_ (.inr reached)) ?_
    intro last isLast
    rw [ranged] at isLast
    exact not_lt.mp fun behind => open_ (.inl ⟨last, isLast, behind⟩)

theorem Progress.wrap (positive : 1 ≤ pageSize) (first : sweep.wrapped = false)
    (empty : nextPage bindings pageSize sweep = []) :
    Progress bindings start { sweep with
      queries := sweep.queries + 1, wrapped := true, afterThreadId := none,
      throughThreadId := start } := by
  refine ⟨progress.once, progress.known, ?_, ?_, rfl⟩
  · intro thread member
    have passed := progress.passed thread member
    unfold Passed at passed
    rw [first] at passed
    exact .inl passed.1
  · intro thread exists_ throughout passed
    rcases passed with behind | ⟨_, none_, _⟩
    · by_contra missed
      rcases progress.page_all positive exists_ throughout missed fun _ => behind with
        inPage | ⟨_, isLast, _⟩
      · rw [empty] at inPage
        cases inPage
      · rw [empty] at isLast
        cases isLast
    · cases none_

theorem Progress.resume (positive : 1 ≤ pageSize) {page : List ThreadId}
    (isPage : nextPage bindings pageSize sweep = page) (nonempty : page ≠ []) :
    Progress bindings start { sweep with
      queries := sweep.queries + 1, attempts := sweep.attempts ++ page,
      afterThreadId := page.getLast?, cursor := page.getLast? } := by
  have ascending : page.Pairwise (· < ·) := by
    rw [← isPage]
    exact (bindings.ascending.filter _).take
  have isLast := List.getLast?_eq_some_getLast nonempty
  have atEnd : ∀ thread ∈ page, Reached page.getLast? thread := by
    intro thread member
    refine ⟨_, isLast, ?_⟩
    rw [← List.dropLast_append_getLast nonempty] at ascending member
    rcases List.mem_append.mp member with front | last
    · exact le_of_lt ((List.pairwise_append.mp ascending).2.2 thread front _ (by simp))
    · exact le_of_eq (List.mem_singleton.mp last)
  have onward : ∀ thread, Reached sweep.afterThreadId thread → Reached page.getLast? thread := by
    rintro thread ⟨after, isAfter, le⟩
    have final : page.getLast nonempty ∈ nextPage bindings pageSize sweep := by
      rw [isPage]
      exact List.getLast_mem nonempty
    obtain ⟨_, ahead, _⟩ := mem_page final
    refine ⟨_, isLast, le_of_lt (lt_of_le_of_lt le (not_le.mp fun last => ?_))⟩
    exact ahead ⟨after, isAfter, last⟩
  have new : ∀ thread ∈ page, ¬ Passed start sweep thread := fun thread member =>
    progress.page_new (isPage ▸ member)
  refine ⟨?_, ?_, ?_, ?_, ?_⟩
  · rw [List.nodup_append']
    refine ⟨progress.once, ascending.imp fun less => ne_of_lt less, ?_⟩
    intro thread old inPage
    exact new thread inPage (progress.passed thread old)
  · apply List.append_subset.mpr
    exact ⟨progress.known, fun thread member => (mem_page (isPage ▸ member)).1⟩
  · intro thread member
    unfold Passed
    rcases List.mem_append.mp member with old | inPage
    · have passed := progress.passed thread old
      unfold Passed at passed
      split
      next wrapped =>
        rw [if_pos wrapped] at passed
        exact passed.imp_right (onward thread)
      next first =>
        rw [if_neg first] at passed
        exact ⟨passed.1, onward thread passed.2⟩
    · have ranged := progress.ranged
      unfold Ranged at ranged
      split
      · exact .inr (atEnd thread inPage)
      next first =>
        rw [if_neg first] at ranged
        obtain ⟨_, ahead, _⟩ := mem_page (isPage ▸ inPage)
        exact ⟨(ranged.2 thread).resolve_right ahead, atEnd thread inPage⟩
  · intro thread exists_ throughout passed
    unfold Passed at passed
    by_contra missed
    rw [List.mem_append, not_or] at missed
    have scope : sweep.wrapped = false → Behind start thread := by
      intro first
      rw [first] at passed
      exact passed.1
    rcases progress.page_all positive exists_ throughout missed.1 scope with inPage | behindPage
    · exact missed.2 (isPage ▸ inPage)
    · rw [isPage] at behindPage
      obtain ⟨last, isEnd, less⟩ := behindPage
      have beyond : ¬ Reached page.getLast? thread := by
        rintro ⟨other, isOther, le⟩
        rw [Option.mem_unique isOther isEnd] at le
        exact absurd less (not_lt.mpr le)
      split at passed
      next wrapped =>
        have early := passed.resolve_right beyond
        exact missed.1 (progress.complete thread exists_ throughout (by
          unfold Passed
          rw [if_pos wrapped]
          exact .inl early))
      · exact beyond passed.2
  · have ranged := progress.ranged
    unfold Ranged at ranged ⊢
    split
    next wrapped =>
      rw [if_pos wrapped] at ranged
      exact ranged
    next first =>
      rw [if_neg first] at ranged
      exact ⟨ranged.1, fun thread => (ranged.2 thread).imp_right (onward thread)⟩

end Round

theorem sweepPages_spec {pageSize concurrency : Nat} (positive : 1 ≤ pageSize)
    (some_ : 1 ≤ concurrency) (rounds : Nat) (sweep : Sweep ThreadId)
    (progress : Progress bindings start sweep)
    (enough : bindings.threads.length + (if sweep.wrapped then 1 else 2) ≤
      rounds + sweep.attempts.length) :
    ∃ outcome, sweepPages bindings pageSize concurrency start rounds sweep = some outcome ∧
      outcome.cursor = none ∧ outcome.attempts.Nodup ∧
      ∀ thread ∈ bindings.threads, (∀ query, bindings.protectedAt query thread = true) →
        thread ∈ outcome.attempts := by
  induction rounds generalizing sweep with
  | zero =>
    have few := (progress.once.subperm progress.known).length_le
    split at enough <;> omega
  | succ rounds ih =>
    unfold sweepPages
    dsimp only
    cases isPage : nextPage bindings pageSize sweep with
    | nil =>
      unfold nextPage at isPage
      rw [isPage, List.isEmpty_nil, if_pos rfl]
      cases wrapped : sweep.wrapped with
      | false =>
        apply ih _ (progress.wrap positive wrapped isPage)
        rw [wrapped, if_neg Bool.false_ne_true] at enough
        rw [if_pos rfl]
        dsimp only
        omega
      | true =>
        refine ⟨_, rfl, rfl, progress.once, ?_⟩
        intro thread exists_ throughout
        by_contra missed
        rcases progress.page_all positive exists_ throughout missed
            (fun first => by rw [wrapped] at first; cases first) with inPage | ⟨_, isLast, _⟩
        · rw [nextPage, isPage] at inPage
          cases inPage
        · rw [nextPage, isPage] at isLast
          cases isLast
    | cons thread page =>
      have next := progress.resume positive isPage (List.cons_ne_nil thread page)
      unfold nextPage at isPage
      rw [isPage, List.isEmpty_cons, if_neg Bool.false_ne_true,
        resumePage_eq some_ (List.cons_ne_nil thread page)]
      apply ih _ next
      dsimp only
      rw [List.length_append, List.length_cons]
      omega

/-- A sweep from any stored cursor returns, attempts what is protected throughout
once and nothing twice, and leaves no cursor. -/
theorem protected_sweep_is_complete (bindings : Bindings ThreadId) (pageSize concurrency : Nat)
    (cursor : Option ThreadId) (positive : 1 ≤ pageSize) (some_ : 1 ≤ concurrency) (rounds : Nat)
    (enough : bindings.threads.length + 2 ≤ rounds) :
    ∃ outcome, recoverProtectedBindings bindings pageSize concurrency cursor rounds =
        .ok (some outcome) ∧ outcome.cursor = none ∧
      (∀ thread, outcome.attempts.count thread ≤ 1) ∧
      ∀ thread ∈ bindings.threads, (∀ query, bindings.protectedAt query thread = true) →
        outcome.attempts.count thread = 1 := by
  have fresh : Progress bindings cursor
      { queries := 0, afterThreadId := cursor, throughThreadId := none,
        wrapped := cursor.isNone, cursor := cursor, attempts := [] } := by
    refine
      ⟨List.nodup_nil, List.nil_subset _, fun _ member => (List.not_mem_nil member).elim, ?_, ?_⟩
    · intro thread _ _ passed
      cases cursor with
      | none =>
        rcases passed with ⟨_, none_, _⟩ | ⟨_, none_, _⟩
        · cases none_
        · cases none_
      | some first =>
        obtain ⟨⟨_, isFirst, behind⟩, ⟨_, isAfter, le⟩⟩ := passed
        cases isFirst
        cases isAfter
        exact absurd behind (not_lt.mpr le)
    · cases cursor with
      | none => rfl
      | some first =>
        refine ⟨rfl, fun thread => ?_⟩
        rcases lt_or_ge first thread with behind | reached
        · exact .inl ⟨first, rfl, behind⟩
        · exact .inr ⟨first, rfl, reached⟩
  obtain ⟨outcome, returned, left, once, all⟩ := sweepPages_spec positive some_ rounds _ fresh
    (by dsimp only [List.length_nil]; split <;> omega)
  refine ⟨outcome, ?_, left, List.nodup_iff_count_le_one.mp once, ?_⟩
  · rw [recoverProtectedBindings, if_neg (by omega), if_neg (by omega), returned]
  · intro thread exists_ throughout
    exact List.count_eq_one_of_mem once (all thread exists_ throughout)

def fourBindings : Bindings Nat where
  threads := [1, 2, 3, 4]
  ascending := by decide
  protectedAt query thread := thread ≠ 3 || query = 0

theorem protected_sweep_is_complete_interrupted :
    ∃ outcome, recoverProtectedBindings fourBindings 1 2 (some 2) 6 = .ok (some outcome) ∧
      outcome.cursor = none ∧ (∀ thread, outcome.attempts.count thread ≤ 1) ∧
      ∀ thread ∈ fourBindings.threads, (∀ query, fourBindings.protectedAt query thread = true) →
        outcome.attempts.count thread = 1 :=
  protected_sweep_is_complete fourBindings 1 2 (some 2) (by decide) (by decide) 6 (by decide)

end Copilotd.Guarantees.ProtectedSweep
