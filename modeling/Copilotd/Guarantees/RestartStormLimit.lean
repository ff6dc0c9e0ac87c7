import Copilotd.Source.Ops.RestartStorms
import Mathlib.Data.List.Chain
import Mathlib.Tactic.Linarith

/-!
# Restart storms

The file is a suffix of the permitted restarts, and every burst that ends them is
in the file as long as it fits into the window.  So a burst of `limit` restarts is
counted in full at the next check.
-/
namespace Copilotd.Guarantees.RestartStormLimit
open Source.Ops.RestartStorms

variable {store : RestartStormStore}

/-! ## The cut at a gap -/

/-- All successive gaps are at most `max_gap_seconds`. -/
def Close (store : RestartStormStore) (burst : List ℚ) : Prop :=
  burst.IsChain fun earlier later => later - earlier ≤ store.maxGapSeconds

theorem suffix_concat {short long : List ℚ} {last now : ℚ}
    (ends : short ++ [last] <:+ long ++ [now]) : short <:+ long ∧ last = now := by
  obtain ⟨front, whole⟩ := ends
  rw [← List.append_assoc] at whole
  obtain ⟨same, single⟩ := List.append_inj' whole rfl
  exact ⟨⟨front, same⟩, List.singleton_inj.mp single⟩

theorem suffix_concat_same {short long : List ℚ} {now : ℚ} (ends : short <:+ long) :
    short ++ [now] <:+ long ++ [now] := by
  obtain ⟨front, rfl⟩ := ends
  exact ⟨front, by rw [List.append_assoc]⟩

theorem cut_suffix (restarts : List ℚ) (value : ℚ) : store.cut restarts value <:+ restarts := by
  unfold RestartStormStore.cut
  split
  · split
    · exact List.nil_suffix
    · exact List.suffix_rfl
  · exact List.suffix_rfl

variable {restarts : List ℚ}

theorem close_cut (value : ℚ) (close : Close store restarts) :
    Close store (store.cut restarts value ++ [value]) := by
  unfold RestartStormStore.cut
  split
  next last isLast =>
    split
    · exact List.isChain_singleton value
    next near =>
      apply List.isChain_append.mpr
      refine ⟨close, List.isChain_singleton value, ?_⟩
      intro other isOther next isNext
      rw [isLast, Option.mem_some_iff] at isOther
      rw [List.head?_cons, Option.mem_some_iff] at isNext
      rw [← isOther, ← isNext]
      exact not_lt.mp near
  next noLast =>
    rw [List.getLast?_eq_none_iff.mp noLast]
    exact List.isChain_singleton value

variable {burst : List ℚ}

theorem suffix_cut {value : ℚ} (ends : burst <:+ restarts)
    (close : Close store (burst ++ [value])) : burst <:+ store.cut restarts value := by
  by_cases empty : burst = []
  · rw [empty]
    exact List.nil_suffix
  · obtain ⟨front, rfl⟩ := ends
    obtain ⟨last, isLast⟩ := Option.isSome_iff_exists.mp (List.getLast?_isSome.mpr empty)
    have near := (List.isChain_append.mp close).2.2 last isLast value rfl
    rw [RestartStormStore.cut, List.getLast?_append, isLast, Option.some_or]
    dsimp only
    rw [if_neg (not_lt.mpr near)]
    exact List.suffix_append front burst

theorem unbroken_append (recent : List ℚ) (value : ℚ) : store.unbroken (recent ++ [value]) =
    store.cut (store.unbroken recent) value ++ [value] := by
  rw [RestartStormStore.unbroken, List.foldl_append]
  rfl

theorem unbroken_suffix (recent : List ℚ) : store.unbroken recent <:+ recent := by
  induction recent using List.reverseRecOn with
  | nil => exact List.suffix_rfl
  | append_singleton recent value ih =>
    rw [unbroken_append]
    exact suffix_concat_same ((cut_suffix _ value).trans ih)

theorem close_unbroken (recent : List ℚ) : Close store (store.unbroken recent) := by
  induction recent using List.reverseRecOn with
  | nil => exact List.isChain_nil
  | append_singleton recent value ih =>
    rw [unbroken_append]
    exact close_cut value ih

theorem suffix_unbroken {recent : List ℚ} (ends : burst <:+ recent)
    (close : Close store burst) : burst <:+ store.unbroken recent := by
  induction recent using List.reverseRecOn generalizing burst with
  | nil =>
    rw [List.suffix_nil.mp ends]
    exact List.nil_suffix
  | append_singleton recent value ih =>
    induction burst using List.reverseRecOn with
    | nil => exact List.nil_suffix
    | append_singleton burst last _ =>
      obtain ⟨within, rfl⟩ := suffix_concat ends
      rw [unbroken_append]
      exact suffix_concat_same (suffix_cut (ih within (List.isChain_append.mp close).1) close)

/-! ## One check -/

def counted (store : RestartStormStore) (restarts : List ℚ) (now : ℚ) : List ℚ :=
  store.cut (store.unbroken (store.recent restarts now)) now

theorem filter_suffix {p : ℚ → Bool} (sorted : restarts.Pairwise (· ≤ ·))
    (upward : ∀ old ∈ restarts, ∀ new ∈ restarts, old ≤ new → p old = true → p new = true) :
    restarts.filter p <:+ restarts := by
  induction restarts with
  | nil => exact List.suffix_rfl
  | cons first restarts ih =>
    obtain ⟨least, sorted⟩ := List.pairwise_cons.mp sorted
    by_cases hit : p first = true
    · have all : (first :: restarts).filter p = first :: restarts := by
        rw [List.filter_eq_self]
        intro value member
        rcases List.mem_cons.mp member with rfl | later
        · exact hit
        · exact upward first (by simp) value (by simp [later]) (least value later) hit
      exact ⟨[], all⟩
    · rw [List.filter_cons_of_neg hit]
      have rest := ih sorted fun old isOld new isNew =>
        upward old (List.mem_cons_of_mem _ isOld) new (List.mem_cons_of_mem _ isNew)
      exact rest.trans (List.suffix_cons first restarts)

section Check

variable {restarts : List ℚ} {now : ℚ} (sorted : (restarts ++ [now]).Pairwise (· ≤ ·))

include sorted

theorem recent_eq : store.recent restarts now =
    restarts.filter fun value => now - value ≤ store.windowSeconds := by
  obtain ⟨sorted, _, before⟩ := List.pairwise_append.mp sorted
  have same : restarts.filter (fun value =>
      -5 ≤ now - value ∧ now - value ≤ store.windowSeconds) =
        restarts.filter fun value => now - value ≤ store.windowSeconds := by
    apply List.filter_congr
    intro value member
    have late := before value member now (by simp)
    simp only [decide_eq_decide, and_iff_right_iff_imp]
    intro _
    linarith
  rw [RestartStormStore.recent, same]
  exact (sorted.filter _).insertionSort_eq

theorem counted_spec : counted store restarts now <:+ restarts ∧
    Close store (counted store restarts now ++ [now]) ∧
    ∀ value ∈ counted store restarts now, now - value ≤ store.windowSeconds := by
  have inside := (@cut_suffix store _ now).trans (@unbroken_suffix store
    (restarts.filter fun value => now - value ≤ store.windowSeconds))
  rw [counted, recent_eq sorted]
  refine ⟨inside.trans (filter_suffix (List.pairwise_append.mp sorted).1 ?_),
    close_cut now (close_unbroken _), ?_⟩
  · intro old _ new _ le within
    rw [decide_eq_true_eq] at within ⊢
    linarith
  · intro value member
    exact of_decide_eq_true (List.mem_filter.mp (inside.mem member)).2

theorem suffix_counted (ends : burst <:+ restarts) (close : Close store (burst ++ [now]))
    (within : ∀ value ∈ burst, now - value ≤ store.windowSeconds) :
    burst <:+ counted store restarts now := by
  rw [counted, recent_eq sorted]
  apply suffix_cut _ close
  apply suffix_unbroken _ (List.isChain_append.mp close).1
  have kept := ends.filter fun value => decide (now - value ≤ store.windowSeconds)
  rwa [List.filter_eq_self.mpr fun value member => decide_eq_true (within value member)] at kept

end Check

/-! ## Every sequence of checks -/

/-- The file and the checks that were made, with their times. -/
structure World where
  file : Option Payload
  log : List (ℚ × StormDecision)

def check (store : RestartStormStore) (world : World) (now : ℚ) : World :=
  let (decision, file) := store.checkAndRecord world.file now
  ⟨file, world.log ++ [(now, decision)]⟩

def checks (store : RestartStormStore) (times : List ℚ) : World :=
  times.foldl (check store) ⟨none, []⟩

def World.permitted (world : World) : List ℚ :=
  (world.log.filter fun entry => !entry.2.suppress).map Prod.fst

/-- The burst spans no more than the window. -/
def Within (store : RestartStormStore) (burst : List ℚ) : Prop :=
  ∃ first ∈ burst.head?, ∃ last ∈ burst.getLast?, last - first ≤ store.windowSeconds

/-- How the file goes with the permitted restarts. -/
structure Recorded (store : RestartStormStore) (times : List ℚ) (world : World)
    (restarts : List ℚ) : Prop where
  file : read world.file = .ok ⟨1, restarts⟩
  made : List.Sublist world.permitted times
  recent : restarts <:+ world.permitted
  complete : ∀ burst, burst <:+ world.permitted → Close store burst → Within store burst →
    burst <:+ restarts
  limited : ∀ burst, burst <:+: world.permitted → burst.length = store.limit + 1 →
    Close store burst → ¬ Within store burst

theorem check_cases {world : World} {restarts : List ℚ} (file : read world.file = .ok ⟨1, restarts⟩)
    (now : ℚ) :
    ((store.checkAndRecord world.file now).1.suppress = true ∧
      store.limit ≤ (counted store restarts now).length ∧
      (check store world now).file = world.file ∧
      (check store world now).permitted = world.permitted) ∨
    ((store.checkAndRecord world.file now).1.suppress = false ∧
      (counted store restarts now).length < store.limit ∧
      (check store world now).file = some ⟨1, counted store restarts now ++ [now]⟩ ∧
      (check store world now).permitted = world.permitted ++ [now]) := by
  unfold check World.permitted RestartStormStore.checkAndRecord
  rw [file]
  dsimp only
  split
  next many => exact .inl ⟨rfl, many, rfl, by simp⟩
  next few => exact .inr ⟨rfl, not_le.mp few, rfl, by simp⟩

/-- In an ascending burst the first restart is the farthest from its end. -/
theorem within_of_burst {now : ℚ} (sorted : (burst ++ [now]).Pairwise (· ≤ ·))
    (span : Within store (burst ++ [now])) :
    ∀ value ∈ burst, now - value ≤ store.windowSeconds := by
  intro value member
  cases burst with
  | nil => cases member
  | cons first burst =>
    obtain ⟨_, isFirst, last, isLast, wide⟩ := span
    rw [List.cons_append, List.head?_cons, Option.mem_some_iff] at isFirst
    rw [List.getLast?_concat, Option.mem_some_iff] at isLast
    subst isFirst isLast
    rcases List.mem_cons.mp member with rfl | later
    · exact wide
    · have le := List.rel_of_pairwise_cons sorted (List.mem_append_left [now] later)
      linarith

theorem recorded_check {times : List ℚ} {world : World} {now : ℚ}
    (sorted : (times ++ [now]).Pairwise (· ≤ ·)) (recorded : Recorded store times world restarts) :
    ∃ restarts, Recorded store (times ++ [now]) (check store world now) restarts := by
  have history : (world.permitted ++ [now]).Pairwise (· ≤ ·) :=
    sorted.sublist (recorded.made.append_right [now])
  have stored : (restarts ++ [now]).Pairwise (· ≤ ·) :=
    history.sublist (recorded.recent.sublist.append_right [now])
  rcases @check_cases store _ _ recorded.file now with
    ⟨_, _, file, permitted⟩ | ⟨_, few, file, permitted⟩
  · refine ⟨restarts, by rw [file]; exact recorded.file, ?_, ?_, ?_, ?_⟩
    · rw [permitted]
      exact recorded.made.trans (List.sublist_append_left times [now])
    · rw [permitted]
      exact recorded.recent
    · rw [permitted]
      exact recorded.complete
    · rw [permitted]
      exact recorded.limited
  · -- a burst that ends with this restart was counted but for its last element
    have ending : ∀ burst, burst ++ [now] <:+ world.permitted ++ [now] →
        Close store (burst ++ [now]) → Within store (burst ++ [now]) →
        burst <:+ counted store restarts now := by
      intro burst ends close span
      by_cases empty : burst = []
      · rw [empty]
        exact List.nil_suffix
      have before := (suffix_concat ends).1
      have within := within_of_burst (history.sublist ends.sublist) span
      apply suffix_counted stored _ close within
      apply recorded.complete burst before (List.isChain_append.mp close).1
      have isFirst := List.head?_eq_some_head empty
      have isLast := List.getLast?_eq_some_getLast empty
      have inside := within _ (List.mem_of_mem_head? isFirst)
      have late := (List.pairwise_append.mp history).2.2 _
        (before.mem (List.mem_of_mem_getLast? isLast)) now (by simp)
      exact ⟨_, isFirst, _, isLast, by linarith⟩
    refine ⟨counted store restarts now ++ [now], by rw [file]; rfl, ?_, ?_, ?_, ?_⟩
    · rw [permitted]
      exact recorded.made.append_right [now]
    · rw [permitted]
      exact suffix_concat_same ((counted_spec stored).1.trans recorded.recent)
    · rw [permitted]
      intro burst ends close span
      induction burst using List.reverseRecOn with
      | nil => exact List.nil_suffix
      | append_singleton burst last _ =>
        obtain ⟨_, rfl⟩ := suffix_concat ends
        exact suffix_concat_same (ending burst ends close span)
    · rw [permitted]
      intro burst part many close span
      rcases List.infix_concat_iff.mp part with ends | old
      · induction burst using List.reverseRecOn with
        | nil =>
          obtain ⟨_, isFirst, _⟩ := span
          cases isFirst
        | append_singleton burst last _ =>
          obtain ⟨_, rfl⟩ := suffix_concat ends
          have size := (ending burst ends close span).length_le
          rw [List.length_append, List.length_singleton] at many
          omega
      · exact recorded.limited burst old many close span

theorem recorded_checks {times : List ℚ} (sorted : times.Pairwise (· ≤ ·)) :
    ∃ restarts, Recorded store times (checks store times) restarts := by
  induction times using List.reverseRecOn with
  | nil =>
    refine ⟨[], rfl, List.nil_sublist [], List.suffix_rfl, fun _ ends _ _ => ends, ?_⟩
    intro burst part _ _ span
    rw [List.eq_nil_of_infix_nil part] at span
    obtain ⟨_, isFirst, _⟩ := span
    cases isFirst
  | append_singleton times now ih =>
    obtain ⟨restarts, recorded⟩ := ih (List.pairwise_append.mp sorted).1
    rw [checks, List.foldl_append]
    exact recorded_check sorted recorded

/-- Bursts of permitted restarts outlast the window, and a check is suppressed only
by a burst of `limit` restarts that ends at it. -/
theorem restart_storms_are_limited (store : RestartStormStore) (times : List ℚ)
    (sorted : times.Pairwise (· ≤ ·)) :
    (∀ burst, burst <:+: (checks store times).permitted → burst.length = store.limit + 1 →
      Close store burst → ∀ first ∈ burst.head?, ∀ last ∈ burst.getLast?,
        store.windowSeconds < last - first) ∧
    ∀ before now after, times = before ++ now :: after →
      (store.checkAndRecord (checks store before).file now).1.suppress = true →
      ∃ burst, burst <:+ (checks store before).permitted ∧ burst.length = store.limit.toNat ∧
        (∀ restart ∈ burst, now - restart ≤ store.windowSeconds) ∧
        Close store (burst ++ [now]) := by
  constructor
  · obtain ⟨_, recorded⟩ := @recorded_checks store _ sorted
    intro burst part many close first isFirst last isLast
    by_contra narrow
    exact recorded.limited burst part many close ⟨first, isFirst, last, isLast, not_lt.mp narrow⟩
  · rintro before now after rfl suppressed
    have upTo : (before ++ [now]).Pairwise (· ≤ ·) := by
      rw [List.append_cons] at sorted
      exact (List.pairwise_append.mp sorted).1
    obtain ⟨restarts, recorded⟩ := @recorded_checks store _ (List.pairwise_append.mp upTo).1
    have stored : (restarts ++ [now]).Pairwise (· ≤ ·) :=
      upTo.sublist ((recorded.recent.sublist.trans recorded.made).append_right [now])
    obtain ⟨ends, close, within⟩ := @counted_spec store _ _ stored
    rcases @check_cases store _ _ recorded.file now with ⟨_, many, _⟩ | ⟨permits, _⟩
    · let rest := (counted store restarts now).length - store.limit.toNat
      have last : (counted store restarts now).drop rest <:+ counted store restarts now :=
        List.drop_suffix rest _
      refine ⟨_, (last.trans ends).trans recorded.recent, ?_, ?_, ?_⟩
      · rw [List.length_drop]
        omega
      · exact fun restart member => within restart (last.mem member)
      · exact close.suffix (suffix_concat_same last)
    · rw [permits] at suppressed
      cases suppressed

/-- Two restarts per hour, at most ten minutes apart. -/
def hourly : RestartStormStore := ⟨3600, 2, 600⟩

theorem restart_storms_are_limited_hourly :
    (checks hourly [0, 300, 500, 4000]).permitted = [0, 300, 4000] ∧
      ∃ burst, burst <:+ (checks hourly [0, 300]).permitted ∧ burst.length = hourly.limit.toNat ∧
        (∀ restart ∈ burst, 500 - restart ≤ hourly.windowSeconds) ∧
        Close hourly (burst ++ [500]) := by
  refine ⟨by decide +kernel, ?_⟩
  exact (restart_storms_are_limited hourly [0, 300, 500, 4000] (by decide +kernel)).2
    [0, 300] 500 [4000] rfl (by decide +kernel)

end Copilotd.Guarantees.RestartStormLimit
