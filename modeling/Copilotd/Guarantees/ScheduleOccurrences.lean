import Copilotd.Base.Ticks
import Copilotd.Guarantees.CronSearches

/-!
# Schedule occurrences

What `next_after` and `latest_due` are for: the occurrences of an expression, and that
the two functions find the least one after an instant and the greatest one up to it.
For cron expressions this is a fact about two searches through wall time, which find
what they look for where they meet an end before the minutes run out.
-/
namespace Copilotd.Guarantees.ScheduleOccurrences

open Base.Rounding Base.Ticks Source.Core.ScheduleTime Guarantees.CronSearches

/-! ## Cron occurrences -/

/-- The instants whose wall time a cron expression matches. -/
def cronOccurrences (cron : Croniter) (zone : ZoneInfo) : Set ℚ :=
  { t | ∃ minute ∈ cron.matching, zone.wallTime t = 60 * minute }

/-- The search that the policies of a scheduled cron expression run. -/
def planSearch (cron : Croniter) (zone : ZoneInfo) (instant : ℚ) : Search :=
  exactSearch cron zone instant .skip .both

variable {cron : Croniter} {zone : ZoneInfo} {instant after through target t : ℚ} {minute : ℤ}

theorem landing_plan (cron : Croniter) (zone : ZoneInfo) (instant : ℚ) :
    Landing (planSearch cron zone instant) id := landing_skip rfl nofun

theorem allFolds_plan : (planSearch cron zone instant).allFolds (60 * minute) =
    .ok (candidates zone (60 * minute)) :=
  resolveWallTime_skip nofun rfl

theorem dated_plan :
    (planSearch cron zone instant).resolve (60 * minute) ≠ .error .outOfRange := by
  rw [← allFolds_of_both rfl, allFolds_plan]
  nofun

theorem resolves_plan :
    Resolves (planSearch cron zone instant) minute t ↔ zone.wallTime t = 60 * minute :=
  ((landing_plan cron zone instant).resolves_iff dated_plan).trans mem_candidates

section Next

/-- What is still to be enumerated when the least occurrence is not the first pass of
its wall time: a matching minute at which the search stops. -/
def NextStop (cron : Croniter) (zone : ZoneInfo) (after : ℚ) (goal : ℤ) : Prop :=
  ∃ stop ∈ cron.matching, goal < stop ∧
    zone.wallMinute after + overlapWindow zone after < 60 * stop

/-- The least occurrence after an instant exists and the search of `_cron_next` gets to it. -/
def NextInReach (cron : Croniter) (zone : ZoneInfo) (after : ℚ) : Prop :=
  ∃ (target : ℚ) (goal : ℤ), IsLeast (After (cronOccurrences cron zone) after) target ∧
    zone.wallTime target = 60 * goal ∧
    yearOf (60 * goal) ≤ (planSearch cron zone after).futureHorizon ∧
    ((∀ t, zone.wallTime t = zone.wallTime target → target ≤ t) ∨ NextStop cron zone after goal)

theorem cronNext_isLeast (reach : NextInReach cron zone after) :
    ∃ target, (planSearch cron zone after).next = .ok target ∧
      IsLeast (After (cronOccurrences cron zone) after) target := by
  obtain ⟨target, goal, least, wall, inHorizon, ends⟩ := reach
  have goalMatch : goal ∈ cron.matching := by
    obtain ⟨⟨minute, isMatch, same⟩, -⟩ := least.1
    have : (goal : ℚ) = minute := by linarith
    rwa [show goal = minute by exact_mod_cast this]
  have reaches : Resolves (planSearch cron zone after) goal target := resolves_plan.mpr wall
  have first : IsLeast (upcoming (planSearch cron zone after)) target := by
    refine ⟨⟨least.1.2, goal, goalMatch, inHorizon, reaches⟩, ?_⟩
    rintro t ⟨later, minute, isMatch, -, resolves⟩
    exact least.2 ⟨⟨minute, isMatch, resolves_plan.mp resolves⟩, later⟩
  have behind := next_cursor_before least.1.2 wall
  have dated (minute : ℤ) : NextDated (planSearch cron zone after) minute :=
    fun _ _ _ _ _ => dated_plan
  refine ⟨target, ?_, least⟩
  refine (next_eq_iff (landing_plan cron zone after) first).mpr
    ⟨rfl, ⟨goal, goalMatch, behind, inHorizon, reaches, dated goal⟩, fun _ => ?_⟩
  rcases ends with own | ⟨stop, stopMatch, ahead, beyond⟩
  · refine ⟨goal, goalMatch, behind,
      .inr (.inr ⟨_, target, allFolds_plan, ?_, least.1.2⟩), dated goal⟩
    rw [List.min?_eq_some_iff]
    refine ⟨mem_candidates.mpr wall, ?_⟩
    intro t pass
    exact own t ((mem_candidates.mp pass).trans wall.symm)
  · have window := overlapWindow_nonneg zone after
    have start : zone.wallMinute after - overlapWindow zone after < 60 * stop := by linarith
    exact ⟨stop, stopMatch, start, .inr (.inl beyond), dated stop⟩

end Next

section Previous

/-- A matching minute at which the search stops, before the greatest occurrence. -/
def PreviousStop (cron : Croniter) (zone : ZoneInfo) (through : ℚ) (goal : ℤ) : Prop :=
  ∃ stop ∈ cron.matching, stop < goal ∧
    60 * stop < zone.wallMinute through - overlapWindow zone through

/-- The greatest occurrence up to an instant exists and the search of
`_cron_previous_or_at` gets to it. -/
def PreviousInReach (cron : Croniter) (zone : ZoneInfo) (through : ℚ) : Prop :=
  ∃ (target : ℚ) (goal : ℤ), IsGreatest (UpTo (cronOccurrences cron zone) through) target ∧
    zone.wallTime target = 60 * goal ∧
    (planSearch cron zone through).pastHorizon ≤ yearOf (60 * goal) ∧
    ((∀ t, zone.wallTime t = zone.wallTime target → t ≤ target) ∨
      PreviousStop cron zone through goal)

theorem cronPreviousOrAt_isGreatest (reach : PreviousInReach cron zone through) :
    ∃ target, (planSearch cron zone through).previousOrAt = .ok (some target) ∧
      IsGreatest (UpTo (cronOccurrences cron zone) through) target := by
  obtain ⟨target, goal, greatest, wall, inHorizon, ends⟩ := reach
  have goalMatch : goal ∈ cron.matching := by
    obtain ⟨⟨minute, isMatch, same⟩, -⟩ := greatest.1
    have : (goal : ℚ) = minute := by linarith
    rwa [show goal = minute by exact_mod_cast this]
  have reaches : Resolves (planSearch cron zone through) goal target := resolves_plan.mpr wall
  have last : IsGreatest (elapsed (planSearch cron zone through)) target := by
    refine ⟨⟨greatest.1.2, goal, goalMatch, inHorizon, reaches⟩, ?_⟩
    rintro t ⟨upTo, minute, isMatch, -, resolves⟩
    exact greatest.2 ⟨⟨minute, isMatch, resolves_plan.mp resolves⟩, upTo⟩
  have dated (minute : ℤ) : PreviousDated (planSearch cron zone through) minute :=
    fun _ _ _ _ _ => dated_plan
  have start := previous_cursor_after greatest.1.2 wall
  refine ⟨target, ?_, greatest⟩
  refine (previousOrAt_eq_iff (landing_plan cron zone through) last).mpr
    ⟨rfl, ⟨goal, goalMatch, inHorizon, reaches, dated goal⟩, fun _ => ?_⟩
  rcases ends with own | ⟨stop, stopMatch, ahead, beyond⟩
  · refine ⟨goal, goalMatch, start,
      .inr (.inr ⟨_, target, allFolds_plan, ?_, greatest.1.2⟩), dated goal⟩
    rw [List.max?_eq_some_iff]
    refine ⟨mem_candidates.mpr wall, ?_⟩
    intro t pass
    exact own t ((mem_candidates.mp pass).trans wall.symm)
  · have sooner : (stop : ℚ) < goal := by exact_mod_cast ahead
    have before : 60 * stop < zone.wallMinute through + overlapWindow zone through + 60 := by
      linarith
    exact ⟨stop, stopMatch, before, .inr (.inl beyond), dated stop⟩

end Previous

/-! ## Occurrences of an expression -/

/-- The occurrences of an expression that is anchored at the creation of its schedule. -/
def occurrences (expression : Expression) (anchor : ℚ) : Set ℚ :=
  match expression with
  | .at atUtc => {atUtc}
  | .interval seconds _ => { t | ∃ n : ℕ, t = anchor + n * seconds }
  | .cron cron zone => cronOccurrences cron zone

/-- Both searches of a cron expression get to what they look for. -/
def InReach (expression : Expression) (now : ℚ) : Prop :=
  match expression with
  | .at _ | .interval .. => True
  | .cron cron zone => PreviousInReach cron zone now ∧ NextInReach cron zone now

variable {anchor : ℚ}

theorem interval_next {seconds : ℚ} (positive : 0 < seconds) :
    IsLeast (After { t | ∃ n : ℕ, t = anchor + n * seconds } after)
      (anchor + (max 0 (⌊(after - anchor) / seconds⌋ + 1) : ℤ) * seconds) := by
  have beyond := Int.lt_floor_add_one ((after - anchor) / seconds)
  rw [div_lt_iff₀ positive] at beyond
  constructor
  · refine ⟨⟨(max 0 (⌊(after - anchor) / seconds⌋ + 1)).toNat, ?_⟩, ?_⟩
    · have cast : (((max 0 (⌊(after - anchor) / seconds⌋ + 1)).toNat : ℤ) : ℚ) =
          ((max 0 (⌊(after - anchor) / seconds⌋ + 1) : ℤ) : ℚ) := by
        rw [Int.toNat_of_nonneg (le_max_left ..)]
      rw [← cast, Int.cast_natCast]
    · have most : ((⌊(after - anchor) / seconds⌋ : ℚ) + 1) * seconds ≤
          ((max 0 (⌊(after - anchor) / seconds⌋ + 1) : ℤ) : ℚ) * seconds := by
        refine mul_le_mul_of_nonneg_right ?_ positive.le
        exact_mod_cast le_max_right 0 (⌊(after - anchor) / seconds⌋ + 1)
      linarith
  · rintro t ⟨⟨n, rfl⟩, later⟩
    have floor : ⌊(after - anchor) / seconds⌋ < n := by
      rw [Int.floor_lt, div_lt_iff₀ positive, Int.cast_natCast]
      linarith
    have most : ((max 0 (⌊(after - anchor) / seconds⌋ + 1) : ℤ) : ℚ) ≤ n := by
      have : max 0 (⌊(after - anchor) / seconds⌋ + 1) ≤ (n : ℤ) := by omega
      exact_mod_cast this
    have := mul_le_mul_of_nonneg_right most positive.le
    linarith

theorem interval_latest {seconds : ℚ} (positive : 0 < seconds) (started : anchor ≤ through) :
    IsGreatest (UpTo { t | ∃ n : ℕ, t = anchor + n * seconds } through)
      (anchor + ⌊(through - anchor) / seconds⌋ * seconds) := by
  have below := Int.floor_le ((through - anchor) / seconds)
  rw [le_div_iff₀ positive] at below
  have nonneg : 0 ≤ ⌊(through - anchor) / seconds⌋ := by
    rw [Int.floor_nonneg]
    exact div_nonneg (by linarith) positive.le
  constructor
  · refine ⟨⟨⌊(through - anchor) / seconds⌋.toNat, ?_⟩, by linarith⟩
    have cast :
      ((⌊(through - anchor) / seconds⌋.toNat : ℤ) : ℚ) = ⌊(through - anchor) / seconds⌋ := by
      rw [Int.toNat_of_nonneg nonneg]
    rw [← cast, Int.cast_natCast]
  · rintro t ⟨⟨n, rfl⟩, upTo⟩
    have floor : (n : ℤ) ≤ ⌊(through - anchor) / seconds⌋ := by
      rw [Int.le_floor, le_div_iff₀ positive, Int.cast_natCast]
      linarith
    have cast : (n : ℚ) ≤ ⌊(through - anchor) / seconds⌋ := by exact_mod_cast floor
    have := mul_le_mul_of_nonneg_right cast positive.le
    linarith

variable {expression : Expression}

theorem nextAfter_isNext {now : ℚ} (anchor : ℚ) (reach : InReach expression now) :
    ∃ next, (parseSchedule expression anchor).nextAfter now = .ok next ∧
      IsNext (occurrences expression anchor) now next := by
  cases expression with
  | «at» atUtc =>
    refine ⟨_, rfl, ?_⟩
    split
    · next later => exact ⟨⟨rfl, later⟩, fun t tick => (show t = atUtc from tick.1).ge⟩
    · next passed =>
      refine Set.eq_empty_iff_forall_notMem.mpr ?_
      rintro t ⟨tick, later⟩
      rw [show t = atUtc from tick] at later
      exact passed later
  | interval seconds atLeastOne =>
    exact ⟨_, rfl, interval_next (by linarith)⟩
  | cron cron zone =>
    obtain ⟨target, found, least⟩ := cronNext_isLeast reach.2
    refine ⟨some target, ?_, least⟩
    exact congrArg (Except.map some) found

theorem latestDue_isGreatest {first now : ℚ}
    (reach : InReach expression now) (occurs : first ∈ occurrences expression anchor)
    (due : first ≤ now) :
    ∃ latest, (parseSchedule expression anchor).latestDue first now = .ok (some latest) ∧
      IsGreatest (UpTo (occurrences expression anchor) now) latest := by
  unfold ParsedSchedule.latestDue
  rw [if_neg (not_lt.mpr due)]
  cases expression with
  | «at» atUtc =>
    cases (show first = atUtc from occurs)
    refine ⟨first, ?_, ⟨rfl, due⟩, fun t tick => (show t = first from tick.1).le⟩
    simp only [parseSchedule, le_refl, due, and_self, if_true]
  | interval seconds atLeastOne =>
    have positive : 0 < seconds := by linarith
    have started : anchor ≤ now := by
      obtain ⟨n, rfl⟩ := occurs
      have : 0 ≤ (n : ℚ) * seconds := mul_nonneg (Nat.cast_nonneg n) positive.le
      linarith
    have greatest := interval_latest positive started
    refine ⟨_, ?_, greatest⟩
    exact congrArg Except.ok (if_pos (greatest.2 ⟨occurs, due⟩))
  | cron cron zone =>
    obtain ⟨target, found, greatest⟩ := cronPreviousOrAt_isGreatest reach.1
    refine ⟨target, ?_, greatest⟩
    have reached : first ≤ target := greatest.2 ⟨occurs, due⟩
    refine (congrArg (Except.map (Option.filter fun latest => first ≤ latest)) found).trans ?_
    change Except.ok ((some target).filter _) = _
    rw [Option.filter_some, if_pos (by simpa using reached)]

theorem occurrences_apart {u : ℚ}
    (one : t ∈ occurrences expression anchor) (other : u ∈ occurrences expression anchor)
    (before : t < u) : t + 1 ≤ u := by
  cases expression with
  | «at» atUtc =>
    cases (show t = atUtc from one)
    cases (show u = t from other)
    exact absurd before (lt_irrefl _)
  | interval seconds atLeastOne =>
    obtain ⟨n, rfl⟩ := one
    obtain ⟨k, rfl⟩ := other
    have positive : 0 < seconds := by linarith
    have order : (n : ℚ) < k := by
      by_contra notLess
      have := mul_le_mul_of_nonneg_right (not_lt.mp notLess) positive.le
      linarith
    have step : (n : ℚ) + 1 ≤ k := by exact_mod_cast (show n < k by exact_mod_cast order)
    have := mul_le_mul_of_nonneg_right step positive.le
    linarith
  | cron cron zone =>
    -- Offsets and matching wall times are whole seconds.
    obtain ⟨n, -, first⟩ := one
    obtain ⟨k, -, second⟩ := other
    unfold ZoneInfo.wallTime at first second
    have tWhole : t = ((60 * n - zone.utcoffset t : ℤ) : ℚ) := by push_cast; linarith
    have uWhole : u = ((60 * k - zone.utcoffset u : ℤ) : ℚ) := by push_cast; linarith
    rw [tWhole, uWhole] at before
    have step : 60 * n - zone.utcoffset t + 1 ≤ 60 * k - zone.utcoffset u := by
      exact_mod_cast before
    rw [tWhole, uWhole]
    exact_mod_cast step

theorem plannedKey_lt {u : ℚ} (apart : t + 1 ≤ u) : plannedKey t < plannedKey u := by
  have below : (plannedKey t : ℚ) ≤ t * 1000000 + 1 / 2 := (roundEven_near _).2
  have above : u * 1000000 - 1 / 2 ≤ (plannedKey u : ℚ) := (roundEven_near _).1
  have : (plannedKey t : ℚ) < plannedKey u := by linarith
  exact_mod_cast this

end Copilotd.Guarantees.ScheduleOccurrences
