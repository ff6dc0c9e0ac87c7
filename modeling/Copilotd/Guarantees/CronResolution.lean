import Copilotd.Guarantees.SchedulePlanning
import Copilotd.Source.Core.ZoneTransitions

/-!
# Cron resolution under daylight saving

A wall minute that a gap policy shifts lands at the first minute that exists after it.  Of the
transitions of a zone the code needs that they are far enough apart: then the probes of
`_transition_window` see both sides of a gap, the minutes it tries are enough, and no gap ends
where an overlap begins.
-/
namespace Copilotd.Guarantees.CronResolution

open Base.LocalClock Source.Core.ScheduleTime Guarantees.CronSearches
open Guarantees.SchedulePlanning (hourly)

variable {transitions : ZoneTransitions} {search : Search} {minute : ℤ} {foldPolicy : FoldPolicy}
  {calendar : Calendar}

/-! ## Skipped minutes -/

variable {zone : ZoneInfo}

theorem candidates_eq_nil_iff {wall : ℚ} :
    candidates zone wall = [] ↔ ∀ t, zone.wallTime t ≠ wall := by
  rw [List.eq_nil_iff_forall_not_mem]
  exact forall_congr' fun t => not_congr mem_candidates

/-! ## Shifted minutes -/

theorem le_max?_getD {values : List ℤ} {value : ℤ} (member : value ∈ values) :
    value ≤ values.max?.getD 0 := by
  cases most : values.max? with
  | none =>
    rw [List.max?_eq_none_iff.mp most] at member
    cases member
  | some greatest => exact (List.max?_eq_some_iff.mp most).2 value member

theorem min?_getD_le {values : List ℤ} {value : ℤ} (member : value ∈ values) :
    values.min?.getD 0 ≤ value := by
  cases least : values.min? with
  | none =>
    rw [List.min?_eq_none_iff.mp least] at member
    cases member
  | some smallest => exact (List.min?_eq_some_iff.mp least).2 value member

/-- The offsets that `_transition_window` looks at. -/
def probes (zone : ZoneInfo) (around : ℚ) : List ℤ :=
  (transitionProbes around).map zone.utcoffset

theorem mem_probes {around : ℚ} {n : ℕ} (few : n < 17) :
    zone.utcoffset (around + (6 * (n : ℚ) - 48) * 3600) ∈ probes zone around :=
  List.mem_map_of_mem (List.mem_map_of_mem (List.mem_range.mpr few))

theorem le_transitionWindow {around : ℚ} {before after : ℤ}
    (first : before ∈ probes zone around) (second : after ∈ probes zone around)
    (forward : before < after) :
    (after : ℚ) - before + 7200 ≤ transitionWindow zone around := by
  have high := le_max?_getD second
  have low := min?_getD_le first
  have is : transitionWindow zone around =
      if (probes zone around).max?.getD 0 - (probes zone around).min?.getD 0 = 0 then 0
      else (((probes zone around).max?.getD 0 - (probes zone around).min?.getD 0 : ℤ) : ℚ) +
        2 * 3600 := by
    unfold transitionWindow
    push_cast
    rfl
  rw [is, if_neg (by omega)]
  have wide : ((after - before : ℤ) : ℚ) ≤
      ((probes zone around).max?.getD 0 - (probes zone around).min?.getD 0 : ℤ) := by
    exact_mod_cast (by omega : after - before ≤
      (probes zone around).max?.getD 0 - (probes zone around).min?.getD 0)
  push_cast at wide ⊢
  linarith

theorem mem_probes_self (zone : ZoneInfo) (around : ℚ) :
    zone.utcoffset around ∈ probes zone around := by
  have own := @mem_probes zone around 8 (by decide)
  norm_num at own
  exact own

theorem mem_probes_before {around turn : ℚ} {before : ℤ} (after : turn ≤ around)
    (near : around < turn + 172800)
    (stretch : ∀ v, turn - probeStep ≤ v → v < turn → zone.utcoffset v = before) :
    before ∈ probes zone around := by
  have floor := Int.floor_le ((around - turn) / 21600)
  have ceiling := Int.lt_floor_add_one ((around - turn) / 21600)
  have nonneg : 0 ≤ ⌊(around - turn) / 21600⌋ := by
    rw [Int.floor_nonneg]
    exact div_nonneg (by linarith) (by norm_num)
  have few : ⌊(around - turn) / 21600⌋ < 8 := by
    rw [Int.floor_lt, div_lt_iff₀ (by norm_num)]
    push_cast
    linarith
  obtain ⟨steps, same⟩ := Int.eq_ofNat_of_zero_le nonneg
  rw [same] at floor ceiling
  have hit := @mem_probes zone around (7 - steps) (by omega)
  have cast : ((7 - steps : ℕ) : ℚ) = 7 - steps := by
    rw [Nat.cast_sub (by omega)]
    rfl
  have step : (probeStep : ℚ) = 21600 := by norm_num [probeStep]
  rw [cast, stretch] at hit
  · exact hit
  · rw [step]
    push_cast at floor ceiling
    linarith
  · push_cast at floor ceiling
    linarith

/-- A minute that does not exist is followed by one that does, and the search of the policy
`shift_forward` goes that far. -/
theorem exists_shown (transitions : ZoneTransitions)
    (hidden : candidates transitions.zone (60 * minute) = []) :
    ∃ later : ℤ, minute < later ∧ candidates transitions.zone (60 * later) ≠ [] ∧
      later ≤ minute + (⌊transitionWindow transitions.zone
        (transitions.zone.toUtc false (60 * minute)) / 60⌋ + 60).toNat := by
  obtain ⟨turn, before, after, skips⟩ :=
    transitions.apart.skips (by decide) (candidates_eq_nil_iff.mp hidden)
  have low := skips.low
  have high := skips.high
  have forward : (before : ℚ) < after := by linarith
  have taken : transitions.zone.wallOffset false (60 * minute) = before := skips.taken
  have bounds : |before| < 86400 ∧ |after| < 86400 :=
    ⟨transitions.bounded before skips.offsets.1, transitions.bounded after skips.offsets.2⟩
  have short : (after : ℚ) - before < 172800 := by
    have := abs_lt.mp bounds.1
    have := abs_lt.mp bounds.2
    exact_mod_cast (by omega : after - before < 172800)
  have step : (probeStep : ℚ) = 21600 := by norm_num [probeStep]
  have offsetAfter : ∀ v : ℚ, turn ≤ v → v ≤ turn + (after - before) + 21600 →
      transitions.zone.utcoffset v = after := by
    intro v from_ upTo
    exact skips.offsetAfter v from_ (by rw [step]; linarith)
  -- The window is wider than the gap.
  have around : transitions.zone.toUtc false (60 * minute) = 60 * minute - before := by
    unfold ZoneInfo.toUtc
    rw [taken]
  have window : (after : ℚ) - before + 7200 ≤
      transitionWindow transitions.zone (60 * minute - before) := by
    refine le_transitionWindow ?_ ?_ (by exact_mod_cast forward)
    · exact mem_probes_before (by linarith) (by linarith) skips.offsetBefore
    · rw [← offsetAfter (60 * minute - before) (by linarith) (by linarith)]
      exact mem_probes_self ..
  -- The first whole minute from the end of the gap.
  have upper := Int.le_ceil (((turn : ℚ) + after) / 60)
  have lower := Int.ceil_lt_add_one (((turn : ℚ) + after) / 60)
  have lower' : (⌈((turn : ℚ) + after) / 60⌉ : ℚ) * 60 < turn + after + 60 := by
    linarith
  refine ⟨⌈((turn : ℚ) + after) / 60⌉, ?_, ?_, ?_⟩
  · have : (minute : ℚ) < ⌈((turn : ℚ) + after) / 60⌉ := by linarith
    exact_mod_cast this
  · intro absent
    refine candidates_eq_nil_iff.mp absent (60 * ⌈((turn : ℚ) + after) / 60⌉ - after) ?_
    unfold ZoneInfo.wallTime
    rw [offsetAfter _ (by linarith) (by linarith)]
    ring
  · rw [around]
    have wide := Int.lt_floor_add_one
      (transitionWindow transitions.zone (60 * minute - before) / 60)
    have enough : (⌈((turn : ℚ) + after) / 60⌉ : ℚ) <
        minute + (⌊transitionWindow transitions.zone (60 * minute - before) / 60⌋ + 60 : ℤ) := by
      push_cast
      linarith
    have enough' : ⌈((turn : ℚ) + after) / 60⌉ <
        minute + (⌊transitionWindow transitions.zone (60 * minute - before) / 60⌋ + 60) := by
      exact_mod_cast enough
    omega

theorem foldPasses_ne_nil {wall : ℚ} (supported : foldPolicy ≠ .reject)
    (shown : candidates zone wall ≠ []) : foldPasses foldPolicy (candidates zone wall) ≠ [] := by
  have short := (candidates_shape zone wall).2
  unfold foldPasses
  match candidates zone wall, shown, short with
  | [_], _, _ => cases foldPolicy <;> simp at supported ⊢
  | [_, _], _, _ => cases foldPolicy <;> simp at supported ⊢

theorem shiftForward_eq {later : ℤ} {tries : ℕ} (supported : foldPolicy ≠ .reject)
    (ahead : minute < later) (reached : later ≤ minute + tries)
    (shown : candidates zone (60 * later) ≠ [])
    (hidden : ∀ between, minute < between → between < later → candidates zone (60 * between) = []) :
    shiftForward calendar zone foldPolicy tries (60 * minute) = .error .outOfRange ∨
      shiftForward calendar zone foldPolicy tries (60 * minute) =
        .ok (foldPasses foldPolicy (candidates zone (60 * later))) := by
  induction tries generalizing minute with
  | zero => omega
  | succ tries ih =>
    have next : (60 * minute + 60 : ℚ) = 60 * (minute + 1 : ℤ) := by
      push_cast
      ring
    by_cases dated : (calendar.dated (60 * minute + 60) &&
        calendar.converts zone (60 * minute + 60)) = true
    swap
    · exact .inl (if_neg dated)
    have step : shiftForward calendar zone foldPolicy (tries + 1) (60 * minute) =
        if foldPasses foldPolicy (candidates zone (60 * (minute + 1 : ℤ))) = [] then
          shiftForward calendar zone foldPolicy tries (60 * (minute + 1 : ℤ))
        else .ok (foldPasses foldPolicy (candidates zone (60 * (minute + 1 : ℤ)))) := by
      rw [shiftForward, if_pos dated, next, resolveFold_eq _ _ supported]
      rfl
    rw [step]
    rcases (show minute + 1 ≤ later by omega).eq_or_lt with rfl | beyond
    · exact .inr (if_neg (foldPasses_ne_nil supported shown))
    · have none_ : foldPasses foldPolicy (candidates zone (60 * (minute + 1 : ℤ))) = [] := by
        rw [hidden _ (by omega) beyond]
        cases foldPolicy <;> rfl
      rw [if_pos none_]
      refine ih beyond (by push_cast at reached; omega) ?_
      exact fun between after => hidden between (by omega)

theorem resolveWallTime_shift (transitions : ZoneTransitions) {later : ℤ}
    (supported : foldPolicy ≠ .reject) (ahead : minute ≤ later)
    (shown : candidates transitions.zone (60 * later) ≠ [])
    (hidden : ∀ between, minute ≤ between → between < later →
      candidates transitions.zone (60 * between) = []) :
    resolveWallTime calendar transitions.zone (60 * minute) .shiftForward foldPolicy =
        .error .outOfRange ∨
      resolveWallTime calendar transitions.zone (60 * minute) .shiftForward foldPolicy =
        .ok (foldPasses foldPolicy (candidates transitions.zone (60 * later))) := by
  by_cases converts : calendar.converts transitions.zone (60 * minute) = true
  swap
  · exact .inl (resolveWallTime_undated _ _ converts)
  rcases ahead.eq_or_lt with rfl | beyond
  · exact .inr (resolveWallTime_of_shown .shiftForward supported converts shown)
  · have own := hidden minute le_rfl beyond
    obtain ⟨some_, after, alsoShown, near⟩ := exists_shown transitions own
    have first : later ≤ some_ := by
      by_contra sooner
      exact alsoShown (hidden some_ after.le (not_le.mp sooner))
    unfold resolveWallTime
    rw [if_neg (not_not.mpr converts), if_pos own]
    dsimp only
    split
    · exact shiftForward_eq supported beyond (first.trans near) shown
        fun between from_ => hidden between from_.le
    · exact .inl rfl

theorem shown_before_overlap (transitions : ZoneTransitions) {t u : ℚ} (before : t < u)
    (first : transitions.zone.wallTime t = 60 * minute)
    (second : transitions.zone.wallTime u = 60 * minute) :
    candidates transitions.zone (60 * (minute - 1 : ℤ)) ≠ [] := by
  have back : u + transitions.zone.utcoffset u ≤ t + transitions.zone.utcoffset t :=
    (second.trans first.symm).le
  obtain ⟨turn, after, -, constant, -⟩ := transitions.apart.setback (by decide) before back
  have step : (probeStep : ℚ) = 21600 := by norm_num [probeStep]
  intro hidden
  refine candidates_eq_nil_iff.mp hidden (t - 60) ?_
  have offset : transitions.zone.utcoffset (t - 60) = transitions.zone.utcoffset t := by
    refine constant (t - 60) ?_ (by linarith)
    have same : u + offsetAt transitions.initial transitions.turns u =
        t + offsetAt transitions.initial transitions.turns t := second.trans first.symm
    rw [step, same]
    linarith
  unfold ZoneInfo.wallTime at first ⊢
  rw [offset]
  push_cast
  linarith

theorem exists_first_shown (transitions : ZoneTransitions) (minute : ℤ) :
    ∃ later : ℤ,
      IsLeast { m : ℤ | minute ≤ m ∧ candidates transitions.zone (60 * m) ≠ [] } later := by
  have bounded : ∀ m : ℤ, minute ≤ m ∧ candidates transitions.zone (60 * m) ≠ [] → minute ≤ m :=
    fun m both => both.1
  have inhabited : ∃ m : ℤ, minute ≤ m ∧ candidates transitions.zone (60 * m) ≠ [] := by
    by_cases hidden : candidates transitions.zone (60 * minute) = []
    · obtain ⟨later, after, shown, -⟩ := exists_shown transitions hidden
      exact ⟨later, after.le, shown⟩
    · exact ⟨minute, le_rfl, hidden⟩
  obtain ⟨later, member, first⟩ := Int.exists_least_of_bdd ⟨minute, bounded⟩ inhabited
  exact ⟨later, member, fun m also => first m also⟩

theorem landing_shift (given : search.zone = transitions.zone)
    (policy : search.gapPolicy = .shiftForward) (supported : search.foldPolicy ≠ .reject) :
    ∃ landing, Landing search landing := by
  choose landing first using exists_first_shown transitions
  have hidden : ∀ minute between, minute ≤ between → between < landing minute →
      candidates transitions.zone (60 * between) = [] := by
    intro minute between from_ until_
    by_contra shown
    exact absurd ((first minute).2 ⟨from_, shown⟩) (not_le.mpr until_)
  refine ⟨landing, ?_⟩
  constructor
  · exact fun minute => (first minute).1.1
  · intro minute other le
    exact (first minute).2 ⟨le.trans (first other).1.1, (first other).1.2⟩
  · intro minute
    unfold Search.resolve
    rw [given, policy]
    exact resolveWallTime_shift transitions supported (first minute).1.1 (first minute).1.2
      (hidden minute)
  · intro minute t u before atFirst atSecond
    rw [given] at atFirst atSecond
    by_contra away
    have below := (first minute).1.1
    have alsoShown := shown_before_overlap transitions before atFirst atSecond
    exact alsoShown (hidden minute _ (by omega) (by omega))

theorem exists_landing (given : search.zone = transitions.zone) (gap : search.gapPolicy ≠ .reject)
    (fold : search.foldPolicy ≠ .reject) : ∃ landing, Landing search landing := by
  cases policy : search.gapPolicy with
  | skip => exact ⟨id, landing_skip policy fold⟩
  | shiftForward => exact landing_shift given policy fold
  | reject => exact absurd policy gap

/-! ## An hour in Monrovia -/

/-- `Africa/Monrovia` around 1972-01-07, when 00:00:00 became 00:44:30. -/
def monrovia : ZoneTransitions where
  initial := -2670
  turns := [{ instant := 63593070, offset := 0 }]
  apart := trivial
  bounded := by decide

def hourlySearch (instant : ℚ) : Search :=
  cronSearch hourly monrovia.zone instant .shiftForward .both

theorem zone_hourly (instant : ℚ) : (hourlySearch instant).zone = monrovia.zone := rfl

/-- Ten seconds after the transition the minute 00:00 is still to come, at 00:45. -/
theorem hourly_upcoming : IsLeast (upcoming (hourlySearch 63593080)) 63593100 := by
  constructor
  · refine ⟨by norm_num [hourlySearch, cronSearch], 1059840,
      ⟨17664, by norm_num, by norm_num, by norm_num⟩, ?_,
      [63593100], ?_, List.mem_singleton_self _⟩
    · decide +kernel
    · decide +kernel
  · rintro t ⟨after, minute, -, -, resolves⟩
    have later : (63593080 : ℚ) < t := after
    obtain ⟨landing, lands⟩ := landing_shift (zone_hourly 63593080) rfl (by decide)
    have wall := resolves.wall lands
    have offset : monrovia.zone.utcoffset t = 0 := by
      change offsetAt (-2670) [{ instant := 63593070, offset := 0 }] t = 0
      rw [offsetAt_of_le [] (by push_cast; linarith)]
      rfl
    unfold ZoneInfo.wallTime at wall
    rw [show (hourlySearch 63593080).zone = monrovia.zone from rfl, offset] at wall
    push_cast at wall
    have whole : 1059885 ≤ landing minute := by
      have : (1059884 : ℚ) < landing minute := by linarith
      exact_mod_cast (by exact_mod_cast this : (1059884 : ℤ) < landing minute)
    have whole' : (1059885 : ℚ) ≤ landing minute := by exact_mod_cast whole
    linarith

theorem hourly_elapsed : IsGreatest (elapsed (hourlySearch 63594000)) 63594000 := by
  constructor
  · refine ⟨le_rfl, 1059900, ⟨17665, by norm_num, by norm_num, by norm_num⟩, ?_, [63594000], ?_,
      List.mem_singleton_self _⟩
    · decide +kernel
    · decide +kernel
  · rintro t ⟨upTo, -⟩
    exact upTo

/-! ## Both searches -/

/-- The two searches return the nearest instants of the resolutions exactly under these
conditions. -/
theorem searches_iff (cron : Croniter) (transitions : ZoneTransitions) (instant : ℚ)
    {gapPolicy : GapPolicy} {foldPolicy : FoldPolicy} (gap : gapPolicy ≠ .reject)
    (fold : foldPolicy ≠ .reject) :
    let search := cronSearch cron transitions.zone instant gapPolicy foldPolicy
    (∀ target, IsLeast (upcoming search) target →
      (cronNext cron transitions.zone instant gapPolicy foldPolicy = .ok target ↔
        search.starts search.nextCursor = true ∧ StartsBefore search target ∧
          (foldPolicy = .both → NextMeetsEnd search))) ∧
    ∀ target, IsGreatest (elapsed search) target →
      (cronPreviousOrAt cron transitions.zone instant gapPolicy foldPolicy = .ok (some target) ↔
        search.starts search.previousCursor = true ∧ GetsTo search target ∧
          (foldPolicy = .both → PreviousMeetsEnd search)) := by
  obtain ⟨landing, lands⟩ := @exists_landing transitions
    (cronSearch cron transitions.zone instant gapPolicy foldPolicy) rfl gap fold
  constructor
  · exact fun target least => next_eq_iff lands least
  · exact fun target greatest => previousOrAt_eq_iff lands greatest

theorem searches_iff_hourly :
    (cronNext hourly monrovia.zone 63593080 .shiftForward .both = .ok 63593100 ↔
      (hourlySearch 63593080).starts (hourlySearch 63593080).nextCursor = true ∧
        StartsBefore (hourlySearch 63593080) 63593100 ∧
        (FoldPolicy.both = .both → NextMeetsEnd (hourlySearch 63593080))) ∧
    (cronPreviousOrAt hourly monrovia.zone 63594000 .shiftForward .both = .ok (some 63594000) ↔
      (hourlySearch 63594000).starts (hourlySearch 63594000).previousCursor = true ∧
        GetsTo (hourlySearch 63594000) 63594000 ∧
        (FoldPolicy.both = .both → PreviousMeetsEnd (hourlySearch 63594000))) :=
  ⟨(searches_iff hourly monrovia 63593080 (by decide) (by decide)).1 63593100 hourly_upcoming,
    (searches_iff hourly monrovia 63594000 (by decide) (by decide)).2 63594000 hourly_elapsed⟩

/-- The search after the transition starts at 00:44, so that it misses the minute 00:00. -/
theorem shifted_minute_is_missed :
    IsLeast (upcoming (hourlySearch 63593080)) 63593100 ∧
      cronNext hourly monrovia.zone 63593080 .shiftForward .both = .ok 63594000 :=
  ⟨hourly_upcoming, by decide +kernel⟩

end Copilotd.Guarantees.CronResolution
