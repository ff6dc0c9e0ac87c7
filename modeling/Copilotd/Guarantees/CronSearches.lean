import Mathlib.Data.List.Sort
import Copilotd.Base.Sweeps
import Copilotd.Source.Core.ScheduleTime

/-!
# The cron searches

Both searches go through wall time, and where the clock is set back the order of wall times is
not the order of instants.  They start one overlap away from the local time and stop one overlap
beyond it; the lemmas on `setback` say why that is enough.  A search finds the nearest instant
exactly if it starts before a wall time of it and, where it asks for both passes, meets a minute
at which it stops before the minutes run out; on the way every minute has its dates.
-/
namespace Copilotd.Guarantees.CronSearches

open Base.Sweeps Source.Core.ScheduleTime

/-! ## Wall times of a zone -/

variable {zone : ZoneInfo} {t : ℚ}

theorem mem_candidates {wall : ℚ} :
    t ∈ candidates zone wall ↔ zone.wallTime t = wall := by
  unfold candidates
  rw [List.mem_mergeSort]
  constructor
  · intro member
    split at member
    · next first =>
      split at member
      · next second =>
        rcases List.mem_append.mp member with one | other
        · rwa [List.mem_singleton.mp one]
        · rw [List.mem_singleton.mp other]
          exact second.1
      · rwa [List.mem_singleton.mp member]
    · split at member
      · next second =>
        rw [List.nil_append, List.mem_singleton] at member
        rw [member]
        exact second.1
      · cases member
  · rintro rfl
    obtain ⟨fold, offset⟩ := zone.folds t
    have back : zone.toUtc fold (zone.wallTime t) = t := by
      unfold ZoneInfo.toUtc ZoneInfo.wallTime
      rw [offset]
      ring
    cases fold with
    | false => simp only [back, if_pos]; split <;> simp
    | true =>
      by_cases there : t ∈ (if zone.wallTime (zone.toUtc false (zone.wallTime t)) = zone.wallTime t
          then [zone.toUtc false (zone.wallTime t)] else [])
      · rw [back, if_neg fun both => both.2 there]
        exact there
      · rw [back, if_pos ⟨rfl, there⟩]
        exact List.mem_append_right _ (List.mem_singleton_self t)

theorem candidates_shape (zone : ZoneInfo) (wall : ℚ) :
    (candidates zone wall).Pairwise (· < ·) ∧ (candidates zone wall).length ≤ 2 := by
  have sorted : (candidates zone wall).Pairwise (· ≤ ·) := by
    exact List.pairwise_mergeSort' (· ≤ ·) _
  have small : (candidates zone wall).Nodup ∧ (candidates zone wall).length ≤ 2 := by
    unfold candidates
    rw [(List.mergeSort_perm _ _).nodup_iff, List.length_mergeSort]
    split
    · split
      · next second => simpa [eq_comm] using second.2
      · simp
    · split <;> simp
  refine ⟨?_, small.2⟩
  exact (sorted.and small.1).imp fun pair => lt_of_le_of_ne pair.1 pair.2

variable {u : ℚ}

theorem candidates_pair {wall : ℚ} (first : zone.wallTime t = wall)
    (second : zone.wallTime u = wall) (before : t < u) : candidates zone wall = [t, u] := by
  obtain ⟨sorted, short⟩ := candidates_shape zone wall
  have tIn := mem_candidates.mpr first
  have uIn := mem_candidates.mpr second
  match found : candidates zone wall with
  | [] => rw [found] at tIn; cases tIn
  | [only] =>
    rw [found] at tIn uIn
    rw [List.mem_singleton.mp tIn, List.mem_singleton.mp uIn] at before
    exact absurd before (lt_irrefl _)
  | [a, b] =>
    rw [found] at tIn uIn sorted
    have order : a < b := by simpa using sorted
    simp only [List.mem_cons, List.not_mem_nil, or_false] at tIn uIn
    rcases tIn with rfl | rfl <;> rcases uIn with rfl | rfl
    · exact absurd before (lt_irrefl _)
    · rfl
    · exact absurd before (not_lt.mpr order.le)
    · exact absurd before (lt_irrefl _)
  | _ :: _ :: _ :: _ => rw [found] at short; simp at short

theorem overlapWindow_pair {wall instant : ℚ} (first : zone.wallTime t = wall)
    (second : zone.wallTime u = wall) (before : t < u) (own : zone.wallTime instant = wall) :
    overlapWindow zone instant = u - t := by
  unfold overlapWindow
  rw [own, candidates_pair first second before]

theorem overlapWindow_nonneg (zone : ZoneInfo) (instant : ℚ) : 0 ≤ overlapWindow zone instant := by
  unfold overlapWindow
  split
  · next first second found =>
    have sorted := (candidates_shape zone (zone.wallTime instant)).1
    rw [found] at sorted
    have : first < second := by simpa using sorted
    linarith
  · exact le_refl 0

theorem earlier_pass (before : t < u) (back : zone.wallTime u ≤ zone.wallTime t) :
    zone.wallTime (zone.wallTime u - zone.utcoffset t) = zone.wallTime u := by
  obtain ⟨turn, after, -, constant, -⟩ := zone.setback t u before back
  have same := constant (zone.wallTime u - zone.utcoffset t) (le_refl _) (by
    unfold ZoneInfo.wallTime at back ⊢
    linarith)
  unfold ZoneInfo.wallTime at same ⊢
  rw [same]
  ring

theorem later_pass (before : t < u) (back : zone.wallTime u ≤ zone.wallTime t) :
    zone.wallTime (zone.wallTime t - zone.utcoffset u) = zone.wallTime t := by
  obtain ⟨turn, -, upTo, -, constant⟩ := zone.setback t u before back
  have same := constant (zone.wallTime t - zone.utcoffset u) (by
    unfold ZoneInfo.wallTime at back ⊢
    linarith) (le_refl _)
  unfold ZoneInfo.wallTime at same ⊢
  rw [same]
  ring

theorem overlapWindow_of_setback {instant : ℚ} (before : t < u)
    (back : zone.wallTime u ≤ zone.wallTime t) (low : zone.wallTime u ≤ zone.wallTime instant)
    (high : zone.wallTime instant ≤ zone.wallTime t) :
    overlapWindow zone instant = zone.utcoffset t - zone.utcoffset u := by
  obtain ⟨turn, after, upTo, constantBefore, constantAfter⟩ := zone.setback t u before back
  have first :
    zone.wallTime (zone.wallTime instant - zone.utcoffset t) = zone.wallTime instant := by
    have same := constantBefore (zone.wallTime instant - zone.utcoffset t)
      (by unfold ZoneInfo.wallTime at low ⊢; linarith)
      (by unfold ZoneInfo.wallTime at high ⊢; linarith)
    unfold ZoneInfo.wallTime at same ⊢
    rw [same]
    ring
  have second :
    zone.wallTime (zone.wallTime instant - zone.utcoffset u) = zone.wallTime instant := by
    have same := constantAfter (zone.wallTime instant - zone.utcoffset u)
      (by unfold ZoneInfo.wallTime at low ⊢; linarith)
      (by unfold ZoneInfo.wallTime at high ⊢; linarith)
    unfold ZoneInfo.wallTime at same ⊢
    rw [same]
    ring
  have step :
    zone.wallTime instant - zone.utcoffset t < zone.wallTime instant - zone.utcoffset u := by
    unfold ZoneInfo.wallTime at back
    linarith
  rw [overlapWindow_pair first second step rfl]
  ring

/-! ## Enumerations -/

theorem toOption_eq_some {α ε : Type} {result : Except ε α} {value : α} :
    result.toOption = some value ↔ result = .ok value := by
  cases result <;> simp [Except.toOption]

theorem bind_toOption_eq_some {α ε : Type} {result : Except ε (Option α)} {value : α} :
    result.toOption.bind id = some value ↔ result = .ok (some value) := by
  cases result <;> simp [Except.toOption]

variable {minute : ℤ}

theorem minutes_lt {other : ℤ} : (60 * minute : ℚ) < 60 * other ↔ minute < other := by
  rw [mul_lt_mul_iff_right₀ (by norm_num)]
  exact Int.cast_lt

theorem minutes_le {other : ℤ} (le : minute ≤ other) : (60 * minute : ℚ) ≤ 60 * other :=
  not_lt.mp (mt minutes_lt.mp (not_lt.mpr le))

theorem exists_first {P : ℤ → Prop} {cursor : ℚ}
    (some_ : ∃ minute : ℤ, P minute ∧ cursor < 60 * minute) :
    ∃ minute, IsLeast { m : ℤ | P m ∧ cursor < 60 * m } minute := by
  have bounded : ∀ m : ℤ, P m ∧ cursor < 60 * m → ⌊cursor / 60⌋ ≤ m := by
    intro m candidate
    rw [Int.floor_le_iff, div_lt_iff₀ (by norm_num)]
    linarith [candidate.2]
  obtain ⟨minute, member, least⟩ := Int.exists_least_of_bdd ⟨_, bounded⟩ some_
  exact ⟨minute, member, fun m candidate => least m candidate⟩

theorem exists_last {P : ℤ → Prop} {cursor : ℚ}
    (some_ : ∃ minute : ℤ, P minute ∧ 60 * minute < cursor) :
    ∃ minute, IsGreatest { m : ℤ | P m ∧ 60 * m < cursor } minute := by
  have bounded : ∀ m : ℤ, P m ∧ 60 * m < cursor → m ≤ ⌈cursor / 60⌉ := by
    intro m candidate
    rw [Int.le_ceil_iff, lt_div_iff₀ (by norm_num)]
    linarith [candidate.2]
  obtain ⟨minute, member, greatest⟩ := Int.exists_greatest_of_bdd ⟨_, bounded⟩ some_
  exact ⟨minute, member, fun m candidate => greatest m candidate⟩

/-! ## Where a search starts -/

section Starts

variable {zone : ZoneInfo} {after through target : ℚ} {goal : ℤ}

theorem next_cursor_before (later : after < target) (wall : zone.wallTime target = 60 * goal) :
    zone.wallMinute after - overlapWindow zone after < 60 * goal := by
  have floor : zone.wallMinute after ≤ zone.wallTime after := by
    have := Int.floor_le (zone.wallTime after / 60)
    unfold ZoneInfo.wallMinute
    linarith
  have window := overlapWindow_nonneg zone after
  rcases lt_or_ge (zone.wallTime after) (60 * goal) with ahead | behind
  · linarith
  · -- The clock has gone back on the way, so that the local time is inside the overlap.
    have back : zone.wallTime target ≤ zone.wallTime after := by rw [wall]; exact behind
    have step := overlapWindow_of_setback later back back (le_refl _)
    unfold ZoneInfo.wallTime at wall floor
    linarith

theorem wallTime_lt_wallMinute (zone : ZoneInfo) (instant : ℚ) :
    zone.wallTime instant < zone.wallMinute instant + 60 := by
  have := Int.lt_floor_add_one (zone.wallTime instant / 60)
  unfold ZoneInfo.wallMinute
  linarith

theorem previous_cursor_after (upTo : target ≤ through) (wall : zone.wallTime target = 60 * goal) :
    (60 * goal : ℚ) < zone.wallMinute through + overlapWindow zone through + 60 := by
  have ceiling := wallTime_lt_wallMinute zone through
  have window := overlapWindow_nonneg zone through
  rcases le_or_gt (60 * goal : ℚ) (zone.wallTime through) with behind | ahead
  · linarith
  · rw [← wall] at ahead
    have before : target < through := by
      refine lt_of_le_of_ne upTo ?_
      rintro rfl
      exact lt_irrefl _ ahead
    have step := overlapWindow_of_setback before ahead.le (le_refl _) ahead.le
    unfold ZoneInfo.wallTime at wall ceiling
    linarith

theorem next_inside {pass : ℚ} (later : after ≤ target)
    (wall : zone.wallTime target = 60 * goal) (earlier : minute < goal)
    (passWall : zone.wallTime pass = 60 * minute) (late : target < pass)
    (passed : zone.wallTime pass - zone.utcoffset target ≤ after) :
    (60 * goal : ℚ) < zone.wallMinute after + overlapWindow zone after := by
  have order : (60 * minute : ℚ) < 60 * goal := by
    have : (minute : ℚ) < goal := by exact_mod_cast earlier
    linarith
  have back : zone.wallTime pass ≤ zone.wallTime target := by
    rw [wall, passWall]
    exact order.le
  -- The search started between the two passes of `minute`, at the offset of the target.
  obtain ⟨turn, beforeTurn, -, constant, -⟩ := zone.setback target pass late back
  have offset := constant after passed (later.trans_lt beforeTurn)
  have low : zone.wallTime pass ≤ zone.wallTime after := by
    show zone.wallTime pass ≤ after + zone.utcoffset after
    rw [offset]
    linarith
  have high : zone.wallTime after ≤ zone.wallTime target := by
    show after + zone.utcoffset after ≤ target + zone.utcoffset target
    rw [offset]
    linarith
  have floor : (60 * minute : ℚ) ≤ zone.wallMinute after := by
    have : minute ≤ ⌊zone.wallTime after / 60⌋ := by
      rw [Int.le_floor, le_div_iff₀ (by norm_num)]
      linarith
    have : (minute : ℚ) ≤ ⌊zone.wallTime after / 60⌋ := by exact_mod_cast this
    unfold ZoneInfo.wallMinute
    linarith
  rw [overlapWindow_of_setback late back low high]
  unfold ZoneInfo.wallTime at wall passWall
  linarith

theorem previous_inside {pass : ℚ} (upTo : target ≤ through)
    (wall : zone.wallTime target = 60 * goal) (later : goal < minute)
    (passWall : zone.wallTime pass = 60 * minute) (early : pass < target)
    (toCome : through ≤ zone.wallTime pass - zone.utcoffset target) :
    zone.wallMinute through - overlapWindow zone through < 60 * goal := by
  have order : (60 * goal : ℚ) < 60 * minute := by
    have : (goal : ℚ) < minute := by exact_mod_cast later
    linarith
  have back : zone.wallTime target ≤ zone.wallTime pass := by
    rw [wall, passWall]
    exact order.le
  obtain ⟨turn, -, afterTurn, -, constant⟩ := zone.setback pass target early back
  have offset := constant through (afterTurn.trans upTo) toCome
  have high : zone.wallTime through ≤ zone.wallTime pass := by
    show through + zone.utcoffset through ≤ zone.wallTime pass
    rw [offset]
    linarith
  have low : zone.wallTime target ≤ zone.wallTime through := by
    show target + zone.utcoffset target ≤ through + zone.utcoffset through
    rw [offset]
    linarith
  have floor : zone.wallMinute through ≤ 60 * minute := by
    have := Int.floor_le (zone.wallTime through / 60)
    unfold ZoneInfo.wallMinute
    linarith
  rw [overlapWindow_of_setback early back low high]
  unfold ZoneInfo.wallTime at wall passWall
  linarith

end Starts

/-! ## Resolutions -/

/-- The instants that a fold policy takes of those of a wall time. -/
def foldPasses (foldPolicy : FoldPolicy) (found : List ℚ) : List ℚ :=
  match foldPolicy with
  | .both => found
  | .first => found.take 1
  | .second => if found.length = 2 then found.drop 1 else found
  | .reject => []

variable {foldPolicy : FoldPolicy}

theorem resolveFold_eq (zone : ZoneInfo) (wall : ℚ) (supported : foldPolicy ≠ .reject) :
    resolveFold zone wall foldPolicy = .ok (foldPasses foldPolicy (candidates zone wall)) := by
  unfold resolveFold foldPasses
  have short := (candidates_shape zone wall).2
  match candidates zone wall, short with
  | [], _ => cases foldPolicy <;> rfl
  | [_], _ => cases foldPolicy <;> first | rfl | exact absurd rfl supported
  | [_, _], _ => cases foldPolicy <;> first | rfl | exact absurd rfl supported

theorem mem_foldPasses {wall : ℚ} (member : t ∈ foldPasses foldPolicy (candidates zone wall)) :
    zone.wallTime t = wall ∧ (foldPolicy = .first → ∀ u, zone.wallTime u = wall → t ≤ u) ∧
      (foldPolicy = .second → ∀ u, zone.wallTime u = wall → u ≤ t) := by
  obtain ⟨sorted, short⟩ := candidates_shape zone wall
  have passes : ∀ u, zone.wallTime u = wall → u ∈ candidates zone wall :=
    fun u => mem_candidates.mpr
  have subset : t ∈ candidates zone wall := by
    unfold foldPasses at member
    cases foldPolicy with
    | both => exact member
    | first => exact List.mem_of_mem_take member
    | second =>
      dsimp only at member
      split at member
      · exact List.mem_of_mem_drop member
      · exact member
    | reject => cases member
  refine ⟨mem_candidates.mp subset, ?_, ?_⟩
  · rintro rfl u same
    have other := passes u same
    unfold foldPasses at member
    match found : candidates zone wall, short with
    | [], _ => rw [found] at other; cases other
    | [only], _ =>
      rw [found] at member other
      simp only [List.take_succ_cons, List.take_nil, List.mem_singleton] at member other
      rw [member, other]
    | [early, late], _ =>
      rw [found] at member other sorted
      have order : early < late := by simpa using sorted
      simp only [List.take_succ_cons, List.take_zero, List.mem_singleton] at member
      simp only [List.mem_cons, List.not_mem_nil, or_false] at other
      rw [member]
      rcases other with rfl | rfl
      · exact le_rfl
      · exact order.le
  · rintro rfl u same
    have other := passes u same
    unfold foldPasses at member
    match found : candidates zone wall, short with
    | [], _ => rw [found] at other; cases other
    | [only], _ =>
      rw [found] at member other
      simp only [List.length_singleton, OfNat.one_ne_ofNat, ↓reduceIte,
        List.mem_singleton] at member other
      rw [member, other]
    | [early, late], _ =>
      rw [found] at member other sorted
      have order : early < late := by simpa using sorted
      simp only [List.length_cons, List.length_nil, zero_add, Nat.reduceAdd, ↓reduceIte,
        List.drop_succ_cons, List.drop_zero, List.mem_singleton] at member
      simp only [List.mem_cons, List.not_mem_nil, or_false] at other
      rw [member]
      rcases other with rfl | rfl
      · exact order.le
      · exact le_rfl

/-- Where a minute is resolved: at itself, or where it does not exist at a later minute. -/
structure Landing (search : Search) (landing : ℤ → ℤ) : Prop where
  le : ∀ minute, minute ≤ landing minute
  mono : ∀ {minute other}, minute ≤ other → landing minute ≤ landing other
  resolve : ∀ minute : ℤ, search.resolve (60 * minute) = .error .outOfRange ∨
    search.resolve (60 * minute) =
      .ok (foldPasses search.foldPolicy (candidates search.zone (60 * landing minute)))
  /-- A minute with two passes is where no other minute lands. -/
  ambiguous : ∀ {minute : ℤ} {t u : ℚ}, t < u → search.zone.wallTime t = 60 * landing minute →
    search.zone.wallTime u = 60 * landing minute → landing minute = minute

section

variable {calendar : Calendar} {wall : ℚ}

theorem resolveWallTime_of_shown (gapPolicy : GapPolicy) (supported : foldPolicy ≠ .reject)
    (converts : calendar.converts zone wall = true) (shown : candidates zone wall ≠ []) :
    resolveWallTime calendar zone wall gapPolicy foldPolicy =
      .ok (foldPasses foldPolicy (candidates zone wall)) := by
  unfold resolveWallTime
  rw [if_neg (not_not.mpr converts), if_neg shown]
  exact resolveFold_eq zone wall supported

theorem resolveWallTime_skip (supported : foldPolicy ≠ .reject)
    (converts : calendar.converts zone wall = true) :
    resolveWallTime calendar zone wall .skip foldPolicy =
      .ok (foldPasses foldPolicy (candidates zone wall)) := by
  by_cases hidden : candidates zone wall = []
  · unfold resolveWallTime
    rw [if_neg (not_not.mpr converts), if_pos hidden, hidden]
    cases foldPolicy <;> rfl
  · exact resolveWallTime_of_shown .skip supported converts hidden

theorem resolveWallTime_undated (gapPolicy : GapPolicy) (foldPolicy : FoldPolicy)
    (undated : ¬ calendar.converts zone wall = true) :
    resolveWallTime calendar zone wall gapPolicy foldPolicy = .error .outOfRange :=
  if_pos undated

end

theorem landing_skip {search : Search} (policy : search.gapPolicy = .skip)
    (supported : search.foldPolicy ≠ .reject) : Landing search id := by
  constructor
  · exact fun minute => le_rfl
  · exact fun le => le
  · intro minute
    unfold Search.resolve
    rw [policy]
    by_cases converts : search.calendar.converts search.zone (60 * minute) = true
    · exact .inr (resolveWallTime_skip supported converts)
    · exact .inl (resolveWallTime_undated _ _ converts)
  · exact fun _ _ _ => rfl

/-- The instant is one of those that a minute is resolved to. -/
def Resolves (search : Search) (minute : ℤ) (t : ℚ) : Prop :=
  ∃ resolved, search.resolve (60 * minute) = .ok resolved ∧ t ∈ resolved

/-- The instants after the one of the search that the minutes up to its horizon resolve to. -/
def upcoming (search : Search) : Set ℚ :=
  { t | search.instant < t ∧ ∃ minute ∈ search.cron.matching,
    yearOf (60 * minute) ≤ search.futureHorizon ∧ Resolves search minute t }

/-- The instants up to the one of the search that the minutes down to its horizon resolve to. -/
def elapsed (search : Search) : Set ℚ :=
  { t | t ≤ search.instant ∧ ∃ minute ∈ search.cron.matching,
    search.pastHorizon ≤ yearOf (60 * minute) ∧ Resolves search minute t }

section Landing

variable {search : Search} {landing : ℤ → ℤ} {minute goal : ℤ} {target pass t : ℚ}

theorem Landing.resolves_iff (lands : Landing search landing)
    (dated : search.resolve (60 * minute) ≠ .error .outOfRange) : Resolves search minute t ↔
      t ∈ foldPasses search.foldPolicy (candidates search.zone (60 * landing minute)) := by
  unfold Resolves
  rw [(lands.resolve minute).resolve_left dated]
  simp

theorem Resolves.dated (resolves : Resolves search minute t) :
    search.resolve (60 * minute) ≠ .error .outOfRange := by
  obtain ⟨resolved, same, -⟩ := resolves
  rw [same]
  nofun

theorem Resolves.member (lands : Landing search landing) (resolves : Resolves search minute t) :
    t ∈ foldPasses search.foldPolicy (candidates search.zone (60 * landing minute)) :=
  (lands.resolves_iff resolves.dated).mp resolves

theorem Resolves.wall (lands : Landing search landing) (resolves : Resolves search minute t) :
    search.zone.wallTime t = 60 * landing minute :=
  (mem_foldPasses (resolves.member lands)).1

theorem Resolves.whole (lands : Landing search landing) (resolves : Resolves search minute t) :
    t = (60 * landing minute - search.zone.utcoffset t : ℤ) := by
  have wall := resolves.wall lands
  unfold ZoneInfo.wallTime at wall
  push_cast
  linarith

theorem Resolves.moment_le (lands : Landing search landing) (resolves : Resolves search minute t)
    (ahead : search.instant ≤ t) : search.moment ≤ t := by
  rw [resolves.whole lands] at ahead ⊢
  exact search.calendar.fromTimestamp_le ahead

theorem Resolves.le_moment (lands : Landing search landing) (resolves : Resolves search minute t)
    (upTo : t ≤ search.instant) : t ≤ search.moment := by
  rw [resolves.whole lands] at upTo ⊢
  exact search.calendar.le_fromTimestamp upTo

theorem landing_ne (lands : Landing search landing) (reaches : Resolves search goal t)
    (passes : Resolves search minute pass) (other : ¬ Resolves search minute t) :
    landing minute ≠ landing goal := by
  intro same
  rw [lands.resolves_iff passes.dated, same] at other
  exact other (reaches.member lands)

theorem allFolds_of_both (both : search.foldPolicy = .both) (wall : ℚ) :
    search.allFolds wall = search.resolve wall := by
  unfold Search.allFolds Search.resolve
  rw [both]

theorem both_of_crossing (lands : Landing search landing) (earlier : minute < goal)
    (reaches : Resolves search goal target) (passes : Resolves search minute pass)
    (late : target < pass) (apart : landing minute ≠ landing goal) :
    search.foldPolicy = .both ∧ landing minute = minute ∧ landing goal = goal := by
  have wall := reaches.wall lands
  have passWall := passes.wall lands
  have reaches := reaches.member lands
  have passes := passes.member lands
  have sooner : landing minute < landing goal := lt_of_le_of_ne (lands.mono earlier.le) apart
  have order : (60 * landing minute : ℚ) < 60 * landing goal := by
    have : (landing minute : ℚ) < landing goal := by exact_mod_cast sooner
    linarith
  have back : search.zone.wallTime pass ≤ search.zone.wallTime target := by
    rw [wall, passWall]
    exact order.le
  have before := (earlier_pass late back).trans passWall
  have after := (later_pass late back).trans wall
  have beforeTarget : search.zone.wallTime pass - search.zone.utcoffset target < target := by
    unfold ZoneInfo.wallTime at wall passWall ⊢
    linarith
  have afterPass : pass < search.zone.wallTime target - search.zone.utcoffset pass := by
    unfold ZoneInfo.wallTime at wall passWall ⊢
    linarith
  refine ⟨?_, lands.ambiguous (beforeTarget.trans late) before passWall,
    lands.ambiguous (late.trans afterPass) wall after⟩
  cases policy : search.foldPolicy with
  | both => rfl
  | first =>
    have least := (mem_foldPasses passes).2.1 policy _ before
    linarith
  | second =>
    have greatest := (mem_foldPasses reaches).2.2 policy _ after
    linarith
  | reject =>
    rw [policy] at passes
    cases passes

end Landing

/-! ## `_cron_next` -/

/-- A minute at which the search ends with what it has found: past the horizon or the overlap, or
its first pass is after the instant of the search. -/
def NextEnds (search : Search) (minute : ℤ) : Prop :=
  search.futureHorizon < yearOf (60 * minute) ∨
    search.localMinute + search.window < 60 * minute ∨
    ∃ all first, search.allFolds (60 * minute) = .ok all ∧ all.min? = some first ∧
      search.instant < first

/-- The minutes that the search meets up to this one have their dates. -/
def NextDated (search : Search) (minute : ℤ) : Prop :=
  ∀ passed ∈ search.cron.matching, search.nextCursor < 60 * passed → passed ≤ minute →
    yearOf (60 * passed) ≤ search.futureHorizon → search.resolve (60 * passed) ≠ .error .outOfRange

section Next

variable {search : Search} {landing : ℤ → ℤ} {minute goal : ℤ} {target cursor : ℚ}

/-- The search as a sweep through the minutes, up to one that lacks a date. -/
noncomputable def nextSweep (search : Search) : Sweep ℤ ℚ ℚ where
  stations := { minute | minute ∈ search.cron.matching ∧ NextDated search minute }
  next cursor := Sweep.stopping (NextDated search) (search.cron.getNext cursor)
  cursorAt minute := 60 * minute
  behind cursor minute := cursor < 60 * minute
  rest cursor := yearStart (search.futureHorizon + 1) - ⌊cursor / 60⌋
  inRange cursor := yearOf cursor ≤ search.futureHorizon
  inside minute := yearOf (60 * minute) ≤ search.futureHorizon
  beyond minute := search.localMinute + search.window < 60 * minute
  shown minute := (search.resolve (60 * minute)).toOption.getD []
  all minute := (search.allFolds (60 * minute)).toOption.getD []
  both := search.foldPolicy = .both
  ahead t := search.instant < t
  spent _ := none

theorem NextDated.mono {other : ℤ} (dated : NextDated search other) (le : minute ≤ other) :
    NextDated search minute :=
  fun passed isMatch after upTo => dated passed isMatch after (upTo.trans le)

theorem nextDated_iff (found : search.cron.getNext cursor = some minute)
    (start : search.nextCursor ≤ cursor)
    (dated : ∀ passed : ℤ, 60 * passed ≤ cursor → NextDated search passed) :
    NextDated search minute ↔ (yearOf (60 * minute) ≤ search.futureHorizon →
      search.resolve (60 * minute) ≠ .error .outOfRange) := by
  obtain ⟨⟨isMatch, behind⟩, first⟩ := search.cron.getNext_eq_some.mp found
  constructor
  · exact fun all => all minute isMatch (start.trans_lt behind) le_rfl
  · intro own passed alsoMatch after upTo
    rcases upTo.eq_or_lt with rfl | sooner
    · exact own
    · have before : 60 * (passed : ℚ) ≤ cursor := by
        by_contra ahead
        exact absurd (first ⟨alsoMatch, not_le.mp ahead⟩) (not_le.mpr sooner)
      exact dated passed before passed alsoMatch after le_rfl

theorem mem_shown : target ∈ (search.resolve (60 * minute)).toOption.getD [] ↔
    Resolves search minute target := by
  unfold Resolves
  cases search.resolve (60 * minute) <;> simp [Except.toOption]

theorem nextLoop_eq_run (lands : Landing search landing) (rounds : ℕ) (best : Option ℚ)
    (start : search.nextCursor ≤ cursor)
    (dated : ∀ passed : ℤ, 60 * passed ≤ cursor → NextDated search passed) :
    (search.nextLoop rounds cursor best).toOption = (nextSweep search).run rounds cursor best := by
  induction rounds generalizing cursor best with
  | zero => rfl
  | succ rounds ih =>
    rw [Search.nextLoop.eq_def]
    dsimp only
    by_cases inRange : yearOf cursor ≤ search.futureHorizon
    swap
    · rw [if_pos (not_le.mp inRange), Sweep.run_outOfRange inRange]
      cases best <;> rfl
    rw [if_neg (not_lt.mpr inRange)]
    cases found : search.cron.getNext cursor with
    | none =>
      have ranOut : (nextSweep search).next cursor = none :=
        congrArg (Sweep.stopping (NextDated search)) found
      exact (Sweep.run_ranOut inRange ranOut).symm
    | some minute =>
      dsimp only
      have behind := (search.cron.getNext_eq_some.mp found).1.2
      have stops := nextDated_iff found start dated
      have next (datedHere : NextDated search minute) :
          (nextSweep search).next cursor = some minute :=
        (congrArg (Sweep.stopping (NextDated search)) found).trans (Sweep.stopping_of datedHere)
      by_cases inside : yearOf (60 * minute) ≤ search.futureHorizon
      swap
      · rw [if_pos (not_le.mp inside)]
        rw [Sweep.run_outside inRange (next (stops.mpr fun also => absurd also inside)) inside]
        cases best <;> rfl
      rw [if_neg (not_lt.mpr inside)]
      rcases lands.resolve minute with raises | resolves
      · have undated : ¬ NextDated search minute := fun all => stops.mp all inside raises
        have ranOut : (nextSweep search).next cursor = none :=
          (congrArg (Sweep.stopping (NextDated search)) found).trans (Sweep.stopping_not undated)
        simp only [raises]
        exact (Sweep.run_ranOut inRange ranOut).symm
      · generalize foldPasses search.foldPolicy _ = resolved at resolves
        have datedHere := stops.mpr fun _ => by rw [resolves]; nofun
        have onward best' := ih best' (start.trans behind.le) fun passed upTo =>
          datedHere.mono (not_lt.mp (mt minutes_lt.mpr (not_lt.mpr upTo)))
        have shown : (nextSweep search).shown minute = resolved :=
          congrArg (fun result => result.toOption.getD []) resolves
        have offer : (nextSweep search).offer minute =
            (resolved.filter fun t => search.instant < t).min? := by
          unfold Sweep.offer
          rw [shown]
          rfl
        simp only [resolves]
        cases least : (resolved.filter fun t => search.instant < t).min? with
        | some candidate =>
          have keep : nearest best candidate = earlierOf best candidate := by cases best <;> rfl
          rw [Sweep.run_offer inRange (next datedHere) inside (offer.trans least), keep]
          by_cases both : search.foldPolicy = .both
          swap
          · refine (congrArg Except.toOption (if_pos both)).trans ?_
            exact (if_pos (Or.inl both)).symm
          refine (congrArg Except.toOption (if_neg (not_not.mpr both))).trans ?_
          have all := (allFolds_of_both both (60 * minute)).trans resolves
          have allOf : (nextSweep search).all minute = resolved :=
            congrArg (fun result => result.toOption.getD []) all
          rw [all, allOf]
          by_cases first : resolved.min? = some candidate
          · refine (congrArg Except.toOption (if_pos first)).trans ?_
            exact (if_pos (Or.inr (Or.inl first))).symm
          refine (congrArg Except.toOption (if_neg first)).trans ?_
          by_cases beyond : search.localMinute + search.window < 60 * (minute : ℚ)
          · refine (congrArg Except.toOption (if_pos beyond)).trans ?_
            exact (if_pos (Or.inr (Or.inr beyond))).symm
          · refine (congrArg Except.toOption (if_neg beyond)).trans ((onward _).trans ?_)
            exact (if_neg (not_or.mpr ⟨not_not.mpr both, not_or.mpr ⟨first, beyond⟩⟩)).symm
        | none =>
          rw [Sweep.run_no_offer inRange (next datedHere) inside (offer.trans least)]
          cases best with
          | none => exact onward none
          | some earlier =>
            by_cases beyond : search.localMinute + search.window < 60 * (minute : ℚ)
            · exact (congrArg Except.toOption (if_pos beyond)).trans (if_pos ⟨rfl, beyond⟩).symm
            · refine (congrArg Except.toOption (if_neg beyond)).trans ((onward _).trans ?_)
              exact (if_neg fun ends => beyond ends.2).symm

theorem nextEnds_iff : NextEnds search minute ↔ (nextSweep search).Ends minute := by
  refine or_congr not_le.symm (or_congr Iff.rfl ?_)
  simp only [nextSweep, decide_eq_true_eq]
  cases search.allFolds (60 * minute) <;> simp [Except.toOption]

theorem next_crossing (lands : Landing search landing)
    (least : IsLeast (nextSweep search).upcoming target) (earlier : minute < goal)
    (reaches : Resolves search goal target) (isStation : minute ∈ (nextSweep search).stations)
    (inHorizon : yearOf (60 * minute) ≤ search.futureHorizon) {pass : ℚ}
    (passes : Resolves search minute pass) (late : target < pass)
    (other : ¬ Resolves search minute target) :
    search.foldPolicy = .both ∧
      (∃ first ∈ candidates search.zone (60 * landing minute), first ≤ search.instant) ∧
      60 * goal < search.localMinute + search.window := by
  obtain ⟨both, own, goalOwn⟩ := both_of_crossing lands earlier reaches passes late
    (landing_ne lands reaches passes other)
  have wall := reaches.wall lands
  have passWall := passes.wall lands
  have order : (60 * minute : ℚ) < 60 * goal := by
    have : (minute : ℚ) < goal := by exact_mod_cast earlier
    linarith
  rw [goalOwn] at wall
  have back : search.zone.wallTime pass ≤ search.zone.wallTime target := by
    rw [wall, passWall, own]
    exact order.le
  have first := mem_candidates.mpr ((earlier_pass late back).trans passWall)
  have before : search.zone.wallTime pass - search.zone.utcoffset target < target := by
    rw [passWall, own]
    unfold ZoneInfo.wallTime at wall
    linarith
  have passed : search.zone.wallTime pass - search.zone.utcoffset target ≤ search.instant := by
    by_contra future
    have resolves : Resolves search minute
        (search.zone.wallTime pass - search.zone.utcoffset target) := by
      rw [lands.resolves_iff passes.dated, both]
      exact first
    have bound := least.2
      ⟨decide_eq_true (not_le.mp future), minute, isStation, inHorizon, mem_shown.mpr resolves⟩
    linarith
  have read : search.zone.wallTime pass - search.zone.utcoffset target ≤ search.moment := by
    have whole : search.zone.wallTime pass - search.zone.utcoffset target =
        (60 * landing minute - search.zone.utcoffset target : ℤ) := by
      rw [passWall]
      push_cast
      ring
    rw [whole] at passed ⊢
    exact search.calendar.le_fromTimestamp passed
  have upTo := reaches.moment_le lands (of_decide_eq_true least.1.1).le
  rw [own] at passWall
  exact ⟨both, ⟨_, first, passed⟩, next_inside upTo wall earlier passWall late read⟩

theorem nextSweep_lawful (lands : Landing search landing) : (nextSweep search).Lawful where
  next_eq_some := by
    intro cursor minute
    refine (Sweep.stopping_eq_some_iff search.cron.getNext_eq_some exists_first
      fun le dated => NextDated.mono dated le).trans ?_
    refine iff_of_eq (congrArg (IsLeast · minute) (Set.ext fun other => ?_))
    exact and_right_comm
  least := exists_first
  behind_cursorAt := minutes_lt
  behind_mono behind le := behind.trans_le (minutes_le le)
  inside_mono le := (yearOf_mono (minutes_le le)).trans
  beyond_mono le beyond := beyond.trans_le (minutes_le le)
  ahead_mono le ahead := decide_eq_true ((of_decide_eq_true ahead).trans_le le)
  inRange behind := (yearOf_mono behind.le).trans
  inRange_cursorAt inside := inside
  rest_pos {minute} inside := by
    have before := mt lt_yearOf_minute.mpr (not_lt.mpr inside)
    show 0 < _ - ⌊(60 * minute : ℚ) / 60⌋
    rw [mul_div_cancel_left₀ _ (by norm_num), Int.floor_intCast]
    omega
  rest_lt {cursor minute} behind := by
    have below : ⌊cursor / 60⌋ < minute := by
      rw [Int.floor_lt, div_lt_iff₀ (by norm_num)]
      linarith [show cursor < 60 * minute from behind]
    show _ - ⌊(60 * minute : ℚ) / 60⌋ < _ - ⌊cursor / 60⌋
    rw [mul_div_cancel_left₀ _ (by norm_num), Int.floor_intCast]
    omega
  spent := nofun
  shown_all both minute :=
    congrArg (fun result => result.toOption.getD []) (allFolds_of_both both _).symm
  crossing {target goal minute pass} least earlier reaches isStation inside passes late other := by
    obtain ⟨both, ⟨first, isPass, passed⟩, near⟩ := next_crossing lands least earlier
      (mem_shown.mp reaches) isStation inside (mem_shown.mp passes) late (mt mem_shown.mpr other)
    refine ⟨both, ⟨first, ?_, mt of_decide_eq_true (not_lt.mpr passed)⟩, not_lt.mpr near.le⟩
    change first ∈ (search.allFolds (60 * minute)).toOption.getD []
    rw [allFolds_of_both both, mem_shown, lands.resolves_iff (mem_shown.mp passes).dated, both]
    exact isPass

/-- The search starts before a minute that the least instant is resolved from. -/
def StartsBefore (search : Search) (target : ℚ) : Prop :=
  ∃ minute ∈ search.cron.matching, search.nextCursor < 60 * minute ∧
    yearOf (60 * minute) ≤ search.futureHorizon ∧ Resolves search minute target ∧
    NextDated search minute

/-- The minutes do not run out before the search ends. -/
def NextMeetsEnd (search : Search) : Prop :=
  ∃ last ∈ search.cron.matching, search.nextCursor < 60 * last ∧ NextEnds search last ∧
    NextDated search last

theorem next_eq_iff (lands : Landing search landing) (least : IsLeast (upcoming search) target) :
    search.next = .ok target ↔ search.starts search.nextCursor = true ∧
      StartsBefore search target ∧ (search.foldPolicy = .both → NextMeetsEnd search) := by
  have bound : target ∈ lowerBounds (nextSweep search).upcoming := by
    rintro t ⟨ahead, minute, isStation, inside, isShown⟩
    exact least.2
      ⟨of_decide_eq_true ahead, minute, isStation.1, inside, mem_shown.mp isShown⟩
  have returns := Sweep.run_eq_iff (nextSweep_lawful lands) (decide_eq_true least.1.1) bound
    (Int.self_le_toNat ((nextSweep search).rest search.nextCursor))
  rw [← nextLoop_eq_run lands _ none le_rfl fun passed upTo other _ after le =>
    absurd (after.trans_le (minutes_le le)) (not_lt.mpr upTo), toOption_eq_some] at returns
  unfold Search.next
  dsimp only
  by_cases starts : search.starts search.nextCursor = true
  swap
  · rw [if_neg starts]
    exact iff_of_false nofun fun all => starts all.1
  rw [if_pos starts, and_iff_right starts]
  refine returns.trans (and_congr ?_ ?_)
  · constructor
    · rintro ⟨minute, ⟨⟨isMatch, dated⟩, inHorizon, reaches⟩, behind⟩
      exact ⟨minute, isMatch, behind, inHorizon, mem_shown.mp reaches, dated⟩
    · rintro ⟨minute, isMatch, behind, inHorizon, reaches, dated⟩
      exact ⟨minute, ⟨⟨isMatch, dated⟩, inHorizon, mem_shown.mpr reaches⟩, behind⟩
  · refine forall_congr' fun both => ?_
    constructor
    · rintro ⟨last, ⟨isMatch, dated⟩, behind, ends⟩
      exact ⟨last, isMatch, behind, nextEnds_iff.mpr ends, dated⟩
    · rintro ⟨last, isMatch, behind, ends, dated⟩
      exact ⟨last, ⟨isMatch, dated⟩, behind, nextEnds_iff.mp ends⟩

end Next

/-! ## `_cron_previous_or_at` -/

/-- A minute at which the search ends with what it has found: past the horizon or the overlap, or
its last pass is up to the instant of the search. -/
def PreviousEnds (search : Search) (minute : ℤ) : Prop :=
  yearOf (60 * minute) < search.pastHorizon ∨
    60 * minute < search.localMinute - search.window ∨
    ∃ all last, search.allFolds (60 * minute) = .ok all ∧ all.max? = some last ∧
      last ≤ search.instant

/-- The minutes that the search meets down to this one have their dates. -/
def PreviousDated (search : Search) (minute : ℤ) : Prop :=
  ∀ passed ∈ search.cron.matching, 60 * passed < search.previousCursor → minute ≤ passed →
    search.pastHorizon ≤ yearOf (60 * passed) → search.resolve (60 * passed) ≠ .error .outOfRange

section Previous

variable {search : Search} {landing : ℤ → ℤ} {minute goal : ℤ} {target cursor : ℚ}

/-- The search as a sweep back through the minutes, down to one that lacks a date. -/
noncomputable def previousSweep (search : Search) : Sweep ℤᵒᵈ ℚᵒᵈ ℚ where
  stations := { minute : ℤ | minute ∈ search.cron.matching ∧ PreviousDated search minute }
  next := fun cursor => Sweep.stopping (PreviousDated search) (search.cron.getPrev cursor)
  cursorAt := fun minute : ℤ => 60 * minute
  behind := fun cursor (minute : ℤ) => 60 * minute < cursor
  rest cursor := ⌈cursor / 60⌉ - yearStart search.pastHorizon + 1
  inRange cursor := search.pastHorizon ≤ yearOf cursor
  inside := fun minute : ℤ => search.pastHorizon ≤ yearOf (60 * minute)
  beyond := fun minute : ℤ => 60 * minute < search.localMinute - search.window
  shown := fun minute : ℤ => (search.resolve (60 * minute)).toOption.getD []
  all := fun minute : ℤ => (search.allFolds (60 * minute)).toOption.getD []
  both := search.foldPolicy = .both
  ahead := fun t : ℚ => t ≤ search.instant
  spent best := best

theorem PreviousDated.mono {other : ℤ} (dated : PreviousDated search other) (le : other ≤ minute) :
    PreviousDated search minute :=
  fun passed isMatch before downTo => dated passed isMatch before (le.trans downTo)

theorem previousDated_iff (found : search.cron.getPrev cursor = some minute)
    (start : cursor ≤ search.previousCursor)
    (dated : ∀ passed : ℤ, cursor ≤ 60 * passed → PreviousDated search passed) :
    PreviousDated search minute ↔ (search.pastHorizon ≤ yearOf (60 * minute) →
      search.resolve (60 * minute) ≠ .error .outOfRange) := by
  obtain ⟨⟨isMatch, behind⟩, last⟩ := search.cron.getPrev_eq_some.mp found
  constructor
  · exact fun all => all minute isMatch (behind.trans_le start) le_rfl
  · intro own passed alsoMatch before downTo
    rcases downTo.eq_or_lt with rfl | later
    · exact own
    · have after : cursor ≤ 60 * (passed : ℚ) := by
        by_contra ahead
        exact absurd (last ⟨alsoMatch, not_le.mp ahead⟩) (not_le.mpr later)
      exact dated passed after passed alsoMatch before le_rfl

theorem previousLoop_eq_run (lands : Landing search landing) (rounds : ℕ) (best : Option ℚ)
    (start : cursor ≤ search.previousCursor)
    (dated : ∀ passed : ℤ, cursor ≤ 60 * passed → PreviousDated search passed) :
    (search.previousLoop rounds cursor best).toOption.bind id =
      (previousSweep search).run rounds cursor best := by
  induction rounds generalizing cursor best with
  | zero => rfl
  | succ rounds ih =>
    have found {one other : Except ScheduleTimeError (Option ℚ)} (same : one = other) :
        one.toOption.bind id = other.toOption.bind id := by rw [same]
    rw [Search.previousLoop.eq_def]
    dsimp only
    by_cases inRange : search.pastHorizon ≤ yearOf cursor
    swap
    · rw [if_pos (not_le.mp inRange)]
      exact (@Sweep.run_outOfRange _ _ _ _ (previousSweep search) _ _ _ inRange).symm
    rw [if_neg (not_lt.mpr inRange)]
    cases previous : search.cron.getPrev cursor with
    | none =>
      have ranOut : (previousSweep search).next cursor = none :=
        congrArg (Sweep.stopping (PreviousDated search)) previous
      exact (@Sweep.run_ranOut _ _ _ _ (previousSweep search) _ _ _ inRange ranOut).symm
    | some minute =>
      dsimp only
      have behind := (search.cron.getPrev_eq_some.mp previous).1.2
      have stops := previousDated_iff previous start dated
      have next (datedHere : PreviousDated search minute) :
          (previousSweep search).next cursor = some minute :=
        (congrArg (Sweep.stopping (PreviousDated search)) previous).trans
          (Sweep.stopping_of datedHere)
      by_cases inside : search.pastHorizon ≤ yearOf (60 * minute)
      swap
      · rw [if_pos (not_le.mp inside)]
        exact (@Sweep.run_outside _ _ _ _ (previousSweep search) _ _ _ _ inRange
          (next (stops.mpr fun also => absurd also inside)) inside).symm
      rw [if_neg (not_lt.mpr inside)]
      rcases lands.resolve minute with raises | resolves
      · have undated : ¬ PreviousDated search minute := fun all => stops.mp all inside raises
        have ranOut : (previousSweep search).next cursor = none :=
          (congrArg (Sweep.stopping (PreviousDated search)) previous).trans
            (Sweep.stopping_not undated)
        rw [raises]
        exact (@Sweep.run_ranOut _ _ _ _ (previousSweep search) _ _ _ inRange ranOut).symm
      · generalize foldPasses search.foldPolicy _ = resolved at resolves
        have datedHere := stops.mpr fun _ => by rw [resolves]; nofun
        have onward best' := ih best' (behind.le.trans start) fun passed downTo =>
          datedHere.mono (not_lt.mp (mt minutes_lt.mpr (not_lt.mpr downTo)))
        have shown : (previousSweep search).shown minute = resolved :=
          congrArg (fun result => result.toOption.getD []) resolves
        have offer : (previousSweep search).offer minute =
            (resolved.filter fun t => t ≤ search.instant).max? := by
          unfold Sweep.offer
          rw [shown]
          rfl
        rw [resolves]
        dsimp only
        cases greatest : (resolved.filter fun t => t ≤ search.instant).max? with
        | some candidate =>
          have keep : some (laterOf best candidate) = some (@nearest ℚᵒᵈ _ best candidate) := by
            cases best <;> rfl
          refine .trans ?_
            (Sweep.run_offer inRange (next datedHere) inside (offer.trans greatest)).symm
          by_cases both : search.foldPolicy = .both
          swap
          · exact (found (if_pos both)).trans (keep.trans (if_pos (Or.inl both)).symm)
          refine (found (if_neg (not_not.mpr both))).trans ?_
          have all := (allFolds_of_both both (60 * minute)).trans resolves
          have allOf : (previousSweep search).all minute = resolved :=
            congrArg (fun result => result.toOption.getD []) all
          rw [all, allOf]
          by_cases last : resolved.max? = some candidate
          · exact (found (if_pos last)).trans (keep.trans (if_pos (Or.inr (Or.inl last))).symm)
          refine (found (if_neg last)).trans ?_
          by_cases beyond : 60 * (minute : ℚ) < search.localMinute - search.window
          · refine (found (if_pos beyond)).trans (keep.trans ?_)
            exact (if_pos (Or.inr (Or.inr beyond))).symm
          · refine (found (if_neg beyond)).trans ((onward _).trans ?_)
            refine .trans ?_
              (if_neg (not_or.mpr ⟨not_not.mpr both, not_or.mpr ⟨last, beyond⟩⟩)).symm
            exact congrArg (Sweep.run _ rounds _) keep
        | none =>
          refine .trans ?_
            (Sweep.run_no_offer inRange (next datedHere) inside (offer.trans greatest)).symm
          cases best with
          | none => exact (onward none).trans (if_neg nofun).symm
          | some later =>
            by_cases beyond : 60 * (minute : ℚ) < search.localMinute - search.window
            · exact (found (if_pos beyond)).trans (if_pos ⟨rfl, beyond⟩).symm
            · refine (found (if_neg beyond)).trans ((onward _).trans ?_)
              exact (if_neg fun ends => beyond ends.2).symm

theorem previousSweep_ahead : (previousSweep search).ahead t ↔ t ≤ search.instant :=
  decide_eq_true_iff

theorem previousEnds_iff : PreviousEnds search minute ↔ (previousSweep search).Ends minute := by
  refine or_congr not_le.symm (or_congr Iff.rfl ?_)
  constructor
  · rintro ⟨all, last, same, isLast, past⟩
    refine ⟨last, ?_, previousSweep_ahead.mpr past⟩
    exact (congrArg (fun result => (result.toOption.getD []).max?) same).trans isLast
  · rintro ⟨last, isLast, past⟩
    change ((search.allFolds (60 * minute)).toOption.getD []).max? = some last at isLast
    cases same : search.allFolds (60 * minute) with
    | error error =>
      rw [same] at isLast
      cases isLast
    | ok all =>
      rw [same] at isLast
      exact ⟨all, last, rfl, isLast, previousSweep_ahead.mp past⟩

theorem previous_crossing (lands : Landing search landing)
    (greatest : IsLeast (previousSweep search).upcoming target) (later : goal < minute)
    (reaches : Resolves search goal target) (isStation : minute ∈ (previousSweep search).stations)
    (inHorizon : search.pastHorizon ≤ yearOf (60 * minute)) {pass : ℚ}
    (passes : Resolves search minute pass) (early : pass < target)
    (other : ¬ Resolves search minute target) :
    search.foldPolicy = .both ∧
      (∃ last ∈ candidates search.zone (60 * landing minute), search.instant < last) ∧
      search.localMinute - search.window < 60 * goal := by
  obtain ⟨both, goalOwn, own⟩ := both_of_crossing lands later passes reaches early
    (landing_ne lands reaches passes other).symm
  have wall := reaches.wall lands
  have passWall := passes.wall lands
  have order : (60 * goal : ℚ) < 60 * minute := by
    have : (goal : ℚ) < minute := by exact_mod_cast later
    linarith
  rw [goalOwn] at wall
  have back : search.zone.wallTime target ≤ search.zone.wallTime pass := by
    rw [wall, passWall, own]
    exact order.le
  have last := mem_candidates.mpr ((later_pass early back).trans passWall)
  have after : target < search.zone.wallTime pass - search.zone.utcoffset target := by
    rw [passWall, own]
    unfold ZoneInfo.wallTime at wall
    linarith
  have toCome : search.instant < search.zone.wallTime pass - search.zone.utcoffset target := by
    by_contra past
    have resolves : Resolves search minute
        (search.zone.wallTime pass - search.zone.utcoffset target) := by
      rw [lands.resolves_iff passes.dated, both]
      exact last
    have bound := greatest.2 ⟨previousSweep_ahead.mpr (not_lt.mp past), minute, isStation,
      inHorizon, mem_shown.mpr resolves⟩
    exact absurd after (not_lt.mpr bound)
  have read : search.moment ≤ search.zone.wallTime pass - search.zone.utcoffset target := by
    have whole : search.zone.wallTime pass - search.zone.utcoffset target =
        (60 * landing minute - search.zone.utcoffset target : ℤ) := by
      rw [passWall]
      push_cast
      ring
    rw [whole] at toCome ⊢
    exact search.calendar.fromTimestamp_le toCome.le
  have upTo := reaches.le_moment lands (previousSweep_ahead.mp greatest.1.1)
  rw [own] at passWall
  exact ⟨both, ⟨_, last, toCome⟩, previous_inside upTo wall later passWall early read⟩

theorem previous_rest_pos {horizon : ℤ} (inside : horizon ≤ yearOf (60 * minute)) :
    0 < ⌈(60 * minute : ℚ) / 60⌉ - yearStart horizon + 1 := by
  have after := (@lt_yearOf_minute (horizon - 1) minute).mp (Int.sub_one_lt_of_le inside)
  rw [Int.sub_add_cancel] at after
  rw [mul_div_cancel_left₀ _ (by norm_num), Int.ceil_intCast]
  omega

theorem previous_rest_lt {horizon : ℤ} (behind : 60 * minute < cursor) :
    ⌈(60 * minute : ℚ) / 60⌉ - yearStart horizon + 1 <
      ⌈cursor / 60⌉ - yearStart horizon + 1 := by
  have above : minute < ⌈cursor / 60⌉ := by
    rw [Int.lt_ceil, lt_div_iff₀ (by norm_num)]
    linarith
  rw [mul_div_cancel_left₀ _ (by norm_num), Int.ceil_intCast]
  omega

theorem previousSweep_lawful (lands : Landing search landing) :
    (previousSweep search).Lawful where
  next_eq_some := by
    intro cursor minute
    refine (@Sweep.stopping_eq_some_iff ℤᵒᵈ _ _ _ _ _ search.cron.getPrev_eq_some exists_last
      fun le dated => PreviousDated.mono dated le).trans ?_
    refine iff_of_eq (congrArg (IsLeast · minute) (Set.ext fun other => ?_))
    exact and_right_comm
  least := exists_last
  behind_cursorAt := minutes_lt
  behind_mono behind le := (minutes_le le).trans_lt behind
  inside_mono le inside := inside.trans (yearOf_mono (minutes_le le))
  beyond_mono le := (minutes_le le).trans_lt
  ahead_mono le ahead :=
    previousSweep_ahead.mpr (@le_trans ℚ _ _ _ _ le (previousSweep_ahead.mp ahead))
  inRange behind inside := inside.trans (yearOf_mono (le_of_lt behind))
  inRange_cursorAt inside := inside
  rest_pos := previous_rest_pos
  rest_lt := previous_rest_lt
  spent returns := returns
  shown_all both minute :=
    congrArg (fun result => result.toOption.getD []) (allFolds_of_both both _).symm
  crossing
    {target goal minute pass} greatest later reaches isStation inside passes early other := by
    obtain ⟨both, ⟨last, isPass, toCome⟩, near⟩ := previous_crossing lands greatest later
      (mem_shown.mp reaches) isStation inside (mem_shown.mp passes) early (mt mem_shown.mpr other)
    refine ⟨both, ⟨last, ?_, mt previousSweep_ahead.mp (not_le.mpr toCome)⟩, not_lt.mpr near.le⟩
    change last ∈ (search.allFolds (60 * (show ℤ from minute))).toOption.getD []
    rw [allFolds_of_both both, mem_shown, lands.resolves_iff (mem_shown.mp passes).dated, both]
    exact isPass

/-- The search gets to a minute that the greatest instant is resolved from; it always starts
after one. -/
def GetsTo (search : Search) (target : ℚ) : Prop :=
  ∃ minute ∈ search.cron.matching, search.pastHorizon ≤ yearOf (60 * minute) ∧
    Resolves search minute target ∧ PreviousDated search minute

/-- The minutes do not run out before the search ends. -/
def PreviousMeetsEnd (search : Search) : Prop :=
  ∃ last ∈ search.cron.matching, 60 * last < search.previousCursor ∧ PreviousEnds search last ∧
    PreviousDated search last

theorem previousOrAt_eq_iff (lands : Landing search landing)
    (greatest : IsGreatest (elapsed search) target) :
    search.previousOrAt = .ok (some target) ↔ search.starts search.previousCursor = true ∧
      GetsTo search target ∧ (search.foldPolicy = .both → PreviousMeetsEnd search) := by
  have behind : ∀ minute : ℤ, Resolves search minute target →
      60 * minute < search.previousCursor := by
    intro minute reaches
    have after := previous_cursor_after (reaches.le_moment lands greatest.1.1) (reaches.wall lands)
    have : (minute : ℚ) ≤ landing minute := by exact_mod_cast lands.le minute
    unfold Search.previousCursor Search.localMinute Search.window
    linarith
  have bound : target ∈ lowerBounds (previousSweep search).upcoming := by
    rintro t ⟨upTo, minute, isStation, inside, isShown⟩
    exact greatest.2
      ⟨previousSweep_ahead.mp upTo, minute, isStation.1, inside, mem_shown.mp isShown⟩
  have returns := Sweep.run_eq_iff (previousSweep_lawful lands)
    (previousSweep_ahead.mpr greatest.1.1) bound
    (Int.self_le_toNat ((previousSweep search).rest search.previousCursor))
  have same := previousLoop_eq_run lands
    ((previousSweep search).rest search.previousCursor).toNat none le_rfl
    fun passed downTo other _ before le =>
      absurd ((minutes_le le).trans_lt before) (not_lt.mpr downTo)
  unfold Search.previousOrAt
  dsimp only
  by_cases starts : search.starts search.previousCursor = true
  swap
  · rw [if_neg starts]
    exact iff_of_false nofun fun all => starts all.1
  rw [if_pos starts, and_iff_right starts, ← bind_toOption_eq_some]
  refine (Eq.congr_left same).trans (returns.trans (and_congr ?_ ?_))
  · constructor
    · rintro ⟨minute, ⟨⟨isMatch, dated⟩, inHorizon, reaches⟩, -⟩
      exact ⟨minute, isMatch, inHorizon, mem_shown.mp reaches, dated⟩
    · rintro ⟨minute, isMatch, inHorizon, reaches, dated⟩
      exact ⟨minute, ⟨⟨isMatch, dated⟩, inHorizon, mem_shown.mpr reaches⟩, behind minute reaches⟩
  · refine forall_congr' fun both => ?_
    constructor
    · rintro ⟨last, ⟨isMatch, dated⟩, before, ends⟩
      exact ⟨last, isMatch, before, previousEnds_iff.mpr ends, dated⟩
    · rintro ⟨last, isMatch, before, ends, dated⟩
      exact ⟨last, ⟨isMatch, dated⟩, before, previousEnds_iff.mp ends⟩

end Previous

end Copilotd.Guarantees.CronSearches
