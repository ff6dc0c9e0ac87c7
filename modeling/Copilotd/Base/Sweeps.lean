import Mathlib.Order.Bounds.Basic
import Mathlib.Order.MinMax

/-!
# Sweeps

A sweep goes through stations in their order and looks for the least of the instants ahead
that the stations show.  A later station can show an earlier instant, so the sweep carries
the nearest instant so far and goes on until a station tells it that nothing nearer can
come.  It returns the least instant exactly if it starts before a station of it and meets
such an end, provided that an earlier station with a later instant means the sweep is still
among the stations that overlap.
-/
namespace Copilotd.Base.Sweeps

structure Sweep (Station Instant Cursor : Type) where
  stations : Set Station
  next : Cursor → Option Station
  cursorAt : Station → Cursor
  behind : Cursor → Station → Prop
  /-- A bound for the rounds. -/
  rest : Cursor → ℤ
  inRange : Cursor → Prop
  /-- Up to here the stations count. -/
  inside : Station → Prop
  /-- From here on no station overlaps with those before the sweep. -/
  beyond : Station → Prop
  shown : Station → List Instant
  /-- What a station could show, and whether every station shows it. -/
  all : Station → List Instant
  both : Prop
  ahead : Instant → Bool
  /-- What is returned when the rounds run out. -/
  spent : Option Instant → Option Instant

variable {Station Instant Cursor : Type} [LinearOrder Instant]

def nearest (best : Option Instant) (candidate : Instant) : Instant :=
  match best with
  | none => candidate
  | some earlier => min earlier candidate

theorem nearest_choice (best : Option Instant) (candidate : Instant) :
    nearest best candidate ∈ best ∨ nearest best candidate = candidate := by
  cases best with
  | none => exact .inr rfl
  | some earlier =>
    rcases min_choice earlier candidate with old | new
    · exact .inl (congrArg some old.symm)
    · exact .inr new

namespace Sweep
variable (sweep : Sweep Station Instant Cursor)

/-- The instant that a station offers to the sweep. -/
def offer (station : Station) : Option Instant := ((sweep.shown station).filter sweep.ahead).min?

open Classical in
noncomputable def run : (rounds : ℕ) → Cursor → (best : Option Instant) → Option Instant
  | 0, _, best => sweep.spent best
  | rounds + 1, cursor, best =>
    if sweep.inRange cursor then
      match sweep.next cursor with
      | none => none
      | some station =>
        if sweep.inside station then
          match sweep.offer station with
          | some candidate =>
            if ¬ sweep.both ∨ (sweep.all station).min? = some candidate ∨ sweep.beyond station then
              some (nearest best candidate)
            else run rounds (sweep.cursorAt station) (some (nearest best candidate))
          | none =>
            if best.isSome ∧ sweep.beyond station then best
            else run rounds (sweep.cursorAt station) best
        else best
    else best

def upcoming : Set Instant :=
  { t | sweep.ahead t ∧ ∃ station ∈ sweep.stations, sweep.inside station ∧ t ∈ sweep.shown station }

/-- A station at which the sweep ends with what it carries. -/
def Ends (station : Station) : Prop :=
  ¬ sweep.inside station ∨ sweep.beyond station ∨
    ∃ first, (sweep.all station).min? = some first ∧ sweep.ahead first

/-- A station after the cursor that shows an instant. -/
def Shows (cursor : Cursor) (t : Instant) : Prop :=
  ∃ station, (station ∈ sweep.stations ∧ sweep.inside station ∧ t ∈ sweep.shown station) ∧
    sweep.behind cursor station

structure Lawful [LinearOrder Station] : Prop where
  next_eq_some : ∀ {cursor station}, sweep.next cursor = some station ↔
    IsLeast { other | other ∈ sweep.stations ∧ sweep.behind cursor other } station
  least : ∀ {cursor} {P : Station → Prop}, (∃ station, P station ∧ sweep.behind cursor station) →
    ∃ station, IsLeast { other | P other ∧ sweep.behind cursor other } station
  behind_cursorAt : ∀ {station other}, sweep.behind (sweep.cursorAt station) other ↔ station < other
  behind_mono : ∀ {cursor station other}, sweep.behind cursor station → station ≤ other →
    sweep.behind cursor other
  inside_mono : ∀ {station other}, station ≤ other → sweep.inside other → sweep.inside station
  beyond_mono : ∀ {station other}, station ≤ other → sweep.beyond station → sweep.beyond other
  ahead_mono : ∀ {t u}, t ≤ u → sweep.ahead t → sweep.ahead u
  inRange : ∀ {cursor station}, sweep.behind cursor station → sweep.inside station →
    sweep.inRange cursor
  inRange_cursorAt : ∀ {station}, sweep.inside station → sweep.inRange (sweep.cursorAt station)
  rest_pos : ∀ {station}, sweep.inside station → 0 < sweep.rest (sweep.cursorAt station)
  rest_lt : ∀ {cursor station}, sweep.behind cursor station →
    sweep.rest (sweep.cursorAt station) < sweep.rest cursor
  spent : ∀ {best t}, sweep.spent best = some t → t ∈ best
  shown_all : sweep.both → ∀ station, sweep.shown station = sweep.all station
  crossing : ∀ {target goal station instant}, IsLeast sweep.upcoming target → station < goal →
    target ∈ sweep.shown goal → station ∈ sweep.stations → sweep.inside station →
    instant ∈ sweep.shown station → target < instant → target ∉ sweep.shown station →
    sweep.both ∧ (∃ first ∈ sweep.all station, ¬ sweep.ahead first) ∧ ¬ sweep.beyond goal

/-! ## One round -/

section
variable {sweep} {cursor : Cursor} {station : Station} {candidate target : Instant}
  {rounds : ℕ} {best : Option Instant}

theorem offer_eq_some : sweep.offer station = some candidate ↔
    (candidate ∈ sweep.shown station ∧ sweep.ahead candidate) ∧
      ∀ t ∈ sweep.shown station, sweep.ahead t → candidate ≤ t := by
  simp only [offer, List.min?_eq_some_iff, List.mem_filter, and_imp]

theorem not_ahead_of_offer (nothing : sweep.offer station = none) :
    ∀ t ∈ sweep.shown station, ¬ sweep.ahead t := by
  rwa [offer, List.min?_eq_none_iff, List.filter_eq_nil_iff] at nothing

theorem upcoming_of_offer (isStation : station ∈ sweep.stations) (inside : sweep.inside station)
    (offers : sweep.offer station = some candidate) : candidate ∈ sweep.upcoming :=
  ⟨(offer_eq_some.mp offers).1.2, station, isStation, inside, (offer_eq_some.mp offers).1.1⟩

open Classical in
theorem run_offer (inRange : sweep.inRange cursor) (next : sweep.next cursor = some station)
    (inside : sweep.inside station) (offers : sweep.offer station = some candidate) :
    sweep.run (rounds + 1) cursor best =
      if ¬ sweep.both ∨ (sweep.all station).min? = some candidate ∨ sweep.beyond station then
        some (nearest best candidate)
      else sweep.run rounds (sweep.cursorAt station) (some (nearest best candidate)) := by
  rw [run, if_pos inRange]
  simp only [next]
  rw [if_pos inside]
  simp only [offers]

open Classical in
theorem run_no_offer (inRange : sweep.inRange cursor) (next : sweep.next cursor = some station)
    (inside : sweep.inside station) (nothing : sweep.offer station = none) :
    sweep.run (rounds + 1) cursor best =
      if best.isSome ∧ sweep.beyond station then best
      else sweep.run rounds (sweep.cursorAt station) best := by
  rw [run, if_pos inRange]
  simp only [next]
  rw [if_pos inside]
  simp only [nothing]

theorem run_outside (inRange : sweep.inRange cursor) (next : sweep.next cursor = some station)
    (out : ¬ sweep.inside station) : sweep.run (rounds + 1) cursor best = best := by
  rw [run, if_pos inRange]
  simp only [next]
  rw [if_neg out]

theorem run_outOfRange (out : ¬ sweep.inRange cursor) :
    sweep.run (rounds + 1) cursor best = best := by
  rw [run, if_neg out]

theorem run_ranOut (inRange : sweep.inRange cursor) (next : sweep.next cursor = none) :
    sweep.run (rounds + 1) cursor best = none := by
  rw [run, if_pos inRange]
  simp only [next]

end

/-! ## Enumerations that stop -/

section
variable {allowed : Station → Prop} {station : Station}

open Classical in
/-- What an enumeration gives that ends at the first station which is not allowed. -/
noncomputable def stopping (allowed : Station → Prop) (found : Option Station) : Option Station :=
  found.filter allowed

theorem stopping_of (isAllowed : allowed station) :
    stopping allowed (some station) = some station := by
  simp [stopping, isAllowed]

theorem stopping_not (barred : ¬ allowed station) : stopping allowed (some station) = none := by
  simp [stopping, barred]

theorem stopping_eq_some_iff [LinearOrder Station] {stations : Set Station} {found : Option Station}
    (next : ∀ {station}, found = some station ↔ IsLeast stations station)
    (least : stations.Nonempty → ∃ station, IsLeast stations station)
    (lower : ∀ {station other}, station ≤ other → allowed other → allowed station) :
    stopping allowed found = some station ↔
      IsLeast { other | other ∈ stations ∧ allowed other } station := by
  unfold stopping
  simp only [Option.filter_eq_some_iff, next, decide_eq_true_eq]
  constructor
  · rintro ⟨⟨member, first⟩, holds⟩
    exact ⟨⟨member, holds⟩, fun other also => first also.1⟩
  · rintro ⟨⟨member, holds⟩, first⟩
    obtain ⟨sooner, isFirst⟩ := least ⟨station, member⟩
    have bound := isFirst.2 member
    have same := le_antisymm bound (first ⟨isFirst.1, lower bound holds⟩)
    exact ⟨same ▸ isFirst, holds⟩

end

/-! ## The least instant -/

section
variable [LinearOrder Station] {sweep} (lawful : sweep.Lawful) {cursor : Cursor}
  {station goal : Station} {target : Instant}
include lawful

theorem next_none (absent : sweep.next cursor = none) (isStation : station ∈ sweep.stations) :
    ¬ sweep.behind cursor station := by
  intro behind
  obtain ⟨first, isFirst⟩ := lawful.least ⟨station, isStation, behind⟩
  cases absent.symm.trans (lawful.next_eq_some.mpr isFirst)

/-- A station that the sweep ends at. -/
theorem run_ends (rounds : ℕ) (both : sweep.both) (least : IsLeast sweep.upcoming target)
    (next : sweep.next cursor = some station) (inRange : sweep.inRange cursor)
    (ends : sweep.Ends station) : sweep.run (rounds + 1) cursor (some target) = some target := by
  by_cases inside : sweep.inside station
  · cases offers : sweep.offer station with
    | some candidate =>
      have bound := least.2 (upcoming_of_offer (lawful.next_eq_some.mp next).1.1 inside offers)
      have keep : nearest (some target) candidate = target := min_eq_left bound
      rw [run_offer inRange next inside offers, keep, if_pos]
      refine .inr (ends.resolve_left (absurd inside) |>.symm.imp_left ?_)
      rintro ⟨first, isFirst, ahead⟩
      obtain ⟨⟨isShown, _⟩, sooner⟩ := offer_eq_some.mp offers
      rw [List.min?_eq_some_iff, ← lawful.shown_all both] at isFirst ⊢
      exact ⟨isShown, fun t member => (sooner first isFirst.1 ahead).trans (isFirst.2 t member)⟩
    | none =>
      rw [run_no_offer inRange next inside offers, if_pos]
      refine ⟨rfl, (ends.resolve_left (absurd inside)).resolve_right ?_⟩
      rintro ⟨first, isFirst, ahead⟩
      rw [List.min?_eq_some_iff, ← lawful.shown_all both] at isFirst
      exact not_ahead_of_offer offers first isFirst.1 ahead
  · exact run_outside inRange next inside

/-- A station that it goes on at. -/
theorem run_goes_on (rounds : ℕ) (both : sweep.both) (least : IsLeast sweep.upcoming target)
    (next : sweep.next cursor = some station) (inRange : sweep.inRange cursor)
    (goesOn : ¬ sweep.Ends station) :
    sweep.inside station ∧ sweep.run (rounds + 1) cursor (some target) =
      sweep.run rounds (sweep.cursorAt station) (some target) := by
  rw [Ends, not_or, not_or, not_not] at goesOn
  obtain ⟨inside, near, notFirst⟩ := goesOn
  refine ⟨inside, ?_⟩
  cases offers : sweep.offer station with
  | some candidate =>
    have bound := least.2 (upcoming_of_offer (lawful.next_eq_some.mp next).1.1 inside offers)
    have keep : nearest (some target) candidate = target := min_eq_left bound
    rw [run_offer inRange next inside offers, keep, if_neg]
    rintro (single | isFirst | beyond)
    · exact single both
    · exact notFirst ⟨candidate, isFirst, (offer_eq_some.mp offers).1.2⟩
    · exact near beyond
  | none => rw [run_no_offer inRange next inside offers, if_neg fun ends => near ends.2]

variable {rounds : ℕ}

/-- Once the least instant is found, the sweep returns it if it comes to an end before the
stations run out. -/
theorem run_found (both : sweep.both) (least : IsLeast sweep.upcoming target)
    (inside : sweep.inside station) (enough : sweep.rest (sweep.cursorAt station) ≤ rounds) :
    sweep.run rounds (sweep.cursorAt station) (some target) = some target ↔
      ∃ last ∈ sweep.stations, station < last ∧ sweep.Ends last := by
  have inRange := lawful.inRange_cursorAt inside
  induction rounds generalizing station with
  | zero =>
    have some_ := lawful.rest_pos inside
    omega
  | succ rounds ih =>
    cases found : sweep.next (sweep.cursorAt station) with
    | none =>
      rw [run_ranOut inRange found]
      refine iff_of_false nofun ?_
      rintro ⟨last, isStation, ahead, -⟩
      exact next_none lawful found isStation (lawful.behind_cursorAt.mpr ahead)
    | some next =>
      obtain ⟨⟨isStation, behind⟩, first⟩ := lawful.next_eq_some.mp found
      have progress := lawful.behind_cursorAt.mp behind
      by_cases ends : sweep.Ends next
      · rw [run_ends lawful rounds both least found inRange ends]
        exact iff_of_true rfl ⟨next, isStation, progress, ends⟩
      · obtain ⟨inside', onward⟩ := run_goes_on lawful rounds both least found inRange ends
        have shorter := lawful.rest_lt behind
        rw [onward]
        refine (ih inside' (by omega) (lawful.inRange_cursorAt inside')).trans ?_
        constructor
        · rintro ⟨last, isLast, ahead, atLast⟩
          exact ⟨last, isLast, progress.trans ahead, atLast⟩
        · rintro ⟨last, isLast, ahead, atLast⟩
          have bound := first ⟨isLast, lawful.behind_cursorAt.mpr ahead⟩
          refine ⟨last, isLast, lt_of_le_of_ne bound ?_, atLast⟩
          rintro rfl
          exact ends atLast

variable {best : Option Instant}

/-- The round of a station of the least instant does not depend on what is carried. -/
theorem run_at_goal (rounds : ℕ) (least : IsLeast sweep.upcoming target)
    (reaches : target ∈ sweep.shown station) (next : sweep.next cursor = some station)
    (inRange : sweep.inRange cursor) (inside : sweep.inside station)
    (carried : ∀ found ∈ best, target < found) :
    sweep.run (rounds + 1) cursor best = sweep.run (rounds + 1) cursor (some target) ∧
      (¬ sweep.both → sweep.run (rounds + 1) cursor best = some target) := by
  have isStation := (lawful.next_eq_some.mp next).1.1
  have here : sweep.offer station = some target := by
    refine offer_eq_some.mpr ⟨⟨reaches, least.1.1⟩, fun t isShown ahead => ?_⟩
    exact least.2 ⟨ahead, station, isStation, inside, isShown⟩
  have keep : nearest best target = target := by
    cases best with
    | none => rfl
    | some earlier => exact min_eq_right (carried earlier rfl).le
  have same : nearest (some target) target = target := min_self target
  rw [run_offer inRange next inside here, run_offer inRange next inside here, keep, same]
  exact ⟨rfl, fun single => if_pos (.inl single)⟩

/-- Up to the first station of the least instant the sweep does not end: it carries at most
later instants of earlier stations. -/
theorem run_searching (least : IsLeast sweep.upcoming target)
    (isGoal : goal ∈ sweep.stations) (inside : sweep.inside goal)
    (reaches : target ∈ sweep.shown goal)
    (first : ∀ station ∈ sweep.stations, sweep.behind cursor station → station < goal →
      target ∉ sweep.shown station)
    (behind : sweep.behind cursor goal) (enough : sweep.rest cursor ≤ rounds)
    (carried : ∀ found ∈ best, target < found ∧ ¬ sweep.beyond goal) :
    sweep.run rounds cursor best = some target ↔
      (sweep.both → ∃ last ∈ sweep.stations, goal ≤ last ∧ sweep.Ends last) := by
  induction rounds generalizing cursor best with
  | zero =>
    have some_ := lawful.rest_pos inside
    have shorter := lawful.rest_lt behind
    omega
  | succ rounds ih =>
    have inRange := lawful.inRange behind inside
    cases found : sweep.next cursor with
    | none => exact absurd behind (next_none lawful found isGoal)
    | some next =>
      obtain ⟨⟨isStation, ahead⟩, upTo⟩ := lawful.next_eq_some.mp found
      have shorter := lawful.rest_lt ahead
      have bound := upTo ⟨isGoal, behind⟩
      have insideNext := lawful.inside_mono bound inside
      rcases bound.lt_or_eq with early | rfl
      · -- An earlier station: the overlap is not left and no first instant is found.
        have continues : ∀ best' : Option Instant,
            (∀ found ∈ best', target < found ∧ ¬ sweep.beyond goal) →
            (sweep.run rounds (sweep.cursorAt next) best' = some target ↔
              (sweep.both → ∃ last ∈ sweep.stations, goal ≤ last ∧ sweep.Ends last)) := by
          intro best' carried'
          refine ih ?_ (lawful.behind_cursorAt.mpr early) (by omega) carried'
          intro station isOther after sooner
          have later := (lawful.behind_cursorAt.mp after).le
          exact first station isOther (lawful.behind_mono ahead later) sooner
        have other := first next isStation ahead early
        cases offers : sweep.offer next with
        | some candidate =>
          obtain ⟨⟨isShown, after⟩, _⟩ := offer_eq_some.mp offers
          have late : target < candidate := by
            refine lt_of_le_of_ne (least.2 (upcoming_of_offer isStation insideNext offers)) ?_
            rintro rfl
            exact other isShown
          obtain ⟨both, ⟨gone, inAll, passed⟩, near⟩ :=
            lawful.crossing least early reaches isStation insideNext isShown late other
          rw [run_offer inRange found insideNext offers, if_neg]
          · refine continues _ ?_
            intro merged isMerged
            cases isMerged
            rcases nearest_choice best candidate with old | new
            · exact carried _ old
            · rw [new]
              exact ⟨late, near⟩
          · rintro (single | isFirst | beyond)
            · exact single both
            · have sooner := (List.min?_eq_some_iff.mp isFirst).2 gone inAll
              exact passed (lawful.ahead_mono sooner after)
            · exact near (lawful.beyond_mono early.le beyond)
        | none =>
          rw [run_no_offer inRange found insideNext offers, if_neg]
          · exact continues _ carried
          · rintro ⟨some_, beyond⟩
            obtain ⟨earlier, isBest⟩ := Option.isSome_iff_exists.mp some_
            exact (carried earlier isBest).2 (lawful.beyond_mono early.le beyond)
      · -- The station of the least instant.
        obtain ⟨same, single⟩ := run_at_goal lawful rounds least reaches found inRange insideNext
          fun found member => (carried found member).1
        by_cases both : sweep.both
        · rw [same]
          by_cases ends : sweep.Ends next
          · rw [run_ends lawful rounds both least found inRange ends]
            exact iff_of_true rfl fun _ => ⟨next, isStation, le_rfl, ends⟩
          · obtain ⟨_, onward⟩ := run_goes_on lawful rounds both least found inRange ends
            rw [onward]
            refine (run_found lawful both least insideNext (by omega)).trans ?_
            rw [forall_prop_of_true both]
            constructor
            · rintro ⟨last, isLast, ahead, atLast⟩
              exact ⟨last, isLast, ahead.le, atLast⟩
            · rintro ⟨last, isLast, ahead, atLast⟩
              refine ⟨last, isLast, lt_of_le_of_ne ahead ?_, atLast⟩
              rintro rfl
              exact ends atLast
        · exact iff_of_true (single both) fun also => absurd also both

/-- An end of the sweep before a station of the least instant is one at that station. -/
theorem ends_of_earlier (least : IsLeast sweep.upcoming target) (both : sweep.both)
    (inside : sweep.inside goal) (reaches : target ∈ sweep.shown goal)
    (isStation : station ∈ sweep.stations) (other : target ∉ sweep.shown station)
    (earlier : station < goal) (ends : sweep.Ends station) : sweep.Ends goal := by
  have inside' := lawful.inside_mono earlier.le inside
  rcases ends with out | beyond | ⟨first, isFirst, ahead⟩
  · exact absurd inside' out
  · exact .inr (.inl (lawful.beyond_mono earlier.le beyond))
  · obtain ⟨inAll, sooner⟩ := List.min?_eq_some_iff.mp isFirst
    rw [← lawful.shown_all both] at inAll
    have late : target < first := by
      refine lt_of_le_of_ne (least.2 ⟨ahead, station, isStation, inside', inAll⟩) ?_
      rintro rfl
      exact other inAll
    obtain ⟨_, ⟨gone, isPassed, passed⟩, _⟩ :=
      lawful.crossing least earlier reaches isStation inside' inAll late other
    exact absurd (lawful.ahead_mono (sooner gone isPassed) ahead) passed

/-- What the sweep returns is carried or shown at a station after its cursor. -/
theorem run_sound (returns : sweep.run rounds cursor best = some target) :
    target ∈ best ∨ sweep.Shows cursor target := by
  induction rounds generalizing cursor best with
  | zero => exact .inl (lawful.spent returns)
  | succ rounds ih =>
    by_cases inRange : sweep.inRange cursor
    · cases found : sweep.next cursor with
      | none =>
        rw [run_ranOut inRange found] at returns
        cases returns
      | some next =>
        obtain ⟨⟨isStation, ahead⟩, -⟩ := lawful.next_eq_some.mp found
        by_cases inside : sweep.inside next
        · have later : ∀ best', sweep.run rounds (sweep.cursorAt next) best' = some target →
              target ∈ best' ∨ sweep.Shows cursor target := by
            intro best' also
            refine (ih also).imp_right ?_
            rintro ⟨station, reached, after⟩
            exact ⟨station, reached, lawful.behind_mono ahead (lawful.behind_cursorAt.mp after).le⟩
          cases offers : sweep.offer next with
          | some candidate =>
            have kept : target ∈ some (nearest best candidate) →
                target ∈ best ∨ sweep.Shows cursor target := by
              intro isNearest
              cases isNearest
              refine (nearest_choice best candidate).imp_right fun new => ?_
              rw [new]
              exact ⟨next, ⟨isStation, inside, (offer_eq_some.mp offers).1.1⟩, ahead⟩
            rw [run_offer inRange found inside offers] at returns
            split at returns
            · exact kept returns
            · exact (later _ returns).elim kept .inr
          | none =>
            rw [run_no_offer inRange found inside offers] at returns
            split at returns
            · exact .inl returns
            · exact later _ returns
        · rw [run_outside inRange found inside] at returns
          exact .inl returns
    · rw [run_outOfRange inRange] at returns
      exact .inl returns

/-- A sweep returns an instant that none is before exactly if it starts before a station of it
and, where every station shows all, meets an end. -/
theorem run_eq_iff (ahead : sweep.ahead target) (bound : target ∈ lowerBounds sweep.upcoming)
    (enough : sweep.rest cursor ≤ rounds) :
    sweep.run rounds cursor none = some target ↔ sweep.Shows cursor target ∧
      (sweep.both → ∃ last ∈ sweep.stations, sweep.behind cursor last ∧ sweep.Ends last) := by
  by_cases starts : sweep.Shows cursor target
  · obtain ⟨goal, ⟨⟨isGoal, inside, reaches⟩, behind⟩, first⟩ := lawful.least starts
    have least : IsLeast sweep.upcoming target := ⟨⟨ahead, goal, isGoal, inside, reaches⟩, bound⟩
    have notBefore : ∀ station ∈ sweep.stations, sweep.behind cursor station → station < goal →
        target ∉ sweep.shown station := by
      intro station isStation after sooner also
      have bound := first ⟨⟨isStation, lawful.inside_mono sooner.le inside, also⟩, after⟩
      exact absurd bound (not_le.mpr sooner)
    rw [run_searching lawful least isGoal inside reaches notBefore behind enough
      (fun found absent => by cases absent), and_iff_right starts]
    refine forall_congr' fun both => ?_
    constructor
    · rintro ⟨last, isLast, ahead, ends⟩
      exact ⟨last, isLast, lawful.behind_mono behind ahead, ends⟩
    · rintro ⟨last, isLast, after, ends⟩
      rcases le_or_gt goal last with ahead | sooner
      · exact ⟨last, isLast, ahead, ends⟩
      · exact ⟨goal, isGoal, le_rfl, ends_of_earlier lawful least both inside reaches isLast
          (notBefore last isLast after sooner) sooner ends⟩
  · refine iff_of_false (fun returns => ?_) fun both => starts both.1
    rcases run_sound lawful returns with absent | reached
    · cases absent
    · exact starts reached

end

end Sweep

end Copilotd.Base.Sweeps
