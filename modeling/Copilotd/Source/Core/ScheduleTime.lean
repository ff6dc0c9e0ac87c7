import Copilotd.Base.Rounding

/-!
# Schedule times

Source: `core/schedule_time.py` (`ParsedSchedule.next_after`, `latest_due`,
`planned_key`, `_cron_next`, `_cron_previous_or_at`, `_resolve_wall_time`,
`_transition_window`, `_overlap_window`).

Instants and naive wall times are rational seconds: an instant counts from the epoch,
a wall time is the instant plus the offset in force.  `ZoneInfo` and `Croniter` stand
for the two packages, with the behaviour the code relies on as fields; a `Calendar` says
how a timestamp is read and which values have a date, `datetime` itself or the exact
arithmetic in which `ParsedSchedule` is embedded.  Left out: the parsing of the
expression texts, the product of the fraction by a million in `fromtimestamp`, which is
exact but for the first hours around the epoch, and the rounding of `timestamp()` to a
double, which is exact for the whole minutes that are resolved (the length of an overlap
is taken as exact too).
-/
namespace Copilotd.Source.Core.ScheduleTime

open Base.Rounding

/-- `ScheduleTimeError` and its subclasses; the base class carries its message.  The last one
stands for the `ValueError` and the `OverflowError` of `datetime`. -/
inductive ScheduleTimeError where
  | scheduleTime (message : String)
  | nonexistentLocalTime
  | ambiguousLocalTime
  | outOfRange
  deriving DecidableEq

inductive GapPolicy where
  | skip | shiftForward | reject
  deriving DecidableEq

inductive FoldPolicy where
  | both | first | second | reject
  deriving DecidableEq

/-! ## Years -/

/-- The days before a year in the proleptic Gregorian calendar of `datetime`. -/
def daysBeforeYear (year : ℤ) : ℤ :=
  365 * (year - 1) + (year - 1) / 4 - (year - 1) / 100 + (year - 1) / 400

def epochDay : ℤ := 719162

def yearOfDay (day : ℤ) : ℤ :=
  let guess := day * 400 / 146097 + 1
  if day < daysBeforeYear guess then guess - 1
  else if daysBeforeYear (guess + 1) ≤ day then guess + 1
  else guess

/-- `wall.year`. -/
def yearOf (wall : ℚ) : ℤ := yearOfDay (⌊wall / 86400⌋ + epochDay)

/-- The first minute of a year, counted from the epoch. -/
def yearStart (year : ℤ) : ℤ := 1440 * (daysBeforeYear year - epochDay)

theorem yearOfDay_spec (day : ℤ) :
    daysBeforeYear (yearOfDay day) ≤ day ∧ day < daysBeforeYear (yearOfDay day + 1) := by
  unfold yearOfDay daysBeforeYear
  dsimp only
  split
  · constructor <;> omega
  · split
    · constructor <;> omega
    · constructor <;> omega

theorem daysBeforeYear_mono {a b : ℤ} (le : a ≤ b) : daysBeforeYear a ≤ daysBeforeYear b := by
  unfold daysBeforeYear
  omega

theorem lt_yearOf_minute {year minute : ℤ} :
    year < yearOf (60 * minute) ↔ yearStart (year + 1) ≤ minute := by
  have dayOf : ⌊(60 * minute : ℚ) / 86400⌋ = minute / 1440 := by
    rw [show (60 * minute : ℚ) / 86400 = ((minute : ℤ) : ℚ) / ((1440 : ℕ) : ℚ) by push_cast; ring]
    exact_mod_cast Rat.floor_intCast_div_natCast minute 1440
  unfold yearOf
  rw [dayOf]
  obtain ⟨low, high⟩ := yearOfDay_spec (minute / 1440 + epochDay)
  unfold yearStart
  constructor
  · intro later
    have := daysBeforeYear_mono (show year + 1 ≤ yearOfDay (minute / 1440 + epochDay) by omega)
    omega
  · intro start
    by_contra early
    have := daysBeforeYear_mono (show yearOfDay (minute / 1440 + epochDay) + 1 ≤ year + 1 by omega)
    omega

theorem yearOf_mono {a b : ℚ} (le : a ≤ b) : yearOf a ≤ yearOf b := by
  have days : ⌊a / 86400⌋ ≤ ⌊b / 86400⌋ :=
    Int.floor_le_floor (div_le_div_of_nonneg_right le (by norm_num))
  by_contra later
  have low := (yearOfDay_spec (⌊a / 86400⌋ + epochDay)).1
  have high := (yearOfDay_spec (⌊b / 86400⌋ + epochDay)).2
  unfold yearOf at later
  have := daysBeforeYear_mono
    (show yearOfDay (⌊b / 86400⌋ + epochDay) + 1 ≤ yearOfDay (⌊a / 86400⌋ + epochDay) by omega)
  omega

/-! ## Calendars -/

/-- How timestamps become dates. -/
structure Calendar where
  /-- `datetime.fromtimestamp(timestamp, UTC)`. -/
  fromTimestamp : ℚ → ℚ
  /-- Where there is no date `datetime` raises. -/
  dated : ℚ → Bool
  le_fromTimestamp : ∀ {n : ℤ} {timestamp : ℚ}, n ≤ timestamp → n ≤ fromTimestamp timestamp
  fromTimestamp_le : ∀ {n : ℤ} {timestamp : ℚ}, timestamp ≤ n → fromTimestamp timestamp ≤ n

/-- The microsecond a timestamp rounds to, half to even. -/
def microsecond (timestamp : ℚ) : ℤ := roundEven (timestamp * 1000000)

/-- `datetime`: the microseconds of the years 1 to 9999. -/
def datetime : Calendar where
  fromTimestamp timestamp := microsecond timestamp / 1000000
  dated wall := 1 ≤ yearOf wall ∧ yearOf wall ≤ 9999
  le_fromTimestamp := by
    intro n timestamp le
    have whole : n * 1000000 ≤ microsecond timestamp := by
      refine le_roundEven ?_
      push_cast
      linarith
    rw [le_div_iff₀ (by norm_num)]
    exact_mod_cast whole
  fromTimestamp_le := by
    intro n timestamp le
    have whole : microsecond timestamp ≤ n * 1000000 := by
      refine roundEven_le ?_
      push_cast
      linarith
    rw [div_le_iff₀ (by norm_num)]
    exact_mod_cast whole

/-- Exact arithmetic, with a date for every instant. -/
def exactCalendar : Calendar where
  fromTimestamp timestamp := timestamp
  dated _ := true
  le_fromTimestamp le := le
  fromTimestamp_le le := le

/-! ## Zones and cron expressions -/

/-- A time zone, as `zoneinfo` answers for it. -/
structure ZoneInfo where
  /-- `datetime.fromtimestamp(instant, zone).utcoffset()`, in seconds. -/
  utcoffset : ℚ → ℤ
  /-- `wall.replace(tzinfo=zone, fold=fold).utcoffset()`, in seconds. -/
  wallOffset : Bool → ℚ → ℤ
  /-- One of the two folds of the wall time of an instant leads back to the instant. -/
  folds : ∀ t, ∃ fold, wallOffset fold (t + utcoffset t) = utcoffset t
  /-- The clock is set back at isolated instants: where a wall time comes back, one
  transition lies between the two instants and no other is as near as the overlap. -/
  setback : ∀ t u, t < u → u + utcoffset u ≤ t + utcoffset t →
    ∃ turn, t < turn ∧ turn ≤ u ∧
      (∀ v, u + utcoffset u - utcoffset t ≤ v → v < turn → utcoffset v = utcoffset t) ∧
      (∀ v, turn ≤ v → v ≤ t + utcoffset t - utcoffset u → utcoffset v = utcoffset u)

/-- `datetime.fromtimestamp(instant, zone).replace(tzinfo=None)`. -/
def ZoneInfo.wallTime (zone : ZoneInfo) (instant : ℚ) : ℚ := instant + zone.utcoffset instant

/-- `wall.replace(tzinfo=zone, fold=fold).astimezone(UTC)`. -/
def ZoneInfo.toUtc (zone : ZoneInfo) (fold : Bool) (wall : ℚ) : ℚ :=
  wall - zone.wallOffset fold wall

/-- The wall time with `second=0, microsecond=0`. -/
def ZoneInfo.wallMinute (zone : ZoneInfo) (instant : ℚ) : ℚ := 60 * ⌊zone.wallTime instant / 60⌋

/-- A valid five-field expression, as `croniter` enumerates it: `matching` holds the
wall minutes between the years 1 and 9999 that the fields match. -/
structure Croniter where
  matching : Set ℤ
  getNext : ℚ → Option ℤ
  getPrev : ℚ → Option ℤ
  representable : ∀ minute ∈ matching, 1 ≤ yearOf (60 * minute) ∧ yearOf (60 * minute) ≤ 9999
  getNext_eq_some : ∀ {cursor minute}, getNext cursor = some minute ↔
    IsLeast { m | m ∈ matching ∧ cursor < 60 * m } minute
  getPrev_eq_some : ∀ {cursor minute}, getPrev cursor = some minute ↔
    IsGreatest { m | m ∈ matching ∧ 60 * m < cursor } minute

/-! ## Resolving wall times -/

/-- The candidates of `_resolve_wall_time`: the folds whose round trip gives the wall
time back, without duplicates and sorted. -/
def candidates (zone : ZoneInfo) (wall : ℚ) : List ℚ :=
  let first := zone.toUtc false wall
  let second := zone.toUtc true wall
  let found := if zone.wallTime first = wall then [first] else []
  let found := if zone.wallTime second = wall ∧ second ∉ found then found ++ [second] else found
  found.mergeSort

/-- The part of `_resolve_wall_time` that a wall time in no gap takes; an empty list is
what the gap policy `skip` gives. -/
def resolveFold (zone : ZoneInfo) (wall : ℚ) (foldPolicy : FoldPolicy) :
    Except ScheduleTimeError (List ℚ) :=
  match candidates zone wall with
  | [] => .ok []
  | [only] => .ok [only]
  | found =>
    match foldPolicy with
    | .both => .ok found
    | .first => .ok (found.take 1)
    | .second => .ok (found.drop 1)
    | .reject => .error .ambiguousLocalTime

/-- The instants that `_transition_window` looks at. -/
def transitionProbes (aroundUtc : ℚ) : List ℚ :=
  (List.range 17).map fun n : ℕ => aroundUtc + (6 * (n : ℚ) - 48) * 3600

def transitionWindow (zone : ZoneInfo) (aroundUtc : ℚ) : ℚ :=
  let offsets := (transitionProbes aroundUtc).map zone.utcoffset
  let spread := offsets.max?.getD 0 - offsets.min?.getD 0
  if spread = 0 then 0 else spread + 2 * 3600

section

variable (calendar : Calendar) (zone : ZoneInfo)

/-- `datetime.fromtimestamp(instant, zone)` has a date in UTC and in the zone. -/
def Calendar.shows (instant : ℚ) : Bool :=
  calendar.dated instant && calendar.dated (zone.wallTime instant)

/-- The folds of a wall time have dates in UTC, and so have their round trips. -/
def Calendar.converts (wall : ℚ) : Bool :=
  calendar.shows zone (zone.toUtc false wall) && calendar.shows zone (zone.toUtc true wall)

/-- The probing loop of the gap policy `shift_forward`. -/
def shiftForward (foldPolicy : FoldPolicy) : Nat → ℚ → Except ScheduleTimeError (List ℚ)
  | 0, _ => .error .nonexistentLocalTime
  | tries + 1, probe =>
    if calendar.dated (probe + 60) && calendar.converts zone (probe + 60) then do
      let shifted ← resolveFold zone (probe + 60) foldPolicy
      if shifted = [] then shiftForward foldPolicy tries (probe + 60) else .ok shifted
    else .error .outOfRange

def resolveWallTime (wall : ℚ) (gapPolicy : GapPolicy) (foldPolicy : FoldPolicy) :
    Except ScheduleTimeError (List ℚ) :=
  if ¬ calendar.converts zone wall then .error .outOfRange
  else if candidates zone wall = [] then
    match gapPolicy with
    | .skip => .ok []
    | .reject => .error .nonexistentLocalTime
    | .shiftForward =>
      let approximate := zone.toUtc false wall
      if (transitionProbes approximate).all (calendar.shows zone) then
        let searchMinutes := ⌊transitionWindow zone approximate / 60⌋ + 60
        shiftForward calendar zone foldPolicy searchMinutes.toNat wall
      else .error .outOfRange
  else resolveFold zone wall foldPolicy

/-- `_overlap_window`, of an instant as the calendar reads it. -/
def overlapWindow (aroundUtc : ℚ) : ℚ :=
  match candidates zone (zone.wallTime aroundUtc) with
  | [first, second] => second - first
  | _ => 0

end

/-! ## The cron searches -/

/-- What one search of `_cron_next` or `_cron_previous_or_at` keeps fixed. -/
structure Search where
  calendar : Calendar
  cron : Croniter
  zone : ZoneInfo
  /-- `after_utc` or `through_utc`. -/
  instant : ℚ
  gapPolicy : GapPolicy
  foldPolicy : FoldPolicy

/-- The instant as `datetime.fromtimestamp` reads it. -/
def Search.moment (search : Search) : ℚ := search.calendar.fromTimestamp search.instant

/-- `local_after` or `local_through`. -/
def Search.localMinute (search : Search) : ℚ := search.zone.wallMinute search.moment

def Search.window (search : Search) : ℚ := overlapWindow search.zone search.moment

def Search.nextCursor (search : Search) : ℚ := search.localMinute - search.window

def Search.previousCursor (search : Search) : ℚ := search.localMinute + search.window + 60

/-- Whether a search gets to its loop: what comes before it raises where the local time, its
folds or the cursor have no date. -/
def Search.starts (search : Search) (cursor : ℚ) : Bool :=
  search.calendar.shows search.zone search.moment &&
    search.calendar.converts search.zone (search.zone.wallTime search.moment) &&
    search.calendar.dated cursor

def Search.resolve (search : Search) (wall : ℚ) : Except ScheduleTimeError (List ℚ) :=
  resolveWallTime search.calendar search.zone wall search.gapPolicy search.foldPolicy

/-- `all_folds`, and the `possible` instants of an ambiguous wall time. -/
def Search.allFolds (search : Search) (wall : ℚ) : Except ScheduleTimeError (List ℚ) :=
  resolveWallTime search.calendar search.zone wall search.gapPolicy .both

def cronSearchYears : ℤ := 400

def Search.futureHorizon (search : Search) : ℤ :=
  min 9999 (yearOf search.localMinute + cronSearchYears)

def Search.pastHorizon (search : Search) : ℤ :=
  max 1 (yearOf search.localMinute - cronSearchYears)

def noFuture : ScheduleTimeError :=
  .scheduleTime "cron expression has no resolvable future occurrence"

def noPrevious : ScheduleTimeError :=
  .scheduleTime "cron expression has no resolvable previous occurrence"

/-- `candidate if best is None else min(best, candidate)`. -/
def earlierOf (best : Option ℚ) (candidate : ℚ) : ℚ :=
  match best with
  | none => candidate
  | some earlier => min earlier candidate

/-- `candidate if best is None else max(best, candidate)`. -/
def laterOf (best : Option ℚ) (candidate : ℚ) : ℚ :=
  match best with
  | none => candidate
  | some later => max later candidate

/-- The loop of `_cron_next`.  Each round moves the cursor to a later minute, so that
the minutes up to the end of the horizon year bound the number of rounds. -/
def Search.nextLoop (search : Search) : Nat → ℚ → Option ℚ → Except ScheduleTimeError ℚ
  | 0, _, _ => .error noFuture
  | rounds + 1, cursor, best =>
    let finish : Except ScheduleTimeError ℚ :=
      match best with
      | some found => .ok found
      | none => .error noFuture
    if search.futureHorizon < yearOf cursor then finish
    else
      match search.cron.getNext cursor with
      | none => .error noFuture
      | some minute =>
        let wall : ℚ := 60 * minute
        if search.futureHorizon < yearOf wall then finish
        else
          match search.resolve wall with
          | .error .nonexistentLocalTime =>
            if wall < search.localMinute then search.nextLoop rounds wall best
            else .error .nonexistentLocalTime
          | .error .ambiguousLocalTime => do
            let possible ← search.allFolds wall
            if possible.any fun candidate => search.instant < candidate then
              .error .ambiguousLocalTime
            else search.nextLoop rounds wall best
          | .error other => .error other
          | .ok resolved =>
            match (resolved.filter fun candidate => search.instant < candidate).min? with
            | some candidate => do
              let found := earlierOf best candidate
              if search.foldPolicy ≠ .both then .ok found
              else
                let all ← search.allFolds wall
                if all.min? = some candidate then .ok found
                else if search.localMinute + search.window < wall then .ok found
                else search.nextLoop rounds wall (some found)
            | none =>
              match best with
              | some found =>
                if search.localMinute + search.window < wall then .ok found
                else search.nextLoop rounds wall best
              | none => search.nextLoop rounds wall best

/-- `_cron_next` in a calendar. -/
def Search.next (search : Search) : Except ScheduleTimeError ℚ :=
  let cursor := search.nextCursor
  if search.starts cursor then
    search.nextLoop (yearStart (search.futureHorizon + 1) - ⌊cursor / 60⌋).toNat cursor none
  else .error .outOfRange

/-- The loop of `_cron_previous_or_at`. -/
def Search.previousLoop (search : Search) :
    Nat → ℚ → Option ℚ → Except ScheduleTimeError (Option ℚ)
  | 0, _, best => .ok best
  | rounds + 1, cursor, best =>
    if yearOf cursor < search.pastHorizon then .ok best
    else
      match search.cron.getPrev cursor with
      | none => .error noPrevious
      | some minute =>
        let wall : ℚ := 60 * minute
        if yearOf wall < search.pastHorizon then .ok best
        else
          match search.resolve wall with
          | .error .nonexistentLocalTime =>
            if search.localMinute < wall then search.previousLoop rounds wall best
            else .error .nonexistentLocalTime
          | .error .ambiguousLocalTime => do
            let possible ← search.allFolds wall
            if possible.any fun candidate => candidate ≤ search.instant then
              .error .ambiguousLocalTime
            else search.previousLoop rounds wall best
          | .error other => .error other
          | .ok resolved =>
            match (resolved.filter fun candidate => candidate ≤ search.instant).max? with
            | some candidate => do
              let found := laterOf best candidate
              if search.foldPolicy ≠ .both then .ok (some found)
              else
                let all ← search.allFolds wall
                if all.max? = some candidate then .ok (some found)
                else if wall < search.localMinute - search.window then .ok (some found)
                else search.previousLoop rounds wall (some found)
            | none =>
              match best with
              | some found =>
                if wall < search.localMinute - search.window then .ok (some found)
                else search.previousLoop rounds wall best
              | none => search.previousLoop rounds wall best

/-- `_cron_previous_or_at` in a calendar. -/
def Search.previousOrAt (search : Search) : Except ScheduleTimeError (Option ℚ) :=
  let cursor := search.previousCursor
  if search.starts cursor then
    search.previousLoop (⌈cursor / 60⌉ - yearStart search.pastHorizon + 1).toNat cursor none
  else .error .outOfRange

/-- The search that the source runs. -/
def cronSearch (cron : Croniter) (zone : ZoneInfo) (instant : ℚ) (gapPolicy : GapPolicy)
    (foldPolicy : FoldPolicy) : Search :=
  { calendar := datetime, cron, zone, instant, gapPolicy, foldPolicy }

def cronNext (cron : Croniter) (zone : ZoneInfo) (afterUtc : ℚ) (gapPolicy : GapPolicy)
    (foldPolicy : FoldPolicy) : Except ScheduleTimeError ℚ :=
  (cronSearch cron zone afterUtc gapPolicy foldPolicy).next

def cronPreviousOrAt (cron : Croniter) (zone : ZoneInfo) (throughUtc : ℚ) (gapPolicy : GapPolicy)
    (foldPolicy : FoldPolicy) : Except ScheduleTimeError (Option ℚ) :=
  (cronSearch cron zone throughUtc gapPolicy foldPolicy).previousOrAt

/-! ## Parsed schedules -/

/-- The part of `ParsedSchedule` that its kind decides.  `_parse_interval` refuses
durations under one second. -/
inductive Expression where
  | at (atUtc : ℚ)
  | interval (seconds : ℚ) (atLeastOne : 1 ≤ seconds)
  | cron (cron : Croniter) (zone : ZoneInfo)

structure ParsedSchedule where
  expression : Expression
  anchorUtc : ℚ
  gapPolicy : GapPolicy
  foldPolicy : FoldPolicy

/-- `parse_schedule` after the text: the policies it selects when it is given none. -/
def parseSchedule (expression : Expression) (anchorUtc : ℚ) : ParsedSchedule :=
  match expression with
  | .at _ => { expression, anchorUtc, gapPolicy := .reject, foldPolicy := .reject }
  | .interval .. | .cron .. => { expression, anchorUtc, gapPolicy := .skip, foldPolicy := .both }

def exactSearch (cron : Croniter) (zone : ZoneInfo) (instant : ℚ) (gapPolicy : GapPolicy)
    (foldPolicy : FoldPolicy) : Search :=
  { calendar := exactCalendar, cron, zone, instant, gapPolicy, foldPolicy }

/-- `ParsedSchedule.next_after` in exact arithmetic, where the correcting loop of the
interval branch does not run. -/
def ParsedSchedule.nextAfter (parsed : ParsedSchedule) (afterUtc : ℚ) :
    Except ScheduleTimeError (Option ℚ) :=
  match parsed.expression with
  | .at atUtc => .ok (if afterUtc < atUtc then some atUtc else none)
  | .interval seconds _ =>
    let multiplier := max 0 (⌊(afterUtc - parsed.anchorUtc) / seconds⌋ + 1)
    .ok (some (parsed.anchorUtc + multiplier * seconds))
  | .cron cron zone => do
    let next ← (exactSearch cron zone afterUtc parsed.gapPolicy parsed.foldPolicy).next
    .ok (some next)

/-- `ParsedSchedule.latest_due`, also in exact arithmetic. -/
def ParsedSchedule.latestDue (parsed : ParsedSchedule) (firstDueUtc throughUtc : ℚ) :
    Except ScheduleTimeError (Option ℚ) :=
  if throughUtc < firstDueUtc then .ok none
  else
    match parsed.expression with
    | .at atUtc => .ok (if firstDueUtc ≤ atUtc ∧ atUtc ≤ throughUtc then some atUtc else none)
    | .interval seconds _ =>
      let multiplier := ⌊(throughUtc - parsed.anchorUtc) / seconds⌋
      let latest := parsed.anchorUtc + multiplier * seconds
      .ok (if firstDueUtc ≤ latest then some latest else none)
    | .cron cron zone => do
      let latest ← (exactSearch cron zone throughUtc parsed.gapPolicy
        parsed.foldPolicy).previousOrAt
      .ok (latest.filter fun latest => firstDueUtc ≤ latest)

/-- `planned_key`: the text names the microsecond the instant rounds to. -/
def plannedKey (plannedAtUtc : ℚ) : ℤ := microsecond plannedAtUtc

end Copilotd.Source.Core.ScheduleTime
