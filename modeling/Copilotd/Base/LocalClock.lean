import Mathlib.Data.Rat.Floor

/-!
# Clocks that are set forward and back

A local clock shows an instant plus an offset, and the offset changes at transitions.
Transitions are apart if the clock settles in between: for longer than both of their jumps
and a margin.  Then a reading is shown twice only around one transition that sets the clock
back, and is not shown at all only at one transition that sets it forward.
-/
namespace Copilotd.Base.LocalClock

structure Transition where
  instant : ℤ
  /-- The offset from the transition on. -/
  offset : ℤ

/-- The offset in force at an instant. -/
def offsetAt (initial : ℤ) : List Transition → ℚ → ℤ
  | [], _ => initial
  | turn :: later, t => if t < turn.instant then initial else offsetAt turn.offset later t

/-- The offset that a reading is taken at.  Of the two of a transition, a reading that is
shown twice has the earlier one without `fold`, and one that is not shown has the earlier one
as well. -/
def foldOffset (fold : Bool) (initial : ℤ) : List Transition → ℚ → ℤ
  | [], _ => initial
  | turn :: later, reading =>
    let shown := if fold then min initial turn.offset else max initial turn.offset
    if reading < turn.instant + shown then initial else foldOffset fold turn.offset later reading

/-- After a jump at `since` every transition is further away than the two jumps and a margin. -/
def Apart (margin since jump initial : ℤ) : List Transition → Prop
  | [] => True
  | turn :: later =>
    since + jump + |turn.offset - initial| + margin < turn.instant ∧
      Apart margin turn.instant |turn.offset - initial| turn.offset later

/-- The transitions of a clock are apart. -/
def Settles (margin initial : ℤ) : List Transition → Prop
  | [] => True
  | turn :: later => Apart margin turn.instant |turn.offset - initial| turn.offset later

/-- Long before its transitions a clock has not jumped. -/
theorem Settles.apart {margin initial : ℤ} {turns : List Transition}
    (settles : Settles margin initial turns) (t : ℚ) :
    ∃ since : ℤ, since ≤ t ∧ Apart margin since 0 initial turns := by
  cases turns with
  | nil => exact ⟨⌊t⌋, Int.floor_le t, trivial⟩
  | cons turn later =>
    refine ⟨min ⌊t⌋ (turn.instant - |turn.offset - initial| - margin - 1), ?_, ?_, settles⟩
    · exact le_trans (by exact_mod_cast min_le_left ..) (Int.floor_le t)
    · have := min_le_right ⌊t⌋ (turn.instant - |turn.offset - initial| - margin - 1)
      omega

variable {margin since jump initial : ℤ} {turns : List Transition} {t u v reading : ℚ}

variable {turn : Transition}

theorem offsetAt_of_lt (later : List Transition) (before : t < turn.instant) :
    offsetAt initial (turn :: later) t = initial := if_pos before

theorem offsetAt_of_le (later : List Transition) (after : turn.instant ≤ t) :
    offsetAt initial (turn :: later) t = offsetAt turn.offset later t := if_neg (not_lt.mpr after)

/-- What a transition is away from the one before it, in rational numbers. -/
theorem Apart.gap {later : List Transition}
    (apart : Apart margin since jump initial (turn :: later)) :
    (since : ℚ) + jump + |(turn.offset : ℚ) - initial| + margin < turn.instant := by
  exact_mod_cast apart.1

/-- From a transition on the clock does not go back behind its reading there. -/
theorem Apart.reading_le (apart : Apart margin since jump initial turns) (positive : 0 ≤ margin)
    (jumped : 0 ≤ jump) (after : since ≤ t) : since + initial ≤ t + offsetAt initial turns t := by
  induction turns generalizing since jump initial with
  | nil => simpa [offsetAt] using after
  | cons turn later ih =>
    rcases lt_or_ge t turn.instant with before | onward
    · rw [offsetAt_of_lt later before]
      linarith
    · rw [offsetAt_of_le later onward]
      have tail := ih apart.2 (abs_nonneg _) onward
      have away := apart.gap
      have step := neg_abs_le ((turn.offset : ℚ) - initial)
      have margin' : (0 : ℚ) ≤ margin := by exact_mod_cast positive
      have jump' : (0 : ℚ) ≤ jump := by exact_mod_cast jumped
      linarith

/-- Until the next transition the offset stays, and from there on the reading is later than
any that the jump can reach. -/
theorem Apart.later_reading {later : List Transition}
    (apart : Apart margin since jump initial (turn :: later)) (positive : 0 ≤ margin)
    (after : turn.instant ≤ t) :
    since + jump + initial + margin < t + offsetAt initial (turn :: later) t := by
  rw [offsetAt_of_le later after]
  have tail := apart.2.reading_le positive (abs_nonneg _) after
  have away := apart.gap
  have step := neg_abs_le ((turn.offset : ℚ) - initial)
  linarith

/-- Soon after a transition the offset is the one it set. -/
theorem Apart.offset_soon (apart : Apart margin since jump initial turns)
    (soon : v ≤ since + jump + margin) : offsetAt initial turns v = initial := by
  cases turns with
  | nil => rfl
  | cons turn later =>
    refine offsetAt_of_lt later ?_
    have away := apart.gap
    have step := abs_nonneg ((turn.offset : ℚ) - initial)
    linarith

/-- A clock that goes back between two instants is set back once, and has the offset of either
instant around the transition, by the margin and further. -/
theorem Apart.setback (apart : Apart margin since jump initial turns) (positive : 0 ≤ margin)
    (jumped : 0 ≤ jump) (from_ : since ≤ t) (before : t < u)
    (back : u + offsetAt initial turns u ≤ t + offsetAt initial turns t) :
    ∃ turn : ℚ, t < turn ∧ turn ≤ u ∧
      since ≤ u + offsetAt initial turns u - offsetAt initial turns t - margin ∧
      (∀ v, u + offsetAt initial turns u - offsetAt initial turns t - margin ≤ v → v < turn →
        offsetAt initial turns v = offsetAt initial turns t) ∧
      (∀ v, turn ≤ v → v ≤ t + offsetAt initial turns t - offsetAt initial turns u + margin →
        offsetAt initial turns v = offsetAt initial turns u) := by
  have margin' : (0 : ℚ) ≤ margin := by exact_mod_cast positive
  induction turns generalizing since jump initial with
  | nil =>
    unfold offsetAt at back
    linarith
  | cons turn later ih =>
    have jump' : (0 : ℚ) ≤ jump := by exact_mod_cast jumped
    have away := apart.gap
    have size := abs_nonneg ((turn.offset : ℚ) - initial)
    rcases lt_or_ge t turn.instant with early | late
    · rcases lt_or_ge u turn.instant with alsoEarly | across
      · rw [offsetAt_of_lt later early, offsetAt_of_lt later alsoEarly] at back
        linarith
      · -- The transition lies between the two instants, and no other does.
        have own : offsetAt initial (turn :: later) t = initial := offsetAt_of_lt later early
        have offset : offsetAt turn.offset later u = turn.offset := by
          cases later with
          | nil => rfl
          | cons next rest =>
            refine offsetAt_of_lt rest ?_
            by_contra beyond
            have high := apart.2.later_reading positive (not_lt.mp beyond)
            rw [offsetAt_of_le _ across, own] at back
            have step := neg_abs_le ((turn.offset : ℚ) - initial)
            push_cast at high
            linarith
        rw [offsetAt_of_le later across, offset, own] at back ⊢
        have step := neg_abs_le ((turn.offset : ℚ) - initial)
        refine ⟨turn.instant, early, across, by linarith, ?_, ?_⟩
        · intro v _ upTo
          exact offsetAt_of_lt later upTo
        · intro v onward upTo
          rw [offsetAt_of_le later onward]
          refine apart.2.offset_soon ?_
          push_cast
          linarith
    · have lateToo := late.trans before.le
      rw [offsetAt_of_le later late, offsetAt_of_le later lateToo] at back ⊢
      obtain ⟨at_, after, upTo, low, first, second⟩ :=
        ih apart.2 (abs_nonneg _) late back
      refine ⟨at_, after, upTo, by linarith, ?_, ?_⟩
      · intro v from_ until_
        rw [offsetAt_of_le later (by linarith)]
        exact first v from_ until_
      · intro v from_ until_
        rw [offsetAt_of_le later (by linarith)]
        exact second v from_ until_

/-- Early enough after a transition both folds of a reading are at the offset it set. -/
theorem Apart.foldOffset_soon (apart : Apart margin since jump initial turns)
    (positive : 0 ≤ margin) (soon : reading < since + jump + initial) (fold : Bool) :
    foldOffset fold initial turns reading = initial := by
  cases turns with
  | nil => rfl
  | cons turn later =>
    have away := apart.gap
    have margin' : (0 : ℚ) ≤ margin := by exact_mod_cast positive
    have step := neg_abs_le ((turn.offset : ℚ) - initial)
    have size := abs_nonneg ((turn.offset : ℚ) - initial)
    refine if_pos ?_
    cases fold with
    | true =>
      rw [if_pos rfl]
      push_cast
      rcases min_choice (initial : ℚ) turn.offset with least | least
      · rw [least]
        linarith
      · rw [least]
        linarith
    | false =>
      rw [if_neg Bool.false_ne_true]
      push_cast
      have most := le_max_left (initial : ℚ) turn.offset
      linarith

/-- One of the two folds of a reading leads back to the instant. -/
theorem Apart.folds (apart : Apart margin since jump initial turns) (positive : 0 ≤ margin)
    (after : since ≤ t) : ∃ fold, foldOffset fold initial turns (t + offsetAt initial turns t) =
      offsetAt initial turns t := by
  have margin' : (0 : ℚ) ≤ margin := by exact_mod_cast positive
  induction turns generalizing since jump initial with
  | nil => exact ⟨false, rfl⟩
  | cons turn later ih =>
    rcases lt_or_ge t turn.instant with early | late
    · refine ⟨false, ?_⟩
      rw [offsetAt_of_lt later early]
      refine if_pos ?_
      rw [if_neg Bool.false_ne_true]
      push_cast
      have most := le_max_left (initial : ℚ) turn.offset
      linarith
    · rw [offsetAt_of_le later late]
      have low := apart.2.reading_le positive (abs_nonneg _) late
      have passes : ∀ fold : Bool, (turn.instant : ℚ) +
            (if fold then min initial turn.offset else max initial turn.offset : ℤ) ≤
            t + offsetAt turn.offset later t →
          foldOffset fold initial (turn :: later) (t + offsetAt turn.offset later t) =
            foldOffset fold turn.offset later (t + offsetAt turn.offset later t) :=
        fun fold passed => if_neg (not_lt.mpr passed)
      by_cases passed : (turn.instant : ℚ) + max (initial : ℚ) turn.offset ≤
          t + offsetAt turn.offset later t
      · obtain ⟨fold, same⟩ := ih apart.2 late
        refine ⟨fold, (passes fold ?_).trans same⟩
        have least : min (initial : ℚ) turn.offset ≤ max (initial : ℚ) turn.offset :=
          min_le_max
        cases fold with
        | true =>
          rw [if_pos rfl]
          push_cast
          linarith
        | false =>
          rw [if_neg Bool.false_ne_true]
          push_cast
          exact passed
      · -- The reading was shown before, and the next transition is far.
        have most :
          max (initial : ℚ) turn.offset ≤ turn.offset + |(turn.offset : ℚ) - initial| := by
          have step := neg_abs_le ((turn.offset : ℚ) - initial)
          have size := abs_nonneg ((turn.offset : ℚ) - initial)
          exact max_le (by linarith) (by linarith)
        have near : t + offsetAt turn.offset later t <
            turn.instant + (|turn.offset - initial| : ℤ) + turn.offset := by
          push_cast
          linarith
        have soon := apart.2.foldOffset_soon positive near true
        refine ⟨true, (passes true ?_).trans (soon.trans ?_)⟩
        · rw [if_pos rfl]
          push_cast
          have least := min_le_right (initial : ℚ) turn.offset
          linarith
        · symm
          cases later with
          | nil => rfl
          | cons next rest =>
            refine offsetAt_of_lt rest ?_
            by_contra beyond
            have high := apart.2.later_reading positive (not_lt.mp beyond)
            push_cast at high
            linarith

/-- A transition that sets the clock forward past a reading. -/
structure Skips (margin initial : ℤ) (turns : List Transition) (reading : ℚ)
    (turn before after : ℤ) : Prop where
  offsets : before ∈ initial :: turns.map Transition.offset ∧
    after ∈ initial :: turns.map Transition.offset
  low : turn + before ≤ reading
  high : reading < turn + after
  taken : foldOffset false initial turns reading = before
  offsetBefore : ∀ v : ℚ, turn - margin ≤ v → v < turn → offsetAt initial turns v = before
  offsetAfter : ∀ v : ℚ, turn ≤ v → v ≤ turn + (after - before) + margin →
    offsetAt initial turns v = after

theorem Apart.skips (apart : Apart margin since jump initial turns) (positive : 0 ≤ margin)
    (jumped : 0 ≤ jump) (from_ : since + initial ≤ reading)
    (unshown : ∀ t : ℚ, since ≤ t → t + offsetAt initial turns t ≠ reading) :
    ∃ turn before after, Skips margin initial turns reading turn before after ∧
      (since : ℚ) + margin ≤ turn := by
  induction turns generalizing since jump initial with
  | nil =>
    refine absurd ?_ (unshown (reading - initial) (by linarith))
    unfold offsetAt
    ring
  | cons turn later ih =>
    have jump' : (0 : ℚ) ≤ jump := by exact_mod_cast jumped
    have margin' : (0 : ℚ) ≤ margin := by exact_mod_cast positive
    have away := apart.gap
    have size := abs_nonneg ((turn.offset : ℚ) - initial)
    have passed : turn.instant + initial ≤ reading := by
      by_contra early
      refine unshown (reading - initial) (by linarith) ?_
      rw [offsetAt_of_lt later (by linarith)]
      ring
    by_cases inside : reading < turn.instant + turn.offset
    · refine ⟨turn.instant, initial, turn.offset, ?_, by linarith⟩
      constructor
      · simp
      · exact passed
      · exact inside
      · refine if_pos ?_
        rw [if_neg Bool.false_ne_true]
        push_cast
        have most := le_max_right (initial : ℚ) turn.offset
        linarith
      · exact fun v _ upTo => offsetAt_of_lt later upTo
      · intro v onward upTo
        rw [offsetAt_of_le later onward]
        refine apart.2.offset_soon ?_
        push_cast
        have forward := le_abs_self ((turn.offset : ℚ) - initial)
        linarith
    · have tail : ∀ t : ℚ, turn.instant ≤ t → t + offsetAt turn.offset later t ≠ reading := by
        intro t onward
        rw [← offsetAt_of_le later onward]
        exact unshown t (by linarith)
      obtain ⟨next, before, after, skips, far⟩ :=
        ih apart.2 (abs_nonneg _) (not_lt.mp inside) tail
      refine ⟨next, before, after, ?_, by linarith⟩
      constructor
      · rw [List.map_cons]
        exact ⟨List.mem_cons_of_mem _ skips.offsets.1, List.mem_cons_of_mem _ skips.offsets.2⟩
      · exact skips.low
      · exact skips.high
      · refine (if_neg ?_).trans skips.taken
        rw [if_neg Bool.false_ne_true, not_lt]
        push_cast
        rcases max_choice (initial : ℚ) turn.offset with most | most
        · rw [most]
          exact passed
        · rw [most]
          exact not_lt.mp inside
      · intro v onward upTo
        rw [offsetAt_of_le later (by linarith)]
        exact skips.offsetBefore v onward upTo
      · intro v onward upTo
        rw [offsetAt_of_le later (by linarith)]
        exact skips.offsetAfter v onward upTo

/-! ## Clocks as a whole -/

theorem Settles.folds (settles : Settles margin initial turns) (positive : 0 ≤ margin) (t : ℚ) :
    ∃ fold, foldOffset fold initial turns (t + offsetAt initial turns t) =
      offsetAt initial turns t := by
  obtain ⟨since, early, apart⟩ := settles.apart t
  exact apart.folds positive early

theorem Settles.setback (settles : Settles margin initial turns) (positive : 0 ≤ margin)
    (before : t < u)
    (back : u + offsetAt initial turns u ≤ t + offsetAt initial turns t) :
    ∃ turn : ℚ, t < turn ∧ turn ≤ u ∧
      (∀ v, u + offsetAt initial turns u - offsetAt initial turns t - margin ≤ v → v < turn →
        offsetAt initial turns v = offsetAt initial turns t) ∧
      (∀ v, turn ≤ v → v ≤ t + offsetAt initial turns t - offsetAt initial turns u + margin →
        offsetAt initial turns v = offsetAt initial turns u) := by
  obtain ⟨since, early, apart⟩ := settles.apart t
  obtain ⟨turn, after, upTo, -, first, second⟩ := apart.setback positive le_rfl early before back
  exact ⟨turn, after, upTo, first, second⟩

theorem Settles.skips (settles : Settles margin initial turns) (positive : 0 ≤ margin)
    (unshown : ∀ t : ℚ, t + offsetAt initial turns t ≠ reading) :
    ∃ turn before after, Skips margin initial turns reading turn before after := by
  obtain ⟨since, early, apart⟩ := settles.apart (reading - initial)
  obtain ⟨turn, before, after, skips, -⟩ :=
    apart.skips positive le_rfl (by linarith) fun t _ => unshown t
  exact ⟨turn, before, after, skips⟩

end Copilotd.Base.LocalClock
