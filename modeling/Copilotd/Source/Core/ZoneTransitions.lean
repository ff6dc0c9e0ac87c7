import Copilotd.Base.LocalClock
import Copilotd.Source.Core.ScheduleTime

/-!
# Zones given by their transitions

Source: `core/schedule_time.py` (`_transition_window`, which looks at the offset every six
hours) and the documented behaviour of `zoneinfo` (PEP 495).  The transitions of a zone are
further apart than the two jumps of the clock and six hours; a zone whose clock never changes
has none.  `datetime` bounds every offset by a day.
-/
namespace Copilotd.Source.Core.ScheduleTime

open Base.LocalClock

/-- `range(-48, 49, 6)`, in seconds. -/
def probeStep : ℤ := 6 * 3600

structure ZoneTransitions where
  initial : ℤ
  turns : List Transition
  apart : Settles probeStep initial turns
  bounded : ∀ offset ∈ initial :: turns.map Transition.offset, |offset| < 86400

def ZoneTransitions.zone (transitions : ZoneTransitions) : ZoneInfo where
  utcoffset := offsetAt transitions.initial transitions.turns
  wallOffset fold := foldOffset fold transitions.initial transitions.turns
  folds := transitions.apart.folds (by decide)
  setback := by
    intro t u before back
    obtain ⟨turn, after, upTo, first, second⟩ :=
      transitions.apart.setback (by decide) before back
    have step : (0 : ℚ) ≤ probeStep := by exact_mod_cast (by decide : (0 : ℤ) ≤ probeStep)
    refine ⟨turn, after, upTo, ?_, ?_⟩
    · exact fun v low high => first v (by linarith) high
    · exact fun v low high => second v low (by linarith)

end Copilotd.Source.Core.ScheduleTime
