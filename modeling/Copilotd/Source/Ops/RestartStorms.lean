import Mathlib.Algebra.Order.Ring.Rat
import Mathlib.Data.List.Sort

/-!
# `ops/service.py`: `RestartStormStore`

`check_and_record` reads the restart history, filters, sorts and cuts it, and
either suppresses the restart, which leaves the file alone, or rewrites it.  The
lock and the failures of the file system are left out; the text of the file is
taken as the JSON value in it.
-/
namespace Copilotd.Source.Ops.RestartStorms

structure StormDecision where
  suppress : Bool
  count : ℤ
  reason : String

structure RestartStormStore where
  windowSeconds : ℚ
  limit : ℤ
  maxGapSeconds : ℚ

/-- The JSON value in the file. -/
structure Payload where
  schemaVersion : ℤ
  restarts : List ℚ

def read : Option Payload → Except String Payload
  | none => .ok ⟨1, []⟩
  | some payload =>
    if payload.schemaVersion ≠ 1 then .error "unsupported watchdog state schema"
    else .ok payload

/-- The restarts that are neither too old nor too far ahead, sorted. -/
def RestartStormStore.recent (store : RestartStormStore) (restarts : List ℚ) (now : ℚ) : List ℚ :=
  (restarts.filter fun value => -5 ≤ now - value ∧ now - value ≤ store.windowSeconds).insertionSort
    (· ≤ ·)

/-- `if restarts and value - restarts[-1] > self._max_gap_seconds: restarts = []` -/
def RestartStormStore.cut (store : RestartStormStore) (restarts : List ℚ) (value : ℚ) : List ℚ :=
  match restarts.getLast? with
  | some last => if value - last > store.maxGapSeconds then [] else restarts
  | none => restarts

/-- The loop over the recent restarts. -/
def RestartStormStore.unbroken (store : RestartStormStore) (recent : List ℚ) : List ℚ :=
  recent.foldl (fun restarts value => store.cut restarts value ++ [value]) []

/-- The decision and the file that the call leaves. -/
def RestartStormStore.checkAndRecord (store : RestartStormStore) (file : Option Payload) (now : ℚ) :
    StormDecision × Option Payload :=
  match read file with
  | .error error => (⟨true, store.limit, "corrupt restart state: " ++ error⟩, file)
  | .ok payload =>
    let restarts := store.cut (store.unbroken (store.recent payload.restarts now)) now
    if restarts.length ≥ store.limit then
      (⟨true, restarts.length, "restart threshold reached"⟩, file)
    else
      let recorded := restarts ++ [now]
      (⟨false, recorded.length, "restart recorded"⟩, some ⟨1, recorded⟩)

end Copilotd.Source.Ops.RestartStorms
