import Mathlib.Order.Lattice
import Mathlib.Order.Defs.LinearOrder
import Mathlib.Data.List.Basic

/-!
# `core/sessions.py`: `recover_protected_bindings`

The sweep over the protected bindings, with `eager_bindings` and the stored cursor
of `core/bindings.py`.  The rows are the ones of `session_bindings` in the order of
their key; whether a row passes the conditions of the SELECT besides the cursor
(protected, attached or to be attached) is asked anew for every page.  An attempt
is `_eager_resume_one`, which takes every failure down and raises nothing.
-/
namespace Copilotd.Source.Core.ProtectedRecovery

variable {ThreadId : Type*} [LinearOrder ThreadId]

/-- The rows by their key, and which of them are protected when a page is read. -/
structure Bindings (ThreadId : Type*) [LinearOrder ThreadId] where
  threads : List ThreadId
  ascending : threads.Pairwise (· < ·)
  protectedAt : Nat → ThreadId → Bool

/-- `eager_bindings(protected_only=True, ...)` as the given query of the sweep. -/
def eagerBindings (bindings : Bindings ThreadId) (query limit : Nat)
    (afterThreadId throughThreadId : Option ThreadId) : List ThreadId :=
  (bindings.threads.filter fun thread => bindings.protectedAt query thread &&
    afterThreadId.all (· < thread) && throughThreadId.all (thread ≤ ·)).take limit

/-- The local variables of the sweep, the stored cursor and the attempts so far. -/
structure Sweep (ThreadId : Type*) where
  queries : Nat
  afterThreadId : Option ThreadId
  throughThreadId : Option ThreadId
  wrapped : Bool
  cursor : Option ThreadId
  attempts : List ThreadId

/-- One group of a page is attempted, and the cursor is stored behind it. -/
def resumeGroup (sweep : Sweep ThreadId) (group : List ThreadId) : Sweep ThreadId :=
  { sweep with
    attempts := sweep.attempts ++ group
    afterThreadId := group.getLast?
    cursor := group.getLast? }

/-- `for start in range(0, len(bindings), concurrency)` -/
def resumePage (concurrency : Nat) (page : List ThreadId) (sweep : Sweep ThreadId) :
    Sweep ThreadId :=
  (List.range ((page.length + concurrency - 1) / concurrency)).foldl
    (fun sweep index => resumeGroup sweep ((page.drop (index * concurrency)).take concurrency))
    sweep

/-- The `while True` loop, with a bound on its rounds. -/
def sweepPages (bindings : Bindings ThreadId) (pageSize concurrency : Nat)
    (startingCursor : Option ThreadId) : Nat → Sweep ThreadId → Option (Sweep ThreadId)
  | 0, _ => none
  | rounds + 1, sweep =>
    let page := eagerBindings bindings sweep.queries pageSize sweep.afterThreadId
      sweep.throughThreadId
    let sweep := { sweep with queries := sweep.queries + 1 }
    if page.isEmpty then
      if !sweep.wrapped then
        sweepPages bindings pageSize concurrency startingCursor rounds
          { sweep with wrapped := true, afterThreadId := none, throughThreadId := startingCursor }
      else some { sweep with cursor := none }
    else
      sweepPages bindings pageSize concurrency startingCursor rounds
        (resumePage concurrency page sweep)

def recoverProtectedBindings (bindings : Bindings ThreadId) (pageSize concurrency : Nat)
    (cursor : Option ThreadId) (rounds : Nat) : Except String (Option (Sweep ThreadId)) :=
  if pageSize < 1 then .error "protected recovery page size must be positive"
  else if concurrency < 1 then .error "protected recovery concurrency must be positive"
  else .ok (sweepPages bindings pageSize concurrency cursor rounds
    { queries := 0, afterThreadId := cursor, throughThreadId := none, wrapped := cursor.isNone,
      cursor, attempts := [] })

end Copilotd.Source.Core.ProtectedRecovery
