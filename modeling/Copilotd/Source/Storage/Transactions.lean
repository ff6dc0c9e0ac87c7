import Copilotd.Base.Run
import Copilotd.Source.Core.VolatileContent

/-!
# Transactions on the shared connection

Source: `storage/database.py` (`Database.transaction`, `execute`, `fetchone`, `fetchall`,
`_serialized_connection`, `_settle_database_operation`).

The thread of the connection runs the statements in the order in which they were submitted, whether
or not somebody still waits for them.  The connection is in autocommit mode: a transaction is open
from `BEGIN IMMEDIATE` to `COMMIT` or `ROLLBACK`, and a failed statement may have rolled it back.
Opening and closing the database are left out; so are rows and parameters.
-/
namespace Copilotd.Source.Storage.Transactions

open Base.Run (run)
open Source.Core.VolatileContent (Error Codec Program Store exec)

/-! ## The block of a transaction -/

/-- What an operation of the connection reports. -/
inductive Answer where
  | done
  | failed (error : String)
  deriving DecidableEq

def cancelledError : Error := .other "CancelledError"

/-- `isinstance(error, asyncio.CancelledError)`. -/
def isCancelled : Error → Bool
  | .committedCancellation => true
  | .capacity => false
  | .other name => name = "CancelledError"

/-- Why a block rolls back. -/
inductive Cause where
  | body (error : Error)
  | commit (error : String)
  deriving DecidableEq

/-- Where a block is from its `yield` on; `cancellation` is the `caller_cancellation` of the
operation that is being settled. -/
inductive Stage where
  | body
  | committing (cancellation : Bool)
  | rollingBack (cause : Cause) (cancellation : Bool)
  | left (ending : Option Error)
  deriving DecidableEq

inductive Event where
  | bodyEnds (ending : Option Error)
  /-- The task is cancelled while it waits for the shielded operation. -/
  | cancelled
  /-- The operation is over. -/
  | settled (answer : Answer)
  deriving DecidableEq

/-- The exception that leaves the block after a rollback. -/
def rolledBack : Cause → Bool → Error
  | .body error, cancellation =>
    if cancellation && !isCancelled error then cancelledError else error
  | .commit error, _ => .other error

def Stage.next : Stage → Event → Option Stage
  | .body, .bodyEnds none => some (.committing false)
  | .body, .bodyEnds (some error) => some (.rollingBack (.body error) false)
  | .committing _, .cancelled => some (.committing true)
  | .committing cancellation, .settled .done =>
    some (.left (if cancellation then some .committedCancellation else none))
  | .committing _, .settled (.failed error) => some (.rollingBack (.commit error) false)
  | .rollingBack cause _, .cancelled => some (.rollingBack cause true)
  | .rollingBack cause cancellation, .settled .done =>
    some (.left (some (rolledBack cause cancellation)))
  | .rollingBack _ _, .settled (.failed error) => some (.left (some (.other error)))
  | _, _ => none

/-- A block, and whether its commit has taken effect. -/
structure Block where
  stage : Stage := .body
  committed : Bool := false

/-- A commit takes effect exactly if it reports success. -/
def Block.step (block : Block) (event : Event) : Option Block :=
  (block.stage.next event).map fun stage =>
    { stage
      committed := block.committed ||
        match block.stage, event with
        | .committing _, .settled .done => true
        | _, _ => false }

/-- `with content_store.transaction(): async with database.transaction()`, once the transaction has
begun: the store after it, the exception that leaves it and whether SQLite has committed. -/
def coupled {V : Type} (codec : Codec V) (body : Program V) (store : Store V)
    (events : List Event) : Option (Store V × Option Error × Bool) :=
  let (after, ending) := exec codec body store.begin
  match run Block.step {} (.bodyEnds ending :: events) with
  | some { stage := .left ending, committed } => some (after.finish ending, ending, committed)
  | _ => none

/-! ## The connection -/

inductive Sql where
  | beginImmediate
  | commit
  | rollback
  /-- Any statement that does not control transactions. -/
  | plain

/-- Whether a statement can report `answer` and leave a transaction open or not. -/
def Sql.admits (openBefore : Bool) (answer : Answer) (openAfter : Bool) : Sql → Bool
  | .beginImmediate =>
    match answer with
    | .done => !openBefore && openAfter
    | .failed _ => openAfter = openBefore
  | .commit | .rollback =>
    match answer with
    | .done => !openAfter
    | .failed _ => !openAfter || openBefore
  | .plain => !openAfter || openBefore

/-- `transaction`, or `execute`, `execute_count`, `fetchone` and `fetchall`. -/
inductive Use where
  | transaction
  | statement
  deriving DecidableEq

inductive Task where
  | idle
  /-- It waits for `_transaction_lock`. -/
  | waiting (use : Use)
  /-- It is in `_serialized_connection` and holds the lock. -/
  | serialized
  /-- It waits for its `BEGIN IMMEDIATE`. -/
  | beginning (ticket : Nat)
  /-- It is in its block; the ticket is that of the operation that is being settled. -/
  | inBlock (stage : Stage) (ticket : Option Nat)
  deriving DecidableEq

structure World where
  /-- The task that holds `_transaction_lock`. -/
  lock : Option Nat := none
  /-- `_transaction_owner`. -/
  transactionOwner : Option Nat := none
  openTransaction : Bool := false
  /-- The statements that the thread has not run, oldest first. -/
  queue : List (Nat × Sql) := []
  answers : Nat → Option Answer := fun _ => none
  next : Nat := 0
  tasks : Nat → Task := fun _ => .idle

inductive Label where
  | call (task : Nat) (use : Use)
  | acquire (task : Nat)
  /-- A statement in `_serialized_connection`, or on the connection that the block was given. -/
  | submit (task : Nat)
  /-- `_serialized_connection` is left. -/
  | leave (task : Nat)
  /-- The thread runs the next statement. -/
  | runs (answer : Answer) (openAfter : Bool)
  /-- `BEGIN IMMEDIATE` comes back to the task. -/
  | begun (task : Nat)
  | bodyEnds (task : Nat) (ending : Option Error)
  /-- The task of `_settle_database_operation` submits its operation. -/
  | operates (task : Nat)
  | settled (task : Nat)
  | cancel (task : Nat)
  /-- The task of `_settle_database_operation` is cancelled itself; `task` waits for it. -/
  | cancelOperation (task : Nat)

namespace World

variable (world : World)

def become (task : Nat) (state : Task) : World :=
  { world with tasks := Function.update world.tasks task state }

def submitted (sql : Sql) : World :=
  { world with queue := world.queue ++ [(world.next, sql)], next := world.next + 1 }

/-- The lock is left. -/
def released (task : Nat) : World := { world.become task .idle with lock := none }

/-- The `finally` of `transaction`, and the lock. -/
def ended (task : Nat) : World := { world.released task with transactionOwner := none }

/-- A block has gone on to a stage. -/
def reaches (task : Nat) (stage : Stage) : World :=
  match stage with
  | .left _ => world.ended task
  | _ => world.become task (.inBlock stage none)

def operation : Stage → Option Sql
  | .committing _ => some .commit
  | .rollingBack _ _ => some .rollback
  | .body | .left _ => none

def step : Label → Option World
  | .call task use =>
    match world.tasks task with
    | .idle => some (world.become task (.waiting use))
    | .inBlock .body none =>
      if use = .statement ∧ world.transactionOwner = some task then some (world.submitted .plain)
      else none
    | _ => none
  | .acquire task =>
    match world.tasks task, world.lock with
    | .waiting .transaction, none =>
      some ({ world.submitted .beginImmediate with
        lock := some task, transactionOwner := some task }.become task (.beginning world.next))
    | .waiting .statement, none => some ({ world with lock := some task }.become task .serialized)
    | _, _ => none
  | .submit task =>
    match world.tasks task with
    | .serialized | .inBlock .body none => some (world.submitted .plain)
    | _ => none
  | .leave task =>
    match world.tasks task with
    | .serialized => some (world.released task)
    | _ => none
  | .runs answer openAfter =>
    match world.queue with
    | [] => none
    | (ticket, sql) :: rest =>
      if sql.admits world.openTransaction answer openAfter then
        some { world with
          queue := rest
          openTransaction := openAfter
          answers := Function.update world.answers ticket (some answer) }
      else none
  | .begun task =>
    match world.tasks task with
    | .beginning ticket =>
      match world.answers ticket with
      | some .done => some (world.become task (.inBlock .body none))
      | some (.failed _) => some (world.ended task)
      | none => none
    | _ => none
  | .bodyEnds task ending =>
    match world.tasks task with
    | .inBlock .body none => (Stage.body.next (.bodyEnds ending)).map (world.reaches task)
    | _ => none
  | .operates task =>
    match world.tasks task with
    | .inBlock stage none =>
      (operation stage).map fun sql =>
        (world.submitted sql).become task (.inBlock stage (some world.next))
    | _ => none
  | .settled task =>
    match world.tasks task with
    | .inBlock stage (some ticket) =>
      (world.answers ticket).bind fun answer =>
        (stage.next (.settled answer)).map (world.reaches task)
    | _ => none
  | .cancel task =>
    match world.tasks task with
    | .idle => none
    | .waiting _ => some (world.become task .idle)
    | .serialized => some (world.released task)
    | .beginning _ => some (world.ended task)
    -- The body may let the exception out or go on.
    | .inBlock .body _ => some world
    | .inBlock stage ticket =>
      (stage.next .cancelled).map fun after => world.become task (.inBlock after ticket)
  | .cancelOperation task =>
    -- `task.result()` raises the `CancelledError`; what was submitted stays with the thread.
    match world.tasks task with
    | .inBlock (.committing _) _ =>
      some (world.become task (.inBlock (.rollingBack (.commit "CancelledError") false) none))
    | .inBlock (.rollingBack _ _) _ => some (world.ended task)
    | _ => none

end World

end Copilotd.Source.Storage.Transactions
