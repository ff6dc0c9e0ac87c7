import Copilotd.Source.Core.Bindings
import Copilotd.Source.Storage.Leases

/-!
# Calls on a session binding

Source: `core/bindings.py` 344–898, with the lease check of `begin_attachment` and `begin_reattach`
and the snapshots that the other methods take; `storage/leases.py` for the leases.

The row and the effect of each statement on it are those of `Bindings`.  A call is one transaction:
it raises and leaves the row, or it writes.  `activate` and `begin_attachment` also ask whether the
project admits work, which is part of the call.
-/
namespace Copilotd.Source.Core.BindingCalls

open Source.Core.Bindings
open Source.Storage (OwnerLease OwnerLeaseStore isCurrent)

/-- The leases and the row of one session. -/
structure World where
  db : Storage.Database := {}
  row : SessionBinding := {}

/-- The calls; `binding` is the snapshot that the caller holds. -/
inductive Call where
  | beginAttachment (lease : OwnerLease) (state : Beginning) (now : ℚ) (admitted : Bool)
  | beginReattach (lease : OwnerLease) (now : ℚ)
  | markAttached (binding : SessionBinding)
  | markAttachedBlocked (binding : SessionBinding)
  | markAttachUnknown (binding : SessionBinding)
  | markOwnerConflict (binding : SessionBinding)
  | resetCancelledAttachment (binding : SessionBinding)
  | markRecoveryUnknown (binding : SessionBinding)
  | invalidatePermissions (binding : SessionBinding)
  | markPermissionsVerified (binding : SessionBinding)
  | beginClose (binding : SessionBinding)
  | finishDisconnect (binding : SessionBinding) (succeeded : Bool)
  | activate (admitted : Bool)
  | acquire (store : OwnerLeaseStore) (sdkSessionId ownerId : String) (now : ℚ)
  | renew (store : OwnerLeaseStore) (lease : OwnerLease) (now : ℚ)
  | release (lease : OwnerLease) (now : ℚ)

/-- The calls of `_transition_attachment`. -/
def Call.transition : Call → Option (Transition × SessionBinding)
  | .markAttached binding => some (.markAttached, binding)
  | .markAttachedBlocked binding => some (.markAttachedBlocked, binding)
  | .markAttachUnknown binding => some (.markAttachUnknown, binding)
  | .markOwnerConflict binding => some (.markOwnerConflict, binding)
  | .resetCancelledAttachment binding => some (.resetCancelledAttachment, binding)
  | .markRecoveryUnknown binding => some (.markRecoveryUnknown, binding)
  | .invalidatePermissions binding => some (.invalidatePermissions binding.attachmentState, binding)
  | .markPermissionsVerified binding => some (.markPermissionsVerified, binding)
  | .finishDisconnect binding succeeded => some (.finishDisconnect succeeded, binding)
  | _ => none

/-- The snapshot of a call that is bound to a generation and a fence. -/
def Call.given : Call → Option SessionBinding
  | .beginClose binding => some binding
  | call => call.transition.map Prod.snd

/-- `_transition_attachment`; a snapshot without a fence token matches no row. -/
def transitionAttachment (row : SessionBinding) (kind : Transition) (binding : SessionBinding) :
    Option SessionBinding :=
  binding.ownerFenceToken.bind fun fence => row.transition kind binding.runtimeGeneration fence

variable (session : String)

/-- The lease is the one that holds the session. -/
def owns (db : Storage.Database) (lease : OwnerLease) (now : ℚ) : Bool :=
  isCurrent db lease now ∧ lease.sdkSessionId = session

/-- The row that a call leaves, unless it raises. -/
def written (w : World) : Call → Option SessionBinding
  | .beginAttachment lease state now admitted =>
    if owns session w.db lease now ∧ admitted then
      w.row.beginAttachment state lease.fenceToken.toNat
    else none
  | .beginReattach lease now =>
    if owns session w.db lease now then w.row.beginReattach lease.fenceToken.toNat else none
  | .beginClose binding =>
    if binding.attachmentState = .attached then
      binding.ownerFenceToken.bind fun fence => w.row.beginClose binding.runtimeGeneration fence
    else none
  | .activate admitted => if admitted then w.row.activate else none
  | call => call.transition.bind fun change => transitionAttachment w.row change.1 change.2

/-- The leases after a call. -/
def leases (db : Storage.Database) : Call → Storage.Database
  | .acquire store sdkSessionId ownerId now =>
    match store.acquire sdkSessionId ownerId now db with
    | .ok (_, after) => after
    | .error _ => db
  | .renew store lease now =>
    match store.renew lease now db with
    | .ok (_, after) => after
    | .error _ => db
  | .release lease now =>
    match OwnerLeaseStore.release lease now db with
    | .ok after => after
    | .error _ => db
  | _ => db

/-- One call. -/
def perform (w : World) (call : Call) : World :=
  { db := leases w.db call, row := (written session w call).getD w.row }

def step (w : World) (call : Call) : Option World := some (perform session w call)

end Copilotd.Source.Core.BindingCalls
