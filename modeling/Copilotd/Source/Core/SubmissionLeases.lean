import Copilotd.Source.Core.QueueRuntime
import Copilotd.Source.Core.SubmissionRows

/-!
# Liveness leases

Source: the `liveness_leases` statements of `core/reducer.py` (3014–3088, 3175–3190,
3358–3366, 3473–3481, 3558–3576, 3609–3623, 3754–3779, 3833–3850, 3961–3969, 7036–7047,
7401–7424, 8039–8047, 8088–8093, 8112–8138, 8222–8300, 8367–8390, 8736–8743, 8862–8935);
`migrations/0001_initial.sql` 348–363 and `0002_liveness_source_fence.sql`.

The reducer applies the events of one attachment, and every statement of an event is in its
transaction.  Timestamps, which are only written, are left out.  Fleet runs are left out, as in
the tables beside: they have no queue row, and their operation is pending while they are sent.
-/
namespace Copilotd.Source.Core.SubmissionLeases

open Base.Table
open Source.Storage (SubmissionState LivenessState)
open Source.Core.Submissions
open Source.Core.QueueRuntime (cancellableStates)

/-! ## Rows -/

inductive LivenessKind where
  | submission | observedBackground | interaction
  deriving DecidableEq

structure LivenessLease where
  sdkSessionId : String
  leaseId : String
  kind : LivenessKind
  sourceId : String
  runtimeGeneration : Nat
  ownerFenceToken : Nat
  state : LivenessState
  deriving DecidableEq

/-- The `lease_id` that the statements write. -/
def leaseName : LivenessKind → String → String
  | .submission, sourceId => "submission:" ++ sourceId
  | .observedBackground, sourceId => "background:" ++ sourceId
  | .interaction, sourceId => "interaction:" ++ sourceId

/-- The binding's generation and fence, which its events carry. -/
structure Attachment where
  sdkSessionId : String
  runtimeGeneration : Nat
  ownerFenceToken : Nat

/-- The primary key, and `liveness_active_source_idx`. -/
def wellKeyed (leases : List LivenessLease) : Bool :=
  (leases.map fun lease => (lease.sdkSessionId, lease.leaseId)).Nodup ∧
    ((leases.filter (·.state = .active)).map fun lease =>
      (lease.sdkSessionId, lease.kind, lease.sourceId)).Nodup

/-- A statement whose conflicts nothing catches. -/
def checked (leases : List LivenessLease) : Except Failure (List LivenessLease) :=
  if wellKeyed leases then .ok leases else .error .integrity

/-! ## Statements -/

section Statements

variable (attachment : Attachment)

def Attachment.lease (kind : LivenessKind) (sourceId : String) : LivenessLease :=
  { sdkSessionId := attachment.sdkSessionId, leaseId := leaseName kind sourceId, kind, sourceId
    runtimeGeneration := attachment.runtimeGeneration
    ownerFenceToken := attachment.ownerFenceToken, state := .active }

/-- `runtime_generation = ? AND owner_fence_token = ?`. -/
def Attachment.current (lease : LivenessLease) : Bool :=
  lease.runtimeGeneration = attachment.runtimeGeneration ∧
    lease.ownerFenceToken = attachment.ownerFenceToken

/-- The row that `ON CONFLICT(sdk_session_id, lease_id)` finds. -/
def Attachment.conflicts (leaseId : String) (lease : LivenessLease) : Bool :=
  lease.sdkSessionId = attachment.sdkSessionId ∧ lease.leaseId = leaseId

/-- `INSERT … ON CONFLICT DO NOTHING`. -/
def acquireNew (submissionId : String) (leases : List LivenessLease) : List LivenessLease :=
  if wellKeyed (leases ++ [attachment.lease .submission submissionId]) then
    leases ++ [attachment.lease .submission submissionId]
  else leases

/-- `INSERT … ON CONFLICT(sdk_session_id, lease_id) DO UPDATE SET …`. -/
def upsert (kind : LivenessKind) (sourceId : String) (set : LivenessLease → LivenessLease)
    (leases : List LivenessLease) : Except Failure (List LivenessLease) :=
  if leases.any (attachment.conflicts (leaseName kind sourceId)) then
    checked (updateWhere (attachment.conflicts (leaseName kind sourceId)) set leases)
  else checked (leases ++ [attachment.lease kind sourceId])

/-- `… DO UPDATE SET state = 'active', …`. -/
def revive (lease : LivenessLease) : LivenessLease :=
  { lease with
    runtimeGeneration := attachment.runtimeGeneration
    ownerFenceToken := attachment.ownerFenceToken, state := .active }

def activate (kind : LivenessKind) (sourceId : String) (leases : List LivenessLease) :
    Except Failure (List LivenessLease) :=
  upsert attachment kind sourceId (revive attachment) leases

/-- The leases of submissions, whatever generation they are of. -/
def release (listed : String → Bool) (leases : List LivenessLease) : List LivenessLease :=
  updateWhere (fun lease => lease.sdkSessionId = attachment.sdkSessionId ∧
    lease.kind = .submission ∧ listed lease.sourceId ∧ lease.state = .active)
    ({ · with state := .released }) leases

/-- `_release_submission_liveness`, for every submission of a loop. -/
def releaseSubmissionLiveness (listed : String → Bool) (leases : List LivenessLease) :
    List LivenessLease :=
  updateWhere (fun lease => lease.sdkSessionId = attachment.sdkSessionId ∧
    lease.kind = .submission ∧ listed lease.sourceId ∧ lease.state = .active ∧
    attachment.current lease) ({ · with state := .released }) leases

def releaseNamed (leaseId : String) (leases : List LivenessLease) : List LivenessLease :=
  updateWhere (fun lease => attachment.conflicts leaseId lease ∧ attachment.current lease ∧
    lease.state = .active) ({ · with state := .released }) leases

def orphan (leases : List LivenessLease) : List LivenessLease :=
  updateWhere (fun lease => lease.sdkSessionId = attachment.sdkSessionId ∧
    lease.state = .active ∧ attachment.current lease) ({ · with state := .orphaned }) leases

/-- The leases of `submissionId` become those of `runtimeId`, whatever state they are in. -/
def moveLease (submissionId runtimeId : String) (leases : List LivenessLease) :
    Except Failure (List LivenessLease) :=
  checked (updateWhere (fun lease => lease.sdkSessionId = attachment.sdkSessionId ∧
    lease.kind = .submission ∧ lease.sourceId = submissionId)
    (fun lease => { lease with
      leaseId := leaseName .submission runtimeId, sourceId := runtimeId }) leases)

/-- A subagent or a task that was seen to end in this generation stays so. -/
def observeBackground (cardKey : String) (lease : LivenessLease) : LivenessLease :=
  { lease with
    kind := .observedBackground, sourceId := cardKey
    runtimeGeneration := attachment.runtimeGeneration
    ownerFenceToken := attachment.ownerFenceToken
    state := if attachment.current lease ∧ lease.state = .released then .released else .active }

end Statements

/-! ## What each event does to the leases -/

section Events

variable (uuid5 : String → String) (attachment : Attachment)

/-- The statement of `_split_observed_submission`. -/
def splitLeases (submissionId : String) (before : Db) (leases : List LivenessLease) :
    Except Failure (List LivenessLease) :=
  match (before.submissionOf attachment.sdkSessionId submissionId).bind
      (·.observedUserEventId) with
  | none => .ok leases
  | some userEventId => moveLease attachment submissionId
      (runtimeObservedId uuid5 attachment.sdkSessionId userEventId) leases

/-- `copilotd.submission.accepted`; `after` are the tables at the `INSERT … SELECT`. -/
def acceptedLeases (exactMapping : Bool) (submissionId messageId : String) (before after : Db)
    (leases : List LivenessLease) : Except Failure (List LivenessLease) :=
  match before.submissionOf attachment.sdkSessionId submissionId with
  | none => .ok leases
  | some row =>
    if row.state = .rejected then .ok leases
    else
      let provisional :=
        if row.acceptedMessageId = none ∧ row.observedUserEventId.any (· ≠ messageId) ∧
            exactMapping then
          splitLeases uuid5 attachment submissionId before leases
        else .ok leases
      provisional.bind fun leases =>
        if row.acceptedMessageId.any (· ≠ messageId) then .ok leases
        else if (after.submission submissionId).any (·.state = .submitted) then
          activate attachment .submission submissionId leases
        else .ok leases

/-- `copilotd.submission.rejected`. -/
def rejectedLeases (submissionId : String) (before : Db) (leases : List LivenessLease) :
    Except Failure (List LivenessLease) :=
  match before.submissionOf attachment.sdkSessionId submissionId with
  | none => .ok leases
  | some row =>
    if row.state = .rejected ∨ row.acceptedMessageId.isSome then .ok leases
    else
      (splitLeases uuid5 attachment submissionId before leases).bind fun leases =>
        .ok (release attachment (· = submissionId) leases)

/-- The submissions whose loop `session.idle` ends for good. -/
def endsLoop (aborted : Bool) (db : Db) (submissionId : String) : Bool :=
  (db.submissionOf attachment.sdkSessionId submissionId).any fun row =>
    row.state ∈ [.observedActive, .continuationExpected] ∧
      idleState aborted row ∈ [.observedAborted, .semanticBlocked]

/-- `_apply_session_idle`. -/
def idleLeases (aborted : Bool) (receivedAt : ℚ) (before : Db) (leases : List LivenessLease) :
    List LivenessLease :=
  let settled := settleLoops attachment.sdkSessionId aborted receivedAt before
  releaseSubmissionLiveness attachment
    (fun submissionId => (settled.submission submissionId).any
      (uncorrelated attachment.sdkSessionId receivedAt settled))
    (releaseSubmissionLiveness attachment (endsLoop attachment aborted before) leases)

/-- `_reopen_submission_for_task` touches the row. -/
def reopens (submissionId : String) (evidenceTime : ℚ) (db : Db) : Bool :=
  (db.submissionOf attachment.sdkSessionId submissionId).any fun row =>
    row.state = .semanticComplete ∧ row.terminalAt.any (· ≤ evidenceTime)

def replaces (data : ReplacedData) (db : Db) : Bool :=
  (db.item data.oldId).any (·.state ∈ data.allowed) ∧ (db.submission data.oldId).isSome

/-- The lease statements of a handler, over the tables as it finds and leaves them. -/
def applyLeases (event : Event) (before after : Db) (leases : List LivenessLease) :
    Except Failure (List LivenessLease) :=
  match event.body with
  | .queued data =>
    .ok (if data.admitted then acquireNew attachment data.submissionId leases else leases)
  | .cancelQueued submissionIds cancellable =>
    .ok (if submissionIds = [] ∨ cancellable = [] then leases
      else release attachment (· ∈ submissionIds) leases)
  | .queueReplaced data =>
    .ok (if replaces data before then
        acquireNew attachment data.newId (release attachment (· = data.oldId) leases)
      else leases)
  | .activeUnknown => .ok (orphan attachment leases)
  | .accepted submissionId messageId =>
    acceptedLeases uuid5 attachment event.exactMapping submissionId messageId before after leases
  | .acceptanceUnknown submissionId =>
    .ok (if (after.submission submissionId).any (·.evidenced) then leases
      else release attachment (· = submissionId) leases)
  | .rejected submissionId => rejectedLeases uuid5 attachment submissionId before leases
  | .userMessage message =>
    match event.eventId with
    | none => .error .missingEventId
    | some eventId =>
      activate attachment .submission
        (messageTarget uuid5 event.exactMapping attachment.sdkSessionId eventId message
          event.receivedAt before) leases
  | .sessionIdle aborted => .ok (idleLeases attachment aborted event.receivedAt before leases)
  | .quietSnapshot quiet _ =>
    .ok (releaseSubmissionLiveness attachment
      (fun submissionId => (before.submission submissionId).any
        (settles attachment.sdkSessionId quiet · |>.isSome)) leases)
  | .taskEvidence submissionId evidenceTime =>
    if reopens attachment submissionId evidenceTime before then
      activate attachment .submission submissionId leases
    else .ok leases
  | .submitting _ | .preSendDeferred _ | .queueBlocked .. | .taskComplete ..
  | .autopilotObjective .. => .ok leases

/-! ## The reducer of one attachment -/

structure Ledger where
  db : Db := {}
  leases : List LivenessLease := []

/-- `_persist_transaction`. -/
def persistLedger (event : Event) (ledger : Ledger) : Except Failure Ledger :=
  if journaled ledger.db event then .ok ledger
  else (applyDomainState uuid5 event ledger.db).bind fun applied =>
    (applyLeases uuid5 attachment event ledger.db applied ledger.leases).bind fun leases =>
      .ok { db := { applied with journal := applied.journal ++ [receipt event] }, leases }

inductive Activity where
  | reduces (event : Event)
  | interactionPending (interactionId : String)
  /-- `copilotd.interaction.resolved` and `expired`. -/
  | interactionSettled (interactionId : String)
  /-- `subagent.started`, and a task snapshot that shows the task. -/
  | backgroundObserved (cardKey : String)
  | backgroundEnded (cardKey : String)

/-- The attachment sends the event: it is its session's, and `_cancel_queued` names the states
it cancels. -/
def emits (event : Event) : Bool :=
  event.sdkSessionId = attachment.sdkSessionId &&
    match event.body with
    | .cancelQueued _ cancellable => cancellable = cancellableStates
    | _ => true

/-- One transaction of the reducer; a failed one leaves no trace, and the reducer takes no
other. -/
def apply (ledger : Ledger) : Activity → Option Ledger
  | .reduces event =>
    if emits attachment event then (persistLedger uuid5 attachment event ledger).toOption else none
  | .interactionPending interactionId =>
    ((activate attachment .interaction interactionId ledger.leases).map
      fun leases => { ledger with leases }).toOption
  | .interactionSettled interactionId =>
    some { ledger with
      leases := releaseNamed attachment (leaseName .interaction interactionId) ledger.leases }
  | .backgroundObserved cardKey =>
    ((upsert attachment .observedBackground cardKey (observeBackground attachment cardKey)
      ledger.leases).map fun leases => { ledger with leases }).toOption
  | .backgroundEnded cardKey =>
    some { ledger with
      leases := releaseNamed attachment (leaseName .observedBackground cardKey) ledger.leases }

end Events

end Copilotd.Source.Core.SubmissionLeases
