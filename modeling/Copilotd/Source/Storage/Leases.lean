import Copilotd.Source.Storage.Tables

/-!
# Owner leases

Source: `storage/leases.py`.  `acquire`, `renew` and `release` are each one
database transaction, so a call is one step: it either commits all of its
writes or raises and leaves the database as it was.  The caller supplies the
timestamp; nothing here assumes that two callers' clocks agree.
-/
namespace Copilotd.Source.Storage

open Base.Table

def ownerLeaseTtlSeconds : ℚ := 60
def mutationHeadroomSeconds : ℚ := 40
def renewalJitterMarginSeconds : ℚ := 5

/-- A row of `session_owner_leases`, and the value callers hold. -/
structure OwnerLease where
  sdkSessionId : String
  ownerId : String
  fenceToken : Int
  acquiredAt : ℚ
  renewedAt : ℚ
  expiresAt : ℚ

inductive LeaseError where
  | ownerConflict (sdkSessionId ownerId : String) (expiresAt : ℚ)
  | fenceLost (sdkSessionId : String)

/-- `session_owner_leases` has `sdk_session_id` as its primary key, so it is a
partial map; the other tables are those a takeover settles. -/
structure Database where
  ownerLeases : String → Option OwnerLease := fun _ => none
  tables : SessionTables := {}

def Database.setLease (db : Database) (lease : OwnerLease) : Database :=
  { db with ownerLeases := Function.update db.ownerLeases lease.sdkSessionId (some lease) }

/-- The constructor rejects a TTL below the mutation headroom plus jitter. -/
structure OwnerLeaseStore where
  ttlSeconds : ℚ := ownerLeaseTtlSeconds
  headroom : mutationHeadroomSeconds + renewalJitterMarginSeconds ≤ ttlSeconds := by decide +kernel

/-- The constructor without arguments. -/
def OwnerLeaseStore.standard : OwnerLeaseStore := {}

/-- Operations the takeover's first statement settles. -/
def orphanOperation (sdkSessionId : String) (currentFenceToken : Int) (row : OperationRow) : Bool :=
  row.sdkSessionId = sdkSessionId ∧ row.ownerFenceToken ≠ currentFenceToken ∧
    (row.state = .pending ∨ row.state = .started)

def orphanSubmission (sdkSessionId : String) (row : SubmissionRow) : Bool :=
  row.sdkSessionId = sdkSessionId ∧
    row.state ∈ [SubmissionState.submitting, .submitted, .submittedUnknown, .observedActive,
      .loopIdle, .continuationExpected]

/-- `_orphan_previous_owners`: seven statements, in the source's order.  The
queue statement reads the submissions as the statement before it left them. -/
def orphanPreviousOwners (sdkSessionId : String) (currentFenceToken : Int) (timestamp : ℚ)
    (errorCode : String) (tables : SessionTables) : SessionTables :=
  let submissions := updateWhere (orphanSubmission sdkSessionId)
    (fun row => { row with
      state := if row.state = .submitting ∨ row.state = .submitted then .submittedUnknown
        else .outcomeUnknown
      terminalAt := row.terminalAt.or (some timestamp) }) tables.submissions
  { operations := updateWhere (orphanOperation sdkSessionId currentFenceToken)
      (fun row => { row with
        state := .unknown, errorCode := some errorCode, settledAt := some timestamp })
      tables.operations
    submissions := submissions
    messageQueue := updateWhere
      (fun row => row.state = .submitting ∧
        submissions.any fun submission => submission.submissionId = row.id ∧
          submission.sdkSessionId = sdkSessionId ∧ submission.state = .submittedUnknown)
      (fun row => { row with state := .submittedUnknown, updatedAt := timestamp })
      tables.messageQueue
    backgroundObservations := updateWhere
      (fun row => row.sdkSessionId = sdkSessionId ∧ row.terminalEvidence = none ∧
        (row.observedState = .running ∨ row.observedState = .idle))
      (fun row => { row with observedState := .unknown, lastProgressAt := timestamp })
      tables.backgroundObservations
    pendingInteractions := updateWhere
      (fun row => row.sdkSessionId = sdkSessionId ∧ row.state = .pending ∧
        row.ownerFenceToken ≠ currentFenceToken)
      (fun row => { row with state := .expired, updatedAt := timestamp })
      tables.pendingInteractions
    runtimeSchedules := updateWhere
      (fun row => row.sdkSessionId = sdkSessionId ∧ row.state = .active)
      (fun row => { row with state := .unknown, updatedAt := timestamp })
      tables.runtimeSchedules
    livenessLeases := updateWhere
      (fun row => row.sdkSessionId = sdkSessionId ∧
        row.ownerFenceToken ≠ currentFenceToken ∧ row.state = .active)
      (fun row => { row with
        state := .orphaned, refreshedAt := timestamp, releasedAt := some timestamp })
      tables.livenessLeases }

def OwnerLeaseStore.acquire (store : OwnerLeaseStore) (sdkSessionId ownerId : String)
    (timestamp : ℚ) (db : Database) : Except LeaseError (OwnerLease × Database) :=
  let expiresAt := timestamp + store.ttlSeconds
  match db.ownerLeases sdkSessionId with
  | none =>
    let lease : OwnerLease :=
      { sdkSessionId, ownerId, fenceToken := 1, acquiredAt := timestamp,
        renewedAt := timestamp, expiresAt }
    .ok (lease, db.setLease lease)
  | some current =>
    if current.ownerId ≠ ownerId ∧ timestamp < current.expiresAt then
      .error (.ownerConflict sdkSessionId current.ownerId current.expiresAt)
    else if current.ownerId = ownerId ∧ timestamp < current.expiresAt then
      let lease : OwnerLease :=
        { sdkSessionId, ownerId, fenceToken := current.fenceToken,
          acquiredAt := current.acquiredAt, renewedAt := timestamp, expiresAt }
      .ok (lease, db.setLease lease)
    else
      let lease : OwnerLease :=
        { sdkSessionId, ownerId, fenceToken := current.fenceToken + 1,
          acquiredAt := timestamp, renewedAt := timestamp, expiresAt }
      let updated := db.setLease lease
      .ok (lease, { updated with
        tables := orphanPreviousOwners sdkSessionId lease.fenceToken timestamp
          "owner_fence_takeover" updated.tables })

/-- The `WHERE` shared by `renew` and `release`: the caller's owner and token
still hold the row and it has not expired at the caller's time. -/
def heldBy (db : Database) (lease : OwnerLease) (timestamp : ℚ) : Option OwnerLease :=
  (db.ownerLeases lease.sdkSessionId).filter fun row =>
    row.ownerId = lease.ownerId ∧ row.fenceToken = lease.fenceToken ∧ timestamp < row.expiresAt

def OwnerLeaseStore.renew (store : OwnerLeaseStore) (lease : OwnerLease) (timestamp : ℚ)
    (db : Database) : Except LeaseError (OwnerLease × Database) :=
  let expiresAt := timestamp + store.ttlSeconds
  match heldBy db lease timestamp with
  | none => .error (.fenceLost lease.sdkSessionId)
  | some row =>
    .ok ({ lease with renewedAt := timestamp, expiresAt },
      { db with
        ownerLeases := Function.update db.ownerLeases lease.sdkSessionId
          (some { row with renewedAt := timestamp, expiresAt }) })

def OwnerLeaseStore.release (lease : OwnerLease) (timestamp : ℚ) (db : Database) :
    Except LeaseError Database :=
  match heldBy db lease timestamp with
  | none => .error (.fenceLost lease.sdkSessionId)
  | some row =>
    .ok { db with
      ownerLeases := Function.update db.ownerLeases lease.sdkSessionId
        (some { row with renewedAt := timestamp, expiresAt := timestamp }) }

def isCurrent (db : Database) (lease : OwnerLease) (timestamp : ℚ) : Bool :=
  match db.ownerLeases lease.sdkSessionId with
  | none => false
  | some current => current.ownerId = lease.ownerId ∧ current.fenceToken = lease.fenceToken ∧
      timestamp < current.expiresAt

variable {timestamp : ℚ} {db after : Database} {sdkSessionId : String} {lease : OwnerLease}
  {store : OwnerLeaseStore}

theorem acquire_cases {ownerId : String}
    (returned : store.acquire sdkSessionId ownerId timestamp db = .ok (lease, after)) :
    lease.sdkSessionId = sdkSessionId ∧ lease.ownerId = ownerId ∧
    lease.expiresAt = timestamp + store.ttlSeconds ∧
    after.ownerLeases = Function.update db.ownerLeases sdkSessionId (some lease) ∧
    ((db.ownerLeases sdkSessionId = none ∧ lease.fenceToken = 1 ∧ after.tables = db.tables) ∨
      ∃ current, db.ownerLeases sdkSessionId = some current ∧
        ((current.ownerId = ownerId ∧ timestamp < current.expiresAt ∧
            lease.fenceToken = current.fenceToken ∧ after.tables = db.tables) ∨
          (current.expiresAt ≤ timestamp ∧ lease.fenceToken = current.fenceToken + 1 ∧
            after.tables = orphanPreviousOwners sdkSessionId lease.fenceToken timestamp
              "owner_fence_takeover" db.tables))) := by
  unfold OwnerLeaseStore.acquire at returned
  cases stored : db.ownerLeases sdkSessionId with
  | none =>
    simp only [stored, Except.ok.injEq, Prod.mk.injEq] at returned
    obtain ⟨rfl, rfl⟩ := returned
    exact ⟨rfl, rfl, rfl, rfl, .inl ⟨rfl, rfl, rfl⟩⟩
  | some current =>
    simp only [stored] at returned
    split at returned
    · cases returned
    next noConflict =>
      split at returned
      next own =>
        obtain ⟨rfl, rfl⟩ := returned
        exact ⟨rfl, rfl, rfl, rfl, .inr ⟨current, rfl, .inl ⟨own.1, own.2, rfl, rfl⟩⟩⟩
      next notOwn =>
        obtain ⟨rfl, rfl⟩ := returned
        have expired : current.expiresAt ≤ timestamp := by
          by_contra live
          by_cases same : current.ownerId = ownerId
          · exact notOwn ⟨same, not_le.mp live⟩
          · exact noConflict ⟨same, not_le.mp live⟩
        exact ⟨rfl, rfl, rfl, rfl, .inr ⟨current, rfl, .inr ⟨expired, rfl, rfl⟩⟩⟩

private theorem heldBy_some {row : OwnerLease} (held : heldBy db lease timestamp = some row) :
    db.ownerLeases lease.sdkSessionId = some row ∧ row.ownerId = lease.ownerId ∧
      row.fenceToken = lease.fenceToken ∧ timestamp < row.expiresAt := by
  simpa [heldBy, Option.filter_eq_some_iff] using held

theorem renew_effects {renewed : OwnerLease}
    (returned : store.renew lease timestamp db = .ok (renewed, after)) :
    after.tables = db.tables ∧ ∃ row moved, db.ownerLeases lease.sdkSessionId = some row ∧
      moved.ownerId = row.ownerId ∧ moved.fenceToken = row.fenceToken ∧
      after.ownerLeases = Function.update db.ownerLeases lease.sdkSessionId (some moved) := by
  unfold OwnerLeaseStore.renew at returned
  cases held : heldBy db lease timestamp with
  | none => simp [held] at returned
  | some row =>
    simp only [held, Except.ok.injEq, Prod.mk.injEq] at returned
    obtain ⟨rfl, rfl⟩ := returned
    exact ⟨rfl, row, { row with renewedAt := timestamp, expiresAt := timestamp + store.ttlSeconds },
      (heldBy_some held).1, rfl, rfl, rfl⟩

theorem release_effects (returned : OwnerLeaseStore.release lease timestamp db = .ok after) :
    after.tables = db.tables ∧ ∃ row moved, db.ownerLeases lease.sdkSessionId = some row ∧
      moved.ownerId = row.ownerId ∧ moved.fenceToken = row.fenceToken ∧
      after.ownerLeases = Function.update db.ownerLeases lease.sdkSessionId (some moved) := by
  unfold OwnerLeaseStore.release at returned
  cases held : heldBy db lease timestamp with
  | none => simp [held] at returned
  | some row =>
    simp only [held, Except.ok.injEq] at returned
    subst returned
    exact ⟨rfl, row, { row with renewedAt := timestamp, expiresAt := timestamp },
      (heldBy_some held).1, rfl, rfl, rfl⟩

theorem isCurrent_iff :
    isCurrent db lease timestamp = true ↔ ∃ current,
      db.ownerLeases lease.sdkSessionId = some current ∧ current.ownerId = lease.ownerId ∧
        current.fenceToken = lease.fenceToken ∧ timestamp < current.expiresAt := by
  unfold isCurrent
  cases db.ownerLeases lease.sdkSessionId <;> simp

variable {errorCode : String} {tables : SessionTables} {fence : Int}

theorem orphaned_operations {row : OperationRow}
    (member : row ∈ (orphanPreviousOwners sdkSessionId fence timestamp errorCode tables).operations)
    (session : row.sdkSessionId = sdkSessionId) (other : row.ownerFenceToken ≠ fence) :
    row.state ≠ .pending ∧ row.state ≠ .started := by
  obtain ⟨old, _, rfl⟩ := mem_updateWhere.mp member
  by_cases hit : orphanOperation sdkSessionId fence old = true
  · simp [hit]
  · simp only [hit, Bool.false_eq_true, if_false] at session other ⊢
    simp only [orphanOperation, decide_eq_true_eq, session, ne_eq, other, not_false_eq_true,
      true_and, not_or] at hit
    exact hit

theorem orphaned_interactions {row : InteractionRow} (member : row ∈
      (orphanPreviousOwners sdkSessionId fence timestamp errorCode tables).pendingInteractions)
    (session : row.sdkSessionId = sdkSessionId) (other : row.ownerFenceToken ≠ fence) :
    row.state ≠ .pending := by
  obtain ⟨old, _, rfl⟩ := mem_updateWhere.mp member
  split
  · simp
  next miss =>
    simp only [miss, Bool.false_eq_true, if_false] at session other
    simpa [session, other] using miss

theorem orphaned_liveness {row : LivenessRow} (member : row ∈
      (orphanPreviousOwners sdkSessionId fence timestamp errorCode tables).livenessLeases)
    (session : row.sdkSessionId = sdkSessionId) (other : row.ownerFenceToken ≠ fence) :
    row.state ≠ .active := by
  obtain ⟨old, _, rfl⟩ := mem_updateWhere.mp member
  split
  · simp
  next miss =>
    simp only [miss, Bool.false_eq_true, if_false] at session other
    simpa [session, other] using miss

end Copilotd.Source.Storage
