import Copilotd.Source.Storage.Leases

/-!
# Operation store and operation events

Source: `core/mailbox.py` (`OperationStore`), `core/reducer.py` (`_persist_transaction`,
the operation event handlers).

`OperationStore` never writes an operation state itself, `settle_deferred` apart:
it commits an internal event to the inbox, and the reducer applies the event in
its own transaction, some time later.  So every method is cut at its awaits: one
definition reads or builds the event, one applies it, one reads the row back.

An operation id is the version-5 UUID of a name; the model keeps the name, so
ids are equal exactly when their names are.  A payload enters as its input hash.
-/
namespace Copilotd.Source.Core

open Base.Table Source.Storage

/-- `OperationRecord`: the columns `_row_to_record` copies. -/
structure OperationRecord where
  operationId : String
  sdkSessionId : String
  runtimeGeneration : Int
  ownerFenceToken : Int
  kind : String
  idempotencyKey : String
  inputHash : String
  state : OperationState
  resultRef : Option String := none
  errorCode : Option String := none
  deriving DecidableEq

def rowToRecord (row : OperationRow) : OperationRecord :=
  { operationId := row.operationId, sdkSessionId := row.sdkSessionId
    runtimeGeneration := row.runtimeGeneration, ownerFenceToken := row.ownerFenceToken
    kind := row.kind, idempotencyKey := row.idempotencyKey, inputHash := row.inputHash
    state := row.state, resultRef := row.resultRef, errorCode := row.errorCode }

/-- What the store and the mailbox raise. -/
inductive Raised where
  | valueError (message : String)
  | runtimeError (message : String)
  | operationRejected (message : String)
  | operationDeferred (message : String)
  | operationAmbiguous (message : String)
  | mailboxNotAccepting (message : String)

/-- The payloads of `copilotd.operation.pending`, `.transition` and
`.unsettled_unknown`. -/
inductive OperationEvent where
  | pending (operationId : String) (runtimeGeneration ownerFenceToken : Int)
      (kind idempotencyKey inputHash : String) (createdAt : ℚ)
  | transition (operationId : String) (fromState toState : OperationState)
      (resultRef errorCode : Option String) (transitionedAt : ℚ)
  | unsettledUnknown (runtimeGeneration ownerFenceToken : Int) (errorCode : String)
      (settledAt : ℚ)
  deriving DecidableEq

/-- `InboxEnvelope`, as far as the journal and the handlers read it. -/
structure Envelope where
  sdkSessionId : String
  generation : Int
  fenceToken : Int
  inboxSeq : Nat
  internalEventId : String
  event : OperationEvent

/-- The unique columns of `event_journal`. -/
structure JournalRow where
  sdkSessionId : String
  generation : Int
  inboxSeq : Nat
  internalEventId : String

structure BindingRow where
  sdkSessionId : String
  runtimeGeneration : Int
  ownerFenceToken : Option Int

/-- The owner leases and session tables, with the journal and the bindings the
reducer consults before it applies an event. -/
structure CoreDatabase extends Database where
  journal : List JournalRow := []
  bindings : List BindingRow := []

def CoreDatabase.operations (db : CoreDatabase) : List OperationRow := db.tables.operations

def CoreDatabase.setOperations (db : CoreDatabase) (rows : List OperationRow) : CoreDatabase :=
  { db with tables := { db.tables with operations := rows } }

@[simp] theorem operations_setOperations (db : CoreDatabase) (rows : List OperationRow) :
    (db.setOperations rows).operations = rows := rfl

/-- `SELECT … WHERE operation_id = ?`. -/
def operationById (rows : List OperationRow) (operationId : String) : Option OperationRow :=
  lookup OperationRow.operationId operationId rows

/-- `SELECT … WHERE sdk_session_id = ? AND idempotency_key = ?`. -/
def operationByKey (rows : List OperationRow) (sdkSessionId idempotencyKey : String) :
    Option OperationRow :=
  lookup (fun row => (row.sdkSessionId, row.idempotencyKey)) (sdkSessionId, idempotencyKey) rows

/-! ## The store's own half of each method -/

def operationIdOf (sdkSessionId idempotencyKey : String) : String :=
  "copilotd:" ++ sdkSessionId ++ ":operation:" ++ idempotencyKey

structure BeginArgs where
  sdkSessionId : String
  runtimeGeneration : Int
  ownerFenceToken : Int
  kind : String
  idempotencyKey : String
  inputHash : String
  deriving DecidableEq

def BeginArgs.operationId (args : BeginArgs) : String :=
  operationIdOf args.sdkSessionId args.idempotencyKey

/-- The check both reads of `begin` make on the row they found. -/
def matchInput (args : BeginArgs) (row : OperationRow) : Except Raised OperationRecord :=
  if row.inputHash ≠ args.inputHash ∨ row.kind ≠ args.kind then
    .error (.valueError "idempotency key was reused with different input")
  else .ok (rowToRecord row)

/-- `begin` up to its commit: `none` when the key is free. -/
def beginRead (args : BeginArgs) (rows : List OperationRow) :
    Option (Except Raised OperationRecord) :=
  (operationByKey rows args.sdkSessionId args.idempotencyKey).map (matchInput args)

def beginEvent (args : BeginArgs) (createdAt : ℚ) : OperationEvent :=
  .pending args.operationId args.runtimeGeneration args.ownerFenceToken args.kind
    args.idempotencyKey args.inputHash createdAt

/-- `begin` after its commit; the record comes back as created. -/
def beginReread (args : BeginArgs) (rows : List OperationRow) : Except Raised OperationRecord :=
  match operationById rows args.operationId with
  | none => .error (.runtimeError ("reducer did not persist operation " ++ args.operationId))
  | some row => matchInput args row

/-- The `allowed` table of `OperationStore.transition`. -/
def allowed : OperationState → List OperationState
  | .pending => [.started, .unknown]
  | .started => [.confirmed, .rejected, .unknown]
  | .confirmed | .rejected | .unknown => []

/-- `transition` up to its commit. -/
def transitionEvent (record : OperationRecord) (state : OperationState)
    (resultRef errorCode : Option String) (transitionedAt : ℚ) : Except Raised OperationEvent :=
  if state ∈ allowed record.state then
    .ok (.transition record.operationId record.state state resultRef errorCode transitionedAt)
  else
    .error (.valueError ("invalid operation transition " ++ record.state.value ++ " -> " ++
      state.value))

/-- `transition` after its commit. -/
def transitionReread (record : OperationRecord) (state : OperationState)
    (rows : List OperationRow) : Except Raised OperationRecord :=
  match operationById rows record.operationId with
  | none => .error (.runtimeError ("operation disappeared: " ++ record.operationId))
  | some row =>
    if row.state ≠ state then
      .error (.operationAmbiguous ("operation " ++ record.operationId ++
        " did not durably reach " ++ state.value))
    else .ok (rowToRecord row)

def settleDeferredHit (record : OperationRecord) (row : OperationRow) : Bool :=
  row.operationId = record.operationId ∧
    (row.state = .pending ∨ row.state = .started ∨
      (row.state = .unknown ∧ row.errorCode = some "owner_fence_takeover"))

def settleDeferredSet (errorCode : String) (timestamp : ℚ) (row : OperationRow) : OperationRow :=
  { row with state := .rejected, errorCode := some errorCode, settledAt := some timestamp }

/-- `settle_deferred`: one statement of its own, then the row read back. -/
def settleDeferred (record : OperationRecord) (errorCode : String) (timestamp : ℚ)
    (rows : List OperationRow) : Except Raised (OperationRecord × List OperationRow) :=
  if rowcount (settleDeferredHit record) rows ≠ 1 then
    .error (.operationAmbiguous
      ("deferred operation changed concurrently: " ++ record.operationId))
  else
    let settled := updateWhere (settleDeferredHit record)
      (settleDeferredSet errorCode timestamp) rows
    match operationById settled record.operationId with
    | none => .error (.runtimeError ("operation disappeared: " ++ record.operationId))
    | some row => .ok (rowToRecord row, settled)

def discardResult (record : OperationRecord) (rows : List OperationRow) : List OperationRow :=
  match record.resultRef with
  | none => rows
  | some ref => updateWhere
      (fun row => row.operationId = record.operationId ∧ row.resultRef = some ref)
      (fun row => { row with resultRef := none }) rows

/-! ## The reducer's half -/

inductive ReducerError where
  | idempotencyKeyReused
  | operationIdConflict (operationId : String)
  | operationChangedConcurrently (operationId : String)

/-- The `WHERE` of the transition handler. -/
def transitionHit (sdkSessionId operationId : String) (fromState : OperationState)
    (row : OperationRow) : Bool :=
  row.operationId = operationId ∧ row.sdkSessionId = sdkSessionId ∧ row.state = fromState

/-- The `SET` of the transition handler. -/
def transitionSet (toState : OperationState) (resultRef errorCode : Option String)
    (transitionedAt : ℚ) (row : OperationRow) : OperationRow :=
  { row with
    state := toState
    resultRef := resultRef
    errorCode := errorCode
    startedAt := if toState = .started then some transitionedAt else row.startedAt
    settledAt := if toState = .confirmed ∨ toState = .rejected ∨ toState = .unknown
      then some transitionedAt else row.settledAt }

/-- `INSERT … ON CONFLICT(sdk_session_id, idempotency_key) DO NOTHING`; a clash on
the primary key alone is an integrity error. -/
def insertPending (row : OperationRow) (rows : List OperationRow) :
    Except ReducerError (List OperationRow) :=
  if (operationByKey rows row.sdkSessionId row.idempotencyKey).isSome then .ok rows
  else if (operationById rows row.operationId).isSome then
    .error (.operationIdConflict row.operationId)
  else .ok (rows ++ [row])

/-- The three operation branches of `_apply_domain_state`. -/
def applyDomainState (sdkSessionId : String) (rows : List OperationRow) :
    OperationEvent → Except ReducerError (List OperationRow)
  | .pending operationId runtimeGeneration ownerFenceToken kind idempotencyKey inputHash
      createdAt => do
    let inserted ← insertPending
      { operationId, sdkSessionId, runtimeGeneration, ownerFenceToken, kind, idempotencyKey,
        inputHash, state := .pending, createdAt } rows
    match operationByKey inserted sdkSessionId idempotencyKey with
    | none => .error .idempotencyKeyReused
    | some operation =>
      if operation.operationId ≠ operationId ∨ operation.kind ≠ kind ∨
          operation.inputHash ≠ inputHash then .error .idempotencyKeyReused
      else .ok inserted
  | .transition operationId fromState toState resultRef errorCode transitionedAt =>
    if rowcount (transitionHit sdkSessionId operationId fromState) rows ≠ 1 then
      .error (.operationChangedConcurrently operationId)
    else .ok (updateWhere (transitionHit sdkSessionId operationId fromState)
      (transitionSet toState resultRef errorCode transitionedAt) rows)
  | .unsettledUnknown runtimeGeneration ownerFenceToken errorCode settledAt =>
    .ok (updateWhere
      (fun row => row.sdkSessionId = sdkSessionId ∧ row.runtimeGeneration = runtimeGeneration ∧
        row.ownerFenceToken = ownerFenceToken ∧ (row.state = .pending ∨ row.state = .started))
      (fun row => { row with
        state := .unknown, errorCode := some errorCode, settledAt := some settledAt }) rows)

/-- With `require_binding_fence`, an event of a replaced generation is skipped. -/
def fenceAdmits (requireBindingFence : Bool) (db : CoreDatabase) (env : Envelope) : Bool :=
  !requireBindingFence || db.bindings.any fun row =>
    row.sdkSessionId = env.sdkSessionId ∧ row.runtimeGeneration = env.generation ∧
      row.ownerFenceToken = some env.fenceToken

/-- The unique indexes of `event_journal`: a receipt that clashes is not inserted. -/
def journaled (db : CoreDatabase) (env : Envelope) : Bool :=
  db.journal.any fun row => row.sdkSessionId = env.sdkSessionId ∧
    ((row.generation = env.generation ∧ row.inboxSeq = env.inboxSeq) ∨
      row.internalEventId = env.internalEventId)

def receipt (env : Envelope) : JournalRow :=
  { sdkSessionId := env.sdkSessionId, generation := env.generation, inboxSeq := env.inboxSeq
    internalEventId := env.internalEventId }

/-- `_persist_transaction` for one event.  A skipped and a duplicate event are
acknowledged like an applied one. -/
def persist (requireBindingFence : Bool) (env : Envelope) (db : CoreDatabase) :
    Except ReducerError CoreDatabase :=
  if !fenceAdmits requireBindingFence db env then .ok db
  else if journaled db env then .ok db
  else do
    let rows ← applyDomainState env.sdkSessionId db.operations env.event
    return { db.setOperations rows with journal := db.journal ++ [receipt env] }

/-! ## What each write does to a row -/

/-- The moves the state machine of an operation has. -/
inductive Forward (row : OperationRow) : OperationState → Prop where
  | start (was : row.state = .pending) : Forward row .started
  | confirm (was : row.state = .started) : Forward row .confirmed
  | reject (was : row.state = .pending ∨ row.state = .started) : Forward row .rejected
  | lose (was : row.state = .pending ∨ row.state = .started) : Forward row .unknown
  | defer (was : row.state = .unknown) (code : row.errorCode = some "owner_fence_takeover") :
      Forward row .rejected

/-- A write keeps a row's identity and leaves its state and error code alone or
moves the state forward. -/
structure RowMove (row next : OperationRow) : Prop where
  operation : next.operationId = row.operationId
  session : next.sdkSessionId = row.sdkSessionId
  key : next.idempotencyKey = row.idempotencyKey
  state : (next.state = row.state ∧ next.errorCode = row.errorCode) ∨ Forward row next.state

theorem RowMove.refl (row : OperationRow) : RowMove row row := ⟨rfl, rfl, rfl, .inl ⟨rfl, rfl⟩⟩

/-- No row is lost, every old row moves as `RowMove` says, and a new row is pending. -/
structure RowsMove (rows after : List OperationRow) : Prop where
  old : ∀ id row, operationById rows id = some row →
    ∃ next, operationById after id = some next ∧ RowMove row next
  new : ∀ id next, operationById rows id = none → operationById after id = some next →
    next.state = .pending

theorem RowsMove.refl (rows : List OperationRow) : RowsMove rows rows :=
  ⟨fun _ row found => ⟨row, found, RowMove.refl row⟩,
    fun _ _ absent found => by simp [absent] at found⟩

variable {set : OperationRow → OperationRow} {hit : OperationRow → Bool}

theorem RowsMove.updateWhere (rows : List OperationRow)
    (same : ∀ row, (set row).operationId = row.operationId)
    (move : ∀ row, hit row = true → RowMove row (set row)) :
    RowsMove rows (updateWhere hit set rows) := by
  refine ⟨?_, ?_⟩
  · intro id row found
    refine ⟨if hit row then set row else row, ?_, ?_⟩
    · rw [operationById, lookup_updateWhere same]
      change Option.map _ (operationById rows id) = _
      rw [found, Option.map_some]
    · split
      next selected => exact move row selected
      · exact RowMove.refl row
  · intro id next absent found
    rw [operationById, lookup_updateWhere same] at found
    change Option.map _ (operationById rows id) = _ at found
    simp [absent] at found

variable {row : OperationRow} {rows : List OperationRow}

theorem insertPending_moves {inserted : List OperationRow} (pending : row.state = .pending)
    (done : insertPending row rows = .ok inserted) :
    RowsMove rows inserted := by
  unfold insertPending at done
  split at done
  · cases done
    exact RowsMove.refl rows
  · split at done
    · cases done
    · cases done
      refine ⟨fun id old found => ⟨old, lookup_append_of_some found, RowMove.refl old⟩, ?_⟩
      intro id next absent found
      rw [operationById, lookup_append] at found
      change (operationById rows id).or _ = _ at found
      rw [absent, Option.none_or] at found
      have member := lookup_some_mem found
      rw [List.mem_singleton] at member
      exact member ▸ pending

private theorem forward_of_allowed {next : OperationState} (member : next ∈ allowed row.state) :
    Forward row next := by
  cases from_ : row.state with
  | pending =>
    simp only [allowed, from_, List.mem_cons, List.not_mem_nil, or_false] at member
    rcases member with rfl | rfl
    · exact .start from_
    · exact .lose (.inl from_)
  | started =>
    simp only [allowed, from_, List.mem_cons, List.not_mem_nil, or_false] at member
    rcases member with rfl | rfl | rfl
    · exact .confirm from_
    · exact .reject (.inr from_)
    · exact .lose (.inr from_)
  | confirmed | rejected | unknown => simp [allowed, from_] at member

/-- A transition event as `OperationStore.transition` builds it. -/
def Admissible : OperationEvent → Prop
  | .transition _ fromState toState _ _ _ => toState ∈ allowed fromState
  | _ => True

variable {record : OperationRecord} {event : OperationEvent}

theorem transitionEvent_admissible {state : OperationState} {resultRef errorCode : Option String}
    {transitionedAt : ℚ}
    (built : transitionEvent record state resultRef errorCode transitionedAt = .ok event) :
    Admissible event := by
  unfold transitionEvent at built
  split at built
  next member =>
    cases built
    exact member
  · cases built

variable {sdkSessionId : String} {after : List OperationRow}

theorem applyDomainState_moves (admissible : Admissible event)
    (done : applyDomainState sdkSessionId rows event = .ok after) : RowsMove rows after := by
  cases event with
  | pending operationId generation fence kind key hash createdAt =>
    simp only [applyDomainState, bind, Except.bind] at done
    split at done
    · cases done
    next inserted attempt =>
      split at done
      · cases done
      · split at done
        · cases done
        · cases done
          exact insertPending_moves rfl attempt
  | transition operationId fromState toState resultRef errorCode transitionedAt =>
    simp only [applyDomainState] at done
    split at done
    · cases done
    · cases done
      refine RowsMove.updateWhere rows (fun _ => rfl) ?_
      intro row selected
      simp only [transitionHit, decide_eq_true_eq] at selected
      obtain ⟨_, _, rfl⟩ := selected
      exact ⟨rfl, rfl, rfl, .inr (forward_of_allowed admissible)⟩
  | unsettledUnknown generation fence errorCode settledAt =>
    simp only [applyDomainState, Except.ok.injEq] at done
    subst done
    refine RowsMove.updateWhere rows (fun _ => rfl) ?_
    intro row selected
    simp only [decide_eq_true_eq] at selected
    exact ⟨rfl, rfl, rfl, .inr (.lose selected.2.2.2)⟩

theorem persist_cases {requireBindingFence : Bool} {env : Envelope} {db after : CoreDatabase}
    (done : persist requireBindingFence env db = .ok after) :
    (after = db ∧ (fenceAdmits requireBindingFence db env = false ∨ journaled db env = true)) ∨
      (fenceAdmits requireBindingFence db env = true ∧ journaled db env = false ∧
        ∃ rows, applyDomainState env.sdkSessionId db.operations env.event = .ok rows ∧
        after = { db.setOperations rows with journal := db.journal ++ [receipt env] }) := by
  unfold persist at done
  split at done
  next skipped =>
    cases done
    exact .inl ⟨rfl, .inl (by simpa using skipped)⟩
  next admitted =>
    split at done
    next duplicate =>
      cases done
      exact .inl ⟨rfl, .inr duplicate⟩
    next fresh =>
      simp only [bind, Except.bind] at done
      split at done
      · cases done
      next rows applied =>
        cases done
        exact .inr ⟨by simpa using admitted, by simpa using fresh, rows, applied, rfl⟩

variable {timestamp : ℚ} {errorCode : String} {settled : OperationRecord}

theorem settleDeferred_moves
    (done : settleDeferred record errorCode timestamp rows = .ok (settled, after)) :
    RowsMove rows after := by
  unfold settleDeferred at done
  split at done
  · cases done
  · simp only at done
    split at done
    · cases done
    · cases done
      refine RowsMove.updateWhere rows (fun _ => rfl) ?_
      intro row selected
      simp only [settleDeferredHit, decide_eq_true_eq] at selected
      refine ⟨rfl, rfl, rfl, .inr ?_⟩
      rcases selected.2 with was | was | ⟨was, code⟩
      · exact .reject (.inl was)
      · exact .reject (.inr was)
      · exact .defer was code

theorem discardResult_moves (record : OperationRecord) (rows : List OperationRow) :
    RowsMove rows (discardResult record rows) := by
  unfold discardResult
  split
  · exact RowsMove.refl rows
  · exact RowsMove.updateWhere rows (fun _ => rfl) fun _ _ => ⟨rfl, rfl, rfl, .inl ⟨rfl, rfl⟩⟩

theorem orphanPreviousOwners_moves (sdkSessionId : String) (fence : Int) (timestamp : ℚ)
    (errorCode : String) (tables : SessionTables) :
    RowsMove tables.operations
      (orphanPreviousOwners sdkSessionId fence timestamp errorCode tables).operations := by
  refine RowsMove.updateWhere tables.operations (fun _ => rfl) ?_
  intro row selected
  simp only [orphanOperation, decide_eq_true_eq] at selected
  exact ⟨rfl, rfl, rfl, .inr (.lose selected.2.2)⟩

/-! ## Which rows there are -/

/-- The columns no statement changes after the insert. -/
def identity (row : OperationRow) : String × String × String :=
  (row.operationId, row.sdkSessionId, row.idempotencyKey)

def identities (rows : List OperationRow) : List (String × String × String) := rows.map identity

theorem identities_updateWhere (same : ∀ row, identity (set row) = identity row)
    (rows : List OperationRow) :
    identities (updateWhere hit set rows) = identities rows := by
  simp only [identities, updateWhere, List.map_map]
  refine List.map_congr_left ?_
  intro row _
  simp only [Function.comp]
  split
  · exact same row
  · rfl

theorem identities_settleDeferred
    (done : settleDeferred record errorCode timestamp rows = .ok (settled, after)) :
    identities after = identities rows := by
  unfold settleDeferred at done
  split at done
  · cases done
  · simp only at done
    split at done
    · cases done
    · cases done
      refine identities_updateWhere ?_ rows
      intro row
      rfl

theorem identities_discardResult (record : OperationRecord) (rows : List OperationRow) :
    identities (discardResult record rows) = identities rows := by
  unfold discardResult
  split
  · rfl
  · refine identities_updateWhere ?_ rows
    intro row
    rfl

theorem identities_applyDomainState (done : applyDomainState sdkSessionId rows event = .ok after) :
    identities after = identities rows ∨
      ∃ operationId generation fence kind key hash createdAt,
        event = .pending operationId generation fence kind key hash createdAt ∧
        identities after = identities rows ++ [(operationId, sdkSessionId, key)] := by
  cases event with
  | pending operationId generation fence kind key hash createdAt =>
    simp only [applyDomainState, bind, Except.bind] at done
    split at done
    · cases done
    next inserted attempt =>
      have same : after = inserted := by
        split at done
        · cases done
        · split at done
          · cases done
          · cases done
            rfl
      subst same
      unfold insertPending at attempt
      split at attempt
      · cases attempt
        exact .inl rfl
      · split at attempt
        · cases attempt
        · cases attempt
          exact .inr ⟨operationId, generation, fence, kind, key, hash, createdAt, rfl,
            by simp [identities, identity]⟩
  | transition operationId fromState toState resultRef errorCode transitionedAt =>
    simp only [applyDomainState] at done
    split at done
    · cases done
    · cases done
      refine .inl (identities_updateWhere ?_ rows)
      intro row
      rfl
  | unsettledUnknown generation fence errorCode settledAt =>
    simp only [applyDomainState, Except.ok.injEq] at done
    subst done
    refine .inl (identities_updateWhere ?_ rows)
    intro row
    rfl

theorem identities_orphanPreviousOwners (sdkSessionId : String) (fence : Int) (timestamp : ℚ)
    (errorCode : String) (tables : SessionTables) :
    identities (orphanPreviousOwners sdkSessionId fence timestamp errorCode tables).operations =
      identities tables.operations := by
  refine identities_updateWhere ?_ tables.operations
  intro row
  rfl

theorem operationById_identity {id : String} (found : operationById rows id = some row) :
    (id, row.sdkSessionId, row.idempotencyKey) ∈ identities rows := by
  have key := lookup_some_key found
  have member := lookup_some_mem found
  exact List.mem_map.mpr ⟨row, member, by rw [identity, key]⟩

theorem operationByKey_none {session key : String} :
    operationByKey rows session key = none ↔ ∀ id, (id, session, key) ∉ identities rows := by
  rw [operationByKey, lookup_eq_none]
  constructor
  · intro absent id member
    obtain ⟨row, inRows, same⟩ := List.mem_map.mp member
    simp only [identity, Prod.mk.injEq] at same
    exact absent row inRows (by simp [same.2.1, same.2.2])
  · intro absent row inRows same
    simp only [Prod.mk.injEq] at same
    refine absent row.operationId (List.mem_map.mpr ⟨row, inRows, ?_⟩)
    simp [identity, same.1, same.2]

end Copilotd.Source.Core
