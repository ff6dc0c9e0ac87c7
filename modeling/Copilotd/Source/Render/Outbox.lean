import Mathlib.Algebra.Order.Ring.Rat
import Mathlib.Data.List.Sort
import Copilotd.Base.Dict
import Copilotd.Base.Table

/-!
# The render outbox

Source: `render/outbox.py` (`_claim`, `_deliver`, `_deliver_locked`,
`_mark_content_unavailable`, `_transition_failed_claim`, `_restore_claim_ids`,
`_attempt_render_failure_surface`) and `core/reducer.py` (`_queue_render_intent`,
the intents of `_recover_volatile_event`,
`_compensate_content_unavailable_fallback`).  Every transaction is one function;
one that raises is `none` and leaves everything as it was.

Rows of the two reaction lanes are left out: other functions write and deliver
them, and the claim query does not let them hold back a row of another lane.  Left
out as well are the columns that none of these statements reads, the reaction
state of submissions, and the bounds of the content store.  A payload is given by
the fields that the code looks at and the rest of its text.  SHA-256 is an
injective function of the payload.
-/
namespace Copilotd.Source.Render.Outbox

open Base.Dict Base.Table

/-- Identifiers and idempotency keys.  The ones of a fallback row are derived from
those of the row whose content is gone. -/
inductive Name where
  | plain (text : String)
  | contentUnavailable (source : Name) (revision : Nat)
  deriving DecidableEq

/-- The values the code writes to `render_outbox.state`. -/
inductive OutboxState where
  | pending | sending | sent | blocked | superseded | contentUnavailable
  deriving DecidableEq

inductive RenderKind where
  | toolCard
  | contentUnavailable
  | other (name : String)
  deriving DecidableEq

structure Payload where
  type : RenderKind := .other "render"
  content : String := ""
  finalized : Bool := false
  /-- `stable_outbox_key` is present. -/
  stable : Bool := false
  submissionId : Option String := none
  deriving DecidableEq

structure RenderIntent where
  id : String
  sessionId : String
  logicalSeq : Int
  lane : String
  coalesceKey : Option String := none
  idempotencyKey : String
  payload : Payload
  /-- No event has this type. -/
  type_ne : payload.type ≠ .contentUnavailable := by decide

/-- A row of `render_outbox`.  The `payload` column is a receipt; `sourceOutboxId`
is the field that fallback rows have in it. -/
structure OutboxRow (Hash : Type) where
  id : Name
  sessionId : String
  logicalSeq : Int
  lane : String
  coalesceKey : Option Name
  idempotencyKey : Name
  state : OutboxState := .pending
  attempts : Nat := 0
  nextAttemptAt : ℚ
  createdAt : ℚ
  updatedAt : ℚ
  contentKey : Option Name
  contentHash : Option Hash
  renderKind : RenderKind
  finalized : Bool
  sourceSubmissionId : Option String
  sourceOutboxId : Option Name := none
  payloadRevision : Nat := 1

/-- A row of `render_messages`. -/
structure MessageRow (Hash : Type) where
  sessionId : String
  logicalKey : Name
  discordMessageId : String
  contentHash : Hash
  finalized : Bool

/-- The two tables and the volatile content store. -/
structure Store (Hash : Type) where
  outbox : List (OutboxRow Hash) := []
  messages : List (MessageRow Hash) := []
  content : List (Name × Payload) := []

structure OutboxItem (Hash : Type) where
  id : Name
  sessionId : String
  logicalSeq : Int
  lane : String
  coalesceKey : Option Name
  idempotencyKey : Name
  payload : Option Payload
  renderKind : RenderKind
  submissionId : Option String
  contentKey : Option Name
  contentHash : Option Hash
  payloadRevision : Nat
  attempts : Nat

structure Settings (Hash : Type) where
  payloadHash : Payload ↪ Hash
  claimTimeoutSeconds : ℚ := 60
  maxTransientAttempts : Nat := 3

variable {Hash : Type}

/-- `VolatileContentStore.get`. -/
def contentOf [DecidableEq Hash] (settings : Settings Hash) (key : Option Name)
    (expectedHash : Option Hash) (content : List (Name × Payload)) : Option Payload := do
  let payload ← get (← key) content
  match expectedHash with
  | some expected => if settings.payloadHash payload = expected then some payload else none
  | none => some payload

/-! ## Upserts of the reducer -/

/-- `_compensate_content_unavailable_fallback`, on the outbox. -/
def compensate (source : Name) (now : ℚ) (store : Store Hash) : Store Hash :=
  { store with
    outbox := updateWhere
      (fun row => row.renderKind = .contentUnavailable &&
        (row.state = .pending || row.state = .sending || row.state = .blocked ||
          row.state = .sent) &&
        row.sourceOutboxId = some source)
      (fun row => { row with state := .superseded, contentKey := none, updatedAt := now })
      store.outbox }

def RenderIntent.row (settings : Settings Hash) (intent : RenderIntent) (nextAttemptAt now : ℚ) :
    OutboxRow Hash where
  id := .plain intent.id
  sessionId := intent.sessionId
  logicalSeq := intent.logicalSeq
  lane := intent.lane
  coalesceKey := intent.coalesceKey.map .plain
  idempotencyKey := .plain intent.idempotencyKey
  nextAttemptAt
  createdAt := now
  updatedAt := now
  contentKey := some (.plain intent.id)
  contentHash := some (settings.payloadHash intent.payload)
  renderKind := intent.payload.type
  finalized := intent.payload.finalized
  sourceSubmissionId := intent.payload.submissionId

/-- `ON CONFLICT(idempotency_key) DO UPDATE`: what the two upserts share. -/
def OutboxRow.revise (row excluded : OutboxRow Hash) (state : OutboxState)
    (nextAttemptAt : ℚ) : OutboxRow Hash :=
  { row with
    logicalSeq := excluded.logicalSeq
    lane := excluded.lane
    coalesceKey := excluded.coalesceKey
    contentKey := excluded.contentKey
    contentHash := excluded.contentHash
    renderKind := excluded.renderKind
    finalized := excluded.finalized
    sourceSubmissionId := excluded.sourceSubmissionId.or row.sourceSubmissionId
    sourceOutboxId := excluded.sourceOutboxId
    payloadRevision := row.payloadRevision + 1
    state
    nextAttemptAt
    updatedAt := excluded.updatedAt }

/-- `INSERT`; `none` if the identifier is taken. -/
def insertRow (row : OutboxRow Hash) (store : Store Hash) : Option (Store Hash) :=
  if (lookup OutboxRow.id row.id store.outbox).isSome then none
  else some { store with outbox := store.outbox ++ [row] }

/-- `INSERT … ON CONFLICT(idempotency_key) DO UPDATE`. -/
def upsertRow (excluded : OutboxRow Hash) (revise : OutboxRow Hash → OutboxRow Hash)
    (store : Store Hash) : Option (Store Hash) :=
  match lookup OutboxRow.idempotencyKey excluded.idempotencyKey store.outbox with
  | some _ => some { store with
      outbox := updateWhere (fun row => row.idempotencyKey = excluded.idempotencyKey) revise
        store.outbox }
  | none => insertRow excluded store

/-- `INSERT … ON CONFLICT(idempotency_key) DO NOTHING`. -/
def insertOrIgnore (row : OutboxRow Hash) (store : Store Hash) : Option (Store Hash) :=
  match lookup OutboxRow.idempotencyKey row.idempotencyKey store.outbox with
  | some _ => some store
  | none => insertRow row store

/-- `_content_store.put` under the key of the intent. -/
def putContent (intent : RenderIntent) (store : Store Hash) : Store Hash :=
  { store with content := set (.plain intent.id) intent.payload store.content }

/-- A row that is finalized stays so, except for a tool card that is opened again. -/
def keepsFinal (existing : OutboxRow Hash) (intent : RenderIntent) : Bool :=
  existing.finalized && !intent.payload.finalized &&
    !(existing.renderKind = .toolCard && intent.payload.type = .toolCard)

def holdsContent [DecidableEq Hash] (settings : Settings Hash) (intent : RenderIntent)
    (store : Store Hash) : Bool :=
  (contentOf settings (some (.plain intent.id)) (some (settings.payloadHash intent.payload))
    store.content).isSome

def queueRenderIntent [DecidableEq Hash] (settings : Settings Hash) (intent : RenderIntent)
    (nextAttemptAt now : ℚ) (store : Store Hash) : Option (Store Hash) :=
  let excluded := intent.row settings nextAttemptAt now
  let revise (row : OutboxRow Hash) := row.revise excluded
    (if row.state = .sending then .sending else .pending)
    (if row.state = .pending ∨ row.state = .sending then
      max row.nextAttemptAt nextAttemptAt else nextAttemptAt)
  match lookup OutboxRow.idempotencyKey (.plain intent.idempotencyKey) store.outbox with
  | none => do
    let inserted ← upsertRow excluded revise (putContent intent store)
    some (compensate (.plain intent.id) now inserted)
  | some existing =>
    if !intent.payload.stable || keepsFinal existing intent then some store
    else if existing.contentHash = excluded.contentHash ∧ existing.state = .sent then some store
    else if existing.contentHash = excluded.contentHash ∧ holdsContent settings intent store then
      some (compensate existing.id now store)
    else do
      let revised ← upsertRow excluded revise (putContent intent store)
      some (compensate existing.id now revised)

/-- One intent of `_recover_volatile_event`, which replays events after a restart. -/
def recoverRenderIntent [DecidableEq Hash] (settings : Settings Hash) (intent : RenderIntent)
    (now : ℚ)
    (store : Store Hash) : Option (Store Hash) :=
  let excluded := intent.row settings now now
  let revise (row : OutboxRow Hash) := row.revise excluded
    (if row.state = .sent then .sent else if row.state = .sending then .sending else .pending)
    (min row.nextAttemptAt now)
  match lookup OutboxRow.idempotencyKey (.plain intent.idempotencyKey) store.outbox with
  | none => do
    let inserted ← upsertRow excluded revise (putContent intent store)
    some (compensate (.plain intent.id) now inserted)
  | some existing =>
    if existing.state = .sent then
      some { store with content := pop (.plain intent.id) store.content }
    else if keepsFinal existing intent then some store
    else if existing.contentHash = excluded.contentHash ∧ holdsContent settings intent store then
      some (compensate existing.id now store)
    else if !intent.payload.stable && existing.contentHash ≠ excluded.contentHash then some store
    else do
      let revised ← upsertRow excluded revise (putContent intent store)
      some (compensate existing.id now revised)

/-! ## Claims -/

/-- The first statement of `_claim`: claims that are too old are given up. -/
def releaseStale (settings : Settings Hash) (now : ℚ) (outbox : List (OutboxRow Hash)) :
    List (OutboxRow Hash) :=
  updateWhere
    (fun row => row.state = .sending && row.updatedAt ≤ now - settings.claimTimeoutSeconds)
    (fun row => { row with state := .pending, updatedAt := now }) outbox

/-- A later row of the session with the same coalesce key is pending. -/
def coalesced (outbox : List (OutboxRow Hash)) (older : OutboxRow Hash) : Bool :=
  older.coalesceKey.isSome && outbox.any fun newer =>
    newer.sessionId = older.sessionId && newer.coalesceKey = older.coalesceKey &&
      newer.state = .pending && newer.logicalSeq > older.logicalSeq

def supersede (now : ℚ) (outbox : List (OutboxRow Hash)) : List (OutboxRow Hash) :=
  updateWhere (fun row => row.state = .pending && coalesced outbox row)
    (fun row => { row with state := .superseded, contentKey := none, updatedAt := now }) outbox

/-- An earlier row of the session is not settled. -/
def heldBack (outbox : List (OutboxRow Hash)) (candidate : OutboxRow Hash) : Bool :=
  outbox.any fun earlier =>
    earlier.sessionId = candidate.sessionId &&
      (earlier.state = .pending || earlier.state = .sending) &&
      (earlier.logicalSeq < candidate.logicalSeq ||
        (earlier.logicalSeq = candidate.logicalSeq && earlier.createdAt < candidate.createdAt))

/-- `ORDER BY session_id, logical_seq, created_at`. -/
def claimOrder (a b : OutboxRow Hash) : Prop :=
  a.sessionId < b.sessionId ∨ a.sessionId = b.sessionId ∧
    (a.logicalSeq < b.logicalSeq ∨ a.logicalSeq = b.logicalSeq ∧ a.createdAt ≤ b.createdAt)

instance : DecidableRel (@claimOrder Hash) := fun a b =>
  inferInstanceAs (Decidable (a.sessionId < b.sessionId ∨ a.sessionId = b.sessionId ∧
    (a.logicalSeq < b.logicalSeq ∨ a.logicalSeq = b.logicalSeq ∧ a.createdAt ≤ b.createdAt)))

def candidates (limit : Nat) (now : ℚ) (outbox : List (OutboxRow Hash)) : List (OutboxRow Hash) :=
  (List.insertionSort claimOrder (outbox.filter fun row =>
    row.state = .pending && row.nextAttemptAt ≤ now && !heldBack outbox row)).take limit

def OutboxRow.item [DecidableEq Hash] (settings : Settings Hash) (content : List (Name × Payload))
    (row : OutboxRow Hash) : OutboxItem Hash where
  id := row.id
  sessionId := row.sessionId
  logicalSeq := row.logicalSeq
  lane := row.lane
  coalesceKey := row.coalesceKey
  idempotencyKey := row.idempotencyKey
  payload := contentOf settings row.contentKey row.contentHash content
  renderKind := row.renderKind
  submissionId := row.sourceSubmissionId
  contentKey := row.contentKey
  contentHash := row.contentHash
  payloadRevision := row.payloadRevision
  attempts := row.attempts + 1

/-- The loop over the selected rows. -/
def claimRows [DecidableEq Hash] (settings : Settings Hash) (content : List (Name × Payload))
    (now : ℚ) :
    List (OutboxRow Hash) → List (OutboxRow Hash) → List (OutboxRow Hash) × List (OutboxItem Hash)
  | outbox, [] => (outbox, [])
  | outbox, row :: rows =>
    let hit (other : OutboxRow Hash) : Bool := other.id = row.id && other.state = .pending
    let (claimed, items) := claimRows settings content now
      (updateWhere hit (fun row =>
        { row with state := .sending, attempts := row.attempts + 1, updatedAt := now }) outbox)
      rows
    (claimed, if rowcount hit outbox = 1 then row.item settings content :: items else items)

def claim [DecidableEq Hash] (settings : Settings Hash) (limit : Nat) (now : ℚ)
    (store : Store Hash) :
    Store Hash × List (OutboxItem Hash) :=
  let open_ := supersede now (releaseStale settings now store.outbox)
  let (outbox, items) := claimRows settings store.content now open_ (candidates limit now open_)
  ({ store with outbox }, items)

/-- `_restore_claim_ids`, for one identifier. -/
def restoreClaim (id : Name) (now : ℚ) (store : Store Hash) : Store Hash :=
  { store with
    outbox := updateWhere (fun row => row.id = id && row.state = .sending)
      (fun row => { row with
        state := .pending, nextAttemptAt := min row.nextAttemptAt now, updatedAt := now })
      store.outbox }

/-! ## Deliveries -/

/-- `item.coalesce_key or item.id`. -/
def OutboxItem.logicalKey (item : OutboxItem Hash) : Name :=
  (item.coalesceKey.filter (· ≠ .plain "")).getD item.id

/-- The row still is what was claimed. -/
def OutboxItem.current (item : OutboxItem Hash) (row : OutboxRow Hash) : Bool :=
  row.id = item.id && row.state = .sending && row.payloadRevision = item.payloadRevision

/-- The row is claimed and has a newer payload. -/
def OutboxItem.outdated (item : OutboxItem Hash) (row : OutboxRow Hash) : Bool :=
  row.id = item.id && row.state = .sending && row.payloadRevision > item.payloadRevision

def fixedContentUnavailablePayload (submissionId : Option String) : Payload where
  type := .other "render.content_unavailable"
  content := "**Response content unavailable**\nThe process restarted before volatile content " ++
    "could be delivered. Code: `CD-CONTENT-UNAVAILABLE`."
  finalized := true
  submissionId

/-- The payload of `_attempt_render_failure_surface`. -/
def renderFailurePayload (submissionId : Option String) : Payload where
  type := .other "render.failure"
  content := "**Copilot could not render this response.**\nDiscord rejected the live response " ++
    "payload. Code: `CD-RENDER-DELIVERY`."
  finalized := true
  submissionId

/-- `_with_reconstructed_content_unavailable`, if it applies. -/
def OutboxItem.livePayload (item : OutboxItem Hash) : Option Payload :=
  match item.payload with
  | some payload => some payload
  | none =>
    if item.renderKind = .contentUnavailable then
      some (fixedContentUnavailablePayload item.submissionId)
    else none

/-- The fallback row of `_mark_content_unavailable`. -/
def OutboxItem.fallbackRow (item : OutboxItem Hash) (now : ℚ) : OutboxRow Hash where
  id := .contentUnavailable item.id item.payloadRevision
  sessionId := item.sessionId
  logicalSeq := item.logicalSeq
  lane := "status"
  coalesceKey := some item.logicalKey
  idempotencyKey := .contentUnavailable item.idempotencyKey item.payloadRevision
  nextAttemptAt := now
  createdAt := now
  updatedAt := now
  contentKey := none
  contentHash := none
  renderKind := .contentUnavailable
  finalized := true
  sourceSubmissionId := item.submissionId
  sourceOutboxId := some item.id

def markContentUnavailable (item : OutboxItem Hash) (now : ℚ) (store : Store Hash) :
    Option (Store Hash) :=
  if store.outbox.any item.current then
    (insertOrIgnore (item.fallbackRow now) store).map fun surfaced => { surfaced with
      outbox := updateWhere item.current
        (fun row => { row with state := .contentUnavailable, contentKey := none, updatedAt := now })
        surfaced.outbox }
  else some store

/-- The mapping of a logical key to a Discord message. -/
def messageOf (sessionId : String) (logicalKey : Name) (store : Store Hash) :
    Option (MessageRow Hash) :=
  lookup (fun row => (row.sessionId, row.logicalKey)) (sessionId, logicalKey) store.messages

/-- `INSERT INTO render_messages … ON CONFLICT DO UPDATE`. -/
def recordMessage (message : MessageRow Hash) (store : Store Hash) : Store Hash :=
  { store with
    messages :=
      match messageOf message.sessionId message.logicalKey store with
      | some _ => updateWhere
          (fun row => row.sessionId = message.sessionId && row.logicalKey = message.logicalKey)
          (fun row => { row with
            discordMessageId := message.discordMessageId
            contentHash := message.contentHash
            finalized := row.finalized || message.finalized }) store.messages
      | none => store.messages ++ [message] }

/-- The last transaction of `_deliver_locked`; `none` if the claim was lost. -/
def settleDelivery (settings : Settings Hash) (item : OutboxItem Hash) (payload : Payload)
    (messageId : String) (now wallNow : ℚ) (store : Store Hash) : Option (Store Hash) :=
  let recorded := recordMessage
    { sessionId := item.sessionId
      logicalKey := item.logicalKey
      discordMessageId := messageId
      contentHash := settings.payloadHash payload
      finalized := payload.finalized } store
  if rowcount item.current store.outbox ≠ 0 then
    some { recorded with
      outbox := updateWhere item.current
        (fun row => { row with state := .sent, contentKey := none, updatedAt := now })
        store.outbox }
  else if rowcount item.outdated store.outbox = 1 then
    some { recorded with
      outbox := updateWhere item.outdated
        (fun row => { row with
          state := .pending, nextAttemptAt := min row.nextAttemptAt wallNow, updatedAt := now })
        store.outbox }
  else none

/-- `_transition_failed_claim`; the flag tells that the row took the state. -/
def transitionFailedClaim (item : OutboxItem Hash) (state : OutboxState)
    (nextAttemptAt : Option ℚ) (now : ℚ) (store : Store Hash) : Option (Store Hash × Bool) :=
  if rowcount item.current store.outbox = 1 then
    some ({ store with
      outbox := updateWhere item.current
        (fun row => { row with
          state, nextAttemptAt := nextAttemptAt.getD row.nextAttemptAt, updatedAt := now })
        store.outbox }, true)
  else if rowcount item.outdated store.outbox = 1 then
    some ({ store with
      outbox := updateWhere item.outdated
        (fun row => { row with
          state := .pending, nextAttemptAt := min row.nextAttemptAt now, updatedAt := now })
        store.outbox }, false)
  else none

/-- `_retry` and `_block`. -/
def retry (item : OutboxItem Hash) (nextAttemptAt now : ℚ) (store : Store Hash) :
    Option (Store Hash × Bool) :=
  transitionFailedClaim item .pending (some nextAttemptAt) now store

def block (item : OutboxItem Hash) (now : ℚ) (store : Store Hash) : Option (Store Hash × Bool) :=
  transitionFailedClaim item .blocked none now store

/-- `retry_now + min(2 ** (item.attempts - 1), 30)`. -/
def OutboxItem.backoff (item : OutboxItem Hash) (now : ℚ) : ℚ :=
  now + min (2 ^ (item.attempts - 1)) 30

inductive TransportError where
  | rateLimited (retryAfter : ℚ)
  | transient
  | permanent
  /-- The errors that `_deliver` handles. -/
  | request
  deriving DecidableEq

/-- What the handler of a transport error does to the claim; the flag tells that the
failure is to be surfaced. -/
def failDelivery (settings : Settings Hash) (item : OutboxItem Hash) (error : TransportError)
    (now : ℚ) (store : Store Hash) : Option (Store Hash × Bool) :=
  match error with
  | .rateLimited retryAfter => (retry item (now + retryAfter) now store).map fun r => (r.1, false)
  | .transient =>
    if item.attempts ≥ settings.maxTransientAttempts then block item now store
    else (retry item (item.backoff now) now store).map fun r => (r.1, false)
  | .permanent => block item now store
  | .request =>
    (if item.attempts ≥ settings.maxTransientAttempts then block item now store
      else retry item (item.backoff now) now store).map fun r => (r.1, false)

/-- The statement of `_record_render_failure`, and whether it found the row. -/
def recordRenderFailure (item : OutboxItem Hash) (now : ℚ) (store : Store Hash) :
    Store Hash × Bool :=
  let hit (row : OutboxRow Hash) : Bool :=
    row.id = item.id && row.state = .blocked && row.payloadRevision = item.payloadRevision
  ({ store with
      outbox := updateWhere hit (fun row => { row with updatedAt := now }) store.outbox },
    rowcount hit store.outbox = 1)

/-- The mapping that `_attempt_render_failure_surface` writes. -/
def recordSurface (settings : Settings Hash) (item : OutboxItem Hash) (payload : Payload)
    (messageId : String) (store : Store Hash) : Store Hash :=
  recordMessage
    { sessionId := item.sessionId
      logicalKey := item.logicalKey
      discordMessageId := messageId
      contentHash := settings.payloadHash (renderFailurePayload payload.submissionId)
      finalized := true } store

end Copilotd.Source.Render.Outbox
