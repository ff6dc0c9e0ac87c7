import Copilotd.Base.Pool
import Copilotd.Base.Run
import Copilotd.Source.Render.Outbox

/-!
# The outbox converges

The reducer gives a row a new payload revision at any time; dispatchers claim rows,
send the payload they found at the claim, and settle the row afterwards.  A row is
only ever marked as sent for the revision that was sent, and a revision that comes
in during a send makes the row pending again, however the send ends
(`outbox_converges`).

Any number of dispatchers share the tables; `render_delivery_lock` lets one of them
deliver at a time.  The order in which a dispatcher goes through its batch is left
open, and content may leave the volatile store at any time.
-/
namespace Copilotd.Guarantees.OutboxConvergence

open Base.Run Base.Table Base.Pool Base.Dict Source.Render.Outbox

variable {Hash : Type}

/-- Where `_deliver_locked` is suspended. -/
inductive Delivery (Hash : Type) where
  /-- Before the transaction of `_mark_content_unavailable`. -/
  | unavailable (item : OutboxItem Hash)
  /-- Before the mapping is read. -/
  | looking (item : OutboxItem Hash) (payload : Payload)
  /-- In the transport. -/
  | sending (item : OutboxItem Hash) (payload : Payload)
  /-- Before the last transaction. -/
  | settling (item : OutboxItem Hash) (payload : Payload) (messageId : String)
  /-- Before the transaction of `_record_render_failure`. -/
  | recording (item : OutboxItem Hash) (payload : Payload)
  /-- In the transport with the failure message. -/
  | surfacing (item : OutboxItem Hash) (payload : Payload)
  | surfaced (item : OutboxItem Hash) (payload : Payload) (messageId : String)

def Delivery.item : Delivery Hash → OutboxItem Hash
  | .unavailable item | .looking item _ | .sending item _ | .settling item _ _
  | .recording item _ | .surfacing item _ | .surfaced item _ _ => item

structure World (Hash : Type) where
  store : Store Hash := {}
  /-- Items of the batches that no dispatcher has come to yet. -/
  claimed : List (OutboxItem Hash) := []
  /-- The holder of `render_delivery_lock`. -/
  delivering : Option (Delivery Hash) := none
  /-- The tasks of `_restore_claim_ids`. -/
  restoring : List Name := []
  /-- The payload of every revision that a row ever had. -/
  rendered : Name → Nat → Option Payload := fun _ _ => none
  /-- What the transport accepted, with the session. -/
  accepted : List (String × Payload) := []
  /-- How often the process was started again. -/
  restarts : Nat := 0

inductive Label where
  | queue (intent : RenderIntent) (nextAttemptAt now : ℚ)
  | recover (intent : RenderIntent) (now : ℚ)
  | forget (key : Name)
  | claim (limit : Nat) (now : ℚ)
  /-- A claim whose transaction is rolled back; its identifiers are restored. -/
  | claimRolledBack (limit : Nat) (now : ℚ)
  | deliver (index : Nat)
  | markUnavailable (now : ℚ)
  | look
  | accept (messageId : String)
  | fail (error : TransportError) (now : ℚ)
  | settle (now wallNow : ℚ)
  | record (now : ℚ)
  | recordSurface
  /-- The delivery is cancelled, or it raises. -/
  | interrupt
  /-- A dispatcher gives up an item of its batch. -/
  | abandon (index : Nat)
  | restore (index : Nat) (now : ℚ)
  | restart

/-- The revisions that a transaction introduced have this payload. -/
def logRevisions (before after : List (OutboxRow Hash)) (payload : Payload)
    (rendered : Name → Nat → Option Payload) : Name → Nat → Option Payload :=
  fun id revision =>
    let has (row : OutboxRow Hash) : Bool := row.id = id && row.payloadRevision = revision
    if after.any has && !before.any has then some payload else rendered id revision

/-- A reducer transaction that renders the payload. -/
def World.render (w : World Hash) (payload : Payload) (after : Option (Store Hash)) :
    Option (World Hash) :=
  after.map fun store => { w with
    store
    rendered := logRevisions w.store.outbox store.outbox payload w.rendered }

/-- The delivery is over, and its row has to be restored. -/
def World.interrupted (w : World Hash) (item : OutboxItem Hash) : World Hash :=
  { w with delivering := none, restoring := w.restoring ++ [item.id] }

def step [DecidableEq Hash] (settings : Settings Hash) (w : World Hash) :
    Label → Option (World Hash)
  | .queue intent nextAttemptAt now =>
    w.render intent.payload (queueRenderIntent settings intent nextAttemptAt now w.store)
  | .recover intent now => w.render intent.payload (recoverRenderIntent settings intent now w.store)
  | .forget key => some { w with store := { w.store with content := pop key w.store.content } }
  | .claim limit now =>
    let (store, items) := claim settings limit now w.store
    some { w with store, claimed := w.claimed ++ items }
  | .claimRolledBack limit now =>
    some { w with
      restoring := w.restoring ++ (claim settings limit now w.store).2.map OutboxItem.id }
  | .deliver index => do
    let item ← w.claimed[index]?
    let taken := { w with claimed := w.claimed.eraseIdx index }
    match w.delivering, (lookup OutboxRow.id item.id w.store.outbox).map OutboxRow.state with
    | none, some .sending =>
      match item.livePayload with
      | some payload => some { taken with delivering := some (.looking item payload) }
      | none => some { taken with delivering := some (.unavailable item) }
    | none, _ => some taken
    | some _, _ => none
  | .markUnavailable now =>
    match w.delivering with
    | some (.unavailable item) =>
      match markContentUnavailable item now w.store with
      | some store =>
        ({ w with delivering := none } : World Hash).render
          (fixedContentUnavailablePayload item.submissionId) (some store)
      | none => some (w.interrupted item)
    | _ => none
  | .look =>
    match w.delivering with
    | some (.looking item payload) =>
      match messageOf item.sessionId item.logicalKey w.store with
      | some message =>
        if message.contentHash = settings.payloadHash payload then
          some { w with delivering := some (.settling item payload message.discordMessageId) }
        else some { w with delivering := some (.sending item payload) }
      | none => some { w with delivering := some (.sending item payload) }
    | _ => none
  | .accept messageId =>
    match w.delivering with
    | some (.sending item payload) => some { w with
        accepted := w.accepted ++ [(item.sessionId, payload)]
        delivering := some (.settling item payload messageId) }
    | some (.surfacing item payload) => some { w with
        accepted := w.accepted ++ [(item.sessionId, renderFailurePayload payload.submissionId)]
        delivering := some (.surfaced item payload messageId) }
    | _ => none
  | .fail error now =>
    match w.delivering with
    | some (.sending item payload) =>
      match failDelivery settings item error now w.store with
      | some (store, true) => some { w with store, delivering := some (.recording item payload) }
      | some (store, false) => some { w with store, delivering := none }
      | none => some (w.interrupted item)
    | some (.surfacing item _) =>
      -- Only the errors that `_deliver` handles leave `_attempt_render_failure_surface`.
      if error = .request then
        match failDelivery settings item error now w.store with
        | some (store, _) => some { w with store, delivering := none }
        | none => some (w.interrupted item)
      else some { w with delivering := none }
    | _ => none
  | .settle now wallNow =>
    match w.delivering with
    | some (.settling item payload messageId) =>
      match settleDelivery settings item payload messageId now wallNow w.store with
      | some store => some { w with store, delivering := none }
      | none => some (w.interrupted item)
    | _ => none
  | .record now =>
    match w.delivering with
    | some (.recording item payload) =>
      let (store, recorded) := recordRenderFailure item now w.store
      some { w with store, delivering := if recorded then some (.surfacing item payload) else none }
    | _ => none
  | .recordSurface =>
    match w.delivering with
    | some (.surfaced item payload messageId) =>
      some { w with
        store := recordSurface settings item payload messageId w.store
        delivering := none }
    | _ => none
  | .interrupt => w.delivering.map fun delivery => w.interrupted delivery.item
  | .abandon index => do
    let item ← w.claimed[index]?
    some { w with
      claimed := w.claimed.eraseIdx index
      restoring := w.restoring ++ [item.id] }
  | .restore index now => do
    let id ← w.restoring[index]?
    some { w with
      store := restoreClaim id now w.store
      restoring := w.restoring.eraseIdx index }
  | .restart => some { w with
      store := { w.store with content := [] }
      claimed := []
      delivering := none
      restoring := []
      restarts := w.restarts + 1 }

/-! ## What statements leave alone -/

def rowOf (id : Name) (outbox : List (OutboxRow Hash)) : Option (OutboxRow Hash) :=
  lookup OutboxRow.id id outbox

/-- A statement that does not touch the payload of the row and does not mark it as
sent. -/
structure Kept (old new : OutboxRow Hash) : Prop where
  id : new.id = old.id
  idempotencyKey : new.idempotencyKey = old.idempotencyKey
  sessionId : new.sessionId = old.sessionId
  payloadRevision : new.payloadRevision = old.payloadRevision
  contentHash : new.contentHash = old.contentHash
  renderKind : new.renderKind = old.renderKind
  sourceSubmissionId : new.sourceSubmissionId = old.sourceSubmissionId
  contentKey : new.contentKey = old.contentKey ∨ new.contentKey = none
  sent : new.state = .sent → old.state = .sent

theorem Kept.refl (row : OutboxRow Hash) : Kept row row :=
  ⟨rfl, rfl, rfl, rfl, rfl, rfl, rfl, .inl rfl, fun is => is⟩

theorem Kept.trans {a b c : OutboxRow Hash} (first : Kept a b) (second : Kept b c) : Kept a c where
  id := second.id.trans first.id
  idempotencyKey := second.idempotencyKey.trans first.idempotencyKey
  sessionId := second.sessionId.trans first.sessionId
  payloadRevision := second.payloadRevision.trans first.payloadRevision
  contentHash := second.contentHash.trans first.contentHash
  renderKind := second.renderKind.trans first.renderKind
  sourceSubmissionId := second.sourceSubmissionId.trans first.sourceSubmissionId
  contentKey := by
    rcases second.contentKey with same | gone
    · rw [same]
      exact first.contentKey
    · exact .inr gone
  sent := first.sent ∘ second.sent

structure Keeps (before after : List (OutboxRow Hash)) : Prop where
  ids : after.map OutboxRow.id = before.map OutboxRow.id
  keys : after.map OutboxRow.idempotencyKey = before.map OutboxRow.idempotencyKey
  rows : ∀ id row, rowOf id before = some row → ∃ new, rowOf id after = some new ∧ Kept row new

theorem Keeps.refl (outbox : List (OutboxRow Hash)) : Keeps outbox outbox :=
  ⟨rfl, rfl, fun _ row found => ⟨row, found, .refl row⟩⟩

theorem Keeps.trans {a b c : List (OutboxRow Hash)} (first : Keeps a b) (second : Keeps b c) :
    Keeps a c := by
  refine ⟨second.ids.trans first.ids, second.keys.trans first.keys, ?_⟩
  intro id row found
  obtain ⟨mid, foundMid, kept⟩ := first.rows id row found
  obtain ⟨new, foundNew, keptMid⟩ := second.rows id mid foundMid
  exact ⟨new, foundNew, kept.trans keptMid⟩

theorem keeps_updateWhere {hit : OutboxRow Hash → Bool} {set : OutboxRow Hash → OutboxRow Hash}
    (kept : ∀ row, Kept row (set row)) (outbox : List (OutboxRow Hash)) :
    Keeps outbox (updateWhere hit set outbox) := by
  refine ⟨map_updateWhere (fun row => (kept row).id) outbox,
    map_updateWhere (fun row => (kept row).idempotencyKey) outbox, ?_⟩
  intro id row found
  unfold rowOf at found ⊢
  rw [lookup_updateWhere fun row => (kept row).id, found]
  refine ⟨_, rfl, ?_⟩
  dsimp only
  split
  · exact kept row
  · exact .refl row

variable {before : List (OutboxRow Hash)} {id : Name}

theorem rowOf_none_of_ids {after : List (OutboxRow Hash)}
    (ids : after.map OutboxRow.id = before.map OutboxRow.id) (absent : rowOf id before = none) :
    rowOf id after = none := by
  unfold rowOf at absent ⊢
  rw [lookup_eq_none] at absent ⊢
  intro row member same
  have taken : row.id ∈ before.map OutboxRow.id := by
    rw [← ids]
    exact List.mem_map_of_mem member
  obtain ⟨other, inBefore, is⟩ := List.mem_map.mp taken
  exact absent other inBefore (is.trans same)

theorem compensate_keeps (source : Name) (now : ℚ) (store : Store Hash) :
    Keeps store.outbox (compensate source now store).outbox := by
  refine keeps_updateWhere ?_ _
  intro row
  exact ⟨rfl, rfl, rfl, rfl, rfl, rfl, rfl, .inr rfl, fun is => by cases is⟩

theorem releaseStale_keeps (settings : Settings Hash) (now : ℚ) (outbox : List (OutboxRow Hash)) :
    Keeps outbox (releaseStale settings now outbox) := by
  refine keeps_updateWhere ?_ _
  intro row
  exact ⟨rfl, rfl, rfl, rfl, rfl, rfl, rfl, .inl rfl, fun is => by cases is⟩

theorem supersede_keeps (now : ℚ) (outbox : List (OutboxRow Hash)) :
    Keeps outbox (supersede now outbox) := by
  refine keeps_updateWhere ?_ _
  intro row
  exact ⟨rfl, rfl, rfl, rfl, rfl, rfl, rfl, .inr rfl, fun is => by cases is⟩

theorem claimRows_keeps [DecidableEq Hash] (settings : Settings Hash)
    (content : List (Name × Payload)) (now : ℚ)
    (outbox rows : List (OutboxRow Hash)) :
    Keeps outbox (claimRows settings content now outbox rows).1 := by
  induction rows generalizing outbox with
  | nil => exact .refl outbox
  | cons row rows ih =>
    refine Keeps.trans ?_ (ih _)
    refine keeps_updateWhere ?_ _
    intro row
    exact ⟨rfl, rfl, rfl, rfl, rfl, rfl, rfl, .inl rfl, fun is => by cases is⟩

theorem claim_keeps [DecidableEq Hash] (settings : Settings Hash) (limit : Nat) (now : ℚ)
    (store : Store Hash) :
    Keeps store.outbox (claim settings limit now store).1.outbox :=
  ((releaseStale_keeps settings now store.outbox).trans (supersede_keeps now _)).trans
    (claimRows_keeps settings store.content now _ _)

theorem restoreClaim_keeps (id : Name) (now : ℚ) (store : Store Hash) :
    Keeps store.outbox (restoreClaim id now store).outbox := by
  refine keeps_updateWhere ?_ _
  intro row
  exact ⟨rfl, rfl, rfl, rfl, rfl, rfl, rfl, .inl rfl, fun is => by cases is⟩

theorem recordRenderFailure_keeps (item : OutboxItem Hash) (now : ℚ) (store : Store Hash) :
    Keeps store.outbox (recordRenderFailure item now store).1.outbox := by
  refine keeps_updateWhere ?_ _
  intro row
  exact ⟨rfl, rfl, rfl, rfl, rfl, rfl, rfl, .inl rfl, fun is => is⟩

variable {now : ℚ} {item : OutboxItem Hash} {result : Store Hash × Bool} {store : Store Hash}
  {state : OutboxState}

theorem transitionFailedClaim_keeps {nextAttemptAt : Option ℚ} (unsent : state ≠ .sent)
    (done : transitionFailedClaim item state nextAttemptAt now store = some result) :
    Keeps store.outbox result.1.outbox ∧ result.1.messages = store.messages := by
  unfold transitionFailedClaim at done
  split at done
  · cases done
    refine ⟨keeps_updateWhere ?_ _, rfl⟩
    intro row
    exact ⟨rfl, rfl, rfl, rfl, rfl, rfl, rfl, .inl rfl, fun is => absurd is unsent⟩
  · split at done
    · cases done
      refine ⟨keeps_updateWhere ?_ _, rfl⟩
      intro row
      exact ⟨rfl, rfl, rfl, rfl, rfl, rfl, rfl, .inl rfl, fun is => by cases is⟩
    · cases done

variable {error : TransportError} {settings : Settings Hash}

theorem failDelivery_transition (done : failDelivery settings item error now store = some result) :
    ∃ state nextAttemptAt taken, state ≠ .sent ∧
      transitionFailedClaim item state nextAttemptAt now store = some (result.1, taken) ∧
      (result.2 = true → taken = true) := by
  have retried : ∀ next, ((retry item next now store).map fun r => (r.1, false)) = some result →
      ∃ state nextAttemptAt taken, state ≠ .sent ∧
        transitionFailedClaim item state nextAttemptAt now store = some (result.1, taken) ∧
        (result.2 = true → taken = true) := by
    intro next is
    obtain ⟨⟨after, taken⟩, transitioned, same⟩ := Option.map_eq_some_iff.mp is
    cases same
    exact ⟨.pending, some next, taken, by simp, transitioned, by simp⟩
  have blocked : block item now store = some result →
      ∃ state nextAttemptAt taken, state ≠ .sent ∧
        transitionFailedClaim item state nextAttemptAt now store = some (result.1, taken) ∧
        (result.2 = true → taken = true) := by
    intro is
    exact ⟨.blocked, none, result.2, by simp, is, id⟩
  unfold failDelivery at done
  split at done
  · exact retried _ done
  · split at done
    · exact blocked done
    · exact retried _ done
  · exact blocked done
  · split at done
    · obtain ⟨⟨after, taken⟩, transitioned, same⟩ := Option.map_eq_some_iff.mp done
      cases same
      exact ⟨.blocked, none, taken, by simp, transitioned, by simp⟩
    · exact retried _ done

/-! ## What the reducer does -/

/-- The row describes the payload: by its hash, or as a fallback row. -/
structure Describes (settings : Settings Hash) (row : OutboxRow Hash) (payload : Payload) :
    Prop where
  fallback : row.renderKind = .contentUnavailable →
    row.contentKey = none ∧ payload = fixedContentUnavailablePayload row.sourceSubmissionId
  hash : row.renderKind ≠ .contentUnavailable →
    row.contentHash = some (settings.payloadHash payload)

variable {payload : Payload} {old new : OutboxRow Hash}

theorem Describes.kept (describes : Describes settings old payload) (kept : Kept old new) :
    Describes settings new payload := by
  constructor
  · intro kind
    obtain ⟨key, is⟩ := describes.fallback (kept.renderKind ▸ kind)
    refine ⟨?_, kept.sourceSubmissionId ▸ is⟩
    rcases kept.contentKey with same | gone
    · exact same.trans key
    · exact gone
  · intro kind
    rw [kept.contentHash]
    exact describes.hash (kept.renderKind ▸ kind)

/-- The row got the payload as its next revision. -/
structure Revised (settings : Settings Hash) (payload : Payload) (old new : OutboxRow Hash) :
    Prop where
  sessionId : new.sessionId = old.sessionId
  payloadRevision : new.payloadRevision = old.payloadRevision + 1
  renderKind : new.renderKind ≠ .contentUnavailable
  describes : Describes settings new payload
  state : new.state = if old.state = .sending then .sending else .pending

/-- A row that is no fallback keeps its state. -/
def Steady (old new : OutboxRow Hash) : Prop :=
  old.renderKind ≠ .contentUnavailable → new.state = old.state

/-- What a transaction that renders the payload may do to a row. -/
def Edge (settings : Settings Hash) (payload : Payload)
    (Stays : OutboxRow Hash → OutboxRow Hash → Prop) (old new : OutboxRow Hash) : Prop :=
  (Kept old new ∧ Stays old new) ∨ Revised settings payload old new

def Unique (outbox : List (OutboxRow Hash)) : Prop :=
  (outbox.map OutboxRow.id).Nodup ∧ (outbox.map OutboxRow.idempotencyKey).Nodup

/-- A transaction that renders the payload into a new row or a new revision, or into
nothing. -/
structure Renders (settings : Settings Hash) (payload : Payload)
    (Stays : OutboxRow Hash → OutboxRow Hash → Prop) (before after : Store Hash) : Prop where
  messages : after.messages = before.messages
  unique : Unique after.outbox
  rows : ∀ id row, rowOf id before.outbox = some row →
    ∃ new, rowOf id after.outbox = some new ∧ Edge settings payload Stays row new
  fresh : ∀ id new, rowOf id before.outbox = none → rowOf id after.outbox = some new →
    Describes settings new payload ∧ new.state ≠ .sent

theorem Keeps.unique {after : List (OutboxRow Hash)} (keeps : Keeps before after)
    (unique : Unique before) : Unique after := by
  unfold Unique
  rw [keeps.ids, keeps.keys]
  exact unique

theorem renders_refl (settings : Settings Hash) (payload : Payload) (unique : Unique store.outbox) :
    Renders settings payload Steady store store := by
  refine ⟨rfl, unique, fun _ row found => ⟨row, found, .inl ⟨.refl row, fun _ => rfl⟩⟩, ?_⟩
  intro id new absent found
  rw [absent] at found
  cases found

variable {Stays : OutboxRow Hash → OutboxRow Hash → Prop} {after : Store Hash}

theorem Renders.content {before : Store Hash}
    (renders : Renders settings payload Stays before after) (content : List (Name × Payload)) :
    Renders settings payload Stays before { after with content } :=
  ⟨renders.messages, renders.unique, renders.rows, renders.fresh⟩

theorem Renders.compensated {before : Store Hash} (source : Name) (now : ℚ)
    (renders : Renders settings payload Steady before store) :
    Renders settings payload Steady before (compensate source now store) := by
  have keeps := compensate_keeps source now store
  have still : ∀ id row new, rowOf id store.outbox = some row →
      rowOf id (compensate source now store).outbox = some new →
      row.renderKind ≠ .contentUnavailable → new = row := by
    intro id row new found also kind
    unfold rowOf compensate at *
    rw [lookup_updateWhere (by exact fun _ => rfl), found] at also
    simp only [Option.map_some, kind, decide_false, Bool.false_and, Bool.false_eq_true, if_false,
      Option.some.injEq] at also
    exact also.symm
  refine ⟨renders.messages, keeps.unique renders.unique, ?_, ?_⟩
  · intro id row found
    obtain ⟨mid, foundMid, edge⟩ := renders.rows id row found
    obtain ⟨new, foundNew, kept⟩ := keeps.rows id mid foundMid
    refine ⟨new, foundNew, ?_⟩
    rcases edge with ⟨first, same⟩ | revised
    · refine .inl ⟨first.trans kept, ?_⟩
      intro kind
      rw [still id mid new foundMid foundNew (first.renderKind ▸ kind)]
      exact same kind
    · rw [still id mid new foundMid foundNew revised.renderKind]
      exact .inr revised
  · intro id new absent found
    cases missing : rowOf id store.outbox with
    | none =>
      rw [rowOf_none_of_ids keeps.ids missing] at found
      cases found
    | some mid =>
      obtain ⟨other, foundOther, kept⟩ := keeps.rows id mid missing
      rw [found] at foundOther
      cases foundOther
      obtain ⟨describes, unsent⟩ := renders.fresh id mid absent missing
      exact ⟨describes.kept kept, fun sent => unsent (kept.sent sent)⟩

theorem insertRow_renders {settings : Settings Hash} {payload : Payload} {row : OutboxRow Hash}
    {store inserted : Store Hash} (unique : Unique store.outbox)
    (newKey : lookup OutboxRow.idempotencyKey row.idempotencyKey store.outbox = none)
    (describes : Describes settings row payload) (unsent : row.state ≠ .sent)
    (done : insertRow row store = some inserted) :
    Renders settings payload Steady store inserted := by
  unfold insertRow at done
  split at done
  · cases done
  · next free =>
    cases done
    rw [Bool.not_eq_true, Option.isSome_eq_false_iff, Option.isNone_iff_eq_none] at free
    refine ⟨rfl, ⟨nodup_insert unique.1 (lookup_eq_none.mp free),
      nodup_insert unique.2 (lookup_eq_none.mp newKey)⟩, ?_, ?_⟩
    · intro id old found
      exact ⟨old, lookup_append_of_some found, .inl ⟨.refl old, fun _ => rfl⟩⟩
    · intro id new absent found
      unfold rowOf at absent found
      rw [lookup_append, absent, Option.none_or] at found
      have is : new = row := List.mem_singleton.mp (lookup_some_mem found)
      rw [is]
      exact ⟨describes, unsent⟩

theorem intent_describes (settings : Settings Hash) (intent : RenderIntent)
    (nextAttemptAt now : ℚ) :
    Describes settings (intent.row settings nextAttemptAt now) intent.payload :=
  ⟨fun kind => absurd kind intent.type_ne, fun _ => rfl⟩

variable {intent : RenderIntent} {nextAttemptAt : ℚ} {inserted : Store Hash}

theorem upsertRow_inserts {revise : OutboxRow Hash → OutboxRow Hash}
    (unique : Unique store.outbox)
    (free : lookup OutboxRow.idempotencyKey (.plain intent.idempotencyKey) store.outbox = none)
    (done : upsertRow (intent.row settings nextAttemptAt now) revise (putContent intent store) =
      some inserted) :
    Renders settings intent.payload Steady store inserted := by
  have absent : lookup OutboxRow.idempotencyKey
      (intent.row settings nextAttemptAt now).idempotencyKey (putContent intent store).outbox =
        none := free
  unfold upsertRow at done
  rw [absent] at done
  have unsent : (intent.row settings nextAttemptAt now).state ≠ .sent := by
    simp [RenderIntent.row]
  have renders := @insertRow_renders _ _ _ _ (putContent intent store) _ unique free
    (intent_describes ..) unsent done
  exact ⟨renders.messages, renders.unique, renders.rows, renders.fresh⟩

theorem upsertRow_renders {existing : OutboxRow Hash} {revised : Store Hash}
    {state : OutboxRow Hash → OutboxState} {next : OutboxRow Hash → ℚ}
    (unique : Unique store.outbox)
    (found : lookup OutboxRow.idempotencyKey (.plain intent.idempotencyKey) store.outbox =
      some existing)
    (takes : state existing = if existing.state = .sending then .sending else .pending)
    (done : upsertRow (intent.row settings nextAttemptAt now)
      (fun row => row.revise (intent.row settings nextAttemptAt now) (state row) (next row))
      (putContent intent store) = some revised) :
    Renders settings intent.payload Steady store revised := by
  have taken : lookup OutboxRow.idempotencyKey
      (intent.row settings nextAttemptAt now).idempotencyKey (putContent intent store).outbox =
        some existing := found
  unfold upsertRow at done
  rw [taken] at done
  dsimp only [putContent] at done
  cases done
  refine ⟨rfl, ?_, ?_, ?_⟩
  · constructor
    · rw [map_updateWhere (by exact fun _ => rfl)]
      exact unique.1
    · rw [map_updateWhere (by exact fun _ => rfl)]
      exact unique.2
  · intro id row selected
    unfold rowOf at selected ⊢
    rw [lookup_updateWhere (by exact fun _ => rfl), selected]
    refine ⟨_, rfl, ?_⟩
    dsimp only
    split
    · next hit =>
      rw [decide_eq_true_eq] at hit
      have is : existing = row := by
        have own := lookup_of_mem unique.2 (lookup_some_mem selected)
        rw [hit] at own
        exact Option.some.inj (taken.symm.trans own)
      subst is
      exact .inr ⟨rfl, rfl, intent.type_ne, ⟨fun kind => absurd kind intent.type_ne, fun _ => rfl⟩,
        takes⟩
    · exact .inl ⟨.refl row, fun _ => rfl⟩
  · intro id new absent selected
    unfold rowOf at absent selected
    rw [lookup_updateWhere (by exact fun _ => rfl), absent] at selected
    cases selected

theorem queueRenderIntent_renders [DecidableEq Hash] (unique : Unique store.outbox)
    (done : queueRenderIntent settings intent nextAttemptAt now store = some after) :
    Renders settings intent.payload Steady store after := by
  unfold queueRenderIntent at done
  dsimp only at done
  split at done
  · next free =>
    obtain ⟨inserted, put, done⟩ := Option.bind_eq_some_iff.mp done
    cases done
    exact (upsertRow_inserts unique free put).compensated _ _
  · next existing found =>
    split at done
    · cases done
      exact renders_refl settings intent.payload unique
    · split at done
      · cases done
        exact renders_refl settings intent.payload unique
      · split at done
        · cases done
          exact (renders_refl settings intent.payload unique).compensated _ _
        · obtain ⟨revised, put, done⟩ := Option.bind_eq_some_iff.mp done
          cases done
          exact (upsertRow_renders unique found rfl put).compensated _ _

theorem recoverRenderIntent_renders [DecidableEq Hash] (unique : Unique store.outbox)
    (done : recoverRenderIntent settings intent now store = some after) :
    Renders settings intent.payload Steady store after := by
  unfold recoverRenderIntent at done
  dsimp only at done
  split at done
  · next free =>
    obtain ⟨inserted, put, done⟩ := Option.bind_eq_some_iff.mp done
    cases done
    exact (upsertRow_inserts unique free put).compensated _ _
  · next existing found =>
    split at done
    · cases done
      exact (renders_refl settings intent.payload unique).content _
    · next unsent =>
      split at done
      · cases done
        exact renders_refl settings intent.payload unique
      · split at done
        · cases done
          exact (renders_refl settings intent.payload unique).compensated _ _
        · split at done
          · cases done
            exact renders_refl settings intent.payload unique
          · obtain ⟨revised, put, done⟩ := Option.bind_eq_some_iff.mp done
            cases done
            exact (upsertRow_renders unique found (if_neg unsent) put).compensated _ _

/-! ## The invariant -/

/-- The row describes the payload of its revision, and was sent only if the transport
accepted that payload. -/
def RowSound (settings : Settings Hash) (rendered : Name → Nat → Option Payload)
    (accepted : List (String × Payload)) (id : Name) (row : OutboxRow Hash) : Prop :=
  ∃ payload, rendered id row.payloadRevision = some payload ∧ Describes settings row payload ∧
    (row.state = .sent → (row.sessionId, payload) ∈ accepted)

/-- The item is of a revision that its row has or had. -/
structure ItemSound (outbox : List (OutboxRow Hash)) (rendered : Name → Nat → Option Payload)
    (item : OutboxItem Hash) : Prop where
  row : ∃ row, rowOf item.id outbox = some row ∧ row.sessionId = item.sessionId ∧
    item.payloadRevision ≤ row.payloadRevision
  payload : ∀ payload, item.livePayload = some payload →
    rendered item.id item.payloadRevision = some payload

def DeliverySound (rendered : Name → Nat → Option Payload) (accepted : List (String × Payload)) :
    Delivery Hash → Prop
  | .looking item payload | .sending item payload =>
    rendered item.id item.payloadRevision = some payload
  | .settling item payload _ =>
    rendered item.id item.payloadRevision = some payload ∧ (item.sessionId, payload) ∈ accepted
  | .surfaced item payload _ =>
    (item.sessionId, renderFailurePayload payload.submissionId) ∈ accepted
  | _ => True

/-- The items of which a dispatcher still holds a copy. -/
def World.inFlight (w : World Hash) : List (OutboxItem Hash) :=
  w.claimed ++ (w.delivering.map Delivery.item).toList

/-- Every mapping is of a payload that the transport accepted. -/
def MessagesSound (settings : Settings Hash) (accepted : List (String × Payload))
    (messages : List (MessageRow Hash)) : Prop :=
  ∀ message ∈ messages, ∃ payload,
    (message.sessionId, payload) ∈ accepted ∧ message.contentHash = settings.payloadHash payload

structure Sound (settings : Settings Hash) (w : World Hash) : Prop where
  unique : Unique w.store.outbox
  rows : ∀ id row, rowOf id w.store.outbox = some row →
    RowSound settings w.rendered w.accepted id row
  messages : MessagesSound settings w.accepted w.store.messages
  items : ∀ item ∈ w.inFlight, ItemSound w.store.outbox w.rendered item
  delivering : ∀ delivery ∈ w.delivering, DeliverySound w.rendered w.accepted delivery

theorem sound_initial (settings : Settings Hash) : Sound settings {} where
  unique := ⟨List.nodup_nil, List.nodup_nil⟩
  rows _ _ found := by cases found
  messages _ member := by cases member
  items := by simp [World.inFlight]
  delivering := by simp

variable {accepted : List (String × Payload)} {rendered : Name → Nat → Option Payload}

theorem RowSound.kept (sound : RowSound settings rendered accepted id old) (kept : Kept old new) :
    RowSound settings rendered accepted id new := by
  obtain ⟨payload, is, describes, sent⟩ := sound
  refine ⟨payload, kept.payloadRevision ▸ is, describes.kept kept, ?_⟩
  intro now
  rw [kept.sessionId]
  exact sent (kept.sent now)

theorem ItemSound.kept {after : List (OutboxRow Hash)} (sound : ItemSound before rendered item)
    (keeps : Keeps before after) :
    ItemSound after rendered item := by
  obtain ⟨⟨row, found, session, revision⟩, payload⟩ := sound
  obtain ⟨new, foundNew, kept⟩ := keeps.rows _ row found
  exact ⟨⟨new, foundNew, kept.sessionId.trans session, kept.payloadRevision ▸ revision⟩, payload⟩

theorem rows_kept {after : List (OutboxRow Hash)} (sound : ∀ id row, rowOf id before = some row →
      RowSound settings rendered accepted id row) (keeps : Keeps before after) :
    ∀ id row, rowOf id after = some row → RowSound settings rendered accepted id row := by
  intro id row found
  cases old : rowOf id before with
  | none =>
    rw [rowOf_none_of_ids keeps.ids old] at found
    cases found
  | some was =>
    obtain ⟨new, foundNew, kept⟩ := keeps.rows id was old
    rw [found] at foundNew
    cases foundNew
    exact (sound id was old).kept kept

variable {w v : World Hash}

theorem Sound.keep (sound : Sound settings w) (keeps : Keeps w.store.outbox v.store.outbox)
    (messages : v.store.messages = w.store.messages)
    (items : ∀ item ∈ v.inFlight, item ∈ w.inFlight) (rendered : v.rendered = w.rendered)
    (accepted : v.accepted = w.accepted)
    (delivering : ∀ delivery ∈ v.delivering, DeliverySound w.rendered w.accepted delivery) :
    Sound settings v where
  unique := keeps.unique sound.unique
  rows := by
    rw [rendered, accepted]
    exact rows_kept sound.rows keeps
  messages := by
    rw [messages, accepted]
    exact sound.messages
  items item member := by
    rw [rendered]
    exact (sound.items item (items item member)).kept keeps
  delivering := by
    rw [rendered, accepted]
    exact delivering

/-! ### Rendering -/

variable {outbox : List (OutboxRow Hash)}

theorem any_revision (unique : Unique outbox) (id : Name) (revision : Nat) :
    (outbox.any fun row => row.id = id && row.payloadRevision = revision) = true ↔
      ∃ row, rowOf id outbox = some row ∧ row.payloadRevision = revision := by
  rw [List.any_eq_true]
  constructor
  · rintro ⟨row, member, is⟩
    rw [Bool.and_eq_true, decide_eq_true_eq, decide_eq_true_eq] at is
    refine ⟨row, ?_, is.2⟩
    rw [← is.1]
    exact lookup_of_mem unique.1 member
  · rintro ⟨row, found, is⟩
    refine ⟨row, lookup_some_mem found, ?_⟩
    simp [lookup_some_key found, is]

theorem logRevisions_new {after : List (OutboxRow Hash)} (uniqueBefore : Unique before)
    (uniqueAfter : Unique after) (found : rowOf id after = some new)
    (unseen : ∀ row, rowOf id before = some row → row.payloadRevision ≠ new.payloadRevision) :
    logRevisions before after payload rendered id new.payloadRevision = some payload := by
  have here := (any_revision uniqueAfter id new.payloadRevision).mpr ⟨new, found, rfl⟩
  have gone : ¬ (before.any fun row => row.id = id && row.payloadRevision = new.payloadRevision) =
      true := by
    rw [any_revision uniqueBefore]
    rintro ⟨row, foundRow, same⟩
    exact unseen row foundRow same
  unfold logRevisions
  dsimp only
  rw [Bool.not_eq_true] at gone
  rw [here, gone]
  rfl

variable {revision : Nat}

/-- The log keeps what it says about revisions up to the current one. -/
theorem logRevisions_old {after : List (OutboxRow Hash)} (uniqueBefore : Unique before)
    (uniqueAfter : Unique after) (found : rowOf id before = some old)
    (foundNew : rowOf id after = some new) (grew : new.payloadRevision = old.payloadRevision ∨
      new.payloadRevision = old.payloadRevision + 1) (past : revision ≤ old.payloadRevision) :
    logRevisions before after payload rendered id revision = rendered id revision := by
  refine if_neg ?_
  rw [Bool.and_eq_true, any_revision uniqueAfter, Bool.not_eq_true', ← Bool.not_eq_true,
    any_revision uniqueBefore]
  rintro ⟨⟨row, foundRow, is⟩, unseen⟩
  rw [foundNew] at foundRow
  cases foundRow
  refine unseen ⟨old, found, ?_⟩
  omega

theorem Edge.grew (edge : Edge settings payload Stays old new) :
    new.payloadRevision = old.payloadRevision ∨ new.payloadRevision = old.payloadRevision + 1 := by
  rcases edge with ⟨kept, _⟩ | revised
  · exact .inl kept.payloadRevision
  · exact .inr revised.payloadRevision

theorem Edge.sessionId (edge : Edge settings payload Stays old new) :
    new.sessionId = old.sessionId := by
  rcases edge with ⟨kept, _⟩ | revised
  · exact kept.sessionId
  · exact revised.sessionId

theorem logRevisions_item {settings : Settings Hash} {w : World Hash} {payload : Payload}
    {Stays : OutboxRow Hash → OutboxRow Hash → Prop} {after : Store Hash}
    (sound : Sound settings w) (renders : Renders settings payload Stays w.store after)
    {item : OutboxItem Hash}
    (own : ItemSound w.store.outbox w.rendered item) :
    logRevisions w.store.outbox after.outbox payload w.rendered item.id item.payloadRevision =
      w.rendered item.id item.payloadRevision := by
  obtain ⟨row, found, _, past⟩ := own.row
  obtain ⟨new, foundNew, edge⟩ := renders.rows _ row found
  exact logRevisions_old sound.unique renders.unique found foundNew edge.grew past

theorem Sound.render (sound : Sound settings w)
    (renders : Renders settings payload Stays w.store after)
    (done : w.render payload (some after) = some v) : Sound settings v := by
  cases done
  have old := @logRevisions_item _ settings w payload Stays after sound renders
  refine ⟨renders.unique, ?_, renders.messages ▸ sound.messages, ?_, ?_⟩
  · intro id new found
    cases was : rowOf id w.store.outbox with
    | none =>
      obtain ⟨describes, unsent⟩ := renders.fresh id new was found
      refine ⟨payload, ?_, describes, fun sent => absurd sent unsent⟩
      refine logRevisions_new sound.unique renders.unique found ?_
      intro row impossible
      rw [was] at impossible
      cases impossible
    | some row =>
      obtain ⟨other, foundOther, edge⟩ := renders.rows id row was
      rw [found] at foundOther
      cases foundOther
      rcases edge with ⟨kept, same⟩ | revised
      · obtain ⟨held, is, describes, sent⟩ := (sound.rows id row was).kept kept
        refine ⟨held, ?_, describes, sent⟩
        rw [← is]
        exact logRevisions_old sound.unique renders.unique was found
          (.inl kept.payloadRevision) kept.payloadRevision.le
      · refine ⟨payload, ?_, revised.describes, ?_⟩
        · refine logRevisions_new sound.unique renders.unique found ?_
          intro other impossible
          rw [was] at impossible
          cases impossible
          have := revised.payloadRevision
          omega
        · intro sent
          have state := revised.state
          rw [sent] at state
          split at state <;> cases state
  · intro item member
    have own := sound.items item member
    obtain ⟨row, found, session, past⟩ := own.row
    obtain ⟨new, foundNew, edge⟩ := renders.rows _ row found
    refine ⟨⟨new, foundNew, edge.sessionId.trans session, ?_⟩, ?_⟩
    · have := edge.grew
      omega
    · intro live is
      exact (old own).trans (own.payload live is)
  · intro delivery is
    have own := sound.items delivery.item (List.mem_append_right _ (by simp_all))
    have knows := sound.delivering delivery is
    have same := old own
    cases delivery with
    | looking item live | sending item live => exact same.trans knows
    | settling item live messageId => exact ⟨same.trans knows.1, knows.2⟩
    | unavailable item => trivial
    | recording item live => trivial
    | surfacing item live => trivial
    | surfaced item live messageId => exact knows

theorem fallback_describes (settings : Settings Hash) (item : OutboxItem Hash) (now : ℚ) :
    Describes settings (item.fallbackRow now) (fixedContentUnavailablePayload item.submissionId) :=
  ⟨fun _ => ⟨rfl, rfl⟩, fun kind => absurd rfl kind⟩

theorem Renders.keep {before mid : Store Hash}
    (renders : Renders settings payload Steady before mid)
    (untouched : ∀ id row, rowOf id before.outbox = some row → rowOf id mid.outbox = some row)
    (keeps : Keeps mid.outbox after.outbox) (messages : after.messages = mid.messages) :
    Renders settings payload (fun _ _ => True) before after := by
  refine ⟨messages.trans renders.messages, keeps.unique renders.unique, ?_, ?_⟩
  · intro id row found
    obtain ⟨new, foundNew, kept⟩ := keeps.rows id row (untouched id row found)
    exact ⟨new, foundNew, .inl ⟨kept, trivial⟩⟩
  · intro id new absent found
    cases missing : rowOf id mid.outbox with
    | none =>
      rw [rowOf_none_of_ids keeps.ids missing] at found
      cases found
    | some mid =>
      obtain ⟨other, foundOther, kept⟩ := keeps.rows id mid missing
      rw [found] at foundOther
      cases foundOther
      obtain ⟨describes, unsent⟩ := renders.fresh id mid absent missing
      exact ⟨describes.kept kept, fun sent => unsent (kept.sent sent)⟩

variable {row : OutboxRow Hash}

theorem insertRow_untouched (done : insertRow row store = some inserted) (id : Name)
    (old : OutboxRow Hash) (found : rowOf id store.outbox = some old) :
    rowOf id inserted.outbox = some old := by
  unfold insertRow at done
  split at done
  · cases done
  · cases done
    exact lookup_append_of_some found

theorem markContentUnavailable_renders (unique : Unique store.outbox)
    (done : markContentUnavailable item now store = some after) :
    Renders settings (fixedContentUnavailablePayload item.submissionId) (fun _ _ => True)
      store after := by
  have same := renders_refl settings (fixedContentUnavailablePayload item.submissionId) unique
  unfold markContentUnavailable at done
  split at done
  · obtain ⟨surfaced, put, done⟩ := Option.map_eq_some_iff.mp done
    cases done
    have keeps : Keeps surfaced.outbox (updateWhere item.current
        (fun row => { row with state := .contentUnavailable, contentKey := none, updatedAt := now })
        surfaced.outbox) := by
      refine keeps_updateWhere ?_ _
      intro row
      exact ⟨rfl, rfl, rfl, rfl, rfl, rfl, rfl, .inr rfl, fun is => by cases is⟩
    unfold insertOrIgnore at put
    split at put
    · cases put
      exact same.keep (fun _ _ found => found) keeps rfl
    · next free =>
      have inserted := insertRow_renders unique free (fallback_describes settings item now)
        (by simp [OutboxItem.fallbackRow]) put
      exact inserted.keep (insertRow_untouched put) keeps rfl
  · cases done
    exact same.keep (fun _ _ found => found) (.refl _) rfl

/-! ### Claims -/

variable {limit : Nat}

theorem mem_candidates (member : row ∈ candidates limit now outbox) :
    row ∈ outbox ∧ row.state = .pending := by
  have sorted := List.mem_of_mem_take member
  rw [List.mem_insertionSort, List.mem_filter, Bool.and_eq_true, Bool.and_eq_true,
    decide_eq_true_eq] at sorted
  exact ⟨sorted.1, sorted.2.1.1⟩

variable {content : List (Name × Payload)}

theorem mem_claimRows [DecidableEq Hash] {rows : List (OutboxRow Hash)}
    (member : item ∈ (claimRows settings content now outbox rows).2) :
    ∃ row ∈ rows, item = row.item settings content := by
  induction rows generalizing outbox with
  | nil => cases member
  | cons row rows ih =>
    unfold claimRows at member
    dsimp only at member
    split at member
    · rcases List.mem_cons.mp member with here | later
      · exact ⟨row, List.mem_cons_self, here⟩
      · obtain ⟨other, inRows, is⟩ := ih later
        exact ⟨other, List.mem_cons_of_mem row inRows, is⟩
    · obtain ⟨other, inRows, is⟩ := ih member
      exact ⟨other, List.mem_cons_of_mem row inRows, is⟩

theorem livePayload_item [DecidableEq Hash] (sound : RowSound settings rendered accepted row.id row)
    (live : (row.item settings content).livePayload = some payload) :
    rendered row.id row.payloadRevision = some payload := by
  obtain ⟨held, is, describes, _⟩ := sound
  rw [is]
  unfold OutboxItem.livePayload OutboxRow.item at live
  by_cases kind : row.renderKind = .contentUnavailable
  · obtain ⟨key, fixed⟩ := describes.fallback kind
    have lost : contentOf settings row.contentKey row.contentHash content = none := by
      rw [key]
      rfl
    rw [fixed]
    simpa [lost, kind] using live
  · have hash := describes.hash kind
    split at live
    · next found stored =>
      cases live
      obtain ⟨key, _, stored⟩ := Option.bind_eq_some_iff.mp stored
      obtain ⟨entry, _, stored⟩ := Option.bind_eq_some_iff.mp stored
      rw [hash] at stored
      dsimp only at stored
      split at stored
      · next matches_ =>
        cases stored
        rw [settings.payloadHash.injective matches_]
      · cases stored
    · simp only [kind, if_false] at live
      cases live

theorem claim_items [DecidableEq Hash] (sound : Sound settings w)
    (member : item ∈ (claim settings limit now w.store).2) :
    ItemSound (claim settings limit now w.store).1.outbox w.rendered item := by
  have open_ := (releaseStale_keeps settings now w.store.outbox).trans (supersede_keeps now _)
  obtain ⟨row, selected, rfl⟩ := mem_claimRows member
  obtain ⟨inTable, _⟩ := mem_candidates selected
  have found := lookup_of_mem (open_.unique sound.unique).1 inTable
  have rowSound := rows_kept sound.rows open_ row.id row found
  have own : ItemSound _ w.rendered (row.item settings w.store.content) :=
    ⟨⟨row, found, rfl, Nat.le_refl _⟩, fun _ live => livePayload_item rowSound live⟩
  exact own.kept (claimRows_keeps settings w.store.content now _ _)

/-! ### Settlements -/

theorem recordMessage_sound {settings : Settings Hash} {accepted : List (String × Payload)}
    {message : MessageRow Hash} {payload : Payload} {store : Store Hash}
    (old : MessagesSound settings accepted store.messages)
    (new : (message.sessionId, payload) ∈ accepted)
    (hash : message.contentHash = settings.payloadHash payload) :
    MessagesSound settings accepted (recordMessage message store).messages := by
  intro row member
  unfold recordMessage at member
  split at member
  · obtain ⟨was, inTable, is⟩ := mem_updateWhere.mp member
    split at is
    · next hit =>
      rw [Bool.and_eq_true, decide_eq_true_eq] at hit
      rw [is]
      exact ⟨payload, hit.1 ▸ new, hash⟩
    · rw [is]
      exact old was inTable
  · rcases List.mem_append.mp member with was | fresh
    · exact old row was
    · rw [List.mem_singleton.mp fresh]
      exact ⟨payload, new, hash⟩

variable {messageId : String} {wallNow : ℚ}

theorem settleDelivery_sound (sound : Sound settings w)
    (own : ItemSound w.store.outbox w.rendered item)
    (knows : w.rendered item.id item.payloadRevision = some payload ∧
      (item.sessionId, payload) ∈ w.accepted)
    (done : settleDelivery settings item payload messageId now wallNow w.store = some after) :
    Sound settings { w with store := after, delivering := none } := by
  have messages := @recordMessage_sound Hash settings w.accepted
    ⟨item.sessionId, item.logicalKey, messageId, settings.payloadHash payload, payload.finalized⟩
    payload w.store sound.messages knows.2 rfl
  have items : ∀ other ∈ w.claimed, ItemSound w.store.outbox w.rendered other :=
    fun other member => sound.items other (List.mem_append_left _ member)
  unfold settleDelivery at done
  split at done
  · cases done
    have ids : ∀ row : OutboxRow Hash,
        ({ row with state := .sent, contentKey := none, updatedAt := now } : OutboxRow Hash).id =
          row.id := fun _ => rfl
    refine ⟨⟨?_, ?_⟩, ?_, messages, ?_, by simp⟩
    · rw [map_updateWhere ids]
      exact sound.unique.1
    · rw [map_updateWhere (by exact fun _ => rfl)]
      exact sound.unique.2
    · intro id row found
      unfold rowOf at found
      rw [lookup_updateWhere ids] at found
      obtain ⟨was, foundWas, is⟩ := Option.map_eq_some_iff.mp found
      obtain ⟨held, rendered, describes, sent⟩ := sound.rows id was foundWas
      split at is
      · next hit =>
        unfold OutboxItem.current at hit
        rw [Bool.and_eq_true, Bool.and_eq_true, decide_eq_true_eq, decide_eq_true_eq,
          decide_eq_true_eq] at hit
        obtain ⟨other, foundOther, session, _⟩ := own.row
        have same : id = item.id := (lookup_some_key foundWas).symm.trans hit.1.1
        rw [same] at foundWas rendered
        rw [show rowOf item.id w.store.outbox = some was from foundWas] at foundOther
        cases foundOther
        have isPayload : held = payload := by
          rw [hit.2, knows.1] at rendered
          exact (Option.some.inj rendered).symm
        subst is
        refine ⟨held, same ▸ rendered, ⟨?_, describes.hash⟩, ?_⟩
        · intro kind
          exact ⟨rfl, (describes.fallback kind).2⟩
        · intro _
          rw [isPayload]
          rw [session]
          exact knows.2
      · subst is
        exact ⟨held, rendered, describes, sent⟩
    · intro other member
      simp only [World.inFlight, Option.map_none, Option.toList_none, List.append_nil] at member
      obtain ⟨⟨row, found, session, past⟩, live⟩ := items other member
      refine ⟨?_, live⟩
      unfold rowOf at found ⊢
      rw [lookup_updateWhere ids, found]
      refine ⟨_, rfl, ?_⟩
      dsimp only
      split
      · exact ⟨session, past⟩
      · exact ⟨session, past⟩
  · split at done
    · cases done
      have keeps := @keeps_updateWhere Hash item.outdated (fun row => { row with
        state := .pending, nextAttemptAt := min row.nextAttemptAt wallNow, updatedAt := now })
        (fun row => ⟨rfl, rfl, rfl, rfl, rfl, rfl, rfl, .inl rfl, fun is => by cases is⟩)
        w.store.outbox
      refine ⟨keeps.unique sound.unique, rows_kept sound.rows keeps, messages, ?_, by simp⟩
      intro other member
      simp only [World.inFlight, Option.map_none, Option.toList_none, List.append_nil] at member
      exact (items other member).kept keeps
    · cases done

/-! ### Steps -/

variable {delivery : Delivery Hash}

theorem Sound.delivering_item (sound : Sound settings w) (is : w.delivering = some delivery) :
    ItemSound w.store.outbox w.rendered delivery.item := by
  refine sound.items _ (List.mem_append_right _ ?_)
  rw [is]
  exact List.mem_singleton_self _

theorem Sound.accept (sound : Sound settings w) (more : List (String × Payload)) :
    Sound settings { w with accepted := w.accepted ++ more } := by
  have grow : ∀ {entry}, entry ∈ w.accepted → entry ∈ w.accepted ++ more :=
    fun member => List.mem_append_left _ member
  refine ⟨sound.unique, ?_, ?_, sound.items, ?_⟩
  · intro id row found
    obtain ⟨payload, is, describes, sent⟩ := sound.rows id row found
    exact ⟨payload, is, describes, fun now => grow (sent now)⟩
  · intro message member
    obtain ⟨payload, was, hash⟩ := sound.messages message member
    exact ⟨payload, grow was, hash⟩
  · intro delivery is
    have knows := sound.delivering delivery is
    cases delivery with
    | looking item live => exact knows
    | sending item live => exact knows
    | settling item live messageId => exact ⟨knows.1, grow knows.2⟩
    | unavailable item => trivial
    | recording item live => trivial
    | surfacing item live => trivial
    | surfaced item live messageId => exact grow knows

theorem Sound.proceed {old new : Delivery Hash} (sound : Sound settings w)
    (is : w.delivering = some old) (same : new.item = old.item)
    (knows : DeliverySound w.rendered w.accepted new) :
    Sound settings { w with delivering := some new } := by
  refine sound.keep (.refl _) rfl ?_ rfl rfl ?_
  · intro item member
    unfold World.inFlight at member ⊢
    rw [is]
    simpa [same] using member
  · intro delivery isNew
    cases isNew
    exact knows

theorem Sound.finish (sound : Sound settings w) (keeps : Keeps w.store.outbox store.outbox)
    (messages : store.messages = w.store.messages) (restoring : List Name) :
    Sound settings { w with store, delivering := none, restoring } := by
  refine sound.keep keeps messages ?_ rfl rfl (by simp)
  intro item member
  unfold World.inFlight at member
  exact List.mem_append_left _ (by simpa using member)

theorem Sound.interrupted (sound : Sound settings w) (item : OutboxItem Hash) :
    Sound settings (w.interrupted item) :=
  sound.finish (.refl _) rfl _

theorem failDelivery_keeps (done : failDelivery settings item error now store = some result) :
    Keeps store.outbox result.1.outbox ∧ result.1.messages = store.messages := by
  obtain ⟨state, nextAttemptAt, taken, unsent, transitioned, _⟩ := failDelivery_transition done
  have keeps := transitionFailedClaim_keeps unsent transitioned
  exact keeps

theorem look_sound [DecidableEq Hash]
    (sound : Sound settings w) (done : step settings w .look = some v) : Sound settings v := by
  simp only [step] at done
  split at done
  · next item payload is =>
    have knows : w.rendered item.id item.payloadRevision = some payload :=
      sound.delivering _ is
    split at done
    · next message found =>
      split at done
      · next same =>
        cases done
        obtain ⟨held, accepted, hash⟩ := sound.messages message (lookup_some_mem found)
        have isPayload : held = payload := settings.payloadHash.injective (hash.symm.trans same)
        have key := lookup_some_key found
        have session : message.sessionId = item.sessionId := (Prod.mk.inj key).1
        refine sound.proceed is rfl ⟨knows, ?_⟩
        rw [← session, ← isPayload]
        exact accepted
      · cases done
        exact sound.proceed is rfl knows
    · cases done
      exact sound.proceed is rfl knows
  · cases done

variable {index : Nat}

theorem deliver_sound [DecidableEq Hash]
    (sound : Sound settings w) (done : step settings w (.deliver index) = some v) :
    Sound settings v := by
  obtain ⟨item, found, done⟩ := Option.bind_eq_some_iff.mp done
  have member : item ∈ w.inFlight := List.mem_append_left _ (mem_of_getElem? found)
  have rest : ∀ other ∈ w.claimed.eraseIdx index, other ∈ w.inFlight :=
    fun other is => List.mem_append_left _ (List.mem_of_mem_eraseIdx is)
  have starts : ∀ delivery : Delivery Hash, delivery.item = item →
      DeliverySound w.rendered w.accepted delivery →
      Sound settings { w with
        claimed := w.claimed.eraseIdx index, delivering := some delivery } := by
    intro delivery isItem knows
    refine sound.keep (.refl _) rfl ?_ rfl rfl ?_
    · intro other inFlight
      rcases List.mem_append.mp inFlight with old | new
      · exact rest other old
      · have same : other = item := by simpa [isItem] using new
        rw [same]
        exact member
    · intro other is
      cases is
      exact knows
  split at done
  · split at done
    · next payload live =>
      cases done
      exact starts _ rfl ((sound.items item member).payload payload live)
    · cases done
      exact starts _ rfl trivial
  · next idle =>
    cases done
    refine sound.keep (.refl _) rfl ?_ rfl rfl sound.delivering
    intro other inFlight
    rcases List.mem_append.mp inFlight with old | new
    · exact rest other old
    · exact List.mem_append_right _ new
  · cases done

theorem claim_sound [DecidableEq Hash]
    (sound : Sound settings w) (done : step settings w (.claim limit now) = some v) :
    Sound settings v := by
  cases done
  have keeps := claim_keeps settings limit now w.store
  refine ⟨keeps.unique sound.unique, rows_kept sound.rows keeps, sound.messages, ?_,
    sound.delivering⟩
  intro item member
  unfold World.inFlight at member
  simp only [List.mem_append] at member
  rcases member with (old | new) | held
  · exact (sound.items item (List.mem_append_left _ old)).kept keeps
  · exact claim_items sound new
  · exact (sound.items item (List.mem_append_right _ held)).kept keeps

theorem fail_sound [DecidableEq Hash]
    (sound : Sound settings w) (done : step settings w (.fail error now) = some v) :
    Sound settings v := by
  simp only [step] at done
  split at done
  · next item payload is =>
    split at done
    · next store failed =>
      cases done
      obtain ⟨keeps, messages⟩ := failDelivery_keeps failed
      refine sound.keep keeps messages ?_ rfl rfl ?_
      · intro other member
        unfold World.inFlight at member ⊢
        rw [is]
        exact member
      · intro delivery isNew
        cases isNew
        trivial
    · next store failed =>
      cases done
      obtain ⟨keeps, messages⟩ := failDelivery_keeps failed
      exact sound.finish keeps messages _
    · cases done
      exact sound.interrupted item
  · next item payload is =>
    split at done
    · split at done
      · next store surfaced failed =>
        cases done
        obtain ⟨keeps, messages⟩ := failDelivery_keeps failed
        exact sound.finish keeps messages _
      · cases done
        exact sound.interrupted item
    · cases done
      exact sound.finish (.refl _) rfl _
  · cases done

theorem accept_sound [DecidableEq Hash]
    (sound : Sound settings w) (done : step settings w (.accept messageId) = some v) :
    Sound settings v := by
  simp only [step] at done
  split at done
  · next item payload is =>
    cases done
    have knows : w.rendered item.id item.payloadRevision = some payload := sound.delivering _ is
    refine (sound.accept [(item.sessionId, payload)]).proceed is rfl ⟨knows, ?_⟩
    exact List.mem_concat_self
  · next item payload is =>
    cases done
    refine (sound.accept [(item.sessionId, renderFailurePayload payload.submissionId)]).proceed
      is rfl ?_
    exact List.mem_concat_self
  · cases done

variable {label : Label}

theorem step_sound [DecidableEq Hash]
    (sound : Sound settings w) (done : step settings w label = some v) :
    Sound settings v := by
  cases label with
  | queue intent nextAttemptAt now =>
    obtain ⟨after, queued, is⟩ := Option.map_eq_some_iff.mp done
    exact sound.render (queueRenderIntent_renders sound.unique queued) (congrArg some is)
  | recover intent now =>
    obtain ⟨after, recovered, is⟩ := Option.map_eq_some_iff.mp done
    exact sound.render (recoverRenderIntent_renders sound.unique recovered) (congrArg some is)
  | forget key =>
    cases done
    exact sound.keep (.refl _) rfl (fun _ member => member) rfl rfl sound.delivering
  | claim limit now => exact claim_sound sound done
  | claimRolledBack limit now =>
    cases done
    exact sound.keep (.refl _) rfl (fun _ member => member) rfl rfl sound.delivering
  | deliver index => exact deliver_sound sound done
  | markUnavailable now =>
    simp only [step] at done
    split at done
    · next item is =>
      split at done
      · next after marked =>
        have idle := sound.finish (.refl w.store.outbox) rfl w.restoring
        exact idle.render (markContentUnavailable_renders sound.unique marked) done
      · cases done
        exact sound.interrupted item
    · cases done
  | look => exact look_sound sound done
  | accept messageId => exact accept_sound sound done
  | fail error now => exact fail_sound sound done
  | settle now wallNow =>
    simp only [step] at done
    split at done
    · next item payload messageId is =>
      split at done
      · next after settled =>
        cases done
        exact settleDelivery_sound sound (sound.delivering_item is) (sound.delivering _ is) settled
      · cases done
        exact sound.interrupted item
    · cases done
  | record now =>
    simp only [step] at done
    split at done
    · next item payload is =>
      cases done
      refine sound.keep (recordRenderFailure_keeps item now w.store) rfl ?_ rfl rfl ?_
      · intro other member
        unfold World.inFlight at member ⊢
        rw [is]
        split at member
        · exact member
        · exact List.mem_append_left _ (by simpa using member)
      · intro delivery isNew
        split at isNew
        · cases isNew
          trivial
        · cases isNew
    · cases done
  | recordSurface =>
    simp only [step] at done
    split at done
    · next item payload messageId is =>
      cases done
      have finished := sound.finish (.refl w.store.outbox) rfl w.restoring
      have knows : (item.sessionId, renderFailurePayload payload.submissionId) ∈ w.accepted :=
        sound.delivering _ is
      exact ⟨finished.unique, finished.rows, recordMessage_sound sound.messages knows rfl,
        finished.items,
        finished.delivering⟩
    · cases done
  | interrupt =>
    obtain ⟨delivery, _, is⟩ := Option.map_eq_some_iff.mp done
    rw [← is]
    exact sound.interrupted delivery.item
  | abandon index =>
    obtain ⟨item, found, is⟩ := Option.bind_eq_some_iff.mp done
    cases is
    refine sound.keep (.refl _) rfl ?_ rfl rfl sound.delivering
    intro other member
    rcases List.mem_append.mp member with old | new
    · exact List.mem_append_left _ (List.mem_of_mem_eraseIdx old)
    · exact List.mem_append_right _ new
  | restore index now =>
    obtain ⟨id, found, is⟩ := Option.bind_eq_some_iff.mp done
    cases is
    exact sound.keep (restoreClaim_keeps id now w.store) rfl (fun _ member => member) rfl rfl
      sound.delivering
  | restart =>
    cases done
    refine sound.keep (.refl _) rfl ?_ rfl rfl (by simp)
    intro item member
    cases member

/-! ## A revision that comes in during a send -/

/-- The transport call or the transaction after it is still to come. -/
def Delivery.inSend : Delivery Hash → Bool
  | .sending .. | .settling .. => true
  | _ => false

def stateOf (id : Name) (outbox : List (OutboxRow Hash)) : Option OutboxState :=
  (rowOf id outbox).map OutboxRow.state

/-- The step leaves the row pending, or it is a claim that first makes it so. -/
def Requeues (settings : Settings Hash) (id : Name) (w : World Hash) (label : Label)
    (v : World Hash) : Prop :=
  stateOf id v.store.outbox = some .pending ∨ ∃ limit now, label = .claim limit now ∧
    stateOf id (releaseStale settings now w.store.outbox) = some .pending

/-- The send is under way, or the claim is about to be restored, or the process was
started again. -/
def Engaged (id : Name) (since : Nat) (w : World Hash) : Prop :=
  (∃ delivery, w.delivering = some delivery ∧ delivery.inSend = true ∧ delivery.item.id = id) ∨
    id ∈ w.restoring ∨ since < w.restarts

/-- The row is claimed and has a revision that no copy in flight has. -/
structure Ahead (id : Name) (revision : Nat) (w : World Hash) (row : OutboxRow Hash) : Prop where
  found : rowOf id w.store.outbox = some row
  sending : row.state = .sending
  revision : revision ≤ row.payloadRevision
  renderKind : row.renderKind ≠ .contentUnavailable
  older : ∀ item ∈ w.inFlight, item.id = id → item.payloadRevision < row.payloadRevision

structure Awaiting (settings : Settings Hash) (id : Name) (revision since : Nat)
    (w : World Hash) : Prop where
  sound : Sound settings w
  ahead : ∃ row, Ahead id revision w row
  engaged : Engaged id since w
  since : since ≤ w.restarts

variable {set : OutboxRow Hash → OutboxRow Hash} {hit : OutboxRow Hash → Bool}

theorem stateOf_hit (ids : ∀ row, (set row).id = row.id) (found : rowOf id outbox = some row)
    (isHit : hit row = true) : stateOf id (updateWhere hit set outbox) = some (set row).state := by
  unfold stateOf rowOf at *
  rw [lookup_updateWhere ids, found, Option.map_some, if_pos isHit, Option.map_some]

theorem rowOf_miss (ids : ∀ row, (set row).id = row.id) (found : rowOf id outbox = some row)
    (missed : hit row = false) : rowOf id (updateWhere hit set outbox) = some row := by
  unfold rowOf at found ⊢
  rw [lookup_updateWhere ids, found, Option.map_some, if_neg (by simp [missed])]

theorem Ahead.not_current (ahead : Ahead id revision w row) (member : item ∈ w.inFlight) :
    item.current row = false := by
  unfold OutboxItem.current
  by_cases same : item.id = id
  · have older := ahead.older item member same
    simp [older.ne.symm]
  · have other : row.id ≠ item.id := by
      rw [lookup_some_key ahead.found]
      exact fun is => same is.symm
    simp [other]

theorem Ahead.rowcount_current (ahead : Ahead id revision w row) (unique : Unique w.store.outbox)
    (member : item ∈ w.inFlight) (same : item.id = id) :
    rowcount item.current w.store.outbox = 0 := by
  have own : ∀ other, item.current other = true → other.id = id := by
    intro other is
    unfold OutboxItem.current at is
    simp only [Bool.and_eq_true, decide_eq_true_eq] at is
    exact is.1.1.trans same
  rw [rowcount_of_lookup unique.1 ahead.found own, ahead.not_current member]
  rfl

theorem Ahead.outdated (ahead : Ahead id revision w row) (member : item ∈ w.inFlight) :
    item.outdated row = decide (item.id = id) := by
  unfold OutboxItem.outdated
  have key : row.id = id := lookup_some_key ahead.found
  rw [key, ahead.sending]
  by_cases same : item.id = id
  · have older := ahead.older item member same
    simp [same, older]
  · have other : id ≠ item.id := fun is => same is.symm
    simp [same, other]

theorem Ahead.keep (ahead : Ahead id revision w row) (found : rowOf id v.store.outbox = some row)
    (items : ∀ item ∈ v.inFlight, item.id = id → item ∈ w.inFlight) : Ahead id revision v row :=
  ⟨found, ahead.sending, ahead.revision, ahead.renderKind,
    fun item member same => ahead.older item (items item member same) same⟩

theorem transitionFailedClaim_ahead {nextAttemptAt : Option ℚ} (unique : Unique w.store.outbox)
    (ahead : Ahead id revision w row) (member : item ∈ w.inFlight)
    (done : transitionFailedClaim item state nextAttemptAt now w.store = some result) :
    (item.id = id ∧ stateOf id result.1.outbox = some .pending) ∨
      (item.id ≠ id ∧ rowOf id result.1.outbox = some row) := by
  have missed := ahead.not_current member
  have outdated := ahead.outdated member
  unfold transitionFailedClaim at done
  by_cases same : item.id = id
  · refine .inl ⟨same, ?_⟩
    rw [decide_eq_true same] at outdated
    rw [ahead.rowcount_current unique member same] at done
    simp only [Nat.zero_ne_one, if_false] at done
    split at done
    · cases done
      exact stateOf_hit (fun _ => rfl) ahead.found outdated
    · cases done
  · refine .inr ⟨same, ?_⟩
    rw [decide_eq_false same] at outdated
    split at done
    · cases done
      exact rowOf_miss (fun _ => rfl) ahead.found missed
    · split at done
      · cases done
        exact rowOf_miss (fun _ => rfl) ahead.found outdated
      · cases done

theorem settleDelivery_ahead (unique : Unique w.store.outbox) (ahead : Ahead id revision w row)
    (member : item ∈ w.inFlight)
    (done : settleDelivery settings item payload messageId now wallNow w.store = some after) :
    (item.id = id ∧ stateOf id after.outbox = some .pending) ∨
      (item.id ≠ id ∧ rowOf id after.outbox = some row) := by
  have missed := ahead.not_current member
  have outdated := ahead.outdated member
  unfold settleDelivery at done
  by_cases same : item.id = id
  · refine .inl ⟨same, ?_⟩
    rw [decide_eq_true same] at outdated
    rw [ahead.rowcount_current unique member same] at done
    simp only [ne_eq, not_true_eq_false, if_false] at done
    split at done
    · cases done
      exact stateOf_hit (fun _ => rfl) ahead.found outdated
    · cases done
  · refine .inr ⟨same, ?_⟩
    rw [decide_eq_false same] at outdated
    split at done
    · cases done
      exact rowOf_miss (fun _ => rfl) ahead.found missed
    · split at done
      · cases done
        exact rowOf_miss (fun _ => rfl) ahead.found outdated
      · cases done

theorem markContentUnavailable_ahead (ahead : Ahead id revision w row)
    (member : item ∈ w.inFlight) (done : markContentUnavailable item now w.store = some after) :
    rowOf id after.outbox = some row := by
  have missed := ahead.not_current member
  unfold markContentUnavailable at done
  split at done
  · obtain ⟨surfaced, put, done⟩ := Option.map_eq_some_iff.mp done
    cases done
    refine rowOf_miss (by exact fun _ => rfl) ?_ missed
    unfold insertOrIgnore at put
    split at put
    · cases put
      exact ahead.found
    · exact insertRow_untouched put id row ahead.found
  · cases done
    exact ahead.found

theorem claimRows_sending [DecidableEq Hash] {rows : List (OutboxRow Hash)}
    (found : rowOf id outbox = some row) (sending : row.state = .sending) :
    rowOf id (claimRows settings content now outbox rows).1 = some row := by
  induction rows generalizing outbox with
  | nil => exact found
  | cons head rows ih =>
    refine ih (rowOf_miss (by exact fun _ => rfl) found ?_)
    simp [sending]

theorem claim_ahead [DecidableEq Hash] {settings : Settings Hash} {id : Name} {revision limit : Nat}
    {now : ℚ} {w : World Hash} {row : OutboxRow Hash} (unique : Unique w.store.outbox)
    (ahead : Ahead id revision w row) :
    stateOf id (releaseStale settings now w.store.outbox) = some .pending ∨
      rowOf id (claim settings limit now w.store).1.outbox = some row ∧
        ∀ item ∈ (claim settings limit now w.store).2, item.id ≠ id := by
  by_cases stale : row.updatedAt ≤ now - settings.claimTimeoutSeconds
  · refine .inl (stateOf_hit (fun _ => rfl) ahead.found ?_)
    simp [ahead.sending, stale]
  · have released : rowOf id (releaseStale settings now w.store.outbox) = some row := by
      refine rowOf_miss (by exact fun _ => rfl) ahead.found ?_
      simp [stale]
    have opened : rowOf id (supersede now (releaseStale settings now w.store.outbox)) =
        some row := by
      refine rowOf_miss (by exact fun _ => rfl) released ?_
      simp [ahead.sending]
    refine .inr ⟨claimRows_sending opened ahead.sending, ?_⟩
    intro item member same
    obtain ⟨other, selected, rfl⟩ := mem_claimRows member
    obtain ⟨inTable, pending⟩ := mem_candidates selected
    have keeps := (releaseStale_keeps settings now w.store.outbox).trans (supersede_keeps now _)
    have found := lookup_of_mem (keeps.unique unique).1 inTable
    have key : other.id = id := same
    rw [key, show lookup OutboxRow.id id _ = some row from opened] at found
    cases found
    rw [ahead.sending] at pending
    cases pending

theorem Ahead.render (ahead : Ahead id revision w row)
    (renders : Renders settings payload Steady w.store after)
    (done : w.render payload (some after) = some v) : ∃ new, Ahead id revision v new := by
  cases done
  obtain ⟨new, found, edge⟩ := renders.rows id row ahead.found
  refine ⟨new, ?_⟩
  rcases edge with ⟨kept, steady⟩ | revised
  · refine ⟨found, (steady ahead.renderKind).trans ahead.sending, ?_, ?_, ?_⟩
    · rw [kept.payloadRevision]
      exact ahead.revision
    · rw [kept.renderKind]
      exact ahead.renderKind
    · intro item member same
      rw [kept.payloadRevision]
      exact ahead.older item member same
  · have next := revised.payloadRevision
    refine ⟨found, ?_, ?_, revised.renderKind, ?_⟩
    · rw [revised.state, if_pos ahead.sending]
    · have := ahead.revision
      omega
    · intro item member same
      have := ahead.older item member same
      omega

variable {since : Nat}

theorem Engaged.interrupted (engaged : Engaged id since w) (is : w.delivering = some delivery) :
    Engaged id since (w.interrupted delivery.item) := by
  rcases engaged with ⟨other, isOther, _, same⟩ | restoring | restarted
  · rw [is] at isOther
    cases isOther
    exact .inr (.inl (List.mem_append_right _ (by simp [same])))
  · exact .inr (.inl (List.mem_append_left _ restoring))
  · exact .inr (.inr restarted)

theorem Engaged.other (engaged : Engaged id since w) (is : w.delivering = some delivery)
    (idle : delivery.inSend = false ∨ delivery.item.id ≠ id)
    (restoring : ∀ other ∈ w.restoring, other ∈ v.restoring) (restarts : v.restarts = w.restarts) :
    Engaged id since v := by
  rcases engaged with ⟨held, isHeld, inSend, same⟩ | awaits | restarted
  · rw [is] at isHeld
    cases isHeld
    rcases idle with quiet | different
    · rw [quiet] at inSend
      cases inSend
    · exact absurd same different
  · exact .inr (.inl (restoring id awaits))
  · exact .inr (.inr (restarts ▸ restarted))

theorem Engaged.keep (engaged : Engaged id since w) (delivering : v.delivering = w.delivering)
    (restoring : ∀ other ∈ w.restoring, other ∈ v.restoring) (restarts : v.restarts = w.restarts) :
    Engaged id since v := by
  rcases engaged with held | awaits | restarted
  · exact .inl (delivering ▸ held)
  · exact .inr (.inl (restoring id awaits))
  · exact .inr (.inr (restarts ▸ restarted))

theorem mem_inFlight (is : w.delivering = some delivery) : delivery.item ∈ w.inFlight := by
  refine List.mem_append_right _ ?_
  rw [is]
  exact List.mem_singleton_self _

/-- Where the row, the send and the process are after a step. -/
def Onward (id : Name) (revision since : Nat) (v : World Hash) : Prop :=
  (∃ row, Ahead id revision v row) ∧ Engaged id since v ∧ since ≤ v.restarts

theorem interrupted_onward (awaiting : Awaiting settings id revision since w)
    (is : w.delivering = some delivery) :
    Onward id revision since (w.interrupted delivery.item) := by
  obtain ⟨row, ahead⟩ := awaiting.ahead
  refine ⟨⟨row, ahead.keep ahead.found ?_⟩, awaiting.engaged.interrupted is, awaiting.since⟩
  intro item member _
  unfold World.inFlight World.interrupted at member
  exact List.mem_append_left _ (by simpa using member)

theorem ended_onward {settings : Settings Hash} {id : Name} {revision since : Nat}
    {w : World Hash} {row : OutboxRow Hash} {delivery : Delivery Hash} {store : Store Hash}
    {next : Option (Delivery Hash)} (awaiting : Awaiting settings id revision since w)
    (ahead : Ahead id revision w row) (is : w.delivering = some delivery)
    (goesOn : ∀ other ∈ next, other.item = delivery.item)
    (effect : (delivery.item.id = id ∧ stateOf id store.outbox = some .pending) ∨
      (delivery.item.id ≠ id ∧ rowOf id store.outbox = some row)) :
    stateOf id store.outbox = some .pending ∨
      Onward id revision since { w with store, delivering := next } := by
  rcases effect with ⟨_, pending⟩ | ⟨other, found⟩
  · exact .inl pending
  · refine .inr ⟨⟨row, ahead.keep found ?_⟩,
      awaiting.engaged.other is (.inr other) (fun _ member => member) rfl, awaiting.since⟩
    intro item member _
    rcases List.mem_append.mp member with claimed | held
    · exact List.mem_append_left _ claimed
    · cases next with
      | none => cases held
      | some delivery =>
        have same : item = delivery.item := by simpa using held
        rw [same, goesOn delivery rfl]
        exact mem_inFlight is

theorem failDelivery_ahead (unique : Unique w.store.outbox) (ahead : Ahead id revision w row)
    (member : item ∈ w.inFlight)
    (done : failDelivery settings item error now w.store = some result) :
    (item.id = id ∧ stateOf id result.1.outbox = some .pending) ∨
      (item.id ≠ id ∧ rowOf id result.1.outbox = some row) := by
  obtain ⟨state, nextAttemptAt, taken, _, transitioned, _⟩ := failDelivery_transition done
  have effect := transitionFailedClaim_ahead unique ahead member transitioned
  exact effect

theorem fail_onward [DecidableEq Hash] (awaiting : Awaiting settings id revision since w)
    (done : step settings w (.fail error now) = some v) :
    stateOf id v.store.outbox = some .pending ∨ Onward id revision since v := by
  obtain ⟨row, ahead⟩ := awaiting.ahead
  have unique := awaiting.sound.unique
  simp only [step] at done
  split at done
  · next item payload is =>
    split at done
    · next store failed =>
      cases done
      exact ended_onward awaiting ahead is (by simp [Delivery.item])
        (failDelivery_ahead unique ahead (mem_inFlight is) failed)
    · next store failed =>
      cases done
      exact ended_onward awaiting ahead is (by simp)
        (failDelivery_ahead unique ahead (mem_inFlight is) failed)
    · cases done
      exact .inr (interrupted_onward awaiting is)
  · next item payload is =>
    split at done
    · split at done
      · next store surfaced failed =>
        cases done
        exact ended_onward awaiting ahead is (by simp)
          (failDelivery_ahead unique ahead (mem_inFlight is) failed)
      · cases done
        exact .inr (interrupted_onward awaiting is)
    · cases done
      refine .inr ⟨⟨row, ahead.keep ahead.found ?_⟩,
        awaiting.engaged.other is (.inl rfl) (fun _ member => member) rfl, awaiting.since⟩
      intro other member _
      unfold World.inFlight at member
      exact List.mem_append_left _ (by simpa using member)
  · cases done

theorem quiet_onward (awaiting : Awaiting settings id revision since w)
    (is : w.delivering = some delivery) (idle : delivery.inSend = false)
    (outbox : ∀ row, Ahead id revision w row → rowOf id v.store.outbox = some row)
    (items : ∀ item ∈ v.inFlight, item ∈ w.inFlight) (restoring : v.restoring = w.restoring)
    (restarts : v.restarts = w.restarts) : Onward id revision since v := by
  obtain ⟨row, ahead⟩ := awaiting.ahead
  refine ⟨⟨row, ahead.keep (outbox row ahead) fun item member _ => items item member⟩, ?_,
    restarts ▸ awaiting.since⟩
  exact awaiting.engaged.other is (.inl idle) (fun _ member => restoring ▸ member) restarts

theorem deliver_onward [DecidableEq Hash] (awaiting : Awaiting settings id revision since w)
    (done : step settings w (.deliver index) = some v) : Onward id revision since v := by
  obtain ⟨row, ahead⟩ := awaiting.ahead
  obtain ⟨item, found, done⟩ := Option.bind_eq_some_iff.mp done
  have member : item ∈ w.inFlight := List.mem_append_left _ (mem_of_getElem? found)
  have rest : ∀ other ∈ w.claimed.eraseIdx index, other ∈ w.inFlight :=
    fun other is => List.mem_append_left _ (List.mem_of_mem_eraseIdx is)
  -- No delivery is under way, so the row waits for its restoration or a restart.
  have onward : w.delivering = none → ∀ next, (∀ other ∈ next, Delivery.item other = item) →
      Onward id revision since { w with
        claimed := w.claimed.eraseIdx index, delivering := next } := by
    intro idle next isItem
    refine ⟨⟨row, ahead.keep ahead.found ?_⟩, ?_, awaiting.since⟩
    · intro other inFlight _
      rcases List.mem_append.mp inFlight with old | new
      · exact rest other old
      · cases next with
        | none => cases new
        | some delivery =>
          have same : other = delivery.item := by simpa using new
          rw [same, isItem delivery rfl]
          exact member
    · rcases awaiting.engaged with ⟨_, is, _⟩ | restoring | restarted
      · rw [idle] at is
        cases is
      · exact .inr (.inl restoring)
      · exact .inr (.inr restarted)
  split at done
  · next idle _ =>
    split at done
    · cases done
      exact onward idle _ (by simp [Delivery.item])
    · cases done
      exact onward idle _ (by simp [Delivery.item])
  · next idle _ =>
    cases done
    have same := onward idle none (by simp)
    rw [← idle] at same
    exact same
  · cases done

theorem restore_onward [DecidableEq Hash] (awaiting : Awaiting settings id revision since w)
    (done : step settings w (.restore index now) = some v) :
    stateOf id v.store.outbox = some .pending ∨ Onward id revision since v := by
  obtain ⟨row, ahead⟩ := awaiting.ahead
  obtain ⟨other, found, is⟩ := Option.bind_eq_some_iff.mp done
  cases is
  have key : row.id = id := lookup_some_key ahead.found
  by_cases same : other = id
  · refine .inl (stateOf_hit (fun _ => rfl) ahead.found ?_)
    simp [same, key, ahead.sending]
  · have kept : rowOf id (restoreClaim other now w.store).outbox = some row := by
      refine rowOf_miss (by exact fun _ => rfl) ahead.found ?_
      simp [key, Ne.symm same]
    refine .inr ⟨⟨row, ahead.keep kept fun item member _ => member⟩, ?_, awaiting.since⟩
    rcases awaiting.engaged with held | restoring | restarted
    · exact .inl held
    · rcases List.mem_cons.mp ((perm_of_getElem? found).symm.subset restoring) with here | there
      · exact absurd here.symm same
      · exact .inr (.inl there)
    · exact .inr (.inr restarted)

theorem step_awaiting [DecidableEq Hash]
    (awaiting : Awaiting settings id revision since w) (done : step settings w label = some v) :
    Requeues settings id w label v ∨ Awaiting settings id revision since v := by
  have sound := step_sound awaiting.sound done
  suffices goal : Requeues settings id w label v ∨ Onward id revision since v by
    rcases goal with requeued | ⟨ahead, engaged, restarts⟩
    · exact .inl requeued
    · exact .inr ⟨sound, ahead, engaged, restarts⟩
  obtain ⟨row, ahead⟩ := awaiting.ahead
  have unique := awaiting.sound.unique
  cases label with
  | queue intent nextAttemptAt now =>
    obtain ⟨after, queued, is⟩ := Option.map_eq_some_iff.mp done
    refine .inr ⟨ahead.render (queueRenderIntent_renders unique queued) (congrArg some is), ?_, ?_⟩
    · subst is
      exact awaiting.engaged.keep rfl (fun _ member => member) rfl
    · subst is
      exact awaiting.since
  | recover intent now =>
    obtain ⟨after, recovered, is⟩ := Option.map_eq_some_iff.mp done
    refine .inr ⟨ahead.render (recoverRenderIntent_renders unique recovered) (congrArg some is),
      ?_, ?_⟩
    · subst is
      exact awaiting.engaged.keep rfl (fun _ member => member) rfl
    · subst is
      exact awaiting.since
  | forget key =>
    cases done
    exact .inr ⟨⟨row, ahead.keep ahead.found fun _ member _ => member⟩,
      awaiting.engaged.keep rfl (fun _ member => member) rfl, awaiting.since⟩
  | claim limit now =>
    cases done
    rcases @claim_ahead _ _ settings id revision limit now w row unique ahead with
      released | ⟨found, others⟩
    · exact .inl (.inr ⟨limit, now, rfl, released⟩)
    · refine .inr ⟨⟨row, ahead.keep found ?_⟩,
        awaiting.engaged.keep rfl (fun _ member => member) rfl, awaiting.since⟩
      intro item member same
      unfold World.inFlight at member
      simp only [List.mem_append] at member
      rcases member with (old | new) | held
      · exact List.mem_append_left _ old
      · exact absurd same (others item new)
      · exact List.mem_append_right _ held
  | claimRolledBack limit now =>
    cases done
    exact .inr ⟨⟨row, ahead.keep ahead.found fun _ member _ => member⟩,
      awaiting.engaged.keep rfl (fun _ member => List.mem_append_left _ member) rfl,
      awaiting.since⟩
  | deliver index => exact .inr (deliver_onward awaiting done)
  | markUnavailable now =>
    simp only [step] at done
    split at done
    · next item is =>
      split at done
      · next after marked =>
        cases done
        refine .inr (quiet_onward awaiting is rfl ?_ ?_ rfl rfl)
        · intro row ahead
          exact markContentUnavailable_ahead ahead (mem_inFlight is) marked
        · intro other member
          exact List.mem_append_left _ (by simpa [World.inFlight] using member)
      · cases done
        exact .inr (interrupted_onward awaiting is)
    · cases done
  | look =>
    simp only [step] at done
    split at done
    · next item payload is =>
      have onward : ∀ next : Delivery Hash, next.item = item →
          Onward id revision since { w with delivering := some next } := by
        intro next same
        refine quiet_onward awaiting is rfl (fun _ ahead => ahead.found) ?_ rfl rfl
        intro other member
        unfold World.inFlight at member ⊢
        simp only [Option.map_some, same] at member
        rw [is]
        exact member
      split at done
      · split at done
        · cases done
          exact .inr (onward _ rfl)
        · cases done
          exact .inr (onward _ rfl)
      · cases done
        exact .inr (onward _ rfl)
    · cases done
  | accept messageId =>
    simp only [step] at done
    split at done
    · next item payload is =>
      cases done
      refine .inr ⟨⟨row, ahead.keep ahead.found ?_⟩, ?_, awaiting.since⟩
      · intro other member _
        unfold World.inFlight at member ⊢
        rw [is]
        exact member
      · rcases awaiting.engaged with ⟨held, isHeld, _, same⟩ | restoring | restarted
        · rw [is] at isHeld
          cases isHeld
          exact .inl ⟨_, rfl, rfl, same⟩
        · exact .inr (.inl restoring)
        · exact .inr (.inr restarted)
    · next item payload is =>
      cases done
      refine .inr (quiet_onward awaiting is rfl (fun _ ahead => ahead.found) ?_ rfl rfl)
      intro other member
      unfold World.inFlight at member ⊢
      rw [is]
      exact member
    · cases done
  | fail error now =>
    rcases fail_onward awaiting done with pending | onward
    · exact .inl (.inl pending)
    · exact .inr onward
  | settle now wallNow =>
    simp only [step] at done
    split at done
    · next item payload messageId is =>
      split at done
      · next after settled =>
        cases done
        have effect := settleDelivery_ahead unique ahead (mem_inFlight is) settled
        have ended :=
          @ended_onward _ settings id revision since w row _ after none awaiting ahead is
          (by simp) effect
        rcases ended with pending | onward
        · exact .inl (.inl pending)
        · exact .inr onward
      · cases done
        exact .inr (interrupted_onward awaiting is)
    · cases done
  | record now =>
    simp only [step] at done
    split at done
    · next item payload is =>
      cases done
      refine .inr (quiet_onward awaiting is rfl ?_ ?_ rfl rfl)
      · intro row ahead
        refine rowOf_miss (by exact fun _ => rfl) ahead.found ?_
        simp [ahead.sending]
      · intro other member
        unfold World.inFlight at member ⊢
        rw [is]
        split at member
        · exact member
        · exact List.mem_append_left _ (by simpa using member)
    · cases done
  | recordSurface =>
    simp only [step] at done
    split at done
    · next item payload messageId is =>
      cases done
      refine .inr (quiet_onward awaiting is rfl (fun _ ahead => ahead.found) ?_ rfl rfl)
      intro other member
      exact List.mem_append_left _ (by simpa [World.inFlight] using member)
    · cases done
  | interrupt =>
    obtain ⟨delivery, is, rfl⟩ := Option.map_eq_some_iff.mp done
    exact .inr (interrupted_onward awaiting is)
  | abandon index =>
    obtain ⟨item, found, is⟩ := Option.bind_eq_some_iff.mp done
    cases is
    refine .inr ⟨⟨row, ahead.keep ahead.found ?_⟩,
      awaiting.engaged.keep rfl (fun _ member => List.mem_append_left _ member) rfl,
      awaiting.since⟩
    intro other member _
    rcases List.mem_append.mp member with old | new
    · exact List.mem_append_left _ (List.mem_of_mem_eraseIdx old)
    · exact List.mem_append_right _ new
  | restore index now =>
    rcases restore_onward awaiting done with pending | onward
    · exact .inl (.inl pending)
    · exact .inr onward
  | restart =>
    cases done
    refine .inr ⟨⟨row, ahead.keep ahead.found ?_⟩, ?_, ?_⟩
    · intro other member _
      cases member
    · exact .inr (.inr (Nat.lt_succ_of_le awaiting.since))
    · exact Nat.le_succ_of_le awaiting.since

/-! ## Convergence -/

def Label.reduces : Label → Bool
  | .queue .. | .recover .. => true
  | _ => false

theorem reduces_render [DecidableEq Hash]
    (unique : Unique w.store.outbox) (reduces : label.reduces = true)
    (done : step settings w label = some v) :
    ∃ payload after, Renders settings payload Steady w.store after ∧
      w.render payload (some after) = some v := by
  cases label with
  | queue intent nextAttemptAt now =>
    obtain ⟨after, queued, is⟩ := Option.map_eq_some_iff.mp done
    exact ⟨intent.payload, after, queueRenderIntent_renders unique queued, congrArg some is⟩
  | recover intent now =>
    obtain ⟨after, recovered, is⟩ := Option.map_eq_some_iff.mp done
    exact ⟨intent.payload, after, recoverRenderIntent_renders unique recovered, congrArg some is⟩
  | _ => cases reduces

theorem arrival [DecidableEq Hash] (sound : Sound settings w)
    (is : w.delivering = some delivery) (inSend : delivery.inSend = true)
    (reduces : label.reduces = true) (done : step settings w label = some v)
    (found : rowOf delivery.item.id w.store.outbox = some row)
    (foundNew : rowOf delivery.item.id v.store.outbox = some new)
    (newer : row.payloadRevision < new.payloadRevision) :
    new.state = .pending ∨
      Awaiting settings delivery.item.id new.payloadRevision v.restarts v := by
  have after := step_sound sound done
  obtain ⟨payload, store, renders, is_⟩ := reduces_render sound.unique reduces done
  cases is_
  obtain ⟨other, foundOther, edge⟩ := renders.rows _ row found
  rw [show rowOf delivery.item.id store.outbox = some new from foundNew] at foundOther
  cases foundOther
  rcases edge with ⟨kept, _⟩ | revised
  · have := kept.payloadRevision
    omega
  · have state := revised.state
    split at state
    · refine .inr ⟨after, ⟨new, foundNew, state, Nat.le_refl _, revised.renderKind, ?_⟩,
        .inl ⟨delivery, is, inSend, rfl⟩, Nat.le_refl _⟩
      intro item member same
      obtain ⟨held, foundHeld, _, past⟩ := (sound.items item member).row
      rw [same, found] at foundHeld
      cases foundHeld
      omega
    · exact .inl state

/-- In every run: a row that is sent has a current payload that the transport accepted.
A revision that the reducer writes while an older one is being sent makes the row
pending at once or by a later step, and until then the send or the restoration of its
claim is under way, unless the process was started again.  A claim that is left behind
is given up by the first claim after the timeout. -/
theorem outbox_converges [DecidableEq Hash] {settings : Settings Hash} {w : World Hash}
    {labels : List Label} (reached : run (step settings) {} labels = some w) :
    (∀ row ∈ w.store.outbox, row.state = .sent →
      ∃ payload, w.rendered row.id row.payloadRevision = some payload ∧
        (row.sessionId, payload) ∈ w.accepted) ∧
    (∀ delivery label v row new, w.delivering = some delivery → delivery.inSend = true →
      label.reduces = true → step settings w label = some v →
      rowOf delivery.item.id w.store.outbox = some row →
      rowOf delivery.item.id v.store.outbox = some new →
      row.payloadRevision < new.payloadRevision →
      ∀ more u, run (step settings) v more = some u →
        new.state = .pending ∨
        Somewhere (step settings) (Requeues settings delivery.item.id) v more ∨
        (∃ last, rowOf delivery.item.id u.store.outbox = some last ∧ last.state = .sending ∧
          new.payloadRevision ≤ last.payloadRevision) ∧
          Engaged delivery.item.id v.restarts u) ∧
    (∀ row ∈ w.store.outbox, row.state = .sending → ∀ now,
      row.updatedAt ≤ now - settings.claimTimeoutSeconds →
      stateOf row.id (releaseStale settings now w.store.outbox) = some .pending) := by
  have sound := run_inv (fun _ _ _ => step_sound) (sound_initial settings) reached
  refine ⟨?_, ?_, ?_⟩
  · intro row member sent
    have found := lookup_of_mem sound.unique.1 member
    obtain ⟨payload, is, _, accepted⟩ := sound.rows row.id row found
    exact ⟨payload, is, accepted sent⟩
  · intro delivery label v row new is inSend reduces done found foundNew newer more u rest
    rcases arrival sound is inSend reduces done found foundNew newer with pending | awaiting
    · exact .inl pending
    · rcases run_unless (fun _ _ _ => step_awaiting) awaiting rest with requeued | last
      · exact .inr (.inl requeued)
      · obtain ⟨row, ahead⟩ := last.ahead
        exact .inr (.inr ⟨⟨row, ahead.found, ahead.sending, ahead.revision⟩, last.engaged⟩)
  · intro row member sending now stale
    refine stateOf_hit (fun _ => rfl) (lookup_of_mem sound.unique.1 member) ?_
    simp [sending, stale]

/-- Payloads that are their own hash. -/
def plainSettings : Settings Payload := { payloadHash := .refl Payload }

def streamed (content : String) : RenderIntent where
  id := "row"
  sessionId := "session"
  logicalSeq := 1
  lane := "assistant_stream"
  coalesceKey := some "turn"
  idempotencyKey := "render-family:session:turn"
  payload := { content, stable := true }
  type_ne := by simp

def firstSend : List Label :=
  [.queue (streamed "a") 0 0, .claim 20 1, .deliver 0, .look]

/-- The first revision is settled and the second one is sent. -/
def secondSend : List Label :=
  [.accept "m", .settle 3 3, .claim 20 4, .deliver 0, .look, .accept "m", .settle 5 5]

theorem outbox_converges_two_revisions :
    ∃ w v u new last,
      run (step plainSettings) {} firstSend = some w ∧
      step plainSettings w (.queue (streamed "b") 2 2) = some v ∧
      rowOf (.plain "row") v.store.outbox = some new ∧ new.state = .sending ∧
      run (step plainSettings) v secondSend = some u ∧
      Somewhere (step plainSettings) (Requeues plainSettings (.plain "row")) v secondSend ∧
      last ∈ u.store.outbox ∧ last.state = .sent ∧ last.payloadRevision = 2 ∧
      ∃ payload, u.rendered last.id last.payloadRevision = some payload ∧
        (last.sessionId, payload) ∈ u.accepted := by
  have ends : ((run (step plainSettings) {} firstSend).bind fun w =>
      (step plainSettings w (.queue (streamed "b") 2 2)).bind fun v =>
        (run (step plainSettings) v secondSend).map fun u => decide
          ((w.delivering.map fun delivery => (delivery.inSend, delivery.item.id)) =
              some (true, .plain "row") ∧
            (rowOf (.plain "row") w.store.outbox).map OutboxRow.payloadRevision = some 1 ∧
            ((rowOf (.plain "row") v.store.outbox).map fun row =>
              (row.payloadRevision, row.state)) = some (2, .sending) ∧
            ((rowOf (.plain "row") u.store.outbox).map fun row =>
              (row.payloadRevision, row.state)) = some (2, .sent)))
      = some true := by
    decide +kernel
  obtain ⟨w, reached, ends⟩ := Option.bind_eq_some_iff.mp ends
  obtain ⟨v, queued, ends⟩ := Option.bind_eq_some_iff.mp ends
  obtain ⟨u, rest, ends⟩ := Option.map_eq_some_iff.mp ends
  obtain ⟨sends, first, second, final⟩ := of_decide_eq_true ends
  obtain ⟨delivery, is, ends⟩ := Option.map_eq_some_iff.mp sends
  obtain ⟨row, found, one⟩ := Option.map_eq_some_iff.mp first
  obtain ⟨new, foundNew, two⟩ := Option.map_eq_some_iff.mp second
  obtain ⟨last, foundLast, sent⟩ := Option.map_eq_some_iff.mp final
  obtain ⟨inSend, key⟩ := Prod.mk.inj ends
  obtain ⟨newer, sending⟩ := Prod.mk.inj two
  obtain ⟨revision, isSent⟩ := Prod.mk.inj sent
  have whole : run (step plainSettings) {} (firstSend ++ .queue (streamed "b") 2 2 :: secondSend) =
      some u := by
    rw [run_append, reached, Option.bind_some, run_cons, queued, Option.bind_some, rest]
  have member := lookup_some_mem foundLast
  have requeued := (outbox_converges reached).2.1 delivery _ v row new is inSend rfl queued
    (key ▸ found) (key ▸ foundNew) (by omega) secondSend u rest
  rw [key] at requeued
  refine
    ⟨w, v, u, new, last, reached, queued, foundNew, sending, rest, ?_, member, isSent, revision,
    (outbox_converges whole).1 last member isSent⟩
  rcases requeued with pending | requeued | ⟨⟨other, foundOther, still, _⟩, _⟩
  · rw [sending] at pending
    cases pending
  · exact requeued
  · rw [foundLast] at foundOther
    cases foundOther
    rw [isSent] at still
    cases still

end Copilotd.Guarantees.OutboxConvergence
