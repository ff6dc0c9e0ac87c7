import Mathlib.Order.Interval.Finset.Nat
import Copilotd.Guarantees.OutboxConvergence

/-!
# The transient retry budget

A claim advances `attempts`, and a transient failure compares it with
`max_transient_attempts`.  Nothing sets the counter back: claims that are restored, rate
limited or given up, and those of earlier revisions, are counted as well.  A row is therefore
blocked after that many failures of its current revision exactly if all its claims but the
last ones were such failures.
-/
namespace Copilotd.Guarantees.RetryBudget

open Base.Run Base.Table Source.Render.Outbox Guarantees.OutboxConvergence

variable {Hash : Type}

/-! ## Failures on record -/

/-- A transient failure: the row, the number of its claim, and the revision that was sent. -/
structure Failure where
  row : Name
  attempt : Nat
  revision : Nat

structure Ledger (Hash : Type) where
  world : World Hash := {}
  failures : List Failure := []

/-- The errors after which a delivery is tried again, up to the maximum. -/
def transient : TransportError → Bool
  | .transient | .request => true
  | _ => false

def failureOf (error : TransportError) (item : OutboxItem Hash) : List Failure :=
  if transient error then [⟨item.id, item.attempts, item.payloadRevision⟩] else []

/-- The failure that a step adds: the transport failed, and the claim was not lost. -/
def newFailures (settings : Settings Hash) (w : World Hash) : Label → List Failure
  | .fail error now =>
    match w.delivering with
    | some (.sending item _) =>
      if (failDelivery settings item error now w.store).isSome then failureOf error item else []
    | _ => []
  | _ => []

def advance [DecidableEq Hash] (settings : Settings Hash) (ledger : Ledger Hash) (label : Label) :
    Option (Ledger Hash) :=
  (step settings ledger.world label).map fun world =>
    { world, failures := ledger.failures ++ newFailures settings ledger.world label }

/-- The transient failures of one revision of a row. -/
def failuresOf (id : Name) (revision : Nat) (failures : List Failure) : List Failure :=
  failures.filter fun failure => failure.row = id ∧ failure.revision = revision

/-- The step blocks the row for a transient error. -/
structure Blocks (w : World Hash) (label : Label) (v : World Hash) (row new : OutboxRow Hash) :
    Prop where
  error : ∃ error now, label = .fail error now ∧ transient error = true
  before : rowOf row.id w.store.outbox = some row
  after : rowOf row.id v.store.outbox = some new
  unblocked : row.state ≠ .blocked
  blocked : new.state = .blocked

/-! ## How rows move -/

/-- The row is to be sent. -/
def IsOpen (row : OutboxRow Hash) : Prop := row.state = .pending ∨ row.state = .sending

/-- The counters never go down, and only a new revision opens a row again. -/
structure Moves (old new : OutboxRow Hash) : Prop where
  id : new.id = old.id
  attempts : old.attempts ≤ new.attempts
  revision : old.payloadRevision ≤ new.payloadRevision
  opens : new.payloadRevision = old.payloadRevision → IsOpen new → IsOpen old

theorem Moves.refl (row : OutboxRow Hash) : Moves row row :=
  ⟨rfl, Nat.le_refl _, Nat.le_refl _, fun _ is => is⟩

theorem Moves.trans {a b c : OutboxRow Hash} (first : Moves a b) (second : Moves b c) :
    Moves a c where
  id := second.id.trans first.id
  attempts := first.attempts.trans second.attempts
  revision := first.revision.trans second.revision
  opens := by
    intro same is
    have low := first.revision
    have high := second.revision
    exact first.opens (by omega) (second.opens (by omega) is)

def MovesAll (before after : List (OutboxRow Hash)) : Prop :=
  ∀ id row, rowOf id before = some row → ∃ new, rowOf id after = some new ∧ Moves row new

theorem MovesAll.refl (outbox : List (OutboxRow Hash)) : MovesAll outbox outbox :=
  fun _ row found => ⟨row, found, .refl row⟩

theorem MovesAll.trans {a b c : List (OutboxRow Hash)} (first : MovesAll a b)
    (second : MovesAll b c) : MovesAll a c := by
  intro id row found
  obtain ⟨mid, foundMid, moves⟩ := first id row found
  obtain ⟨new, foundNew, movesOn⟩ := second id mid foundMid
  exact ⟨new, foundNew, moves.trans movesOn⟩

theorem moves_updateWhere {hit : OutboxRow Hash → Bool} {set : OutboxRow Hash → OutboxRow Hash}
    (ids : ∀ row, (set row).id = row.id) (moves : ∀ row, hit row = true → Moves row (set row))
    (outbox : List (OutboxRow Hash)) : MovesAll outbox (updateWhere hit set outbox) := by
  intro id row found
  unfold rowOf at found ⊢
  rw [lookup_updateWhere ids, found]
  refine ⟨_, rfl, ?_⟩
  dsimp only
  split
  · next isHit => exact moves row isHit
  · exact .refl row

variable {row new : OutboxRow Hash}

theorem moves_of_closed (id : new.id = row.id) (attempts : new.attempts = row.attempts)
    (revision : new.payloadRevision = row.payloadRevision) (closed : ¬ IsOpen new) :
    Moves row new :=
  ⟨id, attempts.ge, revision.ge, fun _ is => absurd is closed⟩

theorem moves_of_open (id : new.id = row.id) (attempts : row.attempts ≤ new.attempts)
    (revision : new.payloadRevision = row.payloadRevision) (is : IsOpen row) : Moves row new :=
  ⟨id, attempts, revision.ge, fun _ _ => is⟩

theorem compensate_moves (source : Name) (now : ℚ) (store : Store Hash) :
    MovesAll store.outbox (compensate source now store).outbox := by
  refine moves_updateWhere ?_ ?_ _
  · exact fun _ => rfl
  · intro row _
    exact moves_of_closed rfl rfl rfl (by simp [IsOpen])

variable {store : Store Hash}

theorem insertRow_moves {inserted : Store Hash} (done : insertRow row store = some inserted) :
    MovesAll store.outbox inserted.outbox :=
  fun id old found => ⟨old, insertRow_untouched done id old found, .refl old⟩

variable {after : Store Hash}

theorem upsertRow_moves {excluded : OutboxRow Hash} {state : OutboxRow Hash → OutboxState}
    {next : OutboxRow Hash → ℚ}
    (done : upsertRow excluded (fun row => row.revise excluded (state row) (next row)) store =
      some after) : MovesAll store.outbox after.outbox := by
  unfold upsertRow at done
  split at done
  · cases done
    refine moves_updateWhere ?_ ?_ _
    · exact fun _ => rfl
    · intro row _
      refine ⟨rfl, Nat.le_refl _, Nat.le_succ _, ?_⟩
      intro same
      exact absurd same (Nat.succ_ne_self _)
  · exact insertRow_moves done

variable {intent : RenderIntent} {now : ℚ}

theorem queueRenderIntent_moves [DecidableEq Hash] {settings : Settings Hash} {nextAttemptAt : ℚ}
    (done : queueRenderIntent settings intent nextAttemptAt now store = some after) :
    MovesAll store.outbox after.outbox := by
  unfold queueRenderIntent at done
  dsimp only at done
  split at done
  · obtain ⟨inserted, put, done⟩ := Option.bind_eq_some_iff.mp done
    cases done
    have moved : MovesAll (putContent intent store).outbox inserted.outbox := upsertRow_moves put
    exact moved.trans (compensate_moves _ _ _)
  · split at done
    · cases done
      exact .refl _
    · split at done
      · cases done
        exact .refl _
      · split at done
        · cases done
          exact compensate_moves _ _ _
        · obtain ⟨revised, put, done⟩ := Option.bind_eq_some_iff.mp done
          cases done
          have moved : MovesAll (putContent intent store).outbox revised.outbox :=
            upsertRow_moves put
          exact moved.trans (compensate_moves _ _ _)

theorem recoverRenderIntent_moves [DecidableEq Hash] {settings : Settings Hash}
    (done : recoverRenderIntent settings intent now store = some after) :
    MovesAll store.outbox after.outbox := by
  unfold recoverRenderIntent at done
  dsimp only at done
  split at done
  · obtain ⟨inserted, put, done⟩ := Option.bind_eq_some_iff.mp done
    cases done
    have moved : MovesAll (putContent intent store).outbox inserted.outbox := upsertRow_moves put
    exact moved.trans (compensate_moves _ _ _)
  · split at done
    · cases done
      exact .refl _
    · split at done
      · cases done
        exact .refl _
      · split at done
        · cases done
          exact compensate_moves _ _ _
        · split at done
          · cases done
            exact .refl _
          · obtain ⟨revised, put, done⟩ := Option.bind_eq_some_iff.mp done
            cases done
            have moved : MovesAll (putContent intent store).outbox revised.outbox :=
              upsertRow_moves put
            exact moved.trans (compensate_moves _ _ _)

theorem open_moves (settings : Settings Hash) (now : ℚ) (outbox : List (OutboxRow Hash)) :
    MovesAll outbox (supersede now (releaseStale settings now outbox)) := by
  have released : MovesAll outbox (releaseStale settings now outbox) := by
    refine moves_updateWhere (by exact fun _ => rfl) ?_ _
    intro row hit
    rw [Bool.and_eq_true, decide_eq_true_eq] at hit
    exact moves_of_open rfl (Nat.le_refl _) rfl (.inr hit.1)
  refine released.trans (moves_updateWhere (by exact fun _ => rfl) ?_ _)
  intro row _
  exact moves_of_closed rfl rfl rfl (by simp [IsOpen])

def claimRow (id : Name) (now : ℚ) (outbox : List (OutboxRow Hash)) : List (OutboxRow Hash) :=
  updateWhere (fun other => other.id = id && other.state = .pending)
    (fun row => { row with state := .sending, attempts := row.attempts + 1, updatedAt := now })
      outbox

theorem claimRow_moves (id : Name) (now : ℚ) (outbox : List (OutboxRow Hash)) :
    MovesAll outbox (claimRow id now outbox) := by
  refine moves_updateWhere (by exact fun _ => rfl) ?_ _
  intro row hit
  rw [Bool.and_eq_true, decide_eq_true_eq, decide_eq_true_eq] at hit
  exact moves_of_open rfl (Nat.le_succ _) rfl (.inl hit.2)

theorem claimRows_moves [DecidableEq Hash] (settings : Settings Hash)
    (content : List (Name × Payload))
    (now : ℚ) (outbox rows : List (OutboxRow Hash)) :
    MovesAll outbox (claimRows settings content now outbox rows).1 := by
  induction rows generalizing outbox with
  | nil => exact .refl outbox
  | cons row rows ih =>
    exact (claimRow_moves row.id now outbox).trans (ih _)

theorem claim_moves [DecidableEq Hash] (settings : Settings Hash) (limit : Nat) (now : ℚ)
    (store : Store Hash) : MovesAll store.outbox (claim settings limit now store).1.outbox :=
  (open_moves settings now store.outbox).trans (claimRows_moves settings store.content now _ _)

variable {item : OutboxItem Hash}

theorem current_open (is : item.current row = true) :
    row.id = item.id ∧ row.state = .sending ∧ row.payloadRevision = item.payloadRevision := by
  simpa [OutboxItem.current, and_assoc] using is

theorem outdated_open (is : item.outdated row = true) :
    row.id = item.id ∧ row.state = .sending ∧ item.payloadRevision < row.payloadRevision := by
  simpa [OutboxItem.outdated, and_assoc] using is

theorem restoreClaim_moves (id : Name) (now : ℚ) (store : Store Hash) :
    MovesAll store.outbox (restoreClaim id now store).outbox := by
  refine moves_updateWhere (by exact fun _ => rfl) ?_ _
  intro row hit
  rw [Bool.and_eq_true, decide_eq_true_eq, decide_eq_true_eq] at hit
  exact moves_of_open rfl (Nat.le_refl _) rfl (.inr hit.2)

theorem recordRenderFailure_moves (item : OutboxItem Hash) (now : ℚ) (store : Store Hash) :
    MovesAll store.outbox (recordRenderFailure item now store).1.outbox := by
  refine moves_updateWhere (by exact fun _ => rfl) ?_ _
  intro row _
  exact ⟨rfl, Nat.le_refl _, Nat.le_refl _, fun _ is => is⟩

theorem markContentUnavailable_moves (done : markContentUnavailable item now store = some after) :
    MovesAll store.outbox after.outbox := by
  unfold markContentUnavailable at done
  split at done
  · obtain ⟨surfaced, put, done⟩ := Option.map_eq_some_iff.mp done
    cases done
    have inserted : MovesAll store.outbox surfaced.outbox := by
      unfold insertOrIgnore at put
      split at put
      · cases put
        exact .refl _
      · exact insertRow_moves put
    refine inserted.trans (moves_updateWhere (by exact fun _ => rfl) ?_ _)
    intro row _
    exact moves_of_closed rfl rfl rfl (by simp [IsOpen])
  · cases done
    exact .refl _

variable {settings : Settings Hash} {payload : Payload}

theorem settleDelivery_moves {messageId : String} {wallNow : ℚ}
    (done : settleDelivery settings item payload messageId now wallNow store = some after) :
    MovesAll store.outbox after.outbox := by
  unfold settleDelivery at done
  split at done
  · cases done
    refine moves_updateWhere (by exact fun _ => rfl) ?_ _
    intro row _
    exact moves_of_closed rfl rfl rfl (by simp [IsOpen])
  · split at done
    · cases done
      refine moves_updateWhere (by exact fun _ => rfl) ?_ _
      intro row hit
      exact moves_of_open rfl (Nat.le_refl _) rfl (.inr (outdated_open hit).2.1)
    · cases done

variable {nextAttemptAt : Option ℚ} {result : Store Hash × Bool} {state : OutboxState}

theorem transitionFailedClaim_moves
    (done : transitionFailedClaim item state nextAttemptAt now store = some result) :
    MovesAll store.outbox result.1.outbox := by
  unfold transitionFailedClaim at done
  split at done
  · cases done
    refine moves_updateWhere (by exact fun _ => rfl) ?_ _
    intro row hit
    exact moves_of_open rfl (Nat.le_refl _) rfl (.inr (current_open hit).2.1)
  · split at done
    · cases done
      refine moves_updateWhere (by exact fun _ => rfl) ?_ _
      intro row hit
      exact moves_of_open rfl (Nat.le_refl _) rfl (.inr (outdated_open hit).2.1)
    · cases done

variable {error : TransportError}

theorem failDelivery_moves (done : failDelivery settings item error now store = some result) :
    MovesAll store.outbox result.1.outbox := by
  obtain ⟨state, nextAttemptAt, taken, _, transitioned, _⟩ := failDelivery_transition done
  have moved := transitionFailedClaim_moves transitioned
  exact moved

variable {label : Label}

variable {v : World Hash}

theorem step_moves [DecidableEq Hash] {w : World Hash}
    (done : step settings w label = some v) : MovesAll w.store.outbox v.store.outbox := by
  cases label with
  | queue intent nextAttemptAt now =>
    obtain ⟨after, queued, is⟩ := Option.map_eq_some_iff.mp done
    subst is
    exact queueRenderIntent_moves queued
  | recover intent now =>
    obtain ⟨after, recovered, is⟩ := Option.map_eq_some_iff.mp done
    subst is
    exact recoverRenderIntent_moves recovered
  | forget key =>
    cases done
    exact .refl _
  | claim limit now =>
    cases done
    exact claim_moves settings limit now w.store
  | claimRolledBack limit now =>
    cases done
    exact .refl _
  | deliver index =>
    obtain ⟨item, found, done⟩ := Option.bind_eq_some_iff.mp done
    split at done
    · split at done
      · cases done
        exact .refl _
      · cases done
        exact .refl _
    · cases done
      exact .refl _
    · cases done
  | markUnavailable now =>
    simp only [step] at done
    split at done
    · split at done
      · next after marked =>
        cases done
        exact markContentUnavailable_moves marked
      · cases done
        exact .refl _
    · cases done
  | look =>
    simp only [step] at done
    split at done
    · split at done
      · split at done
        · cases done
          exact .refl _
        · cases done
          exact .refl _
      · cases done
        exact .refl _
    · cases done
  | accept messageId =>
    simp only [step] at done
    split at done
    · cases done
      exact .refl _
    · cases done
      exact .refl _
    · cases done
  | fail error now =>
    simp only [step] at done
    split at done
    · split at done
      · next store failed =>
        cases done
        have moved := failDelivery_moves failed
        exact moved
      · next store failed =>
        cases done
        have moved := failDelivery_moves failed
        exact moved
      · cases done
        exact .refl _
    · split at done
      · split at done
        · next store surfaced failed =>
          cases done
          have moved := failDelivery_moves failed
          exact moved
        · cases done
          exact .refl _
      · cases done
        exact .refl _
    · cases done
  | settle now wallNow =>
    simp only [step] at done
    split at done
    · split at done
      · next after settled =>
        cases done
        exact settleDelivery_moves settled
      · cases done
        exact .refl _
    · cases done
  | record now =>
    simp only [step] at done
    split at done
    · next item payload is =>
      cases done
      exact recordRenderFailure_moves item now w.store
    · cases done
  | recordSurface =>
    simp only [step] at done
    split at done
    · cases done
      exact .refl _
    · cases done
  | interrupt =>
    obtain ⟨delivery, _, is⟩ := Option.map_eq_some_iff.mp done
    subst is
    exact .refl _
  | abandon index =>
    obtain ⟨item, found, is⟩ := Option.bind_eq_some_iff.mp done
    cases is
    exact .refl _
  | restore index now =>
    obtain ⟨id, found, is⟩ := Option.bind_eq_some_iff.mp done
    cases is
    exact restoreClaim_moves id now w.store
  | restart =>
    cases done
    exact .refl _

/-! ## A transient failure -/

theorem row_of_transition (unique : Unique store.outbox)
    (found : rowOf item.id store.outbox = some row)
    (done : transitionFailedClaim item state nextAttemptAt now store = some result) :
    ∃ new, rowOf item.id result.1.outbox = some new ∧ new.attempts = row.attempts ∧
      new.payloadRevision = row.payloadRevision ∧
      (item.current row = true ∧ new.state = state ∧ result.2 = true ∨
        item.outdated row = true ∧ new.state = .pending ∧ result.2 = false) := by
  have ownCurrent : ∀ other, item.current other = true → other.id = item.id :=
    fun _ is => (current_open is).1
  have ownOutdated : ∀ other, item.outdated other = true → other.id = item.id :=
    fun _ is => (outdated_open is).1
  unfold transitionFailedClaim at done
  rw [rowcount_of_lookup unique.1 found ownCurrent,
    rowcount_of_lookup unique.1 found ownOutdated] at done
  cases current : item.current row with
  | true =>
    rw [current, if_pos rfl, if_pos rfl] at done
    cases done
    unfold rowOf at found ⊢
    rw [lookup_updateWhere (by exact fun _ => rfl), found, Option.map_some, if_pos current]
    exact ⟨_, rfl, rfl, rfl, .inl ⟨rfl, rfl, rfl⟩⟩
  | false =>
    rw [current] at done
    cases outdated : item.outdated row with
    | true =>
      rw [outdated, if_pos rfl, if_pos rfl] at done
      cases done
      unfold rowOf at found ⊢
      rw [lookup_updateWhere (by exact fun _ => rfl), found, Option.map_some, if_pos outdated]
      exact ⟨_, rfl, rfl, rfl, .inr ⟨rfl, rfl, rfl⟩⟩
    | false =>
      rw [outdated] at done
      cases done

variable {id : Name}

theorem row_of_other_transition (different : id ≠ item.id)
    (done : transitionFailedClaim item state nextAttemptAt now store = some result) :
    rowOf id result.1.outbox = rowOf id store.outbox := by
  unfold transitionFailedClaim at done
  split at done
  · cases done
    exact lookup_updateWhere_other different (by exact fun _ => rfl)
      (fun row is => (current_open is).1) _
  · split at done
    · cases done
      exact lookup_updateWhere_other different (by exact fun _ => rfl)
        (fun row is => (outdated_open is).1) _
    · cases done

theorem failDelivery_transient (is : transient error = true)
    (done : failDelivery settings item error now store = some result) :
    ∃ nextAttemptAt taken, transitionFailedClaim item
      (if item.attempts ≥ settings.maxTransientAttempts then .blocked else .pending)
      nextAttemptAt now store = some (result.1, taken) := by
  have mapped : ∀ {after : Option (Store Hash × Bool)},
      (after.map fun r => (r.1, false)) = some result →
        ∃ taken, after = some (result.1, taken) := by
    intro after is
    obtain ⟨⟨store, taken⟩, found, same⟩ := Option.map_eq_some_iff.mp is
    cases same
    exact ⟨taken, found⟩
  cases error with
  | rateLimited retryAfter => cases is
  | permanent => cases is
  | transient =>
    simp only [failDelivery] at done
    split at done
    · next spent =>
      rw [if_pos spent]
      exact ⟨none, result.2, done⟩
    · next left_ =>
      rw [if_neg left_]
      obtain ⟨taken, retried⟩ := mapped done
      exact ⟨_, taken, retried⟩
  | request =>
    obtain ⟨taken, settled⟩ := mapped done
    split at settled
    · next spent =>
      rw [if_pos spent]
      exact ⟨none, taken, settled⟩
    · next left_ =>
      rw [if_neg left_]
      exact ⟨_, taken, settled⟩

theorem failDelivery_surfaces
    (done : failDelivery settings item error now store = some (after, true)) :
    transitionFailedClaim item .blocked none now store = some (after, true) := by
  have unmapped : ∀ {result : Option (Store Hash × Bool)},
      (result.map fun r => (r.1, false)) = some (after, true) → False := by
    intro result is
    obtain ⟨_, _, same⟩ := Option.map_eq_some_iff.mp is
    cases same
  cases error with
  | rateLimited retryAfter => exact (unmapped done).elim
  | permanent => exact done
  | transient =>
    simp only [failDelivery] at done
    split at done
    · exact done
    · exact (unmapped done).elim
  | request => exact (unmapped done).elim

/-! ## The invariant -/

/-- The transport call is still to come, or its outcome is. -/
def undecidedDelivery : Delivery Hash → Bool
  | .recording .. | .surfacing .. | .surfaced .. => false
  | _ => true

/-- The items whose claim has had no outcome. -/
def undecided (w : World Hash) : List (OutboxItem Hash) :=
  w.claimed ++ ((w.delivering.filter undecidedDelivery).map Delivery.item).toList

def claimOf (item : OutboxItem Hash) : Name × Nat := (item.id, item.attempts)

def Failure.claim (failure : Failure) : Name × Nat := (failure.row, failure.attempt)

/-- The failure is one of a claim that the row counts; one of the current revision has a number
below the maximum as long as the row is to be sent. -/
def Counted (settings : Settings Hash) (outbox : List (OutboxRow Hash)) (failure : Failure) :
    Prop :=
  ∃ row, rowOf failure.row outbox = some row ∧ failure.attempt ≤ row.attempts ∧
    failure.revision ≤ row.payloadRevision ∧
    (failure.revision = row.payloadRevision → IsOpen row →
      failure.attempt < settings.maxTransientAttempts)

/-- The row of a delivery that has failed for good is not to be sent, in that revision. -/
def Ended (outbox : List (OutboxRow Hash)) (item : OutboxItem Hash) : Prop :=
  ∃ row, rowOf item.id outbox = some row ∧ item.payloadRevision ≤ row.payloadRevision ∧
    (item.payloadRevision = row.payloadRevision → ¬ IsOpen row)

structure Budget (settings : Settings Hash) (ledger : Ledger Hash) : Prop where
  sound : Sound settings ledger.world
  items : ∀ item ∈ undecided ledger.world, 0 < item.attempts ∧
    ∃ row, rowOf item.id ledger.world.store.outbox = some row ∧ item.attempts ≤ row.attempts
  positive : ∀ failure ∈ ledger.failures, 0 < failure.attempt
  counted : ∀ failure ∈ ledger.failures, Counted settings ledger.world.store.outbox failure
  distinct : ((undecided ledger.world).map claimOf ++ ledger.failures.map Failure.claim).Nodup
  ended : ∀ delivery ∈ ledger.world.delivering, undecidedDelivery delivery = false →
    Ended ledger.world.store.outbox delivery.item

theorem budget_initial (settings : Settings Hash) : Budget settings {} where
  sound := sound_initial settings
  items := by
    intro item member
    cases member
  positive := by
    intro failure member
    cases member
  counted := by
    intro failure member
    cases member
  distinct := List.nodup_nil
  ended := by
    intro delivery held
    cases held

variable {before : List (OutboxRow Hash)}

theorem Counted.moves {after : List (OutboxRow Hash)} {failure : Failure}
    (counted : Counted settings before failure) (moves : MovesAll before after) :
    Counted settings after failure := by
  obtain ⟨row, found, attempt, revision, below⟩ := counted
  obtain ⟨new, foundNew, moved⟩ := moves _ row found
  have later := moved.revision
  refine ⟨new, foundNew, attempt.trans moved.attempts, revision.trans later, ?_⟩
  intro same is
  exact below (by omega) (moved.opens (by omega) is)

theorem Ended.moves {after : List (OutboxRow Hash)} (ended : Ended before item)
    (moves : MovesAll before after) : Ended after item := by
  obtain ⟨row, found, revision, closed⟩ := ended
  obtain ⟨new, foundNew, moved⟩ := moves _ row found
  have later := moved.revision
  refine ⟨new, foundNew, revision.trans later, ?_⟩
  intro same is
  exact closed (by omega) (moved.opens (by omega) is)

variable {α : Type*} {few many : List α}

theorem nodup_of_subperm (fewer : few.Subperm many) (distinct : many.Nodup) : few.Nodup := by
  obtain ⟨middle, same, sub⟩ := fewer
  exact same.nodup_iff.mp (distinct.sublist sub)

theorem subperm_map {β : Type*} (f : α → β) (fewer : few.Subperm many) :
    (few.map f).Subperm (many.map f) := by
  obtain ⟨middle, same, sub⟩ := fewer
  exact ⟨middle.map f, same.map f, sub.map f⟩

theorem Budget.keep [DecidableEq Hash] {ledger : Ledger Hash} (budget : Budget settings ledger)
    (done : step settings ledger.world label = some v)
    (fewer : (undecided v).Subperm (undecided ledger.world))
    (same : ∀ delivery ∈ v.delivering, undecidedDelivery delivery = false →
      ∃ old ∈ ledger.world.delivering, undecidedDelivery old = false ∧ old.item = delivery.item) :
    Budget settings { world := v, failures := ledger.failures } where
  sound := step_sound budget.sound done
  items := by
    intro item member
    obtain ⟨positive, row, found, attempts⟩ := budget.items item (fewer.subset member)
    obtain ⟨new, foundNew, moved⟩ := step_moves done _ row found
    exact ⟨positive, new, foundNew, attempts.trans moved.attempts⟩
  positive := budget.positive
  counted failure member := (budget.counted failure member).moves (step_moves done)
  distinct := by
    refine nodup_of_subperm ?_ budget.distinct
    exact (List.subperm_append_right _).mpr (subperm_map claimOf fewer)
  ended := by
    intro delivery held final
    obtain ⟨old, heldOld, finalOld, is⟩ := same delivery held final
    rw [← is]
    exact (budget.ended old heldOld finalOld).moves (step_moves done)

/-! ## Claims -/

variable {outbox : List (OutboxRow Hash)}

theorem claimRow_counts (now : ℚ) (unique : (outbox.map OutboxRow.id).Nodup)
    (found : rowOf id outbox = some row)
    (one : rowcount (fun other => other.id = id && other.state = .pending) outbox = 1) :
    ∃ new, rowOf id (claimRow id now outbox) = some new ∧ row.attempts + 1 ≤ new.attempts := by
  rw [rowcount_of_lookup unique found (by simp +contextual)] at one
  unfold claimRow rowOf at *
  rw [lookup_updateWhere (by exact fun _ => rfl), found, Option.map_some]
  refine ⟨_, rfl, ?_⟩
  split at one
  · next hit => rw [if_pos hit]
  · cases one

theorem claimRows_items [DecidableEq Hash]
    {content : List (Name × Payload)} {rows : List (OutboxRow Hash)}
    (unique : (outbox.map OutboxRow.id).Nodup)
    (known : ∀ row ∈ rows, ∃ current, rowOf row.id outbox = some current ∧
      row.attempts ≤ current.attempts) :
    ∀ item ∈ (claimRows settings content now outbox rows).2,
      ∃ new, rowOf item.id (claimRows settings content now outbox rows).1 = some new ∧
        item.attempts ≤ new.attempts := by
  induction rows generalizing outbox with
  | nil =>
    intro item member
    cases member
  | cons row rows ih =>
    have moved := claimRow_moves row.id now outbox
    have uniqueNext : ((claimRow row.id now outbox).map OutboxRow.id).Nodup := by
      unfold claimRow
      rwa [map_updateWhere (by exact fun _ => rfl)]
    have knownNext : ∀ other ∈ rows, ∃ current, rowOf other.id (claimRow row.id now outbox) =
        some current ∧ other.attempts ≤ current.attempts := by
      intro other member
      obtain ⟨current, found, attempts⟩ := known other (List.mem_cons_of_mem _ member)
      obtain ⟨new, foundNew, moves⟩ := moved _ current found
      exact ⟨new, foundNew, attempts.trans moves.attempts⟩
    have rest := ih uniqueNext knownNext
    intro item member
    unfold claimRows at member ⊢
    dsimp only at member ⊢
    split at member
    · next one =>
      rcases List.mem_cons.mp member with rfl | later
      · obtain ⟨current, found, attempts⟩ := known row (List.mem_cons_self ..)
        obtain ⟨mid, foundMid, counted⟩ := claimRow_counts now unique found one
        obtain ⟨new, foundNew, moves⟩ := claimRows_moves settings content now
          (claimRow row.id now outbox) rows _ mid foundMid
        refine ⟨new, foundNew, ?_⟩
        have later := moves.attempts
        simp only [OutboxRow.item]
        omega
      · exact rest item later
    · exact rest item member

theorem claimRows_ids [DecidableEq Hash] (settings : Settings Hash)
    (content : List (Name × Payload))
    (now : ℚ) (outbox rows : List (OutboxRow Hash)) :
    ((claimRows settings content now outbox rows).2.map OutboxItem.id).Sublist
      (rows.map OutboxRow.id) := by
  induction rows generalizing outbox with
  | nil => exact .slnil
  | cons row rows ih =>
    unfold claimRows
    dsimp only
    split
    · exact (ih _).cons_cons row.id
    · exact (ih _).cons row.id

theorem candidates_ids {limit : Nat} (unique : (outbox.map OutboxRow.id).Nodup) :
    ((candidates limit now outbox).map OutboxRow.id).Nodup := by
  refine List.Nodup.sublist ((List.take_sublist ..).map _) ?_
  refine ((List.perm_insertionSort _ _).map _).nodup_iff.mpr ?_
  exact unique.sublist (List.filter_sublist.map _)

variable {ledger : Ledger Hash}

theorem Budget.taken (budget : Budget settings ledger) {key : Name × Nat}
    (member : key ∈ (undecided ledger.world).map claimOf ++ ledger.failures.map Failure.claim) :
    ∃ row, rowOf key.1 ledger.world.store.outbox = some row ∧ key.2 ≤ row.attempts := by
  rcases List.mem_append.mp member with held | failed
  · obtain ⟨item, inFlight, rfl⟩ := List.mem_map.mp held
    exact (budget.items item inFlight).2
  · obtain ⟨failure, logged, rfl⟩ := List.mem_map.mp failed
    obtain ⟨row, found, attempt, _⟩ := budget.counted failure logged
    exact ⟨row, found, attempt⟩

theorem Budget.claimed [DecidableEq Hash] {limit : Nat} (budget : Budget settings ledger)
    (done : step settings ledger.world (.claim limit now) = some v) :
    Budget settings { world := v, failures := ledger.failures } := by
  have moves := step_moves done
  have sound := step_sound budget.sound done
  have opened := open_moves settings now ledger.world.store.outbox
  have uniqueOpen : ((supersede now (releaseStale settings now
      ledger.world.store.outbox)).map OutboxRow.id).Nodup :=
    (((releaseStale_keeps settings now ledger.world.store.outbox).trans
      (supersede_keeps now _)).unique budget.sound.unique).1
  have selected : ∀ item ∈ (claim settings limit now ledger.world.store).2, ∃ row,
      rowOf item.id (supersede now (releaseStale settings now ledger.world.store.outbox)) =
        some row ∧
        item.attempts = row.attempts + 1 := by
    intro item member
    obtain ⟨row, chosen, rfl⟩ := mem_claimRows member
    exact ⟨row, lookup_of_mem uniqueOpen (mem_candidates chosen).1, rfl⟩
  have reached : ∀ item ∈ (claim settings limit now ledger.world.store).2, ∃ new,
      rowOf item.id (claim settings limit now ledger.world.store).1.outbox = some new ∧
        item.attempts ≤ new.attempts := by
    refine claimRows_items uniqueOpen ?_
    intro row chosen
    exact ⟨row, lookup_of_mem uniqueOpen (mem_candidates chosen).1, Nat.le_refl _⟩
  have arranged : (undecided v).Perm
      ((claim settings limit now ledger.world.store).2 ++ undecided ledger.world) := by
    cases done
    unfold undecided
    rw [← List.append_assoc]
    exact List.perm_append_comm.append_right _
  cases done
  refine
    ⟨sound, ?_, budget.positive, fun failure member => (budget.counted failure member).moves moves,
    ?_, fun delivery held final => (budget.ended delivery held final).moves moves⟩
  · intro item member
    rcases List.mem_append.mp (arranged.mem_iff.mp member) with new | old
    · obtain ⟨row, _, attempts⟩ := selected item new
      exact ⟨by omega, reached item new⟩
    · obtain ⟨positive, row, found, attempts⟩ := budget.items item old
      obtain ⟨after, foundAfter, moved⟩ := moves _ row found
      exact ⟨positive, after, foundAfter, attempts.trans moved.attempts⟩
  · have numbered := ((arranged.map claimOf).append_right (ledger.failures.map Failure.claim))
    rw [List.map_append, List.append_assoc] at numbered
    refine numbered.nodup_iff.mpr (List.nodup_append.mpr ⟨?_, budget.distinct, ?_⟩)
    · refine List.Nodup.of_map Prod.fst ?_
      rw [List.map_map]
      exact (candidates_ids uniqueOpen).sublist (claimRows_ids ..)
    · rintro key new other old rfl
      obtain ⟨item, member, rfl⟩ := List.mem_map.mp new
      obtain ⟨row, found, attempts⟩ := selected item member
      obtain ⟨prior, foundPrior, bound⟩ := budget.taken old
      obtain ⟨open_, foundOpen, moved⟩ := opened _ prior foundPrior
      cases found.symm.trans foundOpen
      have later := moved.attempts
      simp only [claimOf] at bound
      omega

/-! ## Failures -/

variable {w : World Hash}

theorem undecided_of_sending (is : w.delivering = some (.sending item payload)) :
    undecided w = w.claimed ++ [item] := by
  unfold undecided
  rw [is]
  rfl

theorem Budget.failed [DecidableEq Hash] (budget : Budget settings ledger)
    (is : ledger.world.delivering = some (.sending item payload))
    (done : step settings ledger.world (.fail error now) = some v)
    (failed : failDelivery settings item error now ledger.world.store = some result)
    (store : v.store = result.1) (claimed : v.claimed = ledger.world.claimed)
    (delivering : v.delivering = if result.2 then some (.recording item payload) else none) :
    Budget settings { world := v, failures := ledger.failures ++ failureOf error item } := by
  unfold failureOf
  have moves := step_moves done
  have undecidedBefore := undecided_of_sending is
  have undecidedAfter : undecided v = ledger.world.claimed := by
    unfold undecided
    rw [claimed, delivering]
    split
    · exact List.append_nil _
    · exact List.append_nil _
  have member : item ∈ undecided ledger.world := by
    rw [undecidedBefore]
    exact List.mem_concat_self
  obtain ⟨positive, row, found, attempts⟩ := budget.items item member
  obtain ⟨held, foundHeld, _, revision⟩ := (budget.sound.delivering_item is).row
  cases found.symm.trans foundHeld
  change item.payloadRevision ≤ row.payloadRevision at revision
  refine ⟨step_sound budget.sound done, ?_, ?_, ?_, ?_, ?_⟩
  · intro other inFlight
    rw [undecidedAfter] at inFlight
    obtain ⟨positive, row, found, attempts⟩ := budget.items other (by
      rw [undecidedBefore]
      exact List.mem_append_left _ inFlight)
    obtain ⟨new, foundNew, moved⟩ := moves _ row found
    exact ⟨positive, new, foundNew, attempts.trans moved.attempts⟩
  · intro failure logged
    rcases List.mem_append.mp logged with old | new
    · exact budget.positive failure old
    · split at new
      · rw [List.mem_singleton.mp new]
        exact positive
      · cases new
  · intro failure logged
    rcases List.mem_append.mp logged with old | new
    · exact (budget.counted failure old).moves moves
    · split at new
      · next isTransient =>
        rw [List.mem_singleton.mp new]
        obtain ⟨nextAttemptAt, taken, transitioned⟩ := failDelivery_transient isTransient failed
        obtain ⟨after, foundAfter, sameAttempts, sameRevision, outcome⟩ :=
          row_of_transition budget.sound.unique found transitioned
        refine ⟨after, by rw [store]; exact foundAfter, by simpa [sameAttempts] using attempts,
          by simpa [sameRevision] using revision, ?_⟩
        intro same open_
        rcases outcome with ⟨_, state, _⟩ | ⟨outdated, _, _⟩
        · unfold IsOpen at open_
          rw [state] at open_
          split at open_
          · simp at open_
          · next left_ => exact Nat.not_le.mp left_
        · have newer := (outdated_open outdated).2.2
          simp only at same
          omega
      · cases new
  · rw [undecidedAfter]
    have distinct := budget.distinct
    rw [undecidedBefore, List.map_append, List.append_assoc] at distinct
    rw [List.map_append]
    have moved : (ledger.world.claimed.map claimOf ++ (ledger.failures.map Failure.claim ++
        [claimOf item])).Nodup :=
      (List.perm_append_comm.append_left _).nodup_iff.mp distinct
    split
    · exact moved
    · rw [List.map_nil, List.append_nil]
      exact moved.sublist ((List.sublist_append_left _ _).append_left _)
  · intro delivery heldNew final
    rw [delivering] at heldNew
    split at heldNew
    · next surfaces =>
      cases heldNew
      have flagged :
        failDelivery settings item error now ledger.world.store = some (result.1, true) := by
        rw [failed, ← surfaces]
      obtain ⟨after, foundAfter, _, sameRevision, outcome⟩ :=
        row_of_transition budget.sound.unique found (failDelivery_surfaces flagged)
      refine ⟨after, by rw [store]; exact foundAfter, by simpa [Delivery.item,
        sameRevision] using revision, ?_⟩
      intro _ open_
      rcases outcome with ⟨_, state, _⟩ | ⟨_, _, taken⟩
      · simp [IsOpen, state] at open_
      · cases taken
    · cases heldNew

theorem Budget.fail [DecidableEq Hash] {v : World Hash} (budget : Budget settings ledger)
    (done : step settings ledger.world (.fail error now) = some v) :
    Budget settings
      ⟨v, ledger.failures ++ newFailures settings ledger.world (.fail error now)⟩ := by
  have taken := done
  simp only [step] at done
  unfold newFailures
  split at done
  · next item payload is =>
    rw [is]
    dsimp only
    split at done
    · next store failed =>
      rw [failed, Option.isSome_some, if_pos rfl]
      cases done
      exact budget.failed is taken failed rfl rfl rfl
    · next store failed =>
      rw [failed, Option.isSome_some, if_pos rfl]
      cases done
      exact budget.failed is taken failed rfl rfl rfl
    · next failed =>
      rw [failed, Option.isSome_none, if_neg Bool.false_ne_true, List.append_nil]
      cases done
      refine budget.keep taken ?_ (by simp [World.interrupted])
      unfold undecided World.interrupted
      simpa using (List.sublist_append_left _ _).subperm
  · next item payload is =>
    rw [is]
    rw [List.append_nil]
    have fewer : ∀ store restoring, (undecided { ledger.world with
        store, delivering := none, restoring }).Subperm (undecided ledger.world) := by
      intro store restoring
      unfold undecided
      rw [is]
      exact (List.Perm.refl _).subperm
    split at done
    · split at done
      · cases done
        exact budget.keep taken (fewer _ _) (by simp)
      · cases done
        exact budget.keep taken (fewer _ _) (by simp [World.interrupted])
    · cases done
      exact budget.keep taken (fewer _ _) (by simp)
  · cases done

/-! ## Runs -/

/-- The delivery goes on with its item, or is over. -/
def Proceeds (w v : World Hash) : Prop :=
  v.claimed.Sublist w.claimed ∧ ∀ new ∈ v.delivering, ∃ old ∈ w.delivering,
    new.item = old.item ∧ undecidedDelivery new = undecidedDelivery old

variable {v : World Hash}

theorem Proceeds.undecided (proceeds : Proceeds w v) :
    (undecided v).Subperm (undecided w) := by
  obtain ⟨claimed, goesOn⟩ := proceeds
  refine (claimed.append ?_).subperm
  cases next : v.delivering with
  | none => exact List.nil_sublist _
  | some new =>
    obtain ⟨old, held, same, decided⟩ := goesOn new next
    rw [held, Option.filter_some, Option.filter_some, decided]
    split
    · rw [Option.map_some, Option.map_some, same]
    · exact List.nil_sublist _

theorem Budget.proceed [DecidableEq Hash] (budget : Budget settings ledger)
    (done : step settings ledger.world label = some v) (proceeds : Proceeds ledger.world v) :
    Budget settings ⟨v, ledger.failures⟩ := by
  refine budget.keep done proceeds.undecided ?_
  intro delivery held final
  obtain ⟨old, heldOld, same, decided⟩ := proceeds.2 delivery held
  exact ⟨old, heldOld, decided.symm.trans final, same.symm⟩

theorem proceeds_same (claimed : v.claimed = w.claimed) (delivering : v.delivering = w.delivering) :
    Proceeds w v := by
  refine ⟨claimed ▸ .refl _, ?_⟩
  intro new held
  exact ⟨new, delivering ▸ held, rfl, rfl⟩

theorem proceeds_over (claimed : v.claimed.Sublist w.claimed) (delivering : v.delivering = none) :
    Proceeds w v := by
  refine ⟨claimed, ?_⟩
  intro new held
  rw [delivering] at held
  cases held

theorem proceeds_with {old next : Delivery Hash} (claimed : v.claimed = w.claimed)
    (is : w.delivering = some old) (delivering : v.delivering = some next)
    (same : next.item = old.item) (decided : undecidedDelivery next = undecidedDelivery old) :
    Proceeds w v := by
  refine ⟨claimed ▸ .refl _, ?_⟩
  intro new held
  rw [delivering] at held
  cases held
  exact ⟨old, is, same, decided⟩

theorem step_proceeds [DecidableEq Hash] (done : step settings w label = some v) :
    Proceeds w v ∨ (∃ limit now, label = .claim limit now) ∨ (∃ index, label = .deliver index) ∨
      ∃ error now, label = .fail error now := by
  cases label with
  | claim limit now => exact .inr (.inl ⟨limit, now, rfl⟩)
  | deliver index => exact .inr (.inr (.inl ⟨index, rfl⟩))
  | fail error now => exact .inr (.inr (.inr ⟨error, now, rfl⟩))
  | queue intent nextAttemptAt now =>
    obtain ⟨_, _, is⟩ := Option.map_eq_some_iff.mp done
    subst is
    exact .inl (proceeds_same rfl rfl)
  | recover intent now =>
    obtain ⟨_, _, is⟩ := Option.map_eq_some_iff.mp done
    subst is
    exact .inl (proceeds_same rfl rfl)
  | forget key =>
    cases done
    exact .inl (proceeds_same rfl rfl)
  | claimRolledBack limit now =>
    cases done
    exact .inl (proceeds_same rfl rfl)
  | markUnavailable now =>
    simp only [step] at done
    split at done
    · split at done
      · cases done
        exact .inl (proceeds_over (.refl _) rfl)
      · cases done
        exact .inl (proceeds_over (.refl _) rfl)
    · cases done
  | look =>
    simp only [step] at done
    split at done
    · next is =>
      split at done
      · split at done
        · cases done
          exact .inl (proceeds_with rfl is rfl rfl rfl)
        · cases done
          exact .inl (proceeds_with rfl is rfl rfl rfl)
      · cases done
        exact .inl (proceeds_with rfl is rfl rfl rfl)
    · cases done
  | accept messageId =>
    simp only [step] at done
    split at done
    · next is =>
      cases done
      exact .inl (proceeds_with rfl is rfl rfl rfl)
    · next is =>
      cases done
      exact .inl (proceeds_with rfl is rfl rfl rfl)
    · cases done
  | settle now wallNow =>
    simp only [step] at done
    split at done
    · split at done
      · cases done
        exact .inl (proceeds_over (.refl _) rfl)
      · cases done
        exact .inl (proceeds_over (.refl _) rfl)
    · cases done
  | record now =>
    simp only [step] at done
    split at done
    · next item payload is =>
      cases done
      cases recorded : (recordRenderFailure item now w.store).2 with
      | true => exact .inl (proceeds_with rfl is rfl rfl rfl)
      | false => exact .inl (proceeds_over (.refl _) rfl)
    · cases done
  | recordSurface =>
    simp only [step] at done
    split at done
    · cases done
      exact .inl (proceeds_over (.refl _) rfl)
    · cases done
  | interrupt =>
    obtain ⟨delivery, _, is⟩ := Option.map_eq_some_iff.mp done
    subst is
    exact .inl (proceeds_over (.refl _) rfl)
  | abandon index =>
    obtain ⟨item, found, is⟩ := Option.bind_eq_some_iff.mp done
    cases is
    refine .inl ⟨List.eraseIdx_sublist .., ?_⟩
    exact fun new held => ⟨new, held, rfl, rfl⟩
  | restore index now =>
    obtain ⟨_, _, is⟩ := Option.bind_eq_some_iff.mp done
    cases is
    exact .inl (proceeds_same rfl rfl)
  | restart =>
    cases done
    exact .inl (proceeds_over (List.nil_sublist _) rfl)

theorem Budget.deliver [DecidableEq Hash] {index : Nat} (budget : Budget settings ledger)
    (done : step settings ledger.world (.deliver index) = some v) :
    Budget settings ⟨v, ledger.failures⟩ := by
  have taken := done
  obtain ⟨item, found, done⟩ := Option.bind_eq_some_iff.mp done
  obtain ⟨inside, rfl⟩ := List.getElem?_eq_some_iff.mp found
  have rest := List.getElem_cons_eraseIdx_perm inside
  split at done
  · next idle _ =>
    have fewer : ∀ delivery : Delivery Hash, delivery.item = ledger.world.claimed[index] →
        (undecided { ledger.world with
          claimed := ledger.world.claimed.eraseIdx index, delivering := some delivery }).Subperm
          (undecided ledger.world) := by
      intro delivery is
      unfold undecided
      rw [idle, Option.filter_none, Option.map_none, Option.toList_none, List.append_nil]
      have whole : (ledger.world.claimed.eraseIdx index ++ [delivery.item]).Perm
          ledger.world.claimed := by
        rw [is]
        exact List.perm_append_comm.trans rest
      refine List.Subperm.trans ?_ whole.subperm
      refine (List.Sublist.append_left ?_ _).subperm
      rw [Option.filter_some]
      split
      · exact .refl _
      · exact List.nil_sublist _
    split at done
    · cases done
      exact budget.keep taken (fewer _ rfl) (by simp [undecidedDelivery])
    · cases done
      exact budget.keep taken (fewer _ rfl) (by simp [undecidedDelivery])
  · cases done
    refine budget.proceed taken ⟨List.eraseIdx_sublist .., ?_⟩
    exact fun new held => ⟨new, held, rfl, rfl⟩
  · cases done

theorem budget_advance [DecidableEq Hash] {after : Ledger Hash}
    (budget : Budget settings ledger) (done : advance settings ledger label = some after) :
    Budget settings after := by
  obtain ⟨v, taken, rfl⟩ := Option.map_eq_some_iff.mp done
  by_cases fails : ∃ error now, label = .fail error now
  · obtain ⟨error, now, rfl⟩ := fails
    exact budget.fail taken
  · have quiet : ledger.failures ++ newFailures settings ledger.world label = ledger.failures := by
      cases label with
      | fail error now => exact absurd ⟨error, now, rfl⟩ fails
      | _ => exact List.append_nil _
    rw [quiet]
    rcases step_proceeds taken with proceeds | ⟨limit, now, rfl⟩ | ⟨index, rfl⟩ | failed
    · exact budget.proceed taken proceeds
    · exact budget.claimed taken
    · exact budget.deliver taken
    · exact absurd failed fails

/-! ## The budget of a revision -/

theorem enough_iff {maximum : Nat} {attempts : List Nat} (distinct : attempts.Nodup)
    (within : ∀ attempt ∈ attempts, 0 < attempt ∧ attempt < maximum) :
    maximum ≤ attempts.length + 1 ↔ ∀ attempt, 0 < attempt → attempt < maximum →
      attempt ∈ attempts := by
  have inside : attempts.toFinset ⊆ Finset.Ico 1 maximum := by
    intro attempt member
    rw [List.mem_toFinset] at member
    exact Finset.mem_Ico.mpr (within attempt member)
  have size := List.toFinset_card_of_nodup distinct
  constructor
  · intro many attempt positive below
    have all : attempts.toFinset = Finset.Ico 1 maximum := by
      refine Finset.eq_of_subset_of_card_le inside ?_
      rw [size, Nat.card_Ico]
      omega
    rw [← List.mem_toFinset, all]
    exact Finset.mem_Ico.mpr ⟨positive, below⟩
  · intro all
    have covered : Finset.Ico 1 maximum ⊆ attempts.toFinset := by
      intro attempt member
      obtain ⟨positive, below⟩ := Finset.mem_Ico.mp member
      exact List.mem_toFinset.mpr (all attempt positive below)
    have cards := Finset.card_le_card covered
    rw [size, Nat.card_Ico] at cards
    omega

theorem Blocks.claim [DecidableEq Hash] (budget : Budget settings ledger)
    (blocks : Blocks ledger.world label v row new)
    (done : step settings ledger.world label = some v) :
    IsOpen row ∧ new.payloadRevision = row.payloadRevision ∧ ∃ attempt,
      newFailures settings ledger.world label = [⟨row.id, attempt, row.payloadRevision⟩] := by
  obtain ⟨error, now, rfl, isTransient⟩ := blocks.error
  have found := blocks.before
  have changed : v.store = ledger.world.store → False := by
    intro same
    have after := blocks.after
    rw [same, found] at after
    cases after
    exact blocks.unblocked blocks.blocked
  have transitioned : ∀ {item : OutboxItem Hash} {result : Store Hash × Bool},
      failDelivery settings item error now ledger.world.store = some result → v.store = result.1 →
      row.id = item.id ∧ item.current row = true ∧ new.payloadRevision = row.payloadRevision := by
    intro item result failed store
    obtain ⟨nextAttemptAt, taken, moved⟩ := failDelivery_transient isTransient failed
    have after := blocks.after
    rw [store] at after
    by_cases own : row.id = item.id
    · rw [own] at found after
      obtain ⟨settled, foundSettled, _, revision, outcome⟩ :=
        row_of_transition budget.sound.unique found moved
      cases after.symm.trans foundSettled
      rcases outcome with ⟨current, _, _⟩ | ⟨_, pending, _⟩
      · exact ⟨own, current, revision⟩
      · rw [blocks.blocked] at pending
        cases pending
    · have kept := row_of_other_transition own moved
      rw [found] at kept
      cases after.symm.trans kept
      exact absurd blocks.blocked blocks.unblocked
  simp only [step] at done
  unfold newFailures
  split at done
  · next item payload is =>
    rw [is]
    have conclude : ∀ {result : Store Hash × Bool},
        failDelivery settings item error now ledger.world.store = some result → v.store = result.1 →
        IsOpen row ∧ new.payloadRevision = row.payloadRevision ∧ ∃ attempt,
          (if (failDelivery settings item error now ledger.world.store).isSome then
            failureOf error item else []) = [⟨row.id, attempt, row.payloadRevision⟩] := by
      intro result failed store
      obtain ⟨own, current, revision⟩ := transitioned failed store
      obtain ⟨_, sending, same⟩ := current_open current
      refine ⟨.inr sending, revision, item.attempts, ?_⟩
      rw [failed, Option.isSome_some, if_pos rfl]
      unfold failureOf
      rw [if_pos isTransient, own, same]
    split at done
    · next store failed =>
      cases done
      exact conclude failed rfl
    · next store failed =>
      cases done
      exact conclude failed rfl
    · cases done
      exact (changed rfl).elim
  · next item payload is =>
    split at done
    · split at done
      · next store surfaced failed =>
        cases done
        obtain ⟨own, current, _⟩ := transitioned failed rfl
        obtain ⟨_, sending, same⟩ := current_open current
        obtain ⟨held, foundHeld, _, closed⟩ := budget.ended _ is rfl
        rw [own] at found
        cases found.symm.trans foundHeld
        exact absurd (.inr sending) (closed same.symm)
      · cases done
        exact (changed rfl).elim
    · cases done
      exact (changed rfl).elim
  · cases done

/-- A revision that is settled, sent or blocked is never opened again, in no order of claims,
failures, restores, restarts and newer intents, and the counters only go up. -/
theorem settled_revision_final [DecidableEq Hash] {settings : Settings Hash} {w v : World Hash}
    {labels : List Label} {id : Name} {row : OutboxRow Hash}
    (reached : run (step settings) w labels = some v) (found : rowOf id w.store.outbox = some row)
    (settled : ¬ IsOpen row) :
    ∃ new, rowOf id v.store.outbox = some new ∧ row.attempts ≤ new.attempts ∧
      row.payloadRevision ≤ new.payloadRevision ∧
      (new.payloadRevision = row.payloadRevision → ¬ IsOpen new) := by
  have moved : MovesAll w.store.outbox v.store.outbox :=
    run_rel (R := fun w v => MovesAll w.store.outbox v.store.outbox) (fun _ => .refl _)
      (fun _ _ _ => .trans) (fun _ _ _ => step_moves) reached
  obtain ⟨new, kept, moves⟩ := moved id row found
  exact ⟨new, kept, moves.attempts, moves.revision, fun same is => settled (moves.opens same is)⟩

/-- In every run, a row that is blocked for transient errors has had `max_transient_attempts`
such failures of its current revision exactly if each of its first claims, up to the one
before the maximum, ended with such a failure. -/
theorem blocked_within_budget_iff [DecidableEq Hash] {settings : Settings Hash}
    {ledger after : Ledger Hash} {labels : List Label} {label : Label} {row new : OutboxRow Hash}
    (reached : run (advance settings) {} labels = some ledger)
    (done : advance settings ledger label = some after)
    (blocks : Blocks ledger.world label after.world row new) :
    settings.maxTransientAttempts ≤
        (failuresOf row.id new.payloadRevision after.failures).length ↔
      ∀ attempt, 0 < attempt → attempt < settings.maxTransientAttempts →
        (⟨row.id, attempt, row.payloadRevision⟩ : Failure) ∈ ledger.failures := by
  have budget := run_inv (fun _ _ _ => budget_advance) (budget_initial settings) reached
  obtain ⟨v, taken, rfl⟩ := Option.map_eq_some_iff.mp done
  obtain ⟨open_, revision, attempt, added⟩ := blocks.claim budget taken
  have own : ∀ failure ∈ failuresOf row.id row.payloadRevision ledger.failures,
      failure ∈ ledger.failures ∧ failure.row = row.id ∧
        failure.revision = row.payloadRevision := by
    intro failure member
    obtain ⟨logged, is⟩ := List.mem_filter.mp member
    exact ⟨logged, of_decide_eq_true is⟩
  have distinct :
    ((failuresOf row.id row.payloadRevision ledger.failures).map Failure.attempt).Nodup := by
    have claims := (List.nodup_append.mp budget.distinct).2.1
    refine List.Nodup.map_on ?_ ((List.Nodup.of_map _ claims).filter _)
    intro one member other memberOther same
    obtain ⟨logged, rowOne, _⟩ := own one member
    obtain ⟨loggedOther, rowOther, _⟩ := own other memberOther
    refine List.inj_on_of_nodup_map claims logged loggedOther ?_
    exact Prod.ext (rowOne.trans rowOther.symm) same
  have within :
    ∀ attempt ∈ (failuresOf row.id row.payloadRevision ledger.failures).map Failure.attempt,
      0 < attempt ∧ attempt < settings.maxTransientAttempts := by
    intro attempt member
    obtain ⟨failure, listed, rfl⟩ := List.mem_map.mp member
    obtain ⟨logged, rowIs, revisionIs⟩ := own failure listed
    obtain ⟨held, found, _, _, below⟩ := budget.counted failure logged
    rw [rowIs] at found
    cases blocks.before.symm.trans found
    exact ⟨budget.positive failure logged, below revisionIs open_⟩
  have one : failuresOf row.id new.payloadRevision (ledger.failures ++
      newFailures settings ledger.world label) =
        failuresOf row.id row.payloadRevision ledger.failures ++
        [⟨row.id, attempt, row.payloadRevision⟩] := by
    unfold failuresOf
    rw [added, revision, List.filter_append]
    simp
  rw [one, List.length_append, List.length_singleton]
  have enough := enough_iff distinct within
  rw [List.length_map] at enough
  rw [enough]
  refine forall_congr' fun attempt => forall_congr' fun _ => forall_congr' fun _ => ?_
  constructor
  · intro member
    obtain ⟨failure, listed, rfl⟩ := List.mem_map.mp member
    obtain ⟨logged, rowIs, revisionIs⟩ := own failure listed
    rw [← rowIs, ← revisionIs]
    exact logged
  · intro logged
    refine List.mem_map.mpr ⟨_, List.mem_filter.mpr ⟨logged, ?_⟩, rfl⟩
    simp

/-! ## Two rows that are blocked -/

section Examples

/-- A claim whose payload is in the transport. -/
def sendAt (now : ℚ) : List Label := [.claim 20 now, .deliver 0, .look]

/-- Two failures of the first revision, and a third attempt. -/
def failingTwice : List Label :=
  [.queue (streamed "a") 0 0] ++ sendAt 1 ++ [.fail .transient 1] ++ sendAt 2 ++
    [.fail .transient 2] ++
    sendAt 4

/-- Two revisions that are sent, and a first attempt at the third. -/
def sendingTwice : List Label :=
  [.queue (streamed "a") 0 0] ++ sendAt 1 ++
    [.accept "m", .settle 1 1, .queue (streamed "b") 2 2] ++
    sendAt 2 ++ [.accept "m", .settle 2 2, .queue (streamed "c") 3 3] ++ sendAt 3

/-- The rows before and after a transient failure at the end of a run, and the failures of the last
revision. -/
def outcome (labels : List Label) (now : ℚ) :
    Option (Option OutboxState × Option OutboxState × Nat) :=
  (run (advance plainSettings) {} labels).bind fun ledger =>
    (advance plainSettings ledger (.fail .transient now)).map fun after =>
      ((rowOf (.plain "row") ledger.world.store.outbox).map OutboxRow.state,
        (rowOf (.plain "row") after.world.store.outbox).map OutboxRow.state,
        (failuresOf (.plain "row") (((rowOf (.plain "row") after.world.store.outbox).map
          OutboxRow.payloadRevision).getD 0) after.failures).length)

theorem blocks_of_outcome {labels : List Label} {count : Nat}
    (is : outcome labels now = some (some .sending, some .blocked, count)) :
    ∃ ledger after row new, run (advance plainSettings) {} labels = some ledger ∧
      advance plainSettings ledger (.fail .transient now) = some after ∧
      Blocks ledger.world (.fail .transient now) after.world row new ∧
      (failuresOf row.id new.payloadRevision after.failures).length = count := by
  obtain ⟨ledger, reached, is⟩ := Option.bind_eq_some_iff.mp is
  obtain ⟨after, done, is⟩ := Option.map_eq_some_iff.mp is
  simp only [Prod.mk.injEq] at is
  obtain ⟨before, blocked, counted⟩ := is
  obtain ⟨row, found, sending⟩ := Option.map_eq_some_iff.mp before
  obtain ⟨new, foundNew, state⟩ := Option.map_eq_some_iff.mp blocked
  have key : row.id = .plain "row" := lookup_some_key found
  refine
    ⟨ledger, after, row, new, reached, done, ⟨⟨_, _, rfl, rfl⟩, key ▸ found, key ▸ foundNew, ?_,
    state⟩, ?_⟩
  · rw [sending]
    decide
  · rw [foundNew] at counted
    rw [key]
    exact counted

/-- A blocked row, and a dispatcher that comes by after a restart. -/
theorem settled_revision_final_blocked : ∃ w v row new,
    rowOf row.id w.store.outbox = some row ∧ row.state = .blocked ∧
      run (step plainSettings) w [.restart, .claim 20 9] = some v ∧
      rowOf row.id v.store.outbox = some new ∧
      (new.payloadRevision = row.payloadRevision → ¬ IsOpen new) := by
  have is : outcome failingTwice 4 = some (some .sending, some .blocked, 3) := by
    decide +kernel
  obtain ⟨_, after, old, row, -, -, blocks, -⟩ := blocks_of_outcome is
  have key : row.id = old.id := lookup_some_key blocks.after
  have found : rowOf row.id after.world.store.outbox = some row := key ▸ blocks.after
  have onward : run (step plainSettings) after.world [.restart, .claim 20 9] = some _ := rfl
  obtain ⟨new, kept, -, -, closed⟩ :=
    settled_revision_final onward found (by simp [IsOpen, blocks.blocked])
  exact ⟨_, _, row, new, found, blocks.blocked, onward, kept, closed⟩

/-- Three failures of one revision. -/
theorem blocked_within_budget_iff_one_revision :
    ∃ ledger after row new, run (advance plainSettings) {} failingTwice = some ledger ∧
      advance plainSettings ledger (.fail .transient 4) = some after ∧
      Blocks ledger.world (.fail .transient 4) after.world row new ∧
      ∀ attempt, 0 < attempt → attempt < 3 →
        (⟨row.id, attempt, row.payloadRevision⟩ : Failure) ∈ ledger.failures := by
  have is : outcome failingTwice 4 = some (some .sending, some .blocked, 3) := by
    decide +kernel
  obtain ⟨ledger, after, row, new, reached, done, blocks, count⟩ := blocks_of_outcome is
  refine ⟨ledger, after, row, new, reached, done, blocks, ?_⟩
  exact (blocked_within_budget_iff reached done blocks).mp count.ge

/-- One failure of the third revision. -/
theorem blocked_after_one_failure :
    ∃ ledger after row new, run (advance plainSettings) {} sendingTwice = some ledger ∧
      advance plainSettings ledger (.fail .transient 3) = some after ∧
      Blocks ledger.world (.fail .transient 3) after.world row new ∧
      ¬ plainSettings.maxTransientAttempts ≤
        (failuresOf row.id new.payloadRevision after.failures).length := by
  have is : outcome sendingTwice 3 = some (some .sending, some .blocked, 1) := by
    decide +kernel
  obtain ⟨ledger, after, row, new, reached, done, blocks, count⟩ := blocks_of_outcome is
  refine ⟨ledger, after, row, new, reached, done, blocks, ?_⟩
  rw [count]
  decide

end Examples

end Copilotd.Guarantees.RetryBudget
