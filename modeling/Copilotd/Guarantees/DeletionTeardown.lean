import Copilotd.Source.Core.SessionTeardown
import Copilotd.Guarantees.CloseFailures

/-!
# Deletion of a session without references

A session that is closed, detached and has nothing live is deleted as it is.  Otherwise a runtime
has to close it: one that is READY and holds the attached row, or, for an active session, one that
is attached for it.  A closed session is marked for a cleanup that `begin_attachment` admits and
`attach_resume` does not, so that its own attachment always raises.
-/
namespace Copilotd.Guarantees.DeletionTeardown

open Source.Core.Bindings
open Source.Core.Attachments (beginClose finishDisconnect requiresExplicitReactivation)
open Source.Core.Attachments.AttachmentTransition (replacedStates)
open Source.Core.SessionCreation (RuntimeState)
open Source.Core.RuntimeClose
open Source.Core.SessionDeletion (Store checkDetached)
open Source.Core.SessionTeardown Guarantees.CloseFailures

/-! ## The law -/

/-- The session is deleted, and has been torn down if anything of it was attached or live. -/
structure Deleted (before after : Session) (closed : Bool) : Prop where
  intent : after.row.bindingIntent = .deleted
  reason : after.row.attachmentReason = none
  tornDown : before.needsAttachment = true → closed = true

def Deletes (around : Surroundings) (now : Nat) (session : Session) : Prop :=
  ∃ after closed, session.delete around now = some (after, closed) ∧ Deleted session after closed

/-! ## The condition -/

/-- The runtime is READY, owns the session and holds the attached row. -/
structure Closable (session : Session) (registered : Registered) : Prop where
  quiesced : registered.runtime.serviceQuiesced = false
  ready : registered.runtime.state = .ready
  handle : registered.runtime.handle = true
  owner : session.owns registered = true
  mailbox : registered.runtime.mailbox.isSome
  inbox : registered.runtime.inbox = true
  attached : session.row.attachmentState = .attached
  fence : session.row.ownerFenceToken.isSome

/-- A registered runtime closes the session; one that has seen the end of its handle is only found
by an active session. -/
def Held (around : Surroundings) (session : Session) : Prop :=
  ∃ registered, session.runtime = some registered ∧ Closable session registered ∧
    (registered.handleTerminal = true →
      session.row.bindingIntent = .active ∧ around.accepting = true)

/-- The states in which `begin_attachment` admits a row under a fence token. -/
def Attachable (row : SessionBinding) (fence : Nat) : Prop :=
  row.attachmentState ∈ [.absent, .recoveryUnknown, .ownerConflict] ∨
    (row.attachmentState = .attached ∧ row.ownerFenceToken ≠ some fence)

/-- The row that the attachment finds is attachable; a runtime that is replaced leaves the row
that it has attached in `recovery_unknown`. -/
def RowAdmits (session : Session) : Prop :=
  match session.runtime with
  | none => Attachable session.row session.nextFence
  | some registered =>
    if registered.runtime.state = .detached then Attachable session.row session.nextFence
    else if registered.marks session.row then session.row.ownerFenceToken.isSome = true
    else Attachable session.row
      { session with held := registered.keepsLease session }.nextFence

/-- An active session is attached anew. -/
structure Attaches (around : Surroundings) (session : Session) : Prop where
  active : session.row.bindingIntent = .active
  runtime : ∀ registered ∈ session.runtime,
    registered.runtime.state = .detached ∨ registered.runtime.state ∈ replacedStates
  accepting : around.accepting = true
  prepares : around.prepares = true
  projectAdmitted : around.projectAdmitted = true
  reconciles : around.reconciles = true
  row : RowAdmits session

/-! ## The close -/

variable {around : Surroundings} {session : Session} {registered : Registered}

/-- The row when a `close` has returned. -/
def closedRow (row : SessionBinding) : SessionBinding :=
  { row with
    bindingIntent := .closed, attachmentState := .absent, rowVersion := row.rowVersion + 1 + 1 }

variable {row : SessionBinding}

theorem beginClose_finishDisconnect (attached : row.attachmentState = .attached)
    (fence : row.ownerFenceToken.isSome) :
    ∃ begun, beginClose row row = some begun ∧
      finishDisconnect true begun = some (closedRow row) := by
  obtain ⟨token, found⟩ := Option.isSome_iff_exists.mp fence
  refine ⟨{ row with
    bindingIntent := .closed, attachmentState := .disconnecting
    rowVersion := row.rowVersion + 1 }, ?_, ?_⟩
  · simp [beginClose, found, SessionBinding.beginClose, attached]
  · simp [finishDisconnect, found, SessionBinding.transition, Transition.expectedStates,
      Transition.state, closedRow]

theorem await_calm (owner : Bool) (site : Await) (runtime : Runtime) :
    await (calm owner) site runtime = .ok () runtime := rfl

theorem closeRefused_calm (owner : Bool) (runtime : Runtime) :
    closeRefused (calm owner) true runtime = commit (calm owner) runtime.freeze := by
  unfold closeRefused
  simp only [Bool.not_true]
  simp only [calm]
  rw [refuseBlocked_forced, bind_run]
  change ((when true (tearDown (calm owner)) >>= fun _ => commit (calm owner)) runtime) = _
  rfl

theorem close_calm (owner : Bool) (runtime : Runtime) :
    close (calm owner) true runtime =
      match entered (calm owner) runtime with
      | .settles =>
        if runtime.mailbox.isSome then
          commit (calm owner) { runtime with acceptingSends := false }.freeze
        else .error () runtime
      | .broken => .error () runtime.fence
      | _ => .error () runtime := by
  unfold close
  rw [bind_run, await_calm]
  dsimp only
  rw [bind_run, assertOwnedHandle_run]
  cases entered (calm owner) runtime with
  | settles =>
    dsimp only
    rw [bind_run, require_run]
    cases runtime.mailbox.isSome with
    | false => rfl
    | true =>
      simp only [if_true]
      rw [bind_run, await_calm]
      dsimp only
      rw [bind_run, setAccepting_run]
      exact closeRefused_calm owner _
  | early => rfl
  | broken => rfl
  | leaves _ _ => rfl

theorem entered_calm (owner : Bool) (runtime : Runtime) :
    entered (calm owner) runtime = .settles ↔
      runtime.serviceQuiesced = false ∧ runtime.state = .ready ∧ runtime.handle = true ∧
        owner = true := by
  unfold entered calm
  by_cases ready : runtime.state = .ready <;> cases runtime.serviceQuiesced <;>
    cases runtime.handle <;> cases owner <;> simp [ready]

variable {runtime : Runtime}

theorem finishDisconnecting_calm {after : SessionBinding} (owner : Bool)
    (found : runtime.row = some row) (finishes : finishDisconnect true row = some after) :
    finishDisconnecting (calm owner) true runtime =
      .ok () { runtime with row := some after } := by
  unfold finishDisconnecting
  rw [bind_run, await_calm]
  dsimp only
  rw [get_run, found]
  simp only [bind_run, require_run, finishes, Option.isSome_some, if_true, await_calm, modify_run]

theorem commit_calm_ok (owner : Bool) (found : runtime.row = some row)
    (inbox : runtime.inbox = true) (attached : row.attachmentState = .attached)
    (fence : row.ownerFenceToken.isSome) :
    ∃ after, commit (calm owner) runtime = .ok () after ∧ after.row = some (closedRow row) := by
  obtain ⟨begunRow, begins, finishes⟩ := beginClose_finishDisconnect attached fence
  have goes : uncommitted (calm owner) runtime = false := by
    simp [uncommitted, inbox, found, begins, calm]
  have begunFound : ({ begun runtime with state := .closing } : Runtime).row = some begunRow := by
    simp [begun, found, begins]
  have begins_run : beginClosing (calm owner) runtime =
      .ok () { begun runtime with state := .closing } := by
    rw [beginClosing_run, goes]
    rfl
  have disconnect_calm (runtime : Runtime) : disconnect (calm owner) runtime = .ok true runtime :=
    disconnect_run
  have stop_run (runtime : Runtime) : stopComponents (calm owner) runtime =
      .ok () { runtime with acceptingSends := false, mailbox := none, inbox := false,
                            handle := false } :=
    stopComponents_run
  unfold commit disconnects
  rw [bind_run, begins_run]
  dsimp only
  rw [bind_run, disconnect_calm]
  dsimp only
  rw [bind_run, finishDisconnecting_calm owner begunFound finishes]
  dsimp only
  rw [bind_run, stop_run]
  dsimp only
  rw [bind_run, modify_run]
  exact ⟨_, rfl, rfl⟩

theorem commit_calm_error (owner : Bool) (found : runtime.row = some row)
    (fails : ¬ (runtime.inbox = true ∧ row.attachmentState = .attached ∧
      row.ownerFenceToken.isSome)) :
    commit (calm owner) runtime = .error () runtime := by
  have stops : uncommitted (calm owner) runtime = true := by
    unfold uncommitted
    rw [found, Option.bind_some]
    cases inbox : runtime.inbox with
    | false => rfl
    | true =>
      have closes : beginClose row row = none := by
        unfold beginClose
        split
        · rfl
        · next attached =>
          rw [ne_eq, not_not] at attached
          cases fence : row.ownerFenceToken with
          | none => rfl
          | some token => exact absurd ⟨inbox, attached, by rw [fence]; rfl⟩ fails
      rw [closes]
      rfl
  unfold commit
  rw [bind_run, beginClosing_run, if_pos stops]

/-- The runtime that `close` is called on. -/
def entering (session : Session) (registered : Registered) : Runtime :=
  { registered.runtime with row := some session.row }

theorem close_entered
    (settles : entered (calm (session.owns registered)) (entering session registered) = .settles)
    (mailbox : registered.runtime.mailbox.isSome) :
    close (calm (session.owns registered)) true (entering session registered) =
      commit (calm (session.owns registered))
        { entering session registered with acceptingSends := false }.freeze := by
  rw [close_calm, settles]
  exact if_pos mailbox

theorem close_returns (closable : Closable session registered) :
    (session.close registered).2 = true ∧
      (session.close registered).1.row = closedRow session.row := by
  have settles := (entered_calm (session.owns registered) (entering session registered)).mpr
    ⟨closable.quiesced, closable.ready, closable.handle, closable.owner⟩
  obtain ⟨after, committed, row⟩ := @commit_calm_ok _
    { entering session registered with acceptingSends := false }.freeze
    (session.owns registered) rfl closable.inbox closable.attached closable.fence
  have returned := (close_entered settles closable.mailbox).trans committed
  unfold entering at returned
  unfold Session.close
  rw [returned]
  constructor
  · rfl
  · simp [row, Session.row, Session.withRow]

theorem close_raises (fails : ¬ Closable session registered) :
    (session.close registered).2 = false := by
  have raised : ∃ after, close (calm (session.owns registered)) true
      (entering session registered) = .error () after := by
    by_cases settles : entered (calm (session.owns registered))
        (entering session registered) = .settles
    · by_cases mailbox : registered.runtime.mailbox.isSome
      · rw [close_entered settles mailbox]
        obtain ⟨quiesced, ready, handle, owner⟩ := (entered_calm _ _).mp settles
        refine ⟨_, commit_calm_error _ rfl ?_⟩
        rintro ⟨inbox, attached, fence⟩
        exact fails ⟨quiesced, ready, handle, owner, mailbox, inbox, attached, fence⟩
      · rw [close_calm, settles]
        exact ⟨_, if_neg mailbox⟩
    · rw [close_calm]
      split
      · next entered => exact absurd entered settles
      · exact ⟨_, rfl⟩
      · exact ⟨_, rfl⟩
  obtain ⟨after, raised⟩ := raised
  unfold entering at raised
  unfold Session.close
  rw [raised]

theorem close_iff : (session.close registered).2 = true ↔ Closable session registered := by
  constructor
  · intro returned
    by_contra fails
    rw [close_raises fails] at returned
    cases returned
  · exact fun closable => (close_returns closable).1

/-! ## From the teardown to the deletion -/

theorem releaseReason_row (found : session.row = row) :
    ∃ after, session.releaseReason = some after ∧
      after.row.bindingIntent = row.bindingIntent ∧
      after.row.attachmentState = row.attachmentState := by
  subst found
  unfold Session.releaseReason
  split
  · simp [SessionBinding.setAttachmentReason, Session.withRow, Session.row]
  · exact ⟨session, rfl, rfl, rfl⟩

theorem deleteDetached_closed (now : Nat) (closed : session.row.bindingIntent = .closed)
    (absent : session.row.attachmentState = .absent) :
    ∃ after, session.deleteDetached now = some after ∧ after.row.bindingIntent = .deleted ∧
      after.row.attachmentReason = none := by
  have admitted : checkDetached session.row = .admitting session.row := by
    simp [checkDetached, closed, absent]
  have begins : session.store.binding.bindingIntent ∈
      [BindingIntent.closed, .deleting, .deleteUnknown] := by
    change session.row.bindingIntent ∈ _
    simp [closed]
  unfold Session.deleteDetached
  rw [if_pos admitted]
  unfold Store.beginAttempt
  rw [if_pos begins]
  refine ⟨_, rfl, ?_⟩
  simp [Session.row, Store.markDeleted, Store.finishCleanup]

def attachFor (around : Surroundings) (session : Session) : Option Session :=
  if session.row.bindingIntent = .closed then session.attachClosed around
  else session.ensureAttached around

/-- The teardown attaches the session, and its close returns. -/
def Closes (around : Surroundings) (session : Session) : Prop :=
  ∃ attached registered, attachFor around session = some attached ∧
    attached.runtime = some registered ∧ Closable attached registered

theorem destructiveTeardown_needed (needed : session.needsAttachment = true) :
    session.destructiveTeardown around = (do
      let attached ← attachFor around session
      let registered ← attached.runtime
      let (closed, returned) := attached.close registered
      if !returned ∧ closed.row.bindingIntent ≠ .closed then none
      else
        let released ← closed.releaseReason
        some (released, returned)) := by
  unfold Session.destructiveTeardown attachFor
  rw [if_pos needed]
  split <;> rfl

theorem delete_of_closes (now : Nat) (unreferenced : ∀ state ∈ session.schedules, state = "deleted")
    (needed : session.needsAttachment = true) (closes : Closes around session) :
    Deletes around now session := by
  obtain ⟨attached, registered, attaches, found, closable⟩ := closes
  obtain ⟨returned, row⟩ := close_returns closable
  obtain ⟨released, releases, intent, state⟩ := releaseReason_row row
  obtain ⟨after, deletes, deleted, cleared⟩ := deleteDetached_closed now intent state
  have torn : session.destructiveTeardown around = some (released, true) := by
    rw [destructiveTeardown_needed needed, attaches]
    simp only [Option.bind_eq_bind, Option.bind_some, found, returned, releases]
    simp
  refine ⟨after, true, ?_, deleted, cleared, fun _ => rfl⟩
  unfold Session.delete
  rw [if_pos (by simpa using unreferenced), torn]
  simp [deletes]

theorem closes_of_delete {now : Nat} (needed : session.needsAttachment = true)
    (deletes : Deletes around now session) : Closes around session := by
  obtain ⟨after, closed, deletes, deleted⟩ := deletes
  cases deleted.tornDown needed
  unfold Session.delete at deletes
  split at deletes
  · rw [destructiveTeardown_needed needed] at deletes
    simp only [Option.bind_eq_bind, Option.bind_eq_some_iff] at deletes
    obtain ⟨⟨torn, returned⟩, ⟨attached, attaches, registered, found, closing⟩, _, _, result⟩ :=
      deletes
    cases result
    refine ⟨attached, registered, attaches, found, close_iff.mp ?_⟩
    split at closing
    · cases closing
    · obtain ⟨_, _, same⟩ := Option.bind_eq_some_iff.mp closing
      exact congrArg Prod.snd (Option.some.inj same)
  · cases deletes

theorem delete_idle (now : Nat) (unreferenced : ∀ state ∈ session.schedules, state = "deleted")
    (present : session.row.bindingIntent = .active ∨ session.row.bindingIntent = .closed)
    (idle : session.needsAttachment = false) : Deletes around now session := by
  have parts : session.row.bindingIntent ≠ .active ∧ session.row.attachmentState = .absent := by
    simp only [Session.needsAttachment, Bool.or_eq_false_iff, decide_eq_false_iff_not,
      Decidable.not_not] at idle
    exact ⟨idle.1.1, idle.1.2⟩
  have closed := present.resolve_left parts.1
  obtain ⟨after, deletes, deleted, cleared⟩ := deleteDetached_closed now closed parts.2
  refine ⟨after, false, ?_, deleted, cleared, fun needed => ?_⟩
  · unfold Session.delete Session.destructiveTeardown
    rw [if_pos (by simpa using unreferenced), idle]
    simp [deletes]
  · rw [idle] at needed
    cases needed

/-! ## The attachment of a closed session -/

/-- The row that `shutdown` leaves. -/
def stoppedRow (session : Session) (registered : Registered) : Option SessionBinding :=
  if registered.marks session.row then
    session.row.ownerFenceToken.bind fun fence =>
      session.row.transition .markRecoveryUnknown session.row.runtimeGeneration fence
  else some session.row

theorem shutdown_eq : registered.shutdown session =
    (stoppedRow session registered).bind fun binding =>
      some { session.withRow binding with held := registered.keepsLease session } := by
  unfold Registered.shutdown stoppedRow
  split <;> rfl

/-- The session without its runtime. -/
def stopped (session : Session) : Option Session :=
  match session.runtime with
  | none => some session
  | some existing => existing.shutdown { session with runtime := none }

theorem replace_eq : session.replace around =
    if around.accepting then
      (stopped session).bind fun stopped =>
        some { stopped with runtime := some (freshRuntime stopped.row) }
    else none := by
  unfold Session.replace stopped
  cases session.runtime <;> rfl

theorem shutdown_kept {stopped : Session} (stops : registered.shutdown session = some stopped) :
    stopped.row.bindingIntent = session.row.bindingIntent ∧
      stopped.row.attachmentReason = session.row.attachmentReason := by
  rw [shutdown_eq] at stops
  obtain ⟨binding, written, ⟨⟩⟩ := Option.bind_eq_some_iff.mp stops
  change binding.bindingIntent = _ ∧ binding.attachmentReason = _
  unfold stoppedRow at written
  split at written
  · obtain ⟨fence, _, moved⟩ := Option.bind_eq_some_iff.mp written
    unfold SessionBinding.transition at moved
    split at moved
    · cases moved
      exact ⟨rfl, rfl⟩
    · cases moved
  · cases written
    exact ⟨rfl, rfl⟩

theorem replace_detached {fresh : Session} (replaces : session.replace around = some fresh) :
    fresh.runtimeState = some .detached ∧
      fresh.row.bindingIntent = session.row.bindingIntent ∧
      fresh.row.attachmentReason = session.row.attachmentReason := by
  rw [replace_eq] at replaces
  split at replaces
  · obtain ⟨after, stops, ⟨⟩⟩ := Option.bind_eq_some_iff.mp replaces
    refine ⟨rfl, ?_⟩
    unfold stopped at stops
    split at stops
    · cases stops
      exact ⟨rfl, rfl⟩
    · have kept := shutdown_kept stops
      exact kept
  · cases replaces

theorem attachDetached_marked (closed : session.row.bindingIntent = .closed)
    (reason : session.row.attachmentReason = some .recoveryCleanup)
    (detached : session.runtimeState = some .detached) : session.attachDetached around = none := by
  unfold Session.attachDetached Session.attachResume
  rw [if_pos detached, if_pos ⟨closed, by rw [reason]; decide⟩]

/-- The session under the reason of the cleanup. -/
def markCleanup (session : Session) : Option Session :=
  if session.row.attachmentReason ≠ some .recoveryCleanup then
    (session.row.setAttachmentReason (some .recoveryCleanup) session.row.rowVersion).map
      session.withRow
  else some session

theorem attachClosed_eq : session.attachClosed around =
    (markCleanup session).bind fun marked =>
      (marked.replaceIn around session.forThread teardownReplacedStates).bind fun replaced =>
        replaced.attachDetached around := by
  unfold Session.attachClosed markCleanup
  split <;> rfl

theorem marks_cleanup (closed : session.row.bindingIntent = .closed) :
    ∃ marked : Session, markCleanup session = some marked ∧
      marked.row.bindingIntent = .closed ∧
      marked.row.attachmentReason = some .recoveryCleanup ∧
      marked.runtime = session.runtime ∧
      ∀ registered, Closable marked registered ↔ Closable session registered := by
  unfold markCleanup
  split
  · have marks : session.row.setAttachmentReason (some .recoveryCleanup) session.row.rowVersion =
        some { session.row with
          attachmentReason := some .recoveryCleanup
          rowVersion := session.row.rowVersion + 1 } := by
      simp [SessionBinding.setAttachmentReason]
    rw [marks]
    refine ⟨_, rfl, closed, rfl, rfl, fun registered => ?_⟩
    constructor
    · rintro ⟨quiesced, ready, handle, owner, mailbox, inbox, attached, fence⟩
      exact ⟨quiesced, ready, handle, owner, mailbox, inbox, attached, fence⟩
    · rintro ⟨quiesced, ready, handle, owner, mailbox, inbox, attached, fence⟩
      exact ⟨quiesced, ready, handle, owner, mailbox, inbox, attached, fence⟩
  · next marked =>
    exact ⟨session, rfl, closed, not_not.mp marked, rfl, fun _ => Iff.rfl⟩

theorem forThread_some : session.forThread = some registered ↔
    session.runtime = some registered ∧ registered.runtime.state ≠ .terminal ∧
      registered.handleTerminal = false := by
  unfold Session.forThread
  simp

theorem closes_closed (closed : session.row.bindingIntent = .closed) :
    Closes around session ↔
      ∃ registered, session.forThread = some registered ∧ Closable session registered := by
  obtain ⟨marked, marks, kept, reason, runtime, closables⟩ := marks_cleanup closed
  have attaches : attachFor around session =
      (marked.replaceIn around session.forThread teardownReplacedStates).bind fun replaced =>
        replaced.attachDetached around := by
    unfold attachFor
    rw [if_pos closed, attachClosed_eq, marks, Option.bind_some]
  unfold Closes
  rw [attaches]
  constructor
  · rintro ⟨attached, registered, attaching, found, closable⟩
    obtain ⟨replaced, replaces, attaching⟩ := Option.bind_eq_some_iff.mp attaching
    unfold Session.replaceIn at replaces
    split at replaces
    · -- A fresh runtime is detached, and cannot be attached.
      obtain ⟨detached, intent, same⟩ := replace_detached replaces
      rw [attachDetached_marked (intent.trans kept) (same.trans reason) detached] at attaching
      cases attaching
    · next stays =>
      cases replaces
      cases look : session.forThread with
      | none => simp [look] at stays
      | some existing =>
        by_cases detached : marked.runtimeState = some .detached
        · rw [attachDetached_marked kept reason detached] at attaching
          cases attaching
        · rw [Session.attachDetached, if_neg detached] at attaching
          cases attaching
          have same := (forThread_some.mp look).1
          rw [← runtime, found] at same
          cases same
          exact ⟨registered, rfl, (closables registered).mp closable⟩
  · rintro ⟨registered, look, closable⟩
    have found := (forThread_some.mp look).1
    refine ⟨marked, registered, ?_, runtime.trans found, (closables registered).mpr closable⟩
    have stays : ¬ session.forThread.all (fun found =>
        found.runtime.state ∈ teardownReplacedStates) := by
      simp [look, closable.ready, teardownReplacedStates]
    have ready : marked.runtimeState ≠ some .detached := by
      simp [Session.runtimeState, runtime, found, closable.ready]
    unfold Session.replaceIn
    rw [if_neg stays, Option.bind_some]
    unfold Session.attachDetached
    rw [if_neg ready]

theorem held_closed (closed : session.row.bindingIntent = .closed) : Held around session ↔
    ∃ registered, session.forThread = some registered ∧ Closable session registered := by
  constructor
  · rintro ⟨registered, found, closable, seen⟩
    refine ⟨registered, forThread_some.mpr ⟨found, ?_, ?_⟩, closable⟩
    · simp [closable.ready]
    · cases terminal : registered.handleTerminal with
      | false => rfl
      | true =>
        have active := (seen terminal).1
        rw [closed] at active
        cases active
  · rintro ⟨registered, look, closable⟩
    obtain ⟨found, _, terminal⟩ := forThread_some.mp look
    refine ⟨registered, found, closable, fun seen => ?_⟩
    rw [terminal] at seen
    cases seen

/-! ## The attachment of an active session -/

variable {fence : Nat}

theorem beginAttachment_admits (active : row.bindingIntent = .active)
    (admits : Attachable row fence) :
    row.beginAttachment .resuming fence = some { row with
      attachmentState := .resuming
      runtimeGeneration := row.runtimeGeneration + 1
      ownerFenceToken := some fence
      rowVersion := row.rowVersion + 1 } := by
  have goes : ¬ (row.attachmentState ∉ [.absent, .recoveryUnknown, .ownerConflict] ∧
      ¬ (row.attachmentState = .attached ∧ row.ownerFenceToken ≠ some fence)) := by
    rintro ⟨here, other⟩
    exact admits.elim here other
  unfold SessionBinding.beginAttachment
  rw [if_neg (by simp [active]), if_neg (by simp [active]), if_neg goes]
  rfl

theorem beginAttachment_refuses (stays : ¬ Attachable row fence) :
    row.beginAttachment .resuming fence = none := by
  unfold SessionBinding.beginAttachment
  split
  · rfl
  split
  · rfl
  exact if_pos (not_or.mp stays)

theorem attach_admitted (active : session.row.bindingIntent = .active) :
    (∃ attached, session.attach around = some attached) ↔
      around.prepares = true ∧ around.projectAdmitted = true ∧ around.reconciles = true ∧
        Attachable session.row session.nextFence := by
  unfold Session.attach
  dsimp only
  by_cases prepared : around.prepares = true ∧ around.projectAdmitted = true
  · rw [if_pos prepared]
    by_cases admits : Attachable session.row session.nextFence
    · rw [beginAttachment_admits active admits]
      cases reconciled : around.reconciles with
      | false => simp
      | true => simp [SessionBinding.transition, Transition.expectedStates, prepared, admits]
    · rw [beginAttachment_refuses admits]
      simp [admits]
  · rw [if_neg prepared]
    constructor
    · rintro ⟨_, ⟨⟩⟩
    · rintro ⟨prepares, projectAdmitted, _⟩
      exact absurd ⟨prepares, projectAdmitted⟩ prepared

theorem attach_closable {attached : Session} (attaches : session.attach around = some attached) :
    attached.runtimeState = some .ready ∧
      ∃ registered, attached.runtime = some registered ∧ Closable attached registered := by
  unfold Session.attach at attaches
  split at attaches
  · obtain ⟨begun, _, attaches⟩ := Option.bind_eq_some_iff.mp attaches
    split at attaches
    · obtain ⟨binding, moved, ⟨⟩⟩ := Option.bind_eq_some_iff.mp attaches
      unfold SessionBinding.transition at moved
      split at moved
      · next current =>
        cases moved
        refine ⟨rfl, _, rfl, rfl, rfl, rfl, ?_, rfl, rfl, rfl, ?_⟩
        · simp [Session.owns, attachedRuntime]
        · change begun.ownerFenceToken.isSome = true
          rw [current.2.1]
          rfl
      · cases moved
    · cases attaches
  · cases attaches

theorem attachDetached_active (active : session.row.bindingIntent = .active)
    (detached : session.runtimeState = some .detached) :
    session.attachDetached around = session.attach around := by
  unfold Session.attachDetached Session.attachResume
  rw [if_pos detached, if_neg]
  simp [active]

theorem replace_admits (accepting : around.accepting = true)
    (replaced : ∀ registered ∈ session.runtime, registered.runtime.state ∈ replacedStates) :
    (∃ fresh, session.replace around = some fresh ∧ Attachable fresh.row fresh.nextFence) ↔
      RowAdmits session := by
  rw [replace_eq, if_pos accepting]
  unfold stopped RowAdmits
  cases found : session.runtime with
  | none =>
    simp only [Option.bind_some, Option.some.injEq, exists_eq_left']
    exact Iff.rfl
  | some registered =>
    have stays : registered.runtime.state ≠ .detached := by
      intro detached
      have listed := replaced registered found
      rw [detached] at listed
      simp [replacedStates] at listed
    dsimp only
    rw [if_neg stays, shutdown_eq]
    unfold stoppedRow
    by_cases marks : registered.marks session.row
    · have here : registered.marks ({ session with runtime := none } : Session).row := marks
      rw [if_pos marks, if_pos here]
      change (∃ fresh, (((session.row.ownerFenceToken.bind fun fence =>
        session.row.transition .markRecoveryUnknown session.row.runtimeGeneration fence).bind
          _).bind _) = some fresh ∧ _) ↔ _
      cases owner : session.row.ownerFenceToken with
      | none => simp
      | some fence =>
        have expected : session.row.attachmentState ∈
            Transition.markRecoveryUnknown.expectedStates := by
          have listed := marks.2.2.2.2
          simp only [Transition.expectedStates, List.mem_cons] at listed ⊢
          tauto
        have moves : session.row.transition .markRecoveryUnknown session.row.runtimeGeneration
            fence = some { session.row with
              attachmentState := .recoveryUnknown, rowVersion := session.row.rowVersion + 1 } := by
          unfold SessionBinding.transition
          rw [if_pos ⟨rfl, owner, expected⟩]
          rfl
        simp only [Option.bind_some, moves, Option.some.injEq, exists_eq_left', Option.isSome_some,
          iff_true]
        exact .inl (by simp [Session.row, Session.withRow])
    · have here : ¬ registered.marks ({ session with runtime := none } : Session).row := marks
      rw [if_neg marks, if_neg here]
      simp only [Option.bind_some, Option.some.injEq, exists_eq_left']
      exact Iff.rfl

theorem ready_forThread :
    session.forThread.any (fun found => found.runtime.state = .ready) = true ↔
      ∃ registered, session.runtime = some registered ∧ registered.runtime.state = .ready ∧
        registered.handleTerminal = false := by
  rw [Option.any_eq_true]
  constructor
  · rintro ⟨registered, look, ready⟩
    obtain ⟨found, _, terminal⟩ := forThread_some.mp look
    exact ⟨registered, found, of_decide_eq_true ready, terminal⟩
  · rintro ⟨registered, found, ready, terminal⟩
    exact ⟨registered, forThread_some.mpr ⟨found, by simp [ready], terminal⟩, by simp [ready]⟩

section

variable (active : session.row.bindingIntent = .active)
include active

theorem attachFor_active :
    attachFor around session =
      if session.forThread.any (fun found => found.runtime.state = .ready) then some session
      else if around.accepting then
        (session.replaceIn around session.runtime replacedStates).bind fun replaced =>
          (replaced.attachDetached around).bind fun attached =>
            if attached.runtimeState = some .ready then some attached else none
      else none := by
  have stays : requiresExplicitReactivation session.row = false := by
    simp [requiresExplicitReactivation, active]
  unfold attachFor Session.ensureAttached
  simp only [active, stays, reduceCtorEq, if_false, Bool.false_eq_true, and_true]
  rfl

theorem closes_replaced
    (replaced : ∀ registered ∈ session.runtime, registered.runtime.state ∈ replacedStates) :
    Closes around session ↔ Attaches around session := by
  have unready : ¬ session.forThread.any (fun found => found.runtime.state = .ready) = true := by
    rw [ready_forThread]
    rintro ⟨registered, found, ready, _⟩
    have listed := replaced registered found
    rw [ready] at listed
    simp [replacedStates] at listed
  have replaces : session.replaceIn around session.runtime replacedStates =
      session.replace around := by
    unfold Session.replaceIn
    rw [if_pos]
    rw [Option.all_eq_true]
    exact fun registered found => decide_eq_true (replaced registered found)
  unfold Closes
  rw [attachFor_active active, if_neg unready, replaces]
  constructor
  · rintro ⟨attached, registered, attaching, _⟩
    split at attaching
    · next accepting =>
      obtain ⟨fresh, replacing, attaching⟩ := Option.bind_eq_some_iff.mp attaching
      obtain ⟨after, attaching, _⟩ := Option.bind_eq_some_iff.mp attaching
      obtain ⟨detached, intent, _⟩ := replace_detached replacing
      have stillActive := intent.trans active
      rw [attachDetached_active stillActive detached] at attaching
      obtain ⟨prepares, projectAdmitted, reconciles, admits⟩ :=
        (attach_admitted stillActive).mp ⟨after, attaching⟩
      exact ⟨active, fun registered found => .inr (replaced registered found), accepting, prepares,
        projectAdmitted, reconciles,
          (replace_admits accepting replaced).mp ⟨fresh, replacing, admits⟩⟩
    · cases attaching
  · intro attaches
    obtain ⟨fresh, replacing, admits⟩ :=
      (replace_admits attaches.accepting replaced).mpr attaches.row
    obtain ⟨detached, intent, _⟩ := replace_detached replacing
    have stillActive := intent.trans active
    obtain ⟨attached, attaching⟩ := (attach_admitted stillActive).mpr
      ⟨attaches.prepares, attaches.projectAdmitted, attaches.reconciles, admits⟩
    obtain ⟨ready, registered, found, closable⟩ := attach_closable attaching
    refine ⟨attached, registered, ?_, found, closable⟩
    rw [if_pos attaches.accepting, replacing, Option.bind_some,
      attachDetached_active stillActive detached, attaching, Option.bind_some, if_pos ready]

theorem closes_detached
    (found : session.runtime = some registered) (detached : registered.runtime.state = .detached) :
    Closes around session ↔ Attaches around session := by
  have unready : ¬ session.forThread.any (fun found => found.runtime.state = .ready) = true := by
    rw [ready_forThread]
    rintro ⟨other, same, ready, _⟩
    rw [found] at same
    cases same
    rw [detached] at ready
    cases ready
  have stays : session.replaceIn around session.runtime replacedStates = some session := by
    unfold Session.replaceIn
    simp [found, detached, replacedStates]
  have state : session.runtimeState = some .detached := by
    simp [Session.runtimeState, found, detached]
  have row : RowAdmits session ↔ Attachable session.row session.nextFence := by
    unfold RowAdmits
    rw [found]
    dsimp only
    rw [if_pos detached]
  unfold Closes
  rw [attachFor_active active, if_neg unready, stays]
  simp only [Option.bind_some, attachDetached_active active state]
  constructor
  · rintro ⟨attached, _, attaching, _⟩
    split at attaching
    · next accepting =>
      obtain ⟨after, attaching, _⟩ := Option.bind_eq_some_iff.mp attaching
      obtain ⟨prepares, projectAdmitted, reconciles, admits⟩ :=
        (attach_admitted active).mp ⟨after, attaching⟩
      refine ⟨active, ?_, accepting, prepares, projectAdmitted, reconciles, row.mpr admits⟩
      rintro other same
      rw [found] at same
      cases same
      exact .inl detached
    · cases attaching
  · intro attaches
    obtain ⟨attached, attaching⟩ := (attach_admitted active).mpr
      ⟨attaches.prepares, attaches.projectAdmitted, attaches.reconciles, row.mp attaches.row⟩
    obtain ⟨ready, registered, found, closable⟩ := attach_closable attaching
    refine ⟨attached, registered, ?_, found, closable⟩
    rw [if_pos attaches.accepting, attaching, Option.bind_some, if_pos ready]

theorem closes_kept
    (found : session.runtime = some registered) (attached : registered.runtime.state ≠ .detached)
    (kept : registered.runtime.state ∉ replacedStates) :
    Closes around session ↔ Held around session := by
  have stays : session.replaceIn around session.runtime replacedStates = some session := by
    unfold Session.replaceIn
    simp [found, kept]
  have same : session.attachDetached around = some session := by
    unfold Session.attachDetached
    simp [Session.runtimeState, found, attached]
  unfold Closes Held
  rw [attachFor_active active, stays]
  simp only [Option.bind_some, same]
  constructor
  · rintro ⟨other, held, attaching, here, closable⟩
    split at attaching
    · next ready =>
      cases attaching
      refine ⟨held, here, closable, fun seen => ?_⟩
      obtain ⟨other, again, _, terminal⟩ := ready_forThread.mp ready
      rw [here] at again
      cases again
      rw [terminal] at seen
      cases seen
    split at attaching
    · next accepting =>
      split at attaching
      · cases attaching
        exact ⟨held, here, closable, fun _ => ⟨active, accepting⟩⟩
      · cases attaching
    · cases attaching
  · rintro ⟨held, here, closable, seen⟩
    refine ⟨session, held, ?_, here, closable⟩
    have ready : session.runtimeState = some .ready := by
      simp [Session.runtimeState, here, closable.ready]
    cases terminal : held.handleTerminal with
    | false => rw [if_pos (ready_forThread.mpr ⟨held, here, closable.ready, terminal⟩)]
    | true => simp [(seen terminal).2, ready]

end

/-! ## The deletion -/

theorem closes_iff (present : session.row.bindingIntent = .active ∨
    session.row.bindingIntent = .closed) :
    Closes around session ↔ Held around session ∨ Attaches around session := by
  rcases present with active | closed
  · have fresh (unheld : ∀ registered, session.runtime = some registered →
        registered.runtime.state ≠ .ready) : ¬ Held around session := by
      rintro ⟨registered, found, closable, _⟩
      exact unheld registered found closable.ready
    cases found : session.runtime with
    | none =>
      rw [closes_replaced active (by simp [found]), or_iff_right (fresh (by simp [found]))]
    | some registered =>
      by_cases replaced : registered.runtime.state ∈ replacedStates
      · have unready : registered.runtime.state ≠ .ready := by
          rintro ready
          rw [ready] at replaced
          simp [replacedStates] at replaced
        rw [closes_replaced active (by simpa [found] using replaced),
          or_iff_right (fresh (by simpa [found] using unready))]
      · by_cases detached : registered.runtime.state = .detached
        · rw [closes_detached active found detached,
            or_iff_right (fresh (by simp [found, detached]))]
        · have unattached : ¬ Attaches around session := fun attaches =>
            (attaches.runtime registered found).elim detached replaced
          rw [closes_kept active found detached replaced, or_iff_left unattached]
  · have unattached : ¬ Attaches around session := by
      intro attaches
      have active := attaches.active
      rw [closed] at active
      cases active
    rw [closes_closed closed, or_iff_left unattached, held_closed closed]

/-- A session to which no schedule refers is deleted exactly if nothing of it is attached or live,
or a registered runtime closes it, or it is active and can be attached anew. -/
theorem delete_iff (around : Surroundings) (now : Nat) (session : Session)
    (present : session.row.bindingIntent = .active ∨ session.row.bindingIntent = .closed)
    (unreferenced : ∀ state ∈ session.schedules, state = "deleted") :
    Deletes around now session ↔
      session.needsAttachment = false ∨ Held around session ∨ Attaches around session := by
  cases needed : session.needsAttachment with
  | false => simp [delete_idle now unreferenced present needed]
  | true =>
    rw [← closes_iff present]
    simp only [Bool.true_eq_false, false_or]
    exact ⟨closes_of_delete needed, delete_of_closes now unreferenced needed⟩

/-- An active session that has not been attached yet is attached for its teardown. -/
theorem delete_iff_absent : Deletes {} 0 {} :=
  (delete_iff {} 0 {} (.inl rfl) (by simp)).mpr (.inr (.inr
    { active := rfl, runtime := by simp, accepting := rfl, prepares := rfl
      projectAdmitted := rfl, reconciles := rfl, row := .inl (by decide) }))

/-- A closed session whose background lease is still active, without a runtime. -/
def leasedSession : Session where
  store := { binding := { bindingIntent := .closed } }
  projection := { livenessLeases := [("observed_background", "active")] }

/-- Its temporary attachment raises, and nothing is deleted. -/
theorem leased_session_is_not_deleted :
    leasedSession.schedules = [] ∧ leasedSession.row.bindingIntent = .closed ∧
      leasedSession.delete {} 0 = none ∧ ¬ Deletes {} 0 leasedSession := by
  have raises : leasedSession.delete {} 0 = none := by decide
  refine ⟨rfl, rfl, raises, ?_⟩
  rintro ⟨_, _, deletes, _⟩
  rw [raises] at deletes
  cases deletes

end Copilotd.Guarantees.DeletionTeardown
