import Copilotd.Source.Core.RuntimeClose

/-!
# A close that does not happen

`close` refuses sends and freezes the mailbox long before it commits, and has two handlers that
put back fixed values.  So a call that raises has settled the session or changed nothing only if
the flags were, before it, what they are left at by the await that failed; and the steps after the
commit must all come back.
-/
namespace Copilotd.Guarantees.CloseFailures

open Source.Core.Bindings
open Source.Core.Attachments (beginClose finishDisconnect)
open Source.Core.SessionCreation (RuntimeState)
open Source.Core.RuntimeClose

/-! ## The law -/

def Attached (runtime : Runtime) : Prop := ∃ row, runtime.row = some row ∧
  row.attachmentState = .attached

/-- The session is closed, or its recovery is unknown. -/
structure Settled (after : Runtime) : Prop where
  left : ¬ Attached after
  state : after.state = .closed ∨ after.state = .recoveryUnknown
  stopped : after.stopped

/-- The call has changed nothing. -/
structure Unchanged (before after : Runtime) : Prop where
  row : after.row = before.row
  state : after.state = before.state
  acceptingSends : after.acceptingSends = before.acceptingSends
  mailbox : after.mailbox = before.mailbox

/-! ## The condition -/

/-- Where a call ends, from the awaits that come back and the runtime before it. -/
inductive Ending where
  /-- Sends have not been refused. -/
  | early
  /-- The fence is lost, or an await raises after the commit. -/
  | broken
  /-- Before the commit, with the flags left so; a mailbox that was not touched is `none`. -/
  | leaves (acceptingSends : Bool) (frozen : Option Bool)
  | settles
  deriving DecidableEq

/-- The fence may have been found lost on the way. -/
def Ending.fencedIf (fenced : Bool) : Ending → Ending
  | .leaves acceptingSends frozen => if fenced then .broken else .leaves acceptingSends frozen
  | other => other

/-- The flags before the call are those at which it is left. -/
def Fits (before : Runtime) : Ending → Prop
  | .early | .settles => True
  | .broken => False
  | .leaves acceptingSends frozen => before.acceptingSends = acceptingSends ∧
    ∀ value ∈ frozen, before.mailbox = some { frozen := value }

section Endings

variable (faults : Faults) (before : Runtime)

/-- `begin_close` is not reached, or does not commit. -/
def uncommitted : Bool :=
  !before.inbox || !faults.comesBack .inboxJoin || !faults.comesBack .currentBinding ||
    (before.row.bind fun row => beginClose row row).isNone || !faults.comesBack .beginClose

/-- `finish_disconnect` and the two reads beside it come back. -/
def finishes : Bool :=
  faults.comesBack .latestBinding && faults.comesBack .finishDisconnect &&
    faults.comesBack .finishDisconnectRead

/-- From `begin_close` on. -/
def commitEnding : Ending :=
  if uncommitted faults before then .leaves false (some true)
  else if faults.comesBack .beginCloseRead && finishes faults && faults.comesBack .stopComponents
    then .settles
  else .broken

/-- An unforced call, once the mailbox is drained. -/
def drainedEnding : Ending :=
  if !faults.comesBack .detachBlockers then
    if faults.comesBack .handlerLock then .leaves true (some false) else .leaves false (some true)
  else if !faults.blockers.isEmpty then
    if faults.comesBack .blockedLock then .leaves true (some false) else .leaves false (some true)
  else commitEnding faults before

/-- An unforced call, once sends are refused. -/
def unforcedEnding : Ending :=
  if !faults.comesBack .sendAdmissionsDrained then .leaves false none
  else if !faults.comesBack .submissionLock then
    if faults.comesBack .handlerLock then .leaves true (some false) else .leaves false none
  else if !faults.comesBack .queueJoin then
    if faults.comesBack .handlerLock then .leaves true (some false) else .leaves false (some true)
  else (drainedEnding faults before).fencedIf faults.detachFences

/-- A forced call, once its blockers are known. -/
def tornEnding : Ending :=
  if !faults.comesBack .forceCloseTeardown || !faults.comesBack .submissionLock then
    .leaves false none
  else if !faults.comesBack .queueJoin then .leaves false (some true)
  else commitEnding faults before

/-- A forced call, once sends are refused. -/
def forcedEnding : Ending :=
  if !faults.comesBack .detachBlockers then
    (Ending.leaves (faults.comesBack .handlerLock) none).fencedIf faults.detachFences
  else (tornEnding faults before).fencedIf (faults.detachFences || faults.teardownFences)

def ending (force : Bool) : Ending :=
  if !faults.comesBack .lifecycleLock || before.serviceQuiesced || before.state ≠ .ready then
    .early
  else if !before.handle then .broken
  else if !faults.comesBack .isCurrentOwner then .early
  else if !faults.owner then .broken
  else if before.mailbox.isNone || !faults.comesBack .admissionLock then .early
  else if force then forcedEnding faults before
  else unforcedEnding faults before

end Endings

/-! ## Running the parts -/

variable {faults : Faults} {runtime : Runtime}

theorem bind_run {α β : Type} (program : Call α) (next : α → Call β) (runtime : Runtime) :
    (program >>= next) runtime = match program runtime with
      | .ok value after => next value after
      | .error error after => .error error after := by
  change EStateM.bind program next runtime = _
  unfold EStateM.bind
  cases program runtime <;> rfl

/-- The runtime at the end of a program. -/
def left {α : Type} : EStateM.Result Unit Runtime α → Runtime
  | .ok _ after | .error _ after => after

@[simp] theorem left_ok {α : Type} (value : α) (after : Runtime) : left (.ok value after) = after :=
  rfl

@[simp] theorem left_error {α : Type} (after : Runtime) :
    left (.error () after : EStateM.Result Unit Runtime α) = after := rfl

theorem await_run (site : Await) : await faults site runtime =
    if faults.comesBack site then .ok () runtime else .error () runtime := by
  unfold await
  split <;> rfl

theorem require_run (condition : Runtime → Bool) :
    require condition runtime =
      if condition runtime then .ok () runtime else .error () runtime := by
  change (if condition runtime then pure () else throw () : Call Unit) runtime = _
  split <;> rfl

theorem when_run (condition : Bool) (program : Call Unit) :
    when condition program runtime = if condition then program runtime else .ok () runtime := by
  cases condition <;> rfl

theorem get_run {β : Type} (next : Runtime → Call β) :
    (get >>= next : Call β) runtime = next runtime runtime := rfl

theorem modify_run (set : Runtime → Runtime) :
    (modify set : Call Unit) runtime = .ok () (set runtime) := rfl

theorem setAccepting_run (acceptingSends : Bool) :
    setAccepting acceptingSends runtime = .ok () { runtime with acceptingSends } := rfl

theorem freezeAndDrain_run : freezeAndDrain faults runtime =
    if faults.comesBack .submissionLock then
      if faults.comesBack .queueJoin then .ok () runtime.freeze else .error () runtime.freeze
    else .error () runtime := by
  simp only [freezeAndDrain, bind_run, await_run, modify_run]
  cases faults.comesBack .submissionLock <;> rfl

theorem restore_run (lock : Await) (thaws : Bool) : restore faults lock thaws runtime =
    if faults.comesBack lock then
      .ok () (if thaws then { runtime with acceptingSends := true }.thaw
        else { runtime with acceptingSends := true })
    else .error () runtime := by
  simp only [restore, bind_run, await_run, setAccepting_run, modify_run, when_run]
  cases faults.comesBack lock <;> cases thaws <;> rfl

def handled (faults : Faults) (lock : Await) (thaws : Bool) (runtime : Runtime) : Runtime :=
  if faults.comesBack lock then
    if thaws then { runtime with acceptingSends := true }.thaw
    else { runtime with acceptingSends := true }
  else runtime

theorem restore_throw_run (lock : Await) (thaws : Bool) :
    (do restore faults lock thaws; throw () : Call Unit) runtime =
      .error () (handled faults lock thaws runtime) := by
  rw [bind_run, restore_run]
  unfold handled
  cases faults.comesBack lock <;> rfl

theorem tryCatch_run (program : Call Unit) (handler : Unit → Call Unit) :
    (tryCatch program handler : Call Unit) runtime = match program runtime with
      | .ok value after => .ok value after
      | .error error after => handler error after := by
  change EStateM.tryCatch program handler runtime = _
  unfold EStateM.tryCatch
  cases program runtime <;> rfl

theorem findBlockers_run (force : Bool) : findBlockers faults force runtime =
    match (do
        when (!force) (freezeAndDrain faults)
        when faults.detachFences (modify (·.fence))
        await faults .detachBlockers : Call Unit) runtime with
    | .ok value after => .ok value after
    | .error _ after => .error () (handled faults .handlerLock (!force) after) := by
  unfold findBlockers
  rw [tryCatch_run]
  split
  · rfl
  · exact restore_throw_run _ _

/-- The runtime once the fence may have been found lost. -/
def fencedIf (fenced : Bool) (runtime : Runtime) : Runtime :=
  if fenced then runtime.fence else runtime

theorem fences_run (fenced : Bool) :
    when fenced (modify (·.fence)) runtime = .ok () (fencedIf fenced runtime) := by
  cases fenced <;> rfl

theorem findBlockers_forced : findBlockers faults true runtime =
    if faults.comesBack .detachBlockers then .ok () (fencedIf faults.detachFences runtime)
    else .error () (handled faults .handlerLock false (fencedIf faults.detachFences runtime)) := by
  rw [findBlockers_run, bind_run, when_run]
  simp only [Bool.not_true, Bool.false_eq_true, if_false, bind_run, fences_run, await_run]
  cases faults.comesBack .detachBlockers <;> rfl

theorem findBlockers_unforced : findBlockers faults false runtime =
    if faults.comesBack .submissionLock then
      if faults.comesBack .queueJoin then
        if faults.comesBack .detachBlockers then
          .ok () (fencedIf faults.detachFences runtime.freeze)
        else .error () (handled faults .handlerLock true
          (fencedIf faults.detachFences runtime.freeze))
      else .error () (handled faults .handlerLock true runtime.freeze)
    else .error () (handled faults .handlerLock true runtime) := by
  rw [findBlockers_run, bind_run, when_run]
  simp only [Bool.not_false, if_true, freezeAndDrain_run, bind_run, fences_run, await_run]
  cases faults.comesBack .submissionLock
  · rfl
  · cases faults.comesBack .queueJoin
    · rfl
    · cases faults.comesBack .detachBlockers <;> rfl

theorem refuseBlocked_run : refuseBlocked faults false runtime =
    if faults.blockers.isEmpty then .ok () runtime
    else .error () (handled faults .blockedLock true runtime) := by
  unfold refuseBlocked
  rw [when_run, restore_throw_run]
  cases faults.blockers.isEmpty <;> rfl

theorem refuseBlocked_forced : refuseBlocked faults true = pure () := by
  simp [refuseBlocked, when]

theorem tearDown_run : tearDown faults runtime =
    if faults.comesBack .forceCloseTeardown then
      freezeAndDrain faults (fencedIf faults.teardownFences runtime)
    else .error () (fencedIf faults.teardownFences runtime) := by
  simp only [tearDown, bind_run, fences_run, await_run]
  cases faults.comesBack .forceCloseTeardown <;> rfl

/-! ## Ending before the commit -/

/-- The session is settled, or nothing has changed. -/
def Law (before after : Runtime) : Prop := Settled after ∨ Unchanged before after

variable {before : Runtime}

theorem unchanged_iff {after : Runtime} (state : after.state = .ready ∨
    after.state = .fenced) : Law before after ↔ Unchanged before after := by
  constructor
  · rintro (settled | unchanged)
    · rcases settled.state with closed | unknown <;> rcases state with ready | fenced <;> simp_all
    · exact unchanged
  · exact .inr

def LeftMailbox (before after : Runtime) : Option Bool → Prop
  | none => after.mailbox = before.mailbox
  | some frozen => after.mailbox = some { frozen }

theorem leaves_law {after : Runtime} {acceptingSends : Bool} {frozen : Option Bool}
    (fenced : Bool) (ready : before.state = .ready) (row : after.row = before.row)
    (state : after.state = if fenced then .fenced else .ready)
    (sends : after.acceptingSends = acceptingSends)
    (mailbox : fenced = false → LeftMailbox before after frozen) :
    Law before after ↔ Fits before ((Ending.leaves acceptingSends frozen).fencedIf fenced) := by
  cases fenced with
  | true =>
    rw [unchanged_iff (.inr state)]
    refine ⟨fun unchanged => ?_, fun no => no.elim⟩
    have kept := unchanged.state
    rw [state, ready] at kept
    cases kept
  | false =>
    rw [unchanged_iff (.inl state)]
    have kept := mailbox rfl
    constructor
    · intro unchanged
      refine ⟨?_, ?_⟩
      · rw [← sends, unchanged.acceptingSends]
      · rintro value ⟨⟩
        rw [← unchanged.mailbox]
        exact kept
    · rintro ⟨before_sends, before_mailbox⟩
      refine ⟨row, by rw [state, ready]; rfl, by rw [sends, before_sends], ?_⟩
      cases frozen with
      | none => exact kept
      | some value => rw [before_mailbox value rfl]; exact kept

/-! ## The commit -/

/-- The runtime with the row that `begin_close` writes. -/
def begun (runtime : Runtime) : Runtime :=
  { runtime with row := runtime.row.bind fun row => beginClose row row }

theorem beginClosing_run : beginClosing faults runtime =
    if uncommitted faults runtime then .error () runtime
    else if faults.comesBack .beginCloseRead then .ok () { begun runtime with state := .closing }
    else .error () (begun runtime) := by
  simp only [beginClosing, bind_run, require_run, await_run, modify_run, uncommitted]
  cases runtime.inbox
  · rfl
  cases faults.comesBack .inboxJoin
  · rfl
  cases faults.comesBack .currentBinding
  · rfl
  cases written : (runtime.row.bind fun row => beginClose row row) with
  | none => simp [written]
  | some row =>
    cases faults.comesBack .beginClose
    · simp [written]
    cases faults.comesBack .beginCloseRead <;> simp [written, begun]

/-- A row as `begin_close` leaves it. -/
def Disconnecting (runtime : Runtime) : Prop := ∃ row, runtime.row = some row ∧
  row.attachmentState = .disconnecting ∧ row.ownerFenceToken.isSome

theorem begun_disconnecting (committed : uncommitted faults runtime = false) :
    Attached runtime ∧ Disconnecting (begun runtime) := by
  simp only [uncommitted, Bool.or_eq_false_iff, Option.isNone_eq_false_iff,
    Option.isSome_iff_exists] at committed
  obtain ⟨⟨_, row, written⟩, _⟩ := committed
  obtain ⟨found, here, closes⟩ := Option.bind_eq_some_iff.mp written
  unfold beginClose at closes
  split at closes
  · cases closes
  next attached =>
    obtain ⟨fence, owner, closed⟩ := Option.bind_eq_some_iff.mp closes
    unfold SessionBinding.beginClose at closed
    split at closed
    · cases closed
      exact ⟨⟨found, here, by simpa using attached⟩, _, written, rfl, by simp [owner]⟩
    · cases closed

theorem Disconnecting.not_attached (open_row : Disconnecting runtime) : ¬ Attached runtime := by
  rintro ⟨row, found, attached⟩
  obtain ⟨_, other, disconnecting, _⟩ := open_row
  rw [found] at other
  cases other
  rw [attached] at disconnecting
  cases disconnecting

theorem disconnect_run : disconnect faults runtime =
    .ok (faults.ownerClosing && faults.comesBack .submit)
      (fencedIf (!faults.ownerClosing) runtime) := by
  unfold disconnect
  cases faults.ownerClosing <;> rfl

theorem finish_disconnecting {row : SessionBinding} (succeeded : Bool)
    (disconnecting : row.attachmentState = .disconnecting) (owner : row.ownerFenceToken.isSome) :
    ∃ after, finishDisconnect succeeded row = some after ∧ after.attachmentState ≠ .attached := by
  obtain ⟨fence, found⟩ := Option.isSome_iff_exists.mp owner
  refine ⟨{ row with attachmentState := (Transition.finishDisconnect succeeded).state
                     rowVersion := row.rowVersion + 1 }, ?_, ?_⟩
  · simp [finishDisconnect, found, SessionBinding.transition, disconnecting,
      Transition.expectedStates]
  · cases succeeded <;> simp [Transition.state]

theorem finishDisconnecting_run (faults : Faults) (succeeded : Bool)
    (open_row : Disconnecting runtime) :
    ∃ row : SessionBinding, row.attachmentState ≠ .attached ∧
      finishDisconnecting faults succeeded runtime =
        if finishes faults then .ok () { runtime with row := some row }
        else .error () { runtime with row := some row } := by
  obtain ⟨row, found, disconnecting, owner⟩ := open_row
  obtain ⟨after, finished, left⟩ := finish_disconnecting succeeded disconnecting owner
  have attached : row.attachmentState ≠ .attached := by simp [disconnecting]
  have same : { runtime with row := some row } = runtime := by rw [← found]
  unfold finishDisconnecting
  rw [bind_run, await_run]
  cases latest : faults.comesBack .latestBinding
  · exact ⟨row, attached, by simp [finishes, latest, same]⟩
  · simp only [if_true]
    rw [get_run, found]
    simp only [bind_run, require_run, finished, Option.isSome_some, if_true, await_run, modify_run]
    cases finish : faults.comesBack .finishDisconnect
    · exact ⟨row, attached, by simp [finishes, finish, same]⟩
    · cases read : faults.comesBack .finishDisconnectRead
      · exact ⟨after, left, by simp [finishes, read]⟩
      · exact ⟨after, left, by simp [finishes, latest, finish, read]⟩

theorem stopComponents_run : stopComponents faults runtime =
    if faults.comesBack .stopComponents then
      .ok () { runtime with acceptingSends := false, mailbox := none, inbox := false,
                            handle := false }
    else .error () (if faults.stopsAll then
        { runtime with acceptingSends := false, mailbox := none, inbox := false, handle := false }
      else { runtime with acceptingSends := false }) := by
  simp only [stopComponents, bind_run, modify_run, when_run, await_run]
  cases faults.comesBack .stopComponents <;> cases faults.stopsAll <;> rfl

theorem disconnects_settled (open_row : Disconnecting runtime) (finished : finishes faults)
    (stops : faults.comesBack .stopComponents) : Settled (left (disconnects faults runtime)) := by
  have kept : Disconnecting (fencedIf (!faults.ownerClosing) runtime) := by
    cases faults.ownerClosing <;> exact open_row
  unfold disconnects
  rw [bind_run, disconnect_run]
  generalize (faults.ownerClosing && faults.comesBack .submit) = succeeded
  obtain ⟨row, attached, finishing⟩ := finishDisconnecting_run faults succeeded kept
  simp only [bind_run, finishing, finished, stopComponents_run, stops, if_true, modify_run]
  have gone : ¬ ∃ other, some row = some other ∧ other.attachmentState = .attached := by
    rintro ⟨_, ⟨⟩, again⟩
    exact attached again
  cases succeeded with
  | true => exact ⟨gone, .inl rfl, rfl, rfl, rfl⟩
  | false => exact ⟨gone, .inr rfl, rfl, rfl, rfl⟩

theorem disconnects_broken (open_row : Disconnecting runtime) (closing : runtime.state = .closing)
    (fails : (finishes faults && faults.comesBack .stopComponents) = false) :
    ¬ Attached (left (disconnects faults runtime)) ∧
      ((left (disconnects faults runtime)).state = .closing ∨
        (left (disconnects faults runtime)).state = .fenced) := by
  have kept : Disconnecting (fencedIf (!faults.ownerClosing) runtime) := by
    cases faults.ownerClosing <;> exact open_row
  have state : (fencedIf (!faults.ownerClosing) runtime).state = .closing ∨
      (fencedIf (!faults.ownerClosing) runtime).state = .fenced := by
    cases faults.ownerClosing
    · exact .inr rfl
    · exact .inl closing
  unfold disconnects
  rw [bind_run, disconnect_run]
  generalize (faults.ownerClosing && faults.comesBack .submit) = succeeded
  obtain ⟨row, attached, finishing⟩ := finishDisconnecting_run faults succeeded kept
  have gone : ¬ ∃ other, some row = some other ∧ other.attachmentState = .attached := by
    rintro ⟨_, ⟨⟩, again⟩
    exact attached again
  simp only [bind_run, finishing]
  cases finished : finishes faults with
  | false => exact ⟨gone, state⟩
  | true =>
    have stops : faults.comesBack .stopComponents = false := by simpa [finished] using fails
    simp only [if_true, stopComponents_run, stops, Bool.false_eq_true, if_false]
    cases faults.stopsAll <;> exact ⟨gone, state⟩

/-! ## The law of a call -/

theorem commit_law {entry : Runtime} {fenced : Bool} (ready : before.state = .ready)
    (row : entry.row = before.row) (inbox : entry.inbox = before.inbox)
    (state : entry.state = if fenced then .fenced else .ready)
    (sends : entry.acceptingSends = false) (mailbox : entry.mailbox = some { frozen := true }) :
    Law before (left (commit faults entry)) ↔
      Fits before ((commitEnding faults before).fencedIf fenced) := by
  have same : uncommitted faults entry = uncommitted faults before := by
    simp only [uncommitted, row, inbox]
  unfold commit commitEnding
  rw [bind_run, beginClosing_run, same]
  cases uncommits : uncommitted faults before with
  | true =>
    exact leaves_law _ ready row state sends fun _ => mailbox
  | false =>
    obtain ⟨attached, disconnecting⟩ := begun_disconnecting (same.trans uncommits)
    have was : Attached before := by
      unfold Attached
      rw [← row]
      exact attached
    have broken : ∀ after : Runtime, ¬ Attached after → (after.state ≠ .closed) →
        (after.state ≠ .recoveryUnknown) → (Law before after ↔ False) := by
      intro after gone not_closed not_unknown
      refine ⟨?_, False.elim⟩
      rintro (settled | unchanged)
      · exact settled.state.elim not_closed not_unknown
      · apply gone
        unfold Attached
        rw [unchanged.row]
        exact was
    simp only [Bool.false_eq_true, if_false]
    cases reads : faults.comesBack .beginCloseRead with
    | false =>
      simp only [Bool.false_and, Bool.false_eq_true, if_false, left]
      have entry_state : (begun entry).state = if fenced then .fenced else .ready := state
      refine broken _ disconnecting.not_attached ?_ ?_ <;> rw [entry_state] <;> cases fenced
        <;> simp
    | true =>
      simp only [Bool.true_and, if_true]
      cases rest : finishes faults && faults.comesBack .stopComponents with
      | true =>
        rw [Bool.and_eq_true] at rest
        simp only [if_true, Ending.fencedIf, Fits, iff_true]
        exact .inl (disconnects_settled disconnecting rest.1 rest.2)
      | false =>
        have open_row : Disconnecting { begun entry with state := .closing } := disconnecting
        obtain ⟨gone, closing⟩ := disconnects_broken open_row rfl rest
        refine broken _ gone ?_ ?_ <;> rcases closing with closing | closing <;> simp [closing]

theorem torn_law {entry : Runtime} {fenced : Bool} (ready : before.state = .ready)
    (row : entry.row = before.row) (inbox : entry.inbox = before.inbox)
    (state : entry.state = if fenced then .fenced else .ready)
    (sends : entry.acceptingSends = false)
    (mailbox : fenced = false → entry.mailbox = before.mailbox) (present : entry.mailbox.isSome) :
    Law before (left ((do tearDown faults; commit faults : Call Unit) entry)) ↔
      Fits before ((tornEnding faults before).fencedIf (fenced || faults.teardownFences)) := by
  have torn : (fencedIf faults.teardownFences entry).state =
      if fenced || faults.teardownFences then .fenced else .ready := by
    cases faults.teardownFences
    · simpa [fencedIf] using state
    · simp [fencedIf, Runtime.fence]
  have kept : (fenced || faults.teardownFences) = false →
      LeftMailbox before (fencedIf faults.teardownFences entry) none := by
    intro none_fenced
    rw [Bool.or_eq_false_iff] at none_fenced
    rw [none_fenced.2]
    exact mailbox none_fenced.1
  obtain ⟨row', sends', inbox', frozen⟩ :
      (fencedIf faults.teardownFences entry).row = before.row ∧
      (fencedIf faults.teardownFences entry).acceptingSends = false ∧
      (fencedIf faults.teardownFences entry).inbox = before.inbox ∧
      (fencedIf faults.teardownFences entry).freeze.mailbox = some { frozen := true } := by
    obtain ⟨_, found⟩ := Option.isSome_iff_exists.mp present
    cases faults.teardownFences <;>
      exact ⟨row, sends, inbox, by simp [fencedIf, Runtime.fence, Runtime.freeze, found]⟩
  rw [bind_run, tearDown_run, freezeAndDrain_run]
  unfold tornEnding
  cases faults.comesBack .forceCloseTeardown
  · exact leaves_law _ ready row' torn sends' kept
  cases faults.comesBack .submissionLock
  · exact leaves_law _ ready row' torn sends' kept
  cases faults.comesBack .queueJoin
  · exact leaves_law _ ready row' torn sends' fun _ => frozen
  · exact commit_law ready row' inbox' torn sends' frozen

def refusing (runtime : Runtime) : Runtime := { runtime with acceptingSends := false }

theorem forced_law (ready : before.state = .ready) (present : before.mailbox.isSome) :
    Law before (left (closeRefused faults true (refusing before))) ↔
      Fits before (forcedEnding faults before) := by
  have unfolded : closeRefused faults true (refusing before) =
      (do findBlockers faults true; tearDown faults; commit faults : Call Unit)
        (refusing before) := by
    unfold closeRefused
    rw [refuseBlocked_forced]
    rfl
  rw [unfolded, bind_run, findBlockers_forced]
  unfold forcedEnding
  cases faults.comesBack .detachBlockers with
  | true =>
    refine torn_law ready ?_ ?_ ?_ ?_ ?_ ?_
    all_goals cases faults.detachFences
    all_goals simp [fencedIf, Runtime.fence, Runtime.freeze, refusing, ready, present]
  | false =>
    refine leaves_law _ ready ?_ ?_ ?_ ?_
    all_goals cases faults.detachFences
    all_goals cases back : faults.comesBack .handlerLock
    all_goals simp [fencedIf, Runtime.fence, Runtime.freeze, refusing, ready, handled, back,
      LeftMailbox]

theorem handled_law {entry : Runtime} {fenced : Bool} (lock : Await)
    (ready : before.state = .ready) (row : entry.row = before.row)
    (state : entry.state = if fenced then .fenced else .ready)
    (sends : entry.acceptingSends = false) (mailbox : entry.mailbox = some { frozen := true }) :
    Law before (handled faults lock true entry) ↔
      Fits before ((if faults.comesBack lock then .leaves true (some false)
        else .leaves false (some true) : Ending).fencedIf fenced) := by
  unfold handled
  cases faults.comesBack lock
  · exact leaves_law _ ready row state sends fun _ => mailbox
  · exact leaves_law _ ready row state rfl fun _ => by simp [LeftMailbox, Runtime.thaw, mailbox]

theorem unforced_law (ready : before.state = .ready) (present : before.mailbox.isSome) :
    Law before (left (closeRefused faults false (refusing before))) ↔
      Fits before (unforcedEnding faults before) := by
  have unfolded : closeRefused faults false (refusing before) =
      (do await faults .sendAdmissionsDrained
          findBlockers faults false; refuseBlocked faults false; commit faults : Call Unit)
        (refusing before) := rfl
  obtain ⟨_, found⟩ := Option.isSome_iff_exists.mp present
  rw [unfolded, bind_run, await_run]
  unfold unforcedEnding
  cases faults.comesBack .sendAdmissionsDrained
  · exact leaves_law false ready rfl ready rfl fun _ => rfl
  simp only [if_true]
  rw [bind_run, findBlockers_unforced]
  cases faults.comesBack .submissionLock with
  | false =>
    cases back : faults.comesBack .handlerLock
    all_goals refine leaves_law false ready ?_ ?_ ?_ ?_
    all_goals simp [handled, back, refusing, ready, LeftMailbox, Runtime.thaw, found]
  | true =>
    cases faults.comesBack .queueJoin with
    | false =>
      cases back : faults.comesBack .handlerLock
      all_goals refine leaves_law false ready ?_ ?_ ?_ ?_
      all_goals simp [handled, back, refusing, ready, LeftMailbox, Runtime.thaw, Runtime.freeze,
        found]
    | true =>
      obtain ⟨row, inbox, state, sends, mailbox⟩ :
          (fencedIf faults.detachFences (refusing before).freeze).row = before.row ∧
          (fencedIf faults.detachFences (refusing before).freeze).inbox = before.inbox ∧
          ((fencedIf faults.detachFences (refusing before).freeze).state =
            if faults.detachFences then .fenced else .ready) ∧
          (fencedIf faults.detachFences (refusing before).freeze).acceptingSends = false ∧
          (fencedIf faults.detachFences (refusing before).freeze).mailbox =
            some { frozen := true } := by
        cases faults.detachFences <;>
          simp [fencedIf, Runtime.fence, Runtime.freeze, refusing, ready, found]
      unfold drainedEnding
      cases faults.comesBack .detachBlockers with
      | false => exact handled_law .handlerLock ready row state sends mailbox
      | true =>
        simp only [if_true]
        rw [bind_run, refuseBlocked_run]
        cases faults.blockers.isEmpty with
        | false => exact handled_law .blockedLock ready row state sends mailbox
        | true => exact commit_law ready row inbox state sends mailbox

/-- `_assert_owned_handle` lets a call on. -/
def entered (faults : Faults) (runtime : Runtime) : Ending :=
  if runtime.serviceQuiesced || runtime.state ≠ .ready then .early
  else if !runtime.handle then .broken
  else if !faults.comesBack .isCurrentOwner then .early
  else if !faults.owner then .broken
  else .settles

theorem assertOwnedHandle_run : assertOwnedHandle faults runtime =
    match entered faults runtime with
    | .settles => .ok () runtime
    | .broken => .error () runtime.fence
    | _ => .error () runtime := by
  have loses : (loseFence : Call Unit) runtime = .error () runtime.fence := rfl
  unfold assertOwnedHandle entered
  rw [bind_run, require_run]
  cases runtime.serviceQuiesced
  · by_cases ready : runtime.state = .ready
    · simp only [ready, Bool.not_false, decide_true, Bool.and_self, if_true, ne_eq,
        not_true_eq_false, decide_false, Bool.or_self, Bool.false_eq_true, if_false]
      rw [get_run]
      cases runtime.handle
      · exact loses
      · simp only [if_true, Bool.not_true, Bool.false_eq_true, if_false]
        rw [bind_run, await_run]
        cases faults.comesBack .isCurrentOwner
        · rfl
        · cases faults.owner
          · exact loses
          · rfl
    · simp [ready]
  · rfl

theorem same_law (before : Runtime) : Law before before :=
  .inr ⟨rfl, rfl, rfl, rfl⟩

theorem fence_law (ready : before.state = .ready) :
    ¬ Law before before.fence := by
  have fenced : before.fence.state = .fenced := rfl
  rw [unchanged_iff (.inr fenced)]
  intro unchanged
  have kept := unchanged.state
  rw [fenced, ready] at kept
  cases kept

theorem closed_eq (faults : Faults) (force : Bool) (before : Runtime) :
    closed faults force before = left (close faults force before) := by
  unfold closed left
  cases close faults force before <;> rfl

/-- A call of `close` settles the session or changes nothing exactly if it ends where the flags
before it are those that it leaves. -/
theorem failed_close_changes_nothing (faults : Faults) (force : Bool) (before : Runtime) :
    (Settled (closed faults force before) ∨ Unchanged before (closed faults force before)) ↔
      Fits before (ending faults before force) := by
  change Law before _ ↔ _
  have early : Law before before ↔ Fits before .early := ⟨fun _ => trivial, fun _ => same_law _⟩
  rw [closed_eq]
  unfold close ending
  rw [bind_run, await_run]
  cases faults.comesBack .lifecycleLock
  · exact early
  simp only [if_true, Bool.not_true, Bool.false_or]
  rw [bind_run, assertOwnedHandle_run]
  unfold entered
  by_cases outside : (before.serviceQuiesced || decide (before.state ≠ .ready)) = true
  · simp only [outside, if_true]
    exact early
  have ready : before.state = .ready := by
    simp only [Bool.or_eq_true, decide_eq_true_eq, not_or, not_not] at outside
    exact outside.2
  have broken : Law before before.fence ↔ Fits before .broken :=
    ⟨fun law => fence_law ready law, False.elim⟩
  simp only [outside]
  cases before.handle
  · exact broken
  cases faults.comesBack .isCurrentOwner
  · exact early
  cases faults.owner
  · exact broken
  simp only [Bool.not_true, Bool.false_eq_true, if_false]
  rw [bind_run, require_run]
  cases present : before.mailbox with
  | none => exact early
  | some mailbox =>
    simp only [Option.isSome_some, if_true, Option.isNone_some, Bool.false_or]
    rw [bind_run, await_run]
    cases faults.comesBack .admissionLock
    · exact early
    · cases force with
      | true => exact forced_law ready (by simp [present])
      | false => exact unforced_law ready (by simp [present])

/-! ## An unforced close that is cancelled while it waits for the sends in flight -/

/-- Every await comes back but the wait for the sends. -/
def cancelled : Faults where
  comesBack site := site ≠ .sendAdmissionsDrained
  owner := true
  ownerClosing := true
  blockers := []
  detachFences := false
  teardownFences := false
  stopsAll := true

def attached : Runtime where
  state := .ready
  acceptingSends := true
  mailbox := some { frozen := false }
  inbox := true
  handle := true
  row := some { attachmentState := .attached, runtimeGeneration := 1, ownerFenceToken := some 1 }

theorem cancelled_close_refuses_sends :
    ¬ (Settled (closed cancelled false attached) ∨
      Unchanged attached (closed cancelled false attached)) := by
  rintro (settled | unchanged)
  · exact absurd settled.state (by decide)
  · exact absurd unchanged.acceptingSends (by decide)

end Copilotd.Guarantees.CloseFailures
