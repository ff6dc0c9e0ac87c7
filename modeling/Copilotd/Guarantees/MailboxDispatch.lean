import Copilotd.Base.Pool
import Copilotd.Source.Core.Mailbox

/-!
# At-most-once dispatch

`begin` reads, commits and reads again, and its `created` flag does not say who
inserted the row.  Two calls for one key that both find the key free before
either has come back therefore both report `created`, and both items are
dispatched: the second `started` event is a duplicate receipt that is
acknowledged without being applied.  Without such an overlap the flag is given
once, and every start below spends it.
-/
namespace Copilotd.Guarantees.MailboxDispatch

open Base.Run Base.Pool Base.Table Source.Storage Source.Core

/-! ## Executions -/

/-- The operation callable has not been called and still may be. -/
def beforeStart : Phase → Bool
  | .fenceBeforeStart | .commit .start .. | .reread .start .. | .fenceBeforeDispatch _ => true
  | _ => false

/-- The event a worker has in flight is a transition. -/
def Posted : Phase → Prop
  | .commit _ _ _ posting => ∃ id fromState toState ref code time,
      posting.event = .transition id fromState toState ref code time
  | _ => True

/-- A stretch that ends without touching the database. -/
structure Quiet (shared : Shared) (may : Bool) (r : Resumed) : Prop where
  shared : r.shared = shared
  notCalled : r.called = false
  phase : ∀ p, r.phase = some p → Posted p ∧ (beforeStart p = true → may = true)

variable {shared : Shared} {futures : Futures}

private theorem quiet_end (may : Bool) {reraises : Bool} :
    Quiet shared may { shared, futures, reraises } :=
  ⟨rfl, rfl, fun _ none_ => by cases none_⟩

theorem Quiet.reraised {may : Bool} {r : Resumed} (quiet : Quiet shared may r) :
    Quiet shared may { r with reraises := true } :=
  ⟨quiet.shared, quiet.notCalled, quiet.phase⟩

variable {record : OperationRecord} {now : ℚ} {code ref : Option String} {state : OperationState}

private theorem posted_of_transitionEvent {event : OperationEvent}
    (built : transitionEvent record state ref code now = .ok event) :
    event = .transition record.operationId record.state state ref code now := by
  unfold transitionEvent at built
  split at built
  · cases built
    rfl
  · cases built

variable {errorCode : String} {site : Site} {x : Execution}

theorem finishAmbiguous_quiet (may : Bool) (late : site = .ambiguous ∨ site = .outer) :
    Quiet shared may (finishAmbiguous site shared futures x record errorCode now) := by
  unfold finishAmbiguous
  split
  · exact quiet_end may
  next event built =>
    split
    · exact quiet_end may
    · refine ⟨rfl, rfl, ?_⟩
      intro p isPhase
      cases isPhase
      have shape := posted_of_transitionEvent built
      refine ⟨⟨_, _, _, _, _, _, shape⟩, ?_⟩
      rcases late with rfl | rfl <;> intro impossible <;> cases impossible

theorem escape_quiet (may : Bool) : Quiet shared may (escape shared futures x errorCode now) :=
  finishAmbiguous_quiet may (.inr rfl)

theorem complete_quiet (may : Bool) : Quiet shared may (complete shared futures x now) := by
  unfold complete
  split
  · exact escape_quiet may
  · exact quiet_end may

theorem raiseAt_quiet (may : Bool) :
    Quiet shared may (raiseAt site shared futures x record errorCode now) := by
  cases site with
  | start | reject => exact escape_quiet may
  | confirm => exact finishAmbiguous_quiet may (.inl rfl)
  | ambiguous | outer => exact quiet_end may

theorem request_quiet (may : Bool) (early : site = .start → may = true) :
    Quiet shared may (request site shared futures x record state ref code now) := by
  unfold request
  split
  · exact raiseAt_quiet may
  next event built =>
    split
    · exact raiseAt_quiet may
    · refine ⟨rfl, rfl, ?_⟩
      intro p isPhase
      cases isPhase
      have shape := posted_of_transitionEvent built
      refine ⟨⟨_, _, _, _, _, _, shape⟩, ?_⟩
      cases site with
      | start => exact fun _ => early rfl
      | confirm | reject | ambiguous | outer => intro impossible; cases impossible

theorem fenceLost_quiet (may : Bool) :
    Quiet shared may (fenceLost shared futures x record errorCode now) := by
  unfold fenceLost
  split
  · refine ⟨rfl, rfl, ?_⟩
    intro p isPhase
    cases isPhase
    exact ⟨trivial, fun impossible => by cases impossible⟩
  · exact finishAmbiguous_quiet may (.inl rfl)

theorem afterTransition_quiet (may : Bool) (early : site = .start → may = true) :
    Quiet shared may (afterTransition site shared futures x record now) := by
  cases site with
  | start =>
    refine ⟨rfl, rfl, ?_⟩
    intro p isPhase
    cases isPhase
    exact ⟨trivial, fun _ => early rfl⟩
  | confirm =>
    simp only [afterTransition]
    split
    · exact complete_quiet may
    · refine ⟨rfl, rfl, ?_⟩
      intro p isPhase
      cases isPhase
      exact ⟨trivial, fun impossible => by cases impossible⟩
  | reject => exact complete_quiet may
  | ambiguous | outer => exact quiet_end may

/-- What one stretch of a worker can do, as far as dispatch is concerned. -/
structure ResumeSpec (shared : Shared) (phase : Phase) (r : Resumed) : Prop where
  session : r.shared.sdkSessionId = shared.sdkSessionId
  rows : identities r.shared.db.operations = identities shared.db.operations
  called : r.called = true →
    beforeStart phase = true ∧ ∀ p, r.phase = some p → beforeStart p = false
  phase : ∀ p, r.phase = some p → Posted p ∧
    (beforeStart p = true → beforeStart phase = true)

variable {r : Resumed} {phase : Phase}

theorem Quiet.spec {other : Shared} (quiet : Quiet other (beforeStart phase) r)
    (session : other.sdkSessionId = shared.sdkSessionId)
    (rows : identities other.db.operations = identities shared.db.operations) :
    ResumeSpec shared phase r := by
  refine ⟨?_, ?_, ?_, quiet.phase⟩
  · rw [quiet.shared]
    exact session
  · rw [quiet.shared]
    exact rows
  · intro called
    rw [quiet.notCalled] at called
    cases called

theorem reduce_identities {shared : Shared} {inbox : Nat} {posting : Posting}
    (notPending : ∀ id g f kind key hash time, posting.event ≠ .pending id g f kind key hash time) :
    (shared.reduce inbox posting).2.sdkSessionId = shared.sdkSessionId ∧
      identities (shared.reduce inbox posting).2.db.operations =
        identities shared.db.operations := by
  simp only [Shared.reduce]
  split
  next db done =>
    refine ⟨rfl, ?_⟩
    rcases persist_cases done with ⟨rfl, _⟩ | ⟨_, _, rows, applied, rfl⟩
    · rfl
    · rcases identities_applyDomainState applied with
        same | ⟨id, g, f, kind, key, hash, time, isPending, _⟩
      · exact same
      · exact absurd isPending (notPending id g f kind key hash time)
  · exact ⟨rfl, rfl⟩

theorem resume_spec {outcome : Outcome} (posted : Posted x.phase)
    (resumed : resume shared futures x outcome now = some r) :
    ResumeSpec shared x.phase r := by
  obtain ⟨mailbox, inbox, item, phase, reraises⟩ := x
  have ended (reraises : Bool) : ResumeSpec shared phase { shared, futures, reraises } :=
    (quiet_end _).spec rfl rfl
  cases phase with
  | fenceBeforeStart =>
    cases outcome with
    | fence valid =>
      cases valid <;> cases resumed
      · exact (fenceLost_quiet _).spec rfl rfl
      · exact (request_quiet _ fun _ => rfl).spec rfl rfl
    | raises errorCode =>
      cases resumed
      exact (escape_quiet _).spec rfl rfl
    | cancelled =>
      cases resumed
      exact ended _
    | _ => cases resumed
  | commit site record state posting =>
    obtain ⟨id, fromState, toState, ref, code, time, shape⟩ := posted
    cases outcome with
    | reduce =>
      have effects := @reduce_identities shared inbox posting (by simp [shape])
      simp only [resume] at resumed
      split at resumed
      next reduced is =>
        rw [is] at effects
        cases resumed
        refine ⟨effects.1, effects.2, fun impossible => (by cases impossible), ?_⟩
        intro p isPhase
        cases isPhase
        refine ⟨trivial, ?_⟩
        cases site <;> simp [beforeStart]
      next failed is =>
        rw [is] at effects
        cases resumed
        exact (raiseAt_quiet _).spec effects.1 effects.2
    | commitFails =>
      simp only [resume] at resumed
      split at resumed
      · cases resumed
        exact (raiseAt_quiet _).spec rfl rfl
      · cases resumed
    | cancelled =>
      cases resumed
      exact ended _
    | fence valid => cases valid <;> cases resumed
    | _ => cases resumed
  | reread site record state =>
    cases outcome with
    | read =>
      simp only [resume] at resumed
      split at resumed
      · cases resumed
        refine (afterTransition_quiet _ ?_).spec rfl rfl
        rintro rfl
        rfl
      · cases resumed
        exact (raiseAt_quiet _).spec rfl rfl
    | cancelled =>
      cases resumed
      exact ended _
    | fence valid => cases valid <;> cases resumed
    | _ => cases resumed
  | fenceBeforeDispatch record =>
    cases outcome with
    | fence valid =>
      cases valid <;> cases resumed
      · exact (fenceLost_quiet _).spec rfl rfl
      · refine ⟨rfl, rfl, fun _ => ⟨rfl, ?_⟩, ?_⟩
        · intro p isPhase
          cases isPhase
          rfl
        · intro p isPhase
          cases isPhase
          exact ⟨trivial, fun _ => rfl⟩
    | raises errorCode =>
      cases resumed
      exact (escape_quiet _).spec rfl rfl
    | cancelled =>
      cases resumed
      exact ended _
    | _ => cases resumed
  | operation record =>
    have next : ∀ p, beforeStart p = false → Posted p →
        ResumeSpec shared (.operation record) { shared, futures, phase := some p } := by
      intro p late isPosted
      refine ⟨rfl, rfl, fun impossible => (by cases impossible), ?_⟩
      intro q isPhase
      cases isPhase
      exact ⟨isPosted, fun early => by rw [late] at early; cases early⟩
    cases outcome with
    | returns =>
      cases resumed
      exact next _ rfl trivial
    | rejects errorCode =>
      cases resumed
      exact (request_quiet _ fun impossible => by cases impossible).spec rfl rfl
    | defers errorCode =>
      cases resumed
      exact next _ rfl trivial
    | raises errorCode =>
      cases resumed
      exact (finishAmbiguous_quiet _ (.inl rfl)).spec rfl rfl
    | cancelled =>
      cases resumed
      exact (finishAmbiguous_quiet _ (.inl rfl)).reraised.spec rfl rfl
    | fence valid => cases valid <;> cases resumed
    | _ => cases resumed
  | fenceAfterDispatch record =>
    cases outcome with
    | fence valid =>
      cases valid <;> cases resumed
      · exact (finishAmbiguous_quiet _ (.inl rfl)).spec rfl rfl
      · exact (request_quiet _ fun impossible => by cases impossible).spec rfl rfl
    | persistenceRaises errorCode =>
      cases resumed
      exact (finishAmbiguous_quiet _ (.inl rfl)).spec rfl rfl
    | raises errorCode =>
      cases resumed
      exact (escape_quiet _).spec rfl rfl
    | cancelled =>
      cases resumed
      exact ended _
    | _ => cases resumed
  | settling record errorCode =>
    cases outcome with
    | settle =>
      simp only [resume] at resumed
      split at resumed
      next settled =>
        cases resumed
        exact (complete_quiet _).spec rfl (identities_settleDeferred settled)
      · cases resumed
        exact (complete_quiet _).spec rfl rfl
      · cases resumed
        exact (escape_quiet _).spec rfl rfl
    | cancelled =>
      cases resumed
      exact ended _
    | fence valid => cases valid <;> cases resumed
    | _ => cases resumed
  | discarding record =>
    cases outcome with
    | discard =>
      cases resumed
      exact (complete_quiet _).spec rfl (identities_discardResult record _)
    | raises errorCode =>
      cases resumed
      exact (escape_quiet _).spec rfl rfl
    | cancelled =>
      cases resumed
      exact ended _
    | fence valid => cases valid <;> cases resumed
    | _ => cases resumed
  | draining record =>
    cases outcome with
    | settle =>
      simp only [resume] at resumed
      split at resumed
      next settled =>
        cases resumed
        exact (quiet_end _).spec rfl (identities_settleDeferred settled)
      · cases resumed
        exact (quiet_end _).spec rfl rfl
    | cancelled =>
      cases resumed
      exact ended _
    | fence valid => cases valid <;> cases resumed
    | _ => cases resumed

/-! ## Callers, items and starts -/

def itemKey (item : Item) : String := item.record.idempotencyKey

/-- The key a caller has found free and not yet come back with. -/
def past (caller : Caller) : Option String :=
  match caller.phase with
  | .committing _ | .rereading => some caller.args.idempotencyKey
  | .reading | .putting _ => none

def putting (caller : Caller) : Option String :=
  match caller.phase with
  | .putting item => some (itemKey item)
  | .reading | .committing _ | .rereading => none

def early (x : Execution) : Option String :=
  if beforeStart x.phase then some (itemKey x.item) else none

/-- Items of a key that may still be started, and those that were. -/
def tokens (w : World) (key : String) : Nat :=
  (w.callers.filterMap putting).count key + (w.queued.map fun entry => itemKey entry.2).count key +
    (w.executing.filterMap early).count key + w.started.count key

/-- Every `created` was given once, and every start is backed by one. -/
structure Serial (w : World) : Prop where
  named : ∀ id session key, (id, session, key) ∈ identities w.shared.db.operations →
    ∀ k, id = operationIdOf w.shared.sdkSessionId k → session = w.shared.sdkSessionId ∧ key = k
  callers : ∀ c ∈ w.callers, c.args.sdkSessionId = w.shared.sdkSessionId ∧
    ∀ posting, c.phase = .committing posting → ∃ now, posting.event = beginEvent c.args now
  executing : ∀ x ∈ w.executing, Posted x.phase
  created_rows : ∀ k ∈ w.created, ∃ id,
    (id, w.shared.sdkSessionId, k) ∈ identities w.shared.db.operations
  waiting_nodup : (w.callers.filterMap past).Nodup
  waiting_fresh : ∀ k ∈ w.callers.filterMap past, k ∉ w.created
  created_nodup : w.created.Nodup
  accounted : ∀ k, tokens w k ≤ w.created.count k

/-- The call of `begin` whose first read a label is. -/
def reader (w : World) : Label → Option Caller
  | .caller index (.read _) _ => w.callers[index]?
  | _ => none

/-- No call of `begin` finds its key free while another call that found the same
key free has not come back. -/
def Alone (w : World) (label : Label) : Prop :=
  ∀ c ∈ reader w label,
    operationByKey w.shared.db.operations w.shared.sdkSessionId c.args.idempotencyKey = none →
      c.args.idempotencyKey ∉ w.callers.filterMap past

instance (w : World) (label : Label) : Decidable (Alone w label) :=
  inferInstanceAs (Decidable (∀ c ∈ reader w label,
    operationByKey w.shared.db.operations w.shared.sdkSessionId c.args.idempotencyKey = none →
      c.args.idempotencyKey ∉ w.callers.filterMap past))

theorem operationIdOf_inj {session a b : String}
    (same : operationIdOf session a = operationIdOf session b) : a = b :=
  (String.append_right_inj _).mp same

variable {w v : World}

/-- The invariant reads the rows' identities, the pools and the logs only. -/
theorem Serial.frame (serial : Serial w) (session : v.shared.sdkSessionId = w.shared.sdkSessionId)
    (rows : identities v.shared.db.operations = identities w.shared.db.operations)
    (callers : v.callers = w.callers) (queued : v.queued = w.queued)
    (executing : v.executing = w.executing) (created : v.created = w.created)
    (started : v.started = w.started) : Serial v := by
  refine ⟨?_, ?_, ?_, ?_, ?_, ?_, ?_, ?_⟩
  · rw [rows, session]
    exact serial.named
  · rw [callers, session]
    exact serial.callers
  · rw [executing]
    exact serial.executing
  · rw [rows, session, created]
    exact serial.created_rows
  · rw [callers]
    exact serial.waiting_nodup
  · rw [callers, created]
    exact serial.waiting_fresh
  · rw [created]
    exact serial.created_nodup
  · intro k
    have before := serial.accounted k
    rw [created]
    simpa only [tokens, callers, queued, executing, started] using before

variable {callers : List Caller}

theorem Serial.perm_callers (serial : Serial w) (perm : callers.Perm w.callers) :
    Serial { w with callers } := by
  have pastPerm := perm.filterMap past
  refine ⟨serial.named, fun c member => serial.callers c (perm.subset member), serial.executing,
    serial.created_rows, pastPerm.nodup_iff.mpr serial.waiting_nodup,
    fun k member => serial.waiting_fresh k (pastPerm.subset member), serial.created_nodup, ?_⟩
  intro k
  have before := serial.accounted k
  have same := (perm.filterMap putting).count_eq k
  simp only [tokens] at before ⊢
  omega

theorem Serial.shrink {queued : List (Nat × Item)} {executing : List Execution}
    (serial : Serial w) (fewerCallers : callers.Sublist w.callers)
    (fewerQueued : queued.Sublist w.queued) (fewerExecuting : executing.Sublist w.executing) :
    Serial { w with callers, queued, executing } := by
  have pastSub := fewerCallers.filterMap past
  refine ⟨serial.named, fun c member => serial.callers c (fewerCallers.subset member),
    fun x member => serial.executing x (fewerExecuting.subset member), serial.created_rows,
    serial.waiting_nodup.sublist pastSub,
    fun k member => serial.waiting_fresh k (pastSub.subset member), serial.created_nodup, ?_⟩
  intro k
  have before := serial.accounted k
  have putsLess := (fewerCallers.filterMap putting).count_le k
  have queuesLess := (fewerQueued.map fun entry => itemKey entry.2).count_le k
  have runsLess := (fewerExecuting.filterMap early).count_le k
  simp only [tokens] at before ⊢
  omega

variable {c : Caller}

theorem Serial.drop_caller {rest : List Caller} (serial : Serial { w with callers := c :: rest }) :
    Serial { w with callers := rest } :=
  serial.shrink (List.sublist_cons_self c rest) (List.Sublist.refl _) (List.Sublist.refl _)

private theorem Serial.put_back (w : World) (serial : Serial { w with callers := c :: w.callers }) :
    Serial { w with callers := w.callers ++ [c] } :=
  serial.perm_callers (List.perm_append_singleton c w.callers)

theorem reduce_begin_rows {shared : Shared} {inbox : Nat} {posting : Posting} {args : BeginArgs}
    {now : ℚ} (session : args.sdkSessionId = shared.sdkSessionId)
    (event : posting.event = beginEvent args now) :
    (shared.reduce inbox posting).2.sdkSessionId = shared.sdkSessionId ∧
      ∃ more, identities (shared.reduce inbox posting).2.db.operations =
          identities shared.db.operations ++ more ∧
        ∀ entry ∈ more, entry = (operationIdOf shared.sdkSessionId args.idempotencyKey,
          shared.sdkSessionId, args.idempotencyKey) := by
  simp only [Shared.reduce]
  split
  next db done =>
    refine ⟨rfl, ?_⟩
    rcases persist_cases done with ⟨rfl, _⟩ | ⟨_, _, rows, applied, rfl⟩
    · exact ⟨[], by simp, by simp⟩
    · rcases identities_applyDomainState applied with
        same | ⟨id, g, f, kind, key, hash, time, shape, grown⟩
      · refine ⟨[], ?_, by simp⟩
        rw [List.append_nil]
        exact same
      · refine ⟨_, grown, ?_⟩
        intro entry member
        rw [List.mem_singleton] at member
        change posting.event = _ at shape
        rw [event, beginEvent, OperationEvent.pending.injEq] at shape
        obtain ⟨rfl, _, _, _, rfl, _, _⟩ := shape
        rw [member, BeginArgs.operationId, session]
        rfl
  · exact ⟨rfl, [], by simp, by simp⟩

theorem Serial.add_rows {args : BeginArgs} {more : List (String × String × String)}
    (serial : Serial w) (session : shared.sdkSessionId = w.shared.sdkSessionId)
    (grown : identities shared.db.operations = identities w.shared.db.operations ++ more)
    (own : ∀ entry ∈ more, entry = (operationIdOf w.shared.sdkSessionId args.idempotencyKey,
      w.shared.sdkSessionId, args.idempotencyKey)) : Serial { w with shared } := by
  refine ⟨?_, ?_, ?_, ?_, serial.waiting_nodup, serial.waiting_fresh, serial.created_nodup,
    serial.accounted⟩
  · intro id s key member k isId
    simp only [grown, session] at member isId ⊢
    rcases List.mem_append.mp member with old | new
    · exact serial.named id s key old k isId
    · have entry := own _ new
      obtain ⟨rfl, rfl, rfl⟩ := entry
      exact ⟨rfl, operationIdOf_inj isId⟩
  · simpa only [session] using serial.callers
  · exact serial.executing
  · intro k member
    obtain ⟨id, inRows⟩ := serial.created_rows k member
    refine ⟨id, ?_⟩
    simp only [grown, session]
    exact List.mem_append_left _ inRows

theorem Serial.wait {w : World} {c : Caller} {posting : Posting} {now : ℚ}
    (serial : Serial { w with callers := c :: w.callers })
    (reading : past c = none) (notPutting : putting c = none)
    (event : posting.event = beginEvent c.args now)
    (absent : operationByKey w.shared.db.operations w.shared.sdkSessionId
      c.args.idempotencyKey = none)
    (alone : c.args.idempotencyKey ∉ w.callers.filterMap past) :
    Serial { w with callers := { c with phase := .committing posting } :: w.callers } := by
  have others : (c :: w.callers).filterMap past = w.callers.filterMap past :=
    List.filterMap_cons_none reading
  have waiting : ({ c with phase := .committing posting } :: w.callers).filterMap past =
      c.args.idempotencyKey :: w.callers.filterMap past := List.filterMap_cons_some rfl
  have uncreated : c.args.idempotencyKey ∉ w.created := by
    intro member
    obtain ⟨id, inRows⟩ := serial.created_rows _ member
    exact operationByKey_none.mp absent id inRows
  have nodup := serial.waiting_nodup
  have fresh := serial.waiting_fresh
  simp only [others] at nodup fresh
  refine ⟨serial.named, ?_, serial.executing, serial.created_rows, ?_, ?_, serial.created_nodup,
    ?_⟩
  · intro d member
    rcases List.mem_cons.mp member with rfl | other
    · have own := (serial.callers c (List.mem_cons_self ..)).1
      refine ⟨own, ?_⟩
      intro other isPosting
      cases isPosting
      exact ⟨now, event⟩
    · exact serial.callers d (List.mem_cons_of_mem c other)
  · simp only [waiting]
    exact List.nodup_cons.mpr ⟨alone, nodup⟩
  · simp only [waiting]
    intro k member
    rcases List.mem_cons.mp member with rfl | other
    · exact uncreated
    · exact fresh k other
  · intro k
    have before := serial.accounted k
    simp only [tokens, List.filterMap_cons_none notPutting] at before
    have none_ : putting { c with phase := .committing posting } = none := rfl
    simpa only [tokens, List.filterMap_cons_none none_] using before

theorem Serial.come_back {w : World} {c : Caller} {record : OperationRecord} {next : List Caller}
    {futures : Futures} {nextFuture : Nat}
    (serial : Serial { w with callers := c :: w.callers }) (rereading : c.phase = .rereading)
    (found : beginReread c.args w.shared.db.operations = .ok record)
    (follows :
      next = [] ∨ ∃ item, item.record = record ∧ next = [{ c with phase := .putting item }]) :
    Serial { w with
      created := c.args.idempotencyKey :: w.created
      futures, nextFuture, callers := w.callers ++ next } := by
  have isPast : past c = some c.args.idempotencyKey := by simp [past, rereading]
  have notPutting : putting c = none := by simp [putting, rereading]
  have waiting : (c :: w.callers).filterMap past =
      c.args.idempotencyKey :: w.callers.filterMap past := List.filterMap_cons_some isPast
  have session := (serial.callers c (List.mem_cons_self ..)).1
  have nodup := serial.waiting_nodup
  have fresh := serial.waiting_fresh
  simp only [waiting, List.nodup_cons] at nodup fresh
  -- The row found under the operation id is the row of the caller's key.
  obtain ⟨recordKey, id, inRows⟩ : record.idempotencyKey = c.args.idempotencyKey ∧
      ∃ id, (id, w.shared.sdkSessionId, c.args.idempotencyKey) ∈
        identities w.shared.db.operations := by
    unfold beginReread at found
    split at found
    · cases found
    next row isRow =>
      have member := operationById_identity isRow
      rw [BeginArgs.operationId, session] at member
      obtain ⟨own, key⟩ := serial.named _ _ _ member _ rfl
      unfold matchInput at found
      split at found
      · cases found
      · cases found
        exact ⟨key, _, own ▸ key ▸ member⟩
  have nextPast : next.filterMap past = [] := by
    rcases follows with rfl | ⟨item, _, rfl⟩ <;> rfl
  refine ⟨serial.named, ?_, serial.executing, ?_, ?_, ?_, ?_, ?_⟩
  · intro d member
    rcases List.mem_append.mp member with other | new
    · exact serial.callers d (List.mem_cons_of_mem c other)
    · rcases follows with rfl | ⟨item, _, rfl⟩
      · cases new
      · rw [List.mem_singleton] at new
        subst new
        exact ⟨session, fun posting isPosting => by cases isPosting⟩
  · intro k member
    rcases List.mem_cons.mp member with rfl | old
    · exact ⟨id, inRows⟩
    · exact serial.created_rows k old
  · simp only [List.filterMap_append, nextPast, List.append_nil]
    exact nodup.2
  · simp only [List.filterMap_append, nextPast, List.append_nil]
    intro k member
    have old := fresh k (List.mem_cons_of_mem _ member)
    intro recreated
    rcases List.mem_cons.mp recreated with rfl | before
    · exact nodup.1 member
    · exact old before
  · exact List.nodup_cons.mpr ⟨fresh _ (List.mem_cons_self ..), serial.created_nodup⟩
  · intro k
    have before := serial.accounted k
    have spent : (next.filterMap putting).count k ≤ [c.args.idempotencyKey].count k := by
      rcases follows with rfl | ⟨item, isRecord, rfl⟩
      · exact Nat.zero_le _
      · have puts : putting { c with phase := .putting item } = some c.args.idempotencyKey := by
          simp [putting, itemKey, isRecord, recordKey]
        rw [List.filterMap_cons_some puts, List.filterMap_nil]
    have total : (c.args.idempotencyKey :: w.created).count k =
        [c.args.idempotencyKey].count k + w.created.count k := by
      rw [← List.singleton_append, List.count_append]
    simp only [tokens, List.filterMap_cons_none notPutting] at before
    simp only [tokens, List.filterMap_append, List.count_append, total]
    omega

theorem resumeCaller_serial {action : CallerAction}
    (serial : Serial { w with callers := c :: w.callers })
    (alone : ∀ available, action = .read available →
      operationByKey w.shared.db.operations w.shared.sdkSessionId c.args.idempotencyKey = none →
      c.args.idempotencyKey ∉ w.callers.filterMap past)
    (resumed : resumeCaller w c action now = some v) : Serial v := by
  have dropped : Serial w := serial.drop_caller
  have session := (serial.callers c (List.mem_cons_self ..)).1
  obtain ⟨mailbox, inbox, args, defers, retains, phase⟩ := c
  cases phase with
  | reading =>
    cases action with
    | read available =>
      simp only [resumeCaller] at resumed
      split at resumed
      · split at resumed
        · cases resumed
          refine dropped.frame rfl ?_ rfl rfl rfl rfl rfl
          simp only [operations_setOperations, settledResult]
          split
          · exact identities_discardResult ..
          · rfl
        · cases resumed
          exact dropped
      · cases resumed
        exact dropped
      next free =>
        split at resumed
        · cases resumed
          exact dropped
        · cases resumed
          have absent : operationByKey w.shared.db.operations w.shared.sdkSessionId
              args.idempotencyKey = none := by
            rw [← session]
            simpa [beginRead] using free
          have waits :=
            @Serial.wait w _ ⟨pendingEventId args, beginEvent args now⟩ now serial rfl rfl
            rfl absent (alone available rfl absent)
          exact Serial.put_back w waits
    | abandon =>
      cases resumed
      exact dropped
    | _ => cases resumed
  | committing posting =>
    obtain ⟨time, event⟩ := (serial.callers _ (List.mem_cons_self ..)).2 posting rfl
    cases action with
    | reduce =>
      obtain ⟨kept, more, grown, own⟩ :=
        @reduce_begin_rows w.shared inbox posting args time session event
      simp only [resumeCaller] at resumed
      split at resumed
      next reduced is =>
        rw [is] at kept grown
        cases resumed
        have added := serial.add_rows kept grown own
        have moved : Serial { w with
            shared := reduced
            callers := ⟨mailbox, inbox, args, defers, retains, .rereading⟩ :: w.callers } := by
          refine ⟨added.named, ?_, added.executing, added.created_rows, added.waiting_nodup,
            added.waiting_fresh, added.created_nodup, added.accounted⟩
          intro d member
          rcases List.mem_cons.mp member with rfl | other
          · exact ⟨(added.callers _ (List.mem_cons_self ..)).1,
              fun posting isPosting => by cases isPosting⟩
          · exact added.callers d (List.mem_cons_of_mem _ other)
        exact Serial.put_back { w with shared := reduced } moved
      next failed is =>
        rw [is] at kept grown
        cases resumed
        exact dropped.add_rows kept grown own
    | commitFails =>
      simp only [resumeCaller] at resumed
      split at resumed
      · cases resumed
        exact dropped
      · cases resumed
    | abandon =>
      cases resumed
      exact dropped
    | _ => cases resumed
  | rereading =>
    cases action with
    | reread =>
      simp only [resumeCaller] at resumed
      split at resumed
      · cases resumed
        exact dropped
      next record found =>
        split at resumed
        · cases resumed
          have back := @Serial.come_back w _ record [] w.futures w.nextFuture serial rfl found
            (.inl rfl)
          simpa using back
        · cases resumed
          exact Serial.come_back serial rfl found (.inr ⟨_, rfl, rfl⟩)
    | abandon =>
      cases resumed
      exact dropped
    | _ => cases resumed
  | putting item =>
    cases action with
    | put =>
      simp only [resumeCaller] at resumed
      split at resumed
      next m =>
        split at resumed
        · cases resumed
          refine ⟨dropped.named, dropped.callers, dropped.executing, dropped.created_rows,
            dropped.waiting_nodup, dropped.waiting_fresh, dropped.created_nodup, ?_⟩
          intro k
          have before := serial.accounted k
          have puts : putting ⟨some m, inbox, args, defers, retains, .putting item⟩ =
            some (itemKey item) := rfl
          have split_ : (itemKey item :: w.callers.filterMap putting).count k =
              [itemKey item].count k + (w.callers.filterMap putting).count k := by
            rw [← List.singleton_append, List.count_append]
          simp only [tokens, List.filterMap_cons_some puts, split_] at before
          simp only [tokens, List.map_append, List.count_append, List.map_cons, List.map_nil]
          omega
        · cases resumed
      · cases resumed
    | abandon =>
      cases resumed
      exact dropped
    | _ => cases resumed

theorem Serial.join (serial : Serial w) (session : c.args.sdkSessionId = w.shared.sdkSessionId)
    (reading : c.phase = .reading) :
    Serial { w with callers := w.callers ++ [c] } := by
  have notPast : [c].filterMap past = [] := by simp [past, reading]
  have notPutting : [c].filterMap putting = [] := by simp [putting, reading]
  have waiting : (w.callers ++ [c]).filterMap past = w.callers.filterMap past := by
    rw [List.filterMap_append, notPast, List.append_nil]
  refine ⟨serial.named, ?_, serial.executing, serial.created_rows, ?_, ?_, serial.created_nodup,
    ?_⟩
  · intro d member
    rcases List.mem_append.mp member with old | new
    · exact serial.callers d old
    · rw [List.mem_singleton] at new
      subst new
      exact ⟨session, fun posting isPosting => by rw [reading] at isPosting; cases isPosting⟩
  · simp only [waiting]
    exact serial.waiting_nodup
  · simp only [waiting]
    exact serial.waiting_fresh
  · intro k
    have before := serial.accounted k
    simpa only [tokens, List.filterMap_append, notPutting, List.append_nil] using before

variable {index : Nat}

/-- An item that leaves the queue for an execution keeps its token at most. -/
theorem takeItem_serial {m : Nat} {item : Item} (serial : Serial w)
    (found : w.queued[index]? = some (m, item)) (quiet : Posted phase) :
    Serial (w.takeItem index m item phase) := by
  refine ⟨serial.named, serial.callers, ?_, serial.created_rows, serial.waiting_nodup,
    serial.waiting_fresh, serial.created_nodup, ?_⟩
  · intro x member
    rcases List.mem_append.mp member with old | new
    · exact serial.executing x old
    · rw [List.mem_singleton] at new
      subst new
      exact quiet
  · intro k
    have before := serial.accounted k
    have taken := (map_perm found fun entry => itemKey entry.2).count_eq k
    rw [← List.singleton_append, List.count_append] at taken
    dsimp only at taken
    have runs :
      ([(⟨m, (w.mailboxes m).inbox, item, phase, false⟩ : Execution)].filterMap early).count k ≤
        [itemKey item].count k := by
      cases may : beforeStart phase <;> simp [early, may]
    simp only [tokens] at before
    simp only [tokens, World.takeItem, List.filterMap_append, List.count_append]
    omega

/-- A worker's stretch keeps an item's token or turns it into one start. -/
theorem execute_serial (reraises : Bool) (serial : Serial w)
    (found : w.executing[index]? = some x) (spec : ResumeSpec w.shared x.phase r) :
    Serial { w with
      shared := r.shared
      futures := r.futures
      started := if r.called then x.item.record.idempotencyKey :: w.started else w.started
      executing := w.executing.eraseIdx index ++
        (r.phase.map fun phase => { x with phase, reraises }).toList } := by
  refine ⟨?_, ?_, ?_, ?_, serial.waiting_nodup, serial.waiting_fresh, serial.created_nodup, ?_⟩
  · simpa only [spec.session, spec.rows] using serial.named
  · simpa only [spec.session] using serial.callers
  · intro y member
    rcases List.mem_append.mp member with old | new
    · exact serial.executing y (List.mem_of_mem_eraseIdx old)
    · cases next : r.phase with
      | none => simp [next] at new
      | some p =>
        simp only [next, Option.map_some, Option.toList_some, List.mem_singleton] at new
        subst new
        exact (spec.phase p next).1
  · simpa only [spec.session, spec.rows] using serial.created_rows
  · intro k
    have before := serial.accounted k
    have taken := (filterMap_perm found early).count_eq k
    rw [List.count_append] at taken
    have spent : ((r.phase.map fun phase => { x with phase, reraises }).toList.filterMap
        early).count k + (if r.called then [itemKey x.item] else []).count k ≤
          (early x).toList.count k := by
      cases called : r.called with
      | true =>
        obtain ⟨may, last⟩ := spec.called called
        have here : early x = some (itemKey x.item) := by simp [early, may]
        cases next : r.phase with
        | none => simp [here]
        | some p =>
          rw [here]
          simp [early, last p next]
      | false =>
        cases next : r.phase with
        | none => simp
        | some p =>
          have may := (spec.phase p next).2
          cases still : beforeStart p with
          | false => simp [early, still]
          | true => simp [early, still, may still]
    have starts : (if r.called then x.item.record.idempotencyKey :: w.started
        else w.started).count k =
        (if r.called then [itemKey x.item] else []).count k + w.started.count k := by
      cases r.called
      · simp
      · simp only [if_true]
        rw [← List.singleton_append, List.count_append]
        rfl
    simp only [tokens] at before
    simp only [tokens, List.filterMap_append, List.count_append, starts]
    omega

theorem step_serial (w : World) (label : Label) (v : World) (serial : Serial w)
    (alone : Alone w label) (taken : step w label = some v) : Serial v := by
  cases label with
  | start m =>
    simp only [step] at taken
    split at taken
    · cases taken
    · cases taken
      exact serial.frame rfl rfl rfl rfl rfl rfl rfl
  | freeze m =>
    cases taken
    exact serial.frame rfl rfl rfl rfl rfl rfl rfl
  | thaw m | workerEnds m | sweep m =>
    simp only [step] at taken
    split at taken
    · cases taken
      exact serial.frame rfl rfl rfl rfl rfl rfl rfl
    · cases taken
  | submit m kind key inputHash allowWhenFrozen defers retains =>
    simp only [step] at taken
    split at taken
    · cases taken
      exact serial.join rfl rfl
    · cases taken
  | begin inbox kind key inputHash =>
    cases taken
    exact serial.join rfl rfl
  | caller index action now =>
    obtain ⟨c, found, resumed⟩ := Option.bind_eq_some_iff.mp taken
    have perm := perm_of_getElem? found
    refine resumeCaller_serial (w := { w with callers := w.callers.eraseIdx index })
      (serial.perm_callers perm) ?_ resumed
    intro available isRead absent member
    subst isRead
    have free := alone c found absent
    exact free ((perm.filterMap past).subset
      (((List.sublist_cons_self c _).filterMap past).subset member))
  | take index | deferItem index =>
    obtain ⟨⟨m, item⟩, found, rest⟩ := Option.bind_eq_some_iff.mp taken
    simp only at rest
    split at rest
    · cases rest
      exact takeItem_serial serial found trivial
    · cases rest
  | execute index outcome now =>
    obtain ⟨x, found, rest⟩ := Option.bind_eq_some_iff.mp taken
    obtain ⟨r, resumed, rest⟩ := Option.bind_eq_some_iff.mp rest
    cases rest
    have posted := serial.executing x (mem_of_getElem? found)
    have next := execute_serial (x.reraises || r.reraises) serial found
      (resume_spec posted resumed)
    split
    · exact next.frame rfl rfl rfl rfl rfl rfl rfl
    · exact next
  | stopItem index =>
    obtain ⟨entry, found, rest⟩ := Option.bind_eq_some_iff.mp taken
    cases rest
    have fewer := serial.shrink (List.Sublist.refl _) (List.eraseIdx_sublist w.queued index)
      (List.Sublist.refl _)
    exact fewer.frame rfl rfl rfl rfl rfl rfl rfl
  | markUnsettledUnknown m errorCode now =>
    simp only [step] at taken
    split at taken
    · cases taken
      exact serial
    · cases taken
      refine serial.frame ?_ ?_ rfl rfl rfl rfl rfl
      · exact (reduce_identities (by intros; simp)).1
      · exact (reduce_identities (by intros; simp)).2
  | acquire store ownerId now =>
    simp only [step] at taken
    split at taken
    next lease db returned =>
      cases taken
      refine serial.frame rfl ?_ rfl rfl rfl rfl rfl
      change identities db.tables.operations = identities w.shared.db.tables.operations
      obtain ⟨_, _, _, _, how⟩ := acquire_cases returned
      rcases how with ⟨_, _, tables⟩ | ⟨_, _, ⟨_, _, _, tables⟩ | ⟨_, _, tables⟩⟩
      · rw [tables]
      · rw [tables]
      · rw [tables]
        exact identities_orphanPreviousOwners ..
    · cases taken
      exact serial
  | bind bindings =>
    cases taken
    exact serial.frame rfl rfl rfl rfl rfl rfl rfl
  | reducerFails inbox =>
    cases taken
    exact serial.frame rfl rfl rfl rfl rfl rfl rfl
  | crash m =>
    cases taken
    have fewer := serial.shrink
      (List.filter_sublist (l := w.callers) (p := fun caller => caller.mailbox ≠ some m))
      (List.filter_sublist (l := w.queued) (p := fun entry => entry.1 ≠ m))
      (List.filter_sublist (l := w.executing) (p := fun x => x.mailbox ≠ m))
    exact fewer.frame rfl rfl rfl rfl rfl rfl rfl

/-- The mailboxes have been built and nothing has been submitted; every stored
operation of the session carries the id of its own key. -/
structure Idle (w : World) : Prop where
  callers : w.callers = []
  queued : w.queued = []
  executing : w.executing = []
  created : w.created = []
  started : w.started = []
  named : ∀ id session key, (id, session, key) ∈ identities w.shared.db.operations →
    ∀ k, id = operationIdOf w.shared.sdkSessionId k → session = w.shared.sdkSessionId ∧ key = k

theorem Idle.serial (idle : Idle w) : Serial w := by
  refine ⟨idle.named, ?_, ?_, ?_, ?_, ?_, ?_, ?_⟩
  · simp [idle.callers]
  · simp [idle.executing]
  · simp [idle.created]
  · simp [idle.callers]
  · simp [idle.callers]
  · simp [idle.created]
  · simp [tokens, idle.callers, idle.queued, idle.executing, idle.started]

/-- In every run in which no two calls of `begin` for one key overlap after finding
the key free, `created` is reported once per key and the callables submitted under
a key are started once, across all mailboxes, inboxes, takeovers and crashes. -/
theorem dispatch_at_most_once (w : World) (labels : List Label) (v : World) (idle : Idle w)
    (along : Along step Alone w labels) (reached : run step w labels = some v) (key : String) :
    v.created.count key ≤ 1 ∧ v.started.count key ≤ 1 := by
  have serial := run_inv_along step_serial along idle.serial reached
  have once := List.nodup_iff_count_le_one.mp serial.created_nodup key
  have backed := serial.accounted key
  simp only [tokens] at backed
  exact ⟨once, by omega⟩

def twoMailboxes : World :=
  { shared :=
      { sdkSessionId := "session", inboxes := fun _ => { generation := 1, fenceToken := 1 } }
    mailboxes := fun _ => { inbox := 0, runtimeGeneration := 1, ownerFenceToken := 1 } }

/-- Both submissions read before either commits. -/
def overlapping : List Label :=
  [.start 0, .start 1,
    .submit 0 "send" "key" "hash" false false false,
    .submit 1 "send" "key" "hash" false false false,
    .caller 0 (.read true) 1, .caller 0 (.read true) 1,
    .caller 0 .reduce 2, .caller 0 .reduce 2,
    .caller 0 .reread 3, .caller 0 .reread 3, .caller 0 .put 3, .caller 0 .put 3,
    .take 0, .take 0,
    .execute 0 (.fence true) 4, .execute 0 (.fence true) 4,
    .execute 0 .reduce 5, .execute 0 .reduce 5,
    .execute 0 .read 6, .execute 0 .read 6,
    .execute 0 (.fence true) 7, .execute 0 (.fence true) 7]

/-- The overlap reports `created` twice and starts the operation twice. -/
theorem overlapping_begins_dispatch_twice :
    ∃ v, run step twoMailboxes overlapping = some v ∧
      v.created.count "key" = 2 ∧ v.started.count "key" = 2 := by
  have counts : (run step twoMailboxes overlapping).map
      (fun v => (v.created.count "key", v.started.count "key")) = some (2, 2) := by
    decide +kernel
  obtain ⟨v, reached, both⟩ := Option.map_eq_some_iff.mp counts
  simp only [Prod.mk.injEq] at both
  exact ⟨v, reached, both.1, both.2⟩

/-- One submission is dispatched, then the other mailbox submits under its key. -/
def sequential : List Label :=
  [.start 0, .start 1,
    .submit 0 "send" "key" "hash" false false false,
    .caller 0 (.read true) 1, .caller 0 .reduce 2, .caller 0 .reread 3, .caller 0 .put 3,
    .take 0, .execute 0 (.fence true) 4, .execute 0 .reduce 5, .execute 0 .read 6,
    .execute 0 (.fence true) 7,
    .submit 1 "send" "key" "hash" false false false, .caller 0 (.read true) 8]

theorem dispatch_at_most_once_sequential :
    ∃ v, run step twoMailboxes sequential = some v ∧ v.started = ["key"] ∧
      v.created.count "key" ≤ 1 ∧ v.started.count "key" ≤ 1 := by
  have starts : (run step twoMailboxes sequential).map (·.started) = some ["key"] := by
    decide +kernel
  obtain ⟨v, reached, started⟩ := Option.map_eq_some_iff.mp starts
  have idle : Idle twoMailboxes := ⟨rfl, rfl, rfl, rfl, rfl, fun _ _ _ member => by cases member⟩
  have along : Along step Alone twoMailboxes sequential := by decide +kernel
  exact ⟨v, reached, started,
    dispatch_at_most_once twoMailboxes sequential v idle along reached "key"⟩

end Copilotd.Guarantees.MailboxDispatch
