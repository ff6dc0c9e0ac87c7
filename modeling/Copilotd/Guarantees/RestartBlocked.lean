import Copilotd.Source.Ops.RestartSnapshot

/-!
# Work in flight blocks a restart

Every handler that leaves a submission submitted or running gives it a lease or leaves the one it
has, and a submission that is being sent has its queue row.  One handler takes a lease without a
look at the submission: `copilotd.submission.cancel_queued` releases the leases of all the
submissions it lists, also of one that was claimed between the query for the list and the event.
-/
namespace Copilotd.Guarantees.RestartBlocked

open Base Source.Core.Submissions Source.Core.SubmissionLeases Source.Core
open Source.Core.QueueRuntime (cancellableStates)
open Source.Ops.RestartSnapshot
open Source.Storage (SubmissionState LivenessState)

variable {uuid5 : String → String} {attachment : Attachment}

/-! ## The leases of a submission -/

/-- An active lease of the submission, of the attachment's generation and fence. -/
def Attachment.holds (attachment : Attachment) (submissionId : String) (lease : LivenessLease) :
    Prop :=
  lease.sdkSessionId = attachment.sdkSessionId ∧ lease.kind = .submission ∧
    lease.sourceId = submissionId ∧ lease.state = .active ∧ attachment.current lease = true

def Held (attachment : Attachment) (leases : List LivenessLease) (submissionId : String) : Prop :=
  ∃ lease ∈ leases, Attachment.holds attachment submissionId lease

/-- Every lease has the name its statement gives it. -/
def Named (leases : List LivenessLease) : Prop :=
  ∀ lease ∈ leases, lease.leaseId = leaseName lease.kind lease.sourceId

variable {kind : LivenessKind} {sourceId : String}

theorem leaseName_inj {other : LivenessKind} {also : String}
    (same : leaseName kind sourceId = leaseName other also) : kind = other ∧ sourceId = also := by
  have chars := congrArg String.toList same
  cases kind <;> cases other <;> simp [leaseName] at chars
  all_goals exact ⟨rfl, String.toList_injective chars⟩

theorem checked_eq {leases after : List LivenessLease} (done : checked leases = .ok after) :
    after = leases := by
  unfold checked at done
  split at done
  · cases done
    rfl
  · cases done

variable {submissionId runtimeId : String}

section Statements

variable {leases after : List LivenessLease} {id : String}

variable {set : LivenessLease → LivenessLease}

theorem Held.update {hit : LivenessLease → Bool} (held : Held attachment leases id)
    (kept : ∀ lease ∈ leases, Attachment.holds attachment id lease → hit lease = true →
      Attachment.holds attachment id (set lease)) :
    Held attachment (Table.updateWhere hit set leases) id := by
  obtain ⟨lease, member, holds⟩ := held
  refine ⟨_, Table.mem_updateWhere.mpr ⟨lease, member, rfl⟩, ?_⟩
  split
  next touched => exact kept lease member holds touched
  · exact holds

theorem named_update {hit : LivenessLease → Bool}
    (named : Named leases) (sets : ∀ lease, lease.leaseId = leaseName lease.kind lease.sourceId →
      hit lease = true → (set lease).leaseId = leaseName (set lease).kind (set lease).sourceId) :
    Named (Table.updateWhere hit set leases) := by
  refine Table.forall_updateWhere ?_
  intro lease member
  split
  next touched => exact sets lease (named lease member) touched
  · exact named lease member

theorem named_append {lease : LivenessLease} (named : Named leases)
    (own : lease.leaseId = leaseName lease.kind lease.sourceId) : Named (leases ++ [lease]) := by
  exact Pool.forall_push named own

theorem lease_holds (submissionId : String) :
    Attachment.holds attachment submissionId (attachment.lease .submission submissionId) := by
  simp [Attachment.holds, Attachment.lease, Attachment.current]

theorem held_acquireNew (held : Held attachment leases id) (submissionId : String) :
    Held attachment (acquireNew attachment submissionId leases) id := by
  unfold acquireNew
  split
  · obtain ⟨lease, member, holds⟩ := held
    exact ⟨lease, List.mem_append_left _ member, holds⟩
  · exact held

theorem named_acquireNew (named : Named leases) (submissionId : String) :
    Named (acquireNew attachment submissionId leases) := by
  unfold acquireNew
  split
  · exact named_append named rfl
  · exact named

theorem held_release {listed : String → Bool} (held : Held attachment leases id)
    (other : listed id = false) : Held attachment (release attachment listed leases) id := by
  refine held.update ?_
  intro lease _ holds touched
  simp [holds.2.2.1, other] at touched

theorem held_releaseSubmissionLiveness {listed : String → Bool}
    (held : Held attachment leases id) (other : listed id = false) :
    Held attachment (releaseSubmissionLiveness attachment listed leases) id := by
  refine held.update ?_
  intro lease _ holds touched
  simp [holds.2.2.1, other] at touched

theorem held_releaseNamed (named : Named leases)
    (held : Held attachment leases id) (other : kind ≠ .submission) :
    Held attachment (releaseNamed attachment (leaseName kind sourceId) leases) id := by
  refine held.update ?_
  intro lease member holds touched
  have name : lease.leaseId = leaseName kind sourceId := by
    simp [Attachment.conflicts] at touched
    exact touched.1.2
  rw [named lease member, holds.2.1] at name
  exact absurd (leaseName_inj name).1.symm other

theorem held_upsert (held : Held attachment leases id)
    (done : upsert attachment kind sourceId set leases = .ok after)
    (kept : ∀ lease ∈ leases, Attachment.holds attachment id lease →
      attachment.conflicts (leaseName kind sourceId) lease = true →
      Attachment.holds attachment id (set lease)) : Held attachment after id := by
  unfold upsert at done
  split at done
  · rw [checked_eq done]
    exact held.update kept
  · rw [checked_eq done]
    obtain ⟨lease, member, holds⟩ := held
    exact ⟨lease, List.mem_append_left _ member, holds⟩

theorem named_upsert (named : Named leases)
    (done : upsert attachment kind sourceId set leases = .ok after)
    (sets : ∀ lease, lease.leaseId = leaseName lease.kind lease.sourceId →
      attachment.conflicts (leaseName kind sourceId) lease = true →
      (set lease).leaseId = leaseName (set lease).kind (set lease).sourceId) : Named after := by
  unfold upsert at done
  split at done
  · rw [checked_eq done]
    exact named_update named sets
  · rw [checked_eq done]
    exact named_append named rfl

theorem revive_holds {lease : LivenessLease}
    (session : lease.sdkSessionId = attachment.sdkSessionId)
    (kind : lease.kind = .submission) (source : lease.sourceId = id) :
    Attachment.holds attachment id (revive attachment lease) := by
  simp [Attachment.holds, revive, Attachment.current, session, kind, source]

theorem held_activate (held : Held attachment leases id)
    (done : activate attachment kind sourceId leases = .ok after) : Held attachment after id := by
  refine held_upsert held done ?_
  intro lease _ holds _
  exact revive_holds holds.1 holds.2.1 holds.2.2.1

theorem named_activate (named : Named leases)
    (done : activate attachment kind sourceId leases = .ok after) : Named after :=
  named_upsert named done fun _ own _ => own

theorem activate_holds (named : Named leases)
    (done : activate attachment .submission submissionId leases = .ok after) :
    Held attachment after submissionId := by
  unfold activate upsert at done
  split at done
  next present =>
    obtain ⟨lease, member, found⟩ := List.any_eq_true.mp present
    have key := of_decide_eq_true found
    have name := key.2
    rw [named lease member] at name
    obtain ⟨kind, source⟩ := leaseName_inj name
    rw [checked_eq done]
    refine ⟨_, Table.mem_updateWhere.mpr ⟨lease, member, rfl⟩, ?_⟩
    rw [if_pos found]
    exact revive_holds key.1 kind source
  · rw [checked_eq done]
    exact ⟨_, List.mem_concat_self, lease_holds submissionId⟩

theorem held_backgroundObserved {cardKey : String} (named : Named leases)
    (held : Held attachment leases id)
    (done : upsert attachment .observedBackground cardKey (observeBackground attachment cardKey)
      leases = .ok after) : Held attachment after id := by
  refine held_upsert held done ?_
  intro lease member holds found
  have name := (of_decide_eq_true found).2
  rw [named lease member, holds.2.1] at name
  cases (leaseName_inj name).1

theorem held_moveLease (held : Held attachment leases id)
    (done : moveLease attachment submissionId runtimeId leases = .ok after)
    (other : id ≠ submissionId) : Held attachment after id := by
  rw [checked_eq done]
  refine held.update ?_
  intro lease _ holds touched
  simp [holds.2.2.1, other] at touched

theorem moveLease_holds (held : Held attachment leases submissionId)
    (done : moveLease attachment submissionId runtimeId leases = .ok after) :
    Held attachment after runtimeId := by
  rw [checked_eq done]
  obtain ⟨lease, member, session, kind, source, active, current⟩ := held
  refine ⟨_, Table.mem_updateWhere.mpr ⟨lease, member, rfl⟩, ?_⟩
  rw [if_pos (by simp [session, kind, source])]
  exact ⟨session, kind, rfl, active, current⟩

theorem named_moveLease (named : Named leases)
    (done : moveLease attachment submissionId runtimeId leases = .ok after) : Named after := by
  rw [checked_eq done]
  refine named_update named ?_
  intro lease _ touched
  simp only [decide_eq_true_eq] at touched
  rw [touched.2.1]

end Statements

/-! ## Which submissions need a lease -/

def leasedStates : List SubmissionState :=
  [.submitted, .observedActive, .loopIdle, .continuationExpected]

/-- Every submission of the session that is with the runtime has a lease. -/
def Running (attachment : Attachment) (leases : List LivenessLease) (db : Db) : Prop :=
  ∀ id row, db.submission id = some row → row.sdkSessionId = attachment.sdkSessionId →
    row.state ∈ leasedStates → Held attachment leases id

section Rows

variable {db after : Db} {id : String} {kept : Submission}

theorem leased_update {hit : Submission → Bool} {set : Submission → Submission}
    (same : ∀ row, (set row).submissionId = row.submissionId)
    (settles : ∀ row, hit row = true → (set row).state ∉ leasedStates)
    (left : (db.updateSubmissions hit set).submission id = some kept)
    (leased : kept.state ∈ leasedStates) : db.submission id = some kept ∧ hit kept = false := by
  rw [submission_updateSubmissions _ _ same] at left
  obtain ⟨row, found, rfl⟩ := Option.map_eq_some_iff.mp left
  cases touched : hit row with
  | true =>
    rw [touched] at leased
    exact absurd leased (settles row touched)
  | false => simpa [touched] using found

theorem leased_insert {row : Submission} (settled : row.state ∉ leasedStates)
    (left : (db.insertSubmission row).submission id = some kept)
    (leased : kept.state ∈ leasedStates) : db.submission id = some kept := by
  rw [submission_insertSubmission] at left
  rcases Option.or_eq_some_iff.mp left with old | ⟨_, new⟩
  · exact old
  · split at new
    · cases new
      exact absurd leased settled
    · cases new

variable {leases next : List LivenessLease}

theorem running_queued {data : QueuedData} (running : Running attachment leases db) :
    Running attachment
      (if data.admitted then acquireNew attachment data.submissionId leases else leases)
      (queued attachment.sdkSessionId data db) := by
  intro id kept left session leased
  unfold queued at left
  split at left
  next refused =>
    rw [if_neg (by simpa using refused)]
    exact running id kept left session leased
  next taken =>
    rw [if_pos (by simpa using taken)]
    rw [submission_insertItem] at left
    have before := leased_insert (by simp [leasedStates]) left leased
    exact held_acquireNew (running id kept before session leased) _

variable {receivedAt : ℚ}

theorem running_submitting {data : SubmittingData} (running : Running attachment leases db)
    (done : submitting attachment.sdkSessionId data receivedAt db = .ok after) :
    Running attachment leases after := by
  intro id kept left session leased
  unfold submitting at done
  dsimp only at done
  split at done
  · cases done
    exact running id kept left session leased
  · split at done
    · cases done
      exact running id kept left session leased
    · split at done
      · cases done
      · cases done
        have before := leased_update (by intro row; rfl) (by simp [leasedStates]) left leased
        exact running id kept before.1 session leased

/-- The list names no submission of the session that is with the runtime. -/
def Idle (attachment : Attachment) (db : Db) (submissionIds : List String) : Prop :=
  ∀ id ∈ submissionIds, ∀ row ∈ db.submissionOf attachment.sdkSessionId id,
    row.state ∉ leasedStates

theorem running_cancelQueued {submissionIds : List String} {cancellable : List QueueState}
    (running : Running attachment leases db) (idle : Idle attachment db submissionIds) :
    Running attachment
      (if submissionIds = [] ∨ cancellable = [] then leases
        else release attachment (· ∈ submissionIds) leases)
      (cancelQueued submissionIds cancellable db) := by
  intro id kept left session leased
  unfold cancelQueued at left
  split at left
  next nothing =>
    rw [if_pos nothing]
    exact running id kept left session leased
  next something =>
    rw [if_neg something]
    have before := (leased_update (by intro row; rfl) (by simp [leasedStates]) left leased).1
    have unlisted : id ∉ submissionIds := by
      intro listed
      exact idle id listed kept (submissionOf_eq_some.mpr ⟨before, session⟩) leased
    exact held_release (running id kept before session leased) (by simpa using unlisted)

theorem running_preSendDeferred (running : Running attachment leases db) :
    Running attachment leases (preSendDeferred submissionId db) := by
  intro id kept left session leased
  unfold preSendDeferred at left
  dsimp only at left
  split at left
  · exact running id kept left session leased
  · rw [submission_updateQueue] at left
    have before := leased_update (by intro row; rfl) (by simp [leasedStates]) left leased
    exact running id kept before.1 session leased

theorem running_queueReplaced {data : ReplacedData} (running : Running attachment leases db)
    (done : queueReplaced data db = .ok after) :
    Running attachment
      (if replaces data db then
        acquireNew attachment data.newId (release attachment (· = data.oldId) leases)
      else leases) after := by
  intro id kept left session leased
  unfold queueReplaced at done
  split at done
  next nothing =>
    cases done
    have idle : replaces data db = false := by
      cases db.item data.oldId <;> simp [replaces, nothing]
    rw [idle]
    exact running id kept left session leased
  · split at done
    next item row also found =>
      cases done
      obtain ⟨present, allowed⟩ := Option.filter_eq_some_iff.mp also
      have acts : replaces data db = true := by
        simpa [replaces, present, found] using allowed
      rw [if_pos acts]
      rw [replaceItem, submission_insertItem] at left
      have retired := leased_insert (by simp [leasedStates]) left leased
      have before := leased_update (by intro row; rfl) (by simp [leasedStates]) retired leased
      have other : id ≠ data.oldId := by
        rw [← submission_key before.1]
        simpa using before.2
      exact held_acquireNew
        (held_release (running id kept before.1 session leased) (by simpa using other)) _
    next missing =>
      split at done
      · cases done
        have idle : replaces data db = false := by
          cases present : db.item data.oldId with
          | none => simp [replaces, present]
          | some item =>
            cases found : db.submission data.oldId with
            | none => simp [replaces, found]
            | some row =>
              by_cases allowed : item.state ∈ data.allowed
              · exact absurd found (missing item row (by simp [present, allowed]))
              · simp [replaces, present, allowed]
        rw [idle]
        exact running id kept left session leased
      · cases done

theorem running_activeUnknown :
    Running attachment leases (activeUnknown attachment.sdkSessionId db) := by
  intro id kept left session leased
  have before := leased_update (by intro row; rfl) (by simp [leasedStates]) left leased
  have active : kept.state ∈ activeStates := by
    cases state : kept.state <;> simp [state, leasedStates, activeStates] at leased ⊢
  simp [session, active] at before

/-! Outcomes of a send -/

theorem held_split {appState : SubmissionState}
    {row : Submission} (running : Running attachment leases db)
    (found : db.submission submissionId = some row)
    (own : row.sdkSessionId = attachment.sdkSessionId)
    (moved : moveLease attachment submissionId runtimeId leases = .ok next)
    (left : (moveObservation runtimeId appState receivedAt row db).submission id = some kept)
    (session : kept.sdkSessionId = attachment.sdkSessionId)
    (leased : kept.state ∈ leasedStates) (other : id ≠ submissionId) :
    Held attachment next id := by
  rw [submission_clear id found, if_neg other] at left
  rcases Option.or_eq_some_iff.mp left with old | ⟨_, copy⟩
  · exact held_moveLease (running id kept old session leased) moved other
  · split at copy
    next runtime =>
      cases copy
      subst runtime
      exact moveLease_holds (running submissionId row found own leased) moved
    · cases copy

theorem running_recordAccepted {messageId : String} (named : Named leases)
    (others : ∀ id row, db.submission id = some row →
      row.sdkSessionId = attachment.sdkSessionId → row.state ∈ leasedStates →
      id = submissionId ∧ row.state = .submitted ∨ Held attachment leases id)
    (done : (if ((recordAccepted submissionId messageId receivedAt db).submission
        submissionId).any (·.state = .submitted) then
      activate attachment .submission submissionId leases else .ok leases) = .ok next) :
    Running attachment next (recordAccepted submissionId messageId receivedAt db) := by
  intro id kept left session leased
  by_cases submitted : id = submissionId ∧ kept.state = .submitted
  · obtain ⟨rfl, state⟩ := submitted
    rw [if_pos (by simp [left, state])] at done
    exact activate_holds named done
  · have passes : Held attachment leases id → Held attachment next id := by
      intro held
      split at done
      · exact held_activate held done
      · cases done
        exact held
    rw [submission_recordAccepted] at left
    obtain ⟨row, found, rfl⟩ := Option.map_eq_some_iff.mp left
    refine passes ?_
    split at leased
    next target =>
      rw [if_pos target] at submitted session
      have state : (recordAcceptance messageId receivedAt row).state = row.state := by
        unfold recordAcceptance at submitted ⊢
        dsimp only at submitted ⊢
        split at submitted
        · exact absurd ⟨target.1, rfl⟩ submitted
        next other => rw [if_neg other]
      rw [state] at leased submitted
      rcases others id row found session leased with same | held
      · exact absurd same submitted
      · exact held
    next other =>
      rw [if_neg other] at submitted session
      rcases others id row found session leased with same | held
      · exact absurd same submitted
      · exact held

theorem running_accepted {exactMapping : Bool} {messageId : String}
    (named : Named leases) (running : Running attachment leases db)
    (done : accepted uuid5 exactMapping attachment.sdkSessionId submissionId messageId receivedAt
      db = .ok after)
    (settled : acceptedLeases uuid5 attachment exactMapping submissionId messageId db after leases =
      .ok next) : Running attachment next after := by
  unfold accepted at done
  unfold acceptedLeases at settled
  cases found : db.submissionOf attachment.sdkSessionId submissionId with
  | none =>
    rw [found] at done settled
    cases done
    cases settled
    exact running
  | some row =>
    simp only [found] at done settled
    obtain ⟨looked, own⟩ := submissionOf_eq_some.mp found
    by_cases refused : row.state = .rejected
    · rw [if_pos refused] at done settled
      cases done
      cases settled
      exact running
    · rw [if_neg refused] at done settled
      obtain ⟨mid, splits, rest⟩ := bind_ok done
      obtain ⟨moved, moves, last⟩ := bind_ok settled
      by_cases provisional : row.acceptedMessageId = none ∧
          row.observedUserEventId.any (· ≠ messageId) ∧ exactMapping
      · rw [if_pos provisional] at splits moves
        rw [provisional.1] at rest last
        cases rest
        obtain ⟨userEventId, observed, _⟩ := (Option.any_eq_true _ _).mp provisional.2.1
        rw [splitLeases, found, Option.bind_some, observed] at moves
        rw [splitObservedSubmission, found] at splits
        simp only [observed] at splits
        split at splits
        · cases splits
        · cases splits
          refine running_recordAccepted (named_moveLease named moves) ?_ last
          intro id kept left session leased
          by_cases target : id = submissionId
          · rw [target, submission_clear submissionId looked, if_pos rfl] at left
            cases left
            exact .inl ⟨target, rfl⟩
          · exact .inr (held_split running looked own moves left session leased target)
      · rw [if_neg provisional] at splits moves
        cases splits
        cases moves
        by_cases conflict : row.acceptedMessageId.any (· ≠ messageId) = true
        · rw [if_pos conflict] at rest last
          cases rest
          cases last
          exact running
        · rw [if_neg conflict] at rest last
          cases rest
          refine running_recordAccepted named ?_ last
          intro id kept left session leased
          exact .inr (running id kept left session leased)

theorem running_acceptanceUnknown (running : Running attachment leases db) :
    Running attachment
      (if ((acceptanceUnknown submissionId receivedAt db).submission submissionId).any
          (·.evidenced) then leases
        else release attachment (· = submissionId) leases)
      (acceptanceUnknown submissionId receivedAt db) := by
  intro id kept left session leased
  have before := leased_update (by intro row; rfl) (by simp [leasedStates]) left leased
  have held := running id kept before.1 session leased
  split
  · exact held
  next unevidenced =>
    refine held_release held ?_
    rw [decide_eq_false_iff_not]
    intro target
    subst target
    have evidence : kept.evidenced = false := by simpa [left] using unevidenced
    have settled : kept.state ≠ .rejected := by
      intro state
      simp [state, leasedStates] at leased
    simp [submission_key before.1, settled, evidence] at before

theorem running_rejected (running : Running attachment leases db)
    (done : rejected uuid5 attachment.sdkSessionId submissionId receivedAt db = .ok after)
    (settled : rejectedLeases uuid5 attachment submissionId db leases = .ok next) :
    Running attachment next after := by
  unfold rejected at done
  unfold rejectedLeases at settled
  cases found : db.submissionOf attachment.sdkSessionId submissionId with
  | none =>
    rw [found] at done settled
    cases done
    cases settled
    exact running
  | some row =>
    simp only [found] at done settled
    obtain ⟨looked, own⟩ := submissionOf_eq_some.mp found
    by_cases refused : row.state = .rejected
    · rw [if_pos refused] at done
      rw [if_pos (.inl refused)] at settled
      cases done
      cases settled
      exact running
    · rw [if_neg refused] at done
      by_cases sent : row.acceptedMessageId.isSome = true
      · rw [if_pos sent] at done
        rw [if_pos (.inr sent)] at settled
        cases done
        cases settled
        exact running
      · rw [if_neg sent] at done
        rw [if_neg (by simp [refused, sent])] at settled
        obtain ⟨mid, splits, rest⟩ := bind_ok done
        obtain ⟨moved, moves, last⟩ := bind_ok settled
        cases rest
        cases last
        intro id kept left session leased
        rw [submission_moveItem] at left
        cases observed : row.observedUserEventId with
        | none =>
          rw [splitLeases, found, Option.bind_some, observed] at moves
          rw [observed] at splits
          cases splits
          cases moves
          have before := leased_update (by intro row; rfl) (by simp [leasedStates]) left leased
          have other : id ≠ submissionId := by
            rw [← submission_key before.1]
            simpa using before.2
          exact held_release (running id kept before.1 session leased) (by simpa using other)
        | some userEventId =>
          rw [splitLeases, found, Option.bind_some, observed] at moves
          rw [observed, Option.isSome_some, if_pos rfl, splitObservedSubmission, found] at splits
          simp only [observed] at splits
          split at splits
          · cases splits
          · cases splits
            have other : id ≠ submissionId := by
              intro target
              rw [target, submission_clear submissionId looked, if_pos rfl] at left
              cases left
              simp [clearObservation, leasedStates] at leased
            exact held_release (held_split running looked own moves left session leased other)
              (by simpa using other)

/-! User messages and the end of a loop -/

theorem running_userMessage {exactMapping : Bool} {eventId : String} {message : UserMessage}
    (named : Named leases) (running : Running attachment leases db)
    (done : activate attachment .submission (messageTarget uuid5 exactMapping
      attachment.sdkSessionId eventId message receivedAt db) leases = .ok next) :
    Running attachment next (applyUserMessage uuid5 exactMapping attachment.sdkSessionId eventId
      message receivedAt db) := by
  intro id kept left session leased
  rcases message_row left with before | target
  · exact held_activate (running id kept before session leased) done
  · rw [target]
    exact activate_holds named done

theorem running_sessionIdle {aborted : Bool} (running : Running attachment leases db) :
    Running attachment (idleLeases attachment aborted receivedAt db leases)
      (applySessionIdle attachment.sdkSessionId aborted receivedAt db) := by
  intro id kept left session leased
  have view : (applySessionIdle attachment.sdkSessionId aborted receivedAt db).view id = _ :=
    view_applySessionIdle id attachment.sdkSessionId aborted receivedAt rfl rfl
  rw [Db.view, View.mk.injEq, left] at view
  obtain ⟨idled, settled, stays⟩ := Option.map_eq_some_iff.mp view.1.symm
  cases orphan : ((settleLoops attachment.sdkSessionId aborted receivedAt db).submission id).any
      (uncorrelated attachment.sdkSessionId receivedAt
        (settleLoops attachment.sdkSessionId aborted receivedAt db)) with
  | true =>
    rw [orphan, if_pos rfl] at stays
    rw [← stays] at leased
    simp [orphanRow, leasedStates] at leased
  | false =>
    rw [orphan, if_neg Bool.false_ne_true] at stays
    subst stays
    rw [submission_settleLoops] at settled
    obtain ⟨row, found, ends⟩ := Option.map_eq_some_iff.mp settled
    have lasts : endsLoop attachment aborted db id = false ∧ Held attachment leases id := by
      by_cases candidate : row.sdkSessionId = attachment.sdkSessionId ∧
          row.state ∈ [.observedActive, .continuationExpected]
      · rw [if_pos candidate] at ends
        have was : row.state ∈ leasedStates := by
          rcases List.mem_pair.mp candidate.2 with state | state <;> simp [state, leasedStates]
        have goes : idleState aborted row ∉ [.observedAborted, .semanticBlocked] := by
          rw [← ends] at leased
          intro terminal
          simp only [idleRow] at leased
          rcases List.mem_pair.mp terminal with state | state <;>
            simp [state, leasedStates] at leased
        refine ⟨?_, running id row found candidate.1 was⟩
        rw [endsLoop, submissionOf_eq_some.mpr ⟨found, candidate.1⟩, Option.any_some,
          decide_eq_false_iff_not]
        exact fun both => goes both.2
      · rw [if_neg candidate] at ends
        subst ends
        refine ⟨?_, running id row found session leased⟩
        rw [endsLoop, submissionOf_eq_some.mpr ⟨found, session⟩, Option.any_some,
          decide_eq_false_iff_not]
        exact fun both => candidate ⟨session, both.1⟩
    unfold idleLeases
    refine held_releaseSubmissionLiveness ?_ orphan
    exact held_releaseSubmissionLiveness lasts.2 lasts.1

theorem running_taskComplete {outcome : Option TaskOutcome} {objectiveId : Option String}
    (keyed : Keyed db) (running : Running attachment leases db)
    (grown : Grown db (applyTaskComplete attachment.sdkSessionId outcome objectiveId db)) :
    Running attachment leases
      (applyTaskComplete attachment.sdkSessionId outcome objectiveId db) := by
  intro id kept left session leased
  rcases task_row left with ⟨row, found, same⟩ | ⟨_, candidate, single, rfl⟩
  · have owned := grown.kept found left
    simp only [owner, Prod.mk.injEq] at owned
    rw [same] at leased
    exact running id row found (owned.2.2.symm.trans session) leased
  · -- the candidate of the query is the row its key selects
    have listed : candidate ∈ taskCandidates attachment.sdkSessionId objectiveId db := by
      rw [single]
      exact List.mem_singleton_self candidate
    obtain ⟨member, asked⟩ := List.mem_filter.mp listed
    have asks := of_decide_eq_true asked
    refine running _ candidate (Table.lookup_of_mem keyed member) asks.1 ?_
    cases state : candidate.state <;> simp [state, runningStates, leasedStates] at asks ⊢

theorem running_autopilotObjective {objectiveId : String} {status : Option String}
    (running : Running attachment leases db) :
    Running attachment leases (applyAutopilotObjective submissionId objectiveId status db) := by
  intro id kept left session leased
  rw [applyAutopilotObjective, submission_updateSubmissions _ _ (by intro row; rfl)] at left
  obtain ⟨row, found, rfl⟩ := Option.map_eq_some_iff.mp left
  split at session
  next touched =>
    rw [if_pos touched] at leased
    exact running id row found session leased
  next missed =>
    rw [if_neg missed] at leased
    exact running id row found session leased

theorem running_quietSnapshot {quiet : List (String × Links)} {settledAt : ℚ}
    (running : Running attachment leases db) :
    Running attachment
      (releaseSubmissionLiveness attachment (fun submissionId => (db.submission submissionId).any
        (settles attachment.sdkSessionId quiet · |>.isSome)) leases)
      (settleLinkedLoopIdle attachment.sdkSessionId quiet settledAt db) := by
  intro id kept left session leased
  have settled : ∀ row, (settles attachment.sdkSessionId quiet row).isSome = true →
      ((settles attachment.sdkSessionId quiet row).getD row.state) ∉ leasedStates := by
    intro row quietly
    obtain ⟨state, found⟩ := Option.isSome_iff_exists.mp quietly
    rw [found, Option.getD_some]
    rcases (settles_states found).2 with rfl | rfl <;> simp [leasedStates]
  have before := leased_update (by intro row; rfl) settled left leased
  rw [submission_updateSegments] at before
  refine held_releaseSubmissionLiveness (running id kept before.1 session leased) ?_
  rw [before.1, Option.any_some]
  exact before.2

theorem running_taskEvidence {evidenceTime : ℚ} (named : Named leases)
    (running : Running attachment leases db)
    (done : (if reopens attachment submissionId evidenceTime db then
      activate attachment .submission submissionId leases else .ok leases) = .ok next) :
    Running attachment next
      (reopenSubmission attachment.sdkSessionId submissionId evidenceTime db) := by
  intro id kept left session leased
  unfold reopenSubmission at left
  rw [submission_updateSubmissions _ _ (by intro row; rfl), submission_updateSegments] at left
  obtain ⟨row, found, rfl⟩ := Option.map_eq_some_iff.mp left
  split at leased
  next touched =>
    obtain ⟨target, own, complete, ended⟩ := of_decide_eq_true touched
    rw [submission_key found] at target
    subst target
    have opens : reopens attachment id evidenceTime db = true := by
      rw [reopens, submissionOf_eq_some.mpr ⟨found, own⟩, Option.any_some]
      simpa using ⟨complete, ended⟩
    rw [if_pos opens] at done
    exact activate_holds named done
  next missed =>
    rw [if_neg missed] at session
    have held := running id row found session leased
    split at done
    · exact held_activate held done
    · cases done
      exact held

end Rows

/-! ## What is being sent has its queue row -/

/-- A submission that is being sent has an item that is being sent. -/
def Sending (attachment : Attachment) (view : View) : Prop :=
  ∀ row, view.row = some row → row.sdkSessionId = attachment.sdkSessionId →
    row.state = .submitting → ∃ item, view.item = some item ∧ item.state = .submitting

theorem cancellable_not_submitting : QueueState.submitting ∉ cancellableStates := by decide

variable {event : Event}

theorem Change.sending {db : Db} {id : String} {view result : View}
    (change : Change db id (.reduce event) view result) (emitted : emits attachment event = true)
    (unsent : Unsent db) (stored : ∀ row, view.row = some row → row.unsent)
    (sending : Sending attachment view) : Sending attachment result := by
  intro kept left session sends
  have waits : kept.state ∈ [.localQueued, .submitting] := by simp [sends]
  cases change with
  | kept => exact sending kept left session sends
  | @inserted _ _ row item body new queued =>
    rcases Option.or_eq_some_iff.mp left with old | ⟨_, fresh⟩
    · obtain ⟨item, found, state⟩ := sending kept old session sends
      exact ⟨item, by simp [found], state⟩
    · cases fresh
      rw [new.1] at sends
      cases sends
  | retired | deferred | forgotten =>
    cases left
    cases sends
  | postponed =>
    obtain ⟨item, found, state⟩ := sending kept left session sends
    cases found
    exact ⟨_, rfl, state⟩
  | claimed => exact ⟨_, rfl, rfl⟩
  | @cancelled _ ids states _ body listed =>
    obtain ⟨row, found, rfl⟩ := Option.map_eq_some_iff.mp left
    split at sends
    · cases sends
    next other =>
      rw [if_neg other] at session
      obtain ⟨item, there, state⟩ := sending row found session sends
      have spared : item.state ∉ states := by
        rw [state]
        simp only [emits, body, Bool.and_eq_true, decide_eq_true_eq] at emitted
        rw [emitted.2]
        exact cancellable_not_submitting
      exact ⟨item, by simp [there, moveIf, spared], state⟩
  | blocked body queued =>
    obtain ⟨item, found, state⟩ := sending kept left session sends
    cases found
    rw [queued] at state
    cases state
  | accepted =>
    cases left
    exact absurd waits (acceptance_left _ _ _)
  | corrected =>
    cases left
    simp [recordAcceptance, clearObservation] at sends
  | copied body found observed =>
    -- an observed submission is no longer being sent, and its copy is in the same state
    cases left
    have unevidenced := unsent _ _ found waits
    rw [Submission.evidenced, observed] at unevidenced
    cases unevidenced
  | doubted =>
    obtain ⟨row, found, rfl⟩ := Option.map_eq_some_iff.mp left
    split at sends
    · cases sends
    next evidenced =>
      have unevidenced := stored row found (by simp [sends])
      exact absurd ⟨by simp [sends], unevidenced⟩ evidenced
  | refused body wasAccepted =>
    cases left
    have unevidenced := evidenced_eq_false.mp (stored kept rfl waits)
    rw [unevidenced.1] at wasAccepted
    cases wasAccepted
  | rejected body own unaccepted unsettled same state =>
    cases left
    rw [state] at sends
    cases sends
  | observed body same state =>
    cases left
    rw [state] at sends
    cases sends
  | noticed =>
    obtain ⟨item, found, state⟩ := sending kept left session sends
    simp only at found
    exact ⟨item, by simp [found, moveIf, state], state⟩
  | created body state =>
    cases left
    rw [state] at sends
    cases sends
  | idled body running same evidence state =>
    cases left
    exact absurd (state ▸ waits) (idleState_not_waiting _ _)
  | orphaned body own unobserved created sent same evidence state =>
    cases left
    rw [state] at sends
    cases sends
  | tasked body same evidence state =>
    cases left
    rcases state with state | state
    · exact sending _ rfl (same.session.symm.trans session) (state.symm.trans sends)
    · rw [state] at sends
      cases sends
  | settled body settles =>
    cases left
    rcases (settles_states settles).2 with state | state
    · rw [state] at sends
      cases sends
    · rw [state] at sends
      cases sends
  | reopened body complete same evidence state =>
    cases left
    rw [state] at sends
    cases sends

/-! ## One transaction -/

structure Accounted (attachment : Attachment) (ledger : Ledger) : Prop where
  keyed : Keyed ledger.db
  unsent : Unsent ledger.db
  named : Named ledger.leases
  sending : ∀ id, Sending attachment (ledger.db.view id)
  running : Running attachment ledger.leases ledger.db

/-- A cancellation of queued messages that is applied lists none that is with the runtime. -/
def Spares (attachment : Attachment) (ledger : Ledger) : Activity → Prop
  | .reduces event =>
    match event.body with
    | .cancelQueued submissionIds _ =>
      journaled ledger.db event = true ∨ Idle attachment ledger.db submissionIds
    | _ => True
  | _ => True

section Steps

variable {ledger after : Ledger}

theorem named_applyLeases {before applied : Db} {leases next : List LivenessLease}
    (named : Named leases)
    (done : applyLeases uuid5 attachment event before applied leases = .ok next) : Named next := by
  have released : ∀ listed leases, Named leases → Named (release attachment listed leases) := by
    intro listed leases named
    exact named_update named fun _ own _ => own
  have freed : ∀ listed leases, Named leases →
      Named (releaseSubmissionLiveness attachment listed leases) := by
    intro listed leases named
    exact named_update named fun _ own _ => own
  have split : ∀ submissionId moved,
      splitLeases uuid5 attachment submissionId before leases = .ok moved → Named moved := by
    intro submissionId moved moves
    unfold splitLeases at moves
    split at moves
    · cases moves
      exact named
    · exact named_moveLease named moves
  unfold applyLeases at done
  split at done
  · cases done
    split
    · exact named_acquireNew named _
    · exact named
  · cases done
    split
    · exact named
    · exact released _ _ named
  · cases done
    split
    · exact named_acquireNew (released _ _ named) _
    · exact named
  · cases done
    exact named_update named fun _ own _ => own
  · unfold acceptedLeases at done
    split at done
    · cases done
      exact named
    · split at done
      · cases done
        exact named
      · obtain ⟨moved, moves, last⟩ := bind_ok done
        have kept : Named moved := by
          split at moves
          · exact split _ _ moves
          · cases moves
            exact named
        split at last
        · cases last
          exact kept
        · split at last
          · exact named_activate kept last
          · cases last
            exact kept
  · cases done
    split
    · exact named
    · exact released _ _ named
  · unfold rejectedLeases at done
    split at done
    · cases done
      exact named
    · split at done
      · cases done
        exact named
      · obtain ⟨moved, moves, last⟩ := bind_ok done
        cases last
        exact released _ _ (split _ _ moves)
  · split at done
    · cases done
    · exact named_activate named done
  · cases done
    unfold idleLeases
    exact freed _ _ (freed _ _ named)
  · cases done
    exact freed _ _ named
  · split at done
    · exact named_activate named done
    · cases done
      exact named
  all_goals
    cases done
    exact named

theorem running_applyLeases {applied : Db} {next : List LivenessLease}
    (accounted : Accounted attachment ledger) (own : event.sdkSessionId = attachment.sdkSessionId)
    (spares : ∀ submissionIds cancellable, event.body = .cancelQueued submissionIds cancellable →
      Idle attachment ledger.db submissionIds)
    (done : applyDomainState uuid5 event ledger.db = .ok applied)
    (settled : applyLeases uuid5 attachment event ledger.db applied ledger.leases = .ok next) :
    Running attachment next applied := by
  have grown := grown_applyDomainState done
  unfold applyDomainState at done
  unfold applyLeases at settled
  rw [own] at done
  cases body : event.body with
  | queued data =>
    rw [body] at done settled
    cases done
    cases settled
    exact running_queued accounted.running
  | submitting data =>
    rw [body] at done settled
    cases settled
    exact running_submitting accounted.running done
  | cancelQueued submissionIds cancellable =>
    rw [body] at done settled
    cases done
    cases settled
    exact running_cancelQueued accounted.running (spares _ _ body)
  | preSendDeferred submissionId =>
    rw [body] at done settled
    cases done
    cases settled
    exact running_preSendDeferred accounted.running
  | queueReplaced data =>
    rw [body] at done settled
    cases settled
    exact running_queueReplaced accounted.running done
  | queueBlocked submissionId reason =>
    rw [body] at done settled
    cases done
    cases settled
    exact accounted.running
  | activeUnknown =>
    rw [body] at done settled
    cases done
    cases settled
    exact running_activeUnknown
  | accepted submissionId messageId =>
    rw [body] at done settled
    exact running_accepted accounted.named accounted.running done settled
  | acceptanceUnknown submissionId =>
    rw [body] at done settled
    cases done
    cases settled
    exact running_acceptanceUnknown accounted.running
  | rejected submissionId =>
    rw [body] at done settled
    exact running_rejected accounted.running done settled
  | userMessage message =>
    rw [body] at done settled
    cases received : event.eventId with
    | none =>
      simp only [received] at done
      cases done
    | some eventId =>
      simp only [received] at done settled
      cases done
      exact running_userMessage accounted.named accounted.running settled
  | sessionIdle aborted =>
    rw [body] at done settled
    cases done
    cases settled
    exact running_sessionIdle accounted.running
  | taskComplete outcome objectiveId =>
    rw [body] at done settled
    cases done
    cases settled
    exact running_taskComplete accounted.keyed accounted.running grown
  | autopilotObjective submissionId objectiveId status =>
    rw [body] at done settled
    cases done
    cases settled
    exact running_autopilotObjective accounted.running
  | quietSnapshot quiet settledAt =>
    rw [body] at done settled
    cases done
    cases settled
    exact running_quietSnapshot accounted.running
  | taskEvidence submissionId evidenceTime =>
    rw [body] at done settled
    cases done
    exact running_taskEvidence accounted.named accounted.running settled

/-- The tables of a transaction are those the reducer leaves without the leases. -/
theorem write_of_persistLedger (done : persistLedger uuid5 attachment event ledger = .ok after) :
    write uuid5 ledger.db (.reduce event) = some after.db := by
  unfold persistLedger at done
  simp only [write, persist]
  split at done
  next duplicate =>
    cases done
    rw [if_pos duplicate]
    rfl
  next new =>
    obtain ⟨applied, handled, rest⟩ := bind_ok done
    obtain ⟨leases, _, last⟩ := bind_ok rest
    cases last
    rw [if_neg new, handled]
    rfl

theorem accounted_persist (accounted : Accounted attachment ledger)
    (emitted : emits attachment event = true) (spares : Spares attachment ledger (.reduces event))
    (done : persistLedger uuid5 attachment event ledger = .ok after) :
    Accounted attachment after := by
  have written := write_of_persistLedger done
  have own : event.sdkSessionId = attachment.sdkSessionId := by
    simp only [emits, Bool.and_eq_true, decide_eq_true_eq] at emitted
    exact emitted.1
  have sending : ∀ id, Sending attachment (after.db.view id) := fun id =>
    Change.sending (change_of_write id written) emitted accounted.unsent (accounted.unsent id)
      (accounted.sending id)
  refine ⟨(grown_write written).keyed accounted.keyed, unsent_write accounted.unsent written, ?_,
    sending, ?_⟩
  · unfold persistLedger at done
    split at done
    · cases done
      exact accounted.named
    · obtain ⟨applied, handled, rest⟩ := bind_ok done
      obtain ⟨leases, settled, last⟩ := bind_ok rest
      cases last
      exact named_applyLeases accounted.named settled
  · unfold persistLedger at done
    split at done
    · cases done
      exact accounted.running
    next new =>
      obtain ⟨applied, handled, rest⟩ := bind_ok done
      obtain ⟨leases, settled, last⟩ := bind_ok rest
      cases last
      have idle : ∀ submissionIds cancellable,
          event.body = .cancelQueued submissionIds cancellable →
          Idle attachment ledger.db submissionIds := by
        intro submissionIds cancellable body
        simp only [Spares, body] at spares
        rcases spares with duplicate | idle
        · exact absurd duplicate new
        · exact idle
      have running := running_applyLeases accounted own idle handled settled
      exact running

theorem Accounted.leases {leases : List LivenessLease} (accounted : Accounted attachment ledger)
    (named : Named leases)
    (held : ∀ id, Held attachment ledger.leases id → Held attachment leases id) :
    Accounted attachment { ledger with leases } := by
  refine ⟨accounted.keyed, accounted.unsent, named, accounted.sending, ?_⟩
  intro id row found session leased
  exact held id (accounted.running id row found session leased)

theorem accounted_apply {activity : Activity} (accounted : Accounted attachment ledger)
    (spares : Spares attachment ledger activity)
    (taken : apply uuid5 attachment ledger activity = some after) : Accounted attachment after := by
  have freed : ∀ leaseId, Named (releaseNamed attachment leaseId ledger.leases) := by
    intro leaseId
    exact named_update accounted.named fun _ own _ => own
  cases activity with
  | reduces event =>
    simp only [apply] at taken
    split at taken
    next emitted =>
      cases done : persistLedger uuid5 attachment event ledger with
      | error failure =>
        rw [done] at taken
        cases taken
      | ok result =>
        rw [done] at taken
        cases taken
        exact accounted_persist accounted emitted spares done
    · cases taken
  | interactionPending interactionId =>
    simp only [apply] at taken
    cases done : activate attachment .interaction interactionId ledger.leases with
    | error failure =>
      rw [done] at taken
      cases taken
    | ok leases =>
      rw [done] at taken
      cases taken
      exact accounted.leases (named_activate accounted.named done)
        fun id held => held_activate held done
  | interactionSettled interactionId =>
    cases taken
    exact accounted.leases (freed _)
      fun id held => held_releaseNamed accounted.named held (by decide)
  | backgroundObserved cardKey =>
    simp only [apply] at taken
    cases done : upsert attachment .observedBackground cardKey
        (observeBackground attachment cardKey) ledger.leases with
    | error failure =>
      rw [done] at taken
      cases taken
    | ok leases =>
      rw [done] at taken
      cases taken
      have named : Named leases := by
        refine named_upsert accounted.named done ?_
        intro lease _ found
        exact (of_decide_eq_true found).2
      exact accounted.leases named
        fun id held => held_backgroundObserved accounted.named held done
  | backgroundEnded cardKey =>
    cases taken
    exact accounted.leases (freed _)
      fun id held => held_releaseNamed accounted.named held (by decide)

end Steps

/-! ## Runs -/

/-- The states in which a restart would lose work. -/
def inFlightStates : List SubmissionState :=
  [.submitting, .submitted, .observedActive, .continuationExpected]

/-- An active lease of the attachment or an unfinished queue row belongs to the submission. -/
def Evidenced (attachment : Attachment) (ledger : Ledger) (submissionId : String) : Prop :=
  Held attachment ledger.leases submissionId ∨
    ∃ item, ledger.db.item submissionId = some item ∧ blocksDetach item = true

/-- A submission in flight shows in the snapshot, whatever the other tables hold, as long as the
binding is in the attachment's generation. -/
def BlocksRestart (attachment : Attachment) (ledger : Ledger) : Prop :=
  ∀ id row, ledger.db.submissionOf attachment.sdkSessionId id = some row →
    row.state ∈ inFlightStates →
    Evidenced attachment ledger id ∧
      ∀ now around, around.bindings.any (boundTo attachment.sdkSessionId
          attachment.runtimeGeneration attachment.ownerFenceToken) = true →
        (snapshotConnection now around ledger).blockers ≠ []

theorem evidenced_blocks {ledger : Ledger} {id : String} {now : ℚ} {around : Surroundings}
    (evidenced : Evidenced attachment ledger id)
    (bound : around.bindings.any (boundTo attachment.sdkSessionId attachment.runtimeGeneration
      attachment.ownerFenceToken) = true) :
        (snapshotConnection now around ledger).blockers ≠ [] := by
  rcases evidenced with ⟨lease, member, session, kind, source, active, current⟩ |
    ⟨item, found, unfinished⟩
  · refine blockers_of_lease member ?_
    simp only [Attachment.current, decide_eq_true_eq] at current
    simp only [counts, active, session, current.1, current.2, bound, and_self, decide_true]
  · exact blockers_of_item (Table.lookup_some_mem found) unfinished

theorem Accounted.blocksRestart {ledger : Ledger} (accounted : Accounted attachment ledger) :
    BlocksRestart attachment ledger := by
  intro id row found inFlight
  obtain ⟨stored, session⟩ := submissionOf_eq_some.mp found
  have evidenced : Evidenced attachment ledger id := by
    by_cases sends : row.state = .submitting
    · obtain ⟨item, there, state⟩ := accounted.sending id row stored session sends
      exact .inr ⟨item, there, by simp [blocksDetach, state]⟩
    · refine .inl (accounted.running id row stored session ?_)
      cases state : row.state <;> simp [state, inFlightStates, leasedStates] at inFlight sends ⊢
  exact ⟨evidenced, fun _ _ bound => evidenced_blocks evidenced bound⟩

/-- The tables as an attachment finds them: the session has no submission in flight or idle, and
no submission that waits was observed or accepted. -/
structure AtAttach (attachment : Attachment) (ledger : Ledger) : Prop where
  keyed : Keyed ledger.db
  unsent : Unsent ledger.db
  named : Named ledger.leases
  settled : ∀ id row, ledger.db.submissionOf attachment.sdkSessionId id = some row →
    row.state ≠ .submitting ∧ row.state ∉ leasedStates

theorem AtAttach.accounted {ledger : Ledger} (attach : AtAttach attachment ledger) :
    Accounted attachment ledger := by
  refine ⟨attach.keyed, attach.unsent, attach.named, ?_, ?_⟩
  · intro id row found session sends
    exact absurd sends (attach.settled id row (submissionOf_eq_some.mpr ⟨found, session⟩)).1
  · intro id row found session leased
    exact absurd leased (attach.settled id row (submissionOf_eq_some.mpr ⟨found, session⟩)).2

/-- Where no cancellation of queued messages lists one that is with the runtime, every
submission in flight blocks a restart in every state of the attachment. -/
theorem in_flight_work_blocks_restart {start after : Ledger} (attach : AtAttach attachment start)
    (activities : List Activity)
    (spared : Run.Along (apply uuid5 attachment) (Spares attachment) start activities)
    (reached : Run.run (apply uuid5 attachment) start activities = some after) :
    BlocksRestart attachment after := by
  have keep : ∀ ledger activity next, Accounted attachment ledger →
      Spares attachment ledger activity → apply uuid5 attachment ledger activity = some next →
      Accounted attachment next := by
    intro ledger activity next accounted spares taken
    exact accounted_apply accounted spares taken
  exact (Run.run_inv_along keep spared attach.accounted reached).blocksRestart

/-! ## One message that is cancelled as it goes out -/

def boundAttachment : Attachment :=
  { sdkSessionId := "session-1", runtimeGeneration := 3, ownerFenceToken := 5 }

def pumpSession : QueueRuntime.Session :=
  { sdkSessionId := "session-1", threadId := "thread-1", exactMapping := true }

/-- The submissions of the idempotency keys `key-1` and `key-2`. -/
def firstId : String := "f160b806-5fc3-5cf2-b4d3-0829cbab296d"

def secondId : String := "261fa9da-6815-5ac1-9f54-7c79deb4ac6a"

/-- `uuid.uuid5` over `uuid.NAMESPACE_URL`, on the names the runs ask for. -/
def uuid5OfLeases (name : String) : String :=
  if name = "copilotd:session-1:cancel:" ++ firstId then "876d6778-18fd-575d-9ba9-f38a2bf64559"
  else if name = "copilotd:session-1:cancel:" ++ secondId then
    "add312d7-ac85-5205-bf2a-f8555418b847"
  else "e699f743-4cdb-57e3-9946-5f1ea2396325"

def enqueued (submissionId promptHash : String) (now : ℚ) : Activity :=
  .reduces (QueueRuntime.queuedEvent pumpSession
    { submissionId, threadId := "thread-1", promptHash, createdAt := now } now)

def firstAccepted : List Activity :=
  [enqueued firstId "hash-1" 1,
    .reduces (QueueRuntime.submittingEvent pumpSession
      { submissionId := firstId, operationId := "db4beb37-a6eb-58b1-92f2-546d0d0e4ac8" } 2),
    .reduces (QueueRuntime.acceptedEvent pumpSession firstId "message-1" 3)]

def cancelled (submissionId : String) (now : ℚ) : Activity :=
  .reduces (QueueRuntime.cancelEvent uuid5OfLeases pumpSession [submissionId] now)

instance (attachment : Attachment) (db : Db) (submissionIds : List String) :
    Decidable (Idle attachment db submissionIds) :=
  inferInstanceAs (Decidable (∀ id ∈ submissionIds,
    ∀ row ∈ db.submissionOf attachment.sdkSessionId id, row.state ∉ leasedStates))

instance (attachment : Attachment) (ledger : Ledger) (activity : Activity) :
    Decidable (Spares attachment ledger activity) := by
  unfold Spares
  cases activity with
  | reduces event =>
    obtain ⟨_, _, _, _, _, body⟩ := event
    cases body with
    | cancelQueued submissionIds _ =>
      exact inferInstanceAs (Decidable (_ = true ∨ Idle attachment ledger.db submissionIds))
    | _ => exact inferInstanceAs (Decidable True)
  | _ => exact inferInstanceAs (Decidable True)

theorem atAttach_empty : AtAttach attachment {} := by
  refine ⟨List.nodup_nil, ?_, ?_, ?_⟩
  · intro id row found
    cases found
  · intro lease member
    cases member
  · intro id row found
    cases (submissionOf_eq_some.mp found).1

/-- The second message is cancelled while it waits, and the first is observed. -/
def secondCancelled : List Activity :=
  firstAccepted ++ [enqueued secondId "hash-2" 4, cancelled secondId 5,
    .reduces { sdkSessionId := "session-1", eventId := some "event-1", receivedAt := 6
               exactMapping := true, body := .userMessage { contentHash := some "hash-1" } }]

theorem in_flight_work_blocks_restart_observed :
    ∃ after, Run.run (apply uuid5OfLeases boundAttachment) {} secondCancelled = some after ∧
      (after.db.submission firstId).map (·.state) = some .observedActive ∧
      BlocksRestart boundAttachment after := by
  have spared : Run.Along (apply uuid5OfLeases boundAttachment) (Spares boundAttachment) {}
      secondCancelled := by decide +kernel
  have reaches : ((Run.run (apply uuid5OfLeases boundAttachment) {} secondCancelled).bind
      fun ledger => (ledger.db.submission firstId).map (·.state)) = some .observedActive := by
    decide +kernel
  obtain ⟨after, reached, state⟩ := Option.bind_eq_some_iff.mp reaches
  exact ⟨after, reached, state,
    in_flight_work_blocks_restart atAttach_empty secondCancelled spared reached⟩

def boundSession : BoundSession :=
  { sdkSessionId := "session-1", attachmentState := .attached, runtimeGeneration := 3
    ownerFenceToken := some 5, runtimeRemoteMode := .off }

/-- The list was read while the first message waited. -/
theorem cancellation_hides_submitted_work : AtAttach boundAttachment {} ∧
    ∃ after, Run.run (apply uuid5OfLeases boundAttachment) {}
        (firstAccepted ++ [cancelled firstId 4]) = some after ∧
      ¬ BlocksRestart boundAttachment after := by
  refine ⟨atAttach_empty, ?_⟩
  have reaches : ((Run.run (apply uuid5OfLeases boundAttachment) {}
      (firstAccepted ++ [cancelled firstId 4])).bind fun ledger =>
        (ledger.db.submissionOf "session-1" firstId).map fun row =>
          (row.state, (snapshotConnection 5 { bindings := [boundSession] } ledger).blockers)) =
      some (.submitted, []) := by decide +kernel
  obtain ⟨after, reached, facts⟩ := Option.bind_eq_some_iff.mp reaches
  obtain ⟨row, found, same⟩ := Option.map_eq_some_iff.mp facts
  simp only [Prod.mk.injEq] at same
  refine ⟨after, reached, ?_⟩
  intro blocks
  have shown := (blocks firstId row found (by simp [same.1, inFlightStates])).2 5
    { bindings := [boundSession] } (by decide)
  exact shown same.2

end Copilotd.Guarantees.RestartBlocked
