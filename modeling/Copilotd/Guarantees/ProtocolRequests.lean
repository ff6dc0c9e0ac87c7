import Copilotd.Base.Run
import Copilotd.Source.Core.Protocol

/-!
# Protocol requests: exclusive claims, and the order of the wire events

A request goes through three phases: no row, a row whose response is pending, a row whose
response is not.  No operation goes back (`perform_advances`), a claim succeeds only in the
second phase and ends it, and a completion ends in the third; this gives
`claims_are_exclusive_and_final`.  `wire_events_converge` says what the requested and the
completed events of a request leave in any order: the planes that the runtime answers itself
keep the response state of the event that came first.
-/
namespace Copilotd.Guarantees.ProtocolRequests

open Base Base.Run Source.Core.Protocol

/-! ## Runs -/

/-- The tables, and the operations so far with their answers. -/
structure History where
  tables : Tables
  log : List (Operation × Answer) := []

def step (uuid5 : String → String) (h : History) (operation : Operation) : Option History :=
  let (tables, answer) := perform uuid5 h.tables operation
  some { tables, log := h.log ++ [(operation, answer)] }

def claims (key : RequestKey) (entry : Operation × Answer) : Bool :=
  match entry.2 with
  | .claimed claim => claim.key = key
  | _ => false

/-- A completed event of the request that was applied. -/
def completes (key : RequestKey) (entry : Operation × Answer) : Bool :=
  match entry with
  | (.event event, .returned true) =>
    (match eventKind event.rawType with
      | some (.completed _) => true
      | _ => false) &&
      event.requestId = some key.requestId && event.sdkSessionId = key.sdkSessionId &&
        event.generation = key.generation
  | _ => false

/-! ## Phases -/

def phase (key : RequestKey) (tables : Tables) : Nat :=
  match tables.request key with
  | none => 0
  | some row => if row.responseState = .pending then 1 else 2

variable {row : ProtocolRequest}

section Phases

variable {key k : RequestKey} {tables : Tables}

theorem request_updateRequest {hit : ProtocolRequest → Bool}
    {set : ProtocolRequest → ProtocolRequest} (same : ∀ row, (set row).key = row.key) :
    (tables.updateRequest k hit set).request key =
      (tables.request key).map fun row => if row.key = k && hit row then set row else row :=
  Table.lookup_updateWhere same key tables.requests

theorem phase_le_two (key : RequestKey) (tables : Tables) : phase key tables ≤ 2 := by
  unfold phase
  split
  · omega
  · split <;> omega

theorem phase_of_row (found : tables.request key = some row) :
    phase key tables = if row.responseState = .pending then 1 else 2 := by
  unfold phase
  rw [found]

theorem phase_updateRequest {hit : ProtocolRequest → Bool}
    {set : ProtocolRequest → ProtocolRequest} (same : ∀ row, (set row).key = row.key)
    (leaves : ∀ row, tables.request k = some row → hit row = true →
      row.responseState ≠ .pending → (set row).responseState ≠ .pending) :
    phase key tables ≤ phase key (tables.updateRequest k hit set) := by
  cases found : tables.request key with
  | none =>
    have before : phase key tables = 0 := by
      unfold phase
      rw [found]
    omega
  | some row =>
    have after := @request_updateRequest key k tables hit set same
    rw [found, Option.map_some] at after
    rw [phase_of_row found, phase_of_row after]
    by_cases pending : row.responseState = .pending
    · rw [if_pos pending]
      by_cases later : (if (decide (row.key = k) && hit row) = true then set row
          else row).responseState = .pending
      · rw [if_pos later]
      · rw [if_neg later]
        omega
    · have left : (if (decide (row.key = k) && hit row) = true then set row
          else row).responseState ≠ .pending := by
        split
        · next isHit =>
          rw [Bool.and_eq_true, decide_eq_true_eq] at isHit
          have isKey := Table.lookup_some_key found
          refine leaves row ?_ isHit.2 pending
          rw [← isHit.1, isKey]
          exact found
        · exact pending
      rw [if_neg pending, if_neg left]

theorem phase_insertRequest (row : ProtocolRequest) :
    phase key tables ≤ phase key (tables.insertRequest row).1 := by
  unfold Tables.insertRequest
  split
  · exact Nat.le_refl _
  · cases found : tables.request key with
    | none =>
      have before : phase key tables = 0 := by
        unfold phase
        rw [found]
      omega
    | some old =>
      have after : Tables.request { tables with requests := tables.requests ++ [row] } key =
          some old := Table.lookup_append_of_some found
      rw [phase_of_row found, phase_of_row after]

theorem completedState_ne_pending (state : ResponseState) : completedState state ≠ .pending := by
  unfold completedState
  split
  · exact ResponseState.noConfusion
  · next other =>
    intro pending
    rw [pending] at other
    exact other (by decide)

end Phases

/-! ## What an operation can do -/

variable {uuid5 : String → String} {tables : Tables} {key : RequestKey}

variable {arguments : ClaimArguments} {after : Tables} {answer : Answer}

theorem claim_cases (done : claim uuid5 tables arguments = (after, answer)) :
    (after = tables ∧ (∀ claim, answer ≠ .claimed claim)) ∨
      ∃ row digest, tables.request arguments.key = some row ∧ claimable row = true ∧
        after = tables.claimRequest (attemptIdOf uuid5 arguments.key) digest arguments ∧
        ∃ claim, answer = .claimed claim ∧ claim.key = arguments.key := by
  unfold claim at done
  dsimp only at done
  split at done
  · cases done
    exact .inl ⟨rfl, fun _ => Answer.noConfusion⟩
  · next digest stored =>
    split at done
    · cases done
      exact .inl ⟨rfl, fun _ => Answer.noConfusion⟩
    · next row found =>
      split at done
      · cases done
        exact .inl ⟨rfl, fun _ => Answer.noConfusion⟩
      · next passes =>
        split at done
        · cases done
          exact .inl ⟨rfl, fun _ => Answer.noConfusion⟩
        · split at done
          · cases done
            exact .inl ⟨rfl, fun _ => Answer.noConfusion⟩
          · cases done
            rw [Bool.not_eq_true, Bool.not_eq_false'] at passes
            exact .inr ⟨row, digest, found, passes, rfl, _, rfl, rfl⟩

theorem request_claimRequest {attemptId digest : String} :
    (tables.claimRequest attemptId digest arguments).request key =
      (tables.updateRequest arguments.key unclaimed fun row =>
        { row with
          responseState := .responding
          responseAttemptId := some attemptId
          updatedAt := arguments.now }).request key := rfl

theorem phase_of_claimed {attemptId digest : String}
    (found : tables.request arguments.key = some row) (passes : claimable row = true) :
    phase arguments.key tables = 1 ∧
      phase arguments.key (tables.claimRequest attemptId digest arguments) = 2 := by
  unfold claimable at passes
  simp only [Bool.and_eq_true, decide_eq_true_eq] at passes
  obtain ⟨⟨⟨_, open_⟩, _⟩, pending⟩ := passes
  have isKey := Table.lookup_some_key found
  have hit : unclaimed row = true := by
    unfold unclaimed
    rw [pending, open_]
    rfl
  have after : (tables.claimRequest attemptId digest arguments).request arguments.key =
      some { row with
        responseState := .responding
        responseAttemptId := some attemptId
        updatedAt := arguments.now } := by
    rw [request_claimRequest, request_updateRequest (by intro row; rfl), found, Option.map_some]
    rw [if_pos (by rw [isKey, hit]; simp)]
  rw [phase_of_row found, phase_of_row after, if_pos pending]
  exact ⟨rfl, rfl⟩

/-- No operation takes a request back; a claim ends the pending phase, and after a completion
nothing is pending. -/
structure Advances (key : RequestKey) (tables : Tables) (entry : Operation × Answer)
    (after : Tables) : Prop where
  forward : phase key tables ≤ phase key after
  claimed : claims key entry = true → phase key tables = 1 ∧ phase key after = 2
  completed : completes key entry = true → phase key after = 2

theorem claim_advances (done : claim uuid5 tables arguments = (after, answer)) :
    Advances key tables (.claim arguments, answer) after := by
  rcases claim_cases done with ⟨rfl, no⟩ | ⟨row, digest, found, passes, rfl, claim, rfl, same⟩
  · refine ⟨Nat.le_refl _, ?_, Bool.noConfusion⟩
    intro claimed
    unfold claims at claimed
    dsimp only at claimed
    split at claimed
    · next made => exact absurd rfl (no made)
    · cases claimed
  · refine ⟨?_, ?_, Bool.noConfusion⟩
    · have forward := @phase_updateRequest key arguments.key tables unclaimed
        (fun row =>
          { row with
            responseState := .responding
            responseAttemptId := some (attemptIdOf uuid5 arguments.key)
            updatedAt := arguments.now })
        (fun _ => rfl) (fun _ _ _ _ => ResponseState.noConfusion)
      exact forward
    · intro claimed
      unfold claims at claimed
      rw [decide_eq_true_eq, same] at claimed
      rw [← claimed]
      exact phase_of_claimed found passes

theorem settle_advances {arguments : SettleArguments}
    (done : settle tables arguments = (after, answer)) :
    Advances key tables (.settle arguments, answer) after := by
  unfold settle at done
  split at done
  · cases done
    exact ⟨Nat.le_refl _, Bool.noConfusion, Bool.noConfusion⟩
  · next state _ =>
    dsimp only at done
    split at done
    · cases done
      exact ⟨Nat.le_refl _, Bool.noConfusion, Bool.noConfusion⟩
    · cases done
      refine ⟨?_, Bool.noConfusion, Bool.noConfusion⟩
      refine @phase_updateRequest key _ { tables with attempts := _ } _ _ (by intro row; rfl) ?_
      intro row _ _ _
      exact ResponseState.noConfusion

theorem markUnsupported_advances {k : RequestKey} {now : ℚ}
    (done : markUnsupported tables k now = (after, answer)) :
    Advances key tables (.markUnsupported k now, answer) after := by
  cases done
  refine ⟨?_, Bool.noConfusion, Bool.noConfusion⟩
  refine phase_updateRequest (by intro row; rfl) ?_
  intro row _ _ _
  exact ResponseState.noConfusion

theorem applyRequested_forward (event : ProtocolEvent) (k : RequestKey) (digest : String) :
    phase key tables ≤ phase key (applyRequested tables event k digest).1 := by
  unfold applyRequested
  split
  · exact phase_insertRequest _
  · next current found =>
    refine phase_updateRequest (by intro row; rfl) ?_
    intro row found' _ settled
    rw [found] at found'
    cases found'
    unfold pairRequested
    split
    · exact completedState_ne_pending _
    · exact settled

theorem applyCompleted_forward (event : ProtocolEvent) (k : RequestKey)
    (requestedType digest : String) :
    phase key tables ≤ phase key (applyCompleted tables event k requestedType digest).1 := by
  unfold applyCompleted
  split
  · exact phase_insertRequest _
  · refine phase_updateRequest (by intro row; rfl) ?_
    intro row _ _ _
    exact completedState_ne_pending _

theorem applyCompleted_ends (event : ProtocolEvent) (key : RequestKey)
    (requestedType digest : String)
    (applied : (applyCompleted tables event key requestedType digest).2 = .returned true) :
    phase key (applyCompleted tables event key requestedType digest).1 = 2 := by
  unfold applyCompleted at applied ⊢
  split at applied
  · next absent =>
    unfold Tables.insertRequest at applied ⊢
    split at applied
    · cases applied
    · next check =>
      rw [if_neg check]
      unfold phase Tables.request
      have none : Table.lookup ProtocolRequest.key key tables.requests = none := absent
      rw [Table.lookup_append, none, Option.none_or]
      simp [Table.lookup, ProtocolRequest.key]
  · next current found =>
    have isKey : current.key = key := Table.lookup_some_key found
    have after : (tables.updateRequest key (fun _ => true)
        (pairCompleted event digest current)).request key =
          some (pairCompleted event digest current current) := by
      rw [request_updateRequest (by intro row; rfl), found, Option.map_some, isKey]
      rw [if_pos (by simp)]
    have left : (pairCompleted event digest current current).responseState ≠ .pending :=
      completedState_ne_pending _
    rw [phase_of_row after, if_neg left]

theorem insertRequest_answer (row : ProtocolRequest) (claim : ProtocolResponseClaim) :
    (tables.insertRequest row).2 ≠ .claimed claim := by
  unfold Tables.insertRequest
  split <;> exact Answer.noConfusion

theorem applyRequested_answer (event : ProtocolEvent) (k : RequestKey) (digest : String)
    (claim : ProtocolResponseClaim) :
    (applyRequested tables event k digest).2 ≠ .claimed claim := by
  unfold applyRequested
  split
  · exact insertRequest_answer _ claim
  · exact Answer.noConfusion

theorem applyCompleted_answer (event : ProtocolEvent) (k : RequestKey)
    (requestedType digest : String) (claim : ProtocolResponseClaim) :
    (applyCompleted tables event k requestedType digest).2 ≠ .claimed claim := by
  unfold applyCompleted
  split
  · exact insertRequest_answer _ claim
  · exact Answer.noConfusion

variable {operation : Operation}

theorem not_claims
    (no : ∀ claim, answer ≠ .claimed claim) : claims key (operation, answer) = false := by
  cases answer with
  | claimed claim => exact absurd rfl (no claim)
  | refused | returned | raised => rfl

theorem completes_event {event : ProtocolEvent}
    (ends : completes key (.event event, answer) = true) :
    answer = .returned true ∧ (∃ requestedType, eventKind event.rawType =
        some (.completed requestedType)) ∧
      event.requestId = some key.requestId ∧ event.sdkSessionId = key.sdkSessionId ∧
        event.generation = key.generation := by
  unfold completes at ends
  split at ends
  · next other is =>
    cases is
    simp only [Bool.and_eq_true, decide_eq_true_eq] at ends
    obtain ⟨⟨⟨kind, request⟩, session⟩, generation⟩ := ends
    refine ⟨rfl, ?_, request, session, generation⟩
    split at kind
    · next requestedType isKind => exact ⟨requestedType, isKind⟩
    · cases kind
  · cases ends

theorem event_advances {event : ProtocolEvent}
    (done : applyProtocolEvent tables event = (after, answer)) :
    Advances key tables (.event event, answer) after := by
  unfold applyProtocolEvent at done
  split at done
  · cases done
    exact ⟨Nat.le_refl _, Bool.noConfusion, Bool.noConfusion⟩
  · cases done
    exact ⟨Nat.le_refl _, Bool.noConfusion, Bool.noConfusion⟩
  · next requestId kind hasRequest isKind =>
    split at done
    · cases done
      exact ⟨Nat.le_refl _, Bool.noConfusion, Bool.noConfusion⟩
    · next digest stored =>
      split at done
      · generalize isKey : RequestKey.mk event.sdkSessionId event.generation requestId = k at done
        have forward := @applyRequested_forward tables key event k digest
        have answers := @applyRequested_answer tables event k digest
        rw [done] at forward answers
        refine ⟨forward, ?_, ?_⟩
        · rw [not_claims answers]
          exact Bool.noConfusion
        · intro ends
          obtain ⟨_, ⟨requestedType, isCompleted⟩, _⟩ := completes_event ends
          rw [isKind] at isCompleted
          cases isCompleted
      · next requestedType =>
        generalize isKey : RequestKey.mk event.sdkSessionId event.generation requestId = k at done
        have forward := @applyCompleted_forward tables key event k requestedType digest
        have answers := @applyCompleted_answer tables event k requestedType digest
        have last := @applyCompleted_ends tables event k requestedType digest
        rw [done] at forward answers last
        refine ⟨forward, ?_, ?_⟩
        · rw [not_claims answers]
          exact Bool.noConfusion
        · intro ends
          obtain ⟨applied, _, request, session, generation⟩ := completes_event ends
          have same : k = key := by
            rw [hasRequest, Option.some.injEq] at request
            rw [← isKey, request, session, generation]
          rw [same] at last
          exact last applied

theorem perform_advances (done : perform uuid5 tables operation = (after, answer)) :
    Advances key tables (operation, answer) after := by
  cases operation with
  | claim arguments => exact claim_advances done
  | settle arguments => exact settle_advances done
  | markUnsupported k now => exact markUnsupported_advances done
  | event event => exact event_advances done

/-! ## Exclusive and final claims -/

/-- What the log of a history says about the phase of a request. -/
structure Logged (key : RequestKey) (h : History) : Prop where
  once : h.log.countP (claims key) ≤ 1
  ordered : h.log.Pairwise fun earlier later =>
    completes key earlier = true → claims key later = false
  spent : ∀ entry ∈ h.log, claims key entry = true ∨ completes key entry = true →
    phase key h.tables = 2

theorem step_forward {h t : History}
    (taken : step uuid5 h operation = some t) : phase key h.tables ≤ phase key t.tables := by
  unfold step at taken
  cases done : perform uuid5 h.tables operation with
  | mk after answer =>
    rw [done] at taken
    cases taken
    exact (perform_advances done).forward

theorem step_logged {h t : History} (logged : Logged key h)
    (taken : step uuid5 h operation = some t) : Logged key t := by
  unfold step at taken
  cases done : perform uuid5 h.tables operation with
  | mk after answer =>
    rw [done] at taken
    cases taken
    have advances := @perform_advances uuid5 h.tables key after answer operation done
    -- Once the request has left the pending phase, nothing can claim it.
    have barred : phase key h.tables = 2 → claims key (operation, answer) = false := by
      intro terminal
      cases claimed : claims key (operation, answer) with
      | false => rfl
      | true =>
        have pending := (advances.claimed claimed).1
        omega
    refine ⟨?_, ?_, ?_⟩
    · dsimp only
      rw [List.countP_append, List.countP_singleton]
      cases claimed : claims key (operation, answer) with
      | false =>
        have once := logged.once
        simpa using once
      | true =>
        have none : h.log.countP (claims key) = 0 := by
          rw [List.countP_eq_zero]
          intro entry member before
          have terminal := logged.spent entry member (.inl before)
          rw [barred terminal] at claimed
          cases claimed
        rw [none]
        simp
    · rw [List.pairwise_append]
      refine ⟨logged.ordered, List.pairwise_singleton .., ?_⟩
      intro entry member last isLast ends
      rw [List.mem_singleton] at isLast
      rw [isLast]
      exact barred (logged.spent entry member (.inr ends))
    · intro entry member marks
      have bound := phase_le_two key after
      have forward := advances.forward
      rcases List.mem_append.mp member with old | new
      · have terminal := logged.spent entry old marks
        dsimp only
        omega
      · rw [List.mem_singleton] at new
        rw [new] at marks
        rcases marks with claimed | ends
        · exact (advances.claimed claimed).2
        · exact advances.completed ends

/-- For one request, over every run of claims, settlements, refusals and events from any tables:
at most one claim succeeds, none after a completed event has been applied, and a response state
that is not pending is never pending afterwards. -/
theorem claims_are_exclusive_and_final (uuid5 : String → String) (key : RequestKey)
    (tables : Tables) (operations : List Operation) (h : History)
    (reached : run (step uuid5) { tables } operations = some h) :
    h.log.countP (claims key) ≤ 1 ∧
      (h.log.Pairwise fun earlier later =>
        completes key earlier = true → claims key later = false) ∧
      ∀ first second middle, operations = first ++ second →
        run (step uuid5) { tables } first = some middle →
          ∀ row, middle.tables.request key = some row → row.responseState ≠ .pending →
            ∃ later, h.tables.request key = some later ∧ later.responseState ≠ .pending := by
  have start : Logged key { tables } := by
    refine ⟨Nat.zero_le _, List.Pairwise.nil, ?_⟩
    intro entry member
    cases member
  have logged : Logged key h :=
    run_inv (fun _ _ _ logged taken => step_logged logged taken) start reached
  refine ⟨logged.once, logged.ordered, ?_⟩
  rintro first second middle rfl halfway row found left
  rw [run_append, halfway, Option.bind_some] at reached
  have terminal : phase key h.tables = 2 := by
    refine @run_inv _ _ _ (fun h : History => phase key h.tables = 2) ?_ _ _ _ ?_ reached
    · intro s operation t before taken
      have forward := @step_forward uuid5 key operation s t taken
      have bound := phase_le_two key t.tables
      omega
    · rw [phase_of_row found, if_neg left]
  unfold phase at terminal
  split at terminal
  · cases terminal
  · next later found =>
    refine ⟨later, found, ?_⟩
    intro pending
    rw [if_pos pending] at terminal
    cases terminal

/-- A request, its claim, a second claim, and its completion before a third one. -/
def claimedTwice : List Operation :=
  let key : RequestKey := { sdkSessionId := "session", generation := 1, requestId := "request" }
  let event := fun rawType id : String => Operation.event
    { sdkSessionId := "session", generation := 1, rawType, eventId := some id,
      requestId := some "request", bodyDigest := some id, now := 1 }
  let claim := Operation.claim
    { key, ownerFenceToken := 7, responseDigest := some "digest", now := 2 }
  [event "sampling.requested" "first", claim, claim, event "sampling.completed" "second", claim]

/-- The `uuid5` of the attempt. -/
def attemptUuid (_ : String) : String := "4b3e2011-cdcd-56be-a878-74472c03716d"

theorem claims_are_exclusive_and_final_claimedTwice :
    let key : RequestKey := { sdkSessionId := "session", generation := 1, requestId := "request" }
    ∃ h, run (step attemptUuid) { tables := {} } claimedTwice = some h ∧
      h.log.countP (claims key) = 1 ∧ h.log.countP (completes key) = 1 ∧
      h.log.countP (claims key) ≤ 1 := by
  intro key
  have ends : ∃ h ∈ run (step attemptUuid) { tables := {} } claimedTwice,
      h.log.countP (claims key) = 1 ∧ h.log.countP (completes key) = 1 := by decide +kernel
  obtain ⟨h, reached, once, completed⟩ := ends
  exact ⟨h, reached, once, completed,
    (claims_are_exclusive_and_final attemptUuid key {} claimedTwice h reached).1⟩

/-! ## The order of the wire events -/

/-- One delivery of the requested or of the completed event of a request. -/
structure Delivery where
  completed : Bool
  eventId : String
  digest : String
  now : ℚ

def Delivery.event (key : RequestKey) (kind : String × String) (delivery : Delivery) :
    ProtocolEvent :=
  { sdkSessionId := key.sdkSessionId
    generation := key.generation
    rawType := if delivery.completed then kind.2 else kind.1
    eventId := some delivery.eventId
    requestId := some key.requestId
    bodyDigest := some delivery.digest
    now := delivery.now }

def deliver (key : RequestKey) (kind : String × String) (tables : Tables)
    (deliveries : List Delivery) : Tables :=
  deliveries.foldl
    (fun tables delivery => (applyProtocolEvent tables (delivery.event key kind)).1) tables

/-- The response state that the first event leads to, before and after the completion. -/
def responseAfter (plane : ResponsePlane) (completedFirst completed : Bool) : ResponseState :=
  if completedFirst then .completed
  else if completed then completedState (initialResponseState plane)
  else initialResponseState plane

def wireAfter (requested completed : Bool) : WireState :=
  if requested && completed then .paired
  else if requested then .requested
  else .completedBeforeRequested

/-- The row after some of the events; the flags say which have been seen, and first. -/
structure Follows (kind : String × String) (completedFirst requested completed : Bool)
    (row : ProtocolRequest) : Prop where
  requestedId : row.requestedEventId.isSome = requested
  completedId : row.completedEventId.isSome = completed
  plane : row.responsePlane = responsePlaneOf kind.1
  wire : row.wireState = wireAfter requested completed
  response : row.responseState = responseAfter (responsePlaneOf kind.1) completedFirst completed

theorem eventKind_of_kind {kind : String × String} (known : kind ∈ requestCompletionTypes) :
    eventKind kind.1 = some .requested ∧ eventKind kind.2 = some (.completed kind.1) := by
  revert kind
  decide +kernel

theorem plane_of_kind {kind : String × String} (known : kind ∈ requestCompletionTypes) :
    responsePlaneOf kind.1 ≠ .journal := by
  revert kind
  decide +kernel

theorem completedState_idem (state : ResponseState) :
    completedState (completedState state) = completedState state := by
  unfold completedState
  split <;> rfl

theorem responseAfter_completed (plane : ResponsePlane) (completedFirst completed : Bool) :
    completedState (responseAfter plane completedFirst completed) =
      responseAfter plane completedFirst true := by
  cases completedFirst with
  | true => rfl
  | false =>
    cases completed with
    | true => exact completedState_idem _
    | false => rfl

section Wire

variable {kind : String × String} {tables : Tables} {key : RequestKey} {delivery : Delivery}

theorem deliver_requested (known : kind ∈ requestCompletionTypes)
    (is : delivery.completed = false) :
    applyProtocolEvent tables (delivery.event key kind) =
      applyRequested tables (delivery.event key kind) key delivery.digest := by
  have isKind := (eventKind_of_kind known).1
  unfold applyProtocolEvent Delivery.event
  simp only [is, isKind, Bool.false_eq_true, if_false]

theorem deliver_completed (known : kind ∈ requestCompletionTypes)
    (is : delivery.completed = true) :
    applyProtocolEvent tables (delivery.event key kind) =
      applyCompleted tables (delivery.event key kind) key kind.1 delivery.digest := by
  have isKind := (eventKind_of_kind known).2
  unfold applyProtocolEvent Delivery.event
  simp only [is, isKind, if_true]

theorem request_insertRequest (absent : tables.request row.key = none)
    (hasId : ¬ (row.requestedEventId.isNone && row.completedEventId.isNone) = true) :
    (tables.insertRequest row).1.request row.key = some row := by
  have none : Table.lookup ProtocolRequest.key row.key tables.requests = none := absent
  unfold Tables.insertRequest Tables.request
  rw [if_neg hasId]
  rw [Table.lookup_append, none, Option.none_or]
  simp [Table.lookup]

theorem first_delivery (known : kind ∈ requestCompletionTypes)
    (absent : tables.request key = none) :
    ∃ row, (applyProtocolEvent tables (delivery.event key kind)).1.request key = some row ∧
      Follows kind delivery.completed (!delivery.completed) delivery.completed row := by
  cases is : delivery.completed with
  | false =>
    rw [deliver_requested known is]
    unfold applyRequested
    rw [absent]
    refine ⟨_, request_insertRequest absent (by simp [Delivery.event]), ?_⟩
    have type : (delivery.event key kind).rawType = kind.1 := by simp [Delivery.event, is]
    exact ⟨rfl, rfl, congrArg responsePlaneOf type, rfl,
      congrArg (fun type => initialResponseState (responsePlaneOf type)) type⟩
  | true =>
    rw [deliver_completed known is]
    unfold applyCompleted
    rw [absent]
    refine ⟨_, request_insertRequest absent (by simp [Delivery.event]), ?_⟩
    exact ⟨rfl, rfl, rfl, rfl, rfl⟩

theorem request_updated {set : ProtocolRequest → ProtocolRequest}
    (found : tables.request key = some row) (same : ∀ row, (set row).key = row.key) :
    (tables.updateRequest key (fun _ => true) set).request key = some (set row) := by
  have isKey : row.key = key := Table.lookup_some_key found
  rw [request_updateRequest same, found, Option.map_some, isKey]
  rw [if_pos (by simp)]

theorem next_delivery {completedFirst requested completed : Bool}
    (known : kind ∈ requestCompletionTypes) (found : tables.request key = some row)
    (follows : Follows kind completedFirst requested completed row) :
    ∃ next, (applyProtocolEvent tables (delivery.event key kind)).1.request key = some next ∧
      Follows kind completedFirst (requested || !delivery.completed)
        (completed || delivery.completed) next := by
  cases is : delivery.completed with
  | false =>
    rw [deliver_requested known is]
    unfold applyRequested
    rw [found]
    refine ⟨_, request_updated found (by intro row; rfl), ?_⟩
    have type : (delivery.event key kind).rawType = kind.1 := by simp [Delivery.event, is]
    rw [Bool.not_false, Bool.or_true, Bool.or_false]
    refine ⟨?_, follows.completedId, congrArg responsePlaneOf type, ?_, ?_⟩
    · simp [pairRequested, Delivery.event]
    · unfold pairRequested wireAfter
      rw [follows.completedId]
      cases completed <;> rfl
    · unfold pairRequested
      rw [follows.completedId, follows.response]
      cases completed with
      | false => rfl
      | true => exact responseAfter_completed _ _ true
  | true =>
    rw [deliver_completed known is]
    unfold applyCompleted
    rw [found]
    refine ⟨_, request_updated found (by intro row; rfl), ?_⟩
    rw [Bool.not_true, Bool.or_false, Bool.or_true]
    refine ⟨follows.requestedId, ?_, follows.plane, ?_, ?_⟩
    · simp [pairCompleted, Delivery.event]
    · unfold pairCompleted wireAfter
      rw [← follows.requestedId]
      cases row.requestedEventId <;> rfl
    · unfold pairCompleted
      rw [follows.response]
      exact responseAfter_completed _ _ _

theorem deliver_follows {completedFirst requested completed : Bool}
    (known : kind ∈ requestCompletionTypes) (deliveries : List Delivery)
    (found : tables.request key = some row)
    (follows : Follows kind completedFirst requested completed row) :
    ∃ last, (deliver key kind tables deliveries).request key = some last ∧
      Follows kind completedFirst (requested || deliveries.any fun delivery => !delivery.completed)
        (completed || deliveries.any (·.completed)) last := by
  induction deliveries generalizing tables row requested completed with
  | nil =>
    refine ⟨row, found, ?_⟩
    rw [List.any_nil, List.any_nil, Bool.or_false, Bool.or_false]
    exact follows
  | cons delivery rest ih =>
    obtain ⟨next, updated, follows⟩ := @next_delivery _ kind tables key delivery _ _ _ known found
      follows
    obtain ⟨last, final, follows⟩ := ih updated follows
    refine ⟨last, final, ?_⟩
    rw [List.any_cons, List.any_cons, ← Bool.or_assoc, ← Bool.or_assoc]
    exact follows

end Wire

/-- The requested and the completed event of a request that has no row, each any number of times
and in any order, leave it paired, on the plane of its kind.  A request that copilotd answers is
completed.  One that is delegated to a handler is left delegated when the requested event came
first, and completed when the completed event did. -/
theorem wire_events_converge (kind : String × String) (known : kind ∈ requestCompletionTypes)
    (key : RequestKey) (tables : Tables) (absent : tables.request key = none) (first : Delivery)
    (rest : List Delivery) (requested : ∃ delivery ∈ first :: rest, delivery.completed = false)
    (completed : ∃ delivery ∈ first :: rest, delivery.completed = true) :
    ∃ row, (deliver key kind tables (first :: rest)).request key = some row ∧
      row.wireState = .paired ∧ row.responsePlane = responsePlaneOf kind.1 ∧
      row.responseState =
        if responsePlaneOf kind.1 ≠ .appRpc ∧ first.completed = false then .delegated
        else .completed := by
  obtain ⟨row, inserted, follows⟩ := @first_delivery kind tables key first known absent
  obtain ⟨last, found, follows⟩ := deliver_follows known rest inserted follows
  have allRequested :
    (!first.completed || rest.any fun delivery => !delivery.completed) = true := by
    obtain ⟨delivery, member, is⟩ := requested
    rcases List.mem_cons.mp member with rfl | later
    · rw [is]
      rfl
    · rw [Bool.or_eq_true, List.any_eq_true]
      exact .inr ⟨delivery, later, by rw [is]; rfl⟩
  have allCompleted : (first.completed || rest.any (·.completed)) = true := by
    obtain ⟨delivery, member, is⟩ := completed
    rcases List.mem_cons.mp member with rfl | later
    · rw [is]
      rfl
    · rw [Bool.or_eq_true, List.any_eq_true]
      exact .inr ⟨delivery, later, is⟩
  rw [allRequested, allCompleted] at follows
  refine ⟨last, found, follows.wire, follows.plane, ?_⟩
  rw [follows.response]
  have planes := plane_of_kind known
  cases first.completed with
  | true => simp [responseAfter]
  | false =>
    generalize responsePlaneOf kind.1 = plane at planes
    cases plane with
    | journal => exact absurd rfl planes
    | sdkHandler | directHandler | appRpc => decide

/-- The final wire state, response plane and response state do not depend on the order and the
number of the deliveries. -/
def Converges (kind : String × String) (key : RequestKey) (tables : Tables)
    (one other : List Delivery) : Prop :=
  ((deliver key kind tables one).request key).map
      (fun row => (row.wireState, row.responsePlane, row.responseState)) =
    ((deliver key kind tables other).request key).map
      fun row => (row.wireState, row.responsePlane, row.responseState)

def requestDelivery : Delivery := { completed := false, eventId := "a", digest := "a", now := 1 }

def completionDelivery : Delivery := { completed := true, eventId := "b", digest := "b", now := 2 }

/-- A permission request ends delegated in one order and completed in the other. -/
theorem permission_order_matters :
    ¬ Converges ("permission.requested", "permission.completed")
      { sdkSessionId := "session", generation := 1, requestId := "request" } {}
      [requestDelivery, completionDelivery] [completionDelivery, requestDelivery] := by
  unfold Converges
  decide +kernel

theorem wire_events_converge_sampling :
    ∃ row, (deliver { sdkSessionId := "session", generation := 1, requestId := "request" }
        ("sampling.requested", "sampling.completed") {}
        [completionDelivery, requestDelivery, completionDelivery]).request
          { sdkSessionId := "session", generation := 1, requestId := "request" } = some row ∧
      row.wireState = .paired ∧ row.responseState = .completed := by
  have converges := wire_events_converge ("sampling.requested", "sampling.completed")
    (by decide) { sdkSessionId := "session", generation := 1, requestId := "request" } {} rfl
    completionDelivery [requestDelivery, completionDelivery]
    ⟨requestDelivery, by simp, rfl⟩ ⟨completionDelivery, by simp, rfl⟩
  obtain ⟨row, found, wire, _, response⟩ := converges
  refine ⟨row, found, wire, ?_⟩
  rw [response]
  decide +kernel

end Copilotd.Guarantees.ProtocolRequests
