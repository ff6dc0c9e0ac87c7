import Mathlib.Algebra.Order.Ring.Rat
import Copilotd.Base.Dict
import Copilotd.Base.Table

/-!
# Protocol requests

Source: `core/protocol.py` (`ProtocolResponseRepository.claim`, `settle`, `mark_unsupported`
and `apply_protocol_event`) over `protocol_requests` and `protocol_response_attempts`
(`migrations/0016_protocol_response_state.sql`, `0052_state_only_storage.sql`).

Each function is one database transaction, so that one operation is one step.  An exception
leaves the tables as they were.  The content store only decides whether an operation goes on:
the digest of the stored body comes with the operation, and `none` is
`VolatileContentCapacityError`.  Left out: the payload columns, which are always NULL, and the
deletion of stored bodies.  `uuid5` over the URL namespace is a parameter.
-/
namespace Copilotd.Source.Core.Protocol

open Base

/-! ## Kinds of requests -/

def requestCompletionTypes : List (String × String) :=
  [("permission.requested", "permission.completed"),
    ("user_input.requested", "user_input.completed"),
    ("elicitation.requested", "elicitation.completed"),
    ("exit_plan_mode.requested", "exit_plan_mode.completed"),
    ("session_limits_exhausted.requested", "session_limits_exhausted.completed"),
    ("sampling.requested", "sampling.completed"),
    ("mcp.oauth_required", "mcp.oauth_completed"),
    ("mcp.headers_refresh_required", "mcp.headers_refresh_completed"),
    ("external_tool.requested", "external_tool.completed"),
    ("auto_mode_switch.requested", "auto_mode_switch.completed")]

def completionRequestTypes : List (String × String) :=
  requestCompletionTypes.map fun entry => (entry.2, entry.1)

inductive ResponsePlane where
  | sdkHandler | directHandler | appRpc | journal
  deriving DecidableEq

def responsePlanes : List (String × ResponsePlane) :=
  [("permission.requested", .sdkHandler),
    ("external_tool.requested", .sdkHandler),
    ("elicitation.requested", .sdkHandler),
    ("mcp.oauth_required", .sdkHandler),
    ("user_input.requested", .directHandler),
    ("exit_plan_mode.requested", .directHandler),
    ("auto_mode_switch.requested", .directHandler),
    ("session_limits_exhausted.requested", .appRpc),
    ("sampling.requested", .appRpc),
    ("mcp.headers_refresh_required", .appRpc)]

/-- `_RESPONSE_PLANES.get(requested_type, "journal")`. -/
def responsePlaneOf (requestedType : String) : ResponsePlane :=
  (Dict.get requestedType responsePlanes).getD .journal

/-! ## Tables -/

inductive WireState where
  | requested | paired | completedBeforeRequested
  deriving DecidableEq

/-- The states with which `settle` may be called. -/
inductive SettledState where
  | confirmed | rejected | unknown | unsupported
  deriving DecidableEq

def SettledState.ofString : String → Option SettledState
  | "confirmed" => some .confirmed
  | "rejected" => some .rejected
  | "unknown" => some .unknown
  | "unsupported" => some .unsupported
  | _ => none

inductive ResponseState where
  | pending | delegated | notApplicable | responding | completed
  | settled (state : SettledState)
  deriving DecidableEq

/-- `'unsupported'`, which `mark_unsupported` writes as well. -/
def ResponseState.unsupported : ResponseState := .settled .unsupported

/-- A row of `protocol_requests`. -/
structure ProtocolRequest where
  sdkSessionId : String
  generation : Int
  requestId : String
  requestedType : Option String := none
  requestedEventId : Option String := none
  requestedHash : Option String := none
  requestedAt : Option ℚ := none
  completedType : Option String := none
  completedEventId : Option String := none
  completedHash : Option String := none
  completedAt : Option ℚ := none
  wireState : WireState
  responsePlane : ResponsePlane
  responseState : ResponseState
  responseAttemptId : Option String := none
  respondedAt : Option ℚ := none
  updatedAt : ℚ

/-- The primary key of `protocol_requests`. -/
structure RequestKey where
  sdkSessionId : String
  generation : Int
  requestId : String
  deriving DecidableEq

def ProtocolRequest.key (row : ProtocolRequest) : RequestKey :=
  { sdkSessionId := row.sdkSessionId, generation := row.generation, requestId := row.requestId }

/-- A row of `protocol_response_attempts`; `state = none` is `'started'`. -/
structure ResponseAttempt where
  attemptId : String
  sdkSessionId : String
  generation : Int
  ownerFenceToken : Int
  requestId : String
  responsePlane : ResponsePlane
  responseHash : String
  state : Option SettledState := none
  errorCode : Option String := none
  startedAt : ℚ
  settledAt : Option ℚ := none

structure Tables where
  requests : List ProtocolRequest := []
  attempts : List ResponseAttempt := []

def Tables.request (tables : Tables) (key : RequestKey) : Option ProtocolRequest :=
  Table.lookup ProtocolRequest.key key tables.requests

/-- `UPDATE protocol_requests SET … WHERE` the key matches and the row satisfies `hit`. -/
def Tables.updateRequest (tables : Tables) (key : RequestKey) (hit : ProtocolRequest → Bool)
    (set : ProtocolRequest → ProtocolRequest) : Tables :=
  { tables with
    requests := Table.updateWhere (fun row => row.key = key && hit row) set tables.requests }

/-! ## Responses -/

structure ProtocolResponseClaim where
  attemptId : String
  key : RequestKey
  ownerFenceToken : Int
  requestedType : String
  responsePlane : ResponsePlane

/-- How an operation ends for its caller. -/
inductive Answer where
  | claimed (claim : ProtocolResponseClaim)
  | refused
  | returned (value : Bool)
  | raised (error : String)

structure ClaimArguments where
  key : RequestKey
  ownerFenceToken : Int
  responseDigest : Option String
  now : ℚ

def attemptIdOf (uuid5 : String → String) (key : RequestKey) : String :=
  uuid5 ("copilotd:" ++ key.sdkSessionId ++ ":" ++ toString key.generation ++ ":protocol:" ++
    key.requestId)

/-- The conditions of `claim` on the row it has read. -/
def claimable (row : ProtocolRequest) : Bool :=
  row.requestedEventId.isSome && row.completedEventId.isNone && row.responsePlane = .appRpc &&
    row.responseState = .pending

/-- The conditions of its UPDATE. -/
def unclaimed (row : ProtocolRequest) : Bool :=
  row.responseState = .pending && row.completedEventId.isNone

/-- The primary key or the UNIQUE columns of an attempt are taken. -/
def Tables.attempted (tables : Tables) (attemptId : String) (key : RequestKey) : Bool :=
  tables.attempts.any fun attempt => attempt.attemptId = attemptId ||
    (attempt.sdkSessionId = key.sdkSessionId && attempt.generation = key.generation &&
      attempt.requestId = key.requestId && attempt.responsePlane = .appRpc)

def Tables.claimRequest (tables : Tables) (attemptId responseDigest : String)
    (arguments : ClaimArguments) : Tables :=
  let updated := tables.updateRequest arguments.key unclaimed fun row =>
    { row with
      responseState := .responding
      responseAttemptId := some attemptId
      updatedAt := arguments.now }
  { updated with
    attempts := updated.attempts ++
      [{ attemptId
         sdkSessionId := arguments.key.sdkSessionId
         generation := arguments.key.generation
         ownerFenceToken := arguments.ownerFenceToken
         requestId := arguments.key.requestId
         responsePlane := .appRpc
         responseHash := responseDigest
         startedAt := arguments.now }] }

def claim (uuid5 : String → String) (tables : Tables) (arguments : ClaimArguments) :
    Tables × Answer :=
  let attemptId := attemptIdOf uuid5 arguments.key
  match arguments.responseDigest with
  | none => (tables, .raised "content_capacity_exceeded")
  | some responseDigest =>
    match tables.request arguments.key with
    | none => (tables, .refused)
    | some row =>
      if !claimable row then (tables, .refused)
      else if Table.rowcount (fun row => row.key = arguments.key && unclaimed row)
          tables.requests ≠ 1 then (tables, .refused)
      else if tables.attempted attemptId arguments.key then (tables, .raised "IntegrityError")
      else
        (tables.claimRequest attemptId responseDigest arguments,
          .claimed
            { attemptId
              key := arguments.key
              ownerFenceToken := arguments.ownerFenceToken
              requestedType := row.requestedType.getD "None"
              responsePlane := .appRpc })

structure SettleArguments where
  claim : ProtocolResponseClaim
  state : String
  errorCode : Option String := none
  now : ℚ

def settle (tables : Tables) (arguments : SettleArguments) : Tables × Answer :=
  match SettledState.ofString arguments.state with
  | none => (tables, .raised ("invalid protocol response state: " ++ arguments.state))
  | some state =>
    let started := fun attempt : ResponseAttempt =>
      attempt.attemptId = arguments.claim.attemptId && attempt.state.isNone
    if Table.rowcount started tables.attempts ≠ 1 then
      (tables, .raised "protocol response attempt was already settled")
    else
      let settled :=
        { tables with
          attempts := Table.updateWhere started
            (fun attempt =>
              { attempt with
                state := some state
                errorCode := arguments.errorCode
                settledAt := some arguments.now })
            tables.attempts }
      (settled.updateRequest arguments.claim.key
        (fun row => row.responseAttemptId = some arguments.claim.attemptId &&
          row.responseState = .responding)
        (fun row =>
          { row with
            responseState := .settled state
            respondedAt := some arguments.now
            updatedAt := arguments.now }),
        .returned true)

def markUnsupported (tables : Tables) (key : RequestKey) (now : ℚ) : Tables × Answer :=
  (tables.updateRequest key (fun row => row.responseState = .pending)
    (fun row => { row with responseState := .unsupported, updatedAt := now }),
    .returned true)

/-! ## Events -/

/-- The parts of an `AdaptedEvent` and of its data that are used; `requestId` is the text of
`data["requestId"]`. -/
structure ProtocolEvent where
  sdkSessionId : String
  generation : Int
  rawType : String
  eventId : Option String
  requestId : Option String
  bodyDigest : Option String
  now : ℚ

/-- The initial `response_state` of a requested event. -/
def initialResponseState (plane : ResponsePlane) : ResponseState :=
  if plane = .appRpc then .pending
  else if plane = .sdkHandler ∨ plane = .directHandler then .delegated
  else .notApplicable

def completedState (state : ResponseState) : ResponseState :=
  if state ∈ [.pending, .notApplicable, .unsupported] then .completed else state

/-- INSERT, with the CHECK that one of the two event ids is there. -/
def Tables.insertRequest (tables : Tables) (row : ProtocolRequest) : Tables × Answer :=
  if row.requestedEventId.isNone && row.completedEventId.isNone then
    (tables, .raised "IntegrityError")
  else ({ tables with requests := tables.requests ++ [row] }, .returned true)

def pairRequested (event : ProtocolEvent) (plane : ResponsePlane) (digest : String)
    (current row : ProtocolRequest) : ProtocolRequest :=
  { row with
    requestedType := row.requestedType.or (some event.rawType)
    requestedEventId := row.requestedEventId.or event.eventId
    requestedHash := row.requestedHash.or (some digest)
    requestedAt := row.requestedAt.or (some event.now)
    wireState := if current.completedEventId.isSome then .paired else .requested
    responsePlane := plane
    responseState :=
      if current.completedEventId.isSome then completedState current.responseState
      else current.responseState
    updatedAt := event.now }

def applyRequested (tables : Tables) (event : ProtocolEvent) (key : RequestKey)
    (digest : String) : Tables × Answer :=
  let plane := responsePlaneOf event.rawType
  match tables.request key with
  | none =>
    tables.insertRequest
      { sdkSessionId := key.sdkSessionId
        generation := key.generation
        requestId := key.requestId
        requestedType := some event.rawType
        requestedEventId := event.eventId
        requestedHash := some digest
        requestedAt := some event.now
        wireState := .requested
        responsePlane := plane
        responseState := initialResponseState plane
        updatedAt := event.now }
  | some current =>
    (tables.updateRequest key (fun _ => true) (pairRequested event plane digest current),
      .returned true)

/-- The completed event of a request that has a row. -/
def pairCompleted (event : ProtocolEvent) (digest : String) (current row : ProtocolRequest) :
    ProtocolRequest :=
  { row with
    completedType := row.completedType.or (some event.rawType)
    completedEventId := row.completedEventId.or event.eventId
    completedHash := row.completedHash.or (some digest)
    completedAt := row.completedAt.or (some event.now)
    wireState := if row.requestedEventId.isNone then .completedBeforeRequested else .paired
    responseState := completedState current.responseState
    updatedAt := event.now }

def applyCompleted (tables : Tables) (event : ProtocolEvent) (key : RequestKey)
    (requestedType digest : String) : Tables × Answer :=
  match tables.request key with
  | none =>
    tables.insertRequest
      { sdkSessionId := key.sdkSessionId
        generation := key.generation
        requestId := key.requestId
        completedType := some event.rawType
        completedEventId := event.eventId
        completedHash := some digest
        completedAt := some event.now
        wireState := .completedBeforeRequested
        responsePlane := responsePlaneOf requestedType
        responseState := .completed
        updatedAt := event.now }
  | some current =>
    (tables.updateRequest key (fun _ => true) (pairCompleted event digest current),
      .returned true)

inductive EventKind where
  | requested
  | completed (requestedType : String)
  deriving DecidableEq

/-- `is_requested` and `is_completed`. -/
def eventKind (rawType : String) : Option EventKind :=
  if (Dict.get rawType requestCompletionTypes).isSome then some .requested
  else (Dict.get rawType completionRequestTypes).map .completed

def applyProtocolEvent (tables : Tables) (event : ProtocolEvent) : Tables × Answer :=
  match event.requestId, eventKind event.rawType with
  | none, _ | some _, none => (tables, .returned false)
  | some requestId, some kind =>
    let key : RequestKey :=
      { sdkSessionId := event.sdkSessionId, generation := event.generation, requestId }
    match event.bodyDigest with
    | none => (tables, .raised "content_capacity_exceeded")
    | some digest =>
      match kind with
      | .requested => applyRequested tables event key digest
      | .completed requestedType => applyCompleted tables event key requestedType digest

/-! ## Operations -/

inductive Operation where
  | claim (arguments : ClaimArguments)
  | settle (arguments : SettleArguments)
  | markUnsupported (key : RequestKey) (now : ℚ)
  | event (event : ProtocolEvent)

def perform (uuid5 : String → String) (tables : Tables) : Operation → Tables × Answer
  | .claim arguments => claim uuid5 tables arguments
  | .settle arguments => settle tables arguments
  | .markUnsupported key now => markUnsupported tables key now
  | .event event => applyProtocolEvent tables event

end Copilotd.Source.Core.Protocol
