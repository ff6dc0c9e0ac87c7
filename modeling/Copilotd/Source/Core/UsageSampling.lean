import Copilotd.Base.Json
import Copilotd.Base.Run

/-!
# Usage samples

Source: `core/reducer.py` (`_USAGE_TYPES`, `_persist_transaction`, the samples of
`_apply_domain_state`, `_find_nested_value`, `_integer_or_none`, `_float_or_none`).

A journal row stands for the event that it was inserted from; the uniqueness constraints read
its columns.  A transaction that raises leaves the database, so a run consists of those that
commit.  A cell of a sample is the value that is bound.  Left out: the usage projections, the
snapshots, and what the other handlers write.
-/
namespace Copilotd.Source.Core.UsageSampling

open Base

variable {Real : Type}

structure Conversions (Real : Type) extends Json.Python where
  /-- `float(value)`; it may raise. -/
  float : Json → Option Real

structure AdaptedEvent (Real : Type) where
  sdkSessionId : String
  generation : Int
  inboxSeq : Int
  eventId : Option String := none
  internalEventId : Option String := none
  turnId : Option String := none
  rawType : String
  rawPayload : List (String × Json)
  receivedAt : Real

/-- A row of `usage_samples`. -/
structure UsageSample (Real : Type) where
  sessionId : String
  turnId : Option String
  model : Option Json
  inputTokens : Option Json
  outputTokens : Option Json
  cacheReadTokens : Option Json
  cacheWriteTokens : Option Json
  nanoAiu : Option Json
  premiumRequests : Option (Json ⊕ Real)
  observedAt : Real

structure Db (Real : Type) where
  journal : List (AdaptedEvent Real) := []
  samples : List (UsageSample Real) := []

/-! ## Values of a payload -/

/-- `isinstance(value, (str, int, float))`; a boolean is an integer. -/
def isScalar : Json → Bool
  | .str _ | .int _ | .float _ | .bool _ => true
  | _ => false

mutual

def findNestedValue (key : String) : Json → Option Json
  | .dict items =>
    match (Dict.get key items).filter isScalar with
    | some value => some value
    | none => findInValues key items
  | _ => none

/-- The loop over `value.values()`. -/
def findInValues (key : String) : List (String × Json) → Option Json
  | [] => none
  | (_, nested) :: rest =>
    match findNestedValue key nested with
    | some found => some found
    | none => findInValues key rest

end

/-- `first or second` -/
def orElse (first second : Option Json) : Option Json :=
  if first.any Json.truthy then first else second

def integerOrNone (python : Conversions Real) (value : Option Json) : Option Json :=
  (value.bind (Json.toInt python.toPython)).map Json.int

def floatOrNone (python : Conversions Real) (value : Option Json) : Option Real :=
  value.bind python.float

/-- `event.raw_payload.get("data", event.raw_payload)`, if it is a dictionary. -/
def AdaptedEvent.data (event : AdaptedEvent Real) : Option Json :=
  match Dict.get "data" event.rawPayload with
  | none => some (.dict event.rawPayload)
  | some (.dict items) => some (.dict items)
  | some _ => none

/-! ## The samples of one event -/

def usageTypes : List String :=
  ["assistant.usage", "session.usage_checkpoint", "session.usage_info"]

/-- The types of the second branch, which reads `observed_at`. -/
def projectedTypes : List String :=
  ["assistant.usage", "session.usage_info", "session.usage_checkpoint", "copilotd.usage.observed"]

/-- The row that every usage type inserts. -/
def usageSample (python : Conversions Real) (event : AdaptedEvent Real) (data : Json) :
    UsageSample Real :=
  { sessionId := event.sdkSessionId
    turnId := event.turnId
    model := orElse (findNestedValue "model" data) (findNestedValue "currentModel" data)
    inputTokens := integerOrNone python (findNestedValue "inputTokens" data)
    outputTokens := integerOrNone python (findNestedValue "outputTokens" data)
    cacheReadTokens := integerOrNone python (findNestedValue "cacheReadTokens" data)
    cacheWriteTokens := integerOrNone python (findNestedValue "cacheWriteTokens" data)
    nanoAiu := integerOrNone python
      (orElse (findNestedValue "nanoAiu" data) (findNestedValue "totalNanoAiu" data))
    premiumRequests := (floatOrNone python
      (orElse (findNestedValue "premiumRequests" data)
        (findNestedValue "totalPremiumRequestCost" data))).map .inr
    observedAt := event.receivedAt }

/-- The row of the `assistant.usage` handler. -/
def assistantUsageSample (event : AdaptedEvent Real) (values : Json) (observedAt : Real) :
    UsageSample Real :=
  { sessionId := event.sdkSessionId
    turnId := event.turnId
    model := findNestedValue "model" values
    inputTokens := findNestedValue "inputTokens" values
    outputTokens := findNestedValue "outputTokens" values
    cacheReadTokens := findNestedValue "cacheReadTokens" values
    cacheWriteTokens := findNestedValue "cacheWriteTokens" values
    nanoAiu := findNestedValue "nanoAiu" values
    premiumRequests := (findNestedValue "premiumRequests" values).map .inl
    observedAt }

/-- `float(data.get("observed_at", event.received_at))` -/
def observedAt (python : Conversions Real) (event : AdaptedEvent Real) (data : Json) :
    Option Real :=
  match data.get? "observed_at" with
  | none => some event.receivedAt
  | some value => python.float value

/-- `_apply_domain_state`, on the samples. -/
def applyDomainState (python : Conversions Real) (event : AdaptedEvent Real)
    (samples : List (UsageSample Real)) : Option (List (UsageSample Real)) :=
  match event.data with
  | none => some samples
  | some data =>
    let samples :=
      if event.rawType ∈ usageTypes then samples ++ [usageSample python event data] else samples
    if event.rawType ∈ projectedTypes then
      (observedAt python event data).map fun observedAt =>
        if event.rawType = "assistant.usage" then
          samples ++ [assistantUsageSample event data observedAt]
        else samples
    else some samples

/-! ## Transactions -/

/-- Two journal rows that a uniqueness constraint forbids. -/
def conflicts (event other : AdaptedEvent Real) : Bool :=
  event.sdkSessionId = other.sdkSessionId ∧
    (event.generation = other.generation ∧ event.inboxSeq = other.inboxSeq ∨
      event.eventId.isSome ∧ event.eventId = other.eventId ∨
      event.internalEventId.isSome ∧ event.internalEventId = other.internalEventId)

/-- An event of a batch, and whether the binding still owns its generation and fence (or the
reducer does not ask). -/
structure Delivery (Real : Type) where
  event : AdaptedEvent Real
  owned : Bool := true

/-- One turn of the loop of `_persist_transaction`. -/
def persistEvent (python : Conversions Real) (db : Db Real) (delivery : Delivery Real) :
    Option (Db Real) :=
  if !delivery.owned then some db
  else if db.journal.any (conflicts delivery.event) then some db
  else
    (applyDomainState python delivery.event db.samples).map fun samples =>
      { journal := db.journal ++ [delivery.event], samples }

/-- `_persist_transaction`; `none` is a transaction that raises. -/
def persistTransaction (python : Conversions Real) :
    Db Real → List (Delivery Real) → Option (Db Real) :=
  Run.run (persistEvent python)

end Copilotd.Source.Core.UsageSampling
