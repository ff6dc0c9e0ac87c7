import Copilotd.Source.Core.UsageSampling
import Copilotd.Source.Render.Outbox

/-!
# Render streams

Source: `core/reducer.py` (`_SUBMISSION_FAILURE_STATES`, `RenderPlanner.plan`,
`_persist_transaction`, `_recover_volatile_event`, `_submission_render_payload`,
`_materialize_render_payload`, `_accumulate_render_stream` and its call in
`_apply_domain_state`), on events of the type `assistant.message_delta`.

The answer of `_turn_render_context` comes with the event: other tables decide it.  The
workers of the outbox come in between and leave what they like.  A transaction that raises
leaves no trace, and an event whose fence is lost is not persisted, so a run consists of the
events that are.  Two content keys are equal only if their parts are.  Left out: the bounds of
the content store, the projections, and the bookkeeping of the binding and of the turn.
-/
namespace Copilotd.Source.Core.RenderStreams

open Base
open Source.Render.Outbox (Payload RenderIntent Settings Store keepsFinal holdsContent
  queueRenderIntent recoverRenderIntent)

structure DeltaEvent extends UsageSampling.AdaptedEvent ℚ where
  messageId : Option String := none
  agentId : Option String := none
  rawType_eq : rawType = "assistant.message_delta"

/-- What `_turn_render_context` answers. -/
structure TurnContext where
  turnKey : String
  submissionId : String
  segmentIndex : Option Int := none
  submissionState : String

structure Stream where
  content : String
  finalized : Bool

/-- The session and the message of a stream. -/
abbrev StreamKey := String × String

abbrev Streams := List (StreamKey × Stream)

structure World (Hash : Type) where
  journal : List (UsageSampling.AdaptedEvent ℚ) := []
  streams : Streams := []
  render : Store Hash := {}

structure Reducer (Hash : Type) extends Settings Hash where
  python : Json.Python
  /-- `uuid.uuid5(uuid.NAMESPACE_URL, name)` -/
  uuid5 : String → String
  /-- The fields of a payload that nothing looks at, as text. -/
  encode : List (String × Json) → String
  /-- `sanitize_failure_summary(_status_detail(…), limit=800)` of a failed turn. -/
  failureDetail : Json → String

def submissionFailureStates : List String :=
  ["cancelled", "observed_aborted", "outcome_unknown", "rejected", "semantic_blocked",
    "submitted_unknown"]

variable {Hash : Type}

/-! ## Accumulation -/

/-- The stream that an event belongs to; the ones of an agent have none. -/
def DeltaEvent.streamKey (event : DeltaEvent) : Option StreamKey :=
  match event.agentId, event.messageId with
  | none, some messageId => some (event.sdkSessionId, messageId)
  | _, _ => none

/-- `str(data.get("deltaContent", ""))` -/
def deltaContent (python : Json.Python) (data : Json) : String :=
  ((data.get? "deltaContent").map (Json.text python)).getD ""

def accumulateRenderStream (python : Json.Python) (key : StreamKey) (data : Json)
    (streams : Streams) : Streams :=
  let previous := (Dict.get key streams).getD { content := "", finalized := false }
  Dict.set key
    { content :=
        if previous.finalized then previous.content
        else previous.content ++ deltaContent python data
      finalized := previous.finalized } streams

def applyDomainState (python : Json.Python) (event : DeltaEvent) (streams : Streams) : Streams :=
  match event.data, event.streamKey with
  | some data, some key => accumulateRenderStream python key data streams
  | _, _ => streams

/-- The first part of `_recover_volatile_event`: only a stream that is gone is begun again. -/
def recoverStream (python : Json.Python) (event : DeltaEvent) (data : Json) (streams : Streams) :
    Streams :=
  match event.streamKey with
  | some key =>
    if (Dict.get key streams).isNone then accumulateRenderStream python key data streams
    else streams
  | none => streams

/-! ## Render intents -/

structure StablePayload where
  type : String
  content : String
  stableRenderKey : String
  renderLane : String
  submissionId : Option String
  finalized : Bool

inductive Override where
  | suppress
  | stable (payload : StablePayload)

/-- `_submission_render_payload`, where it returns a payload. -/
def submissionRenderPayload (reducer : Reducer Hash) (event : DeltaEvent) (context : TurnContext) :
    Option StablePayload :=
  if context.submissionState ∈ submissionFailureStates then
    let title := "Copilot request failed"
    let detail := reducer.failureDetail (event.data.getD (.dict []))
    some {
      type := "turn_error"
      content := reducer.encode [
        ("content", .str ("**" ++ title ++ "**\n" ++ detail)),
        ("status", .dict [("title", .str title), ("detail", .str detail),
          ("event_type", .str "turn.failed")]),
        ("turn_render_key", .str context.turnKey)]
      stableRenderKey := "failure:" ++ context.turnKey
      renderLane := "status"
      submissionId := some context.submissionId
      finalized := true }
  else none

def streamPayload (reducer : Reducer Hash) (messageId : String) (turn : Option TurnContext)
    (stream : Stream) : StablePayload where
  type := "assistant.message_delta"
  content := reducer.encode
    ([("content", .str stream.content), ("message_id", .str messageId), ("agent_id", .null)] ++
      match turn with
      | some context => [("turn_render_key", .str context.turnKey),
          ("segment_index", (context.segmentIndex.map Json.int).getD .null)]
      | none => [])
  stableRenderKey := "assistant:" ++ messageId
  renderLane := if stream.finalized then "assistant_final" else "assistant_stream"
  submissionId := turn.map TurnContext.submissionId
  finalized := stream.finalized

/-- `_materialize_render_payload`, with the streams it leaves. -/
def materializeRenderPayload (reducer : Reducer Hash) (event : DeltaEvent)
    (turn : Option TurnContext) (streams : Streams) : Option Override × Streams :=
  if event.agentId.isSome then (some .suppress, streams)
  else
    match turn.bind (submissionRenderPayload reducer event) with
    | some payload => (some (.stable payload), streams)
    | none =>
      match event.messageId with
      | none => (none, streams)
      | some messageId =>
        match Dict.get (event.sdkSessionId, messageId) streams with
        | none => (some .suppress, streams)
        | some stream =>
          if stream.finalized ∧ stream.content = "" then
            (some .suppress, Dict.pop (event.sdkSessionId, messageId) streams)
          else (some (.stable (streamPayload reducer messageId turn stream)), streams)

/-- `event.event_id or event.internal_event_id or str(event.inbox_seq)` -/
def DeltaEvent.eventKey (event : DeltaEvent) : String :=
  ((event.eventId.filter (· ≠ "")).or (event.internalEventId.filter (· ≠ ""))).getD
    (toString event.inboxSeq)

def familyKey (sdkSessionId renderKey : String) : String :=
  "render-family:" ++ sdkSessionId ++ ":" ++ renderKey

def stableIntent (reducer : Reducer Hash) (event : DeltaEvent) (payload : StablePayload) :
    RenderIntent where
  id := reducer.uuid5 (familyKey event.sdkSessionId payload.stableRenderKey)
  sessionId := event.sdkSessionId
  logicalSeq := event.inboxSeq
  lane := payload.renderLane
  coalesceKey := some payload.stableRenderKey
  idempotencyKey := familyKey event.sdkSessionId payload.stableRenderKey
  payload := {
    type := .other payload.type
    content := payload.content
    finalized := payload.finalized
    stable := true
    submissionId := payload.submissionId }
  type_ne := nofun

def eventIntent (reducer : Reducer Hash) (event : DeltaEvent) : RenderIntent :=
  let idempotencyKey :=
    "event:" ++ event.sdkSessionId ++ ":" ++ event.eventKey ++ ":assistant_stream"
  let target := (event.messageId.filter (· ≠ "")).or (event.turnId.filter (· ≠ ""))
  { id := reducer.uuid5 idempotencyKey
    sessionId := event.sdkSessionId
    logicalSeq := event.inboxSeq
    lane := "assistant_stream"
    coalesceKey := some ("assistant:" ++ target.getD "main")
    idempotencyKey
    payload := {
      type := .other "assistant.message_delta"
      content := reducer.encode [("event", .dict event.rawPayload)] }
    type_ne := nofun }

/-- `RenderPlanner.plan`; there is at most one intent. -/
def plan (reducer : Reducer Hash) (event : DeltaEvent) : Option Override → Option RenderIntent
  | some .suppress => none
  | some (.stable payload) => some (stableIntent reducer event payload)
  | none => if event.agentId.isSome then none else some (eventIntent reducer event)

/-! ## Transactions -/

/-- `retained_render_content` after an intent of `_recover_volatile_event`. -/
def retainsRenderContent [DecidableEq Hash] (settings : Settings Hash) (intent : RenderIntent)
    (store : Store Hash) : Bool :=
  match Table.lookup (·.idempotencyKey) (.plain intent.idempotencyKey) store.outbox with
  | none => true
  | some existing =>
    if existing.state = .sent then false
    else if keepsFinal existing intent then false
    else if existing.contentHash = some (settings.payloadHash intent.payload) ∧
        holdsContent settings intent store then true
    else !(!intent.payload.stable &&
      decide (existing.contentHash ≠ some (settings.payloadHash intent.payload)))

def recoverVolatileEvent [DecidableEq Hash] (reducer : Reducer Hash) (event : DeltaEvent)
    (turn : Option TurnContext) (now : ℚ) (world : World Hash) : Option (World Hash) :=
  match event.data with
  | none => some world
  | some data =>
    let (override, streams) := materializeRenderPayload reducer event turn
      (recoverStream reducer.python event data world.streams)
    match plan reducer event override with
    | none => some { world with streams }
    | some intent =>
      (recoverRenderIntent reducer.toSettings intent now world.render).map fun render =>
        { world with
          render
          streams :=
            match retainsRenderContent reducer.toSettings intent world.render, event.messageId with
            | false, some messageId => Dict.pop (event.sdkSessionId, messageId) streams
            | _, _ => streams }

/-- One turn of the loop of `_persist_transaction`; `none` if it raises. -/
def persistEvent [DecidableEq Hash] (reducer : Reducer Hash) (event : DeltaEvent)
    (turn : Option TurnContext) (now : ℚ) (world : World Hash) : Option (World Hash) :=
  if world.journal.any (UsageSampling.conflicts event.toAdaptedEvent) then
    recoverVolatileEvent reducer event turn now world
  else
    let (override, streams) := materializeRenderPayload reducer event turn
      (applyDomainState reducer.python event world.streams)
    let queued :=
      match plan reducer event override with
      | none => some world.render
      | some intent => queueRenderIntent reducer.toSettings intent now now world.render
    queued.map fun render =>
      { journal := world.journal ++ [event.toAdaptedEvent], streams, render }

inductive Label (Hash : Type) where
  | persist (event : DeltaEvent) (turn : Option TurnContext) (now : ℚ)
  /-- The workers leave these rows and contents. -/
  | outbox (render : Store Hash)

def step [DecidableEq Hash] (reducer : Reducer Hash) (world : World Hash) :
    Label Hash → Option (World Hash)
  | .persist event turn now => persistEvent reducer event turn now world
  | .outbox render => some { world with render }

/-- The process is gone, and with it the content store. -/
def World.lose (world : World Hash) : World Hash :=
  { world with streams := [], render := { world.render with content := [] } }

/-- The events of a list of labels, in their order. -/
def eventsOf : List (Label Hash) → List DeltaEvent
  | [] => []
  | .persist event _ _ :: rest => event :: eventsOf rest
  | .outbox _ :: rest => eventsOf rest

end Copilotd.Source.Core.RenderStreams
