import Copilotd.Base.Dict

/-!
# State-only JSON

Source: `storage/state_only.py` (`scrub_state`, `state_only_json`, `content_receipt` and their
helpers).  Keys of mappings are strings, as in JSON; lists, tuples and sets are the lists of
their items in iteration order, floats are their literals, and an object of any other type is
its `repr`.

`hashlib.sha256`, the two calls of `json.dumps` (which may raise) and the case mapping of
`str.isupper` and `str.lower` are parameters.
-/
namespace Copilotd.Source.Storage.StateOnly

open Base

inductive Value where
  | null
  | bool (value : Bool)
  | int (value : Int)
  | float (literal : String)
  | str (text : String)
  | list (items : List Value)
  | dict (items : List (String × Value))
  | enum (value : Value)
  | path (text : String)
  | other (repr : String)

structure Codec where
  sha256 : ByteArray → String
  /-- `json.dumps` with `default=_json_default`. -/
  canonicalJson : Value → Except String String
  /-- `json.dumps` of `state_only_json`. -/
  stateJson : Value → Except String String
  isUpper : Char → Bool
  lower : Char → String

/-! ## Keys -/

def identifierKeys : List String :=
  ["action", "agent", "agent_id", "basis", "builtin_name", "capability", "code",
    "completion_basis", "correlation_id", "cursor", "cwd_snapshot", "delivery", "error_category",
    "error_code", "error_type", "event_id", "event_type", "expression", "hash", "id",
    "idempotency_key", "kind", "lane", "layout", "message_id", "mime_type", "mode", "model",
    "model_id", "name", "operation", "origin", "outcome", "parent_id", "path", "plane",
    "project_source", "reason_code", "recurrence", "request_id", "response_plane", "schedule_id",
    "source", "source_id", "state", "status", "thread_id", "timezone", "tool_call_id",
    "transport", "turn_id", "type", "url"]

def contentKeys : List String :=
  ["answer", "arguments", "body", "command", "content", "delta", "delta_content", "description",
    "detail", "display_prompt", "error", "failure", "input", "invocation_input", "message",
    "output", "payload", "progress", "prompt", "question", "raw", "reasoning", "response",
    "result", "stderr", "summary", "text", "title"]

def applicationConfigurationKeys : List String :=
  ["channel_config", "execution_config", "model_config", "project", "project_config",
    "project_snapshot", "session_config"]

def identifierSuffixes : List String :=
  ["_id", "_ids", "_hash", "_sha256", "_state", "_status", "_at", "_path", "_count", "_bytes",
    "_version", "_seq"]

def contentTokens : List String :=
  ["prompt", "content", "command", "reasoning", "response", "payload", "description", "summary",
    "question", "answer", "output", "stderr"]

/-- `text.endswith(suffix)`. -/
def endsWith (text suffix : String) : Bool := suffix.toList.isSuffixOf text.toList

/-- `token in text`. -/
def occursIn (token text : String) : Bool :=
  text.toList.tails.any fun tail => token.toList.isPrefixOf tail

def normalizeKey (codec : Codec) (key : String) : String :=
  key.toList.foldl
    (fun output character =>
      (if codec.isUpper character && !output.isEmpty then output ++ "_" else output) ++
        codec.lower character)
    ""

def isIdentifierKey (key : String) : Bool :=
  identifierKeys.contains key || identifierSuffixes.any (endsWith key)

def isContentKey (key : String) : Bool :=
  contentKeys.contains key || contentTokens.any fun token => occursIn token key

/-! ## Receipts -/

def canonicalBytes (codec : Codec) : Value → Except String ByteArray
  | .str text => .ok text.toUTF8
  | value => (codec.canonicalJson value).map String.toUTF8

structure Receipt where
  sha256 : String
  byteSize : Nat

def contentReceipt (codec : Codec) (value : Value) : Except String Receipt := do
  let encoded ← canonicalBytes codec value
  return { sha256 := codec.sha256 encoded, byteSize := encoded.size }

def Receipt.value (receipt : Receipt) : Value :=
  .dict [("sha256", .str receipt.sha256), ("byte_size", .int receipt.byteSize)]

/-- The two entries that stand for an item under a content key. -/
def Receipt.write (receipt : Receipt) (textKey : String) (output : List (String × Value)) :
    List (String × Value) :=
  Dict.set (textKey ++ "_bytes") (.int receipt.byteSize)
    (Dict.set (textKey ++ "_sha256") (.str receipt.sha256) output)

/-! ## Scrubbing -/

mutual

def applicationConfiguration (codec : Codec) : Value → Except String Value
  | .dict items => do return .dict (← configurationItems codec [] items)
  | .list items => do return .list (← configurationAll codec items)
  | .enum value => return value
  | .path text => return .str text
  | .other repr => do return (← contentReceipt codec (.str repr)).value
  | .null => return .null
  | .str text => return .str text
  | .bool value => return .bool value
  | .int value => return .int value
  | .float literal => return .float literal

def configurationAll (codec : Codec) : List Value → Except String (List Value)
  | [] => return []
  | item :: items => do
    return (← applicationConfiguration codec item) :: (← configurationAll codec items)

def configurationItems (codec : Codec) (output : List (String × Value)) :
    List (String × Value) → Except String (List (String × Value))
  | [] => return output
  | (key, item) :: items => do
    configurationItems codec (Dict.set key (← applicationConfiguration codec item) output) items

end

/-- What becomes of an item of a mapping. -/
inductive Treatment where
  | configuration | content | scrubbed
  deriving DecidableEq

def treatment (codec : Codec) (preserve : Bool) (key : String) : Treatment :=
  let normalized := normalizeKey codec key
  if preserve && applicationConfigurationKeys.contains normalized then .configuration
  else if isContentKey normalized then .content
  else .scrubbed

def normalizedKey (codec : Codec) : Option String → String
  | none => ""
  | some key => normalizeKey codec key

/-- A string under a key, or under none. -/
def scrubText (codec : Codec) (key : Option String) (text : String) : String :=
  if isIdentifierKey (normalizedKey codec key) then text
  else "sha256:" ++ codec.sha256 text.toUTF8

mutual

def scrubState (codec : Codec) (preserve : Bool) (key : Option String) : Value → Except String Value
  | .dict items => do return .dict (← scrubItems codec preserve [] items)
  | .list items => do return .list (← scrubAll codec preserve key items)
  | .enum value => return value
  | .path text => return .str text
  | .str text => return .str (scrubText codec key text)
  | .other repr => do return (← contentReceipt codec (.str repr)).value
  | .null => return .null
  | .bool value => return .bool value
  | .int value => return .int value
  | .float literal => return .float literal

def scrubAll (codec : Codec) (preserve : Bool) (key : Option String) :
    List Value → Except String (List Value)
  | [] => return []
  | item :: items => do
    return (← scrubState codec preserve key item) :: (← scrubAll codec preserve key items)

/-- The loop over the items of a mapping, with the output so far. -/
def scrubItems (codec : Codec) (preserve : Bool) (output : List (String × Value)) :
    List (String × Value) → Except String (List (String × Value))
  | [] => return output
  | (textKey, item) :: items => do
    match treatment codec preserve textKey with
    | .configuration =>
      let kept ← applicationConfiguration codec item
      scrubItems codec preserve (Dict.set textKey kept output) items
    | .content =>
      let receipt ← contentReceipt codec item
      scrubItems codec preserve (receipt.write textKey output) items
    | .scrubbed =>
      let scrubbed ← scrubState codec preserve (some textKey) item
      scrubItems codec preserve (Dict.set textKey scrubbed output) items

end

def stateOnlyJson (codec : Codec) (preserve : Bool) (value : Value) : Except String String := do
  codec.stateJson (← scrubState codec preserve none value)

end Copilotd.Source.Storage.StateOnly
