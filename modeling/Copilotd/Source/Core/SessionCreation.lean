import Copilotd.Base.Run

/-!
# Creation of a session from a source

Source: `core/sessions.py` (`SessionCreationService.create_from_source` with its source
lock, `_create_from_source_locked`, `CreationIntentRepository`), the order of
preparation and SDK call in `core/session_runtime.py` (`_attach`, `_attach_guarded`) and
the update of the creation intents in `core/recovery.py`.

One source: its creation intent, the binding and the runtime of its thread, and the
calls that are under way.  A call suspends at every statement and at every external
call; a cancelled UPDATE that the connection has already taken over is a step followed
by `leave`.  The answers of `find_thread` and `create_thread`, the session id that is
reserved (the given one or a new UUID) and the state in which an attachment leaves the
runtime come with the labels.  Nothing in the repository raises
`SessionAttachRejected`, so a rejected `create_session` takes the way of every other
failure.  Threads and sessions of other sources, and attachments by other tasks, are
left out.  The fields from `threadCalls` on are a record of what was done.
-/
namespace Copilotd.Source.Core.SessionCreation

inductive CreationState where
  | reserved | threadCreating | threadCreated | creating | attached | unknown | failed
  deriving DecidableEq

/-- A row of `session_creation_intents`.  `launchable` is the verdict of
`SessionLaunchOptions.from_json` on the snapshot, which is never rewritten. -/
structure CreationIntent where
  sdkSessionId : String
  threadId : Option String := none
  state : CreationState := .reserved
  verified : Bool := true
  launchable : Bool
  deriving DecidableEq

inductive RuntimeState where
  | detached | attaching | ready | degraded | recoveryUnknown | fenced | closing | closed
  | terminal
  deriving DecidableEq

structure Binding where
  threadId : String
  sdkSessionId : String
  deriving DecidableEq

/-- A runtime in the registry; `attempted` says that an attachment was called on it. -/
structure SessionRuntime where
  binding : Binding
  state : RuntimeState := .detached
  handleTerminal : Bool := false
  attempted : Bool := false

/-- What became of a call of `bridge.create_session`. -/
inductive Creation where
  | pending | returned | raised | rejected

/-- How an attachment ended between its record of the creation and the call of the
bridge. -/
inductive Ending where
  | crashed | failed

structure Store where
  intent : Option CreationIntent := none
  binding : Option Binding := none
  runtime : Option SessionRuntime := none
  threadCalls : Nat := 0
  creations : List Creation := []
  endedEarly : List Ending := []
  uses : List Binding := []

/-! ## The intent -/

/-- The calls of `mark` and `set_thread`. -/
inductive Mark where
  | failed
  | threadCreating
  | threadUnknown
  | threadCreated (thread : String)
  | creating (binding : Binding) (resumes : Bool)
  | attachUnknown
  | attached
  deriving DecidableEq

def Mark.state : Mark → CreationState
  | .failed => .failed
  | .threadCreating => .threadCreating
  | .threadUnknown | .attachUnknown => .unknown
  | .threadCreated _ => .threadCreated
  | .creating .. => .creating
  | .attached => .attached

/-- The thread that is written: the given intent's, except by `set_thread`. -/
def Mark.threadId (given : CreationIntent) : Mark → Option String
  | .threadCreated thread => some thread
  | _ => given.threadId

/-- The UPDATE of `_transition`. -/
def Store.write (store : Store) (given : CreationIntent) (mark : Mark) : Store :=
  { store with
    intent := store.intent.map fun row =>
      { row with threadId := mark.threadId given, state := mark.state } }

def uncertainCreate (state : CreationState) : Bool :=
  state ∈ [.creating, .attached, .unknown]

/-! ## Calls of `create_from_source` -/

inductive Outcome where
  | returned | unknown | failed
  deriving DecidableEq

/-- Where a call is suspended. -/
inductive Phase where
  | admitting
  | waiting
  | reading
  | snapshotting
  | reserving
  | asserting (intent : CreationIntent)
  | finding (intent : CreationIntent)
  | marking (intent : CreationIntent) (mark : Mark)
  | rereading (mark : Mark)
  | creatingThread (intent : CreationIntent)
  | readingBinding (intent : CreationIntent)
  | creatingBinding (intent : CreationIntent)
  | replacing (intent : CreationIntent) (binding : Binding)
  | preparing (intent : CreationIntent) (resumes : Bool)
  | invoking (intent : CreationIntent) (resumes : Bool)
  | finishing (intent : CreationIntent)
  | sending
  | done (outcome : Outcome)
  deriving DecidableEq

/-- The source lock is held from `reading` to the end. -/
def Phase.holdsLock : Phase → Bool
  | .admitting | .waiting | .done _ => false
  | _ => true

/-- The creation is on record, and the bridge has not been called yet. -/
def Phase.begun : Phase → Bool
  | .rereading (.creating ..) | .preparing .. => true
  | _ => false

/-- How the environment lets a call go on. -/
inductive Move where
  | next
  | reserve (sdkSessionId : String) (launchable : Bool)
  | found (thread : Option String)
  | thread (thread : String)
  | returns
  | rejects
  | raises (unknown : Bool)
  | leave

/-- The check of the snapshot before the side effects. -/
def checkVerified (intent : CreationIntent) : Phase :=
  if intent.verified then .asserting intent else .done .unknown

/-- The choice once there is a runtime. -/
def chooseAttachment (intent : CreationIntent) (runtime : SessionRuntime) : Phase :=
  if runtime.state = .detached then
    .marking intent (.creating runtime.binding (uncertainCreate intent.state))
  else if intent.state ≠ .attached then .marking intent .attached
  else .sending

def Store.forThread (store : Store) (thread : Option String) : Option SessionRuntime :=
  store.runtime.filter fun runtime =>
    some runtime.binding.threadId = thread && runtime.state != .terminal && !runtime.handleTerminal

/-- The runtime of the thread, or a new one. -/
def chooseRuntime (store : Store) (intent : CreationIntent) (binding : Binding) : Phase :=
  match store.forThread intent.threadId with
  | none => .replacing intent binding
  | some runtime =>
    if runtime.state ∈ [.recoveryUnknown, .fenced] then .replacing intent binding
    else chooseAttachment intent runtime

/-- The call of `attach_create` or `attach_resume` on the runtime of the binding. -/
def Store.attach (store : Store) (binding : Binding) : Store :=
  { store with
    runtime := store.runtime.map fun runtime =>
      if runtime.binding = binding then { runtime with state := .attaching, attempted := true }
      else runtime
    uses := store.uses ++ [binding] }

/-- `_transition` has read the row back. -/
def resumeMark (store : Store) (intent : CreationIntent) : Mark → Store × Phase
  | .failed => (store, .done .failed)
  | .threadCreating => ({ store with threadCalls := store.threadCalls + 1 }, .creatingThread intent)
  | .threadUnknown | .attachUnknown => (store, .done .unknown)
  | .threadCreated _ => (store, .readingBinding intent)
  | .creating binding resumes => (store.attach binding, .preparing intent resumes)
  | .attached => (store, .sending)

/-- The SDK call of the attachment. -/
def Store.invoke (store : Store) (resumes : Bool) : Store :=
  if resumes then store else { store with creations := store.creations ++ [.pending] }

/-- The outcome of the last `create_session`. -/
def Store.settle (store : Store) (resumes : Bool) (outcome : Creation) : Store :=
  if resumes then store else { store with creations := store.creations.dropLast ++ [outcome] }

/-- An attachment that ends before the SDK call. -/
def Store.endEarly (store : Store) (ending : Ending) : Store :=
  { store with endedEarly := store.endedEarly ++ [ending] }

/-- One step of a call, apart from taking the lock. -/
def advance (store : Store) (phase : Phase) (move : Move) : Option (Store × Phase) :=
  match phase, move with
  | .admitting, .next => some (store, .waiting)
  | .reading, .next =>
    match store.intent with
    | none => some (store, .snapshotting)
    | some intent => some (store, checkVerified intent)
  | .snapshotting, .returns => some (store, .reserving)
  | .reserving, .reserve sdkSessionId launchable =>
    match store.intent with
    | some intent => some (store, checkVerified intent)
    | none =>
      let intent : CreationIntent := { sdkSessionId, launchable }
      some ({ store with intent := some intent }, checkVerified intent)
  | .asserting intent, .next =>
    some (store,
      if !intent.launchable then .marking intent .failed
      else if intent.threadId = none then .finding intent
      else .readingBinding intent)
  | .finding intent, .found (some thread) => some (store, .marking intent (.threadCreated thread))
  | .finding intent, .found none =>
    some (store,
      if intent.state ∈ [.threadCreating, .unknown] then .done .unknown
      else .marking intent .threadCreating)
  | .marking intent mark, .next => some (store.write intent mark, .rereading mark)
  | .rereading mark, .next =>
    match store.intent with
    | none => some (store, .done .failed)
    | some intent => some (resumeMark store intent mark)
  | .creatingThread intent, .thread thread =>
    some (store, .marking intent (.threadCreated thread))
  | .creatingThread intent, .raises _ => some (store, .marking intent .threadUnknown)
  | .readingBinding intent, .next =>
    match store.binding.filter fun binding => some binding.threadId = intent.threadId with
    | some binding => some (store, chooseRuntime store intent binding)
    | none => some (store, .creatingBinding intent)
  | .creatingBinding intent, .next =>
    match intent.threadId with
    | none => some (store, .done .failed)
    | some threadId =>
      let binding : Binding := { threadId, sdkSessionId := intent.sdkSessionId }
      let store := { store with binding := some binding, uses := store.uses ++ [binding] }
      some (store, chooseRuntime store intent binding)
  | .replacing intent binding, .returns =>
    let runtime : SessionRuntime := { binding }
    some ({ store with runtime := some runtime }, chooseAttachment intent runtime)
  | .preparing intent resumes, .next => some (store.invoke resumes, .invoking intent resumes)
  | .preparing intent _, .raises unknown =>
    some (store.endEarly .failed,
      if unknown then .marking intent .attachUnknown else .done .failed)
  | .invoking intent resumes, .returns =>
    some (store.settle resumes .returned, .finishing intent)
  | .invoking intent resumes, .raises _ =>
    some (store.settle resumes .raised, .marking intent .attachUnknown)
  | .invoking intent resumes, .rejects =>
    some (store.settle resumes .rejected, .marking intent .attachUnknown)
  | .finishing intent, .returns => some (store, .marking intent .attached)
  | .finishing intent, .raises unknown =>
    some (store, if unknown then .marking intent .attachUnknown else .done .failed)
  | .sending, .returns => some (store, .done .returned)
  | .done _, .leave => none
  -- a cancelled call, or a statement that raises
  | phase, .leave =>
    some (if phase.begun then store.endEarly .failed else store, .done .failed)
  | _, _ => none

structure World where
  store : Store := {}
  calls : List Phase := []

/-- `StartupRecoveryInventory.run` on the intent; `expired` says that no owner lease
and no lease of its schedule run is in force. -/
def recover (expired : Bool) (intent : CreationIntent) : CreationIntent :=
  if intent.state = .creating ∧ expired then { intent with state := .unknown } else intent

inductive Label where
  | request
  | acquire (index : Nat)
  | call (index : Nat) (move : Move)
  /-- An attached runtime changes its state. -/
  | runtime (state : RuntimeState) (handleTerminal : Bool)
  /-- The registry drops the runtime. -/
  | drop
  | restart (expired : Bool)

def step (world : World) : Label → Option World
  | .request => some { world with calls := world.calls ++ [.admitting] }
  | .acquire index => do
    let phase ← world.calls[index]?
    guard (phase = .waiting ∧ world.calls.all fun other => !other.holdsLock)
    pure { world with calls := world.calls.set index .reading }
  | .call index move => do
    let phase ← world.calls[index]?
    let (store, after) ← advance world.store phase move
    pure { store, calls := world.calls.set index after }
  | .runtime state handleTerminal => do
    let runtime ← world.store.runtime
    guard runtime.attempted
    let changed := { runtime with state, handleTerminal }
    pure { world with store := { world.store with runtime := some changed } }
  | .drop => some { world with store := { world.store with runtime := none } }
  | .restart expired =>
    let store := if world.calls.any Phase.begun then world.store.endEarly .crashed else world.store
    some
      { store := { store with intent := store.intent.map (recover expired), runtime := none }
        calls := [] }

end Copilotd.Source.Core.SessionCreation
