import Copilotd.Base.Dict

/-!
# The volatile content store

Source: `core/volatile_content.py` (`VolatileContentStore`): `put`, `delete`, `clear` and
`transaction`, in one context.  The frames of the context stand innermost first.

What one caller does is a program over the store: mutations, transaction blocks, exceptions
and the handlers between the blocks.  What several tasks do is a run of their mutations and of
the ends of their blocks in any order.  `_mutation_frames` is a context variable: a task has the
frames of its own blocks, and below them those of the blocks that were open where it was created,
which are the same objects; the entries are shared.  The lock is held over each mutation.  An
encoding and a digest of the values are parameters. Copies are the values themselves: the store
hands out copies only, so that an entry never changes in place.
-/
namespace Copilotd.Source.Core.VolatileContent

open Base

variable {V : Type}

/-- `_content_bytes`, which may raise, and the digest. -/
structure Codec (V : Type) where
  contentBytes : V → Except String (List UInt8)
  sha256 : List UInt8 → String

structure Entry (V : Type) where
  value : V
  sha256 : String
  byteSize : Nat

structure VolatileContentRef where
  key : String
  sha256 : String
  byteSize : Nat

/-- `_MutationFrame`; `none` is `_MISSING`. -/
structure MutationFrame (V : Type) where
  prior : List (String × Option (Entry V)) := []

inductive Error where
  | committedCancellation
  | capacity
  | other (name : String)
  deriving DecidableEq

structure Store (V : Type) where
  maxItems : Nat := 4096
  maxBytes : Nat := 64 * 1024 * 1024
  maxItems_pos : 1 ≤ maxItems := by decide
  maxBytes_pos : 1 ≤ maxBytes := by decide
  entries : List (String × Entry V) := []
  bytes : Int := 0
  mutationFrames : List (MutationFrame V) := []

/-! ## Mutations -/

def Store.recordPrior (store : Store V) (key : String) (entry : Option (Entry V)) : Store V :=
  match store.mutationFrames with
  | [] => store
  | frame :: parents =>
    { store with
      mutationFrames := { prior := Dict.setdefault key entry frame.prior } :: parents }

/-- The locked part of `put`; `none` is `VolatileContentCapacityError`. -/
def Store.putEntry (store : Store V) (key : String) (entry : Entry V) : Option (Store V) :=
  let previous := Dict.get key store.entries
  let prospectiveItems := store.entries.length + if previous.isNone then 1 else 0
  let prospectiveBytes :=
    store.bytes + entry.byteSize - (previous.map fun entry => (entry.byteSize : Int)).getD 0
  if store.maxItems < prospectiveItems ∨ (store.maxBytes : Int) < prospectiveBytes then none
  else
    some { store.recordPrior key previous with
      entries := Dict.set key entry store.entries
      bytes := prospectiveBytes }

def Store.put (codec : Codec V) (store : Store V) (value : V) (key : Option String)
    (uuid : String) : Store V × Except Error VolatileContentRef :=
  match codec.contentBytes value with
  | .error name => (store, .error (.other name))
  | .ok encoded =>
    let byteSize := encoded.length
    let digest := codec.sha256 encoded
    let opaqueKey := key.getD ("vc:" ++ uuid)
    match store.putEntry opaqueKey { value, sha256 := digest, byteSize } with
    | none => (store, .error .capacity)
    | some after => (after, .ok { key := opaqueKey, sha256 := digest, byteSize })

def Store.delete (store : Store V) (key : String) : Store V × Bool :=
  match Dict.get key store.entries with
  | none => (store, false)
  | some entry =>
    ({ store.recordPrior key (some entry) with
        entries := Dict.pop key store.entries
        bytes := store.bytes - entry.byteSize }, true)

def Store.clear (store : Store V) : Store V :=
  { store.entries.foldl (fun store entry => store.recordPrior entry.1 (some entry.2)) store with
    entries := []
    bytes := 0 }

/-! ## Transactions -/

def Store.begin (store : Store V) : Store V :=
  { store with mutationFrames := {} :: store.mutationFrames }

/-- `_commit_frame`: each prior entry of the frame is the parent's default. -/
def commitFrame (frame : MutationFrame V) : List (MutationFrame V) → List (MutationFrame V)
  | [] => []
  | parent :: parents =>
    { prior := frame.prior.foldl
        (fun prior entry => Dict.setdefault entry.1 entry.2 prior) parent.prior } :: parents

/-- The prior entries are put back. -/
def restore (prior : List (String × Option (Entry V))) (entries : List (String × Entry V)) :
    List (String × Entry V) :=
  prior.foldl
    (fun entries entry => match entry.2 with
      | none => Dict.pop entry.1 entries
      | some before => Dict.set entry.1 before entries)
    entries

def totalBytes (entries : List (String × Entry V)) : Int :=
  Dict.sum (fun entry => (entry.byteSize : Int)) entries

/-- The block of a `with store.transaction()` has ended. -/
def Store.finish (store : Store V) (ending : Option Error) : Store V :=
  match store.mutationFrames with
  | [] => store
  | frame :: parents =>
    match ending with
    | none | some .committedCancellation =>
      { store with mutationFrames := commitFrame frame parents }
    | some _ =>
      let entries := restore frame.prior store.entries
      { store with entries, bytes := totalBytes entries, mutationFrames := parents }

/-! ## Programs over the store -/

inductive Program (V : Type) where
  | skip
  | seq (first second : Program V)
  | put (value : V) (key : Option String) (uuid : String)
  | delete (key : String)
  | clear
  | raise (error : Error)
  | transaction (body : Program V)
  /-- `try: body except ...: handler`, for the errors that `catches` names. -/
  | tryExcept (body : Program V) (catches : Error → Bool) (handler : Program V)

/-- The store in which a program ends, and the exception that leaves it. -/
def exec (codec : Codec V) : Program V → Store V → Store V × Option Error
  | .skip, store => (store, none)
  | .seq first second, store =>
    match exec codec first store with
    | (after, none) => exec codec second after
    | (after, some error) => (after, some error)
  | .put value key uuid, store =>
    match store.put codec value key uuid with
    | (after, .ok _) => (after, none)
    | (after, .error error) => (after, some error)
  | .delete key, store => ((store.delete key).1, none)
  | .clear, store => (store.clear, none)
  | .raise error, store => (store, some error)
  | .transaction body, store =>
    let (after, ending) := exec codec body store.begin
    (after.finish ending, ending)
  | .tryExcept body catches handler, store =>
    match exec codec body store with
    | (after, none) => (after, none)
    | (after, some error) => if catches error then exec codec handler after else (after, some error)

/-- The stores that a program goes through. -/
def visited (codec : Codec V) : Program V → Store V → List (Store V)
  | .seq first second, store =>
    visited codec first store ++
      match exec codec first store with
      | (after, none) => visited codec second after
      | (_, some _) => []
  | .transaction body, store =>
    store.begin :: visited codec body store.begin ++ [(exec codec (.transaction body) store).1]
  | .tryExcept body catches handler, store =>
    visited codec body store ++
      match exec codec body store with
      | (_, none) => []
      | (after, some error) => if catches error then visited codec handler after else []
  | .skip, store => [(exec codec .skip store).1]
  | .put value key uuid, store => [(exec codec (.put value key uuid) store).1]
  | .delete key, store => [(exec codec (.delete key) store).1]
  | .clear, store => [(exec codec .clear store).1]
  | .raise error, store => [(exec codec (.raise error) store).1]

/-- The transaction blocks that a program enters, each with the store at its entry. -/
def blocks (codec : Codec V) : Program V → Store V → List (Program V × Store V)
  | .seq first second, store =>
    blocks codec first store ++
      match exec codec first store with
      | (after, none) => blocks codec second after
      | (_, some _) => []
  | .transaction body, store => (body, store) :: blocks codec body store.begin
  | .tryExcept body catches handler, store =>
    blocks codec body store ++
      match exec codec body store with
      | (_, none) => []
      | (after, some error) => if catches error then blocks codec handler after else []
  | .skip, _ | .put .., _ | .delete _, _ | .clear, _ | .raise _, _ => []

/-! ## Several tasks -/

/-- One store, the frames of all blocks, and the blocks of each task, innermost first. -/
structure Shared (V : Type) where
  store : Store V
  frames : Nat → MutationFrame V := fun _ => {}
  nextFrame : Nat := 0
  /-- The open blocks that the task has entered. -/
  opened : Nat → List Nat := fun _ => []
  /-- The value of `_mutation_frames` in the context that the task has copied. -/
  inherited : Nat → List Nat := fun _ => []

inductive Action (V : Type) where
  | put (value : V) (key : Option String) (uuid : String)
  | delete (key : String)
  | clear
  | enterTransaction
  /-- The innermost block ends, with the exception that leaves it. -/
  | leaveTransaction (ending : Option Error)
  /-- The child has no open block of its own. -/
  | createTask (child : Nat)

def Shared.context (shared : Shared V) (task : Nat) : List Nat :=
  shared.opened task ++ shared.inherited task

/-- The store as a task sees it. -/
def Shared.seenBy (shared : Shared V) (task : Nat) : Store V :=
  { shared.store with mutationFrames := (shared.context task).map shared.frames }

def writeBack (ids : List Nat) (changed : List (MutationFrame V))
    (frames : Nat → MutationFrame V) : Nat → MutationFrame V :=
  (ids.zip changed).foldr (fun entry frames => Function.update frames entry.1 entry.2) frames

/-- A task has used the store, and has these open blocks now. -/
def Shared.used (shared : Shared V) (task : Nat) (opened : List Nat) (after : Store V) : Shared V :=
  { shared with
    store := { after with mutationFrames := [] }
    frames := writeBack (opened ++ shared.inherited task) after.mutationFrames shared.frames
    opened := Function.update shared.opened task opened }

def Shared.step (codec : Codec V) (shared : Shared V) (task : Nat) :
    Action V → Option (Shared V)
  | .put value key uuid =>
    some (shared.used task (shared.opened task) ((shared.seenBy task).put codec value key uuid).1)
  | .delete key =>
    some (shared.used task (shared.opened task) ((shared.seenBy task).delete key).1)
  | .clear => some (shared.used task (shared.opened task) (shared.seenBy task).clear)
  | .enterTransaction =>
    some { shared.used task (shared.nextFrame :: shared.opened task) (shared.seenBy task).begin with
      nextFrame := shared.nextFrame + 1 }
  | .leaveTransaction ending =>
    match shared.opened task with
    | [] => none
    | _ :: opened => some (shared.used task opened ((shared.seenBy task).finish ending))
  | .createTask child =>
    if shared.opened child = [] then
      some { shared with
        inherited := Function.update shared.inherited child (shared.context task) }
    else none

end Copilotd.Source.Core.VolatileContent
