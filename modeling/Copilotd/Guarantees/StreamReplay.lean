import Mathlib.Data.List.DropRight
import Copilotd.Source.Core.RenderStreams

/-!
# Replays of message streams

A stream grows by every new event of its message.  A replayed event is a duplicate: it begins
a stream that is gone, adds nothing to one that is there, and takes away the stream of a
message whose row is settled.  A replay after a loss therefore has of a message the text of
one event, the first after the last one that found the row settled.
-/
namespace Copilotd.Guarantees.StreamReplay

open Base Base.Dict Base.Run Base.Table Source.Core Source.Core.RenderStreams
open Source.Render.Outbox (Payload Store RenderIntent keepsFinal)

variable {Hash : Type} {reducer : Reducer Hash} {event : DeltaEvent}
  {turn : Option TurnContext} {now : ℚ} {world after : World Hash} {key : StreamKey}
  {streams : Streams}

/-! ## What an event does to a stream -/

def textFor (python : Json.Python) (key : StreamKey) (event : DeltaEvent) : Option String :=
  if event.streamKey = some key then event.data.map (deltaContent python) else none

def failed (turn : Option TurnContext) : Bool :=
  turn.any fun context => context.submissionState ∈ submissionFailureStates

def renderKey (messageId : String) (turn : Option TurnContext) : String :=
  match turn with
  | some context =>
    if context.submissionState ∈ submissionFailureStates then "failure:" ++ context.turnKey
    else "assistant:" ++ messageId
  | none => "assistant:" ++ messageId

/-- The row that the event renders to takes no content of it any more. -/
def settled (key : StreamKey) (turn : Option TurnContext) (store : Store Hash) : Bool :=
  match lookup (·.idempotencyKey)
    (.plain (familyKey key.1 (renderKey key.2 turn))) store.outbox with
  | none => false
  | some row => row.state = .sent || (row.finalized && !failed turn)

/-- One event of a stream in a run. -/
structure Part where
  text : String
  /-- The journal has the event. -/
  duplicate : Bool
  /-- It finds its row settled. -/
  settled : Bool

def partOf (reducer : Reducer Hash) (key : StreamKey) (world : World Hash) :
    Label Hash → Option Part
  | .outbox _ => none
  | .persist event turn _ =>
    (textFor reducer.python key event).map fun text =>
      { text
        duplicate := world.journal.any (UsageSampling.conflicts event.toAdaptedEvent)
        settled := settled key turn world.render }

/-- The events of a stream along a run. -/
def partsOf [DecidableEq Hash] (reducer : Reducer Hash) (key : StreamKey) :
    World Hash → List (Label Hash) → List Part
  | _, [] => []
  | world, label :: rest =>
    (partOf reducer key world label).toList ++
      match step reducer world label with
      | some next => partsOf reducer key next rest
      | none => []

/-- The duplicate takes the stream away. -/
def Part.drops (part : Part) : Bool := part.duplicate && part.settled

/-- What a part makes of the text of a stream. -/
def advance (text : Option String) (part : Part) : Option String :=
  if part.duplicate then if part.settled then none else some (text.getD part.text)
  else some (text.getD "" ++ part.text)

/-! ## Streams of a world -/

/-- No message of the world is final, as deltas leave it. -/
structure Growing (streams : Streams) : Prop where
  unique : UniqueKeys streams
  open_ : ∀ key stream, get key streams = some stream → stream.finalized = false

def textAt (key : StreamKey) (streams : Streams) : Option String :=
  (get key streams).map Stream.content

theorem growing_nil : Growing [] := ⟨List.nodup_nil, nofun⟩

section

variable (growing : Growing streams)
include growing

theorem Growing.get_eq (key : StreamKey) :
    get key streams = (textAt key streams).map fun text =>
      { content := text, finalized := false } := by
  unfold textAt
  cases found : get key streams with
  | none => rfl
  | some stream =>
    have unfinished := growing.open_ key stream found
    cases stream
    cases unfinished
    rfl

theorem Growing.pop (key : StreamKey) : Growing (pop key streams) := by
  constructor
  · exact uniqueKeys_filter growing.unique _
  · intro other stream found
    rw [get_pop growing.unique] at found
    split at found
    · cases found
    · exact growing.open_ other stream found

theorem textAt_pop (key other : StreamKey) :
    textAt other (Dict.pop key streams) = if other = key then none else textAt other streams := by
  unfold textAt
  rw [get_pop growing.unique]
  split
  · rfl
  · rfl

theorem accumulate_eq (key : StreamKey) (data : Json) :
    accumulateRenderStream reducer.python key data streams =
      set key
        { content := (textAt key streams).getD "" ++ deltaContent reducer.python data
          finalized := false } streams := by
  unfold accumulateRenderStream
  rw [growing.get_eq key]
  cases textAt key streams with
  | none => rfl
  | some text => rfl

theorem growing_accumulate (key : StreamKey) (data : Json) :
    Growing (accumulateRenderStream reducer.python key data streams) := by
  rw [accumulate_eq growing]
  constructor
  · exact uniqueKeys_set growing.unique
  · intro other stream found
    rw [get_set] at found
    split at found
    · cases found
      rfl
    · exact growing.open_ other stream found

theorem textAt_accumulate (key other : StreamKey) (data : Json) :
    textAt other (accumulateRenderStream reducer.python key data streams) =
      if other = key then some ((textAt key streams).getD "" ++ deltaContent reducer.python data)
      else textAt other streams := by
  rw [accumulate_eq growing]
  unfold textAt
  rw [get_set]
  split
  · rfl
  · rfl

/-! ## Render intents -/

theorem materialize_streams :
    (materializeRenderPayload reducer event turn streams).2 = streams := by
  unfold materializeRenderPayload
  split
  · rfl
  · split
    · rfl
    · split
      · rfl
      · next messageId _ =>
        split
        · rfl
        · next stream found =>
          rw [growing.open_ _ stream found, if_neg (by simp)]

end

theorem plan_of_agent (agent : event.agentId.isSome = true) :
    plan reducer event (materializeRenderPayload reducer event turn streams).1 = none := by
  unfold materializeRenderPayload
  rw [if_pos agent]
  rfl

theorem streamKey_eq_some : event.streamKey = some key ↔
    event.agentId = none ∧ event.sdkSessionId = key.1 ∧ event.messageId = some key.2 := by
  unfold DeltaEvent.streamKey
  cases event.agentId with
  | some agent => simp
  | none =>
    cases event.messageId with
    | none => simp
    | some messageId => simp [Prod.ext_iff]

/-- The intent of an event whose stream is there. -/
structure Renders (key : StreamKey) (turn : Option TurnContext) (intent : RenderIntent) : Prop where
  idempotencyKey : intent.idempotencyKey = familyKey key.1 (renderKey key.2 turn)
  stable : intent.payload.stable = true
  finalized : intent.payload.finalized = failed turn
  type : intent.payload.type ≠ .toolCard

theorem plan_of_stream (growing : Growing streams) (owned : event.streamKey = some key)
    (present : (textAt key streams).isSome = true) :
    ∃ intent, plan reducer event (materializeRenderPayload reducer event turn streams).1 =
      some intent ∧ Renders key turn intent := by
  obtain ⟨noAgent, session, message⟩ := streamKey_eq_some.mp owned
  obtain ⟨text, found⟩ := Option.isSome_iff_exists.mp present
  have stream := growing.get_eq key
  rw [found, Option.map_some] at stream
  unfold materializeRenderPayload
  rw [noAgent, if_neg (by simp), message]
  dsimp only
  rw [session, stream]
  cases turn with
  | none =>
    refine ⟨_, rfl, ?_⟩
    constructor
    · exact congrArg (familyKey · _) session
    · rfl
    · rfl
    · intro impossible
      cases impossible
  | some context =>
    by_cases failure : context.submissionState ∈ submissionFailureStates
    · simp only [Option.bind_some, submissionRenderPayload, failure, ↓reduceIte]
      refine ⟨_, rfl, ?_⟩
      constructor
      · simp only [stableIntent, renderKey, failure, ↓reduceIte, session]
      · rfl
      · simp only [stableIntent, failed, failure, Option.any_some, decide_true]
      · intro impossible
        cases impossible
    · simp only [Option.bind_some, submissionRenderPayload, failure, ↓reduceIte, Bool.false_eq_true,
        false_and]
      refine ⟨_, rfl, ?_⟩
      constructor
      · simp only [stableIntent, streamPayload, renderKey, failure, ↓reduceIte, session]
      · rfl
      · simp only [stableIntent, streamPayload, failed, failure, Option.any_some, decide_false]
      · intro impossible
        cases impossible

theorem retains_iff [DecidableEq Hash] {intent : RenderIntent} (renders : Renders key turn intent)
    (store : Store Hash) :
    retainsRenderContent reducer.toSettings intent store = !settled key turn store := by
  unfold retainsRenderContent settled
  rw [renders.idempotencyKey]
  cases lookup (·.idempotencyKey)
    (.plain (familyKey key.1 (renderKey key.2 turn))) store.outbox with
  | none => rfl
  | some row =>
    have keeps : keepsFinal row intent = (row.finalized && !failed turn) := by
      simp [keepsFinal, renders.finalized, renders.type]
    dsimp only
    by_cases sent : row.state = .sent
    · simp [sent]
    · rw [if_neg sent, keeps, renders.stable]
      cases final : row.finalized && !failed turn with
      | true => simp
      | false => simp [sent]

/-! ## One event -/

theorem applyDomainState_text (reducer : Reducer Hash) (event : DeltaEvent)
    (growing : Growing streams) :
    Growing (applyDomainState reducer.python event streams) ∧
      ∀ key, textAt key (applyDomainState reducer.python event streams) =
        (textFor reducer.python key event).elim (textAt key streams)
          fun text => some ((textAt key streams).getD "" ++ text) := by
  unfold applyDomainState textFor
  cases data : event.data with
  | none => exact ⟨growing, fun key => by simp⟩
  | some value =>
    cases owned : event.streamKey with
    | none => exact ⟨growing, fun key => by simp⟩
    | some owner =>
      refine ⟨growing_accumulate growing owner value, ?_⟩
      intro key
      rw [textAt_accumulate growing]
      by_cases same : key = owner
      · subst same
        simp
      · rw [if_neg same, if_neg (by simpa using Ne.symm same), Option.elim_none]

theorem recoverStream_text (growing : Growing streams) {data : Json}
    (owned : event.streamKey = some key) :
    Growing (recoverStream reducer.python event data streams) ∧
      ∀ other, textAt other (recoverStream reducer.python event data streams) =
        if other = key then some ((textAt key streams).getD (deltaContent reducer.python data))
        else textAt other streams := by
  unfold recoverStream
  rw [owned]
  dsimp only
  cases found : get key streams with
  | none =>
    have absent : textAt key streams = none := by
      unfold textAt
      rw [found, Option.map_none]
    rw [Option.isNone_none, if_pos rfl]
    refine ⟨growing_accumulate growing key data, ?_⟩
    intro other
    rw [textAt_accumulate growing, absent, Option.getD_none, Option.getD_none, String.empty_append]
  | some stream =>
    have present : textAt key streams = some stream.content := by
      unfold textAt
      rw [found, Option.map_some]
    rw [Option.isNone_some, if_neg (by simp)]
    refine ⟨growing, ?_⟩
    intro other
    rw [present, Option.getD_some]
    split
    · next same => rw [same, present]
    · rfl

variable [DecidableEq Hash]

theorem recover_text (growing : Growing world.streams)
    (done : recoverVolatileEvent reducer event turn now world = some after) :
    Growing after.streams ∧ ∀ key, textAt key after.streams =
      (textFor reducer.python key event).elim (textAt key world.streams) fun text =>
        if settled key turn world.render then none
        else some ((textAt key world.streams).getD text) := by
  unfold recoverVolatileEvent at done
  unfold textFor
  cases data : event.data with
  | none =>
    rw [data] at done
    cases done
    exact ⟨growing, fun key => by simp⟩
  | some value =>
    rw [data] at done
    dsimp only at done
    cases owned : event.streamKey with
    | none =>
      have kept : recoverStream reducer.python event value world.streams = world.streams := by
        unfold recoverStream
        rw [owned]
      rw [kept, materialize_streams growing] at done
      have same : after.streams = world.streams := by
        cases planned : plan reducer event
            (materializeRenderPayload reducer event turn world.streams).1 with
        | none =>
          rw [planned] at done
          cases done
          rfl
        | some intent =>
          rw [planned, Option.map_eq_some_iff] at done
          obtain ⟨render, _, rfl⟩ := done
          have unnamed : event.messageId = none := by
            cases agent : event.agentId with
            | some name =>
              rw [plan_of_agent (by rw [agent]; rfl)] at planned
              cases planned
            | none =>
              cases message : event.messageId with
              | none => rfl
              | some messageId => simp [DeltaEvent.streamKey, agent, message] at owned
          rw [unnamed]
          cases retainsRenderContent reducer.toSettings intent world.render <;> rfl
      rw [same]
      exact ⟨growing, fun key => by simp⟩
    | some owner =>
      obtain ⟨restored, text⟩ := recoverStream_text growing owned
      have there :
        (textAt owner (recoverStream reducer.python event value world.streams)).isSome := by
        rw [text, if_pos rfl]
        rfl
      obtain ⟨intent, planned, renders⟩ := plan_of_stream restored owned there
      obtain ⟨_, session, message⟩ := streamKey_eq_some.mp owned
      rw [planned, materialize_streams restored, message] at done
      rw [Option.map_eq_some_iff] at done
      obtain ⟨render, _, rfl⟩ := done
      rw [retains_iff renders, session]
      cases gone : settled owner turn world.render with
      | true =>
        refine ⟨restored.pop owner, ?_⟩
        intro key
        refine (textAt_pop restored owner key).trans ?_
        rw [text]
        by_cases same : key = owner
        · subst same
          simp [gone]
        · simp [same, Ne.symm same]
      | false =>
        refine ⟨restored, ?_⟩
        intro key
        refine (text key).trans ?_
        by_cases same : key = owner
        · subst same
          simp [gone]
        · simp [same, Ne.symm same]

variable {label : Label Hash}

theorem step_text (growing : Growing world.streams)
    (taken : step reducer world label = some after) :
    Growing after.streams ∧ ∀ key, textAt key after.streams =
      (partOf reducer key world label).elim (textAt key world.streams)
        (advance (textAt key world.streams)) := by
  cases label with
  | outbox render =>
    cases taken
    exact ⟨growing, fun key => rfl⟩
  | persist event turn now =>
    change persistEvent reducer event turn now world = some after at taken
    unfold persistEvent at taken
    cases known : world.journal.any (UsageSampling.conflicts event.toAdaptedEvent) with
    | true =>
      rw [known, if_pos rfl] at taken
      obtain ⟨stays, text⟩ := recover_text growing taken
      refine ⟨stays, ?_⟩
      intro key
      rw [text, partOf, known]
      cases textFor reducer.python key event with
      | none => rfl
      | some text => simp [advance]
    | false =>
      rw [known, if_neg (by simp)] at taken
      obtain ⟨grown, text⟩ := applyDomainState_text reducer event growing
      have same : after.streams = applyDomainState reducer.python event world.streams := by
        rw [Option.map_eq_some_iff] at taken
        obtain ⟨render, _, rfl⟩ := taken
        exact materialize_streams grown
      rw [same]
      refine ⟨grown, ?_⟩
      intro key
      rw [text, partOf, known]
      cases textFor reducer.python key event with
      | none => rfl
      | some text => simp [advance]

/-! ## Runs -/

variable {labels : List (Label Hash)}

theorem run_text (growing : Growing world.streams)
    (reached : run (step reducer) world labels = some after) :
    Growing after.streams ∧ ∀ key, textAt key after.streams =
      (partsOf reducer key world labels).foldl advance (textAt key world.streams) := by
  induction labels generalizing world with
  | nil =>
    cases reached
    exact ⟨growing, fun key => rfl⟩
  | cons label rest ih =>
    obtain ⟨next, taken, onwards⟩ := run_cons_eq_some.mp reached
    obtain ⟨stays, one⟩ := step_text growing taken
    obtain ⟨last, text⟩ := ih stays onwards
    refine ⟨last, ?_⟩
    intro key
    rw [text, one, partsOf, taken, List.foldl_append]
    cases partOf reducer key world label with
    | none => rfl
    | some part => rfl

theorem textAt_run (growing : Growing world.streams)
    (reached : run (step reducer) world labels = some after) (key : StreamKey) :
    textAt key after.streams =
      (partsOf reducer key world labels).foldl advance (textAt key world.streams) :=
  (run_text growing reached).2 key

theorem step_journal (taken : step reducer world label = some after) :
    world.journal ⊆ after.journal := by
  cases label with
  | outbox render =>
    cases taken
    exact List.Subset.refl _
  | persist event turn now =>
    change persistEvent reducer event turn now world = some after at taken
    unfold persistEvent at taken
    split at taken
    · unfold recoverVolatileEvent at taken
      split at taken
      · cases taken
        exact List.Subset.refl _
      · dsimp only at taken
        split at taken
        · cases taken
          exact List.Subset.refl _
        · rw [Option.map_eq_some_iff] at taken
          obtain ⟨render, _, rfl⟩ := taken
          exact List.Subset.refl _
    · dsimp only at taken
      rw [Option.map_eq_some_iff] at taken
      obtain ⟨render, _, rfl⟩ := taken
      exact List.subset_append_left ..

/-- The event is a duplicate from here on. -/
def Knows (world : World Hash) (event : DeltaEvent) : Prop :=
  world.journal.any (UsageSampling.conflicts event.toAdaptedEvent) = true

omit [DecidableEq Hash] in
theorem knows_mono (known : Knows world event) (kept : world.journal ⊆ after.journal) :
    Knows after event := by
  obtain ⟨row, member, same⟩ := List.any_eq_true.mp known
  exact List.any_eq_true.mpr ⟨row, kept member, same⟩

theorem step_knows (taken : step reducer world (.persist event turn now) = some after) :
    Knows after event := by
  by_cases known : Knows world event
  · exact knows_mono known (step_journal taken)
  · change persistEvent reducer event turn now world = some after at taken
    unfold persistEvent at taken
    unfold Knows at known
    rw [if_neg known] at taken
    rw [Option.map_eq_some_iff] at taken
    obtain ⟨render, _, rfl⟩ := taken
    refine List.any_eq_true.mpr ⟨event.toAdaptedEvent, by simp, ?_⟩
    simp [UsageSampling.conflicts]

theorem run_knows (reached : run (step reducer) world labels = some after) :
    ∀ event ∈ eventsOf labels, Knows after event := by
  induction labels generalizing world with
  | nil => exact nofun
  | cons label rest ih =>
    obtain ⟨next, taken, onwards⟩ := run_cons_eq_some.mp reached
    cases label with
    | outbox render => exact ih onwards
    | persist event turn now =>
      intro other member
      rcases List.mem_cons.mp member with rfl | later
      · have stays : ∀ s e t, Knows s other → step reducer s e = some t → Knows t other :=
          fun _ _ _ known taken => knows_mono known (step_journal taken)
        exact run_inv stays (step_knows taken) onwards
      · exact ih onwards other later

theorem parts_duplicate (known : ∀ event ∈ eventsOf labels, Knows world event) :
    ∀ part ∈ partsOf reducer key world labels, part.duplicate = true := by
  induction labels generalizing world with
  | nil => exact nofun
  | cons label rest ih =>
    intro part member
    rw [partsOf, List.mem_append] at member
    rcases member with here | later
    · cases label with
      | outbox render => cases here
      | persist event turn now =>
        rw [Option.mem_toList, partOf, Option.map_eq_some_iff] at here
        obtain ⟨text, _, rfl⟩ := here
        exact known event (List.mem_cons_self ..)
    · cases taken : step reducer world label with
      | none =>
        rw [taken] at later
        cases later
      | some next =>
        rw [taken] at later
        refine ih ?_ part later
        intro event member
        have before : Knows world event := by
          cases label with
          | outbox render => exact known event member
          | persist first turn now => exact known event (List.mem_cons_of_mem _ member)
        exact knows_mono before (step_journal taken)

/-! ## What a run leaves of a stream -/

/-- The events after the last one that took the stream away. -/
def sinceDrop (parts : List Part) : List Part := parts.rtakeWhile fun part => !part.drops

def newText (parts : List Part) : String :=
  String.join ((parts.filter fun part => !part.duplicate).map Part.text)

/-- The first event begins the stream, new ones add to it. -/
def remains (parts : List Part) : Option String :=
  match sinceDrop parts with
  | [] => none
  | part :: later => some (part.text ++ newText later)

variable {parts : List Part}

theorem sinceDrop_of_none (none_ : ∀ part ∈ parts, part.drops = false) :
    sinceDrop parts = parts :=
  List.rtakeWhile_eq_self_iff.mpr fun part member => by simp [none_ part member]

theorem newText_cons (part : Part) (later : List Part) :
    newText (part :: later) = if part.duplicate then newText later else part.text ++
      newText later := by
  unfold newText
  rw [List.filter_cons]
  cases part.duplicate with
  | true => rfl
  | false => exact String.join_cons

theorem foldl_some (none_ : ∀ part ∈ parts, part.drops = false) (text : String) :
    parts.foldl advance (some text) = some (text ++ newText parts) := by
  induction parts generalizing text with
  | nil => exact congrArg some (String.append_empty).symm
  | cons part later ih =>
    have here := none_ part (List.mem_cons_self ..)
    unfold Part.drops at here
    rw [List.foldl_cons, newText_cons]
    have tail := ih fun other member => none_ other (List.mem_cons_of_mem _ member)
    cases duplicate : part.duplicate with
    | true =>
      have kept : part.settled = false := by simpa [duplicate] using here
      simp [advance, duplicate, kept, tail]
    | false => simp [advance, duplicate, tail, String.append_assoc]

theorem foldl_none {part : Part} {later : List Part}
    (none_ : ∀ other ∈ part :: later, other.drops = false) :
    (part :: later).foldl advance none = some (part.text ++ newText later) := by
  have here := none_ part (List.mem_cons_self ..)
  unfold Part.drops at here
  have began : advance none part = some part.text := by
    cases duplicate : part.duplicate with
    | true =>
      have kept : part.settled = false := by simpa [duplicate] using here
      simp [advance, duplicate, kept]
    | false => simp [advance, duplicate]
  rw [List.foldl_cons, began]
  exact foldl_some (fun other member => none_ other (List.mem_cons_of_mem _ member)) _

theorem foldl_sinceDrop (some_ : ∃ part ∈ parts, part.drops = true) (start : Option String) :
    parts.foldl advance start = (sinceDrop parts).foldl advance none := by
  induction parts using List.reverseRecOn with
  | nil => simp at some_
  | append_singleton parts last ih =>
    unfold sinceDrop
    cases drops : last.drops with
    | true =>
      have both : last.duplicate = true ∧ last.settled = true := by
        simpa [Part.drops] using drops
      rw [List.rtakeWhile_concat_neg _ _ _ (by simp [drops]), List.foldl_append]
      simp [advance, both]
    | false =>
      have earlier : ∃ part ∈ parts, part.drops = true := by
        obtain ⟨part, member, dropped⟩ := some_
        rcases List.mem_append.mp member with before | here
        · exact ⟨part, before, dropped⟩
        · rw [List.mem_singleton.mp here, drops] at dropped
          cases dropped
      rw [List.rtakeWhile_concat_pos _ _ _ (by simp [drops]), List.foldl_append, List.foldl_append,
        ih earlier]
      rfl

theorem sinceDrop_keeps (parts : List Part) : ∀ part ∈ sinceDrop parts, part.drops = false := by
  intro part member
  simpa using List.mem_rtakeWhile_imp member

theorem foldl_eq_remains (parts : List Part) : parts.foldl advance none = remains parts := by
  have since : parts.foldl advance none = (sinceDrop parts).foldl advance none := by
    by_cases some_ : ∃ part ∈ parts, part.drops = true
    · exact foldl_sinceDrop some_ none
    · rw [sinceDrop_of_none (by simpa using some_)]
  rw [since]
  unfold remains
  cases shape : sinceDrop parts with
  | nil => rfl
  | cons part later =>
    refine foldl_none ?_
    rw [← shape]
    exact sinceDrop_keeps parts

/-! ## Replays -/

/-- What the first run left of a stream is what the replay leaves: the first event of the
replay after the last one that found the row settled has all the text.  Without a loss and
without such an event the stream stays, unless the first run took it away. -/
def Recovers (lost : Bool) (first again : List Part) : Prop :=
  if lost || again.any Part.drops then
    match sinceDrop again with
    | [] => sinceDrop first = []
    | part :: _ =>
      ∃ begins later, sinceDrop first = begins :: later ∧ begins.text ++ newText later = part.text
  else sinceDrop first ≠ [] ∨ again = []

omit [DecidableEq Hash] in
theorem newText_of_duplicates (duplicates : ∀ part ∈ parts, part.duplicate = true) :
    newText parts = "" := by
  unfold newText
  rw [List.filter_eq_nil_iff.mpr fun part member => by simp [duplicates part member]]
  rfl

theorem remains_eq_none : remains parts = none ↔ sinceDrop parts = [] := by
  unfold remains
  cases sinceDrop parts with
  | nil => simp
  | cons part later => simp

theorem remains_of_duplicates (duplicates : ∀ part ∈ parts, part.duplicate = true) :
    remains parts = (sinceDrop parts).head?.map Part.text := by
  unfold remains
  cases shape : sinceDrop parts with
  | nil => rfl
  | cons part later =>
    have inParts : ∀ other ∈ later, other ∈ parts := by
      intro other member
      have suffix_ : sinceDrop parts <:+ parts := List.rtakeWhile_suffix _ _
      refine suffix_.subset ?_
      rw [shape]
      exact List.mem_cons_of_mem _ member
    dsimp only
    rw [newText_of_duplicates fun other member => duplicates other (inParts other member),
      String.append_empty]
    rfl

theorem recovers_iff {first again : List Part} (lost : Bool)
    (duplicates : ∀ part ∈ again, part.duplicate = true) :
    again.foldl advance (if lost then none else remains first) = remains first ↔
      Recovers lost first again := by
  unfold Recovers
  by_cases fresh : (lost || again.any Part.drops) = true
  · have after : again.foldl advance (if lost then none else remains first) =
        (sinceDrop again).head?.map Part.text := by
      cases lost with
      | true =>
        rw [if_pos rfl, foldl_eq_remains, remains_of_duplicates duplicates]
      | false =>
        have some_ : ∃ part ∈ again, part.drops = true := by simpa using fresh
        rw [foldl_sinceDrop some_, ← foldl_sinceDrop some_ none, foldl_eq_remains,
          remains_of_duplicates duplicates]
    rw [if_pos fresh, after]
    cases sinceDrop again with
    | nil =>
      rw [List.head?_nil, Option.map_none, eq_comm]
      exact remains_eq_none
    | cons part rest =>
      unfold remains
      cases sinceDrop first with
      | nil => simp
      | cons begins later => simp [eq_comm]
  · rw [if_neg fresh]
    obtain ⟨rfl, kept⟩ : lost = false ∧ ∀ part ∈ again, part.drops = false := by
      simpa using fresh
    rw [if_neg (by simp)]
    cases left : remains first with
    | none =>
      have gone := remains_eq_none.mp left
      rw [foldl_eq_remains, remains_eq_none, sinceDrop_of_none kept, gone]
      simp
    | some text =>
      have there : sinceDrop first ≠ [] := by
        intro gone
        rw [remains_eq_none.mpr gone] at left
        cases left
      rw [foldl_some kept, newText_of_duplicates duplicates, String.append_empty]
      simp [there]

theorem replay_stream_iff {journal : List (UsageSampling.AdaptedEvent ℚ)} {render : Store Hash}
    {first again : List (Label Hash)} {before : World Hash} {lost : Bool}
    (persisted : run (step reducer) { journal, render } first = some before)
    (repeated : eventsOf again = eventsOf first)
    (replayed : run (step reducer) (if lost then before.lose else before) again = some after)
    (key : StreamKey) :
    get key after.streams = get key before.streams ↔
      Recovers lost (partsOf reducer key { journal, render } first)
        (partsOf reducer key (if lost then before.lose else before) again) := by
  have growing := (run_text growing_nil persisted).1
  have known : ∀ event ∈ eventsOf again, Knows (if lost then before.lose else before) event := by
    intro event member
    rw [repeated] at member
    have journaled := run_knows persisted event member
    cases lost with
    | true | false => exact journaled
  have grows : Growing (if lost then before.lose else before).streams := by
    cases lost with
    | true => exact growing_nil
    | false => exact growing
  have still := (run_text grows replayed).1
  have left : textAt key before.streams =
      remains (partsOf reducer key { journal, render } first) :=
    (textAt_run growing_nil persisted key).trans (foldl_eq_remains _)
  have start : textAt key (if lost then before.lose else before).streams =
      if lost then none else remains (partsOf reducer key { journal, render } first) := by
    cases lost with
    | true => rfl
    | false => exact left
  rw [← recovers_iff lost (parts_duplicate known), ← start, ← textAt_run grows replayed key, ← left]
  constructor
  · intro same
    exact congrArg (Option.map Stream.content) same
  · intro same
    rw [still.get_eq key, growing.get_eq key, same]

/-- The streams after a replay of the same events are those before it exactly if each of them
recovers. -/
theorem replay_iff {journal : List (UsageSampling.AdaptedEvent ℚ)} {render : Store Hash}
    {first again : List (Label Hash)} {before : World Hash} (lost : Bool)
    (persisted : run (step reducer) { journal, render } first = some before)
    (repeated : eventsOf again = eventsOf first)
    (replayed : run (step reducer) (if lost then before.lose else before) again = some after) :
    (∀ key, get key after.streams = get key before.streams) ↔
      ∀ key, Recovers lost (partsOf reducer key { journal, render } first)
        (partsOf reducer key (if lost then before.lose else before) again) :=
  forall_congr' (replay_stream_iff persisted repeated replayed)

/-! ## One message in two deltas -/

def plainReducer : Reducer Payload where
  payloadHash := Function.Embedding.refl _
  python := { str := fun _ => "", int := fun _ => none }
  uuid5 := id
  encode := fun _ => ""
  failureDetail := fun _ => ""

def deltaOf (inboxSeq : Int) (text : String) : DeltaEvent where
  sdkSessionId := "session"
  generation := 1
  inboxSeq
  rawType := "assistant.message_delta"
  rawType_eq := rfl
  rawPayload := [("deltaContent", .str text)]
  receivedAt := 0
  messageId := some "message"

def deltas : List (Label Payload) :=
  [.persist (deltaOf 1 "hel") none 0, .persist (deltaOf 2 "lo") none 1]

def persistedDeltas : World Payload := (run (step plainReducer) {} deltas).get (by rfl)

/-- The world after a loss and the deltas again. -/
def replayedDeltas : World Payload :=
  (run (step plainReducer) persistedDeltas.lose deltas).get (by rfl)

theorem replay_iff_deltas :
    (∀ key, get key replayedDeltas.streams = get key persistedDeltas.streams) ↔
      ∀ key, Recovers true (partsOf plainReducer key {} deltas)
        (partsOf plainReducer key persistedDeltas.lose deltas) :=
  replay_iff true (Option.some_get _).symm rfl (Option.some_get _).symm

/-- The second delta finds the stream that the first one began again. -/
theorem replay_stops_at_first_delta :
    run (step plainReducer) {} deltas = some persistedDeltas ∧
      run (step plainReducer) persistedDeltas.lose deltas = some replayedDeltas ∧
      get ("session", "message") persistedDeltas.streams =
        some { content := "hello", finalized := false } ∧
      get ("session", "message") replayedDeltas.streams =
        some { content := "hel", finalized := false } :=
  ⟨(Option.some_get _).symm, (Option.some_get _).symm, by rfl, by rfl⟩

end Copilotd.Guarantees.StreamReplay
