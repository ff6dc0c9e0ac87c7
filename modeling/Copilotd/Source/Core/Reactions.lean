import Copilotd.Source.Storage.Tables

/-!
# Submission reactions

Source: `core/reducer.py` (the reaction states and their encoding, `_persist_transaction`,
`_compensate_content_unavailable_fallback`, on reactions, `_is_superseded_shutdown`,
`_apply_reaction_state`, `_set_submission_reaction`, `_restore_shutdown_reactions`,
`session.resume`).

An encoded `resume_state` is given by its fields; any other text decodes to neither of the two
kinds.  Left out: the source channel and message of a row, which are those of its submission,
the times, the `isinstance(data, dict)` guards, and the outbox rows that
`_queue_submission_reaction` and `supersede_admission_reaction` write.
-/
namespace Copilotd.Source.Core.Reactions

open Base.Table
open Source.Storage (SubmissionState)

/-- The keys of `REACTION_EMOJI`. -/
inductive ReactionState where
  | accepted | reasoning | action | unresolved | succeeded | failed
  deriving DecidableEq

/-- `_REACTION_TERMINAL_STATES` -/
def ReactionState.isTerminal : ReactionState → Bool
  | .succeeded | .failed => true
  | _ => false

inductive ResumeState where
  | text (value : String)
  | shutdownFailure (eventId : Option String) (generation : Int) (previousState : ReactionState)
      (previousResumeState : Option ResumeState) (previousTerminal : Bool)
      (previousLastError : Option String)
  | renderFailed (previousResumeState : Option ResumeState)

structure Reaction where
  submissionId : String
  sdkSessionId : String
  desiredState : ReactionState
  resumeState : Option ResumeState := none
  revision : Nat := 1
  runtimeGeneration : Int
  ownerFenceToken : Int
  terminal : Bool := false
  lastError : Option String := none

structure Submission where
  submissionId : String
  sdkSessionId : String
  discordSourceChannelId : Option String := none
  discordSourceMessageId : Option String := none
  state : SubmissionState
  observedUserEventId : Option String := none
  observedAt : Option ℚ := none
  createdAt : ℚ := 0

structure ModelTurn where
  sdkSessionId : String
  sdkTurnId : String
  submissionId : Option String

structure JournalRow where
  sdkSessionId : String
  generation : Int
  eventId : Option String
  parentId : Option String
  rawType : String

/-- An event that the journal accepts. -/
structure Event where
  sdkSessionId : String
  generation : Int
  fenceToken : Int
  rawType : String
  eventId : Option String := none
  parentId : Option String := none
  turnId : Option String := none
  /-- `submission_id` of a queued submission. -/
  submissionId : String := ""
  /-- The submissions whose `content_unavailable` card an intent of the event supersedes. -/
  superseded : List String := []

structure Db where
  submissions : List Submission := []
  modelTurns : List ModelTurn := []
  reactions : List Reaction := []
  journal : List JournalRow := []

def Db.submission (db : Db) (submissionId : String) : Option Submission :=
  lookup Submission.submissionId submissionId db.submissions

def Db.reaction (db : Db) (submissionId : String) : Option Reaction :=
  lookup Reaction.submissionId submissionId db.reactions

/-! ## Encoded states -/

def encodeShutdownReactionState (event : Event) (existing : Reaction) : ResumeState :=
  .shutdownFailure event.eventId event.generation existing.desiredState existing.resumeState
    existing.terminal existing.lastError

/-- `previous_resume_state` of `_shutdown_reaction_state`. -/
def shutdownReactionState : Option ResumeState → Option (Option ResumeState)
  | some (.shutdownFailure _ _ _ previous _ _) => some previous
  | _ => none

/-- `previous_resume_state` of `_render_failure_reaction_state`. -/
def renderFailureReactionState : Option ResumeState → Option (Option ResumeState)
  | some (.renderFailed previous) => some previous
  | some (.text "render_failed") => some none
  | _ => none

def isContentUnavailable : Option ResumeState → Bool
  | some (.text "content_unavailable") => true
  | _ => false

/-! ## `_set_submission_reaction` -/

/-- A shutdown that leaves its mark. -/
def Event.marks (event : Event) : Bool :=
  event.rawType = "session.shutdown" ∧ event.eventId.isSome

/-- The submission states in which a failure is not final. -/
def recoverableStates : List SubmissionState :=
  [.submitting, .submitted, .submittedUnknown, .observedActive, .loopIdle,
    .continuationExpected, .semanticComplete]

/-- The reaction of a submission in `submissionState`, after `state` is set. -/
def nextReaction (event : Event) (submissionState : SubmissionState) (state : ReactionState)
    (existing : Reaction) : Reaction :=
  let shutdownState := shutdownReactionState existing.resumeState
  let renderFailureState := renderFailureReactionState existing.resumeState
  if existing.desiredState = state then
    if state = .failed ∧ event.marks then
      { existing with
        resumeState := some (encodeShutdownReactionState event existing)
        runtimeGeneration := event.generation
        ownerFenceToken := event.fenceToken }
    else if state = .failed then
      match shutdownState.or renderFailureState with
      | some previous => { existing with resumeState := previous }
      | none => existing
    else existing
  else
    let recoverableFailure := existing.desiredState = .failed ∧ renderFailureState.isNone ∧
      submissionState ∈ recoverableStates
    let failureOverride := state = .failed ∧ existing.desiredState = .succeeded
    if existing.terminal ∧ ¬ recoverableFailure ∧ ¬ failureOverride then existing
    else
      { existing with
        desiredState := state
        resumeState :=
          if state = .failed ∧ event.marks then some (encodeShutdownReactionState event existing)
          else
            match shutdownState with
            | some previous => previous
            | none =>
              if state = .unresolved ∧ existing.desiredState = .reasoning then
                some (.text "reasoning")
              else if state = .unresolved ∧ existing.desiredState = .action then
                some (.text "action")
              else existing.resumeState
        revision := existing.revision + 1
        runtimeGeneration := event.generation
        ownerFenceToken := event.fenceToken
        terminal := state.isTerminal
        lastError := none }

/-- The submission of the event's session, if it came from a Discord message. -/
def sourcedSubmission (event : Event) (submissionId : String) (db : Db) : Option Submission :=
  (db.submission submissionId).filter fun submission =>
    submission.sdkSessionId = event.sdkSessionId ∧ submission.discordSourceChannelId.isSome ∧
      submission.discordSourceMessageId.isSome

def setSubmissionReaction (event : Event) (submissionId : String) (state : ReactionState)
    (db : Db) :
    Db :=
  match sourcedSubmission event submissionId db with
  | none => db
  | some submission =>
    match db.reaction submissionId with
    | none =>
      { db with
        reactions := db.reactions ++
          [{ submissionId
             sdkSessionId := event.sdkSessionId
             desiredState := state
             runtimeGeneration := event.generation
             ownerFenceToken := event.fenceToken
             terminal := state.isTerminal }] }
    | some _ =>
      { db with
        reactions := updateWhere (fun row => row.submissionId = submissionId)
          (nextReaction event submission.state state) db.reactions }

/-! ## `_apply_reaction_state` -/

def endedStates : List SubmissionState :=
  [.cancelled, .observedAborted, .outcomeUnknown, .rejected, .semanticBlocked, .semanticComplete,
    .submittedUnknown]

def endedReaction (state : SubmissionState) : ReactionState :=
  if state = .semanticComplete then .succeeded else .failed

/-- The submissions that have ended, of reactions of the session that have not. -/
def terminalRows (event : Event) (db : Db) : List Submission :=
  db.submissions.filter fun submission =>
    submission.state ∈ endedStates ∧
      (db.reaction submission.submissionId).any fun row =>
        row.sdkSessionId = event.sdkSessionId ∧ !row.terminal

/-- The loop over the rows that have been read before it. -/
def settleEnded (event : Event) (rows : List Submission) (db : Db) : Db :=
  rows.foldl
    (fun db row => setSubmissionReaction event row.submissionId (endedReaction row.state) db) db

inductive Wanted where
  | state (state : ReactionState)
  | resume

def wanted (rawType : String) : Option Wanted :=
  if rawType ∈ ["abort", "model.call_failure", "session.error", "session.shutdown"] then
    some (.state .failed)
  else if rawType = "copilotd.interaction.requested" then some (.state .unresolved)
  else if rawType ∈ ["copilotd.interaction.resolved", "copilotd.interaction.expired"] then
    some .resume
  else if rawType ∈ ["subagent.started", "subagent.completed", "subagent.failed",
      "tool.execution_start", "tool.execution_progress", "tool.execution_complete"] then
    some (.state .action)
  else if rawType ∈ ["assistant.intent", "assistant.message_delta", "assistant.reasoning",
      "assistant.reasoning_delta", "assistant.turn_retry", "assistant.turn_start",
      "user.message"] then
    some (.state .reasoning)
  else none

/-- `ORDER BY` observed first, `observed_at DESC`, `created_at`. -/
def Submission.precedes (row other : Submission) : Bool :=
  match row.observedAt, other.observedAt with
  | some _, none => true
  | none, some _ => false
  | some mine, some theirs => theirs < mine ∨ mine = theirs ∧ row.createdAt < other.createdAt
  | none, none => row.createdAt < other.createdAt

def firstOf (rows : List Submission) : Option Submission :=
  rows.foldl
    (fun best row =>
      match best with
      | none => some row
      | some best => if row.precedes best then some row else some best)
    none

def observedSubmission (event : Event) (db : Db) : Option String :=
  if event.rawType = "user.message" ∧ event.eventId.isSome then
    (db.submissions.find? fun row =>
      row.sdkSessionId = event.sdkSessionId ∧ row.observedUserEventId = event.eventId).map
      Submission.submissionId
  else none

def turnSubmission (event : Event) (db : Db) : Option String :=
  event.turnId.bind fun turnId =>
    (db.modelTurns.find? fun turn =>
      turn.sdkSessionId = event.sdkSessionId ∧ turn.sdkTurnId = turnId).bind ModelTurn.submissionId

def activeSubmission (event : Event) (db : Db) : Option String :=
  (firstOf (db.submissions.filter fun row =>
    row.sdkSessionId = event.sdkSessionId ∧
      row.state ∈ [.observedActive, .loopIdle, .continuationExpected, .submitted] ∧
      (db.reaction row.submissionId).any fun reaction => !reaction.terminal)).map
    Submission.submissionId

def reactingSubmission (event : Event) (db : Db) : Option String :=
  (observedSubmission event db).or ((turnSubmission event db).or (activeSubmission event db))

/-- The state to set; an interaction that ends goes back to the state before it. -/
def wantedState (wanted : Wanted) (submissionId : String) (db : Db) : ReactionState :=
  match wanted with
  | .state state => state
  | .resume =>
    match (db.reaction submissionId).bind Reaction.resumeState with
    | some (.text "action") => .action
    | _ => .reasoning

def applyReactionState (event : Event) (db : Db) : Db :=
  let db :=
    if event.rawType = "copilotd.submission.queued" then
      setSubmissionReaction event event.submissionId .accepted db
    else db
  let db := settleEnded event (terminalRows event db) db
  match wanted event.rawType, reactingSubmission event db with
  | some wanted, some submissionId =>
    setSubmissionReaction event submissionId (wantedState wanted submissionId db) db
  | _, _ => db

/-! ## Shutdown and resume -/

/-- The row was marked by the parent of the event, in the event's generation. -/
def markedByParent (event : Event) (row : Reaction) : Bool :=
  match row.resumeState with
  | some (.shutdownFailure eventId generation _ _ _ _) =>
    eventId = event.parentId ∧ generation = event.generation
  | _ => false

/-- The row as it was before the shutdown that marked it. -/
def restoredReaction (event : Event) (row : Reaction) : Reaction :=
  match row.resumeState with
  | some (.shutdownFailure _ _ previousState previousResumeState previousTerminal
      previousLastError) =>
    { row with
      desiredState := previousState
      resumeState := previousResumeState
      revision := row.revision + 1
      runtimeGeneration := event.generation
      ownerFenceToken := event.fenceToken
      terminal := previousTerminal
      lastError := previousLastError }
  | _ => row

def restoreShutdownReactions (event : Event) (db : Db) : Db :=
  if event.parentId.isNone then db
  else
    { db with
      reactions := updateWhere
        (fun row => row.sdkSessionId = event.sdkSessionId ∧ row.desiredState = .failed ∧
          row.terminal ∧ markedByParent event row)
        (restoredReaction event) db.reactions }

/-- The end of `_compensate_content_unavailable_fallback`: a reaction that failed for its content
goes to the state of its submission. -/
def compensateReaction (event : Event) (db : Db) (submissionId : String) : Db :=
  match db.submission submissionId with
  | none => db
  | some submission =>
    if submission.state ∈ endedStates then
      { db with
        reactions := updateWhere
          (fun row => row.submissionId = submissionId ∧ row.sdkSessionId = event.sdkSessionId ∧
            row.desiredState = .failed ∧ row.terminal ∧ isContentUnavailable row.resumeState)
          (fun row =>
            { row with
              desiredState := endedReaction submission.state
              resumeState := none
              revision := row.revision + 1
              lastError := none })
          db.reactions }
    else db

/-- `_is_superseded_shutdown`; `resumesInBatch` are the parents of the batch's resumes. -/
def isSupersededShutdown (resumesInBatch : List (String × Int × Option String)) (event : Event)
    (db : Db) : Bool :=
  event.rawType = "session.shutdown" ∧ event.eventId.isSome ∧
    ((event.sdkSessionId, event.generation, event.eventId) ∈ resumesInBatch ∨
      db.journal.any fun row => row.sdkSessionId = event.sdkSessionId ∧
        row.generation = event.generation ∧ row.rawType = "session.resume" ∧
        row.parentId = event.eventId)

/-- `_apply_domain_state`, on reactions. -/
def applyDomainState (event : Event) (db : Db) : Db :=
  if event.rawType = "session.resume" ∧ event.parentId.isSome ∧
      (db.journal.any fun row => row.sdkSessionId = event.sdkSessionId ∧
        row.generation = event.generation ∧ row.eventId = event.parentId ∧
        row.rawType = "session.shutdown") then
    restoreShutdownReactions event db
  else db

/-- The event is written to the journal. -/
def insertJournal (event : Event) (db : Db) : Db :=
  { db with
    journal := db.journal ++
      [{ sdkSessionId := event.sdkSessionId
         generation := event.generation
         eventId := event.eventId
         parentId := event.parentId
         rawType := event.rawType }] }

/-- One turn of the loop of `_persist_transaction`. -/
def persistEvent (resumesInBatch : List (String × Int × Option String)) (event : Event) (db : Db) :
    Db :=
  let db := insertJournal event db
  if isSupersededShutdown resumesInBatch event db then db
  else
    event.superseded.foldl (compensateReaction event)
      (applyReactionState event (applyDomainState event db))

end Copilotd.Source.Core.Reactions
