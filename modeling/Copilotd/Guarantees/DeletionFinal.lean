import Mathlib.Data.Option.Basic
import Copilotd.Base.Pool
import Copilotd.Source.Core.SessionDeletion

/-!
# Deletion is safe and final

The deletion reads the attachment state before it records its attempt, and the
transaction that records it looks at the intent only.  An attachment of the closed
binding that begins in between, by the scheduler or by a recovery, is then still there
when `delete_session` is invoked.  When no attempt is recorded on an attached binding,
the intent from then on excludes every attachment, and with it `begin_close`, the one
statement that would take the intent back.
-/
namespace Copilotd.Guarantees.DeletionFinal

open Base Base.Run Source.Core.Bindings Source.Core.SessionDeletion

/-- No attempt is recorded while the binding is attached or attaching. -/
def Detached (world : World) : Label → Prop
  | .call _ (.begins _) =>
    world.store.binding.bindingIntent ∈ [.closed, .deleting, .deleteUnknown] →
      ¬world.store.binding.attachmentState.Live
  | _ => True

instance (world : World) (label : Label) : Decidable (Detached world label) := by
  unfold Detached
  split <;> infer_instance

/-- A successful `delete_session`, or a negative `session_exists`. -/
def Confirms (heard : Option Answer) : Prop :=
  heard = some .deleted ∨ heard = some (.exist false)

/-- What the deletion promises of one step. -/
structure Safe (world : World) (label : Label) (after : World) : Prop where
  /-- `delete_session` is invoked, and runs, only while nothing is attached. -/
  detached : ∀ call ∈ after.calls, ∀ operation, call.phase = .deleting operation →
    ¬after.store.binding.attachmentState.Live
  /-- The call that writes `deleted` had its confirmation from the bridge. -/
  confirmed : world.store.binding.bindingIntent ≠ .deleted →
    after.store.binding.bindingIntent = .deleted →
    ∃ index move call, label = .call index move ∧ world.calls[index]? = some call ∧
      Confirms call.heard
  /-- A deleted binding keeps its intent. -/
  final : world.store.binding.bindingIntent = .deleted →
    after.store.binding.bindingIntent = .deleted
  /-- Once an attempt is recorded, no attachment can begin. -/
  excluded : world.store.operations ≠ [] → ∀ change, change.opens →
    world.store.binding.apply change = none

/-! ## The row -/

/-- The intents from the first attempt on. -/
def Doomed (row : SessionBinding) : Prop :=
  row.bindingIntent = .deleting ∨ row.bindingIntent = .deleteUnknown ∨
    row.bindingIntent = .deleted

/-- The intent is kept, and no attachment appears. -/
def Weakens (row after : SessionBinding) : Prop :=
  after.bindingIntent = row.bindingIntent ∧
    (after.attachmentState.Live → row.attachmentState.Live)

variable {change : RowStep}

section
variable {row after : SessionBinding}

theorem Weakens.refl (row : SessionBinding) : Weakens row row := ⟨rfl, id⟩

theorem Weakens.doomed (weakens : Weakens row after) : Doomed after ↔ Doomed row := by
  unfold Doomed
  rw [weakens.1]

theorem not_doomed_open (intent : row.bindingIntent = .active ∨ row.bindingIntent = .closed) :
    ¬Doomed row := by
  rintro (same | same | same) <;> rcases intent with other | other <;> rw [same] at other <;>
    cases other

theorem unknown_weakens (reason : AttachmentReason) : Weakens row (row.unknown reason) :=
  ⟨rfl, by rintro (same | same | same) <;> cases same⟩

theorem recoverTerminal_weakens (reason : AttachmentReason) :
    Weakens row (row.recoverTerminal reason) := by
  unfold SessionBinding.recoverTerminal
  split
  · exact unknown_weakens reason
  · exact .refl row

theorem abandon_weakens (states : List AttachmentState) (reason : Option AttachmentReason) :
    Weakens row (row.abandon states reason) := by
  unfold SessionBinding.abandon
  split
  · exact ⟨rfl, by rintro (same | same | same) <;> cases same⟩
  · exact .refl row

theorem eagerBindings_weakens (queued : Bool) : Weakens row (row.eagerBindings queued) := by
  have first : Weakens row (row.recoverTerminal .unexpectedRuntimeShutdown) :=
    recoverTerminal_weakens _
  unfold SessionBinding.eagerBindings
  dsimp only
  split
  · exact first
  · exact first

theorem setAttachmentReason_weakens {reason : Option AttachmentReason} {rowVersion : Nat}
    (taken : row.setAttachmentReason reason rowVersion = some after) : Weakens row after := by
  unfold SessionBinding.setAttachmentReason at taken
  split at taken
  · cases taken
  · split at taken
    · cases taken
      exact ⟨rfl, id⟩
    · cases taken

/-- A transition into an attached state starts from a live one. -/
theorem transition_weakens {kind : Transition} {generation fence : Nat}
    (taken : row.transition kind generation fence = some after) : Weakens row after := by
  unfold SessionBinding.transition at taken
  split at taken
  next guards =>
    cases taken
    refine ⟨rfl, ?_⟩
    intro live
    have expected := guards.2.2
    cases kind with
    | markAttached | markAttachedBlocked | markAttachUnknown | markOwnerConflict =>
      rcases List.mem_pair.mp expected with same | same <;> rw [same] <;> decide
    | resetCancelledAttachment | markRecoveryUnknown =>
      rcases live with same | same | same <;> cases same
    | markPermissionsVerified | invalidatePermissions =>
      rw [List.mem_singleton.mp expected]
      decide
    | finishDisconnect succeeded =>
      cases succeeded <;> rcases live with same | same | same <;> cases same
  · cases taken

theorem apply_cases (taken : row.apply change = some after) :
    Weakens row after ∨
      (row.bindingIntent = .active ∨ row.bindingIntent = .closed) ∧
        (after.bindingIntent = .active ∨ after.bindingIntent = .closed) ∨
      row.attachmentState = .attached ∧ after.bindingIntent = .closed := by
  cases change with
  | beginAttachment state fence =>
    right; left
    simp only [SessionBinding.apply, SessionBinding.beginAttachment] at taken
    split at taken
    · cases taken
    next admitted =>
      have intent := List.mem_pair.mp (not_not.mp admitted)
      split at taken
      · cases taken
      · split at taken
        · cases taken
        · cases taken
          exact ⟨intent, intent⟩
  | beginReattach fence =>
    right; left
    simp only [SessionBinding.apply, SessionBinding.beginReattach] at taken
    split at taken
    next guards =>
      cases taken
      exact ⟨.inl guards.1, .inl guards.1⟩
    · cases taken
  | transition kind generation fence => exact .inl (transition_weakens taken)
  | beginClose generation fence =>
    right; right
    simp only [SessionBinding.apply, SessionBinding.beginClose] at taken
    split at taken
    next guards =>
      cases taken
      exact ⟨guards.2.2, rfl⟩
    · cases taken
  | activate =>
    right; left
    simp only [SessionBinding.apply, SessionBinding.activate] at taken
    split at taken
    next closed =>
      cases taken
      exact ⟨.inr closed, .inl rfl⟩
    · cases taken
  | setAttachmentReason reason rowVersion => exact .inl (setAttachmentReason_weakens taken)
  | eagerBindings queued =>
    cases taken
    exact .inl (eagerBindings_weakens queued)
  | shutdown generation fence =>
    cases taken
    left
    simp only [SessionBinding.shutdown]
    split
    · exact unknown_weakens _
    · exact .refl row
  | resume generation fence =>
    cases taken
    simp only [SessionBinding.resume]
    split
    next guards => exact .inr (.inl ⟨.inl guards.2.2.1, .inl guards.2.2.1⟩)
    · exact .inl (.refl row)
  | cancelCleanupFailed fence =>
    cases taken
    left
    simp only [SessionBinding.cancelCleanupFailed]
    split
    · exact abandon_weakens _ _
    · exact .refl row
  | recoverTerminal =>
    cases taken
    exact .inl (recoverTerminal_weakens _)
  | ownerExpired =>
    cases taken
    exact .inl (abandon_weakens _ _)
  | serviceFailed text =>
    cases taken
    exact .inl (abandon_weakens _ _)
  | restart remote =>
    cases taken
    left
    simp only [SessionBinding.restart]
    split
    · exact abandon_weakens _ _
    · split <;> exact ⟨rfl, id⟩
  | touch =>
    cases taken
    exact .inl ⟨rfl, id⟩

theorem opens_none (doomed : Doomed row) (opens : change.opens) :
    row.apply change = none := by
  cases change with
  | beginAttachment state fence =>
    have refused : row.bindingIntent ∉ [.active, .closed] := fun member =>
      not_doomed_open (List.mem_pair.mp member) doomed
    simp only [SessionBinding.apply, SessionBinding.beginAttachment, if_pos refused]
  | beginReattach fence =>
    have refused : row.bindingIntent ≠ .active := fun same => not_doomed_open (.inl same) doomed
    simp only [SessionBinding.apply, SessionBinding.beginReattach, refused, false_and, if_false]
  | _ => cases opens

end

/-! ## The invariant -/

/-- A doomed binding is not attached. -/
def Still (row : SessionBinding) : Prop := Doomed row → ¬row.attachmentState.Live

/-- The row's part of a step: a doomed binding stays doomed and `deleted` is final. -/
structure Onward (row after : SessionBinding) : Prop where
  still : Still after
  doomed : Doomed row → Doomed after
  final : row.bindingIntent = .deleted → after.bindingIntent = .deleted

section
variable {row after : SessionBinding}

theorem Weakens.onward (weakens : Weakens row after) (still : Still row) : Onward row after where
  still := fun doomed live => still (weakens.doomed.mp doomed) (weakens.2 live)
  doomed := weakens.doomed.mpr
  final := fun deleted => weakens.1.trans deleted

theorem apply_onward (taken : row.apply change = some after)
    (still : Still row) : Onward row after := by
  rcases apply_cases taken with weakens | ⟨before, later⟩ | ⟨attached, closed⟩
  · exact weakens.onward still
  · have undoomed := not_doomed_open before
    exact
      ⟨fun doomed => absurd doomed (not_doomed_open later), fun doomed => absurd doomed undoomed,
      fun deleted => absurd (.inr (.inr deleted)) undoomed⟩
  · have undoomed : ¬Doomed row := fun doomed => still doomed (.inr (.inr attached))
    exact ⟨fun doomed => absurd doomed (not_doomed_open (.inr closed)),
      fun doomed => absurd doomed undoomed, fun deleted => absurd (.inr (.inr deleted)) undoomed⟩

theorem apply_deleted (taken : row.apply change = some after)
    (deleted : after.bindingIntent = .deleted) : row.bindingIntent = .deleted := by
  rcases apply_cases taken with weakens | ⟨_, later⟩ | ⟨_, closed⟩
  · exact weakens.1.symm.trans deleted
  · exact absurd (.inr (.inr deleted)) (not_doomed_open later)
  · rw [deleted] at closed
    cases closed

end

/-- What a call knows. -/
def Sound (store : Store) (call : Call) : Prop :=
  match call.phase with
  | .lookingUp _ finding | .recording _ finding => finding = .missing → Confirms call.heard
  | .invoking _ | .deleting _ | .confirming _ => store.operations ≠ []
  | .markingDeleted _ => Confirms call.heard
  | _ => True

structure Kept (world : World) : Prop where
  still : Still world.store.binding
  doomed : world.store.operations ≠ [] → Doomed world.store.binding
  calls : ∀ call ∈ world.calls, Sound world.store call

variable {store after : Store} {call : Call}

theorem Sound.mono (sound : Sound store call)
    (grows : store.operations ≠ [] → after.operations ≠ []) : Sound after call := by
  unfold Sound at sound ⊢
  split at sound
  · exact sound
  · exact sound
  · exact grows sound
  · exact grows sound
  · exact grows sound
  · exact sound
  · trivial

/-! ## What a call does -/

/-- What one step of a call does to the store. -/
inductive Effect (store : Store) (call : Call) (move : Move) : Store → Prop where
  | quiet {after : Store} (operations : after.operations = store.operations)
      (weakens : Weakens store.binding after.binding) : Effect store call move after
  | begins {after : Store} {current : SessionBinding} {now operation : Nat}
      (moved : move = .begins now)
      (taken : store.beginAttempt current now = some (after, operation)) :
      Effect store call move after
  | unknown (operation : Nat) : Effect store call move (store.markUnknown operation)
  | deleted (operation : Nat) (confirmed : Confirms call.heard) :
      Effect store call move (store.markDeleted operation)

variable {operation : Nat}

section
variable {store after : Store} {call next : Call} {move : Move}

theorem sound_checkDetached (current : SessionBinding) :
    Sound store { call with phase := checkDetached current } := by
  unfold checkDetached
  split
  · trivial
  · split <;> trivial

theorem sound_startTeardown (current : SessionBinding) :
    Sound store { call with phase := startTeardown current } := by
  unfold startTeardown
  split <;> trivial

theorem sound_tearDown (current : SessionBinding) :
    Sound store { call with phase := tearDown current } := by
  unfold tearDown
  split
  · split
    · exact sound_startTeardown current
    · trivial
  · exact sound_checkDetached current

theorem sound_finishTeardown (raised : Bool) :
    Sound store { call with phase := finishTeardown raised } := by
  cases raised <;> trivial

theorem sound_settleFinding (operation : Nat) {finding : Finding}
    (known : finding = .missing → Confirms call.heard) :
    Sound store { call with phase := settleFinding operation finding } := by
  cases finding with
  | unreachable => trivial
  | persists => trivial
  | missing => exact known rfl

theorem beginAttempt_operations {current : SessionBinding} {now : Nat}
    (taken : store.beginAttempt current now = some (after, operation)) :
    after.operations ≠ [] := by
  simp only [Store.beginAttempt] at taken
  split at taken
  · simp only [Option.some.injEq, Prod.mk.injEq] at taken
    rw [← taken.1]
    simp
  · cases taken

theorem finishCleanup_quiet (succeeded : Bool) :
    (store.finishCleanup succeeded).operations = store.operations ∧
      Weakens store.binding (store.finishCleanup succeeded).binding := by
  unfold Store.finishCleanup
  split
  · exact ⟨rfl, rfl, id⟩
  · exact ⟨rfl, .refl _⟩

theorem advance_spec (sound : Sound store call)
    (taken : call.advance store move = some (after, next)) :
    Effect store call move after ∧ Sound after next := by
  obtain ⟨phase, heard⟩ := call
  unfold Call.advance at taken
  cases phase with
  | reading =>
    cases move <;> cases taken
    · refine ⟨.quiet rfl (.refl _), ?_⟩
      split <;> trivial
    · exact ⟨.quiet rfl (.refl _), trivial⟩
  | referencing current =>
    cases move <;> cases taken
    · refine ⟨.quiet rfl (.refl _), ?_⟩
      split
      · trivial
      · split
        · trivial
        · exact sound_tearDown current
    · exact ⟨.quiet rfl (.refl _), trivial⟩
  | reconciling current =>
    cases move with
    | exist persisted =>
      cases taken
      refine ⟨.quiet rfl (.refl _), fun missing => ?_⟩
      cases persisted with
      | true => cases missing
      | false => exact .inr rfl
    | raises =>
      cases taken
      exact ⟨.quiet rfl (.refl _), fun missing => by cases missing⟩
    | leave =>
      cases taken
      exact ⟨.quiet rfl (.refl _), trivial⟩
    | _ => cases taken
  | lookingUp current finding =>
    cases move with
    | latest operation =>
      cases operation with
      | none =>
        simp only at taken
        split at taken
        · cases taken
          exact ⟨.quiet rfl (.refl _), sound⟩
        · cases taken
      | some operation =>
        simp only at taken
        split at taken
        · cases taken
          exact ⟨.quiet rfl (.refl _), sound_settleFinding operation sound⟩
        · cases taken
    | leave =>
      cases taken
      exact ⟨.quiet rfl (.refl _), trivial⟩
    | _ => cases taken
  | recording current finding =>
    cases move with
    | begins now =>
      simp only at taken
      split at taken
      · cases taken
        exact ⟨.quiet rfl (.refl _), trivial⟩
      next began =>
        cases taken
        exact ⟨.begins rfl began, sound_settleFinding _ sound⟩
    | leave =>
      cases taken
      exact ⟨.quiet rfl (.refl _), trivial⟩
    | _ => cases taken
  | rereading =>
    cases move <;> cases taken
    · exact ⟨.quiet rfl (.refl _), sound_tearDown _⟩
    · exact ⟨.quiet rfl (.refl _), trivial⟩
  | projecting current =>
    cases move <;> cases taken
    · refine ⟨.quiet rfl (.refl _), ?_⟩
      split
      · exact sound_startTeardown current
      · trivial
    · exact ⟨.quiet rfl (.refl _), trivial⟩
  | claiming current =>
    cases move with
    | next =>
      simp only at taken
      split at taken
      · cases taken
        exact ⟨.quiet rfl (.refl _), trivial⟩
      next claimed =>
        cases taken
        exact ⟨.quiet rfl (setAttachmentReason_weakens claimed), trivial⟩
    | leave =>
      cases taken
      exact ⟨.quiet rfl (.refl _), trivial⟩
    | _ => cases taken
  | releasing raised =>
    cases move <;> cases taken
    · refine ⟨.quiet rfl (.refl _), ?_⟩
      split
      · trivial
      · exact sound_finishTeardown raised
    · exact ⟨.quiet rfl (.refl _), trivial⟩
  | clearing latest raised =>
    cases move with
    | next =>
      simp only at taken
      split at taken
      · cases taken
        exact ⟨.quiet rfl (.refl _), trivial⟩
      next cleared =>
        cases taken
        exact ⟨.quiet rfl (setAttachmentReason_weakens cleared), sound_finishTeardown raised⟩
    | leave =>
      cases taken
      exact ⟨.quiet rfl (.refl _), trivial⟩
    | _ => cases taken
  | readingTornDown =>
    cases move <;> cases taken
    · exact ⟨.quiet rfl (.refl _), sound_checkDetached _⟩
    · exact ⟨.quiet rfl (.refl _), trivial⟩
  | admitting current =>
    cases move with
    | begins now =>
      simp only at taken
      split at taken
      · cases taken
        exact ⟨.quiet rfl (.refl _), trivial⟩
      next began =>
        cases taken
        exact ⟨.begins rfl began, beginAttempt_operations began⟩
    | leave =>
      cases taken
      exact ⟨.quiet rfl (.refl _), trivial⟩
    | _ => cases taken
  | invoking operation =>
    cases move <;> cases taken
    · exact ⟨.quiet rfl (.refl _), sound⟩
    · exact ⟨.quiet rfl (.refl _), trivial⟩
  | deleting operation =>
    cases move <;> cases taken
    · exact ⟨.quiet rfl (.refl _), .inl rfl⟩
    · exact ⟨.quiet rfl (.refl _), sound⟩
    · exact ⟨.quiet rfl (.refl _), trivial⟩
  | confirming operation =>
    cases move with
    | exist persisted =>
      cases taken
      refine ⟨.quiet rfl (.refl _), ?_⟩
      cases persisted with
      | true => trivial
      | false => exact .inr rfl
    | raises | leave =>
      cases taken
      exact ⟨.quiet rfl (.refl _), trivial⟩
    | _ => cases taken
  | markingUnknown operation resumes =>
    cases move <;> cases taken
    · exact ⟨.unknown operation, by cases resumes <;> trivial⟩
    · exact ⟨.quiet rfl (.refl _), trivial⟩
  | markingDeleted operation =>
    cases move <;> cases taken
    · exact ⟨.deleted operation sound, trivial⟩
    · exact ⟨.quiet rfl (.refl _), trivial⟩
  | cleaning =>
    cases move with
    | returns | raises =>
      cases taken
      exact ⟨.quiet (finishCleanup_quiet _).1 (finishCleanup_quiet _).2, trivial⟩
    | leave =>
      cases taken
      exact ⟨.quiet rfl (.refl _), trivial⟩
    | _ => cases taken
  | _ => cases move <;> cases taken <;> exact ⟨.quiet rfl (.refl _), trivial⟩

end

/-! ## One step of the world -/

theorem markUnknown_onward (operation : Nat) (still : Still store.binding) :
    Onward store.binding (store.markUnknown operation).binding := by
  simp only [Store.markUnknown]
  split
  next member =>
    have doomed : Doomed store.binding := (List.mem_pair.mp member).elim .inl (.inr ∘ .inl)
    refine ⟨fun _ => still doomed, fun _ => .inr (.inl rfl), fun deleted => ?_⟩
    rw [deleted] at member
    exact absurd member (by decide)
  · exact (Weakens.refl _).onward still

theorem markDeleted_onward (operation : Nat) (still : Still store.binding) :
    Onward store.binding (store.markDeleted operation).binding := by
  simp only [Store.markDeleted]
  split
  · refine ⟨fun _ live => ?_, fun _ => .inr (.inr rfl), fun _ => rfl⟩
    rcases live with same | same | same <;> cases same
  · exact (Weakens.refl _).onward still

theorem beginAttempt_onward {current : SessionBinding}
    {now : Nat} (taken : store.beginAttempt current now = some (after, operation))
    (detached : store.binding.bindingIntent ∈ [.closed, .deleting, .deleteUnknown] →
      ¬store.binding.attachmentState.Live) :
    Onward store.binding after.binding ∧ Doomed after.binding := by
  simp only [Store.beginAttempt] at taken
  split at taken
  next admitted =>
    simp only [Option.some.injEq, Prod.mk.injEq] at taken
    rw [← taken.1]
    refine ⟨⟨fun _ => detached admitted, fun _ => .inl rfl, fun deleted => ?_⟩, .inl rfl⟩
    rw [deleted] at admitted
    exact absurd admitted (by decide)
  · cases taken

/-- What a step of a call keeps, if it records no attempt on an attached binding. -/
structure Progress (store after : Store) : Prop where
  onward : Onward store.binding after.binding
  grows : store.operations ≠ [] → after.operations ≠ []
  doomed : after.operations ≠ [] → store.operations ≠ [] ∨ Doomed after.binding

theorem updateOperation_ne_nil {change : Operation → Operation} :
    store.updateOperation operation change ≠ [] ↔ store.operations ≠ [] := by
  rw [Store.updateOperation, ne_eq, List.map_eq_nil_iff]

theorem Effect.progress {move : Move}
    (effect : Effect store call move after) (still : Still store.binding)
    (detached : ∀ now, move = .begins now →
      store.binding.bindingIntent ∈ [.closed, .deleting, .deleteUnknown] →
        ¬store.binding.attachmentState.Live) : Progress store after := by
  cases effect with
  | quiet operations weakens =>
    refine ⟨weakens.onward still, ?_, ?_⟩
    · rw [operations]
      exact id
    · rw [operations]
      exact .inl
  | begins moved taken =>
    have onward := beginAttempt_onward taken (detached _ moved)
    exact ⟨onward.1, fun _ => beginAttempt_operations taken, fun _ => .inr onward.2⟩
  | unknown operation =>
    exact ⟨markUnknown_onward operation still, updateOperation_ne_nil.mpr,
      fun some => .inl (updateOperation_ne_nil.mp some)⟩
  | deleted operation =>
    exact ⟨markDeleted_onward operation still, updateOperation_ne_nil.mpr,
      fun some => .inl (updateOperation_ne_nil.mp some)⟩

theorem Effect.confirmed {move : Move}
    (effect : Effect store call move after) (before : store.binding.bindingIntent ≠ .deleted)
    (deleted : after.binding.bindingIntent = .deleted) : Confirms call.heard := by
  cases effect with
  | quiet operations weakens => exact absurd (weakens.1.symm.trans deleted) before
  | begins moved taken =>
    simp only [Store.beginAttempt] at taken
    split at taken
    · simp only [Option.some.injEq, Prod.mk.injEq] at taken
      rw [← taken.1] at deleted
      cases deleted
    · cases taken
  | unknown operation =>
    simp only [Store.markUnknown] at deleted
    split at deleted
    · cases deleted
    · exact absurd deleted before
  | deleted operation confirmed => exact confirmed

section
variable {world after : World} {label : Label}

theorem step_cases (taken : step world label = some after) :
    (∃ index move call next, label = .call index move ∧ world.calls[index]? = some call ∧
      call.advance world.store move = some (after.store, next) ∧
      after.calls = world.calls.set index next) ∨
    (∃ change, world.store.binding.apply change = some after.store.binding ∧
      after.store.operations = world.store.operations ∧ after.calls = world.calls) ∨
    (after.store.binding = world.store.binding ∧
      (after.store.operations = [] ↔ world.store.operations = []) ∧
      ∀ call ∈ after.calls, call ∈ world.calls ∨ ∀ store, Sound store call) := by
  cases label with
  | request =>
    cases taken
    refine .inr (.inr ⟨rfl, Iff.rfl, ?_⟩)
    exact Pool.forall_push (fun call member => .inl member) (.inr fun _ => trivial)
  | acquire index =>
    simp only [step, Option.bind_eq_bind, Option.bind_eq_some_iff, Option.pure_def] at taken
    obtain ⟨call, found, _, _, taken⟩ := taken
    cases taken
    refine .inr (.inr ⟨rfl, Iff.rfl, ?_⟩)
    exact Pool.forall_set found (fun call member => .inl member) (.inr fun _ => trivial)
  | call index move =>
    simp only [step, Option.bind_eq_bind, Option.bind_eq_some_iff, Option.pure_def] at taken
    obtain ⟨call, found, ⟨store, next⟩, moved, taken⟩ := taken
    cases taken
    exact .inl ⟨index, move, call, next, rfl, found, moved, rfl⟩
  | binding change =>
    simp only [step, Option.bind_eq_bind, Option.bind_eq_some_iff, Option.pure_def] at taken
    obtain ⟨binding, applied, taken⟩ := taken
    cases taken
    exact .inr (.inl ⟨change, applied, rfl, rfl⟩)
  | loseOperations =>
    cases taken
    exact .inr (.inr ⟨rfl, List.map_eq_nil_iff, fun call member => .inl member⟩)
  | crash =>
    cases taken
    exact .inr (.inr ⟨rfl, Iff.rfl, fun call member => by cases member⟩)

theorem step_kept (kept : Kept world) (detached : Detached world label)
    (taken : step world label = some after) : Kept after := by
  rcases step_cases taken with ⟨index, move, call, next, rfl, found, moved, calls⟩ |
    ⟨change, applied, operations, calls⟩ | ⟨binding, operations, calls⟩
  · obtain ⟨effect, sound⟩ := advance_spec (kept.calls call (Pool.mem_of_getElem? found)) moved
    have progress := effect.progress kept.still fun now same => by
      subst same
      exact detached
    refine ⟨progress.onward.still, ?_, ?_⟩
    · intro recorded
      rcases progress.doomed recorded with before | doomed
      · exact progress.onward.doomed (kept.doomed before)
      · exact doomed
    · rw [calls]
      exact Pool.forall_set found
        (fun other member => (kept.calls other member).mono progress.grows) sound
  · have onward := apply_onward applied kept.still
    refine ⟨onward.still, ?_, ?_⟩
    · rw [operations]
      exact fun recorded => onward.doomed (kept.doomed recorded)
    · rw [calls]
      exact fun call member => (kept.calls call member).mono (by rw [operations]; exact id)
  · refine ⟨?_, ?_, ?_⟩
    · rw [binding]
      exact kept.still
    · rw [binding]
      exact fun recorded => kept.doomed (recorded ∘ operations.mpr)
    · intro call member
      rcases calls call member with old | sound
      · exact (kept.calls call old).mono fun recorded => recorded ∘ operations.mp
      · exact sound _

theorem Kept.detached (kept : Kept world) (member : call ∈ world.calls)
    (deleting : call.phase = .deleting operation) :
    ¬world.store.binding.attachmentState.Live := by
  have sound := kept.calls call member
  unfold Sound at sound
  rw [deleting] at sound
  exact kept.still (kept.doomed sound)

theorem step_safe (kept : Kept world) (detached : Detached world label)
    (taken : step world label = some after) : Safe world label after := by
  have later := step_kept kept detached taken
  refine ⟨fun call member operation => later.detached member, ?_, ?_, ?_⟩
  · intro before deleted
    rcases step_cases taken with ⟨index, move, call, next, rfl, found, moved, calls⟩ |
      ⟨change, applied, operations, calls⟩ | ⟨binding, operations, calls⟩
    · have spec := advance_spec (kept.calls call (Pool.mem_of_getElem? found)) moved
      exact ⟨index, move, call, rfl, found, spec.1.confirmed before deleted⟩
    · exact absurd (apply_deleted applied deleted) before
    · rw [binding] at deleted
      exact absurd deleted before
  · intro deleted
    rcases step_cases taken with ⟨index, move, call, next, rfl, found, moved, calls⟩ |
      ⟨change, applied, operations, calls⟩ | ⟨binding, operations, calls⟩
    · have spec := advance_spec (kept.calls call (Pool.mem_of_getElem? found)) moved
      refine (spec.1.progress kept.still fun now same => ?_).onward.final deleted
      subst same
      exact detached
    · exact (apply_onward applied kept.still).final deleted
    · rw [binding]
      exact deleted
  · exact fun recorded change opens => opens_none (kept.doomed recorded) opens

end

theorem fresh_kept : Kept {} where
  still := fun doomed => absurd doomed (not_doomed_open (.inl rfl))
  doomed := fun recorded => absurd rfl recorded
  calls := fun call member => by cases member

/-- Every way on from here is safe. -/
def Promised (world : World) (label : Label) : Prop :=
  ∀ after, step world label = some after → Safe world label after

/-- From the creation of the binding on, along any interleaving of deletions, crashes
and changes of the row by other tasks in which no attempt is recorded on an attached
binding, deletion is safe and final. -/
theorem deletion_is_safe_and_final {labels : List Label}
    (detached : Along step Detached {} labels) : Along step Promised {} labels :=
  along_of_inv (fun _ _ _ kept ok taken => step_kept kept ok taken)
    (fun _ _ kept ok _ taken => step_safe kept ok taken) detached fresh_kept

/-- The binding is attached, closed and detached again. -/
def closedOnce : List Label :=
  [.binding (.beginAttachment .creating 1), .binding (.transition .markAttached 1 1),
    .binding (.beginClose 1 1), .binding (.transition (.finishDisconnect true) 1 1)]

/-- A deletion up to the transaction that records its attempt. -/
def untilAttempt : List Label :=
  [.request, .acquire 0, .call 0 .next, .call 0 (.found false), .call 0 (.found false),
    .call 0 .next]

theorem deletion_is_safe_and_final_refused :
    Along step Promised {} (closedOnce ++ untilAttempt ++
      [.call 0 (.begins 7), .binding (.setAttachmentReason (some .schedulerRun) 6), .call 0 .next,
        .call 0 .raises, .call 0 (.exist false), .call 0 .next]) :=
  deletion_is_safe_and_final (by decide)

/-- The scheduler attaches the closed binding between the check and the attempt. -/
def overtakenAttempt : List Label :=
  closedOnce ++ untilAttempt ++
    [.binding (.setAttachmentReason (some .schedulerRun) 5),
      .binding (.beginAttachment .resuming 2), .call 0 (.begins 7)]

theorem overtaken_attempt_deletes_attached_session :
    ¬∀ labels, Along step Promised {} labels := by
  intro all
  obtain ⟨world, reached⟩ : ∃ world, run step {} overtakenAttempt = some world := ⟨_, rfl⟩
  have last := (along_append reached (all (overtakenAttempt ++ [.call 0 .next]))).2.1
  obtain rfl := Option.some.inj reached
  exact (last _ rfl).detached _ (List.mem_cons_self ..) 1 rfl (by decide)

end Copilotd.Guarantees.DeletionFinal
