import Copilotd.Base.Pool
import Copilotd.Source.Core.Attachments

/-!
# An explicit resume and the temporary attachments

A resume that returns leaves the session active, and no release of a scheduled run closes it,
unless one of four things happens.  The transition finds a runtime that is READY for a run, and
activates nothing.  The resume joins a transition whose `attach_resume` is under way without
reactivation.  `release_temporary_target` closes whatever it finds attached.  The user's own
close commits while the resume is under way.
-/
namespace Copilotd.Guarantees.ExplicitResume

open Base Base.Run Source.Core.Bindings Source.Core.Attachments

/-! ## The law -/

/-- In a log, newest first, a resume has returned and no close of the user has followed. -/
def Standing : List Note → Bool
  | [] => false
  | .resumed :: _ => true
  | .closed :: _ => false
  | .released :: earlier => Standing earlier

/-- No release has closed a session that was resumed. -/
def NeverReleased : List Note → Prop
  | [] => True
  | .released :: earlier => Standing earlier = false ∧ NeverReleased earlier
  | _ :: earlier => NeverReleased earlier

abbrev Live (row : SessionBinding) : Prop := row.bindingIntent = .active

structure Wins (world : World) : Prop where
  active : Standing world.log → Live world.shared.row
  kept : NeverReleased world.log

/-! ## The condition -/

/-- A reactivating `ensure_attached` is under way. -/
def reactivates : Task → Bool
  | .ensures true _ _ => true
  | _ => false

/-- A resume is under way, or a transition that was asked to reactivate. -/
def pursued (world : World) : Bool :=
  world.tasks.any reactivates ||
    world.transitions.any fun found => found.reactivateRequested && !found.phase.finished

/-- The transition is about to see a runtime that is READY, and has not attached it. -/
def meetsReady (shared : Shared) : AttachmentTransition.Phase → Bool
  | .checks _ | .settles => shared.current.any (·.2.state = .ready)
  | .acquires (.finds runtime) => shared.stateOf runtime = some .ready
  | _ => false

/-- `attach_resume` was called without reactivation. -/
def attachesPlainly (found : AttachmentTransition) : Bool :=
  match found.phase with
  | .acquires (.attaches _ false _) => true
  | _ => false

/-- A task does none of the four by its next step. -/
def sparing (world : World) : Task → Bool
  | .closes _ phase => !phase.commits world.shared || !pursued world
  | .releases (.closes _ phase) =>
    !phase.commits world.shared || world.shared.row.bindingIntent ≠ .active
  | .ensures true _ .joins =>
    !(world.pending.any fun found => attachesPlainly found.2) ||
      world.shared.row.bindingIntent = .active
  | _ => true

def Spares (world : World) : Label → Prop
  | .advances index _ => ∀ task ∈ world.tasks[index]?, sparing world task
  | .transits index => ∀ found ∈ world.transitions[index]?,
    found.reactivateRequested → meetsReady world.shared found.phase → Live world.shared.row
  | _ => True

instance (world : World) : (label : Label) → Decidable (Spares world label)
  | .advances index _ =>
    inferInstanceAs (Decidable (∀ task ∈ world.tasks[index]?, sparing world task = true))
  | .transits index => inferInstanceAs (Decidable (∀ found ∈ world.transitions[index]?,
    found.reactivateRequested = true → meetsReady world.shared found.phase = true →
      world.shared.row.bindingIntent = .active))
  | .ensures _ | .prepares | .releases | .closes _ | .fails _ | .transitFails _ | .writes _
  | .changes _ _ _ | .unregisters | .registers => isTrue trivial

/-! ## What the parts keep -/

/-- No deletion has begun. -/
def Plain (row : SessionBinding) : Prop := row.bindingIntent = .active ∨ row.bindingIntent = .closed

/-- Nothing is closed by going from one row to the other. -/
structure Keeps (row next : SessionBinding) : Prop where
  live : Live row → Live next
  plain : Plain row → Plain next

theorem keeps_refl (row : SessionBinding) : Keeps row row := ⟨id, id⟩

variable {row next : SessionBinding}

theorem keeps_of_same (same : next.bindingIntent = row.bindingIntent) :
    Keeps row next := by
  constructor
  · intro live
    exact same.trans live
  · intro plain
    unfold Plain at *
    rw [same]
    exact plain

theorem activate_active (done : row.activate = some next) :
    Live next := by
  unfold SessionBinding.activate at done
  split at done
  · cases done
    rfl
  · cases done

theorem apply_intent {rowStep : RowStep} (other : writesIntent rowStep = false)
    (done : row.apply rowStep = some next) :
    next.bindingIntent = row.bindingIntent := by
  cases rowStep with
  | beginClose | activate => cases other
  | beginAttachment state fence =>
    simp only [SessionBinding.apply, SessionBinding.beginAttachment] at done
    split at done
    · cases done
    · split at done
      · cases done
      · split at done <;> cases done
        rfl
  | beginReattach fence =>
    simp only [SessionBinding.apply, SessionBinding.beginReattach] at done
    split at done <;> cases done
    rfl
  | transition kind generation fence =>
    simp only [SessionBinding.apply, SessionBinding.transition] at done
    split at done <;> cases done
    rfl
  | setAttachmentReason reason version =>
    simp only [SessionBinding.apply, SessionBinding.setAttachmentReason] at done
    split at done
    · cases done
    · split at done <;> cases done
      rfl
  | touch =>
    cases done
    rfl
  | eagerBindings queued =>
    cases done
    simp only [SessionBinding.eagerBindings, SessionBinding.recoverTerminal]
    split <;> split <;> rfl
  | _ =>
    cases done
    simp only [SessionBinding.shutdown, SessionBinding.resume, SessionBinding.cancelCleanupFailed,
      SessionBinding.recoverTerminal, SessionBinding.ownerExpired, SessionBinding.serviceFailed,
      SessionBinding.restart, SessionBinding.abandon, SessionBinding.unknown,
      SessionBinding.touch]
    repeat' split
    all_goals rfl

/-! ### `attach_resume` -/

/-- The row that was read is of a session that is not being deleted. -/
def ReadPlain : Attach → Prop
  | .checks row => Plain row
  | _ => True

def AttachSound (reactivate : Bool) (row : SessionBinding) : Attach → Prop
  | .asks | .activates => reactivate = false → Live row
  | .checks read => (reactivate = true → Live read → Live row) ∧ (reactivate = false → Live row)
  | .guarded | .attaches => Live row

/-- The same of a part's progress. -/
def Comes {α β : Type} (Good : α → Prop) (Result : Prop) : Progress α β → Prop
  | .goes phase => Good phase
  | .done _ => Result
  | .raises _ => True

structure AttachEffect (reactivate : Bool) (row next : SessionBinding) (phase : Attach)
    (progress : Progress Attach Unit) : Prop where
  keeps : Keeps row next
  plain : Plain row → Comes ReadPlain True progress
  sound : ReadPlain phase → AttachSound reactivate row phase →
    Comes (AttachSound reactivate next) (Live next) progress

theorem setRuntime_row (shared : Shared) (runtime : Nat) (set : Runtime → Runtime) :
    (shared.setRuntime runtime set).row = shared.row := rfl

variable {runtime : Nat} {reactivate : Bool} {shared : Shared}

theorem attach_effect {next : Shared} {phase : Attach} {progress : Progress Attach Unit}
    (done : phase.step reactivate runtime shared = some (progress, next)) :
    AttachEffect reactivate shared.row next.row phase progress := by
  cases phase with
  | asks =>
    cases done
    exact ⟨keeps_refl _, id, fun _ sound => ⟨fun _ live => live, sound⟩⟩
  | checks read =>
    obtain ⟨progresses, rfl⟩ := Prod.mk.inj (Option.some.inj done)
    refine ⟨keeps_refl _, ?_, ?_⟩
    · intro _
      rw [← progresses]
      split
      · trivial
      · split
        · trivial
        · split <;> trivial
    · intro plain sound
      rw [← progresses]
      split
      next open_ =>
        have live : Live read := plain.resolve_right open_
        cases reactivate with
        | true => exact sound.1 rfl live
        | false => exact sound.2 rfl
      next =>
        split
        next reactivates => exact fun plainly => absurd (reactivates.symm.trans plainly) (by simp)
        next plainly =>
          split
          · exact sound.2 (by simpa using plainly)
          · trivial
  | activates =>
    simp only [Attach.step] at done
    split at done
    · cases done
      exact ⟨keeps_refl _, fun _ => trivial, fun _ _ => trivial⟩
    next row activated =>
      cases done
      have live := activate_active activated
      exact ⟨⟨fun _ => live, fun _ => .inl live⟩, fun _ => trivial, fun _ _ => live⟩
  | guarded =>
    simp only [Attach.step] at done
    split at done
    · cases done
    · split at done
      · cases done
      · split at done
        · cases done
          exact ⟨keeps_refl _, fun _ => trivial, fun _ _ => trivial⟩
        · cases done
          exact ⟨keeps_refl _, fun _ => trivial, fun _ sound => sound⟩
  | attaches =>
    cases done
    exact ⟨keeps_refl _, fun _ => trivial, fun _ sound => sound⟩

/-! ### How a task gets a runtime -/

def AcquirePlain : Acquire → Prop
  | .attaches _ _ phase => ReadPlain phase
  | _ => True

/-- Of a task that was asked to reactivate. -/
def AcquireSound (row : SessionBinding) : Acquire → Prop
  | .attaches _ reactivate phase => AttachSound reactivate row phase
  | _ => True

def AcquireAsked (requested : Bool) : Acquire → Prop
  | .attaches _ reactivate _ => reactivate = true → requested = true
  | _ => True

theorem replace_row {next : Shared} {phase : Replace} {progress : Progress Replace Nat}
    (done : phase.step shared = some (progress, next)) : next.row = shared.row := by
  cases phase <;> simp only [Replace.step] at done <;> split at done <;> cases done <;> rfl

structure AcquireEffect (requested : Bool) (shared next : Shared) (phase : Acquire)
    (progress : Progress Acquire Nat) : Prop where
  keeps : Keeps shared.row next.row
  plain : AcquirePlain phase → Plain shared.row → Comes AcquirePlain True progress
  asked : AcquireAsked requested phase → Comes (AcquireAsked requested) True progress
  sound : requested = true → AcquirePlain phase → AcquireSound shared.row phase →
    Comes (AcquireSound next.row) True progress
  /-- A runtime that is READY is attached, or was found so. -/
  result : requested = true → AcquirePlain phase → AcquireSound shared.row phase →
    ∀ runtime, progress = .done runtime →
      Live next.row ∨ (∃ found, phase = .finds found ∧ runtime = found ∧ next = shared)

variable {phase : Acquire} {progress : Progress Acquire Nat} {requested : Bool}

theorem acquire_effect {next : Shared}
    (done : phase.step requested shared = some (progress, next)) :
    AcquireEffect requested shared next phase progress := by
  cases phase with
  | replaces phase =>
    obtain ⟨⟨inner, after⟩, stepped, same⟩ := Option.map_eq_some_iff.mp done
    have row := replace_row stepped
    cases inner <;> cases same <;>
      exact ⟨keeps_of_same (by rw [row]), fun _ _ => trivial, fun _ => trivial,
        fun _ _ _ => trivial, by intro _ _ _ _ impossible; cases impossible⟩
  | finds runtime =>
    obtain ⟨progresses, rfl⟩ := Prod.mk.inj (Option.some.inj done)
    unfold Acquire.attach at progresses
    split at progresses <;> subst progresses
    · refine ⟨keeps_refl _, fun _ _ => trivial, ?_, ?_, by intro _ _ _ _ no; cases no⟩
      · exact fun _ => id
      · intro asked _ _ plainly
        rw [asked] at plainly
        cases plainly
    · refine ⟨keeps_refl _, fun _ _ => trivial, fun _ => trivial, fun _ _ _ => trivial, ?_⟩
      intro _ _ _ found same
      cases same
      exact .inr ⟨runtime, rfl, rfl, rfl⟩
  | attaches runtime reactivate phase =>
    obtain ⟨⟨inner, after⟩, stepped, same⟩ := Option.map_eq_some_iff.mp done
    have effect := attach_effect stepped
    cases inner <;> cases same
    · refine ⟨effect.keeps, fun _ => effect.plain, id, fun _ => effect.sound, ?_⟩
      intro _ _ _ _ no
      cases no
    · refine ⟨effect.keeps, fun _ _ => trivial, fun _ => trivial, fun _ _ _ => trivial, ?_⟩
      intro _ plain sound _ _
      exact .inl (effect.sound plain sound)
    · refine ⟨effect.keeps, fun _ _ => trivial, fun _ => trivial, fun _ _ _ => trivial, ?_⟩
      intro _ _ _ _ no
      cases no

/-! ### Transitions -/

structure TransitionSound (row : SessionBinding) (found : AttachmentTransition) : Prop where
  plain : ∀ phase, found.phase = .acquires phase → AcquirePlain phase
  asked : ∀ phase, found.phase = .acquires phase → AcquireAsked found.reactivateRequested phase
  sound : found.reactivateRequested = true → ∀ phase, found.phase = .acquires phase →
    AcquireSound row phase

variable {found : AttachmentTransition}

theorem transitionSound_of_phase (other : ∀ phase, found.phase ≠ .acquires phase) :
    TransitionSound row found :=
  ⟨fun phase same => absurd same (other phase), fun phase same => absurd same (other phase),
    fun _ phase same => absurd same (other phase)⟩

theorem verdict_cases (shared : Shared) (runtime : Nat) :
    (AttachmentTransition.verdict shared runtime = .returned ∧
        shared.stateOf runtime = some .ready) ∨
      AttachmentTransition.verdict shared runtime = .raised false := by
  unfold AttachmentTransition.verdict
  split
  next ready => exact .inl ⟨rfl, ready⟩
  next => exact .inr rfl

/-- A transition that was asked for sees a session that is active, or has not seen one yet. -/
structure TransitionEffect (found : AttachmentTransition) (shared next : Shared)
    (phase : AttachmentTransition.Phase) : Prop where
  keeps : Keeps shared.row next.row
  sound : Plain shared.row → TransitionSound shared.row found →
    TransitionSound next.row { found with phase }
  returned : found.reactivateRequested = true → TransitionSound shared.row found →
    (meetsReady shared found.phase → Live shared.row) → phase = .returned → Live next.row

theorem acquired_shared (progress : Progress Acquire Nat) (shared : Shared) :
    (AttachmentTransition.acquired (progress, shared)).2 = shared := by
  cases progress <;> rfl

theorem acquired_sound {next : Shared}
    (effect : AcquireEffect requested shared next phase progress) (plainRow : Plain shared.row)
    (plain : AcquirePlain phase) (asked : AcquireAsked requested phase)
    (sound : requested = true → AcquireSound shared.row phase) :
    TransitionSound next.row { reactivateRequested := requested
                               phase := (AttachmentTransition.acquired (progress, next)).1 } := by
  cases progress with
  | goes later =>
    refine ⟨?_, ?_, ?_⟩
    · intro _ same
      cases same
      exact effect.plain plain plainRow
    · intro _ same
      cases same
      exact effect.asked asked
    · intro asks _ same
      cases same
      exact effect.sound asks plain (sound asks)
  | done runtime =>
    refine transitionSound_of_phase ?_
    intro _ same
    rcases verdict_cases next runtime with ⟨returned, _⟩ | raised
    · rw [AttachmentTransition.acquired, returned] at same
      cases same
    · rw [AttachmentTransition.acquired, raised] at same
      cases same
  | raises required => exact transitionSound_of_phase (by intro _ no; cases no)

theorem acquired_returned {next : Shared}
    (effect : AcquireEffect requested shared next phase progress) (asks : requested = true)
    (plain : AcquirePlain phase) (sound : AcquireSound shared.row phase)
    (ready : ∀ runtime, phase = .finds runtime → shared.stateOf runtime = some .ready →
      Live shared.row) (returned : (AttachmentTransition.acquired (progress, next)).1 = .returned) :
    Live next.row := by
  cases progress with
  | goes | raises => cases returned
  | done runtime =>
    rcases effect.result asks plain sound runtime rfl with live | ⟨found, finds, rfl, rfl⟩
    · exact live
    · rcases verdict_cases next runtime with ⟨_, isReady⟩ | raised
      · exact ready runtime finds isReady
      · rw [AttachmentTransition.acquired, raised] at returned
        cases returned

theorem proceeds_effect (settled : Bool)
    (looks : meetsReady shared found.phase = shared.current.any (·.2.state = .ready)) :
    TransitionEffect found shared shared
      (AttachmentTransition.proceeds found.reactivateRequested settled shared) := by
  have replaces : TransitionSound shared.row
      { found with phase := .acquires (.replaces .locks) } := by
    refine ⟨?_, ?_, ?_⟩ <;> intros <;> rename_i same <;> cases same <;> trivial
  unfold AttachmentTransition.proceeds
  split
  · exact ⟨keeps_refl _, fun _ _ => replaces, by intro _ _ _ no; cases no⟩
  next runtime now current =>
    split
    · exact ⟨keeps_refl _, fun _ _ => transitionSound_of_phase (by intro _ no; cases no),
        by intro _ _ _ no; cases no⟩
    · split
      · exact ⟨keeps_refl _, fun _ _ => replaces, by intro _ _ _ no; cases no⟩
      · have effect : AcquireEffect found.reactivateRequested shared shared (.finds runtime)
            (Acquire.attach found.reactivateRequested shared runtime) := acquire_effect rfl
        refine ⟨keeps_refl _, ?_, ?_⟩
        · intro plain _
          exact acquired_sound effect plain trivial trivial fun _ => trivial
        · intro asks _ ready returned
          refine acquired_returned effect asks trivial trivial ?_ returned
          intro other same isReady
          cases same
          refine ready ?_
          have state : now.state = .ready := by
            obtain ⟨index, registered, there⟩ := Option.bind_eq_some_iff.mp current
            obtain ⟨_, at_, pair⟩ := Option.map_eq_some_iff.mp there
            cases pair
            unfold Shared.stateOf at isReady
            rw [at_] at isReady
            exact Option.some.inj isReady
          rw [looks, current]
          simp [state]

theorem transition_effect {next : Shared} {phase : AttachmentTransition.Phase}
    (done : found.phase.step found.reactivateRequested shared = some (phase, next)) :
    TransitionEffect found shared next phase := by
  obtain ⟨requested, now⟩ := found
  cases now with
  | admits | asks =>
    cases done
    exact ⟨keeps_refl _, fun _ _ => transitionSound_of_phase (by intro _ no; cases no),
      by intro _ _ _ no; cases no⟩
  | checks row =>
    obtain ⟨phases, rfl⟩ := Prod.mk.inj (Option.some.inj done)
    split at phases <;> subst phases
    · exact ⟨keeps_refl _, fun _ _ => transitionSound_of_phase (by intro _ no; cases no),
        by intro _ _ _ no; cases no⟩
    · exact (proceeds_effect false rfl : TransitionEffect ⟨requested, .checks row⟩ shared shared _)
  | settles =>
    cases done
    exact (proceeds_effect true rfl : TransitionEffect ⟨requested, .settles⟩ shared shared _)
  | acquires acquire =>
    obtain ⟨⟨progress, after⟩, stepped, same⟩ := Option.map_eq_some_iff.mp done
    have effect := acquire_effect stepped
    have ends : after = next := by
      rw [← acquired_shared progress after, same]
    subst ends
    have phases : phase = (AttachmentTransition.acquired (progress, after)).1 := by rw [same]
    subst phases
    refine ⟨effect.keeps, ?_, ?_⟩
    · intro plain sound
      exact acquired_sound effect plain (sound.plain acquire rfl) (sound.asked acquire rfl)
        fun asks => sound.sound asks acquire rfl
    · intro asks sound ready returned
      refine acquired_returned effect asks (sound.plain acquire rfl)
        (sound.sound asks acquire rfl) ?_ returned
      rintro runtime rfl isReady
      exact ready (by simp [meetsReady, isReady])
  | returned => cases done
  | raised => cases done

theorem TransitionSound.keep (sound : TransitionSound row found) (live : Live row → Live next) :
    TransitionSound next found := by
  refine ⟨sound.plain, sound.asked, ?_⟩
  intro asks phase same
  have before := sound.sound asks phase same
  cases phase with
  | attaches runtime reactivate phase =>
    cases phase with
    | asks | activates => exact fun plainly => live (before plainly)
    | checks read =>
      exact ⟨fun again seen => live (before.1 again seen), fun plainly => live (before.2 plainly)⟩
    | guarded | attaches => exact live before
  | _ => trivial

/-! ### `close` -/

theorem beginClose_intent {read : SessionBinding} (done : beginClose read row = some next) :
    next.bindingIntent = .closed := by
  unfold beginClose at done
  split at done
  · cases done
  · obtain ⟨fence, _, closed⟩ := Option.bind_eq_some_iff.mp done
    unfold SessionBinding.beginClose at closed
    split at closed <;> cases closed
    rfl

variable {succeeded : Bool}

theorem finishDisconnect_intent (done : finishDisconnect succeeded row = some next) :
    next.bindingIntent = row.bindingIntent := by
  obtain ⟨fence, _, finished⟩ := Option.bind_eq_some_iff.mp done
  unfold SessionBinding.transition at finished
  split at finished <;> cases finished
  rfl

theorem close_intent {next : Shared} {phase : Close} {progress : Progress Close Unit}
    (done : phase.step runtime succeeded shared = some (progress, next)) :
    next.row.bindingIntent =
      if phase.commits shared then .closed else shared.row.bindingIntent := by
  cases phase with
  | asks =>
    simp only [Close.step] at done
    split at done
    · cases done
    · split at done <;> cases done
      rfl
  | drains | begun =>
    cases done
    rfl
  | begins read =>
    simp only [Close.step] at done
    split at done
    next refused =>
      cases done
      simp [Close.commits, refused, Shared.release, setRuntime_row]
    next row closed =>
      cases done
      simp [Close.commits, closed, beginClose_intent closed]
  | disconnects =>
    simp only [Close.step] at done
    split at done
    · cases done
      rfl
    next row finished =>
      cases done
      exact finishDisconnect_intent finished

/-! ## The invariant -/

def TaskSound (row : SessionBinding) (transitions : List AttachmentTransition) : Task → Prop
  | .ensures true _ (.checks read) => Live read → Live row
  | .ensures true _ (.awaits index) => ∃ found, transitions[index]? = some found ∧
    found.reactivateRequested = true ∧ (found.phase = .returned → Live row)
  | _ => True

structure Inv (world : World) : Prop where
  plain : Plain world.shared.row
  tasks : ∀ task ∈ world.tasks, TaskSound world.shared.row world.transitions task
  transitions : ∀ found ∈ world.transitions, TransitionSound world.shared.row found
  wins : Wins world

/-- The transitions that were asked for stay so; one returns while the session is active. -/
def Follows (row : SessionBinding) (transitions later : List AttachmentTransition) : Prop :=
  ∀ (index : Nat) (found : AttachmentTransition), transitions[index]? = some found →
    found.reactivateRequested = true → ∃ now : AttachmentTransition, later[index]? = some now ∧
      now.reactivateRequested = true ∧ (now.phase = .returned → found.phase = .returned ∨ Live row)

theorem follows_refl (row : SessionBinding) (transitions : List AttachmentTransition) :
    Follows row transitions transitions :=
  fun _ found there asks => ⟨found, there, asks, .inl⟩

variable {task : Task}

theorem taskSound_keep {transitions later : List AttachmentTransition}
    (sound : TaskSound row transitions task) (live : Live row → Live next)
    (follows : Follows next transitions later) : TaskSound next later task := by
  unfold TaskSound at *
  split
  · exact fun read => live (sound read)
  · obtain ⟨found, there, asks, returned⟩ := sound
    obtain ⟨now, here, still, outcome⟩ := follows _ found there asks
    refine ⟨now, here, still, ?_⟩
    intro done
    rcases outcome done with before | active
    · exact live (returned before)
    · exact active
  · trivial

variable {world : World}

theorem Inv.withShared (inv : Inv world) (keeps : Keeps world.shared.row shared.row) :
    Inv (world.withShared shared) where
  plain := keeps.plain inv.plain
  tasks task member :=
    taskSound_keep (inv.tasks task member) keeps.live (follows_refl _ _)
  transitions found member := (inv.transitions found member).keep keeps.live
  wins := ⟨fun standing => keeps.live (inv.wins.active standing), inv.wins.kept⟩

/-- What a task's step leaves. -/
structure Sound (world : World) (outcome : Outcome) : Prop where
  inv : Inv outcome.2
  tasks : outcome.2.tasks = world.tasks
  task : ∀ task, outcome.1 = some task →
    TaskSound outcome.2.shared.row outcome.2.transitions task

variable {outcome : Outcome}

theorem Sound.put (sound : Sound world outcome) (index : Nat) : Inv (World.put index outcome) := by
  have inv := sound.inv
  unfold World.put
  split
  next task goes =>
    refine ⟨inv.plain, ?_, inv.transitions, inv.wins.active, inv.wins.kept⟩
    intro other member
    rcases List.mem_or_eq_of_mem_set member with old | rfl
    · exact inv.tasks other old
    · exact sound.task other goes
  next =>
    refine ⟨inv.plain, ?_, inv.transitions, inv.wins.active, inv.wins.kept⟩
    intro other member
    exact inv.tasks other (List.mem_of_mem_eraseIdx member)

theorem Inv.returns (inv : Inv world) (active : reactivate = true → Live world.shared.row) :
    Inv (world.returns reactivate) := by
  unfold World.returns
  split
  next resumes =>
    exact ⟨inv.plain, inv.tasks, inv.transitions, fun _ => active resumes, inv.wins.kept⟩
  next => exact inv

theorem returns_tasks (world : World) (reactivate : Bool) :
    (world.returns reactivate).tasks = world.tasks := by
  unfold World.returns
  split <;> rfl

variable {index : Nat}

theorem pending_some (pending : world.pending = some (index, found)) :
    world.transitions[index]? = some found ∧ found.phase.finished = false := by
  obtain ⟨held, going⟩ := Option.filter_eq_some_iff.mp pending
  obtain ⟨other, _, there⟩ := Option.bind_eq_some_iff.mp held
  obtain ⟨_, at_, pair⟩ := Option.map_eq_some_iff.mp there
  cases pair
  exact ⟨at_, by simpa using going⟩

theorem attachSound_of_live {phase : Attach} (live : Live row) :
    AttachSound false row phase := by
  cases phase with
  | asks | activates => exact fun _ => live
  | checks read => exact ⟨fun _ _ => live, fun _ => live⟩
  | guarded | attaches => exact live

theorem requested_sound (sound : TransitionSound row found)
    (spares : reactivate = true → attachesPlainly found = true → Live row) :
    TransitionSound row
      { found with reactivateRequested := found.reactivateRequested || reactivate } := by
  refine ⟨sound.plain, ?_, ?_⟩
  · intro phase same
    have asked := sound.asked phase same
    cases phase with
    | attaches runtime reactivated phase =>
      intro captured
      simp [asked captured]
    | _ => trivial
  · intro asks phase same
    by_cases before : found.reactivateRequested = true
    · exact sound.sound before phase same
    · have now : reactivate = true := by simpa [before] using asks
      cases phase with
      | attaches runtime reactivated phase =>
        cases reactivated with
        | true => exact absurd (sound.asked _ same rfl) before
        | false =>
          have plainly : attachesPlainly found = true := by
            rw [attachesPlainly, same]
          exact attachSound_of_live (spares now plainly)
      | _ => trivial

theorem join_sound (inv : Inv world)
    (spares : reactivate = true → world.pending.any (fun found => attachesPlainly found.2) = true →
      Live world.shared.row) :
    Inv (world.join reactivate).2 ∧ (world.join reactivate).2.tasks = world.tasks ∧
      ∃ found, (world.join reactivate).2.transitions[(world.join reactivate).1]? = some found ∧
        found.phase ≠ .returned ∧ (reactivate = true → found.reactivateRequested = true) := by
  unfold World.join
  split
  next index found pending =>
    obtain ⟨there, going⟩ := pending_some pending
    have bound : index < world.transitions.length := (List.getElem?_eq_some_iff.mp there).1
    refine ⟨⟨inv.plain, ?_, ?_, inv.wins.active, inv.wins.kept⟩, rfl,
      { found with reactivateRequested := found.reactivateRequested || reactivate }, ?_, ?_, ?_⟩
    · intro task member
      refine taskSound_keep (inv.tasks task member) id ?_
      intro other before held asks
      by_cases same : other = index
      · subst same
        rw [there] at held
        cases held
        exact ⟨_, List.getElem?_set_self bound, by simp [asks], .inl⟩
      · exact ⟨before, (List.getElem?_set_ne (Ne.symm same)).trans held, asks, .inl⟩
    · intro other member
      rcases List.mem_or_eq_of_mem_set member with old | rfl
      · exact inv.transitions other old
      · refine requested_sound (inv.transitions found (List.mem_of_getElem? there)) ?_
        intro asks plainly
        exact spares asks (by rw [pending]; exact plainly)
    · exact List.getElem?_set_self bound
    · intro returned
      change found.phase = .returned at returned
      rw [returned] at going
      cases going
    · intro asks
      simp [asks]
  next =>
    refine ⟨⟨inv.plain, ?_, ?_, inv.wins.active, inv.wins.kept⟩, rfl,
      { reactivateRequested := reactivate }, List.getElem?_concat_length, by simp, fun asks => asks⟩
    · intro task member
      refine taskSound_keep (inv.tasks task member) id ?_
      intro other before held asks
      have bound : other < world.transitions.length := (List.getElem?_eq_some_iff.mp held).1
      exact ⟨before, (List.getElem?_append_left bound).trans held, asks, .inl⟩
    · exact Pool.forall_push inv.transitions (transitionSound_of_phase (by intro _ no; cases no))

/-! ## Steps -/

theorem ensure_sound {retried : Bool} {phase : Ensure} (inv : Inv world)
    (sound : TaskSound world.shared.row world.transitions (.ensures reactivate retried phase))
    (spares : sparing world (.ensures reactivate retried phase) = true)
    (done : (Task.ensures reactivate retried phase).step succeeded world = some outcome) :
    Sound world outcome := by
  cases phase with
  | asks =>
    cases done
    refine ⟨inv, rfl, ?_⟩
    intro task same
    cases same
    cases reactivate with
    | true => exact id
    | false => trivial
  | checks row =>
    simp only [Task.step, Ensure.step] at done
    split at done
    · cases done
      exact ⟨inv, rfl, by intro _ no; cases no⟩
    · split at done
      next fast =>
        cases done
        refine ⟨inv.returns ?_, returns_tasks _ _, by intro _ no; cases no⟩
        rintro rfl
        exact sound fast.2
      next =>
        cases done
        refine ⟨inv, rfl, ?_⟩
        intro task same
        cases same
        cases reactivate <;> trivial
  | joins =>
    have allowed : reactivate = true →
        world.pending.any (fun found => attachesPlainly found.2) = true →
          Live world.shared.row := by
      rintro rfl plainly
      simpa [sparing, plainly] using spares
    obtain ⟨kept, tasks, found, there, going, asked⟩ := join_sound inv allowed
    cases done
    refine ⟨kept, tasks, ?_⟩
    intro task same
    cases same
    cases reactivate with
    | true => exact ⟨found, there, asked rfl, fun returned => absurd returned going⟩
    | false => trivial
  | awaits index =>
    obtain ⟨found, there, went⟩ := Option.bind_eq_some_iff.mp done
    split at went
    next returned =>
      cases went
      refine ⟨inv.returns ?_, returns_tasks _ _, by intro _ no; cases no⟩
      rintro rfl
      obtain ⟨other, held, _, live⟩ := sound
      rw [there] at held
      cases held
      exact live returned
    next =>
      split at went <;> cases went
      · refine ⟨inv, rfl, ?_⟩
        intro task same
        cases same
        cases reactivate <;> trivial
      · exact ⟨inv, rfl, by intro _ no; cases no⟩
    next => cases went
  | rereads =>
    cases done
    refine ⟨inv, rfl, ?_⟩
    intro task same
    cases same
    cases reactivate <;> trivial

theorem setAttachmentReason_intent {reason : Option AttachmentReason} {version : Nat}
    (done : row.setAttachmentReason reason version = some next) :
    next.bindingIntent = row.bindingIntent := by
  unfold SessionBinding.setAttachmentReason at done
  split at done
  · cases done
  · split at done <;> cases done
    rfl

theorem sound_withShared {next : Option Task} (inv : Inv world)
    (keeps : Keeps world.shared.row shared.row)
    (other : ∀ task, next = some task → reactivates task = false) :
    Sound world (next, world.withShared shared) := by
  refine ⟨inv.withShared keeps, rfl, ?_⟩
  intro task same
  have none_ := other task same
  unfold TaskSound
  split
  · cases none_
  · cases none_
  · trivial

theorem prepare_sound {phase : Prepare} (inv : Inv world) (done : phase.step world = some outcome) :
    Sound world outcome := by
  have still : ∀ phase, Sound world (some (.prepares phase), world) := fun phase =>
    sound_withShared inv (keeps_refl _) (by intro _ same; cases same; rfl)
  have ended : Sound world (none, world) :=
    sound_withShared inv (keeps_refl _) (by intro _ no; cases no)
  cases phase with
  | asks | marked =>
    cases done
    exact still _
  | checks row =>
    simp only [Prepare.step] at done
    split at done
    · cases done
      exact ended
    · split at done
      · split at done
        · cases done
          exact ended
        next marked =>
          cases done
          exact sound_withShared inv (keeps_of_same (setAttachmentReason_intent marked))
            (by intro _ same; cases same; rfl)
      · cases done
        exact still _
  | acquires acquire =>
    obtain ⟨⟨progress, shared⟩, stepped, same⟩ := Option.map_eq_some_iff.mp done
    have keeps := (acquire_effect stepped).keeps
    cases progress <;> cases same <;>
      exact sound_withShared inv keeps (by intro _ same; cases same; try rfl)
  | verifies =>
    cases done
    exact ended

variable {note : Note}

theorem commit_sound (inv : Inv world) (intent : shared.row.bindingIntent = .closed)
    (allowed : note = .closed ∧ pursued world = false ∨
      note = .released ∧ ¬ Live world.shared.row) :
    Inv ((world.note note).withShared shared) := by
  rcases allowed with ⟨rfl, alone⟩ | ⟨rfl, closed⟩
  · have both := Bool.or_eq_false_iff.mp alone
    have tasks := List.any_eq_false.mp both.1
    have transitions := List.any_eq_false.mp both.2
    refine ⟨.inr intent, ?_, ?_, ?_, inv.wins.kept⟩
    · intro task member
      have none_ := tasks task member
      unfold TaskSound
      split
      · exact absurd rfl none_
      · exact absurd rfl none_
      · trivial
    · intro found member
      have before := inv.transitions found member
      refine ⟨before.plain, before.asked, ?_⟩
      intro asks phase same
      have none_ := transitions found member
      simp [asks, same, AttachmentTransition.Phase.finished] at none_
    · intro standing
      cases standing
  · have never : Live world.shared.row → Live shared.row := fun live => absurd live closed
    have standing : Standing world.log = false := by
      by_contra stands
      exact closed (inv.wins.active (by simpa using stands))
    refine ⟨.inr intent, ?_, ?_, ?_, standing, inv.wins.kept⟩
    · intro task member
      exact taskSound_keep (inv.tasks task member) never (follows_refl _ _)
    · intro found member
      exact (inv.transitions found member).keep never
    · intro stands
      change Standing world.log = true at stands
      rw [standing] at stands
      cases stands

theorem closeStep_sound {phase : Close} {goes : Close → Task} {last : Option Task}
    (inv : Inv world) (goesOther : ∀ phase, reactivates (goes phase) = false)
    (lastOther : ∀ task, last = some task → reactivates task = false)
    (allowed : phase.commits world.shared = true → note = .closed ∧ pursued world = false ∨
      note = .released ∧ ¬ Live world.shared.row)
    (done : closeStep note runtime phase succeeded world goes last = some outcome) :
    Sound world outcome := by
  obtain ⟨⟨progress, shared⟩, stepped, same⟩ := Option.map_eq_some_iff.mp done
  have intent := close_intent stepped
  have kept : Inv ((if phase.commits world.shared then world.note note else world).withShared
      shared) := by
    by_cases commits : phase.commits world.shared = true
    · rw [if_pos commits] at intent ⊢
      exact commit_sound inv intent (allowed commits)
    · rw [if_neg commits] at intent ⊢
      exact inv.withShared (keeps_of_same intent)
  have tasks : ((if phase.commits world.shared then world.note note else world).withShared
      shared).tasks = world.tasks := by
    split <;> rfl
  have plain : ∀ (row : SessionBinding) (transitions : List AttachmentTransition) (task : Task),
      reactivates task = false → TaskSound row transitions task := by
    intro row transitions task none_
    unfold TaskSound
    split
    · cases none_
    · cases none_
    · trivial
  cases progress with
  | goes next =>
    cases same
    refine ⟨kept, tasks, ?_⟩
    intro task later
    cases later
    exact plain _ _ _ (goesOther next)
  | done =>
    cases same
    exact ⟨kept, tasks, fun task later => plain _ _ _ (lastOther task later)⟩
  | raises =>
    cases same
    exact ⟨kept, tasks, by intro _ no; cases no⟩

theorem release_sound {phase : Release} (inv : Inv world)
    (spares : sparing world (.releases phase) = true)
    (done : phase.step succeeded world = some outcome) : Sound world outcome := by
  have still : ∀ phase, Sound world (some (.releases phase), world) := fun phase =>
    sound_withShared inv (keeps_refl _) (by intro _ same; cases same; rfl)
  have ended : Sound world (none, world) :=
    sound_withShared inv (keeps_refl _) (by intro _ no; cases no)
  cases phase with
  | asks =>
    simp only [Release.step] at done
    split at done
    · cases done
      exact still _
    · split at done <;> cases done <;> exact still _
  | closes runtime close =>
    refine closeStep_sound inv (fun _ => rfl) (by intro _ same; cases same; rfl) ?_ done
    intro commits
    refine .inr ⟨rfl, ?_⟩
    simpa [sparing, commits] using spares
  | rereads =>
    cases done
    exact still _
  | clears row =>
    simp only [Release.step] at done
    split at done
    · cases done
      exact ended
    · cases done
      split
      · exact ended
      next cleared =>
        exact sound_withShared inv (keeps_of_same (setAttachmentReason_intent cleared))
          (by intro _ no; cases no)

theorem task_sound (inv : Inv world) (member : task ∈ world.tasks)
    (spares : sparing world task = true) (done : task.step succeeded world = some outcome) :
    Sound world outcome := by
  cases task with
  | ensures reactivate retried phase =>
    exact ensure_sound inv (inv.tasks _ member) spares done
  | prepares phase => exact prepare_sound inv done
  | releases phase => exact release_sound inv spares done
  | closes runtime phase =>
    refine closeStep_sound inv (fun _ => rfl) (by intro _ no; cases no) ?_ done
    intro commits
    refine .inl ⟨rfl, ?_⟩
    simpa [sparing, commits] using spares

theorem abort_row (task : Task) (shared : Shared) : (task.abort shared).row = shared.row := by
  have acquire : ∀ phase : Acquire, (phase.abort shared).row = shared.row := by
    intro phase
    cases phase with
    | replaces phase => cases phase <;> rfl
    | finds => rfl
    | attaches runtime reactivate phase => cases phase <;> rfl
  have close :
    ∀ (runtime : Nat) (phase : Close), (phase.abort runtime shared).row = shared.row := by
    intro runtime phase
    cases phase <;> rfl
  unfold Task.abort
  split
  · exact acquire _
  · exact close _ _
  · exact close _ _
  · rfl

theorem transition_abort_row (phase : AttachmentTransition.Phase) (shared : Shared) :
    (phase.abort shared).row = shared.row := by
  cases phase with
  | acquires acquire => exact abort_row (.prepares (.acquires acquire)) shared
  | _ => rfl

theorem Inv.transit {phase : AttachmentTransition.Phase} (inv : Inv world)
    (there : world.transitions[index]? = some found) (keeps : Keeps world.shared.row shared.row)
    (sound : TransitionSound shared.row { found with phase })
    (returned : found.reactivateRequested = true → phase = .returned → Live shared.row) :
    Inv { world with shared, transitions := world.transitions.set index { found with phase } } := by
  have bound : index < world.transitions.length := (List.getElem?_eq_some_iff.mp there).1
  refine ⟨keeps.plain inv.plain, ?_, ?_, fun stands => keeps.live (inv.wins.active stands),
    inv.wins.kept⟩
  · intro task member
    refine taskSound_keep (inv.tasks task member) keeps.live ?_
    intro other before held asks
    by_cases same : other = index
    · subst same
      rw [there] at held
      cases held
      exact ⟨_, List.getElem?_set_self bound, asks, fun done => .inr (returned asks done)⟩
    · exact ⟨before, (List.getElem?_set_ne (Ne.symm same)).trans held, asks, .inl⟩
  · intro other member
    rcases List.mem_or_eq_of_mem_set member with old | rfl
    · exact (inv.transitions other old).keep keeps.live
    · exact sound

theorem Inv.start (inv : Inv world) (sound : TaskSound world.shared.row world.transitions task) :
    Inv (world.start task) := by
  refine ⟨inv.plain, ?_, inv.transitions, inv.wins.active, inv.wins.kept⟩
  exact Pool.forall_push inv.tasks sound

theorem step_inv {next : World} {label : Label} (inv : Inv world) (spares : Spares world label)
    (taken : step world label = some next) : Inv next := by
  cases label with
  | ensures reactivate =>
    cases taken
    cases reactivate <;> exact inv.start trivial
  | prepares | releases | closes =>
    cases taken
    exact inv.start trivial
  | advances index succeeded =>
    obtain ⟨task, there, stepped⟩ := Option.bind_eq_some_iff.mp taken
    obtain ⟨outcome, done, rfl⟩ := Option.map_eq_some_iff.mp stepped
    exact (task_sound inv (List.mem_of_getElem? there) (spares task there) done).put index
  | fails index =>
    obtain ⟨task, there, rfl⟩ := Option.map_eq_some_iff.mp taken
    have sound : Sound world (none, world.withShared (task.abort world.shared)) :=
      sound_withShared inv (keeps_of_same (by rw [abort_row])) (by intro _ no; cases no)
    exact sound.put index
  | transits index =>
    obtain ⟨found, there, stepped⟩ := Option.bind_eq_some_iff.mp taken
    obtain ⟨⟨phase, shared⟩, done, rfl⟩ := Option.map_eq_some_iff.mp stepped
    have effect := transition_effect done
    have before := inv.transitions found (List.mem_of_getElem? there)
    refine inv.transit there effect.keeps (effect.sound inv.plain before) ?_
    intro asks returned
    exact effect.returned asks before (spares found there asks) returned
  | transitFails index =>
    obtain ⟨found, there, stepped⟩ := Option.bind_eq_some_iff.mp taken
    split at stepped
    · cases stepped
    · cases stepped
      refine inv.transit there (keeps_of_same (by rw [transition_abort_row]))
        (transitionSound_of_phase (by intro _ no; cases no)) ?_
      intro _ no
      cases no
  | writes rowStep =>
    simp only [step] at taken
    split at taken
    · cases taken
    next other =>
      obtain ⟨row, done, rfl⟩ := Option.map_eq_some_iff.mp taken
      exact inv.withShared (keeps_of_same (apply_intent (by simpa using other) done))
  | changes runtime state handleTerminal =>
    cases taken
    exact inv.withShared (keeps_refl _)
  | unregisters =>
    cases taken
    exact inv.withShared (keeps_refl _)
  | registers =>
    simp only [step] at taken
    split at taken <;> cases taken
    exact inv.withShared (keeps_refl _)

/-- A session that is not being deleted, before any of the calls. -/
structure Fresh (world : World) : Prop where
  plain : Plain world.shared.row
  transitions : world.transitions = []
  tasks : world.tasks = []
  log : world.log = []

/-- In every run whose steps spare the session, an explicit resume wins. -/
theorem resume_wins {start world : World} {labels : List Label} (fresh : Fresh start)
    (spared : Along step Spares start labels) (reached : run step start labels = some world) :
    Wins world := by
  have first : Inv start := by
    refine ⟨fresh.plain, ?_, ?_, ?_, ?_⟩
    · intro task member
      rw [fresh.tasks] at member
      cases member
    · intro found member
      rw [fresh.transitions] at member
      cases member
    · intro standing
      rw [fresh.log] at standing
      cases standing
    · rw [fresh.log]
      trivial
  have last : Inv world :=
    run_inv_along (fun _ _ _ (held : Inv _) spares taken => step_inv held spares taken)
      spared first reached
  exact last.wins

/-! ## A closed session that a schedule wakes -/

def closedSession : World := { shared := { row := { bindingIntent := .closed } } }

/-- The only task takes steps. -/
def goesOn (steps : Nat) : List Label := List.replicate steps (.advances 0 true)

/-- What `_attach` records of its attachment. -/
def recorded (generation : Nat) : List Label :=
  [.writes (.beginAttachment .resuming generation),
   .writes (.transition .markAttached generation generation)]

/-- The session is attached for a scheduled run. -/
def prepared : List Label := [.prepares] ++ goesOn 9 ++ recorded 1 ++ goesOn 2

/-- The run has ended, its session is closed, and the user resumes it. -/
def resumedAfterRelease : List Label :=
  prepared ++ [.releases] ++ goesOn 8 ++ [.ensures true] ++ goesOn 3 ++
    List.replicate 10 (.transits 0) ++ recorded 2 ++ [.transits 0] ++ goesOn 1

theorem resume_wins_after_release : ∃ world,
    run step closedSession resumedAfterRelease = some world ∧
      world.log = [.resumed, .released] ∧ Live world.shared.row ∧ Wins world := by
  obtain ⟨world, reached, log⟩ : ∃ world,
      run step closedSession resumedAfterRelease = some world ∧
        world.log = [.resumed, .released] := by
    refine ⟨_, rfl, ?_⟩
    decide +kernel
  have fresh : Fresh closedSession := ⟨.inr rfl, rfl, rfl, rfl⟩
  have wins := resume_wins fresh (by decide +kernel) reached
  exact ⟨world, reached, log, wins.active (by rw [log]; rfl), wins⟩

/-- The user resumes the session while it is attached for the run, which then ends. -/
def resumedDuringRun : List Label :=
  prepared ++ [.ensures true] ++ goesOn 3 ++ List.replicate 3 (.transits 0) ++ goesOn 1 ++
    [.releases] ++ goesOn 4

theorem resume_during_run_is_undone : ∃ world,
    Fresh closedSession ∧ run step closedSession resumedDuringRun = some world ∧
      world.log = [.released, .resumed] ∧ ¬ Live world.shared.row ∧ ¬ Wins world := by
  obtain ⟨world, reached, log, closed⟩ : ∃ world,
      run step closedSession resumedDuringRun = some world ∧
        world.log = [.released, .resumed] ∧ world.shared.row.bindingIntent = .closed := by
    refine ⟨_, rfl, ?_, ?_⟩ <;> decide +kernel
  have dead : ¬ Live world.shared.row := by
    intro live
    rw [Live, closed] at live
    cases live
  refine ⟨world, ⟨.inr rfl, rfl, rfl, rfl⟩, reached, log, dead, ?_⟩
  intro wins
  exact dead (wins.active (by rw [log]; rfl))

end Copilotd.Guarantees.ExplicitResume
