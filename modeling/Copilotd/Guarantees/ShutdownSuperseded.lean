import Copilotd.Base.Pool
import Copilotd.Source.Core.ShutdownSettlement

/-!
# A shutdown that is superseded by its resume

One field keeps the state to go back to, and each shutdown event overwrites it with
the state it finds.  A second shutdown event that arrives before the resume of the
first therefore saves TERMINAL.  As long as this does not happen, no task gives up on
a shutdown whose resume is still to come, and no task clears the slot under a newer
shutdown, the runtime is back in its first state as soon as the last resume is in.
-/
namespace Copilotd.Guarantees.ShutdownSuperseded

open Base Base.Run Source.Core.ShutdownSettlement

/-- The shutdown event in the slot, if any, has met its resume. -/
def Answered (s : Runtime) : Prop :=
  ∀ id, s.pendingShutdownEventId = some id → id ∈ s.supersededShutdownEventIds

instance (s : Runtime) : Decidable (Answered s) :=
  match held : s.pendingShutdownEventId with
  | none => isTrue (fun id same => by rw [held] at same; cases same)
  | some id =>
    if member : id ∈ s.supersededShutdownEventIds then
      isTrue (fun other same => by rw [held] at same; cases same; exact member)
    else isFalse (fun all => member (all id held))

/-- The states that a shutdown event leaves as they are. -/
def Steady (state : RuntimeState) : Prop := state = .closing ∨ state = .terminal

instance (state : RuntimeState) : Decidable (Steady state) :=
  inferInstanceAs (Decidable (_ ∨ _))

/-- A runtime that started in `first` takes the step without a second shutdown event on
top of an unanswered one, without a task that gives up on a shutdown, and without a task
that clears the slot of an unanswered one. -/
def Orderly (first : RuntimeState) (s : Runtime) : Label → Prop
  | .deliver (.shutdown id) =>
    id ∈ s.supersededShutdownEventIds ∨ Steady first ∨ Answered s
  | .finalizer index answer =>
    match s.finalizers[index]?, answer with
    | some (.running id .readingJournal), .returns => id ∈ s.supersededShutdownEventIds
    | some (.running _ .lockingAdmission), .returns => Steady first ∨ Answered s
    | _, _ => True
  | _ => True

instance (first : RuntimeState) (s : Runtime) (label : Label) :
    Decidable (Orderly first s label) := by
  unfold Orderly
  split
  · infer_instance
  · split <;> infer_instance
  · infer_instance

/-- A shutdown event that is delivered now has been superseded already. -/
def Ignored (s : Runtime) : Label → Prop
  | .deliver (.shutdown id) => id ∈ s.supersededShutdownEventIds
  | _ => True

/-- No shutdown event is pending, and no finalization task is left. -/
structure Idle (s : Runtime) : Prop where
  unpending : s.pendingShutdownEventId = none
  finished : ∀ task ∈ s.finalizers, task = .done
  running : s.componentsStopped = false

instance (s : Runtime) (label : Label) : Decidable (Ignored s label) := by
  unfold Ignored
  split <;> infer_instance

/-! ## The invariant -/

/-- The state while a shutdown event waits for its resume. -/
def downState (first : RuntimeState) : RuntimeState :=
  if first = .closing then .closing else .terminal

theorem downState_steady {first : RuntimeState} (steady : Steady first) :
    downState first = first := by
  rcases steady with rfl | rfl <;> rfl

/-- The runtime's own fields: down while a shutdown event is unanswered, otherwise back
in the first state; `taken` says that a shutdown event has been taken up. -/
inductive Held (first : RuntimeState) (taken : Prop) (s : Runtime) : Prop where
  | down (id : String) (pending : s.pendingShutdownEventId = some id)
      (unanswered : id ∉ s.supersededShutdownEventIds)
      (state : s.state = downState first) (saved : s.stateBeforeShutdown = some first)
      (closed : s.acceptingSends = false)
  | back (answered : Answered s) (state : s.state = first)
      (saved : s.pendingShutdownEventId ≠ none → s.stateBeforeShutdown = some first)
      (admits : taken → s.acceptingSends = decide (first = .ready))

/-- A task has not given up on its shutdown. -/
def Patient (s : Runtime) : Finalizer → Prop
  | .running id phase =>
    match phase with
    | .settling _ | .lockingLifecycle | .joiningInbox | .readingJournal => True
    | .readingSuperseded | .lockingAdmission => id ∈ s.supersededShutdownEventIds
    | _ => False
  | _ => True

structure Kept (first : RuntimeState) (taken : Prop) (s : Runtime) : Prop where
  held : Held first taken s
  patient : ∀ task ∈ s.finalizers, Patient s task
  running : s.componentsStopped = false

variable {index : Nat} {id : String}

section
variable {first : RuntimeState} {taken : Prop} {s t : Runtime}

theorem Held.frame (held : Held first taken s)
    (pending : t.pendingShutdownEventId = s.pendingShutdownEventId)
    (superseded : t.supersededShutdownEventIds = s.supersededShutdownEventIds)
    (state : t.state = s.state) (saved : t.stateBeforeShutdown = s.stateBeforeShutdown)
    (accepting : t.acceptingSends = s.acceptingSends) : Held first taken t := by
  rcases held with ⟨id, p, u, st, sv, c⟩ | ⟨a, st, sv, ad⟩
  · refine .down id (pending.trans p) ?_ (state.trans st) (saved.trans sv) (accepting.trans c)
    rw [superseded]
    exact u
  · refine .back ?_ (state.trans st) ?_ (fun here => accepting.trans (ad here))
    · intro id same
      rw [superseded]
      exact a id (pending ▸ same)
    · rw [pending, saved]
      exact sv

variable {task : Finalizer}

theorem Patient.mono (patient : Patient s task)
    (grows : s.supersededShutdownEventIds ⊆ t.supersededShutdownEventIds) : Patient t task := by
  cases task with
  | created => trivial
  | done => trivial
  | running id phase =>
    cases phase with
    | settling waiter => trivial
    | lockingLifecycle => trivial
    | joiningInbox => trivial
    | readingJournal => trivial
    | readingSuperseded | lockingAdmission => exact grows patient
    | _ => exact patient.elim

section

variable (kept : Kept first taken s)
include kept

theorem Kept.frame (pending : t.pendingShutdownEventId = s.pendingShutdownEventId)
    (superseded : t.supersededShutdownEventIds = s.supersededShutdownEventIds)
    (state : t.state = s.state) (saved : t.stateBeforeShutdown = s.stateBeforeShutdown)
    (accepting : t.acceptingSends = s.acceptingSends)
    (tasks : ∀ task ∈ t.finalizers, Patient s task)
    (stopped : t.componentsStopped = s.componentsStopped) : Kept first taken t := by
  refine ⟨kept.held.frame pending superseded state saved accepting, ?_, stopped.trans kept.running⟩
  intro task member
  refine (tasks task member).mono ?_
  rw [superseded]
  exact fun _ here => here

theorem schedule_kept :
    Kept first taken s.scheduleShutdownFinalization := by
  unfold Runtime.scheduleShutdownFinalization
  split
  · exact kept
  · exact kept.frame rfl rfl rfl rfl rfl (Pool.forall_push kept.patient trivial) rfl

theorem suspend_kept {phase : Phase} (found : s.finalizers[index]? = some task)
    (patient : Patient s (.running id phase)) : Kept first taken (s.suspend index id phase) :=
  kept.frame rfl rfl rfl rfl rfl (Pool.forall_set found kept.patient patient) rfl

theorem leave_kept
    (found : s.finalizers[index]? = some task) : Kept first taken (s.leave index id) := by
  have left : Kept first taken { s with
      shutdownSupersededWaiters :=
        s.shutdownSupersededWaiters.filter fun entry => entry.1 ≠ id
      finalizers := s.finalizers.set index .done } :=
    kept.frame rfl rfl rfl rfl rfl (Pool.forall_set found kept.patient trivial) rfl
  unfold Runtime.leave
  dsimp only
  split
  · exact schedule_kept left
  · exact left

theorem begin_kept
    (found : s.finalizers[index]? = some task) : Kept first taken (s.begin index) := by
  have suspended := fun id phase =>
    Pool.forall_set (y := Finalizer.running id phase) found kept.patient
  unfold Runtime.begin
  split
  · exact kept.frame rfl rfl rfl rfl rfl (Pool.forall_set found kept.patient trivial) rfl
  · split
    · exact suspend_kept kept found trivial
    · exact kept.frame rfl rfl rfl rfl rfl (suspended _ _ trivial) rfl

theorem askSuperseded_kept (found : s.finalizers[index]? = some task) :
    Kept first taken (s.askSuperseded index id) := by
  unfold Runtime.askSuperseded
  split
  next member => exact suspend_kept kept found member
  · exact suspend_kept kept found trivial

theorem restore_kept
    (found : s.finalizers[index]? = some task) (answered : id ∈ s.supersededShutdownEventIds) :
    Kept first taken (s.restore index id) := by
  unfold Runtime.restore
  split
  · exact leave_kept kept found
  next same =>
    have pending : s.pendingShutdownEventId = some id := not_not.mp same
    rcases kept.held with ⟨other, held, unanswered, _⟩ | ⟨all, state, saved, admits⟩
    · rw [pending] at held
      cases held
      exact absurd answered unanswered
    · have before := saved (by rw [pending]; exact Option.some_ne_none id)
      have restored : (if s.state = .terminal then s.restoredState else s.state) = s.state := by
        split
        · rw [Runtime.restoredState, before, state]
          rfl
        · rfl
      exact kept.frame rfl rfl restored rfl rfl
        (Pool.forall_set found kept.patient answered) rfl

theorem state_of_calm (calm : Steady first ∨ Answered s) :
    s.state = first := by
  rcases kept.held with ⟨other, pending, unanswered, state, _⟩ | ⟨_, state, _⟩
  · rcases calm with steady | answered
    · rw [state, downState_steady steady]
    · exact absurd (answered other pending) unanswered
  · exact state

theorem readmit_kept (found : s.finalizers[index]? = some task) (calm : Steady first ∨ Answered s) :
    Kept first taken (s.readmit index id) := by
  have state := state_of_calm kept calm
  have cleared : Kept first taken
      (Runtime.forgetShutdown { s with acceptingSends := s.state = .ready }) := by
    refine ⟨.back ?_ state ?_ ?_, ?_, kept.running⟩
    · intro id same
      cases same
    · intro some
      exact absurd rfl some
    · intro _
      rw [← state]
      rfl
    · exact fun task member => (kept.patient task member).mono fun _ here => here
  exact leave_kept cleared found

theorem callSoon_kept (callback : Callback) :
    Kept first taken (s.callSoonThreadsafe callback) :=
  kept.frame rfl rfl rfl rfl rfl kept.patient rfl

end

theorem comeBack_kept (patient : ∀ task ∈ s.finalizers, Patient s task)
    (running : s.componentsStopped = false) (answered : Answered s)
    (saved : s.stateBeforeShutdown = some first)
    (shape : s.state = downState first ∧ s.acceptingSends = false ∨
      s.state = first ∧ (taken → s.acceptingSends = decide (first = .ready))) :
    Kept first taken s.comeBack := by
  have restored : s.restoredState = first := by
    rw [Runtime.restoredState, saved]
    rfl
  unfold Runtime.comeBack
  split
  next down =>
    refine ⟨.back answered restored (fun _ => saved) (fun _ => ?_), ?_, running⟩
    · exact congrArg (fun state => decide (state = RuntimeState.ready)) restored
    · exact fun task member => (patient task member).mono fun _ here => here
  next up =>
    have kept : s.state = first ∧ (taken → s.acceptingSends = decide (first = .ready)) := by
      rcases shape with ⟨state, closed⟩ | same
      · -- Only CLOSING stays as it is when a shutdown event arrives.
        have closing : first = .closing := by
          unfold downState at state
          split at state
          · assumption
          · exact absurd state up
        refine ⟨?_, fun _ => ?_⟩
        · rw [state, closing]
          rfl
        · rw [closed, closing]
          rfl
      · exact same
    refine ⟨.back answered kept.1 (fun _ => saved) kept.2, ?_, running⟩
    exact fun task member => (patient task member).mono fun _ here => here

theorem onResume_kept (kept : Kept first taken s) (id : String) :
    Kept first taken (s.onResume id) := by
  have patient : ∀ task ∈ s.finalizers,
      Patient { s with supersededShutdownEventIds := id :: s.supersededShutdownEventIds } task :=
    fun task member => (kept.patient task member).mono (List.subset_cons_self ..)
  unfold Runtime.onResume
  dsimp only
  by_cases pending : s.pendingShutdownEventId = some id
  · rw [if_pos pending]
    have back : Kept first taken (Runtime.comeBack
        { s with supersededShutdownEventIds := id :: s.supersededShutdownEventIds }) := by
      refine comeBack_kept patient kept.running ?_ ?_ ?_
      · intro other same
        rw [pending] at same
        cases same
        exact List.mem_cons_self ..
      · rcases kept.held with ⟨_, _, _, _, saved, _⟩ | ⟨_, _, saved, _⟩
        · exact saved
        · exact saved (by rw [pending]; exact Option.some_ne_none id)
      · rcases kept.held with ⟨_, _, _, state, _, closed⟩ | ⟨_, state, _, admits⟩
        · exact .inl ⟨state, closed⟩
        · exact .inr ⟨state, admits⟩
    split
    · exact callSoon_kept back _
    · exact back
  · rw [if_neg pending]
    refine ⟨?_, patient, kept.running⟩
    rcases kept.held with ⟨other, held, unanswered, state, saved, closed⟩ |
      ⟨all, state, saved, admits⟩
    · refine .down other held ?_ state saved closed
      intro member
      rcases List.mem_cons.mp member with rfl | before
      · exact pending held
      · exact unanswered before
    · exact .back (fun other same => List.mem_cons_of_mem id (all other same)) state saved admits

theorem onShutdown_kept (kept : Kept first taken s)
    (fresh : id ∉ s.supersededShutdownEventIds) (calm : Steady first ∨ Answered s) :
    Kept first True (s.onShutdown id) := by
  have state := state_of_calm kept calm
  have down : Kept first True (s.goDown id) := by
    refine ⟨.down id rfl fresh ?_ (congrArg some state) rfl, ?_, kept.running⟩
    · exact congrArg downState state
    · exact fun task member => (kept.patient task member).mono fun _ here => here
  unfold Runtime.onShutdown
  rw [if_neg fresh]
  dsimp only
  split
  · exact callSoon_kept down _
  · exact down

theorem onShutdown_ignored (before : id ∈ s.supersededShutdownEventIds) :
    s.onShutdown id = s := if_pos before

theorem submitSdk_kept (kept : Kept first taken s) (event : SdkEvent) :
    Kept first taken (s.submitSdk event) := by
  unfold Runtime.submitSdk
  split
  · exact kept.frame rfl rfl rfl rfl rfl kept.patient rfl
  · exact kept

theorem submitSdk_slot (s : Runtime) (event : SdkEvent) :
    (s.submitSdk event).pendingShutdownEventId = s.pendingShutdownEventId ∧
      (s.submitSdk event).supersededShutdownEventIds = s.supersededShutdownEventIds := by
  unfold Runtime.submitSdk
  split
  · exact ⟨rfl, rfl⟩
  · exact ⟨rfl, rfl⟩

theorem Kept.weaken (kept : Kept first True s) : Kept first taken s := by
  refine ⟨?_, kept.patient, kept.running⟩
  rcases kept.held with ⟨id, pending, unanswered, state, saved, closed⟩ |
    ⟨answered, state, saved, admits⟩
  · exact .down id pending unanswered state saved closed
  · exact .back answered state saved fun _ => admits trivial

section

variable (kept : Kept first taken s)
include kept

theorem ingress_shutdown_kept (fresh : id ∉ s.supersededShutdownEventIds)
    (orderly : Orderly first s (.deliver (.shutdown id))) :
    Kept first True (s.ingress (.shutdown id)) := by
  have slot := submitSdk_slot s (.shutdown id)
  refine onShutdown_kept (submitSdk_kept kept _) (by rw [slot.2]; exact fresh) ?_
  unfold Answered
  rw [slot.1, slot.2]
  exact orderly.resolve_left fresh

theorem ingress_kept (event : SdkEvent)
    (orderly : Orderly first s (.deliver event)) : Kept first taken (s.ingress event) := by
  cases event with
  | resume eventId parentId =>
    cases parentId with
    | none => exact submitSdk_kept kept _
    | some parentId => exact onResume_kept (submitSdk_kept kept _) parentId
  | shutdown id =>
    by_cases before : id ∈ s.supersededShutdownEventIds
    · have same : s.ingress (.shutdown id) = s.submitSdk (.shutdown id) :=
        onShutdown_ignored (by rw [(submitSdk_slot s _).2]; exact before)
      rw [same]
      exact submitSdk_kept kept _
    · exact (ingress_shutdown_kept kept before orderly).weaken

theorem signal_kept (id : String) :
    Kept first taken (s.signalShutdownSuperseded id) := by
  unfold Runtime.signalShutdownSuperseded
  split
  · exact kept
  · split
    · exact kept
    · exact kept.frame rfl rfl rfl rfl rfl kept.patient rfl

theorem journal_kept (event : SdkEvent) :
    Kept first taken (s.journal event) := by
  unfold Runtime.journal
  split
  · exact kept.frame rfl rfl rfl rfl rfl kept.patient rfl
  · exact kept

theorem resumeFinalizer_kept {phase : Phase} {answer : Answer}
    (found : s.finalizers[index]? = some (.running id phase))
    (orderly : Orderly first s (.finalizer index answer))
    (resumed : s.resumeFinalizer index id phase answer = some t) : Kept first taken t := by
  have patient := kept.patient _ (Pool.mem_of_getElem? found)
  have suspended (phase : Phase) (still : Patient s (.running id phase)) :
      Kept first taken (s.suspend index id phase) := suspend_kept kept found still
  have left : Kept first taken (s.leave index id) := leave_kept kept found
  unfold Orderly at orderly
  simp only [found] at orderly
  unfold Runtime.resumeFinalizer at resumed
  split at resumed
  next waiter =>
    split at resumed
    · cases resumed
      exact suspended .lockingLifecycle trivial
    · cases resumed
  · cases resumed
    exact suspended .lockingLifecycle trivial
  · split at resumed
    · cases resumed
    · split at resumed
      · cases resumed
        exact suspended .joiningInbox trivial
      · cases resumed
        exact askSuperseded_kept kept found
  · split at resumed
    · cases resumed
      exact askSuperseded_kept kept found
    · cases resumed
  · -- The shutdown has met its resume by the time the journal answers.
    cases resumed
    have superseded : s.wasSuperseded id = true := by
      unfold Runtime.wasSuperseded
      rw [decide_eq_true orderly, Bool.or_true]
    rw [if_pos superseded]
    exact suspended .readingSuperseded orderly
  · cases resumed
    exact restore_kept kept found patient
  · cases resumed
    exact readmit_kept kept found orderly
  all_goals first
    | exact patient.elim
    | (cases resumed; exact left)
    | cases resumed

theorem step_kept {label : Label} (orderly : Orderly first s label)
    (stepped : step s label = some t) : Kept first taken t := by
  cases label with
  | deliver event =>
    cases stepped
    exact ingress_kept kept event orderly
  | callback =>
    unfold step at stepped
    dsimp only at stepped
    split at stepped
    · cases stepped
    next callback rest _ =>
      cases stepped
      have popped : Kept first taken { s with callbacks := rest } :=
        kept.frame rfl rfl rfl rfl rfl kept.patient rfl
      cases callback with
      | signalShutdownSuperseded id => exact signal_kept popped id
      | scheduleShutdownFinalization => exact schedule_kept popped
  | reduce =>
    unfold step at stepped
    dsimp only at stepped
    split at stepped
    · cases stepped
    next event rest _ =>
      cases stepped
      have taken : Kept first taken { s with inbox := rest } :=
        kept.frame rfl rfl rfl rfl rfl kept.patient rfl
      exact journal_kept taken event
  | finalizer index answer =>
    unfold step at stepped
    dsimp only at stepped
    split at stepped
    next found =>
      cases stepped
      exact begin_kept kept found
    next found =>
      cases stepped
      exact kept.frame rfl rfl rfl rfl rfl (Pool.forall_set found kept.patient trivial) rfl
    next id phase found => exact resumeFinalizer_kept kept found orderly stepped
    · cases stepped

end

/-! ## Runs -/

theorem idle_kept (idle : Idle s) (state : s.state = first) : Kept first False s := by
  refine ⟨.back ?_ state ?_ False.elim, ?_, idle.running⟩
  · intro id pending
    rw [idle.unpending] at pending
    cases pending
  · intro some
    exact absurd idle.unpending some
  · intro task member
    rw [idle.finished task member]
    trivial

end

/-! ## The slot -/

section
variable {s t : Runtime}

/-- Steps of the runtime's own tasks only ever clear the slot. -/
structure Clears (s t : Runtime) : Prop where
  superseded : t.supersededShutdownEventIds = s.supersededShutdownEventIds
  pending : t.pendingShutdownEventId = s.pendingShutdownEventId ∨ t.pendingShutdownEventId = none

theorem Clears.same (superseded : t.supersededShutdownEventIds = s.supersededShutdownEventIds)
    (pending : t.pendingShutdownEventId = s.pendingShutdownEventId) : Clears s t :=
  ⟨superseded, .inl pending⟩

theorem Clears.trans {u : Runtime} (first : Clears s t) (second : Clears t u) : Clears s u := by
  refine ⟨second.superseded.trans first.superseded, ?_⟩
  rcases second.pending with same | cleared
  · rw [same]
    exact first.pending
  · exact .inr cleared

theorem Clears.schedule (before : Clears s t) : Clears s t.scheduleShutdownFinalization := by
  refine before.trans ?_
  unfold Runtime.scheduleShutdownFinalization
  split
  · exact .same rfl rfl
  · exact .same rfl rfl

theorem Clears.leave (before : Clears s t) (index : Nat) (id : String) :
    Clears s (t.leave index id) := by
  refine before.trans ?_
  have done : Clears t { t with
      shutdownSupersededWaiters :=
        t.shutdownSupersededWaiters.filter fun entry => entry.1 ≠ id
      finalizers := t.finalizers.set index .done } := .same rfl rfl
  unfold Runtime.leave
  dsimp only
  split
  · exact done.schedule
  · exact done

theorem Clears.settleShutdown (before : Clears s t) (id : String) :
    Clears s (t.settleShutdown id) := by
  refine before.trans ?_
  unfold Runtime.settleShutdown
  dsimp only
  split
  · exact ⟨rfl, .inr rfl⟩
  · exact .same rfl rfl

theorem begin_clears (s : Runtime) (index : Nat) : Clears s (s.begin index) := by
  unfold Runtime.begin
  split
  · exact .same rfl rfl
  · split
    · exact .same rfl rfl
    · exact .same rfl rfl

theorem askSuperseded_clears (s : Runtime) (index : Nat) (id : String) :
    Clears s (s.askSuperseded index id) := by
  unfold Runtime.askSuperseded
  split
  · exact .same rfl rfl
  · exact .same rfl rfl

theorem restore_clears (s : Runtime) (index : Nat) (id : String) :
    Clears s (s.restore index id) := by
  unfold Runtime.restore
  split
  · exact Clears.leave (.same rfl rfl) index id
  · exact .same rfl rfl

theorem readmit_clears (s : Runtime) (index : Nat) (id : String) :
    Clears s (s.readmit index id) := by
  have cleared : Clears s
      (Runtime.forgetShutdown { s with acceptingSends := s.state = .ready }) := ⟨rfl, .inr rfl⟩
  exact cleared.leave index id

theorem resumeFinalizer_clears {phase : Phase} {answer : Answer}
    (resumed : s.resumeFinalizer index id phase answer = some t) : Clears s t := by
  unfold Runtime.resumeFinalizer at resumed
  split at resumed
  case h_3 =>
    split at resumed
    · cases resumed
    · split at resumed
      · cases resumed
        exact .same rfl rfl
      · cases resumed
        exact askSuperseded_clears s index id
  case h_4 =>
    split at resumed
    · cases resumed
      exact askSuperseded_clears s index id
    · cases resumed
  case h_6 =>
    cases resumed
    exact restore_clears s index id
  case h_7 =>
    cases resumed
    exact readmit_clears s index id
  case h_15 bound =>
    cases resumed
    have dropped : Clears s s.dropComponents := .same rfl rfl
    refine Clears.leave ?_ index id
    split
    · exact dropped.settleShutdown id
    · exact dropped
  case h_16 =>
    cases resumed
    have dropped : Clears s s.dropComponents := .same rfl rfl
    exact dropped.leave index id
  case h_1 =>
    split at resumed
    · cases resumed
      exact .same rfl rfl
    · cases resumed
  case h_11 =>
    split at resumed
    · cases resumed
      exact .same rfl rfl
    · cases resumed
  case h_19 => cases resumed
  all_goals cases resumed
  case h_17 => exact Clears.leave (.same rfl rfl) index id
  case h_18 => exact Clears.leave (.same rfl rfl) index id
  all_goals exact .same rfl rfl

theorem onResume_slot (s : Runtime) (id : String) :
    (s.onResume id).supersededShutdownEventIds = id :: s.supersededShutdownEventIds ∧
      (s.onResume id).pendingShutdownEventId = s.pendingShutdownEventId := by
  have back (r : Runtime) : r.comeBack.supersededShutdownEventIds = r.supersededShutdownEventIds ∧
      r.comeBack.pendingShutdownEventId = r.pendingShutdownEventId := by
    unfold Runtime.comeBack
    split
    · exact ⟨rfl, rfl⟩
    · exact ⟨rfl, rfl⟩
  unfold Runtime.onResume
  dsimp only
  split
  · split
    · exact back _
    · exact back _
  · exact ⟨rfl, rfl⟩

theorem step_slot {label : Label} (ignored : Ignored s label) (stepped : step s label = some t) :
    s.supersededShutdownEventIds ⊆ t.supersededShutdownEventIds ∧
      (t.pendingShutdownEventId = s.pendingShutdownEventId ∨ t.pendingShutdownEventId = none) := by
  have clears (cleared : Clears s t) : _ ∧ _ :=
    And.intro (fun _ here => cleared.superseded ▸ here :
      s.supersededShutdownEventIds ⊆ t.supersededShutdownEventIds) cleared.pending
  cases label with
  | deliver event =>
    cases stepped
    have slot := submitSdk_slot s event
    cases event with
    | resume eventId parentId =>
      cases parentId with
      | none => exact clears (.same slot.2 slot.1)
      | some parentId =>
        have after := onResume_slot (s.submitSdk (.resume eventId (some parentId))) parentId
        refine ⟨?_, .inl (after.2.trans slot.1)⟩
        intro id member
        refine after.1 ▸ List.mem_cons_of_mem parentId ?_
        rw [slot.2]
        exact member
    | shutdown id =>
      have same : s.ingress (.shutdown id) = s.submitSdk (.shutdown id) :=
        onShutdown_ignored (by rw [slot.2]; exact ignored)
      rw [same]
      rw [same] at clears
      exact clears (.same slot.2 slot.1)
  | callback =>
    unfold step at stepped
    dsimp only at stepped
    split at stepped
    · cases stepped
    next callback rest _ =>
      cases stepped
      refine clears ?_
      cases callback with
      | signalShutdownSuperseded id =>
        unfold Runtime.runCallback Runtime.signalShutdownSuperseded
        dsimp only
        split
        · exact .same rfl rfl
        · split
          · exact .same rfl rfl
          · exact .same rfl rfl
      | scheduleShutdownFinalization =>
        have popped : Clears s { s with callbacks := rest } := .same rfl rfl
        exact popped.schedule
  | reduce =>
    unfold step at stepped
    dsimp only at stepped
    split at stepped
    · cases stepped
    next event rest _ =>
      cases stepped
      refine clears ?_
      unfold Runtime.journal
      split
      · exact .same rfl rfl
      · exact .same rfl rfl
  | finalizer index answer =>
    unfold step at stepped
    dsimp only at stepped
    split at stepped
    · cases stepped
      exact clears (begin_clears s index)
    · cases stepped
      exact clears (.same rfl rfl)
    · exact clears (resumeFinalizer_clears stepped)
    · cases stepped

theorem resumed_superseded {labels : List Label} {eventId x : String}
    (ignored : Along step Ignored s labels) (reached : run step s labels = some t)
    (resumed : .deliver (.resume eventId (some x)) ∈ labels) :
    x ∈ t.supersededShutdownEventIds := by
  obtain ⟨front, back, rfl⟩ := List.append_of_mem resumed
  rw [run_append] at reached
  obtain ⟨u, first, second⟩ := Option.bind_eq_some_iff.mp reached
  have tail := (along_append first ignored).2
  obtain ⟨v, delivered, rest⟩ := run_cons_eq_some.mp second
  have keep : ∀ (r : Runtime) (label : Label) (r' : Runtime), x ∈ r.supersededShutdownEventIds →
      Ignored r label → step r label = some r' → x ∈ r'.supersededShutdownEventIds :=
    fun _ _ _ member ignored stepped => (step_slot ignored stepped).1 member
  refine run_inv_along keep (tail.2 v delivered) ?_ rest
  cases delivered
  have after := onResume_slot (u.submitSdk (.resume eventId (some x))) x
  exact after.1 ▸ List.mem_cons_self ..

theorem slot_keeps {labels : List Label} {x : String} (ignored : Along step Ignored s labels)
    (reached : run step s labels = some t) (held : ∀ id ∈ s.pendingShutdownEventId, id = x) :
    ∀ id ∈ t.pendingShutdownEventId, id = x := by
  have keep : ∀ (r : Runtime) (label : Label) (r' : Runtime),
      (∀ id ∈ r.pendingShutdownEventId, id = x) → Ignored r label → step r label = some r' →
      ∀ id ∈ r'.pendingShutdownEventId, id = x := by
    intro r label r' held ignored stepped id here
    rcases (step_slot ignored stepped).2 with same | cleared
    · exact held id (same ▸ here)
    · rw [cleared] at here
      cases here
  exact run_inv_along keep ignored held reached

theorem onShutdown_slot (fresh : id ∉ s.supersededShutdownEventIds) :
    (s.onShutdown id).pendingShutdownEventId = some id := by
  unfold Runtime.onShutdown
  rw [if_neg fresh]
  dsimp only
  split
  · rfl
  · rfl

end

/-- The last shutdown event `x` is taken up and a resume with that parent follows it.  In an
orderly run the runtime then is in the state it had before the first shutdown event, admits
sends exactly when that is READY, and runs its components. -/
theorem superseded_shutdown_restores {start reached final : Runtime} {earlier later : List Label}
    {x eventId : String} (idle : Idle start)
    (before : run step start earlier = some reached)
    (taken : x ∉ reached.supersededShutdownEventIds)
    (ends : run step reached (.deliver (.shutdown x) :: later) = some final)
    (last : Along step Ignored (reached.ingress (.shutdown x)) later)
    (resumed : .deliver (.resume eventId (some x)) ∈ later)
    (orderly :
      Along step (Orderly start.state) start (earlier ++ .deliver (.shutdown x) :: later)) :
    final.state = start.state ∧ (final.acceptingSends = true ↔ start.state = .ready) ∧
      final.componentsStopped = false := by
  obtain ⟨here, there⟩ := along_append before orderly
  have kept : Kept start.state False reached :=
    run_inv_along (fun _ _ _ kept orderly => step_kept kept orderly) here (idle_kept idle rfl)
      before
  obtain ⟨down, delivered, rest⟩ := run_cons_eq_some.mp ends
  cases delivered
  have keptDown := ingress_shutdown_kept kept taken there.1
  have keptFinal : Kept start.state True final :=
    run_inv_along (fun _ _ _ kept orderly => step_kept kept orderly) (there.2 _ rfl) keptDown rest
  have superseded := resumed_superseded last rest resumed
  have slot : ∀ id ∈ final.pendingShutdownEventId, id = x := by
    refine slot_keeps last rest ?_
    intro id here
    have fresh : x ∉ (reached.submitSdk (.shutdown x)).supersededShutdownEventIds := by
      rw [(submitSdk_slot reached _).2]
      exact taken
    exact Option.some.inj (here.symm.trans (onShutdown_slot fresh))
  rcases keptFinal.held with ⟨id, pending, unanswered, _⟩ | ⟨_, state, _, admits⟩
  · -- Only `x` could still be unanswered, and its resume is in.
    rw [slot id pending] at unanswered
    exact absurd superseded unanswered
  · refine ⟨state, ?_, keptFinal.running⟩
    rw [admits trivial]
    exact decide_eq_true_iff

/-- A READY runtime; `_accepting_sends` is set. -/
def readyRuntime : Runtime := { state := .ready, acceptingSends := true }

theorem readyRuntime_idle : Idle readyRuntime :=
  ⟨rfl, fun task member => by exact absurd member List.not_mem_nil, rfl⟩

/-- A shutdown event with its resume, while the task of that shutdown waits. -/
def firstSuperseded : List Label :=
  [.deliver (.shutdown "a"), .callback, .finalizer 0 .returns, .deliver (.resume "b" (some "a")),
    .callback, .reduce, .reduce]

/-- The resume of a second shutdown event; both tasks run to their end. -/
def secondSuperseded : List Label :=
  [.finalizer 0 .returns, .deliver (.resume "d" (some "c")), .callback, .reduce, .reduce,
    .finalizer 0 .returns, .finalizer 0 .returns, .finalizer 0 (.found true),
    .finalizer 1 .returns, .finalizer 1 .timedOut, .finalizer 1 .returns, .finalizer 1 .returns,
    .finalizer 1 (.found true), .finalizer 1 .returns]

theorem superseded_shutdown_restores_twice :
    ∃ reached final, run step readyRuntime firstSuperseded = some reached ∧
      run step reached (.deliver (.shutdown "c") :: secondSuperseded) = some final ∧
      final.finalizers = [.done, .done] ∧
      final.state = readyRuntime.state ∧
      (final.acceptingSends = true ↔ readyRuntime.state = .ready) ∧
      final.componentsStopped = false := by
  have first : (run step readyRuntime firstSuperseded).isSome := by decide
  obtain ⟨reached, before⟩ := Option.isSome_iff_exists.mp first
  have facts : ∀ r ∈ run step readyRuntime firstSuperseded,
      "c" ∉ r.supersededShutdownEventIds ∧
        Along step Ignored (r.ingress (.shutdown "c")) secondSuperseded ∧
        (run step r (.deliver (.shutdown "c") :: secondSuperseded)).map Runtime.finalizers =
          some [.done, .done] := by
    decide
  obtain ⟨taken, last, finishes⟩ := facts reached before
  obtain ⟨final, ends, finished⟩ := Option.map_eq_some_iff.mp finishes
  have resumed : .deliver (.resume "d" (some "c")) ∈ secondSuperseded := by decide
  exact ⟨reached, final, before, ends, finished,
    superseded_shutdown_restores readyRuntime_idle before taken ends last resumed (by decide)⟩

/-- Two shutdown events in a row and the resume of the second, before any task settles: the
saved state is TERMINAL, and the runtime stays there. -/
def resumedOnce : List Label :=
  [.deliver (.shutdown "a"), .deliver (.shutdown "c"), .callback, .callback,
    .finalizer 0 .returns, .finalizer 1 .returns, .deliver (.resume "d" (some "c")), .callback,
    .reduce, .reduce, .reduce,
    .finalizer 0 .returns, .finalizer 0 .returns, .finalizer 0 .returns,
    .finalizer 0 (.found true), .finalizer 0 .returns,
    .finalizer 1 .returns, .finalizer 1 .returns, .finalizer 1 .returns,
    .finalizer 1 (.found true)]

theorem second_shutdown_saves_terminal :
    (run step readyRuntime resumedOnce).map (fun final =>
        (final.finalizers, final.state, final.acceptingSends)) =
      some ([.done, .done], .terminal, false) := by
  decide

end Copilotd.Guarantees.ShutdownSuperseded
