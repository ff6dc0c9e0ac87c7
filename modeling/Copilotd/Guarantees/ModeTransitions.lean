import Mathlib.Data.List.Nodup
import Copilotd.Base.Pool
import Copilotd.Source.Core.ModeChanges

/-!
# The last confirmed mode change

`pending_mode` is one slot.  A call announces its mode there before its operation runs,
and the confirmation moves the announced mode into `desired_mode`.  Every call checks
that the slot is empty, but the check and the announcement are separate steps, and an
announcement that finds the slot taken is dropped.  As long as none is dropped the slot
is a lock that a call holds until its outcome is committed, and the mode that was
confirmed last is the desired and the runtime mode.
-/
namespace Copilotd.Guarantees.ModeTransitions

open Base Base.Run Source.Core.ModeChanges

/-- The call has committed `copilotd.mode.pending`. -/
def announced : Phase → Bool
  | .checking | .announcing | .refused => false
  | _ => true

/-- The call has returned or raised. -/
def ended : Phase → Bool
  | .refused | .conflicted | .finished _ => true
  | _ => false

/-- Some call has announced the mode under the key. -/
def Announced (calls : List Call) (key : String) (mode : Mode) : Prop :=
  ∃ call ∈ calls, announced call.phase = true ∧ call.idempotencyKey = key ∧ call.mode = mode

instance (calls : List Call) (key : String) (mode : Mode) :
    Decidable (Announced calls key mode) :=
  inferInstanceAs (Decidable (∃ call ∈ calls, _))

/-- An announcement is recorded: the slot is empty and the event is new, or the call repeats
one whose operation is in the mailbox or whose announcement was the same. -/
def Recorded (uuid5 : String → String) (w : World) : Label → Prop
  | .announce index =>
    ∀ call ∈ w.suspended? index .announcing,
      w.row.pendingMode = none ∧ (uuid5 call.idempotencyKey, .pending) ∉ w.journal ∨
        (w.operation? call.idempotencyKey).isSome = true ∨
          Announced w.calls call.idempotencyKey call.mode
  | _ => True

instance (uuid5 : String → String) (w : World) (label : Label) :
    Decidable (Recorded uuid5 w label) := by
  unfold Recorded
  split <;> infer_instance

def ranLast (operations : List Operation) : Option Operation :=
  (operations.filter fun operation => operation.outcome.isSome).getLast?

/-- No call, operation or mode event of the session yet. -/
structure Fresh (w : World) : Prop where
  calls : w.calls = []
  operations : w.operations = []
  journal : w.journal = []

/-- The columns after `mode` was confirmed. -/
structure Settled (row : ModeColumns) (mode : Mode) : Prop where
  desired : row.desiredMode = mode
  runtime : row.runtimeMode = some mode
  slot : row.pendingMode = none
  synced : row.modeReconciliationState = .synced

/-! ## The slot as a lock -/

variable {key : String} {outcome : Outcome} {after : List Operation} {operation : Operation}

section
variable {uuid5 : String → String} {A : String → Mode → Prop}
  {journal : List (String × EventKind)} {operations : List Operation} {row : ModeColumns}

/-- The key's operation has an outcome that emptied the slot. -/
def Closed (uuid5 : String → String) (journal : List (String × EventKind))
    (operations : List Operation) (key : String) : Prop :=
  ∃ operation ∈ operations, operation.idempotencyKey = key ∧
    ∃ outcome, operation.outcome = some outcome ∧ outcome ≠ .ambiguous ∧
      (uuid5 key, .outcome outcome) ∈ journal

/-- The slot is empty, or it belongs to the one key that is not closed. -/
inductive Slot (uuid5 : String → String) (A : String → Mode → Prop)
    (journal : List (String × EventKind)) (operations : List Operation) (row : ModeColumns) :
    Prop where
  | empty (none : row.pendingMode = none)
      (closed : ∀ key mode, A key mode → Closed uuid5 journal operations key)
      (settled : ∀ operation ∈ ranLast operations, operation.outcome = some .returns →
        Settled row operation.mode)
  | held (key : String) (mode : Mode) (pending : row.pendingMode = some mode)
      (transition : row.pendingModeTransitionId = some (uuid5 key))
      (holder : A key mode)
      (others : ∀ other mode, A other mode → other ≠ key → Closed uuid5 journal operations other)
      (last : ∀ operation ∈ operations, operation.idempotencyKey = key →
        operation.mode = mode ∧ ∃ front, operations = front ++ [operation])
      (unsettled : ∀ outcome, outcome ≠ .ambiguous → (uuid5 key, .outcome outcome) ∉ journal)
      (same : ∀ other, A key other → other = mode ∨
        ∃ operation ∈ operations, operation.idempotencyKey = key)

structure Sound (uuid5 : String → String) (A : String → Mode → Prop)
    (journal : List (String × EventKind)) (operations : List Operation) (row : ModeColumns) :
    Prop where
  journaled : ∀ key mode, A key mode → (uuid5 key, .pending) ∈ journal
  known : ∀ entry ∈ journal, ∃ key mode, A key mode ∧ uuid5 key = entry.1
  apart : ∀ key mode other mode', A key mode → A other mode' → uuid5 key = uuid5 other →
    key = other
  owned : ∀ operation ∈ operations, ∃ mode, A operation.idempotencyKey mode
  unique : (operations.map Operation.idempotencyKey).Nodup
  slot : Slot uuid5 A journal operations row

theorem Sound.same_key (sound : Sound uuid5 A journal operations row) {one other : Operation}
    (inside : one ∈ operations) (inside' : other ∈ operations)
    (same : one.idempotencyKey = other.idempotencyKey) : one = other :=
  List.inj_on_of_nodup_map sound.unique inside inside' same

theorem Closed.mono {journal' : List (String × EventKind)}
    (closed : Closed uuid5 journal operations key) (grows : journal ⊆ journal') :
    Closed uuid5 journal' operations key := by
  obtain ⟨operation, inside, same, outcome, settled, clear, recorded⟩ := closed
  exact ⟨operation, inside, same, outcome, settled, clear, grows recorded⟩

theorem Sound.announce (sound : Sound uuid5 A journal operations row) {mode : Mode}
    (empty : row.pendingMode = none) (new : (uuid5 key, .pending) ∉ journal) :
    Sound uuid5 (fun k m => A k m ∨ k = key ∧ m = mode) ((uuid5 key, .pending) :: journal)
      operations (row.apply (.pending mode (uuid5 key))) := by
  have fresh : ∀ other mode', A other mode' → uuid5 other ≠ uuid5 key := by
    intro other mode' before same
    exact new (same ▸ sound.journaled other mode' before)
  have unheld : ∀ operation ∈ operations, operation.idempotencyKey ≠ key := by
    intro operation inside same
    obtain ⟨mode', before⟩ := sound.owned operation inside
    exact fresh _ mode' before (congrArg uuid5 same)
  have closed : ∀ other mode', A other mode' → Closed uuid5 journal operations other := by
    rcases sound.slot with ⟨_, closed, _⟩ | ⟨held, mode', pending, _⟩
    · exact closed
    · rw [empty] at pending
      cases pending
  refine ⟨?_, ?_, ?_, ?_, sound.unique, ?_⟩
  · rintro other mode' (before | ⟨rfl, rfl⟩)
    · exact List.mem_cons_of_mem _ (sound.journaled other mode' before)
    · exact List.mem_cons_self ..
  · intro entry inside
    rcases List.mem_cons.mp inside with rfl | before
    · exact ⟨key, mode, .inr ⟨rfl, rfl⟩, rfl⟩
    · obtain ⟨other, mode', old, same⟩ := sound.known entry before
      exact ⟨other, mode', .inl old, same⟩
  · rintro one mode₁ other mode₂ (old | ⟨rfl, rfl⟩) (old' | ⟨rfl, rfl⟩) same
    · exact sound.apart one mode₁ other mode₂ old old' same
    · exact absurd same (fresh one mode₁ old)
    · exact absurd same.symm (fresh other mode₂ old')
    · rfl
  · intro operation inside
    obtain ⟨mode', old⟩ := sound.owned operation inside
    exact ⟨mode', .inl old⟩
  · have taken : row.apply (.pending mode (uuid5 key)) = { row with
        pendingMode := some mode
        pendingModeTransitionId := some (uuid5 key)
        modeReconciliationState := .pending
        modeDrift := false } := if_neg (not_not.mpr empty)
    rw [taken]
    refine .held key mode rfl rfl (.inr ⟨rfl, rfl⟩) ?_ ?_ ?_ ?_
    · rintro other mode' (old | ⟨rfl, _⟩) different
      · exact (closed other mode' old).mono (List.subset_cons_self ..)
      · exact absurd rfl different
    · intro operation inside same
      exact absurd same (unheld operation inside)
    · intro outcome _ recorded
      rcases List.mem_cons.mp recorded with clash | before
      · cases clash
      · obtain ⟨other, mode', old, same⟩ := sound.known _ before
        exact fresh other mode' old same
    · rintro other (old | ⟨_, rfl⟩)
      · exact absurd rfl (fresh key other old)
      · exact .inl rfl

theorem Sound.repeated (sound : Sound uuid5 A journal operations row)
    {mode first : Mode} (before : A key first)
    (repeats : A key mode ∨ ∃ operation ∈ operations, operation.idempotencyKey = key) :
    Sound uuid5 (fun k m => A k m ∨ k = key ∧ m = mode) journal operations row := by
  refine ⟨?_, ?_, ?_, ?_, sound.unique, ?_⟩
  · rintro other mode' (old | ⟨rfl, rfl⟩)
    · exact sound.journaled other mode' old
    · exact sound.journaled other first before
  · intro entry inside
    obtain ⟨other, mode', old, same⟩ := sound.known entry inside
    exact ⟨other, mode', .inl old, same⟩
  · rintro one mode₁ other mode₂ (old | ⟨rfl, rfl⟩) (old' | ⟨rfl, rfl⟩) same
    · exact sound.apart one mode₁ other mode₂ old old' same
    · exact sound.apart one mode₁ other first old before same
    · exact sound.apart one first other mode₂ before old' same
    · rfl
  · intro operation inside
    obtain ⟨mode', old⟩ := sound.owned operation inside
    exact ⟨mode', .inl old⟩
  · rcases sound.slot with ⟨none, closed, settled⟩ |
      ⟨held, heldMode, pending, transition, holder, others, last, unsettled, same⟩
    · refine .empty none ?_ settled
      rintro other mode' (old | ⟨rfl, _⟩)
      · exact closed other mode' old
      · exact closed other first before
    · refine .held held heldMode pending transition (.inl holder) ?_ last unsettled ?_
      · rintro other mode' (old | ⟨rfl, _⟩) different
        · exact others other mode' old different
        · exact others other first before different
      · rintro other (old | ⟨rfl, rfl⟩)
        · exact same other old
        · exact repeats.elim (same other) .inr

theorem Sound.enqueue (sound : Sound uuid5 A journal operations row) {mode : Mode}
    (before : A key mode) (new : ∀ operation ∈ operations, operation.idempotencyKey ≠ key) :
    Sound uuid5 A journal
      (operations ++ [{ idempotencyKey := key, mode := mode }]) row := by
  have unclosed : ¬ Closed uuid5 journal operations key := by
    rintro ⟨operation, inside, same, _⟩
    exact new operation inside same
  have wider (other : String) (closed : Closed uuid5 journal operations other) :
      Closed uuid5 journal (operations ++ [{ idempotencyKey := key, mode := mode }]) other := by
    obtain ⟨operation, inside, rest⟩ := closed
    exact ⟨operation, List.mem_append_left _ inside, rest⟩
  refine ⟨sound.journaled, sound.known, sound.apart, ?_, ?_, ?_⟩
  · exact Pool.forall_push sound.owned ⟨mode, before⟩
  · rw [List.map_append, List.map_singleton]
    refine List.nodup_append.mpr ⟨sound.unique, List.nodup_singleton _, ?_⟩
    intro other inside other' inside' same
    obtain ⟨operation, old, rfl⟩ := List.mem_map.mp inside
    exact new operation old (same.trans (List.mem_singleton.mp inside'))
  · rcases sound.slot with ⟨_, closed, _⟩ |
      ⟨held, heldMode, pending, transition, holder, others, last, unsettled, same⟩
    · exact absurd (closed key mode before) unclosed
    · have here : key = held := by
        by_contra different
        exact unclosed (others key mode before different)
      subst here
      refine .held key heldMode pending transition holder ?_ ?_ unsettled ?_
      · exact fun other mode' old different => wider other (others other mode' old different)
      · intro operation inside sameKey
        rcases List.mem_append.mp inside with old | added
        · exact absurd sameKey (new operation old)
        · cases List.mem_singleton.mp added
          refine ⟨?_, operations, rfl⟩
          rcases same mode before with modes | ⟨operation, old, clash⟩
          · exact modes
          · exact absurd clash (new operation old)
      · intro other old
        exact .inr ⟨_, List.mem_concat_self, rfl⟩

theorem settleFirst_split (settled : settleFirst outcome operations = some after) :
    ∃ front operation back, operations = front ++ operation :: back ∧ operation.outcome = none ∧
      after = front ++ { operation with outcome := some outcome } :: back := by
  induction operations generalizing after with
  | nil => cases settled
  | cons operation rest ih =>
    unfold settleFirst at settled
    split at settled
    next waiting =>
      cases settled
      exact ⟨[], operation, rest, rfl, waiting, rfl⟩
    next =>
      obtain ⟨tail, found, rfl⟩ := Option.map_eq_some_iff.mp settled
      obtain ⟨front, here, back, rfl, waiting, rfl⟩ := ih found
      exact ⟨operation :: front, here, back, rfl, waiting, rfl⟩

theorem Sound.waiting (sound : Sound uuid5 A journal operations row)
    (inside : operation ∈ operations) (waiting : operation.outcome = none) :
    ∃ front, operations = front ++ [operation] ∧
      row.pendingMode = some operation.mode ∧
      row.pendingModeTransitionId = some (uuid5 operation.idempotencyKey) := by
  have open_ : ¬ Closed uuid5 journal operations operation.idempotencyKey := by
    rintro ⟨other, inside', same, outcome, settled, _⟩
    rw [sound.same_key inside' inside same, waiting] at settled
    cases settled
  obtain ⟨mode, owner⟩ := sound.owned operation inside
  rcases sound.slot with ⟨_, closed, _⟩ |
    ⟨held, heldMode, pending, transition, _, others, last, _, _⟩
  · exact absurd (closed _ mode owner) open_
  · have here : operation.idempotencyKey = held := by
      by_contra different
      exact open_ (others _ mode owner different)
    obtain ⟨modes, front, shape⟩ := last operation inside here
    exact ⟨front, shape, modes ▸ pending, here ▸ transition⟩

theorem Sound.settle (sound : Sound uuid5 A journal operations row)
    (settled : settleFirst outcome operations = some after) :
    ∃ front operation, operations = front ++ [operation] ∧ operation.outcome = none ∧
      after = front ++ [{ operation with outcome := some outcome }] ∧
      Sound uuid5 A journal after row := by
  obtain ⟨front, operation, back, rfl, waiting, rfl⟩ := settleFirst_split settled
  have inside : operation ∈ front ++ operation :: back := List.mem_append_cons_self
  obtain ⟨front', shape, pending, transition⟩ := sound.waiting inside waiting
  -- The waiting operation is the last one.
  have alone : back = [] := by
    rcases List.eq_nil_or_concat back with rfl | ⟨init, last, rfl⟩
    · rfl
    · have same : last = operation := by
        have ends := congrArg List.getLast? shape
        rw [List.concat_eq_append, ← List.cons_append, ← List.append_assoc, List.getLast?_concat,
          List.getLast?_concat] at ends
        exact Option.some.inj ends
      have twice := sound.unique
      rw [same] at twice
      simp [List.nodup_append, List.nodup_cons] at twice
  subst alone
  refine
    ⟨front, operation, rfl, waiting, rfl, sound.journaled, sound.known, sound.apart, ?_, ?_, ?_⟩
  · intro other member
    rcases List.mem_append.mp member with old | here
    · exact sound.owned other (List.mem_append_left _ old)
    · cases List.mem_singleton.mp here
      exact sound.owned operation inside
  · have unique := sound.unique
    rw [List.map_append] at unique ⊢
    exact unique
  · have keeps (key : String) (closed : Closed uuid5 journal (front ++ [operation]) key) :
        Closed uuid5 journal (front ++ [{ operation with outcome := some outcome }]) key := by
      obtain ⟨other, member, same, o, ran, rest⟩ := closed
      rcases List.mem_append.mp member with old | here
      · exact ⟨other, List.mem_append_left _ old, same, o, ran, rest⟩
      · cases List.mem_singleton.mp here
        rw [waiting] at ran
        cases ran
    rcases sound.slot with ⟨empty, _, _⟩ |
      ⟨held, mode, pending', transition', holder, others, last, unsettled, same⟩
    · rw [pending] at empty
      cases empty
    · refine .held held mode pending' transition' holder ?_ ?_ unsettled ?_
      · exact fun other mode' old different => keeps other (others other mode' old different)
      · intro other member sameKey
        rcases List.mem_append.mp member with old | here
        · -- An operation with the key would be the last one.
          obtain ⟨_, front'', shape'⟩ := last other (List.mem_append_left _ old) sameKey
          have is : other = operation := by
            have ends := congrArg List.getLast? shape'
            simpa using ends.symm
          have twice := sound.unique
          rw [List.map_append, List.nodup_append] at twice
          exact absurd rfl (twice.2.2 _ (List.mem_map_of_mem old) _
            (by rw [is]; exact List.mem_singleton.mpr rfl))
        · cases List.mem_singleton.mp here
          exact ⟨(last operation inside sameKey).1, front, rfl⟩
      · intro other old
        refine (same other old).imp_right ?_
        rintro ⟨found, member, sameKey⟩
        rcases List.mem_append.mp member with old | here
        · exact ⟨found, List.mem_append_left _ old, sameKey⟩
        · cases List.mem_singleton.mp here
          exact ⟨_, List.mem_concat_self, sameKey⟩

theorem Sound.holds (sound : Sound uuid5 A journal operations row)
    (inside : operation ∈ operations) (ran : operation.outcome = some outcome)
    (new : (uuid5 operation.idempotencyKey, .outcome outcome) ∉ journal) :
    row.pendingMode = some operation.mode ∧
      row.pendingModeTransitionId = some (uuid5 operation.idempotencyKey) ∧
      (∃ front, operations = front ++ [operation]) ∧
      ∀ other mode, A other mode → other ≠ operation.idempotencyKey →
        Closed uuid5 journal operations other := by
  have unclosed : ¬ Closed uuid5 journal operations operation.idempotencyKey := by
    rintro ⟨other, inside', same, outcome', ran', _, recorded⟩
    cases sound.same_key inside' inside same
    cases ran.symm.trans ran'
    exact new recorded
  obtain ⟨mode, owner⟩ := sound.owned operation inside
  rcases sound.slot with ⟨_, closed, _⟩ |
    ⟨held, heldMode, pending, transition, _, others, last, _, _⟩
  · exact absurd (closed _ mode owner) unclosed
  · have here : operation.idempotencyKey = held := by
      by_contra different
      exact unclosed (others _ mode owner different)
    subst here
    obtain ⟨modes, shape⟩ := last operation inside rfl
    exact ⟨modes ▸ pending, transition, shape, others⟩

theorem ranLast_append {front : List Operation}
    (ran : operation.outcome.isSome = true) : ranLast (front ++ [operation]) = some operation := by
  unfold ranLast
  rw [List.filter_append, List.filter_singleton, ran, cond_true, List.getLast?_concat]

theorem Sound.conclude (sound : Sound uuid5 A journal operations row)
    (inside : operation ∈ operations) (ran : operation.outcome = some outcome)
    (new : (uuid5 operation.idempotencyKey, .outcome outcome) ∉ journal) :
    Sound uuid5 A ((uuid5 operation.idempotencyKey, .outcome outcome) :: journal) operations
      (row.apply (outcomeEvent operation.mode (uuid5 operation.idempotencyKey) outcome)) := by
  obtain ⟨pending, transition, ⟨front, shape⟩, others⟩ := sound.holds inside ran new
  obtain ⟨mode, owner⟩ := sound.owned operation inside
  have grows : journal ⊆ (uuid5 operation.idempotencyKey, .outcome outcome) :: journal :=
    List.subset_cons_self ..
  have closes (clear : outcome ≠ .ambiguous) : ∀ key mode, A key mode →
      Closed uuid5 ((uuid5 operation.idempotencyKey, .outcome outcome) :: journal) operations
        key := by
    intro key mode' old
    by_cases here : key = operation.idempotencyKey
    · subst here
      exact ⟨operation, inside, rfl, outcome, ran, clear, List.mem_cons_self ..⟩
    · exact (others key mode' old here).mono grows
  have last : ranLast operations = some operation := by
    rw [shape]
    exact ranLast_append (by rw [ran]; rfl)
  refine ⟨fun key mode' old => grows (sound.journaled key mode' old), ?_, sound.apart, sound.owned,
    sound.unique, ?_⟩
  · intro entry member
    rcases List.mem_cons.mp member with rfl | before
    · exact ⟨_, mode, owner, rfl⟩
    · exact sound.known entry before
  · cases outcome with
    | returns =>
      have settled : Settled (row.confirm operation.mode
          (some (uuid5 operation.idempotencyKey))) operation.mode := by
        constructor
        · simp [ModeColumns.confirm, pending, transition]
        · simp [ModeColumns.confirm]
        · simp [ModeColumns.confirm, pending, transition]
        · simp [ModeColumns.confirm, pending, transition]
      refine .empty settled.slot (closes (by decide)) ?_
      intro other here _
      rw [last] at here
      cases here
      exact settled
    | rejected =>
      have cleared : (row.reject (uuid5 operation.idempotencyKey)).pendingMode = none := by
        unfold ModeColumns.reject
        rw [if_neg (not_not.mpr transition)]
      refine .empty cleared (closes (by decide)) ?_
      intro other here returned
      rw [last] at here
      cases here
      rw [ran] at returned
      cases returned
    | ambiguous =>
      rcases sound.slot with ⟨empty, _, _⟩ |
        ⟨held, heldMode, pending', transition', holder, others', last', unsettled, same⟩
      · rw [pending] at empty
        cases empty
      · refine .held held heldMode pending' transition' holder ?_ last' ?_ same
        · exact fun other mode' old different => (others' other mode' old different).mono grows
        · intro outcome clear recorded
          rcases List.mem_cons.mp recorded with clash | before
          · exact clear (EventKind.outcome.inj (Prod.mk.inj clash).2)
          · exact unsettled outcome clear before

end

/-! ## Calls -/

section
variable {uuid5 : String → String}

def CallSound (uuid5 : String → String) (journal : List (String × EventKind))
    (operations : List Operation) (call : Call) : Prop :=
  match call.phase with
  | .waiting => ∃ operation ∈ operations, operation.idempotencyKey = call.idempotencyKey ∧
      operation.mode = call.mode
  | .conflicted => ∃ operation ∈ operations, operation.idempotencyKey = call.idempotencyKey ∧
      operation.mode ≠ call.mode
  | .finished outcome => (uuid5 call.idempotencyKey, .outcome outcome) ∈ journal ∧
      ∃ operation ∈ operations, operation.idempotencyKey = call.idempotencyKey ∧
        operation.mode = call.mode ∧ operation.outcome = some outcome
  | _ => True

structure Kept (uuid5 : String → String) (w : World) : Prop where
  sound : Sound uuid5 (Announced w.calls) w.journal w.operations w.row
  calls : ∀ call ∈ w.calls, CallSound uuid5 w.journal w.operations call

/-- `set_mode` refuses every call while the slot is taken from the start. -/
structure Shut (w : World) : Prop where
  taken : w.row.pendingMode ≠ none
  operations : w.operations = []
  calls : ∀ call ∈ w.calls, call.phase = .checking ∨ call.phase = .refused

variable {w : World} {index : Nat} {phase : Phase} {call : Call}

theorem suspended_some (found : w.suspended? index phase = some call) :
    w.calls[index]? = some call ∧ call.phase = phase := by
  unfold World.suspended? at found
  rw [Option.filter_eq_some_iff] at found
  exact ⟨found.1, of_decide_eq_true found.2⟩

theorem operation_some (found : w.operation? key = some operation) :
    operation ∈ w.operations ∧ operation.idempotencyKey = key :=
  ⟨List.mem_of_find?_eq_some found, of_decide_eq_true (List.find?_some found :)⟩

theorem operation_none (found : w.operation? key = none) :
    ∀ operation ∈ w.operations, operation.idempotencyKey ≠ key := by
  intro operation inside same
  have all := List.find?_eq_none.mp found operation inside
  exact all (decide_eq_true same)

variable {calls : List Call}

theorem announced_push (quiet : announced call.phase = false) :
    Announced (calls ++ [call]) = Announced calls := by
  funext key mode
  refine propext ⟨?_, ?_⟩
  · rintro ⟨other, inside, spoken, same⟩
    rcases List.mem_append.mp inside with old | here
    · exact ⟨other, old, spoken, same⟩
    · cases List.mem_singleton.mp here
      rw [quiet] at spoken
      cases spoken
  · rintro ⟨other, inside, rest⟩
    exact ⟨other, List.mem_append_left _ inside, rest⟩

theorem announced_set
    (found : calls[index]? = some call) (same : announced phase = announced call.phase) :
    Announced (calls.set index { call with phase }) = Announced calls := by
  funext key mode
  refine propext ⟨?_, ?_⟩
  · rintro ⟨other, inside, spoken, rest⟩
    rcases Pool.mem_set_cases found inside with rfl | elsewhere
    · exact ⟨call, Pool.mem_of_getElem? found, same ▸ spoken, rest⟩
    · exact ⟨other, Pool.mem_of_mem_eraseIdx elsewhere, spoken, rest⟩
  · rintro ⟨other, inside, spoken, rest⟩
    rcases Pool.mem_cases found inside with rfl | elsewhere
    · exact ⟨_, Pool.mem_set_self found _, same ▸ spoken, rest⟩
    · exact ⟨other, Pool.mem_set_other found _ elsewhere, spoken, rest⟩

theorem announced_first (found : calls[index]? = some call) (quiet : announced call.phase = false) :
    Announced (calls.set index { call with phase := .submitting }) =
      fun key mode => Announced calls key mode ∨ key = call.idempotencyKey ∧ mode = call.mode := by
  funext key mode
  refine propext ⟨?_, ?_⟩
  · rintro ⟨other, inside, spoken, rest⟩
    rcases Pool.mem_set_cases found inside with rfl | elsewhere
    · exact .inr ⟨rest.1.symm, rest.2.symm⟩
    · exact .inl ⟨other, Pool.mem_of_mem_eraseIdx elsewhere, spoken, rest⟩
  · rintro (⟨other, inside, spoken, rest⟩ | ⟨rfl, rfl⟩)
    · rcases Pool.mem_cases found inside with rfl | elsewhere
      · rw [quiet] at spoken
        cases spoken
      · exact ⟨other, Pool.mem_set_other found _ elsewhere, spoken, rest⟩
    · exact ⟨_, Pool.mem_set_self found _, rfl, rfl, rfl⟩

/-- Later operations: the old ones are there, with the outcomes they had. -/
def Extends (operations after : List Operation) : Prop :=
  ∀ operation ∈ operations, ∃ later ∈ after,
    later.idempotencyKey = operation.idempotencyKey ∧ later.mode = operation.mode ∧
      ∀ outcome, operation.outcome = some outcome → later.outcome = some outcome

theorem Extends.refl (operations : List Operation) : Extends operations operations :=
  fun operation inside => ⟨operation, inside, rfl, rfl, fun _ ran => ran⟩

theorem CallSound.mono {journal journal' : List (String × EventKind)} {operations : List Operation}
    (kept : CallSound uuid5 journal operations call) (grows : journal ⊆ journal')
    (extends_ : Extends operations after) : CallSound uuid5 journal' after call := by
  unfold CallSound at *
  split
  next is =>
    rw [is] at kept
    obtain ⟨operation, inside, key, mode⟩ := kept
    obtain ⟨later, inside', key', mode', _⟩ := extends_ operation inside
    exact ⟨later, inside', key'.trans key, mode'.trans mode⟩
  next is =>
    rw [is] at kept
    obtain ⟨operation, inside, key, mode⟩ := kept
    obtain ⟨later, inside', key', mode', _⟩ := extends_ operation inside
    exact ⟨later, inside', key'.trans key, mode' ▸ mode⟩
  next outcome is =>
    rw [is] at kept
    obtain ⟨recorded, operation, inside, key, mode, ran⟩ := kept
    obtain ⟨later, inside', key', mode', keeps⟩ := extends_ operation inside
    exact ⟨grows recorded, later, inside', key'.trans key, mode'.trans mode, keeps outcome ran⟩
  · trivial

theorem Kept.move (kept : Kept uuid5 w)
    (found : w.calls[index]? = some call) (same : announced phase = announced call.phase)
    (moved : CallSound uuid5 w.journal w.operations { call with phase }) :
    Kept uuid5 (w.suspend index call phase) := by
  refine ⟨?_, Pool.forall_set found kept.calls moved⟩
  change Sound uuid5 (Announced (w.calls.set index { call with phase })) _ _ _
  rw [announced_set found same]
  exact kept.sound

theorem announce_kept (kept : Kept uuid5 w)
    (found : w.calls[index]? = some call) (is : call.phase = .announcing)
    (recorded : w.row.pendingMode = none ∧ (uuid5 call.idempotencyKey, .pending) ∉ w.journal ∨
      (w.operation? call.idempotencyKey).isSome = true ∨
        Announced w.calls call.idempotencyKey call.mode) :
    Kept uuid5 (w.announce uuid5 index call) := by
  have quiet : announced call.phase = false := by rw [is]; rfl
  have first := announced_first found quiet
  unfold World.announce World.commit
  dsimp only
  split
  next before =>
    -- The event is in the journal, so some call announced the key before.
    refine ⟨?_, Pool.forall_set found kept.calls trivial⟩
    change Sound uuid5 (Announced (w.calls.set index { call with phase := .submitting })) _ _ _
    rw [first]
    rcases recorded with ⟨_, new⟩ | listed | repeated
    · exact absurd before new
    · obtain ⟨operation, there⟩ := Option.isSome_iff_exists.mp listed
      obtain ⟨inside, key⟩ := operation_some there
      obtain ⟨mode, owner⟩ := kept.sound.owned operation inside
      exact kept.sound.repeated (key ▸ owner) (.inr ⟨operation, inside, key⟩)
    · exact kept.sound.repeated repeated (.inl repeated)
  next new =>
    -- Otherwise no call has announced the key, and the slot is empty.
    have empty : w.row.pendingMode = none := by
      rcases recorded with ⟨empty, _⟩ | listed | repeated
      · exact empty
      · obtain ⟨operation, there⟩ := Option.isSome_iff_exists.mp listed
        obtain ⟨inside, key⟩ := operation_some there
        obtain ⟨mode, owner⟩ := kept.sound.owned operation inside
        exact absurd (key ▸ kept.sound.journaled _ mode owner) new
      · exact absurd (kept.sound.journaled _ _ repeated) new
    refine ⟨?_, Pool.forall_set found ?_ trivial⟩
    · change Sound uuid5 (Announced (w.calls.set index { call with phase := .submitting })) _ _ _
      rw [first]
      exact kept.sound.announce empty new
    · exact fun other inside =>
        (kept.calls other inside).mono (List.subset_cons_self ..) (.refl _)

theorem submit_kept (kept : Kept uuid5 w)
    (found : w.calls[index]? = some call) (is : call.phase = .submitting) :
    Kept uuid5 (w.submit index call) := by
  have spoken : announced call.phase = true := by rw [is]; rfl
  have owner : Announced w.calls call.idempotencyKey call.mode :=
    ⟨call, Pool.mem_of_getElem? found, spoken, rfl, rfl⟩
  unfold World.submit
  split
  next absent =>
    let operation : Operation := { idempotencyKey := call.idempotencyKey, mode := call.mode }
    have longer : Extends w.operations (w.operations ++ [operation]) :=
      fun old inside => ⟨old, List.mem_append_left _ inside, rfl, rfl, fun _ ran => ran⟩
    have queued : Kept uuid5 { w with operations := w.operations ++ [operation] } :=
      ⟨kept.sound.enqueue owner (operation_none absent),
        fun other inside => (kept.calls other inside).mono (fun _ here => here) longer⟩
    refine queued.move found (by rw [is]; rfl) ?_
    exact ⟨operation, List.mem_concat_self, rfl, rfl⟩
  next operation there =>
    obtain ⟨inside, key⟩ := operation_some there
    split
    next mode => exact kept.move found (by rw [is]; rfl) ⟨operation, inside, key, mode⟩
    next mode => exact kept.move found (by rw [is]; rfl) ⟨operation, inside, key, mode⟩

theorem run_kept (kept : Kept uuid5 w) (settled : settleFirst outcome w.operations = some after) :
    Kept uuid5 { w with operations := after } := by
  obtain ⟨front, operation, shape, waiting, rfl, sound⟩ := kept.sound.settle settled
  have longer : Extends w.operations
      (front ++ [{ operation with outcome := some outcome }]) := by
    rw [shape]
    intro other inside
    rcases List.mem_append.mp inside with old | here
    · exact ⟨other, List.mem_append_left _ old, rfl, rfl, fun _ ran => ran⟩
    · cases List.mem_singleton.mp here
      refine ⟨_, List.mem_concat_self, rfl, rfl, ?_⟩
      intro o ran
      rw [waiting] at ran
      cases ran
  exact ⟨sound, fun call inside => (kept.calls call inside).mono (fun _ here => here) longer⟩

theorem conclude_kept (kept : Kept uuid5 w) (found : w.calls[index]? = some call)
    (is : call.phase = .waiting) (here : w.operation? call.idempotencyKey = some operation)
    (ran : operation.outcome = some outcome) :
    Kept uuid5 (w.conclude uuid5 index call outcome) := by
  obtain ⟨inside, key⟩ := operation_some here
  have mode : operation.mode = call.mode := by
    have waits := kept.calls call (Pool.mem_of_getElem? found)
    unfold CallSound at waits
    rw [is] at waits
    obtain ⟨other, inside', key', mode'⟩ := waits
    rw [kept.sound.same_key inside inside' (key.trans key'.symm)]
    exact mode'
  have committed : Kept uuid5 (w.commit (uuid5 call.idempotencyKey, .outcome outcome)
      (outcomeEvent call.mode (uuid5 call.idempotencyKey) outcome)) ∧
      (uuid5 call.idempotencyKey, .outcome outcome) ∈
        (w.commit (uuid5 call.idempotencyKey, .outcome outcome)
          (outcomeEvent call.mode (uuid5 call.idempotencyKey) outcome)).journal := by
    unfold World.commit
    split
    next before => exact ⟨kept, before⟩
    next new =>
      refine ⟨⟨?_, ?_⟩, List.mem_cons_self ..⟩
      · rw [← key, ← mode]
        rw [← key] at new
        exact kept.sound.conclude inside ran new
      · exact fun other member =>
          (kept.calls other member).mono (List.subset_cons_self ..) (.refl _)
  have same : (w.commit (uuid5 call.idempotencyKey, .outcome outcome)
      (outcomeEvent call.mode (uuid5 call.idempotencyKey) outcome)).calls = w.calls ∧
      (w.commit (uuid5 call.idempotencyKey, .outcome outcome)
        (outcomeEvent call.mode (uuid5 call.idempotencyKey) outcome)).operations =
          w.operations := by
    unfold World.commit
    split
    · exact ⟨rfl, rfl⟩
    · exact ⟨rfl, rfl⟩
  refine committed.1.move (by rw [same.1]; exact found) (by rw [is]; rfl) ?_
  refine ⟨committed.2, operation, ?_, key, mode, ran⟩
  rw [same.2]
  exact inside

theorem step_kept {t : World} {label : Label} (kept : Kept uuid5 w)
    (recorded : Recorded uuid5 w label) (stepped : step uuid5 w label = some t) :
    Kept uuid5 t := by
  cases label with
  | call mode key =>
    cases stepped
    refine ⟨?_, Pool.forall_push kept.calls trivial⟩
    have same : Announced (w.calls ++ [{ mode, idempotencyKey := key }]) = Announced w.calls :=
      announced_push rfl
    rw [same]
    exact kept.sound
  | check index passes =>
    obtain ⟨call, here, rfl⟩ := Option.map_eq_some_iff.mp stepped
    obtain ⟨found, is⟩ := suspended_some here
    split
    · exact kept.move found (by rw [is]; rfl) trivial
    · exact kept.move found (by rw [is]; rfl) trivial
  | announce index =>
    obtain ⟨call, here, rfl⟩ := Option.map_eq_some_iff.mp stepped
    obtain ⟨found, is⟩ := suspended_some here
    exact announce_kept kept found is (recorded call here)
  | submit index =>
    obtain ⟨call, here, rfl⟩ := Option.map_eq_some_iff.mp stepped
    obtain ⟨found, is⟩ := suspended_some here
    exact submit_kept kept found is
  | runOperation outcome =>
    obtain ⟨after, settled, rfl⟩ := Option.map_eq_some_iff.mp stepped
    exact run_kept kept settled
  | conclude index =>
    obtain ⟨call, here, rest⟩ := Option.bind_eq_some_iff.mp stepped
    obtain ⟨operation, listed, rest⟩ := Option.bind_eq_some_iff.mp rest
    obtain ⟨outcome, ran, done⟩ := Option.bind_eq_some_iff.mp rest
    cases done
    obtain ⟨found, is⟩ := suspended_some here
    exact conclude_kept kept found is listed ran

theorem Shut.unsuspended (shut : Shut w)
    (here : w.suspended? index phase = some call) : phase = .checking ∨ phase = .refused := by
  obtain ⟨found, rfl⟩ := suspended_some here
  exact shut.calls call (Pool.mem_of_getElem? found)

theorem step_shut {t : World} {label : Label} (shut : Shut w)
    (stepped : step uuid5 w label = some t) : Shut t := by
  cases label with
  | call mode key =>
    cases stepped
    exact ⟨shut.taken, shut.operations, Pool.forall_push shut.calls (.inl rfl)⟩
  | check index passes =>
    obtain ⟨call, here, rfl⟩ := Option.map_eq_some_iff.mp stepped
    obtain ⟨found, _⟩ := suspended_some here
    have refuses : w.row.dispatchable = false := by
      exact decide_eq_false fun both => shut.taken both.1
    rw [refuses]
    exact ⟨shut.taken, shut.operations, Pool.forall_set found shut.calls (.inr rfl)⟩
  | announce index | submit index =>
    obtain ⟨call, here, _⟩ := Option.map_eq_some_iff.mp stepped
    rcases shut.unsuspended here with clash | clash <;> cases clash
  | runOperation outcome =>
    obtain ⟨after, settled, _⟩ := Option.map_eq_some_iff.mp stepped
    rw [shut.operations] at settled
    cases settled
  | conclude index =>
    obtain ⟨call, here, _⟩ := Option.bind_eq_some_iff.mp stepped
    rcases shut.unsuspended here with clash | clash <;> cases clash

theorem fresh_kept (fresh : Fresh w) (empty : w.row.pendingMode = none) :
    Kept uuid5 w := by
  have nobody (key : String) (mode : Mode) : ¬ Announced w.calls key mode := by
    rintro ⟨call, inside, _⟩
    rw [fresh.calls] at inside
    cases inside
  have nothing (operation : Operation) : operation ∉ w.operations := by
    rw [fresh.operations]
    exact List.not_mem_nil
  refine ⟨⟨?_, ?_, ?_, ?_, ?_, ?_⟩, ?_⟩
  · exact fun key mode spoken => absurd spoken (nobody key mode)
  · intro entry inside
    rw [fresh.journal] at inside
    cases inside
  · exact fun key mode _ _ spoken => absurd spoken (nobody key mode)
  · exact fun operation inside => absurd inside (nothing operation)
  · rw [fresh.operations]
    exact List.nodup_nil
  · refine .empty empty (fun key mode spoken => absurd spoken (nobody key mode)) ?_
    intro operation last
    rw [fresh.operations] at last
    cases last
  · intro call inside
    rw [fresh.calls] at inside
    cases inside

theorem Kept.settled (kept : Kept uuid5 w)
    (ends : ∀ call ∈ w.calls, ended call.phase = true)
      (last : ranLast w.operations = some operation)
    (confirmed : operation.outcome = some .returns) : Settled w.row operation.mode := by
  rcases kept.sound.slot with ⟨_, _, settled⟩ |
    ⟨key, mode, pending, _, ⟨call, inside, spoken, key', mode'⟩, _, only, unsettled, _⟩
  · exact settled operation last confirmed
  · -- The call that holds the slot has ended, so its outcome is committed.
    have sound := kept.calls call inside
    have done := ends call inside
    unfold CallSound at sound
    cases phase : call.phase with
    | conflicted =>
      rw [phase] at sound
      obtain ⟨other, member, same, different⟩ := sound
      exact absurd ((only other member (same.trans key')).1.trans mode'.symm) different
    | finished outcome =>
      rw [phase] at sound
      obtain ⟨recorded, other, member, same, _, ran⟩ := sound
      obtain ⟨_, front, shape⟩ := only other member (same.trans key')
      have ambiguous : outcome = .ambiguous := by
        by_contra clear
        exact unsettled outcome clear (key' ▸ recorded)
      have other_last : ranLast w.operations = some other := by
        rw [shape]
        exact ranLast_append (by rw [ran]; rfl)
      rw [last] at other_last
      cases other_last
      rw [confirmed, ambiguous] at ran
      cases ran
    | checking | announcing | refused =>
      rw [phase] at spoken
      cases spoken
    | submitting | waiting =>
      rw [phase] at done
      cases done

end

/-- Every announcement is recorded.  Once all calls have ended and the operation that ran last
was confirmed, its mode is the desired and the runtime mode and no transition is pending. -/
theorem last_confirmed_mode_wins (uuid5 : String → String) {start final : World}
    {labels : List Label} {operation : Operation} (fresh : Fresh start)
    (reached : run (step uuid5) start labels = some final)
    (recorded : Along (step uuid5) (Recorded uuid5) start labels)
    (finished : ∀ call ∈ final.calls, ended call.phase = true)
    (last : ranLast final.operations = some operation)
    (confirmed : operation.outcome = some .returns) : Settled final.row operation.mode := by
  by_cases empty : start.row.pendingMode = none
  · have kept : Kept uuid5 final :=
      run_inv_along (fun _ _ _ kept recorded => step_kept kept recorded) recorded
        (fresh_kept fresh empty) reached
    exact kept.settled finished last confirmed
  · have shut : Shut final := by
      refine run_inv (fun _ _ _ => step_shut) ⟨empty, fresh.operations, ?_⟩ reached
      intro call inside
      rw [fresh.calls] at inside
      cases inside
    unfold ranLast at last
    rw [shut.operations] at last
    cases last

def interactiveWorld : World :=
  { row := { desiredMode := .interactive, runtimeMode := some .interactive,
             modeReconciliationState := .synced } }

/-- Two calls, one after the other. -/
def twoInTurn : List Label :=
  [.call .plan "a", .check 0 true, .announce 0, .submit 0, .runOperation .returns, .conclude 0,
    .call .autopilot "b", .check 1 true, .announce 1, .submit 1, .runOperation .returns,
      .conclude 1]

theorem last_confirmed_mode_wins_in_turn :
    ∃ final, run (step id) interactiveWorld twoInTurn = some final ∧
      Settled final.row .autopilot := by
  have finishes : (run (step id) interactiveWorld twoInTurn).isSome := by decide
  obtain ⟨final, reached⟩ := Option.isSome_iff_exists.mp finishes
  have facts : ∀ w ∈ run (step id) interactiveWorld twoInTurn,
      (∀ call ∈ w.calls, ended call.phase = true) ∧
        ranLast w.operations =
          some { idempotencyKey := "b", mode := .autopilot, outcome := some .returns } := by
    decide
  obtain ⟨finished, last⟩ := facts final reached
  exact ⟨final, reached, last_confirmed_mode_wins id ⟨rfl, rfl, rfl⟩ reached (by decide) finished
    last rfl⟩

/-- Both calls pass their checks before either announces its mode: the second announcement is
dropped, and its confirmation is drift. -/
def twoAtOnce : List Label :=
  [.call .plan "a", .call .autopilot "b", .check 0 true, .check 1 true, .announce 0, .announce 1,
    .submit 0, .submit 1, .runOperation .returns, .conclude 0, .runOperation .returns, .conclude 1]

theorem dropped_announcement_is_drift :
    (run (step id) interactiveWorld twoAtOnce).map
        (fun w => (w.calls.map Call.phase, ranLast w.operations, w.row)) =
      some ([.finished .returns, .finished .returns],
        some { idempotencyKey := "b", mode := .autopilot, outcome := some .returns },
        { desiredMode := .plan, runtimeMode := some .autopilot,
          modeReconciliationState := .drift, modeDrift := true }) := by
  decide

end Copilotd.Guarantees.ModeTransitions
