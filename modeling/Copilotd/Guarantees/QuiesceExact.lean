import Mathlib.Algebra.BigOperators.Group.List.Basic
import Mathlib.Algebra.GroupWithZero.Nat
import Mathlib.Algebra.Ring.Int.Defs
import Copilotd.Base.Pool
import Copilotd.Source.Core.RegistryQuiesce

/-!
# The quiesce of the registry

The registry walks its live map across awaits, checks the admission of a replacement before it
shuts the old runtime down, and takes a context variable for an active block.  A quiesce is exact
in the runs in which none of these goes wrong, and in which the calls of `begin_service_quiesce`
and `end_service_quiesce` do not undo each other.
-/
namespace Copilotd.Guarantees.QuiesceExact

open Base Base.Run Base.Iteration Source.Core.RegistryQuiesce

/-! ## The law -/

/-- No block is active and every registered runtime is quiesced. -/
structure Closed (world : World) : Prop where
  blocks : ∀ task ∈ world.tasks, task.blocks = []
  quiesced : ∀ runtime ∈ world.registry.registered, runtime ∈ world.registry.quiesced

/-- A call of `end_service_quiesce` that is under way ends by steps of its own, with admission open
and no registered runtime left quiesced. -/
def Completes (world : World) : Prop :=
  ∀ index task iterator runtime, world.tasks[index]? = some task →
    task.operation = some (.endCalls iterator runtime) →
    ∃ awaits next, run World.step world
        (List.replicate awaits { task := index, event := .goes }) = some next ∧
      next.ends = .returned false [] :: world.ends

structure Exact (world : World) : Prop where
  held : world.held = true → Closed world
  ended : ∀ how ∈ world.ends, how = .returned false []
  completes : Completes world

/-- No runtime becomes registered between the two calls. -/
def RegistersNone (world : World) (label : Label) : Prop :=
  world.held = true → ∀ next ∈ world.step label,
    ∀ runtime ∈ next.registry.registered, runtime ∈ world.registry.registered

/-! ## The condition -/

/-- The call is a `begin_service_quiesce`. -/
def begins : Operation → Bool
  | .beginWaits | .beginCalls _ _ _ _ => true
  | _ => false

/-- It has set the flag of the runtime. -/
def hasBegun (runtime : SessionRuntime) : Operation → Bool
  | .beginCalls _ begun current flagged => begun.contains runtime || flagged && current = runtime
  | _ => false

/-- The call is an `end_service_quiesce`. -/
def walksEnd : Operation → Bool
  | .endCalls _ _ => true
  | _ => false

def hasCleared (runtimes : Slots SessionRuntime) (runtime : SessionRuntime) : Operation → Bool
  | .endCalls iterator _ => (passed runtimes (iterator.position - 1)).contains runtime
  | _ => false

/-- Some task is in such a call. -/
def anyCall (world : World) (which : Operation → Bool) : Bool :=
  world.tasks.any fun task => task.operation.any which

/-- The flag is not one that a quiesce relies on. -/
def clearsSafely (world : World) (runtime : SessionRuntime) : Bool :=
  !(world.held && world.registry.registered.contains runtime) && !anyCall world (hasBegun runtime)

/-- The admission that an `end_service_quiesce` opens is not one that a quiesce relies on. -/
def reopensSafely (world : World) (held : Bool) (iterator : Iterator) : Bool :=
  iterator.next world.registry.runtimes ≠ .exhausted || !held && !anyCall world begins

/-- A closed admission has a block that is still active. -/
def admissionLasts (registry : Registry) : Bool :=
  !registry.serviceQuiesced || 0 < registry.activeCreations

/-- The condition on a step of a task. -/
def sparesCall (world : World) (task : Task) : Event → Bool
  | .register _ => !task.admitted || admissionLasts world.registry
  | .endQuiesce => reopensSafely world false (iter world.registry.runtimes)
  | .goes =>
    match task.operation with
    | some (.replaceWaits _) => !task.admitted || admissionLasts world.registry
    | some (.replaceShutsDown _) => admissionLasts world.registry
    | some (.beginCalls _ _ runtime false) =>
      !anyCall world (hasCleared world.registry.runtimes runtime)
    | some (.rollsBack runtime _) => clearsSafely world runtime
    | some (.endCalls iterator runtime) =>
      clearsSafely world runtime && reopensSafely world world.held iterator
    | _ => true
  | .raises => !task.operation.any walksEnd
  | _ => true

/-- While an `end_service_quiesce` walks the map, nobody changes it. -/
def keepsMap (world : World) (label : Label) : Bool :=
  !anyCall world walksEnd ||
    (world.step label).all fun next => next.registry.runtimes = world.registry.runtimes

/-- The condition on a step. -/
def spares (world : World) (label : Label) : Bool :=
  keepsMap world label &&
    (world.tasks[label.task]?).all fun task => sparesCall world task label.event

/-! ## The invariant -/

def CallSound (registry : Registry) : Operation → Prop
  | .beginWaits => registry.serviceQuiesced = true
  | .beginCalls iterator begun runtime flagged =>
    registry.serviceQuiesced = true ∧ registry.activeCreations = 0 ∧
      (∀ other, hasBegun other (.beginCalls iterator begun runtime flagged) = true →
        other ∈ registry.quiesced) ∧
      size registry.runtimes ≤ iterator.expected ∧
      (size registry.runtimes = iterator.expected →
        registry.runtimes[iterator.position - 1]? = some (some runtime) ∧
        ∀ other ∈ passed registry.runtimes (iterator.position - 1), other ∈ begun)
  | .endCalls iterator runtime =>
    size registry.runtimes = iterator.expected ∧
      registry.runtimes[iterator.position - 1]? = some (some runtime) ∧
      ∀ other ∈ passed registry.runtimes (iterator.position - 1), other ∉ registry.quiesced
  | _ => True

structure Quiet (registry : Registry) : Prop where
  quiesced : registry.serviceQuiesced = true
  creations : registry.activeCreations = 0
  runtimes : ∀ runtime ∈ registry.registered, runtime ∈ registry.quiesced

def blockCount (tasks : List Task) : Nat := (tasks.map fun task => task.blocks.length).sum

structure Inv (world : World) : Prop where
  counts : world.registry.activeCreations = blockCount world.tasks
  calls : ∀ task ∈ world.tasks, ∀ call ∈ task.operation, CallSound world.registry call
  held : world.held = true → Quiet world.registry
  ended : ∀ how ∈ world.ends, how = .returned false []

/-! ## What a change of the registry keeps -/

/-- The change leaves what the call relies on. -/
structure Keeps (registry next : Registry) (call : Operation) : Prop where
  quiesced : begins call = true → registry.serviceQuiesced = true → next.serviceQuiesced = true
  creations : registry.serviceQuiesced = true → registry.activeCreations = 0 →
    next.activeCreations = 0
  map : next.runtimes = registry.runtimes ∨ walksEnd call = false ∧
    (registry.serviceQuiesced = true → registry.activeCreations = 0 →
      size next.runtimes < size registry.runtimes ∨ size next.runtimes = 0)
  begun : ∀ runtime, hasBegun runtime call = true → runtime ∈ registry.quiesced →
    runtime ∈ next.quiesced
  cleared : ∀ runtime, hasCleared registry.runtimes runtime call = true →
    runtime ∉ registry.quiesced → runtime ∉ next.quiesced

variable {runtime : SessionRuntime} {index : Nat}

theorem size_pos {slots : Slots SessionRuntime} (here : slots[index]? = some (some runtime)) :
    0 < size slots := by
  apply List.length_pos_of_mem
  exact mem_live.mpr (List.mem_of_getElem? here)

variable {call : Operation} {registry next : Registry}

theorem Keeps.sound (keeps : Keeps registry next call) (sound : CallSound registry call) :
    CallSound next call := by
  cases call with
  | beginWaits => exact keeps.quiesced rfl sound
  | beginCalls iterator begun runtime flagged =>
    obtain ⟨quiesced, creations, flags, bound, walked⟩ := sound
    refine ⟨keeps.quiesced rfl quiesced, keeps.creations quiesced creations,
      fun other has => keeps.begun other has (flags other has), ?_⟩
    rcases keeps.map with same | ⟨_, smaller⟩
    · rw [same]
      exact ⟨bound, walked⟩
    · rcases smaller quiesced creations with less | none
      · refine ⟨by omega, ?_⟩
        intro full
        omega
      · refine ⟨by omega, ?_⟩
        intro full
        obtain ⟨here, _⟩ := walked (by omega)
        have some_ := size_pos here
        omega
  | endCalls iterator runtime =>
    obtain ⟨full, here, flags⟩ := sound
    rcases keeps.map with same | ⟨walks, _⟩
    · have cleared : ∀ other ∈ passed registry.runtimes (iterator.position - 1),
          other ∉ next.quiesced := by
        intro other member
        exact keeps.cleared other (by simpa [hasCleared] using member) (flags other member)
      unfold CallSound
      rw [same]
      exact ⟨full, here, cleared⟩
    · cases walks
  | rollsBack | drains | replaceWaits | replaceShutsDown => trivial

theorem keeps_self (registry : Registry) (call : Operation) : Keeps registry registry call :=
  ⟨fun _ => id, fun _ => id, .inl rfl, fun _ _ => id, fun _ _ => id⟩

/-! ## The loops -/

/-- What a step of a call comes to is sound. -/
structure OutcomeSound (outcome : Outcome) : Prop where
  call : ∀ call ∈ outcome.operation, CallSound outcome.registry call
  note : match outcome.note with
    | none => True
    | some .begun => Quiet outcome.registry
    | some (.ended how) => how = .returned false []

theorem rollBack_sound (registry : Registry) (begun : List SessionRuntime) :
    OutcomeSound (registry.rollBack begun) ∧ (registry.rollBack begun).registry = registry := by
  cases begun with
  | nil => exact ⟨⟨(by intro _ no; cases no), trivial⟩, rfl⟩
  | cons runtime rest => exact ⟨⟨(by rintro _ ⟨⟩; trivial), trivial⟩, rfl⟩

theorem advanceDrain_sound (registry : Registry) (iterator : Iterator) :
    OutcomeSound (registry.advanceDrain iterator) ∧
      (registry.advanceDrain iterator).registry = registry := by
  unfold Registry.advanceDrain
  split
  · exact ⟨⟨(by intro _ no; cases no), trivial⟩, rfl⟩
  · exact ⟨⟨(by intro _ no; cases no), trivial⟩, rfl⟩
  · exact ⟨⟨(by rintro _ ⟨⟩; trivial), trivial⟩, rfl⟩

theorem advanceBegin_sound (iterator : Iterator) (begun : List SessionRuntime)
    (quiesced : registry.serviceQuiesced = true) (creations : registry.activeCreations = 0)
    (flags : ∀ other ∈ begun, other ∈ registry.quiesced)
    (walked : size registry.runtimes = iterator.expected →
      ∀ other ∈ passed registry.runtimes iterator.position, other ∈ begun) :
    OutcomeSound (registry.advanceBegin iterator begun) ∧
      (registry.advanceBegin iterator begun).registry = registry := by
  unfold Registry.advanceBegin
  split
  · exact rollBack_sound registry _
  · next exhausted =>
    obtain ⟨full, all⟩ := next_exhausted exhausted
    refine ⟨⟨(by intro _ no; cases no), quiesced, creations, ?_⟩, rfl⟩
    intro runtime member
    exact flags runtime (walked full runtime (all runtime member))
  · next runtime after yields =>
    obtain ⟨full, same, _, here, before⟩ := next_yields yields
    refine ⟨⟨?_, trivial⟩, rfl⟩
    rintro _ ⟨⟩
    refine ⟨quiesced, creations, ?_, Nat.le_of_eq (full.trans same.symm), fun _ => ⟨here, ?_⟩⟩
    · intro other has
      exact flags other (by simpa [hasBegun] using has)
    · intro other member
      exact walked full other (before other member)

variable {iterator : Iterator}

theorem advanceEnd_sound (full : size registry.runtimes = iterator.expected)
    (cleared : ∀ other ∈ passed registry.runtimes iterator.position, other ∉ registry.quiesced) :
    OutcomeSound (registry.advanceEnd iterator) := by
  unfold Registry.advanceEnd
  split
  · next changed => exact absurd changed (next_ne_changed full)
  · next exhausted =>
    obtain ⟨_, all⟩ := next_exhausted exhausted
    refine ⟨(by intro _ no; cases no), ?_⟩
    have none_left : registry.registered.filter (· ∈ registry.quiesced) = [] := by
      rw [List.filter_eq_nil_iff]
      intro runtime member flagged
      exact cleared runtime (all runtime member) (by simpa using flagged)
    exact congrArg (Ended.returned false) none_left
  · next runtime after yields =>
    obtain ⟨_, same, _, here, before⟩ := next_yields yields
    refine ⟨?_, trivial⟩
    rintro _ ⟨⟩
    exact ⟨full.trans same.symm, here, fun other member => cleared other (before other member)⟩

/-! ## A step keeps the invariant -/

variable {world : World}

theorem anyCall_eq_false {which : Operation → Bool} :
    anyCall world which = false ↔
      ∀ task ∈ world.tasks, ∀ call ∈ task.operation, which call = false := by
  unfold anyCall
  rw [List.any_eq_false]
  refine forall₂_congr fun task _ => ?_
  cases task.operation <;> simp

variable {outcome : Outcome} {task : Task}

theorem takes_inv (inv : Inv world) (found : world.tasks[index]? = some task)
    (creations : outcome.registry.activeCreations = world.registry.activeCreations)
    (keeps : ∀ task ∈ world.tasks, ∀ call ∈ task.operation,
      Keeps world.registry outcome.registry call) (sound : OutcomeSound outcome)
    (held : world.held = true → Quiet outcome.registry) :
    Inv (world.takes index task outcome) := by
  have calls : ∀ other ∈ world.tasks.set index { task with operation := outcome.operation },
      ∀ call ∈ other.operation, CallSound outcome.registry call := by
    refine Pool.forall_set found ?_ sound.call
    intro other member call has
    exact (keeps other member call has).sound (inv.calls other member call has)
  have counts : outcome.registry.activeCreations =
      blockCount (world.tasks.set index { task with operation := outcome.operation }) := by
    have same : (world.tasks.set index { task with operation := outcome.operation }).map
        (fun task => task.blocks.length) = world.tasks.map fun task => task.blocks.length :=
      Pool.map_set found rfl
    unfold blockCount
    rw [creations, inv.counts, same]
    rfl
  have note := sound.note
  unfold World.takes World.note
  cases noted : outcome.note with
  | none => exact ⟨counts, calls, held, inv.ended⟩
  | some told =>
    rw [noted] at note
    cases told with
    | begun => exact ⟨counts, calls, fun _ => note, inv.ended⟩
    | ended how =>
      refine ⟨counts, calls, held, ?_⟩
      intro other member
      rcases List.mem_cons.mp member with rfl | before
      · exact note
      · exact inv.ended other before

theorem withRegistry_inv (inv : Inv world)
    (creations : registry.activeCreations = world.registry.activeCreations)
    (keeps : ∀ task ∈ world.tasks, ∀ call ∈ task.operation, Keeps world.registry registry call)
    (held : world.held = true → Quiet registry) : Inv (world.withRegistry registry) := by
  refine ⟨creations.trans inv.counts, ?_, held, inv.ended⟩
  intro task member call has
  exact (keeps task member call has).sound (inv.calls task member call has)

/-- The invariant after a step, and that it has registered nothing under a quiesce. -/
def StepSound (world next : World) : Prop :=
  Inv next ∧ (world.held = true → ∀ runtime ∈ next.registry.registered,
    runtime ∈ world.registry.registered)

structure MapChange (world : World) (registry : Registry) : Prop where
  quiesced : registry.serviceQuiesced = world.registry.serviceQuiesced
  creations : registry.activeCreations = world.registry.activeCreations
  flags : registry.quiesced = world.registry.quiesced
  walks : anyCall world walksEnd = false ∨ registry.runtimes = world.registry.runtimes
  shrinks : registry.runtimes = world.registry.runtimes ∨
    (world.registry.serviceQuiesced = true → world.registry.activeCreations = 0 →
      (size registry.runtimes < size world.registry.runtimes ∨ size registry.runtimes = 0) ∧
      ∀ runtime ∈ registry.registered, runtime ∈ world.registry.registered)

theorem MapChange.keeps (change : MapChange world registry) :
    ∀ task ∈ world.tasks, ∀ call ∈ task.operation, Keeps world.registry registry call := by
  intro task member call has
  refine ⟨fun _ closed => change.quiesced.trans closed,
    fun _ none_ => change.creations.trans none_, ?_, ?_, ?_⟩
  · rcases change.walks with none_ | same
    · rcases change.shrinks with same | shrinks
      · exact .inl same
      · exact .inr ⟨anyCall_eq_false.mp none_ task member call has,
          fun closed idle => (shrinks closed idle).1⟩
    · exact .inl same
  · intro runtime _ flagged
    rw [change.flags]
    exact flagged
  · intro runtime _ cleared
    rw [change.flags]
    exact cleared

theorem MapChange.registers (change : MapChange world registry) (quiet : Quiet world.registry) :
    ∀ runtime ∈ registry.registered, runtime ∈ world.registry.registered := by
  rcases change.shrinks with same | shrinks
  · intro runtime member
    unfold Registry.registered at member
    rw [same] at member
    exact member
  · exact (shrinks quiet.quiesced quiet.creations).2

theorem MapChange.quiet (change : MapChange world registry) (quiet : Quiet world.registry) :
    Quiet registry := by
  refine ⟨change.quiesced.trans quiet.quiesced, change.creations.trans quiet.creations, ?_⟩
  intro runtime member
  rw [change.flags]
  exact quiet.runtimes runtime (change.registers quiet runtime member)

theorem MapChange.sound (inv : Inv world) (change : MapChange world registry) :
    StepSound world (world.withRegistry registry) := by
  refine ⟨withRegistry_inv inv change.creations change.keeps ?_, ?_⟩
  · intro held
    exact change.quiet (inv.held held)
  · intro held
    exact change.registers (inv.held held)

theorem MapChange.takes {call : Option Operation} (inv : Inv world)
    (found : world.tasks[index]? = some task) (change : MapChange world registry)
    (sound : ∀ next ∈ call, CallSound registry next) :
    StepSound world (world.takes index task { operation := call, registry }) := by
  refine ⟨takes_inv inv found change.creations change.keeps ⟨sound, trivial⟩ ?_, ?_⟩
  · intro held
    exact change.quiet (inv.held held)
  · intro held
    exact change.registers (inv.held held)

/-! ## Registration and removal -/

theorem registerAdmitted_cases (registry : Registry) (compacts : Bool) (runtime : SessionRuntime) :
    registry.registerAdmitted compacts runtime = registry ∨
      registry.registerAdmitted compacts runtime =
        { registry with runtimes := insert compacts runtime registry.runtimes } := by
  unfold Registry.registerAdmitted
  split
  · exact .inl rfl
  · exact .inr rfl

theorem admissionLasts_iff : admissionLasts registry = true ↔
    (registry.serviceQuiesced = true → registry.activeCreations ≠ 0) := by
  unfold admissionLasts
  cases registry.serviceQuiesced
  · simp
  · simp [Nat.pos_iff_ne_zero]

theorem lasts_of_admits {admitted : Bool} (spared : (!admitted || admissionLasts registry) = true)
    (admits : registry.admits admitted = true) : admissionLasts registry = true := by
  cases admitted with
  | true => simpa using spared
  | false =>
    have opened : registry.serviceQuiesced = false := by
      simpa [Registry.admits] using admits
    rw [admissionLasts_iff, opened]
    simp

theorem change_of_lasts (lasts : admissionLasts world.registry = true)
    (quiesced : registry.serviceQuiesced = world.registry.serviceQuiesced)
    (creations : registry.activeCreations = world.registry.activeCreations)
    (flags : registry.quiesced = world.registry.quiesced)
    (walks : anyCall world walksEnd = false ∨ registry.runtimes = world.registry.runtimes) :
    MapChange world registry := by
  refine ⟨quiesced, creations, flags, walks, .inr ?_⟩
  intro closed idle
  exact absurd idle (admissionLasts_iff.mp lasts closed)

theorem change_of_remove (hit : SessionRuntime → Bool)
    (removed : registry.runtimes = remove hit world.registry.runtimes)
    (quiesced : registry.serviceQuiesced = world.registry.serviceQuiesced)
    (creations : registry.activeCreations = world.registry.activeCreations)
    (flags : registry.quiesced = world.registry.quiesced)
    (walks : anyCall world walksEnd = false ∨ registry.runtimes = world.registry.runtimes) :
    MapChange world registry := by
  refine ⟨quiesced, creations, flags, walks, ?_⟩
  by_cases misses : ∀ runtime ∈ live world.registry.runtimes, hit runtime = false
  · exact .inl (removed.trans (remove_of_misses misses))
  · refine .inr fun _ _ => ⟨.inl ?_, ?_⟩
    · push Not at misses
      obtain ⟨runtime, member, found⟩ := misses
      rw [removed]
      unfold size
      rw [live_remove]
      apply List.length_filter_lt_length_iff_exists.mpr
      exact ⟨runtime, member, by simpa using found⟩
    · intro runtime member
      unfold Registry.registered at member
      rw [removed, live_remove] at member
      exact List.mem_of_mem_filter member

variable {label : Label}

theorem keepsMap_next {next : World} (spared : keepsMap world label = true)
    (taken : world.step label = some next) :
    anyCall world walksEnd = false ∨ next.registry.runtimes = world.registry.runtimes := by
  unfold keepsMap at spared
  rw [taken] at spared
  simpa using spared

/-! ## The steps of the loops -/

@[simp] theorem takes_registry (world : World) (index : Nat) (task : Task) (outcome : Outcome) :
    (world.takes index task outcome).registry = outcome.registry := by
  unfold World.takes World.note
  split <;> rfl

theorem takes_sound (inv : Inv world) (found : world.tasks[index]? = some task)
    (creations : outcome.registry.activeCreations = world.registry.activeCreations)
    (runtimes : outcome.registry.runtimes = world.registry.runtimes)
    (keeps : ∀ task ∈ world.tasks, ∀ call ∈ task.operation,
      Keeps world.registry outcome.registry call) (sound : OutcomeSound outcome)
    (held : world.held = true → Quiet outcome.registry) :
    StepSound world (world.takes index task outcome) := by
  refine ⟨takes_inv inv found creations keeps sound held, ?_⟩
  intro _ runtime member
  rw [takes_registry] at member
  unfold Registry.registered at member
  rw [runtimes] at member
  exact member

theorem Keeps.reopen (keeps : Keeps registry next call) (other : begins call = false) :
    Keeps registry next.reopen call := by
  refine ⟨fun also => ?_, keeps.creations, keeps.map, keeps.begun, keeps.cleared⟩
  rw [other] at also
  cases also

theorem Quiet.of_flags (quiet : Quiet registry) (quiesced : next.serviceQuiesced = true)
    (creations : next.activeCreations = registry.activeCreations)
    (runtimes : next.runtimes = registry.runtimes)
    (flags : ∀ runtime ∈ registry.registered, runtime ∈ registry.quiesced →
      runtime ∈ next.quiesced) : Quiet next := by
  refine ⟨quiesced, creations.trans quiet.creations, ?_⟩
  intro runtime member
  unfold Registry.registered at member
  rw [runtimes] at member
  exact flags runtime member (quiet.runtimes runtime member)

theorem advanceEnd_takes (inv : Inv world) (found : world.tasks[index]? = some task)
    (creations : registry.activeCreations = world.registry.activeCreations)
    (runtimes : registry.runtimes = world.registry.runtimes)
    (keeps : ∀ task ∈ world.tasks, ∀ call ∈ task.operation, Keeps world.registry registry call)
    (held : world.held = true → Quiet registry)
    (full : size registry.runtimes = iterator.expected)
    (cleared : ∀ other ∈ passed registry.runtimes iterator.position, other ∉ registry.quiesced)
    (reopens : iterator.next registry.runtimes = .exhausted →
      world.held = false ∧ anyCall world begins = false) :
    StepSound world (world.takes index task (registry.advanceEnd iterator)) := by
  have sound := advanceEnd_sound full cleared
  by_cases exhausted : iterator.next registry.runtimes = .exhausted
  · obtain ⟨free, others⟩ := reopens exhausted
    have same : (registry.advanceEnd iterator).registry = registry.reopen := by
      unfold Registry.advanceEnd
      rw [exhausted]
    refine takes_sound inv found ?_ ?_ ?_ sound ?_ <;> rw [same]
    · exact creations
    · exact runtimes
    · intro other member call has
      exact (keeps other member call has).reopen (anyCall_eq_false.mp others other member call has)
    · rw [free]
      intro no
      cases no
  · have same : (registry.advanceEnd iterator).registry = registry := by
      unfold Registry.advanceEnd
      split
      · rfl
      · next through => exact absurd through exhausted
      · rfl
    refine takes_sound inv found ?_ ?_ ?_ sound ?_ <;> rw [same]
    · exact creations
    · exact runtimes
    · exact keeps
    · exact held

theorem passed_zero (slots : Slots SessionRuntime) : passed slots 0 = [] := rfl

theorem begin_sound (inv : Inv world) (found : world.tasks[index]? = some task) :
    StepSound world (world.takes index task world.registry.begin) := by
  have keeps : ∀ task ∈ world.tasks, ∀ call ∈ task.operation,
      Keeps world.registry { world.registry with serviceQuiesced := true } call := fun _ _ _ _ =>
    ⟨fun _ _ => rfl, fun _ => id, .inl rfl, fun _ _ => id, fun _ _ => id⟩
  have held : world.held = true → Quiet { world.registry with serviceQuiesced := true } :=
    fun held => (inv.held held).of_flags rfl rfl rfl fun _ _ => id
  unfold Registry.begin
  by_cases idle : world.registry.activeCreations = 0
  · simp only [if_pos idle]
    have advanced (closed : Registry) (quiesced : closed.serviceQuiesced = true)
        (creations : closed.activeCreations = 0) :
        OutcomeSound (closed.advanceBegin (iter closed.runtimes) []) ∧
          (closed.advanceBegin (iter closed.runtimes) []).registry = closed :=
      advanceBegin_sound _ [] quiesced creations (by simp) (by simp [iter, passed_zero])
    obtain ⟨sound, same⟩ := advanced { world.registry with serviceQuiesced := true } rfl idle
    refine takes_sound inv found ?_ ?_ ?_ sound ?_ <;> rw [same]
    · exact keeps
    · exact held
  · simp only [if_neg idle]
    exact takes_sound inv found rfl rfl keeps ⟨by rintro _ ⟨⟩; rfl, trivial⟩ held

/-! ## A task that is in no call -/

theorem blockCount_set {tasks : List Task} (found : tasks[index]? = some task) (new : Task) :
    blockCount (tasks.set index new) + task.blocks.length =
      blockCount tasks + new.blocks.length := by
  unfold blockCount
  have before := ((Pool.perm_of_getElem? found).map fun task => task.blocks.length).sum_eq
  obtain ⟨bound, _⟩ := List.getElem?_eq_some_iff.mp found
  have after := ((List.set_perm_cons_eraseIdx bound new).map fun task => task.blocks.length).sum_eq
  rw [List.map_cons, List.sum_cons] at before after
  omega

theorem blocks_inv {new : Task} {creations : Nat} (inv : Inv world)
    (found : world.tasks[index]? = some task) (idle : new.operation = none)
    (counts : creations + task.blocks.length = world.registry.activeCreations + new.blocks.length)
    (closed : world.registry.serviceQuiesced = true → world.registry.activeCreations = 0 →
      creations = 0) :
    StepSound world ((world.withRegistry
      { world.registry with activeCreations := creations }).setTask index new) := by
  have count := blockCount_set found new
  have before := inv.counts
  refine ⟨⟨?_, ?_, ?_, inv.ended⟩, fun _ _ => id⟩
  · change creations = blockCount (world.tasks.set index new)
    omega
  · refine Pool.forall_set found ?_ ?_
    · intro other member call has
      have keeps : Keeps world.registry { world.registry with activeCreations := creations } call :=
        ⟨fun _ => id, closed, .inl rfl, fun _ _ => id, fun _ _ => id⟩
      exact keeps.sound (inv.calls other member call has)
    · intro call has
      rw [idle] at has
      cases has
  · intro held
    have quiet := inv.held held
    exact ⟨quiet.quiesced, closed quiet.quiesced quiet.creations, quiet.runtimes⟩

theorem reopensSafely_iff {held : Bool} :
    reopensSafely world held iterator = true ↔
      (iterator.next world.registry.runtimes = .exhausted →
        held = false ∧ anyCall world begins = false) := by
  unfold reopensSafely
  by_cases through : iterator.next world.registry.runtimes = .exhausted
  · simp [through]
  · simp [through]

theorem end_sound (inv : Inv world) (found : world.tasks[index]? = some task)
    (spared : reopensSafely world false (iter world.registry.runtimes) = true) :
    StepSound world ({ world with held := false }.takes index task
      (world.registry.advanceEnd (iter world.registry.runtimes))) := by
  have free : Inv { world with held := false } :=
    ⟨inv.counts, inv.calls, (by intro no; cases no), inv.ended⟩
  have ended : StepSound { world with held := false } ({ world with held := false }.takes index task
      (world.registry.advanceEnd (iter world.registry.runtimes))) :=
    advanceEnd_takes free found rfl rfl (fun _ _ _ _ => keeps_self _ _) (by intro no; cases no) rfl
      (by simp [iter, passed_zero]) (reopensSafely_iff.mp spared)
  refine ⟨ended.1, ?_⟩
  intro _ runtime member
  unfold Registry.advanceEnd at member
  split at member <;> exact member

variable {compacts : Bool}

theorem starts_sound {next : World} {event : Event} (inv : Inv world)
    (found : world.tasks[index]? = some task) (idle : task.operation = none)
    (walks : anyCall world walksEnd = false ∨ next.registry.runtimes = world.registry.runtimes)
    (spared : sparesCall world task event = true)
    (taken : world.starts index task compacts event = some next) : StepSound world next := by
  have same : MapChange world world.registry := ⟨rfl, rfl, rfl, .inr rfl, .inl rfl⟩
  cases event with
  | spawn =>
    cases taken
    refine ⟨⟨?_, ?_, inv.held, inv.ended⟩, fun _ _ => id⟩
    · have count := inv.counts
      unfold blockCount at count ⊢
      simpa using count
    · exact Pool.forall_push inv.calls (by intro _ no; cases no)
  | enter =>
    simp only [World.starts] at taken
    split at taken
    · cases taken
      exact ⟨inv, fun _ _ => id⟩
    · next opened =>
      cases taken
      refine blocks_inv inv found idle ?_ ?_
      · simp
        omega
      · intro closed
        exact absurd closed opened
  | exit =>
    simp only [World.starts] at taken
    split at taken
    · cases taken
    · next saved rest blocks =>
      cases taken
      have count := blockCount_set found { task with blocks := [] }
      have total := inv.counts
      refine blocks_inv inv found idle ?_ ?_
      · rw [blocks, List.length_cons] at *
        simp at count
        simp
        omega
      · omega
  | register runtime =>
    cases taken
    refine MapChange.sound inv ?_
    unfold Registry.register
    split
    · next admits =>
      rw [Bool.and_eq_true] at admits
      have lasts := lasts_of_admits spared admits.2
      have registry : (world.registry.register compacts task.admitted runtime) =
          world.registry.registerAdmitted compacts runtime := by
        simp [Registry.register, admits]
      rcases registerAdmitted_cases world.registry compacts runtime with kept | inserted
      · rw [kept]
        exact same
      · refine change_of_lasts lasts ?_ ?_ ?_ (registry ▸ walks) <;> rw [inserted]
    · exact same
  | replace threadId =>
    simp only [World.starts] at taken
    split at taken
    · cases taken
      exact MapChange.takes inv found same (by rintro _ ⟨⟩; trivial)
    · cases taken
      exact ⟨inv, fun _ _ => id⟩
  | retire threadId | quarantineFailure threadId =>
    simp only [World.starts, World.mutates] at taken
    split at taken
    · cases taken
    · cases taken
      exact MapChange.sound inv (change_of_remove _ rfl rfl rfl rfl walks)
  | quarantineAll =>
    simp only [World.starts, World.mutates] at taken
    split at taken
    · cases taken
    · cases taken
      refine MapChange.sound inv ⟨rfl, rfl, rfl, walks, .inr fun _ _ => ⟨.inr rfl, ?_⟩⟩
      intro runtime member
      cases member
  | beginQuiesce =>
    cases taken
    exact begin_sound inv found
  | endQuiesce =>
    cases taken
    exact end_sound inv found spared
  | drainQuiesce =>
    cases taken
    obtain ⟨sound, kept⟩ := advanceDrain_sound world.registry (iter world.registry.runtimes)
    refine takes_sound inv found ?_ ?_ ?_ sound ?_ <;> rw [kept]
    · exact fun _ _ _ _ => keeps_self _ _
    · exact inv.held
  | closeAdmission =>
    cases taken
    exact MapChange.sound inv ⟨rfl, rfl, rfl, .inr rfl, .inl rfl⟩
  | goes | raises => cases taken

/-! ## A call whose await comes back or raises -/

theorem clearsSafely_iff :
    clearsSafely world runtime = true ↔
      (world.held = true → runtime ∉ world.registry.registered) ∧
        anyCall world (hasBegun runtime) = false := by
  unfold clearsSafely
  cases world.held <;> simp

theorem mem_clear {other : SessionRuntime} :
    other ∈ (registry.clear runtime).quiesced ↔ other ∈ registry.quiesced ∧ other ≠ runtime := by
  simp [Registry.clear]

theorem clear_keeps (spared : clearsSafely world runtime = true) :
    ∀ task ∈ world.tasks, ∀ call ∈ task.operation,
      Keeps world.registry (world.registry.clear runtime) call := by
  intro task member call has
  refine ⟨fun _ => id, fun _ => id, .inl rfl, ?_, ?_⟩
  · intro other begun flagged
    refine mem_clear.mpr ⟨flagged, ?_⟩
    rintro rfl
    have never := anyCall_eq_false.mp (clearsSafely_iff.mp spared).2 task member call has
    rw [begun] at never
    cases never
  · intro other _ cleared flagged
    exact cleared (mem_clear.mp flagged).1

theorem clear_quiet (inv : Inv world) (spared : clearsSafely world runtime = true)
    (held : world.held = true) :
    Quiet (world.registry.clear runtime) := by
  have quiet := inv.held held
  refine quiet.of_flags quiet.quiesced rfl rfl ?_
  intro other member flagged
  refine mem_clear.mpr ⟨flagged, ?_⟩
  rintro rfl
  exact (clearsSafely_iff.mp spared).1 held member

theorem flag_keeps (spared : anyCall world (hasCleared world.registry.runtimes runtime) = false) :
    ∀ task ∈ world.tasks, ∀ call ∈ task.operation,
      Keeps world.registry (world.registry.flag runtime) call := by
  intro task member call has
  refine ⟨fun _ => id, fun _ => id, .inl rfl, fun _ _ => List.mem_cons_of_mem _, ?_⟩
  intro other was cleared flagged
  rcases List.mem_cons.mp flagged with rfl | before
  · have never := anyCall_eq_false.mp spared task member call has
    rw [was] at never
    cases never
  · exact cleared before

theorem flag_quiet (runtime : SessionRuntime) (inv : Inv world) (held : world.held = true) :
    Quiet (world.registry.flag runtime) := by
  have quiet := inv.held held
  exact quiet.of_flags quiet.quiesced rfl rfl fun _ _ => List.mem_cons_of_mem _

theorem replaced_change {threadId : String} (lasts : admissionLasts world.registry = true)
    (walks : anyCall world walksEnd = false ∨
      (world.registry.replaced compacts threadId).runtimes = world.registry.runtimes) :
    MapChange world (world.registry.replaced compacts threadId) := by
  have kept : ∀ runtime, (world.registry.registerAdmitted compacts runtime).serviceQuiesced =
        world.registry.serviceQuiesced ∧
      (world.registry.registerAdmitted compacts runtime).activeCreations =
        world.registry.activeCreations ∧
      (world.registry.registerAdmitted compacts runtime).quiesced = world.registry.quiesced := by
    intro runtime
    rcases registerAdmitted_cases world.registry compacts runtime with same | inserted
    · rw [same]
      exact ⟨rfl, rfl, rfl⟩
    · rw [inserted]
      exact ⟨rfl, rfl, rfl⟩
  exact change_of_lasts lasts (kept _).1 (kept _).2.1 (kept _).2.2 walks

theorem goes_sound (inv : Inv world) (found : world.tasks[index]? = some task)
    (running : task.operation = some call) (walks : anyCall world walksEnd = false ∨
      outcome.registry.runtimes = world.registry.runtimes)
    (spared : sparesCall world task .goes = true)
    (taken : call.goes world.registry compacts task.admitted = some outcome) :
    StepSound world (world.takes index task outcome) := by
  have done := inv.calls task (List.mem_of_getElem? found) call running
  have same : MapChange world world.registry := ⟨rfl, rfl, rfl, .inr rfl, .inl rfl⟩
  simp only [sparesCall, running] at spared
  cases call with
  | beginWaits =>
    simp only [Operation.goes] at taken
    split at taken
    · next idle =>
      cases taken
      obtain ⟨sound, kept⟩ := advanceBegin_sound (iter world.registry.runtimes) [] done idle
        (by simp) (by simp [iter, passed_zero])
      refine takes_sound inv found ?_ ?_ ?_ sound ?_ <;> rw [kept]
      · exact fun _ _ _ _ => keeps_self _ _
      · exact inv.held
    · cases taken
  | beginCalls iterator begun runtime flagged =>
    obtain ⟨quiesced, creations, flags, bound, walked⟩ := done
    cases flagged with
    | true =>
      cases taken
      have all : ∀ other ∈ begun ++ [runtime], other ∈ world.registry.quiesced := by
        intro other member
        apply flags other
        rcases List.mem_append.mp member with before | last
        · simp [hasBegun, before]
        · simp [hasBegun, List.mem_singleton.mp last]
      obtain ⟨sound, kept⟩ :=
        advanceBegin_sound iterator (begun ++ [runtime]) quiesced creations all (by
        intro full other member
        obtain ⟨here, before⟩ := walked full
        rcases mem_passed_succ here member with earlier | rfl
        · exact List.mem_append_left _ (before other earlier)
        · exact List.mem_concat_self)
      refine takes_sound inv found ?_ ?_ ?_ sound ?_ <;> rw [kept]
      · exact fun _ _ _ _ => keeps_self _ _
      · exact inv.held
    | false =>
      cases taken
      have clear : anyCall world (hasCleared world.registry.runtimes runtime) = false := by
        simpa using spared
      refine takes_sound inv found rfl rfl (flag_keeps clear) ⟨?_, trivial⟩ (flag_quiet _ inv)
      rintro _ ⟨⟩
      refine ⟨quiesced, creations, ?_, bound, walked⟩
      intro other has
      by_cases last : other = runtime
      · exact last ▸ List.mem_cons_self ..
      · refine List.mem_cons_of_mem _ (flags other ?_)
        simpa [hasBegun, Ne.symm last] using has
  | rollsBack runtime rest =>
    cases taken
    obtain ⟨sound, kept⟩ := rollBack_sound (world.registry.clear runtime) rest
    refine takes_sound inv found ?_ ?_ ?_ sound ?_ <;> rw [kept]
    · rfl
    · rfl
    · exact clear_keeps spared
    · exact clear_quiet inv spared
  | endCalls iterator runtime =>
    cases taken
    obtain ⟨full, here, cleared⟩ := done
    rw [Bool.and_eq_true] at spared
    refine advanceEnd_takes inv found rfl rfl (clear_keeps spared.1) (clear_quiet inv spared.1)
      full ?_ (reopensSafely_iff.mp spared.2)
    intro other member flagged
    obtain ⟨before, different⟩ := mem_clear.mp flagged
    rcases mem_passed_succ here member with earlier | rfl
    · exact cleared other earlier before
    · exact different rfl
  | drains iterator runtime =>
    cases taken
    obtain ⟨sound, kept⟩ := advanceDrain_sound world.registry iterator
    refine takes_sound inv found ?_ ?_ ?_ sound ?_ <;> rw [kept]
    · exact fun _ _ _ _ => keeps_self _ _
    · exact inv.held
  | replaceWaits threadId =>
    simp only [Operation.goes] at taken
    split at taken
    · cases taken
    · cases taken
      unfold Registry.replaceLocked at walks ⊢
      split
      · next admits =>
        rw [if_pos admits] at walks
        split
        · next existing =>
          rw [if_pos existing] at walks
          exact MapChange.takes inv found (change_of_remove _ rfl rfl rfl rfl walks)
            (by rintro _ ⟨⟩; trivial)
        · next existing =>
          rw [if_neg existing] at walks
          exact MapChange.takes inv found (replaced_change (lasts_of_admits spared admits) walks)
            (by intro _ no; cases no)
      · exact MapChange.takes inv found same (by intro _ no; cases no)
  | replaceShutsDown threadId =>
    cases taken
    exact MapChange.takes inv found (replaced_change spared walks) (by intro _ no; cases no)

theorem raises_sound (inv : Inv world) (found : world.tasks[index]? = some task)
    (running : task.operation = some call) (spared : sparesCall world task .raises = true) :
    StepSound world (world.takes index task (call.raises world.registry)) := by
  have same : MapChange world world.registry := ⟨rfl, rfl, rfl, .inr rfl, .inl rfl⟩
  cases call with
  | beginCalls iterator begun runtime flagged =>
    obtain ⟨sound, kept⟩ := rollBack_sound world.registry begun.reverse
    refine takes_sound inv found ?_ ?_ ?_ ?_ ?_
    · exact congrArg _ kept
    · exact congrArg _ kept
    · intro _ _ _ _
      change Keeps _ (world.registry.rollBack begun.reverse).registry _
      rw [kept]
      exact keeps_self _ _
    · exact sound
    · change _ → Quiet (world.registry.rollBack begun.reverse).registry
      rw [kept]
      exact inv.held
  | endCalls iterator runtime =>
    simp [sparesCall, running, walksEnd] at spared
  | replaceShutsDown threadId =>
    exact MapChange.takes inv found ⟨rfl, rfl, rfl, .inr rfl, .inl rfl⟩ (by intro _ no; cases no)
  | beginWaits | rollsBack | drains | replaceWaits =>
    exact MapChange.takes inv found same (by intro _ no; cases no)

theorem step_sound {next : World} (inv : Inv world) (spared : spares world label = true)
    (taken : world.step label = some next) :
    StepSound world next := by
  unfold spares at spared
  rw [Bool.and_eq_true] at spared
  have walks := keepsMap_next spared.1 taken
  have call := spared.2
  unfold World.step at taken
  split at taken
  · cases taken
  · next task found =>
    rw [found, Option.all_some] at call
    split at taken
    · next idle => exact starts_sound inv found idle walks call taken
    · next running event =>
      obtain ⟨outcome, goes, rfl⟩ := Option.map_eq_some_iff.mp taken
      rw [event] at call
      rw [takes_registry] at walks
      exact goes_sound inv found running walks call goes
    · next running event =>
      cases taken
      rw [event] at call
      exact raises_sound inv found running call
    · cases taken

/-! ## A call of `end_service_quiesce` ends -/

theorem takes_task (found : world.tasks[index]? = some task) (outcome : Outcome) :
    (world.takes index task outcome).tasks[index]? =
      some { task with operation := outcome.operation } := by
  obtain ⟨bound, _⟩ := List.getElem?_eq_some_iff.mp found
  have set_ : (world.tasks.set index { task with operation := outcome.operation })[index]? =
      some { task with operation := outcome.operation } := by
    simp [bound]
  unfold World.takes World.note
  split <;> exact set_

/-- Whatever the others have done before, the rounds that are left clear what is left. -/
theorem end_completes (found : world.tasks[index]? = some task)
    (running : task.operation = some (.endCalls iterator runtime))
    (sound : CallSound world.registry (.endCalls iterator runtime)) :
    ∃ awaits next, run World.step world
        (List.replicate awaits { task := index, event := .goes }) = some next ∧
      next.ends = .returned false [] :: world.ends := by
  generalize left : world.registry.runtimes.length - iterator.position = rounds
  induction rounds using Nat.strongRecOn generalizing world task iterator runtime with
  | _ rounds ih =>
    obtain ⟨full, here, cleared⟩ := sound
    have stepped : World.step world { task := index, event := .goes } =
        some (world.takes index task ((world.registry.clear runtime).advanceEnd iterator)) := by
      simp [World.step, found, running, Operation.goes]
    have passed_clear : ∀ other ∈ passed world.registry.runtimes iterator.position,
        other ∉ (world.registry.clear runtime).quiesced := by
      intro other member flagged
      obtain ⟨before, different⟩ := mem_clear.mp flagged
      rcases mem_passed_succ here member with earlier | rfl
      · exact cleared other earlier before
      · exact different rfl
    cases next : iterator.next world.registry.runtimes with
    | changed => exact absurd next (next_ne_changed full)
    | exhausted =>
      have sound : OutcomeSound ((world.registry.clear runtime).advanceEnd iterator) :=
        advanceEnd_sound full passed_clear
      refine ⟨1, _, run_cons_eq_some.mpr ⟨_, stepped, rfl⟩, ?_⟩
      have note := sound.note
      unfold Registry.advanceEnd at note ⊢
      rw [show (world.registry.clear runtime).runtimes = world.registry.runtimes from rfl,
        next] at note ⊢
      exact congrArg (· :: world.ends) note
    | yields later after =>
      obtain ⟨_, same, further, there, before⟩ := next_yields next
      have advanced : (world.registry.clear runtime).advanceEnd iterator =
          { operation := some (.endCalls after later),
            registry := world.registry.clear runtime } := by
        unfold Registry.advanceEnd
        rw [show (world.registry.clear runtime).runtimes = world.registry.runtimes from rfl, next]
      rw [advanced] at stepped
      have bounded : after.position - 1 < world.registry.runtimes.length :=
        (List.getElem?_eq_some_iff.mp there).1
      have here_after := takes_task found
        { operation := some (.endCalls after later), registry := world.registry.clear runtime }
      obtain ⟨awaits, last, reached, ended⟩ := ih
        (world.registry.runtimes.length - after.position) (by omega) here_after rfl
        ⟨full.trans same.symm, there, fun other member => passed_clear other (before other member)⟩
        rfl
      exact ⟨awaits + 1, last, run_cons_eq_some.mpr ⟨_, stepped, reached⟩, ended⟩

/-! ## Every run -/

/-- No call is under way and no block is active. -/
structure Initial (world : World) : Prop where
  opened : world.registry.serviceQuiesced = false
  creations : world.registry.activeCreations = 0
  tasks : ∀ task ∈ world.tasks, task = {}
  free : world.held = false
  ends : world.ends = []

theorem Initial.inv (initial : Initial world) : Inv world := by
  refine ⟨?_, ?_, ?_, ?_⟩
  · rw [initial.creations]
    unfold blockCount
    symm
    rw [List.sum_eq_zero_iff_forall_eq_nat]
    intro count member
    obtain ⟨task, there, rfl⟩ := List.mem_map.mp member
    rw [initial.tasks task there]
    rfl
  · intro task there call has
    rw [initial.tasks task there] at has
    cases has
  · rw [initial.free]
    intro no
    cases no
  · rw [initial.ends]
    intro how no
    cases no

theorem Inv.exact (inv : Inv world) : Exact world := by
  refine ⟨?_, inv.ended, ?_⟩
  · intro held
    have quiet := inv.held held
    refine ⟨?_, quiet.runtimes⟩
    have none_ : blockCount world.tasks = 0 := inv.counts ▸ quiet.creations
    intro task there
    have counted :=
      List.sum_eq_zero_iff_forall_eq_nat.mp none_ _ (List.mem_map.mpr ⟨task, there, rfl⟩)
    exact List.eq_nil_of_length_eq_zero counted
  · intro index task iterator runtime found running
    exact end_completes found running (inv.calls task (List.mem_of_getElem? found) _ running)

/-- In every run whose steps meet the condition, the quiesce is exact in every state and no step
between its two calls registers a runtime. -/
theorem quiesce_is_exact {start reached : World} {labels : List Label} (initial : Initial start)
    (spared : Along World.step (fun world label => spares world label = true) start labels)
    (runs : run World.step start labels = some reached) :
    Exact reached ∧ Along World.step RegistersNone start labels := by
  have keep : ∀ world label next, Inv world → spares world label = true →
      World.step world label = some next → Inv next :=
    fun world label next inv spared taken => (step_sound inv spared taken).1
  refine ⟨(run_inv_along keep spared initial.inv runs).exact, ?_⟩
  refine along_of_inv keep ?_ spared initial.inv
  intro world label inv spared held next taken
  exact (step_sound inv spared taken).2 held

/-! ## A runtime is retired while `end_service_quiesce` walks the map -/

def first : SessionRuntime := { id := 0, threadId := "first" }

def second : SessionRuntime := { id := 1, threadId := "second" }

/-- Two runtimes, and two tasks that are idle. -/
def start : World where
  registry := { runtimes := [some first, some second], created := 2 }
  tasks := [{}, {}]

def awaits (count : Nat) : List Label :=
  List.replicate count { task := 0, event := .goes }

/-- The registry is quiesced and opened again by one task. -/
def quiescing : List Label :=
  [{ task := 0, event := .beginQuiesce }] ++ awaits 4 ++ [{ task := 0, event := .endQuiesce }]

theorem quiesce_is_exact_alone :
    ∃ reached, run World.step start (quiescing ++ awaits 2) = some reached ∧
      (Exact reached ∧ Along World.step RegistersNone start (quiescing ++ awaits 2)) :=
  ⟨_, rfl, quiesce_is_exact ⟨rfl, rfl, by decide, rfl, rfl⟩ (by decide) rfl⟩

/-- The other task retires the second runtime before the first one has come back. -/
def retiring : List Label :=
  quiescing ++ [{ task := 1, event := .retire "second" }] ++ awaits 1

theorem retire_during_end_leaves_closed : Initial start ∧
    ∃ reached, run World.step start retiring = some reached ∧
      reached.registry.serviceQuiesced = true ∧ reached.tasks = [{}, {}] ∧ ¬ Exact reached := by
  refine ⟨⟨rfl, rfl, by decide, rfl, rfl⟩, _, rfl, rfl, rfl, ?_⟩
  intro exact_
  have ended := exact_.ended .raised (by decide)
  cases ended

end Copilotd.Guarantees.QuiesceExact
