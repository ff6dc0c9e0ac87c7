import Copilotd.Base.Pool
import Copilotd.Source.Storage.Transactions

/-!
# No transaction outlives its lock

`BEGIN IMMEDIATE` is awaited without a shield and outside the handler that rolls back.  When its
task is cancelled, the lock is left while the statement stays with the thread, and if it succeeds
nobody ends the transaction that it opens.  Every other await of the block is settled before the
lock is left, unless the task that settles a `ROLLBACK` is cancelled itself.
-/
namespace Copilotd.Guarantees.OpenTransactions

open Base Base.Run Source.Storage.Transactions

/-- No transaction is open without the lock, and no `BEGIN IMMEDIATE` meets an open transaction. -/
structure NoLeak (world : World) : Prop where
  unlocked : world.lock = none → world.openTransaction = false
  free : ∀ ticket rest, world.queue = (ticket, .beginImmediate) :: rest →
    world.openTransaction = false

/-- The task that submitted the statement waits for it as its `BEGIN IMMEDIATE`. -/
def awaited (world : World) (ticket : Nat) : Bool :=
  world.lock.any fun task => world.tasks task = .beginning ticket

/-- A `BEGIN IMMEDIATE` that opens a transaction comes back to its task, and a `ROLLBACK` closes the
transaction before the task that carries it out is cancelled. -/
def spares (world : World) : Label → Bool
  | .runs answer openAfter =>
    match world.queue with
    | (ticket, .beginImmediate) :: _ => answer ≠ .done || awaited world ticket
    | (_, .rollback) :: _ => !openAfter
    | _ => true
  | .cancel task =>
    match world.tasks task with
    | .beginning ticket => world.answers ticket ≠ some .done
    | _ => true
  | .cancelOperation task =>
    match world.tasks task with
    | .inBlock (.rollingBack _ _) _ => !world.openTransaction
    | _ => true
  | _ => true

/-! ## The invariant -/

/-- The task is inside the `async with` of the lock. -/
def Holds : Task → Prop
  | .idle | .waiting _ => False
  | .serialized | .beginning _ | .inBlock _ _ => True

/-- Nobody waits for a `BEGIN IMMEDIATE`. -/
def Loose (world : World) (entries : List (Nat × Sql)) : Prop :=
  ∀ entry ∈ entries, entry.2 = .beginImmediate → ∀ task, world.tasks task ≠ .beginning entry.1

/-- No `BEGIN IMMEDIATE`. -/
def Plain (entries : List (Nat × Sql)) : Prop := ∀ entry ∈ entries, entry.2 ≠ .beginImmediate

/-- No transaction is open or asked for. -/
structure Quiet (world : World) : Prop where
  shut : world.openTransaction = false
  loose : Loose world world.queue

/-- The operation under `ticket` is the last of the queue, or has been run. -/
inductive Pending (world : World) (ticket : Nat) (sql : Sql)
    (before : List (Nat × Sql) → Prop) (after : Answer → Prop) : Prop where
  | queued (earlier : List (Nat × Sql)) (queue : world.queue = earlier ++ [(ticket, sql)])
      (rest : before earlier) (answers : world.answers ticket = none)
  | run (answer : Answer) (queue : world.queue = []) (answers : world.answers ticket = some answer)
      (effect : after answer)

/-- What the task that holds the lock answers for. -/
def Phase (world : World) : Task → Prop
  | .idle | .waiting _ => False
  | .serialized => Quiet world
  | .beginning ticket =>
    Pending world ticket .beginImmediate
      (fun earlier => Loose world earlier ∧ world.openTransaction = false)
      (fun answer => answer ≠ .done → world.openTransaction = false)
  | .inBlock .body ticket => ticket = none ∧ Plain world.queue
  | .inBlock (.committing _) none | .inBlock (.rollingBack _ _) none => Plain world.queue
  | .inBlock (.committing _) (some ticket) =>
    Pending world ticket .commit Plain
      (fun answer => answer = .done → world.openTransaction = false)
  | .inBlock (.rollingBack _ _) (some ticket) =>
    Pending world ticket .rollback Plain (fun _ => world.openTransaction = false)
  | .inBlock (.left _) _ => False

/-- The tickets of the queue are distinct, have been given out and have no answer. -/
structure Tickets (world : World) : Prop where
  distinct : (world.queue.map (·.1)).Nodup
  given : ∀ entry ∈ world.queue, entry.1 < world.next
  fresh : ∀ ticket, world.next ≤ ticket → world.answers ticket = none

structure Inv (world : World) : Prop where
  tickets : Tickets world
  exclusive : ∀ task, Holds (world.tasks task) → world.lock = some task
  unlocked : world.lock = none → Quiet world
  phase : ∀ task, world.lock = some task → Phase world (world.tasks task)

theorem inv_start : Inv {} := by
  refine ⟨⟨List.nodup_nil, ?_, fun _ _ => rfl⟩, ?_, ?_, ?_⟩
  · intro entry member
    cases member
  · intro task holds
    cases holds
  · intro _
    refine ⟨rfl, ?_⟩
    intro entry member
    cases member
  · intro task locked
    cases locked

variable {entries : List (Nat × Sql)} {ticket : Nat} {effect : Answer → Prop}
  {earlier : List (Nat × Sql) → Prop}

section Holder

variable {world after : World} {task : Nat} {state : Task}

theorem Quiet.no_begin (quiet : Quiet world) : NoLeak world :=
  ⟨fun _ => quiet.shut, fun _ _ _ => quiet.shut⟩

theorem not_begin_of_plain (plain : Plain entries)
    {rest : List (Nat × Sql)} : entries ≠ (ticket, .beginImmediate) :: rest := by
  rintro rfl
  exact plain _ (List.mem_cons_self ..) rfl

theorem plain_append (plain : Plain entries) (ticket : Nat) (sql : Sql)
    (other : sql ≠ .beginImmediate) : Plain (entries ++ [(ticket, sql)]) := by
  exact Pool.forall_push plain other

theorem Pending.plain {sql : Sql} (pending : Pending world ticket sql Plain effect)
    (other : sql ≠ .beginImmediate) : Plain world.queue := by
  cases pending with
  | queued earlier queue plain answers =>
    rw [queue]
    exact plain_append plain ticket sql other
  | run answer queue answers effect =>
    rw [queue]
    intro entry member
    cases member

theorem Inv.noLeak (inv : Inv world) : NoLeak world := by
  cases locked : world.lock with
  | none => exact (inv.unlocked locked).no_begin
  | some task =>
    refine ⟨fun free => absurd (locked.symm.trans free) nofun, ?_⟩
    intro ticket rest head
    have phase := inv.phase task locked
    cases here : world.tasks task with
    | idle | waiting use =>
      rw [here] at phase
      cases phase
    | serialized =>
      rw [here] at phase
      exact phase.shut
    | beginning own =>
      rw [here] at phase
      cases phase with
      | queued earlier queue rest answers => exact rest.2
      | run answer queue answers effect =>
        rw [queue] at head
        cases head
    | inBlock stage own =>
      rw [here] at phase
      cases stage with
      | body => exact absurd head (not_begin_of_plain phase.2)
      | committing cancellation =>
        cases own with
        | none => exact absurd head (not_begin_of_plain phase)
        | some own => exact absurd head (not_begin_of_plain (Pending.plain phase nofun))
      | rollingBack cause cancellation =>
        cases own with
        | none => exact absurd head (not_begin_of_plain phase)
        | some own => exact absurd head (not_begin_of_plain (Pending.plain phase nofun))
      | left ending => cases phase

/-! ## Tasks and the lock -/

theorem Loose.mono (loose : Loose world entries)
    (fewer : ∀ task ticket, after.tasks task = .beginning ticket →
      world.tasks task = .beginning ticket) : Loose after entries := by
  intro entry member begins task here
  exact loose entry member begins task (fewer task _ here)

theorem begins_become (calm : ∀ ticket, state ≠ .beginning ticket) (other ticket : Nat)
    (here : (world.become task state).tasks other = .beginning ticket) :
    world.tasks other = .beginning ticket := by
  by_cases same : other = task
  · subst same
    simp only [World.become, Function.update_self] at here
    exact absurd here (calm ticket)
  · simpa only [World.become, Function.update_of_ne same] using here

theorem Inv.taken (inv : Inv world) (tickets : Tickets after) (locked : after.lock = some task)
    (tasks : after.tasks = Function.update world.tasks task state)
    (before : ∀ other, world.lock = some other → other = task)
    (phase : Phase after state) : Inv after := by
  have self : after.tasks task = state := by rw [tasks, Function.update_self]
  refine ⟨tickets, ?_, ?_, ?_⟩
  · intro other held
    by_cases same : other = task
    · rw [same, locked]
    · rw [tasks, Function.update_of_ne same] at held
      exact absurd (before other (inv.exclusive other held)) same
  · intro free
    rw [locked] at free
    cases free
  · intro other also
    rw [locked] at also
    cases also
    rw [self]
    exact phase

theorem Inv.freed (inv : Inv world) (held : world.lock = some task) (tickets : Tickets after)
    (free : after.lock = none) (tasks : after.tasks = Function.update world.tasks task .idle)
    (quiet : Quiet after) : Inv after := by
  refine ⟨tickets, ?_, fun _ => quiet, ?_⟩
  · intro other also
    by_cases same : other = task
    · rw [same, tasks, Function.update_self] at also
      cases also
    · rw [tasks, Function.update_of_ne same] at also
      have := inv.exclusive other also
      rw [held] at this
      cases this
      exact absurd rfl same
  · intro other also
    rw [free] at also
    cases also

theorem Pending.mono {sql : Sql} {earlier' : List (Nat × Sql) → Prop}
    {effect' : Answer → Prop} (pending : Pending world ticket sql earlier effect)
    (queue : after.queue = world.queue) (answers : after.answers = world.answers)
    (rest : ∀ entries, earlier entries → earlier' entries)
    (effects : ∀ answer, effect answer → effect' answer) :
    Pending after ticket sql earlier' effect' := by
  cases pending with
  | queued entries here before unanswered =>
    exact .queued entries (queue.trans here) (rest entries before) (answers ▸ unanswered)
  | run answer here answered effect =>
    exact .run answer (queue.trans here) (answers ▸ answered) (effects answer effect)

theorem Phase.mono (phase : Phase world state) (queue : after.queue = world.queue)
    (answers : after.answers = world.answers)
    (shut : after.openTransaction = world.openTransaction)
    (fewer : ∀ task ticket, after.tasks task = .beginning ticket →
      world.tasks task = .beginning ticket) : Phase after state := by
  cases state with
  | idle | waiting use => cases phase
  | serialized =>
    refine ⟨shut.trans phase.shut, ?_⟩
    rw [queue]
    exact phase.loose.mono fewer
  | beginning ticket =>
    refine Pending.mono phase queue answers ?_ ?_
    · intro entries before
      exact ⟨before.1.mono fewer, shut.trans before.2⟩
    · intro answer effect failed
      exact shut.trans (effect failed)
  | inBlock stage ticket =>
    cases stage with
    | body =>
      refine ⟨phase.1, ?_⟩
      rw [queue]
      exact phase.2
    | committing cancellation =>
      cases ticket with
      | none =>
        unfold Phase
        rw [queue]
        exact phase
      | some ticket =>
        refine Pending.mono phase queue answers (fun _ => id) ?_
        intro answer effect done
        exact shut.trans (effect done)
    | rollingBack cause cancellation =>
      cases ticket with
      | none =>
        unfold Phase
        rw [queue]
        exact phase
      | some ticket =>
        refine Pending.mono phase queue answers (fun _ => id) ?_
        intro _ effect
        exact shut.trans effect
    | left ending => cases phase

theorem Inv.outside (inv : Inv world) (out : ¬ Holds (world.tasks task)) (out' : ¬ Holds state) :
    Inv (world.become task state) := by
  have calm : ∀ ticket, state ≠ .beginning ticket := by
    rintro ticket rfl
    exact out' trivial
  have fewer : ∀ other ticket, (world.become task state).tasks other = .beginning ticket →
      world.tasks other = .beginning ticket := begins_become calm
  refine ⟨⟨inv.tickets.distinct, inv.tickets.given, inv.tickets.fresh⟩, ?_, ?_, ?_⟩
  · intro other held
    by_cases same : other = task
    · rw [same] at held
      simp only [World.become, Function.update_self] at held
      exact absurd held out'
    · simp only [World.become, Function.update_of_ne same] at held
      exact inv.exclusive other held
  · intro free
    have quiet := inv.unlocked free
    exact ⟨quiet.shut, quiet.loose.mono fewer⟩
  · intro other locked
    have phase := inv.phase other locked
    have different : other ≠ task := by
      rintro rfl
      refine out ?_
      cases here : world.tasks other with
      | idle | waiting use =>
        rw [here] at phase
        cases phase
      | serialized | beginning ticket | inBlock stage ticket => trivial
    have same : (world.become task state).tasks other = world.tasks other :=
      Function.update_of_ne different ..
    rw [same]
    exact phase.mono rfl rfl rfl fewer

end Holder

/-! ## Statements -/

section Statements

variable {world after : World} {task : Nat}

theorem Tickets.submitted (tickets : Tickets world) (sql : Sql) :
    Tickets (world.submitted sql) := by
  have given : ∀ entry ∈ (world.submitted sql).queue, entry.1 < world.next + 1 := by
    intro entry member
    rcases List.mem_append.mp member with earlier | last
    · exact Nat.lt_succ_of_lt (tickets.given entry earlier)
    · rw [List.mem_singleton.mp last]
      exact Nat.lt_succ_self _
  refine ⟨?_, given, ?_⟩
  · simp only [World.submitted, List.map_append, List.map_cons, List.map_nil]
    refine List.nodup_append.mpr
      ⟨tickets.distinct, List.nodup_cons.mpr ⟨List.not_mem_nil, List.nodup_nil⟩, ?_⟩
    intro ticket earlier other last same
    obtain ⟨entry, member, rfl⟩ := List.mem_map.mp earlier
    rw [List.mem_singleton.mp last] at same
    exact absurd same (Nat.ne_of_lt (tickets.given entry member))
  · intro ticket late
    exact tickets.fresh ticket (Nat.le_of_succ_le late)

theorem Tickets.ran {sql : Sql} {rest : List (Nat × Sql)} {answer : Answer}
    (tickets : Tickets world) (head : world.queue = (ticket, sql) :: rest)
    (queue : after.queue = rest) (next : after.next = world.next)
    (answers : after.answers = Function.update world.answers ticket (some answer)) :
    Tickets after := by
  have distinct := tickets.distinct
  rw [head, List.map_cons, List.nodup_cons] at distinct
  refine ⟨?_, ?_, ?_⟩
  · rw [queue]
    exact distinct.2
  · intro entry member
    rw [queue] at member
    rw [next]
    exact tickets.given entry (head ▸ List.mem_cons_of_mem _ member)
  · intro other late
    rw [next] at late
    have own := tickets.given (ticket, sql) (head ▸ List.mem_cons_self ..)
    rw [answers, Function.update_of_ne (Nat.ne_of_gt (Nat.lt_of_lt_of_le own late))]
    exact tickets.fresh other late

theorem Inv.plain (inv : Inv world)
    (here : world.tasks task = .serialized ∨ world.tasks task = .inBlock .body none) :
    Inv (world.submitted .plain) := by
  have held : world.lock = some task := by
    refine inv.exclusive task ?_
    rcases here with here | here
    all_goals
      rw [here]
      trivial
  have phase := inv.phase task held
  have tasks : world.tasks = Function.update world.tasks task (world.tasks task) :=
    (Function.update_eq_self ..).symm
  refine inv.taken (inv.tickets.submitted _) held tasks ?_ ?_
  · intro other also
    rw [held] at also
    cases also
    rfl
  · rcases here with here | here
    · rw [here] at phase ⊢
      refine ⟨phase.shut, ?_⟩
      exact Pool.forall_push phase.loose nofun
    · rw [here] at phase ⊢
      exact ⟨rfl, plain_append phase.2 world.next .plain nofun⟩

/-- One statement has been run. -/
structure Ran (world : World) (first : Nat) (sql : Sql) (answer : Answer) (after : World) :
    Prop where
  head : ∃ rest, world.queue = (first, sql) :: rest ∧ after.queue = rest
  answers : after.answers = Function.update world.answers first (some answer)
  admits : sql.admits world.openTransaction answer after.openTransaction = true
  tasks : after.tasks = world.tasks

variable {first : Nat} {sql : Sql} {answer : Answer}

theorem Pending.ran {own : Sql} {earlier' : List (Nat × Sql) → Prop}
    {effect' : Answer → Prop} (pending : Pending world ticket own earlier effect)
    (tickets : Tickets world) (ran : Ran world first sql answer after)
    (shift : ∀ entries, earlier ((first, sql) :: entries) → earlier' entries)
    (last : earlier [] → sql = own → effect' answer) :
    Pending after ticket own earlier' effect' := by
  obtain ⟨rest, head, left⟩ := ran.head
  cases pending with
  | queued entries queue before unanswered =>
    cases entries with
    | nil =>
      rw [head] at queue
      cases queue
      refine .run answer left ?_ (last before rfl)
      rw [ran.answers, Function.update_self]
    | cons entry entries =>
      have distinct := tickets.distinct
      rw [queue, List.cons_append, List.map_cons, List.nodup_cons] at distinct
      rw [head] at queue
      cases queue
      refine .queued entries left (shift entries before) ?_
      rw [ran.answers, Function.update_of_ne, unanswered]
      rintro rfl
      refine distinct.1 ?_
      rw [List.map_append]
      exact List.mem_concat_self
  | run other queue answered effect =>
    rw [queue] at head
    cases head

theorem stays_shut (shut : world.openTransaction = false) (ran : Ran world first sql answer after)
    (loose : Loose world [(first, sql)])
    (spared : sql = .beginImmediate → answer = .done → awaited world first = true) :
    after.openTransaction = false := by
  have admits := ran.admits
  rw [shut] at admits
  have orphaned := loose _ (List.mem_singleton_self _)
  cases sql with
  | beginImmediate =>
    cases answer with
    | done =>
      have waits := spared rfl rfl
      obtain ⟨task, _, here⟩ := Option.any_eq_true _ _ |>.mp waits
      exact absurd (of_decide_eq_true here) (orphaned rfl task)
    | failed error => simpa [Sql.admits] using admits
  | commit | rollback => cases answer <;> simpa [Sql.admits] using admits
  | plain => simpa [Sql.admits] using admits

theorem Loose.ran (loose : Loose world entries)
    (tasks : after.tasks = world.tasks) : Loose after entries :=
  loose.mono fun _ _ here => tasks ▸ here

theorem Plain.rest {entry : Nat × Sql} (plain : Plain (entry :: entries)) : Plain entries :=
  fun other member => plain other (List.mem_cons_of_mem _ member)

theorem Quiet.ran (quiet : Quiet world) (ran : Ran world first sql answer after)
    (spared : sql = .beginImmediate → answer = .done → awaited world first = true) :
    Quiet after := by
  obtain ⟨rest, head, left⟩ := ran.head
  have loose := quiet.loose
  rw [head] at loose
  refine ⟨stays_shut quiet.shut ran ?_ spared, ?_⟩
  · intro entry member
    rw [List.mem_singleton.mp member]
    exact loose _ (List.mem_cons_self ..)
  · rw [left]
    exact Loose.ran (fun entry member => loose entry (List.mem_cons_of_mem _ member)) ran.tasks

theorem Plain.ran (plain : Plain world.queue) (ran : Ran world first sql answer after) :
    Plain after.queue := by
  obtain ⟨rest, head, left⟩ := ran.head
  rw [head] at plain
  rw [left]
  exact plain.rest

theorem Phase.ran {state : Task} (phase : Phase world state) (tickets : Tickets world)
    (ran : Ran world first sql answer after)
    (begins : sql = .beginImmediate → answer = .done → awaited world first = true)
    (rollsBack : sql = .rollback → after.openTransaction = false) : Phase after state := by
  have admits := ran.admits
  cases state with
  | idle | waiting use => cases phase
  | serialized => exact Quiet.ran phase ran begins
  | beginning ticket =>
    refine Pending.ran phase tickets ran ?_ ?_
    · intro entries before
      refine ⟨Loose.ran (fun entry member => before.1 entry (List.mem_cons_of_mem _ member))
        ran.tasks, stays_shut before.2 ran ?_ begins⟩
      intro entry member
      rw [List.mem_singleton.mp member]
      exact before.1 _ (List.mem_cons_self ..)
    · intro before is failed
      rw [is, before.2] at admits
      cases answer with
      | done => exact absurd rfl failed
      | failed error => simpa [Sql.admits] using admits
  | inBlock stage ticket =>
    cases stage with
    | body => exact ⟨phase.1, phase.2.ran ran⟩
    | committing cancellation =>
      cases ticket with
      | none => exact Plain.ran phase ran
      | some ticket =>
        refine Pending.ran phase tickets ran (fun _ before => before.rest) ?_
        intro _ is done
        rw [is, done] at admits
        simpa [Sql.admits] using admits
    | rollingBack cause cancellation =>
      cases ticket with
      | none => exact Plain.ran phase ran
      | some ticket =>
        exact Pending.ran phase tickets ran (fun _ before => before.rest) fun _ is => rollsBack is
    | left ending => cases phase

end Statements

/-! ## One step -/

section Step

variable {world after : World} {task : Nat} {state : Task}

theorem Inv.only (inv : Inv world) (held : Holds (world.tasks task)) :
    ∀ other, world.lock = some other → other = task := by
  intro other also
  rw [inv.exclusive task held] at also
  cases also
  rfl

theorem Inv.goes (inv : Inv world) (held : Holds (world.tasks task))
    (phase : Phase (world.become task state) state) : Inv (world.become task state) :=
  inv.taken ⟨inv.tickets.distinct, inv.tickets.given, inv.tickets.fresh⟩ (inv.exclusive task held)
    rfl (inv.only held) phase

theorem Inv.leaves (inv : Inv world) (held : Holds (world.tasks task))
    (shut : world.openTransaction = false)
    (loose : Loose (world.become task .idle) world.queue) :
    Inv (world.released task) ∧ Inv (world.ended task) := by
  have locked := inv.exclusive task held
  have tickets := inv.tickets
  exact ⟨inv.freed locked ⟨tickets.distinct, tickets.given, tickets.fresh⟩ rfl rfl ⟨shut, loose⟩,
    inv.freed locked ⟨tickets.distinct, tickets.given, tickets.fresh⟩ rfl rfl ⟨shut, loose⟩⟩

theorem loose_nil (empty : entries = []) : Loose world entries := by
  rw [empty]
  intro entry member
  cases member

theorem plain_nil (empty : entries = []) : Plain entries := by
  rw [empty]
  intro entry member
  cases member

theorem Pending.answered {sql : Sql}
    {answer : Answer} (pending : Pending world ticket sql earlier effect)
    (here : world.answers ticket = some answer) : world.queue = [] ∧ effect answer := by
  cases pending with
  | queued entries queue before unanswered =>
    rw [here] at unanswered
    cases unanswered
  | run other queue answered effect =>
    rw [here] at answered
    cases answered
    exact ⟨queue, effect⟩

section

variable (inv : Inv world)
include inv

theorem Inv.at (here : world.tasks task = state) (held : Holds state) :
    Holds (world.tasks task) ∧ Phase world state := by
  have inside : Holds (world.tasks task) := by
    rw [here]
    exact held
  refine ⟨inside, ?_⟩
  rw [← here]
  exact inv.phase task (inv.exclusive task inside)

theorem Inv.acquire (taken : world.step (.acquire task) = some after) :
    Inv after := by
  unfold World.step at taken
  dsimp only at taken
  split at taken
  · rename_i here free
    cases taken
    have quiet := inv.unlocked free
    have unheld : ∀ other, world.lock = some other → other = task := by
      intro other locked
      rw [free] at locked
      cases locked
    have tickets := inv.tickets.submitted .beginImmediate
    refine inv.taken ⟨tickets.distinct, tickets.given, tickets.fresh⟩ rfl rfl unheld ?_
    refine .queued world.queue rfl ⟨?_, quiet.shut⟩ (inv.tickets.fresh _ (Nat.le_refl _))
    intro entry member begins other waits
    by_cases same : other = task
    · subst same
      simp only [World.become, Function.update_self, Task.beginning.injEq] at waits
      exact absurd waits.symm (Nat.ne_of_lt (inv.tickets.given entry member))
    · simp only [World.become, Function.update_of_ne same] at waits
      exact quiet.loose entry member begins other waits
  · rename_i here free
    cases taken
    have quiet := inv.unlocked free
    have unheld : ∀ other, world.lock = some other → other = task := by
      intro other locked
      rw [free] at locked
      cases locked
    have tickets := inv.tickets
    refine inv.taken ⟨tickets.distinct, tickets.given, tickets.fresh⟩ rfl rfl unheld ?_
    exact ⟨quiet.shut, quiet.loose.mono (begins_become nofun)⟩
  · cases taken

theorem Inv.runs {answer : Answer} {openAfter : Bool}
    (spared : spares world (.runs answer openAfter) = true)
    (taken : world.step (.runs answer openAfter) = some after) : Inv after := by
  unfold World.step at taken
  dsimp only at taken
  split at taken
  · cases taken
  · rename_i first sql rest head
    obtain ⟨admits, same⟩ := Option.ite_none_right_eq_some.mp taken
    cases same
    have ran : Ran world first sql answer
        { world with
          queue := rest
          openTransaction := openAfter
          answers := Function.update world.answers first (some answer) } :=
      ⟨⟨rest, head, rfl⟩, rfl, admits, rfl⟩
    unfold spares at spared
    simp only [head] at spared
    have begins : sql = .beginImmediate → answer = .done → awaited world first = true := by
      rintro rfl rfl
      simpa using spared
    have rollsBack : sql = .rollback → openAfter = false := by
      rintro rfl
      simpa using spared
    refine ⟨inv.tickets.ran head rfl rfl rfl, inv.exclusive, ?_, ?_⟩
    · intro free
      exact (inv.unlocked free).ran ran begins
    · intro other locked
      exact (inv.phase other locked).ran inv.tickets ran begins rollsBack

theorem Inv.begun (taken : world.step (.begun task) = some after) :
    Inv after := by
  unfold World.step at taken
  dsimp only at taken
  split at taken
  · rename_i ticket here
    obtain ⟨held, phase⟩ := inv.at here trivial
    split at taken
    · rename_i answered
      cases taken
      exact inv.goes held ⟨rfl, plain_nil (Pending.answered phase answered).1⟩
    · rename_i error answered
      cases taken
      obtain ⟨empty, effect⟩ := Pending.answered phase answered
      exact (inv.leaves held (effect nofun) (loose_nil empty)).2
    · cases taken
  · cases taken

theorem Inv.bodyEnds {ending : Option Source.Core.VolatileContent.Error}
    (taken : world.step (.bodyEnds task ending) = some after) : Inv after := by
  unfold World.step at taken
  dsimp only at taken
  split at taken
  · rename_i here
    obtain ⟨held, _, plain⟩ := inv.at here trivial
    cases ending with
    | none =>
      cases taken
      exact inv.goes held plain
    | some error =>
      cases taken
      exact inv.goes held plain
  · cases taken

theorem Inv.operates (taken : world.step (.operates task) = some after) :
    Inv after := by
  unfold World.step at taken
  dsimp only at taken
  split at taken
  · rename_i stage here
    obtain ⟨held, phase⟩ := inv.at here trivial
    have locked := inv.exclusive task held
    have unanswered := inv.tickets.fresh _ (Nat.le_refl _)
    cases stage with
    | body | left ending => cases taken
    | committing cancellation =>
      cases taken
      have tickets := inv.tickets.submitted .commit
      exact inv.taken ⟨tickets.distinct, tickets.given, tickets.fresh⟩ locked rfl (inv.only held)
        (.queued world.queue rfl phase unanswered)
    | rollingBack cause cancellation =>
      cases taken
      have tickets := inv.tickets.submitted .rollback
      exact inv.taken ⟨tickets.distinct, tickets.given, tickets.fresh⟩ locked rfl (inv.only held)
        (.queued world.queue rfl phase unanswered)
  · cases taken

theorem Inv.settled (taken : world.step (.settled task) = some after) :
    Inv after := by
  unfold World.step at taken
  dsimp only at taken
  split at taken
  · rename_i stage ticket here
    obtain ⟨held, phase⟩ := inv.at here trivial
    obtain ⟨answer, answered, moved⟩ := Option.bind_eq_some_iff.mp taken
    obtain ⟨stage', next, rfl⟩ := Option.map_eq_some_iff.mp moved
    cases stage with
    | body | left ending => cases next
    | committing cancellation =>
      obtain ⟨empty, effect⟩ := Pending.answered phase answered
      cases answer with
      | done =>
        cases next
        exact (inv.leaves held (effect rfl) (loose_nil empty)).2
      | failed error =>
        cases next
        exact inv.goes held (plain_nil empty)
    | rollingBack cause cancellation =>
      obtain ⟨empty, shut⟩ := Pending.answered phase answered
      cases answer with
      | done | failed error =>
        cases next
        exact (inv.leaves held shut (loose_nil empty)).2
  · cases taken

theorem Inv.cancel (spared : spares world (.cancel task) = true)
    (taken : world.step (.cancel task) = some after) : Inv after := by
  unfold World.step at taken
  dsimp only at taken
  split at taken
  · cases taken
  · rename_i use here
    cases taken
    refine inv.outside ?_ id
    rw [here]
    exact id
  · rename_i here
    cases taken
    obtain ⟨held, phase⟩ := inv.at here trivial
    exact (inv.leaves held phase.shut (phase.loose.mono (begins_become nofun))).1
  · rename_i ticket here
    cases taken
    obtain ⟨held, phase⟩ := inv.at here trivial
    cases phase with
    | queued earlier queue before unanswered =>
      have kept : Loose (world.become task .idle) earlier := before.1.mono (begins_become nofun)
      refine (inv.leaves held before.2 ?_).2
      rw [queue]
      refine Pool.forall_push kept ?_
      intro _ other waits
      by_cases same : other = task
      · subst same
        simp only [World.become, Function.update_self] at waits
        cases waits
      · simp only [World.become, Function.update_of_ne same] at waits
        have also : Holds (world.tasks other) := by
          rw [waits]
          trivial
        exact same (inv.only held other (inv.exclusive other also))
    | run answer queue answered effect =>
      unfold spares at spared
      simp only [here, answered, ne_eq, Option.some.injEq, decide_not, Bool.not_eq_true',
        decide_eq_false_iff_not] at spared
      exact (inv.leaves held (effect spared) (loose_nil queue)).2
  · cases taken
    exact inv
  · rename_i stage ticket other here
    obtain ⟨held, phase⟩ := inv.at here trivial
    obtain ⟨stage', next, rfl⟩ := Option.map_eq_some_iff.mp taken
    cases stage with
    | body | left ending => cases next
    | committing cancellation | rollingBack cause cancellation =>
      cases next
      cases ticket with
      | none => exact inv.goes held phase
      | some ticket => exact inv.goes held (Pending.mono phase rfl rfl (fun _ => id) fun _ => id)

theorem Inv.cancelOperation (spared : spares world (.cancelOperation task) = true)
    (taken : world.step (.cancelOperation task) = some after) : Inv after := by
  unfold World.step at taken
  dsimp only at taken
  split at taken
  · rename_i cancellation ticket here
    cases taken
    obtain ⟨held, phase⟩ := inv.at here trivial
    cases ticket with
    | none => exact inv.goes held phase
    | some ticket =>
      have plain : Plain world.queue := Pending.plain phase nofun
      exact inv.goes held plain
  · rename_i cause cancellation ticket here
    cases taken
    obtain ⟨held, phase⟩ := inv.at here trivial
    unfold spares at spared
    simp only [here, Bool.not_eq_true'] at spared
    have plain : Plain world.queue := by
      cases ticket with
      | none => exact phase
      | some ticket => exact Pending.plain phase nofun
    exact (inv.leaves held spared fun entry member begins => absurd begins (plain entry member)).2
  · cases taken

theorem step_inv {label : Label} (spared : spares world label = true)
    (taken : world.step label = some after) : Inv after := by
  cases label with
  | call task use =>
    unfold World.step at taken
    dsimp only at taken
    split at taken
    · rename_i here
      cases taken
      refine inv.outside ?_ id
      rw [here]
      exact id
    · rename_i here
      obtain ⟨_, same⟩ := Option.ite_none_right_eq_some.mp taken
      cases same
      exact inv.plain (.inr here)
    · cases taken
  | acquire task => exact inv.acquire taken
  | submit task =>
    unfold World.step at taken
    dsimp only at taken
    split at taken
    · rename_i here
      cases taken
      exact inv.plain (.inl here)
    · rename_i here
      cases taken
      exact inv.plain (.inr here)
    · cases taken
  | leave task =>
    unfold World.step at taken
    dsimp only at taken
    split at taken
    · rename_i here
      cases taken
      obtain ⟨held, phase⟩ := inv.at here trivial
      exact (inv.leaves held phase.shut (phase.loose.mono (begins_become nofun))).1
    · cases taken
  | runs answer openAfter => exact inv.runs spared taken
  | begun task => exact inv.begun taken
  | bodyEnds task ending => exact inv.bodyEnds taken
  | operates task => exact inv.operates taken
  | settled task => exact inv.settled taken
  | cancel task => exact inv.cancel spared taken
  | cancelOperation task => exact inv.cancelOperation spared taken

end

end Step

/-- In every run whose steps meet the condition, no state has leaked a transaction. -/
theorem no_open_transaction {labels : List Label} {world : World}
    (spared : Along World.step (fun world label => spares world label = true) {} labels)
    (runs : run World.step {} labels = some world) : NoLeak world := by
  have keep : ∀ world label after, Inv world → spares world label = true →
      World.step world label = some after → Inv after :=
    fun _ _ _ inv spared taken => step_inv inv spared taken
  exact (run_inv_along keep spared inv_start runs).noLeak

/-! ## A task is cancelled at its commit, another at its `BEGIN IMMEDIATE` -/

/-- The commit of the first task is cancelled; the second task waits for the lock meanwhile. -/
def cancelledCommit : List Label :=
  [.call 0 .transaction, .acquire 0, .call 1 .transaction, .runs .done true, .begun 0, .submit 0,
    .bodyEnds 0 none, .cancel 0, .operates 0, .runs .done true, .cancel 0, .runs .done false,
    .settled 0, .acquire 1]

theorem no_open_transaction_cancelled_commit :
    ∃ world, run World.step {} cancelledCommit = some world ∧ world.lock = some 1 ∧
      NoLeak world :=
  ⟨_, rfl, rfl, @no_open_transaction cancelledCommit _ (by decide) rfl⟩

/-- The `BEGIN IMMEDIATE` of a cancelled task opens a transaction, and that of the next one meets
it. -/
def cancelledBegin : List Label :=
  [.call 0 .transaction, .acquire 0, .cancel 0, .runs .done true]

theorem cancelled_begin_leaks :
    (∃ world, run World.step {} cancelledBegin = some world ∧ world.lock = none ∧
      world.openTransaction = true) ∧
      ∃ world, run World.step {} (cancelledBegin ++ [.call 1 .transaction, .acquire 1]) =
          some world ∧ ¬ NoLeak world ∧
        ∀ openAfter, world.step (.runs .done openAfter) = none := by
  refine ⟨⟨_, rfl, rfl, rfl⟩, _, rfl, ?_, ?_⟩
  · intro safe
    cases safe.free 1 [] rfl
  · decide

end Copilotd.Guarantees.OpenTransactions
