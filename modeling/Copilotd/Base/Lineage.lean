import Copilotd.Base.UndoLog

/-!
# Lineages of a shared map

Several parties write one map and undo logs, which they may share.  A trace follows, beside
the values, the writes that the value of each key builds on: a write puts itself on top, and
undoing a log goes back to the lineage that was logged.  A write that undoing brings back has
been in force since then only.
-/
namespace Copilotd.Base.Lineage

variable {κ β : Type*}

/-- A write in force; `block` is the outermost block in which the party made it. -/
structure Mark (β : Type*) where
  party : Nat
  block : Option Nat
  value : β
  made : Nat
  since : Nat

/-- What a log holds for a key: the lineage, and when it was logged. -/
structure Record (β : Type*) where
  loggedAt : Nat
  lineage : List (Mark β)

structure Trace (κ β : Type*) where
  clock : Nat
  lineage : κ → List (Mark β)
  /-- The logs, by their ids. -/
  log : Nat → κ → Option (Record β)
  /-- The outermost block in which each party is. -/
  block : Nat → Option Nat
  completed : List Nat

def fresh : Trace κ β :=
  { clock := 0, lineage := fun _ => [], log := fun _ _ => none, block := fun _ => none,
    completed := [] }

/-- The value that a lineage gives a key. -/
def value (initial : β) : List (Mark β) → β
  | [] => initial
  | mark :: _ => mark.value

/-! ## Steps -/

/-- The keys of `update` are written, and logged in the innermost log of the party. -/
def Trace.write (trace : Trace κ β) (party : Nat) (inner : Option Nat) (update : κ → Option β) :
    Trace κ β :=
  { trace with
    clock := trace.clock + 1
    lineage := fun key => match update key with
      | none => trace.lineage key
      | some value =>
        { party, block := trace.block party, value, made := trace.clock, since := trace.clock } ::
          trace.lineage key
    log := match inner with
      | none => trace.log
      | some id => Function.update trace.log id fun key =>
          (trace.log id key).or ((update key).map fun _ => ⟨trace.clock, trace.lineage key⟩) }

/-- A block begins with an empty log. -/
def Trace.enter (trace : Trace κ β) (party id : Nat) (outermost : Bool) : Trace κ β :=
  { trace with
    clock := trace.clock + 1
    block := if outermost then Function.update trace.block party (some trace.clock)
      else trace.block
    log := Function.update trace.log id fun _ => none }

/-- The block ends and its writes stay. -/
def Trace.commit (trace : Trace κ β) (party id : Nat) (parent : Option Nat) (outermost : Bool) :
    Trace κ β :=
  { trace with
    log := match parent with
      | none => trace.log
      | some outer =>
        Function.update trace.log outer (UndoLog.merge (trace.log outer) (trace.log id))
    block := if outermost then Function.update trace.block party none else trace.block
    completed :=
      if outermost then (trace.block party).toList ++ trace.completed else trace.completed }

/-- The marks of a logged lineage; one that is not in force at present comes into force now. -/
def reinstate (now : Nat) (present logged : List (Mark β)) : List (Mark β) :=
  logged.map fun mark =>
    { mark with
      since := ((present.find? fun other => other.made = mark.made).map (·.since)).getD now }

/-- The block ends and its log is undone. -/
def Trace.rollback (trace : Trace κ β) (party id : Nat) (outermost : Bool) : Trace κ β :=
  { trace with
    clock := trace.clock + 1
    lineage := fun key => match trace.log id key with
      | none => trace.lineage key
      | some logged => reinstate trace.clock (trace.lineage key) logged.lineage
    block := if outermost then Function.update trace.block party none else trace.block }

/-! ## What the logs know -/

variable {trace : Trace κ β} {party id : Nat}

theorem value_reinstate (initial : β) (now : Nat) (present logged : List (Mark β)) :
    value initial (reinstate now present logged) = value initial logged := by
  cases logged with
  | nil => rfl
  | cons mark rest => rfl

theorem mem_reinstate {now : Nat} {present logged : List (Mark β)} {mark : Mark β}
    (member : mark ∈ reinstate now present logged) :
    mark.since = now ∨ ∃ other ∈ present, other.made = mark.made ∧ other.since = mark.since := by
  obtain ⟨origin, _, rfl⟩ := List.mem_map.mp member
  cases found : present.find? fun other => decide (other.made = origin.made) with
  | none => exact .inl rfl
  | some other =>
    have same : other.made = origin.made := by simpa using List.find?_some found
    exact .inr ⟨other, List.mem_of_find?_eq_some found, same, rfl⟩

/-- A record knows every mark that has been in force since before it was logged. -/
def Knows (trace : Trace κ β) (key : κ) (logged : Record β) : Prop :=
  logged.loggedAt ≤ trace.clock ∧
    ∀ mark ∈ trace.lineage key, mark.since < logged.loggedAt →
      mark.made ∈ logged.lineage.map (·.made)

def Faithful (trace : Trace κ β) : Prop :=
  ∀ id key logged, trace.log id key = some logged → Knows trace key logged

theorem Knows.write {key : κ} {logged : Record β} (knows : Knows trace key logged)
    (inner : Option Nat) (update : κ → Option β) :
    Knows (trace.write party inner update) key logged := by
  refine ⟨Nat.le_succ_of_le knows.1, ?_⟩
  intro mark member older
  unfold Trace.write at member
  dsimp only at member
  split at member
  · exact knows.2 mark member older
  · rcases List.mem_cons.mp member with rfl | before
    · exact absurd older (Nat.not_lt.mpr knows.1)
    · exact knows.2 mark before older

theorem Faithful.step {after : Trace κ β} {log : κ → Option (Record β)}
    (faithful : Faithful trace)
    (keep : ∀ key logged, Knows trace key logged → Knows after key logged)
    (others : after.log = Function.update trace.log id log)
    (own : ∀ key logged, log key = some logged → Knows after key logged) :
    Faithful after := by
  intro other key logged found
  rw [others] at found
  by_cases same : other = id
  · subst same
    rw [Function.update_self] at found
    exact own key logged found
  · rw [Function.update_of_ne same] at found
    exact keep key logged (faithful other key logged found)

theorem Faithful.write (faithful : Faithful trace) (inner : Option Nat) (update : κ → Option β) :
    Faithful (trace.write party inner update) := by
  have keep : ∀ key logged, Knows trace key logged →
      Knows (trace.write party inner update) key logged := fun _ _ knows => knows.write inner update
  cases inner with
  | none => exact fun other key logged found => keep key logged (faithful other key logged found)
  | some id =>
    refine faithful.step keep rfl ?_
    intro key logged found
    rcases Option.or_eq_some_iff.mp found with old | ⟨_, new⟩
    · exact keep key logged (faithful id key logged old)
    · obtain ⟨_, written, rfl⟩ := Option.map_eq_some_iff.mp new
      refine ⟨Nat.le_succ _, ?_⟩
      intro mark inForce older
      unfold Trace.write at inForce
      dsimp only at inForce
      rw [written] at inForce
      rcases List.mem_cons.mp inForce with rfl | previous
      · exact absurd older (Nat.lt_irrefl _)
      · exact List.mem_map_of_mem previous

theorem Faithful.enter (faithful : Faithful trace) (outermost : Bool) :
    Faithful (trace.enter party id outermost) :=
  faithful.step (fun _ _ knows => ⟨Nat.le_succ_of_le knows.1, knows.2⟩) rfl nofun

theorem Faithful.commit (faithful : Faithful trace) (parent : Option Nat) (outermost : Bool) :
    Faithful (trace.commit party id parent outermost) := by
  cases parent with
  | none => exact faithful
  | some outer =>
    refine faithful.step (fun _ _ knows => knows) rfl ?_
    intro key logged found
    rcases Option.or_eq_some_iff.mp found with first | ⟨_, second⟩
    · exact faithful outer key logged first
    · exact faithful id key logged second

theorem Knows.rollback {key : κ} {logged : Record β} (knows : Knows trace key logged)
    (outermost : Bool) : Knows (trace.rollback party id outermost) key logged := by
  refine ⟨Nat.le_succ_of_le knows.1, ?_⟩
  intro mark member older
  unfold Trace.rollback at member
  dsimp only at member
  split at member
  · exact knows.2 mark member older
  · rcases mem_reinstate member with now | ⟨other, present, made, since⟩
    · rw [now] at older
      exact absurd older (Nat.not_lt.mpr knows.1)
    · rw [← made]
      rw [← since] at older
      exact knows.2 other present older

theorem Faithful.rollback (faithful : Faithful trace) (outermost : Bool) :
    Faithful (trace.rollback party id outermost) :=
  fun other key logged found => (faithful other key logged found).rollback outermost

/-! ## Undoing a log beside other parties -/

/-- The mark is of a block that has completed. -/
def Trace.Completed (trace : Trace κ β) (mark : Mark β) : Prop :=
  ∃ block ∈ trace.completed, mark.block = some block

instance (trace : Trace κ β) (mark : Mark β) : Decidable (trace.Completed mark) :=
  inferInstanceAs (Decidable (∃ block ∈ trace.completed, mark.block = some block))

/-- Since the key was logged, no write to it of another party's completed block has come into
force. -/
def Trace.Undisturbed (trace : Trace κ β) (party id : Nat) (key : κ) : Prop :=
  ∀ logged ∈ (trace.log id key).toList, ∀ mark ∈ trace.lineage key, mark.party ≠ party →
    trace.Completed mark → mark.since < logged.loggedAt

instance (trace : Trace κ β) (party id : Nat) (key : κ) :
    Decidable (trace.Undisturbed party id key) := by
  unfold Trace.Undisturbed
  infer_instance

end Copilotd.Base.Lineage
