import Copilotd.Source.Core.UsageSampling

/-!
# Usage samples and the journal

Duplicates are stopped by the journal, so what a session's samples depend on is the journal
alone.  Two branches insert for `assistant.usage`, and one for the other usage types: the
samples outnumber the usage events by the `assistant.usage` events among them.
-/
namespace Copilotd.Guarantees.UsageSamples

open Base Base.Run Source.Core.UsageSampling

variable {Real : Type} {python : Conversions Real} {event : AdaptedEvent Real} {db after : Db Real}
  {samples rows : List (UsageSample Real)} {sessionId : String}

/-- The event has a payload that the reducer samples. -/
def carriesUsage (event : AdaptedEvent Real) : Bool :=
  event.rawType ∈ usageTypes ∧ event.data.isSome

def isOf (sessionId : String) (event : AdaptedEvent Real) : Bool := event.sdkSessionId = sessionId

def samplesOf (sessionId : String) (db : Db Real) : List (UsageSample Real) :=
  db.samples.filter fun sample => sample.sessionId = sessionId

/-- The row with the values of an event. -/
def sampleOf (python : Conversions Real) (event : AdaptedEvent Real) : Option (UsageSample Real) :=
  if event.rawType ∈ usageTypes then event.data.map (usageSample python event) else none

/-- Each journaled usage event of the session has one sample, with its values. -/
def RecordedOnce (python : Conversions Real) (sessionId : String) (db : Db Real) : Prop :=
  samplesOf sessionId db = (db.journal.filter (isOf sessionId)).filterMap (sampleOf python)

/-- The events that a journal accepts: owned ones, each only the first time. -/
def accepted : List (AdaptedEvent Real) → List (Delivery Real) → List (AdaptedEvent Real)
  | journal, [] => journal
  | journal, delivery :: rest =>
    if delivery.owned ∧ journal.any (conflicts delivery.event) = false then
      accepted (journal ++ [delivery.event]) rest
    else accepted journal rest

theorem accepted_append (journal : List (AdaptedEvent Real)) (first second : List (Delivery Real)) :
    accepted journal (first ++ second) = accepted (accepted journal first) second := by
  induction first generalizing journal with
  | nil => rfl
  | cons delivery rest ih =>
    simp only [List.cons_append, accepted]
    split
    · exact ih _
    · exact ih _

/-! ## One event -/

/-- The rows that an event inserts. -/
def sampled (python : Conversions Real) (event : AdaptedEvent Real) : List (UsageSample Real) :=
  (sampleOf python event).toList ++
    if event.rawType = "assistant.usage" then
      (event.data.bind fun data =>
        (observedAt python event data).map (assistantUsageSample event data)).toList
    else []

/-- The second branch does not raise for the event. -/
def Readable (python : Conversions Real) (event : AdaptedEvent Real) : Prop :=
  event.rawType ∈ projectedTypes → ∀ data, event.data = some data →
    (observedAt python event data).isSome

theorem applyDomainState_spec (applied : applyDomainState python event samples = some rows) :
    rows = samples ++ sampled python event ∧ Readable python event := by
  unfold applyDomainState at applied
  unfold sampled sampleOf Readable
  cases payload : event.data with
  | none =>
    rw [payload] at applied
    cases applied
    simp
  | some data =>
    rw [payload] at applied
    dsimp only at applied
    by_cases projected : event.rawType ∈ projectedTypes
    · rw [if_pos projected, Option.map_eq_some_iff] at applied
      obtain ⟨at_, read, inserted⟩ := applied
      subst inserted
      constructor
      · by_cases usage : event.rawType ∈ usageTypes
        · rw [if_pos usage, if_pos usage, Option.map_some, Option.toList_some]
          by_cases assistant : event.rawType = "assistant.usage"
          · simp [assistant, read]
          · simp [assistant]
        · have other : event.rawType ≠ "assistant.usage" := by
            intro same
            apply usage
            rw [same]
            decide
          simp [usage, other]
      · intro _ other same
        cases same
        rw [read]
        rfl
    · rw [if_neg projected] at applied
      cases applied
      have other : event.rawType ≠ "assistant.usage" := by
        intro same
        apply projected
        rw [same]
        decide
      constructor
      · by_cases usage : event.rawType ∈ usageTypes
        · simp [usage, other]
        · simp [usage, other]
      · exact fun member => absurd member projected

theorem sessionId_of_sampled {sample : UsageSample Real} (member : sample ∈ sampled python event) :
    sample.sessionId = event.sdkSessionId := by
  unfold sampled sampleOf at member
  rcases List.mem_append.mp member with first | second
  · split at first
    · rw [Option.mem_toList, Option.map_eq_some_iff] at first
      obtain ⟨data, _, rfl⟩ := first
      rfl
    · cases first
  · split at second
    · rw [Option.mem_toList, Option.bind_eq_some_iff] at second
      obtain ⟨data, _, inserted⟩ := second
      obtain ⟨_, _, rfl⟩ := Option.map_eq_some_iff.mp inserted
      rfl
    · cases second

theorem sampled_of_other (other : carriesUsage event = true → event.rawType ≠ "assistant.usage") :
    sampled python event = (sampleOf python event).toList := by
  unfold sampled
  split
  · next assistant =>
    have bare : event.data = none := by
      cases payload : event.data with
      | none => rfl
      | some data =>
        refine absurd assistant (other ?_)
        simp [carriesUsage, payload, assistant, usageTypes]
    rw [bare, Option.bind_none]
    exact List.append_nil _
  · exact List.append_nil _

theorem length_sampled (readable : Readable python event) : (sampled python event).length =
    (sampleOf python event).toList.length +
      if carriesUsage event = true ∧ event.rawType = "assistant.usage" then 1 else 0 := by
  by_cases both : carriesUsage event = true ∧ event.rawType = "assistant.usage"
  · obtain ⟨carries, assistant⟩ := both
    simp only [carriesUsage, decide_eq_true_eq] at carries
    obtain ⟨data, payload⟩ := Option.isSome_iff_exists.mp carries.2
    have projected : event.rawType ∈ projectedTypes := by
      rw [assistant]
      decide
    obtain ⟨at_, read⟩ := Option.isSome_iff_exists.mp (readable projected data payload)
    rw [if_pos ⟨by simp [carriesUsage, carries], assistant⟩]
    unfold sampled
    rw [if_pos assistant, payload, Option.bind_some, read, List.length_append]
    rfl
  · rw [if_neg both, sampled_of_other fun carries assistant => both ⟨carries, assistant⟩]
    rfl

/-! ## Runs -/

/-- The samples follow from the journal. -/
structure Accounted (python : Conversions Real) (db : Db Real) : Prop where
  samples : db.samples = db.journal.flatMap (sampled python)
  readable : ∀ event ∈ db.journal, Readable python event

theorem accounted_persistEvent {delivery : Delivery Real} (before : Accounted python db)
    (done : persistEvent python db delivery = some after) :
    Accounted python after ∧ after.journal = accepted db.journal [delivery] := by
  unfold persistEvent at done
  unfold accepted accepted
  cases owned : delivery.owned with
  | false =>
    rw [owned] at done
    cases done
    exact ⟨before, by simp⟩
  | true =>
    cases seen : db.journal.any (conflicts delivery.event) with
    | true =>
      rw [owned, seen] at done
      cases done
      exact ⟨before, by simp⟩
    | false =>
      rw [owned, seen] at done
      obtain ⟨rows, applied, rfl⟩ := Option.map_eq_some_iff.mp done
      obtain ⟨rfl, readable⟩ := applyDomainState_spec applied
      refine ⟨⟨?_, ?_⟩, by simp⟩
      · rw [List.flatMap_append, List.flatMap_singleton, before.samples]
      · intro event member
        rcases List.mem_append.mp member with old | new
        · exact before.readable event old
        · rw [List.mem_singleton.mp new]
          exact readable

theorem accounted_persistTransaction {batch : List (Delivery Real)} (before : Accounted python db)
    (done : persistTransaction python db batch = some after) :
    Accounted python after ∧ after.journal = accepted db.journal batch := by
  induction batch generalizing db with
  | nil =>
    cases done
    exact ⟨before, rfl⟩
  | cons delivery rest ih =>
    obtain ⟨next, one, others⟩ := run_cons_eq_some.mp done
    obtain ⟨accountedNext, journalNext⟩ := accounted_persistEvent before one
    obtain ⟨accountedAfter, journalAfter⟩ := ih accountedNext others
    refine ⟨accountedAfter, ?_⟩
    rw [journalAfter, journalNext, ← accepted_append, List.singleton_append]

theorem accounted_run {batches : List (List (Delivery Real))}
    (before : Accounted python db)
      (done : run (persistTransaction python) db batches = some after) :
    Accounted python after ∧ after.journal = accepted db.journal batches.flatten := by
  induction batches generalizing db with
  | nil =>
    cases done
    exact ⟨before, rfl⟩
  | cons batch rest ih =>
    obtain ⟨next, one, others⟩ := run_cons_eq_some.mp done
    obtain ⟨accountedNext, journalNext⟩ := accounted_persistTransaction before one
    obtain ⟨accountedAfter, journalAfter⟩ := ih accountedNext others
    refine ⟨accountedAfter, ?_⟩
    rw [journalAfter, journalNext, ← accepted_append, List.flatten_cons]

theorem accounted_nil : Accounted python {} where
  samples := rfl
  readable := by
    intro event member
    cases member

/-! ## The samples of a session -/

namespace Accounted

theorem samplesOf_eq (accounted : Accounted python db) :
    samplesOf sessionId db = (db.journal.filter (isOf sessionId)).flatMap (sampled python) := by
  unfold samplesOf
  rw [accounted.samples]
  induction db.journal with
  | nil => rfl
  | cons event journal ih =>
    rw [List.flatMap_cons, List.filter_append, ih, List.filter_cons]
    by_cases own : event.sdkSessionId = sessionId
    · have all : (sampled python event).filter (fun sample => sample.sessionId = sessionId) =
          sampled python event := by
        apply List.filter_eq_self.mpr
        intro sample member
        rw [sessionId_of_sampled member]
        exact decide_eq_true own
      have kept : isOf sessionId event = true := decide_eq_true own
      rw [all, if_pos kept, List.flatMap_cons]
    · have none :
        (sampled python event).filter (fun sample => sample.sessionId = sessionId) = [] := by
        apply List.filter_eq_nil_iff.mpr
        intro sample member
        rw [sessionId_of_sampled member]
        simpa using own
      rw [none, if_neg (by simpa [isOf] using own), List.nil_append]

theorem samplesOf_length (accounted : Accounted python db) : (samplesOf sessionId db).length =
    ((db.journal.filter (isOf sessionId)).filterMap (sampleOf python)).length +
      (db.journal.filter (isOf sessionId)).countP fun event =>
        carriesUsage event ∧ event.rawType = "assistant.usage" := by
  rw [accounted.samplesOf_eq]
  have readable : ∀ event ∈ db.journal.filter (isOf sessionId), Readable python event := by
    intro event member
    exact accounted.readable event (List.mem_filter.mp member).1
  generalize db.journal.filter (isOf sessionId) = events at readable
  induction events with
  | nil => rfl
  | cons event journal ih =>
    have rest := ih fun other member => readable other (List.mem_cons_of_mem _ member)
    have first := length_sampled (readable event (List.mem_cons_self ..))
    rw [List.flatMap_cons, List.length_append, rest, first, List.countP_cons, List.filterMap_cons]
    cases sampleOf python event with
    | none =>
      simp only [Option.toList_none, List.length_nil, decide_eq_true_eq]
      omega
    | some sample =>
      simp only [Option.toList_some, List.length_nil, List.length_cons, decide_eq_true_eq]
      omega

end Accounted

/-- From the empty database, every sequence of transactions records each usage event of a
session once exactly if none of those accepted is an `assistant.usage` event. -/
theorem usage_recorded_once_iff {batches : List (List (Delivery Real))}
    (done : run (persistTransaction python) {} batches = some db) (sessionId : String) :
    RecordedOnce python sessionId db ↔ ∀ event ∈ accepted [] batches.flatten,
      event.sdkSessionId = sessionId → carriesUsage event = true →
        event.rawType ≠ "assistant.usage" := by
  obtain ⟨accounted, journal⟩ := accounted_run accounted_nil done
  rw [← journal]
  unfold RecordedOnce
  constructor
  · intro once event member own carries assistant
    have lengths := congrArg List.length once
    rw [accounted.samplesOf_length] at lengths
    have positive : 0 < (db.journal.filter (isOf sessionId)).countP fun event =>
        carriesUsage event ∧ event.rawType = "assistant.usage" := by
      refine List.countP_pos_iff.mpr ⟨event, List.mem_filter.mpr ⟨member, decide_eq_true own⟩, ?_⟩
      exact decide_eq_true ⟨carries, assistant⟩
    omega
  · intro others
    rw [accounted.samplesOf_eq, List.filterMap_eq_flatMap_toList]
    refine List.flatMap_congr ?_
    intro event member
    obtain ⟨journaled, own⟩ := List.mem_filter.mp member
    exact sampled_of_other (others event journaled (of_decide_eq_true own))

/-! ## One event of each kind -/

section Examples

/-- Numbers are read as they are. -/
def plain : Conversions Int where
  str _ := ""
  int _ := none
  float
    | .int value => some value
    | _ => none

def usageEvent (rawType : String) (inboxSeq : Int) (eventId : String) : Delivery Int where
  event :=
    { sdkSessionId := "s"
      generation := 1
      inboxSeq
      eventId := some eventId
      rawType
      rawPayload := [("data", .dict [("inputTokens", .int 12)])]
      receivedAt := 7 }

def checkpoints : List (List (Delivery Int)) :=
  [[usageEvent "session.usage_checkpoint" 1 "e"], [usageEvent "session.usage_checkpoint" 2 "e"]]

theorem usage_recorded_once_iff_checkpoints :
    ∃ db, run (persistTransaction plain) {} checkpoints = some db ∧ RecordedOnce plain "s" db := by
  have done : ∃ db, run (persistTransaction plain) {} checkpoints = some db := ⟨_, rfl⟩
  obtain ⟨db, done⟩ := done
  refine ⟨db, done, (usage_recorded_once_iff done "s").mpr ?_⟩
  decide

/-- One `assistant.usage` event leaves two samples. -/
theorem assistant_usage_recorded_twice :
    ∃ db, run (persistTransaction plain) {} [[usageEvent "assistant.usage" 1 "e"]] = some db ∧
      db.journal.length = 1 ∧ (samplesOf "s" db).length = 2 ∧ ¬ RecordedOnce plain "s" db := by
  refine ⟨_, rfl, rfl, rfl, ?_⟩
  intro once
  exact absurd (congrArg List.length once) (by decide)

end Examples

end Copilotd.Guarantees.UsageSamples
