import Mathlib.Data.Option.Basic
import Copilotd.Base.Pool
import Copilotd.Source.Core.SessionCreation

/-!
# A session is created once

The creation is put on record before the attachment starts, and from the record on every
further attachment resumes the session: a crash between the record and the call of the
bridge cannot be told from one inside the call.  So a session that was never created may
be resumed, but one that was created is never created again unless its creation was
rejected.
-/
namespace Copilotd.Guarantees.CreationDispatch

open Base Base.Run Source.Core.SessionCreation

/-- `attach_create` exactly if `create_session` was never invoked or was rejected. -/
def Exact (store : Store) (resumes : Bool) : Prop :=
  resumes = false ↔ store.creations = [] ∨ store.creations.getLast? = some .rejected

/-- The call that an attachment has to make: `attach_create` if `create_session` was
never invoked and every attachment so far has got as far as the bridge, `attach_resume`
if `create_session` was invoked and not rejected or a crash has hidden whether it was. -/
structure Conservative (store : Store) (resumes : Bool) : Prop where
  creates : store.creations = [] → store.endedEarly = [] → resumes = false
  resumed : ∀ last, store.creations.getLast? = some last → last ≠ .rejected → resumes = true
  interrupted : .crashed ∈ store.endedEarly → resumes = true

/-- What the creation promises of one step, for a choice of the attachment's call. -/
structure Safe (Right : Store → Bool → Prop) (world : World) (label : Label) (after : World) :
    Prop where
  /-- `create_thread` is invoked at most once. -/
  once : after.store.threadCalls ≤ 1
  /-- All calls use one thread and one SDK session. -/
  same : ∀ use ∈ after.store.uses, ∀ other ∈ after.store.uses, use = other
  /-- A call that reaches attachment makes the right call. -/
  attachment : ∀ index binding resumes, label = .call index .next →
    world.calls[index]? = some (.rereading (.creating binding resumes)) →
    Right world.store resumes

def Promised (Right : Store → Bool → Prop) (world : World) (label : Label) : Prop :=
  ∀ after, step world label = some after → Safe Right world label after

/-! ## The invariant -/

/-- An attachment has got as far as the bridge, or has ended before. -/
def Evidence (store : Store) : Prop := store.creations ≠ [] ∨ store.endedEarly ≠ []

/-- Nothing but the intent is there yet. -/
structure Blank (store : Store) : Prop where
  binding : store.binding = none
  runtime : store.runtime = none
  uses : store.uses = []
  evidence : ¬Evidence store

/-- The intent knows its thread; `begun` says that a call has put the creation on record
and has not got as far as the bridge. -/
structure Threaded (store : Store) (begun : Prop) (intent : CreationIntent) (thread : String) :
    Prop where
  launchable : intent.launchable = true
  uncertain : uncertainCreate intent.state = true ↔ Evidence store ∨ begun
  binding : ∀ binding, store.binding = some binding → binding = ⟨thread, intent.sdkSessionId⟩
  runtime : ∀ runtime, store.runtime = some runtime →
    runtime.binding = ⟨thread, intent.sdkSessionId⟩ ∧
      (runtime.state ≠ .detached → runtime.attempted = true) ∧
      (runtime.attempted = true → Evidence store ∨ begun)
  uses : ∀ use ∈ store.uses, use = ⟨thread, intent.sdkSessionId⟩

inductive Coherent (store : Store) (begun : Prop) : Prop where
  | unborn (intent : store.intent = none) (blank : Blank store) (idle : ¬begun)
      (uncalled : store.threadCalls = 0)
  | unthreaded (row : CreationIntent) (intent : store.intent = some row)
      (thread : row.threadId = none) (blank : Blank store) (idle : ¬begun)
      (called : store.threadCalls = 0 ∨ store.threadCalls = 1 ∧ row.launchable = true ∧
        (row.state = .threadCreating ∨ row.state = .unknown))
  | threaded (row : CreationIntent) (thread : String) (intent : store.intent = some row)
      (bound : row.threadId = some thread) (once : store.threadCalls ≤ 1)
      (threaded : Threaded store begun row thread)

/-- What must hold for a mark to be written. -/
def Allowed (store : Store) (intent : CreationIntent) : Mark → Prop
  | .failed => intent.launchable = false
  | .threadCreating =>
    intent.threadId = none ∧ intent.launchable = true ∧ store.threadCalls = 0
  | .threadUnknown | .threadCreated _ => intent.threadId = none ∧ intent.launchable = true
  | .creating binding resumes =>
    intent.threadId = some binding.threadId ∧ intent.sdkSessionId = binding.sdkSessionId ∧
      (resumes = true ↔ Evidence store)
  | .attachUnknown | .attached => intent.threadId ≠ none ∧ Evidence store

/-- What holds after a mark was written. -/
def Written (store : Store) (intent : CreationIntent) : Mark → Prop
  | .threadCreating =>
    intent.threadId = none ∧ intent.launchable = true ∧ intent.state = .threadCreating ∧
      store.threadCalls = 0
  | .threadCreated _ => intent.threadId ≠ none
  | .creating binding resumes =>
    intent.threadId = some binding.threadId ∧ intent.sdkSessionId = binding.sdkSessionId ∧
      (resumes = true ↔ Evidence store)
  | _ => True

/-- What a call knows. -/
def Sound (store : Store) : Phase → Prop
  | .asserting intent => store.intent = some intent
  | .finding intent =>
    store.intent = some intent ∧ intent.threadId = none ∧ intent.launchable = true
  | .marking intent mark => store.intent = some intent ∧ Allowed store intent mark
  | .rereading mark => ∀ intent, store.intent = some intent → Written store intent mark
  | .creatingThread intent =>
    store.intent = some intent ∧ intent.threadId = none ∧ intent.launchable = true
  | .readingBinding intent | .creatingBinding intent =>
    store.intent = some intent ∧ intent.threadId ≠ none
  | .replacing intent binding =>
    store.intent = some intent ∧ intent.threadId = some binding.threadId ∧
      intent.sdkSessionId = binding.sdkSessionId
  | .preparing intent resumes =>
    store.intent = some intent ∧ intent.threadId ≠ none ∧ (resumes = true ↔ Evidence store)
  | .invoking intent _ | .finishing intent =>
    store.intent = some intent ∧ intent.threadId ≠ none ∧ Evidence store
  | _ => True

structure Kept (world : World) : Prop where
  alone : world.calls.countP Phase.holdsLock ≤ 1
  coherent : Coherent world.store (world.calls.any Phase.begun = true)
  calls : ∀ phase ∈ world.calls, Sound world.store phase

variable {phase : Phase}

theorem sound_unlocked (unlocked : phase.holdsLock = false) (store : Store) :
    Sound store phase := by
  cases phase with
  | admitting | waiting | done => trivial
  | _ => cases unlocked

theorem begun_locked (begun : phase.begun = true) : phase.holdsLock = true := by
  cases phase with
  | rereading | preparing => rfl
  | _ => cases begun

variable {next : Phase}

section
variable {store : Store} {begun : Prop} {intent : CreationIntent}

section

variable (coherent : Coherent store begun)
include coherent

theorem Coherent.congr {other : Prop} (same : begun ↔ other) :
    Coherent store other := by
  rw [← propext same]
  exact coherent

theorem Coherent.once : store.threadCalls ≤ 1 := by
  cases coherent with
  | unborn _ _ _ uncalled => omega
  | unthreaded _ _ _ _ _ called =>
    rcases called with none | one
    · omega
    · omega
  | threaded _ _ _ _ once _ => exact once

theorem Coherent.same :
    ∀ use ∈ store.uses, ∀ other ∈ store.uses, use = other := by
  cases coherent with
  | unborn _ blank _ _ | unthreaded _ _ _ blank _ _ =>
    rw [blank.uses]
    intro use member
    cases member
  | threaded _ _ _ _ _ threaded =>
    intro use member other also
    rw [threaded.uses use member, threaded.uses other also]

theorem Coherent.of_unthreaded
    (present : store.intent = some intent) (thread : intent.threadId = none) :
    Blank store ∧ ¬begun ∧ (store.threadCalls = 0 ∨ store.threadCalls = 1 ∧
      intent.launchable = true ∧ (intent.state = .threadCreating ∨ intent.state = .unknown)) := by
  cases coherent with
  | unborn absent =>
    rw [present] at absent
    cases absent
  | unthreaded row found _ blank idle called =>
    rw [present] at found
    cases found
    exact ⟨blank, idle, called⟩
  | threaded row _ found bound =>
    rw [present] at found
    cases found
    rw [thread] at bound
    cases bound

theorem Coherent.of_threaded (present : store.intent = some intent) {thread : String}
    (bound : intent.threadId = some thread) :
    store.threadCalls ≤ 1 ∧ Threaded store begun intent thread := by
  cases coherent with
  | unborn absent =>
    rw [present] at absent
    cases absent
  | unthreaded row found unbound =>
    rw [present] at found
    cases found
    rw [bound] at unbound
    cases unbound
  | threaded row _ found also once threaded =>
    rw [present] at found
    cases found
    rw [bound] at also
    cases also
    exact ⟨once, threaded⟩

end

theorem write_intent (present : store.intent = some intent) (mark : Mark) :
    (store.write intent mark).intent =
      some { intent with threadId := mark.threadId intent, state := mark.state } := by
  rw [Store.write, present]
  rfl

theorem Blank.write (blank : Blank store) (mark : Mark) : Blank (store.write intent mark) :=
  ⟨blank.binding, blank.runtime, blank.uses, blank.evidence⟩

theorem Threaded.write {thread : String} (threaded : Threaded store begun intent thread)
    (idle : ¬begun) (mark : Mark) {after : Prop}
    (uncertain : uncertainCreate mark.state = true ↔ Evidence store ∨ after) :
    Threaded (store.write intent mark) after
      { intent with threadId := mark.threadId intent, state := mark.state } thread where
  launchable := threaded.launchable
  uncertain := uncertain
  binding := threaded.binding
  runtime := by
    intro runtime found
    obtain ⟨same, moved, attempted⟩ := threaded.runtime runtime found
    exact ⟨same, moved, fun attempt => .inl ((attempted attempt).resolve_right idle)⟩
  uses := threaded.uses

theorem Coherent.write (coherent : Coherent store begun) (idle : ¬begun)
    (present : store.intent = some intent) {mark : Mark} (allowed : Allowed store intent mark) :
    Coherent (store.write intent mark) ((Phase.rereading mark).begun = true) := by
  have written := write_intent present mark
  have quiet : mark.state ≠ .creating → ¬(Phase.rereading mark).begun = true := by
    intro other begins
    cases mark with
    | creating => exact other rfl
    | _ => cases begins
  cases mark with
  | failed =>
    cases thread : intent.threadId with
    | none =>
      obtain ⟨blank, _, called⟩ := coherent.of_unthreaded present thread
      refine .unthreaded _ written thread (blank.write _) (quiet (by decide)) (.inl ?_)
      rcases called with uncalled | ⟨_, launchable, _⟩
      · exact uncalled
      · rw [allowed] at launchable
        cases launchable
    | some thread' =>
      have launchable := (coherent.of_threaded present thread).2.launchable
      rw [allowed] at launchable
      cases launchable
  | threadCreating =>
    obtain ⟨blank, _, _⟩ := coherent.of_unthreaded present allowed.1
    exact .unthreaded _ written allowed.1 (blank.write _) (quiet (by decide)) (.inl allowed.2.2)
  | threadUnknown =>
    obtain ⟨blank, _, called⟩ := coherent.of_unthreaded present allowed.1
    refine .unthreaded _ written allowed.1 (blank.write _) (quiet (by decide)) ?_
    exact called.imp_right fun known => ⟨known.1, known.2.1, .inr rfl⟩
  | threadCreated thread =>
    obtain ⟨blank, _, called⟩ := coherent.of_unthreaded present allowed.1
    have once := coherent.once
    refine .threaded _ thread written rfl once ⟨allowed.2, ?_, ?_, ?_, ?_⟩
    · have unevident := blank.evidence
      constructor
      · intro uncertain
        cases uncertain
      · rintro (evident | begins)
        · exact absurd evident unevident
        · cases begins
    · intro binding found
      rw [Store.write, blank.binding] at found
      cases found
    · intro runtime found
      rw [Store.write, blank.runtime] at found
      cases found
    · intro use member
      rw [Store.write, blank.uses] at member
      cases member
  | creating binding resumes =>
    obtain ⟨once, threaded⟩ := coherent.of_threaded present allowed.1
    exact .threaded _ _ written allowed.1 once
      (threaded.write idle _ ⟨fun _ => .inr rfl, fun _ => rfl⟩)
  | attachUnknown | attached =>
    obtain ⟨thread, bound⟩ := Option.ne_none_iff_exists'.mp allowed.1
    obtain ⟨once, threaded⟩ := coherent.of_threaded present bound
    exact .threaded _ _ written bound once
      (threaded.write idle _ ⟨fun _ => .inl allowed.2, fun _ => rfl⟩)

theorem written_of_allowed (present : store.intent = some intent) {mark : Mark}
    (allowed : Allowed store intent mark) :
    Sound (store.write intent mark) (.rereading mark) := by
  intro row found
  rw [write_intent present mark] at found
  cases found
  cases mark with
  | threadCreating => exact ⟨allowed.1, allowed.2.1, rfl, allowed.2.2⟩
  | threadCreated thread => exact Option.some_ne_none thread
  | creating binding resumes => exact allowed
  | _ => trivial

/-! ## The choice of the attachment -/

theorem sound_chooseAttachment (coherent : Coherent store begun) (idle : ¬begun)
    (present : store.intent = some intent) {runtime : SessionRuntime}
    (bound : intent.threadId = some runtime.binding.threadId)
    (same : intent.sdkSessionId = runtime.binding.sdkSessionId)
    (tried : runtime.state ≠ .detached → Evidence store) :
    Sound store (chooseAttachment intent runtime) ∧
      (chooseAttachment intent runtime).begun = false := by
  have threaded := (coherent.of_threaded present bound).2
  unfold chooseAttachment
  split
  · refine ⟨⟨present, bound, same, ?_⟩, rfl⟩
    rw [threaded.uncertain]
    exact or_iff_left idle
  next moved =>
    split
    · exact ⟨⟨present, by rw [bound]; exact Option.some_ne_none _, tried moved⟩, rfl⟩
    · exact ⟨trivial, rfl⟩

variable {binding : Binding}

theorem sound_chooseRuntime (coherent : Coherent store begun) (idle : ¬begun)
    (present : store.intent = some intent) (bound : intent.threadId = some binding.threadId)
    (same : intent.sdkSessionId = binding.sdkSessionId) :
    Sound store (chooseRuntime store intent binding) ∧
      (chooseRuntime store intent binding).begun = false := by
  have threaded := (coherent.of_threaded present bound).2
  unfold chooseRuntime
  split
  · exact ⟨⟨present, bound, same⟩, rfl⟩
  next runtime found =>
    obtain ⟨there, _⟩ := Option.filter_eq_some_iff.mp found
    obtain ⟨own, moved, attempted⟩ := threaded.runtime runtime there
    split
    · exact ⟨⟨present, bound, same⟩, rfl⟩
    · refine sound_chooseAttachment coherent idle present ?_ ?_ ?_
      · rw [own, bound]
      · rw [own]
      · intro other
        exact (attempted (moved other)).resolve_right idle

/-! ## The other writes -/

/-- Only the record of the attachments changes, and it is not empty afterwards. -/
structure Records (store after : Store) : Prop where
  intent : after.intent = store.intent
  binding : after.binding = store.binding
  runtime : after.runtime = store.runtime
  threadCalls : after.threadCalls = store.threadCalls
  uses : after.uses = store.uses
  evidence : Evidence after

theorem Coherent.record {after : Store} (coherent : Coherent store begun)
    (known : Evidence store ∨ begun) (records : Records store after) (other : Prop) :
    Coherent after other := by
  cases coherent with
  | unborn _ blank idle _ | unthreaded _ _ _ blank idle _ =>
    exact absurd known (not_or.mpr ⟨blank.evidence, idle⟩)
  | threaded row thread found bound once threaded =>
    refine .threaded row thread (records.intent.trans found) bound ?_ ⟨threaded.launchable, ?_, ?_,
      ?_, ?_⟩
    · rw [records.threadCalls]
      exact once
    · exact ⟨fun _ => .inl records.evidence, fun _ => threaded.uncertain.mpr known⟩
    · rw [records.binding]
      exact threaded.binding
    · rw [records.runtime]
      intro runtime there
      obtain ⟨same, moved, _⟩ := threaded.runtime runtime there
      exact ⟨same, moved, fun _ => .inl records.evidence⟩
    · rw [records.uses]
      exact threaded.uses

theorem endEarly_records (ending : Ending) : Records store (store.endEarly ending) :=
  ⟨rfl, rfl, rfl, rfl, rfl, .inr (by simp [Store.endEarly])⟩

theorem invoke_records {resumes : Bool} (known : resumes = true ↔ Evidence store) :
    Records store (store.invoke resumes) := by
  cases resumes with
  | true => exact ⟨rfl, rfl, rfl, rfl, rfl, known.mp rfl⟩
  | false => exact ⟨rfl, rfl, rfl, rfl, rfl, .inl (by simp [Store.invoke])⟩

theorem settle_records {resumes : Bool} (outcome : Creation) (known : Evidence store) :
    Records store (store.settle resumes outcome) := by
  cases resumes with
  | true => exact ⟨rfl, rfl, rfl, rfl, rfl, known⟩
  | false => exact ⟨rfl, rfl, rfl, rfl, rfl, .inl (by simp [Store.settle])⟩

section

variable (coherent : Coherent store begun)
include coherent

theorem Coherent.attach (begins : begun) (present : store.intent = some intent)
    (bound : intent.threadId = some binding.threadId)
    (same : intent.sdkSessionId = binding.sdkSessionId) :
    Coherent (store.attach binding) begun := by
  obtain ⟨once, threaded⟩ := coherent.of_threaded present bound
  refine .threaded intent _ present bound once ⟨threaded.launchable, threaded.uncertain,
    threaded.binding, ?_, ?_⟩
  · intro runtime found
    obtain ⟨old, there, rfl⟩ := Option.map_eq_some_iff.mp found
    obtain ⟨own, moved, attempted⟩ := threaded.runtime old there
    split
    · exact ⟨own, fun _ => rfl, fun _ => .inr begins⟩
    · exact ⟨own, moved, attempted⟩
  · intro use member
    rcases List.mem_append.mp member with old | new
    · exact threaded.uses use old
    · rw [List.mem_singleton.mp new, same]

theorem Coherent.bind (present : store.intent = some intent)
    {thread : String} (bound : intent.threadId = some thread) :
    Coherent
      { store with
        binding := some ⟨thread, intent.sdkSessionId⟩
        uses := store.uses ++ [⟨thread, intent.sdkSessionId⟩] } begun := by
  obtain ⟨once, threaded⟩ := coherent.of_threaded present bound
  refine .threaded intent thread present bound once ⟨threaded.launchable, threaded.uncertain, ?_,
    threaded.runtime, ?_⟩
  · intro binding found
    cases found
    rfl
  · intro use member
    rcases List.mem_append.mp member with old | new
    · exact threaded.uses use old
    · exact List.mem_singleton.mp new

theorem Coherent.replace (present : store.intent = some intent)
    (bound : intent.threadId = some binding.threadId)
    (same : intent.sdkSessionId = binding.sdkSessionId) :
    Coherent { store with runtime := some { binding } } begun := by
  obtain ⟨once, threaded⟩ := coherent.of_threaded present bound
  refine .threaded intent _ present bound once ⟨threaded.launchable, threaded.uncertain,
    threaded.binding, ?_, threaded.uses⟩
  intro runtime found
  cases found
  exact ⟨by rw [same], fun moved => absurd rfl moved, nofun⟩

theorem Coherent.createThread
    (present : store.intent = some intent) (written : Written store intent .threadCreating) :
    Coherent { store with threadCalls := store.threadCalls + 1 } begun := by
  obtain ⟨unbound, launchable, creating, uncalled⟩ := written
  obtain ⟨blank, idle, _⟩ := coherent.of_unthreaded present unbound
  refine .unthreaded intent present unbound
    ⟨blank.binding, blank.runtime, blank.uses, blank.evidence⟩ idle
      (.inr ⟨?_, launchable, .inl creating⟩)
  change store.threadCalls + 1 = 1
  rw [uncalled]

theorem Coherent.changeRuntime {changed : Option SessionRuntime}
    (known : ∀ runtime, changed = some runtime → ∃ old, store.runtime = some old ∧
      runtime.binding = old.binding ∧ runtime.attempted = true ∧ old.attempted = true) :
    Coherent { store with runtime := changed } begun := by
  have gone : store.runtime = none → changed = none := by
    intro none
    cases found : changed with
    | none => rfl
    | some runtime =>
      obtain ⟨old, there, _⟩ := known runtime found
      rw [none] at there
      cases there
  cases coherent with
  | unborn absent blank idle uncalled =>
    exact .unborn absent ⟨blank.binding, gone blank.runtime, blank.uses, blank.evidence⟩ idle
      uncalled
  | unthreaded row present unbound blank idle called =>
    exact .unthreaded row present unbound
      ⟨blank.binding, gone blank.runtime, blank.uses, blank.evidence⟩ idle called
  | threaded row thread present bound once threaded =>
    refine .threaded row thread present bound once ⟨threaded.launchable, threaded.uncertain,
      threaded.binding, ?_, threaded.uses⟩
    intro runtime found
    obtain ⟨old, there, same, attempted, tried⟩ := known runtime found
    obtain ⟨own, _, evident⟩ := threaded.runtime old there
    exact ⟨same.trans own, fun _ => attempted, fun _ => evident tried⟩

end

theorem sound_runtime (sound : Sound store phase)
    (changed : Option SessionRuntime) : Sound { store with runtime := changed } phase := by
  cases phase with
  | marking intent mark => cases mark <;> exact sound
  | rereading mark => cases mark <;> exact sound
  | _ => exact sound

theorem checkVerified_plain (intent : CreationIntent) (present : store.intent = some intent) :
    Sound store (checkVerified intent) ∧ (checkVerified intent).begun = false := by
  unfold checkVerified
  split
  · exact ⟨present, rfl⟩
  · exact ⟨trivial, rfl⟩

/-! ## One step of a call -/

theorem resumeMark_spec {mark : Mark}
    (coherent : Coherent store ((Phase.rereading mark).begun = true))
    (present : store.intent = some intent) (written : Written store intent mark) :
    Coherent (resumeMark store intent mark).1 ((resumeMark store intent mark).2.begun = true) ∧
      Sound (resumeMark store intent mark).1 (resumeMark store intent mark).2 := by
  cases mark with
  | failed | threadUnknown | attachUnknown | attached => exact ⟨coherent, trivial⟩
  | threadCreating =>
    exact ⟨coherent.createThread present written, present, written.1, written.2.1⟩
  | threadCreated thread => exact ⟨coherent, present, written⟩
  | creating binding resumes =>
    refine ⟨coherent.attach rfl present written.1 written.2.1, present, ?_, written.2.2⟩
    rw [written.1]
    exact Option.some_ne_none _

theorem leave_spec {after : Store} (coherent : Coherent store (phase.begun = true))
    (taken : advance store phase .leave = some (after, next)) :
    Coherent after (next.begun = true) ∧ Sound after next := by
  obtain ⟨rfl, rfl⟩ : after = (if phase.begun then store.endEarly .failed else store) ∧
      next = .done .failed := by
    cases phase with
    | done => cases taken
    | _ =>
      cases taken
      exact ⟨rfl, rfl⟩
  refine ⟨?_, trivial⟩
  split
  next begun => exact coherent.record (.inr begun) (endEarly_records _) _
  next idle => exact coherent.congr ⟨fun begun => absurd begun idle, nofun⟩

theorem advance_spec {move : Move} {after : Store}
    (coherent : Coherent store (phase.begun = true)) (sound : Sound store phase)
    (taken : advance store phase move = some (after, next)) :
    Coherent after (next.begun = true) ∧ Sound after next := by
  cases phase with
  | admitting =>
    cases move with
    | next =>
      cases taken
      exact ⟨coherent, trivial⟩
    | leave => exact leave_spec coherent taken
    | _ => cases taken
  | waiting | done =>
    cases move with
    | leave => exact leave_spec coherent taken
    | _ => cases taken
  | reading =>
    cases move with
    | next =>
      simp only [advance] at taken
      split at taken
      · cases taken
        exact ⟨coherent, trivial⟩
      next intent present =>
        cases taken
        have plain := checkVerified_plain intent present
        exact ⟨coherent.congr (by rw [plain.2]; rfl), plain.1⟩
    | leave => exact leave_spec coherent taken
    | _ => cases taken
  | snapshotting | sending =>
    cases move with
    | returns =>
      cases taken
      exact ⟨coherent, trivial⟩
    | leave => exact leave_spec coherent taken
    | _ => cases taken
  | reserving =>
    cases move with
    | reserve sdkSessionId launchable =>
      simp only [advance] at taken
      split at taken
      next intent present =>
        cases taken
        have plain := checkVerified_plain intent present
        exact ⟨coherent.congr (by rw [plain.2]; rfl), plain.1⟩
      next absent =>
        cases taken
        let reserved : Store := { store with intent := some { sdkSessionId, launchable } }
        have plain := checkVerified_plain _ (show reserved.intent = some _ from rfl)
        refine ⟨?_, plain.1⟩
        cases coherent with
        | unborn _ blank idle uncalled =>
          exact .unthreaded _ rfl rfl ⟨blank.binding, blank.runtime, blank.uses, blank.evidence⟩
            (by rw [plain.2]; nofun) (.inl uncalled)
        | unthreaded _ present | threaded _ _ present =>
          rw [absent] at present
          cases present
    | leave => exact leave_spec coherent taken
    | _ => cases taken
  | asserting intent =>
    cases move with
    | next =>
      cases taken
      split
      next refused =>
        have unlaunchable : intent.launchable = false := by simpa using refused
        exact ⟨coherent, sound, unlaunchable⟩
      next accepted =>
        split
        next unbound => exact ⟨coherent, sound, unbound, by simpa using accepted⟩
        next bound => exact ⟨coherent, sound, bound⟩
    | leave => exact leave_spec coherent taken
    | _ => cases taken
  | finding intent =>
    obtain ⟨present, unbound, launchable⟩ := sound
    cases move with
    | found thread =>
      cases thread with
      | some thread =>
        cases taken
        exact ⟨coherent, present, unbound, launchable⟩
      | none =>
        cases taken
        split
        · exact ⟨coherent, trivial⟩
        next fresh =>
          refine ⟨coherent, present, unbound, launchable, ?_⟩
          rcases (coherent.of_unthreaded present unbound).2.2 with uncalled | ⟨_, _, known⟩
          · exact uncalled
          · exact absurd (List.mem_pair.mpr known) fresh
    | leave => exact leave_spec coherent taken
    | _ => cases taken
  | marking intent mark =>
    cases move with
    | next =>
      cases taken
      exact ⟨coherent.write nofun sound.1 sound.2, written_of_allowed sound.1 sound.2⟩
    | leave => exact leave_spec coherent taken
    | _ => cases taken
  | rereading mark =>
    cases move with
    | next =>
      simp only [advance] at taken
      split at taken
      next absent =>
        cases taken
        cases coherent with
        | unborn _ blank idle uncalled => exact ⟨.unborn absent blank nofun uncalled, trivial⟩
        | unthreaded _ present | threaded _ _ present =>
          rw [absent] at present
          cases present
      next intent present =>
        have spec := resumeMark_spec coherent present (sound intent present)
        rw [Option.some.inj taken] at spec
        exact spec
    | leave => exact leave_spec coherent taken
    | _ => cases taken
  | creatingThread intent =>
    cases move with
    | thread | raises =>
      cases taken
      exact ⟨coherent, sound⟩
    | leave => exact leave_spec coherent taken
    | _ => cases taken
  | readingBinding intent =>
    obtain ⟨present, bound⟩ := sound
    cases move with
    | next =>
      simp only [advance] at taken
      split at taken
      next binding found =>
        cases taken
        obtain ⟨there, own⟩ := Option.filter_eq_some_iff.mp found
        have thread : intent.threadId = some binding.threadId := (of_decide_eq_true own).symm
        have same := (coherent.of_threaded present thread).2.binding binding there
        have spec := sound_chooseRuntime coherent nofun present thread (by rw [same])
        exact ⟨coherent.congr (by rw [spec.2]; rfl), spec.1⟩
      · cases taken
        exact ⟨coherent, present, bound⟩
    | leave => exact leave_spec coherent taken
    | _ => cases taken
  | creatingBinding intent =>
    obtain ⟨present, bound⟩ := sound
    cases move with
    | next =>
      simp only [advance] at taken
      split at taken
      next unbound => exact absurd unbound bound
      next thread found =>
        cases taken
        have bind := coherent.bind present found
        let binding : Binding := { threadId := thread, sdkSessionId := intent.sdkSessionId }
        have spec := sound_chooseRuntime bind nofun present
          (show intent.threadId = some binding.threadId from found) rfl
        exact ⟨bind.congr (by rw [spec.2]; rfl), spec.1⟩
    | leave => exact leave_spec coherent taken
    | _ => cases taken
  | replacing intent binding =>
    obtain ⟨present, bound, same⟩ := sound
    cases move with
    | returns =>
      cases taken
      have replaced := coherent.replace present bound same
      let runtime : SessionRuntime := { binding }
      have spec := sound_chooseAttachment replaced nofun present
        (show intent.threadId = some runtime.binding.threadId from bound) same
        (fun moved => absurd rfl moved)
      exact ⟨replaced.congr (by rw [spec.2]; rfl), spec.1⟩
    | leave => exact leave_spec coherent taken
    | _ => cases taken
  | preparing intent resumes =>
    obtain ⟨present, bound, known⟩ := sound
    cases move with
    | next =>
      cases taken
      have records := invoke_records known
      exact ⟨coherent.record (.inr rfl) records _, records.intent.trans present, bound,
        records.evidence⟩
    | raises unknown =>
      cases taken
      have records : Records store (store.endEarly .failed) := endEarly_records _
      refine ⟨coherent.record (.inr rfl) records _, ?_⟩
      cases unknown with
      | true => exact ⟨present, bound, records.evidence⟩
      | false => trivial
    | leave => exact leave_spec coherent taken
    | _ => cases taken
  | invoking intent resumes =>
    obtain ⟨present, bound, evidence⟩ := sound
    cases move with
    | returns | raises | rejects =>
      cases taken
      have settled : ∀ outcome, Records store (store.settle resumes outcome) :=
        fun outcome => settle_records outcome evidence
      exact ⟨coherent.record (.inl evidence) (settled _) _, (settled _).intent.trans present, bound,
        (settled _).evidence⟩
    | leave => exact leave_spec coherent taken
    | _ => cases taken
  | finishing intent =>
    cases move with
    | returns =>
      cases taken
      exact ⟨coherent, sound⟩
    | raises unknown =>
      cases taken
      cases unknown with
      | true => exact ⟨coherent, sound⟩
      | false => exact ⟨coherent, trivial⟩
    | leave => exact leave_spec coherent taken
    | _ => cases taken

end

/-! ## One step of the world -/

section
variable {calls : List Phase} {index : Nat} {phase next : Phase}

theorem begun_split (found : calls[index]? = some phase) :
    calls.any Phase.begun = true ↔
      phase.begun = true ∨ (calls.eraseIdx index).any Phase.begun = true := by
  rw [← (Pool.perm_of_getElem? found).any_eq, List.any_cons, Bool.or_eq_true]

theorem begun_set (found : calls[index]? = some phase) :
    (calls.set index next).any Phase.begun = true ↔
      next.begun = true ∨ (calls.eraseIdx index).any Phase.begun = true := by
  obtain ⟨bound, _⟩ := List.getElem?_eq_some_iff.mp found
  rw [(List.set_perm_cons_eraseIdx bound next).any_eq, List.any_cons, Bool.or_eq_true]

theorem others_unlocked (alone : calls.countP Phase.holdsLock ≤ 1)
    (found : calls[index]? = some phase) (locked : phase.holdsLock = true) :
    ∀ other ∈ calls.eraseIdx index, other.holdsLock = false := by
  have split := Pool.countP_split found Phase.holdsLock
  rw [if_pos locked] at split
  have none : (calls.eraseIdx index).countP Phase.holdsLock = 0 := by omega
  intro other member
  exact Bool.eq_false_iff.mpr (List.countP_eq_zero.mp none other member)

theorem no_begun (unlocked : ∀ other ∈ calls, other.holdsLock = false) :
    ¬calls.any Phase.begun = true := by
  intro some
  obtain ⟨other, member, begun⟩ := List.any_eq_true.mp some
  have locked := begun_locked begun
  rw [unlocked other member] at locked
  cases locked

end

section
variable {world after : World} {label : Label}

variable {store : Store}

theorem advance_unlocked {changed : Store} {move : Move} (unlocked : phase.holdsLock = false)
    (taken : advance store phase move = some (changed, next)) :
    changed = store ∧ next.holdsLock = false := by
  cases phase with
  | admitting | waiting | done =>
    cases move <;> cases taken <;> exact ⟨rfl, rfl⟩
  | _ => cases unlocked

theorem call_kept (kept : Kept world) {index : Nat} {move : Move}
    (found : world.calls[index]? = some phase)
    (taken : advance world.store phase move = some (store, next)) :
    Kept { store, calls := world.calls.set index next } := by
  have count := Pool.countP_set found next Phase.holdsLock
  have alone := kept.alone
  cases locked : phase.holdsLock with
  | true =>
    have others := others_unlocked alone found locked
    have quiet := no_begun others
    have before : world.calls.any Phase.begun = true ↔ phase.begun = true := by
      rw [begun_split found]
      exact or_iff_left quiet
    have behind : (world.calls.set index next).any Phase.begun = true ↔ next.begun = true := by
      rw [begun_set found]
      exact or_iff_left quiet
    have spec := advance_spec (kept.coherent.congr before)
      (kept.calls phase (Pool.mem_of_getElem? found)) taken
    refine ⟨?_, spec.1.congr behind.symm, ?_⟩
    · rw [if_pos locked] at count
      change (world.calls.set index next).countP Phase.holdsLock ≤ 1
      split at count <;> omega
    · intro other member
      rcases Pool.mem_set_cases found member with rfl | old
      · exact spec.2
      · exact sound_unlocked (others other old) store
  | false =>
    obtain ⟨rfl, outside⟩ := advance_unlocked locked taken
    refine ⟨?_, kept.coherent.congr ?_, ?_⟩
    · rw [locked, outside] at count
      change (world.calls.set index next).countP Phase.holdsLock ≤ 1
      omega
    · have idle : ¬phase.begun = true := fun begun => by
        rw [begun_locked begun] at locked
        cases locked
      have calm : ¬next.begun = true := fun begun => by
        rw [begun_locked begun] at outside
        cases outside
      rw [begun_split found]
      change _ ↔ (world.calls.set index next).any Phase.begun = true
      rw [begun_set found, or_iff_right idle, or_iff_right calm]
    · exact Pool.forall_set found kept.calls (sound_unlocked outside _)

theorem recover_fields (expired : Bool) (intent : CreationIntent) :
    (recover expired intent).sdkSessionId = intent.sdkSessionId ∧
      (recover expired intent).threadId = intent.threadId ∧
      (recover expired intent).launchable = intent.launchable ∧
      uncertainCreate (recover expired intent).state = uncertainCreate intent.state := by
  unfold recover
  split
  next creating =>
    rw [creating.1]
    exact ⟨rfl, rfl, rfl, rfl⟩
  · exact ⟨rfl, rfl, rfl, rfl⟩

theorem recover_other {expired : Bool} {intent : CreationIntent}
    (known : intent.state = .threadCreating ∨ intent.state = .unknown) :
    recover expired intent = intent := by
  apply if_neg
  rintro ⟨creating, _⟩
  rw [creating] at known
  rcases known with same | same <;> cases same

theorem recover_coherent (coherent : Coherent store False) (expired : Bool) :
    Coherent
      { store with intent := store.intent.map (recover expired), runtime := none } False := by
  cases coherent with
  | unborn absent blank idle uncalled =>
    refine .unborn ?_ ⟨blank.binding, rfl, blank.uses, blank.evidence⟩ idle uncalled
    rw [absent]
    rfl
  | unthreaded row present unbound blank idle called =>
    obtain ⟨_, thread, launchable, _⟩ := recover_fields expired row
    refine .unthreaded (recover expired row) ?_ (thread.trans unbound)
      ⟨blank.binding, rfl, blank.uses, blank.evidence⟩ idle ?_
    · rw [present]
      rfl
    · rcases called with uncalled | ⟨once, launches, known⟩
      · exact .inl uncalled
      · rw [recover_other known]
        exact .inr ⟨once, launches, known⟩
  | threaded row thread present bound once threaded =>
    obtain ⟨session, same, launchable, uncertain⟩ := recover_fields expired row
    refine .threaded (recover expired row) thread ?_ (same.trans bound) once ⟨?_, ?_, ?_, ?_, ?_⟩
    · rw [present]
      rfl
    · rw [launchable]
      exact threaded.launchable
    · rw [uncertain]
      exact threaded.uncertain
    · rw [session]
      exact threaded.binding
    · intro runtime found
      cases found
    · rw [session]
      exact threaded.uses

theorem guard_eq_some {p : Prop} [Decidable p] {passed : Unit} :
    (guard p : Option Unit) = some passed ↔ p := by
  by_cases holds : p
  · simp [guard, holds]
  · simp [guard, holds]

theorem restart_kept (kept : Kept world) {expired : Bool}
    (taken : step world (.restart expired) = some after) : Kept after := by
  cases taken
  refine ⟨Nat.zero_le 1, ?_, fun phase member => by cases member⟩
  suffices ended : Coherent _ False from ended.congr ⟨False.elim, nofun⟩
  cases begun : world.calls.any Phase.begun with
  | true =>
    exact recover_coherent (kept.coherent.record (.inr begun) (endEarly_records _) False) expired
  | false =>
    have idle : Coherent world.store False :=
      kept.coherent.congr (by rw [begun]; exact ⟨nofun, False.elim⟩)
    exact recover_coherent idle expired

theorem step_kept (kept : Kept world) (taken : step world label = some after) : Kept after := by
  cases label with
  | request =>
    cases taken
    refine ⟨?_, kept.coherent.congr ?_, Pool.forall_push kept.calls trivial⟩
    · rw [List.countP_append]
      exact kept.alone
    · rw [List.any_append]
      exact (iff_of_eq (congrArg (· = true) (Bool.or_false _))).symm
  | acquire index =>
    simp only [step, Option.bind_eq_bind, Option.bind_eq_some_iff, Option.pure_def] at taken
    obtain ⟨phase, found, _, free, taken⟩ := taken
    obtain ⟨waiting, outside⟩ := guard_eq_some.mp free
    cases taken
    have unlocked : ∀ other ∈ world.calls, other.holdsLock = false := by
      simpa using outside
    have count := Pool.countP_set found .reading Phase.holdsLock
    have none := List.countP_eq_zero.mpr fun other member =>
      Bool.eq_false_iff.mp (unlocked other member)
    subst waiting
    refine ⟨?_, kept.coherent.congr ?_, Pool.forall_set found kept.calls trivial⟩
    · rw [none] at count
      simp only [Phase.holdsLock, Bool.false_eq_true, if_false, if_true] at count
      change (world.calls.set index Phase.reading).countP Phase.holdsLock ≤ 1
      omega
    · rw [begun_split found]
      change _ ↔ (world.calls.set index Phase.reading).any Phase.begun = true
      rw [begun_set found]
      exact Iff.rfl
  | call index move =>
    simp only [step, Option.bind_eq_bind, Option.bind_eq_some_iff, Option.pure_def] at taken
    obtain ⟨phase, found, ⟨store, next⟩, moved, taken⟩ := taken
    cases taken
    exact call_kept kept found moved
  | runtime state handleTerminal =>
    simp only [step, Option.bind_eq_bind, Option.bind_eq_some_iff, Option.pure_def] at taken
    obtain ⟨runtime, there, _, attempted, taken⟩ := taken
    have tried := guard_eq_some.mp attempted
    cases taken
    refine ⟨kept.alone, ?_, ?_⟩
    · refine kept.coherent.changeRuntime ?_
      intro changed found
      cases found
      exact ⟨runtime, there, rfl, tried, tried⟩
    · exact fun phase member => sound_runtime (kept.calls phase member) _
  | drop =>
    cases taken
    refine ⟨kept.alone, kept.coherent.changeRuntime ?_,
      fun phase member => sound_runtime (kept.calls phase member) _⟩
    intro runtime found
    cases found
  | restart expired => exact restart_kept kept taken

/-- The recorded attachments decide the call as they must. -/
theorem conservative_of_known {resumes : Bool}
    (known : resumes = true ↔ Evidence store) : Conservative store resumes where
  creates := by
    intro uncreated unended
    cases resumes with
    | false => rfl
    | true =>
      rcases known.mp rfl with created | ended
      · exact absurd uncreated created
      · exact absurd unended ended
  resumed := by
    intro last found _
    refine known.mpr (.inl ?_)
    intro uncreated
    rw [uncreated] at found
    cases found
  interrupted := by
    intro crashed
    refine known.mpr (.inr ?_)
    intro unended
    rw [unended] at crashed
    cases crashed

theorem step_safe (kept : Kept world) (taken : step world label = some after) :
    Safe Conservative world label after := by
  have later := step_kept kept taken
  refine ⟨later.coherent.once, later.coherent.same, ?_⟩
  intro index binding resumes same found
  subst same
  simp only [step, Option.bind_eq_bind, Option.bind_eq_some_iff, Option.pure_def] at taken
  obtain ⟨phase, there, ⟨store, next⟩, moved, _⟩ := taken
  rw [found] at there
  cases there
  have sound := kept.calls _ (Pool.mem_of_getElem? found)
  cases present : world.store.intent with
  | none =>
    cases kept.coherent with
    | unborn _ blank idle _ =>
      refine absurd ?_ idle
      exact List.any_eq_true.mpr ⟨_, Pool.mem_of_getElem? found, rfl⟩
    | unthreaded _ some | threaded _ _ some =>
      rw [present] at some
      cases some
  | some intent => exact conservative_of_known (sound intent present).2.2

end

theorem fresh_kept : Kept {} where
  alone := Nat.zero_le 1
  coherent := .unborn rfl ⟨rfl, rfl, rfl, by rintro (created | ended) <;> contradiction⟩ nofun rfl
  calls := fun phase member => by cases member

/-- From no intent on, along any interleaving of calls for one source, failures,
cancellations and restarts, the thread is created at most once, one thread and one
session are used, and a call that reaches attachment makes the call that the creations
and the interrupted attachments before it require. -/
theorem session_creation_dispatches_once (labels : List Label) :
    Along step (Promised Conservative) {} labels :=
  along_of_inv (fun _ _ _ kept _ taken => step_kept kept taken)
    (fun _ _ kept _ _ taken => step_safe kept taken)
    (along_of_forall fun _ _ => trivial) fresh_kept

/-- A call up to the record of its creation. -/
def untilRecord : List Label :=
  [.request, .call 0 .next, .acquire 0, .call 0 .next, .call 0 .returns,
    .call 0 (.reserve "session" true), .call 0 .next, .call 0 (.found none), .call 0 .next,
    .call 0 .next, .call 0 (.thread "thread"), .call 0 .next, .call 0 .next, .call 0 .next,
    .call 0 .next, .call 0 .returns, .call 0 .next]

/-- The process crashes there; the next call finds the record. -/
def untilResume : List Label :=
  untilRecord ++
    [.restart true, .request, .call 0 .next, .acquire 0, .call 0 .next, .call 0 .next,
      .call 0 .next,
      .call 0 .returns, .call 0 .next]

theorem interrupted_creation_is_resumed : ¬∀ labels, Along step (Promised Exact) {} labels := by
  intro all
  obtain ⟨world, reached⟩ : ∃ world, run step {} untilResume = some world := ⟨_, rfl⟩
  have last := (along_append reached (all (untilResume ++ [.call 0 .next]))).2.1
  obtain rfl := Option.some.inj reached
  have exact := (last _ rfl).attachment 0 _ true rfl rfl
  exact absurd (exact.mpr (.inl rfl)) (by decide)

end Copilotd.Guarantees.CreationDispatch
