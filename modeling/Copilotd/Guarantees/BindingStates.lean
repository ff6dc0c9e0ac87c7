import Copilotd.Guarantees.OwnerFencing
import Copilotd.Source.Core.BindingCalls

/-!
# The states of a session binding

Calls with any snapshots and any leases share one row.  What starts a generation needs the lease
that holds the session, so generations and fences only grow; everything else is bound to the
generation and the fence of its snapshot.  `invalidate_permissions` writes the attachment state of
its snapshot, which may be the state in which the generation began.
-/
namespace Copilotd.Guarantees.BindingStates

open Base.Run Source.Core.Bindings Source.Core.BindingCalls
open Source.Storage (OwnerLease isCurrent_iff)
open Guarantees.OwnerFencing (TokenGrows call_token_grows)

/-- The attachment is still being opened. -/
def Opening (state : AttachmentState) : Prop := state = .creating ∨ state = .resuming

instance (state : AttachmentState) : Decidable (Opening state) :=
  inferInstanceAs (Decidable (_ ∨ _))

/-- The snapshot is of the row's generation and fence. -/
def Matches (row binding : SessionBinding) : Prop :=
  row.runtimeGeneration = binding.runtimeGeneration ∧
    row.ownerFenceToken = binding.ownerFenceToken ∧
    binding.ownerFenceToken.isSome

instance (row binding : SessionBinding) : Decidable (Matches row binding) :=
  inferInstanceAs (Decidable (_ ∧ _ ∧ _))

/-- Where the permissions of an attached row are invalidated, the snapshot is not one from before
the attachment. -/
def Opened (w : World) : Call → Prop
  | .invalidatePermissions binding =>
    Matches w.row binding → w.row.attachmentState = .attached → ¬ Opening binding.attachmentState
  | _ => True

instance (w : World) (call : Call) : Decidable (Opened w call) := by
  unfold Opened
  split <;> infer_instance

structure Later (before after : SessionBinding) : Prop where
  generation : before.runtimeGeneration ≤ after.runtimeGeneration
  fence : ∀ fence, before.ownerFenceToken = some fence →
    ∃ later, after.ownerFenceToken = some later ∧ fence ≤ later
  version : after = before ∨ before.rowVersion < after.rowVersion
  attached : before.attachmentState = .attached →
    after.runtimeGeneration = before.runtimeGeneration → ¬ Opening after.attachmentState

/-! ## One call -/

variable {session : String} {w : World} {call : Call} {row : SessionBinding}

/-- What a call may do to the row: a new generation under the lease that holds the session, or a
change within the generation. -/
inductive Change (session : String) (w : World) (call : Call) (after : SessionBinding) : Prop where
  | opens (lease : OwnerLease) (now : ℚ) (owned : owns session w.db lease now = true)
      (generation : after.runtimeGeneration = w.row.runtimeGeneration + 1)
      (fence : after.ownerFenceToken = some lease.fenceToken.toNat) (given : call.given = none)
  | keeps (generation : after.runtimeGeneration = w.row.runtimeGeneration)
      (fence : after.ownerFenceToken = w.row.ownerFenceToken)
      (state : after.attachmentState = w.row.attachmentState ∨
        after.attachmentState = .disconnecting ∨
        ∃ kind binding, call.transition = some (kind, binding) ∧ Matches w.row binding ∧
          w.row.attachmentState ∈ kind.expectedStates ∧ after.attachmentState = kind.state)
      (given : ∀ binding ∈ call.given, Matches w.row binding)

variable {binding : SessionBinding}

theorem transition_change {kind : Transition}
    (shape : call.transition = some (kind, binding)) (given : call.given = some binding)
    (written : transitionAttachment w.row kind binding = some row) :
    row.rowVersion = w.row.rowVersion + 1 ∧ Change session w call row := by
  obtain ⟨fence, held, moved⟩ := Option.bind_eq_some_iff.mp written
  unfold SessionBinding.transition at moved
  split at moved
  · rename_i guard
    cases moved
    have fits : Matches w.row binding := by
      refine ⟨guard.1, ?_, ?_⟩
      · rw [guard.2.1, held]
      · rw [held]
        rfl
    refine ⟨rfl, .keeps rfl rfl (.inr (.inr ⟨kind, binding, shape, fits, guard.2.2, rfl⟩)) ?_⟩
    intro other here
    rw [given] at here
    cases here
    exact fits
  · cases moved

theorem written_change (wrote : written session w call = some row) :
    row.rowVersion = w.row.rowVersion + 1 ∧ Change session w call row := by
  cases call with
  | beginAttachment lease state now admitted =>
    unfold written at wrote
    dsimp only at wrote
    split at wrote
    · rename_i owned
      unfold SessionBinding.beginAttachment at wrote
      split at wrote
      · cases wrote
      · split at wrote
        · cases wrote
        · split at wrote
          · cases wrote
          · cases wrote
            exact ⟨rfl, .opens lease now owned.1 rfl rfl rfl⟩
    · cases wrote
  | beginReattach lease now =>
    unfold written at wrote
    dsimp only at wrote
    split at wrote
    · rename_i owned
      unfold SessionBinding.beginReattach at wrote
      split at wrote
      · rename_i guard
        cases wrote
        exact ⟨rfl, .opens lease now owned rfl guard.2.2 rfl⟩
      · cases wrote
    · cases wrote
  | beginClose binding =>
    unfold written at wrote
    dsimp only at wrote
    split at wrote
    · obtain ⟨fence, held, closed⟩ := Option.bind_eq_some_iff.mp wrote
      unfold SessionBinding.beginClose at closed
      split at closed
      · rename_i guard
        cases closed
        refine ⟨rfl, .keeps rfl rfl (.inr (.inl rfl)) ?_⟩
        intro other here
        cases here
        refine ⟨guard.1, ?_, ?_⟩
        · rw [guard.2.1, held]
        · rw [held]
          rfl
      · cases closed
    · cases wrote
  | activate admitted =>
    unfold written at wrote
    dsimp only at wrote
    split at wrote
    · unfold SessionBinding.activate at wrote
      split at wrote
      · cases wrote
        exact ⟨rfl, .keeps rfl rfl (.inl rfl) nofun⟩
      · cases wrote
    · cases wrote
  | markAttached binding | markAttachedBlocked binding | markAttachUnknown binding
  | markOwnerConflict binding | resetCancelledAttachment binding | markRecoveryUnknown binding
  | invalidatePermissions binding | markPermissionsVerified binding =>
    exact transition_change rfl rfl wrote
  | finishDisconnect binding succeeded => exact transition_change rfl rfl wrote
  | acquire | renew | release => cases wrote

theorem perform_row (session : String) (w : World) (call : Call) :
    (perform session w call).row = w.row ∨
      written session w call = some (perform session w call).row := by
  unfold perform
  cases wrote : written session w call with
  | none => exact .inl rfl
  | some row => exact .inr rfl

theorem perform_other (given : call.given = some binding)
    (other : ¬ Matches w.row binding) : (perform session w call).row = w.row := by
  rcases perform_row session w call with same | wrote
  · exact same
  · rcases (written_change wrote).2 with ⟨_, _, _, _, _, free⟩ | ⟨_, _, _, fits⟩
    · rw [given] at free
      cases free
    · exact absurd (fits binding given) other

/-! ## Leases -/

theorem leases_grow (db : Source.Storage.Database) (call : Call) :
    ∀ row, db.ownerLeases session = some row →
      ∃ next, (leases db call).ownerLeases session = some next ∧
        row.fenceToken ≤ next.fenceToken := by
  intro row stored
  cases call with
  | acquire store sdkSessionId ownerId now =>
    unfold leases
    dsimp only
    cases returned : store.acquire sdkSessionId ownerId now db with
    | error raised => exact ⟨row, stored, le_rfl⟩
    | ok granted =>
      have called : OwnerFencing.call { db } (.acquire store sdkSessionId ownerId now) =
          some { db := granted.2, granted := [granted.1] } := by
        simp [OwnerFencing.call, returned]
      exact call_token_grows _ _ _ called session row stored
  | renew store lease now =>
    unfold leases
    dsimp only
    cases returned : store.renew lease now db with
    | error raised => exact ⟨row, stored, le_rfl⟩
    | ok renewed =>
      have called :
        OwnerFencing.call { db } (.renew store lease now) = some { db := renewed.2 } := by
        simp [OwnerFencing.call, returned]
      exact call_token_grows _ _ _ called session row stored
  | release lease now =>
    unfold leases
    dsimp only
    cases returned : Source.Storage.OwnerLeaseStore.release lease now db with
    | error raised => exact ⟨row, stored, le_rfl⟩
    | ok after =>
      have called : OwnerFencing.call { db } (.release lease now) = some { db := after } := by
        simp [OwnerFencing.call, returned]
      exact call_token_grows _ _ _ called session row stored
  | _ => exact ⟨row, stored, le_rfl⟩

theorem owns_stored {lease : OwnerLease} {now : ℚ} (owned : owns session w.db lease now = true) :
    ∃ row, w.db.ownerLeases session = some row ∧ row.fenceToken = lease.fenceToken := by
  obtain ⟨current, named⟩ := of_decide_eq_true owned
  obtain ⟨row, stored, _, token, _⟩ := isCurrent_iff.mp current
  exact ⟨row, named ▸ stored, token⟩

/-- The row's fence is one that a stored lease has reached. -/
def Inv (session : String) (w : World) : Prop :=
  ∀ fence, w.row.ownerFenceToken = some fence →
    ∃ lease, w.db.ownerLeases session = some lease ∧ fence ≤ lease.fenceToken.toNat

theorem Inv.perform (inv : Inv session w) (call : Call) : Inv session (perform session w call) := by
  intro fence held
  have covered :
    ∃ lease, w.db.ownerLeases session = some lease ∧ fence ≤ lease.fenceToken.toNat := by
    rcases perform_row session w call with same | wrote
    · exact inv fence (same ▸ held)
    · rcases (written_change wrote).2 with ⟨lease, now, owned, _, opened, _⟩ | ⟨_, kept, _, _⟩
      · obtain ⟨row, stored, token⟩ := owns_stored owned
        rw [opened] at held
        cases held
        exact ⟨row, stored, by rw [token]⟩
      · exact inv fence (kept ▸ held)
  obtain ⟨lease, stored, below⟩ := covered
  obtain ⟨next, later, grows⟩ := leases_grow w.db call lease stored
  exact ⟨next, later, below.trans (Int.toNat_le_toNat grows)⟩

/-! ## Runs -/

/-- What every call keeps to: as `Later`, from any state in which the attachment is not being
opened. -/
structure Onward (before after : SessionBinding) : Prop where
  generation : before.runtimeGeneration ≤ after.runtimeGeneration
  fence : ∀ fence, before.ownerFenceToken = some fence →
    ∃ later, after.ownerFenceToken = some later ∧ fence ≤ later
  version : after = before ∨ before.rowVersion < after.rowVersion
  settled : ¬ Opening before.attachmentState →
    after.runtimeGeneration = before.runtimeGeneration → ¬ Opening after.attachmentState

theorem Onward.refl (row : SessionBinding) : Onward row row where
  generation := le_rfl
  fence := fun fence held => ⟨fence, held, le_rfl⟩
  version := .inl rfl
  settled := fun settled _ => settled

theorem Onward.trans {first second third : SessionBinding} (one : Onward first second)
    (two : Onward second third) : Onward first third where
  generation := one.generation.trans two.generation
  fence := by
    intro fence held
    obtain ⟨middle, there, below⟩ := one.fence fence held
    obtain ⟨last, here, above⟩ := two.fence middle there
    exact ⟨last, here, below.trans above⟩
  version := by
    rcases two.version with same | grown
    · exact same ▸ one.version
    · rcases one.version with same | before
      · exact .inr (same ▸ grown)
      · exact .inr (before.trans grown)
  settled := by
    intro settled same
    have still : second.runtimeGeneration = first.runtimeGeneration :=
      le_antisymm (same ▸ two.generation) one.generation
    exact two.settled (one.settled settled still) (same.trans still.symm)

theorem transition_settled {kind : Transition}
    (shape : call.transition = some (kind, binding)) (opened : Opened w call)
    (fits : Matches w.row binding) (expected : w.row.attachmentState ∈ kind.expectedStates) :
    ¬ Opening kind.state := by
  cases call <;> cases shape
  case invalidatePermissions =>
    exact opened fits (List.mem_singleton.mp expected)
  case finishDisconnect succeeded =>
    cases succeeded <;> decide
  all_goals decide

theorem perform_onward (inv : Inv session w) (opened : Opened w call) :
    Onward w.row (perform session w call).row := by
  rcases perform_row session w call with same | wrote
  · rw [same]
    exact .refl w.row
  · obtain ⟨version, change⟩ := written_change wrote
    generalize (perform session w call).row = after at version change
    have grown : w.row.rowVersion < after.rowVersion := by omega
    cases change with
    | opens lease now owned generation fence _ =>
      refine ⟨by omega, ?_, .inr grown, fun _ same => by omega⟩
      intro old held
      obtain ⟨row, stored, token⟩ := owns_stored owned
      obtain ⟨lease', also, below⟩ := inv old held
      cases stored.symm.trans also
      exact ⟨_, fence, token ▸ below⟩
    | keeps generation fence state given =>
      refine ⟨generation.ge, ?_, .inr grown, ?_⟩
      · exact fun old held => ⟨old, fence.trans held, le_rfl⟩
      · intro settled _
        rcases state with same | closing | ⟨kind, binding, shape, fits, expected, becomes⟩
        · exact same ▸ settled
        · rw [closing]
          decide
        · rw [becomes]
          exact transition_settled shape opened fits expected

/-! ## Main results -/

theorem run_onward {s t : World} {calls : List Call} (inv : Inv session s)
    (opened : Along (step session) Opened s calls) (reached : run (step session) s calls = some t) :
    Inv session t ∧ Onward s.row t.row := by
  have keep : ∀ before call after, Inv session before ∧ Onward s.row before.row →
      Opened before call → step session before call = some after →
        Inv session after ∧ Onward s.row after.row := by
    intro before call after kept opened taken
    cases taken
    exact ⟨kept.1.perform call, kept.2.trans (perform_onward kept.1 opened)⟩
  exact run_inv_along keep opened ⟨inv, Onward.refl s.row⟩ reached

/-- Between any two states of a run the generation, the fence and the row version only grow, an
attachment is not opened again within its generation, and a call that is bound to another generation
or fence changes nothing. -/
theorem binding_states (session : String) {start s t : World} {earlier later : List Call}
    (unowned : start.row.ownerFenceToken = none)
    (opened : Along (step session) Opened start (earlier ++ later))
    (reached : run (step session) start earlier = some s)
    (onwards : run (step session) s later = some t) :
    Later s.row t.row ∧
      ∀ call binding, call.given = some binding → ¬ Matches t.row binding →
        (perform session t call).row = t.row := by
  obtain ⟨before, after⟩ := along_append reached opened
  have begins : Inv session start := by
    intro fence held
    rw [unowned] at held
    cases held
  have inv := (run_onward begins before reached).1
  have onward := (run_onward inv after onwards).2
  refine ⟨⟨onward.generation, onward.fence, onward.version, ?_⟩, fun call binding => perform_other⟩
  intro attached
  exact onward.settled (by rw [attached]; decide)

def firstLease : OwnerLease := ⟨"session", "owner", 1, 0, 0, 60⟩

/-- The row as the first attachment leaves it. -/
def creating : SessionBinding :=
  { attachmentState := .creating, runtimeGeneration := 1, ownerFenceToken := some 1,
    rowVersion := 2 }

def attach : List Call :=
  [.acquire .standard "session" "owner" 0, .beginAttachment firstLease .creating 1 true,
    .markAttached creating]

/-- Another verification, and an attachment for the next generation. -/
def reattach : List Call := [.markPermissionsVerified creating, .beginReattach firstLease 2]

def worldAfter (calls : List Call) : World := calls.foldl (perform "session") {}

theorem binding_states_reattached :
    (worldAfter attach).row.attachmentState = .attached ∧
      Later (worldAfter attach).row (worldAfter (attach ++ reattach)).row := by
  have opened : Along (step "session") Opened {} (attach ++ reattach) := by
    decide +kernel
  have reached : run (step "session") {} attach = some (worldAfter attach) := rfl
  have onwards : run (step "session") (worldAfter attach) reattach =
      some (worldAfter (attach ++ reattach)) := rfl
  exact ⟨by decide +kernel, (binding_states "session" rfl opened reached onwards).1⟩

/-- The snapshot of the beginning invalidates the permissions of the attached row. -/
theorem stale_invalidation_reopens :
    (worldAfter (attach.take 2)).row = creating ∧
      (worldAfter attach).row.attachmentState = .attached ∧
      (perform "session" (worldAfter attach)
        (.invalidatePermissions creating)).row.runtimeGeneration =
        (worldAfter attach).row.runtimeGeneration ∧
      (perform "session" (worldAfter attach)
        (.invalidatePermissions creating)).row.attachmentState =
        .creating := by
  decide +kernel

end Copilotd.Guarantees.BindingStates
