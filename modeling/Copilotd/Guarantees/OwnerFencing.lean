import Copilotd.Base.Run
import Copilotd.Source.Storage.Leases

/-!
# Owner fencing over whole histories

A history is any list of `acquire`, `renew` and `release` calls, each with its
own store, owner and timestamp, interleaved with arbitrary writes of the other
components to the session tables.  Timestamps are not ordered in any way: what
holds below does not rest on clocks that agree.
-/
namespace Copilotd.Guarantees.OwnerFencing

open Base.Run Source.Storage

inductive Call where
  | acquire (store : OwnerLeaseStore) (sdkSessionId ownerId : String) (timestamp : ℚ)
  | renew (store : OwnerLeaseStore) (lease : OwnerLease) (timestamp : ℚ)
  | release (lease : OwnerLease) (timestamp : ℚ)
  | write (tables : SessionTables)

/-- The database, and every lease that `acquire` has returned so far. -/
structure History where
  db : Database := {}
  granted : List OwnerLease := []

/-- A call that raises leaves the history as it was. -/
def call (h : History) : Call → Option History
  | .acquire store sdkSessionId ownerId timestamp =>
    match store.acquire sdkSessionId ownerId timestamp h.db with
    | .ok (lease, db) => some { db, granted := lease :: h.granted }
    | .error _ => some h
  | .renew store lease timestamp =>
    match store.renew lease timestamp h.db with
    | .ok (_, db) => some { h with db }
    | .error _ => some h
  | .release lease timestamp =>
    match OwnerLeaseStore.release lease timestamp h.db with
    | .ok db => some { h with db }
    | .error _ => some h
  | .write tables => some { h with db := { h.db with tables } }

/-- What one call can do to the lease of a session. -/
inductive LeaseMove (session : String) (before after : Option OwnerLease) : Prop where
  | same (unchanged : after = before)
  | first (none_before : before = none) (lease : OwnerLease) (stored : after = some lease)
  | moved (row next : OwnerLease) (was : before = some row) (is : after = some next)
      (token : next.fenceToken = row.fenceToken) (owner : next.ownerId = row.ownerId)
  | takeover (row next : OwnerLease) (was : before = some row) (is : after = some next)
      (token : next.fenceToken = row.fenceToken + 1)

private theorem update_move {db : Database} {target session : String} {row moved : OwnerLease}
    (stored : db.ownerLeases target = some row)
    (owner : moved.ownerId = row.ownerId) (token : moved.fenceToken = row.fenceToken) :
    LeaseMove session (db.ownerLeases session)
      (Function.update db.ownerLeases target (some moved) session) := by
  by_cases same : session = target
  · subst same
    exact .moved row moved stored (Function.update_self ..) token owner
  · exact .same (Function.update_of_ne same ..)

theorem call_moves (h after : History) (c : Call) (called : call h c = some after)
    (session : String) :
    LeaseMove session (h.db.ownerLeases session) (after.db.ownerLeases session) := by
  cases c with
  | acquire store target ownerId timestamp =>
    simp only [call] at called
    split at called
    next lease db returned =>
      cases called
      obtain ⟨_, named, _, leases, how⟩ := acquire_cases returned
      simp only [leases]
      by_cases same : session = target
      · subst same
        rw [Function.update_self]
        rcases how with ⟨absent, _, _⟩ | ⟨current, stored, how⟩
        · exact .first absent lease rfl
        · rcases how with ⟨owned, _, token, _⟩ | ⟨_, token, _⟩
          · exact .moved current lease stored rfl token (named.trans owned.symm)
          · exact .takeover current lease stored rfl token
      · exact .same (Function.update_of_ne same ..)
    · cases called
      exact .same rfl
  | renew store lease timestamp =>
    simp only [call] at called
    split at called
    next renewed db returned =>
      cases called
      obtain ⟨_, row, moved, stored, owner, token, leases⟩ := renew_effects returned
      simp only [leases]
      exact update_move stored owner token
    · cases called
      exact .same rfl
  | release lease timestamp =>
    simp only [call] at called
    split at called
    next db returned =>
      cases called
      obtain ⟨_, row, moved, stored, owner, token, leases⟩ := release_effects returned
      simp only [leases]
      exact update_move stored owner token
    · cases called
      exact .same rfl
  | write tables =>
    cases called
    exact .same rfl

/-- A granted token is at most the stored one, and the stored owner is its
owner while it is the stored one. -/
def Covered (db : Database) (lease : OwnerLease) : Prop :=
  ∃ row, db.ownerLeases lease.sdkSessionId = some row ∧ lease.fenceToken ≤ row.fenceToken ∧
    (lease.fenceToken = row.fenceToken → lease.ownerId = row.ownerId)

/-- Grants are covered by the stored row and no token has two owners. -/
structure GrantInvariant (h : History) : Prop where
  covered : ∀ lease ∈ h.granted, Covered h.db lease
  one_owner : ∀ a ∈ h.granted, ∀ b ∈ h.granted, a.sdkSessionId = b.sdkSessionId →
    a.fenceToken = b.fenceToken → a.ownerId = b.ownerId

theorem Covered.after {before after : Database} {lease : OwnerLease}
    (covered : Covered before lease)
    (move : LeaseMove lease.sdkSessionId (before.ownerLeases lease.sdkSessionId)
      (after.ownerLeases lease.sdkSessionId)) : Covered after lease := by
  obtain ⟨row, stored, below, owner⟩ := covered
  cases move with
  | same unchanged => exact ⟨row, unchanged.trans stored, below, owner⟩
  | first absent => simp [absent] at stored
  | moved row' next was is token same =>
    cases was.symm.trans stored
    exact ⟨next, is, by omega, fun equal => (owner (by omega)).trans same.symm⟩
  | takeover row' next was is token =>
    cases was.symm.trans stored
    exact ⟨next, is, by omega, fun equal => by omega⟩

private theorem granted_after {h after : History} {c : Call} (called : call h c = some after) :
    after.granted = h.granted ∨
      ∃ lease, after.granted = lease :: h.granted ∧
        after.db.ownerLeases lease.sdkSessionId = some lease ∧
        ∀ old, Covered h.db old → old.sdkSessionId = lease.sdkSessionId →
          old.fenceToken = lease.fenceToken → old.ownerId = lease.ownerId := by
  cases c with
  | acquire store target ownerId timestamp =>
    simp only [call] at called
    split at called
    next lease db returned =>
      cases called
      obtain ⟨session, named, _, leases, how⟩ := acquire_cases returned
      subst session
      refine .inr ⟨lease, rfl, by simp [leases], ?_⟩
      intro old covered sameSession sameToken
      obtain ⟨row, stored, below, owner⟩ := covered
      rw [sameSession] at stored
      rcases how with ⟨absent, _, _⟩ | ⟨current, is, how⟩
      · rw [absent] at stored
        cases stored
      · cases is.symm.trans stored
        rcases how with ⟨owned, _, token, _⟩ | ⟨_, token, _⟩
        · exact (owner (by omega)).trans (owned.trans named.symm)
        · omega
    · cases called
      exact .inl rfl
  | renew store lease timestamp =>
    simp only [call] at called
    split at called <;> cases called <;> exact .inl rfl
  | release lease timestamp =>
    simp only [call] at called
    split at called <;> cases called <;> exact .inl rfl
  | write tables =>
    cases called
    exact .inl rfl

theorem call_keeps_grants (h : History) (c : Call) (after : History) (before : GrantInvariant h)
    (called : call h c = some after) : GrantInvariant after := by
  have coveredAfter : ∀ lease ∈ h.granted, Covered after.db lease := fun lease member =>
    (before.covered lease member).after (call_moves h after c called lease.sdkSessionId)
  rcases granted_after called with unchanged | ⟨lease, granted, stored, fresh⟩
  · refine ⟨?_, ?_⟩
    · rw [unchanged]
      exact coveredAfter
    · rw [unchanged]
      exact before.one_owner
  · refine ⟨?_, ?_⟩
    · rw [granted]
      intro a member
      rcases List.mem_cons.mp member with rfl | old
      · exact ⟨a, stored, le_rfl, fun _ => rfl⟩
      · exact coveredAfter a old
    · rw [granted]
      intro a inA b inB sameSession sameToken
      rcases List.mem_cons.mp inA with rfl | oldA
      · rcases List.mem_cons.mp inB with rfl | oldB
        · rfl
        · exact (fresh b (before.covered b oldB) sameSession.symm sameToken.symm).symm
      · rcases List.mem_cons.mp inB with rfl | oldB
        · exact fresh a (before.covered a oldA) sameSession sameToken
        · exact before.one_owner a oldA b oldB sameSession sameToken

theorem GrantInvariant.initial (tables : SessionTables) :
    GrantInvariant { db := { tables } } := by
  refine ⟨?_, ?_⟩ <;> simp

/-- The stored token of every session with a lease is not below what it was. -/
def TokenGrows (before after : History) : Prop :=
  ∀ session row, before.db.ownerLeases session = some row →
    ∃ next, after.db.ownerLeases session = some next ∧ row.fenceToken ≤ next.fenceToken

theorem call_token_grows (h : History) (c : Call) (after : History)
    (called : call h c = some after) : TokenGrows h after := by
  intro session row stored
  cases call_moves h after c called session with
  | same unchanged => exact ⟨row, unchanged.trans stored, le_rfl⟩
  | first absent => simp [absent] at stored
  | moved row' next was is token | takeover row' next was is token =>
    cases was.symm.trans stored
    exact ⟨next, is, by omega⟩

theorem run_token_grows {h after : History} {calls : List Call}
    (reached : run call h calls = some after) : TokenGrows h after := by
  refine run_rel ?_ ?_ call_token_grows reached
  · exact fun _ _ row stored => ⟨row, stored, le_rfl⟩
  · intro s t u first second session row stored
    obtain ⟨next, isNext, below⟩ := first session row stored
    obtain ⟨last, isLast, above⟩ := second session next isNext
    exact ⟨last, isLast, below.trans above⟩

theorem current_owner_unique {db : Database} {a b : OwnerLease} {atA atB : ℚ}
    (session : a.sdkSessionId = b.sdkSessionId)
    (currentA : isCurrent db a atA = true) (currentB : isCurrent db b atB = true) :
    a.ownerId = b.ownerId ∧ a.fenceToken = b.fenceToken := by
  obtain ⟨rowA, storedA, ownerA, tokenA, _⟩ := isCurrent_iff.mp currentA
  obtain ⟨rowB, storedB, ownerB, tokenB, _⟩ := isCurrent_iff.mp currentB
  rw [session] at storedA
  cases storedA.symm.trans storedB
  exact ⟨ownerA.symm.trans ownerB, tokenA.symm.trans tokenB⟩

/-- No row of the session that carries a smaller token is still pending, started
or active. -/
structure Settled (tables : SessionTables) (session : String) (fence : Int) : Prop where
  operations : ∀ row ∈ tables.operations, row.sdkSessionId = session →
    row.ownerFenceToken < fence → row.state ≠ .pending ∧ row.state ≠ .started
  liveness : ∀ row ∈ tables.livenessLeases, row.sdkSessionId = session →
    row.ownerFenceToken < fence → row.state ≠ .active
  interactions : ∀ row ∈ tables.pendingInteractions, row.sdkSessionId = session →
    row.ownerFenceToken < fence → row.state ≠ .pending

theorem takeover_settles {store : OwnerLeaseStore} {session ownerId : String} {timestamp : ℚ}
    {db after : Database} {lease current : OwnerLease}
    (stored : db.ownerLeases session = some current)
    (returned : store.acquire session ownerId timestamp db = .ok (lease, after))
    (bumped : lease.fenceToken ≠ current.fenceToken) :
    Settled after.tables session lease.fenceToken := by
  obtain ⟨_, _, _, _, how⟩ := acquire_cases returned
  rcases how with ⟨absent, _, _⟩ | ⟨row, is, how⟩
  · simp [absent] at stored
  · cases is.symm.trans stored
    rcases how with ⟨_, _, token, _⟩ | ⟨_, _, tables⟩
    · exact absurd token bumped
    · rw [tables]
      exact ⟨fun _ member same below => orphaned_operations member same (by omega),
        fun _ member same below => orphaned_liveness member same (by omega),
        fun _ member same below => orphaned_interactions member same (by omega)⟩

/-- Owner fencing, over every history that starts without leases. -/
theorem owner_fencing (tables : SessionTables) (calls : List Call) (h : History)
    (reached : run call { db := { tables } } calls = some h) :
    (∀ more after, run call h more = some after → TokenGrows h after) ∧
    (∀ a ∈ h.granted, ∀ b ∈ h.granted, a.sdkSessionId = b.sdkSessionId →
      a.fenceToken = b.fenceToken → a.ownerId = b.ownerId) ∧
    (∀ a b atA atB, a.sdkSessionId = b.sdkSessionId → isCurrent h.db a atA = true →
      isCurrent h.db b atB = true → a.ownerId = b.ownerId ∧ a.fenceToken = b.fenceToken) ∧
    (∀ store session ownerId timestamp current lease after,
      h.db.ownerLeases session = some current →
      OwnerLeaseStore.acquire store session ownerId timestamp h.db = .ok (lease, after) →
      lease.fenceToken ≠ current.fenceToken →
      Settled after.tables session lease.fenceToken) := by
  have grants := run_inv call_keeps_grants (GrantInvariant.initial tables) reached
  refine ⟨fun more after continued => run_token_grows continued, grants.one_owner, ?_, ?_⟩
  · exact fun a b atA atB session currentA currentB =>
      current_owner_unique session currentA currentB
  · exact fun store session ownerId timestamp current lease after stored returned bumped =>
      takeover_settles stored returned bumped

/-- One owner acquires, a second one takes the expired lease over. -/
def handover : List Call :=
  [.acquire .standard "session" "first" 0, .acquire .standard "session" "second" 100]

theorem owner_fencing_handover :
    ∃ h, run call { db := {} } handover = some h ∧ h.granted.length = 2 ∧
      (∀ a ∈ h.granted, ∀ b ∈ h.granted, a.sdkSessionId = b.sdkSessionId →
        a.fenceToken = b.fenceToken → a.ownerId = b.ownerId) := by
  have grants : (run call { db := {} } handover).map (·.granted.length) = some 2 := by
    decide +kernel
  obtain ⟨h, reached, both⟩ := Option.map_eq_some_iff.mp grants
  exact ⟨h, reached, both, (owner_fencing {} handover h reached).2.1⟩

end Copilotd.Guarantees.OwnerFencing
