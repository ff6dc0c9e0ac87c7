import Copilotd.Base.Pool
import Copilotd.Source.Core.Interactions

/-!
# Interaction settlement: one claim, and what the handler is given

The row moves out of `pending` in the transaction that claims, so at most one
call ever returns `claimed=True` (`settlement_matches_claim`).  The value that
`request` returns comes from the future or, after a timeout, from its own losing
call, which reads it back from the volatile store.  The store holds the redacted
form of an OAuth response and is emptied by the tails of the other calls, so the
value is the claimant's response only while the store still has it in full
(`Steady`); `timed_out_oauth_returns_redacted` is the run in which it has not.
-/
namespace Copilotd.Guarantees.InteractionSettlement

open Base.Run Base.Pool Source.Core.Interactions

/-- What `request` has returned, or what it reads off its future if it wakes now. -/
def told (w : World) : Option InteractionResponse :=
  match w.handler with
  | .returned value => some value
  | .opening | .answering | .waiting => w.future
  | .settling | .cancelling | .raised => none

/-- `request` has not left its wait for the future. -/
def awaits (w : World) : Bool :=
  match w.handler with
  | .opening | .answering | .waiting => true
  | _ => false

/-- A losing call that gives `request` its value finds the claimant's response in
the volatile store, in full. -/
def FinishSteady (w : World) (call : Call) : Prop :=
  match call.phase with
  | .lost args _ =>
    call.origin = .timeout ∨ (args.captured ∧ awaits w ∧ w.future = none) →
      ∀ claim ∈ w.claims, w.responseContent = some claim.response
  | .fetchingKind =>
    awaits w → ∀ claim ∈ w.claims, claim.response = interactionFallback w.row.kind
  | _ => True

/-- A call that claims does not find that `request` was given another value. -/
def TransactSteady (w : World) (call : Call) : Prop :=
  match call.phase with
  | .transaction args => w.claimable args → ∀ value ∈ told w, value = args.response
  | _ => True

def Steady (w : World) : Label → Prop
  | .call index .finish => ∀ call ∈ w.calls[index]?, FinishSteady w call
  | .call index (.transact _) => ∀ call ∈ w.calls[index]?, TransactSteady w call
  | _ => True

/-! ## The invariant -/

/-- The call has claimed and has not returned yet. -/
def winning (call : Call) : Bool :=
  match call.phase with
  | .committing _ | .committed _ => true
  | _ => false

/-- The digest in the row belongs to what a claimant persisted. -/
def HashOk (w : World) (hash : Option String) : Prop :=
  ∀ digest ∈ hash, ∃ claim ∈ w.claims, digest = w.sha256 claim.persisted

def PhaseOk (w : World) : Phase → Prop
  | .committing args | .committed args | .posted args => args ∈ w.claims
  | .lost _ row => HashOk w row.responseHash
  | _ => True

structure Settled (w : World) : Prop where
  pending : w.row.state = .pending → w.claims = []
  once : w.claims.length ≤ 1
  hash : HashOk w w.row.responseHash
  content : ∀ value ∈ w.responseContent, ∃ claim ∈ w.claims, value = claim.persisted
  value : ∀ value ∈ told w, ∀ claim ∈ w.claims, value = claim.response
  calls : ∀ call ∈ w.calls, PhaseOk w call.phase
  counted : w.outcomes.countP (·.1) + w.calls.countP winning ≤ w.claims.length

variable {w : World}

theorem Settled.unique (sound : Settled w) {a b : Settle} (left : a ∈ w.claims)
    (right : b ∈ w.claims) : a = b := by
  have once := sound.once
  match claims : w.claims with
  | [] =>
    rw [claims] at left
    cases left
  | [only] =>
    rw [claims, List.mem_singleton] at left right
    rw [left, right]
  | _ :: _ :: _ =>
    rw [claims] at once
    simp at once

/-! ## What the helpers give to `request` -/

variable {origin : Origin} {value : InteractionResponse}

theorem told_fail (given : value ∈ told (w.fail origin)) : value ∈ told w := by
  cases origin <;> first | exact given | cases given

theorem told_leave {left : InteractionResponse} (given : value ∈ told (w.leave origin left)) :
    value ∈ told w ∨ (origin = .timeout ∧ value = left) := by
  cases origin with
  | timeout =>
    have same : left = value := Option.some.inj given
    exact .inr ⟨rfl, same.symm⟩
  | cancelled => cases given
  | respond | automatic | cancelPending | decline => exact .inl given

theorem told_resolve {captured : Bool} {set : InteractionResponse}
    (given : value ∈ told (w.resolve captured set)) :
    value ∈ told w ∨ (value = set ∧ captured ∧ awaits w ∧ w.future = none) := by
  unfold World.resolve at given
  split at given
  · next free =>
    unfold told awaits
    cases here : w.handler with
    | returned other =>
      rw [here] at given
      exact .inl given
    | opening | answering | waiting =>
      rw [here] at given
      have same : set = value := Option.some.inj given
      exact .inr ⟨same.symm, free.1, rfl, free.2⟩
    | settling | cancelling | raised =>
      rw [here] at given
      cases given
  · exact .inl given

/-! ## One stretch of a call -/

/-- A stretch that claims nothing: what it may leave behind. -/
structure Stretch (w after : World) (call : Call) (phase : Option Phase) : Prop where
  claims : after.claims = w.claims
  sha256 : after.sha256 = w.sha256
  state : after.row.state = .pending → w.row.state = .pending
  hash : after.row.responseHash = w.row.responseHash
  content : ∀ value ∈ after.responseContent, ∃ claim ∈ w.claims, value = claim.persisted
  value : ∀ value ∈ told after, ∀ claim ∈ w.claims, value = claim.response
  next : ∀ next ∈ phase, PhaseOk w next
  counted : after.outcomes.countP (·.1) + (phase.elim 0 fun next =>
      if winning { call with phase := next } then 1 else 0) ≤
    w.outcomes.countP (·.1) + if winning call then 1 else 0

def Stretch.place (w after : World) (index : Nat) (call : Call) (phase : Option Phase) : World :=
  { after with
    calls := w.calls.eraseIdx index ++ (phase.map fun phase => { call with phase }).toList }

theorem winning_place (w after : World) (index : Nat) (call : Call) (phase : Option Phase) :
    (Stretch.place w after index call phase).calls.countP winning =
      (w.calls.eraseIdx index).countP winning + (phase.elim 0 fun next =>
        if winning { call with phase := next } then 1 else 0) := by
  cases phase with
  | none => simp [Stretch.place]
  | some next => simp [Stretch.place, List.countP_singleton]

variable {phase : Option Phase} {call : Call} {index : Nat} {after : World}

theorem mem_place {other : Call} (member : other ∈ (Stretch.place w after index call phase).calls) :
    other ∈ w.calls ∨ ∃ next ∈ phase, other = { call with phase := next } := by
  rcases List.mem_append.mp member with old | new
  · exact .inl (List.mem_of_mem_eraseIdx old)
  · cases phase with
    | none => cases new
    | some next => exact .inr ⟨next, rfl, List.mem_singleton.mp new⟩

theorem Settled.stretch (sound : Settled w) (found : w.calls[index]? = some call)
    (by_ : Stretch w after call phase) : Settled (Stretch.place w after index call phase) := by
  have claims : (Stretch.place w after index call phase).claims = w.claims := by_.claims
  have sha : (Stretch.place w after index call phase).sha256 = w.sha256 := by_.sha256
  have hashes : ∀ hash, HashOk w hash → HashOk (Stretch.place w after index call phase) hash := by
    intro hash ok
    unfold HashOk
    rw [claims, sha]
    exact ok
  have phases : ∀ p, PhaseOk w p → PhaseOk (Stretch.place w after index call phase) p := by
    intro p ok
    cases p with
    | committing args | committed args | posted args =>
      unfold PhaseOk
      rw [claims]
      exact ok
    | lost args row => exact hashes _ ok
    | reading | checking | transaction | expiringContent | contentExpired | fetchingKind =>
      trivial
  constructor
  · intro pending
    rw [claims]
    exact sound.pending (by_.state pending)
  · rw [claims]
    exact sound.once
  · have hash : (Stretch.place w after index call phase).row.responseHash = w.row.responseHash :=
      by_.hash
    rw [hash]
    exact hashes _ sound.hash
  · rw [claims]
    exact by_.content
  · rw [claims]
    exact by_.value
  · intro other member
    rcases mem_place member with old | ⟨next, isNext, rfl⟩
    · exact phases _ (sound.calls other old)
    · exact phases _ (by_.next next isNext)
  · have before := countP_split found winning
    have count := winning_place w after index call phase
    have outcomes : (Stretch.place w after index call phase).outcomes = after.outcomes := rfl
    have counted := by_.counted
    have total := sound.counted
    rw [claims, count, outcomes]
    omega

theorem Stretch.idle (sound : Settled w) (ok : ∀ next ∈ phase, PhaseOk w next)
    (plain : ∀ next ∈ phase, winning { call with phase := next } = false) :
    Stretch w w call phase := by
  refine ⟨rfl, rfl, id, rfl, sound.content, sound.value, ok, ?_⟩
  cases phase with
  | none => simp
  | some next => simp [plain next rfl]

theorem Stretch.discarded (sound : Settled w) :
    Stretch w w.discard call none := by
  refine ⟨rfl, rfl, id, rfl, ?_, sound.value, ?_, ?_⟩
  · intro value member
    cases member
  · intro next member
    cases member
  · simp [World.discard]

theorem Stretch.failed (sound : Settled w) (ok : ∀ next ∈ phase, PhaseOk w next)
    (plain : ∀ next ∈ phase, winning { call with phase := next } = false) :
    Stretch w (w.fail call.origin) call phase := by
  have kept : (w.fail call.origin).row = w.row ∧ (w.fail call.origin).claims = w.claims ∧
      (w.fail call.origin).sha256 = w.sha256 ∧
      (w.fail call.origin).responseContent = w.responseContent ∧
      (w.fail call.origin).outcomes = w.outcomes := by
    unfold World.fail
    split <;> exact ⟨rfl, rfl, rfl, rfl, rfl⟩
  obtain ⟨row, claims, sha, content, outcomes⟩ := kept
  refine ⟨claims, sha, ?_, ?_, ?_, ?_, ok, ?_⟩
  · rw [row]
    exact id
  · rw [row]
  · rw [content]
    exact sound.content
  · intro value given
    exact sound.value value (told_fail given)
  · rw [outcomes]
    cases phase with
    | none => simp
    | some next => simp [plain next rfl]

variable {args : Settle}

theorem Stretch.restored (sound : Settled w) (member : args ∈ w.claims)
    (ok : ∀ next ∈ phase, PhaseOk w next) (wins : phase.isSome → winning call = true) :
    Stretch w { w with responseContent := some args.persisted } call phase := by
  refine ⟨rfl, rfl, id, rfl, ?_, sound.value, ok, ?_⟩
  · intro value content
    exact ⟨args, member, (Option.some.inj content).symm⟩
  · cases phase with
    | none => simp
    | some next =>
      rw [wins rfl]
      simp only [Option.elim_some, if_true]
      split <;> omega

theorem Stretch.tail {w after : World} {call : Call} {captured claimed : Bool}
    {settled : InteractionResponse} (sound : Settled w)
    (effect : after = w.resolve captured settled ∨ after = (w.resolve captured settled).discard)
    (wins : claimed = true → winning call = true)
    (right : call.origin = .timeout ∨ (captured ∧ awaits w ∧ w.future = none) →
      ∀ claim ∈ w.claims, settled = claim.response) :
    Stretch w
      ({ after with outcomes := (claimed, settled) :: w.outcomes }.leave call.origin settled)
      call none := by
  have resolved : (w.resolve captured settled).row = w.row ∧
      (w.resolve captured settled).claims = w.claims ∧
      (w.resolve captured settled).sha256 = w.sha256 ∧
      (w.resolve captured settled).responseContent = w.responseContent := by
    unfold World.resolve
    split <;> exact ⟨rfl, rfl, rfl, rfl⟩
  have kept : after.row = w.row ∧ after.claims = w.claims ∧ after.sha256 = w.sha256 ∧
      (after.responseContent = w.responseContent ∨ after.responseContent = none) ∧
      told after = told (w.resolve captured settled) := by
    obtain ⟨row, claims, sha, content⟩ := resolved
    rcases effect with rfl | rfl
    · exact ⟨row, claims, sha, .inl content, rfl⟩
    · exact ⟨row, claims, sha, .inr rfl, rfl⟩
  obtain ⟨row, claims, sha, content, same⟩ := kept
  have left : ∀ x : World, (x.leave call.origin settled).row = x.row ∧
      (x.leave call.origin settled).claims = x.claims ∧
      (x.leave call.origin settled).sha256 = x.sha256 ∧
      (x.leave call.origin settled).responseContent = x.responseContent ∧
      (x.leave call.origin settled).outcomes = x.outcomes := by
    intro x
    unfold World.leave
    split <;> exact ⟨rfl, rfl, rfl, rfl, rfl⟩
  obtain ⟨leftRow, leftClaims, leftSha, leftContent, leftOutcomes⟩ :=
    left { after with outcomes := (claimed, settled) :: w.outcomes }
  refine ⟨leftClaims.trans claims, leftSha.trans sha, ?_, ?_, ?_, ?_, ?_, ?_⟩
  · rw [leftRow]
    intro pending
    rw [← row]
    exact pending
  · rw [leftRow]
    exact congrArg PendingInteraction.responseHash row
  · rw [leftContent]
    intro value member
    rcases content with kept | gone
    · exact sound.content value (kept ▸ member)
    · rw [show ({ after with outcomes := (claimed, settled) :: w.outcomes } : World).responseContent
        = none from gone] at member
      cases member
  · intro value given claim member
    rcases told_leave given with given | ⟨timeout, rfl⟩
    · have given : value ∈ told (w.resolve captured settled) := same ▸ given
      rcases told_resolve given with given | ⟨rfl, listening⟩
      · exact sound.value value given claim member
      · exact right (.inr listening) claim member
    · exact right (.inl timeout) claim member
  · intro next member
    cases member
  · rw [leftOutcomes]
    cases claimed with
    | false => simp
    | true => simp [wins rfl]

section

variable (sound : Settled w)
include sound

theorem respondChecks_stretch {row : PendingInteraction} {answer : Option InteractionResponse}
    {checked now : ℚ} (taken : respondChecks w row answer checked now = (after, phase)) :
    Stretch w after call phase := by
  have idle : ∀ p : Option Phase, (∀ next ∈ p, next = .expiringContent ∨
      ∃ args, next = .transaction args) → Stretch w w call p := by
    intro p shape
    refine Stretch.idle sound ?_ ?_
    · intro next member
      rcases shape next member with rfl | ⟨args, rfl⟩ <;> trivial
    · intro next member
      rcases shape next member with rfl | ⟨args, rfl⟩ <;> rfl
  unfold respondChecks at taken
  split at taken
  · cases taken
    exact Stretch.discarded sound
  · split at taken
    · cases taken
      exact idle none (by simp)
    · split at taken
      · cases taken
        exact idle _ (by simp [World.settleFallback, World.settle])
      · split at taken
        · cases taken
          exact idle none (by simp)
        · split at taken
          · cases taken
            exact idle _ (by simp)
          · split at taken
            · cases taken
              exact idle none (by simp)
            · cases taken
              exact idle _ (by simp [World.settle])

theorem recover_claim {claim : Settle} {hash : Option String}
    (ok : HashOk w hash) (full : w.responseContent = some claim.response) :
    w.recover hash = some claim.response := by
  have matching : (hash.all fun digest => w.sha256 claim.response = digest) = true := by
    cases hash with
    | none => rfl
    | some digest =>
      obtain ⟨other, otherMember, isDigest⟩ := ok digest rfl
      obtain ⟨third, thirdMember, isPersisted⟩ := sound.content _ full
      rw [sound.unique otherMember thirdMember] at isDigest
      rw [isPersisted, isDigest]
      simp
  unfold World.recover
  rw [full, Option.filter_some, if_pos matching]

theorem finish_stretch (ok : PhaseOk w call.phase)
    (steady : FinishSteady w call) (taken : resume w call .finish = some (after, phase)) :
    Stretch w after call phase := by
  unfold FinishSteady at steady
  cases here : call.phase with
  | lost args row =>
    rw [here] at ok steady
    simp only [resume, here, Option.some.injEq, Prod.mk.injEq] at taken
    obtain ⟨rfl, rfl⟩ := taken
    refine @Stretch.tail w _ call args.captured false _ sound ?_ (by simp) ?_
    · split
      · exact .inr rfl
      · exact .inl rfl
    · intro listening claim member
      rw [recover_claim sound ok (steady listening claim member), Option.getD_some]
  | committed args =>
    rw [here] at ok
    simp only [resume, here, Option.some.injEq, Prod.mk.injEq] at taken
    obtain ⟨rfl, rfl⟩ := taken
    refine Stretch.tail sound (.inr rfl) ?_ ?_
    · intro _
      simp [winning, here]
    · intro _ claim member
      rw [sound.unique ok member]
  | contentExpired =>
    simp only [resume, here] at taken
    split at taken
    · cases taken
      exact Stretch.idle sound (by simp [PhaseOk]) (by simp [winning])
    · cases taken
      exact Stretch.discarded sound
  | fetchingKind =>
    rw [here] at steady
    simp only [resume, here] at taken
    split at taken
    · next free =>
      cases taken
      refine ⟨rfl, rfl, id, rfl, by simp [World.discard], ?_, by simp, by simp [World.discard]⟩
      intro value given claim member
      have resolved : value ∈ told (w.resolve true (interactionFallback w.row.kind)) := by
        unfold World.resolve
        rw [if_pos ⟨rfl, free⟩]
        exact given
      rcases told_resolve resolved with old | ⟨rfl, _, awaiting, _⟩
      · exact sound.value value old claim member
      · exact (steady awaiting claim member).symm
    · cases taken
      exact Stretch.failed sound (by simp) (by simp)
  | reading | checking | transaction | committing | posted | expiringContent =>
    simp [resume, here] at taken

theorem Settled.claim (found : w.calls[index]? = some call)
    (here : call.phase = .transaction args) (claimable : w.claimable args = true)
    (same : ∀ value ∈ told w, value = args.response) :
    Settled (Stretch.place w (w.claim args) index call (some (.committing args))) := by
  have pending : w.row.state = .pending := by
    exact (of_decide_eq_true claimable).1
  have fresh := sound.pending pending
  have claims : (Stretch.place w (w.claim args) index call (some (.committing args))).claims =
      [args] := by
    change args :: w.claims = [args]
    rw [fresh]
  have plain : ∀ p, PhaseOk w p →
      PhaseOk (Stretch.place w (w.claim args) index call (some (.committing args))) p := by
    intro p ok
    cases p with
    | committing other | committed other | posted other => exact List.mem_cons_of_mem _ ok
    | lost other row =>
      intro digest member
      obtain ⟨claim, claimed, is⟩ := ok digest member
      exact ⟨claim, List.mem_cons_of_mem _ claimed, is⟩
    | reading | checking | transaction | expiringContent | contentExpired | fetchingKind =>
      trivial
  constructor
  · intro still
    exfalso
    unfold Stretch.place World.claim at still
    split at still <;> cases still
  · rw [claims]
    exact le_refl 1
  · intro digest member
    exact ⟨args, List.mem_cons_self .., (Option.some.inj member).symm⟩
  · intro value member
    exact ⟨args, List.mem_cons_self .., (Option.some.inj member).symm⟩
  · intro value given claim member
    rw [claims] at member
    rw [List.mem_singleton.mp member]
    exact same value given
  · intro other member
    rcases mem_place member with old | ⟨next, isNext, rfl⟩
    · exact plain _ (sound.calls other old)
    · cases isNext
      exact List.mem_cons_self ..
  · have before := countP_split found winning
    have total := sound.counted
    have outcomes : (Stretch.place w (w.claim args) index call
      (some (.committing args))).outcomes = w.outcomes := rfl
    have lost : winning call = false := by simp [winning, here]
    have won : winning { call with phase := .committing args } = true := rfl
    rw [winning_place, claims, outcomes]
    rw [fresh] at total
    simp only [Option.elim_some, won, lost, if_true, List.length_nil, List.length_singleton,
      Bool.false_eq_true, if_false] at before total ⊢
    omega

theorem transact_settled {room : Bool} (found : w.calls[index]? = some call)
    (steady : TransactSteady w call)
    (taken : resume w call (.transact room) = some (after, phase)) :
    Settled (Stretch.place w after index call phase) := by
  unfold TransactSteady at steady
  cases here : call.phase with
  | transaction args =>
    rw [here] at steady
    simp only [resume, here] at taken
    split at taken
    · next claimable =>
      split at taken
      · cases taken
        exact sound.claim found here claimable (steady claimable)
      · cases taken
        exact sound.stretch found (Stretch.failed sound (by simp) (by simp))
    · cases taken
      refine sound.stretch found (Stretch.idle sound ?_ (by simp [winning]))
      intro next member
      cases member
      exact sound.hash
  | expiringContent =>
    simp only [resume, here] at taken
    cases taken
    refine sound.stretch found ⟨rfl, rfl, ?_, ?_, sound.content, sound.value, ?_, ?_⟩
    · dsimp only
      split
      · intro gone
        cases gone
      · exact id
    · dsimp only
      split <;> rfl
    · simp [PhaseOk]
    · simp [winning]
  | reading | checking | lost | committing | committed | posted | contentExpired
  | fetchingKind =>
    simp [resume, here] at taken

theorem resume_settled {action : Action} (found : w.calls[index]? = some call)
    (steady : Steady w (.call index action)) (taken : resume w call action = some (after, phase)) :
    Settled (Stretch.place w after index call phase) := by
  have ok := sound.calls call (mem_of_getElem? found)
  cases action with
  | transact room => exact transact_settled sound found (steady call found) taken
  | finish => exact sound.stretch found (finish_stretch sound ok (steady call found) taken)
  | read =>
    cases here : call.phase <;> simp only [resume, here] at taken <;> cases taken
    exact sound.stretch found (Stretch.idle sound (by simp [PhaseOk]) (by simp [winning]))
  | enter checked now =>
    refine sound.stretch found ?_
    simp only [resume] at taken
    split at taken
    · exact respondChecks_stretch sound (Option.some.inj taken)
    · exact respondChecks_stretch sound (Option.some.inj taken)
    · split at taken
      · cases taken
        exact Stretch.idle sound (by simp [PhaseOk, World.settleFallback, World.settle])
          (by simp [winning, World.settleFallback, World.settle])
      · cases taken
        exact Stretch.idle sound (by simp) (by simp)
    · cases taken
  | reduce =>
    refine sound.stretch found ?_
    cases here : call.phase with
    | committing args =>
      rw [here] at ok
      simp only [resume, here] at taken
      cases taken
      refine Stretch.restored sound ok ?_ (by simp [winning, here])
      intro next member
      cases member
      exact ok
    | posted args =>
      rw [here] at ok
      simp only [resume, here] at taken
      cases taken
      exact Stretch.restored sound ok (by simp) (by simp)
    | reading | checking | transaction | lost | committed | expiringContent | contentExpired
    | fetchingKind =>
      simp [resume, here] at taken
  | abandon =>
    refine sound.stretch found ?_
    cases here : call.phase <;> simp only [resume, here] at taken <;> cases taken
    rw [here] at ok
    refine Stretch.failed sound ?_ (by simp [winning])
    intro next member
    cases member
    exact ok
  | raise =>
    cases taken
    exact sound.stretch found (Stretch.failed sound (by simp) (by simp))

/-! ## Whole runs -/

theorem Settled.add {v : World} {phase : Phase}
    (same : v.row = w.row ∧ v.sha256 = w.sha256 ∧ v.responseContent = w.responseContent ∧
      v.calls = w.calls ∧ v.claims = w.claims ∧ v.outcomes = w.outcomes)
    (given : ∀ value ∈ told v, value ∈ told w)
    (plain : PhaseOk w phase ∧ winning { origin, phase } = false) :
    Settled (v.add origin phase) := by
  obtain ⟨row, sha, content, calls, claims, outcomes⟩ := same
  obtain ⟨scope, sha256, vRow, requestContent, vContent, future, registered, handler, vCalls,
    vClaims, vOutcomes⟩ := v
  subst row sha content calls claims outcomes
  refine ⟨sound.pending, sound.once, sound.hash, sound.content, ?_, ?_, ?_⟩
  · intro value told claim member
    exact sound.value value (given value told) claim member
  · exact forall_push sound.calls plain.1
  · have count : (w.calls ++ [{ origin, phase : Call }]).countP winning =
        w.calls.countP winning := by
      rw [List.countP_append, List.countP_singleton, plain.2]
      rfl
    have total := sound.counted
    change w.outcomes.countP (·.1) + (w.calls ++ [{ origin, phase : Call }]).countP winning ≤ _
    rw [count]
    exact total

end

theorem Settled.handler {w : World} {handler : Handler} {registered : Bool} (sound : Settled w)
    (given : ∀ value ∈ told { w with handler := handler, registered := registered },
      value ∈ told w) :
    Settled { w with handler := handler, registered := registered } := by
  refine ⟨sound.pending, sound.once, sound.hash, sound.content, ?_, sound.calls, sound.counted⟩
  intro value told claim member
  exact sound.value value (given value told) claim member

theorem step_settled (w : World) (label : Label) (v : World) (sound : Settled w)
    (steady : Steady w label) (taken : step w label = some v) : Settled v := by
  cases label with
  | respond answer =>
    cases taken
    exact sound.add ⟨rfl, rfl, rfl, rfl, rfl, rfl⟩ (fun _ => id) ⟨trivial, rfl⟩
  | cancelPending =>
    cases taken
    exact sound.add ⟨rfl, rfl, rfl, rfl, rfl, rfl⟩ (fun _ => id) ⟨trivial, rfl⟩
  | decline now =>
    simp only [step] at taken
    split at taken
    · next opening =>
      cases taken
      refine sound.add ⟨rfl, rfl, rfl, rfl, rfl, rfl⟩ ?_ ⟨trivial, rfl⟩
      intro value given
      unfold told
      rw [opening.1]
      exact given
    · cases taken
  | automatic answer =>
    simp only [step] at taken
    split at taken
    · next opening =>
      cases taken
      refine sound.add ⟨rfl, rfl, rfl, rfl, rfl, rfl⟩ ?_ ⟨trivial, rfl⟩
      intro value given
      unfold told
      rw [opening.1]
      exact given
    · cases taken
  | await =>
    simp only [step] at taken
    split at taken
    · next before =>
      cases taken
      refine sound.handler ?_
      intro value given
      unfold told
      rcases before.1 with opening | answering
      · rw [opening]
        exact given
      · rw [answering]
        exact given
    · cases taken
  | wake =>
    simp only [step] at taken
    split at taken
    · next waiting resolved =>
      cases taken
      refine sound.handler ?_
      intro value given
      unfold told
      rw [waiting]
      exact resolved.trans given
    · cases taken
  | timeout now | cancel now =>
    simp only [step] at taken
    split at taken
    · cases taken
      exact sound.add ⟨rfl, rfl, rfl, rfl, rfl, rfl⟩ (by simp [told]) ⟨trivial, rfl⟩
    · cases taken
  | abort =>
    simp only [step] at taken
    split at taken
    · cases taken
      exact @Settled.handler w .raised w.registered sound (by simp [told])
    · cases taken
      exact sound.handler (by simp [told])
    · cases taken
  | call index action =>
    simp only [step, Option.bind_eq_bind, Option.bind_eq_some_iff] at taken
    obtain ⟨call, found, ⟨after, phase⟩, resumed, is⟩ := taken
    have sound := resume_settled sound found steady resumed
    rw [← Option.some.inj is]
    exact sound

/-- `request` has just committed its pending row. -/
structure Fresh (w : World) : Prop where
  row : w.row.state = .pending ∧ w.row.responseHash = none
  content : w.responseContent = none
  future : w.future = none
  handler : w.handler = .opening
  calls : w.calls = []
  log : w.claims = [] ∧ w.outcomes = []

theorem Fresh.settled (fresh : Fresh w) : Settled w := by
  have quiet : told w = none := by
    unfold told
    rw [fresh.handler]
    exact fresh.future
  refine ⟨?_, ?_, ?_, ?_, ?_, ?_, ?_⟩
  · intro _
    exact fresh.log.1
  · simp [fresh.log.1]
  · simp [HashOk, fresh.row.2]
  · simp [fresh.content]
  · simp [quiet]
  · simp [fresh.calls]
  · simp [fresh.log.2, fresh.calls]

/-- In every run whose steps are `Steady`, at most one call claims and returns
`claimed=True`, and what `request` returns is the response of the call that claimed. -/
theorem settlement_matches_claim (w : World) (labels : List Label) (v : World) (fresh : Fresh w)
    (steady : Along step Steady w labels) (reached : run step w labels = some v) :
    v.outcomes.countP (·.1) ≤ 1 ∧ v.claims.length ≤ 1 ∧
    ∀ value, v.handler = .returned value → ∀ claim ∈ v.claims, value = claim.response := by
  have sound := run_inv_along step_settled steady fresh.settled reached
  have once := sound.once
  have counted := sound.counted
  refine ⟨by omega, once, ?_⟩
  intro value returned claim member
  have given : value ∈ told v := by
    unfold told
    rw [returned]
    rfl
  exact sound.value value given claim member

instance (w : World) (call : Call) : Decidable (FinishSteady w call) := by
  unfold FinishSteady
  split <;> infer_instance

instance (w : World) (call : Call) : Decidable (TransactSteady w call) := by
  unfold TransactSteady
  split <;> infer_instance

instance (w : World) (label : Label) : Decidable (Steady w label) := by
  unfold Steady
  split <;> infer_instance

def oauthPending : World :=
  { scope := { runtimeGeneration := 1, ownerFenceToken := 1 }
    sha256 := fun _ => "digest"
    row := { kind := .mcpOauth, expiresAt := 60, runtimeGeneration := 1, ownerFenceToken := 1 } }

def tokenResponse : InteractionResponse :=
  .dict [textField "kind" "token", textField "accessToken" "secret"]

/-- The token's call claims; its event is in the inbox. -/
def untilCommit : List Label :=
  [.await, .respond (some tokenResponse), .call 0 .read, .call 0 (.enter 59 59),
    .call 0 (.transact true)]

/-- The handler times out while the event of the claiming call is in the inbox: it
returns the redacted token. -/
theorem timed_out_oauth_returns_redacted :
    ∃ v, run step oauthPending (untilCommit ++
        [.timeout 60, .call 1 (.transact true), .call 1 .finish]) = some v ∧
      v.handler = .returned (safeResponse .mcpOauth tokenResponse) ∧
      ∃ claim ∈ v.claims, claim.response = tokenResponse ∧
        v.handler ≠ .returned claim.response := by
  have outcome : (run step oauthPending (untilCommit ++
      [.timeout 60, .call 1 (.transact true), .call 1 .finish])).map
      (fun v => (v.handler, v.claims.map (·.response))) =
      some (.returned (safeResponse .mcpOauth tokenResponse), [tokenResponse]) := by
    decide +kernel
  obtain ⟨v, reached, both⟩ := Option.map_eq_some_iff.mp outcome
  simp only [Prod.mk.injEq] at both
  refine ⟨v, reached, both.1, ?_⟩
  have member : tokenResponse ∈ v.claims.map (·.response) := by
    rw [both.2]
    exact List.mem_singleton_self _
  obtain ⟨claim, inClaims, is⟩ := List.mem_map.mp member
  refine ⟨claim, inClaims, is, ?_⟩
  rw [both.1, is]
  decide

/-- The event is applied before the handler times out: the token's call resolves
the future. -/
theorem settlement_matches_claim_in_time :
    ∃ v, run step oauthPending (untilCommit ++
        [.call 0 .reduce, .call 0 .finish, .wake]) = some v ∧
      v.handler = .returned tokenResponse ∧ v.outcomes.countP (·.1) ≤ 1 ∧
      ∀ claim ∈ v.claims, tokenResponse = claim.response := by
  have outcome : (run step oauthPending (untilCommit ++
      [.call 0 .reduce, .call 0 .finish, .wake])).map (·.handler) =
      some (.returned tokenResponse) := by decide +kernel
  obtain ⟨v, reached, returned⟩ := Option.map_eq_some_iff.mp outcome
  have spec := settlement_matches_claim oauthPending _ v
    ⟨⟨rfl, rfl⟩, rfl, rfl, rfl, rfl, rfl, rfl⟩ (by decide +kernel) reached
  exact ⟨v, reached, returned, spec.1, spec.2.2 tokenResponse returned⟩

end Copilotd.Guarantees.InteractionSettlement
