import Mathlib.Data.List.Basic

/-!
# Futures

A future is settled at most once.  Futures are kept in a list and named by their
place in it; settling a set of them is guarded by `not done()`, as the callers of
`set_result` and `set_exception` guard it.
-/
namespace Copilotd.Base.Futures

inductive Future (ρ ε : Type) where
  | pending
  | cancelled
  | result (value : ρ)
  | exception (error : ε)
  deriving DecidableEq

variable {ρ ε : Type}

def Future.done : Future ρ ε → Bool
  | .pending => false
  | _ => true

/-- Settle a future unless it is done. -/
def Future.settle (outcome future : Future ρ ε) : Future ρ ε :=
  match future with
  | .pending => outcome
  | _ => future

/-- Settle each of the named futures unless it is done. -/
def settleAll (names : List Nat) (outcome : Future ρ ε) (store : List (Future ρ ε)) :
    List (Future ρ ε) :=
  store.mapIdx fun name future => if name ∈ names then outcome.settle future else future

@[simp] theorem length_settleAll (names : List Nat) (outcome : Future ρ ε)
    (store : List (Future ρ ε)) : (settleAll names outcome store).length = store.length := by
  unfold settleAll
  rw [List.length_mapIdx]

theorem getElem?_settleAll (names : List Nat) (outcome : Future ρ ε) (store : List (Future ρ ε))
    (name : Nat) :
    (settleAll names outcome store)[name]? =
      (store[name]?).map fun future => if name ∈ names then outcome.settle future else future := by
  unfold settleAll
  rw [List.getElem?_mapIdx]

theorem settle_ne_pending {outcome future : Future ρ ε} (done : outcome ≠ .pending) :
    outcome.settle future ≠ .pending := by
  unfold Future.settle
  cases future with
  | pending => exact done
  | cancelled | result | exception => simp

theorem pending_settleAll {names : List Nat} {outcome : Future ρ ε} {store : List (Future ρ ε)}
    {name : Nat} (done : outcome ≠ .pending)
    (pending : (settleAll names outcome store)[name]? = some .pending) :
    store[name]? = some .pending ∧ name ∉ names := by
  rw [getElem?_settleAll, Option.map_eq_some_iff] at pending
  obtain ⟨future, found, is⟩ := pending
  by_cases named : name ∈ names
  · rw [if_pos named] at is
    exact absurd is (settle_ne_pending done)
  · rw [if_neg named] at is
    exact ⟨by rw [found, is], named⟩

end Copilotd.Base.Futures
