import Mathlib.Data.List.Perm.Basic

/-!
# Pools of suspended coroutines

A pool is the list of the coroutines that are suspended.  Resuming the one at an
index takes it out of the list and puts back what it leaves; the order of a pool
carries no meaning, so everything is stated up to permutation.
-/
namespace Copilotd.Base.Pool

variable {α β : Type*}

variable {pool : List α} {x : α} {index : Nat}

/-- The pool is the coroutine at the index together with the others. -/
theorem perm_of_getElem? (found : pool[index]? = some x) :
    (x :: pool.eraseIdx index).Perm pool := by
  obtain ⟨bound, rfl⟩ := List.getElem?_eq_some_iff.mp found
  exact List.getElem_cons_eraseIdx_perm bound

theorem mem_of_getElem? (found : pool[index]? = some x) :
    x ∈ pool := List.mem_of_getElem? found

variable {y : α}

theorem mem_cases (found : pool[index]? = some x) (member : y ∈ pool) :
    y = x ∨ y ∈ pool.eraseIdx index :=
  List.mem_cons.mp ((perm_of_getElem? found).symm.subset member)

/-- Counting is counting the resumed coroutine and the others. -/
theorem countP_split (found : pool[index]? = some x) (p : α → Bool) :
    pool.countP p = (pool.eraseIdx index).countP p + if p x then 1 else 0 := by
  rw [← (perm_of_getElem? found).countP_eq p, List.countP_cons]

/-- Counting after the coroutine at the index was replaced. -/
theorem countP_set (found : pool[index]? = some x) (y : α) (p : α → Bool) :
    (pool.set index y).countP p + (if p x then 1 else 0) =
      pool.countP p + if p y then 1 else 0 := by
  induction pool generalizing index with
  | nil => cases found
  | cons head tail ih =>
    cases index with
    | zero =>
      cases found
      rw [List.set_cons_zero, List.countP_cons, List.countP_cons]
      omega
    | succ index =>
      have rest := ih found
      rw [List.set_cons_succ, List.countP_cons, List.countP_cons]
      omega

variable {z : α}

/-- After the coroutine at the index was replaced, a coroutine is the new one or one of the
others. -/
theorem mem_set_cases (found : pool[index]? = some x) (member : z ∈ pool.set index y) :
    z = y ∨ z ∈ pool.eraseIdx index := by
  obtain ⟨bound, _⟩ := List.getElem?_eq_some_iff.mp found
  exact List.mem_cons.mp ((List.set_perm_cons_eraseIdx bound y).subset member)

variable {P : α → Prop}

/-- A property of every coroutine that the replacement has too. -/
theorem forall_set (found : pool[index]? = some x) (all : ∀ z ∈ pool, P z) (new : P y) :
    ∀ z ∈ pool.set index y, P z := by
  intro z inside
  rcases mem_set_cases found inside with rfl | other
  · exact new
  · exact all z ((List.eraseIdx_sublist pool index).subset other)

/-- A property of every coroutine that one more has too. -/
theorem forall_push (all : ∀ z ∈ pool, P z) (new : P y) :
    ∀ z ∈ pool ++ [y], P z :=
  List.forall_mem_append.mpr ⟨all, List.forall_mem_singleton.mpr new⟩

theorem mem_set_self (found : pool[index]? = some x) (y : α) : y ∈ pool.set index y := by
  obtain ⟨bound, _⟩ := List.getElem?_eq_some_iff.mp found
  exact (List.set_perm_cons_eraseIdx bound y).symm.subset (List.mem_cons_self ..)

theorem mem_set_other (found : pool[index]? = some x) (y : α) (other : z ∈ pool.eraseIdx index) :
    z ∈ pool.set index y := by
  obtain ⟨bound, _⟩ := List.getElem?_eq_some_iff.mp found
  exact (List.set_perm_cons_eraseIdx bound y).symm.subset (List.mem_cons_of_mem _ other)

theorem mem_of_mem_eraseIdx (member : y ∈ pool.eraseIdx index) : y ∈ pool :=
  (List.eraseIdx_sublist pool index).subset member

variable {key : α → β}

theorem key_ne (unique : (pool.map key).Nodup) (found : pool[index]? = some x)
    (other : y ∈ pool.eraseIdx index) : key y ≠ key x := by
  have split := ((perm_of_getElem? found).map key).symm.nodup unique
  rw [List.map_cons, List.nodup_cons] at split
  intro same
  refine split.1 ?_
  rw [← same]
  exact List.mem_map_of_mem other

theorem map_set (found : pool[index]? = some x) (same : key y = key x) :
    (pool.set index y).map key = pool.map key := by
  obtain ⟨bound, rfl⟩ := List.getElem?_eq_some_iff.mp found
  rw [List.map_set, same]
  apply List.ext_getElem?
  intro other
  rw [List.getElem?_set]
  split
  next here =>
    subst here
    simp [bound]
  · rfl

/-- A mapped pool splits in the same way. -/
theorem map_perm (found : pool[index]? = some x) (f : α → β) :
    (f x :: (pool.eraseIdx index).map f).Perm (pool.map f) :=
  (perm_of_getElem? found).map f

theorem filterMap_perm (found : pool[index]? = some x) (f : α → Option β) :
    ((f x).toList ++ (pool.eraseIdx index).filterMap f).Perm (pool.filterMap f) := by
  have perm := (perm_of_getElem? found).filterMap f
  cases left : f x with
  | none => simpa [List.filterMap_cons, left] using perm
  | some y => simpa [List.filterMap_cons, left] using perm

end Copilotd.Base.Pool
