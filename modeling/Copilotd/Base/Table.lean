import Mathlib.Data.List.Nodup

/-!
# Tables

A table is the list of its rows.  `updateWhere` is SQL's `UPDATE … SET … WHERE`,
`rowcount` the number of rows such a statement touches, and `lookup` the row
that a primary key selects.  The lemmas say how these compose when a statement
leaves the key column alone.
-/
namespace Copilotd.Base.Table

variable {α κ : Type*} [DecidableEq κ]

/-- `UPDATE rows SET row := set row WHERE matches row`. -/
def updateWhere (hit : α → Bool) (set : α → α) (rows : List α) : List α :=
  rows.map fun row => if hit row then set row else row

/-- The number of rows an `UPDATE` or `DELETE` with this `WHERE` touches. -/
def rowcount (hit : α → Bool) (rows : List α) : Nat := rows.countP hit

/-- `SELECT * FROM rows WHERE key = k`, for a unique key. -/
def lookup (key : α → κ) (k : κ) (rows : List α) : Option α :=
  rows.find? fun row => key row = k

variable {set : α → α} {row : α} {rows : List α} {hit : α → Bool}

theorem mem_updateWhere :
    row ∈ updateWhere hit set rows ↔
      ∃ old ∈ rows, row = if hit old then set old else old := by
  simp only [updateWhere, List.mem_map, eq_comm]

/-- A statement that hits no row changes nothing. -/
theorem updateWhere_of_misses (misses : ∀ row ∈ rows, hit row = false) :
    updateWhere hit set rows = rows := by
  unfold updateWhere
  rw [List.map_congr_left (g := id), List.map_id]
  intro row member
  rw [misses row member]
  rfl

theorem forall_updateWhere {P : α → Prop}
    (leaves : ∀ row ∈ rows, P (if hit row then set row else row)) :
    ∀ row ∈ updateWhere hit set rows, P row := by
  intro row member
  obtain ⟨old, there, rfl⟩ := mem_updateWhere.mp member
  exact leaves old there

variable {k : κ} {key : α → κ}

theorem lookup_some_key (found : lookup key k rows = some row) : key row = k := by
  simpa using List.find?_some found

theorem lookup_some_mem (found : lookup key k rows = some row) : row ∈ rows :=
  List.mem_of_find?_eq_some found

theorem lookup_eq_none :
    lookup key k rows = none ↔ ∀ row ∈ rows, key row ≠ k := by
  simp [lookup, List.find?_eq_none]

theorem lookup_updateWhere (same : ∀ row, key (set row) = key row) (k : κ) (rows : List α) :
    lookup key k (updateWhere hit set rows) =
      (lookup key k rows).map fun row => if hit row then set row else row := by
  induction rows with
  | nil => rfl
  | cons head tail ih =>
    have headKey : key (if hit head then set head else head) = key head := by
      split
      · exact same head
      · rfl
    simp only [lookup, updateWhere, List.map_cons, List.find?_cons, headKey] at ih ⊢
    by_cases selected : key head = k
    · simp [selected]
    · simpa [selected] using ih

theorem lookup_updateWhere_other {other : κ} (different : other ≠ k)
    (same : ∀ row, key (set row) = key row) (own : ∀ row, hit row = true → key row = k)
    (rows : List α) :
    lookup key other (updateWhere hit set rows) = lookup key other rows := by
  rw [lookup_updateWhere same]
  cases found : lookup key other rows with
  | none => rfl
  | some row =>
    have missed : ¬ hit row = true := by
      intro isHit
      exact different ((lookup_some_key found).symm.trans (own row isHit))
    rw [Option.map_some, if_neg missed]

theorem lookup_append (k : κ) (rows more : List α) :
    lookup key k (rows ++ more) = (lookup key k rows).or (lookup key k more) := by
  simp [lookup, List.find?_append]

/-- An insert at the end leaves every row that a key already selects. -/
theorem lookup_append_of_some {more : List α} (found : lookup key k rows = some row) :
    lookup key k (rows ++ more) = some row := by
  rw [lookup_append, found, Option.some_or]

omit [DecidableEq κ] in
/-- A statement that leaves the key alone leaves the key column. -/
theorem map_updateWhere (same : ∀ row, key (set row) = key row) (rows : List α) :
    (updateWhere hit set rows).map key = rows.map key := by
  unfold updateWhere
  rw [List.map_map]
  refine List.map_congr_left ?_
  intro row _
  rw [Function.comp_apply]
  split
  · exact same row
  · rfl

omit [DecidableEq κ] in
theorem nodup_insert (unique : (rows.map key).Nodup) (fresh : ∀ other ∈ rows, key other ≠ key row) :
    ((rows ++ [row]).map key).Nodup := by
  rw [List.map_append, List.nodup_append]
  refine ⟨unique, by simp, ?_⟩
  intro a old b new same
  obtain ⟨other, member, rfl⟩ := List.mem_map.mp old
  rw [List.map_singleton, List.mem_singleton] at new
  exact fresh other member (same.trans new)

theorem lookup_of_mem (unique : (rows.map key).Nodup) (member : row ∈ rows) :
    lookup key (key row) rows = some row := by
  induction rows with
  | nil => cases member
  | cons head tail ih =>
    rw [List.map_cons, List.nodup_cons] at unique
    rcases List.mem_cons.mp member with rfl | inTail
    · simp [lookup]
    · have other : key head ≠ key row := by
        intro same
        refine unique.1 ?_
        rw [same]
        exact List.mem_map_of_mem inTail
      have rest := ih unique.2 inTail
      simpa [lookup, other] using rest

theorem filter_eq_singleton {asks : α → Bool} (unique : (rows.map key).Nodup)
    (found : lookup key k rows = some row) :
    rows.filter asks = [row] ↔ ∀ other ∈ rows, asks other = true ↔ key other = k := by
  have mine := lookup_some_key found
  have only : ∀ other ∈ rows, key other = k → other = row := by
    intro other member same
    have looked := lookup_of_mem unique member
    rw [same, found] at looked
    exact (Option.some.inj looked).symm
  constructor
  · intro single other member
    constructor
    · intro asked
      have selected : other ∈ rows.filter asks := List.mem_filter.mpr ⟨member, asked⟩
      rw [single, List.mem_singleton] at selected
      rw [selected, mine]
    · intro same
      have selected : row ∈ rows.filter asks := by
        rw [single]
        exact List.mem_singleton_self row
      rw [only other member same]
      exact (List.mem_filter.mp selected).2
  · intro asks_iff
    have same : ∀ other ∈ rows.filter asks, other = row := by
      intro other selected
      obtain ⟨member, asked⟩ := List.mem_filter.mp selected
      exact only other member ((asks_iff other member).mp asked)
    have present : row ∈ rows.filter asks :=
      List.mem_filter.mpr ⟨lookup_some_mem found,
        (asks_iff row (lookup_some_mem found)).mpr mine⟩
    have distinct : (rows.filter asks).Nodup := (List.Nodup.of_map key unique).filter _
    have copies := List.eq_replicate_of_mem same
    rw [copies, List.nodup_replicate] at distinct
    have positive := List.length_pos_of_mem present
    rw [copies, show (rows.filter asks).length = 1 by omega]
    rfl

/-- With unique keys, a statement that only asks for one key touches the row the key
selects, if it satisfies the rest of the `WHERE`. -/
theorem rowcount_of_lookup (unique : (rows.map key).Nodup) (found : lookup key k rows = some row)
    (own : ∀ other, hit other = true → key other = k) :
    rowcount hit rows = if hit row then 1 else 0 := by
  induction rows with
  | nil => cases found
  | cons head tail ih =>
    rw [List.map_cons, List.nodup_cons] at unique
    by_cases selected : key head = k
    · have same : head = row := by simpa [lookup, selected] using found
      subst same
      have rest : tail.countP hit = 0 := by
        rw [List.countP_eq_zero]
        intro other member isHit
        refine unique.1 ?_
        rw [selected, ← own other isHit]
        exact List.mem_map_of_mem member
      rw [rowcount, List.countP_cons, rest, Nat.zero_add]
    · have found' : lookup key k tail = some row := by simpa [lookup, selected] using found
      have miss : hit head = false := by
        cases isHit : hit head with
        | false => rfl
        | true => exact absurd (own head isHit) selected
      have rest := ih unique.2 found'
      rw [rowcount, List.countP_cons, miss]
      simpa [rowcount] using rest

end Copilotd.Base.Table
