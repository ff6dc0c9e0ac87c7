import Copilotd.Base.UndoLog
import Copilotd.Source.Core.VolatileContent

/-!
# Nested transactions of the volatile content store

A frame is an undo log of the map from keys to entries: undoing it gives the map at the entry
of its block.  Mutations record into the innermost frame, a block that commits merges its
frame into its parent's, and a block that fails undoes its own (`exec_keeps`).  From this
`transactions_are_atomic` follows for every block of every program.
-/
namespace Copilotd.Guarantees.ContentTransactions

open Base Base.UndoLog Source.Core.VolatileContent

variable {V : Type}

/-! ## Consistent stores -/

/-- The map from keys to entries. -/
def lookup (store : Store V) : String → Option (Entry V) := fun key => Dict.get key store.entries

def logOf (frame : MutationFrame V) : String → Option (Option (Entry V)) :=
  fun key => Dict.get key frame.prior

structure Consistent (store : Store V) : Prop where
  unique : Dict.UniqueKeys store.entries
  bytes : store.bytes = totalBytes store.entries
  frames : ∀ frame ∈ store.mutationFrames, Dict.UniqueKeys frame.prior

/-- The frames but the innermost stay, and undoing the innermost gives the same map. -/
structure Keeps (store after : Store V) : Prop where
  none : store.mutationFrames = [] → after.mutationFrames = []
  some : ∀ frame parents, store.mutationFrames = frame :: parents →
    ∃ frame', after.mutationFrames = frame' :: parents ∧
      undo (logOf frame') (lookup after) = undo (logOf frame) (lookup store)

theorem Keeps.refl (store : Store V) : Keeps store store :=
  ⟨id, fun frame _ here => ⟨frame, here, rfl⟩⟩

variable {store : Store V}

theorem Keeps.trans {middle after : Store V} (first : Keeps store middle)
    (second : Keeps middle after) : Keeps store after := by
  refine ⟨fun empty => second.none (first.none empty), ?_⟩
  intro frame parents here
  obtain ⟨frame', between, undone⟩ := first.some frame parents here
  obtain ⟨frame'', last, again⟩ := second.some frame' parents between
  exact ⟨frame'', last, again.trans undone⟩

section Mutations

variable {store : Store V} {key : String}

theorem logOf_setdefault (frame : MutationFrame V) (key : String) (entry : Option (Entry V)) :
    logOf { prior := Dict.setdefault key entry frame.prior } = record (logOf frame) key entry := by
  funext other
  exact Dict.get_setdefault

theorem recordPrior_frames (consistent : Consistent store) (entry : Option (Entry V)) :
    ∀ frame ∈ (store.recordPrior key entry).mutationFrames, Dict.UniqueKeys frame.prior := by
  unfold Store.recordPrior
  cases frames : store.mutationFrames with
  | nil =>
    simp only [frames]
    intro frame member
    cases member
  | cons frame parents =>
    have unique := consistent.frames
    rw [frames] at unique
    intro other member
    rcases List.mem_cons.mp member with rfl | parent
    · exact Dict.uniqueKeys_setdefault (unique frame (List.mem_cons_self ..))
    · exact unique other (List.mem_cons_of_mem _ parent)

theorem keeps_write {after : Store V} {value : Option (Entry V)}
    (frames : after.mutationFrames = (store.recordPrior key (lookup store key)).mutationFrames)
    (written : lookup after = Function.update (lookup store) key value) : Keeps store after := by
  constructor
  · intro empty
    rw [frames]
    unfold Store.recordPrior
    rw [empty]
    exact empty
  · intro frame parents here
    refine ⟨{ prior := Dict.setdefault key (lookup store key) frame.prior }, ?_, ?_⟩
    · rw [frames]
      unfold Store.recordPrior
      rw [here]
    · rw [logOf_setdefault, written]
      exact undo_record (logOf frame) (lookup store) key value

theorem putEntry_step {entry : Entry V} {after : Store V} (consistent : Consistent store)
    (done : store.putEntry key entry = some after) : Consistent after ∧ Keeps store after := by
  simp only [Store.putEntry, Option.ite_none_left_eq_some, Option.some.injEq] at done
  obtain ⟨_, rfl⟩ := done
  refine ⟨⟨?_, ?_, ?_⟩, ?_⟩
  · exact Dict.uniqueKeys_set consistent.unique
  · dsimp only
    unfold totalBytes
    rw [Dict.sum_set _ consistent.unique, consistent.bytes]
    rfl
  · exact recordPrior_frames consistent _
  · refine @keeps_write _ store key _ (some entry) rfl ?_
    funext other
    rw [Function.update_apply]
    exact Dict.get_set

theorem put_step {codec : Codec V} {value : V} {given : Option String} {uuid : String}
    {after : Store V} {answer : Except Error VolatileContentRef} (consistent : Consistent store)
    (done : store.put codec value given uuid = (after, answer)) :
    Consistent after ∧ Keeps store after := by
  unfold Store.put at done
  split at done
  · cases done
    exact ⟨consistent, Keeps.refl store⟩
  · dsimp only at done
    split at done
    · cases done
      exact ⟨consistent, Keeps.refl store⟩
    · next written =>
      cases done
      exact putEntry_step consistent written

theorem delete_step (consistent : Consistent store) :
    Consistent (store.delete key).1 ∧ Keeps store (store.delete key).1 := by
  unfold Store.delete
  split
  · exact ⟨consistent, Keeps.refl store⟩
  · next entry found =>
    refine ⟨⟨?_, ?_, ?_⟩, ?_⟩
    · exact Dict.uniqueKeys_filter consistent.unique _
    · dsimp only
      unfold totalBytes
      rw [Dict.sum_pop _ consistent.unique, consistent.bytes, found]
      rfl
    · exact recordPrior_frames consistent _
    · refine @keeps_write _ store key _ none ?_ ?_
      · unfold lookup
        rw [found]
      · funext other
        rw [Function.update_apply]
        exact Dict.get_pop consistent.unique

/-- The frame that `clear` leaves: every entry is recorded. -/
def clearFrame (entries : List (String × Entry V)) (frame : MutationFrame V) : MutationFrame V :=
  let prior := entries.map fun entry => (entry.1, some entry.2)
  { prior := prior.foldl (fun prior entry => Dict.setdefault entry.1 entry.2 prior) frame.prior }

theorem foldl_recordPrior (entries : List (String × Entry V)) (store : Store V) :
    (entries.foldl (fun store entry => store.recordPrior entry.1 (some entry.2))
        store).mutationFrames =
      match store.mutationFrames with
      | [] => []
      | frame :: parents => clearFrame entries frame :: parents := by
  induction entries generalizing store with
  | nil =>
    rw [List.foldl_nil]
    cases store.mutationFrames <;> rfl
  | cons entry rest ih =>
    rw [List.foldl_cons, ih]
    unfold Store.recordPrior
    cases frames : store.mutationFrames with
    | nil => simp only [frames]
    | cons frame parents => rfl

theorem logOf_clearFrame (store : Store V) (frame : MutationFrame V) :
    logOf (clearFrame store.entries frame) =
      merge (logOf frame) fun key => (lookup store key).map some := by
  funext key
  unfold logOf clearFrame
  rw [Dict.get_foldl_setdefault, Dict.get_mapValues fun _ entry => some entry]
  rfl

theorem clear_step (consistent : Consistent store) :
    Consistent store.clear ∧ Keeps store store.clear := by
  have frames := foldl_recordPrior store.entries store
  have same : store.clear.mutationFrames = _ := frames
  refine ⟨⟨List.nodup_nil, rfl, ?_⟩, ?_, ?_⟩
  · rw [same]
    intro frame member
    cases here : store.mutationFrames with
    | nil =>
      rw [here] at member
      cases member
    | cons innermost parents =>
      have unique := consistent.frames
      rw [here] at member unique
      rcases List.mem_cons.mp member with rfl | parent
      · exact Dict.uniqueKeys_foldl_setdefault _ (unique innermost (List.mem_cons_self ..))
      · exact unique frame (List.mem_cons_of_mem _ parent)
  · intro empty
    rw [same, empty]
  · intro frame parents here
    rw [same, here]
    refine ⟨_, rfl, ?_⟩
    rw [logOf_clearFrame, undo_merge]
    refine congrArg _ ?_
    funext key
    unfold undo
    cases found : lookup store key with
    | none =>
      simp only [found]
      rfl
    | some entry =>
      simp only [found]
      rfl

end Mutations

/-! ## The end of a block -/

theorem uniqueKeys_restore {prior : List (String × Option (Entry V))}
    {entries : List (String × Entry V)} (unique : Dict.UniqueKeys entries) :
    Dict.UniqueKeys (restore prior entries) := by
  induction prior generalizing entries with
  | nil => exact unique
  | cons first rest ih =>
    obtain ⟨key, before⟩ := first
    cases before with
    | none => exact ih (Dict.uniqueKeys_filter unique _)
    | some entry => exact ih (Dict.uniqueKeys_set unique)

theorem get_restore {prior : List (String × Option (Entry V))} {entries : List (String × Entry V)}
    (unique : Dict.UniqueKeys entries) (logged : Dict.UniqueKeys prior) (key : String) :
    Dict.get key (restore prior entries) = (Dict.get key prior).getD (Dict.get key entries) := by
  induction prior generalizing entries with
  | nil => rfl
  | cons first rest ih =>
    obtain ⟨recorded, before⟩ := first
    rw [Dict.uniqueKeys_cons] at logged
    rw [Dict.get_cons]
    by_cases same : recorded = key
    · subst same
      have absent := Dict.get_eq_none_iff.mpr logged.1
      rw [if_pos rfl, Option.getD_some]
      cases before with
      | none =>
        have rest := ih (Dict.uniqueKeys_filter unique fun entry => entry.1 ≠ recorded) logged.2
        rw [absent, Option.getD_none] at rest
        exact rest.trans (by rw [← Dict.pop, Dict.get_pop unique, if_pos rfl])
      | some entry =>
        have rest := ih (@Dict.uniqueKeys_set _ _ _ recorded entry _ unique) logged.2
        rw [absent, Option.getD_none] at rest
        exact rest.trans Dict.get_set_self
    · rw [if_neg same]
      cases before with
      | none =>
        have rest := ih (Dict.uniqueKeys_filter unique fun entry => entry.1 ≠ recorded) logged.2
        refine rest.trans (congrArg _ ?_)
        rw [← Dict.pop, Dict.get_pop unique, if_neg (Ne.symm same)]
      | some entry =>
        have rest := ih (@Dict.uniqueKeys_set _ _ _ recorded entry _ unique) logged.2
        refine rest.trans (congrArg _ ?_)
        rw [Dict.get_set, if_neg (Ne.symm same)]

/-- The block keeps its writes when it ends so. -/
def commits : Option Error → Bool
  | none | some .committedCancellation => true
  | some _ => false

section Blocks

variable {store after : Store V} {ending : Option Error}

variable {frame : MutationFrame V} {parents : List (MutationFrame V)}

theorem finish_of_commits
    (here : after.mutationFrames = frame :: parents) (committed : commits ending = true) :
    after.finish ending = { after with mutationFrames := commitFrame frame parents } := by
  unfold Store.finish
  rw [here]
  cases ending with
  | none => rfl
  | some error =>
    cases error with
    | committedCancellation => rfl
    | capacity | other => cases committed

theorem finish_of_fails
    (here : after.mutationFrames = frame :: parents) (failed : commits ending = false) :
    after.finish ending =
      { after with
        entries := restore frame.prior after.entries
        bytes := totalBytes (restore frame.prior after.entries)
        mutationFrames := parents } := by
  unfold Store.finish
  rw [here]
  cases ending with
  | none => cases failed
  | some error =>
    cases error with
    | committedCancellation => cases failed
    | capacity | other => rfl

theorem logOf_merged (frame parent : MutationFrame V) :
    logOf ⟨frame.prior.foldl
        (fun prior entry => Dict.setdefault entry.1 entry.2 prior) parent.prior⟩ =
      merge (logOf parent) (logOf frame) := by
  funext key
  exact Dict.get_foldl_setdefault frame.prior parent.prior

theorem uniqueKeys_commitFrame (unique : ∀ other ∈ frame :: parents, Dict.UniqueKeys other.prior) :
    ∀ other ∈ commitFrame frame parents, Dict.UniqueKeys other.prior := by
  intro other member
  cases parents with
  | nil => cases member
  | cons parent rest =>
    rcases List.mem_cons.mp member with rfl | further
    · exact Dict.uniqueKeys_foldl_setdefault _ (unique parent (by simp))
    · exact unique other (by simp [further])

theorem commit_step (keeps : Keeps store.begin after) (consistent : Consistent after)
    (committed : commits ending = true) :
    (after.finish ending).entries = after.entries ∧ Consistent (after.finish ending) ∧
      Keeps store (after.finish ending) := by
  obtain ⟨frame, here, undone⟩ := keeps.some {} store.mutationFrames rfl
  rw [finish_of_commits here committed]
  have unique := consistent.frames
  rw [here] at unique
  refine ⟨rfl, ⟨consistent.unique, consistent.bytes, ?_⟩, ?_, ?_⟩
  · exact uniqueKeys_commitFrame unique
  · intro empty
    rw [empty]
    rfl
  · intro parent rest parents
    rw [parents]
    refine ⟨_, rfl, ?_⟩
    rw [logOf_merged, undo_merge]
    exact congrArg _ undone

theorem rollback_step (keeps : Keeps store.begin after) (consistent : Consistent after)
    (failed : commits ending = false) :
    lookup (after.finish ending) = lookup store ∧ Consistent (after.finish ending) ∧
      Keeps store (after.finish ending) := by
  obtain ⟨frame, here, undone⟩ := keeps.some {} store.mutationFrames rfl
  have is := finish_of_fails here failed
  have unique := consistent.frames
  rw [here] at unique
  have restored : lookup (after.finish ending) = lookup store := by
    rw [is]
    calc lookup _ = undo (logOf frame) (lookup after) := by
          funext key
          exact get_restore consistent.unique (unique frame (List.mem_cons_self ..)) key
      _ = undo (logOf {}) (lookup store.begin) := undone
      _ = lookup store := undo_empty (lookup store)
  refine ⟨restored, ?_, ?_, ?_⟩
  · rw [is]
    exact ⟨uniqueKeys_restore consistent.unique, rfl,
      fun other member => unique other (List.mem_cons_of_mem _ member)⟩
  · intro empty
    rw [is]
    exact empty
  · intro parent rest parents
    refine ⟨parent, ?_, ?_⟩
    · rw [is]
      exact parents
    · rw [restored]

end Blocks

theorem begin_consistent (consistent : Consistent store) :
    Consistent store.begin := by
  refine ⟨consistent.unique, consistent.bytes, ?_⟩
  intro frame member
  rcases List.mem_cons.mp member with rfl | outer
  · exact List.nodup_nil
  · exact consistent.frames frame outer

/-! ## Programs -/

theorem exec_keeps (codec : Codec V) (program : Program V) (consistent : Consistent store) :
    Consistent (exec codec program store).1 ∧ Keeps store (exec codec program store).1 := by
  induction program generalizing store with
  | skip | raise error => exact ⟨consistent, Keeps.refl store⟩
  | seq first second ihFirst ihSecond =>
    have before := ihFirst consistent
    unfold exec
    cases done : exec codec first store with
    | mk after ending =>
      rw [done] at before
      cases ending with
      | none =>
        have rest := ihSecond before.1
        exact ⟨rest.1, before.2.trans rest.2⟩
      | some error => exact before
  | put value key uuid =>
    unfold exec
    cases done : store.put codec value key uuid with
    | mk after answer =>
      have step := put_step consistent done
      cases answer with
      | ok ref => exact step
      | error error => exact step
  | delete key => exact delete_step consistent
  | clear => exact clear_step consistent
  | transaction body ih =>
    have inside := ih (begin_consistent consistent)
    cases committed : commits (exec codec body store.begin).2 with
    | true => exact (commit_step inside.2 inside.1 committed).2
    | false => exact (rollback_step inside.2 inside.1 committed).2
  | tryExcept body catches handler ihBody ihHandler =>
    have before := ihBody consistent
    unfold exec
    cases done : exec codec body store with
    | mk after ending =>
      rw [done] at before
      cases ending with
      | none => exact before
      | some error =>
        dsimp only
        split
        · have rest := ihHandler before.1
          exact ⟨rest.1, before.2.trans rest.2⟩
        · exact before

theorem visited_consistent (codec : Codec V) (program : Program V) {v : Store V}
    (consistent : Consistent store) (member : v ∈ visited codec program store) : Consistent v := by
  induction program generalizing store with
  | skip | put | delete | clear | raise =>
    rw [visited, List.mem_singleton] at member
    rw [member]
    exact (exec_keeps codec _ consistent).1
  | seq first second ihFirst ihSecond =>
    have before := (exec_keeps codec first consistent).1
    rcases List.mem_append.mp member with early | late
    · exact ihFirst consistent early
    · split at late
      · next done =>
        rw [done] at before
        exact ihSecond before late
      · cases late
  | transaction body ih =>
    rw [visited] at member
    simp only [List.cons_append, List.mem_cons, List.mem_append,
      List.not_mem_nil, or_false] at member
    rcases member with rfl | inside | rfl
    · exact begin_consistent consistent
    · exact ih (begin_consistent consistent) inside
    · exact (exec_keeps codec (.transaction body) consistent).1
  | tryExcept body catches handler ihBody ihHandler =>
    have before := (exec_keeps codec body consistent).1
    rcases List.mem_append.mp member with early | late
    · exact ihBody consistent early
    · split at late
      · cases late
      · next done =>
        rw [done] at before
        split at late
        · exact ihHandler before late
        · cases late

theorem blocks_consistent (codec : Codec V) (program : Program V)
    {block : Program V × Store V} (consistent : Consistent store)
    (member : block ∈ blocks codec program store) : Consistent block.2 := by
  induction program generalizing store with
  | skip | put | delete | clear | raise =>
    cases member
  | seq first second ihFirst ihSecond =>
    have before := (exec_keeps codec first consistent).1
    rcases List.mem_append.mp member with early | late
    · exact ihFirst consistent early
    · split at late
      · next done =>
        rw [done] at before
        exact ihSecond before late
      · cases late
  | transaction body ih =>
    rcases List.mem_cons.mp member with rfl | inside
    · exact consistent
    · exact ih (begin_consistent consistent) inside
  | tryExcept body catches handler ihBody ihHandler =>
    have before := (exec_keeps codec body consistent).1
    rcases List.mem_append.mp member with early | late
    · exact ihBody consistent early
    · split at late
      · cases late
      · next done =>
        rw [done] at before
        split at late
        · exact ihHandler before late
        · cases late

/-! ## The guarantee -/

/-- A store without entries, in a context without frames. -/
def empty (V : Type) (maxItems maxBytes : Nat) (items : 1 ≤ maxItems) (bytes : 1 ≤ maxBytes) :
    Store V :=
  { maxItems, maxBytes, maxItems_pos := items, maxBytes_pos := bytes }

theorem empty_consistent {maxItems maxBytes : Nat} (items : 1 ≤ maxItems) (bytes : 1 ≤ maxBytes) :
    Consistent (empty V maxItems maxBytes items bytes) := by
  refine ⟨List.nodup_nil, rfl, ?_⟩
  intro frame member
  cases member

/-- Along every program the bytes are those of the entries.  A block that ends with an
exception other than `CommittedCancellation` leaves the map of its entry, whatever the blocks
inside it committed; any other block leaves the map with which its body ended. -/
theorem transactions_are_atomic (codec : Codec V) (program : Program V) (maxItems maxBytes : Nat)
    (items : 1 ≤ maxItems) (bytes : 1 ≤ maxBytes) :
    (∀ v ∈ visited codec program (empty V maxItems maxBytes items bytes),
        v.bytes = totalBytes v.entries) ∧
      ∀ block ∈ blocks codec program (empty V maxItems maxBytes items bytes),
        ∀ after ending, exec codec (.transaction block.1) block.2 = (after, ending) →
          (∀ error, ending = some error → error ≠ .committedCancellation →
            lookup after = lookup block.2) ∧
          (ending = none ∨ ending = some .committedCancellation →
            lookup after = lookup (exec codec block.1 block.2.begin).1) := by
  have start := empty_consistent (V := V) items bytes
  constructor
  · intro v member
    exact (visited_consistent codec program start member).bytes
  · intro block member after ending done
    have entered := blocks_consistent codec program start member
    have inside := exec_keeps codec block.1 (begin_consistent entered)
    have is : ((exec codec block.1 block.2.begin).1.finish (exec codec block.1 block.2.begin).2,
        (exec codec block.1 block.2.begin).2) = (after, ending) := done
    cases is
    constructor
    · intro error ends ordinary
      have failed : commits (exec codec block.1 block.2.begin).2 = false := by
        rw [ends]
        cases error with
        | committedCancellation => exact absurd rfl ordinary
        | capacity | other => rfl
      exact (rollback_step inside.2 inside.1 failed).1
    · intro ends
      have committed : commits (exec codec block.1 block.2.begin).2 = true := by
        rcases ends with ends | ends
        · rw [ends]
          rfl
        · rw [ends]
          rfl
      have kept := (commit_step inside.2 inside.1 committed).1
      unfold lookup
      rw [kept]

/-- Byte strings are their own encoding; the digests of the two that are used below. -/
def byteStrings : Codec (List UInt8) where
  contentBytes := .ok
  sha256 := fun encoded =>
    if encoded = [97] then "ca978112ca1bbdcafac231b39a23dc4da786eff8147c4e72b9807785afee48bb"
    else "e3b0c44298fc1c149afbf4c8996fb92427ae41e4649b934ca495991b7852b855"

def failingBlock : Program (List UInt8) :=
  .seq (.delete "a") (.seq (.transaction (.put [] (some "a") "")) (.raise (.other "ValueError")))

def failsAfterCommit : Program (List UInt8) :=
  .seq (.put [97] (some "a") "")
    (.tryExcept (.transaction failingBlock) (fun _ => true) (.put [] (some "b") ""))

def beforeBlock : Store (List UInt8) :=
  (exec byteStrings (.put [97] (some "a") "") (empty _ 4 16 (by decide) (by decide))).1

theorem transactions_are_atomic_failsAfterCommit :
    (failingBlock, beforeBlock) ∈
        blocks byteStrings failsAfterCommit (empty _ 4 16 (by decide) (by decide)) ∧
      (lookup (exec byteStrings failingBlock beforeBlock.begin).1 "a").map (·.byteSize) = some 0 ∧
      (lookup beforeBlock "a").map (·.byteSize) = some 1 ∧
      lookup (exec byteStrings (.transaction failingBlock) beforeBlock).1 = lookup beforeBlock := by
  have member : (failingBlock, beforeBlock) ∈
      blocks byteStrings failsAfterCommit (empty _ 4 16 (by decide) (by decide)) :=
    List.mem_append_right _ (List.mem_append_left _ (List.mem_cons_self ..))
  have fails : (exec byteStrings (.transaction failingBlock) beforeBlock).2 =
      some (.other "ValueError") := by decide +kernel
  have atomic := (transactions_are_atomic byteStrings failsAfterCommit 4 16 (by decide)
    (by decide)).2 _ member _ _ rfl
  exact ⟨member, by decide +kernel, by decide +kernel, atomic.1 _ fails (by decide)⟩

end Copilotd.Guarantees.ContentTransactions
