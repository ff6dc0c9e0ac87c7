import Copilotd.Source.DiscordHttpLimiter

/-!
# The moves of the route table

Every locked block of the limiter changes the route table by a few primitive moves:
admission records are trimmed, buckets and mappings that nothing protects are dropped,
mappings are set, buckets are created while there is room, and a bucket is rewritten
without touching its attempts in flight or shortening its cooldown.  The lemmas of this
module say that once; an invariant of the table is then checked on the moves.
-/
namespace Copilotd.Guarantees.RouteTable

open Base.Dict Base.Rounding Base.Window Source.DiscordHttpLimiter

/-- The first part of `_cleanup_locked`. -/
def trimmed (settings : Settings) (now : ℚ) (limiter : Limiter) : Limiter :=
  { limiter with
    globalAdmissions := expire (roundDouble (now - settings.globalWindow)) limiter.globalAdmissions
    invalidResponses := expire (roundDouble (now - settings.invalidWindow)) limiter.invalidResponses
    routeBuckets := limiter.routeBuckets.map fun entry => (entry.1, entry.2.cleanupAdmissions now) }

/-- What a clean-up at `now` is made of: records are trimmed, and buckets and mappings that
nothing protects are dropped. -/
inductive Drop (settings : Settings) (now : ℚ) : Limiter → Limiter → Prop where
  | trim (limiter : Limiter) : Drop settings now limiter (trimmed settings now limiter)
  | evict (limiter : Limiter) (keep : BucketKey × RouteBucket → Bool)
      (unprotected : ∀ entry ∈ limiter.routeBuckets, keep entry = false →
        entry.2.isProtected now = false) :
      Drop settings now limiter { limiter with routeBuckets := limiter.routeBuckets.filter keep }
  | unmap (limiter : Limiter) (keep : String × RouteMapping → Bool)
      (unprotected : ∀ entry ∈ limiter.routeHashes, keep entry = false →
        limiter.hashProtected entry.2.bucketHash now = false) :
      Drop settings now limiter { limiter with routeHashes := limiter.routeHashes.filter keep }

def Drops (settings : Settings) (now : ℚ) : Limiter → Limiter → Prop :=
  Relation.ReflTransGen (Drop settings now)

/-- One move at `now`, in a block whose response announces a bucket hash for a signature. -/
inductive Move (settings : Settings) (now : ℚ) (announced : Option (String × String)) :
    Limiter → Limiter → Prop where
  | drop {limiter after : Limiter} (dropped : Drop settings now limiter after) :
      Move settings now announced limiter after
  | map (limiter : Limiter) (signature : String) (mapping : RouteMapping)
      (known : (get signature limiter.routeHashes).map RouteMapping.bucketHash =
          some mapping.bucketHash ∨ announced = some (signature, mapping.bucketHash)) :
      Move settings now announced limiter
        { limiter with routeHashes := set signature mapping limiter.routeHashes }
  | create (limiter : Limiter) (key : BucketKey) (absent : get key limiter.routeBuckets = none)
      (room : limiter.routeBuckets.length < settings.maxRouteBuckets + settings.globalLimit) :
      Move settings now announced limiter
        { limiter with routeBuckets := set key { lastSeen := now } limiter.routeBuckets }
  | write (limiter : Limiter) (key : BucketKey) (old new : RouteBucket)
      (found : get key limiter.routeBuckets = some old) (inFlight : new.inFlight = old.inFlight)
      (cooldown : old.cooldownUntil ≤ new.cooldownUntil) :
      Move settings now announced limiter
        { limiter with routeBuckets := set key new limiter.routeBuckets }
  | coolGlobally (limiter : Limiter) (cooldownUntil : ℚ) :
      Move settings now announced limiter
        { limiter with globalCooldownUntil := max limiter.globalCooldownUntil cooldownUntil }
  | record (limiter : Limiter) (stamp : ℚ) :
      Move settings now announced limiter
        { limiter with invalidResponses := limiter.invalidResponses ++ [stamp] }

def Moves (settings : Settings) (now : ℚ) (announced : Option (String × String)) :
    Limiter → Limiter → Prop :=
  Relation.ReflTransGen (Move settings now announced)

section Moves

variable {settings : Settings} {now : ℚ} {announced : Option (String × String)}
  {limiter after : Limiter}

theorem Moves.refl : Moves settings now announced limiter limiter := Relation.ReflTransGen.refl

theorem Move.moves (move : Move settings now announced limiter after) :
    Moves settings now announced limiter after := Relation.ReflTransGen.single move

theorem Moves.trans {last : Limiter} (first : Moves settings now announced limiter after)
    (second : Moves settings now announced after last) :
    Moves settings now announced limiter last :=
  Relation.ReflTransGen.trans first second

theorem Moves.keep {P : Limiter → Prop}
    (keep : ∀ a b, Move settings now announced a b → P a → P b)
    (moves : Moves settings now announced limiter after) (holds : P limiter) : P after := by
  induction moves with
  | refl => exact holds
  | tail _ move ih => exact keep _ _ move ih

theorem Drop.drops (dropped : Drop settings now limiter after) : Drops settings now limiter after :=
  Relation.ReflTransGen.single dropped

theorem Drops.trans {last : Limiter} (first : Drops settings now limiter after)
    (second : Drops settings now after last) : Drops settings now limiter last :=
  Relation.ReflTransGen.trans first second

theorem Drops.moves (drops : Drops settings now limiter after) :
    Moves settings now announced limiter after :=
  Relation.ReflTransGen.mono (fun _ _ => Move.drop) _ _ drops

theorem cleanupAdmissions_fields (bucket : RouteBucket) (now : ℚ) :
    (bucket.cleanupAdmissions now).inFlight = bucket.inFlight ∧
      (bucket.cleanupAdmissions now).cooldownUntil = bucket.cooldownUntil ∧
      (bucket.cleanupAdmissions now).nextAt = bucket.nextAt ∧
      (bucket.cleanupAdmissions now).resetAt = bucket.resetAt := by
  unfold RouteBucket.cleanupAdmissions
  split
  · split <;> exact ⟨rfl, rfl, rfl, rfl⟩
  · exact ⟨rfl, rfl, rfl, rfl⟩

theorem cleanupAdmissions_isProtected (bucket : RouteBucket) (now then_ : ℚ) :
    (bucket.cleanupAdmissions now).isProtected then_ = bucket.isProtected then_ := by
  obtain ⟨inFlight, cooldown, next, reset⟩ := cleanupAdmissions_fields bucket now
  unfold RouteBucket.isProtected
  rw [inFlight, cooldown, next, reset]

theorem get_trimmed (settings : Settings) (now : ℚ) (limiter : Limiter) (key : BucketKey) :
    get key (trimmed settings now limiter).routeBuckets =
      (get key limiter.routeBuckets).map fun bucket => bucket.cleanupAdmissions now :=
  get_mapValues fun _ (bucket : RouteBucket) => bucket.cleanupAdmissions now

/-- No key has two entries in either table. -/
structure WellKeyed (limiter : Limiter) : Prop where
  buckets : UniqueKeys limiter.routeBuckets
  hashes : UniqueKeys limiter.routeHashes

theorem Move.wellKeyed (move : Move settings now announced limiter after)
    (keyed : WellKeyed limiter) : WellKeyed after := by
  obtain ⟨buckets, hashes⟩ := keyed
  cases move with
  | drop dropped =>
    cases dropped with
    | trim =>
      refine ⟨?_, hashes⟩
      unfold trimmed UniqueKeys
      rw [List.map_map]
      exact buckets
    | evict keep => exact ⟨uniqueKeys_filter buckets keep, hashes⟩
    | unmap keep => exact ⟨buckets, uniqueKeys_filter hashes keep⟩
  | map => exact ⟨buckets, uniqueKeys_set hashes⟩
  | create | write => exact ⟨uniqueKeys_set buckets, hashes⟩
  | coolGlobally | record => exact ⟨buckets, hashes⟩

theorem Moves.wellKeyed (moves : Moves settings now announced limiter after)
    (keyed : WellKeyed limiter) : WellKeyed after :=
  moves.keep (fun _ _ move => move.wellKeyed) keyed

/-! ## The operations are sequences of moves -/

theorem picked_of_popped {κ α : Type} [DecidableEq κ] {dict entries : List (κ × α)}
    {entry : κ × α} {P : κ × α → Prop} (unique : UniqueKeys dict) (member : entry ∈ dict)
    (picked : ∀ other ∈ entries, other ∈ dict ∧ P other)
    (popped : entry.1 ∈ entries.map Prod.fst) : P entry := by
  obtain ⟨other, chosen, same⟩ := List.mem_map.mp popped
  obtain ⟨inDict, holds⟩ := picked other chosen
  have one := get_of_mem unique (show (entry.1, entry.2) ∈ dict from member)
  have two := get_of_mem unique (show (other.1, other.2) ∈ dict from inDict)
  rw [same, one] at two
  have value : entry.2 = other.2 := Option.some.inj two
  have equal : other = entry := Prod.ext same value.symm
  rw [← equal]
  exact holds

theorem oldest_picked {κ α : Type} {lastSeen : α → ℚ} {dict : List (κ × α)}
    {unprotected : κ × α → Bool} {count : Nat} :
    ∀ entry ∈ (oldestFirst lastSeen (dict.filter unprotected)).take count,
      entry ∈ dict ∧ unprotected entry = true := by
  intro entry member
  have sorted := List.mem_of_mem_take member
  unfold oldestFirst at sorted
  rw [List.mem_insertionSort] at sorted
  exact List.mem_filter.mp sorted

theorem dropStale_drops (settings : Settings) (now : ℚ) (limiter : Limiter) :
    Drops settings now limiter (limiter.dropStale settings now) := by
  have first : Drop settings now limiter { limiter with
      routeBuckets := limiter.routeBuckets.filter fun entry =>
        !(entry.2.lastSeen < roundDouble (now - settings.routeTtl) &&
          !entry.2.isProtected now) } := by
    refine .evict limiter _ ?_
    intro entry _ dropped
    simp only [Bool.not_eq_false', Bool.and_eq_true, Bool.not_eq_true'] at dropped
    exact dropped.2
  refine first.drops.trans (Drop.drops (.unmap _ _ ?_))
  intro entry _ dropped
  simp only [Bool.not_eq_false', Bool.and_eq_true, Bool.not_eq_true'] at dropped
  exact dropped.2

theorem dropOverflow_drops (settings : Settings) (now : ℚ) (keyed : WellKeyed limiter) :
    Drops settings now limiter (limiter.dropOverflow settings now) := by
  unfold Limiter.dropOverflow
  dsimp only
  rw [foldl_pop, foldl_pop]
  refine Drops.trans (Drop.drops (.evict limiter _ ?_)) (Drop.drops (.unmap _ _ ?_))
  · intro entry member dropped
    have unprotected := picked_of_popped (P := fun entry => (!entry.2.isProtected now) = true)
      keyed.buckets member oldest_picked (by simpa using dropped)
    simpa using unprotected
  · intro entry member dropped
    have unprotected := picked_of_popped keyed.hashes member oldest_picked (by simpa using dropped)
    simpa using unprotected

theorem Drops.wellKeyed (drops : Drops settings now limiter after) (keyed : WellKeyed limiter) :
    WellKeyed after :=
  (show Moves settings now none limiter after from drops.moves).wellKeyed keyed

theorem cleanup_drops (settings : Settings) (now : ℚ) (keyed : WellKeyed limiter) :
    Drops settings now limiter (limiter.cleanup settings now) := by
  have trim : Drops settings now limiter (trimmed settings now limiter) :=
    Drop.drops (.trim limiter)
  have stale := trim.trans (dropStale_drops settings now _)
  exact stale.trans (dropOverflow_drops settings now (stale.wellKeyed keyed))

theorem oldestBucket_mem {entries : List (BucketKey × RouteBucket)} {key : BucketKey}
    (oldest : oldestBucket entries = some key) : key ∈ entries.map Prod.fst := by
  cases entries with
  | nil => cases oldest
  | cons entry entries =>
    have chosen : ∀ (rest : List (BucketKey × RouteBucket)) (best : BucketKey × RouteBucket),
        rest.foldl
          (fun best other => if other.2.lastSeen < best.2.lastSeen then other else best) best
          ∈ best :: rest := by
      intro rest
      induction rest with
      | nil => exact fun best => List.mem_cons_self ..
      | cons head rest ih =>
        intro best
        rw [List.foldl_cons]
        split
        · exact List.mem_cons_of_mem _ (ih head)
        · rcases List.mem_cons.mp (ih best) with same | inRest
          · rw [same]
            exact List.mem_cons_self ..
          · exact List.mem_cons_of_mem _ (List.mem_cons_of_mem _ inRest)
    cases oldest
    exact List.mem_map.mpr ⟨_, chosen entries entry, rfl⟩

theorem makeRoom_drops (keyed : WellKeyed limiter)
    (made : limiter.makeRoom settings now = some after) :
    Drops settings now limiter after ∧ after.routeHashes = limiter.routeHashes ∧
      (∀ key, get key limiter.routeBuckets = none → get key after.routeBuckets = none) ∧
      (limiter.routeBuckets.length ≤ settings.maxRouteBuckets + settings.globalLimit →
        after.routeBuckets.length < settings.maxRouteBuckets + settings.globalLimit) := by
  unfold Limiter.makeRoom at made
  split at made
  · next room =>
    cases made
    exact ⟨Relation.ReflTransGen.refl, rfl, fun _ absent => absent, fun _ => by omega⟩
  · split at made
    · next oldest found =>
      cases made
      obtain ⟨entry, chosen, same⟩ := List.mem_map.mp (oldestBucket_mem found)
      obtain ⟨member, unprotected⟩ := List.mem_filter.mp chosen
      refine ⟨Drop.drops (.evict limiter _ ?_), rfl, ?_, ?_⟩
      · intro other inTable dropped
        refine @picked_of_popped _ _ _ _ [entry] _ (fun entry => entry.2.isProtected now = false)
          keyed.buckets inTable ?_ ?_
        · intro picked isEntry
          rw [List.mem_singleton.mp isEntry]
          exact ⟨member, by simpa using unprotected⟩
        · have key : other.1 = oldest := by simpa using dropped
          simp [key, same]
      · intro key absent
        rw [pop, get_filter keyed.buckets, absent, Option.filter_none]
      · intro bounded
        have fewer : (pop oldest limiter.routeBuckets).length < limiter.routeBuckets.length := by
          refine List.length_filter_lt_length_iff_exists.mpr ⟨entry, member, ?_⟩
          simp [same]
        exact lt_of_lt_of_le fewer bounded
    · split at made
      · cases made
      · next below =>
        cases made
        exact ⟨Relation.ReflTransGen.refl, rfl, fun _ absent => absent, fun _ => by omega⟩

/-- The table is within its hard limit. -/
def Bounded (settings : Settings) (limiter : Limiter) : Prop :=
  limiter.routeBuckets.length ≤ settings.maxRouteBuckets + settings.globalLimit

theorem touch_moves (settings : Settings) (route : Route) (now : ℚ)
    (announced : Option (String × String)) (limiter : Limiter) :
    Moves settings now announced limiter (limiter.touch route now) := by
  unfold Limiter.touch
  split
  · next mapping found =>
    refine Move.moves (.map limiter _ _ (.inl ?_))
    rw [found, Option.map_some]
  · exact .refl

theorem touch_buckets (route : Route) (now : ℚ) (limiter : Limiter) :
    (limiter.touch route now).routeBuckets = limiter.routeBuckets := by
  unfold Limiter.touch
  split <;> rfl

theorem touch_keyOf (route other : Route) (now : ℚ) (limiter : Limiter) :
    (limiter.touch route now).keyOf other = limiter.keyOf other := by
  unfold Limiter.touch
  split
  · next mapping found =>
    unfold Limiter.keyOf
    rw [get_set]
    split
    · next same =>
      rw [same, found]
      rfl
    · rfl
  · rfl

theorem bucketForRoute_moves (settings : Settings) (route : Route) (now : ℚ)
    (announced : Option (String × String)) (keyed : WellKeyed limiter)
    (bounded : Bounded settings limiter) :
    Moves settings now announced limiter (limiter.bucketForRoute settings route now).1 ∧
      ∀ key bucket, (limiter.bucketForRoute settings route now).2 = some (key, bucket) →
        key = limiter.keyOf route ∧
        get key (limiter.bucketForRoute settings route now).1.routeBuckets = some bucket := by
  have touched := touch_moves settings route now announced limiter
  unfold Limiter.bucketForRoute
  dsimp only
  split
  · next bucket found =>
    refine ⟨touched, ?_⟩
    intro key other same
    cases same
    exact ⟨rfl, found⟩
  · next absent =>
    split
    · exact ⟨touched, fun key bucket none => by cases none⟩
    · next roomy made =>
      obtain ⟨room, -, stillAbsent, below⟩ :=
        makeRoom_drops (touched.wellKeyed keyed) made
      rw [touch_buckets] at below
      refine ⟨(touched.trans room.moves).trans (Move.moves (.create roomy _ (stillAbsent _ absent)
        (below bounded))), ?_⟩
      intro key bucket same
      cases same
      exact ⟨rfl, get_set_self⟩

theorem length_set_of_present {κ α : Type} [DecidableEq κ] {key : κ} {value old : α}
    {dict : List (κ × α)} (found : get key dict = some old) :
    (set key value dict).length = dict.length := by
  have keys : ((set key value dict).map Prod.fst).length = (dict.map Prod.fst).length := by
    rw [keys_set, if_pos]
    by_contra absent
    rw [get_eq_none_iff.mpr absent] at found
    cases found
  rwa [List.length_map, List.length_map] at keys

theorem Move.bounded (move : Move settings now announced limiter after)
    (bounded : Bounded settings limiter) : Bounded settings after := by
  unfold Bounded at bounded ⊢
  cases move with
  | drop dropped =>
    cases dropped with
    | trim =>
      unfold trimmed
      rw [List.length_map]
      exact bounded
    | evict keep => exact (List.length_filter_le ..).trans bounded
    | unmap => exact bounded
  | map | coolGlobally | record => exact bounded
  | create key absent room =>
    have keys :
      ((set key ({ lastSeen := now } : RouteBucket) limiter.routeBuckets).map Prod.fst).length =
        limiter.routeBuckets.length + 1 := by
      rw [keys_set, if_neg (get_eq_none_iff.mp absent)]
      simp
    rw [List.length_map] at keys
    dsimp only
    omega
  | write key old new found =>
    rw [length_set_of_present found]
    exact bounded

theorem Moves.bounded (moves : Moves settings now announced limiter after)
    (bounded : Bounded settings limiter) : Bounded settings after :=
  moves.keep (fun _ _ move => move.bounded) bounded

/-- The signature and the bucket hash that a response announces. -/
def announces (route : Route) (headers : Headers) : Option (String × String) :=
  (headers.bucket.filter (· ≠ "")).map (route.signature, ·)

theorem remap_moves (settings : Settings) (route : Route) (headers : Headers) (now : ℚ)
    (limiter : Limiter) :
    Moves settings now (announces route headers) limiter (limiter.remap route headers now) := by
  unfold Limiter.remap
  split
  · next bucketHash header =>
    refine Move.moves (.map limiter _ _ (.inr ?_))
    unfold announces
    rw [header, Option.map_some]
  · exact .refl

theorem adopt_fields (bucket : RouteBucket) (previous : Option RouteBucket)
    (admissionId : Option Nat)
    (admittedAt now : ℚ) :
    (bucket.adopt previous admissionId admittedAt now).inFlight = bucket.inFlight ∧
      (bucket.adopt previous admissionId admittedAt now).cooldownUntil = bucket.cooldownUntil :=
  ⟨rfl, rfl⟩

theorem raised {cooldownUntil resetAt limit usable now : ℚ} (remaining : Option ℚ) :
    cooldownUntil ≤ match remaining with
      | some left =>
        if resetAt > now ∧ roundDouble (limit - left) ≥ usable then max cooldownUntil resetAt
        else cooldownUntil
      | none => cooldownUntil := by
  split
  · split
    · exact le_max_left ..
    · exact le_refl _
  · exact le_refl _

theorem learn_fields (settings : Settings) (headers : Headers) (now wallNow : ℚ)
    (bucket : RouteBucket) :
    (bucket.learn settings headers now wallNow).inFlight = bucket.inFlight ∧
      bucket.cooldownUntil ≤ (bucket.learn settings headers now wallNow).cooldownUntil := by
  unfold RouteBucket.learn
  generalize nonnegativeFloat headers.remaining = remaining
  cases headers.resetDelay wallNow with
  | none =>
    dsimp only
    split
    · exact ⟨rfl, raised remaining⟩
    · exact ⟨rfl, le_refl _⟩
  | some resetAfter =>
    dsimp only
    split_ifs
    · split
      · exact ⟨rfl, raised remaining⟩
      · exact ⟨rfl, le_refl _⟩
    · split
      · exact ⟨rfl, raised remaining⟩
      · exact ⟨rfl, le_refl _⟩

theorem responseBucket_moves (settings : Settings) (context : Context) (headers : Headers)
    (now wallNow : ℚ) (learn : Bool) (keyed : WellKeyed limiter)
      (bounded : Bounded settings limiter) :
    Moves settings now (announces context.route headers) limiter
        (limiter.responseBucket settings context headers now wallNow learn).1 ∧
      ∀ key, (limiter.responseBucket settings context headers now wallNow learn).2 = some key →
        key = (limiter.remap context.route headers now).keyOf context.route ∧
        ∃ bucket, get key (limiter.responseBucket settings context headers now wallNow
          learn).1.routeBuckets = some bucket := by
  have mapped := remap_moves settings context.route headers now limiter
  have reached := bucketForRoute_moves settings context.route now (announces context.route headers)
    (mapped.wellKeyed keyed) (mapped.bounded bounded)
  unfold Limiter.responseBucket
  split
  · next raised isRaised =>
    rw [isRaised] at reached
    exact ⟨mapped.trans reached.1, fun key none => by cases none⟩
  · next found key bucket isFound =>
    rw [isFound] at reached
    obtain ⟨moves, filed⟩ := reached
    obtain ⟨own, stored⟩ := filed key bucket rfl
    refine ⟨(mapped.trans moves).trans (Move.moves (.write found key bucket _ stored ?_ ?_)), ?_⟩
    · split
      · rw [(learn_fields ..).1]
        split
        · split
          · exact (adopt_fields ..).1
          · rfl
        · rfl
      · split
        · split
          · exact (adopt_fields ..).1
          · rfl
        · rfl
    · split
      · refine le_trans ?_ (learn_fields ..).2
        split
        · split
          · exact (adopt_fields ..).2.ge
          · exact le_refl _
        · exact le_refl _
      · split
        · split
          · exact (adopt_fields ..).2.ge
          · exact le_refl _
        · exact le_refl _
    · intro other same
      cases same
      exact ⟨own, _, get_set_self⟩

theorem apply429Cooldown_moves (settings : Settings) (now : ℚ)
    (announced : Option (String × String))
    (key : BucketKey) (cooldownUntil : ℚ) (isGlobal : Bool) (limiter : Limiter) :
    Moves settings now announced limiter (limiter.apply429Cooldown key cooldownUntil isGlobal) := by
  unfold Limiter.apply429Cooldown
  split
  · exact Move.moves (.coolGlobally limiter cooldownUntil)
  · split
    · next bucket found => exact Move.moves (.write limiter key bucket _ found rfl (le_max_left ..))
    · exact .refl

end Moves

/-! ## Room for a response -/

section Room

variable {settings : Settings} {now : ℚ} {limiter : Limiter}

/-- The response needs a new bucket, and the table has reached its hard limit with
every bucket protected. -/
def noRoom (settings : Settings) (limiter : Limiter) (context : Context) (headers : Headers)
    (now : ℚ) : Bool :=
  (get ((limiter.remap context.route headers now).keyOf context.route)
    limiter.routeBuckets).isNone &&
  (limiter.routeBuckets.all fun entry => entry.2.isProtected now) &&
  decide (limiter.routeBuckets.length ≥ settings.maxRouteBuckets + settings.globalLimit)

theorem makeRoom_none (full : limiter.makeRoom settings now = none) :
    (limiter.routeBuckets.all fun entry => entry.2.isProtected now) = true ∧
      limiter.routeBuckets.length ≥ settings.maxRouteBuckets + settings.globalLimit := by
  unfold Limiter.makeRoom at full
  split at full
  · cases full
  · split at full
    · cases full
    · next evictable =>
      split at full
      · next many =>
        refine ⟨?_, many⟩
        rw [List.all_eq_true]
        intro entry member
        by_contra loose
        have inFilter : entry ∈ limiter.routeBuckets.filter
            fun entry => !entry.2.isProtected now := by
          rw [List.mem_filter]
          exact ⟨member, by simpa using loose⟩
        cases filtered : limiter.routeBuckets.filter fun entry => !entry.2.isProtected now with
        | nil =>
          rw [filtered] at inFilter
          cases inFilter
        | cons head tail =>
          rw [filtered] at evictable
          cases evictable
      · cases full

theorem remap_buckets (route : Route) (headers : Headers) (now : ℚ) (limiter : Limiter) :
    (limiter.remap route headers now).routeBuckets = limiter.routeBuckets := by
  unfold Limiter.remap
  split <;> rfl

theorem responseBucket_found {context : Context} {headers : Headers} {wallNow : ℚ} {learn : Bool}
    (room : noRoom settings limiter context headers now = false) :
    ∃ found key, limiter.responseBucket settings context headers now wallNow learn =
      (found, some key) := by
  have buckets : ((limiter.remap context.route headers now).touch context.route
      now).routeBuckets = limiter.routeBuckets :=
    (touch_buckets ..).trans (remap_buckets ..)
  unfold Limiter.responseBucket
  split
  · next raised found =>
    exfalso
    unfold Limiter.bucketForRoute at found
    dsimp only at found
    split at found
    · cases found
    · next absent =>
      split at found
      · next full =>
        have stuck := makeRoom_none full
        rw [buckets] at absent stuck
        unfold noRoom at room
        rw [absent, stuck.1] at room
        simp [stuck.2] at room
      · cases found
  · exact ⟨_, _, rfl⟩

theorem noRoom_opened (settings : Settings) (limiter : Limiter) (context : Context)
    (headers : Headers) (now : ℚ) (count : Nat) (bodyPending : Bool) :
    noRoom settings { limiter with unresolved429Bodies := count }
      { context with bodyPending } headers now =
      noRoom settings limiter context headers now := by
  unfold noRoom Limiter.remap
  split <;> rfl

end Room

/-! ## Protection -/

section Guards

variable {settings : Settings} {now : ℚ} {limiter after : Limiter}

theorem hashProtected_iff (keyed : WellKeyed limiter) (bucketHash : String) :
    limiter.hashProtected bucketHash now = true ↔
      ∃ key bucket, key.1 = bucketHash ∧ get key limiter.routeBuckets = some bucket ∧
        bucket.isProtected now = true := by
  unfold Limiter.hashProtected
  rw [List.any_eq_true]
  constructor
  · rintro ⟨entry, member, holds⟩
    rw [Bool.and_eq_true, decide_eq_true_eq] at holds
    exact ⟨entry.1, entry.2, holds.1, get_of_mem keyed.buckets member, holds.2⟩
  · rintro ⟨key, bucket, same, found, holds⟩
    refine ⟨(key, bucket), mem_of_get found, ?_⟩
    rw [Bool.and_eq_true, decide_eq_true_eq]
    exact ⟨same, holds⟩

theorem Drop.keepsBucket {key : BucketKey} {bucket : RouteBucket}
    (dropped : Drop settings now limiter after) (keyed : WellKeyed limiter)
    (found : get key limiter.routeBuckets = some bucket)
      (isProtected : bucket.isProtected now = true) :
    ∃ kept, get key after.routeBuckets = some kept ∧ kept.isProtected now = true := by
  cases dropped with
  | trim =>
    refine ⟨bucket.cleanupAdmissions now, ?_, ?_⟩
    · rw [get_trimmed, found, Option.map_some]
    · rw [cleanupAdmissions_isProtected]
      exact isProtected
  | evict keep unprotected =>
    refine ⟨bucket, ?_, isProtected⟩
    have kept : keep (key, bucket) = true := by
      by_contra dropped
      have := unprotected _ (mem_of_get found) (by simpa using dropped)
      rw [isProtected] at this
      cases this
    rw [get_filter keyed.buckets, found, Option.filter_some, if_pos kept]
  | unmap => exact ⟨bucket, found, isProtected⟩

theorem Drop.keepsMapping {signature : String} {mapping : RouteMapping}
    (dropped : Drop settings now limiter after) (keyed : WellKeyed limiter)
    (found : get signature limiter.routeHashes = some mapping)
    (isProtected : limiter.hashProtected mapping.bucketHash now = true) :
    get signature after.routeHashes = some mapping := by
  cases dropped with
  | trim | evict => exact found
  | unmap keep unprotected =>
    have kept : keep (signature, mapping) = true := by
      by_contra dropped
      have := unprotected _ (mem_of_get found) (by simpa using dropped)
      rw [isProtected] at this
      cases this
    rw [get_filter keyed.hashes, found, Option.filter_some, if_pos kept]

/-- What is protected at `now` in one table is still there in the other. -/
structure Guards (now : ℚ) (before after : Limiter) : Prop where
  buckets : ∀ key bucket, get key before.routeBuckets = some bucket →
    bucket.isProtected now = true → (get key after.routeBuckets).isSome
  mappings : ∀ signature mapping, get signature before.routeHashes = some mapping →
    before.hashProtected mapping.bucketHash now = true → (get signature after.routeHashes).isSome

theorem Drops.keepsBucket {key : BucketKey} {bucket : RouteBucket}
    (drops : Drops settings now limiter after) (keyed : WellKeyed limiter)
    (found : get key limiter.routeBuckets = some bucket)
      (isProtected : bucket.isProtected now = true) :
    ∃ kept, get key after.routeBuckets = some kept ∧ kept.isProtected now = true := by
  induction drops with
  | refl => exact ⟨bucket, found, isProtected⟩
  | tail before dropped ih =>
    obtain ⟨kept, stored, still⟩ := ih
    exact dropped.keepsBucket (Drops.wellKeyed before keyed) stored still

theorem Drops.keepsMapping {signature : String} {mapping : RouteMapping}
    (drops : Drops settings now limiter after) (keyed : WellKeyed limiter)
    (found : get signature limiter.routeHashes = some mapping)
    (isProtected : limiter.hashProtected mapping.bucketHash now = true) :
    get signature after.routeHashes = some mapping := by
  obtain ⟨key, bucket, own, stored, holds⟩ := (hashProtected_iff keyed _).mp isProtected
  induction drops with
  | refl => exact found
  | tail before dropped ih =>
    obtain ⟨kept, stillStored, still⟩ := Drops.keepsBucket before keyed stored holds
    have keyed' := Drops.wellKeyed before keyed
    exact dropped.keepsMapping keyed' ih
      ((hashProtected_iff keyed' _).mpr ⟨key, kept, own, stillStored, still⟩)

theorem Drops.guards (drops : Drops settings now limiter after) (keyed : WellKeyed limiter) :
    Guards now limiter after := by
  refine ⟨?_, ?_⟩
  · intro key bucket found isProtected
    obtain ⟨kept, stored, -⟩ := drops.keepsBucket keyed found isProtected
    rw [stored]
    rfl
  · intro signature mapping found isProtected
    rw [drops.keepsMapping keyed found isProtected]
    rfl

theorem isSome_set {κ α : Type} [DecidableEq κ] {key other : κ} {value : α} {dict : List (κ × α)}
    (present : (get other dict).isSome) : (get other (set key value dict)).isSome := by
  rw [get_set]
  split
  · rfl
  · exact present

theorem bucketForRoute_guards (settings : Settings) (route : Route) (now : ℚ)
    (keyed : WellKeyed limiter) :
    Guards now limiter (limiter.bucketForRoute settings route now).1 := by
  have touched : Guards now limiter (limiter.touch route now) := by
    refine ⟨?_, ?_⟩
    · intro key bucket found _
      rw [touch_buckets, found]
      rfl
    · intro signature mapping found _
      unfold Limiter.touch
      split
      · exact isSome_set (by rw [found]; rfl)
      · rw [found]
        rfl
  have keyed' := (touch_moves settings route now none limiter).wellKeyed keyed
  unfold Limiter.bucketForRoute
  dsimp only
  split
  · exact touched
  · split
    · exact touched
    · next roomy made =>
      obtain ⟨drops, sameHashes, -, -⟩ := makeRoom_drops keyed' made
      refine ⟨?_, ?_⟩
      · intro key bucket found isProtected
        rw [← touch_buckets route now] at found
        exact isSome_set ((drops.guards keyed').buckets key bucket found isProtected)
      · intro signature mapping found isProtected
        rw [sameHashes]
        exact touched.mappings signature mapping found isProtected

end Guards

/-! ## Attempts in flight -/

/-- The attempts in flight in the bucket of a key; a key without a bucket has none. -/
def inFlightOf (limiter : Limiter) (key : BucketKey) : Nat :=
  ((get key limiter.routeBuckets).map RouteBucket.inFlight).getD 0

section InFlight

variable {settings : Settings} {now : ℚ} {announced : Option (String × String)}
  {limiter after : Limiter}

theorem inFlightOf_set (limiter : Limiter) (key other : BucketKey) (bucket : RouteBucket) :
    inFlightOf { limiter with routeBuckets := set key bucket limiter.routeBuckets } other =
      if other = key then bucket.inFlight else inFlightOf limiter other := by
  unfold inFlightOf
  rw [get_set]
  split
  · rfl
  · rfl

theorem Move.inFlightOf (move : Move settings now announced limiter after)
    (keyed : WellKeyed limiter) (key : BucketKey) :
    inFlightOf after key = inFlightOf limiter key := by
  cases move with
  | drop dropped =>
    cases dropped with
    | trim =>
      unfold RouteTable.inFlightOf
      rw [get_trimmed]
      cases get key limiter.routeBuckets with
      | none => rfl
      | some bucket => exact (cleanupAdmissions_fields bucket now).1
    | evict keep unprotected =>
      unfold RouteTable.inFlightOf
      rw [get_filter keyed.buckets]
      cases found : get key limiter.routeBuckets with
      | none => rfl
      | some bucket =>
        rw [Option.filter_some]
        split
        · rfl
        · next dropped =>
          have idle := unprotected _ (mem_of_get found) (by simpa using dropped)
          have none : bucket.inFlight = 0 := by
            simp only [RouteBucket.isProtected, Bool.or_eq_false_iff, decide_eq_false_iff_not,
              not_lt, Nat.le_zero] at idle
            exact idle.1.1.1
          simp [none]
    | unmap => rfl
  | map | coolGlobally | record => rfl
  | create other absent =>
    rw [inFlightOf_set]
    split
    · next same =>
      unfold RouteTable.inFlightOf
      rw [same, absent]
      rfl
    · rfl
  | write other old new found same =>
    rw [inFlightOf_set]
    split
    · next own =>
      unfold RouteTable.inFlightOf
      rw [own, found, same]
      rfl
    · rfl

theorem Moves.inFlightOf (moves : Moves settings now announced limiter after)
    (keyed : WellKeyed limiter) (key : BucketKey) :
    RouteTable.inFlightOf after key = RouteTable.inFlightOf limiter key := by
  have both :
    WellKeyed after ∧ RouteTable.inFlightOf after key = RouteTable.inFlightOf limiter key := by
    refine Moves.keep (P := fun l => WellKeyed l ∧
      RouteTable.inFlightOf l key = RouteTable.inFlightOf limiter key) ?_ moves ⟨keyed, rfl⟩
    rintro a b move ⟨keyedA, same⟩
    exact ⟨move.wellKeyed keyedA, (move.inFlightOf keyedA key).trans same⟩
  exact both.2

end InFlight

/-! ## What the moves leave alone -/

section Rest

variable {settings : Settings} {now : ℚ} {announced : Option (String × String)}
  {limiter after : Limiter}

/-- The counters that only whole blocks change. -/
structure SameCounters (limiter after : Limiter) : Prop where
  invalidInFlight : after.invalidInFlight = limiter.invalidInFlight
  unresolved : after.unresolved429Bodies = limiter.unresolved429Bodies

theorem Moves.sameCounters (moves : Moves settings now announced limiter after) :
    SameCounters limiter after := by
  refine Moves.keep (P := SameCounters limiter) ?_ moves ⟨rfl, rfl⟩
  intro a b move same
  cases move with
  | drop dropped => cases dropped <;> exact ⟨same.invalidInFlight, same.unresolved⟩
  | map | create | write | coolGlobally | record => exact ⟨same.invalidInFlight, same.unresolved⟩

/-- The rounding of `now - window` moves it past none of the times. -/
def Trims (window now : ℚ) (times : List ℚ) : Prop :=
  ∀ time ∈ times, time ≤ roundDouble (now - window) ↔ time ≤ now - window

theorem Trims.countAfter {window cutoff : ℚ} {times : List ℚ} (trims : Trims window now times)
    (recent : now - window ≤ cutoff) :
    countAfter cutoff (expire (roundDouble (now - window)) times) = countAfter cutoff times :=
  countAfter_expire (fun time member old => ((trims time member).mp old).trans recent)

theorem Moves.globalAdmissions {cutoff : ℚ} (moves : Moves settings now announced limiter after)
    (trims : Trims settings.globalWindow now limiter.globalAdmissions)
    (recent : now - settings.globalWindow ≤ cutoff) :
    countAfter cutoff after.globalAdmissions = countAfter cutoff limiter.globalAdmissions ∧
      Trims settings.globalWindow now after.globalAdmissions := by
  refine Moves.keep (P := fun l =>
    countAfter cutoff l.globalAdmissions = countAfter cutoff limiter.globalAdmissions ∧
      Trims settings.globalWindow now l.globalAdmissions) ?_ moves ⟨rfl, trims⟩
  intro a b move same
  cases move with
  | drop dropped =>
    cases dropped with
    | trim =>
      refine ⟨(same.2.countAfter recent).trans same.1, ?_⟩
      exact fun time member => same.2 time ((expire_sublist ..).mem member)
    | evict | unmap => exact same
  | map | create | write | coolGlobally | record => exact same

theorem Moves.deque {times : List ℚ} (moves : Moves settings now announced limiter after)
    (cleaned : limiter.globalAdmissions =
      expire (roundDouble (now - settings.globalWindow)) times) :
    after.globalAdmissions = expire (roundDouble (now - settings.globalWindow)) times := by
  refine Moves.keep (P := fun l => l.globalAdmissions =
    expire (roundDouble (now - settings.globalWindow)) times) ?_ moves cleaned
  intro a b move same
  cases move with
  | drop dropped =>
    cases dropped with
    | trim =>
      exact (congrArg (expire _) same).trans (expire_expire ..)
    | evict | unmap => exact same
  | map | create | write | coolGlobally | record => exact same

end Rest

/-! ## Release -/

/-- An attempt that was admitted and not yet released. -/
def reserved (context : Context) : Bool := context.admittedAt.isSome && !context.released

/-- The attempt holds a place under the key. -/
def reservedAt (key : BucketKey) (context : Context) : Bool :=
  reserved context && context.bucketKey = some key

theorem release_context (context : Context) (limiter : Limiter) :
    (limiter.release context).2 = { context with released := true } := by
  unfold Limiter.release
  split
  · next already =>
    cases context
    cases already
    rfl
  · dsimp only
    split
    · rfl
    · split <;> rfl

theorem release_buckets (context : Context) (limiter : Limiter) :
    (limiter.release context).1.routeBuckets = limiter.routeBuckets ∨
      ∃ key old new, get key limiter.routeBuckets = some old ∧
        new.cooldownUntil = old.cooldownUntil ∧ new.inFlight = old.inFlight - 1 ∧
        context.bucketKey = some key ∧ reserved context = true ∧
        (limiter.release context).1.routeBuckets = set key new limiter.routeBuckets := by
  unfold Limiter.release
  split
  · exact .inl rfl
  · next fresh =>
    split
    · exact .inl rfl
    · next admittedAt isAdmitted =>
      split
      · exact .inl rfl
      · next key bucket found =>
        obtain ⟨own, hasKey, inTable⟩ := Option.bind_eq_some_iff.mp found
        obtain ⟨value, stored, same⟩ := Option.map_eq_some_iff.mp inTable
        cases same
        refine .inr ⟨key, bucket, _, stored, ?_, ?_, hasKey, ?_, rfl⟩
        · split <;> rfl
        · split <;> rfl
        · simp [reserved, isAdmitted, fresh]

theorem release_inFlightOf (context : Context) (limiter : Limiter) (key : BucketKey) :
    inFlightOf (limiter.release context).1 key =
      inFlightOf limiter key - if reservedAt key context then 1 else 0 := by
  unfold Limiter.release
  split
  · next already => simp [reservedAt, reserved, already]
  · next fresh =>
    split
    · next notAdmitted => simp [reservedAt, reserved, notAdmitted]
    · next admittedAt isAdmitted =>
      split
      · next missing =>
        split
        · next own =>
          have hasKey : context.bucketKey = some key := by
            simp only [reservedAt, Bool.and_eq_true, decide_eq_true_eq] at own
            exact own.2
          have absent : get key limiter.routeBuckets = none := by
            simpa [hasKey] using missing
          unfold inFlightOf
          rw [absent]
          rfl
        · rfl
      · next own bucket found =>
        obtain ⟨k, hasKey, inTable⟩ := Option.bind_eq_some_iff.mp found
        obtain ⟨value, stored, same⟩ := Option.map_eq_some_iff.mp inTable
        cases same
        have isReserved : reservedAt key context = decide (key = own) := by
          simp [reservedAt, reserved, isAdmitted, fresh, hasKey, eq_comm]
        rw [isReserved]
        unfold inFlightOf
        rw [get_set]
        by_cases same : key = own
        · subst same
          rw [if_pos rfl, if_pos (decide_eq_true rfl), stored, Option.map_some, Option.map_some]
          split <;> rfl
        · rw [if_neg same, if_neg (by simpa using same)]
          rfl

theorem release_invalidInFlight (context : Context) (limiter : Limiter) :
    (limiter.release context).1.invalidInFlight =
        limiter.invalidInFlight - (if reserved context then 1 else 0) ∧
      (limiter.release context).1.unresolved429Bodies = limiter.unresolved429Bodies ∧
      (limiter.release context).1.globalAdmissions = limiter.globalAdmissions ∧
      (limiter.release context).1.globalCooldownUntil = limiter.globalCooldownUntil ∧
      (limiter.release context).1.routeHashes = limiter.routeHashes := by
  unfold Limiter.release
  split
  · next already => simp [reserved, already]
  · next fresh =>
    split
    · next notAdmitted => simp [reserved, notAdmitted]
    · next admittedAt isAdmitted =>
      have isReserved : reserved context = true := by simp [reserved, isAdmitted, fresh]
      rw [isReserved]
      split <;> exact ⟨rfl, rfl, rfl, rfl, rfl⟩

theorem release_wellKeyed {context : Context} {limiter : Limiter} (keyed : WellKeyed limiter) :
    WellKeyed (limiter.release context).1 := by
  refine ⟨?_, by rw [(release_invalidInFlight context limiter).2.2.2.2]; exact keyed.hashes⟩
  rcases release_buckets context limiter with same | ⟨key, old, new, -, -, -, -, -, set⟩
  · rw [same]
    exact keyed.buckets
  · rw [set]
    exact uniqueKeys_set keyed.buckets

theorem release_length (context : Context) (limiter : Limiter) :
    (limiter.release context).1.routeBuckets.length = limiter.routeBuckets.length := by
  rcases release_buckets context limiter with same | ⟨key, old, new, found, -, -, -, -, set⟩
  · rw [same]
  · rw [set]
    exact length_set_of_present found

/-! ## The blocks -/

structure SameRequest (before after : Context) : Prop where
  route : after.route = before.route
  bucketKey : after.bucketKey = before.bucketKey
  admittedAt : after.admittedAt = before.admittedAt

/-- The start of the first block: a 429 whose body is not pending yet opens it. -/
def opened (status : Nat) (context : Context) (limiter : Limiter) : Limiter × Context :=
  if status = 429 ∧ context.bodyPending = false then
    ({ limiter with unresolved429Bodies := limiter.unresolved429Bodies + 1 },
      { context with bodyPending := true })
  else (limiter, context)

/-- What the first block writes between the release and the clean-up. -/
def answered (status : Nat) (headers : Headers) (responseAt wallNow : ℚ) (key : BucketKey)
    (released : Limiter) : Limiter :=
  if status = 429 then
    let cooled :=
      match headers.retryDelay wallNow with
      | some delay =>
        released.apply429Cooldown key (roundDouble (responseAt + delay))
          (headers.scope = "global" || headers.isGlobal)
      | none => released
    if headers.marksInvalid then
      { cooled with invalidResponses := cooled.invalidResponses ++ [responseAt] }
    else cooled
  else if status = 401 ∨ status = 403 then
    { released with invalidResponses := released.invalidResponses ++ [responseAt] }
  else released

theorem answered_spec {Q : Limiter → Prop} (status : Nat) (headers : Headers)
    (responseAt wallNow : ℚ)
    (key : BucketKey) {released : Limiter} (same : Q released)
    (cools : ∀ cooldownUntil isGlobal, Q (released.apply429Cooldown key cooldownUntil isGlobal))
    (logs : ∀ limiter, Q limiter →
      Q { limiter with invalidResponses := limiter.invalidResponses ++ [responseAt] }) :
    Q (answered status headers responseAt wallNow key released) := by
  unfold answered
  split
  · cases headers.retryDelay wallNow with
    | none =>
      dsimp only
      split
      · exact logs _ same
      · exact same
    | some delay =>
      dsimp only
      split
      · exact logs _ (cools _ _)
      · exact cools _ _
  · split
    · exact logs _ same
    · exact same

theorem onResponse_eq (settings : Settings) (context : Context) (status : Nat) (headers : Headers)
    (responseAt : ℚ) (wallNow : ℚ × ℚ) (limiter : Limiter) :
    limiter.onResponse settings context status headers responseAt wallNow =
      match (opened status context limiter).1.responseBucket settings
          (opened status context limiter).2 headers responseAt wallNow.1 true with
      | (raised, none) =>
        ((raised.release (opened status context limiter).2).1,
          (raised.release (opened status context limiter).2).2, false)
      | (found, some key) =>
        ((answered status headers responseAt wallNow.2 key
            (found.release (opened status context limiter).2).1).cleanup settings responseAt,
          { (found.release (opened status context limiter).2).2 with
            invalidRecorded := (status = 429 && headers.marksInvalid) ||
              (found.release (opened status context limiter).2).2.invalidRecorded }, true) := by
  unfold Limiter.onResponse
  rw [← opened]
  generalize opened status context limiter = start
  obtain ⟨start, pending⟩ := start
  dsimp only
  generalize start.responseBucket settings pending headers responseAt wallNow.1 true = filed
  rcases filed with ⟨raised, _ | key⟩
  · rfl
  · unfold answered
    dsimp only
    split
    · next limited =>
      split
      · next marked => exact Prod.ext rfl (by simp [limited, marked])
      · next unmarked => exact Prod.ext rfl (by simp [unmarked])
    · next other =>
      split
      · exact Prod.ext rfl (by simp [other])
      · exact Prod.ext rfl (by simp [other])

/-- The bodies that a response adds to those that are to be read. -/
def opens (status : Nat) (context : Context) : Nat :=
  if status = 429 ∧ context.bodyPending = false then 1 else 0

theorem opened_spec (status : Nat) (context : Context) (limiter : Limiter) :
    (opened status context limiter).1 = { limiter with
        unresolved429Bodies := limiter.unresolved429Bodies + opens status context } ∧
      (opened status context limiter).2 = { context with
        bodyPending := context.bodyPending || status = 429 } := by
  unfold opened opens
  by_cases first : status = 429 ∧ context.bodyPending = false
  · rw [if_pos first, if_pos first]
    exact ⟨rfl, by simp [first]⟩
  · rw [if_neg first, if_neg first]
    refine ⟨rfl, ?_⟩
    cases context
    simp only [not_and, Bool.not_eq_false] at first
    by_cases limited : status = 429
    · simp [limited, first limited]
    · simp [limited]

theorem answered_moves (settings : Settings) (announced : Option (String × String)) (status : Nat)
    (headers : Headers) (responseAt wallNow : ℚ) (key : BucketKey) (released : Limiter) :
    Moves settings responseAt announced released
      (answered status headers responseAt wallNow key released) := by
  refine answered_spec status headers responseAt wallNow key .refl ?_ ?_
  · intro cooldownUntil isGlobal
    exact apply429Cooldown_moves ..
  · intro limiter moves
    exact moves.trans (Move.moves (.record limiter responseAt))

/-- What the first block of a response leaves: moves, the release of the attempt, moves. -/
structure Responded (settings : Settings) (now : ℚ) (context : Context) (status : Nat)
    (headers : Headers) (limiter after : Limiter) (left : Context) : Prop where
  path : ∃ pending between, SameRequest context pending ∧ pending.released = context.released ∧
    Moves settings now (announces context.route headers)
      { limiter with unresolved429Bodies := after.unresolved429Bodies } between ∧
    Moves settings now (announces context.route headers) (between.release pending).1 after
  unresolved : after.unresolved429Bodies = limiter.unresolved429Bodies + opens status context
  request : SameRequest context left
  released : left.released = true
  pending : left.bodyPending = (context.bodyPending || status = 429)

theorem onResponse_moves {limiter : Limiter} (settings : Settings) (context : Context)
    (status : Nat)
    (headers : Headers) (responseAt : ℚ) (wallNow : ℚ × ℚ) (keyed : WellKeyed limiter)
    (bounded : Bounded settings limiter) :
    Responded settings responseAt context status headers limiter
      (limiter.onResponse settings context status headers responseAt wallNow).1
      (limiter.onResponse settings context status headers responseAt wallNow).2.1 := by
  obtain ⟨same, pendingIs⟩ := opened_spec status context limiter
  rw [onResponse_eq]
  generalize opened status context limiter = start at same pendingIs ⊢
  obtain ⟨start, pending⟩ := start
  dsimp only at same pendingIs ⊢
  have counted :
    start.unresolved429Bodies = limiter.unresolved429Bodies + opens status context := by
    rw [same]
  have request : SameRequest context pending := by
    rw [pendingIs]
    exact ⟨rfl, rfl, rfl⟩
  have route : announces pending.route headers = announces context.route headers := by
    rw [request.route]
  have keyedStart : WellKeyed start := by
    rw [same]
    exact ⟨keyed.buckets, keyed.hashes⟩
  have filed := responseBucket_moves settings pending headers responseAt wallNow.1 true keyedStart
    (show Bounded settings start by rw [same]; exact bounded)
  rw [route] at filed
  have freed : ∀ between : Limiter, SameRequest context (between.release pending).2 ∧
      (between.release pending).2.released = true ∧
      (between.release pending).2.bodyPending = (context.bodyPending || status = 429) := by
    intro between
    rw [release_context, pendingIs]
    exact ⟨⟨rfl, rfl, rfl⟩, rfl, rfl⟩
  split
  · next raised is =>
    rw [is] at filed
    have unresolved : (raised.release pending).1.unresolved429Bodies = start.unresolved429Bodies :=
      (release_invalidInFlight pending raised).2.1.trans filed.1.sameCounters.unresolved
    refine ⟨⟨pending, raised, request, by rw [pendingIs], ?_, .refl⟩, unresolved.trans counted,
      (freed raised).1, (freed raised).2.1, (freed raised).2.2⟩
    rw [unresolved, counted, ← same]
    exact filed.1
  · next found key is =>
    rw [is] at filed
    have written :=
      answered_moves settings (announces context.route headers) status headers responseAt
      wallNow.2 key (found.release pending).1
    have cleaned := written.trans (cleanup_drops settings responseAt
      (written.wellKeyed (release_wellKeyed (filed.1.wellKeyed keyedStart)))).moves
    have unresolved : ((answered status headers responseAt wallNow.2 key
        (found.release pending).1).cleanup settings responseAt).unresolved429Bodies =
        start.unresolved429Bodies :=
      cleaned.sameCounters.unresolved.trans ((release_invalidInFlight pending found).2.1.trans
        filed.1.sameCounters.unresolved)
    refine ⟨⟨pending, found, request, by rw [pendingIs], ?_, cleaned⟩, unresolved.trans counted, ?_,
      (freed found).2.1, (freed found).2.2⟩
    · dsimp only
      rw [unresolved, counted, ← same]
      exact filed.1
    · exact ⟨(freed found).1.route, (freed found).1.bucketKey, (freed found).1.admittedAt⟩

theorem closeBody_spec (context : Context) (limiter : Limiter) :
    (limiter.closeBody context).1 = { limiter with
        unresolved429Bodies :=
          limiter.unresolved429Bodies - if context.bodyPending then 1 else 0 } ∧
      (limiter.closeBody context).2 = { context with bodyPending := false } := by
  unfold Limiter.closeBody
  split
  · exact ⟨rfl, rfl⟩
  · next idle =>
    refine ⟨rfl, ?_⟩
    cases context
    simp only [Bool.not_eq_true] at idle
    cases idle
    rfl

/-- What the second block writes before the clean-up, for a body that says what it does and
whose delay is a double. -/
def classified (context : Context) (headers : Headers) (responseAt wallNow : ℚ) (body : Body)
    (key : BucketKey) (found : Limiter) : Limiter :=
  let cooled := found.apply429Cooldown key
    (roundDouble (responseAt + retryAfter headers body wallNow)) (globalScope headers body)
  if sharedScope headers body || context.invalidRecorded then cooled
  else { cooled with invalidResponses := cooled.invalidResponses ++ [responseAt] }

theorem classified_moves (settings : Settings) (now : ℚ) (announced : Option (String × String))
    (context : Context) (headers : Headers) (responseAt wallNow : ℚ) (body : Body) (key : BucketKey)
    (found : Limiter) :
    Moves settings now announced found
      (classified context headers responseAt wallNow body key found) := by
  have cooled := apply429Cooldown_moves settings now announced key
    (roundDouble (responseAt + retryAfter headers body wallNow)) (globalScope headers body) found
  unfold classified
  split
  · exact cooled
  · exact cooled.trans (Move.moves (.record _ responseAt))

/-- What the second block of a 429 leaves: moves, and one body fewer to be read. -/
structure BodyClosed (settings : Settings) (now : ℚ) (context : Context) (headers : Headers)
    (limiter after : Limiter) (left : Context) : Prop where
  path : ∃ between, Moves settings now (announces context.route headers) limiter between ∧
    after = { between with unresolved429Bodies := after.unresolved429Bodies }
  closed : after.unresolved429Bodies =
    limiter.unresolved429Bodies - if context.bodyPending then 1 else 0
  context : left = { context with bodyPending := false }

theorem onBody_moves {limiter : Limiter} (settings : Settings) (context : Context)
    (headers : Headers)
    (responseAt : ℚ) (readyForBody : Bool) (body : Option Body) (now wallNow : ℚ)
    (keyed : WellKeyed limiter) (bounded : Bounded settings limiter) :
    BodyClosed settings now context headers limiter
      (limiter.onBody settings context headers responseAt readyForBody body now wallNow).1
      (limiter.onBody settings context headers responseAt readyForBody body now wallNow).2.1 := by
  have close : ∀ between, Moves settings now (announces context.route headers) limiter between →
      BodyClosed settings now context headers limiter (between.closeBody context).1
        (between.closeBody context).2 := by
    intro between moves
    obtain ⟨closed, left⟩ := closeBody_spec context between
    refine ⟨⟨between, moves, ?_⟩, ?_, left⟩
    · rw [closed]
    · rw [closed, ← moves.sameCounters.unresolved]
  unfold Limiter.onBody
  cases body with
  | none => exact close limiter .refl
  | some body =>
    dsimp only
    split
    · have filed := responseBucket_moves settings context headers now wallNow false keyed bounded
      split
      · next raised is =>
        rw [is] at filed
        exact close raised filed.1
      · next found key is =>
        rw [is] at filed
        split
        · exact close found filed.1
        · have written :=
            filed.1.trans (classified_moves settings now (announces context.route headers)
            context headers responseAt wallNow body key found)
          exact close _ (written.trans (cleanup_drops settings now (written.wellKeyed keyed)).moves)
    · exact close limiter .refl

def afterAdmission (route : Route) (key : BucketKey) (bucket : RouteBucket) (admittedAt : ℚ)
    (limiter : Limiter) : Limiter :=
  { limiter with
    globalAdmissions :=
      if route.globalExempt then limiter.globalAdmissions
      else limiter.globalAdmissions ++ [admittedAt]
    invalidInFlight := limiter.invalidInFlight + 1
    nextRouteAdmissionId := limiter.nextRouteAdmissionId + 1
    routeBuckets := set key
      { bucket with
        inFlight := bucket.inFlight + 1
        admissions := set (limiter.nextRouteAdmissionId + 1) admittedAt bucket.admissions
        lastSeen := admittedAt
        lastAdmitted := some admittedAt
        nextAt := (bucket.interval.map fun interval =>
          roundDouble (admittedAt + interval)).getD bucket.nextAt } limiter.routeBuckets }

theorem tryAdmit_moves {limiter : Limiter} (settings : Settings) (context : Context)
    (now admittedAt : ℚ) (keyed : WellKeyed limiter) (bounded : Bounded settings limiter) :
    (∃ after outcome, limiter.tryAdmit settings context now admittedAt = (after, outcome) ∧
        (∀ left, outcome ≠ .admitted left) ∧ Moves settings now none limiter after) ∨
      ∃ key bucket waited id, Moves settings now none (limiter.cleanup settings now) waited ∧
        Moves settings now none limiter waited ∧
        key = (limiter.cleanup settings now).keyOf context.route ∧
        get key waited.routeBuckets = some bucket ∧
        waited.admits settings context.route bucket now = true ∧
        waited.globalAdmissions =
          expire (roundDouble (now - settings.globalWindow)) limiter.globalAdmissions ∧
        limiter.tryAdmit settings context now admittedAt =
          (afterAdmission context.route key bucket admittedAt waited,
            .admitted { context with
              bucketKey := some key, admittedAt := some admittedAt, routeAdmissionId :=
                some id }) := by
  have cleaned : Moves settings now none limiter (limiter.cleanup settings now) :=
    (cleanup_drops settings now keyed).moves
  have filed := bucketForRoute_moves settings context.route now none (cleaned.wellKeyed keyed)
    (cleaned.bounded bounded)
  unfold Limiter.tryAdmit
  split
  · exact .inl ⟨limiter, .closed, rfl, by simp, .refl⟩
  · split
    · next raised is =>
      rw [is] at filed
      exact .inl ⟨raised, .capacityExceeded, rfl, by simp, cleaned.trans filed.1⟩
    · next found key bucket is =>
      rw [is] at filed
      obtain ⟨moves, inTable⟩ := filed
      obtain ⟨own, stored⟩ := inTable key bucket rfl
      have waited := moves.trans (Move.moves (.write found key bucket (bucket.cleanupAdmissions now)
        stored (cleanupAdmissions_fields bucket now).1
          (cleanupAdmissions_fields bucket now).2.1.ge))
      dsimp only
      split
      · next admits =>
        refine .inr ⟨key, _, _, _, waited, cleaned.trans waited, own, get_set_self, admits, ?_, rfl⟩
        exact waited.deque rfl
      · exact .inl ⟨_, .waits, rfl, by simp, cleaned.trans waited⟩

end Copilotd.Guarantees.RouteTable
