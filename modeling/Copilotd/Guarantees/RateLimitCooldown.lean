import Copilotd.Guarantees.DiscordAdmission

/-!
# Cooldowns after a 429

A cooldown of a route lives in the bucket that the signature is filed under when a block
of the 429 runs.  The bucket and the mapping to it are protected for as long as the
cooldown lasts, so only a response that announces another bucket hash for the signature
takes requests out of its reach (`cooldown_honoured`, `rehashed_route_is_admitted`).
Until the body of a 429 has been read nothing is admitted at all.
-/
namespace Copilotd.Guarantees.RateLimitCooldown

open Base.Run Base.Pool Base.Dict Base.Rounding Source.DiscordHttpLimiter Source.DiscordHttpTrace
open Guarantees.RouteTable Guarantees.DiscordAdmission

/-! ## The cooldown of a block -/

structure Cooldown where
  isGlobal : Bool
  route : Route
  cooldownUntil : ℚ
  deriving DecidableEq

/-- The cooldown that a block of a 429 applies; a block that finds the route table full of
protected buckets is given up, and so is the second one if the body was not read or asks for a
delay that is no double. -/
def cooldownOf (settings : Settings) (s : Session) : Label → Option Cooldown
  | .respond request status headers responseAt wallNow => do
    let context ← s.sent[request]?
    let delay ← headers.retryDelay wallNow.2
    if status = 429 ∧ noRoom settings s.limiter context headers responseAt = false then
      some ⟨headers.scope = "global" || headers.isGlobal, context.route,
        roundDouble (responseAt + delay)⟩
    else none
  | .readBody index (some body) now wallNow => do
    let read ← s.bodies[index]?
    let context ← s.sent[read.request]?
    if read.readyForBody ∧ noRoom settings s.limiter context read.headers now = false ∧
        body.tooLarge = false then
      some ⟨globalScope read.headers body, context.route,
        roundDouble (read.responseAt + retryAfter read.headers body wallNow)⟩
    else none
  | _ => none

/-- The signature and the bucket hash that the headers of a block announce. -/
def announcement (s : Session) : Label → Option (String × String)
  | .respond request _ headers _ _ => do announces (← s.sent[request]?).route headers
  | .readBody index (some _) _ _ => do
    let read ← s.bodies[index]?
    announces (← s.sent[read.request]?).route read.headers
  | _ => none

/-- The block announces no other bucket hash for the signature than the one in use. -/
def KeepsHash (route : Route) (s : Session) (label : Label) : Prop :=
  ∀ announced ∈ announcement s label, announced.1 = route.signature →
    announced.2 = (s.limiter.keyOf route).1

instance (route : Route) (s : Session) (label : Label) : Decidable (KeepsHash route s label) :=
  inferInstanceAs (Decidable (∀ announced ∈ announcement s label, _))

def endsRead (request : Nat) (s : Session) : Label → Bool
  | .readBody index _ _ _ => (s.bodies[index]?).any fun read => read.request = request
  | _ => false

/-! ## A cooling bucket -/

/-- Requests of the route are filed under a bucket that cools down. -/
structure Cooling (route : Route) (key : BucketKey) (cooldownUntil : ℚ) (limiter : Limiter) :
    Prop where
  filed : limiter.keyOf route = key
  bucket : ∃ bucket, get key limiter.routeBuckets = some bucket ∧
    cooldownUntil ≤ bucket.cooldownUntil

variable {headers : Headers} {wallNow : ℚ}

section Cooling

variable {settings : Settings} {now cooldownUntil : ℚ} {announced : Option (String × String)}
  {limiter after : Limiter} {route : Route} {key : BucketKey}

variable {bucket : RouteBucket}

theorem isProtected_of_cooling (cooling : cooldownUntil ≤ bucket.cooldownUntil)
    (early : now < cooldownUntil) : bucket.isProtected now = true := by
  have later : bucket.cooldownUntil > now := lt_of_lt_of_le early cooling
  simp [RouteBucket.isProtected, later]

theorem Cooling.set {other : BucketKey} (cooling : Cooling route key cooldownUntil limiter)
    (noShorter : other = key → cooldownUntil ≤ bucket.cooldownUntil) :
    Cooling route key cooldownUntil
      { limiter with routeBuckets := set other bucket limiter.routeBuckets } := by
  refine ⟨cooling.filed, ?_⟩
  rw [get_set]
  by_cases same : key = other
  · rw [if_pos same]
    exact ⟨bucket, rfl, noShorter same.symm⟩
  · rw [if_neg same]
    exact cooling.bucket

theorem Drop.cooling (dropped : Drop settings now limiter after) (keyed : WellKeyed limiter)
    (early : now < cooldownUntil) (cooling : Cooling route key cooldownUntil limiter) :
    Cooling route key cooldownUntil after := by
  obtain ⟨filed, bucket, found, noShorter⟩ := cooling
  have isProtected := isProtected_of_cooling noShorter early
  cases dropped with
  | trim =>
    refine ⟨filed, bucket.cleanupAdmissions now, ?_, ?_⟩
    · rw [get_trimmed, found, Option.map_some]
    · rw [(cleanupAdmissions_fields bucket now).2.1]
      exact noShorter
  | evict keep unprotected =>
    refine ⟨filed, bucket, ?_, noShorter⟩
    have kept : keep (key, bucket) = true := by
      by_contra dropped
      have := unprotected _ (mem_of_get found) (by simpa using dropped)
      rw [isProtected] at this
      cases this
    rw [get_filter keyed.buckets, found, Option.filter_some, if_pos kept]
  | unmap keep unprotected =>
    refine ⟨?_, bucket, found, noShorter⟩
    rw [← filed]
    unfold Limiter.keyOf
    rw [get_filter keyed.hashes]
    cases mapped : get route.signature limiter.routeHashes with
    | none => rfl
    | some mapping =>
      have own : key.1 = mapping.bucketHash := by
        rw [← filed]
        unfold Limiter.keyOf
        rw [mapped]
        rfl
      have hash : limiter.hashProtected mapping.bucketHash now = true :=
        (hashProtected_iff keyed _).mpr ⟨key, bucket, own, found, isProtected⟩
      have kept : keep (route.signature, mapping) = true := by
        by_contra dropped
        have := unprotected _ (mem_of_get mapped) (by simpa using dropped)
        rw [hash] at this
        cases this
      rw [Option.filter_some, if_pos kept]

theorem Move.cooling (move : Move settings now announced limiter after) (keyed : WellKeyed limiter)
    (early : now < cooldownUntil)
    (keepsHash : ∀ hash, announced = some (route.signature, hash) → hash = key.1)
    (cooling : Cooling route key cooldownUntil limiter) :
    Cooling route key cooldownUntil after := by
  cases move with
  | drop dropped => exact Drop.cooling dropped keyed early cooling
  | map signature mapping known =>
    refine ⟨?_, cooling.bucket⟩
    have filed := cooling.filed
    unfold Limiter.keyOf at filed ⊢
    rw [get_set]
    by_cases own : route.signature = signature
    · subst own
      rw [if_pos rfl, ← filed]
      have hash : mapping.bucketHash = key.1 ∨
          (get route.signature limiter.routeHashes).map RouteMapping.bucketHash =
            some mapping.bucketHash := by
        rcases known with same | fresh
        · exact .inr same
        · exact .inl (keepsHash _ fresh)
      rcases hash with same | same
      · rw [← filed] at same
        simp [same]
      · simp [same]
    · rw [if_neg own]
      exact filed
  | create other absent =>
    refine cooling.set ?_
    intro same
    obtain ⟨bucket, found, -⟩ := cooling.bucket
    rw [same, found] at absent
    cases absent
  | write other old new found inFlight noShorter =>
    refine cooling.set ?_
    intro same
    obtain ⟨bucket, stored, cools⟩ := cooling.bucket
    rw [same, stored] at found
    cases found
    exact cools.trans noShorter
  | coolGlobally | record => exact ⟨cooling.filed, cooling.bucket⟩

theorem Moves.cooling (moves : Moves settings now announced limiter after)
    (keyed : WellKeyed limiter)
    (early : now < cooldownUntil)
    (keepsHash : ∀ hash, announced = some (route.signature, hash) → hash = key.1)
    (cooling : Cooling route key cooldownUntil limiter) :
    Cooling route key cooldownUntil after := by
  have both : WellKeyed after ∧ Cooling route key cooldownUntil after := by
    refine Moves.keep (P := fun l => WellKeyed l ∧ Cooling route key cooldownUntil l) ?_ moves
      ⟨keyed, cooling⟩
    rintro a b move ⟨keyedA, coolingA⟩
    exact ⟨move.wellKeyed keyedA, Move.cooling move keyedA early keepsHash coolingA⟩
  exact both.2

theorem release_cooling (context : Context) (cooling : Cooling route key cooldownUntil limiter) :
    Cooling route key cooldownUntil (limiter.release context).1 := by
  have hashes := (release_invalidInFlight context limiter).2.2.2.2
  refine ⟨?_, ?_⟩
  · rw [← cooling.filed]
    unfold Limiter.keyOf
    rw [hashes]
  · rcases release_buckets context limiter with same | ⟨own, old, new, found, same, -, -, -, is⟩
    · rw [same]
      exact cooling.bucket
    · rw [is]
      have noShorter : own = key → cooldownUntil ≤ new.cooldownUntil := by
        intro isKey
        obtain ⟨bucket, stored, cools⟩ := cooling.bucket
        rw [isKey, stored] at found
        cases found
        rw [same]
        exact cools
      exact (cooling.set noShorter).bucket

/-! ## The blocks of a 429 -/

variable {context : Context}

theorem responseBucket_filed {learn : Bool} {found : Limiter} (keyed : WellKeyed limiter)
    (is : limiter.responseBucket settings context headers now wallNow learn = (found, some key)) :
    found.keyOf context.route = key ∧ ∃ bucket, get key found.routeBuckets = some bucket := by
  have mapped := (remap_moves settings context.route headers now limiter).wellKeyed keyed
  unfold Limiter.responseBucket at is
  split at is
  · cases is
  · next placed own bucket isPlaced =>
    cases is
    refine ⟨?_, _, get_set_self⟩
    have hashes : placed.routeHashes =
        ((limiter.remap context.route headers now).touch context.route now).routeHashes ∧
        key = (limiter.remap context.route headers now).keyOf context.route := by
      unfold Limiter.bucketForRoute at isPlaced
      dsimp only at isPlaced
      split at isPlaced
      · cases isPlaced
        exact ⟨rfl, rfl⟩
      · split at isPlaced
        · cases isPlaced
        · next roomy made =>
          have touched := (touch_moves settings context.route now none _).wellKeyed mapped
          cases isPlaced
          exact ⟨(makeRoom_drops touched made).2.1, rfl⟩
    have touched := touch_keyOf context.route context.route now
      (limiter.remap context.route headers now)
    rw [hashes.2, ← touched]
    unfold Limiter.keyOf
    rw [hashes.1]

theorem apply429Cooldown_cooling (filed : limiter.keyOf route = key)
    (found : get key limiter.routeBuckets = some bucket) :
    Cooling route key cooldownUntil (limiter.apply429Cooldown key cooldownUntil false) := by
  unfold Limiter.apply429Cooldown
  simp only [Bool.false_eq_true, if_false, found]
  exact ⟨filed, _, get_set_self, le_max_right ..⟩

theorem apply429Cooldown_global :
    cooldownUntil ≤ (limiter.apply429Cooldown key cooldownUntil true).globalCooldownUntil := by
  exact le_max_right ..

theorem Moves.globalCooldown (moves : Moves settings now announced limiter after)
    (cooling : cooldownUntil ≤ limiter.globalCooldownUntil) :
    cooldownUntil ≤ after.globalCooldownUntil := by
  refine Moves.keep (P := fun l => cooldownUntil ≤ l.globalCooldownUntil) ?_ moves cooling
  intro a b move cools
  cases move with
  | drop dropped => cases dropped <;> exact cools
  | map | create | write | record => exact cools
  | coolGlobally => exact cools.trans (le_max_left ..)

def InForce (isGlobal : Bool) (route : Route) (key : BucketKey) (cooldownUntil : ℚ)
    (limiter : Limiter) : Prop :=
  if isGlobal then cooldownUntil ≤ limiter.globalCooldownUntil
  else Cooling route key cooldownUntil limiter

variable {isGlobal : Bool}

theorem apply429Cooldown_inForce
    (filed : limiter.keyOf route = key) (found : get key limiter.routeBuckets = some bucket) :
    InForce isGlobal route key cooldownUntil
      (limiter.apply429Cooldown key cooldownUntil isGlobal) := by
  cases isGlobal with
  | false => exact apply429Cooldown_cooling filed found
  | true => exact apply429Cooldown_global

theorem InForce.moves (inForce : InForce isGlobal route key cooldownUntil limiter)
    (moves : Moves settings now announced limiter after) (keyed : WellKeyed limiter)
    (early : now < cooldownUntil)
    (keepsHash :
      isGlobal = false → ∀ hash, announced = some (route.signature, hash) → hash = key.1) :
    InForce isGlobal route key cooldownUntil after := by
  cases isGlobal with
  | false => exact Moves.cooling moves keyed early (keepsHash rfl) inForce
  | true => exact Moves.globalCooldown moves inForce

theorem InForce.later (inForce : InForce isGlobal route key cooldownUntil limiter)
    (moves : Moves settings now announced limiter after) (keyed : WellKeyed limiter)
    (keepsHash :
      isGlobal = false → ∀ hash, announced = some (route.signature, hash) → hash = key.1) :
    cooldownUntil ≤ now ∨ InForce isGlobal route key cooldownUntil after := by
  rcases le_or_gt cooldownUntil now with elapsed | early
  · exact .inl elapsed
  · exact .inr (inForce.moves moves keyed early keepsHash)

theorem InForce.release (context : Context)
    (inForce : InForce isGlobal route key cooldownUntil limiter) :
    InForce isGlobal route key cooldownUntil (limiter.release context).1 := by
  cases isGlobal with
  | false => exact release_cooling context inForce
  | true =>
    unfold InForce
    rw [if_pos rfl, (release_invalidInFlight context limiter).2.2.2.1]
    exact inForce

theorem InForce.same (inForce : InForce isGlobal route key cooldownUntil limiter)
    (hashes : after.routeHashes = limiter.routeHashes)
    (buckets : after.routeBuckets = limiter.routeBuckets)
    (global : after.globalCooldownUntil = limiter.globalCooldownUntil) :
    InForce isGlobal route key cooldownUntil after := by
  unfold InForce at inForce ⊢
  split at inForce
  · next isGlobal =>
    rw [if_pos isGlobal, global]
    exact inForce
  · next isRoute =>
    rw [if_neg isRoute]
    obtain ⟨filed, bucket⟩ := inForce
    refine ⟨?_, by rw [buckets]; exact bucket⟩
    unfold Limiter.keyOf at filed ⊢
    rw [hashes]
    exact filed

theorem InForce.admission {own : BucketKey} {other : Route}
    {admittedAt : ℚ} (inForce : InForce isGlobal route key cooldownUntil limiter)
    (stored : get own limiter.routeBuckets = some bucket) :
    InForce isGlobal route key cooldownUntil
      (afterAdmission other own bucket admittedAt limiter) := by
  cases isGlobal with
  | true => exact inForce
  | false =>
    have cooling : Cooling route key cooldownUntil limiter := inForce
    obtain ⟨cooled, inTable, cools⟩ := cooling.bucket
    refine ⟨cooling.filed, ?_⟩
    unfold afterAdmission
    rw [get_set]
    by_cases same : key = own
    · rw [← same, inTable] at stored
      cases stored
      rw [if_pos same]
      exact ⟨_, rfl, cools⟩
    · rw [if_neg same]
      exact cooling.bucket

theorem InForce.closeBody (context : Context)
    (inForce : InForce isGlobal route key cooldownUntil limiter) :
    InForce isGlobal route key cooldownUntil (limiter.closeBody context).1 := by
  rw [(closeBody_spec context limiter).1]
  exact inForce.same rfl rfl rfl

theorem onResponse_inForce {responseAt delay : ℚ} {wallNow : ℚ × ℚ}
    (keyed : WellKeyed limiter) (bounded : Bounded settings limiter)
    (room : noRoom settings limiter context headers responseAt = false)
    (delayed : headers.retryDelay wallNow.2 = some delay)
    (early : responseAt < roundDouble (responseAt + delay)) :
    ∃ key, InForce (headers.scope = "global" || headers.isGlobal) context.route key
      (roundDouble (responseAt + delay))
      (limiter.onResponse settings context 429 headers responseAt wallNow).1 := by
  obtain ⟨same, pendingIs⟩ := opened_spec 429 context limiter
  rw [onResponse_eq]
  generalize opened 429 context limiter = start at same pendingIs ⊢
  obtain ⟨start, pending⟩ := start
  dsimp only at same pendingIs ⊢
  rw [decide_eq_true rfl, Bool.or_true] at pendingIs
  have keyedStart : WellKeyed start := by
    rw [same]
    exact ⟨keyed.buckets, keyed.hashes⟩
  have boundedStart : Bounded settings start := by
    rw [same]
    exact bounded
  have route : pending.route = context.route := by rw [pendingIs]
  have roomy : noRoom settings start pending headers responseAt = false := by
    rw [same, pendingIs, noRoom_opened]
    exact room
  obtain ⟨found, key, is⟩ := @responseBucket_found _ _ _ _ _ wallNow.1 true roomy
  have moves := responseBucket_moves settings pending headers responseAt wallNow.1 true keyedStart
    boundedStart
  obtain ⟨filed, bucket, stored⟩ := responseBucket_filed keyedStart is
  rw [is] at moves ⊢
  have released : (found.release pending).1.keyOf context.route = key ∧
      ∃ bucket, get key (found.release pending).1.routeBuckets = some bucket := by
    refine ⟨?_, ?_⟩
    · rw [← filed, route]
      unfold Limiter.keyOf
      rw [(release_invalidInFlight pending found).2.2.2.2]
    · have grown := release_grows pending found (.inl key)
      unfold present at grown
      dsimp only at grown
      rw [stored] at grown
      exact Option.isSome_iff_exists.mp (grown rfl)
  obtain ⟨own, bucket, left⟩ := released
  have cooled : InForce (headers.scope = "global" || headers.isGlobal) context.route key
      (roundDouble (responseAt + delay))
        (answered 429 headers responseAt wallNow.2 key (found.release pending).1) := by
    unfold answered
    rw [if_pos rfl, delayed]
    dsimp only
    split
    · exact (apply429Cooldown_inForce own left).same rfl rfl rfl
    · exact apply429Cooldown_inForce own left
  have written := answered_moves settings (announces pending.route headers) 429 headers responseAt
    wallNow.2 key (found.release pending).1
  have keyedWritten := written.wellKeyed (release_wellKeyed (moves.1.wellKeyed keyedStart))
  have cleaned : Moves settings responseAt none
      (answered 429 headers responseAt wallNow.2 key (found.release pending).1)
      ((answered 429 headers responseAt wallNow.2 key (found.release pending).1).cleanup settings
        responseAt) :=
    (cleanup_drops settings responseAt keyedWritten).moves
  exact ⟨key, cooled.moves cleaned keyedWritten early (by simp)⟩

theorem onBody_inForce {responseAt : ℚ} {body : Body}
    (keyed : WellKeyed limiter) (bounded : Bounded settings limiter)
    (room : noRoom settings limiter context headers now = false)
    (double : body.tooLarge = false)
    (early : now < roundDouble (responseAt + retryAfter headers body wallNow)) :
    ∃ key, InForce (globalScope headers body) context.route key
      (roundDouble (responseAt + retryAfter headers body wallNow))
      (limiter.onBody settings context headers responseAt true (some body) now wallNow).1 := by
  obtain ⟨found, key, is⟩ := @responseBucket_found _ _ _ _ _ wallNow false room
  have moves := responseBucket_moves settings context headers now wallNow false keyed bounded
  obtain ⟨filed, bucket, stored⟩ := responseBucket_filed keyed is
  unfold Limiter.onBody
  dsimp only
  rw [is] at moves ⊢
  simp only [if_true, double, Bool.false_eq_true, if_false]
  have cooled : InForce (globalScope headers body) context.route key
      (roundDouble (responseAt + retryAfter headers body wallNow))
      (classified context headers responseAt wallNow body key found) := by
    unfold classified
    split
    · exact apply429Cooldown_inForce filed stored
    · exact (apply429Cooldown_inForce filed stored).same rfl rfl rfl
  have written := moves.1.trans (classified_moves settings now (announces context.route headers)
    context headers responseAt wallNow body key found)
  have keyedWritten := written.wellKeyed keyed
  have cleaned :
    Moves settings now none (classified context headers responseAt wallNow body key found)
      ((classified context headers responseAt wallNow body key found).cleanup settings now) :=
    (cleanup_drops settings now keyedWritten).moves
  exact ⟨key, (cooled.moves cleaned keyedWritten early (by simp)).closeBody context⟩

end Cooling

/-! ## Along a run -/

/-- The cooldown is over or in force. -/
def Blocked (isGlobal : Bool) (route : Route) (key : BucketKey) (cooldownUntil : ℚ) (s : Session) :
    Prop :=
  cooldownUntil ≤ s.clock ∨ InForce isGlobal route key cooldownUntil s.limiter

variable {s : Session} {isGlobal : Bool} {label : Label}

theorem keepsHash_of {route : Route} {key : BucketKey} {cooldownUntil : ℚ}
    (inForce : InForce isGlobal route key cooldownUntil s.limiter)
    (keeps : isGlobal = false → KeepsHash route s label) :
    isGlobal = false → ∀ hash, announcement s label = some (route.signature, hash) →
      hash = key.1 := by
  intro isRoute hash announced
  have own := keeps isRoute _ announced rfl
  unfold InForce at inForce
  rw [if_neg (by simp [isRoute])] at inForce
  rw [inForce.filed] at own
  exact own

theorem Effect.blocked {settings : Settings} {isGlobal : Bool} {route : Route} {key : BucketKey}
    {cooldownUntil : ℚ} {s t : Session} {label : Label} (effect : Effect settings s label t)
    (sound : Sound settings s) (keeps : isGlobal = false → KeepsHash route s label)
    (blocked : Blocked isGlobal route key cooldownUntil s) :
    Blocked isGlobal route key cooldownUntil t := by
  rcases blocked with elapsed | inForce
  · left
    cases effect with
    | start | close | cancelStart | fail => exact elapsed
    | wait _ later | refuse _ later | readBody _ _ later => exact elapsed.trans later
    | enter _ later twice => exact elapsed.trans (later.trans twice)
    | respond => exact elapsed.trans (le_max_left ..)
  have named := keepsHash_of inForce keeps
  cases effect with
  | start | cancelStart => exact .inr inForce
  | close => exact .inr (inForce.same rfl rfl rfl)
  | fail => exact .inr (inForce.release _)
  | wait found later twice moves | refuse found later twice moves =>
    exact inForce.later moves sound.keyed (by simp)
  | @enter index now admittedAt context own bucket waited id found later twice moves _ stored =>
    rcases inForce.later moves sound.keyed (by simp) with elapsed | still
    · exact .inl (elapsed.trans twice)
    · exact .inr (still.admission stored)
  | @respond request status headers responseAt wallNow context bodies found responded =>
    have announced : announcement s (.respond request status headers responseAt wallNow) =
        announces context.route headers := by
      simp [announcement, found]
    rw [announced] at named
    obtain ⟨pending, between, -, -, first, second⟩ := responded.path
    have keyed : WellKeyed between := first.wellKeyed ⟨sound.keyed.buckets, sound.keyed.hashes⟩
    have opened : InForce isGlobal route key cooldownUntil { s.limiter with
        unresolved429Bodies := (s.limiter.onResponse settings context status headers responseAt
          wallNow).1.unresolved429Bodies } := inForce.same rfl rfl rfl
    rcases opened.later first ⟨sound.keyed.buckets, sound.keyed.hashes⟩ named with elapsed | still
    · exact .inl (elapsed.trans (le_max_right ..))
    · rcases (still.release pending).later second
        (release_wellKeyed keyed) named with elapsed | still
      · exact .inl (elapsed.trans (le_max_right ..))
      · exact .inr still
  | @readBody index body now wallNow read context inBodies found later closed =>
    cases body with
    | none => exact .inr (inForce.closeBody context)
    | some body =>
      have announced : announcement s (.readBody index (some body) now wallNow) =
          announces context.route read.headers := by
        simp [announcement, inBodies, found]
      rw [announced] at named
      obtain ⟨between, moves, is⟩ := closed.path
      rcases inForce.later moves sound.keyed named with elapsed | still
      · exact .inl elapsed
      · right
        rw [is]
        exact still.same rfl rfl rfl

variable {cooldown : Cooldown} {t : Session}

variable {settings : Settings}

theorem cooldown_blocked (sound : Sound settings s)
    (applied : cooldownOf settings s label = some cooldown)
    (done : step settings s label = some t) :
    ∃ key, Blocked cooldown.isGlobal cooldown.route key cooldown.cooldownUntil t := by
  cases label with
  | respond request status headers responseAt wallNow =>
    simp only [cooldownOf, Option.bind_eq_bind, Option.bind_eq_some_iff] at applied
    obtain ⟨context, found, delay, delayed, rest⟩ := applied
    split at rest
    · next whole =>
      obtain ⟨rfl, room⟩ := whole
      cases rest
      simp only [step, found, Option.bind_eq_bind, Option.bind_some, Option.some.injEq] at done
      have limiter : t.limiter =
          (s.limiter.onResponse settings context 429 headers responseAt wallNow).1 := by
        rw [← done]
        rfl
      have clock : t.clock = max s.clock responseAt := by
        rw [← done]
        rfl
      rcases le_or_gt (roundDouble (responseAt + delay)) responseAt with elapsed | early
      · refine ⟨s.limiter.keyOf context.route, .inl ?_⟩
        rw [clock]
        exact elapsed.trans (le_max_right ..)
      · obtain ⟨key, inForce⟩ := onResponse_inForce sound.keyed sound.bounded room delayed early
        rw [← limiter] at inForce
        exact ⟨key, .inr inForce⟩
    · cases rest
  | readBody index body now wallNow =>
    cases body with
    | none => cases applied
    | some body =>
      simp only [cooldownOf, Option.bind_eq_bind, Option.bind_eq_some_iff] at applied
      obtain ⟨read, inBodies, context, found, rest⟩ := applied
      split at rest
      · next whole =>
        cases rest
        simp only [step, inBodies, found, whole.1, Option.bind_eq_bind, Option.bind_some] at done
        split at done
        · cases done
          rcases le_or_gt (roundDouble (read.responseAt + retryAfter read.headers body wallNow)) now
            with elapsed | early
          · exact ⟨s.limiter.keyOf context.route, .inl elapsed⟩
          · obtain ⟨key, inForce⟩ := onBody_inForce sound.keyed sound.bounded whole.2.1
              whole.2.2 early
            exact ⟨key, .inr inForce⟩
        · cases done
      · cases rest
  | start | tryAdmit | cancelStart | fail | close => cases applied

theorem keyOf_congr {route other : Route} (signature : other.signature = route.signature)
    (majorParameters : other.majorParameters = route.majorParameters) (limiter : Limiter) :
    limiter.keyOf other = limiter.keyOf route := by
  unfold Limiter.keyOf
  rw [signature, majorParameters]

theorem cooldown_le_wait (settings : Settings) (bucket : RouteBucket) (now : ℚ) :
    roundDouble (bucket.cooldownUntil - now) ≤ bucket.wait settings now := by
  have plain : roundDouble (bucket.cooldownUntil - now) ≤ max 0
      (max (roundDouble (bucket.nextAt - now)) (roundDouble (bucket.cooldownUntil - now))) :=
    (le_max_right ..).trans (le_max_right ..)
  unfold RouteBucket.wait
  dsimp only
  split
  · split
    · exact plain
    · exact plain.trans (le_max_left ..)
  · exact plain

variable {admittedAt : ℚ} {left : Context} {index : Nat}

theorem Effect.admitted_late {key : BucketKey} {now : ℚ}
    (effect : Effect settings s (.tryAdmit index now admittedAt) t) (sound : Sound settings s)
    (new : t.admitted = s.admitted ++ [left])
    (blocked : Blocked cooldown.isGlobal cooldown.route key cooldown.cooldownUntil s) :
    (cooldown.isGlobal = true → left.route.globalExempt = false →
      cooldown.cooldownUntil ≤ admittedAt) ∧
    (cooldown.isGlobal = false → left.route.signature = cooldown.route.signature →
      left.route.majorParameters = cooldown.route.majorParameters →
      cooldown.cooldownUntil ≤ admittedAt) := by
  cases effect with
  | wait | refuse => simp at new
  | @enter _ _ _ context own bucket waited id found later twice moves isOwn stored admits =>
    have route : left.route = context.route := by
      have last := List.append_cancel_left new
      cases last
      rfl
    rw [route]
    simp only [Limiter.admits, Bool.and_eq_true, Bool.or_eq_true, decide_eq_true_eq] at admits
    rcases blocked with elapsed | inForce
    · have late := elapsed.trans (later.trans twice)
      exact ⟨fun _ _ => late, fun _ _ _ => late⟩
    refine ⟨?_, ?_⟩
    · intro isGlobal counted
      rw [isGlobal] at inForce
      have still := Moves.globalCooldown moves (show _ ≤ s.limiter.globalCooldownUntil from inForce)
      have waits := admits.1.1.1
      rw [counted] at waits
      have elapsed : waited.globalCooldownUntil ≤ now := by
        simpa using waits.resolve_left (by simp) |>.1
      exact still.trans (elapsed.trans twice)
    · intro isRoute signature majorParameters
      rw [isRoute] at inForce
      rcases le_or_gt cooldown.cooldownUntil now with elapsed | early
      · exact elapsed.trans twice
      · have cooling : Cooling cooldown.route key cooldown.cooldownUntil s.limiter := inForce
        have cleaned : Moves settings now none s.limiter (s.limiter.cleanup settings now) :=
          (cleanup_drops settings now sound.keyed).moves
        have filed := (Moves.cooling cleaned sound.keyed early (by simp) cooling).filed
        obtain ⟨cooled, inTable, cools⟩ :=
          (Moves.cooling moves sound.keyed early (by simp) cooling).bucket
        rw [← keyOf_congr signature majorParameters, ← isOwn] at filed
        rw [filed, inTable] at stored
        cases stored
        have waits := (cooldown_le_wait settings bucket now).trans admits.1.1.2
        rw [roundDouble_nonpos, sub_nonpos] at waits
        exact cools.trans (waits.trans twice)

/-! ## The barrier of a body -/

/-- The body of the request is to be read. -/
def Pending (request : Nat) (s : Session) : Prop :=
  ∃ context, s.sent[request]? = some context ∧ context.bodyPending = true

variable {contexts : List Context} {request : Nat}

theorem pending_append {more : List Context}
    (pending : ∃ context, contexts[request]? = some context ∧ context.bodyPending = true) :
    ∃ context, (contexts ++ more)[request]? = some context ∧ context.bodyPending = true := by
  obtain ⟨context, found, isPending⟩ := pending
  obtain ⟨inside, -⟩ := List.getElem?_eq_some_iff.mp found
  exact ⟨context, by rw [List.getElem?_append_left inside]; exact found, isPending⟩

theorem pending_set {other : Nat}
    (pending : ∃ context, contexts[request]? = some context ∧ context.bodyPending = true)
    (stays : other = request → left.bodyPending = true) :
    ∃ context, (contexts.set other left)[request]? = some context ∧ context.bodyPending = true := by
  obtain ⟨context, found, isPending⟩ := pending
  obtain ⟨inside, -⟩ := List.getElem?_eq_some_iff.mp found
  by_cases same : other = request
  · subst same
    exact ⟨left, by rw [List.getElem?_set_self inside], stays rfl⟩
  · exact ⟨context, by rw [List.getElem?_set_ne same]; exact found, isPending⟩

theorem Effect.pending (effect : Effect settings s label t)
    (unread : endsRead request s label = false) (pending : Pending request s) :
    Pending request t := by
  have own : ∀ {other : Nat} {context : Context}, s.sent[other]? = some context →
      other = request → context.bodyPending = true := by
    rintro other context found rfl
    obtain ⟨same, isSame, isPending⟩ := pending
    rw [found] at isSame
    cases isSame
    exact isPending
  cases effect with
  | start | close | wait => exact pending
  | cancelStart | refuse | enter => exact pending_append pending
  | @respond other status headers responseAt wallNow context bodies found responded =>
    refine pending_set pending ?_
    intro same
    rw [responded.pending, own found same]
    rfl
  | @readBody index body now wallNow read context inBodies found later closed =>
    refine pending_set pending ?_
    intro same
    simp [endsRead, inBodies, same] at unread
  | @fail other context found =>
    refine pending_set pending ?_
    intro same
    have isPending := own found same
    rw [release_context]
    exact isPending

theorem Effect.admits_nothing {now : ℚ}
    (effect : Effect settings s (.tryAdmit index now admittedAt) t) (barred : Barred s)
    (pending : Pending request s) : t.admitted = s.admitted := by
  cases effect with
  | wait | refuse => rfl
  | @enter _ _ _ context own bucket waited id found later twice moves isOwn stored admits =>
    exfalso
    obtain ⟨waiting, isWaiting, isPending⟩ := pending
    have counted : 0 < s.sent.countP Context.bodyPending :=
      List.countP_pos_iff.mpr ⟨waiting, List.mem_of_getElem? isWaiting, isPending⟩
    have open_ : waited.unresolved429Bodies = 0 := by
      simp only [Limiter.admits, Bool.and_eq_true, decide_eq_true_eq] at admits
      exact admits.2
    rw [moves.sameCounters.unresolved, barred] at open_
    omega

theorem Effect.opens_pending {responseAt : ℚ} {wallNow : ℚ × ℚ}
    (effect : Effect settings s (.respond request 429 headers responseAt wallNow) t) :
    Pending request t := by
  cases effect with
  | respond found responded =>
    obtain ⟨inside, -⟩ := List.getElem?_eq_some_iff.mp found
    refine ⟨_, List.getElem?_set_self inside, ?_⟩
    rw [responded.pending]
    simp

/-! ## The guarantee -/

theorem blocked_onward {route : Route} {key : BucketKey} {cooldownUntil : ℚ}
    {first last : Session} {after : List Label} (sound : Sound settings first)
    (blocked : Blocked isGlobal route key cooldownUntil first)
    (keeps : isGlobal = false → Along (step settings) (KeepsHash route) first after)
    (onward : run (step settings) first after = some last) :
    Blocked isGlobal route key cooldownUntil last := by
  have one : ∀ s label t, Sound settings s ∧ Blocked isGlobal route key cooldownUntil s →
      (isGlobal = false → KeepsHash route s label) → step settings s label = some t →
      Sound settings t ∧ Blocked isGlobal route key cooldownUntil t := by
    rintro s label t ⟨sound, blocked⟩ keepsHash done
    have effect := step_effect sound done
    exact ⟨effect.sound sound, Effect.blocked effect sound keepsHash blocked⟩
  cases isGlobal with
  | true =>
    exact (run_inv (fun s label t both done => one s label t both (by simp) done) ⟨sound, blocked⟩
      onward).2
  | false =>
    exact
      (run_inv_along (fun s label t both keepsHash done => one s label t both (fun _ => keepsHash)
      done) (keeps rfl) ⟨sound, blocked⟩ onward).2

/-- After a block of a 429 has applied a cooldown, no request in its scope is admitted before
it ends, for a route as long as no response announces another bucket hash for the signature;
and after the first block of a 429 nothing is admitted until its body read has ended. -/
theorem cooldown_honoured {settings : Settings} {before after : List Label} {label : Label}
    {s first last next : Session} {index : Nat} {now admittedAt : ℚ} {left : Context}
    (reached : run (step settings) {} before = some s)
    (taken : step settings s label = some first)
    (onward : run (step settings) first after = some last)
    (asked : step settings last (.tryAdmit index now admittedAt) = some next)
    (new : next.admitted = last.admitted ++ [left]) :
    (∀ cooldown ∈ cooldownOf settings s label,
      (cooldown.isGlobal = true → left.route.globalExempt = false →
        cooldown.cooldownUntil ≤ admittedAt) ∧
      (cooldown.isGlobal = false → left.route.signature = cooldown.route.signature →
        left.route.majorParameters = cooldown.route.majorParameters →
        Along (step settings) (KeepsHash cooldown.route) first after →
        cooldown.cooldownUntil ≤ admittedAt)) ∧
    ∀ request headers responseAt wallNow,
      label = .respond request 429 headers responseAt wallNow →
      ¬ Along (step settings) (fun s label => endsRead request s label = false) first after := by
  have start : Barred {} := rfl
  obtain ⟨sound, barred⟩ := reachable_inv (fun _ _ _ sound barred effect =>
    Effect.barred effect sound barred) start reached
  have entered := step_effect sound taken
  have soundFirst := entered.sound sound
  have soundLast : Sound settings last :=
    run_inv (fun _ _ _ sound done => (step_effect sound done).sound sound) soundFirst onward
  have asks := step_effect soundLast asked
  refine ⟨?_, ?_⟩
  · intro cooldown applied
    obtain ⟨key, blocked⟩ := cooldown_blocked sound applied taken
    refine ⟨?_, ?_⟩
    · intro isGlobal counted
      have kept := blocked_onward soundFirst blocked (by simp [isGlobal]) onward
      exact (Effect.admitted_late asks soundLast new kept).1 isGlobal counted
    · intro isRoute signature majorParameters along
      have kept := blocked_onward soundFirst blocked (fun _ => along) onward
      exact (Effect.admitted_late asks soundLast new kept).2 isRoute signature majorParameters
  · rintro request headers responseAt wallNow rfl along
    have one : ∀ s label t, (Sound settings s ∧ Barred s ∧ Pending request s) →
        endsRead request s label = false → step settings s label = some t →
        Sound settings t ∧ Barred t ∧ Pending request t := by
      rintro s label t ⟨sound, barred, pending⟩ unread done
      have effect := step_effect sound done
      exact ⟨effect.sound sound, Effect.barred effect sound barred,
        Effect.pending effect unread pending⟩
    obtain ⟨-, stillBarred, stillPending⟩ := run_inv_along one along
      ⟨soundFirst, Effect.barred entered sound barred, Effect.opens_pending entered⟩ onward
    have nothing := Effect.admits_nothing asks stillBarred stillPending
    rw [nothing] at new
    simp at new

/-- Two requests of one route in flight, and a third one. -/
def threeRequests : List Label :=
  [.start { signature := "POST /m" }, .start { signature := "POST /m" },
    .start { signature := "POST /m" }, .tryAdmit 0 0 0, .tryAdmit 0 0 0]

/-- The first one is limited for ten seconds. -/
def limited : Label := .respond 0 429 { retryAfter := some 10 } 1 (0, 0)

def third (hash : String) (admittedAt : ℚ) : Context :=
  { route := { signature := "POST /m" }
    bucketKey := some (hash, [])
    admittedAt := some admittedAt
    routeAdmissionId := some 3 }

/-- The body is read, the second request is answered, and the third one is asked too early. -/
def meanwhile : List Label :=
  [.readBody 0 (some {}) 1 0, .respond 1 200 {} 2 (0, 0), .tryAdmit 0 5 5]

theorem cooldown_honoured_threeRequests :
    ∃ s ∈ run (step .standard) {} threeRequests, ∃ first ∈ step .standard s limited,
      ∃ last ∈ run (step .standard) first meanwhile,
        ∃ next ∈ step .standard last (.tryAdmit 0 11 12),
        next.admitted = last.admitted ++ [third "POST /m" 12] ∧
        ∃ cooldown ∈ cooldownOf .standard s limited, cooldown.cooldownUntil ≤ 12 := by
  have ends : ∃ s ∈ run (step .standard) {} threeRequests, ∃ first ∈ step .standard s limited,
      ∃ last ∈ run (step .standard) first meanwhile,
        ∃ next ∈ step .standard last (.tryAdmit 0 11 12),
        next.admitted = last.admitted ++ [third "POST /m" 12] ∧
        cooldownOf .standard s limited = some ⟨false, { signature := "POST /m" }, 11⟩ ∧
        Along (step .standard) (KeepsHash { signature := "POST /m" }) first meanwhile := by
    decide +kernel
  obtain ⟨s, reached, first, taken, last, onward, next, asked, new, applied, along⟩ := ends
  have honoured := (cooldown_honoured reached taken onward asked new).1 _ applied
  exact ⟨s, reached, first, taken, last, onward, next, asked, new, _, applied,
    honoured.2 rfl rfl rfl along⟩

/-- The second response announces a bucket hash, and the third request is admitted two
seconds after a 429 that asked for ten. -/
theorem rehashed_route_is_admitted :
    ∃ s ∈ run (step .standard) {} threeRequests, ∃ first ∈ step .standard s limited,
      ∃ last ∈ run (step .standard) first
        [.readBody 0 (some {}) 1 0, .respond 1 200 { bucket := some "h" } 2 (0, 0)],
      ∃ next ∈ step .standard last (.tryAdmit 0 3 3),
        next.admitted = last.admitted ++ [third "h" 3] ∧
        cooldownOf .standard s limited = some ⟨false, (third "h" 3).route, 1 + 10⟩ ∧
          (3 : ℚ) < 1 + 10 := by
  decide +kernel

end Copilotd.Guarantees.RateLimitCooldown
