import Mathlib.Data.List.Sort
import Copilotd.Base.Dict
import Copilotd.Base.Rounding
import Copilotd.Base.Window

/-!
# Discord REST admission

Source: `discord_http_limiter.py` (`DiscordHttpRateLimiter`).  Every locked block
is one function on the limiter's state; the lock is never held across an await,
except in `Condition.wait`, which releases it.  A block that raises keeps what it
had changed, so it returns the state beside its result.

Clock reads, settings and header values are the rationals that their doubles stand
for, and every clock read is an argument; each sum, difference, product and quotient is
rounded to a double where the code computes it.  A header that holds a number is given
by its value, with `none` for one that is absent or does not parse to a finite number.
Left out: overflow to infinity and subnormal doubles, the metrics, the parsing of routes
from URLs, and the observer callbacks.
-/
namespace Copilotd.Source.DiscordHttpLimiter

open Base.Dict Base.Rounding Base.Window

/-- `DISCORD_RATE_LIMIT_SAFETY_RATIO`, the double nearest to 0.8. -/
def rateLimitSafetyRatio : ℚ := roundDouble (4 / 5)

/-- The arguments of `__init__` that pass its checks. -/
structure Settings where
  globalLimit : Nat := 40
  globalWindow : ℚ := 1
  invalidLimit : Nat := 8000
  invalidWindow : ℚ := 600
  safetyRatio : ℚ := rateLimitSafetyRatio
  maxRouteBuckets : Nat := 1024
  routeTtl : ℚ := 900
  globalLimit_range : 0 < globalLimit ∧ globalLimit ≤ 40 := by decide
  invalidLimit_range : 0 < invalidLimit ∧ invalidLimit ≤ 8000 := by decide
  windows_pos : 0 < globalWindow ∧ 0 < invalidWindow := by decide +kernel
  safetyRatio_range : 0 < safetyRatio ∧ safetyRatio ≤ rateLimitSafetyRatio := by
    decide +kernel
  routes_pos : 1 ≤ maxRouteBuckets ∧ 0 < routeTtl := by decide +kernel

/-- The constructor without arguments. -/
def Settings.standard : Settings := {}

structure Route where
  signature : String
  majorParameters : List String := []
  globalExempt : Bool := false
  deriving DecidableEq

structure RouteMapping where
  bucketHash : String
  lastSeen : ℚ

structure RouteBucket where
  lastSeen : ℚ
  limit : Option ℚ := none
  window : Option ℚ := none
  interval : Option ℚ := none
  resetAt : ℚ := 0
  nextAt : ℚ := 0
  cooldownUntil : ℚ := 0
  lastAdmitted : Option ℚ := none
  remaining : Option ℚ := none
  inFlight : Nat := 0
  admissions : List (Nat × ℚ) := []

/-- A bucket hash, or a signature without one, and the major parameters. -/
abbrev BucketKey := String × List String

structure Limiter where
  globalAdmissions : List ℚ := []
  invalidResponses : List ℚ := []
  invalidInFlight : Nat := 0
  unresolved429Bodies : Nat := 0
  globalCooldownUntil : ℚ := 0
  routeHashes : List (String × RouteMapping) := []
  routeBuckets : List (BucketKey × RouteBucket) := []
  nextRouteAdmissionId : Nat := 0
  closed : Bool := false

/-- The trace context of one request. -/
structure Context where
  route : Route
  bucketKey : Option BucketKey := none
  admittedAt : Option ℚ := none
  routeAdmissionId : Option Nat := none
  released : Bool := false
  bodyPending : Bool := false
  invalidRecorded : Bool := false
  deriving DecidableEq

/-- The rate limit headers of a response; `scope` is in lower case. -/
structure Headers where
  bucket : Option String := none
  scope : String := ""
  isGlobal : Bool := false
  limit : Option ℚ := none
  remaining : Option ℚ := none
  resetAfter : Option ℚ := none
  reset : Option ℚ := none
  retryAfter : Option ℚ := none

/-- The fields of a 429 body; one that cannot be read is the empty one. -/
structure Body where
  isGlobal : Bool := false
  isShared : Bool := false
  retryAfter : Option ℚ := none
  /-- `retry_after` is an integer beyond the doubles, for which `float` raises. -/
  tooLarge : Bool := false

/-! ## Header values -/

def nonnegativeFloat (value : Option ℚ) : Option ℚ := value.filter (0 ≤ ·)

def positiveFloat (value : Option ℚ) : Option ℚ := value.filter (0 < ·)

/-- `_reset_after`. -/
def Headers.resetDelay (headers : Headers) (wallNow : ℚ) : Option ℚ :=
  match positiveFloat headers.resetAfter with
  | some resetAfter => some resetAfter
  | none => (positiveFloat headers.reset).bind fun reset =>
    let delta := roundDouble (reset - wallNow)
    if delta > 0 then some delta else none

/-- `_header_retry_after`. -/
def Headers.retryDelay (headers : Headers) (wallNow : ℚ) : Option ℚ :=
  ((nonnegativeFloat headers.retryAfter).toList ++
    (nonnegativeFloat headers.resetAfter).toList ++
    ((nonnegativeFloat headers.reset).map fun reset =>
      max 0 (roundDouble (reset - wallNow))).toList).max?

/-- `_retry_after`, of a body whose `retry_after` is not too large. -/
def retryAfter (headers : Headers) (body : Body) (wallNow : ℚ) : ℚ :=
  (((nonnegativeFloat body.retryAfter).toList ++ (headers.retryDelay wallNow).toList).max?).getD 1

def Headers.marksInvalid (headers : Headers) : Bool :=
  headers.scope = "global" || headers.scope = "user" || headers.isGlobal

/-- `is_global` and `is_shared` once the body is read. -/
def globalScope (headers : Headers) (body : Body) : Bool :=
  headers.scope = "global" || body.isGlobal || headers.isGlobal

def sharedScope (headers : Headers) (body : Body) : Bool :=
  !globalScope headers body &&
    (headers.scope = "shared" || (headers.scope = "" && body.isShared))

/-! ## Buckets -/

/-- `_bucket_is_protected`. -/
def RouteBucket.isProtected (bucket : RouteBucket) (now : ℚ) : Bool :=
  bucket.inFlight > 0 || bucket.cooldownUntil > now || bucket.nextAt > now ||
    bucket.resetAt > now

/-- `_cleanup_route_admissions_locked`. -/
def RouteBucket.cleanupAdmissions (bucket : RouteBucket) (now : ℚ) : RouteBucket :=
  match bucket.window with
  | none =>
    if bucket.inFlight = 0 ∧ (bucket.limit = none ∨ bucket.interval = none) then
      { bucket with admissions := [] }
    else bucket
  | some window =>
    let cutoff := roundDouble (now - window)
    { bucket with admissions := bucket.admissions.filter fun entry => cutoff < entry.2 }

/-- `math.floor(limit * safety_ratio)`. -/
def integerBudget (settings : Settings) (limit : ℚ) : Int :=
  ⌊roundDouble (limit * settings.safetyRatio)⌋

/-- `_route_wait_locked`, on a bucket whose admissions are cleaned up. -/
def RouteBucket.wait (settings : Settings) (bucket : RouteBucket) (now : ℚ) : ℚ :=
  let wait := max 0 (max (roundDouble (bucket.nextAt - now))
    (roundDouble (bucket.cooldownUntil - now)))
  match bucket.limit, bucket.window with
  | some limit, some window =>
    let budget := integerBudget settings limit
    if budget < 1 ∨ (bucket.admissions.length : Int) < budget then wait
    else
      let oldest := ((bucket.admissions.map Prod.snd).min?).getD 0
      max wait (max (roundDouble (roundDouble (oldest + window) - now)) 0)
  | _, _ => wait

/-- The part of `_response_bucket_locked` under `if learn`. -/
def RouteBucket.learn (settings : Settings) (headers : Headers) (now wallNow : ℚ)
    (bucket : RouteBucket) : RouteBucket :=
  let remaining := nonnegativeFloat headers.remaining
  let limited := { bucket with limit := (positiveFloat headers.limit).or bucket.limit }
  let reset :=
    match headers.resetDelay wallNow with
    | none => limited
    | some resetAfter =>
      let newResetAt := roundDouble (now + resetAfter)
      let tolerance := max (roundDouble (1 / 100))
        (roundDouble (resetAfter * roundDouble (1 / 20)))
      let more :=
        match remaining, limited.remaining with
        | some fresh, some old => decide (fresh > old)
        | _, _ => false
      if limited.window = none ∨ now ≥ roundDouble (limited.resetAt - tolerance) ∨ more ∨
          (remaining = none ∧ newResetAt > roundDouble (limited.resetAt + tolerance)) then
        { limited with window := some resetAfter, resetAt := newResetAt }
      else { limited with resetAt := max limited.resetAt newResetAt }
  let counted := { reset with remaining }
  match counted.limit, counted.window with
  | some limit, some window =>
    let budget := integerBudget settings limit
    let usable : ℚ := if budget ≥ 1 then budget else roundDouble (limit * settings.safetyRatio)
    let interval := roundDouble (window / usable)
    { counted with
      interval := some interval
      nextAt :=
        match counted.lastAdmitted with
        | some admitted => roundDouble (admitted + interval)
        | none => counted.nextAt
      cooldownUntil :=
        match remaining with
        | some left =>
          if counted.resetAt > now ∧ roundDouble (limit - left) ≥ usable then
            max counted.cooldownUntil counted.resetAt
          else counted.cooldownUntil
        | none => counted.cooldownUntil }
  | _, _ => counted

/-! ## The route tables -/

def Limiter.hashProtected (limiter : Limiter) (bucketHash : String) (now : ℚ) : Bool :=
  limiter.routeBuckets.any fun entry =>
    entry.1.1 = bucketHash && entry.2.isProtected now

/-- Remove the buckets that `_cleanup_locked` finds stale, then the stale mappings. -/
def Limiter.dropStale (settings : Settings) (now : ℚ) (limiter : Limiter) : Limiter :=
  let staleBefore := roundDouble (now - settings.routeTtl)
  let kept := { limiter with
    routeBuckets := limiter.routeBuckets.filter fun entry =>
      !(entry.2.lastSeen < staleBefore && !entry.2.isProtected now) }
  { kept with
    routeHashes := kept.routeHashes.filter fun entry =>
      !(entry.2.lastSeen < staleBefore && !kept.hashProtected entry.2.bucketHash now) }

/-- `sorted(…, key=last_seen)`, which is stable. -/
def oldestFirst {κ α : Type} (lastSeen : α → ℚ) (entries : List (κ × α)) : List (κ × α) :=
  List.insertionSort (fun a b => lastSeen a.2 ≤ lastSeen b.2) entries

/-- Remove the oldest unprotected buckets and mappings beyond the bounds. -/
def Limiter.dropOverflow (settings : Settings) (now : ℚ) (limiter : Limiter) : Limiter :=
  let oldest := oldestFirst RouteBucket.lastSeen
    (limiter.routeBuckets.filter fun entry => !entry.2.isProtected now)
  let bounded := { limiter with
    routeBuckets := (oldest.take (limiter.routeBuckets.length - settings.maxRouteBuckets)).foldl
      (fun buckets (entry : BucketKey × RouteBucket) => pop entry.1 buckets) limiter.routeBuckets }
  let mappingLimit := max 64 settings.maxRouteBuckets
  let oldestRoutes := oldestFirst RouteMapping.lastSeen
    (bounded.routeHashes.filter fun entry => !bounded.hashProtected entry.2.bucketHash now)
  { bounded with
    routeHashes := (oldestRoutes.take (bounded.routeHashes.length - mappingLimit)).foldl
      (fun hashes (entry : String × RouteMapping) => pop entry.1 hashes) bounded.routeHashes }

def Limiter.cleanup (settings : Settings) (now : ℚ) (limiter : Limiter) : Limiter :=
  (({ limiter with
      globalAdmissions :=
        expire (roundDouble (now - settings.globalWindow)) limiter.globalAdmissions
      invalidResponses :=
        expire (roundDouble (now - settings.invalidWindow)) limiter.invalidResponses
      routeBuckets := limiter.routeBuckets.map fun entry =>
        (entry.1, entry.2.cleanupAdmissions now) } : Limiter).dropStale settings now).dropOverflow
    settings now

/-- `min(evictable, key=last_seen)`. -/
def oldestBucket : List (BucketKey × RouteBucket) → Option BucketKey
  | [] => none
  | entry :: entries =>
    some (entries.foldl
      (fun best other => if other.2.lastSeen < best.2.lastSeen then other else best) entry).1

/-- `_make_route_bucket_room_locked`; `none` is `DiscordHttpRouteCapacityExceeded`. -/
def Limiter.makeRoom (settings : Settings) (now : ℚ) (limiter : Limiter) : Option Limiter :=
  if limiter.routeBuckets.length < settings.maxRouteBuckets then some limiter
  else
    match oldestBucket (limiter.routeBuckets.filter fun entry => !entry.2.isProtected now) with
    | some oldest => some { limiter with routeBuckets := pop oldest limiter.routeBuckets }
    | none =>
      if limiter.routeBuckets.length ≥ settings.maxRouteBuckets + settings.globalLimit then none
      else some limiter

/-- The key that requests of the route are filed under. -/
def Limiter.keyOf (limiter : Limiter) (route : Route) : BucketKey :=
  (((get route.signature limiter.routeHashes).map RouteMapping.bucketHash).getD route.signature,
    route.majorParameters)

/-- `mapping.last_seen = now`. -/
def Limiter.touch (route : Route) (now : ℚ) (limiter : Limiter) : Limiter :=
  match get route.signature limiter.routeHashes with
  | some mapping => { limiter with
      routeHashes := set route.signature { mapping with lastSeen := now } limiter.routeHashes }
  | none => limiter

/-- `_bucket_for_route_locked`; the result is `none` if it raises. -/
def Limiter.bucketForRoute (settings : Settings) (route : Route) (now : ℚ) (limiter : Limiter) :
    Limiter × Option (BucketKey × RouteBucket) :=
  let key := limiter.keyOf route
  let seen := limiter.touch route now
  match get key seen.routeBuckets with
  | some bucket => (seen, some (key, bucket))
  | none =>
    match seen.makeRoom settings now with
    | none => (seen, none)
    | some roomy =>
      let bucket : RouteBucket := { lastSeen := now }
      ({ roomy with routeBuckets := set key bucket roomy.routeBuckets }, some (key, bucket))

def latest (first : ℚ) (times : List ℚ) : ℚ := times.foldl max first

/-- A response that is filed under another bucket takes its admissions along. -/
def RouteBucket.adopt (bucket : RouteBucket) (previous : Option RouteBucket)
    (admissionId : Option Nat) (admittedAt now : ℚ) : RouteBucket :=
  let admissions :=
    match previous, admissionId with
    | some previous, _ => update bucket.admissions previous.admissions
    | none, some admissionId => set admissionId admittedAt bucket.admissions
    | none, none => bucket.admissions
  { bucket with
    admissions
    lastAdmitted := some (latest admittedAt
      (admissions.map Prod.snd ++ bucket.lastAdmitted.toList))
    lastSeen := now }

/-- The mapping that a bucket header announces. -/
def Limiter.remap (route : Route) (headers : Headers) (now : ℚ) (limiter : Limiter) : Limiter :=
  match headers.bucket.filter (· ≠ "") with
  | some bucketHash => { limiter with
      routeHashes := set route.signature { bucketHash, lastSeen := now } limiter.routeHashes }
  | none => limiter

/-- `_response_bucket_locked`; the result is `none` if it raises. -/
def Limiter.responseBucket (settings : Settings) (context : Context) (headers : Headers)
    (now wallNow : ℚ) (learn : Bool) (limiter : Limiter) : Limiter × Option BucketKey :=
  let oldMapping := get context.route.signature limiter.routeHashes
  let previous := context.bucketKey.bind fun key => get key limiter.routeBuckets
  match (limiter.remap context.route headers now).bucketForRoute settings context.route now with
  | (raised, none) => (raised, none)
  | (found, some (key, bucket)) =>
    let adopted :=
      match context.admittedAt with
      | some admittedAt =>
        if some key ≠ context.bucketKey then
          bucket.adopt (if oldMapping = none then previous else none) context.routeAdmissionId
            admittedAt now
        else bucket
      | none => bucket
    let learned := if learn then adopted.learn settings headers now wallNow else adopted
    ({ found with routeBuckets := set key learned found.routeBuckets }, some key)

/-- `_release_reservation_locked`. -/
def Limiter.release (context : Context) (limiter : Limiter) : Limiter × Context :=
  if context.released then (limiter, context)
  else
    let released := { context with released := true }
    match context.admittedAt with
    | none => (limiter, released)
    | some _ =>
      let fewer := { limiter with invalidInFlight := limiter.invalidInFlight - 1 }
      match context.bucketKey.bind fun key => (get key limiter.routeBuckets).map (key, ·) with
      | none => (fewer, released)
      | some (key, bucket) =>
        let left := { bucket with inFlight := bucket.inFlight - 1 }
        let trimmed :=
          match bucket.limit, bucket.window, context.routeAdmissionId with
          | some _, some _, _ => left
          | _, _, some admissionId => { left with admissions := pop admissionId left.admissions }
          | _, _, none => left
        ({ fewer with routeBuckets := set key trimmed fewer.routeBuckets }, released)

/-- `_apply_429_cooldown_locked`, on the bucket under `key`. -/
def Limiter.apply429Cooldown (key : BucketKey) (cooldownUntil : ℚ) (isGlobal : Bool)
    (limiter : Limiter) : Limiter :=
  if isGlobal then
    { limiter with globalCooldownUntil := max limiter.globalCooldownUntil cooldownUntil }
  else
    match get key limiter.routeBuckets with
    | some bucket => { limiter with
        routeBuckets := set key
          { bucket with cooldownUntil := max bucket.cooldownUntil cooldownUntil }
          limiter.routeBuckets }
    | none => limiter

/-! ## Admission -/

def Limiter.globalWait (settings : Settings) (now : ℚ) (limiter : Limiter) : ℚ :=
  if limiter.globalAdmissions.length < settings.globalLimit then 0
  else
    match limiter.globalAdmissions.head? with
    | some oldest => max 0 (roundDouble (roundDouble (oldest + settings.globalWindow) - now))
    | none => 0

/-- `_invalid_wait_locked`; `none` is a wait without a bound. -/
def Limiter.invalidWait (settings : Settings) (now : ℚ) (limiter : Limiter) : Option ℚ :=
  if limiter.invalidResponses.length + limiter.invalidInFlight < settings.invalidLimit then some 0
  else limiter.invalidResponses.head?.map fun oldest =>
    max 0 (roundDouble (roundDouble (oldest + settings.invalidWindow) - now))

/-- No entry of `waits` is active. -/
def Limiter.admits (settings : Settings) (route : Route) (bucket : RouteBucket) (now : ℚ)
    (limiter : Limiter) : Bool :=
  (route.globalExempt ||
    (roundDouble (limiter.globalCooldownUntil - now) ≤ 0 && limiter.globalWait settings now ≤ 0)) &&
  bucket.wait settings now ≤ 0 &&
  (limiter.invalidWait settings now).any (· ≤ 0) &&
  limiter.unresolved429Bodies = 0

inductive Admission where
  | closed
  | capacityExceeded
  | waits
  | admitted (context : Context)

/-- One iteration of the loop in `on_request_start`, with its two clock reads. -/
def Limiter.tryAdmit (settings : Settings) (context : Context) (now admittedAt : ℚ)
    (limiter : Limiter) : Limiter × Admission :=
  if limiter.closed then (limiter, .closed)
  else
    match (limiter.cleanup settings now).bucketForRoute settings context.route now with
    | (raised, none) => (raised, .capacityExceeded)
    | (found, some (key, bucket)) =>
      let cleaned := bucket.cleanupAdmissions now
      let waited := { found with routeBuckets := set key cleaned found.routeBuckets }
      if waited.admits settings context.route cleaned now then
        let admissionId := waited.nextRouteAdmissionId + 1
        let admitted : RouteBucket :=
          { cleaned with
            inFlight := cleaned.inFlight + 1
            admissions := set admissionId admittedAt cleaned.admissions
            lastSeen := admittedAt
            lastAdmitted := some admittedAt
            nextAt := (cleaned.interval.map fun interval =>
              roundDouble (admittedAt + interval)).getD cleaned.nextAt }
        ({ waited with
            globalAdmissions :=
              if context.route.globalExempt then waited.globalAdmissions
              else waited.globalAdmissions ++ [admittedAt]
            invalidInFlight := waited.invalidInFlight + 1
            nextRouteAdmissionId := admissionId
            routeBuckets := set key admitted waited.routeBuckets },
          .admitted { context with
            bucketKey := some key
            admittedAt := some admittedAt
            routeAdmissionId := some admissionId })
      else (waited, .waits)

/-! ## Responses -/

/-- The first locked block of `on_request_end`; the flag is `ready_for_body`.  The wall clock is
read by `_response_bucket_locked`, and again for the cooldown. -/
def Limiter.onResponse (settings : Settings) (context : Context) (status : Nat)
    (headers : Headers) (responseAt : ℚ) (wallNow : ℚ × ℚ) (limiter : Limiter) :
    Limiter × Context × Bool :=
  let (opened, pending) :=
    if status = 429 ∧ context.bodyPending = false then
      ({ limiter with unresolved429Bodies := limiter.unresolved429Bodies + 1 },
        { context with bodyPending := true })
    else (limiter, context)
  match opened.responseBucket settings pending headers responseAt wallNow.1 true with
  | (raised, none) =>
    -- The `except` branch: released, and nothing recorded.
    let (released, context) := raised.release pending
    (released, context, false)
  | (found, some key) =>
    let (released, freed) := found.release pending
    if status = 429 then
      let cooled :=
        match headers.retryDelay wallNow.2 with
        | some delay =>
          released.apply429Cooldown key (roundDouble (responseAt + delay))
            (headers.scope = "global" || headers.isGlobal)
        | none => released
      if headers.marksInvalid then
        (({ cooled with invalidResponses := cooled.invalidResponses ++ [responseAt] } :
            Limiter).cleanup settings responseAt,
          { freed with invalidRecorded := true }, true)
      else (cooled.cleanup settings responseAt, freed, true)
    else if status = 401 ∨ status = 403 then
      (({ released with invalidResponses := released.invalidResponses ++ [responseAt] } :
          Limiter).cleanup settings responseAt, freed, true)
    else (released.cleanup settings responseAt, freed, true)

/-- What the second block found out about a 429. -/
inductive Classification where
  | shared
  | counted
  | unclassified
  deriving DecidableEq

/-- The last part of the second block: the body is no longer pending. -/
def Limiter.closeBody (context : Context) (limiter : Limiter) : Limiter × Context :=
  if context.bodyPending then
    ({ limiter with unresolved429Bodies := limiter.unresolved429Bodies - 1 },
      { context with bodyPending := false })
  else (limiter, context)

/-- The second locked block of `on_request_end`; `body` is `none` if the read was
cancelled. -/
def Limiter.onBody (settings : Settings) (context : Context) (headers : Headers)
    (responseAt : ℚ) (readyForBody : Bool) (body : Option Body) (now wallNow : ℚ)
    (limiter : Limiter) : Limiter × Context × Classification :=
  match body with
  | none =>
    let (closed, context) := limiter.closeBody context
    (closed, context, .unclassified)
  | some body =>
    if readyForBody then
      match limiter.responseBucket settings context headers now wallNow false with
      | (raised, none) =>
        let (closed, context) := raised.closeBody context
        (closed, context, .unclassified)
      | (found, some key) =>
        if body.tooLarge then
          -- `OverflowError` in the argument of `_apply_429_cooldown_locked`.
          let (closed, context) := found.closeBody context
          (closed, context, .unclassified)
        else
          let cooled := found.apply429Cooldown key
            (roundDouble (responseAt + retryAfter headers body wallNow)) (globalScope headers body)
          let recorded :=
            if sharedScope headers body || context.invalidRecorded then cooled
            else { cooled with invalidResponses := cooled.invalidResponses ++ [responseAt] }
          let (closed, context) := (recorded.cleanup settings now).closeBody context
          (closed, context, if sharedScope headers body then .shared else .counted)
    else
      let (closed, context) := limiter.closeBody context
      (closed, context, .unclassified)

/-- `on_request_exception` and `on_request_redirect`. -/
def Limiter.onFailure (context : Context) (limiter : Limiter) : Limiter × Context :=
  limiter.release context

end Copilotd.Source.DiscordHttpLimiter
