import Copilotd.Guarantees.DiscordAdmission

/-!
# The pacing of a learned route

Whatever the responses report, a bucket that stays in the table keeps its next slot at
least one interval after each admission it has seen (`Follows`): learning counts from the
last admission, and merging another bucket's admissions only moves that forward.  While
one limit and one window stay in force the bucket cannot have been dropped, for a new one
has no limit, and its interval is the one that these two give (`Learned`).

The interval and the slot are doubles.  Admissions keep the exact spacing in every run in
which the rounded slots are no earlier than the exact ones (`learned_route_pacing`), and
otherwise they may come closer (`rounded_slot_comes_early`).
-/
namespace Copilotd.Guarantees.RoutePacing

open Base.Run Base.Dict Base.Rounding Base.Window
open Source.DiscordHttpLimiter Source.DiscordHttpTrace
open Guarantees.RouteTable Guarantees.DiscordAdmission

/-! ## The law -/

/-- The part of a limit that may be used. -/
def usable (settings : Settings) (limit : ℚ) : ℚ :=
  if ⌊limit * settings.safetyRatio⌋ ≥ 1 then ⌊limit * settings.safetyRatio⌋
  else limit * settings.safetyRatio

/-- The interval that the doubles of a limit and a window give. -/
def interval (settings : Settings) (limit window : ℚ) : ℚ :=
  roundDouble (window / if integerBudget settings limit ≥ 1 then (integerBudget settings limit : ℚ)
    else roundDouble (limit * settings.safetyRatio))

/-- The bucket under the key has learned this limit and this window. -/
def InForce (key : BucketKey) (limit window : ℚ) (s : Session) : Prop :=
  ∃ bucket, get key s.limiter.routeBuckets = some bucket ∧ bucket.limit = some limit ∧
    bucket.window = some window

/-- When the contexts were admitted into the bucket, in their order. -/
def admissionsInto (key : BucketKey) (contexts : List Context) : List ℚ :=
  (contexts.filter (·.bucketKey = some key)).filterMap Context.admittedAt

theorem usable_pos (settings : Settings) {limit : ℚ} (positive : 0 < limit) :
    0 < usable settings limit := by
  unfold usable
  split
  · next whole => exact_mod_cast Int.lt_of_lt_of_le Int.zero_lt_one whole
  · exact mul_pos positive settings.safetyRatio_range.1

/-- Admissions that are an interval apart: no more than the budget, and always one, fit in
less than the window. -/
theorem spaced_count (settings : Settings) {limit window : ℚ} {times : List ℚ}
    (positive : 0 < limit) (wide : 0 < window)
    (spaced : Spaced (window / usable settings limit) times)
    (close : ∀ a ∈ times, ∀ b ∈ times, b - a < window) :
    (times.length : ℚ) ≤ max 1 (usable settings limit) := by
  have gaps := spaced.lt wide close
  have budget := usable_pos settings positive
  rw [mul_div_assoc', div_lt_iff₀ budget, mul_comm, mul_lt_mul_iff_right₀ wide] at gaps
  unfold usable at gaps ⊢
  split at gaps
  · next whole =>
    rw [if_pos whole]
    have fewer : ((times.length - 1 : Nat) : Int) < ⌊limit * settings.safetyRatio⌋ := by
      exact_mod_cast gaps
    have most : (times.length : Int) ≤ ⌊limit * settings.safetyRatio⌋ := by omega
    exact le_max_of_le_right (by exact_mod_cast most)
  · next part =>
    have small : limit * settings.safetyRatio < 1 := by
      have none : ⌊limit * settings.safetyRatio⌋ < 1 := not_le.mp part
      exact_mod_cast Int.floor_lt.mp none
    have one : times.length - 1 < 1 := by
      exact_mod_cast gaps.trans small
    have most : times.length ≤ 1 := by omega
    exact le_max_of_le_left (by exact_mod_cast most)

/-! ## Buckets -/

/-- The two buckets do not differ in what the pacing reads. -/
structure SamePace (old new : RouteBucket) : Prop where
  limit : new.limit = old.limit
  window : new.window = old.window
  interval : new.interval = old.interval
  nextAt : new.nextAt = old.nextAt
  lastAdmitted : new.lastAdmitted = old.lastAdmitted

/-- What was learned is positive, and the interval is the one that it gives. -/
structure Learned (settings : Settings) (bucket : RouteBucket) : Prop where
  limit : ∀ limit ∈ bucket.limit, 0 < limit
  window : ∀ window ∈ bucket.window, 0 < window
  interval : ∀ limit ∈ bucket.limit, ∀ window ∈ bucket.window,
    bucket.interval = some (interval settings limit window)

/-- The bucket has seen an admission at `time`, and its next slot is no earlier than an
interval later. -/
structure Follows (time : ℚ) (bucket : RouteBucket) : Prop where
  lastAdmitted : ∃ last ∈ bucket.lastAdmitted, time ≤ last
  nextAt : ∀ interval ∈ bucket.interval, roundDouble (time + interval) ≤ bucket.nextAt

theorem cleanupAdmissions_samePace (bucket : RouteBucket) (now : ℚ) :
    SamePace bucket (bucket.cleanupAdmissions now) := by
  unfold RouteBucket.cleanupAdmissions
  split
  · split <;> exact ⟨rfl, rfl, rfl, rfl, rfl⟩
  · exact ⟨rfl, rfl, rfl, rfl, rfl⟩

variable {bucket : RouteBucket}

variable {settings : Settings}

theorem nextAt_le_of_wait {now : ℚ}
    (ready : bucket.wait settings now ≤ 0) : bucket.nextAt ≤ now := by
  have waits : roundDouble (bucket.nextAt - now) ≤ bucket.wait settings now := by
    have slot : roundDouble (bucket.nextAt - now) ≤ max 0
        (max (roundDouble (bucket.nextAt - now)) (roundDouble (bucket.cooldownUntil - now))) :=
      le_max_of_le_right (le_max_left ..)
    unfold RouteBucket.wait
    dsimp only
    split
    · split
      · exact slot
      · exact le_max_of_le_left slot
    · exact slot
  exact sub_nonpos.mp (roundDouble_nonpos.mp (waits.trans ready))

structure Learns (settings : Settings) (old new : RouteBucket) : Prop where
  limit : ∀ limit ∈ new.limit, 0 < limit ∨ limit ∈ old.limit
  window : ∀ window ∈ new.window, 0 < window ∨ window ∈ old.window
  lastAdmitted : new.lastAdmitted = old.lastAdmitted
  paced : ((new.limit = none ∨ new.window = none) ∧ new.interval = old.interval ∧
      new.nextAt = old.nextAt) ∨
    ∃ limit window, new.limit = some limit ∧ new.window = some window ∧
      new.interval = some (interval settings limit window) ∧
      ∀ last ∈ old.lastAdmitted, new.nextAt = roundDouble (last + interval settings limit window)

theorem positiveFloat_pos {value : Option ℚ} {number : ℚ} (is : positiveFloat value = some number) :
    0 < number := by
  obtain ⟨-, positive⟩ := Option.filter_eq_some_iff.mp is
  exact of_decide_eq_true positive

theorem resetDelay_pos {headers : Headers} {wallNow delay : ℚ}
    (is : headers.resetDelay wallNow = some delay) : 0 < delay := by
  unfold Headers.resetDelay at is
  split at is
  · next resetAfter after =>
    cases is
    exact positiveFloat_pos after
  · obtain ⟨reset, -, later⟩ := Option.bind_eq_some_iff.mp is
    dsimp only at later
    split at later
    · next positive =>
      cases later
      exact positive
    · cases later

theorem learn_learns (settings : Settings) (headers : Headers) (now wallNow : ℚ)
    (bucket : RouteBucket) :
    Learns settings bucket (bucket.learn settings headers now wallNow) := by
  unfold RouteBucket.learn
  extract_lets remaining limited reset counted
  have sameLimit : counted.limit = limited.limit := by
    dsimp only [counted, reset]
    split
    · rfl
    · split <;> rfl
  have rest : counted.interval = bucket.interval ∧ counted.nextAt = bucket.nextAt ∧
      counted.lastAdmitted = bucket.lastAdmitted := by
    dsimp only [counted, reset]
    split
    · exact ⟨rfl, rfl, rfl⟩
    · split <;> exact ⟨rfl, rfl, rfl⟩
  have window : ∀ window ∈ counted.window, 0 < window ∨ window ∈ bucket.window := by
    intro window is
    dsimp only [counted, reset] at is
    split at is
    · exact .inr is
    · next resetAfter delay =>
      split_ifs at is
      · cases is
        exact .inl (resetDelay_pos delay)
      · exact .inr is
  have limit : ∀ limit ∈ counted.limit, 0 < limit ∨ limit ∈ bucket.limit := by
    intro limit is
    rw [sameLimit] at is
    rcases Option.or_eq_some_iff.mp is with learned | ⟨-, old⟩
    · exact .inl (positiveFloat_pos learned)
    · exact .inr old
  clear_value counted
  obtain ⟨interval, nextAt, lastAdmitted⟩ := rest
  split
  · next learnedLimit learnedWindow isLimit isWindow =>
    refine
      ⟨limit, window, lastAdmitted, .inr ⟨learnedLimit, learnedWindow, isLimit, isWindow, rfl, ?_⟩⟩
    intro last isLast
    rw [← lastAdmitted] at isLast
    rw [Option.mem_def.mp isLast]
    rfl
  · next unknown =>
    refine ⟨limit, window, lastAdmitted, .inl ⟨?_, interval, nextAt⟩⟩
    by_contra both
    rw [not_or] at both
    obtain ⟨learnedLimit, isLimit⟩ := Option.ne_none_iff_exists'.mp both.1
    obtain ⟨learnedWindow, isWindow⟩ := Option.ne_none_iff_exists'.mp both.2
    exact unknown learnedLimit learnedWindow isLimit isWindow

/-! ## Properties of one bucket -/

/-- A property that speaks of the pacing only, and that a later last admission does not
break. -/
structure Steady (P : RouteBucket → Prop) : Prop where
  same : ∀ {old new : RouteBucket}, SamePace old new → P old → P new
  adopt : ∀ {bucket : RouteBucket} (previous : Option RouteBucket) (admissionId : Option Nat)
    (admittedAt now : ℚ), P bucket → P (bucket.adopt previous admissionId admittedAt now)

theorem latest_le (first : ℚ) (times : List ℚ) :
    ∀ time ∈ first :: times, time ≤ latest first times := by
  induction times generalizing first with
  | nil => simp [latest]
  | cons next times ih =>
    intro time member
    have later := ih (max first next)
    rcases List.mem_cons.mp member with rfl | member
    · exact (le_max_left ..).trans (later _ (List.mem_cons_self ..))
    · rcases List.mem_cons.mp member with rfl | member
      · exact (le_max_right ..).trans (later _ (List.mem_cons_self ..))
      · exact later time (List.mem_cons_of_mem _ member)

theorem learned_fresh (settings : Settings) (now : ℚ) : Learned settings { lastSeen := now } where
  limit := by simp
  window := by simp
  interval := by simp

theorem learned_steady (settings : Settings) : Steady (Learned settings) where
  same := by
    intro old new same learned
    exact ⟨by rw [same.limit]; exact learned.limit, by rw [same.window]; exact learned.window,
      by rw [same.limit, same.window, same.interval]; exact learned.interval⟩
  adopt := fun _ _ _ _ learned => ⟨learned.limit, learned.window, learned.interval⟩

theorem Learns.learned {old new : RouteBucket} (learns : Learns settings old new)
    (learned : Learned settings old) : Learned settings new := by
  refine ⟨?_, ?_, ?_⟩
  · intro limit is
    exact (learns.limit limit is).elim id (learned.limit limit)
  · intro window is
    exact (learns.window window is).elim id (learned.window window)
  · intro limit isLimit window isWindow
    rcases learns.paced with ⟨unknown | unknown, -, -⟩ | ⟨l, w, sameLimit, sameWindow, interval, -⟩
    · rw [Option.mem_def, unknown] at isLimit
      cases isLimit
    · rw [Option.mem_def, unknown] at isWindow
      cases isWindow
    · rw [Option.mem_def, sameLimit] at isLimit
      rw [Option.mem_def, sameWindow] at isWindow
      cases isLimit
      cases isWindow
      exact interval

theorem follows_steady (time : ℚ) : Steady (Follows time) where
  same := by
    intro old new same follows
    exact ⟨by rw [same.lastAdmitted]; exact follows.lastAdmitted,
      by rw [same.interval, same.nextAt]; exact follows.nextAt⟩
  adopt := by
    intro bucket previous admissionId admittedAt now follows
    obtain ⟨last, isLast, before⟩ := follows.lastAdmitted
    refine ⟨⟨_, rfl, before.trans (latest_le _ _ last ?_)⟩, follows.nextAt⟩
    exact List.mem_cons_of_mem _ (List.mem_append_right _ (Option.mem_toList.mpr isLast))

theorem Learns.follows {old new : RouteBucket} {time : ℚ}
    (learns : Learns settings old new) (follows : Follows time old) : Follows time new := by
  obtain ⟨last, isLast, before⟩ := follows.lastAdmitted
  refine ⟨⟨last, by rw [learns.lastAdmitted]; exact isLast, before⟩, ?_⟩
  intro interval is
  rcases learns.paced with ⟨-, sameInterval, sameNext⟩ | ⟨limit, window, -, -, learned, next⟩
  · rw [sameInterval] at is
    rw [sameNext]
    exact follows.nextAt interval is
  · rw [Option.mem_def, learned] at is
    cases is
    rw [next last isLast]
    exact roundDouble_mono (add_le_add_left before _)

theorem Steady.limited {P : RouteBucket → Prop} (steady : Steady P) :
    Steady fun bucket => bucket.limit = none ∨ P bucket where
  same := by
    rintro old new same (unlimited | holds)
    · exact .inl (same.limit.trans unlimited)
    · exact .inr (steady.same same holds)
  adopt := by
    rintro bucket previous admissionId admittedAt now (unlimited | holds)
    · exact .inl unlimited
    · exact .inr (steady.adopt _ _ _ _ holds)

/-! ## The table -/

/-- The bucket under the key, if there is one, has the property. -/
def At (key : BucketKey) (P : RouteBucket → Prop) (limiter : Limiter) : Prop :=
  ∀ bucket, get key limiter.routeBuckets = some bucket → P bucket

section Table

variable {settings : Settings} {now : ℚ} {key : BucketKey} {P : RouteBucket → Prop}
  {limiter after : Limiter}

theorem at_set (table : Limiter) {own : BucketKey} {buckets : List (BucketKey × RouteBucket)}
    (holds : At key P { limiter with routeBuckets := buckets }) (own_ : key = own → P bucket) :
    At key P { table with routeBuckets := set own bucket buckets } := by
  intro found is
  rw [get_set] at is
  split at is
  · next same =>
    cases is
    exact own_ same
  · exact holds found is

theorem Drop.at (dropped : Drop settings now limiter after) (steady : Steady P)
    (keyed : WellKeyed limiter) (holds : At key P limiter) : At key P after := by
  intro bucket found
  cases dropped with
  | trim =>
    rw [get_trimmed] at found
    obtain ⟨old, stored, rfl⟩ := Option.map_eq_some_iff.mp found
    exact steady.same (cleanupAdmissions_samePace old now) (holds old stored)
  | evict keep =>
    rw [get_filter keyed.buckets] at found
    exact holds bucket (Option.filter_eq_some_iff.mp found).1
  | unmap => exact holds bucket found

theorem Drops.at (drops : Drops settings now limiter after) (steady : Steady P)
    (keyed : WellKeyed limiter) (holds : At key P limiter) : At key P after := by
  induction drops with
  | refl => exact holds
  | tail before dropped ih => exact Drop.at dropped steady (Drops.wellKeyed before keyed) ih

theorem cleanup_at (steady : Steady P) (keyed : WellKeyed limiter) (holds : At key P limiter) :
    At key P (limiter.cleanup settings now) :=
  Drops.at (cleanup_drops settings now keyed) steady keyed holds

theorem bucketForRoute_at (route : Route) (steady : Steady P) (keyed : WellKeyed limiter)
    (fresh : get key limiter.routeBuckets = none → P { lastSeen := now })
      (holds : At key P limiter) :
    At key P (limiter.bucketForRoute settings route now).1 := by
  have touched : At key P (limiter.touch route now) := by
    unfold At
    rw [touch_buckets]
    exact holds
  unfold Limiter.bucketForRoute
  dsimp only
  split
  · exact touched
  · next absent =>
    split
    · exact touched
    · next roomy made =>
      have keyed' := (touch_moves settings route now none limiter).wellKeyed keyed
      have kept := Drops.at (makeRoom_drops keyed' made).1 steady keyed' touched
      refine at_set roomy kept ?_
      rintro rfl
      rw [touch_buckets] at absent
      exact fresh absent

theorem responseBucket_at (context : Context) (headers : Headers) (wallNow : ℚ) (learn : Bool)
    (steady : Steady P)
      (learning : learn = true → ∀ {old new}, Learns settings old new → P old → P new)
    (keyed : WellKeyed limiter) (bounded : Bounded settings limiter)
    (fresh : get key limiter.routeBuckets = none → P { lastSeen := now })
      (holds : At key P limiter) :
    At key P (limiter.responseBucket settings context headers now wallNow learn).1 := by
  have mapped := remap_moves settings context.route headers now limiter
  have same : (limiter.remap context.route headers now).routeBuckets = limiter.routeBuckets := by
    unfold Limiter.remap
    split <;> rfl
  have found := @bucketForRoute_at settings now key P _ context.route steady
    (mapped.wellKeyed keyed) (by rw [same]; exact fresh)
    (show At key P (limiter.remap context.route headers now) by unfold At; rw [same]; exact holds)
  have filed := (bucketForRoute_moves settings context.route now (announces context.route headers)
    (mapped.wellKeyed keyed) (mapped.bounded bounded)).2
  unfold Limiter.responseBucket
  split
  · next is =>
    rw [is] at found
    exact found
  · next table own bucket is =>
    rw [is] at found filed
    refine at_set table found ?_
    rintro rfl
    have holds := found bucket (filed _ _ rfl).2
    have learned (adopted : RouteBucket) (adopts : P adopted) :
        P (if learn then adopted.learn settings headers now wallNow else adopted) := by
      split
      · next learns => exact learning learns (learn_learns ..) adopts
      · exact adopts
    refine learned _ ?_
    cases context.admittedAt with
    | none => exact holds
    | some admittedAt =>
      dsimp only
      split
      · exact steady.adopt _ _ _ _ holds
      · exact holds

theorem apply429Cooldown_at (own : BucketKey) (cooldownUntil : ℚ) (isGlobal : Bool)
    (steady : Steady P)
    (holds : At key P limiter) :
    At key P (limiter.apply429Cooldown own cooldownUntil isGlobal) := by
  unfold Limiter.apply429Cooldown
  split
  · exact holds
  · split
    · next bucket found =>
      refine at_set limiter holds ?_
      rintro rfl
      refine steady.same ?_ (holds bucket found)
      exact ⟨rfl, rfl, rfl, rfl, rfl⟩
    · exact holds

theorem release_at (context : Context) (steady : Steady P) (holds : At key P limiter) :
    At key P (limiter.release context).1 := by
  unfold Limiter.release
  split
  · exact holds
  · dsimp only
    split
    · exact holds
    · split
      · exact holds
      · next own bucket found =>
        obtain ⟨k, -, inTable⟩ := Option.bind_eq_some_iff.mp found
        obtain ⟨value, stored, same⟩ := Option.map_eq_some_iff.mp inTable
        cases same
        refine at_set limiter holds ?_
        rintro rfl
        refine steady.same ?_ (holds bucket stored)
        split <;> exact ⟨rfl, rfl, rfl, rfl, rfl⟩

theorem answered_at (status : Nat) (headers : Headers) (responseAt wallNow : ℚ) (own : BucketKey)
    (steady : Steady P) (holds : At key P limiter) :
    At key P (answered status headers responseAt wallNow own limiter) := by
  refine answered_spec status headers responseAt wallNow own holds ?_ fun _ holds => holds
  intro cooldownUntil isGlobal
  exact apply429Cooldown_at own _ _ steady holds

theorem onResponse_at (context : Context) (status : Nat) (headers : Headers)
    (wallNow : ℚ × ℚ)
    (steady : Steady P) (learning : ∀ {old new}, Learns settings old new → P old → P new)
    (keyed : WellKeyed limiter) (bounded : Bounded settings limiter)
    (fresh : get key limiter.routeBuckets = none → P { lastSeen := now })
      (holds : At key P limiter) :
    At key P (limiter.onResponse settings context status headers now wallNow).1 := by
  obtain ⟨same, -⟩ := opened_spec status context limiter
  rw [onResponse_eq]
  generalize opened status context limiter = start at same ⊢
  obtain ⟨start, pending⟩ := start
  dsimp only at same ⊢
  have keyedStart : WellKeyed start := by
    rw [same]
    exact ⟨keyed.buckets, keyed.hashes⟩
  have boundedStart : Bounded settings start := by
    rw [same]
    exact bounded
  have found := @responseBucket_at settings now key P start pending headers wallNow.1 true steady
    (fun _ => learning) keyedStart boundedStart
      (by rw [same]; exact fresh) (by rw [same]; exact holds)
  have moves := (responseBucket_moves settings pending headers now wallNow.1 true keyedStart
    boundedStart).1
  split
  · next is =>
    rw [is] at found
    exact release_at pending steady found
  · next table own is =>
    rw [is] at found moves
    have written :=
      answered_at status headers now wallNow.2 own steady (release_at pending steady found)
    exact cleanup_at steady
      ((answered_moves settings none status headers now wallNow.2 own _).wellKeyed
      (release_wellKeyed (moves.wellKeyed keyedStart))) written

theorem onBody_at (context : Context) (headers : Headers) (responseAt : ℚ) (readyForBody : Bool)
    (body : Option Body) (wallNow : ℚ) (steady : Steady P) (keyed : WellKeyed limiter)
    (bounded : Bounded settings limiter)
    (fresh : get key limiter.routeBuckets = none → P { lastSeen := now })
      (holds : At key P limiter) :
    At key P
      (limiter.onBody settings context headers responseAt readyForBody body now wallNow).1 := by
  have close : ∀ table, At key P table → At key P (table.closeBody context).1 := by
    intro table kept
    rw [(closeBody_spec context table).1]
    exact kept
  unfold Limiter.onBody
  cases body with
  | none => exact close limiter holds
  | some body =>
    dsimp only
    split
    · have found :=
        @responseBucket_at settings now key P limiter context headers wallNow false steady
        (fun learns => by cases learns) keyed bounded fresh holds
      have moves :=
        (responseBucket_moves settings context headers now wallNow false keyed bounded).1
      split
      · next is =>
        rw [is] at found
        exact close _ found
      · next table own is =>
        rw [is] at found moves
        have written : At key P (classified context headers responseAt wallNow body own table) := by
          have cooled := apply429Cooldown_at own
            (roundDouble (responseAt + retryAfter headers body wallNow))
            (globalScope headers body) steady found
          unfold classified
          split
          · exact cooled
          · exact cooled
        split
        · exact close _ found
        · exact close _
            (cleanup_at steady ((classified_moves settings now none context headers responseAt
            wallNow body own table).wellKeyed (moves.wellKeyed keyed)) written)
    · exact close limiter holds

theorem tryAdmit_at (context : Context) (admittedAt : ℚ) (steady : Steady P)
    (keyed : WellKeyed limiter) (bounded : Bounded settings limiter) (fresh : P { lastSeen := now })
    (holds : At key P limiter) :
    (∃ after outcome, limiter.tryAdmit settings context now admittedAt = (after, outcome) ∧
        (∀ left, outcome ≠ .admitted left) ∧ At key P after) ∨
      ∃ own bucket waited id, At key P waited ∧ get own waited.routeBuckets = some bucket ∧
        bucket.nextAt ≤ now ∧ (limiter.cleanup settings now).keyOf context.route = own ∧
        limiter.tryAdmit settings context now admittedAt =
          (afterAdmission context.route own bucket admittedAt waited,
            .admitted { context with
              bucketKey := some own, admittedAt := some admittedAt, routeAdmissionId :=
                some id }) := by
  have drops := cleanup_drops settings now keyed
  have cleaned := @cleanup_at settings now key P limiter steady keyed holds
  have keyed' := drops.wellKeyed keyed
  have found := @bucketForRoute_at settings now key P _ context.route steady keyed'
    (fun _ => fresh) cleaned
  have filed := (bucketForRoute_moves settings context.route now none keyed'
    ((show Moves settings now none limiter _ from drops.moves).bounded bounded)).2
  unfold Limiter.tryAdmit
  split
  · exact .inl ⟨limiter, .closed, rfl, by simp, holds⟩
  · split
    · next is =>
      rw [is] at found
      exact .inl ⟨_, .capacityExceeded, rfl, by simp, found⟩
    · next table own bucket is =>
      rw [is] at found filed
      have waited : At key P { table with
          routeBuckets := set own (bucket.cleanupAdmissions now) table.routeBuckets } := by
        refine at_set table found ?_
        rintro rfl
        exact steady.same (cleanupAdmissions_samePace bucket now) (found bucket (filed _ _ rfl).2)
      dsimp only
      split
      · next admits =>
        refine .inr ⟨own, _, _, _, waited, get_set_self, ?_, (filed _ _ rfl).1.symm, rfl⟩
        simp only [Limiter.admits, Bool.and_eq_true, decide_eq_true_eq] at admits
        exact nextAt_le_of_wait admits.1.1.2
      · exact .inl ⟨_, .waits, rfl, by simp, waited⟩

end Table

/-! ## Blocks -/

structure Admitted (admittedAt : ℚ) (old new : RouteBucket) : Prop where
  limit : new.limit = old.limit
  window : new.window = old.window
  interval : new.interval = old.interval
  lastAdmitted : new.lastAdmitted = some admittedAt
  nextAt : ∀ interval ∈ old.interval, new.nextAt = roundDouble (admittedAt + interval)

/-- What a block does to the bucket under the key: `P` is kept by every response, `Q` also by
an admission and by a new bucket. -/
structure Carried (settings : Settings) (s : Session) (key : BucketKey) (P Q : RouteBucket → Prop) :
    Prop where
  steady : Steady P
  learning : ∀ {old new}, Learns settings old new → P old → P new
  fresh : get key s.limiter.routeBuckets = none → ∀ now, P { lastSeen := now }
  weaker : ∀ {bucket}, P bucket → Q bucket
  steady' : Steady Q
  fresh' : ∀ now, Q { lastSeen := now }
  admitted :
    ∀ {admittedAt old new}, s.clock ≤ admittedAt → Admitted admittedAt old new → Q old → Q new

/-- What a block does to the admissions and to the bucket. -/
inductive Paces (settings : Settings) (label : Label) (key : BucketKey) (Q : RouteBucket → Prop)
    (s t : Session) : Prop where
  | keep (admitted : t.admitted = s.admitted) (clock : s.clock ≤ t.clock)
      (holds : At key Q t.limiter)
  | elsewhere (context : Context) (admitted : t.admitted = s.admitted ++ [context])
      (other : context.bucketKey ≠ some key) (clock : s.clock ≤ t.clock)
        (holds : At key Q t.limiter)
  | enter (context : Context) (old new : RouteBucket)
      (admitted : t.admitted = s.admitted ++ [context])
      (own : context.bucketKey = some key) (now : context.admittedAt = some t.clock)
      (clock : s.clock ≤ t.clock) (ready : old.nextAt ≤ t.clock) (was : Q old)
      (stored : get key t.limiter.routeBuckets = some new) (admission : Admitted t.clock old new)
      (asked : ∃ index now before, label = .tryAdmit index now t.clock ∧
        s.starting[index]? = some before ∧
        (s.limiter.cleanup settings now).keyOf before.route = key)

variable {s t : Session} {key : BucketKey}

theorem step_paces {label : Label}
    {P Q : RouteBucket → Prop} (sound : Sound settings s) (carried : Carried settings s key P Q)
    (holds : At key P s.limiter) (done : step settings s label = some t) :
    Paces settings label key Q s t := by
  have weaker {limiter : Limiter} (kept : At key P limiter) : At key Q limiter :=
    fun bucket found => carried.weaker (kept bucket found)
  cases label with
  | start route =>
    cases done
    exact .keep rfl (le_refl _) (weaker holds)
  | close =>
    cases done
    exact .keep rfl (le_refl _) (weaker holds)
  | cancelStart index =>
    obtain ⟨context, found, rest⟩ := Option.bind_eq_some_iff.mp done
    cases rest
    exact .keep rfl (le_refl _) (weaker holds)
  | fail request =>
    obtain ⟨context, found, rest⟩ := Option.bind_eq_some_iff.mp done
    cases rest
    exact .keep rfl (le_refl _) (weaker (release_at context carried.steady holds))
  | tryAdmit index now admittedAt =>
    obtain ⟨context, found, rest⟩ := Option.bind_eq_some_iff.mp done
    split at rest
    · next times =>
      rcases @tryAdmit_at settings now key Q s.limiter context admittedAt carried.steady'
        sound.keyed
          sound.bounded (carried.fresh' now) (weaker holds) with
        ⟨after, outcome, is, notAdmitted, kept⟩ |
        ⟨own, bucket, waited, id, kept, stored, ready, filed, is⟩
      · rw [is] at rest
        cases outcome with
        | closed | capacityExceeded | waits =>
          cases rest
          exact .keep rfl times.1 kept
        | admitted left => exact absurd rfl (notAdmitted left)
      · rw [is] at rest
        cases rest
        have later : s.clock ≤ admittedAt := times.1.trans times.2
        have admission : Admitted admittedAt bucket { bucket with
            inFlight := bucket.inFlight + 1
            admissions := set (waited.nextRouteAdmissionId + 1) admittedAt bucket.admissions
            lastSeen := admittedAt
            lastAdmitted := some admittedAt
            nextAt := (bucket.interval.map fun interval =>
              roundDouble (admittedAt + interval)).getD bucket.nextAt } := by
          refine ⟨rfl, rfl, rfl, rfl, ?_⟩
          intro interval is
          rw [Option.mem_def.mp is]
          rfl
        by_cases same : own = key
        · subst same
          exact .enter _ bucket _ rfl rfl rfl later (ready.trans times.2) (kept bucket stored)
            get_set_self admission ⟨index, now, context, rfl, found, filed⟩
        · refine .elsewhere _ rfl (by simpa using same) later ?_
          refine at_set (afterAdmission context.route own bucket admittedAt waited) kept ?_
          exact fun equal => absurd equal.symm same
    · cases rest
  | respond request status headers responseAt wallNow =>
    simp only [step, Option.bind_eq_bind, Option.bind_eq_some_iff, Option.some.injEq] at done
    obtain ⟨context, found, rfl⟩ := done
    have kept := @onResponse_at settings responseAt key P s.limiter context status headers wallNow
      carried.steady carried.learning sound.keyed sound.bounded
        (fun absent => carried.fresh absent _)
      holds
    split
    · exact .keep rfl (le_max_left ..) (weaker kept)
    · exact .keep rfl (le_max_left ..) (weaker kept)
  | readBody index body now wallNow =>
    obtain ⟨read, inBodies, rest⟩ := Option.bind_eq_some_iff.mp done
    obtain ⟨context, found, rest⟩ := Option.bind_eq_some_iff.mp rest
    split at rest
    · next later =>
      cases rest
      exact .keep rfl later
        (weaker (onBody_at context read.headers read.responseAt read.readyForBody
        body wallNow carried.steady sound.keyed sound.bounded (fun absent => carried.fresh absent _)
        holds))
    · cases rest

/-- In every reachable state the intervals are those of what was learned. -/
def AllLearned (settings : Settings) (s : Session) : Prop :=
  ∀ key, At key (Learned settings) s.limiter

theorem learned_carried (settings : Settings) (s : Session) (key : BucketKey) :
    Carried settings s key (Learned settings) (Learned settings) where
  steady := learned_steady settings
  learning := Learns.learned
  fresh := fun _ now => learned_fresh settings now
  weaker := id
  steady' := learned_steady settings
  fresh' := learned_fresh settings
  admitted := by
    intro admittedAt old new _ admission learned
    exact ⟨by rw [admission.limit]; exact learned.limit,
      by rw [admission.window]; exact learned.window,
      by rw [admission.limit, admission.window, admission.interval]; exact learned.interval⟩

theorem step_allLearned {label : Label} (sound : Sound settings s) (learned : AllLearned settings s)
    (done : step settings s label = some t) : AllLearned settings t := by
  intro key
  have carried := learned_carried settings s key
  rcases step_paces sound carried (learned key) done with
    ⟨-, -, holds⟩ | ⟨-, -, -, -, holds⟩ |
    ⟨-, old, new, -, -, -, clock, -, was, stored, admission, -⟩
  · exact holds
  · exact holds
  · intro bucket found
    rw [stored] at found
    cases found
    exact carried.admitted clock admission was

theorem follows_carried (settings : Settings) {time : ℚ}
    (before : time ≤ s.clock) (present : get key s.limiter.routeBuckets ≠ none) :
    Carried settings s key (Follows time) fun bucket => bucket.limit = none ∨
      Follows time bucket where
  steady := follows_steady time
  learning := Learns.follows
  fresh := fun absent => absurd absent present
  weaker := .inr
  steady' := (follows_steady time).limited
  fresh' := fun _ => .inl rfl
  admitted := by
    rintro admittedAt old new later admission (unlimited | follows)
    · exact .inl (admission.limit.trans unlimited)
    · refine .inr ⟨⟨admittedAt, admission.lastAdmitted, before.trans later⟩, ?_⟩
      intro interval is
      rw [admission.interval] at is
      rw [admission.nextAt interval is]
      exact roundDouble_mono (add_le_add_left (before.trans later) _)

/-! ## One step under one limit and window -/

section Step

variable {settings : Settings} {key : BucketKey} {limit window : ℚ} {s t : Session} {label : Label}

theorem InForce.present (inForce : InForce key limit window s) :
    get key s.limiter.routeBuckets ≠ none := by
  obtain ⟨bucket, found, -⟩ := inForce
  rw [found]
  exact Option.some_ne_none bucket

theorem InForce.follows {time : ℚ} (inForce : InForce key limit window s)
    (found : get key s.limiter.routeBuckets = some bucket)
    (either : bucket.limit = none ∨ Follows time bucket) : Follows time bucket := by
  obtain ⟨own, stored, isLimit, -⟩ := inForce
  rw [found] at stored
  cases stored
  rw [isLimit] at either
  exact either.resolve_left (Option.some_ne_none limit)

theorem InForce.interval (inForce : InForce key limit window s)
    (learned : AllLearned settings s) (found : get key s.limiter.routeBuckets = some bucket) :
    0 < limit ∧ 0 < window ∧ bucket.interval = some (interval settings limit window) := by
  obtain ⟨own, stored, isLimit, isWindow⟩ := inForce
  rw [found] at stored
  cases stored
  have rules := learned key bucket found
  exact ⟨rules.limit limit isLimit, rules.window window isWindow,
    rules.interval limit isLimit window isWindow⟩

theorem step_follows {time : ℚ} (sound : Sound settings s) (learned : AllLearned settings s)
    (inForce : InForce key limit window s) (still : InForce key limit window t)
      (before : time ≤ s.clock)
    (holds : At key (Follows time) s.limiter) (done : step settings s label = some t) :
    At key (Follows time) t.limiter ∧
      ∀ context, t.admitted = s.admitted ++ [context] → context.bucketKey = some key →
        roundDouble (time + interval settings limit window) ≤ t.clock := by
  have carried := follows_carried settings before inForce.present
  cases step_paces sound carried holds done with
  | keep admitted clock kept =>
    refine ⟨fun bucket found => still.follows found (kept bucket found), ?_⟩
    intro context grown
    rw [admitted] at grown
    simp at grown
  | elsewhere context admitted other clock kept =>
    refine ⟨fun bucket found => still.follows found (kept bucket found), ?_⟩
    intro newer grown own
    rw [admitted] at grown
    obtain rfl : context = newer := by simpa using grown
    exact absurd own other
  | enter context old new admitted own now clock ready was stored admission _ =>
    have follows : Follows time new := still.follows stored (carried.admitted clock admission was)
    refine ⟨?_, ?_⟩
    · intro bucket found
      rw [stored] at found
      cases found
      exact follows
    · intro _ _ _
      obtain ⟨-, -, interval⟩ := still.interval (step_allLearned sound learned done) stored
      rw [admission.interval] at interval
      rcases was with unlimited | was
      · obtain ⟨bucket, found, isLimit, -⟩ := still
        rw [stored] at found
        cases found
        rw [admission.limit, unlimited] at isLimit
        cases isLimit
      · exact (was.nextAt _ interval).trans ready

end Step

/-! ## Runs -/

/-- The slot that an admission of the attempt would set in the bucket under the key is no earlier
than the law asks. -/
def KeepsSlot (settings : Settings) (key : BucketKey) (limit window : ℚ) (s : Session) :
    Label → Prop
  | .tryAdmit index now admittedAt =>
    ∀ context ∈ s.starting[index]?, (s.limiter.cleanup settings now).keyOf context.route = key →
      admittedAt + window / usable settings limit ≤
        roundDouble (admittedAt + interval settings limit window)
  | _ => True

instance (settings : Settings) (key : BucketKey) (limit window : ℚ) (s : Session) :
    (label : Label) → Decidable (KeepsSlot settings key limit window s label)
  | .tryAdmit .. => by dsimp only [KeepsSlot]; infer_instance
  | .start _ | .cancelStart _ | .respond .. | .readBody .. | .fail _ | .close => isTrue trivial

/-- The admissions since `s`. -/
def timesSince (key : BucketKey) (s t : Session) : List ℚ :=
  admissionsInto key (t.admitted.drop s.admitted.length)

structure Paced (settings : Settings) (key : BucketKey) (limit window : ℚ) (s t : Session) :
    Prop where
  sound : Sound settings t
  learned : AllLearned settings t
  longer : s.admitted.length ≤ t.admitted.length
  spaced : Spaced (window / usable settings limit) (timesSince key s t)
  slots : ∀ time ∈ timesSince key s t,
    time + window / usable settings limit ≤ roundDouble (time + interval settings limit window)
  follows : ∀ time ∈ timesSince key s t, time ≤ t.clock ∧ At key (Follows time) t.limiter

theorem timesSince_append {u : Session} {context : Context}
    (longer : s.admitted.length ≤ t.admitted.length)
      (grown : u.admitted = t.admitted ++ [context]) :
    timesSince key s u = timesSince key s t ++ admissionsInto key [context] := by
  unfold timesSince admissionsInto
  rw [grown, List.drop_append_of_le_length longer, List.filter_append, List.filterMap_append]

theorem Paced.step {limit window : ℚ} {u : Session}
    {label : Label} (paced : Paced settings key limit window s t)
      (inForce : InForce key limit window t)
    (still : InForce key limit window u) (slot : KeepsSlot settings key limit window t label)
    (done : step settings t label = some u) :
    Paced settings key limit window s u := by
  obtain ⟨sound, learned, longer, spaced, slots, follows⟩ := paced
  have sound' := (step_effect sound done).sound sound
  have learned' := step_allLearned sound learned done
  have later (time : ℚ) (member : time ∈ timesSince key s t) :=
    step_follows sound learned inForce still (follows time member).1 (follows time member).2 done
  have unchanged (same : timesSince key s u = timesSince key s t) (clock : t.clock ≤ u.clock)
      (grown : s.admitted.length ≤ u.admitted.length) : Paced settings key limit window s u := by
    refine ⟨sound', learned', grown, by rw [same]; exact spaced, by rw [same]; exact slots, ?_⟩
    intro time member
    rw [same] at member
    exact ⟨(follows time member).1.trans clock, (later time member).1⟩
  cases step_paces sound (learned_carried settings t key) (learned key) done with
  | keep admitted clock _ =>
    refine unchanged ?_ clock (by rw [admitted]; exact longer)
    unfold timesSince
    rw [admitted]
  | elsewhere context admitted other clock _ =>
    refine unchanged ?_ clock (by rw [admitted, List.length_append]; omega)
    rw [timesSince_append longer admitted]
    simp [admissionsInto, other]
  | enter context old new admitted own now clock _ _ stored admission asked =>
    have times : timesSince key s u = timesSince key s t ++ [u.clock] := by
      rw [timesSince_append longer admitted]
      simp [admissionsInto, own, now]
    refine ⟨sound', learned', by rw [admitted, List.length_append]; omega, ?_, ?_, ?_⟩
    · rw [times]
      refine spaced.append fun time member => ?_
      exact (slots time member).trans ((later time member).2 context admitted own)
    · rw [times]
      obtain ⟨index, asked, before, rfl, found, filed⟩ := asked
      exact List.forall_mem_append.mpr
        ⟨slots, List.forall_mem_singleton.mpr (slot before found filed)⟩
    · intro time member
      rw [times] at member
      rcases List.mem_append.mp member with old | new_
      · exact ⟨(follows time old).1.trans clock, (later time old).1⟩
      · rw [List.mem_singleton.mp new_]
        refine ⟨le_refl _, ?_⟩
        intro bucket found
        rw [stored] at found
        cases found
        refine ⟨⟨_, admission.lastAdmitted, le_refl _⟩, ?_⟩
        intro interval is
        rw [admission.interval] at is
        rw [admission.nextAt interval is]

/-- In every run from a reachable state on in which no slot is rounded to an earlier time: as long
as the bucket of a key has the limit and the window, admissions into it are a window's share
apart, and no half-open interval of the window's length has more of them than the budget, or
than one. -/
theorem learned_route_pacing (settings : Settings) (labels : List Label) (s : Session)
    (reached : run (step settings) {} labels = some s) (later : List Label) (t : Session)
    (onwards : run (step settings) s later = some t) (key : BucketKey) (limit window : ℚ)
    (inForce : ∀ u, Passes (step settings) s later u → InForce key limit window u)
    (along : Along (step settings) (KeepsSlot settings key limit window) s later) :
    Spaced (window / usable settings limit)
        (admissionsInto key (t.admitted.drop s.admitted.length)) ∧
      ∀ start : ℚ,
        (((admissionsInto key (t.admitted.drop s.admitted.length)).countP
          fun time => start ≤ time ∧ time < start + window : Nat) : ℚ) ≤
            max 1 (usable settings limit) ∧
        (((admissionsInto key (t.admitted.drop s.admitted.length)).countP
          fun time => start < time ∧ time ≤ start + window : Nat) : ℚ) ≤
            max 1 (usable settings limit) := by
  have start : Sound settings s ∧ AllLearned settings s := by
    refine @run_inv _ _ _ (fun s => Sound settings s ∧ AllLearned settings s) ?_ _ _ _ ?_ reached
    · rintro a label b ⟨sound, learned⟩ done
      exact ⟨(step_effect sound done).sound sound, step_allLearned sound learned done⟩
    · exact ⟨sound_initial settings, fun key bucket found => by cases found⟩
  have paced : Paced settings key limit window s t := by
    refine run_inv_passes (fun _ _ _ paced => paced.step) inForce along ?_ onwards
    refine ⟨start.1, start.2, le_refl _, ?_, ?_, ?_⟩
    · simp [timesSince, admissionsInto, Spaced]
    · simp [timesSince, admissionsInto]
    · simp [timesSince, admissionsInto]
  have now := inForce s (passes_start s later)
  obtain ⟨bucket, found, -, -⟩ := id now
  obtain ⟨positive, wide, -⟩ := now.interval start.2 found
  have counted (p : ℚ → Bool) (close : ∀ a, p a → ∀ b, p b → b - a < window) :
      (((timesSince key s t).countP p : Nat) : ℚ) ≤ max 1 (usable settings limit) := by
    rw [List.countP_eq_length_filter]
    refine spaced_count settings positive wide (paced.spaced.sublist List.filter_sublist) ?_
    intro a aIn b bIn
    exact close a (List.mem_filter.mp aIn).2 b (List.mem_filter.mp bIn).2
  refine ⟨paced.spaced, fun start => ⟨counted _ ?_, counted _ ?_⟩⟩
  · intro a aIn b bIn
    rw [decide_eq_true_eq] at aIn bIn
    linarith [aIn.1, bIn.2]
  · intro a aIn b bIn
    rw [decide_eq_true_eq] at aIn bIn
    linarith [aIn.1, bIn.2]

/-- A response that teaches two requests in ten seconds, of which one may be used. -/
def taught : Headers := { limit := some 2, remaining := some 1, resetAfter := some 10 }

def warmUp : List Label :=
  [.start { signature := "GET /a" }, .tryAdmit 0 0 0, .respond 0 200 taught 1 (0, 0)]

def twoMore : List Label :=
  [.start { signature := "GET /a" }, .tryAdmit 0 11 11, .respond 1 200 taught 12 (0, 0),
    .start { signature := "GET /a" }, .tryAdmit 0 22 22]

theorem inForce_passes {key : BucketKey} {limit window : ℚ} {before more : List Label} {s : Session}
    (reached : run (step .standard) {} before = some s)
    (all : ∀ n ≤ more.length, (run (step .standard) {} (before ++ more.take n)).all (fun u =>
      (get key u.limiter.routeBuckets).any fun bucket =>
        bucket.limit = some limit ∧ bucket.window = some window) = true) :
    ∀ u, Passes (step .standard) s more u → InForce key limit window u := by
  rintro u ⟨earlier, isPrefix, passes⟩
  have here := all earlier.length isPrefix.length_le
  rw [← List.prefix_iff_eq_take.mp isPrefix, run_append, reached, Option.bind_some, passes,
    Option.all_some, Option.any_eq_true] at here
  obtain ⟨bucket, found, is⟩ := here
  rw [decide_eq_true_eq] at is
  exact ⟨bucket, found, is.1, is.2⟩

theorem learned_route_pacing_twoMore :
    ∃ s ∈ run (step .standard) {} warmUp, ∃ t ∈ run (step .standard) s twoMore,
      admissionsInto ("GET /a", []) (t.admitted.drop s.admitted.length) = [11, 22] ∧
      Spaced (10 / usable .standard 2)
        (admissionsInto ("GET /a", []) (t.admitted.drop s.admitted.length)) := by
  have ends :
    ((run (step .standard) {} warmUp).bind fun s => (run (step .standard) s twoMore).map fun t =>
      admissionsInto ("GET /a", []) (t.admitted.drop s.admitted.length)) = some [11, 22] := by
    decide +kernel
  obtain ⟨s, reached, more⟩ := Option.bind_eq_some_iff.mp ends
  obtain ⟨t, onwards, times⟩ := Option.map_eq_some_iff.mp more
  have inForce : ∀ u, Passes (step .standard) s twoMore u → InForce ("GET /a", []) 2 10 u :=
    inForce_passes reached (by decide +kernel)
  have along : ∀ s ∈ run (step .standard) {} warmUp,
      Along (step .standard) (KeepsSlot .standard ("GET /a", []) 2 10) s twoMore := by
    decide +kernel
  exact ⟨s, reached, t, onwards, times,
    (learned_route_pacing {} warmUp s reached twoMore t onwards _ 2 10 inForce
      (along s reached)).1⟩

/-- A response that teaches five requests in a second, of which four may be used. -/
def fourASecond : List Label :=
  [.start { signature := "GET /a" }, .tryAdmit 0 0 0,
    .respond 0 200 { limit := some 5, remaining := some 4, resetAfter := some 1 } 1 (0, 0)]

/-- An admission just before 4 s; a quarter of a second later it rounds down. -/
def earlySlot : List Label :=
  [.start { signature := "GET /a" }, .start { signature := "GET /a" },
    .tryAdmit 0 (4 - 3 / 2 ^ 51) (4 - 3 / 2 ^ 51),
    .tryAdmit 0 (17 / 4 - 1 / 2 ^ 49) (17 / 4 - 1 / 2 ^ 49)]

/-- The slot after an admission is rounded to an earlier time, and the next admission takes it. -/
theorem rounded_slot_comes_early :
    ∃ s ∈ run (step .standard) {} fourASecond, ∃ t ∈ run (step .standard) s earlySlot,
      (∀ u, Passes (step .standard) s earlySlot u → InForce ("GET /a", []) 5 1 u) ∧
      ¬ Spaced (1 / usable .standard 5)
        (admissionsInto ("GET /a", []) (t.admitted.drop s.admitted.length)) := by
  have ends : ∃ s ∈ run (step .standard) {} fourASecond, ∃ t ∈ run (step .standard) s earlySlot,
      ¬ Spaced (1 / usable .standard 5)
        (admissionsInto ("GET /a", []) (t.admitted.drop s.admitted.length)) := by
    unfold Spaced
    decide +kernel
  obtain ⟨s, reached, t, onwards, close⟩ := ends
  exact ⟨s, reached, t, onwards, inForce_passes reached (by decide +kernel), close⟩

end Copilotd.Guarantees.RoutePacing
