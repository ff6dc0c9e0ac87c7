import Copilotd.Base.Pool
import Copilotd.Base.Run
import Copilotd.Guarantees.RouteTable
import Copilotd.Source.DiscordHttpTrace

/-!
# Admission of Discord REST requests

Three facts about every interleaving of the trace callbacks: the accounting of
reservations (`reservation_accounting`), the bound and protection of the route table
(`route_table_bounded`), and the rolling global budget (`global_rest_budget`), as long as
no rounding moves the end of a window past a recorded admission
(`rounded_window_admits_early`).

`Effect` says once what a locked block does to a session, in terms of the moves of the
route table; the three invariants are checked against it.
-/
namespace Copilotd.Guarantees.DiscordAdmission

open Base.Run Base.Pool Base.Dict Base.Rounding Base.Window
open Source.DiscordHttpLimiter Source.DiscordHttpTrace Guarantees.RouteTable

/-! ## What a block does -/

/-- A request that has not been admitted and whose other callbacks have not run. -/
structure Unsent (context : Context) : Prop where
  admittedAt : context.admittedAt = none
  released : context.released = false
  bodyPending : context.bodyPending = false

/-- The effect of one block on the limiter, the contexts and the clock. -/
inductive Effect (settings : Settings) (s : Session) : Label → Session → Prop where
  | start (route : Route) :
      Effect settings s (.start route) { s with starting := s.starting ++ [{ route }] }
  | close :
      Effect settings s .close { s with limiter := { s.limiter with closed := true } }
  | cancelStart {index : Nat} {context : Context} (found : s.starting[index]? = some context) :
      Effect settings s (.cancelStart index)
        { s with starting := s.starting.eraseIdx index, sent := s.sent ++ [context] }
  | wait {index : Nat} {now admittedAt : ℚ} {context : Context} {limiter : Limiter}
      (found : s.starting[index]? = some context) (later : s.clock ≤ now) (twice : now ≤ admittedAt)
      (moves : Moves settings now none s.limiter limiter) :
      Effect settings s (.tryAdmit index now admittedAt) { s with limiter, clock := now }
  | refuse {index : Nat} {now admittedAt : ℚ} {context : Context} {limiter : Limiter}
      (found : s.starting[index]? = some context) (later : s.clock ≤ now) (twice : now ≤ admittedAt)
      (moves : Moves settings now none s.limiter limiter) :
      Effect settings s (.tryAdmit index now admittedAt)
        { s with
          limiter
          starting := s.starting.eraseIdx index
          sent := s.sent ++ [context]
          clock := now }
  | enter {index : Nat} {now admittedAt : ℚ} {context : Context} {key : BucketKey}
      {bucket : RouteBucket} {waited : Limiter} {id : Nat}
      (found : s.starting[index]? = some context) (later : s.clock ≤ now) (twice : now ≤ admittedAt)
      (moves : Moves settings now none s.limiter waited)
      (own : key = (s.limiter.cleanup settings now).keyOf context.route)
      (stored : get key waited.routeBuckets = some bucket)
      (admits : waited.admits settings context.route bucket now = true)
      (deque : waited.globalAdmissions =
        expire (roundDouble (now - settings.globalWindow)) s.limiter.globalAdmissions) :
      Effect settings s (.tryAdmit index now admittedAt)
        { s with
          limiter := RouteTable.afterAdmission context.route key bucket admittedAt waited
          starting := s.starting.eraseIdx index
          sent := s.sent ++ [{ context with
            bucketKey := some key, admittedAt := some admittedAt, routeAdmissionId := some id }]
          admitted := s.admitted ++ [{ context with
            bucketKey := some key, admittedAt := some admittedAt, routeAdmissionId := some id }]
          clock := admittedAt }
  | respond {request status : Nat} {headers : Headers} {responseAt : ℚ} {wallNow : ℚ × ℚ}
      {context : Context} {bodies : List BodyRead}
      (found : s.sent[request]? = some context)
      (responded : Responded settings responseAt context status headers s.limiter
        (s.limiter.onResponse settings context status headers responseAt wallNow).1
        (s.limiter.onResponse settings context status headers responseAt wallNow).2.1) :
      Effect settings s (.respond request status headers responseAt wallNow)
        { s with
          limiter := (s.limiter.onResponse settings context status headers responseAt wallNow).1
          sent := s.sent.set request
            (s.limiter.onResponse settings context status headers responseAt wallNow).2.1
          bodies
          clock := max s.clock responseAt }
  | readBody {index : Nat} {body : Option Body} {now wallNow : ℚ} {read : BodyRead}
      {context : Context}
      (inBodies : s.bodies[index]? = some read) (found : s.sent[read.request]? = some context)
      (later : s.clock ≤ now)
      (closed : BodyClosed settings now context read.headers s.limiter
        (s.limiter.onBody settings context read.headers read.responseAt read.readyForBody body now
          wallNow).1
        (s.limiter.onBody settings context read.headers read.responseAt read.readyForBody body now
          wallNow).2.1) :
      Effect settings s (.readBody index body now wallNow)
        { s with
          limiter := (s.limiter.onBody settings context read.headers read.responseAt
            read.readyForBody body now wallNow).1
          sent := s.sent.set read.request (s.limiter.onBody settings context read.headers
            read.responseAt read.readyForBody body now wallNow).2.1
          bodies := s.bodies.eraseIdx index
          clock := now }
  | fail {request : Nat} {context : Context} (found : s.sent[request]? = some context) :
      Effect settings s (.fail request)
        { s with
          limiter := (s.limiter.release context).1
          sent := s.sent.set request (s.limiter.release context).2 }

/-- The tables are well keyed and within their hard limit. -/
structure Sound (settings : Settings) (s : Session) : Prop where
  keyed : WellKeyed s.limiter
  bounded : Bounded settings s.limiter
  unsent : ∀ context ∈ s.starting, Unsent context

variable {s t : Session} {label : Label} {settings : Settings}

theorem step_effect (sound : Sound settings s) (done : step settings s label = some t) :
    Effect settings s label t := by
  cases label with
  | start route =>
    cases done
    exact .start route
  | close =>
    cases done
    exact .close
  | cancelStart index =>
    obtain ⟨context, found, rest⟩ := Option.bind_eq_some_iff.mp done
    cases rest
    exact .cancelStart found
  | tryAdmit index now admittedAt =>
    obtain ⟨context, found, rest⟩ := Option.bind_eq_some_iff.mp done
    split at rest
    · next times =>
      rcases tryAdmit_moves settings context now admittedAt sound.keyed sound.bounded with
        ⟨after, outcome, is, notAdmitted, moves⟩ |
        ⟨key, bucket, waited, id, -, moves, own, stored, admits, deque, is⟩
      · rw [is] at rest
        cases outcome with
        | closed | capacityExceeded =>
          cases rest
          exact .refuse found times.1 times.2 moves
        | waits =>
          cases rest
          exact .wait found times.1 times.2 moves
        | admitted left => exact absurd rfl (notAdmitted left)
      · rw [is] at rest
        cases rest
        exact .enter found times.1 times.2 moves own stored admits deque
    · cases rest
  | respond request status headers responseAt wallNow =>
    simp only [step, Option.bind_eq_bind, Option.bind_eq_some_iff, Option.some.injEq] at done
    obtain ⟨context, found, rfl⟩ := done
    have responded :=
      onResponse_moves settings context status headers responseAt wallNow sound.keyed
      sound.bounded
    split
    · exact .respond found responded
    · exact .respond found responded
  | readBody index body now wallNow =>
    obtain ⟨read, inBodies, rest⟩ := Option.bind_eq_some_iff.mp done
    obtain ⟨context, found, rest⟩ := Option.bind_eq_some_iff.mp rest
    split at rest
    · next later =>
      have closed :=
        onBody_moves settings context read.headers read.responseAt read.readyForBody body
        now wallNow sound.keyed sound.bounded
      cases rest
      exact .readBody inBodies found later closed
    · cases rest
  | fail request =>
    obtain ⟨context, found, rest⟩ := Option.bind_eq_some_iff.mp done
    cases rest
    exact .fail found

theorem Effect.sound (effect : Effect settings s label t) (sound : Sound settings s) :
    Sound settings t := by
  have erased : ∀ index, ∀ context ∈ s.starting.eraseIdx index, Unsent context := by
    intro index context member
    exact sound.unsent context (List.mem_of_mem_eraseIdx member)
  have after : ∀ {now : ℚ} {announced} {limiter after : Limiter},
      Moves settings now announced limiter after → WellKeyed limiter → Bounded settings limiter →
      WellKeyed after ∧ Bounded settings after :=
    fun moves keyed bounded => ⟨moves.wellKeyed keyed, moves.bounded bounded⟩
  cases effect with
  | start route =>
    refine ⟨sound.keyed, sound.bounded, ?_⟩
    exact forall_push sound.unsent ⟨rfl, rfl, rfl⟩
  | close => exact ⟨⟨sound.keyed.buckets, sound.keyed.hashes⟩, sound.bounded, sound.unsent⟩
  | cancelStart found => exact ⟨sound.keyed, sound.bounded, erased _⟩
  | wait found later twice moves =>
    obtain ⟨keyed, bounded⟩ := after moves sound.keyed sound.bounded
    exact ⟨keyed, bounded, sound.unsent⟩
  | refuse found later twice moves =>
    obtain ⟨keyed, bounded⟩ := after moves sound.keyed sound.bounded
    exact ⟨keyed, bounded, erased _⟩
  | enter found later twice moves own stored admits deque =>
    obtain ⟨keyed, bounded⟩ := after moves sound.keyed sound.bounded
    refine ⟨⟨uniqueKeys_set keyed.buckets, keyed.hashes⟩, ?_, erased _⟩
    exact (length_set_of_present stored).trans_le bounded
  | respond found responded =>
    obtain ⟨pending, between, -, -, first, second⟩ := responded.path
    obtain ⟨keyed, bounded⟩ := after first ⟨sound.keyed.buckets, sound.keyed.hashes⟩ sound.bounded
    have freed : Bounded settings (between.release pending).1 :=
      (release_length pending between).trans_le bounded
    obtain ⟨keyed, bounded⟩ := after second (release_wellKeyed keyed) freed
    exact ⟨keyed, bounded, sound.unsent⟩
  | readBody inBodies found later closed =>
    obtain ⟨between, moves, is⟩ := closed.path
    obtain ⟨keyed, bounded⟩ := after moves sound.keyed sound.bounded
    rw [is]
    exact ⟨⟨keyed.buckets, keyed.hashes⟩, bounded, sound.unsent⟩
  | fail found =>
    exact ⟨release_wellKeyed sound.keyed, (release_length _ _).trans_le sound.bounded, sound.unsent⟩

theorem sound_initial (settings : Settings) : Sound settings {} where
  keyed := ⟨List.nodup_nil, List.nodup_nil⟩
  bounded := Nat.zero_le _
  unsent := by simp

theorem reachable_inv {Inv : Session → Prop}
    (keep : ∀ s label t, Sound settings s → Inv s → Effect settings s label t → Inv t)
    {labels : List Label} (start : Inv {}) (reached : run (step settings) {} labels = some t) :
    Sound settings t ∧ Inv t := by
  have steps : ∀ s label t, Sound settings s ∧ Inv s → step settings s label = some t →
      Sound settings t ∧ Inv t := by
    rintro s label t ⟨sound, holds⟩ done
    have effect := step_effect sound done
    exact ⟨effect.sound sound, keep s label t sound holds effect⟩
  exact run_inv steps ⟨sound_initial settings, start⟩ reached

/-! ## The global budget -/

/-- The times at which requests to non-exempt routes were admitted. -/
def globalTimes (s : Session) : List ℚ :=
  (s.admitted.filter fun context => !context.route.globalExempt).filterMap Context.admittedAt

/-- The number of those times in `(t - global_window, t]`. -/
def admittedWithin (settings : Settings) (t : ℚ) (s : Session) : Nat :=
  (globalTimes s).countP fun time => t - settings.globalWindow < time ∧ time ≤ t

/-- The deque as an attempt at `now` finds it. -/
def dequeAt (settings : Settings) (now : ℚ) (s : Session) : List ℚ :=
  expire (roundDouble (now - settings.globalWindow)) s.limiter.globalAdmissions

/-- No rounding moves the end of a window past a recorded admission: not where the deque is
trimmed, and not where an attempt that finds it full waits for the oldest to leave. -/
def InTime (settings : Settings) (s : Session) : Label → Prop
  | .tryAdmit index now _ =>
    Trims settings.globalWindow now s.limiter.globalAdmissions ∧
      ∀ context ∈ s.starting[index]?, context.route.globalExempt = false →
        settings.globalLimit ≤ (dequeAt settings now s).length →
        ∀ oldest ∈ (dequeAt settings now s).head?,
          roundDouble (oldest + settings.globalWindow) ≤ now → oldest + settings.globalWindow ≤ now
  | .respond _ _ _ responseAt _ =>
    Trims settings.globalWindow responseAt s.limiter.globalAdmissions
  | .readBody _ _ now _ => Trims settings.globalWindow now s.limiter.globalAdmissions
  | _ => True

instance (settings : Settings) (s : Session) (label : Label) :
    Decidable (InTime settings s label) := by
  unfold InTime Trims
  split <;> infer_instance

/-- The window of the limiter holds every admission that still counts, every admission is in
the past, and no window that has ended holds too many. -/
structure WithinBudget (settings : Settings) (s : Session) : Prop where
  window : ∀ cutoff ≥ s.clock - settings.globalWindow,
    countAfter cutoff (globalTimes s) = countAfter cutoff s.limiter.globalAdmissions
  past : ∀ time ∈ globalTimes s, time ≤ s.clock
  budget : ∀ t, admittedWithin settings t s ≤ settings.globalLimit

theorem WithinBudget.keep (within : WithinBudget settings s) (same : t.admitted = s.admitted)
    (later : s.clock ≤ t.clock) (window : ∀ cutoff ≥ t.clock - settings.globalWindow,
      countAfter cutoff t.limiter.globalAdmissions = countAfter cutoff s.limiter.globalAdmissions) :
    WithinBudget settings t := by
  have times : globalTimes t = globalTimes s := by
    unfold globalTimes
    rw [same]
  refine ⟨?_, ?_, ?_⟩
  · intro cutoff recent
    rw [times, window cutoff recent]
    exact within.window cutoff (by linarith)
  · intro time member
    rw [times] at member
    exact (within.past time member).trans later
  · intro at_
    unfold admittedWithin
    rw [times]
    exact within.budget at_

theorem admits_globalRoom {route : Route} {bucket : RouteBucket} {now : ℚ} {limiter : Limiter}
    (admits : limiter.admits settings route bucket now = true)
    (counted : route.globalExempt = false)
    (deque : limiter.globalAdmissions = dequeAt settings now s)
    (trims : Trims settings.globalWindow now s.limiter.globalAdmissions)
    (waits : settings.globalLimit ≤ (dequeAt settings now s).length →
      ∀ oldest ∈ (dequeAt settings now s).head?,
        roundDouble (oldest + settings.globalWindow) ≤ now → oldest + settings.globalWindow ≤ now) :
    limiter.globalAdmissions.length < settings.globalLimit := by
  simp only [Limiter.admits, counted, Bool.false_or, Bool.and_eq_true, decide_eq_true_eq] at admits
  have wait := admits.1.1.1.2
  unfold Limiter.globalWait at wait
  split at wait
  · next room => exact room
  · next full =>
    exfalso
    cases head : limiter.globalAdmissions.head? with
    | none =>
      rw [List.head?_eq_none_iff] at head
      rw [head] at full
      exact full settings.globalLimit_range.1
    | some oldest =>
      rw [head, max_le_iff, roundDouble_nonpos, sub_nonpos] at wait
      rw [deque] at full head
      have left := waits (not_lt.mp full) oldest head wait.2
      -- The oldest is still in the deque, so that its window has not ended.
      have recorded : oldest ∈ s.limiter.globalAdmissions :=
        (expire_sublist ..).mem (List.mem_of_mem_head? head)
      have live := head_expire head
      exact absurd ((trims oldest recorded).mpr (by linarith)) (not_le.mpr live)

variable {left : Context}

theorem globalTimes_append {time : ℚ} (appended : t.admitted = s.admitted ++ [left])
    (isAdmitted : left.admittedAt = some time) :
    globalTimes t = globalTimes s ++ if left.route.globalExempt then [] else [time] := by
  unfold globalTimes
  rw [appended, List.filter_append, List.filterMap_append]
  congr 1
  cases exempt : left.route.globalExempt with
  | true => simp [exempt]
  | false => simp [exempt, isAdmitted]

theorem Effect.withinBudget (effect : Effect settings s label t) (inTime : InTime settings s label)
    (within : WithinBudget settings s) :
    WithinBudget settings t := by
  cases effect with
  | start | close | cancelStart => exact within.keep rfl (le_refl _) (fun _ _ => rfl)
  | wait found later twice moves | refuse found later twice moves =>
    exact within.keep rfl later (fun cutoff recent => (moves.globalAdmissions inTime.1 recent).1)
  | respond found responded =>
    obtain ⟨pending, between, -, -, first, second⟩ := responded.path
    refine within.keep rfl (le_max_left ..) ?_
    intro cutoff recent
    have late : _ ≤ cutoff := (sub_le_sub_right (le_max_right s.clock _) _).trans recent
    have before := first.globalAdmissions inTime late
    have released := (release_invalidInFlight pending between).2.2.1
    have after := second.globalAdmissions (by rw [released]; exact before.2) late
    rw [after.1, released, before.1]
  | readBody inBodies found later closed =>
    obtain ⟨between, moves, is⟩ := closed.path
    refine within.keep rfl later ?_
    intro cutoff recent
    rw [is]
    exact (moves.globalAdmissions inTime recent).1
  | fail found =>
    refine within.keep rfl (le_refl _) (fun _ _ => ?_)
    rw [(release_invalidInFlight _ _).2.2.1]
  | @enter index now admittedAt context key bucket waited id found later twice moves own stored
      admits deque =>
    have window : ∀ cutoff ≥ now - settings.globalWindow,
        countAfter cutoff (globalTimes s) = countAfter cutoff waited.globalAdmissions := by
      intro cutoff recent
      rw [(moves.globalAdmissions inTime.1 recent).1]
      exact within.window cutoff (by linarith)
    by_cases exempt : context.route.globalExempt = true
    · refine ⟨?_, ?_, ?_⟩
      · intro cutoff recent
        rw [globalTimes_append rfl rfl, if_pos exempt, List.append_nil,
          window cutoff (by dsimp only at recent; linarith)]
        unfold RouteTable.afterAdmission
        rw [if_pos exempt]
      · intro time member
        rw [globalTimes_append rfl rfl, if_pos exempt, List.append_nil] at member
        exact (within.past time member).trans (later.trans twice)
      · intro t
        unfold admittedWithin
        rw [globalTimes_append rfl rfl, if_pos exempt, List.append_nil]
        exact within.budget t
    · have counted : context.route.globalExempt = false := by simpa using exempt
      have room :=
        admits_globalRoom admits counted deque inTime.1 (inTime.2 context found counted)
      refine ⟨?_, ?_, ?_⟩
      · intro cutoff recent
        rw [globalTimes_append rfl rfl, if_neg exempt, countAfter_append,
          window cutoff (by dsimp only at recent; linarith)]
        unfold RouteTable.afterAdmission
        rw [if_neg exempt, countAfter_append]
      · intro time member
        rw [globalTimes_append rfl rfl, if_neg exempt] at member
        rcases List.mem_append.mp member with old | new
        · exact (within.past time old).trans (later.trans twice)
        · rw [List.mem_singleton.mp new]
      · intro t
        unfold admittedWithin
        rw [globalTimes_append rfl rfl, if_neg exempt, List.countP_append]
        by_cases ended : admittedAt ≤ t
        · -- The window ends after the admission: what it holds is still in the deque.
          have older : (globalTimes s).countP
              (fun time => t - settings.globalWindow < time ∧ time ≤ t) ≤
              waited.globalAdmissions.length := by
            refine le_trans ?_ (countAfter_le_length (t - settings.globalWindow) _)
            rw [← window _ (by linarith)]
            refine List.countP_mono_left ?_
            intro time _ inside
            exact decide_eq_true (of_decide_eq_true inside).1
          have one : [admittedAt].countP
              (fun time => t - settings.globalWindow < time ∧ time ≤ t) ≤ 1 := List.countP_le_length
          omega
        · have none : [admittedAt].countP
              (fun time => t - settings.globalWindow < time ∧ time ≤ t) = 0 := by
            simp [ended]
          rw [none, Nat.add_zero]
          exact within.budget t

/-- In every run in which no rounding moves a window past an admission, every window of
`global_window` seconds holds at most `global_limit` admissions of non-exempt routes. -/
theorem global_rest_budget (settings : Settings) (labels : List Label)
    (along : Along (step settings) (InTime settings) {} labels) :
    ∀ s ∈ run (step settings) {} labels, ∀ t,
      admittedWithin settings t s ≤ settings.globalLimit := by
  intro s reached
  have start : WithinBudget settings {} := ⟨fun _ _ => rfl, by simp [globalTimes],
    fun t => Nat.zero_le _⟩
  have keep : ∀ s label t, Sound settings s ∧ WithinBudget settings s → InTime settings s label →
      step settings s label = some t → Sound settings t ∧ WithinBudget settings t := by
    rintro s label t ⟨sound, within⟩ inTime done
    have effect := step_effect sound done
    exact ⟨effect.sound sound, effect.withinBudget inTime within⟩
  exact (run_inv_along keep along ⟨sound_initial settings, start⟩ reached).2.budget

/-- A budget of one request a second and a table of one route. -/
def narrow : Settings :=
  { Settings.standard with
    globalLimit := 1
    maxRouteBuckets := 1
    globalLimit_range := by decide
    routes_pos := by decide +kernel }

/-- Two requests of different routes; the second is asked again a second after the first. -/
def twoRoutes : List Label :=
  [.start { signature := "GET /a" }, .start { signature := "GET /b" }, .tryAdmit 0 0 (1 / 4),
    .tryAdmit 0 (1 / 2) 1, .respond 0 200 {} 1 (0, 0), .tryAdmit 0 2 2]

theorem global_rest_budget_twoRoutes :
    ∃ s ∈ run (step narrow) {} twoRoutes, (globalTimes s = [1 / 4, 2]) ∧
      ∀ t, admittedWithin narrow t s ≤ narrow.globalLimit := by
  have ends : (run (step narrow) {} twoRoutes).map globalTimes = some [1 / 4, 2] := by
    decide +kernel
  obtain ⟨s, reached, times⟩ := Option.map_eq_some_iff.mp ends
  exact ⟨s, reached, times, global_rest_budget narrow twoRoutes (by decide +kernel) s reached⟩

/-- An admission just before 4 s; a second later it rounds down to a double before its end. -/
def earlySecond : List Label :=
  [.start { signature := "GET /a" }, .start { signature := "GET /b" },
    .tryAdmit 0 (4 - 3 / 2 ^ 51) (4 - 3 / 2 ^ 51), .respond 0 200 {} 4 (0, 0),
    .tryAdmit 0 (5 - 1 / 2 ^ 49) (5 - 1 / 2 ^ 49)]

/-- The sum of the oldest admission and the window rounds down, and the next request is admitted
while the oldest is in the window. -/
theorem rounded_window_admits_early :
    ∃ s ∈ run (step narrow) {} earlySecond,
      narrow.globalLimit < admittedWithin narrow (5 - 1 / 2 ^ 49) s := by
  have ends : (run (step narrow) {} earlySecond).map
      (admittedWithin narrow (5 - 1 / 2 ^ 49)) = some 2 := by
    decide +kernel
  obtain ⟨s, reached, count⟩ := Option.map_eq_some_iff.mp ends
  refine ⟨s, reached, ?_⟩
  rw [count]
  decide

/-! ## Reservations -/

/-- The counters of the limiter count the admitted attempts that are not released. -/
structure Accounted (s : Session) : Prop where
  invalidInFlight : s.limiter.invalidInFlight = s.sent.countP reserved
  inFlight : ∀ key, inFlightOf s.limiter key = s.sent.countP (reservedAt key)
  keyed : ∀ context ∈ s.sent, context.admittedAt.isSome → context.bucketKey.isSome

variable {context : Context}

theorem Unsent.not_reserved (unsent : Unsent context) :
    reserved context = false := by
  simp [reserved, unsent.admittedAt]

theorem Accounted.append (accounted : Accounted s) (unsent : Unsent context)
    (sent : t.sent = s.sent ++ [context])
    (same : t.limiter.invalidInFlight = s.limiter.invalidInFlight)
    (sameFlights : ∀ key, inFlightOf t.limiter key = inFlightOf s.limiter key) : Accounted t := by
  refine ⟨?_, ?_, ?_⟩
  · rw [same, sent, List.countP_append, List.countP_singleton, unsent.not_reserved]
    exact accounted.invalidInFlight
  · intro key
    have none : reservedAt key context = false := by simp [reservedAt, unsent.not_reserved]
    rw [sameFlights, sent, List.countP_append, List.countP_singleton, none]
    exact accounted.inFlight key
  · intro other member isAdmitted
    rw [sent] at member
    rcases List.mem_append.mp member with old | new
    · exact accounted.keyed other old isAdmitted
    · rw [List.mem_singleton.mp new, unsent.admittedAt] at isAdmitted
      cases isAdmitted

theorem Accounted.release {request : Nat} (accounted : Accounted s)
    (found : s.sent[request]? = some context) (sent : t.sent = s.sent.set request left)
    (same : SameRequest context left) (released : left.released = true)
    (fewer : t.limiter.invalidInFlight =
      s.limiter.invalidInFlight - if reserved context then 1 else 0)
    (fewerFlights : ∀ key, inFlightOf t.limiter key =
      inFlightOf s.limiter key - if reservedAt key context then 1 else 0) : Accounted t := by
  have free : reserved left = false := by simp [reserved, released]
  refine ⟨?_, ?_, ?_⟩
  · have count := countP_set found left reserved
    simp only [free, Bool.false_eq_true, if_false] at count
    rw [fewer, sent, accounted.invalidInFlight]
    omega
  · intro key
    have freeAt : reservedAt key left = false := by simp [reservedAt, free]
    have count := countP_set found left (reservedAt key)
    simp only [freeAt, Bool.false_eq_true, if_false] at count
    rw [fewerFlights, sent, accounted.inFlight]
    omega
  · intro other member isAdmitted
    rw [sent] at member
    rcases List.mem_or_eq_of_mem_set member with old | rfl
    · exact accounted.keyed other old isAdmitted
    · rw [same.admittedAt] at isAdmitted
      rw [same.bucketKey]
      exact accounted.keyed context (List.mem_of_getElem? found) isAdmitted

theorem Effect.accounted (effect : Effect settings s label t) (sound : Sound settings s)
    (accounted : Accounted s) :
    Accounted t := by
  cases effect with
  | start | close => exact ⟨accounted.invalidInFlight, accounted.inFlight, accounted.keyed⟩
  | cancelStart found =>
    exact accounted.append (sound.unsent _ (List.mem_of_getElem? found)) rfl rfl (fun _ => rfl)
  | wait found later twice moves =>
    refine ⟨moves.sameCounters.invalidInFlight.trans accounted.invalidInFlight, ?_, accounted.keyed⟩
    exact fun key => (moves.inFlightOf sound.keyed key).trans (accounted.inFlight key)
  | refuse found later twice moves =>
    exact accounted.append (sound.unsent _ (List.mem_of_getElem? found)) rfl
      moves.sameCounters.invalidInFlight (moves.inFlightOf sound.keyed)
  | @enter index now admittedAt context key bucket waited id found later twice moves own stored
      admits deque =>
    have unsent := sound.unsent _ (List.mem_of_getElem? found)
    refine ⟨?_, ?_, ?_⟩
    · have held : reserved { context with bucketKey := some key, admittedAt := some admittedAt,
                                          routeAdmissionId := some id } = true := by
        simp [reserved, unsent.released]
      rw [List.countP_append, List.countP_singleton, held, if_pos rfl, ← accounted.invalidInFlight,
        ← moves.sameCounters.invalidInFlight]
      rfl
    · intro other
      have held :
        reservedAt other { context with bucketKey := some key, admittedAt := some admittedAt,
                                                  routeAdmissionId := some id } =
                                                    decide (other = key) := by
        simp [reservedAt, reserved, unsent.released, eq_comm]
      rw [List.countP_append, List.countP_singleton, held, ← accounted.inFlight,
        ← moves.inFlightOf sound.keyed]
      unfold RouteTable.afterAdmission inFlightOf
      rw [get_set]
      by_cases same : other = key
      · subst same
        rw [if_pos rfl, stored]
        simp
      · rw [if_neg same]
        simp [same]
    · intro other member isAdmitted
      rcases List.mem_append.mp member with old | new
      · exact accounted.keyed other old isAdmitted
      · rw [List.mem_singleton.mp new]
        rfl
  | @respond request status headers responseAt wallNow context bodies found responded =>
    obtain ⟨pending, between, same, unreleased, first, second⟩ := responded.path
    have keyed : WellKeyed between := first.wellKeyed ⟨sound.keyed.buckets, sound.keyed.hashes⟩
    have held : reserved pending = reserved context := by
      unfold reserved
      rw [same.admittedAt, unreleased]
    refine accounted.release found rfl responded.request responded.released ?_ ?_
    · rw [second.sameCounters.invalidInFlight, (release_invalidInFlight pending between).1,
        first.sameCounters.invalidInFlight, held]
    · intro key
      have heldAt : reservedAt key pending = reservedAt key context := by
        unfold reservedAt
        rw [held, same.bucketKey]
      rw [second.inFlightOf (release_wellKeyed keyed), release_inFlightOf, heldAt,
        first.inFlightOf ⟨sound.keyed.buckets, sound.keyed.hashes⟩]
      rfl
  | @readBody index body now wallNow read context inBodies found later closed =>
    obtain ⟨between, moves, is⟩ := closed.path
    rw [closed.context]
    refine ⟨?_, ?_, ?_⟩
    · have count : (s.sent.set read.request { context with bodyPending := false }).countP reserved =
          s.sent.countP reserved := Nat.add_right_cancel (countP_set found _ reserved)
      rw [count, ← accounted.invalidInFlight, ← moves.sameCounters.invalidInFlight, is]
    · intro key
      have count : (s.sent.set read.request { context with bodyPending := false }).countP
          (reservedAt key) = s.sent.countP (reservedAt key) :=
        Nat.add_right_cancel (countP_set found _ (reservedAt key))
      rw [count, ← accounted.inFlight, ← moves.inFlightOf sound.keyed, is]
      rfl
    · intro other member isAdmitted
      rcases List.mem_or_eq_of_mem_set member with old | rfl
      · exact accounted.keyed other old isAdmitted
      · exact accounted.keyed context (List.mem_of_getElem? found) isAdmitted
  | fail found =>
    refine accounted.release found rfl ?_ ?_ (release_invalidInFlight _ _).1
      (release_inFlightOf _ _)
    · rw [release_context]
      exact ⟨rfl, rfl, rfl⟩
    · rw [release_context]

/-- In every reachable state the counters of the limiter are the numbers of attempts that
were admitted and not released, and the bucket of every such attempt is in the table, so
that no decrement of a release is clamped at zero. -/
theorem reservation_accounting (settings : Settings) (labels : List Label) :
    ∀ s ∈ run (step settings) {} labels,
      s.limiter.invalidInFlight = s.sent.countP reserved ∧
      (∀ key bucket, get key s.limiter.routeBuckets = some bucket →
        bucket.inFlight = s.sent.countP (reservedAt key)) ∧
      ∀ context ∈ s.sent, reserved context = true → 0 < s.limiter.invalidInFlight ∧
        ∃ key bucket, context.bucketKey = some key ∧
          get key s.limiter.routeBuckets = some bucket ∧ 0 < bucket.inFlight := by
  intro s reached
  have start : Accounted {} := ⟨rfl, fun _ => rfl, by simp⟩
  obtain ⟨sound, accounted⟩ := reachable_inv
    (fun _ _ _ sound accounted effect => effect.accounted sound accounted) start reached
  have flights : ∀ key bucket, get key s.limiter.routeBuckets = some bucket →
      bucket.inFlight = s.sent.countP (reservedAt key) := by
    intro key bucket found
    rw [← accounted.inFlight]
    unfold inFlightOf
    rw [found]
    rfl
  refine ⟨accounted.invalidInFlight, flights, ?_⟩
  intro context member held
  have isAdmitted : context.admittedAt.isSome := by
    simp only [reserved, Bool.and_eq_true] at held
    exact held.1
  obtain ⟨key, own⟩ := Option.isSome_iff_exists.mp (accounted.keyed context member isAdmitted)
  have counted : 0 < s.sent.countP (reservedAt key) :=
    List.countP_pos_iff.mpr ⟨context, member, by simp [reservedAt, held, own]⟩
  refine ⟨?_, key, ?_⟩
  · rw [accounted.invalidInFlight]
    exact List.countP_pos_iff.mpr ⟨context, member, held⟩
  · cases found : get key s.limiter.routeBuckets with
    | none =>
      have none := accounted.inFlight key
      unfold inFlightOf at none
      rw [found] at none
      exact absurd none.symm counted.ne'
    | some bucket =>
      refine ⟨bucket, own, rfl, ?_⟩
      rw [flights key bucket found]
      exact counted

theorem reservation_accounting_twoRoutes :
    ∃ s ∈ run (step narrow) {} twoRoutes, s.sent.length = 2 ∧ s.sent.countP reserved = 1 ∧
      s.limiter.invalidInFlight = s.sent.countP reserved := by
  have ends : (run (step narrow) {} twoRoutes).map
      (fun s => (s.sent.length, s.sent.countP reserved)) = some (2, 1) := by
    decide +kernel
  obtain ⟨s, reached, is⟩ := Option.map_eq_some_iff.mp ends
  obtain ⟨length, count⟩ := Prod.mk.inj is
  exact ⟨s, reached, length, count, (reservation_accounting narrow twoRoutes s reached).1⟩

/-! ## The bodies to be read -/

/-- The limiter counts the requests whose body is to be read. -/
def Barred (s : Session) : Prop :=
  s.limiter.unresolved429Bodies = s.sent.countP Context.bodyPending

theorem Effect.barred (effect : Effect settings s label t)
    (sound : Sound settings s) (barred : Barred s) :
    Barred t := by
  have added : ∀ {context : Context}, context ∈ s.starting →
      (s.sent ++ [context]).countP Context.bodyPending = s.sent.countP Context.bodyPending := by
    intro context member
    rw [List.countP_append, List.countP_singleton, (sound.unsent context member).bodyPending]
    rfl
  unfold Barred at barred ⊢
  cases effect with
  | start | close => exact barred
  | cancelStart found => exact barred.trans (added (List.mem_of_getElem? found)).symm
  | wait found later twice moves => exact moves.sameCounters.unresolved.trans barred
  | refuse found later twice moves =>
    exact (moves.sameCounters.unresolved.trans barred).trans
      (added (List.mem_of_getElem? found)).symm
  | enter found later twice moves =>
    have unsent := sound.unsent _ (List.mem_of_getElem? found)
    rw [List.countP_append, List.countP_singleton]
    rw [unsent.bodyPending, ← barred]
    exact moves.sameCounters.unresolved
  | @respond request status headers responseAt wallNow context bodies found responded =>
    have count := countP_set found (s.limiter.onResponse settings context status headers responseAt
      wallNow).2.1 Context.bodyPending
    rw [responded.pending] at count
    rw [responded.unresolved, barred]
    unfold opens
    cases pending : context.bodyPending with
    | true =>
      simp only [pending, Bool.true_or, if_true] at count
      simp only [Bool.true_eq_false, and_false, if_false]
      omega
    | false =>
      simp only [pending, Bool.false_or, decide_eq_true_eq, Bool.false_eq_true, if_false] at count
      simp only [and_true]
      omega
  | @readBody index body now wallNow read context inBodies found later closed =>
    have count := countP_set found { context with bodyPending := false } Context.bodyPending
    rw [closed.closed, closed.context, barred]
    cases pending : context.bodyPending with
    | true =>
      simp only [pending, if_true, Bool.false_eq_true, if_false] at count
      dsimp only
      rw [if_pos rfl]
      omega
    | false =>
      simp only [pending, Bool.false_eq_true, if_false] at count
      simp only [Bool.false_eq_true, if_false]
      omega
  | @fail request context found =>
    have count := countP_set found (s.limiter.release context).2 Context.bodyPending
    rw [release_context] at count ⊢
    dsimp only at count ⊢
    rw [(release_invalidInFlight context s.limiter).2.1, barred]
    omega

/-! ## The route table -/

/-- A place in a block where entries may leave the tables: what they are before and after,
and the time of the block. -/
structure Removal where
  before : Limiter
  after : Limiter
  now : ℚ

/-- The clean-ups and the room making of a block. -/
def removals (settings : Settings) (s : Session) : Label → List Removal
  | .tryAdmit index now _ =>
    match s.starting[index]? with
    | none => []
    | some context =>
      if s.limiter.closed then []
      else
        let cleaned := s.limiter.cleanup settings now
        [⟨s.limiter, cleaned, now⟩,
          ⟨cleaned, (cleaned.bucketForRoute settings context.route now).1, now⟩]
  | .respond request status headers responseAt wallNow =>
    match s.sent[request]? with
    | none => []
    | some context =>
      let start := (opened status context s.limiter).1
      let pending := (opened status context s.limiter).2
      let mapped := start.remap pending.route headers responseAt
      ⟨mapped, (mapped.bucketForRoute settings pending.route responseAt).1, responseAt⟩ ::
        match start.responseBucket settings pending headers responseAt wallNow.1 true with
        | (_, none) => []
        | (found, some key) =>
          let written := answered status headers responseAt wallNow.2 key (found.release pending).1
          [⟨written, written.cleanup settings responseAt, responseAt⟩]
  | .readBody index body now wallNow =>
    match s.bodies[index]?, body with
    | some read, some body =>
      match s.sent[read.request]? with
      | none => []
      | some context =>
        if read.readyForBody then
          let mapped := s.limiter.remap context.route read.headers now
          ⟨mapped, (mapped.bucketForRoute settings context.route now).1, now⟩ ::
            match s.limiter.responseBucket settings context read.headers now wallNow false with
            | (_, none) => []
            | (found, some key) =>
              if body.tooLarge then []
              else
                let written :=
                  classified context read.headers read.responseAt wallNow body key found
                [⟨written, written.cleanup settings now, now⟩]
        else []
    | _, _ => []
  | .start _ | .cancelStart _ | .fail _ | .close => []

/-- The bucket of a key, or the mapping of a signature, is in the tables. -/
def present (limiter : Limiter) : BucketKey ⊕ String → Bool
  | .inl key => (get key limiter.routeBuckets).isSome
  | .inr signature => (get signature limiter.routeHashes).isSome

/-- Nothing leaves the tables. -/
def Grows (before after : Limiter) : Prop := ∀ entry, present before entry → present after entry

theorem Grows.refl (limiter : Limiter) : Grows limiter limiter := fun _ isPresent => isPresent

theorem Grows.trans {first second third : Limiter} (one : Grows first second)
    (two : Grows second third) : Grows first third := fun entry => two entry ∘ one entry

variable {before after : Limiter}

theorem grows_of_buckets (hashes : after.routeHashes = before.routeHashes)
    (buckets : ∀ key, (get key before.routeBuckets).isSome → (get key after.routeBuckets).isSome) :
    Grows before after := by
  rintro (key | signature) isPresent
  · exact buckets key isPresent
  · unfold present at isPresent ⊢
    dsimp only at isPresent ⊢
    rw [hashes]
    exact isPresent

theorem apply429Cooldown_grows (key : BucketKey) (cooldownUntil : ℚ) (isGlobal : Bool)
    (limiter : Limiter) : Grows limiter (limiter.apply429Cooldown key cooldownUntil isGlobal) := by
  unfold Limiter.apply429Cooldown
  split
  · exact Grows.refl limiter
  · split
    · exact grows_of_buckets rfl fun _ => isSome_set
    · exact Grows.refl limiter

theorem remap_grows (route : Route) (headers : Headers) (now : ℚ) (limiter : Limiter) :
    Grows limiter (limiter.remap route headers now) := by
  unfold Limiter.remap
  split
  · rintro (key | signature) isPresent
    · exact isPresent
    · exact isSome_set isPresent
  · exact Grows.refl limiter

theorem release_grows (context : Context) (limiter : Limiter) :
    Grows limiter (limiter.release context).1 := by
  refine grows_of_buckets (release_invalidInFlight context limiter).2.2.2.2 ?_
  intro key isPresent
  rcases release_buckets context limiter with same | ⟨own, old, new, -, -, -, -, -, is⟩
  · rw [same]
    exact isPresent
  · rw [is]
    exact isSome_set isPresent

theorem responseBucket_grows (settings : Settings) (context : Context) (headers : Headers)
    (now wallNow : ℚ) (learn : Bool) (limiter : Limiter) :
    Grows ((limiter.remap context.route headers now).bucketForRoute settings context.route now).1
      (limiter.responseBucket settings context headers now wallNow learn).1 := by
  unfold Limiter.responseBucket
  split
  · next is =>
    rw [is]
    exact Grows.refl _
  · next is =>
    rw [is]
    exact grows_of_buckets rfl fun _ => isSome_set

theorem answered_grows (status : Nat) (headers : Headers) (responseAt wallNow : ℚ) (key : BucketKey)
    (released : Limiter) :
    Grows released (answered status headers responseAt wallNow key released) := by
  refine answered_spec status headers responseAt wallNow key (Grows.refl released) ?_ ?_
  · intro cooldownUntil isGlobal
    exact apply429Cooldown_grows _ _ _ _
  · intro limiter grows
    exact grows.trans (grows_of_buckets rfl fun _ isPresent => isPresent)

theorem classified_grows (context : Context) (headers : Headers) (responseAt wallNow : ℚ)
    (body : Body) (key : BucketKey) (found : Limiter) :
    Grows found (classified context headers responseAt wallNow body key found) := by
  have cooled := apply429Cooldown_grows key
    (roundDouble (responseAt + retryAfter headers body wallNow)) (globalScope headers body) found
  unfold classified
  split
  · exact cooled
  · exact cooled.trans (grows_of_buckets rfl fun _ isPresent => isPresent)

/-- Every entry that a block takes out of the tables leaves in one of the removals. -/
def LeavesBy (list : List Removal) (before after : Limiter) : Prop :=
  ∀ entry, present before entry → ¬ present after entry →
    ∃ removal ∈ list, present removal.before entry ∧ ¬ present removal.after entry

theorem Grows.leavesBy (grows : Grows before after) (list : List Removal) :
    LeavesBy list before after := fun entry isPresent gone => absurd (grows entry isPresent) gone

theorem LeavesBy.cons {before first last after : Limiter} {now : ℚ} {list : List Removal}
    (grows : Grows before first) (rest : LeavesBy list last after) :
    LeavesBy (⟨first, last, now⟩ :: list) before after := by
  intro entry isPresent gone
  by_cases survives : present last entry
  · obtain ⟨removal, member, leaves⟩ := rest entry survives gone
    exact ⟨removal, List.mem_cons_of_mem _ member, leaves⟩
  · exact ⟨_, List.mem_cons_self .., grows entry isPresent, survives⟩

theorem tryAdmit_leaves (settings : Settings) (context : Context) (now admittedAt : ℚ)
    (limiter : Limiter) (opened : limiter.closed = false) :
    Grows ((limiter.cleanup settings now).bucketForRoute settings context.route now).1
      (limiter.tryAdmit settings context now admittedAt).1 := by
  unfold Limiter.tryAdmit
  rw [if_neg (by rw [opened]; decide)]
  split
  · next is =>
    rw [is]
    exact Grows.refl _
  · next is =>
    rw [is]
    dsimp only
    split
    · exact grows_of_buckets rfl fun _ isPresent => isSome_set (isSome_set isPresent)
    · exact grows_of_buckets rfl fun _ => isSome_set

theorem step_removals (sound : Sound settings s) (done : step settings s label = some t) :
    (∀ removal ∈ removals settings s label, Guards removal.now removal.before removal.after) ∧
      LeavesBy (removals settings s label) s.limiter t.limiter := by
  cases label with
  | start route =>
    cases done
    exact ⟨by simp [removals], (Grows.refl _).leavesBy _⟩
  | close =>
    cases done
    exact ⟨by simp [removals], (grows_of_buckets rfl fun _ isPresent => isPresent).leavesBy _⟩
  | cancelStart index =>
    obtain ⟨context, found, rest⟩ := Option.bind_eq_some_iff.mp done
    cases rest
    exact ⟨by simp [removals], (Grows.refl _).leavesBy _⟩
  | fail request =>
    obtain ⟨context, found, rest⟩ := Option.bind_eq_some_iff.mp done
    cases rest
    exact ⟨by simp [removals], (release_grows context s.limiter).leavesBy _⟩
  | tryAdmit index now admittedAt =>
    obtain ⟨context, found, rest⟩ := Option.bind_eq_some_iff.mp done
    have table : t.limiter = (s.limiter.tryAdmit settings context now admittedAt).1 := by
      split at rest
      · cases outcome : s.limiter.tryAdmit settings context now admittedAt with
        | mk limiter admission =>
          rw [outcome] at rest
          cases admission <;> cases rest <;> rfl
      · cases rest
    rw [table]
    unfold removals
    simp only [found]
    by_cases shut : s.limiter.closed = true
    · rw [if_pos shut]
      refine ⟨by simp, Grows.leavesBy ?_ _⟩
      unfold Limiter.tryAdmit
      rw [if_pos shut]
      exact Grows.refl _
    · have cleaned := cleanup_drops settings now sound.keyed
      rw [if_neg shut]
      have filed := bucketForRoute_guards settings context.route now (cleaned.wellKeyed sound.keyed)
      refine ⟨List.forall_mem_cons.mpr
        ⟨cleaned.guards sound.keyed, List.forall_mem_singleton.mpr filed⟩, ?_⟩
      · refine LeavesBy.cons (Grows.refl _) (LeavesBy.cons (Grows.refl _) (Grows.leavesBy ?_ _))
        exact tryAdmit_leaves settings context now admittedAt s.limiter (by simpa using shut)
  | respond request status headers responseAt wallNow =>
    simp only [step, Option.bind_eq_bind, Option.bind_eq_some_iff, Option.some.injEq] at done
    obtain ⟨context, found, rest⟩ := done
    have table : t.limiter =
        (s.limiter.onResponse settings context status headers responseAt wallNow).1 := by
      rw [← rest]
      split <;> rfl
    rw [table, onResponse_eq]
    unfold removals
    simp only [found]
    obtain ⟨same, -⟩ := opened_spec status context s.limiter
    generalize opened status context s.limiter = start at same ⊢
    obtain ⟨start, pending⟩ := start
    dsimp only at same ⊢
    have keyed : WellKeyed start := by
      rw [same]
      exact ⟨sound.keyed.buckets, sound.keyed.hashes⟩
    have bounded : Bounded settings start := by
      rw [same]
      exact sound.bounded
    have opens : Grows s.limiter start := by
      rw [same]
      exact grows_of_buckets rfl fun _ isPresent => isPresent
    have mapped := remap_moves settings pending.route headers responseAt start
    have filed :=
      responseBucket_moves settings pending headers responseAt wallNow.1 true keyed bounded
    have grown := responseBucket_grows settings pending headers responseAt wallNow.1 true start
    have room := bucketForRoute_guards settings pending.route responseAt (mapped.wellKeyed keyed)
    have first := opens.trans (remap_grows pending.route headers responseAt start)
    generalize start.responseBucket settings pending headers responseAt wallNow.1 true = placed
      at filed grown ⊢
    rcases placed with ⟨after, _ | key⟩
    · refine ⟨List.forall_mem_singleton.mpr room, LeavesBy.cons first ?_⟩
      exact (grown.trans (release_grows pending after)).leavesBy _
    · have written := answered_moves settings (announces pending.route headers) status headers
        responseAt wallNow.2 key (after.release pending).1
      have keyed' := written.wellKeyed (release_wellKeyed (filed.1.wellKeyed keyed))
      have cleaned := (cleanup_drops settings responseAt keyed').guards keyed'
      refine ⟨List.forall_mem_cons.mpr ⟨room, List.forall_mem_singleton.mpr cleaned⟩,
        LeavesBy.cons first (LeavesBy.cons ?_ ((Grows.refl _).leavesBy _))⟩
      exact (grown.trans (release_grows pending after)).trans (answered_grows _ _ _ _ _ _)
  | readBody index body now wallNow =>
    simp only [step, Option.bind_eq_bind, Option.bind_eq_some_iff] at done
    obtain ⟨read, inBodies, context, found, rest⟩ := done
    have table : t.limiter = (s.limiter.onBody settings context read.headers read.responseAt
        read.readyForBody body now wallNow).1 := by
      split at rest
      · cases rest
        rfl
      · cases rest
    have closes : ∀ limiter : Limiter, Grows limiter (limiter.closeBody context).1 := by
      intro limiter
      rw [(closeBody_spec context limiter).1]
      exact grows_of_buckets rfl fun _ isPresent => isPresent
    rw [table]
    unfold removals Limiter.onBody
    simp only [inBodies]
    cases body with
    | none => exact ⟨by simp, (closes s.limiter).leavesBy _⟩
    | some body =>
      simp only [found]
      cases read.readyForBody with
      | false => exact ⟨by simp, (closes s.limiter).leavesBy _⟩
      | true =>
        have mapped := remap_moves settings context.route read.headers now s.limiter
        have filed :=
          responseBucket_moves settings context read.headers now wallNow false sound.keyed
          sound.bounded
        have grown := responseBucket_grows settings context read.headers now wallNow false s.limiter
        have room := bucketForRoute_guards settings context.route now (mapped.wellKeyed sound.keyed)
        have first := remap_grows context.route read.headers now s.limiter
        simp only [if_true]
        generalize s.limiter.responseBucket settings context read.headers now wallNow false = placed
          at filed grown ⊢
        rcases placed with ⟨after, _ | key⟩
        · refine ⟨List.forall_mem_singleton.mpr room, LeavesBy.cons first ?_⟩
          exact (grown.trans (closes after)).leavesBy _
        · by_cases tooLarge : body.tooLarge
          · simp only [tooLarge, if_true]
            refine ⟨List.forall_mem_singleton.mpr room, LeavesBy.cons first ?_⟩
            exact (grown.trans (closes after)).leavesBy _
          · have written :=
              classified_moves settings now (announces context.route read.headers) context
                read.headers read.responseAt wallNow body key after
            have keyed := written.wellKeyed (filed.1.wellKeyed sound.keyed)
            simp only [if_neg tooLarge]
            have cleaned := (cleanup_drops settings now keyed).guards keyed
            refine ⟨List.forall_mem_cons.mpr ⟨room, List.forall_mem_singleton.mpr cleaned⟩,
              LeavesBy.cons first (LeavesBy.cons ?_ ?_)⟩
            · exact grown.trans (classified_grows _ _ _ _ _ _ _)
            · exact (closes _).leavesBy _

/-- In every reachable state the table is within its hard limit, and every entry that the next
block takes out of the tables leaves in a removal that takes nothing protected. -/
theorem route_table_bounded (settings : Settings) (labels : List Label) :
    ∀ s ∈ run (step settings) {} labels,
      s.limiter.routeBuckets.length ≤ settings.maxRouteBuckets + settings.globalLimit ∧
      ∀ label, ∀ t ∈ step settings s label,
        (∀ removal ∈ removals settings s label, Guards removal.now removal.before removal.after) ∧
        LeavesBy (removals settings s label) s.limiter t.limiter := by
  intro s reached
  have sound : Sound settings s :=
    run_inv (fun _ _ _ sound done => (step_effect sound done).sound sound)
      (sound_initial settings) reached
  exact ⟨sound.bounded, fun label t done => step_removals sound done⟩

theorem route_table_bounded_twoRoutes :
    ∃ s ∈ run (step narrow) {} twoRoutes, (s.limiter.routeBuckets.map Prod.fst = [("GET /b", [])]) ∧
      s.limiter.routeBuckets.length ≤ narrow.maxRouteBuckets + narrow.globalLimit := by
  have ends : (run (step narrow) {} twoRoutes).map
      (fun s => s.limiter.routeBuckets.map Prod.fst) = some [("GET /b", [])] := by
    decide +kernel
  obtain ⟨s, reached, keys⟩ := Option.map_eq_some_iff.mp ends
  exact ⟨s, reached, keys, (route_table_bounded narrow twoRoutes s reached).1⟩

end Copilotd.Guarantees.DiscordAdmission
