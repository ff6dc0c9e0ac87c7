import Mathlib.Algebra.Order.Group.Multiset
import Mathlib.Data.Multiset.Range

/-!
# Tickets of a bounded queue

A producer reserves a place before it delivers.  With the place it draws a ticket: a
serial number and, in the numbered lane, a number of that lane as well.  A ticket is
under way, then delivered or lost; a ticket that finds no place is lost at once.  The
place is freed when the consumer acknowledges what it took.
-/
namespace Copilotd.Base.Tickets

abbrev Ticket := Nat × Option Nat

structure Ledger where
  capacity : Nat
  outstanding : Nat
  /-- How many places have a time of reservation. -/
  timed : Nat
  serial : Nat
  lane : Nat
  underway : Multiset Ticket
  queued : Nat
  taken : Nat
  delivered : Multiset Ticket
  lost : Multiset Ticket
  /-- How many losses were counted. -/
  counted : Nat

/-- The numbers from 1 to `n`. -/
def upTo (n : Nat) : Multiset Nat := (Multiset.range n).map (· + 1)

theorem upTo_succ (n : Nat) : upTo (n + 1) = (n + 1) ::ₘ upTo n := by
  unfold upTo
  rw [Multiset.range_succ, Multiset.map_cons]

theorem nodup_upTo (n : Nat) : (upTo n).Nodup := by
  unfold upTo
  rw [Multiset.nodup_map_iff_inj_on (Multiset.nodup_range n)]
  intro a _ b _ same
  omega

theorem mem_upTo {n k : Nat} : k ∈ upTo n ↔ 1 ≤ k ∧ k ≤ n := by
  unfold upTo
  rw [Multiset.mem_map]
  constructor
  · rintro ⟨a, member, rfl⟩
    have := Multiset.mem_range.mp member
    omega
  · rintro ⟨positive, bound⟩
    exact ⟨k - 1, Multiset.mem_range.mpr (by omega), by omega⟩

namespace Ledger

variable (l : Ledger)

def tickets : Multiset Ticket := l.underway + l.delivered + l.lost

/-- The ticket that would be drawn next. -/
def ticket (numbered : Bool) : Ticket :=
  (l.serial + 1, if numbered then some (l.lane + 1) else none)

def draw (numbered : Bool) : Ledger :=
  { l with serial := l.serial + 1, lane := if numbered then l.lane + 1 else l.lane }

end Ledger

/-- What can happen to a ledger. -/
inductive Move : Ledger → Ledger → Prop where
  | reserve (l : Ledger) (numbered : Bool) (room : l.outstanding < l.capacity) :
      Move l { l.draw numbered with
        outstanding := l.outstanding + 1
        timed := l.timed + 1
        underway := l.ticket numbered ::ₘ l.underway }
  | refuse (l : Ledger) (numbered : Bool) :
      Move l { l.draw numbered with
        lost := l.ticket numbered ::ₘ l.lost
        counted := l.counted + 1 }
  | giveUp (l : Ledger) (t : Ticket) (others : Multiset Ticket)
      (here : l.underway = t ::ₘ others) :
      Move l { l with
        outstanding := l.outstanding - 1
        timed := l.timed - 1
        underway := others
        lost := t ::ₘ l.lost
        counted := l.counted + 1 }
  | deliver (l : Ledger) (t : Ticket) (others : Multiset Ticket)
      (here : l.underway = t ::ₘ others) :
      Move l { l with
        underway := others
        queued := l.queued + 1
        delivered := t ::ₘ l.delivered }
  | take (l : Ledger) (n : Nat) (enough : n ≤ l.queued) :
      Move l { l with queued := l.queued - n, taken := l.taken + n }
  | acknowledge (l : Ledger) (n : Nat) (enough : n ≤ l.taken) :
      Move l { l with
        taken := l.taken - n
        outstanding := l.outstanding - n
        timed := l.timed - n }
  | discard (l : Ledger) :
      Move l { l with
        queued := 0
        outstanding := l.outstanding - l.queued
        timed := l.timed - l.queued }

/-- Each place is under way, queued or taken; each ticket drawn is under way, delivered or
lost, once; and each loss is counted. -/
structure Balanced (l : Ledger) : Prop where
  outstanding : l.outstanding = l.underway.card + l.queued + l.taken
  bound : l.outstanding ≤ l.capacity
  timed : l.timed = l.outstanding
  counted : l.counted = l.lost.card
  serials : l.tickets.map Prod.fst = upTo l.serial
  lanes : l.tickets.filterMap Prod.snd = upTo l.lane

variable {l : Ledger}

theorem Balanced.draw (balanced : Balanced l) (numbered : Bool) :
    (l.ticket numbered ::ₘ l.tickets).map Prod.fst = upTo (l.draw numbered).serial ∧
      (l.ticket numbered ::ₘ l.tickets).filterMap Prod.snd = upTo (l.draw numbered).lane := by
  constructor
  · rw [Multiset.map_cons, balanced.serials]
    exact (upTo_succ l.serial).symm
  · cases numbered with
    | true =>
      rw [Multiset.filterMap_cons_some Prod.snd _ _ rfl, balanced.lanes]
      exact (upTo_succ l.lane).symm
    | false =>
      rw [Multiset.filterMap_cons_none _ _ rfl, balanced.lanes]
      rfl

theorem Balanced.move {m : Ledger} (balanced : Balanced l) (move : Move l m) : Balanced m := by
  have outstanding := balanced.outstanding
  have bound := balanced.bound
  have timed := balanced.timed
  have counted := balanced.counted
  cases move with
  | reserve numbered room =>
    have numbers := balanced.draw numbered
    have same : l.ticket numbered ::ₘ l.underway + l.delivered + l.lost =
        l.ticket numbered ::ₘ l.tickets := by
      rw [Ledger.tickets, Multiset.cons_add, Multiset.cons_add]
    rw [← same] at numbers
    refine ⟨?_, room, ?_, counted, numbers.1, numbers.2⟩
    · simp only [Multiset.card_cons, Ledger.draw]
      omega
    · dsimp only
      omega
  | refuse numbered =>
    have numbers := balanced.draw numbered
    have same : l.underway + l.delivered + l.ticket numbered ::ₘ l.lost =
        l.ticket numbered ::ₘ l.tickets := by
      rw [Ledger.tickets, Multiset.add_cons]
    rw [← same] at numbers
    refine ⟨outstanding, bound, timed, ?_, numbers.1, numbers.2⟩
    simp only [Multiset.card_cons]
    omega
  | giveUp t others here =>
    have same : others + l.delivered + t ::ₘ l.lost = l.tickets := by
      simp only [Ledger.tickets, here, Multiset.add_cons, Multiset.cons_add]
    rw [here, Multiset.card_cons] at outstanding
    refine ⟨?_, ?_, ?_, ?_, ?_, ?_⟩
    · dsimp only
      omega
    · dsimp only
      omega
    · dsimp only
      omega
    · simp only [Multiset.card_cons]
      omega
    · simpa only [Ledger.tickets, same] using balanced.serials
    · simpa only [Ledger.tickets, same] using balanced.lanes
  | deliver t others here =>
    have same : others + t ::ₘ l.delivered + l.lost = l.tickets := by
      simp only [Ledger.tickets, here, Multiset.add_cons, Multiset.cons_add]
    rw [here, Multiset.card_cons] at outstanding
    refine ⟨?_, bound, timed, counted, ?_, ?_⟩
    · dsimp only
      omega
    · simpa only [Ledger.tickets, same] using balanced.serials
    · simpa only [Ledger.tickets, same] using balanced.lanes
  | take n enough =>
    refine ⟨?_, bound, timed, counted, balanced.serials, balanced.lanes⟩
    dsimp only
    omega
  | acknowledge n enough =>
    refine ⟨?_, ?_, ?_, counted, balanced.serials, balanced.lanes⟩
    · dsimp only
      omega
    · dsimp only
      omega
    · dsimp only
      omega
  | discard =>
    refine ⟨?_, ?_, ?_, counted, balanced.serials, balanced.lanes⟩
    · dsimp only
      omega
    · dsimp only
      omega
    · dsimp only
      omega

theorem Balanced.moves {m : Ledger} (balanced : Balanced l)
    (moves : Relation.ReflTransGen Move l m) : Balanced m := by
  induction moves with
  | refl => exact balanced
  | tail _ move ih => exact ih.move move

theorem Balanced.room (balanced : Balanced l) (some : 0 < l.underway.card) :
    l.queued < l.capacity := by
  have outstanding := balanced.outstanding
  have bound := balanced.bound
  omega

theorem Balanced.delivered_nodup (balanced : Balanced l) :
    (l.delivered.map Prod.fst).Nodup := by
  have all : (l.tickets.map Prod.fst).Nodup := by
    rw [balanced.serials]
    exact nodup_upTo l.serial
  refine Multiset.nodup_of_le ?_ all
  apply Multiset.map_le_map
  unfold Ledger.tickets
  rw [add_assoc, add_left_comm]
  exact Multiset.le_add_right _ _

theorem Balanced.count_lane (balanced : Balanced l) {k : Nat} (positive : 1 ≤ k)
    (drawn : k ≤ l.lane) :
    (l.underway.filterMap Prod.snd).count k + (l.delivered.filterMap Prod.snd).count k +
      (l.lost.filterMap Prod.snd).count k = 1 := by
  have member : k ∈ upTo l.lane := mem_upTo.mpr ⟨positive, drawn⟩
  have once := Multiset.count_eq_one_of_mem (nodup_upTo l.lane) member
  rw [← balanced.lanes, Ledger.tickets, Multiset.filterMap_add, Multiset.filterMap_add,
    Multiset.count_add, Multiset.count_add] at once
  exact once

end Copilotd.Base.Tickets
