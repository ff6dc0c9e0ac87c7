import Mathlib.Data.List.Basic

/-!
# Programs that read a shared state

A program that awaits each of its reads sees the state at a moment of its own for each.  Here it
is a function of the list of these moments, which it uses up in turn; it raises by `none`.
-/
namespace Copilotd.Base

abbrev Reads (σ : Type) := StateT (List σ) Option

namespace Reads

variable {σ α β : Type}

/-- One read. -/
def read (view : σ → α) : Reads σ α := fun
  | [] => none
  | moment :: later => some (view moment, later)

def raise : Reads σ α := fun _ => none

/-- A value, or an exception. -/
def ofOption : Option α → Reads σ α
  | some value => pure value
  | none => raise

variable {moments rest : List σ}

theorem read_eq_some {view : σ → α} {value : α} :
    read view moments = some (value, rest) ↔
      ∃ moment, moments = moment :: rest ∧ view moment = value := by
  constructor
  · intro done
    cases moments with
    | nil => cases done
    | cons moment later =>
      cases done
      exact ⟨moment, rfl, rfl⟩
  · rintro ⟨moment, rfl, rfl⟩
    rfl

theorem bind_eq_some {program : Reads σ α} {next : α → Reads σ β} {value : β} :
    (program >>= next) moments = some (value, rest) ↔
      ∃ first middle, program moments = some (first, middle) ∧
        next first middle = some (value, rest) := by
  change (program moments).bind _ = _ ↔ _
  rw [Option.bind_eq_some_iff]
  constructor
  · rintro ⟨⟨first, middle⟩, here, there⟩
    exact ⟨first, middle, here, there⟩
  · rintro ⟨first, middle, here, there⟩
    exact ⟨(first, middle), here, there⟩

theorem pure_eq_some {value result : α} :
    (pure value : Reads σ α) moments = some (result, rest) ↔ value = result ∧ moments = rest := by
  change some (value, moments) = _ ↔ _
  rw [Option.some.injEq, Prod.mk.injEq]

theorem ofOption_eq_some {option : Option α} {value : α} :
    (ofOption option : Reads σ α) moments = some (value, rest) ↔
      option = some value ∧ moments = rest := by
  cases option with
  | none => simp [ofOption, raise]
  | some known => simp [ofOption, pure_eq_some]

end Reads

end Copilotd.Base
