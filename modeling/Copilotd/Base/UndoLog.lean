import Mathlib.Logic.Function.Basic

/-!
# Undo logs

An undo log holds, for some of the keys of a map, the value to go back to.  Undoing puts
these values back; a log that is merged into an earlier one, which has precedence, undoes
what both logs undo.
-/
namespace Copilotd.Base.UndoLog

variable {κ β : Type*}

/-- The map after the values of the log have been put back. -/
def undo (log : κ → Option β) (map : κ → β) : κ → β := fun key => (log key).getD (map key)

/-- `setdefault` for every key of the later log. -/
def merge (earlier later : κ → Option β) : κ → Option β := fun key => (earlier key).or (later key)

/-- Log the value of a key unless the log has one. -/
def record [DecidableEq κ] (log : κ → Option β) (key : κ) (value : β) : κ → Option β :=
  fun other => if other = key then some ((log key).getD value) else log other

theorem undo_empty (map : κ → β) : undo (fun _ => none) map = map := rfl

theorem undo_merge (earlier later : κ → Option β) (map : κ → β) :
    undo (merge earlier later) map = undo earlier (undo later map) := by
  funext key
  unfold undo merge
  cases earlier key with
  | none => rw [Option.none_or, Option.getD_none]
  | some value => rfl

theorem undo_record [DecidableEq κ] (log : κ → Option β) (map : κ → β) (key : κ) (value : β) :
    undo (record log key (map key)) (Function.update map key value) = undo log map := by
  funext other
  unfold undo record
  by_cases same : other = key
  · subst same
    rw [if_pos rfl, Option.getD_some]
  · rw [if_neg same, Function.update_of_ne same]

end Copilotd.Base.UndoLog
