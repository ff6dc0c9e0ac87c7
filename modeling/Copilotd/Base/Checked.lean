import Copilotd.Base.Json

/-!
# Checked records and their encodings

A record whose constructor checks its fields is a value together with the fact that the check
passes, so that a record that fails its check cannot be built.  An encoding is read back when the
decoder returns the encoded value.
-/
namespace Copilotd.Base

variable {α β ε : Type}

/-- The values that `check` lets pass. -/
structure Checked (check : α → Except ε Unit) where
  val : α
  passes : check val = .ok ()

namespace Checked

variable {check : α → Except ε Unit}

/-- The constructor, which raises what the check raises. -/
def make (check : α → Except ε Unit) (value : α) : Except ε (Checked check) :=
  match passes : check value with
  | .ok () => .ok ⟨value, passes⟩
  | .error raised => .error raised

@[ext] theorem ext {one other : Checked check} (same : one.val = other.val) : one = other := by
  cases one
  cases other
  cases same
  rfl

/-- A record that was built is built again from its own fields. -/
@[simp] theorem make_val (record : Checked check) : make check record.val = .ok record := by
  unfold make
  split
  · rfl
  · next raised fails =>
    rw [record.passes] at fails
    cases fails

theorem val_of_make {value : α} {record : Checked check} (made : make check value = .ok record) :
    record.val = value := by
  unfold make at made
  split at made
  · cases made
    rfl
  · cases made

end Checked

namespace Encodings

@[simp] theorem ok_bind (value : α) (f : α → Except ε β) : Except.ok value >>= f = f value := rfl

theorem bind_ok {x : Except ε α} {f : α → Except ε β} {b : β} :
    x >>= f = .ok b ↔ ∃ a, x = .ok a ∧ f a = .ok b := by
  cases x with
  | error raised => exact ⟨nofun, fun ⟨_, impossible, _⟩ => nomatch impossible⟩
  | ok a => exact ⟨fun h => ⟨a, rfl, h⟩, fun ⟨_, rfl, h⟩ => h⟩

theorem mapM_map (encode : α → β) (decode : β → Except ε α)
    (readBack : ∀ value, decode (encode value) = .ok value) (values : List α) :
    (values.map encode).mapM decode = .ok values := by
  induction values with
  | nil => rfl
  | cons value values ih =>
    rw [List.map_cons, List.mapM_cons, readBack, ih]
    rfl

theorem mapM_length {f : α → Except ε β} {values : List α} {results : List β}
    (converted : values.mapM f = .ok results) : results.length = values.length := by
  induction values generalizing results with
  | nil =>
    cases converted
    rfl
  | cons value values ih =>
    rw [List.mapM_cons] at converted
    obtain ⟨result, _, rest⟩ := bind_ok.mp converted
    obtain ⟨others, later, same⟩ := bind_ok.mp rest
    cases same
    exact congrArg Nat.succ (ih later)

theorem forM_map (encode : α → β) (check : β → Except ε Unit)
    (passes : ∀ value, check (encode value) = .ok ()) (values : List α) :
    (values.map encode).forM check = .ok () := by
  induction values with
  | nil => rfl
  | cons value values ih =>
    change (check (encode value) >>= fun _ => (values.map encode).forM check) = .ok ()
    rw [passes]
    exact ih

/-- A conversion that keeps its own results keeps the lists of them. -/
theorem mapM_idempotent {convert again : α → Except ε α}
    (fixes : ∀ value result, convert value = .ok result → again result = .ok result)
    {values results : List α} (converted : values.mapM convert = .ok results) :
    results.mapM again = .ok results := by
  induction values generalizing results with
  | nil =>
    cases converted
    rfl
  | cons value values ih =>
    rw [List.mapM_cons, bind_ok] at converted
    obtain ⟨first, firstConverted, converted⟩ := converted
    rw [bind_ok] at converted
    obtain ⟨rest, restConverted, converted⟩ := converted
    cases converted
    rw [List.mapM_cons, fixes value first firstConverted, ih restConverted]
    rfl

end Encodings

end Copilotd.Base
