import Copilotd.Base.Json

/-!
# Reading payloads

How Python code takes values out of a decoded document and hands them to a database: `dict.get`,
`or`, `isinstance`, and the binding of a parameter.  `str.strip` and `str.lower` are parameters.
-/
namespace Copilotd.Base.Payloads

structure Text extends Json.Python where
  strip : String → String
  lower : String → String

/-- `data.get(key)`. -/
def field (key : String) (data : Json) : Json := (data.get? key).getD .null

/-- `a or b or …`. -/
def either : List Json → Json
  | [] => .null
  | [value] => value
  | value :: values => if value.truthy then value else either values

/-- `isinstance(item, dict)`. -/
def isDict : Json → Bool
  | .dict _ => true
  | _ => false

/-- `isinstance(item, str)`. -/
def isStr : Json → Bool
  | .str _ => true
  | _ => false

/-- `payload if isinstance(payload, dict) else {}`. -/
def mapping (payload : Json) : Json := if isDict payload then payload else .dict []

/-- `[item for item in values.get(key, []) if …]`, which raises for a value that is not iterable. -/
def itemsWhere (keep : Json → Bool) (key : String) (values : Json) : Option (List Json) :=
  (((values.get? key).getD (.list [])).iterate).map fun items => items.filter keep

/-- `[item for item in values.get(key, []) if isinstance(item, dict)]`. -/
abbrev dictItems := itemsWhere isDict

/-- A value as a column of type `TEXT` stores it; lists and mappings cannot be bound. -/
def columnText : Json → Option (Option String)
  | .null => some none
  | .bool value => some (some (if value then "1" else "0"))
  | .int value => some (some (toString value))
  | .float literal => some (some literal)
  | .str value => some (some value)
  | .list _ | .dict _ => none

/-- `_value(data, key)`. -/
def value (python : Json.Python) (data : Json) (key : String) : Option String :=
  Json.optionalText python (data.get? key)

/-- `a or b` of optional texts. -/
def orElse : Option String → Option String → Option String
  | none, other | some "", other => other
  | some text, _ => some text

theorem itemsWhere_of_falsy {keep : Json → Bool} {key : String} {values : Json}
    (falsy : (field key values).truthy = false) : (itemsWhere keep key values).getD [] = [] := by
  unfold itemsWhere
  unfold field at falsy
  cases found : values.get? key with
  | none => rfl
  | some value =>
    cases value <;> simp_all [Json.truthy, Json.iterate]

end Copilotd.Base.Payloads
