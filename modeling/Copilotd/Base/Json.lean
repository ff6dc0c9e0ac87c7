import Copilotd.Base.Dict

/-!
# JSON values

What `json.loads` returns, with the conversions Python applies to it.  The items of a dictionary
are in their order; a float is its literal.
-/
namespace Copilotd.Base

inductive Json where
  | null
  | bool (value : Bool)
  | int (value : Int)
  | float (literal : String)
  | str (text : String)
  | list (items : List Json)
  | dict (items : List (String × Json))

/-- The conversions whose results for values of other types are left open. -/
structure Json.Python where
  /-- `str(value)` of a value that is no string. -/
  str : Json → String
  /-- `int(value)` of a value that is no integer; it may raise. -/
  int : Json → Option Int

namespace Json

variable (python : Python)

/-- `value.get(key)`. -/
def get? (key : String) : Json → Option Json
  | .dict items => Dict.get key items
  | _ => none

/-- `str(value)`. -/
def text : Json → String
  | .str text => text
  | value => python.str value

/-- `int(value)`. -/
def toInt : Json → Option Int
  | .int value => some value
  | value => python.int value

/-- `bool(value)`. -/
def truthy : Json → Bool
  | .null => false
  | .bool value => value
  | .int value => value ≠ 0
  | .float literal => literal ≠ "0.0" ∧ literal ≠ "-0.0"
  | .str text => text ≠ ""
  | .list items => !items.isEmpty
  | .dict items => !items.isEmpty

/-- `iter(value)`, which raises for null, booleans and numbers. -/
def iterate : Json → Option (List Json)
  | .str text => some (text.toList.map fun char => .str (String.singleton char))
  | .list items => some items
  | .dict items => some (items.map fun item => .str item.1)
  | _ => none

/-- `dict(value)` of a mapping. -/
def entries : Json → Option (List (String × Json))
  | .dict items => some items
  | _ => none

/-- `None if value is None else str(value)`. -/
def optionalText : Option Json → Option String
  | none | some .null => none
  | some value => some (text python value)

/-- The JSON of an optional string. -/
def ofOption : Option String → Json
  | none => .null
  | some text => .str text

@[simp] theorem get?_dict (key : String) (items : List (String × Json)) :
    (Json.dict items).get? key = Dict.get key items := rfl

@[simp] theorem text_str (value : String) : text python (.str value) = value := rfl

@[simp] theorem optionalText_ofOption (value : Option String) :
    optionalText python (some (ofOption value)) = value := by
  cases value <;> rfl

@[simp] theorem iterate_list (items : List Json) : iterate (.list items) = some items := rfl

@[simp] theorem text_comp_str : text python ∘ Json.str = id := rfl

end Json

end Copilotd.Base
