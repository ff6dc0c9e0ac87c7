import Mathlib.Algebra.Order.Ring.Rat
import Mathlib.Data.List.Sort
import Mathlib.Order.WithBot
import Copilotd.Base.Dict

/-!
# Elicitation forms

Source: `core/interactions.py` (`parse_elicitation_schema`, `_parse_elicitation_field`,
`_validate_field_value`, `_primitive_enum`, `_optional_int`, `_optional_float` and
`ElicitationForm`).

A value is what `json.loads` returns; a dictionary is built from its pairs in turn, so that
the last of two equal keys counts.  A float is a rational or one of the infinities, which a
literal can overflow to.  A tuple is a list.
-/
namespace Copilotd.Source.Core.Elicitation

open Base.Dict

abbrev Double := WithBot (WithTop ℚ)

def finite (value : ℚ) : Double := ((value : WithTop ℚ) : Double)

inductive Value where
  | null
  | bool (value : Bool)
  | int (value : Int)
  | float (value : Double)
  | str (text : String)
  | list (items : List Value)
  | dict (pairs : List (String × Value))

abbrev Items := List (String × Value)

/-- What leaves a call: `InteractionValidationError`, or something else. -/
inductive Raised where
  | validation (message : String)
  | typeError
  | overflowError
  | keyError

/-- `str` and `repr` of values that are no strings. -/
structure Python where
  str : Value → String
  repr : Value → String

/-- `raise InteractionValidationError(message)` -/
def reject {α : Type} (message : String) : Except Raised α := .error (.validation message)

/-! ## Values -/

/-- `str(value)` -/
def Value.text (python : Python) : Value → String
  | .str text => text
  | value => python.str value

def Value.items : Value → Option Items
  | .dict pairs => some (update [] pairs)
  | _ => none

/-- `mapping.get(key)` -/
def dictGet (key : String) (items : Items) : Value := (get key items).getD .null

/-- `bool(value)` -/
def Value.truthy : Value → Bool
  | .null => false
  | .bool value => value
  | .int value => value ≠ 0
  | .float value => value ≠ finite 0
  | .str text => text ≠ ""
  | .list items => !items.isEmpty
  | .dict pairs => !pairs.isEmpty

/-- `hash(value)` does not raise. -/
def Value.hashable : Value → Bool
  | .list _ | .dict _ => false
  | _ => true

/-- `isinstance(value, list) and all(isinstance(item, str) for item in value)` -/
def Value.strings : Value → Option (List String)
  | .list items => items.mapM fun
    | .str text => some text
    | _ => none
  | _ => none

/-- `iter(value)` -/
def Value.iterate : Value → Except Raised (List Value)
  | .str text => .ok (text.toList.map fun c => .str (String.singleton c))
  | .list items => .ok items
  | .dict pairs => .ok ((update [] pairs).map fun item => .str item.1)
  | _ => .error .typeError

def Value.number : Value → Option Double
  | .bool value => some (finite (if value then 1 else 0))
  | .int value => some (finite value)
  | .float value => some value
  | _ => none

/-- `left == right`, if one of them is no list and no dictionary. -/
def pyEq (left right : Value) : Bool :=
  match left.number, right.number with
  | some x, some y => x = y
  | _, _ =>
    match left, right with
    | .str s, .str t => s = t
    | .null, .null => true
    | _, _ => false

/-- The nearest double, of two the even one; `none` is `OverflowError`. -/
def floatOfInt (value : Int) : Option ℚ :=
  let magnitude := value.natAbs
  let shift := magnitude.log2 - 52
  let quotient := magnitude / 2 ^ shift
  let rest := magnitude % 2 ^ shift
  let rounded :=
    if 2 ^ shift < 2 * rest ∨ (2 * rest = 2 ^ shift ∧ quotient % 2 = 1) then quotient + 1
    else quotient
  if 2 ^ 1024 ≤ rounded * 2 ^ shift then none
  else some (value.sign * (rounded * 2 ^ shift : Nat))

/-- `float(value)` -/
def toFloat (value : Int) : Except Raised Double :=
  match floatOfInt value with
  | none => .error .overflowError
  | some value => .ok (finite value)

def optionalInt : Value → Except Raised (Option Int)
  | .null => .ok none
  | .int value => .ok (some value)
  | _ => reject "expected an integer"

def nonnegativeInt (value : Value) (name : String) : Except Raised (Option Int) := do
  let parsed ← optionalInt value
  if parsed.any (· < 0) then reject (name ++ " must be non-negative") else return parsed

def optionalFloat : Value → Except Raised (Option Double)
  | .null => .ok none
  | .int value => (toFloat value).map some
  | .float value => .ok (some value)
  | _ => reject "expected a number"

def primitiveEnum (value : Value) (name : String) : Except Raised (List Value) :=
  let unsupported := reject ("elicitation field " ++ name ++ " enum contains unsupported values")
  match value with
  | .null => .ok []
  | .list items =>
    if items.all fun
      | .str _ | .int _ | .float _ | .bool _ => true
      | _ => false
    then .ok items
    else unsupported
  | _ => unsupported

/-! ## Fields -/

/-- `value_type`; a persisted one may be any text. -/
inductive ValueType where
  | string
  | number
  | integer
  | boolean
  | array
  | unknown (text : String)
  deriving DecidableEq

def ValueType.text : ValueType → String
  | .string => "string"
  | .number => "number"
  | .integer => "integer"
  | .boolean => "boolean"
  | .array => "array"
  | .unknown text => text

def ValueType.ofText (text : String) : ValueType :=
  if text = "string" then .string
  else if text = "number" then .number
  else if text = "integer" then .integer
  else if text = "boolean" then .boolean
  else if text = "array" then .array
  else .unknown text

structure ElicitationField where
  name : String
  valueType : ValueType
  required : Bool
  title : String
  description : Option String
  enum : List Value
  default : Value
  minimum : Option Double
  maximum : Option Double
  minLength : Option Int
  maxLength : Option Int
  minItems : Option Int
  maxItems : Option Int
  itemEnum : List String

structure ElicitationForm where
  fields : List ElicitationField

/-- The checks of `minimum` and `maximum`. -/
def boundedValue (field : ElicitationField) (value : Value) (numeric : Double) :
    Except Raised Value :=
  if field.minimum.any (numeric < ·) then reject (field.name ++ " is below its minimum")
  else if field.maximum.any (· < numeric) then reject (field.name ++ " is above its maximum")
  else .ok value

/-- The part of `_validate_field_value` before the check of `enum`. -/
def typedValue (field : ElicitationField) (value : Value) : Except Raised Value :=
  match field.valueType with
  | .string =>
    match value with
    | .str text =>
      if field.minLength.any fun least => (text.length : Int) < least then
        reject (field.name ++ " is too short")
      else if field.maxLength.any fun most => most < (text.length : Int) then
        reject (field.name ++ " is too long")
      else .ok value
    | _ => reject (field.name ++ " must be a string")
  | .number | .integer =>
    match value with
    | .int number => do
      let numeric ← toFloat number
      boundedValue field value numeric
    | .float numeric =>
      if field.valueType = .integer then reject (field.name ++ " must be an integer")
      else boundedValue field value numeric
    | _ => reject (field.name ++ " must be numeric")
  | .boolean =>
    match value with
    | .bool _ => .ok value
    | _ => reject (field.name ++ " must be boolean")
  | .array | .unknown _ =>
    match value.strings with
    | none => reject (field.name ++ " must be an array of strings")
    | some texts =>
      if field.minItems.any fun least => (texts.length : Int) < least then
        reject (field.name ++ " has too few items")
      else if field.maxItems.any fun most => most < (texts.length : Int) then
        reject (field.name ++ " has too many items")
      else if field.itemEnum ≠ [] ∧ texts.any (· ∉ field.itemEnum) then
        reject (field.name ++ " contains an invalid item")
      else .ok value

def validateFieldValue (field : ElicitationField) (value : Value) : Except Raised Value := do
  let validated ← typedValue field value
  if field.enum ≠ [] ∧ ¬ field.enum.any (pyEq validated) then
    reject (field.name ++ " is not an allowed value")
  else return validated

/-! ## Schemas -/

def maxElicitationFields : Nat := 25
def maxElicitationArrayItems : Int := 25

def nestedKeys : List String := ["properties", "items", "oneOf", "anyOf", "allOf", "$ref"]

/-- Some key of a nested schema is there. -/
def nests (items : Items) : Bool := nestedKeys.any fun key => (get key items).isSome

/-- What `_parse_elicitation_field` reads before the bounds. -/
structure FieldShape where
  valueType : ValueType
  enum : List Value
  minItems : Option Int
  maxItems : Option Int
  itemEnum : List String

/-- The type of a field; `in` hashes it first. -/
def fieldType (python : Python) (name : String) (value : Value) : Except Raised ValueType :=
  let unsupported :=
    reject ("elicitation field " ++ name ++ " has unsupported type " ++ python.repr value)
  match value with
  | .str text =>
    match ValueType.ofText text with
    | .unknown _ => unsupported
    | valueType => .ok valueType
  | .list _ | .dict _ => .error .typeError
  | _ => unsupported

/-- The `enum` of the items of an array field. -/
def itemEnumOf (name : String) : Value → Except Raised (List String)
  | .null => .ok []
  | value =>
    match value.strings with
    | none => reject ("elicitation array " ++ name ++ " enum must contain strings")
    | some texts => .ok texts

def arrayItems (name : String) (payload : Items) (maxItems : Option Int) :
    Except Raised (List String × Option Int) := do
  match (dictGet "items" payload).items with
  | none => reject ("elicitation array " ++ name ++ " must contain strings")
  | some items =>
    if ¬ pyEq (dictGet "type" items) (.str "string") then
      reject ("elicitation array " ++ name ++ " must contain strings")
    else if nests items then
      reject ("elicitation array " ++ name ++ " cannot contain nested schemas")
    else
      let itemEnum ← itemEnumOf name (dictGet "enum" items)
      let most := maxItems.getD maxElicitationArrayItems
      if maxElicitationArrayItems < most then
        reject ("elicitation array " ++ name ++ " exceeds 25 items")
      else return (itemEnum, some most)

def fieldShape (python : Python) (name : String) (payload : Items) : Except Raised FieldShape := do
  let valueType ← fieldType python name (dictGet "type" payload)
  let enum ← primitiveEnum (dictGet "enum" payload) name
  let minItems ← nonnegativeInt (dictGet "minItems" payload) (name ++ ".minItems")
  let maxItems ← nonnegativeInt (dictGet "maxItems" payload) (name ++ ".maxItems")
  if valueType = .array then
    let (itemEnum, maxItems) ← arrayItems name payload maxItems
    return { valueType, enum, minItems, maxItems, itemEnum }
  else if nests payload then
    reject ("elicitation field " ++ name ++ " contains a nested schema")
  else return { valueType, enum, minItems, maxItems, itemEnum := [] }

/-- `_parse_elicitation_field` up to the check of the default. -/
def uncheckedField (python : Python) (name : String) (payload : Items) (required : Bool) :
    Except Raised ElicitationField := do
  let shape ← fieldShape python name payload
  let minimum ← optionalFloat (dictGet "minimum" payload)
  let maximum ← optionalFloat (dictGet "maximum" payload)
  let minLength ← nonnegativeInt (dictGet "minLength" payload) (name ++ ".minLength")
  let maxLength ← nonnegativeInt (dictGet "maxLength" payload) (name ++ ".maxLength")
  if minimum.any fun least => maximum.any (· < least) then
    reject ("elicitation field " ++ name ++ " has invalid bounds")
  else if minLength.any fun least => maxLength.any (· < least) then
    reject ("elicitation field " ++ name ++ " has invalid length")
  else if shape.minItems.any fun least => shape.maxItems.any (· < least) then
    reject ("elicitation field " ++ name ++ " has invalid item bounds")
  else
    let title := dictGet "title" payload
    return {
      name
      valueType := shape.valueType
      required
      title := if title.truthy then title.text python else name
      description :=
        match dictGet "description" payload with
        | .null => none
        | value => some (value.text python)
      enum := shape.enum
      default := dictGet "default" payload
      minimum
      maximum
      minLength
      maxLength
      minItems := shape.minItems
      maxItems := shape.maxItems
      itemEnum := shape.itemEnum }

def parseElicitationField (python : Python) (name : String) (payload : Items) (required : Bool) :
    Except Raised ElicitationField := do
  let field ← uncheckedField python name payload required
  match field.default with
  | .null => return field
  | default =>
    let _ ← validateFieldValue field default
    return field

/-- One round of the loop over the properties. -/
def parseProperty (python : Python) (required : List String) (property : String × Value) :
    Except Raised ElicitationField :=
  if property.1 = "" ∨ 100 < property.1.length then
    reject "elicitation field names must be 1-100 chars"
  else
    match property.2.items with
    | none => reject ("elicitation field " ++ property.1 ++ " must be an object")
    | some payload =>
      parseElicitationField python property.1 payload (decide (property.1 ∈ required))

/-- `parse_elicitation_schema` before the loop: the properties and the required names. -/
def schemaProperties (schema : Value) : Except Raised (Items × List String) := do
  match schema.items with
  | none => reject "elicitation schema must be an object"
  | some root =>
    if ¬ pyEq (dictGet "type" root) (.str "object") then
      reject "elicitation schema root must have type object"
    else if ¬ (dictGet "additionalProperties" root).hashable then .error .typeError
    else if ¬ (pyEq (dictGet "additionalProperties" root) .null ∨
        pyEq (dictGet "additionalProperties" root) (.bool false)) then
      reject "elicitation schema cannot allow unknown fields"
    else
      match (dictGet "properties" root).items with
      | none => reject "elicitation schema properties must be an object"
      | some properties =>
        if maxElicitationFields < properties.length then
          reject "elicitation schema exceeds 25 fields"
        else
          match ((get "required" root).getD (.list [])).strings with
          | none => reject "elicitation schema required must be strings"
          | some required =>
            if required.all fun name => (get name properties).isSome then
              return (properties, required)
            else reject "elicitation schema requires an unknown field"

def parseElicitationSchema (python : Python) (schema : Value) : Except Raised ElicitationForm := do
  let (properties, required) ← schemaProperties schema
  let fields ← properties.mapM (parseProperty python required)
  return { fields }

/-! ## Forms -/

def ElicitationForm.names (form : ElicitationForm) : List String := form.fields.map (·.name)

/-- The loop of `validate`. -/
def validateFields (content : Items) : (validated : Items) → List ElicitationField →
    Except Raised Items
  | validated, [] => .ok validated
  | validated, field :: rest =>
    match get field.name content with
    | none =>
      if field.required then reject ("elicitation field is required: " ++ field.name)
      else validateFields content validated rest
    | some value => do
      let checked ← validateFieldValue field value
      validateFields content (set field.name checked validated) rest

def ElicitationForm.validate (form : ElicitationForm) (content : Items) : Except Raised Items :=
  let unknown := ((content.map Prod.fst).filter (· ∉ form.names)).insertionSort (· ≤ ·)
  if unknown ≠ [] then
    reject ("elicitation response contains unknown fields: " ++ ", ".intercalate unknown)
  else validateFields content [] form.fields

def ofInt : Option Int → Value
  | none => .null
  | some value => .int value

def ofFloat : Option Double → Value
  | none => .null
  | some value => .float value

def ElicitationField.toDict (field : ElicitationField) : Value :=
  .dict [
    ("name", .str field.name),
    ("value_type", .str field.valueType.text),
    ("required", .bool field.required),
    ("title", .str field.title),
    ("description", (field.description.map Value.str).getD .null),
    ("enum", .list field.enum),
    ("default", field.default),
    ("minimum", ofFloat field.minimum),
    ("maximum", ofFloat field.maximum),
    ("min_length", ofInt field.minLength),
    ("max_length", ofInt field.maxLength),
    ("min_items", ofInt field.minItems),
    ("max_items", ofInt field.maxItems),
    ("item_enum", .list (field.itemEnum.map .str))]

def ElicitationForm.toDict (form : ElicitationForm) : Value :=
  .dict [("fields", .list (form.fields.map ElicitationField.toDict))]

/-- `raw[key]` -/
def dictItem (key : String) (raw : Items) : Except Raised Value :=
  match get key raw with
  | none => .error .keyError
  | some value => .ok value

/-- One round of the loop in `from_dict`. -/
def fieldFromDict (python : Python) (raw : Value) : Except Raised ElicitationField := do
  match raw.items with
  | none => reject "invalid persisted elicitation field"
  | some raw =>
    let default :=
      match dictGet "default" raw with
      | .list items => .list (items.map fun item => .str (item.text python))
      | value => value
    let name ← dictItem "name" raw
    let valueType ← dictItem "value_type" raw
    let required ← dictItem "required" raw
    let title ← dictItem "title" raw
    let enum ← ((get "enum" raw).getD (.list [])).iterate
    let minimum ← optionalFloat (dictGet "minimum" raw)
    let maximum ← optionalFloat (dictGet "maximum" raw)
    let minLength ← optionalInt (dictGet "min_length" raw)
    let maxLength ← optionalInt (dictGet "max_length" raw)
    let minItems ← optionalInt (dictGet "min_items" raw)
    let maxItems ← optionalInt (dictGet "max_items" raw)
    let itemEnum ← ((get "item_enum" raw).getD (.list [])).iterate
    return {
      name := name.text python
      valueType := ValueType.ofText (valueType.text python)
      required := required.truthy
      title := title.text python
      description :=
        match dictGet "description" raw with
        | .null => none
        | value => some (value.text python)
      enum
      default
      minimum
      maximum
      minLength
      maxLength
      minItems
      maxItems
      itemEnum := itemEnum.map (Value.text python) }

def ElicitationForm.fromDict (python : Python) (payload : Value) :
    Except Raised ElicitationForm := do
  match payload.items.map (dictGet "fields") with
  | some (.list raws) => return { fields := ← raws.mapM (fieldFromDict python) }
  | _ => reject "invalid persisted elicitation form"

end Copilotd.Source.Core.Elicitation
