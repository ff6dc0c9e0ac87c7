import Copilotd.Base.Checked
import Copilotd.Source.Core.Elicitation

/-!
# Elicitation forms

When the handling of a schema and a content raises nothing but validation errors
(`Contained`), and when what it accepts meets the form.  Every function is contained but
for two places: `in` hashes a value that may be a list or a dictionary, and `float` is
applied to integers of any size.  What `validate` returns meets the form but for the
membership test of `enum`, which takes `True` for 1.  A form comes back unchanged from its
dictionary.
-/
namespace Copilotd.Guarantees.ElicitationForms

open Base.Dict
open Base.Encodings (bind_ok)
open Source.Core.Elicitation

/-! ## The law -/

/-- Nothing but a validation error is raised. -/
def Contained {α : Type} (result : Except Raised α) : Prop :=
  ∀ raised, result = .error raised → ∃ message, raised = .validation message

/-- Equality of JSON values, one of which is no list and no object. -/
def jsonEq (left right : Value) : Bool :=
  match left, right with
  | .bool x, .bool y => x = y
  | .bool _, _ | _, .bool _ => false
  | _, _ => pyEq left right

/-- The value has the type of the field, within the bounds on lengths and items. -/
def Typed (field : ElicitationField) (value : Value) : Prop :=
  match field.valueType with
  | .string => ∃ text : String, value = .str text ∧
      (∀ least ∈ field.minLength, least ≤ text.length) ∧ ∀ most ∈ field.maxLength,
        text.length ≤ most
  | .number => (∃ number, value = .int number) ∨ ∃ number, value = .float number
  | .integer => ∃ number, value = .int number
  | .boolean => ∃ truth, value = .bool truth
  | .array | .unknown _ => ∃ texts : List String, value = .list (texts.map .str) ∧
      (∀ least ∈ field.minItems, least ≤ texts.length) ∧
      (∀ most ∈ field.maxItems, texts.length ≤ most) ∧
      (field.itemEnum ≠ [] → ∀ text ∈ texts, text ∈ field.itemEnum)

/-- The value is one of the field's, if these are listed. -/
def Listed (field : ElicitationField) (value : Value) : Prop :=
  field.enum ≠ [] → ∃ member ∈ field.enum, jsonEq value member = true

/-- The result has every required field, and every field it has meets its constraints. -/
def Meets (form : ElicitationForm) (result : Items) : Prop :=
  ∀ field ∈ form.fields, (field.required = true → (get field.name result).isSome) ∧
    ∀ value ∈ get field.name result, Typed field value ∧ Listed field value

/-- The dictionary of the form is that of a form that accepts the same contents. -/
def Restores (python : Python) (form : ElicitationForm) : Prop :=
  ∃ restored, ElicitationForm.fromDict python form.toDict = .ok restored ∧
    ∀ content, (∃ result, restored.validate content = .ok result) ↔
      ∃ result, form.validate content = .ok result

/-- The handling of a schema and a content is total and sound. -/
structure Handles (python : Python) (schema : Value) (content : Items) : Prop where
  parses : Contained (parseElicitationSchema python schema)
  validates : ∀ form, parseElicitationSchema python schema = .ok form →
    Contained (form.validate content) ∧
    (∀ result, form.validate content = .ok result → Meets form result) ∧ Restores python form

/-! ## The condition -/

/-- `float` raises. -/
def Overflows (value : Value) : Prop := ∃ number, value = .int number ∧ floatOfInt number = none

def Numeric (valueType : ValueType) : Prop := valueType = .number ∨ valueType = .integer

/-- Every element that is reached is safe; one that is not accepted is the last. -/
def Reached {α : Type} (accepted safe : α → Prop) : List α → Prop
  | [] => True
  | first :: rest => safe first ∧ (accepted first → Reached accepted safe rest)

/-- A field of a schema whose type can be hashed, and whose bounds and default, where they are
reached, are no integers beyond the floats. -/
structure FieldSafe (python : Python) (name : String) (payload : Items) (required : Bool) :
    Prop where
  valueType : (dictGet "type" payload).hashable = true
  minimum : ∀ shape, fieldShape python name payload = .ok shape →
    ¬ Overflows (dictGet "minimum" payload)
  maximum : ∀ shape least, fieldShape python name payload = .ok shape →
    optionalFloat (dictGet "minimum" payload) = .ok least → ¬ Overflows (dictGet "maximum" payload)
  default : ∀ field, uncheckedField python name payload required = .ok field →
    Numeric field.valueType → ¬ Overflows field.default

structure SchemaSafe (python : Python) (schema : Value) : Prop where
  additional :
    ∀ root, schema.items = some root → pyEq (dictGet "type" root) (.str "object") = true →
    (dictGet "additionalProperties" root).hashable = true
  fields : ∀ properties required, schemaProperties schema = .ok (properties, required) →
    Reached (fun property => ∃ field, parseProperty python required property = .ok field)
      (fun property => property.1 ≠ "" → property.1.length ≤ 100 → ∀ payload,
        property.2.items = some payload →
          FieldSafe python property.1 payload (decide (property.1 ∈ required)))
      properties

/-- The content has the field and its value passes, or the field is not required. -/
def Passes (content : Items) (field : ElicitationField) : Prop :=
  match get field.name content with
  | none => field.required = false
  | some value => ∃ checked, validateFieldValue field value = .ok checked

/-- The value is in the `enum` only as a boolean for a number, or as a number for a boolean. -/
def Crosses (field : ElicitationField) (value : Value) : Prop :=
  field.enum.any (pyEq value) = true ∧ field.enum.any (jsonEq value) = false

/-- No number that is reached is an integer beyond the floats, and no content passes by taking a
boolean for a number or a number for a boolean of an `enum`. -/
structure ContentSafe (form : ElicitationForm) (content : Items) : Prop where
  numbers : (∀ key ∈ content.map Prod.fst, key ∈ form.names) →
    Reached (Passes content) (fun field => ∀ value ∈ get field.name content,
      Numeric field.valueType → ¬ Overflows value) form.fields
  enums : (∀ key ∈ content.map Prod.fst, key ∈ form.names) →
    (∀ field ∈ form.fields, Passes content field) →
    ∀ field ∈ form.fields, ∀ value ∈ get field.name content, ¬ Crosses field value

/-! ## Containment -/

section Contained

variable {α β : Type}

theorem contained_ok (value : α) : Contained (.ok value : Except Raised α) :=
  fun _ error => by cases error

theorem contained_reject (message : String) : Contained (reject message : Except Raised α) := by
  intro raised error
  cases error
  exact ⟨message, rfl⟩

theorem not_contained_typeError : ¬ Contained (.error .typeError : Except Raised α) := by
  intro contained
  obtain ⟨message, same⟩ := contained _ rfl
  cases same

theorem not_contained_overflowError : ¬ Contained (.error .overflowError : Except Raised α) := by
  intro contained
  obtain ⟨message, same⟩ := contained _ rfl
  cases same

theorem contained_bind_iff {first : Except Raised α} {next : α → Except Raised β} :
    Contained (first >>= next) ↔
      Contained first ∧ ∀ value, first = .ok value → Contained (next value) := by
  cases first with
  | error raised =>
    constructor
    · intro contained
      refine ⟨?_, fun value ok => by cases ok⟩
      rintro _ ⟨⟩
      exact contained raised rfl
    · rintro ⟨contained, -⟩ _ ⟨⟩
      exact contained raised rfl
  | ok value =>
    constructor
    · intro contained
      refine ⟨contained_ok value, ?_⟩
      rintro _ ⟨⟩
      exact contained
    · exact fun both => both.2 value rfl

theorem contained_map_iff {result : Except Raised α} {f : α → β} :
    Contained (result.map f) ↔ Contained result := by
  cases result with
  | error raised =>
    refine ⟨fun contained => ?_, fun contained => ?_⟩
    · rintro _ ⟨⟩
      exact contained raised rfl
    · rintro _ ⟨⟩
      exact contained raised rfl
  | ok value => exact ⟨fun _ => contained_ok _, fun _ => contained_ok _⟩

theorem contained_ite {condition : Prop} [Decidable condition] {message : String}
    {next : Except Raised α} :
    Contained (if condition then reject message else next) ↔ (¬ condition → Contained next) := by
  by_cases holds : condition
  · simp [holds, contained_reject]
  · simp [holds]

theorem contained_mapM_iff {f : α → Except Raised β} {items : List α} :
    Contained (items.mapM f) ↔
      Reached (fun item => ∃ value, f item = .ok value) (fun item => Contained (f item)) items := by
  induction items with
  | nil => simp [Reached, pure, Except.pure, contained_ok]
  | cons item rest ih =>
    rw [List.mapM_cons, contained_bind_iff, Reached, ← ih]
    refine and_congr_right fun _ => ?_
    have tail (value : β) : Contained (do let values ← rest.mapM f; pure (value :: values)) ↔
        Contained (rest.mapM f) := by
      rw [contained_bind_iff]
      exact and_iff_left fun _ _ => contained_ok _
    constructor
    · rintro all ⟨value, ok⟩
      exact (tail value).mp (all value ok)
    · intro contained value ok
      exact (tail value).mpr (contained ⟨value, ok⟩)

theorem Reached.congr {accepted safe also : α → Prop} (same : ∀ item, safe item ↔ also item)
    (items : List α) : Reached accepted safe items ↔ Reached accepted also items := by
  induction items with
  | nil => exact Iff.rfl
  | cons item rest ih => exact and_congr (same item) (imp_congr_right fun _ => ih)

end Contained

/-! ### Fields -/

theorem optionalInt_contained (value : Value) : Contained (optionalInt value) := by
  unfold optionalInt
  split
  · exact contained_ok _
  · exact contained_ok _
  · exact contained_reject _

theorem nonnegativeInt_contained (value : Value) (name : String) :
    Contained (nonnegativeInt value name) := by
  refine contained_bind_iff.mpr ⟨optionalInt_contained value, fun parsed _ => ?_⟩
  exact contained_ite.mpr fun _ => contained_ok _

theorem primitiveEnum_contained (value : Value) (name : String) :
    Contained (primitiveEnum value name) := by
  unfold primitiveEnum
  split
  · exact contained_ok _
  · split
    · exact contained_ok _
    · exact contained_reject _
  · exact contained_reject _

theorem toFloat_contained_iff (number : Int) :
    Contained (toFloat number) ↔ floatOfInt number ≠ none := by
  unfold toFloat
  cases floatOfInt number with
  | none => simp [not_contained_overflowError]
  | some value => simp [contained_ok]

theorem optionalFloat_contained_iff (value : Value) :
    Contained (optionalFloat value) ↔ ¬ Overflows value := by
  cases value with
  | int number =>
    rw [optionalFloat, contained_map_iff, toFloat_contained_iff]
    simp [Overflows]
  | null | float => simp [optionalFloat, contained_ok, Overflows]
  | bool | str | list | dict => simp [optionalFloat, contained_reject, Overflows]

theorem fieldType_contained_iff (python : Python) (name : String) (value : Value) :
    Contained (fieldType python name value) ↔ value.hashable = true := by
  unfold fieldType
  cases value with
  | str text =>
    dsimp only
    refine ⟨fun _ => rfl, fun _ => ?_⟩
    split
    · exact contained_reject _
    · exact contained_ok _
  | list | dict => simp [not_contained_typeError, Value.hashable]
  | null | bool | int | float => simp [contained_reject, Value.hashable]

theorem arrayItems_contained (name : String) (payload : Items) (maxItems : Option Int) :
    Contained (arrayItems name payload maxItems) := by
  unfold arrayItems
  split
  · exact contained_reject _
  · refine contained_ite.mpr fun _ => contained_ite.mpr fun _ => contained_bind_iff.mpr ⟨?_, ?_⟩
    · unfold itemEnumOf
      split
      · exact contained_ok _
      · split
        · exact contained_reject _
        · exact contained_ok _
    · exact fun _ _ => contained_ite.mpr fun _ => contained_ok _

theorem fieldShape_contained_iff (python : Python) (name : String) (payload : Items) :
    Contained (fieldShape python name payload) ↔ (dictGet "type" payload).hashable = true := by
  unfold fieldShape
  rw [contained_bind_iff, fieldType_contained_iff]
  refine and_iff_left fun valueType _ => ?_
  refine contained_bind_iff.mpr ⟨primitiveEnum_contained _ _, fun _ _ => ?_⟩
  refine contained_bind_iff.mpr ⟨nonnegativeInt_contained _ _, fun _ _ => ?_⟩
  refine contained_bind_iff.mpr ⟨nonnegativeInt_contained _ _, fun _ _ => ?_⟩
  split
  · exact contained_bind_iff.mpr ⟨arrayItems_contained _ _ _, fun _ _ => contained_ok _⟩
  · exact contained_ite.mpr fun _ => contained_ok _

theorem uncheckedField_contained_iff (python : Python) (name : String) (payload : Items)
    (required : Bool) :
    Contained (uncheckedField python name payload required) ↔
      (dictGet "type" payload).hashable = true ∧ ∀ shape,
        fieldShape python name payload = .ok shape →
        ¬ Overflows (dictGet "minimum" payload) ∧ ∀ least,
          optionalFloat (dictGet "minimum" payload) = .ok least →
            ¬ Overflows (dictGet "maximum" payload) := by
  unfold uncheckedField
  rw [contained_bind_iff, fieldShape_contained_iff]
  refine and_congr_right fun _ => forall_congr' fun shape => imp_congr_right fun _ => ?_
  rw [contained_bind_iff, optionalFloat_contained_iff]
  refine and_congr_right fun _ => forall_congr' fun least => imp_congr_right fun _ => ?_
  rw [contained_bind_iff, optionalFloat_contained_iff]
  refine and_iff_left fun most _ => ?_
  refine contained_bind_iff.mpr ⟨nonnegativeInt_contained _ _, fun _ _ => ?_⟩
  refine contained_bind_iff.mpr ⟨nonnegativeInt_contained _ _, fun _ _ => ?_⟩
  exact contained_ite.mpr fun _ => contained_ite.mpr fun _ => contained_ite.mpr fun _ =>
    contained_ok _

theorem typedValue_contained_iff (field : ElicitationField) (value : Value) :
    Contained (typedValue field value) ↔ (Numeric field.valueType → ¬ Overflows value) := by
  have bounded (numeric : Double) : Contained (boundedValue field value numeric) :=
    contained_ite.mpr fun _ => contained_ite.mpr fun _ => contained_ok _
  by_cases numeric : Numeric field.valueType
  · unfold typedValue
    cases value with
    | int number =>
      have number_ : Contained (toFloat number >>= boundedValue field (.int number)) ↔
          (Numeric field.valueType → ¬ Overflows (.int number)) := by
        rw [contained_bind_iff, toFloat_contained_iff,
          and_iff_left fun numeric _ => bounded numeric]
        simp [Overflows, numeric]
      rcases numeric with valueType | valueType
      · simp only [valueType] at number_ ⊢
        exact number_
      · simp only [valueType] at number_ ⊢
        exact number_
    | float double =>
      refine ⟨fun _ _ => by simp [Overflows], fun _ => ?_⟩
      rcases numeric with valueType | valueType
      · simp only [valueType]
        exact bounded double
      · simp only [valueType]
        exact contained_reject _
    | null | bool | str | list | dict =>
      refine ⟨fun _ _ => by simp [Overflows], fun _ => ?_⟩
      rcases numeric with valueType | valueType
      · simp only [valueType]
        exact contained_reject _
      · simp only [valueType]
        exact contained_reject _
  · refine ⟨fun _ number => absurd number numeric, fun _ => ?_⟩
    unfold typedValue
    split
    · split
      · exact contained_ite.mpr fun _ => contained_ite.mpr fun _ => contained_ok _
      · exact contained_reject _
    · next valueType => exact absurd (.inl valueType) numeric
    · next valueType => exact absurd (.inr valueType) numeric
    · split
      · exact contained_ok _
      · exact contained_reject _
    all_goals
      split
      · exact contained_reject _
      · exact contained_ite.mpr fun _ => contained_ite.mpr fun _ => contained_ite.mpr fun _ =>
          contained_ok _

theorem validateFieldValue_contained_iff (field : ElicitationField) (value : Value) :
    Contained (validateFieldValue field value) ↔ (Numeric field.valueType → ¬ Overflows value) := by
  unfold validateFieldValue
  rw [contained_bind_iff, typedValue_contained_iff]
  exact and_iff_left fun _ _ => contained_ite.mpr fun _ => contained_ok _

theorem parseElicitationField_contained_iff (python : Python) (name : String) (payload : Items)
    (required : Bool) :
    Contained (parseElicitationField python name payload required) ↔
      FieldSafe python name payload required := by
  unfold parseElicitationField
  rw [contained_bind_iff, uncheckedField_contained_iff]
  refine (and_congr_right fun _ => forall_congr' fun field => imp_congr_right fun _ =>
    (?_ : _ ↔ (Numeric field.valueType → ¬ Overflows field.default))).trans ?_
  · split
    · next null =>
      rw [null]
      simp [contained_ok, pure, Except.pure, Overflows]
    · rw [contained_bind_iff, validateFieldValue_contained_iff]
      exact and_iff_left fun _ _ => contained_ok _
  constructor
  · rintro ⟨⟨valueType, bounds⟩, default⟩
    exact ⟨valueType, fun shape is => (bounds shape is).1,
      fun shape least is number => (bounds shape is).2 least number, default⟩
  · intro safe
    exact ⟨⟨safe.valueType, fun shape is =>
      ⟨safe.minimum shape is, fun least number => safe.maximum shape least is number⟩⟩,
        safe.default⟩

/-! ### Schemas and contents -/

theorem schemaProperties_contained_iff (schema : Value) :
    Contained (schemaProperties schema) ↔
      ∀ root, schema.items = some root → pyEq (dictGet "type" root) (.str "object") = true →
        (dictGet "additionalProperties" root).hashable = true := by
  unfold schemaProperties
  split
  · next none_ => simp [none_, contained_reject]
  · next root is =>
    simp only [is, Option.some.injEq, forall_eq', contained_ite, not_not]
    refine imp_congr_right fun _ => ?_
    cases (dictGet "additionalProperties" root).hashable with
    | false => simp [not_contained_typeError]
    | true =>
      simp only [not_true_eq_false, if_false, iff_true, contained_ite]
      intro _
      split
      · exact contained_reject _
      · refine contained_ite.mpr fun _ => ?_
        split
        · exact contained_reject _
        · split
          · exact contained_ok _
          · exact contained_reject _

theorem parse_contained_iff (python : Python) (schema : Value) :
    Contained (parseElicitationSchema python schema) ↔ SchemaSafe python schema := by
  have property (required : List String) (entry : String × Value) :
      Contained (parseProperty python required entry) ↔
        (entry.1 ≠ "" → entry.1.length ≤ 100 → ∀ payload, entry.2.items = some payload →
          FieldSafe python entry.1 payload (decide (entry.1 ∈ required))) := by
    unfold parseProperty
    rw [contained_ite, not_or, and_imp, not_lt]
    refine imp_congr_right fun _ => imp_congr_right fun _ => ?_
    cases entry.2.items with
    | none => simp [contained_reject]
    | some payload => simp [parseElicitationField_contained_iff]
  unfold parseElicitationSchema
  rw [contained_bind_iff, schemaProperties_contained_iff]
  constructor
  · rintro ⟨additional, fields⟩
    refine ⟨additional, fun properties required is => ?_⟩
    have loop := (contained_bind_iff.mp (fields (properties, required) is)).1
    rw [contained_mapM_iff] at loop
    exact (Reached.congr (property required) properties).mp loop
  · rintro ⟨additional, fields⟩
    refine ⟨additional, fun entry is => contained_bind_iff.mpr ⟨?_, fun _ _ => contained_ok _⟩⟩
    rw [contained_mapM_iff]
    exact (Reached.congr (property entry.2) entry.1).mpr (fields entry.1 entry.2 is)

theorem validateFields_contained_iff (content validated : Items) (fields : List ElicitationField) :
    Contained (validateFields content validated fields) ↔
      Reached (Passes content) (fun field => ∀ value ∈ get field.name content,
        Numeric field.valueType → ¬ Overflows value) fields := by
  induction fields generalizing validated with
  | nil => simp [validateFields, Reached, contained_ok]
  | cons field rest ih =>
    have passes : Passes content field ↔ match get field.name content with
        | none => field.required = false
        | some value => ∃ checked, validateFieldValue field value = .ok checked := Iff.rfl
    rw [validateFields, Reached, passes]
    cases get field.name content with
    | none =>
      rw [contained_ite, ih]
      simp
    | some value =>
      rw [contained_bind_iff, validateFieldValue_contained_iff]
      simp only [ih]
      refine and_congr ?_ ?_
      · simp
      · exact
          ⟨fun later ⟨checked, ok⟩ => later checked ok, fun later checked ok => later ⟨checked, ok⟩⟩

theorem known_iff (form : ElicitationForm) (content : Items) :
    ((content.map Prod.fst).filter (· ∉ form.names)).insertionSort (· ≤ ·) = [] ↔
      ∀ key ∈ content.map Prod.fst, key ∈ form.names := by
  rw [← List.length_eq_zero_iff, List.length_insertionSort, List.length_eq_zero_iff,
    List.filter_eq_nil_iff]
  simp

theorem validate_contained_iff (form : ElicitationForm) (content : Items) :
    Contained (form.validate content) ↔
      ((∀ key ∈ content.map Prod.fst, key ∈ form.names) → Reached (Passes content)
        (fun field => ∀ value ∈ get field.name content, Numeric field.valueType → ¬ Overflows value)
        form.fields) := by
  unfold ElicitationForm.validate
  rw [contained_ite, not_not, known_iff, validateFields_contained_iff]

/-! ## Soundness -/

theorem ite_eq_ok {α : Type} {condition : Prop} [Decidable condition] {message : String}
    {next : Except Raised α} {result : α} :
    (if condition then reject message else next) = .ok result ↔
      ¬ condition ∧ next = .ok result := by
  by_cases holds : condition
  · simp [holds, reject]
  · simp [holds]

variable {value : Value}

theorem strings_eq_some {texts : List String} (is : value.strings = some texts) :
    value = .list (texts.map .str) := by
  cases value with
  | list items =>
    congr 1
    change items.mapM _ = some texts at is
    induction items generalizing texts with
    | nil =>
      cases is
      rfl
    | cons item rest ih =>
      rw [List.mapM_cons] at is
      obtain ⟨text, head, more⟩ := Option.bind_eq_some_iff.mp is
      obtain ⟨tail, others, same⟩ := Option.bind_eq_some_iff.mp more
      cases same
      split at head
      · cases head
        rw [List.map_cons, ← ih others]
      · cases head
  | null | bool | int | float | str | dict => cases is

variable {count : Int} {bound : Option Int}

theorem not_any_lt :
    ¬ bound.any (fun least => count < least) ↔ ∀ least ∈ bound, least ≤ count := by
  cases bound <;> simp

theorem not_any_gt :
    ¬ bound.any (fun most => most < count) ↔ ∀ most ∈ bound, count ≤ most := by
  cases bound <;> simp

variable {field : ElicitationField} {checked : Value}

theorem boundedValue_ok {numeric : Double} (done : boundedValue field value numeric = .ok checked) :
    checked = value := by
  unfold boundedValue at done
  rw [ite_eq_ok, ite_eq_ok] at done
  cases done.2.2
  rfl

theorem typedValue_ok (done : typedValue field value = .ok checked) :
    checked = value ∧ Typed field value := by
  unfold typedValue at done
  unfold Typed
  cases valueType : field.valueType with
  | string =>
    simp only [valueType] at done
    split at done
    · next text =>
      rw [ite_eq_ok, ite_eq_ok, not_any_lt, not_any_gt] at done
      cases done.2.2
      exact ⟨rfl, text, rfl, done.1, done.2.1⟩
    · cases done
  | number =>
    simp only [valueType] at done
    split at done
    · next number =>
      obtain ⟨numeric, -, done⟩ := bind_ok.mp done
      exact ⟨boundedValue_ok done, .inl ⟨number, rfl⟩⟩
    · next numeric => exact ⟨boundedValue_ok done, .inr ⟨numeric, rfl⟩⟩
    · cases done
  | integer =>
    simp only [valueType] at done
    split at done
    · next number =>
      obtain ⟨numeric, -, done⟩ := bind_ok.mp done
      exact ⟨boundedValue_ok done, number, rfl⟩
    · cases done
    · cases done
  | boolean =>
    simp only [valueType] at done
    split at done
    · next truth =>
      cases done
      exact ⟨rfl, truth, rfl⟩
    · cases done
  | array | unknown =>
    simp only [valueType] at done
    split at done
    · cases done
    · next texts is =>
      rw [ite_eq_ok, ite_eq_ok, ite_eq_ok, not_any_lt, not_any_gt] at done
      obtain ⟨fewest, most, items, done⟩ := done
      cases done
      refine ⟨rfl, texts, strings_eq_some is, fewest, most, fun listed => ?_⟩
      simpa [listed] using items

theorem validateFieldValue_ok (done : validateFieldValue field value = .ok checked) :
    checked = value ∧ Typed field value ∧
      (field.enum ≠ [] → field.enum.any (pyEq value) = true) := by
  obtain ⟨typed, isTyped, done⟩ := bind_ok.mp done
  rw [ite_eq_ok] at done
  obtain ⟨member, done⟩ := done
  cases done
  obtain ⟨rfl, typed_⟩ := typedValue_ok isTyped
  refine ⟨rfl, typed_, fun listed => ?_⟩
  by_contra missing
  exact member ⟨listed, missing⟩

theorem listed_iff (done : validateFieldValue field value = .ok checked) :
    Listed field value ↔ ¬ Crosses field value := by
  have member := (validateFieldValue_ok done).2.2
  unfold Listed Crosses
  rw [not_and, Bool.not_eq_false, List.any_eq_true (p := jsonEq value)]
  constructor
  · intro listed found
    refine listed fun empty => ?_
    rw [empty] at found
    cases found
  · exact fun crosses listed => crosses (member listed)

theorem validateFields_ok_iff (content validated : Items) (fields : List ElicitationField) :
    (∃ result, validateFields content validated fields = .ok result) ↔
      ∀ field ∈ fields, Passes content field := by
  induction fields generalizing validated with
  | nil => simp [validateFields]
  | cons field rest ih =>
    have passes : Passes content field ↔ match get field.name content with
        | none => field.required = false
        | some value => ∃ checked, validateFieldValue field value = .ok checked := Iff.rfl
    rw [validateFields, List.forall_mem_cons, passes]
    cases get field.name content with
    | none =>
      simp only [ite_eq_ok, exists_and_left, ih, Bool.not_eq_true]
    | some value =>
      simp only [bind_ok]
      constructor
      · rintro ⟨result, checked, ok, done⟩
        exact ⟨⟨checked, ok⟩, (ih _).mp ⟨result, done⟩⟩
      · rintro ⟨⟨checked, ok⟩, all⟩
        obtain ⟨result, done⟩ := (ih (set field.name checked validated)).mpr all
        exact ⟨result, checked, ok, done⟩

variable {fields : List ElicitationField}

theorem validateFields_get {content validated result : Items}
    (done : validateFields content validated fields = .ok result) (name : String) :
    get name result =
      if name ∈ fields.map (·.name) then (get name content).or (get name validated)
      else get name validated := by
  induction fields generalizing validated with
  | nil =>
    cases done
    simp
  | cons field rest ih =>
    unfold validateFields at done
    cases found : get field.name content with
    | none =>
      rw [found] at done
      rw [ih (ite_eq_ok.mp done).2]
      by_cases own : name = field.name
      · subst own
        simp [found]
      · simp [own]
    | some value =>
      rw [found] at done
      obtain ⟨checked, ok, loop⟩ := bind_ok.mp done
      have same := (validateFieldValue_ok ok).1
      subst same
      rw [ih loop, get_set]
      by_cases own : name = field.name
      · subst own
        simp [found]
      · simp [own]

theorem validate_ok_iff (form : ElicitationForm) (content : Items) :
    (∃ result, form.validate content = .ok result) ↔
      (∀ key ∈ content.map Prod.fst, key ∈ form.names) ∧ ∀ field ∈ form.fields,
        Passes content field := by
  unfold ElicitationForm.validate
  simp only [ite_eq_ok, exists_and_left, validateFields_ok_iff, not_not, known_iff]

theorem validate_meets_iff (form : ElicitationForm) (content : Items) :
    (∀ result, form.validate content = .ok result → Meets form result) ↔
      ((∀ key ∈ content.map Prod.fst, key ∈ form.names) →
        (∀ field ∈ form.fields, Passes content field) →
        ∀ field ∈ form.fields, ∀ value ∈ get field.name content, ¬ Crosses field value) := by
  have values {result : Items} (done : form.validate content = .ok result)
    (field : ElicitationField)
      (member : field ∈ form.fields) : get field.name result = get field.name content := by
    have loop := (ite_eq_ok.mp done).2
    rw [validateFields_get loop, if_pos (List.mem_map_of_mem member)]
    cases get field.name content <;> rfl
  have checked {field : ElicitationField} {value : Value} (pass : Passes content field)
      (found : value ∈ get field.name content) :
      ∃ checked, validateFieldValue field value = .ok checked := by
    unfold Passes at pass
    rw [Option.mem_def.mp found] at pass
    exact pass
  constructor
  · intro meets known passes field member value found
    obtain ⟨result, done⟩ := (validate_ok_iff form content).mpr ⟨known, passes⟩
    obtain ⟨_, ok⟩ := checked (passes field member) found
    rw [← values done field member] at found
    exact (listed_iff ok).mp ((meets result done field member).2 value found).2
  · intro crosses result done field member
    obtain ⟨known, passes⟩ := (validate_ok_iff form content).mp ⟨result, done⟩
    rw [values done field member]
    constructor
    · intro required
      have pass := passes field member
      unfold Passes at pass
      cases found : get field.name content with
      | none =>
        rw [found, required] at pass
        cases pass
      | some value => rfl
    · intro value found
      obtain ⟨_, ok⟩ := checked (passes field member) found
      exact ⟨(validateFieldValue_ok ok).2.1,
        (listed_iff ok).mpr (crosses known passes field member value found)⟩

/-! ## The dictionary of a form -/

/-- A field that its dictionary gives back. -/
structure Restorable (field : ElicitationField) : Prop where
  valueType : ∀ text, field.valueType ≠ .unknown text
  default : ∀ items, field.default = .list items → ∃ texts : List String, items = texts.map .str

variable {valueType : ValueType}

theorem ofText_text (known : ∀ text, valueType ≠ .unknown text) :
    ValueType.ofText valueType.text = valueType := by
  cases valueType with
  | unknown text => exact absurd rfl (known text)
  | string | number | integer | boolean | array => decide

theorem optionalInt_ofInt (value : Option Int) : optionalInt (ofInt value) = .ok value := by
  cases value <;> rfl

theorem optionalFloat_ofFloat (value : Option Double) :
    optionalFloat (ofFloat value) = .ok value := by
  cases value <;> rfl

theorem default_restored (python : Python) (restorable : Restorable field) :
    (match field.default with
      | .list items => .list (items.map fun item => .str (item.text python))
      | value => value) = field.default := by
  split
  · next items is =>
    obtain ⟨texts, rfl⟩ := restorable.default items is
    rw [is, List.map_map]
    rfl
  · rfl

theorem description_restored (python : Python) (description : Option String) :
    (match (description.map Value.str).getD .null with
      | .null => none
      | value => some (value.text python)) = description := by
  cases description <;> rfl

theorem itemEnum_restored (python : Python) (texts : List String) :
    (texts.map .str).map (Value.text python) = texts := by
  rw [List.map_map]
  exact List.map_id texts

theorem fieldFromDict_toDict (python : Python) (restorable : Restorable field) :
    fieldFromDict python field.toDict = .ok field := by
  have text (text : String) : (Value.str text).text python = text := rfl
  unfold fieldFromDict ElicitationField.toDict
  rw [Value.items, update_of_fresh (by simp [UniqueKeys]), List.nil_append]
  simp [dictGet, dictItem, get_cons, Value.iterate, optionalFloat_ofFloat, optionalInt_ofInt, text,
    ofText_text restorable.valueType, Value.truthy, itemEnum_restored, -List.map_map]
  cases field
  congr
  · exact description_restored python _
  · exact default_restored python restorable

theorem fields_restored (python : Python) (restorable : ∀ field ∈ fields, Restorable field) :
    (fields.map ElicitationField.toDict).mapM (fieldFromDict python) = .ok fields := by
  induction fields with
  | nil => rfl
  | cons field rest ih =>
    rw [List.forall_mem_cons] at restorable
    rw [List.map_cons, List.mapM_cons, fieldFromDict_toDict python restorable.1, ih restorable.2]
    rfl

variable {form : ElicitationForm}

theorem fromDict_toDict (python : Python) (restorable : ∀ field ∈ form.fields, Restorable field) :
    ElicitationForm.fromDict python form.toDict = .ok form := by
  unfold ElicitationForm.fromDict ElicitationForm.toDict
  rw [Value.items, update_of_fresh (by simp [UniqueKeys]), List.nil_append]
  simp only [Option.map_some, dictGet, get_cons, if_true, Option.getD_some]
  rw [fields_restored python restorable]
  rfl

variable {name : String} {python : Python}

theorem fieldType_known (done : fieldType python name value = .ok valueType) (text : String) :
    valueType ≠ .unknown text := by
  unfold fieldType at done
  split at done
  · split at done
    · cases done
    · next known =>
      cases done
      exact known text
  · cases done
  · cases done
  · cases done

variable {payload : Items}

theorem fieldShape_known {shape : FieldShape} (done : fieldShape python name payload = .ok shape)
    (text : String) :
    shape.valueType ≠ .unknown text := by
  obtain ⟨valueType, is, done⟩ := bind_ok.mp done
  obtain ⟨_, -, done⟩ := bind_ok.mp done
  obtain ⟨_, -, done⟩ := bind_ok.mp done
  obtain ⟨_, -, done⟩ := bind_ok.mp done
  have known := fieldType_known is text
  split at done
  · obtain ⟨_, -, done⟩ := bind_ok.mp done
    cases done
    exact known
  · cases (ite_eq_ok.mp done).2
    exact known

variable {required : Bool}

theorem uncheckedField_known (done : uncheckedField python name payload required = .ok field)
    (text : String) : field.valueType ≠ .unknown text := by
  obtain ⟨shape, is, done⟩ := bind_ok.mp done
  obtain ⟨_, -, done⟩ := bind_ok.mp done
  obtain ⟨_, -, done⟩ := bind_ok.mp done
  obtain ⟨_, -, done⟩ := bind_ok.mp done
  obtain ⟨_, -, done⟩ := bind_ok.mp done
  rw [ite_eq_ok, ite_eq_ok, ite_eq_ok] at done
  cases done.2.2.2
  exact fieldShape_known is text

theorem texts_of_typed {field : ElicitationField} {items : List Value}
    (typed : Typed field (.list items)) : ∃ texts : List String, items = texts.map .str := by
  unfold Typed at typed
  split at typed
  · obtain ⟨_, impossible, -⟩ := typed
    cases impossible
  · rcases typed with ⟨_, impossible⟩ | ⟨_, impossible⟩
    · cases impossible
    · cases impossible
  · obtain ⟨_, impossible⟩ := typed
    cases impossible
  · obtain ⟨_, impossible⟩ := typed
    cases impossible
  all_goals
    obtain ⟨texts, same, -⟩ := typed
    cases same
    exact ⟨texts, rfl⟩

theorem parseElicitationField_restorable
    (done : parseElicitationField python name payload required = .ok field) : Restorable field := by
  obtain ⟨unchecked, is, done⟩ := bind_ok.mp done
  have known := uncheckedField_known is
  split at done
  · next null =>
    cases done
    exact ⟨known, fun items list => by rw [null] at list; cases list⟩
  · obtain ⟨_, ok, done⟩ := bind_ok.mp done
    cases done
    refine ⟨known, fun items list => @texts_of_typed field items ?_⟩
    rw [← list]
    exact (validateFieldValue_ok ok).2.1

theorem parseProperty_restorable {required : List String} {property : String × Value}
    (done : parseProperty python required property = .ok field) : Restorable field := by
  unfold parseProperty at done
  rw [ite_eq_ok] at done
  obtain ⟨-, done⟩ := done
  split at done
  · cases done
  · exact parseElicitationField_restorable done

theorem properties_restorable {required : List String} {properties : Items}
    (done : properties.mapM (parseProperty python required) = .ok fields) :
    ∀ field ∈ fields, Restorable field := by
  induction properties generalizing fields with
  | nil =>
    cases done
    exact List.forall_mem_nil _
  | cons property rest ih =>
    rw [List.mapM_cons, bind_ok] at done
    obtain ⟨field, first, done⟩ := done
    obtain ⟨others, more, done⟩ := bind_ok.mp done
    cases done
    exact List.forall_mem_cons.mpr ⟨parseProperty_restorable first, ih more⟩

theorem parse_restores {schema : Value} (done : parseElicitationSchema python schema = .ok form) :
    Restores python form := by
  obtain ⟨_, -, done⟩ := bind_ok.mp done
  obtain ⟨fields, loop, done⟩ := bind_ok.mp done
  cases done
  exact ⟨_, fromDict_toDict python (properties_restorable loop), fun _ => Iff.rfl⟩

/-! ## The handling -/

/-- The handling of a schema and a content is total and sound unless a branch is reached that
hashes a list or a dictionary or makes a float of an integer beyond the floats, or an accepted
value crosses. -/
theorem elicitation_handled_iff (python : Python) (schema : Value) (content : Items) :
    Handles python schema content ↔ SchemaSafe python schema ∧
      ∀ form, parseElicitationSchema python schema = .ok form → ContentSafe form content := by
  constructor
  · rintro ⟨parses, validates⟩
    refine ⟨(parse_contained_iff python schema).mp parses, fun form done => ?_⟩
    obtain ⟨contained, meets, -⟩ := validates form done
    exact ⟨(validate_contained_iff form content).mp contained,
      (validate_meets_iff form content).mp meets⟩
  · rintro ⟨schemaSafe, contentSafe⟩
    refine ⟨(parse_contained_iff python schema).mpr schemaSafe, fun form done => ?_⟩
    obtain ⟨numbers, enums⟩ := contentSafe form done
    exact ⟨(validate_contained_iff form content).mpr numbers,
      (validate_meets_iff form content).mpr enums, parse_restores done⟩

/-- `{"type": "object", "additionalProperties": {}, "properties": {}}` raises `TypeError`. -/
theorem elicitation_raises_typeError :
    ¬ ∀ python schema content, Handles python schema content := by
  intro all
  have parses := (all ⟨fun _ => "", fun _ => ""⟩ (.dict [("type", .str "object"),
    ("additionalProperties", .dict []), ("properties", .dict [])]) []).parses
  obtain ⟨message, same⟩ := parses .typeError rfl
  cases same

end Copilotd.Guarantees.ElicitationForms
