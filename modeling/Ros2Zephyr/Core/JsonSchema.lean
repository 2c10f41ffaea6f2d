import Mathlib.Data.Set.List
import Ros2Zephyr.Core.Json
import Ros2Zephyr.Core.Pattern

/-!
# JSON Schema

A schema is what it accepts.  Each keyword is a schema of its own, which accepts every value it
does not apply to, as the specification has it; a schema object is the conjunction of its keywords.

* The keywords are those of a format description with closed objects: `type`, `const`, `enum`,
  `pattern`, `minimum`, `maximum`, `minItems`, `uniqueItems`, `items`, `required`, `properties` with
  `additionalProperties`, `minProperties`.
* `pattern` is a search, so only anchored patterns are represented.
* `closedObject_iff` — an object with nothing but its properties, all of them required.
-/

abbrev JsonSchema := Json → Bool

inductive JsonType
  | object
  | array
  | string
  | integer
  | boolean
  deriving DecidableEq

namespace JsonSchema

/-- The conjunction of keywords. -/
def all (keywords : List JsonSchema) : JsonSchema := fun value => List.all keywords (· value)

/-- A number with an integral value is an integer, however it is written. -/
def type : JsonType → JsonSchema
  | .object, .obj _ => true
  | .array, .arr _ => true
  | .string, .str _ => true
  | .integer, .int _ => true
  | .integer, .float (.finite q) => q.den == 1
  | .boolean, .bool _ => true
  | _, _ => false

/-- A stricter reading of `"type": "integer"`: `1.0` is not one. -/
def integerLiteral : JsonSchema
  | .int _ => true
  | _ => false

def const (expected : Json) : JsonSchema := Json.equal expected

def enum (options : List Json) : JsonSchema := fun value => options.any (Json.equal · value)

def pattern (p : Pattern ℕ) : JsonSchema
  | .str s => p.fullmatch s
  | _ => true

def minimum (bound : ℤ) : JsonSchema
  | .int n => decide (bound ≤ n)
  | .float (.finite q) => decide ((bound : ℚ) ≤ q)
  | _ => true

def maximum (bound : ℤ) : JsonSchema
  | .int n => decide (n ≤ bound)
  | .float (.finite q) => decide (q ≤ (bound : ℚ))
  | _ => true

def minItems (n : ℕ) : JsonSchema
  | .arr items => decide (n ≤ items.length)
  | _ => true

def uniqueItems : JsonSchema
  | .arr items => decide (items.Pairwise fun a b => Json.equal a b = false)
  | _ => true

def items (item : JsonSchema) : JsonSchema
  | .arr items => items.all item
  | _ => true

def required (names : List PyStr) : JsonSchema
  | .obj fields => names.all fun name => (Fields.member fields name).isSome
  | _ => true

/-- `properties` and `additionalProperties`, which looks at the members that are not among the
properties. -/
def properties (props : List (PyStr × JsonSchema)) (additional : JsonSchema) : JsonSchema
  | .obj fields =>
      (props.all fun p =>
        match Fields.member fields p.1 with
        | some value => p.2 value
        | none => true) &&
      fields.all fun f => decide (f.1 ∈ props.map Prod.fst) || additional f.2
  | _ => true

/-- `"additionalProperties": false`. -/
def noAdditional : JsonSchema := fun _ => false

def minProperties (n : ℕ) : JsonSchema
  | .obj fields => decide (n ≤ fields.length)
  | _ => true

/-! ## What the keywords say together

A schema object of the format is one of a few combinations of keywords.  Each combination has its
meaning here, so that a schema is read without unfolding the keywords.
-/

/-- A closed object with `required` among its properties. -/
lemma closedObject_iff {names : List PyStr} {props : List (PyStr × JsonSchema)} {value : Json} :
    all [type .object, required names, properties props noAdditional] value = true ↔
      ∃ fields : Fields, value = .obj fields ∧ (∀ key ∈ fields.keys, key ∈ props.map Prod.fst) ∧
        (∀ name ∈ names, name ∈ fields.keys) ∧
        ∀ p ∈ props, ∀ v, fields.member p.1 = some v → p.2 v = true := by
  cases value with
  | obj fields =>
      simp only [all, type, required, properties, noAdditional, List.all_cons, List.all_nil,
        Bool.true_and, Bool.and_true, Bool.and_eq_true, List.all_eq_true, Bool.or_false,
        decide_eq_true_eq, Fields.member_isSome_iff]
      constructor
      · rintro ⟨hrequired, hprops, hkeys⟩
        refine ⟨fields, rfl, ?_, hrequired, ?_⟩
        · intro key hkey
          obtain ⟨f, hf, rfl⟩ := List.mem_map.mp hkey
          exact hkeys f hf
        · intro p hp v hv
          have h := hprops p hp
          rw [hv] at h
          exact h
      · rintro ⟨fields', heq, hkeys, hrequired, hprops⟩
        cases heq
        refine ⟨hrequired, ?_, ?_⟩
        · intro p hp
          cases hv : Fields.member fields p.1 with
          | none => rfl
          | some v => exact hprops p hp v hv
        · intro f hf
          exact hkeys f.1 (List.mem_map.mpr ⟨f, hf, rfl⟩)
  | _ => simp [all, type]

/-- Closed objects whose properties agree on values without floats agree on such values. -/
lemma closedObject_congr {names : List PyStr} {props props' : List (PyStr × JsonSchema)}
    {value : Json} (hvalue : value.IntegerNumbers)
    (hprops : List.Forall₂
      (fun p p' => p.1 = p'.1 ∧ ∀ v : Json, v.IntegerNumbers → p.2 v = p'.2 v) props props') :
    all [type .object, required names, properties props noAdditional] value =
      all [type .object, required names, properties props' noAdditional] value := by
  cases value with
  | obj fields =>
      have hnames : props.map Prod.fst = props'.map Prod.fst := by
        induction hprops with
        | nil => rfl
        | cons h _ ih => rw [List.map_cons, List.map_cons, h.1, ih]
      have hall : (props.all fun p => match Fields.member fields p.1 with
            | some v => p.2 v
            | none => true) =
          props'.all fun p => match Fields.member fields p.1 with
            | some v => p.2 v
            | none => true := by
        clear hnames
        induction hprops with
        | nil => rfl
        | @cons p p' _ _ h _ ih =>
            rw [List.all_cons, List.all_cons, ih, ← h.1]
            cases hv : Fields.member fields p.1 with
            | none => rfl
            | some v => simp only [h.2 v (hvalue.member hv)]
      have hproperties : properties props noAdditional (.obj fields) =
          properties props' noAdditional (.obj fields) := by
        simp only [properties, hall, hnames]
      simp only [all, List.all_cons, hproperties]
  | _ => rfl

lemma array_iff {item : JsonSchema} {value : Json} :
    all [type .array, items item] value = true ↔
      ∃ list, value = .arr list ∧ ∀ v ∈ list, item v = true := by
  cases value <;> simp [all, type, items]

lemma string_iff {value : Json} : type .string value = true ↔ ∃ s, value = .str s := by
  cases value <;> simp [type]

lemma boolean_iff {value : Json} : type .boolean value = true ↔ ∃ b, value = .bool b := by
  cases value <;> simp [type]

lemma pattern_iff {p : Pattern ℕ} {value : Json} :
    all [type .string, pattern p] value = true ↔
      ∃ s, value = .str s ∧ p.fullmatch s = true := by
  cases value <;> simp [all, type, pattern]

lemma integer_iff {bound : ℤ} {value : Json} :
    all [integerLiteral, minimum bound] value = true ↔ ∃ n, value = .int n ∧ bound ≤ n := by
  cases value <;> simp [all, integerLiteral, minimum]

/-- Among values without floats the integers are the integer literals. -/
lemma type_integer {value : Json} (h : Json.IntegerNumbers value) :
    type .integer value = integerLiteral value := by
  cases value with
  | float x => exact absurd h Json.not_integerNumbers_float
  | _ => rfl

lemma enum_str_iff {options : List PyStr} {value : Json} :
    enum (options.map .str) value = true ↔ ∃ s ∈ options, value = .str s := by
  simp [enum, Json.equal_str_iff]

lemma uniqueItems_strings {names : List PyStr} :
    uniqueItems (.arr (names.map .str)) = true ↔ names.Nodup := by
  simp [uniqueItems, List.pairwise_map, Json.equal_str, List.Nodup]

lemma exists_strings {items : List Json} (h : ∀ item ∈ items, ∃ s, item = .str s) :
    ∃ names : List PyStr, items = names.map .str := by
  have hrange : items ∈ Set.range (List.map Json.str) := by
    rw [Set.range_list_map]
    exact fun item hitem => (h item hitem).imp fun _ => Eq.symm
  exact hrange.imp fun _ => Eq.symm

lemma distinctStrings_iff {value : Json} :
    all [type .array, uniqueItems, items (type .string)] value = true ↔
      ∃ names : List PyStr, value = .arr (names.map .str) ∧ names.Nodup := by
  constructor
  · intro h
    cases value with
    | arr list =>
        simp only [all, type, List.all_cons, List.all_nil, Bool.true_and, Bool.and_true,
          Bool.and_eq_true, items, List.all_eq_true] at h
        obtain ⟨names, rfl⟩ := exists_strings fun item hitem => string_iff.mp (h.2 item hitem)
        exact ⟨names, rfl, uniqueItems_strings.mp h.1⟩
    | _ => simp [all, type] at h
  · rintro ⟨names, rfl, hnodup⟩
    simp [all, type, items, uniqueItems_strings.mpr hnodup]

end JsonSchema
