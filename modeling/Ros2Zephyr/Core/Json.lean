import Mathlib.Data.List.Basic
import Mathlib.Data.Rat.Cast.Order
import Ros2Zephyr.Core.PyStr

/-!
# JSON values as Python reads them

`json.loads` turns a document into nested dictionaries, lists, strings, numbers, booleans and
`None`.

* `Json` — the value.  An integer literal is an `int` of any size, every other number a `float`,
  and Python also reads `NaN` and the infinities.
* `PyInteger` — what Python takes for an integer; `True` counts as 1.
* An object is the list of its members.  The keys of a decoded object are distinct; `member` finds
  the first.
* `Json.equal` — equality in the sense of JSON Schema: numbers by value, objects without order.
-/

/-- A Python `float` that can be read from a document; a finite one is a rational. -/
inductive PyFloat
  | finite (q : ℚ)
  | infinity
  | negInfinity
  | nan
  deriving DecidableEq

inductive Json
  | null
  | bool (b : Bool)
  | int (n : ℤ)
  | float (x : PyFloat)
  | str (s : PyStr)
  | arr (items : List Json)
  | obj (fields : List (PyStr × Json))

/-- A value of the type `int`, of which `bool` is a subtype. -/
inductive PyInteger
  | int (n : ℤ)
  | bool (b : Bool)
  deriving DecidableEq

namespace PyInteger

def value : PyInteger → ℤ
  | int n => n
  | bool b => if b then 1 else 0

/-- `str(value)` -/
def text : PyInteger → PyStr
  | int n => PyStr.ofInt n
  | bool b => if b then "True" else "False"

def toJson : PyInteger → Json
  | int n => .int n
  | bool b => .bool b

@[simp] lemma value_int (n : ℤ) : (int n).value = n := rfl

end PyInteger

/-- `isinstance(value, int)`, which also holds of a boolean. -/
def Json.asPyInt : Json → Option PyInteger
  | int n => some (.int n)
  | bool b => some (.bool b)
  | _ => none

@[simp] lemma Json.asPyInt_toJson (n : PyInteger) : n.toJson.asPyInt = some n := by
  cases n <;> rfl

/-- The members of an object. -/
abbrev Fields := List (PyStr × Json)

namespace Fields

/-- `fields.get(key)`. -/
def member (fields : Fields) (key : PyStr) : Option Json := fields.lookup key

/-- `set(fields)`, in the order of the document. -/
def keys (fields : Fields) : List PyStr := fields.map Prod.fst

lemma member_isSome_iff {fields : Fields} {key : PyStr} :
    (fields.member key).isSome ↔ key ∈ fields.keys := by
  induction fields with
  | nil => simp [member, keys]
  | cons field rest ih =>
      obtain ⟨k, v⟩ := field
      simp only [member, keys, List.map_cons, List.mem_cons] at ih ⊢
      by_cases h : key = k
      · subst h
        simp
      · have hne : (key == k) = false := by simpa using h
        simp [List.lookup_cons, hne, h, ih]

lemma exists_member {fields : Fields} {key : PyStr} (h : key ∈ fields.keys) :
    ∃ value, fields.member key = some value :=
  Option.isSome_iff_exists.mp (member_isSome_iff.mpr h)

/-- A member that is found is one of the fields. -/
lemma mem_of_member {fields : Fields} {key : PyStr} {value : Json}
    (h : fields.member key = some value) : (key, value) ∈ fields := by
  induction fields with
  | nil => simp [member] at h
  | cons field rest ih =>
      obtain ⟨k, v⟩ := field
      simp only [member] at h ih
      by_cases hk : key = k
      · subst hk
        simp at h
        simp [h]
      · have hne : (key == k) = false := by simpa using hk
        simp only [List.lookup_cons, hne] at h
        exact List.mem_cons_of_mem _ (ih h)

end Fields

namespace Json

/-- `value[key]` for a value that may be an object. -/
def field (value : Json) (key : PyStr) : Option Json :=
  match value with
  | obj fields => Fields.member fields key
  | _ => none

/-- `value[key₁][key₂]…`, for a row of keys. -/
def path (value : Json) (keys : List PyStr) : Option Json :=
  keys.foldlM (fun v key => v.field key) value

/-- Only an object has members. -/
lemma exists_obj_of_field {value v : Json} {key : PyStr} (h : value.field key = some v) :
    ∃ fields : Fields, value = obj fields := by
  cases value with
  | obj fields => exact ⟨fields, rfl⟩
  | _ => cases h

def asStr : Json → Option PyStr
  | str s => some s
  | _ => none

def asNat : Json → Option ℕ
  | int (Int.ofNat n) => some n
  | _ => none

def asArray : Json → Option (List Json)
  | arr items => some items
  | _ => none

def asBool : Json → Option Bool
  | bool b => some b
  | _ => none

def asFields : Json → Option Fields
  | obj fields => some fields
  | _ => none

/-- A member that is a string. -/
def text (value : Json) (key : PyStr) : Option PyStr := (value.field key).bind asStr

/-- A member that is a natural number. -/
def natural (value : Json) (key : PyStr) : Option ℕ := (value.field key).bind asNat

lemma natural_eq_some {value : Json} {key : PyStr} {n : ℕ} :
    value.natural key = some n ↔ value.field key = some (.int n) := by
  rw [natural, Option.bind_eq_some_iff]
  constructor
  · rintro ⟨v, hv, hn⟩
    rw [hv]
    match v, hn with
    | int (Int.ofNat m), hn =>
        cases hn
        rfl
  · intro h
    exact ⟨_, h, rfl⟩

/-- Every number in the value is an integer literal. -/
inductive IntegerNumbers : Json → Prop
  | null : IntegerNumbers null
  | bool (b : Bool) : IntegerNumbers (bool b)
  | int (n : ℤ) : IntegerNumbers (int n)
  | str (s : PyStr) : IntegerNumbers (str s)
  | arr {items : List Json} : (∀ v ∈ items, IntegerNumbers v) → IntegerNumbers (arr items)
  | obj {fields : Fields} : (∀ f ∈ fields, IntegerNumbers f.2) → IntegerNumbers (obj fields)

lemma IntegerNumbers.entry {fields : Fields} {f : PyStr × Json}
    (h : IntegerNumbers (Json.obj fields)) (hf : f ∈ fields) : IntegerNumbers f.2 := by
  cases h with
  | obj h => exact h f hf

lemma IntegerNumbers.member {fields : Fields} {key : PyStr} {value : Json}
    (h : IntegerNumbers (Json.obj fields)) (hvalue : fields.member key = some value) :
    IntegerNumbers value :=
  h.entry (Fields.mem_of_member hvalue)

lemma IntegerNumbers.item {items : List Json} {value : Json} (h : IntegerNumbers (Json.arr items))
    (hvalue : value ∈ items) : IntegerNumbers value := by
  cases h with
  | arr h => exact h _ hvalue

attribute [simp] IntegerNumbers.null IntegerNumbers.bool IntegerNumbers.int IntegerNumbers.str

@[simp] lemma integerNumbers_arr_iff {items : List Json} :
    IntegerNumbers (Json.arr items) ↔ ∀ v ∈ items, IntegerNumbers v :=
  ⟨fun h _ => h.item, .arr⟩

@[simp] lemma integerNumbers_obj_iff {fields : List (PyStr × Json)} :
    IntegerNumbers (Json.obj fields) ↔ ∀ f ∈ fields, IntegerNumbers f.2 :=
  ⟨fun h _ => h.entry, .obj⟩

lemma not_integerNumbers_float {x : PyFloat} : ¬ IntegerNumbers (float x) := by
  intro h
  cases h

mutual

/-- Equality of JSON values. -/
def equal : Json → Json → Bool
  | null, null => true
  | bool a, bool b => a == b
  | int a, int b => a == b
  | int a, float (.finite q) => (a : ℚ) == q
  | float (.finite q), int a => q == (a : ℚ)
  | float a, float b => a == b
  | str a, str b => a == b
  | arr a, arr b => equalItems a b
  | obj a, obj b => a.length == b.length && equalFields a b
  | _, _ => false

def equalItems : List Json → List Json → Bool
  | [], [] => true
  | a :: as, b :: bs => equal a b && equalItems as bs
  | _, _ => false

def equalFields : List (PyStr × Json) → Fields → Bool
  | [], _ => true
  | (key, a) :: rest, b =>
      (match b.member key with
        | some value => equal a value
        | none => false) && equalFields rest b

end

@[simp] lemma equal_str (s t : PyStr) : equal (str s) (str t) = (s == t) := by
  simp [equal]

/-- Only the same string equals a string. -/
lemma equal_str_iff {s : PyStr} {value : Json} : equal (str s) value = true ↔ value = str s := by
  cases value with
  | str t =>
      simp only [equal_str, beq_iff_eq, str.injEq]
      exact eq_comm
  | _ => simp [equal]

end Json
