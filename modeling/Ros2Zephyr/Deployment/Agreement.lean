import Mathlib.Data.List.Perm.Basic
import Ros2Zephyr.Core.Fallible
import Ros2Zephyr.Deployment.Schema

/-!
# The validator is the schema and the rules between fields

The format is defined twice, by the schema and by the checks of `validate_deployment`.  For every
part of a document the two agree: `checks_validateNode` and its siblings say that the check of a
part succeeds exactly for the values the schema of that part accepts and the cross-field rule of
that part allows, and that it fails with a `DeploymentError` and nothing else.
`validateDeployment_agrees` puts the parts together.

The statement is about documents whose numbers are integer literals: to the schema `1.0` is an
integer, to the validator it is not.
-/

namespace Ros2Zephyr

open Fallible

/-- The exception the validator is meant to raise. -/
def PyException.IsDeploymentError : PyException → Prop
  | .deploymentError _ _ => True
  | _ => False

/-- `Checks x A`: the check `x` lets through exactly the values of `A` and otherwise raises
`DeploymentError`. -/
abbrev Checks {α : Type} (x : Except PyException α) (A : α → Prop) : Prop :=
  Decides x A PyException.IsDeploymentError

section Steps

variable {α : Type} {repr : PyStr → PyStr} {A : α → Prop} {fields : Fields} {value : Json}

lemma checks_reject (code message : PyStr) :
    Checks (reject code message : Except PyException α) fun _ => False :=
  Decides.error trivial

lemma checks_pass : Checks (.ok ()) fun _ => True :=
  (Decides.ok ()).congr fun _ => by simp

/-- A check that refuses on a condition and then goes on. -/
lemma checks_unless {c : Prop} [Decidable c] {code message : PyStr} {x : Except PyException α}
    (hx : ¬ c → Checks x A) :
    Checks (if c then reject code message else x) fun a => ¬ c ∧ A a :=
  (Decides.ite (fun _ => checks_reject code message) hx).congr fun a => by simp

/-- A check without a result, and then another one. -/
lemma checks_then {x : Except PyException Unit} {y : Except PyException α} {P : Prop}
    (hx : Checks x fun _ => P) (hy : P → Checks y A) :
    Checks (x >>= fun _ => y) fun a => P ∧ A a :=
  (hx.bind fun _ hp => hy hp).congr fun a => by simp

lemma checks_requireObject {path : PyStr} {f : Fields → Except PyException α}
    {B : Fields → α → Prop} (hf : ∀ fields, value = .obj fields → Checks (f fields) (B fields)) :
    Checks (requireObject value path >>= f) fun a =>
      ∃ fields, value = .obj fields ∧ B fields a := by
  refine Decides.bind ?_ hf
  cases value with
  | obj fields =>
      exact (Decides.ok fields).congr fun a => by
        rw [Json.obj.injEq]
        exact eq_comm
  | _ => exact (checks_reject _ _).congr fun a => by simp

/-- A string with or without a pattern. -/
lemma checks_requireString {path : PyStr} {pattern : Option (Pattern ℕ)} :
    Checks (requireString value path pattern) fun s =>
      value = .str s ∧ pattern.all (Pattern.fullmatch · s) = true := by
  cases value with
  | str s =>
      refine (Decides.ite (fun _ => Decides.ok s) fun _ => checks_reject _ _).congr fun t => ?_
      constructor
      · rintro (⟨hmatch, rfl⟩ | ⟨-, hfalse⟩)
        · exact ⟨rfl, hmatch⟩
        · exact hfalse.elim
      · rintro ⟨heq, hmatch⟩
        cases heq
        exact .inl ⟨hmatch, rfl⟩
  | _ => exact (checks_reject _ _).congr fun a => by simp

lemma checks_requireInteger {path : PyStr} {minimum : ℤ} :
    Checks (requireInteger value path minimum) fun n => value = .int n ∧ minimum ≤ n := by
  cases value with
  | int m =>
      refine (Decides.ite (fun _ => checks_reject _ _) fun _ => Decides.ok m).congr fun n => ?_
      constructor
      · rintro (⟨-, hfalse⟩ | ⟨hle, rfl⟩)
        · exact hfalse.elim
        · exact ⟨rfl, not_lt.mp hle⟩
      · rintro ⟨heq, hle⟩
        cases heq
        exact .inr ⟨not_lt.mpr hle, rfl⟩
  | _ => exact (checks_reject _ _).congr fun a => by simp

/-- The keys of an object are among `allowed`, and all of `required` are there. -/
def ClosedKeys (fields : Fields) (allowed required : List PyStr) : Prop :=
  (∀ key ∈ fields.keys, key ∈ allowed) ∧ ∀ key ∈ required, key ∈ fields.keys

lemma sortKeys_eq_nil {keys : List PyStr} : sortKeys keys = [] ↔ keys = [] := by
  rw [← List.length_eq_zero_iff, sortKeys, List.length_insertionSort, List.length_eq_zero_iff]

lemma filter_eq_nil {keys allowed : List PyStr} :
    keys.filter (· ∉ allowed) = [] ↔ ∀ key ∈ keys, key ∈ allowed := by
  simp [List.filter_eq_nil_iff]

/-- `exact_keys`, with its two messages: an unknown key comes before a missing one. -/
lemma checks_exactKeys {allowed required : List PyStr} {path : PyStr} :
    Checks (exactKeys repr fields allowed required path) fun _ =>
      ClosedKeys fields allowed required := by
  unfold exactKeys
  split
  · rename_i hunknown
    refine (checks_reject _ _).congr fun _ => ⟨False.elim, fun h => ?_⟩
    rw [sortKeys_eq_nil.mpr (filter_eq_nil.mpr h.1)] at hunknown
    cases hunknown
  · rename_i hmissing
    refine (checks_reject _ _).congr fun _ => ⟨False.elim, fun h => ?_⟩
    rw [sortKeys_eq_nil.mpr (filter_eq_nil.mpr h.2)] at hmissing
    cases hmissing
  · rename_i hunknown hmissing
    refine (Decides.ok ()).congr fun _ => ⟨fun _ => ⟨?_, ?_⟩, fun _ => rfl⟩
    · exact filter_eq_nil.mp (sortKeys_eq_nil.mp hunknown)
    · exact filter_eq_nil.mp (sortKeys_eq_nil.mp hmissing)

/-- A subscript whose key is there. -/
lemma checks_item {key : PyStr} {f : Json → Except PyException α} {B : Json → α → Prop}
    (hkey : key ∈ fields.keys) (hf : ∀ v, fields.member key = some v → Checks (f v) (B v)) :
    Checks (getItem fields key >>= f) fun a => ∀ v, fields.member key = some v → B v a := by
  obtain ⟨v, hv⟩ := Fields.exists_member hkey
  simp only [getItem, hv, ok_bind]
  exact (hf v hv).congr fun a => by simp

/-- A subscript whose value is not used after its own check. -/
lemma checks_getItem {key : PyStr} {f : Json → Except PyException α} {S : Json → Prop}
    (hkey : key ∈ fields.keys)
    (hf : ∀ v, fields.member key = some v → Checks (f v) fun a => S v ∧ A a) :
    Checks (getItem fields key >>= f) fun a =>
      (∀ v, fields.member key = some v → S v) ∧ A a := by
  obtain ⟨v, hv⟩ := Fields.exists_member hkey
  exact (checks_item hkey hf).congr fun a => by simp [hv]

/-- A string with a pattern, in the words of the schema. -/
lemma checks_pattern {path : PyStr} {p : Pattern ℕ} {y : Except PyException α}
    (hy : Checks y A) :
    Checks (requireString value path (some p) >>= fun _ => y) fun a =>
      JsonSchema.all [.type .string, .pattern p] value = true ∧ A a := by
  refine (checks_requireString.bind fun _ _ => hy).congr fun a => ?_
  rw [JsonSchema.pattern_iff]
  simp [exists_and_right]

/-- A string on which there is a condition. -/
lemma checks_string {path code message : PyStr} {c : PyStr → Prop} [DecidablePred c]
    {y : Except PyException α} (hy : Checks y A) :
    Checks (requireString value path none >>= fun s => if c s then reject code message else y)
      fun a => (∃ s, value = .str s ∧ ¬ c s) ∧ A a := by
  refine (checks_requireString.bind fun _ _ => checks_unless fun _ => hy).congr fun a => ?_
  constructor
  · rintro ⟨s, ⟨hvalue, -⟩, hc, ha⟩
    exact ⟨⟨s, hvalue, hc⟩, ha⟩
  · rintro ⟨⟨s, hvalue, hc⟩, ha⟩
    exact ⟨s, ⟨hvalue, rfl⟩, hc, ha⟩

/-- An integer with a bound, in the words of the schema. -/
lemma checks_integer {path : PyStr} {m : ℤ} {y : Except PyException α} (hy : Checks y A) :
    Checks (requireInteger value path m >>= fun _ => y) fun a =>
      JsonSchema.all [.integerLiteral, .minimum m] value = true ∧ A a := by
  refine (checks_requireInteger.bind fun _ _ => hy).congr fun a => ?_
  rw [JsonSchema.integer_iff]
  simp [exists_and_right]

lemma equalsStr_iff {s : PyStr} : equalsStr value s = true ↔ value = .str s := by
  cases value <;> simp [equalsStr]

/-- A Boolean test that is one of the schema's keywords. -/
lemma checks_test {test : Bool} {S : Prop} {code message : PyStr} {y : Except PyException α}
    (htest : test = true ↔ S) (hy : Checks y A) :
    Checks (if !test then reject code message else y) fun a => S ∧ A a := by
  refine (checks_unless fun _ => hy).congr fun a => ?_
  rw [Bool.not_eq_true', Bool.not_eq_false, htest]

/-- A string constant, in the words of the schema. -/
lemma checks_const {s code message : PyStr} {y : Except PyException α} (hy : Checks y A) :
    Checks (if !equalsStr value s then reject code message else y) fun a =>
      JsonSchema.const (.str s) value = true ∧ A a :=
  checks_test (by rw [equalsStr_iff, JsonSchema.const, Json.equal_str_iff]) hy

/-- One of two strings, in the words of the schema. -/
lemma checks_oneOf {s t code message : PyStr} {y : Except PyException α}
    (hy : strings [s, t] value = true → Checks y A) :
    Checks (if !equalsStr value s && !equalsStr value t then reject code message else y) fun a =>
      strings [s, t] value = true ∧ A a := by
  have hc : ¬ ((!equalsStr value s && !equalsStr value t) = true) ↔
      strings [s, t] value = true := by
    rw [strings, JsonSchema.enum_str_iff, Bool.and_eq_true, Bool.not_eq_true', Bool.not_eq_true',
      not_and_or, Bool.not_eq_false, Bool.not_eq_false, equalsStr_iff, equalsStr_iff]
    simp
  exact (checks_unless fun h => hy (hc.mp h)).congr fun a => by rw [hc]

/-- A closed object, in the words of the schema: `R` is what the check asks for beyond its
properties. -/
lemma checks_closedObject {path path' : PyStr} {allowed names : List PyStr}
    {props : List (PyStr × JsonSchema)} {f : Fields → Except PyException α} {R : Json → α → Prop}
    (hallowed : ∀ key, key ∈ allowed ↔ key ∈ props.map Prod.fst)
    (hf : ∀ fields : Fields, ClosedKeys fields allowed names →
      Checks (f fields) fun a =>
        (∀ p ∈ props, ∀ v, fields.member p.1 = some v → p.2 v = true) ∧ R (.obj fields) a) :
    Checks (do
        let fields ← requireObject value path
        exactKeys repr fields allowed names path'
        f fields) fun a =>
      JsonSchema.all [.type .object, .required names, .properties props .noAdditional] value
        = true ∧
        R value a := by
  refine (checks_requireObject fun fields _ =>
    checks_then checks_exactKeys fun hkeys => hf fields hkeys).congr fun a => ?_
  rw [JsonSchema.closedObject_iff]
  constructor
  · rintro ⟨fields, rfl, hkeys, hprops, hr⟩
    exact ⟨⟨fields, rfl, fun key hkey => (hallowed key).mp (hkeys.1 key hkey), hkeys.2, hprops⟩, hr⟩
  · rintro ⟨⟨fields, rfl, hmem, hrequired, hprops⟩, hr⟩
    exact ⟨fields, rfl, ⟨fun key hkey => (hallowed key).mpr (hmem key hkey), hrequired⟩, hprops, hr⟩

/-- `checks_closedObject` for an object about which there is nothing more to say. -/
lemma checks_closedObject' {path path' : PyStr} {allowed names : List PyStr}
    {props : List (PyStr × JsonSchema)} {f : Fields → Except PyException Unit}
    (hallowed : ∀ key, key ∈ allowed ↔ key ∈ props.map Prod.fst)
    (hf : ∀ fields : Fields, ClosedKeys fields allowed names →
      Checks (f fields) fun _ => ∀ p ∈ props, ∀ v, fields.member p.1 = some v → p.2 v = true) :
    Checks (do
        let fields ← requireObject value path
        exactKeys repr fields allowed names path'
        f fields) fun _ =>
      JsonSchema.all [.type .object, .required names, .properties props .noAdditional]
        value = true := by
  refine (checks_closedObject (R := fun _ _ => True) hallowed fun fields hkeys =>
    (hf fields hkeys).congr fun _ => ?_).congr fun _ => ?_
  · rw [and_true]
  · rw [and_true]

end Steps

section Parts

variable {repr : PyStr → PyStr} {value : Json}

open JsonSchema

lemma checks_depth {message : PyStr} :
    Checks
      (match value with
      | .int depth => if depth < 1 then reject "E_SCHEMA" message else .ok ()
      | _ => reject "E_SCHEMA" message)
      fun _ => positive integerLiteral value = true := by
  rw [positive, integer_iff]
  cases value with
  | int n => exact (checks_unless fun _ => checks_pass).congr fun _ => by simp
  | _ => exact (checks_reject _ _).congr fun _ => by simp

/-- The node: its schema, and the rule on its namespace. -/
lemma checks_validateNode :
    Checks (validateNode repr value) fun _ => nodeSchema value = true ∧ NamespaceRule value := by
  refine checks_closedObject (R := fun node _ => NamespaceRule node) (by intro _; exact Iff.rfl)
    fun node hkeys => ?_
  refine Decides.congr
    (checks_getItem (hkeys.2 _ (by decide)) fun _ _ => checks_pattern <|
      checks_getItem (hkeys.2 _ (by decide)) fun _ _ => checks_string <|
      Decides.ok ()) fun _ => ?_
  simp only [List.forall_mem_cons, List.not_mem_nil, false_implies, implies_true, and_true]
  constructor
  · rintro ⟨hname, hns⟩
    refine ⟨⟨hname, fun v hv => string_iff.mpr ((hns v hv).imp fun _ h => h.1)⟩, ?_⟩
    intro ns hv
    obtain ⟨_, heq, hrule⟩ := hns _ hv
    cases heq
    tauto
  · rintro ⟨⟨hname, hns⟩, hrule⟩
    refine ⟨hname, fun v hv => ?_⟩
    obtain ⟨ns, rfl⟩ := string_iff.mp (hns v hv)
    refine ⟨ns, rfl, ?_⟩
    have := hrule ns hv
    tauto

lemma asStrings_eq_some {items : List Json} {names : List PyStr} :
    asStrings items = some names ↔ items = names.map .str := by
  induction items generalizing names with
  | nil => cases names <;> simp [asStrings]
  | cons item items ih =>
      cases item with
      | str s => cases names <;> simp [asStrings, ih, and_comm]
      | _ => cases names <;> simp [asStrings]

/-- A check on an array of distinct strings. -/
lemma checks_distinctStrings {items : List Json} {code message code' message' : PyStr}
    {k : List PyStr → Except PyException Unit} {P : List PyStr → Prop}
    (hk : ∀ names, Checks (k names) fun _ => P names) :
    Checks
      (match asStrings items with
      | some names => if ¬ names.Nodup then reject code message else k names
      | none => reject code' message')
      fun _ => ∃ names : List PyStr, items = names.map .str ∧ names.Nodup ∧ P names := by
  cases hitems : asStrings items with
  | some names =>
      obtain rfl := asStrings_eq_some.mp hitems
      refine (checks_unless fun _ => hk names).congr fun _ => ?_
      rw [not_not]
      constructor
      · intro h
        exact ⟨names, rfl, h⟩
      · rintro ⟨names', heq, h⟩
        rw [List.map_injective_iff.mpr (fun _ _ => Json.str.inj) heq]
        exact h
  | none =>
      refine (checks_reject _ _).congr fun _ => ⟨False.elim, ?_⟩
      rintro ⟨names, heq, -⟩
      rw [asStrings_eq_some.mpr heq] at hitems
      cases hitems

lemma checks_validateGraphApi :
    Checks (validateGraphApi value) fun _ =>
      all [type .array, uniqueItems, items (type .string)] value = true := by
  cases value with
  | arr list =>
      refine Decides.congr (checks_distinctStrings fun _ => checks_pass) fun _ => ?_
      rw [distinctStrings_iff]
      simp
  | _ => exact (checks_reject _ _).congr fun _ => by simp [all, type]

/-- What the schema says of the backends: some strings, all different, all known. -/
lemma rmwSchema_iff :
    rmwSchema value = true ↔ ∃ names : List PyStr, value = .arr (names.map .str) ∧ names ≠ [] ∧
      names.Nodup ∧ ∀ name ∈ names, name ∈ supportedBackends := by
  constructor
  · intro h
    cases value with
    | arr list =>
        simp only [rmwSchema, all, type, List.all_cons, List.all_nil, Bool.true_and, Bool.and_true,
          Bool.and_eq_true, items, List.all_eq_true, strings, enum_str_iff, minItems,
          decide_eq_true_eq] at h
        obtain ⟨hmin, hunique, hitems⟩ := h
        obtain ⟨names, rfl⟩ := exists_strings fun item hitem =>
          (hitems item hitem).imp fun _ h => h.2
        refine ⟨names, rfl, ?_, uniqueItems_strings.mp hunique, ?_⟩
        · rintro rfl
          cases hmin
        · intro name hname
          obtain ⟨_, hmem, heq⟩ := hitems _ (List.mem_map_of_mem hname)
          cases heq
          exact hmem
    | _ => simp [rmwSchema, all, type] at h
  · rintro ⟨names, rfl, hne, hnodup, hmem⟩
    simp only [rmwSchema, all, type, List.all_cons, List.all_nil, Bool.true_and, Bool.and_true,
      Bool.and_eq_true, items, List.all_eq_true, strings, enum_str_iff, minItems,
      decide_eq_true_eq, List.length_map]
    refine ⟨List.length_pos_iff.mpr hne, uniqueItems_strings.mpr hnodup, ?_⟩
    intro item hitem
    obtain ⟨name, hname, rfl⟩ := List.mem_map.mp hitem
    exact ⟨name, hmem name hname, rfl⟩

/-- The names that are left when the known ones are taken away. -/
lemma checks_knownBackends {names : List PyStr} :
    Checks
      (match sortKeys (names.filter (· ∉ supportedBackends)) with
      | backend :: _ => reject "E_BACKEND_UNKNOWN" ("unknown backend " ++ backend)
      | [] => .ok ())
      fun _ => ∀ name ∈ names, name ∈ supportedBackends := by
  rw [← filter_eq_nil, ← sortKeys_eq_nil]
  split
  · rename_i heq
    refine (checks_reject _ _).congr fun _ => ⟨False.elim, fun h => ?_⟩
    rw [h] at heq
    cases heq
  · rename_i heq
    exact checks_pass.congr fun _ => ⟨fun _ => heq, fun _ => trivial⟩

/-- The backends: some strings, then that they are different, then that each of them is known. -/
lemma checks_validateRmw : Checks (validateRmw value) fun _ => rmwSchema value = true := by
  simp only [rmwSchema_iff]
  cases value with
  | arr list =>
      cases list with
      | nil => exact (checks_reject _ _).congr fun _ => by simp
      | cons item items =>
          refine Decides.congr (checks_distinctStrings fun _ => checks_knownBackends) fun _ => ?_
          constructor
          · rintro ⟨names, hnames, h⟩
            refine ⟨names, congrArg _ hnames, ?_, h⟩
            rintro rfl
            cases hnames
          · rintro ⟨names, hnames, -, h⟩
            exact ⟨names, Json.arr.inj hnames, h⟩
  | _ => exact (checks_reject _ _).congr fun _ => by simp

lemma isBool_iff : isBool value = true ↔ type .boolean value = true := by
  cases value <;> simp [isBool, type]

lemma checks_validateGraph :
    Checks (validateGraph repr value) fun _ => graphSchema value = true := by
  refine checks_closedObject' (by intro _; exact Iff.rfl) fun graph hkeys => ?_
  refine Decides.congr
    (checks_item (hkeys.2 _ (by decide)) fun outbound _ =>
      checks_getItem (hkeys.2 _ (by decide)) fun inbound _ => checks_unless fun _ =>
      checks_item (hkeys.2 _ (by decide)) fun _ _ => checks_validateGraphApi) fun _ => ?_
  obtain ⟨outbound, houtbound⟩ := Fields.exists_member (hkeys.2 "outbound" (by decide))
  obtain ⟨inbound, hinbound⟩ := Fields.exists_member (hkeys.2 "inbound" (by decide))
  simp only [List.forall_mem_cons, List.not_mem_nil, false_implies, implies_true, and_true,
    houtbound, hinbound, Option.some.injEq, forall_eq', ← isBool_iff, Bool.or_eq_true,
    Bool.not_eq_true', not_or, Bool.not_eq_false, and_assoc]

lemma checks_validateQos {path : PyStr} :
    Checks (validateQos repr path value) fun _ => qosSchema integerLiteral value = true := by
  refine checks_closedObject' (by intro _; exact Iff.rfl) fun qos hkeys => ?_
  refine Decides.congr
    (checks_getItem (hkeys.2 _ (by decide)) fun _ _ => checks_oneOf fun _ =>
      checks_getItem (hkeys.2 _ (by decide)) fun _ _ => checks_oneOf fun _ =>
      checks_getItem (hkeys.2 _ (by decide)) fun _ _ => checks_const <|
      checks_item (hkeys.2 _ (by decide)) fun _ _ => checks_depth) fun _ => ?_
  simp only [List.forall_mem_cons, List.not_mem_nil, false_implies, implies_true, and_true]

lemma checks_validateRemote :
    Checks (validateRemote repr value) fun _ => remoteSchema integerLiteral value = true := by
  refine checks_closedObject' (by intro _; exact Iff.rfl) fun remote hkeys => ?_
  refine Decides.congr
    (checks_getItem (hkeys.2 _ (by decide)) fun _ _ => checks_integer <|
      checks_getItem (hkeys.2 _ (by decide)) fun _ _ => checks_integer <|
      checks_getItem (hkeys.2 _ (by decide)) fun _ _ => checks_integer <|
      Decides.ok ()) fun _ => ?_
  simp only [List.forall_mem_cons, List.not_mem_nil, false_implies, implies_true, and_true]
  exact ⟨fun ⟨h₁, h₂, h₃⟩ => ⟨h₃, h₂, h₁⟩, fun ⟨h₃, h₂, h₁⟩ => ⟨h₁, h₂, h₃⟩⟩

lemma checks_validateWorkers :
    Checks (validateWorkers repr value) fun _ => workersSchema integerLiteral value = true := by
  refine checks_closedObject' (by intro _; exact Iff.rfl) fun workers hkeys => ?_
  refine Decides.congr
    (checks_getItem (hkeys.2 _ (by decide)) fun _ _ => checks_integer <|
      Decides.ok ()) fun _ => ?_
  simp only [List.forall_mem_cons, List.not_mem_nil, false_implies, implies_true, and_true]
  rfl

lemma checks_validateApplication :
    Checks (validateApplication repr value) fun _ =>
      applicationSchema integerLiteral value = true := by
  refine checks_closedObject' (by intro _; exact Iff.rfl) fun application hkeys => ?_
  refine Decides.congr
    (checks_getItem (hkeys.2 _ (by decide)) fun _ _ => checks_integer <|
      Decides.ok ()) fun _ => ?_
  simp only [List.forall_mem_cons, List.not_mem_nil, false_implies, implies_true, and_true]
  rfl

lemma checks_validateTarget {target : PyStr × Json} :
    Checks (validateTarget repr target) fun _ => budgetSchema integerLiteral target.2 = true := by
  refine checks_closedObject' (by intro _; exact Iff.rfl) fun budget hkeys => ?_
  refine Decides.congr
    (checks_getItem (hkeys.2 _ (by decide)) fun _ _ => checks_integer <|
      checks_getItem (hkeys.2 _ (by decide)) fun _ _ => checks_integer <|
      Decides.ok ()) fun _ => ?_
  simp only [List.forall_mem_cons, List.not_mem_nil, false_implies, implies_true, and_true]
  rfl

lemma checks_validateEach {targets : List (PyStr × Json)} :
    Checks (validateEach repr targets) fun _ =>
      ∀ target ∈ targets, budgetSchema integerLiteral target.2 = true := by
  induction targets with
  | nil => exact (Decides.ok ()).congr fun _ => by simp
  | cons target targets ih =>
      refine (checks_then checks_validateTarget fun _ => ih).congr fun _ => ?_
      rw [List.forall_mem_cons]

lemma mem_sortTargets {targets : Fields} (target : PyStr × Json) :
    target ∈ sortTargets targets ↔ target ∈ targets :=
  (List.perm_insertionSort _ _).mem_iff

lemma targetsSchema_iff {integer : JsonSchema} :
    targetsSchema integer value = true ↔ ∃ targets : Fields, value = .obj targets ∧ targets ≠ [] ∧
      ∀ target ∈ targets, budgetSchema integer target.2 = true := by
  cases value with
  | obj targets =>
      simp only [targetsSchema, all, type, minProperties, properties, List.all_cons, List.all_nil,
        Bool.true_and, Bool.and_true, Bool.and_eq_true, decide_eq_true_eq, List.map_nil,
        List.not_mem_nil, decide_false, Bool.false_or, List.all_eq_true, Json.obj.injEq,
        exists_eq_left']
      exact and_congr_left' List.length_pos_iff
  | _ => simp [targetsSchema, all, type]

lemma checks_validateTargets :
    Checks (validateTargets repr value) fun _ => targetsSchema integerLiteral value = true := by
  simp only [targetsSchema_iff]
  refine Decides.congr
    (checks_requireObject fun targets _ => checks_unless fun _ =>
      checks_validateEach) fun _ => ?_
  simp only [mem_sortTargets, List.isEmpty_iff]

/-- The resources: their parts in the order of the source, and the rule on the capacity. -/
lemma checks_validateResources {endpoints : ℕ} :
    Checks (validateResources repr endpoints value) fun _ =>
      resourcesSchema integerLiteral value = true ∧ CapacityRule endpoints value := by
  refine checks_closedObject (R := fun resources _ => CapacityRule endpoints resources)
    (by intro _; exact Iff.rfl) fun resources hkeys => ?_
  refine Decides.congr
    (checks_item (hkeys.2 _ (by decide)) fun _ _ => checks_requireInteger.bind fun n _ =>
      checks_unless fun _ =>
      checks_getItem (hkeys.2 _ (by decide)) fun _ _ =>
        checks_then checks_validateRemote fun _ =>
      checks_getItem (hkeys.2 _ (by decide)) fun _ _ =>
        checks_then checks_validateWorkers fun _ =>
      checks_getItem (hkeys.2 _ (by decide)) fun _ _ =>
        checks_then checks_validateApplication fun _ =>
      checks_item (hkeys.2 _ (by decide)) fun _ _ =>
        checks_validateTargets) fun _ => ?_
  obtain ⟨capacity, hcapacity⟩ := Fields.exists_member (hkeys.2 "local_endpoints" (by decide))
  simp only [List.forall_mem_cons, List.not_mem_nil, false_implies, implies_true, and_true,
    hcapacity, Option.some.injEq, forall_eq', nonNegative, integer_iff,
    CapacityRule, Json.field]
  constructor
  · rintro ⟨n, ⟨rfl, hn⟩, hle, hrest⟩
    refine ⟨⟨⟨n, rfl, hn⟩, hrest⟩, fun m hm => ?_⟩
    cases hm
    exact not_lt.mp hle
  · rintro ⟨⟨⟨n, rfl, hn⟩, hrest⟩, hle⟩
    exact ⟨n, ⟨rfl, hn⟩, not_lt.mpr (hle n rfl), hrest⟩

/-- A subscription must have a callback and a publisher must not. -/
lemma checks_validateCallback {path : PyStr} {kind : Json} {endpoint : Fields}
    (hkind : strings ["publisher", "subscription"] kind = true) :
    Checks (validateCallback path kind endpoint) fun _ =>
      (∀ v, endpoint.member "callback" = some v →
        all [type .string, pattern identifier] v = true) ∧
      (kind = .str "subscription" → (endpoint.member "callback").isSome) ∧
      (kind = .str "publisher" → endpoint.member "callback" = none) := by
  obtain ⟨k, hk, rfl⟩ := enum_str_iff.mp hkind
  have hne : PyStr.ofString "publisher" ≠ PyStr.ofString "subscription" := by decide
  rw [List.mem_cons, List.mem_singleton] at hk
  obtain rfl | rfl := hk
  · cases hcallback : endpoint.member "callback" with
    | none => simpa [validateCallback, equalsStr, hcallback, hne] using checks_pass
    | some v => simpa [validateCallback, equalsStr, hcallback, hne] using checks_reject _ _
  · simp only [validateCallback, equalsStr_iff, if_true]
    refine (checks_pattern checks_pass).congr fun _ => ?_
    cases hcallback : endpoint.member "callback" with
    | none => simp [pattern_iff]
    | some v => simp [hne.symm]

/-- One endpoint: its schema, the rules on its topic and callback, and an id that is new. -/
lemma checks_validateEndpoint {ids : List PyStr} {index : ℕ} :
    Checks (validateEndpoint repr ids index value) fun id =>
      endpointSchema integerLiteral value = true ∧
      (CallbackRule value ∧ TopicRule value ∧ value.field "id" = some (.str id) ∧ id ∉ ids) := by
  refine checks_closedObject (R := fun value id => CallbackRule value ∧ TopicRule value ∧
    value.field "id" = some (.str id) ∧ id ∉ ids) ?_ fun endpoint hkeys => ?_
  · intro key
    exact (show endpointKeys.Perm _ by decide).mem_iff
  · refine Decides.congr
      (checks_item (hkeys.2 _ (by decide)) fun _ _ => checks_requireString.bind fun id _ =>
        checks_unless fun _ =>
        checks_item (hkeys.2 _ (by decide)) fun kind _ => checks_oneOf fun hkind =>
        checks_getItem (hkeys.2 _ (by decide)) fun _ _ => checks_string <|
        checks_getItem (hkeys.2 _ (by decide)) fun _ _ => checks_pattern <|
        checks_getItem (hkeys.2 _ (by decide)) fun _ _ => checks_const <|
        checks_then (checks_validateCallback hkind) fun _ =>
        checks_getItem (hkeys.2 _ (by decide)) fun _ _ =>
          checks_then checks_validateQos fun _ =>
        Decides.ok id) fun id => ?_
    obtain ⟨v, hv⟩ := Fields.exists_member (hkeys.2 "id" (by decide))
    obtain ⟨kind, hkind⟩ := Fields.exists_member (hkeys.2 "kind" (by decide))
    simp only [List.forall_mem_cons, List.not_mem_nil, false_implies, implies_true, and_true,
      hv, hkind, Option.some.injEq, forall_eq', Json.field, CallbackRule, TopicRule]
    constructor
    · rintro ⟨s, ⟨rfl, hid⟩, hnew, hk, htopic, htype, hlifetime, ⟨hcallback, hrule⟩, hqos, rfl⟩
      refine ⟨⟨?_, hk, ?_, htype, hcallback, hlifetime, hqos⟩, hrule, ?_, rfl, hnew⟩
      · exact pattern_iff.mpr ⟨_, rfl, hid⟩
      · exact fun t ht => string_iff.mpr ((htopic t ht).imp fun _ h => h.1)
      · intro topic ht
        obtain ⟨_, heq, hc⟩ := htopic _ ht
        cases heq
        tauto
    · rintro ⟨⟨hid, hk, htopic, htype, hcallback, hlifetime, hqos⟩, hrule, htopic', rfl, hnew⟩
      obtain ⟨_, heq, hmatch⟩ := pattern_iff.mp hid
      cases heq
      refine ⟨id, ⟨rfl, hmatch⟩, hnew, hk, ?_, htype, hlifetime, ⟨hcallback, hrule⟩, hqos, rfl⟩
      intro t ht
      obtain ⟨topic, rfl⟩ := string_iff.mp (htopic t ht)
      have := htopic' topic ht
      exact ⟨topic, rfl, by tauto⟩

lemma endpointSchema_id {integer : JsonSchema} (h : endpointSchema integer value = true) :
    ∃ id, value.field "id" = some (.str id) := by
  obtain ⟨endpoint, rfl, -, hrequired, hprops⟩ := closedObject_iff.mp h
  obtain ⟨v, hv⟩ := Fields.exists_member (hrequired "id" (by decide))
  obtain ⟨id, rfl, -⟩ := pattern_iff.mp (hprops _ List.mem_cons_self v hv)
  exact ⟨id, hv⟩

/-- The loop over the endpoints: `ids` are the identifiers of those before, so the identifiers are
distinct from them and among each other. -/
lemma checks_validateEndpoints {ids : List PyStr} {index : ℕ} {values : List Json} :
    Checks (validateEndpoints repr ids index values) fun _ =>
      (∀ value ∈ values,
        endpointSchema integerLiteral value = true ∧ CallbackRule value ∧ TopicRule value) ∧
      (values.map (Json.field · "id")).Nodup ∧
      ∀ id ∈ ids, some (.str id) ∉ values.map (Json.field · "id") := by
  induction values generalizing ids index with
  | nil => exact checks_pass.congr fun _ => by simp
  | cons value values ih =>
      refine (checks_validateEndpoint.bind fun id _ => ih).congr fun _ => ?_
      simp only [List.forall_mem_cons, List.map_cons, List.nodup_cons]
      constructor
      · rintro ⟨id, ⟨hschema, hcallback, htopic, hid, hnew⟩, hrest, hnodup, hfresh, hids⟩
        rw [hid]
        refine ⟨⟨⟨hschema, hcallback, htopic⟩, hrest⟩, ⟨hfresh, hnodup⟩, fun id' hid' hmem => ?_⟩
        rcases List.mem_cons.mp hmem with heq | hmem
        · cases heq
          exact hnew hid'
        · exact hids id' hid' hmem
      · rintro ⟨⟨⟨hschema, hcallback, htopic⟩, hrest⟩, ⟨hfresh, hnodup⟩, hids⟩
        obtain ⟨id, hid⟩ := endpointSchema_id hschema
        rw [hid] at hfresh
        refine ⟨id, ⟨hschema, hcallback, htopic, hid, fun hmem => ?_⟩, hrest, hnodup, hfresh, ?_⟩
        · exact hids id hmem (List.mem_cons.mpr (.inl hid.symm))
        · exact fun id' hid' hmem => hids id' hid' (List.mem_cons_of_mem _ hmem)

lemma checks_array {α : Type} {code message : PyStr} {f : List Json → Except PyException α}
    {B : List Json → α → Prop} (hf : ∀ items, value = .arr items → Checks (f items) (B items)) :
    Checks
      (match value with
      | .arr items => f items
      | _ => reject code message)
      fun a => ∃ items, value = .arr items ∧ B items a := by
  cases value with
  | arr items => exact (hf items rfl).congr fun a => by simp
  | _ => exact (checks_reject _ _).congr fun a => by simp

/-- Away from 0 and 1, which also equal a Boolean, Python's `==` with an integer is the schema's. -/
lemma equalsInt_iff {n : ℤ} (hn : n ≠ 0 ∧ n ≠ 1) :
    equalsInt value n = true ↔ const (.int n) value = true := by
  cases value with
  | float x =>
      cases x with
      | finite q => simp [equalsInt, const, Json.equal, eq_comm (a := q)]
      | _ => simp [equalsInt, const, Json.equal]
  | bool b => cases b <;> simp [equalsInt, const, Json.equal] <;> omega
  | int m => simp [equalsInt, const, Json.equal, eq_comm (a := m)]
  | _ => simp [equalsInt, const, Json.equal]

lemma isDomainId_iff :
    isDomainId value = true ↔ all [integerLiteral, minimum 0, maximum 232] value = true := by
  cases value <;> simp [isDomainId, all, integerLiteral, minimum, maximum]

/-- **What the validator accepts**: the format with integer literals for integers, and the rules
between fields. -/
theorem checks_validateDeployment {fields : Fields} :
    Checks (validateDeployment repr fields) fun result =>
      (deploymentFormat integerLiteral (.obj fields) = true ∧ CrossFieldRules (.obj fields)) ∧
        result = fields := by
  refine Decides.congr
    (checks_then checks_exactKeys fun hkeys =>
      checks_getItem (hkeys.2 _ (by decide)) fun _ _ =>
        checks_test (equalsInt_iff (by decide)) <|
      checks_getItem (hkeys.2 _ (by decide)) fun _ _ => checks_pattern <|
      checks_getItem (hkeys.2 _ (by decide)) fun _ _ =>
        checks_test isDomainId_iff <|
      checks_getItem (hkeys.2 _ (by decide)) fun _ _ => checks_const <|
      checks_getItem (hkeys.2 _ (by decide)) fun _ _ => checks_then checks_validateNode fun _ =>
      checks_getItem (hkeys.2 _ (by decide)) fun _ _ => checks_then checks_validateRmw fun _ =>
      checks_getItem (hkeys.2 _ (by decide)) fun _ _ => checks_then checks_validateGraph fun _ =>
      checks_item (hkeys.2 _ (by decide)) fun _ _ => checks_array fun endpoints _ =>
        checks_then checks_validateEndpoints fun _ =>
      checks_getItem (hkeys.2 _ (by decide)) fun _ _ =>
        checks_then checks_validateResources fun _ =>
      Decides.ok fields) fun result => ?_
  rw [deploymentFormat, closedObject_iff]
  constructor
  · rintro ⟨hkeys, hversion, hname, hdomain, hprofile, hnode, hrmw, hgraph, hrest⟩
    obtain ⟨v, hv⟩ := Fields.exists_member (hkeys.2 "endpoints" (by decide))
    obtain ⟨endpoints, rfl, ⟨hendpoints, hids, -⟩, hresources, rfl⟩ := hrest v hv
    refine ⟨⟨⟨_, rfl, hkeys.1, hkeys.2, ?_⟩, ?_, ?_, ?_, ?_, ?_⟩, rfl⟩
    · simp only [List.forall_mem_cons, List.not_mem_nil, false_implies, implies_true, and_true]
      refine ⟨hversion, hname, hdomain, fun v h => (hnode v h).1, hrmw, hprofile, hgraph, ?_,
        fun v h => (hresources v h).1⟩
      intro v h
      cases hv.symm.trans h
      exact array_iff.mpr ⟨endpoints, rfl, fun value hvalue => (hendpoints value hvalue).1⟩
    · intro list h
      cases hv.symm.trans h
      exact hids
    · intro list h endpoint hendpoint
      cases hv.symm.trans h
      exact (hendpoints endpoint hendpoint).2.1
    · intro list h endpoint hendpoint
      cases hv.symm.trans h
      exact (hendpoints endpoint hendpoint).2.2
    · exact fun node h => (hnode node h).2
    · intro list resources h hres
      cases hv.symm.trans h
      exact (hresources resources hres).2
  · rintro ⟨⟨⟨fields, heq, hallowed, hrequired, hprops⟩, hrules⟩, rfl⟩
    cases heq
    simp only [List.forall_mem_cons, List.not_mem_nil, false_implies, implies_true, and_true]
      at hprops
    obtain ⟨hversion, hname, hdomain, hnode, hrmw, hprofile, hgraph, hendpoints,
      hresources⟩ := hprops
    refine ⟨⟨hallowed, hrequired⟩, hversion, hname, hdomain, hprofile,
      fun v h => ⟨hnode v h, hrules.nodeNamespace v h⟩, hrmw, hgraph, fun v h => ?_⟩
    obtain ⟨endpoints, rfl, hitems⟩ := array_iff.mp (hendpoints v h)
    refine ⟨endpoints, rfl, ⟨fun value hvalue => ?_, hrules.distinctIds _ h, by simp⟩, ?_, rfl⟩
    · exact ⟨hitems value hvalue, hrules.callbacks _ h value hvalue, hrules.topics _ h value hvalue⟩
    · exact fun resources hres =>
        ⟨hresources resources hres, hrules.capacity endpoints resources h hres⟩

end Parts

section IntegerNumbers

variable {value : Json}

open JsonSchema

lemma positive_eq (h : value.IntegerNumbers) :
    positive (type .integer) value = positive integerLiteral value := by
  simp only [positive, all, List.all_cons, type_integer h]

lemma nonNegative_eq (h : value.IntegerNumbers) :
    nonNegative (type .integer) value = nonNegative integerLiteral value := by
  simp only [nonNegative, all, List.all_cons, type_integer h]

lemma qosSchema_eq (h : value.IntegerNumbers) :
    qosSchema (type .integer) value = qosSchema integerLiteral value :=
  closedObject_congr h (.cons ⟨rfl, fun _ _ => rfl⟩ (.cons ⟨rfl, fun _ _ => rfl⟩
    (.cons ⟨rfl, fun _ _ => rfl⟩ (.cons ⟨rfl, fun _ => positive_eq⟩ .nil))))

lemma endpointSchema_eq (h : value.IntegerNumbers) :
    endpointSchema (type .integer) value = endpointSchema integerLiteral value :=
  closedObject_congr h (.cons ⟨rfl, fun _ _ => rfl⟩ (.cons ⟨rfl, fun _ _ => rfl⟩
    (.cons ⟨rfl, fun _ _ => rfl⟩ (.cons ⟨rfl, fun _ _ => rfl⟩ (.cons ⟨rfl, fun _ _ => rfl⟩
    (.cons ⟨rfl, fun _ _ => rfl⟩ (.cons ⟨rfl, fun _ => qosSchema_eq⟩ .nil)))))))

lemma remoteSchema_eq (h : value.IntegerNumbers) :
    remoteSchema (type .integer) value = remoteSchema integerLiteral value :=
  closedObject_congr h (.cons ⟨rfl, fun _ => nonNegative_eq⟩
    (.cons ⟨rfl, fun _ => nonNegative_eq⟩ (.cons ⟨rfl, fun _ => nonNegative_eq⟩ .nil)))

lemma workersSchema_eq (h : value.IntegerNumbers) :
    workersSchema (type .integer) value = workersSchema integerLiteral value :=
  closedObject_congr h (.cons ⟨rfl, fun _ => positive_eq⟩ .nil)

lemma applicationSchema_eq (h : value.IntegerNumbers) :
    applicationSchema (type .integer) value = applicationSchema integerLiteral value :=
  closedObject_congr h (.cons ⟨rfl, fun _ => nonNegative_eq⟩ .nil)

lemma budgetSchema_eq (h : value.IntegerNumbers) :
    budgetSchema (type .integer) value = budgetSchema integerLiteral value :=
  closedObject_congr h (.cons ⟨rfl, fun _ => positive_eq⟩ (.cons ⟨rfl, fun _ => positive_eq⟩ .nil))

lemma targetsSchema_eq (h : value.IntegerNumbers) :
    targetsSchema (type .integer) value = targetsSchema integerLiteral value := by
  rw [Bool.eq_iff_iff, targetsSchema_iff, targetsSchema_iff]
  refine exists_congr fun targets => and_congr_right fun heq => and_congr_right fun _ => ?_
  subst heq
  exact forall₂_congr fun target htarget => by rw [budgetSchema_eq (h.entry htarget)]

lemma resourcesSchema_eq (h : value.IntegerNumbers) :
    resourcesSchema (type .integer) value = resourcesSchema integerLiteral value :=
  closedObject_congr h (.cons ⟨rfl, fun _ => nonNegative_eq⟩ (.cons ⟨rfl, fun _ => remoteSchema_eq⟩
    (.cons ⟨rfl, fun _ => workersSchema_eq⟩ (.cons ⟨rfl, fun _ => applicationSchema_eq⟩
    (.cons ⟨rfl, fun _ => targetsSchema_eq⟩ .nil)))))

lemma endpointsSchema_eq (h : value.IntegerNumbers) :
    all [type .array, items (endpointSchema (type .integer))] value =
      all [type .array, items (endpointSchema integerLiteral)] value := by
  rw [Bool.eq_iff_iff, array_iff, array_iff]
  refine exists_congr fun list => and_congr_right fun heq => ?_
  subst heq
  exact forall₂_congr fun endpoint hendpoint => by rw [endpointSchema_eq (h.item hendpoint)]

lemma domainId_eq (h : value.IntegerNumbers) :
    all [type .integer, minimum 0, maximum 232] value =
      all [integerLiteral, minimum 0, maximum 232] value := by
  simp only [all, List.all_cons, type_integer h]

/-- On documents without floats the two readings of the format agree. -/
theorem deploymentSchema_eq (h : value.IntegerNumbers) :
    deploymentSchema value = deploymentFormat integerLiteral value :=
  closedObject_congr h (.cons ⟨rfl, fun _ _ => rfl⟩ (.cons ⟨rfl, fun _ _ => rfl⟩
    (.cons ⟨rfl, fun _ => domainId_eq⟩ (.cons ⟨rfl, fun _ _ => rfl⟩ (.cons ⟨rfl, fun _ _ => rfl⟩
    (.cons ⟨rfl, fun _ _ => rfl⟩ (.cons ⟨rfl, fun _ _ => rfl⟩
    (.cons ⟨rfl, fun _ => endpointsSchema_eq⟩
      (.cons ⟨rfl, fun _ => resourcesSchema_eq⟩ .nil)))))))))

end IntegerNumbers

/-- **The validator is the schema and the rules between fields.**  For a document whose numbers are
integer literals, `validate_deployment` returns exactly when the schema accepts the document and
the cross-field rules hold; it returns the document itself, and whatever it raises is a
`DeploymentError`. -/
theorem validateDeployment_agrees (repr : PyStr → PyStr) (fields : Fields)
    (hvalue : (Json.obj fields).IntegerNumbers) :
    ((∃ result, validateDeployment repr fields = .ok result) ↔
      deploymentSchema (.obj fields) = true ∧ CrossFieldRules (.obj fields)) ∧
    (∀ result, validateDeployment repr fields = .ok result → result = fields) ∧
    ∀ exception, validateDeployment repr fields = .error exception →
      ∃ code message, exception = .deploymentError code message := by
  have hchecks := @checks_validateDeployment repr fields
  rw [← deploymentSchema_eq hvalue] at hchecks
  refine ⟨⟨?_, ?_⟩, ?_, ?_⟩
  · rintro ⟨result, hresult⟩
    exact ((hchecks.ok_iff result).mp hresult).1
  · intro h
    exact ⟨fields, (hchecks.ok_iff fields).mpr ⟨h, rfl⟩⟩
  · intro result hresult
    exact ((hchecks.ok_iff result).mp hresult).2
  · intro exception hexception
    have hkind := hchecks.error_of _ hexception
    cases exception with
    | deploymentError code message => exact ⟨code, message, rfl⟩
    | _ => exact hkind.elim

section Loopback

/-- An endpoint of `samples/loopback/deployment.json`. -/
def loopbackEndpoint (id kind : PyStr) (callback : Fields) : Json :=
  .obj (("id", .str id) :: ("kind", .str kind) :: ("topic", .str "ros2_zephyr_loopback") ::
    ("type", .str "ros2_zephyr_test_msgs/msg/NestedFixed") ::
    ("qos", .obj [("reliability", .str "best_effort"), ("durability", .str "volatile"),
      ("history", .str "keep_last"), ("depth", .int 5)]) ::
    ("lifetime", .str "fixed_startup") :: callback)

/-- `samples/loopback/deployment.json`, with one of its target budgets. -/
def loopbackDeployment : Fields :=
  [("schema_version", .int 2),
    ("name", .str "minimal_pubsub"),
    ("domain_id", .int 95),
    ("node", .obj [("name", .str "ros2_zephyr_loopback"), ("namespace", .str "")]),
    ("rmw", .arr [.str "rmw_cyclonedds_c", .str "rmw_zenoh_pico"]),
    ("message_profile", .str "fixed_size"),
    ("graph", .obj [("outbound", .bool false), ("inbound", .bool false), ("api", .arr [])]),
    ("resources", .obj [
      ("local_endpoints", .int 2),
      ("remote", .obj [("participants", .int 0), ("nodes", .int 0), ("endpoints", .int 0)]),
      ("workers", .obj [("maximum", .int 8)]),
      ("application", .obj [("static_reserve_bytes", .int 16384)]),
      ("targets", .obj [
        ("native_sim/native/64",
          .obj [("flash_bytes", .int 1000000), ("ram_bytes", .int 1500000)])])]),
    ("endpoints", .arr [
      loopbackEndpoint "outgoing" "publisher" [],
      loopbackEndpoint "incoming" "subscription" [("callback", .str "subscription_callback")]])]

lemma loopbackDeployment_integerNumbers : (Json.obj loopbackDeployment).IntegerNumbers := by
  simp [loopbackDeployment, loopbackEndpoint]

lemma loopbackDeployment_returns :
    ∃ result, validateDeployment id loopbackDeployment = .ok result :=
  exists_ok_of_toBool (by decide)

theorem validateDeployment_agrees_loopback :
    (∃ result, validateDeployment id loopbackDeployment = .ok result) ∧
      deploymentSchema (.obj loopbackDeployment) = true ∧
      CrossFieldRules (.obj loopbackDeployment) :=
  ⟨loopbackDeployment_returns,
    (validateDeployment_agrees id _ loopbackDeployment_integerNumbers).1.mp
      loopbackDeployment_returns⟩

end Loopback

end Ros2Zephyr
