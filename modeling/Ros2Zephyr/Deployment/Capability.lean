import Ros2Zephyr.Core.Fallible
import Ros2Zephyr.Deployment.Manifest

/-!
# A deployment against the capabilities of a backend

`validate_capabilities` of `tools/compile_deployment.py`.  The capability document is not validated
first: each check reads a member and applies an operator of Python to whatever it finds, and `in`
and `set` take strings and dictionaries as well as arrays, and fail on everything else.

* `Finding` — what becomes of one demand of the deployment: it is met, refused with a
  `DeploymentError`, lets another exception escape, or slips through a test that was not made for
  the value.
* `capabilityFindings` — the demands in the order of the checks, and
  `concludes_validateCapabilities`: the first one that is refused or escapes decides.
* `Conforms` — what an accepted pair is meant to satisfy.
-/

namespace Ros2Zephyr

open Fallible

/-! ## Operators of Python

On the values that `json.loads` returns.  Where an operator raises, it is not a `DeploymentError`,
and `main` does not catch it.
-/

/-- `bool(value)` -/
def truthy : Json → Bool
  | .null => false
  | .bool b => b
  | .int n => n != 0
  | .float (.finite q) => q != 0
  | .float _ => true
  | .str s => !s.isEmpty
  | .arr items => !items.isEmpty
  | .obj fields => !fields.isEmpty

/-- `item in container` -/
def pyContains (item : PyStr) (container : Json) : Except PyException Bool :=
  match container with
  | .arr items => .ok (items.any (equalsStr · item))
  | .str s => .ok (decide (item <:+: s))
  | .obj fields => .ok (decide (item ∈ Fields.keys fields))
  | _ => .error .typeError

def hashable : Json → Bool
  | .arr _ => false
  | .obj _ => false
  | _ => true

/-- The strings in `set(value)`. -/
def pySet (value : Json) : Except PyException (List PyStr) :=
  match value with
  | .arr items =>
      if items.all hashable then .ok (items.filterMap Json.asStr) else .error .typeError
  | .str s => .ok (s.map fun c => [c])
  | .obj fields => .ok (Fields.keys fields)
  | _ => .error .typeError

/-! ## The checks

One definition for each check of the source, with its code and its message.
-/

inductive Policy
  | reliability
  | durability
  | history
  deriving DecidableEq

def Policy.name : Policy → PyStr
  | reliability => "reliability"
  | durability => "durability"
  | history => "history"

/-- `qos[policy]` of an accepted endpoint. -/
def Qos.requested (qos : Qos) : Policy → PyStr
  | .reliability =>
      match qos.reliability with
      | .bestEffort => "best_effort"
      | .reliable => "reliable"
  | .durability =>
      match qos.durability with
      | .volatile => "volatile"
      | .transientLocal => "transient_local"
  | .history => "keep_last"

section Checks

/-- `value.get(key)` -/
def getOr (fields : Fields) (key : PyStr) (default : Json) : Json :=
  (fields.member key).getD default

def checkSelected (manifest : Manifest) (backend : PyStr) : Except PyException Unit :=
  if backend ∉ manifest.rmw then
    reject "E_BACKEND_NOT_SELECTED"
      ("backend " ++ backend ++ " is not allowed by this deployment")
  else .ok ()

def checkAddressed (capability : Fields) (backend : PyStr) : Except PyException Unit :=
  if !equalsInt (getOr capability "schema_version" .null) 1 ||
      !equalsStr (getOr capability "backend" .null) backend then
    reject "E_CAPABILITY_SCHEMA" ("invalid capability document for " ++ backend)
  else .ok ()

def checkProfile (capability : Fields) (backend : PyStr) : Except PyException Unit := do
  if !(← pyContains "fixed_size" (getOr capability "message_profiles" (.arr []))) then
    reject "E_MESSAGE_PROFILE_UNSUPPORTED"
      ("backend " ++ backend ++ " does not support fixed_size")
  else .ok ()

/-- The bounds of a range of depths that is one. -/
def depthRange (depthCap : Fields) : Option (ℤ × ℤ) :=
  match depthCap.member "minimum", depthCap.member "maximum" with
  | some (.int minimum), some (.int maximum) =>
      if minimum < 1 ∨ maximum < minimum then none else some (minimum, maximum)
  | _, _ => none

def checkRange (depthCap : Fields) (backend : PyStr) : Except PyException (ℤ × ℤ) :=
  match depthRange depthCap with
  | some range => .ok range
  | none =>
      reject "E_CAPABILITY_SCHEMA" ("invalid QoS depth range for " ++ backend)

def checkPolicy (qosCap : Fields) (backend : PyStr) (endpoint : Endpoint) (policy : Policy) :
    Except PyException Unit := do
  if !(← pyContains (endpoint.qos.requested policy) (getOr qosCap policy.name (.arr []))) then
    reject "E_QOS_UNSUPPORTED"
      ("endpoint " ++ endpoint.topic ++ " requests " ++ policy.name
        ++ "=" ++ endpoint.qos.requested policy ++ "; backend "
        ++ backend ++ " does not support it")
  else .ok ()

def checkDepth (range : ℤ × ℤ) (backend : PyStr) (endpoint : Endpoint) :
    Except PyException Unit :=
  if ¬ (range.1 ≤ endpoint.qos.depth ∧ (endpoint.qos.depth : ℤ) ≤ range.2) then
    reject "E_QOS_UNSUPPORTED"
      ("endpoint " ++ endpoint.topic ++ " requests depth="
        ++ PyStr.ofNat endpoint.qos.depth ++ "; backend " ++ backend
        ++ " accepts " ++ PyStr.ofInt range.1 ++ ".."
        ++ PyStr.ofInt range.2)
  else .ok ()

/-- One turn of the loop over the endpoints. -/
def checkEndpoint (qosCap : Fields) (range : ℤ × ℤ) (backend : PyStr) (endpoint : Endpoint) :
    Except PyException Unit := do
  checkPolicy qosCap backend endpoint .reliability
  checkPolicy qosCap backend endpoint .durability
  checkPolicy qosCap backend endpoint .history
  checkDepth range backend endpoint

def checkEndpoints (qosCap : Fields) (range : ℤ × ℤ) (backend : PyStr) :
    List Endpoint → Except PyException Unit
  | [] => .ok ()
  | endpoint :: endpoints => do
      checkEndpoint qosCap range backend endpoint
      checkEndpoints qosCap range backend endpoints

def checkDirection (graphCap : Fields) (backend direction : PyStr) (required : Bool) :
    Except PyException Unit :=
  if required && !truthy (getOr graphCap direction .null) then
    reject "E_GRAPH_UNSUPPORTED"
      ("deployment requires " ++ direction
        ++ " graph behavior; backend " ++ backend ++ " lacks it")
  else .ok ()

def checkApi (graphCap : Fields) (backend : PyStr) (api : List PyStr) :
    Except PyException Unit := do
  let supported ← pySet (getOr graphCap "api" (.arr []))
  match sortKeys (api.filter (· ∉ supported)) with
  | [] => .ok ()
  | missing :: _ =>
      reject "E_GRAPH_UNSUPPORTED"
        ("deployment requires graph API " ++ missing ++ "; backend "
          ++ backend ++ " lacks it")

/-- `validate_capabilities`. -/
def validateCapabilities (manifest : Manifest) (capability : Fields) (backend : PyStr) :
    Except PyException Unit := do
  checkSelected manifest backend
  checkAddressed capability backend
  checkProfile capability backend
  let qosCap ← requireObject (getOr capability "qos" .null)
    ("capability " ++ backend ++ ".qos")
  let depthCap ← requireObject (getOr qosCap "depth" .null)
    ("capability " ++ backend ++ ".qos.depth")
  let range ← checkRange depthCap backend
  checkEndpoints qosCap range backend manifest.boundary.endpoints
  let graphCap ← requireObject (getOr capability "graph" .null)
    ("capability " ++ backend ++ ".graph")
  checkDirection graphCap backend "outbound" manifest.outbound
  checkDirection graphCap backend "inbound" manifest.inbound
  checkApi graphCap backend manifest.api

end Checks

/-! ## Demands and what becomes of them

A check and its demand are two views of one line of the source.  The demand says what the line is
for, and `Concludes` ties the two together: going through the checks is going through the findings.
-/

inductive Finding
  | met
  | refused
  | escapes
  | slips
  deriving DecidableEq

inductive Conclusion
  | passes
  | refuses
  | escapes
  deriving DecidableEq

/-- The first demand that is refused or lets an exception escape decides. -/
def conclusion : List Finding → Conclusion
  | [] => .passes
  | .met :: rest => conclusion rest
  | .slips :: rest => conclusion rest
  | .refused :: _ => .refuses
  | .escapes :: _ => .escapes

/-- A computation ends as concluded. -/
def Concludes {α : Type} (x : Except PyException α) : Conclusion → Prop
  | .passes => ∃ a, x = .ok a
  | .refuses => ∃ code message, x = .error (.deploymentError code message)
  | .escapes => ∃ e, x = .error e ∧ ¬ e.IsDeploymentError

def passIf (p : Bool) : Finding := if p then .met else .refused

def isArray : Json → Bool
  | .arr _ => true
  | _ => false

def isObject : Json → Bool
  | .obj _ => true
  | _ => false

/-- The demand that a string be an element of an array. -/
def elementFinding (item : PyStr) (container : Json) : Finding :=
  match pyContains item container with
  | .error _ => .escapes
  | .ok false => .refused
  | .ok true => if isArray container then .met else .slips

/-- To Python `true` is the version 1 as well. -/
def addressFinding (capability : Fields) (backend : PyStr) : Finding :=
  if equalsInt (getOr capability "schema_version" .null) 1 &&
      equalsStr (getOr capability "backend" .null) backend then
    if Json.equal (.int 1) (getOr capability "schema_version" .null) then .met else .slips
  else .refused

/-- It does not matter here what the profile is found in. -/
def profileFinding (capability : Fields) : Finding :=
  match pyContains "fixed_size" (getOr capability "message_profiles" (.arr [])) with
  | .error _ => .escapes
  | .ok found => passIf found

def depthFinding (range : ℤ × ℤ) (endpoint : Endpoint) : Finding :=
  passIf (decide (range.1 ≤ endpoint.qos.depth ∧ (endpoint.qos.depth : ℤ) ≤ range.2))

def policyFinding (qosCap : Fields) (endpoint : Endpoint) (policy : Policy) : Finding :=
  elementFinding (endpoint.qos.requested policy) (getOr qosCap policy.name (.arr []))

def endpointFindings (qosCap : Fields) (range : ℤ × ℤ) (endpoint : Endpoint) : List Finding :=
  [policyFinding qosCap endpoint .reliability, policyFinding qosCap endpoint .durability,
    policyFinding qosCap endpoint .history, depthFinding range endpoint]

def directionFinding (graphCap : Fields) (direction : PyStr) (required : Bool) : Finding :=
  passIf (!required || truthy (getOr graphCap direction .null))

def apiFinding (graphCap : Fields) (api : List PyStr) : Finding :=
  match pySet (getOr graphCap "api" (.arr [])) with
  | .error _ => .escapes
  | .ok supported =>
      if ∀ name ∈ api, name ∈ supported then
        if api.isEmpty || isArray (getOr graphCap "api" (.arr [])) then .met else .slips
      else .refused

/-- An object in a place where the code insists on one; of anything else nothing more is read. -/
def objectOf (value : Json) : Fields := value.asFields.getD []

def qosCapability (capability : Fields) : Json := getOr capability "qos" .null
def depthCapability (capability : Fields) : Json :=
  getOr (objectOf (qosCapability capability)) "depth" .null
def graphCapability (capability : Fields) : Json := getOr capability "graph" .null
def rangeOf (capability : Fields) : Option (ℤ × ℤ) :=
  depthRange (objectOf (depthCapability capability))

/-- What the deployment demands of the capability document, in the order of the checks. -/
def capabilityFindings (manifest : Manifest) (capability : Fields) (backend : PyStr) :
    List Finding :=
  [passIf (decide (backend ∈ manifest.rmw)), addressFinding capability backend,
    profileFinding capability, passIf (isObject (qosCapability capability)),
    passIf (isObject (depthCapability capability)), passIf (rangeOf capability).isSome] ++
  (manifest.boundary.endpoints.flatMap
      (endpointFindings (objectOf (qosCapability capability)) ((rangeOf capability).getD (0, 0))) ++
    [passIf (isObject (graphCapability capability)),
      directionFinding (objectOf (graphCapability capability)) "outbound" manifest.outbound,
      directionFinding (objectOf (graphCapability capability)) "inbound" manifest.inbound,
      apiFinding (objectOf (graphCapability capability)) manifest.api])

section Conclusions

variable {α β : Type} {x : Except PyException α} {f : α → Except PyException β}
  {manifest : Manifest} {capability : Fields} {backend : PyStr}

lemma conclusion_append (fs gs : List Finding) :
    conclusion (fs ++ gs) =
      match conclusion fs with
      | .passes => conclusion gs
      | c => c := by
  induction fs with
  | nil => rfl
  | cons finding fs ih =>
      cases finding with
      | met => exact ih
      | slips => exact ih
      | refused => rfl
      | escapes => rfl

/-- **Checks in sequence.** -/
theorem Concludes.append {fs gs : List Finding} (hx : Concludes x (conclusion fs))
    (hf : ∀ a, x = .ok a → Concludes (f a) (conclusion gs)) :
    Concludes (x >>= f) (conclusion (fs ++ gs)) := by
  rw [conclusion_append]
  cases hfs : conclusion fs with
  | passes =>
      rw [hfs] at hx
      obtain ⟨a, ha⟩ := hx
      rw [ha]
      exact hf a ha
  | refuses =>
      rw [hfs] at hx
      obtain ⟨code, message, herror⟩ := hx
      exact ⟨code, message, by rw [herror, error_bind]⟩
  | escapes =>
      rw [hfs] at hx
      obtain ⟨e, herror, hkind⟩ := hx
      exact ⟨e, by rw [herror, error_bind], hkind⟩

/-- A check, and what is computed from its result. -/
lemma Concludes.then {fs : List Finding} (hx : Concludes x (conclusion fs))
    (hf : ∀ a, ∃ b, f a = .ok b) : Concludes (x >>= f) (conclusion fs) := by
  rw [← List.append_nil fs]
  exact hx.append fun a _ => hf a

lemma concludes_refuseIf {c : Prop} [Decidable c] {p : Bool} {code message : PyStr}
    (h : c ↔ p = false) :
    Concludes (if c then reject code message else .ok ()) (conclusion [passIf p]) := by
  cases p with
  | true =>
      rw [if_neg (by simp [h])]
      exact ⟨(), rfl⟩
  | false =>
      rw [if_pos (h.mpr rfl)]
      exact ⟨code, message, rfl⟩

lemma concludes_checkSelected :
    Concludes (checkSelected manifest backend)
      (conclusion [passIf (decide (backend ∈ manifest.rmw))]) :=
  concludes_refuseIf (by simp)

lemma concludes_checkAddressed :
    Concludes (checkAddressed capability backend)
      (conclusion [addressFinding capability backend]) := by
  unfold checkAddressed addressFinding
  cases equalsInt (getOr capability "schema_version" .null) 1 with
  | false => exact ⟨_, _, rfl⟩
  | true =>
      cases equalsStr (getOr capability "backend" .null) backend with
      | false => exact ⟨_, _, rfl⟩
      | true =>
          cases Json.equal (.int 1) (getOr capability "schema_version" .null) with
          | false => exact ⟨(), rfl⟩
          | true => exact ⟨(), rfl⟩

lemma pyContains_error {item : PyStr} {container : Json} {e : PyException}
    (h : pyContains item container = .error e) : ¬ e.IsDeploymentError := by
  cases container with
  | arr items => cases h
  | str s => cases h
  | obj fields => cases h
  | _ =>
      cases h
      exact id

lemma concludes_checkProfile :
    Concludes (checkProfile capability backend) (conclusion [profileFinding capability]) := by
  unfold checkProfile profileFinding
  cases hfound : pyContains "fixed_size" (getOr capability "message_profiles" (.arr [])) with
  | error e => exact ⟨e, rfl, pyContains_error hfound⟩
  | ok found =>
      cases found with
      | true => exact ⟨(), rfl⟩
      | false => exact ⟨_, _, rfl⟩

lemma concludes_requireObject {value : Json} {path : PyStr} :
    Concludes (requireObject value path) (conclusion [passIf (isObject value)]) := by
  cases value with
  | obj fields => exact ⟨fields, rfl⟩
  | _ => exact ⟨_, _, rfl⟩

lemma objectOf_eq {value : Json} {path : PyStr} {fields : Fields}
    (h : requireObject value path = .ok fields) : objectOf value = fields := by
  cases value with
  | obj fields' =>
      cases h
      rfl
  | _ => cases h

lemma concludes_checkRange {depthCap : Fields} :
    Concludes (checkRange depthCap backend) (conclusion [passIf (depthRange depthCap).isSome]) := by
  unfold checkRange
  cases depthRange depthCap with
  | some range => exact ⟨range, rfl⟩
  | none => exact ⟨_, _, rfl⟩

lemma rangeOf_eq {depthCap : Fields} {range : ℤ × ℤ} (h : checkRange depthCap backend = .ok range) :
    (depthRange depthCap).getD (0, 0) = range := by
  unfold checkRange at h
  cases hrange : depthRange depthCap with
  | some range' =>
      rw [hrange] at h
      cases h
      rfl
  | none =>
      rw [hrange] at h
      cases h

/-- The policy of an endpoint is looked for with `in`, in whatever the capability document has
there. -/
lemma concludes_checkPolicy {qosCap : Fields} {endpoint : Endpoint} {policy : Policy} :
    Concludes (checkPolicy qosCap backend endpoint policy)
      (conclusion [policyFinding qosCap endpoint policy]) := by
  unfold checkPolicy policyFinding elementFinding
  cases hfound :
      pyContains (endpoint.qos.requested policy) (getOr qosCap policy.name (.arr [])) with
  | error e => exact ⟨e, rfl, pyContains_error hfound⟩
  | ok found =>
      cases found with
      | false => exact ⟨_, _, rfl⟩
      | true =>
          cases isArray (getOr qosCap policy.name (.arr [])) with
          | true => exact ⟨(), rfl⟩
          | false => exact ⟨(), rfl⟩

lemma concludes_checkEndpoint {qosCap : Fields} {range : ℤ × ℤ} {endpoint : Endpoint} :
    Concludes (checkEndpoint qosCap range backend endpoint)
      (conclusion (endpointFindings qosCap range endpoint)) :=
  concludes_checkPolicy.append fun _ _ => concludes_checkPolicy.append fun _ _ =>
    concludes_checkPolicy.append fun _ _ => concludes_refuseIf (by simp)

lemma concludes_checkEndpoints {qosCap : Fields} {range : ℤ × ℤ} {endpoints : List Endpoint} :
    Concludes (checkEndpoints qosCap range backend endpoints)
      (conclusion (endpoints.flatMap (endpointFindings qosCap range))) := by
  induction endpoints with
  | nil => exact ⟨(), rfl⟩
  | cons endpoint endpoints ih =>
      rw [List.flatMap_cons]
      exact concludes_checkEndpoint.append fun _ _ => ih

lemma concludes_checkDirection {graphCap : Fields} {direction : PyStr} {required : Bool} :
    Concludes (checkDirection graphCap backend direction required)
      (conclusion [directionFinding graphCap direction required]) :=
  concludes_refuseIf (by simp)

/-- What `set` raises is no `DeploymentError`. -/
lemma pySet_error {value : Json} {e : PyException} (h : pySet value = .error e) :
    ¬ e.IsDeploymentError := by
  cases value with
  | arr items =>
      simp only [pySet] at h
      split at h
      · cases h
      · cases h
        exact id
  | str s => cases h
  | obj fields => cases h
  | _ =>
      cases h
      exact id

/-- The required functions are compared with the set of what the document has under `api`. -/
lemma concludes_checkApi {graphCap : Fields} {api : List PyStr} :
    Concludes (checkApi graphCap backend api) (conclusion [apiFinding graphCap api]) := by
  unfold checkApi apiFinding
  cases hset : pySet (getOr graphCap "api" (.arr [])) with
  | error e => exact ⟨e, rfl, pySet_error hset⟩
  | ok supported =>
      rw [ok_bind]
      by_cases hall : ∀ name ∈ api, name ∈ supported
      · have hnone : sortKeys (api.filter (· ∉ supported)) = [] :=
          sortKeys_eq_nil.mpr (filter_eq_nil.mpr hall)
        simp only [hnone, if_pos hall]
        cases api.isEmpty || isArray (getOr graphCap "api" (.arr [])) with
        | true => exact ⟨(), rfl⟩
        | false => exact ⟨(), rfl⟩
      · simp only [if_neg hall]
        cases hmissing : sortKeys (api.filter (· ∉ supported)) with
        | nil => exact absurd (filter_eq_nil.mp (sortKeys_eq_nil.mp hmissing)) hall
        | cons missing rest => exact ⟨_, _, rfl⟩

/-- **The capability check.**  It ends with the first demand that is refused or escapes. -/
theorem concludes_validateCapabilities :
    Concludes (validateCapabilities manifest capability backend)
      (conclusion (capabilityFindings manifest capability backend)) := by
  refine concludes_checkSelected.append fun _ _ => concludes_checkAddressed.append fun _ _ =>
    concludes_checkProfile.append fun _ _ => concludes_requireObject.append fun qosCap hqos => ?_
  obtain rfl := objectOf_eq hqos
  refine concludes_requireObject.append fun depthCap hdepth => ?_
  obtain rfl := objectOf_eq hdepth
  refine concludes_checkRange.append fun range hrange => ?_
  have hrangeOf : (rangeOf capability).getD (0, 0) = range := rangeOf_eq hrange
  rw [hrangeOf]
  refine concludes_checkEndpoints.append fun _ _ =>
    concludes_requireObject.append fun graphCap hgraph => ?_
  obtain rfl := objectOf_eq hgraph
  exact concludes_checkDirection.append fun _ _ => concludes_checkDirection.append fun _ _ =>
    concludes_checkApi

end Conclusions

/-! ## What an accepted pair satisfies

`Conforms` reads the documents as their authors would.  A demand that is met in the sense of
`Finding` says the same; one that slips through says less.
-/

/-- **The deployment stays within the capabilities of the backend.** -/
structure Conforms (manifest : Manifest) (capability : Fields) (backend : PyStr) : Prop where
  selected : backend ∈ manifest.rmw
  addressed : (Json.obj capability).path ["backend"] = some (.str backend)
  version : ∃ v, (Json.obj capability).path ["schema_version"] = some v ∧
    Json.equal (.int 1) v = true
  policies : ∀ endpoint ∈ manifest.boundary.endpoints, ∀ policy : Policy, ∃ items,
    (Json.obj capability).path ["qos", policy.name] = some (.arr items) ∧
      .str (endpoint.qos.requested policy) ∈ items
  depths : ∃ minimum maximum : ℤ,
    (Json.obj capability).path ["qos", "depth", "minimum"] = some (.int minimum) ∧
    (Json.obj capability).path ["qos", "depth", "maximum"] = some (.int maximum) ∧
    ∀ endpoint ∈ manifest.boundary.endpoints,
      minimum ≤ endpoint.qos.depth ∧ (endpoint.qos.depth : ℤ) ≤ maximum
  outbound : manifest.outbound = true →
    ∃ v, (Json.obj capability).path ["graph", "outbound"] = some v ∧ truthy v = true
  inbound : manifest.inbound = true →
    ∃ v, (Json.obj capability).path ["graph", "inbound"] = some v ∧ truthy v = true
  api : ∀ name ∈ manifest.api, ∃ items,
    (Json.obj capability).path ["graph", "api"] = some (.arr items) ∧ .str name ∈ items

section Conforming

variable {manifest : Manifest} {capability fields : Fields} {backend key key' : PyStr}
  {value default : Json}

lemma conclusion_eq_passes {fs : List Finding} :
    conclusion fs = .passes ↔ ∀ finding ∈ fs, finding = .met ∨ finding = .slips := by
  induction fs with
  | nil => simp [conclusion]
  | cons finding fs ih =>
      rw [List.forall_mem_cons, ← ih]
      cases finding <;> simp [conclusion]

@[simp] lemma passIf_eq_met {p : Bool} : passIf p = .met ↔ p = true := by
  cases p <;> simp [passIf]

@[simp] lemma passIf_ne_slips {p : Bool} : passIf p ≠ .slips := by
  cases p <;> simp [passIf]

lemma member_objectOf : (objectOf value).member key = value.field key := by
  cases value <;> rfl

lemma getOr_objectOf : getOr (objectOf value) key default = (value.field key).getD default := by
  rw [getOr, member_objectOf]

/-- A member of a member that may be missing. -/
lemma field_getOr : (getOr fields key .null).field key' = (Json.obj fields).path [key, key'] := by
  have hpath : (Json.obj fields).path [key, key']
      = ((Fields.member fields key).bind fun v => (v.field key').bind some) := rfl
  rw [hpath, getOr]
  cases Fields.member fields key with
  | none => rfl
  | some v => simp

lemma equalsStr_any_iff {item : PyStr} {items : List Json} :
    items.any (equalsStr · item) = true ↔ .str item ∈ items := by
  simp only [List.any_eq_true, equalsStr_iff]
  constructor
  · rintro ⟨v, hv, rfl⟩
    exact hv
  · intro h
    exact ⟨_, h, rfl⟩

/-- A demand for an element is met by an array only. -/
lemma elementFinding_eq_met {item : PyStr} {container : Json} :
    elementFinding item container = .met ↔ ∃ items, container = .arr items ∧ .str item ∈ items := by
  cases container with
  | arr items =>
      simp only [elementFinding, pyContains, Json.arr.injEq, exists_eq_left', ← equalsStr_any_iff]
      cases items.any (equalsStr · item) <;> simp [isArray]
  | str s =>
      simp only [elementFinding, pyContains]
      cases decide (item <:+: s) <;> simp [isArray]
  | obj fields =>
      simp only [elementFinding, pyContains]
      cases decide (item ∈ Fields.keys fields) <;> simp [isArray]
  | _ => simp [elementFinding, pyContains]

lemma getD_arr_eq {o : Option Json} {item : Json} :
    (∃ items, o.getD (.arr []) = .arr items ∧ item ∈ items) ↔
      ∃ items, o = some (.arr items) ∧ item ∈ items := by
  cases o with
  | none => simp
  | some v => simp

lemma policyFinding_eq_met {endpoint : Endpoint} {policy : Policy} :
    policyFinding (objectOf (qosCapability capability)) endpoint policy = .met ↔ ∃ items,
      (Json.obj capability).path ["qos", policy.name] = some (.arr items) ∧
        .str (endpoint.qos.requested policy) ∈ items := by
  rw [policyFinding, elementFinding_eq_met, getOr_objectOf, getD_arr_eq, qosCapability, field_getOr]

lemma directionFinding_eq_met {direction : PyStr} {required : Bool} :
    directionFinding (objectOf (graphCapability capability)) direction required = .met ↔
      (required = true → ∃ v, (Json.obj capability).path ["graph", direction] = some v ∧
        truthy v = true) := by
  rw [directionFinding, passIf_eq_met, getOr_objectOf, graphCapability, field_getOr]
  cases required with
  | false => simp
  | true =>
      cases (Json.obj capability).path ["graph", direction] with
      | none => simp [truthy]
      | some v => simp

lemma path_singleton : (Json.obj fields).path [key] = fields.member key := by
  have hpath : (Json.obj fields).path [key] = (Fields.member fields key).bind some := rfl
  rw [hpath]
  cases Fields.member fields key <;> rfl

/-- The JSON number 1 is 1 to Python. -/
lemma equalsInt_of_equal (h : Json.equal (.int 1) value = true) : equalsInt value 1 = true := by
  cases value with
  | int n =>
      simp only [Json.equal, beq_iff_eq] at h
      simp [equalsInt, ← h]
  | float x =>
      cases x with
      | finite q =>
          simp only [Json.equal, beq_iff_eq] at h
          simp [equalsInt, ← h]
      | _ => simp [Json.equal] at h
  | _ => simp [Json.equal] at h

/-- Version and backend are met by the number 1 and by the name: `true` equals 1 in Python and is
the case that slips through. -/
lemma addressFinding_eq_met :
    addressFinding capability backend = .met ↔
      (Json.obj capability).path ["backend"] = some (.str backend) ∧
        ∃ v, (Json.obj capability).path ["schema_version"] = some v ∧
          Json.equal (.int 1) v = true := by
  rw [path_singleton, path_singleton]
  have hbackend : equalsStr (getOr capability "backend" .null) backend = true ↔
      capability.member "backend" = some (.str backend) := by
    rw [equalsStr_iff, getOr]
    cases Fields.member capability "backend" <;> simp
  have hversion : (∃ v, capability.member "schema_version" = some v ∧
      Json.equal (.int 1) v = true) ↔
      Json.equal (.int 1) (getOr capability "schema_version" .null) = true := by
    rw [getOr]
    cases Fields.member capability "schema_version" with
    | none =>
        constructor
        · rintro ⟨v, hv, -⟩
          cases hv
        · intro hnull
          simp [Json.equal] at hnull
    | some v => simp
  rw [← hbackend, hversion, addressFinding]
  constructor
  · intro h
    split at h
    next hcond =>
      split at h
      next hequal => exact ⟨(Bool.and_eq_true_iff.mp hcond).2, hequal⟩
      next => cases h
    next => cases h
  · rintro ⟨hb, hequal⟩
    rw [if_pos (Bool.and_eq_true_iff.mpr ⟨equalsInt_of_equal hequal, hb⟩), if_pos hequal]

/-- The range is made of the two members of the document. -/
lemma rangeOf_eq_some {range : ℤ × ℤ} (h : rangeOf capability = some range) :
    (Json.obj capability).path ["qos", "depth", "minimum"] = some (.int range.1) ∧
    (Json.obj capability).path ["qos", "depth", "maximum"] = some (.int range.2) := by
  have hfield : ∀ k, (objectOf (depthCapability capability)).member k
      = (Json.obj capability).path ["qos", "depth", k] := by
    intro k
    have hpath : (Json.obj capability).path ["qos", "depth", k]
        = ((Json.obj capability).path ["qos", "depth"]).bind fun v => v.field k := by
      simp [Json.path, Option.bind_assoc]
    rw [member_objectOf, hpath, depthCapability, getOr_objectOf, qosCapability, field_getOr]
    cases (Json.obj capability).path ["qos", "depth"] <;> rfl
  unfold rangeOf depthRange at h
  rw [hfield, hfield] at h
  split at h
  next minimum maximum hminimum hmaximum =>
    split at h
    next => cases h
    next =>
      cases h
      exact ⟨hminimum, hmaximum⟩
  next => cases h

/-- The required functions are elements of the array. -/
lemma api_of_met {api : List PyStr}
    (h : apiFinding (objectOf (graphCapability capability)) api = .met) :
    ∀ name ∈ api, ∃ items,
      (Json.obj capability).path ["graph", "api"] = some (.arr items) ∧ .str name ∈ items := by
  intro name hname
  rw [← getD_arr_eq, ← field_getOr, ← graphCapability, ← getOr_objectOf]
  unfold apiFinding at h
  have hempty : api.isEmpty = false := by
    cases api with
    | nil => cases hname
    | cons _ _ => rfl
  cases hvalue : getOr (objectOf (graphCapability capability)) "api" (.arr []) with
  | arr items =>
      refine ⟨items, rfl, ?_⟩
      rw [hvalue] at h
      simp only [pySet] at h
      split at h
      next => cases h
      next supported hsupported =>
        split at hsupported
        next =>
          cases hsupported
          split at h
          next hall =>
            obtain ⟨v, hv, hstr⟩ := List.mem_filterMap.mp (hall name hname)
            cases v with
            | str s =>
                cases hstr
                exact hv
            | _ => cases hstr
          next => cases h
        next => cases hsupported
  | str s =>
      rw [hvalue] at h
      simp only [pySet, hempty, isArray] at h
      split at h <;> simp at h
  | obj fields =>
      rw [hvalue] at h
      simp only [pySet, hempty, isArray] at h
      split at h <;> simp at h
  | _ =>
      rw [hvalue] at h
      cases h

/-- Functions of an array do not slip through. -/
lemma apiFinding_ne_slips {api : List PyStr}
    (h : ∀ name ∈ api, ∃ items,
      (Json.obj capability).path ["graph", "api"] = some (.arr items) ∧ .str name ∈ items) :
    apiFinding (objectOf (graphCapability capability)) api ≠ .slips := by
  have hshape : (api.isEmpty || isArray (getOr (objectOf (graphCapability capability)) "api"
      (.arr []))) = true := by
    cases api with
    | nil => rfl
    | cons name rest =>
        obtain ⟨items, hpath, -⟩ := h name List.mem_cons_self
        rw [getOr_objectOf, graphCapability, field_getOr, hpath]
        rfl
  unfold apiFinding
  cases pySet (getOr (objectOf (graphCapability capability)) "api" (.arr [])) with
  | error e => simp
  | ok supported =>
      simp only [hshape, if_true]
      split <;> simp

lemma profileFinding_ne_slips : profileFinding capability ≠ .slips := by
  unfold profileFinding
  split
  · simp
  · exact passIf_ne_slips

/-- **Without slips, what passes the check conforms.** -/
theorem conforms_iff
    (h : conclusion (capabilityFindings manifest capability backend) = .passes) :
    Conforms manifest capability backend ↔
      ∀ finding ∈ capabilityFindings manifest capability backend, finding = .met := by
  rw [conclusion_eq_passes] at h
  simp only [capabilityFindings, endpointFindings, List.forall_mem_append, List.forall_mem_cons,
    List.forall_mem_flatMap, List.not_mem_nil, false_implies, implies_true, and_true,
    passIf_ne_slips, or_false, depthFinding, directionFinding] at h ⊢
  obtain ⟨⟨hselected, -, hprofile, hqos, hdepth, hrange⟩, hendpoints, hgraph, hout, hin, hapi⟩ := h
  constructor
  · intro hc
    refine ⟨⟨hselected, addressFinding_eq_met.mpr ⟨hc.addressed, hc.version⟩,
      hprofile.resolve_right profileFinding_ne_slips, hqos, hdepth, hrange⟩, ?_, hgraph, hout, hin,
      hapi.resolve_right (apiFinding_ne_slips hc.api)⟩
    intro endpoint hendpoint
    have hpolicies := hc.policies endpoint hendpoint
    exact ⟨policyFinding_eq_met.mpr (hpolicies .reliability),
      policyFinding_eq_met.mpr (hpolicies .durability),
      policyFinding_eq_met.mpr (hpolicies .history), (hendpoints endpoint hendpoint).2.2.2⟩
  · rintro ⟨⟨-, haddress, -⟩, hmet, -, -, -, hapi⟩
    obtain ⟨haddressed, hversion⟩ := addressFinding_eq_met.mp haddress
    obtain ⟨range, hrange⟩ := Option.isSome_iff_exists.mp (passIf_eq_met.mp hrange)
    obtain ⟨hminimum, hmaximum⟩ := rangeOf_eq_some hrange
    rw [hrange] at hmet
    exact {
      selected := of_decide_eq_true (passIf_eq_met.mp hselected)
      addressed := haddressed
      version := hversion
      policies := by
        intro endpoint hendpoint policy
        obtain ⟨hreliability, hdurability, hhistory, -⟩ := hmet endpoint hendpoint
        cases policy with
        | reliability => exact policyFinding_eq_met.mp hreliability
        | durability => exact policyFinding_eq_met.mp hdurability
        | history => exact policyFinding_eq_met.mp hhistory
      depths := ⟨range.1, range.2, hminimum, hmaximum, fun endpoint hendpoint =>
        of_decide_eq_true (passIf_eq_met.mp (hmet endpoint hendpoint).2.2.2)⟩
      outbound := directionFinding_eq_met.mp hout
      inbound := directionFinding_eq_met.mp hin
      api := api_of_met hapi }

end Conforming

section Sample

/-- `capabilities/rmw_cyclonedds_c.json`, as far as the tools read it. -/
def cycloneCapability : Fields :=
  [("schema_version", .int 1),
    ("backend", .str "rmw_cyclonedds_c"),
    ("message_profiles", .arr [.str "fixed_size"]),
    ("qos", .obj [
      ("reliability", .arr [.str "best_effort", .str "reliable"]),
      ("durability", .arr [.str "volatile", .str "transient_local"]),
      ("history", .arr [.str "keep_last"]),
      ("depth", .obj [("minimum", .int 1), ("maximum", .int 32)])]),
    ("graph", .obj [("outbound", .bool true), ("inbound", .bool true),
      ("api", .arr [.str "node_names", .str "publishers_info_by_topic",
        .str "subscriptions_info_by_topic", .str "topic_names_and_types"])]),
    ("runtime_allocation", .obj [("ros_after_executor_prepare", .bool false),
      ("middleware_after_executor_prepare", .bool true)]),
    ("workers", .obj [("minimum", .int 5)])]

end Sample

end Ros2Zephyr
