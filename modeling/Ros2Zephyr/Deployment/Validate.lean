import Mathlib.Data.List.Infix
import Mathlib.Data.List.Sort
import Ros2Zephyr.Core.Json
import Ros2Zephyr.Core.Pattern

/-!
# Validation of a deployment

`validate_deployment` of `tools/compile_deployment.py`: the imperative checks on a decoded
deployment document, in the order in which the code makes them, with the codes and texts of its
errors.

* A Python exception is a `PyException`; a subscript with a missing key would be a `keyError`.
* `repr` stands for Python's `repr` of a string, which only ever appears in a message.
* Sets are lists here, and `sorted(set)` is `sortKeys`; only the first element of a sorted
  difference is ever reported.
-/

namespace Ros2Zephyr

/-- The exceptions the tools can raise. -/
inductive PyException
  | deploymentError (code message : PyStr)
  | resourceError (code message : PyStr)
  | keyError (key : PyStr)
  | typeError
  | attributeError
  | valueError (message : PyStr)
  | indexError
  | structError
  | overflowError
  | unicodeEncodeError
  | fileNotFoundError
  deriving DecidableEq

section Patterns

open PyStr

/-- `^[A-Za-z_][A-Za-z0-9_]*$` -/
def identifier : Pattern ℕ := Pattern.word (fun c => isLetter c || isUnderscore c) isWordChar

/-- `^[a-z][a-z0-9_]*$` -/
def lowerIdentifier : Pattern ℕ := Pattern.word isLower isLowerWordChar

/-- `^([A-Za-z][A-Za-z0-9_]*)/msg/([A-Za-z][A-Za-z0-9_]*)$` -/
def messageType : Pattern ℕ :=
  Pattern.word isLetter isWordChar ++
    (.text "/msg/" :: Pattern.word isLetter isWordChar)

end Patterns

section Keys

def rootKeys : List PyStr :=
  ["schema_version", "name", "domain_id", "node", "rmw", "message_profile", "graph", "endpoints",
    "resources"]
def nodeKeys : List PyStr := ["name", "namespace"]
def graphKeys : List PyStr := ["outbound", "inbound", "api"]
def endpointKeys : List PyStr := ["id", "kind", "topic", "type", "callback", "qos", "lifetime"]
def qosKeys : List PyStr := ["reliability", "durability", "history", "depth"]
def resourceKeys : List PyStr := ["local_endpoints", "remote", "workers", "application", "targets"]
def remoteResourceKeys : List PyStr := ["participants", "nodes", "endpoints"]
def workerResourceKeys : List PyStr := ["maximum"]
def applicationResourceKeys : List PyStr := ["static_reserve_bytes"]
def targetBudgetKeys : List PyStr := ["flash_bytes", "ram_bytes"]
def supportedBackends : List PyStr := ["rmw_cyclonedds_c", "rmw_zenoh_pico"]

end Keys

/-- `sorted` of a set of strings: by code points. -/
def sortKeys (keys : List PyStr) : List PyStr := keys.insertionSort fun a b => a ≤ b

def reject {α : Type} (code message : PyStr) : Except PyException α :=
  .error (.deploymentError code message)

/-- `value[key]` -/
def getItem (value : Fields) (key : PyStr) : Except PyException Json :=
  match value.member key with
  | some item => .ok item
  | none => .error (.keyError key)

/-- `value == n`: Python's `True` is also 1, and a float can equal an integer. -/
def equalsInt (value : Json) (n : ℤ) : Bool :=
  match value with
  | .int m => m == n
  | .bool b => (if b then 1 else 0) == n
  | .float (.finite q) => q == (n : ℚ)
  | _ => false

/-- `value == s` -/
def equalsStr (value : Json) (s : PyStr) : Bool :=
  match value with
  | .str t => t == s
  | _ => false

/-- `require_object`. -/
def requireObject (value : Json) (path : PyStr) : Except PyException Fields :=
  match value with
  | .obj fields => .ok fields
  | _ => reject "E_SCHEMA" (path ++ " must be an object")

/-- `require_string`. -/
def requireString (value : Json) (path : PyStr) (pattern : Option (Pattern ℕ)) :
    Except PyException PyStr :=
  match value with
  | .str s =>
      if pattern.all (Pattern.fullmatch · s) then .ok s
      else reject "E_SCHEMA" (path ++ " has an invalid string value")
  | _ => reject "E_SCHEMA" (path ++ " has an invalid string value")

/-- `require_integer`. -/
def requireInteger (value : Json) (path : PyStr) (minimum : ℤ) : Except PyException ℤ :=
  match value with
  | .int n =>
      if n < minimum then
        reject "E_SCHEMA"
          (path ++ " must be an integer greater than or equal to " ++ PyStr.ofInt minimum)
      else .ok n
  | _ =>
      reject "E_SCHEMA"
        (path ++ " must be an integer greater than or equal to " ++ PyStr.ofInt minimum)

/-- The items of a list of strings. -/
def asStrings : List Json → Option (List PyStr)
  | [] => some []
  | .str s :: items => (asStrings items).map (s :: ·)
  | _ :: _ => none

section Checks

variable (repr : PyStr → PyStr)

/-- `exact_keys`. -/
def exactKeys (value : Fields) (allowed required : List PyStr) (path : PyStr) :
    Except PyException Unit :=
  match sortKeys (value.keys.filter (· ∉ allowed)), sortKeys (required.filter (· ∉ value.keys)) with
  | key :: _, _ => reject "E_SCHEMA" (path ++ " contains unknown field " ++ repr key)
  | [], key :: _ => reject "E_SCHEMA" (path ++ " is missing required field " ++ repr key)
  | [], [] => .ok ()

def validateNode (value : Json) : Except PyException Unit := do
  let node ← requireObject value "node"
  exactKeys repr node nodeKeys nodeKeys "node"
  let _ ← requireString (← getItem node "name") "node.name" (some identifier)
  let ns ← requireString (← getItem node "namespace") "node.namespace" none
  if ns ≠ [] ∧ (¬ "/" <+: ns ∨ "/" <:+ ns) then
    reject "E_SCHEMA"
      "node.namespace must be empty or an absolute namespace without a trailing slash"
  else .ok ()

def validateRmw (value : Json) : Except PyException Unit :=
  match value with
  | .arr (item :: items) =>
      match asStrings (item :: items) with
      | some names =>
          if ¬ names.Nodup then reject "E_SCHEMA" "rmw entries must be unique"
          else
            match sortKeys (names.filter (· ∉ supportedBackends)) with
            | backend :: _ => reject "E_BACKEND_UNKNOWN" ("unknown backend " ++ backend)
            | [] => .ok ()
      | none => reject "E_SCHEMA" "rmw must be a non-empty string array"
  | _ => reject "E_SCHEMA" "rmw must be a non-empty string array"

def isBool : Json → Bool
  | .bool _ => true
  | _ => false

def validateGraphApi (value : Json) : Except PyException Unit :=
  match value with
  | .arr items =>
      match asStrings items with
      | some names =>
          if ¬ names.Nodup then reject "E_SCHEMA" "graph.api entries must be unique" else .ok ()
      | none => reject "E_SCHEMA" "graph.api must be a string array"
  | _ => reject "E_SCHEMA" "graph.api must be a string array"

def validateGraph (value : Json) : Except PyException Unit := do
  let graph ← requireObject value "graph"
  exactKeys repr graph graphKeys graphKeys "graph"
  let outbound ← getItem graph "outbound"
  let inbound ← getItem graph "inbound"
  if !isBool outbound || !isBool inbound then
    reject "E_SCHEMA" "graph outbound/inbound requirements must be boolean"
  else
    validateGraphApi (← getItem graph "api")

def validateQos (path : PyStr) (value : Json) : Except PyException Unit := do
  let qos ← requireObject value (path ++ ".qos")
  exactKeys repr qos qosKeys qosKeys (path ++ ".qos")
  let reliability ← getItem qos "reliability"
  if !equalsStr reliability "best_effort" && !equalsStr reliability "reliable" then
    reject "E_SCHEMA" (path ++ ".qos.reliability is invalid")
  else do
    let durability ← getItem qos "durability"
    if !equalsStr durability "volatile" && !equalsStr durability "transient_local" then
      reject "E_SCHEMA" (path ++ ".qos.durability is invalid")
    else do
      let history ← getItem qos "history"
      if !equalsStr history "keep_last" then
        reject "E_SCHEMA" (path ++ ".qos.history must be keep_last")
      else
        match ← getItem qos "depth" with
        | .int depth =>
            if depth < 1 then
              reject "E_SCHEMA" (path ++ ".qos.depth must be a positive integer")
            else .ok ()
        | _ => reject "E_SCHEMA" (path ++ ".qos.depth must be a positive integer")

/-- A subscription has a callback and nothing else has one. -/
def validateCallback (path : PyStr) (kind : Json) (endpoint : Fields) : Except PyException Unit :=
  if equalsStr kind "subscription" then do
    let _ ← requireString ((endpoint.member "callback").getD .null) (path ++ ".callback")
      (some identifier)
    .ok ()
  else if (endpoint.member "callback").isSome then
    reject "E_SCHEMA" (path ++ ".callback is only valid for a subscription")
  else .ok ()

/-- One turn of the loop over the endpoints; `ids` are those seen before. -/
def validateEndpoint (ids : List PyStr) (index : ℕ) (value : Json) : Except PyException PyStr := do
  let path : PyStr := "endpoints[" ++ PyStr.ofInt index ++ "]"
  let endpoint ← requireObject value path
  exactKeys repr endpoint endpointKeys (endpointKeys.filter (· ≠ "callback")) path
  let id ← requireString (← getItem endpoint "id") (path ++ ".id") (some lowerIdentifier)
  if id ∈ ids then
    reject "E_DUPLICATE_ENDPOINT" ("duplicate endpoint id " ++ repr id)
  else do
    let kind ← getItem endpoint "kind"
    if !equalsStr kind "publisher" && !equalsStr kind "subscription" then
      reject "E_SCHEMA" (path ++ ".kind must be publisher or subscription")
    else do
      let topic ← requireString (← getItem endpoint "topic") (path ++ ".topic") none
      if topic = [] ∨ "/" <:+ topic ∨ "//" <:+: topic then
        reject "E_SCHEMA" (path ++ ".topic is invalid")
      else do
        let _ ← requireString (← getItem endpoint "type") (path ++ ".type") (some messageType)
        let lifetime ← getItem endpoint "lifetime"
        if !equalsStr lifetime "fixed_startup" then
          reject "E_LIFETIME_UNSUPPORTED" (path ++ " must use fixed_startup lifetime")
        else do
          validateCallback path kind endpoint
          validateQos repr path (← getItem endpoint "qos")
          .ok id

/-- The loop over the endpoints. -/
def validateEndpoints (ids : List PyStr) (index : ℕ) : List Json → Except PyException Unit
  | [] => .ok ()
  | value :: values => do
      let id ← validateEndpoint repr ids index value
      validateEndpoints (id :: ids) (index + 1) values

def validateRemote (value : Json) : Except PyException Unit := do
  let remote ← requireObject value "resources.remote"
  exactKeys repr remote remoteResourceKeys remoteResourceKeys "resources.remote"
  let _ ← requireInteger (← getItem remote "endpoints") "resources.remote.endpoints" 0
  let _ ← requireInteger (← getItem remote "nodes") "resources.remote.nodes" 0
  let _ ← requireInteger (← getItem remote "participants") "resources.remote.participants" 0
  .ok ()

def validateWorkers (value : Json) : Except PyException Unit := do
  let workers ← requireObject value "resources.workers"
  exactKeys repr workers workerResourceKeys workerResourceKeys "resources.workers"
  let _ ← requireInteger (← getItem workers "maximum") "resources.workers.maximum" 1
  .ok ()

def validateApplication (value : Json) : Except PyException Unit := do
  let application ← requireObject value "resources.application"
  exactKeys repr application applicationResourceKeys applicationResourceKeys
    "resources.application"
  let _ ← requireInteger (← getItem application "static_reserve_bytes")
    "resources.application.static_reserve_bytes" 0
  .ok ()

/-- One turn of the loop over the targets. -/
def validateTarget (target : PyStr × Json) : Except PyException Unit := do
  let path : PyStr := "resources.targets[" ++ repr target.1 ++ "]"
  let _ ← requireString (.str target.1) "resources.targets key" none
  let budget ← requireObject target.2 path
  exactKeys repr budget targetBudgetKeys targetBudgetKeys path
  let _ ← requireInteger (← getItem budget "flash_bytes") (path ++ ".flash_bytes") 1
  let _ ← requireInteger (← getItem budget "ram_bytes") (path ++ ".ram_bytes") 1
  .ok ()

def validateEach : List (PyStr × Json) → Except PyException Unit
  | [] => .ok ()
  | target :: targets => do
      validateTarget repr target
      validateEach targets

/-- `sorted(targets.items())`: the keys are distinct, so the values are never compared. -/
def sortTargets (targets : Fields) : List (PyStr × Json) :=
  targets.insertionSort fun a b => a.1 ≤ b.1

def validateTargets (value : Json) : Except PyException Unit := do
  let targets ← requireObject value "resources.targets"
  if targets.isEmpty then
    reject "E_SCHEMA" "resources.targets must contain at least one target budget"
  else validateEach repr (sortTargets targets)

def validateResources (endpoints : ℕ) (value : Json) : Except PyException Unit := do
  let resources ← requireObject value "resources"
  exactKeys repr resources resourceKeys resourceKeys "resources"
  let localCapacity ← requireInteger (← getItem resources "local_endpoints")
    "resources.local_endpoints" 0
  if (endpoints : ℤ) > localCapacity then
    reject "E_RESOURCE_ENDPOINT_CAPACITY"
      ("deployment declares " ++ PyStr.ofInt endpoints
        ++ " endpoints but resources.local_endpoints is " ++ PyStr.ofInt localCapacity)
  else do
    validateRemote repr (← getItem resources "remote")
    validateWorkers repr (← getItem resources "workers")
    validateApplication repr (← getItem resources "application")
    validateTargets repr (← getItem resources "targets")

/-- `domain_id`: an integer from 0 through 232. -/
def isDomainId : Json → Bool
  | .int n => decide (0 ≤ n) && decide (n ≤ 232)
  | _ => false

/-- `validate_deployment`. -/
def validateDeployment (value : Fields) : Except PyException Fields := do
  exactKeys repr value rootKeys rootKeys "deployment"
  if !equalsInt (← getItem value "schema_version") 2 then
    reject "E_SCHEMA_VERSION" "schema_version must be 2"
  else do
    let _ ← requireString (← getItem value "name") "name" (some lowerIdentifier)
    if !isDomainId (← getItem value "domain_id") then
      reject "E_SCHEMA" "domain_id must be an integer from 0 through 232"
    else if !equalsStr (← getItem value "message_profile") "fixed_size" then
      reject "E_MESSAGE_PROFILE_UNSUPPORTED" "only fixed_size messages are accepted"
    else do
      validateNode repr (← getItem value "node")
      validateRmw (← getItem value "rmw")
      validateGraph repr (← getItem value "graph")
      match ← getItem value "endpoints" with
      | .arr endpoints => do
          validateEndpoints repr [] 0 endpoints
          validateResources repr endpoints.length (← getItem value "resources")
          .ok value
      | _ => reject "E_SCHEMA" "endpoints must be an array"

end Checks

end Ros2Zephyr
