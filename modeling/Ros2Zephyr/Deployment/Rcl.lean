import Ros2Zephyr.Core.CLogic
import Ros2Zephyr.Deployment.Translation

/-!
# The calls of the setup code

What the generated code meets outside its file: the constants of the rcl, rclc and rmw headers, and
the functions that it calls.

* A call of rcl or rclc is recorded with what it was given and answers with the code that `results`
  has for it; nothing else is assumed of the library.
* `memset` clears every member of the context, and the functions that give a zero-initialised handle
  have no effect.
* A string ends at its first zero, and a number that is stored or passed as `size_t` is reduced to
  the width of that type.
-/

namespace Ros2Zephyr

open CLang

/-- What depends on the target. -/
structure RclTarget where
  sizeWidth : ℕ
  qosDefault : PyStr → Value

inductive HandleKind
  | publisher
  | subscription
  deriving DecidableEq

/-- What a call to create an endpoint reads of a QoS profile. -/
structure QosProfile where
  reliability : PyStr
  durability : PyStr
  history : PyStr
  depth : ℕ
  deriving DecidableEq

/-- The calls of rcl and rclc.  Handles and buffers are members of the context. -/
inductive RclCall
  | nodeInit (name ns : PyStr)
  | endpointInit (kind : HandleKind) (handle package message topic : PyStr) (qos : QosProfile)
  | executorInit (capacity : ℕ)
  | addSubscription (handle buffer callback : PyStr)
  | prepare
  | executorFini
  | endpointFini (kind : HandleKind) (handle : PyStr)
  | nodeFini
  deriving DecidableEq

section Reading

def RclTarget.toSize (target : RclTarget) (n : ℤ) : ℕ := n.toNat % 2 ^ target.sizeWidth

/-- The string that a callee sees. -/
def cString (s : PyStr) : PyStr := s.takeWhile (· ≠ 0)

/-- The member of the context that a pointer points to. -/
def handleOf : Value → Option PyStr
  | .member object member => if object = "context" then some member else none
  | _ => none

def expectHandle (name : PyStr) (value : Value) : Option Unit :=
  if handleOf value = some name then some () else none

/-- The message type of a type support handle. -/
def typeSupportOf : Value → Option (PyStr × PyStr)
  | .invocation name args =>
      if name = "ROSIDL_GET_MSG_TYPE_SUPPORT" then
        match args with
        | [package, _, message] => do some (← package.word?, ← message.word?)
        | _ => none
      else
        match args with
        | [_, package, _, message] => do some (← package.word?, ← message.word?)
        | _ => none
  | _ => none

def policyOf : Value → Option PyStr
  | .const name => some name
  | _ => none

def profileOf (fields : PyStr → Value) : Option QosProfile := do
  let reliability ← policyOf (fields "reliability")
  let durability ← policyOf (fields "durability")
  let history ← policyOf (fields "history")
  match fields "depth" with
  | .int depth => some ⟨reliability, durability, history, depth.toNat⟩
  | _ => none

variable (target : RclTarget)

def readNodeInit : List Value → Option RclCall
  | [node, .str name, .str ns, .object _] => do
      expectHandle "node" node
      some (.nodeInit (cString name) (cString ns))
  | _ => none

def readEndpointInit (kind : HandleKind) : List Value → Option RclCall
  | [handle, node, type, .str topic, .pointer (.struct fields)] => do
      let handle ← handleOf handle
      expectHandle "node" node
      let (package, message) ← typeSupportOf type
      let qos ← profileOf fields
      some (.endpointInit kind handle package message (cString topic) qos)
  | _ => none

def readExecutorInit : List Value → Option RclCall
  | [executor, .member _ _, .int capacity, .object _] => do
      expectHandle "executor" executor
      some (.executorInit (target.toSize capacity))
  | _ => none

def readAddSubscription : List Value → Option RclCall
  | [executor, handle, buffer, .function callback, .const _] => do
      expectHandle "executor" executor
      some (.addSubscription (← handleOf handle) (← handleOf buffer) callback)
  | _ => none

def readEndpointFini (kind : HandleKind) : List Value → Option RclCall
  | [handle, node] => do
      expectHandle "node" node
      some (.endpointFini kind (← handleOf handle))
  | _ => none

/-- A call that is given one handle and nothing else. -/
def readSingle (name : PyStr) (call : RclCall) : List Value → Option RclCall
  | [handle] => do
      expectHandle name handle
      some call
  | _ => none

def rclFunctions : List (PyStr × (List Value → Option RclCall)) :=
  [("rclc_node_init_default", readNodeInit),
    ("rclc_publisher_init", readEndpointInit .publisher),
    ("rclc_subscription_init", readEndpointInit .subscription),
    ("rclc_executor_init", readExecutorInit target),
    ("rclc_executor_add_subscription", readAddSubscription),
    ("rclc_executor_prepare", readSingle "executor" .prepare),
    ("rclc_executor_fini", readSingle "executor" .executorFini),
    ("rcl_publisher_fini", readEndpointFini .publisher),
    ("rcl_subscription_fini", readEndpointFini .subscription),
    ("rcl_node_fini", readSingle "node" .nodeFini)]

/-- What a call does, from the name of the function and its arguments. -/
def rclCall (name : PyStr) (args : List Value) : Option RclCall := do
  let read ← (rclFunctions target).lookup name
  read args

end Reading

section Platform

def zeroInitializers : List PyStr :=
  ["rcl_get_zero_initialized_node", "rcl_get_zero_initialized_publisher",
    "rcl_get_zero_initialized_subscription", "rclc_executor_get_zero_initialized_executor"]

def policies : List PyStr :=
  ["ON_NEW_DATA", "RMW_QOS_POLICY_RELIABILITY_BEST_EFFORT", "RMW_QOS_POLICY_RELIABILITY_RELIABLE",
    "RMW_QOS_POLICY_DURABILITY_VOLATILE", "RMW_QOS_POLICY_DURABILITY_TRANSIENT_LOCAL",
    "RMW_QOS_POLICY_HISTORY_KEEP_LAST"]

variable (target : RclTarget)

def rclConstants : List (PyStr × Value) :=
  ([("RCL_RET_OK", .int 0), ("RCL_RET_ERROR", .int 1), ("RCL_RET_INVALID_ARGUMENT", .int 11),
      ("NULL", .null), ("true", .int 1), ("rmw_qos_profile_default", .struct target.qosDefault)] :
    List (PyStr × Value)) ++
  policies.map fun name => (name, .const name)

def rclPlatform : Platform where
  constant name := (rclConstants target).lookup name
  convert member value :=
    match value with
    | .int n => if member = "depth" then .int (target.toSize n) else .int n
    | v => v

/-- The functions outside the generated file; the world is the list of the calls so far. -/
def rclHandler (results : ℕ → ℤ) : Handler (List RclCall)
  | name, args, s =>
      if name = "memset" then
        match args with
        | [.object object, .int 0, .size] => some (.object object, s.clear object)
        | _ => none
      else if name ∈ zeroInitializers then
        if args.isEmpty then some (.const name, s) else none
      else do
        let call ← rclCall target name args
        some (.int (results s.world.length), { s with world := s.world ++ [call] })

/-- A call of a function of the generated file. -/
def setupCall (results : ℕ → ℤ) (program : List Function) (depth : ℕ) : Handler (List RclCall) :=
  callFile (rclPlatform target) (rclHandler target results) program depth

/-- `ros2z_deployment_init` on a context with any content. -/
def runInit (results : ℕ → ℤ) (program : List Function) (depth : ℕ)
    (members : PyStr → PyStr → Value) : Option (Value × State (List RclCall)) :=
  setupCall target results program (depth + 2) "ros2z_deployment_init"
    [.object "context", .object "support", .object "allocator"] ⟨fun _ => none, members, []⟩

/-- `ros2z_deployment_fini`, after what was done in `s`. -/
def runFini (results : ℕ → ℤ) (program : List Function) (depth : ℕ) (s : State (List RclCall)) :
    Option (Value × State (List RclCall)) :=
  setupCall target results program (depth + 1) "ros2z_deployment_fini" [.object "context"] s

/-- The code that a setup returns and the calls it makes, all the way from the generated texts. -/
def setupOutcome (headers : RosHeaders) (results : ℕ → ℤ) (deployment : Deployment)
    (backend : PyStr) : Option (ℤ × List RclCall) := do
  let program ← compiled headers deployment backend
  match ← runInit target results program 0 fun _ _ => .null with
  | (.int code, s) => some (code, s.world)
  | _ => none

end Platform

end Ros2Zephyr
