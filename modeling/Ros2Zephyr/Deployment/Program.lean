import Ros2Zephyr.Core.CInterp
import Ros2Zephyr.Deployment.Generate

/-!
# The program that the setup code is meant to be

The two functions of `generated_ros_init.c` as syntax trees.  Every definition is the tree of the
lines of the same name in `Generate`; that the text is read as these trees is the subject of
`ReadBack`.
-/

namespace Ros2Zephyr

open CLang

/-- The string that a text denotes between quotes, where it is read as literals. -/
def denoted (text : PyStr) : PyStr := (literalValue text).getD text

/-- `context->member`. -/
def contextMember (member : PyStr) : Expr := .arrow (.ident "context") member

def callOf (function : PyStr) (args : List Expr) : Expr := .call (.ident function) args

def retOk : Expr := .ident "RCL_RET_OK"

def resultVariable : Expr := .ident "result"

def isNull (name : PyStr) : Expr :=
  .binary .equal (.ident name) (.ident "NULL")

/-- A finaliser behind its flag. -/
def finiStmt (flag function : PyStr) (args : List Expr) : Stmt :=
  .branch (.binary .conj (contextMember flag) (.binary .notEqual (callOf function args) retOk))
    [.assign resultVariable (.ident "RCL_RET_ERROR")]

def endpointFiniStmt (endpoint : Endpoint) : Stmt :=
  finiStmt endpoint.flag (fstring ["rcl_", endpoint.kind.text, "_fini"])
    [.addr (contextMember endpoint.handle), .addr (contextMember "node")]

def finiBody (deployment : Deployment) : List Stmt :=
  [.declare "rcl_ret_t" "result" retOk,
    .branch (isNull "context") [.ret (.ident "RCL_RET_INVALID_ARGUMENT")],
    finiStmt "executor_initialized" "rclc_executor_fini" [.addr (contextMember "executor")]] ++
  deployment.endpoints.reverse.map endpointFiniStmt ++
  [finiStmt "node_initialized" "rcl_node_fini" [.addr (contextMember "node")],
    .ret resultVariable]

def finiFunction (deployment : Deployment) : Function where
  name := "ros2z_deployment_fini"
  params := ["context"]
  body := finiBody deployment

/-- `result = function(args);` -/
def callStmt (function : PyStr) (args : List Expr) : Stmt :=
  .assign resultVariable (callOf function args)

def failureStmt : Stmt :=
  .branch (.binary .notEqual resultVariable retOk)
    [.expr (.toVoid (callOf "ros2z_deployment_fini" [.ident "context"])),
      .ret resultVariable]

def setFlag (flag : PyStr) : Stmt :=
  .assign (contextMember flag) (.ident "true")

def zeroStmt (endpoint : Endpoint) : Stmt :=
  .assign (contextMember endpoint.handle)
    (callOf (fstring ["rcl_get_zero_initialized_", endpoint.kind.text]) [])

def initStartBody : List Stmt :=
  [.branch
      (.binary .disj (.binary .disj (isNull "context") (isNull "support")) (isNull "allocator"))
      [.ret (.ident "RCL_RET_INVALID_ARGUMENT")],
    .expr (callOf "memset" [.ident "context", .number 0,
      .size (.deref (.ident "context"))]),
    .assign (contextMember "node") (callOf "rcl_get_zero_initialized_node" []),
    .assign (contextMember "executor") (callOf "rclc_executor_get_zero_initialized_executor" [])]

/-- The creation of the node, with a namespace. -/
def nodeInitWith (deployment : Deployment) (ns : PyStr) : List Stmt :=
  [.declare "rcl_ret_t" "result" (callOf "rclc_node_init_default"
      [.addr (contextMember "node"), .str deployment.nodeName, .str ns,
        .ident "support"]),
    .branch (.binary .notEqual resultVariable retOk) [.ret resultVariable],
    setFlag "node_initialized"]

def nodeInitBody (deployment : Deployment) : List Stmt :=
  nodeInitWith deployment (denoted deployment.nodeNamespace)

def qosAssign (endpoint : Endpoint) (member : PyStr) (value : Expr) : Stmt :=
  .assign (.dot (.ident endpoint.qosVariable) member) value

def qosBody (endpoint : Endpoint) : List Stmt :=
  [.declare "rmw_qos_profile_t" endpoint.qosVariable
      (.ident "rmw_qos_profile_default"),
    qosAssign endpoint "reliability"
      (.ident ("RMW_QOS_POLICY_RELIABILITY_" ++ endpoint.qos.reliability.text)),
    qosAssign endpoint "durability"
      (.ident ("RMW_QOS_POLICY_DURABILITY_" ++ endpoint.qos.durability.text)),
    qosAssign endpoint "history" (.ident "RMW_QOS_POLICY_HISTORY_KEEP_LAST"),
    qosAssign endpoint "depth" (.number endpoint.qos.depth)]

/-- The function-like macros of the type support headers. -/
def rosidlMacros : List PyStr :=
  ["ROSIDL_GET_MSG_TYPE_SUPPORT", "ROSIDL_TYPESUPPORT_INTERFACE__MESSAGE_SYMBOL_NAME"]

def typeSupportExpr (builtin : Bool) (type : MessageType) : Expr :=
  if builtin && type.text == "std_msgs/msg/UInt32" then
    .call (.invocation "ROSIDL_TYPESUPPORT_INTERFACE__MESSAGE_SYMBOL_NAME"
      [.ident "rosidl_typesupport_introspection_c", .ident "std_msgs", .ident "msg",
        .ident "UInt32"]) []
  else
    .invocation "ROSIDL_GET_MSG_TYPE_SUPPORT"
      [classify rosidlMacros type.package, .ident "msg", classify rosidlMacros type.message]

/-- The creation of an endpoint, with a topic. -/
def endpointInitWith (builtin : Bool) (endpoint : Endpoint) (topic : PyStr) : List Stmt :=
  qosBody endpoint ++
  [callStmt (fstring ["rclc_", endpoint.kind.text, "_init"])
      [.addr (contextMember endpoint.handle), .addr (contextMember "node"),
        typeSupportExpr builtin endpoint.type, .str topic, .addr (.ident endpoint.qosVariable)],
    failureStmt,
    setFlag endpoint.flag]

def endpointInitBody (builtin : Bool) (endpoint : Endpoint) : List Stmt :=
  endpointInitWith builtin endpoint (denoted endpoint.topic)

def executorInitBody (subscriptions : ℕ) : List Stmt :=
  [callStmt "rclc_executor_init"
      [.addr (contextMember "executor"),
        .addr (.arrow (.ident "support") "context"),
        .number subscriptions, .ident "allocator"],
    failureStmt,
    setFlag "executor_initialized"]

def addSubscriptionBody (subscription : Endpoint × Callback) : List Stmt :=
  [callStmt "rclc_executor_add_subscription"
      [.addr (contextMember "executor"),
        .addr (contextMember ("subscription_" ++ subscription.1.id)),
        .addr (contextMember subscription.1.buffer), .ident subscription.2.name,
        .ident "ON_NEW_DATA"],
    failureStmt]

def prepareBody : List Stmt :=
  [callStmt "rclc_executor_prepare" [.addr (contextMember "executor")], failureStmt]

def executorBody (deployment : Deployment) : List Stmt :=
  if deployment.subscriptions.isEmpty then []
  else
    executorInitBody deployment.subscriptions.length ++
    deployment.subscriptions.flatMap addSubscriptionBody ++
    prepareBody

def initBody (deployment : Deployment) (builtin : Bool) : List Stmt :=
  initStartBody ++ deployment.endpoints.map zeroStmt ++ nodeInitBody deployment ++
  deployment.endpoints.flatMap (endpointInitBody builtin) ++ executorBody deployment ++
  [.ret retOk]

def initFunction (deployment : Deployment) (builtin : Bool) : Function where
  name := "ros2z_deployment_init"
  params := ["context", "support", "allocator"]
  body := initBody deployment builtin

def setupProgram (deployment : Deployment) (backend : PyStr) : List Function :=
  [finiFunction deployment, initFunction deployment (builtinUint32 deployment backend)]

end Ros2Zephyr
