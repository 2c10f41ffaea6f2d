import Ros2Zephyr.Core.CLexer
import Ros2Zephyr.Deployment.Typed

/-!
# The generated setup code

`generate_header` and `generate_source` of `tools/compile_deployment.py`, line by line as the code
builds them.  Both work on an accepted deployment.

* `contextMembers` — the members of `ros2z_deployment_context_t`, in the order of the header.
* `generateSource` — the text of `generated_ros_init.c`.
-/

namespace Ros2Zephyr

open PyStr CLang

def MessageType.text (type : MessageType) : PyStr :=
  type.package ++ ("/msg/" ++ type.message)

def EndpointKind.text : EndpointKind → PyStr
  | .publisher => "publisher"
  | .subscription _ => "subscription"

def Reliability.text : Reliability → PyStr
  | .bestEffort => "BEST_EFFORT"
  | .reliable => "RELIABLE"

def Durability.text : Durability → PyStr
  | .volatile => "VOLATILE"
  | .transientLocal => "TRANSIENT_LOCAL"

/-- An f-string: its pieces in a row. -/
def fstring (pieces : List PyStr) : PyStr := pieces.flatten

namespace Endpoint

/-- The handle of an endpoint in the context. -/
def handle (endpoint : Endpoint) : PyStr :=
  endpoint.kind.text ++ ("_" ++ endpoint.id)

def flag (endpoint : Endpoint) : PyStr := endpoint.handle ++ "_initialized"

/-- The message buffer of a subscription. -/
def buffer (endpoint : Endpoint) : PyStr :=
  "subscription_" ++ endpoint.id ++ "_message"

def qosVariable (endpoint : Endpoint) : PyStr := "qos_" ++ endpoint.id

def callback? (endpoint : Endpoint) : Option Callback :=
  match endpoint.kind with
  | .publisher => none
  | .subscription callback => some callback

end Endpoint

/-- The subscriptions of a deployment, with their callbacks. -/
def Deployment.subscriptions (deployment : Deployment) : List (Endpoint × Callback) :=
  deployment.endpoints.filterMap fun endpoint => endpoint.callback?.map fun c => (endpoint, c)

/-- `"\n".join(lines)`. -/
def joinLines (lines : List PyStr) : PyStr := List.intercalate [10] lines

section Header

/-- `snake_case`: an underscore before every capital but a first one, and all in lower case. -/
def snakeCase (name : PyStr) : PyStr :=
  let lower := fun c : ℕ => if inRange 'A' 'Z' c then c + 32 else c
  match name with
  | [] => []
  | c :: cs =>
      lower c :: cs.flatMap fun d => if inRange 'A' 'Z' d then ['_'.toNat, lower d] else [d]

structure MemberDecl where
  type : PyStr
  name : PyStr

/-- The C type of a message. -/
def MessageType.structName (type : MessageType) : PyStr :=
  fstring [type.package, "__msg__", type.message]

def Endpoint.memberDecls (endpoint : Endpoint) : List MemberDecl :=
  ⟨fstring ["rcl_", endpoint.kind.text, "_t"], endpoint.handle⟩ ::
    match endpoint.kind with
    | .publisher => []
    | .subscription _ => [⟨endpoint.type.structName, endpoint.buffer⟩]

def contextMembers (deployment : Deployment) : List MemberDecl :=
  [⟨"rcl_node_t", "node"⟩] ++
  deployment.endpoints.flatMap Endpoint.memberDecls ++
  [⟨"rclc_executor_t", "executor"⟩, ⟨"bool", "node_initialized"⟩] ++
  deployment.endpoints.map (fun endpoint => ⟨"bool", endpoint.flag⟩) ++
  [⟨"bool", "executor_initialized"⟩]

/-- `sorted({split_type(...) ...})`. -/
def messageIncludes (deployment : Deployment) : List (PyStr × PyStr) :=
  ((deployment.endpoints.map fun e => (e.type.package, e.type.message)).dedup).insertionSort
    fun a b => a.1 < b.1 ∨ a.1 = b.1 ∧ a.2 ≤ b.2

def headerStart : List PyStr :=
  ["/* Generated by compile_deployment.py; do not edit. */",
    "#ifndef ROS2_ZEPHYR_GENERATED_ROS_INIT_H",
    "#define ROS2_ZEPHYR_GENERATED_ROS_INIT_H",
    "",
    "#include <stdbool.h>",
    "#include <rcl/rcl.h>",
    "#include <rclc/executor.h>",
    "#include <rclc/rclc.h>"]

def prototypes : List PyStr :=
  ["\x7d ros2z_deployment_context_t;",
    "",
    "rcl_ret_t ros2z_deployment_init(ros2z_deployment_context_t *context,",
    "                                   rclc_support_t *support,",
    "                                   rcl_allocator_t *allocator);",
    "rcl_ret_t ros2z_deployment_fini(ros2z_deployment_context_t *context);",
    ""]

/-- The line that includes the header of a message type; `base` names the header. -/
def includeLine (base : PyStr → PyStr) (type : PyStr × PyStr) : PyStr :=
  fstring ["#include <", type.1, "/msg/", base type.2, ".h>"]

def memberLine (decl : MemberDecl) : PyStr := fstring ["  ", decl.type, " ", decl.name, ";"]

def handlerLine (subscription : Endpoint × Callback) : PyStr :=
  fstring ["void ", subscription.2.name, "(const void *message);"]

/-- The header, for any rule that names the headers of the message types. -/
def headerWith (base : PyStr → PyStr) (deployment : Deployment) : PyStr :=
  joinLines <|
    headerStart ++
    (messageIncludes deployment).map (includeLine base) ++
    ([[], "typedef struct ros2z_deployment_context \x7b"] : List PyStr) ++
    (contextMembers deployment).map memberLine ++
    prototypes ++
    deployment.subscriptions.map handlerLine ++
    ([[], "#endif", []] : List PyStr)

/-- `generate_header`. -/
def generateHeader (deployment : Deployment) : PyStr := headerWith snakeCase deployment

end Header

section Source

def qosLine (endpoint : Endpoint) (member value : PyStr) : PyStr :=
  fstring ["  ", endpoint.qosVariable, ".", member, " = ", value, ";"]

/-- `qos_initializer`. -/
def qosInitializer (endpoint : Endpoint) : List PyStr :=
  [fstring ["  rmw_qos_profile_t ", endpoint.qosVariable, " = rmw_qos_profile_default;"],
    qosLine endpoint "reliability"
      ("RMW_QOS_POLICY_RELIABILITY_" ++ endpoint.qos.reliability.text),
    qosLine endpoint "durability"
      ("RMW_QOS_POLICY_DURABILITY_" ++ endpoint.qos.durability.text),
    qosLine endpoint "history" "RMW_QOS_POLICY_HISTORY_KEEP_LAST",
    qosLine endpoint "depth" (unsignedText endpoint.qos.depth)]

/-- `builtin_uint32` of `generate_source`. -/
def builtinUint32 (deployment : Deployment) (backend : PyStr) : Bool :=
  backend == "rmw_cyclonedds_c" &&
    deployment.endpoints.any fun e => e.type.text == "std_msgs/msg/UInt32"

/-- The type support argument of an endpoint. -/
def typeSupport (builtin : Bool) (type : MessageType) : PyStr :=
  if builtin && type.text == "std_msgs/msg/UInt32" then
    fstring ["ROSIDL_TYPESUPPORT_INTERFACE__MESSAGE_SYMBOL_NAME(",
      "rosidl_typesupport_introspection_c, std_msgs, msg, UInt32)()"]
  else
    fstring ["ROSIDL_GET_MSG_TYPE_SUPPORT(", type.package, ", msg, ", type.message, ")"]

/-- What is done when the call before it failed. -/
def failureLine : PyStr :=
  "  if (result != RCL_RET_OK) \x7b (void)ros2z_deployment_fini(context); return result; \x7d"

def finiStart : List PyStr :=
  ["rcl_ret_t ros2z_deployment_fini(ros2z_deployment_context_t *context)",
    "\x7b",
    "  rcl_ret_t result = RCL_RET_OK;",
    "  if (context == NULL) \x7b return RCL_RET_INVALID_ARGUMENT; \x7d",
    fstring ["  if (context->executor_initialized && rclc_executor_fini(&context->executor) ",
      "!= RCL_RET_OK) \x7b result = RCL_RET_ERROR; \x7d"]]

def endpointFiniLine (endpoint : Endpoint) : PyStr :=
  fstring ["  if (context->", endpoint.kind.text, "_", endpoint.id, "_initialized", " && ",
    "rcl_", endpoint.kind.text, "_fini(&context->", endpoint.kind.text, "_", endpoint.id,
    ", &context->node) != RCL_RET_OK) ", "\x7b result = RCL_RET_ERROR; \x7d"]

def finiEnd : List PyStr :=
  [fstring ["  if (context->node_initialized && rcl_node_fini(&context->node) != RCL_RET_OK) ",
      "\x7b result = RCL_RET_ERROR; \x7d"],
    "  return result;",
    "\x7d",
    ""]

def initStart : List PyStr :=
  ["rcl_ret_t ros2z_deployment_init(ros2z_deployment_context_t *context,",
    "                                   rclc_support_t *support,",
    "                                   rcl_allocator_t *allocator)",
    "\x7b",
    fstring ["  if (context == NULL || support == NULL || allocator == NULL) ",
      "\x7b return RCL_RET_INVALID_ARGUMENT; \x7d"],
    "  memset(context, 0, sizeof(*context));",
    "  context->node = rcl_get_zero_initialized_node();",
    "  context->executor = rclc_executor_get_zero_initialized_executor();"]

def zeroLine (endpoint : Endpoint) : PyStr :=
  fstring ["  context->", endpoint.kind.text, "_", endpoint.id, " = rcl_get_zero_initialized_",
    endpoint.kind.text, "();"]

def nodeInitLines (deployment : Deployment) : List PyStr :=
  [fstring ["  rcl_ret_t result = rclc_node_init_default(&context->node, \"", deployment.nodeName,
      "\", \"", deployment.nodeNamespace, "\", support);"],
    "  if (result != RCL_RET_OK) \x7b return result; \x7d",
    "  context->node_initialized = true;"]

def endpointInitLines (builtin : Bool) (endpoint : Endpoint) : List PyStr :=
  qosInitializer endpoint ++
  [fstring ["  result = rclc_", endpoint.kind.text, "_init(&context->", endpoint.kind.text, "_",
      endpoint.id, ", &context->node,"],
    fstring ["      ", typeSupport builtin endpoint.type, ", \"", endpoint.topic, "\", &qos_",
      endpoint.id, ");"],
    failureLine,
    fstring ["  context->", endpoint.kind.text, "_", endpoint.id, "_initialized", " = true;"]]

def executorInitLines (subscriptions : ℕ) : List PyStr :=
  [fstring ["  result = rclc_executor_init(&context->executor, &support->context, ",
      unsignedText subscriptions, ", allocator);"],
    failureLine,
    "  context->executor_initialized = true;"]

def addSubscriptionLines (subscription : Endpoint × Callback) : List PyStr :=
  [fstring ["  result = rclc_executor_add_subscription(&context->executor, ",
      "&context->subscription_", subscription.1.id, ","],
    fstring ["      &context->subscription_", subscription.1.id, "_message", ", ",
      subscription.2.name, ", ON_NEW_DATA);"],
    failureLine]

def prepareLines : List PyStr :=
  ["  result = rclc_executor_prepare(&context->executor);", failureLine]

def executorLines (deployment : Deployment) : List PyStr :=
  if deployment.subscriptions.isEmpty then []
  else
    executorInitLines deployment.subscriptions.length ++
    deployment.subscriptions.flatMap addSubscriptionLines ++
    prepareLines

def includeLines (builtin : Bool) : List PyStr :=
  ["/* Generated by compile_deployment.py; do not edit. */",
    "#include \"generated_ros_init.h\""] ++
  (if builtin then
    ["#include <std_msgs/msg/detail/u_int32__rosidl_typesupport_introspection_c.h>"]
  else []) ++
  ["", "#include <string.h>", ""]

/-- `generate_source`. -/
def generateSource (deployment : Deployment) (backend : PyStr) : PyStr :=
  let builtin := builtinUint32 deployment backend
  joinLines <|
    includeLines builtin ++
    finiStart ++ deployment.endpoints.reverse.map endpointFiniLine ++ finiEnd ++
    initStart ++ deployment.endpoints.map zeroLine ++ nodeInitLines deployment ++
    deployment.endpoints.flatMap (endpointInitLines builtin) ++ executorLines deployment ++
    (["  return RCL_RET_OK;", "\x7d", []] : List PyStr)

end Source

end Ros2Zephyr
