import Ros2Zephyr.Core.JsonSchema
import Ros2Zephyr.Deployment.Validate

/-!
# The published format of a deployment

`schema/deployment.schema.json`, keyword by keyword, and next to it the rules that the schema
cannot express because they relate several fields.  Both are stated on the JSON value alone,
without reference to the validator.  The patterns of the schema are those of the validator, but
for the groups of `messageType`, which do not change what matches.

The parts with numbers take the meaning of `"type": "integer"` as a parameter.  To the schema every
number with an integral value is an integer, to the validator only an integer literal is.
-/

namespace Ros2Zephyr

open JsonSchema

/-- An enumeration of strings. -/
def strings (options : List PyStr) : JsonSchema := enum (options.map .str)

def nodeSchema : JsonSchema :=
  all [type .object,
    required ["name", "namespace"],
    properties [
      ("name", all [type .string, pattern identifier]),
      ("namespace", type .string)]
      noAdditional]

def rmwSchema : JsonSchema :=
  all [type .array, minItems 1, uniqueItems, items (strings ["rmw_cyclonedds_c", "rmw_zenoh_pico"])]

def graphSchema : JsonSchema :=
  all [type .object,
    required ["outbound", "inbound", "api"],
    properties [
      ("outbound", type .boolean),
      ("inbound", type .boolean),
      ("api", all [type .array, uniqueItems, items (type .string)])]
      noAdditional]

section Integers

variable (integer : JsonSchema)

def nonNegative : JsonSchema := all [integer, minimum 0]
def positive : JsonSchema := all [integer, minimum 1]

def qosSchema : JsonSchema :=
  all [type .object,
    required ["reliability", "durability", "history", "depth"],
    properties [
      ("reliability", strings ["best_effort", "reliable"]),
      ("durability", strings ["volatile", "transient_local"]),
      ("history", const (.str "keep_last")),
      ("depth", positive integer)]
      noAdditional]

def endpointSchema : JsonSchema :=
  all [type .object,
    required ["id", "kind", "topic", "type", "qos", "lifetime"],
    properties [
      ("id", all [type .string, pattern lowerIdentifier]),
      ("kind", strings ["publisher", "subscription"]),
      ("topic", type .string),
      ("type", all [type .string, pattern messageType]),
      ("callback", all [type .string, pattern identifier]),
      ("lifetime", const (.str "fixed_startup")),
      ("qos", qosSchema integer)]
      noAdditional]

def remoteSchema : JsonSchema :=
  all [type .object,
    required ["participants", "nodes", "endpoints"],
    properties [
      ("participants", nonNegative integer),
      ("nodes", nonNegative integer),
      ("endpoints", nonNegative integer)]
      noAdditional]

def workersSchema : JsonSchema :=
  all [type .object, required ["maximum"], properties [("maximum", positive integer)] noAdditional]

def applicationSchema : JsonSchema :=
  all [type .object, required ["static_reserve_bytes"],
    properties [("static_reserve_bytes", nonNegative integer)] noAdditional]

def budgetSchema : JsonSchema :=
  all [type .object,
    required ["flash_bytes", "ram_bytes"],
    properties [("flash_bytes", positive integer), ("ram_bytes", positive integer)] noAdditional]

def targetsSchema : JsonSchema :=
  all [type .object, minProperties 1, properties [] (budgetSchema integer)]

def resourcesSchema : JsonSchema :=
  all [type .object,
    required ["local_endpoints", "remote", "workers", "application", "targets"],
    properties [
      ("local_endpoints", nonNegative integer),
      ("remote", remoteSchema integer),
      ("workers", workersSchema integer),
      ("application", applicationSchema integer),
      ("targets", targetsSchema integer)]
      noAdditional]

def deploymentFormat : JsonSchema :=
  all [type .object,
    required ["schema_version", "name", "domain_id", "node", "rmw", "message_profile", "graph",
      "endpoints", "resources"],
    properties [
      ("schema_version", const (.int 2)),
      ("name", all [type .string, pattern lowerIdentifier]),
      ("domain_id", all [integer, minimum 0, maximum 232]),
      ("node", nodeSchema),
      ("rmw", rmwSchema),
      ("message_profile", const (.str "fixed_size")),
      ("graph", graphSchema),
      ("endpoints", all [type .array, items (endpointSchema integer)]),
      ("resources", resourcesSchema integer)]
      noAdditional]

end Integers

/-- `schema/deployment.schema.json`. -/
def deploymentSchema : JsonSchema := deploymentFormat (type .integer)

/-! ## The rules between fields

What the schema cannot say, of single strings and of several fields together.  The rules are stated
on the document itself.
-/

/-- The namespace of the node is empty, or absolute and without a trailing slash. -/
def NamespaceRule (node : Json) : Prop :=
  ∀ ns, node.field "namespace" = some (.str ns) →
    ns = [] ∨ "/" <+: ns ∧ ¬ "/" <:+ ns

/-- The topic is not empty, does not end in a slash and has no empty part. -/
def TopicRule (endpoint : Json) : Prop :=
  ∀ topic, endpoint.field "topic" = some (.str topic) →
    topic ≠ [] ∧ ¬ "/" <:+ topic ∧ ¬ "//" <:+: topic

/-- A subscription has a callback and a publisher has none. -/
def CallbackRule (endpoint : Json) : Prop :=
  (endpoint.field "kind" = some (.str "subscription") →
    (endpoint.field "callback").isSome) ∧
  (endpoint.field "kind" = some (.str "publisher") →
    endpoint.field "callback" = none)

/-- There are no more endpoints than the declared local capacity. -/
def CapacityRule (endpoints : ℕ) (resources : Json) : Prop :=
  ∀ n, resources.field "local_endpoints" = some (.int n) → (endpoints : ℤ) ≤ n

/-- The rules that relate several fields of a deployment. -/
structure CrossFieldRules (value : Json) : Prop where
  distinctIds : ∀ endpoints, value.field "endpoints" = some (.arr endpoints) →
    (endpoints.map (Json.field · "id")).Nodup
  callbacks : ∀ endpoints, value.field "endpoints" = some (.arr endpoints) →
    ∀ endpoint ∈ endpoints, CallbackRule endpoint
  topics : ∀ endpoints, value.field "endpoints" = some (.arr endpoints) →
    ∀ endpoint ∈ endpoints, TopicRule endpoint
  nodeNamespace : ∀ node, value.field "node" = some node → NamespaceRule node
  capacity : ∀ endpoints resources, value.field "endpoints" = some (.arr endpoints) →
    value.field "resources" = some resources → CapacityRule endpoints.length resources

end Ros2Zephyr
