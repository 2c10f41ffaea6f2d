import Ros2Zephyr.Resources.Contract

/-!
# Accepted deployments as a whole

The typed reading of the members that the capability check and the report look at, next to the
boundary (`Deployment`) and the resource contract (`Contract`).
-/

namespace Ros2Zephyr

structure Manifest where
  name : PyStr
  domainId : ℕ
  rmw : List PyStr
  outbound : Bool
  inbound : Bool
  api : List PyStr
  boundary : Deployment
  contract : Contract
  name_matches : lowerIdentifier.fullmatch name = true
  rmw_supported : ∀ backend ∈ rmw, backend ∈ supportedBackends

/-- A member that is an array of strings. -/
def stringsOf (value : Json) (key : PyStr) : Option (List PyStr) :=
  ((value.field key).bind Json.asArray).bind asStrings

def booleanOf (value : Json) (key : PyStr) : Option Bool := (value.field key).bind Json.asBool

/-- The reading of a document. -/
def Manifest.ofFields (fields : Fields) : Option Manifest := do
  let name ← (Json.obj fields).text "name"
  let domainId ← (Json.obj fields).natural "domain_id"
  let rmw ← stringsOf (.obj fields) "rmw"
  let graph ← fields.member "graph"
  let outbound ← booleanOf graph "outbound"
  let inbound ← booleanOf graph "inbound"
  let api ← stringsOf graph "api"
  let boundary ← Deployment.ofFields fields
  let contract ← (fields.member "resources").bind Contract.ofJson
  if h : lowerIdentifier.fullmatch name = true ∧ ∀ backend ∈ rmw, backend ∈ supportedBackends then
    some ⟨name, domainId, rmw, outbound, inbound, api, boundary, contract, h.1, h.2⟩
  else none

section Accepted

variable {value : Json}

open JsonSchema

lemma stringsOf_eq_some {key : PyStr} {names : List PyStr}
    (h : value.field key = some (.arr (names.map .str))) : stringsOf value key = some names := by
  have hstrings : asStrings (names.map .str) = some names := asStrings_eq_some.mpr rfl
  simp only [stringsOf, h, Option.bind_some, Json.asArray, hstrings]

lemma booleanOf_eq_some {key : PyStr} {b : Bool} (h : value.field key = some (.bool b)) :
    booleanOf value key = some b := by
  simp only [booleanOf, h, Option.bind_some, Json.asBool]

lemma domainId_natural {key : PyStr} {v : Json} (hfield : value.field key = some v)
    (hv : all [integerLiteral, minimum 0, maximum 232] v = true) :
    ∃ n, value.natural key = some n := by
  have hinteger : all [integerLiteral, minimum 0] v = true := by
    simp only [all, List.all_cons, List.all_nil, Bool.and_eq_true] at hv ⊢
    exact ⟨hv.1, hv.2.1, trivial⟩
  exact natural_of_integer hfield hinteger le_rfl

/-- **Accepted documents have a manifest.** -/
theorem exists_manifest {repr : PyStr → PyStr} {fields result : Fields}
    (h : validateDeployment repr fields = .ok result) :
    ∃ manifest, Manifest.ofFields fields = some manifest := by
  obtain ⟨boundary, hboundary⟩ := exists_ofFields h
  obtain ⟨resources, -, contract, hresources, -, hcontract, -⟩ := exists_contract h
  obtain ⟨⟨hformat, -⟩, -⟩ := (checks_validateDeployment.ok_iff result).mp h
  obtain ⟨v, hname, hv⟩ := member_of_closedObject hformat 1 rfl (by decide)
  obtain ⟨name, rfl, hmatch⟩ := pattern_iff.mp hv
  obtain ⟨v, hfield, hv⟩ := member_of_closedObject hformat 2 rfl (by decide)
  obtain ⟨domainId, hdomain⟩ := domainId_natural hfield hv
  obtain ⟨v, hrmw, hv⟩ := member_of_closedObject hformat 4 rfl (by decide)
  obtain ⟨rmw, rfl, -, -, hsupported⟩ := rmwSchema_iff.mp hv
  obtain ⟨graph, hgraph, hv⟩ := member_of_closedObject hformat 6 rfl (by decide)
  obtain ⟨v, houtbound, hv'⟩ := member_of_closedObject hv 0 rfl (by decide)
  obtain ⟨outbound, rfl⟩ := boolean_iff.mp hv'
  obtain ⟨v, hinbound, hv'⟩ := member_of_closedObject hv 1 rfl (by decide)
  obtain ⟨inbound, rfl⟩ := boolean_iff.mp hv'
  obtain ⟨v, hapi, hv'⟩ := member_of_closedObject hv 2 rfl (by decide)
  obtain ⟨api, rfl, -⟩ := distinctStrings_iff.mp hv'
  have hgraph' : fields.member "graph" = some graph := hgraph
  refine ⟨⟨name, domainId, rmw, outbound, inbound, api, boundary, contract, hmatch, hsupported⟩, ?_⟩
  simp only [Manifest.ofFields, text_eq_some hname, hdomain, stringsOf_eq_some hrmw, hgraph',
    booleanOf_eq_some houtbound, booleanOf_eq_some hinbound, stringsOf_eq_some hapi, hboundary,
    hresources, hcontract, Option.bind_some, bind]
  exact dif_pos ⟨hmatch, hsupported⟩

end Accepted

end Ros2Zephyr
