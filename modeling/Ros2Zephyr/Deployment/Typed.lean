import Ros2Zephyr.Deployment.Agreement

/-!
# Accepted deployments as typed data

The generators read an accepted document without checking it again.  This module gives the part
they read a type of its own, in which a document that was not accepted cannot be written down, and
`exists_ofFields` shows that every accepted document has such a reading.

* `EndpointKind` — a subscription comes with its callback, so no publisher has one.
* `MessageType` — the two groups of the pattern `MESSAGE_TYPE`, as `split_type` returns them.
-/

namespace Ros2Zephyr

open PyStr

/-- The part of a type name before or after `/msg/`. -/
def typePart : Pattern ℕ := Pattern.word isLetter isWordChar

structure MessageType where
  package : PyStr
  message : PyStr
  package_matches : typePart.fullmatch package = true
  message_matches : typePart.fullmatch message = true
  deriving DecidableEq

inductive Reliability
  | bestEffort
  | reliable
  deriving DecidableEq

inductive Durability
  | volatile
  | transientLocal
  deriving DecidableEq

/-- The only accepted history is `keep_last`. -/
structure Qos where
  reliability : Reliability
  durability : Durability
  depth : ℕ
  depth_pos : 0 < depth
  deriving DecidableEq

structure Callback where
  name : PyStr
  name_matches : identifier.fullmatch name = true
  deriving DecidableEq

inductive EndpointKind
  | publisher
  | subscription (callback : Callback)
  deriving DecidableEq

structure Endpoint where
  id : PyStr
  kind : EndpointKind
  topic : PyStr
  type : MessageType
  qos : Qos
  id_matches : lowerIdentifier.fullmatch id = true
  deriving DecidableEq

structure Deployment where
  nodeName : PyStr
  nodeNamespace : PyStr
  endpoints : List Endpoint
  nodeName_matches : identifier.fullmatch nodeName = true
  ids_nodup : (endpoints.map Endpoint.id).Nodup
  deriving DecidableEq

section Reading

/-- `split_type`: the groups of the pattern. -/
def splitType (text : PyStr) : Option MessageType :=
  let package := text.takeWhile isWordChar
  let message := (text.dropWhile isWordChar).drop 5
  if h : typePart.fullmatch package = true ∧ typePart.fullmatch message = true ∧
      text = package ++ ("/msg/" ++ message) then
    some ⟨package, message, h.1, h.2.1⟩
  else none

def Reliability.ofText (text : PyStr) : Option Reliability :=
  if text = "best_effort" then some .bestEffort
  else if text = "reliable" then some .reliable
  else none

def Durability.ofText (text : PyStr) : Option Durability :=
  if text = "volatile" then some .volatile
  else if text = "transient_local" then some .transientLocal
  else none

def Qos.ofJson (value : Json) : Option Qos := do
  let reliability ← (value.text "reliability").bind Reliability.ofText
  let durability ← (value.text "durability").bind Durability.ofText
  let depth ← (value.field "depth").bind Json.asNat
  if h : 0 < depth then some ⟨reliability, durability, depth, h⟩ else none

def Callback.ofText (text : PyStr) : Option Callback :=
  if h : identifier.fullmatch text = true then some ⟨text, h⟩ else none

def EndpointKind.ofJson (value : Json) : Option EndpointKind := do
  let kind ← value.text "kind"
  if kind = "publisher" then some .publisher
  else do
    let callback ← (value.text "callback").bind Callback.ofText
    some (.subscription callback)

def Endpoint.ofJson (value : Json) : Option Endpoint := do
  let id ← value.text "id"
  let kind ← EndpointKind.ofJson value
  let topic ← value.text "topic"
  let type ← (value.text "type").bind splitType
  let qos ← (value.field "qos").bind Qos.ofJson
  if h : lowerIdentifier.fullmatch id = true then some ⟨id, kind, topic, type, qos, h⟩ else none

/-- The reading of a document. -/
def Deployment.ofFields (fields : Fields) : Option Deployment := do
  let node ← fields.member "node"
  let name ← node.text "name"
  let ns ← node.text "namespace"
  let items ← (fields.member "endpoints").bind Json.asArray
  let endpoints ← items.mapM Endpoint.ofJson
  if h : identifier.fullmatch name = true ∧ (endpoints.map Endpoint.id).Nodup then
    some ⟨name, ns, endpoints, h.1, h.2⟩
  else none

end Reading

section Accepted

variable {value : Json}

open JsonSchema

lemma takeWhile_append_word {l r : PyStr} (hl : ∀ c ∈ l, isWordChar c = true)
    (hr : ∀ c, r.head? = some c → isWordChar c = false) :
    (l ++ r).takeWhile isWordChar = l ∧ (l ++ r).dropWhile isWordChar = r := by
  have hhead : r.takeWhile isWordChar = [] ∧ r.dropWhile isWordChar = r := by
    cases r with
    | nil => simp
    | cons c r => simp [hr c rfl]
  rw [List.takeWhile_append_of_pos hl, List.dropWhile_append_of_pos hl, hhead.1, hhead.2,
    List.append_nil]
  exact ⟨rfl, rfl⟩

lemma isWordChar_of_isLetter {c : ℕ} (h : isLetter c = true) : isWordChar c = true := by
  simp [isWordChar, h]

lemma IsWord.isWordChar {s : PyStr} (h : Pattern.IsWord isLetter PyStr.isWordChar s) :
    ∀ c ∈ s, PyStr.isWordChar c = true := by
  obtain ⟨c, cs, rfl, hc, hcs⟩ := h
  exact List.forall_mem_cons.mpr ⟨isWordChar_of_isLetter hc, hcs⟩

/-- A type name that matches the pattern splits into its two groups. -/
lemma splitType_isSome {text : PyStr} (h : messageType.fullmatch text = true) :
    ∃ type, splitType text = some type := by
  obtain ⟨package, message, rfl, hpackage, hmessage⟩ := Pattern.fullmatch_separated.mp h
  obtain ⟨htake, hdrop⟩ := takeWhile_append_word (r := "/msg/" ++ message)
    (IsWord.isWordChar hpackage) (by rintro c hc; cases hc; decide)
  have hmsg : ("/msg/" ++ message).drop 5 = message := rfl
  refine ⟨⟨package, message, Pattern.fullmatch_word.mpr hpackage,
    Pattern.fullmatch_word.mpr hmessage⟩, ?_⟩
  simp only [splitType, htake, hdrop, hmsg]
  exact dif_pos ⟨Pattern.fullmatch_word.mpr hpackage, Pattern.fullmatch_word.mpr hmessage, trivial⟩

/-- Where a closed object is accepted, a required member is there and its schema holds. -/
lemma member_of_closedObject {names : List PyStr} {props : List (PyStr × JsonSchema)} {key : PyStr}
    {schema : JsonSchema}
    (h : all [type .object, required names, properties props noAdditional] value = true) (i : ℕ)
    (hprop : props[i]? = some (key, schema)) (hkey : key ∈ names) :
    ∃ v, value.field key = some v ∧ schema v = true := by
  obtain ⟨fields, rfl, -, hrequired, hprops⟩ := closedObject_iff.mp h
  obtain ⟨v, hv⟩ := Fields.exists_member (hrequired key hkey)
  exact ⟨v, hv, hprops _ (List.mem_of_getElem? hprop) v hv⟩

lemma text_eq_some {key s : PyStr} (h : value.field key = some (.str s)) :
    value.text key = some s := by
  rw [Json.text, h]
  rfl

lemma positive_ofNat (h : positive integerLiteral value = true) :
    ∃ n, value.asNat = some n ∧ 0 < n := by
  obtain ⟨n, rfl, hn⟩ := integer_iff.mp h
  obtain ⟨m, rfl⟩ := Int.eq_ofNat_of_zero_le (by omega : 0 ≤ n)
  exact ⟨m, rfl, by omega⟩

lemma qos_ofJson (h : qosSchema integerLiteral value = true) :
    ∃ qos, Qos.ofJson value = some qos := by
  obtain ⟨v, hreliability, hv⟩ := member_of_closedObject h 0 rfl (by decide)
  obtain ⟨r, hr, rfl⟩ := enum_str_iff.mp hv
  obtain ⟨v, hdurability, hv⟩ := member_of_closedObject h 1 rfl (by decide)
  obtain ⟨d, hd, rfl⟩ := enum_str_iff.mp hv
  obtain ⟨v, hdepth, hv⟩ := member_of_closedObject h 3 rfl (by decide)
  obtain ⟨n, hn, hpos⟩ := positive_ofNat hv
  have hr' : ∃ reliability, Reliability.ofText r = some reliability := by
    rw [List.mem_cons, List.mem_singleton] at hr
    obtain rfl | rfl := hr
    · exact ⟨.bestEffort, rfl⟩
    · exact ⟨.reliable, rfl⟩
  have hd' : ∃ durability, Durability.ofText d = some durability := by
    rw [List.mem_cons, List.mem_singleton] at hd
    obtain rfl | rfl := hd
    · exact ⟨.volatile, rfl⟩
    · exact ⟨.transientLocal, rfl⟩
  obtain ⟨reliability, hr'⟩ := hr'
  obtain ⟨durability, hd'⟩ := hd'
  exact ⟨⟨reliability, durability, n, hpos⟩, by
    simp [Qos.ofJson, text_eq_some hreliability, text_eq_some hdurability, hdepth, hr', hd', hn,
      hpos]⟩

/-- An accepted endpoint has a callback if it is a subscription, and then it can be read. -/
lemma kind_ofJson (h : endpointSchema integerLiteral value = true) (hrule : CallbackRule value) :
    ∃ kind, EndpointKind.ofJson value = some kind := by
  obtain ⟨v, hkind, hv⟩ := member_of_closedObject h 1 rfl (by decide)
  obtain ⟨k, hk, rfl⟩ := enum_str_iff.mp hv
  rw [List.mem_cons, List.mem_singleton] at hk
  obtain rfl | rfl := hk
  · exact ⟨.publisher, by simp [EndpointKind.ofJson, text_eq_some hkind]⟩
  · obtain ⟨endpoint, rfl, -, -, hprops⟩ := closedObject_iff.mp h
    obtain ⟨v, hcallback⟩ := Option.isSome_iff_exists.mp (hrule.1 hkind)
    obtain ⟨name, rfl, hname⟩ :=
      pattern_iff.mp (hprops _ (List.mem_of_getElem? (i := 4) rfl) v hcallback)
    have hne : PyStr.ofString "subscription" ≠ PyStr.ofString "publisher" := by decide
    exact ⟨.subscription ⟨name, hname⟩, by
      simp [EndpointKind.ofJson, text_eq_some hkind, hne, text_eq_some hcallback, Callback.ofText,
        hname]⟩

/-- An accepted endpoint can be read, and its id is the member of the document. -/
lemma endpoint_ofJson (h : endpointSchema integerLiteral value = true)
    (hrule : CallbackRule value) : ∃ endpoint, Endpoint.ofJson value = some endpoint ∧
      value.field "id" = some (.str endpoint.id) := by
  obtain ⟨v, hid, hv⟩ := member_of_closedObject h 0 rfl (by decide)
  obtain ⟨id, rfl, hmatch⟩ := pattern_iff.mp hv
  obtain ⟨kind, hkind⟩ := kind_ofJson h hrule
  obtain ⟨v, htopic, hv⟩ := member_of_closedObject h 2 rfl (by decide)
  obtain ⟨topic, rfl⟩ := string_iff.mp hv
  obtain ⟨v, htype, hv⟩ := member_of_closedObject h 3 rfl (by decide)
  obtain ⟨text, rfl, htext⟩ := pattern_iff.mp hv
  obtain ⟨type, hsplit⟩ := splitType_isSome htext
  obtain ⟨v, hqos, hv⟩ := member_of_closedObject h 6 rfl (by decide)
  obtain ⟨qos, hofJson⟩ := qos_ofJson hv
  refine ⟨⟨id, kind, topic, type, qos, hmatch⟩, ?_, hid⟩
  simp [Endpoint.ofJson, text_eq_some hid, hkind, text_eq_some htopic, text_eq_some htype, hsplit,
    hqos, hofJson, hmatch]

/-- Readable endpoints are read one by one, and keep their identifiers. -/
lemma endpoints_ofJson {items : List Json}
    (h : ∀ item ∈ items, ∃ endpoint, Endpoint.ofJson item = some endpoint ∧
      item.field "id" = some (.str endpoint.id)) :
    ∃ endpoints, items.mapM Endpoint.ofJson = some endpoints ∧
      items.map (Json.field · "id") = endpoints.map fun e => some (.str (Endpoint.id e)) := by
  induction items with
  | nil => exact ⟨[], rfl, rfl⟩
  | cons item items ih =>
      rw [List.forall_mem_cons] at h
      obtain ⟨endpoint, hendpoint, hid⟩ := h.1
      obtain ⟨endpoints, hendpoints, hids⟩ := ih h.2
      exact ⟨endpoint :: endpoints, by simp [hendpoint, hendpoints], by simp [hid, hids]⟩

/-- **Accepted documents can be read.** -/
theorem exists_ofFields {repr : PyStr → PyStr} {fields result : Fields}
    (h : validateDeployment repr fields = .ok result) :
    ∃ deployment, Deployment.ofFields fields = some deployment := by
  obtain ⟨⟨hformat, hrules⟩, -⟩ := (checks_validateDeployment.ok_iff result).mp h
  obtain ⟨node, hnode, hv⟩ := member_of_closedObject hformat 3 rfl (by decide)
  obtain ⟨v, hname, hv'⟩ := member_of_closedObject hv 0 rfl (by decide)
  obtain ⟨name, rfl, hmatch⟩ := pattern_iff.mp hv'
  obtain ⟨v, hns, hv'⟩ := member_of_closedObject hv 1 rfl (by decide)
  obtain ⟨ns, rfl⟩ := string_iff.mp hv'
  obtain ⟨v, hendpoints, hv'⟩ := member_of_closedObject hformat 7 rfl (by decide)
  obtain ⟨items, rfl, hitems⟩ := array_iff.mp hv'
  obtain ⟨endpoints, hread, hids⟩ := endpoints_ofJson fun item hitem =>
    endpoint_ofJson (hitems item hitem) (hrules.callbacks items hendpoints item hitem)
  have hnodup : (endpoints.map Endpoint.id).Nodup := by
    have hfields := hrules.distinctIds items hendpoints
    rw [hids] at hfields
    refine List.Nodup.of_map (fun id => some (Json.str id)) ?_
    rw [List.map_map]
    exact hfields
  refine ⟨⟨name, ns, endpoints, hmatch, hnodup⟩, ?_⟩
  have hnode' : fields.member "node" = some node := hnode
  have hendpoints' : fields.member "endpoints" = some (.arr items) := hendpoints
  simp [Deployment.ofFields, hnode', text_eq_some hname, text_eq_some hns, hendpoints',
    Json.asArray,
    hread, hmatch, hnodup]

end Accepted

end Ros2Zephyr
