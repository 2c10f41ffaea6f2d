import Mathlib.Data.List.Dedup
import Ros2Zephyr.Core.JsonPrint
import Ros2Zephyr.Core.Utf8
import Ros2Zephyr.Deployment.Capability
import Ros2Zephyr.Deployment.Generate

/-!
# The compiler as a whole

`compile_deployment` of `tools/compile_deployment.py`: both documents are read and checked, all six
texts are generated, and only then are the files written, one after the other.

* `compileDeployment` — the compiler; its outcome is what it raises or not, and the files it leaves.
* `AllOrNothing` — either a `DeploymentError` and no file, or all six files for a pair of documents
  that conforms.
* `compile_allOrNothing_iff` — when this is so.  Two demands are made after the capability check:
  the report reads one more member of the capability document, and the texts have to be encoded.
-/

namespace Ros2Zephyr

open Fallible PyStr

/-! ## The remaining generators

The header and the source are in `Generate`; these are the other texts.  The capability document is
read once more here, after it was checked.
-/

def backendSymbol (backend : PyStr) : Option PyStr :=
  if backend = "rmw_cyclonedds_c" then some "CONFIG_ROS2_ZEPHYR_RMW_CYCLONEDDS_C"
  else if backend = "rmw_zenoh_pico" then some "CONFIG_ROS2_ZEPHYR_RMW_ZENOH_PICO"
  else none

def configLines (manifest : Manifest) (symbol : PyStr) : List PyStr :=
  ["# Generated by compile_deployment.py; do not edit.", "CONFIG_ROS2_ZEPHYR=y",
    fstring [symbol, "=y"],
    fstring ["CONFIG_ROS2_ZEPHYR_DOMAIN_ID=", PyStr.ofNat manifest.domainId]]

def tcpLines (backend : PyStr) : List PyStr :=
  if backend = "rmw_zenoh_pico" then ["CONFIG_NET_TCP=y"] else []

/-- `generate_config`. -/
def generateConfig (manifest : Manifest) (backend : PyStr) : Except PyException PyStr :=
  match backendSymbol backend with
  | some symbol => .ok (joinLines (configLines manifest symbol ++ tcpLines backend ++ [[]]))
  | none => reject "E_BACKEND_UNKNOWN" ("unknown backend " ++ backend)

def messagePackages (deployment : Deployment) : List PyStr :=
  sortKeys ((deployment.endpoints.map fun e => e.type.package).dedup)

/-- `generate_features`. -/
def generateFeatures (deployment : Deployment) : PyStr :=
  joinLines
    ["# Generated by compile_deployment.py; do not edit.",
      "set(ROS2_ZEPHYR_RCLC_ENABLE_ACTIONS OFF)",
      fstring ["set(ROS2_ZEPHYR_MESSAGE_PACKAGES \"",
        List.intercalate ";" (messagePackages deployment), "\")"],
      []]

def boolText (b : Bool) : PyStr := if b then "True" else "False"

def nodePath (deployment : Deployment) : PyStr :=
  if deployment.nodeNamespace = [] then deployment.nodeName
  else fstring [deployment.nodeNamespace, "/", deployment.nodeName]

def endpointRow (endpoint : Endpoint) : PyStr :=
  fstring ["| ", endpoint.id, " | ", endpoint.kind.text, " | `", endpoint.topic, "` | `",
    endpoint.type.text, "` | ", endpoint.qos.requested .reliability, ", ",
    endpoint.qos.requested .durability, ", ", endpoint.qos.requested .history, "(",
    PyStr.ofNat endpoint.qos.depth, ") |"]

/-- `capability['runtime_allocation']['ros_after_executor_prepare']` -/
def rosAllocation (capability : Fields) : Except PyException Json := do
  match ← getItem capability "runtime_allocation" with
  | .obj allocation => getItem allocation "ros_after_executor_prepare"
  | _ => .error .typeError

def reportStart (manifest : Manifest) (backend : PyStr) : List PyStr :=
  ["# Deployment report", [], fstring ["Deployment: `", manifest.name, "`"], [],
    fstring ["Backend: `", backend, "`"], [],
    fstring ["Node: `", nodePath manifest.boundary, "`"], [], "## Endpoints", [],
    "| ID | Kind | Topic | Type | QoS |", "|---|---|---|---|---|"]

def reportEnd (manifest : Manifest) (promised : Bool) : List PyStr :=
  [[], "## Accepted contract", [], "- Endpoint lifetime is fixed at startup.",
    "- Message profile: `fixed_size`.",
    fstring ["- Graph outbound/inbound required: `", boolText manifest.outbound, "` / `",
      boolText manifest.inbound, "`."],
    fstring ["- ROS allocation after executor preparation promised by backend: `",
      boolText promised, "`."],
    fstring ["- Local endpoint capacity: `", PyStr.ofNat manifest.contract.localEndpoints, "`."],
    fstring ["- Maximum middleware workers: `", PyStr.ofNat manifest.contract.maximumWorkers, "`."],
    fstring ["- Application static reserve: `", PyStr.ofNat manifest.contract.staticReserveBytes,
      "` bytes."],
    []]

/-- `generate_report`. -/
def generateReport (manifest : Manifest) (capability : Fields) (backend : PyStr) :
    Except PyException PyStr := do
  let allocates ← rosAllocation capability
  .ok (joinLines (reportStart manifest backend ++ manifest.boundary.endpoints.map endpointRow
    ++ reportEnd manifest (!truthy allocates)))

/-! ## The compiler

All texts are there before the first file is opened.  What can still go wrong then is the encoding
of a text.
-/

section Compiler

variable (repr : PyStr → PyStr) (floats : FloatRepr)

/-- `load_json`; `contents` is the decoded document, or the text of the error.  A file that
`json.loads` does not decode because an integer in it has more than 4300 digits, or because it is
nested deeper than the interpreter allows, is outside of this: what is raised then is not caught. -/
def loadJson (path : PyStr) (contents : Except PyStr Json) : Except PyException Fields :=
  match contents with
  | .ok value => requireObject value path
  | .error error =>
      reject "E_INPUT" ("cannot read " ++ path ++ ": " ++ error)

/-- The reading of a document that was accepted; there always is one. -/
def readManifest (deployment : Fields) : Except PyException Manifest :=
  match Manifest.ofFields deployment with
  | some manifest => .ok manifest
  | none => .error .attributeError

/-- The dictionary `outputs`. -/
def generateOutputs (manifest : Manifest) (deployment capability : Fields) (backend : PyStr) :
    Except PyException (List (PyStr × PyStr)) := do
  let config ← generateConfig manifest backend
  let report ← generateReport manifest capability backend
  .ok [("generated_ros_init.h", generateHeader manifest.boundary),
    ("generated_ros_init.c", generateSource manifest.boundary backend),
    ("generated_ros2_zephyr.conf", config),
    ("generated_features.cmake", generateFeatures manifest.boundary),
    ("deployment-plan.json",
      Json.dumps floats 0 (.obj (deploymentPlan deployment capability backend)) ++ [10]),
    ("deployment-report.md", report)]

/-- How a run of the compiler ends: the files it leaves in the output directory, and what it
raises. -/
structure Compilation where
  files : List (PyStr × PyStr)
  result : Except PyException Unit

/-- The loop over the outputs.  A file is opened before its text is encoded, so a text that cannot
be encoded leaves it empty. -/
def writeOutputs : List (PyStr × PyStr) → Compilation
  | [] => ⟨[], .ok ()⟩
  | (name, content) :: outputs =>
      if HasUtf8 content then
        ⟨(name, content) :: (writeOutputs outputs).files, (writeOutputs outputs).result⟩
      else ⟨[(name, [])], .error .unicodeEncodeError⟩

/-- Everything that is done before the first file is written. -/
def prepareOutputs (deploymentPath capabilityPath backend : PyStr)
    (deploymentFile capabilityFile : Except PyStr Json) :
    Except PyException (List (PyStr × PyStr)) := do
  let deployment ← validateDeployment repr (← loadJson deploymentPath deploymentFile)
  let capability ← loadJson capabilityPath capabilityFile
  let manifest ← readManifest deployment
  validateCapabilities manifest capability backend
  generateOutputs floats manifest deployment capability backend

/-- `compile_deployment`. -/
def compileDeployment (deploymentPath capabilityPath backend : PyStr)
    (deploymentFile capabilityFile : Except PyStr Json) : Compilation :=
  match prepareOutputs repr floats deploymentPath capabilityPath backend deploymentFile
      capabilityFile with
  | .ok outputs => writeOutputs outputs
  | .error e => ⟨[], .error e⟩

end Compiler

/-! ## Which texts can be encoded

Every name that the validator accepts is ASCII.  The namespace and the topics are not restricted to
it, so they decide.
-/

section Texts

variable {s : PyStr} {deployment : Deployment} {endpoint : Endpoint} {manifest : Manifest}

lemma hasUtf8_of_isWordChar (h : ∀ c ∈ s, isWordChar c = true) : HasUtf8 s := by
  refine hasUtf8_of_lt fun c hc => ?_
  have hword := h c hc
  simp only [isWordChar, isLetter, isDigit, isUnderscore, inRange, Bool.or_eq_true,
    Bool.and_eq_true, decide_eq_true_eq, beq_iff_eq] at hword
  have hz : 'z'.toNat = 122 := rfl
  have hZ : 'Z'.toNat = 90 := rfl
  have hnine : '9'.toNat = 57 := rfl
  have hunderscore : '_'.toNat = 95 := rfl
  omega

lemma hasUtf8_of_isWord {first rest : ℕ → Bool} (h : (Pattern.word first rest).fullmatch s = true)
    (hfirst : ∀ c, first c = true → isWordChar c = true)
    (hrest : ∀ c, rest c = true → isWordChar c = true) : HasUtf8 s := by
  obtain ⟨c, cs, rfl, hc, hcs⟩ := Pattern.fullmatch_word.mp h
  refine hasUtf8_of_isWordChar (List.forall_mem_cons.mpr ⟨hfirst c hc, ?_⟩)
  exact fun d hd => hrest d (hcs d hd)

lemma hasUtf8_identifier (h : identifier.fullmatch s = true) : HasUtf8 s := by
  refine hasUtf8_of_isWord h (fun c hc => ?_) fun c hc => hc
  simp only [Bool.or_eq_true] at hc
  rcases hc with hc | hc <;> simp [isWordChar, hc]

lemma hasUtf8_lowerIdentifier (h : lowerIdentifier.fullmatch s = true) : HasUtf8 s := by
  have hlower : ∀ c, isLower c = true → isWordChar c = true := by
    intro c hc
    have hletter : isLetter c = true := by
      simp only [isLetter, Bool.or_eq_true]
      exact .inr hc
    exact isWordChar_of_isLetter hletter
  refine hasUtf8_of_isWord h hlower fun c hc => ?_
  simp only [isLowerWordChar, Bool.or_eq_true] at hc
  rcases hc with (hc | hc) | hc
  · exact hlower c hc
  · simp [isWordChar, hc]
  · simp [isWordChar, hc]

lemma hasUtf8_typePart (h : typePart.fullmatch s = true) : HasUtf8 s :=
  hasUtf8_of_isWord h (fun _ => isWordChar_of_isLetter) fun _ hc => hc

@[simp] lemma hasUtf8_fstring {pieces : List PyStr} :
    HasUtf8 (fstring pieces) ↔ ∀ piece ∈ pieces, HasUtf8 piece :=
  hasUtf8_flatten

@[simp] lemma hasUtf8_joinLines {lines : List PyStr} :
    HasUtf8 (joinLines lines) ↔ ∀ line ∈ lines, HasUtf8 line :=
  hasUtf8_intercalate (by decide)

@[simp] lemma hasUtf8_id (endpoint : Endpoint) : HasUtf8 endpoint.id :=
  hasUtf8_lowerIdentifier endpoint.id_matches

@[simp] lemma hasUtf8_package (type : MessageType) : HasUtf8 type.package :=
  hasUtf8_typePart type.package_matches

@[simp] lemma hasUtf8_message (type : MessageType) : HasUtf8 type.message :=
  hasUtf8_typePart type.message_matches

@[simp] lemma hasUtf8_callback (callback : Callback) : HasUtf8 callback.name :=
  hasUtf8_identifier callback.name_matches

@[simp] lemma hasUtf8_kind (kind : EndpointKind) : HasUtf8 kind.text := by
  cases kind <;> exact hasUtf8_ofString _

@[simp] lemma hasUtf8_nodeName (deployment : Deployment) : HasUtf8 deployment.nodeName :=
  hasUtf8_identifier deployment.nodeName_matches

/-- Lower case is ASCII, and an underscore is too. -/
lemma hasUtf8_snakeCase (h : HasUtf8 s) : HasUtf8 (snakeCase s) := by
  have hZ : 'Z'.toNat = 90 := rfl
  have hlower : ∀ c, c < 0xD800 ∨ 0xDFFF < c →
      (if inRange 'A' 'Z' c then c + 32 else c) < 0xD800 ∨
        0xDFFF < (if inRange 'A' 'Z' c then c + 32 else c) := by
    intro c hc
    split
    next hrange =>
      simp only [inRange, Bool.and_eq_true, decide_eq_true_eq] at hrange
      omega
    next => exact hc
  cases s with
  | nil => exact h
  | cons c cs =>
      obtain ⟨hc, hcs⟩ := List.forall_mem_cons.mp h
      refine List.forall_mem_cons.mpr ⟨hlower c hc, ?_⟩
      intro x hx
      obtain ⟨d, hd, hx⟩ := List.mem_flatMap.mp hx
      split at hx
      next hrange =>
        rcases List.mem_cons.mp hx with rfl | hx
        · decide
        · rw [List.mem_singleton.mp hx]
          exact hlower d (hcs d hd)
      next =>
        rw [List.mem_singleton.mp hx]
        exact hcs d hd

section Lines

lemma lines_includes (builtin : Bool) : ∀ line ∈ includeLines builtin, HasUtf8 line := by
  cases builtin <;> simp [includeLines]

lemma lines_nodeInit :
    (∀ line ∈ nodeInitLines deployment, HasUtf8 line) ↔ HasUtf8 deployment.nodeNamespace := by
  simp [nodeInitLines]

lemma lines_qos : ∀ line ∈ qosInitializer endpoint, HasUtf8 line := by
  cases hr : endpoint.qos.reliability <;> cases hd : endpoint.qos.durability <;>
    simp [qosInitializer, qosLine, Endpoint.qosVariable, hr, hd, Reliability.text, Durability.text,
      CLang.unsignedText]

lemma hasUtf8_typeSupport (builtin : Bool) (type : MessageType) :
    HasUtf8 (typeSupport builtin type) := by
  unfold typeSupport
  split <;> simp

lemma lines_endpointInit (builtin : Bool) :
    (∀ line ∈ endpointInitLines builtin endpoint, HasUtf8 line) ↔ HasUtf8 endpoint.topic := by
  rw [endpointInitLines, List.forall_mem_append, and_iff_right lines_qos]
  simp [hasUtf8_typeSupport, failureLine]

lemma lines_executor : ∀ line ∈ executorLines deployment, HasUtf8 line := by
  unfold executorLines
  split
  · simp
  · simp only [List.forall_mem_append, List.forall_mem_flatMap]
    refine ⟨⟨?_, fun subscription _ => ?_⟩, ?_⟩
    · simp [executorInitLines, failureLine, CLang.unsignedText]
    · simp [addSubscriptionLines, failureLine]
    · simp [prepareLines, failureLine]

lemma lines_members : ∀ decl ∈ contextMembers deployment,
    HasUtf8 decl.type ∧ HasUtf8 decl.name := by
  have hendpoint : ∀ e : Endpoint, ∀ decl ∈ e.memberDecls,
      HasUtf8 decl.type ∧ HasUtf8 decl.name := by
    intro e
    cases hkind : e.kind <;>
      simp [Endpoint.memberDecls, hkind, Endpoint.handle, Endpoint.buffer, EndpointKind.text,
        MessageType.structName]
  have hflag : ∀ e : Endpoint, HasUtf8 e.flag := by
    intro e
    simp [Endpoint.flag, Endpoint.handle]
  simp only [contextMembers, List.forall_mem_append, List.forall_mem_flatMap, List.forall_mem_map]
  refine ⟨⟨⟨⟨by simp, fun e _ => hendpoint e⟩, by simp⟩, fun e _ => ⟨by simp, hflag e⟩⟩, by simp⟩

end Lines

lemma hasUtf8_generateHeader : HasUtf8 (generateHeader deployment) := by
  rw [generateHeader, headerWith, hasUtf8_joinLines]
  simp only [List.forall_mem_append, List.forall_mem_map]
  refine ⟨⟨⟨⟨⟨⟨?_, fun type htype => ?_⟩, ?_⟩, fun decl hdecl => ?_⟩, ?_⟩, fun s _ => ?_⟩, ?_⟩
  · simp [headerStart]
  · obtain ⟨e, -, rfl⟩ := List.mem_map.mp (List.mem_dedup.mp ((List.mem_insertionSort _).mp htype))
    simp [includeLine, hasUtf8_snakeCase]
  · simp
  · obtain ⟨htype, hname⟩ := lines_members decl hdecl
    simp [memberLine, htype, hname]
  · simp [prototypes]
  · simp [handlerLine]
  · simp

/-- The source contains the namespace and the topics as they are. -/
lemma hasUtf8_generateSource {backend : PyStr} :
    HasUtf8 (generateSource deployment backend) ↔
      HasUtf8 deployment.nodeNamespace ∧ ∀ e ∈ deployment.endpoints, HasUtf8 e.topic := by
  rw [generateSource, hasUtf8_joinLines]
  simp only [List.forall_mem_append, List.forall_mem_map, List.forall_mem_flatMap, lines_nodeInit,
    lines_endpointInit]
  constructor
  · rintro ⟨⟨⟨⟨-, hnode⟩, htopics⟩, -⟩, -⟩
    exact ⟨hnode, htopics⟩
  · rintro ⟨hnode, htopics⟩
    refine ⟨⟨⟨⟨⟨⟨⟨⟨⟨lines_includes _, ?_⟩, fun e _ => ?_⟩, ?_⟩, ?_⟩, fun e _ => ?_⟩, hnode⟩,
      htopics⟩,
      lines_executor⟩, ?_⟩
    · simp [finiStart]
    · simp [endpointFiniLine]
    · simp [finiEnd]
    · simp [initStart]
    · simp [zeroLine]
    · simp

/-- The configuration holds the backend and numbers. -/
lemma hasUtf8_generateConfig {backend config : PyStr}
    (h : generateConfig manifest backend = .ok config) : HasUtf8 config := by
  have hsymbol : ∀ symbol, backendSymbol backend = some symbol → HasUtf8 symbol := by
    intro symbol hsymbol
    unfold backendSymbol at hsymbol
    split at hsymbol
    · cases hsymbol
      exact hasUtf8_ofString _
    · split at hsymbol
      · cases hsymbol
        exact hasUtf8_ofString _
      · cases hsymbol
  have htcp : ∀ line ∈ tcpLines backend, HasUtf8 line := by
    unfold tcpLines
    split <;> simp
  unfold generateConfig at h
  split at h
  next symbol hbackend =>
    cases h
    rw [hasUtf8_joinLines]
    simp only [List.forall_mem_append]
    refine ⟨⟨?_, htcp⟩, ?_⟩
    · simp [configLines, hsymbol symbol hbackend]
    · simp
  next => cases h

lemma hasUtf8_generateFeatures : HasUtf8 (generateFeatures deployment) := by
  have hpackages : ∀ package ∈ messagePackages deployment, HasUtf8 package := by
    intro package hpackage
    obtain ⟨e, -, rfl⟩ := List.mem_map.mp
      (List.mem_dedup.mp ((List.mem_insertionSort _).mp hpackage))
    exact hasUtf8_package _
  have hjoined := (hasUtf8_intercalate (hasUtf8_ofString ";")).mpr hpackages
  simp [generateFeatures, hjoined]

lemma hasUtf8_dumps (floats : FloatRepr) (value : Json) :
    HasUtf8 (Json.dumps floats 0 value ++ [10]) := by
  rw [hasUtf8_append]
  refine ⟨hasUtf8_of_lt fun c hc => ?_, by decide⟩
  exact (Json.ascii_dumps floats 0 value c hc).trans (by decide)

/-- The report contains the same names as the source. -/
lemma hasUtf8_generateReport {capability : Fields} {backend report : PyStr}
    (h : generateReport manifest capability backend = .ok report) (hbackend : HasUtf8 backend)
    (hnode : HasUtf8 manifest.boundary.nodeNamespace)
    (htopics : ∀ e ∈ manifest.boundary.endpoints, HasUtf8 e.topic) : HasUtf8 report := by
  have hname : HasUtf8 manifest.name := hasUtf8_lowerIdentifier manifest.name_matches
  have hpath : HasUtf8 (nodePath manifest.boundary) := by
    unfold nodePath
    split
    · simp
    · simp [hnode]
  have hbool : ∀ b, HasUtf8 (boolText b) := by
    intro b
    cases b <;> exact hasUtf8_ofString _
  obtain ⟨allocates, -, h⟩ := bind_eq_ok.mp h
  cases h
  rw [hasUtf8_joinLines]
  simp only [List.forall_mem_append, List.forall_mem_map]
  refine ⟨⟨?_, fun e he => ?_⟩, ?_⟩
  · simp [reportStart, hname, hbackend, hpath]
  · cases hr : e.qos.reliability <;> cases hd : e.qos.durability <;>
      simp [endpointRow, htopics e he, MessageType.text, Qos.requested, hr, hd]
  · simp [reportEnd, hbool]

end Texts

/-! ## All or nothing

The demands of the capability check, followed by the two that the compiler makes after it.  What
decides is the first one that is not met, and what it does.
-/

/-- The files of a compilation. -/
def outputNames : List PyStr :=
  ["generated_ros_init.h", "generated_ros_init.c", "generated_ros2_zephyr.conf",
    "generated_features.cmake", "deployment-plan.json", "deployment-report.md"]

/-- **Either a `DeploymentError` and no file, or all six files for a pair that conforms.** -/
def AllOrNothing (deployment capability : Fields) (backend : PyStr)
    (outcome : Compilation) : Prop :=
  (outcome.files = [] ∧ ∃ code message,
    outcome.result = .error (.deploymentError code message)) ∨
  (outcome.files.map Prod.fst = outputNames ∧ outcome.result = .ok () ∧
    ∃ manifest, Manifest.ofFields deployment = some manifest ∧
      Conforms manifest capability backend)

/-- The report asks the capability document for one more member. -/
def allocationFinding (capability : Fields) : Finding :=
  match (Json.obj capability).path ["runtime_allocation", "ros_after_executor_prepare"] with
  | some _ => .met
  | none => .escapes

/-- The namespace and the topics end up in the source. -/
def textFinding (manifest : Manifest) : Finding :=
  if HasUtf8 manifest.boundary.nodeNamespace ∧
      ∀ endpoint ∈ manifest.boundary.endpoints, HasUtf8 endpoint.topic then .met
  else .escapes

/-- All demands of an accepted deployment, in the order in which the compiler makes them. -/
def findings (manifest : Manifest) (capability : Fields) (backend : PyStr) : List Finding :=
  capabilityFindings manifest capability backend ++ [allocationFinding capability] ++
    [textFinding manifest]

/-- A demand is refused before any that escapes, or all demands are met. -/
def Sound (demands : List Finding) : Prop :=
  conclusion demands = .refuses ∨ ∀ finding ∈ demands, finding = .met

section Outcome

variable {repr : PyStr → PyStr} {floats : FloatRepr} {manifest : Manifest}
  {deployment capability : Fields} {backend : PyStr} {outputs : List (PyStr × PyStr)}

/-- Another exception is neither all nor nothing. -/
lemma not_allOrNothing_of_error {outcome : Compilation} {e : PyException}
    (h : outcome.result = .error e) (he : ¬ e.IsDeploymentError) :
    ¬ AllOrNothing deployment capability backend outcome := by
  rintro (⟨-, code, message, herror⟩ | ⟨-, hok, -⟩)
  · rw [h] at herror
    cases herror
    exact he trivial
  · rw [h] at hok
    cases hok

lemma writeOutputs_of_hasUtf8 (h : ∀ output ∈ outputs, HasUtf8 output.2) :
    writeOutputs outputs = ⟨outputs, .ok ()⟩ := by
  induction outputs with
  | nil => rfl
  | cons output outputs ih =>
      rw [List.forall_mem_cons] at h
      rw [writeOutputs, if_pos h.1, ih h.2]

lemma writeOutputs_result {output : PyStr × PyStr} (hmem : output ∈ outputs)
    (h : ¬ HasUtf8 output.2) : (writeOutputs outputs).result = .error .unicodeEncodeError := by
  induction outputs with
  | nil => cases hmem
  | cons first outputs ih =>
      rw [writeOutputs]
      split
      next hfirst =>
        rcases List.mem_cons.mp hmem with rfl | hmem
        · exact absurd hfirst h
        · exact ih hmem
      next => rfl

/-- The member of the capability document that only the report reads. -/
lemma concludes_rosAllocation :
    Concludes (rosAllocation capability) (conclusion [allocationFinding capability]) := by
  have hpath : (Json.obj capability).path ["runtime_allocation", "ros_after_executor_prepare"]
      = (Fields.member capability "runtime_allocation").bind fun v =>
          v.field "ros_after_executor_prepare" := by
    simp [Json.path]
    rfl
  unfold rosAllocation allocationFinding getItem
  rw [hpath]
  cases Fields.member capability "runtime_allocation" with
  | none => exact ⟨_, rfl, id⟩
  | some v =>
      cases v with
      | obj allocation =>
          simp only [ok_bind, Option.bind_some, Json.field]
          cases Fields.member allocation "ros_after_executor_prepare" with
          | none => exact ⟨_, rfl, id⟩
          | some allocates => exact ⟨allocates, rfl⟩
      | _ => exact ⟨_, rfl, id⟩

lemma mem_rmw_of_validated (h : validateCapabilities manifest capability backend = .ok ()) :
    backend ∈ manifest.rmw := by
  obtain ⟨_, hselected, -⟩ := bind_eq_ok.mp h
  by_contra hnot
  rw [checkSelected, if_pos hnot] at hselected
  cases hselected

lemma exists_generateConfig (h : backend ∈ supportedBackends) :
    ∃ config, generateConfig manifest backend = .ok config := by
  rw [supportedBackends, List.mem_cons, List.mem_singleton] at h
  obtain rfl | rfl := h
  · exact ⟨_, rfl⟩
  · exact ⟨_, rfl⟩

/-- The texts are generated unless the report cannot be. -/
lemma concludes_generateOutputs (h : backend ∈ supportedBackends) :
    Concludes (generateOutputs floats manifest deployment capability backend)
      (conclusion [allocationFinding capability]) := by
  have hconfig : ∃ config, generateConfig manifest backend = .ok config := exists_generateConfig h
  obtain ⟨config, hconfig⟩ := hconfig
  rw [generateOutputs, hconfig, ok_bind]
  have hreport : Concludes (generateReport manifest capability backend)
      (conclusion [allocationFinding capability]) :=
    concludes_rosAllocation.then fun _ => ⟨_, rfl⟩
  exact hreport.then fun _ => ⟨_, rfl⟩

section Accepted

variable {deploymentPath capabilityPath : PyStr}

lemma prepareOutputs_eq (hvalid : validateDeployment repr deployment = .ok deployment)
    (hmanifest : Manifest.ofFields deployment = some manifest) :
    prepareOutputs repr floats deploymentPath capabilityPath backend (.ok (.obj deployment))
        (.ok (.obj capability))
      = (validateCapabilities manifest capability backend >>= fun _ =>
          generateOutputs floats manifest deployment capability backend) := by
  simp only [prepareOutputs, loadJson, requireObject, ok_bind, hvalid, readManifest, hmanifest]

lemma concludes_prepared :
    Concludes (validateCapabilities manifest capability backend >>= fun _ =>
        generateOutputs floats manifest deployment capability backend)
      (conclusion (capabilityFindings manifest capability backend ++
        [allocationFinding capability])) := by
  refine concludes_validateCapabilities.append fun _ hok => ?_
  exact concludes_generateOutputs (manifest.rmw_supported _ (mem_rmw_of_validated hok))

end Accepted

/-- The texts of an accepted deployment, and which of them can be encoded. -/
lemma generateOutputs_texts (hbackend : backend ∈ supportedBackends)
    (h : generateOutputs floats manifest deployment capability backend = .ok outputs) :
    outputs.map Prod.fst = outputNames ∧
      ((∀ output ∈ outputs, HasUtf8 output.2) ↔ textFinding manifest = .met) := by
  obtain ⟨config, hconfig, h⟩ := bind_eq_ok.mp h
  obtain ⟨report, hreport, h⟩ := bind_eq_ok.mp h
  cases h
  refine ⟨rfl, ?_⟩
  simp only [List.forall_mem_cons, List.not_mem_nil, false_implies, implies_true, and_true,
    hasUtf8_generateHeader, hasUtf8_generateSource, hasUtf8_generateConfig hconfig,
    hasUtf8_generateFeatures, hasUtf8_dumps, true_and]
  have htext : textFinding manifest = .met ↔ HasUtf8 manifest.boundary.nodeNamespace ∧
      ∀ endpoint ∈ manifest.boundary.endpoints, HasUtf8 endpoint.topic := by
    unfold textFinding
    split <;> simp_all
  rw [htext]
  constructor
  · exact fun hall => hall.1
  · intro hsource
    have hbackend' : HasUtf8 backend := by
      rw [supportedBackends, List.mem_cons, List.mem_singleton] at hbackend
      rcases hbackend with rfl | rfl <;> exact hasUtf8_ofString _
    exact ⟨hsource, hasUtf8_generateReport hreport hbackend' hsource.1 hsource.2⟩

lemma allocationFinding_ne_slips : allocationFinding capability ≠ .slips := by
  unfold allocationFinding
  split <;> simp

/-- Once everything is prepared, the texts decide, and then the demands that slipped through. -/
lemma sound_findings_iff
    (h : conclusion (capabilityFindings manifest capability backend ++
      [allocationFinding capability]) = .passes) :
    Sound (findings manifest capability backend) ↔
      textFinding manifest = .met ∧ Conforms manifest capability backend := by
  have hpasses := conclusion_eq_passes.mp h
  rw [List.forall_mem_append, List.forall_mem_singleton] at hpasses
  rw [conforms_iff (conclusion_eq_passes.mpr hpasses.1), Sound, findings, conclusion_append, h,
    List.forall_mem_append, List.forall_mem_append, List.forall_mem_singleton,
    List.forall_mem_singleton]
  have hallocation : allocationFinding capability = .met :=
    hpasses.2.resolve_right allocationFinding_ne_slips
  have hrefuses : conclusion [textFinding manifest] ≠ .refuses := by
    unfold textFinding
    split <;> simp [conclusion]
  simp only [hallocation, and_true, hrefuses, false_or]
  exact and_comm

/-- What is written of the prepared texts. -/
lemma allOrNothing_writeOutputs (hbackend : backend ∈ supportedBackends)
    (hmanifest : Manifest.ofFields deployment = some manifest)
    (h : generateOutputs floats manifest deployment capability backend = .ok outputs) :
    AllOrNothing deployment capability backend (writeOutputs outputs) ↔
      textFinding manifest = .met ∧ Conforms manifest capability backend := by
  obtain ⟨hnames, htexts⟩ := generateOutputs_texts hbackend h
  rw [← htexts]
  by_cases hall : ∀ output ∈ outputs, HasUtf8 output.2
  · rw [writeOutputs_of_hasUtf8 hall, AllOrNothing]
    constructor
    · rintro (⟨-, _, _, herror⟩ | ⟨-, -, manifest', hmanifest', hconforms⟩)
      · cases herror
      · rw [hmanifest] at hmanifest'
        cases hmanifest'
        exact ⟨hall, hconforms⟩
    · rintro ⟨-, hconforms⟩
      exact .inr ⟨hnames, rfl, manifest, hmanifest, hconforms⟩
  · refine ⟨fun houtcome => ?_, fun hboth => absurd hboth.1 hall⟩
    push Not at hall
    obtain ⟨output, hmem, houtput⟩ := hall
    exact absurd houtcome (not_allOrNothing_of_error (writeOutputs_result hmem houtput) id)

lemma compile_of_valid {deploymentPath capabilityPath : PyStr}
    (hvalid : validateDeployment repr deployment = .ok deployment)
    (hmanifest : Manifest.ofFields deployment = some manifest) :
    AllOrNothing deployment capability backend (compileDeployment repr floats deploymentPath
        capabilityPath backend (.ok (.obj deployment)) (.ok (.obj capability))) ↔
      Sound (findings manifest capability backend) := by
  have hconcludes : Concludes (validateCapabilities manifest capability backend >>= fun _ =>
      generateOutputs floats manifest deployment capability backend) _ := concludes_prepared
  rw [compileDeployment, prepareOutputs_eq hvalid hmanifest]
  cases hprepared : conclusion (capabilityFindings manifest capability backend ++
      [allocationFinding capability]) with
  | refuses =>
      rw [hprepared] at hconcludes
      obtain ⟨code, message, herror⟩ := hconcludes
      rw [herror]
      refine ⟨fun _ => .inl ?_, fun _ => .inl ⟨rfl, code, message, rfl⟩⟩
      rw [findings, conclusion_append, hprepared]
  | escapes =>
      rw [hprepared] at hconcludes
      obtain ⟨e, herror, hkind⟩ := hconcludes
      rw [herror]
      have hfindings : conclusion (findings manifest capability backend) = .escapes := by
        rw [findings, conclusion_append, hprepared]
      constructor
      · intro houtcome
        exact absurd houtcome (not_allOrNothing_of_error rfl hkind)
      · rintro (hrefuses | hmet)
        · rw [hfindings] at hrefuses
          cases hrefuses
        · have hpasses := conclusion_eq_passes.mpr fun f hf => .inl (hmet f hf)
          rw [hfindings] at hpasses
          cases hpasses
  | passes =>
      rw [hprepared] at hconcludes
      obtain ⟨outputs, houtputs⟩ := hconcludes
      obtain ⟨_, hok, hgenerate⟩ := bind_eq_ok.mp houtputs
      have hsupported := manifest.rmw_supported _ (mem_rmw_of_validated hok)
      rw [houtputs, sound_findings_iff hprepared]
      exact allOrNothing_writeOutputs hsupported hmanifest hgenerate

lemma compile_of_invalid {deploymentPath capabilityPath : PyStr}
    (h : ¬ ∃ result, validateDeployment repr deployment = .ok result) :
    AllOrNothing deployment capability backend (compileDeployment repr floats deploymentPath
      capabilityPath backend (.ok (.obj deployment)) (.ok (.obj capability))) := by
  cases hvalid : validateDeployment repr deployment with
  | ok result => exact absurd ⟨result, hvalid⟩ h
  | error e =>
      have hkind := checks_validateDeployment.error_of e hvalid
      cases e with
      | deploymentError code message =>
          refine .inl ⟨?_, code, message, ?_⟩ <;>
            simp [compileDeployment, prepareOutputs, loadJson, requireObject, hvalid]
      | _ => exact hkind.elim

/-- **When the compiler is all or nothing.**  For a deployment that is accepted, it is if going
through its demands in the order of the checks, one is refused before any that lets another
exception escape, or all of them are met. -/
theorem compile_allOrNothing_iff (repr : PyStr → PyStr) (floats : FloatRepr)
    (deploymentPath capabilityPath backend : PyStr) (deployment capability : Fields) :
    AllOrNothing deployment capability backend (compileDeployment repr floats deploymentPath
        capabilityPath backend (.ok (.obj deployment)) (.ok (.obj capability))) ↔
      (deploymentFormat JsonSchema.integerLiteral (.obj deployment) = true →
        CrossFieldRules (.obj deployment) →
        ∀ manifest, Manifest.ofFields deployment = some manifest →
          Sound (findings manifest capability backend)) := by
  have haccepts : ∀ result, validateDeployment repr deployment = .ok result ↔ _ :=
    checks_validateDeployment.ok_iff
  by_cases hvalid : ∃ result, validateDeployment repr deployment = .ok result
  · obtain ⟨result, hvalid⟩ := hvalid
    obtain ⟨manifest, hmanifest⟩ := exists_manifest hvalid
    obtain ⟨⟨hformat, hrules⟩, rfl⟩ := (haccepts result).mp hvalid
    rw [compile_of_valid hvalid hmanifest]
    constructor
    · intro hsound _ _ manifest' hmanifest'
      rw [hmanifest] at hmanifest'
      cases hmanifest'
      exact hsound
    · intro h
      exact h hformat hrules manifest hmanifest
  · refine ⟨fun _ hformat hrules => ?_, fun _ => compile_of_invalid hvalid⟩
    exact absurd ⟨deployment, (haccepts deployment).mpr ⟨⟨hformat, hrules⟩, rfl⟩⟩ hvalid

end Outcome

section Failures

/-- The document with another value for a member. -/
def withMember (fields : Fields) (key : PyStr) (value : Json) : Fields :=
  fields.map fun f => if f.1 = key then (key, value) else f

/-- No float occurs in the samples. -/
def noFloats : FloatRepr := ⟨fun _ => [], by simp⟩

def compileSample (deployment capability : Fields) : Compilation :=
  compileDeployment id noFloats "deployment.json" "rmw_cyclonedds_c.json" "rmw_cyclonedds_c"
    (.ok (.obj deployment)) (.ok (.obj capability))

/-- The capability of Cyclone DDS without what the report asks for. -/
def withoutAllocation : Fields :=
  cycloneCapability.filter fun f => f.1 ≠ "runtime_allocation"

/-- The capability of Cyclone DDS with a text in the place of an array. -/
def textualReliability : Fields :=
  withMember cycloneCapability "qos" (.obj [
    ("reliability", .str "not best_effort"), ("durability", .arr [.str "volatile"]),
    ("history", .arr [.str "keep_last"]),
    ("depth", .obj [("minimum", .int 1), ("maximum", .int 32)])])

/-- The loopback sample with a lone surrogate in the namespace. -/
def surrogateNamespace : Fields :=
  withMember loopbackDeployment "node" (.obj [
    ("name", .str "ros2_zephyr_loopback"), ("namespace", .str ['/'.toNat, 0xD800])])

/-- Three ways in which the compiler is not all or nothing: an exception escapes from the report,
a text is taken for an array, and a text that cannot be encoded stops the writing of the files. -/
theorem compile_not_allOrNothing :
    ¬ AllOrNothing loopbackDeployment withoutAllocation "rmw_cyclonedds_c"
        (compileSample loopbackDeployment withoutAllocation) ∧
    ((Json.obj textualReliability).path ["qos", "reliability"] = some (.str "not best_effort") ∧
      (Manifest.ofFields loopbackDeployment).map
        (validateCapabilities · textualReliability "rmw_cyclonedds_c") = some (.ok ())) ∧
    ¬ AllOrNothing surrogateNamespace cycloneCapability "rmw_cyclonedds_c"
        (compileSample surrogateNamespace cycloneCapability) := by
  have hallocation : (compileSample loopbackDeployment withoutAllocation).result
      = .error (.keyError "runtime_allocation") := by decide
  have hsurrogate : (compileSample surrogateNamespace cycloneCapability).result
      = .error .unicodeEncodeError := by decide +kernel
  exact ⟨not_allOrNothing_of_error hallocation id, ⟨rfl, by decide⟩,
    not_allOrNothing_of_error hsurrogate id⟩

end Failures

end Ros2Zephyr
