import Ros2Zephyr.Resources.PlanCommand

/-!
# From the manifest to the verified image

Three commands work on one deployment, each on a file that the one before has written:
`compile_deployment.py` leaves `deployment-plan.json`, the plan command `resource-plan.json`, and
the verify command compares a linked image with it.

* `deployment_plan_handed_over`, `resource_plan_handed_over` — nothing is lost in the two files.
* `Fulfilled` — what the manifest asks of the configuration and of the image.
* `toolchain_sound` — an image that the verify command accepts fulfils the manifest.
-/

namespace Ros2Zephyr

open Fallible Json

section Compiled

variable {codec : FloatCodec} {repr : PyStr → PyStr} {backend : PyStr}

/-- What the compiler has found out when it has written its files. -/
structure Compiled (codec : FloatCodec) (repr : PyStr → PyStr) (backend : PyStr)
    (deployment capability : Fields) (planText : PyStr) : Prop where
  valid : validateDeployment repr deployment = .ok deployment
  backend_supported : backend ∈ supportedBackends
  planText_eq : planText
    = dumps codec.toFloatRepr 0 (.obj (deploymentPlan deployment capability backend)) ++ [10]

lemma loadJson_eq_ok {path : PyStr} {value : Json} {fields : Fields}
    (h : loadJson path (.ok value) = .ok fields) : value = .obj fields := by
  cases value with
  | obj => cases h; rfl
  | _ => cases h

/-- A run that ends well has written the plan of the two documents. -/
lemma compiled_of_ok {deploymentPath capabilityPath : PyStr} {deployment capability : Json}
    {files : List (PyStr × PyStr)} {planText : PyStr}
    (h : compileDeployment repr codec.toFloatRepr deploymentPath capabilityPath backend
      (.ok deployment) (.ok capability) = ⟨files, .ok ()⟩)
    (hfile : files.lookup (PyStr.ofString "deployment-plan.json") = some planText) :
    ∃ deploymentFields capabilityFields, deployment = .obj deploymentFields ∧
      capability = .obj capabilityFields ∧
      Compiled codec repr backend deploymentFields capabilityFields planText := by
  unfold compileDeployment at h
  split at h
  next outputs houtputs =>
    obtain ⟨document, hload, houtputs⟩ := bind_eq_ok.mp houtputs
    obtain ⟨result, hvalid, houtputs⟩ := bind_eq_ok.mp houtputs
    obtain ⟨capabilityFields, hcapability, houtputs⟩ := bind_eq_ok.mp houtputs
    obtain ⟨manifest, hmanifest, houtputs⟩ := bind_eq_ok.mp houtputs
    obtain ⟨_, hchecked, houtputs⟩ := bind_eq_ok.mp houtputs
    obtain ⟨config, -, houtputs⟩ := bind_eq_ok.mp houtputs
    obtain ⟨report, -, hlist⟩ := bind_eq_ok.mp houtputs
    obtain ⟨-, rfl⟩ := (checks_validateDeployment.ok_iff result).mp hvalid
    have hfiles : files = outputs := by
      by_cases hutf8 : ∀ output ∈ outputs, PyStr.HasUtf8 output.2
      · rw [writeOutputs_of_hasUtf8 hutf8] at h
        exact (congrArg Compilation.files h).symm
      · push Not at hutf8
        obtain ⟨output, hmem, houtput⟩ := hutf8
        have hresult := writeOutputs_result hmem houtput
        rw [h] at hresult
        cases hresult
    refine ⟨result, capabilityFields, loadJson_eq_ok hload, loadJson_eq_ok hcapability, hvalid,
      manifest.rmw_supported _ (mem_rmw_of_validated hchecked), ?_⟩
    rw [hfiles, ← Except.ok.inj hlist] at hfile
    exact (Option.some.inj hfile).symm
  next => cases h

/-- A deployment that meets every demand is compiled. -/
lemma compile_of_findings_met {deploymentPath capabilityPath : PyStr}
    {deployment capability : Fields}
    {manifest : Manifest} (hvalid : validateDeployment repr deployment = .ok deployment)
    (hmanifest : Manifest.ofFields deployment = some manifest)
    (hmet : ∀ finding ∈ findings manifest capability backend, finding = .met) :
    ∃ files planText, compileDeployment repr codec.toFloatRepr deploymentPath capabilityPath backend
        (.ok (.obj deployment)) (.ok (.obj capability)) = ⟨files, .ok ()⟩ ∧
      files.lookup (PyStr.ofString "deployment-plan.json") = some planText := by
  rw [findings, List.forall_mem_append, List.forall_mem_singleton] at hmet
  have hpasses := conclusion_eq_passes.mpr fun finding hfinding => .inl (hmet.1 finding hfinding)
  have hprepared : Concludes (validateCapabilities manifest capability backend >>= fun _ =>
      generateOutputs codec.toFloatRepr manifest deployment capability backend) _ :=
    concludes_prepared
  rw [hpasses] at hprepared
  obtain ⟨outputs, houtputs⟩ := hprepared
  obtain ⟨_, hchecked, hgenerated⟩ := bind_eq_ok.mp houtputs
  have hbackend := manifest.rmw_supported _ (mem_rmw_of_validated hchecked)
  have hutf8 := (generateOutputs_texts hbackend hgenerated).2.mpr hmet.2
  obtain ⟨config, -, hgenerated⟩ := bind_eq_ok.mp hgenerated
  obtain ⟨report, -, hlist⟩ := bind_eq_ok.mp hgenerated
  refine ⟨outputs, dumps codec.toFloatRepr 0 (.obj (deploymentPlan deployment capability backend))
    ++ [10], ?_, ?_⟩
  · rw [compileDeployment, prepareOutputs_eq hvalid hmanifest, houtputs]
    exact writeOutputs_of_hasUtf8 hutf8
  · rw [← Except.ok.inj hlist]
    rfl

end Compiled

/-! ## The first file

What the compiler writes is read by the planner.  The document is sorted on the way, which the
planner does not notice.
-/

section DeploymentPlan

variable {codec : FloatCodec} {repr : PyStr → PyStr} {backend planText : PyStr}
  {deployment capability : Fields}

/-- A file that was written is plain text. -/
lemma decoded_dumps (floats : FloatRepr) (value : Json) :
    Decoded (dumps floats 0 value ++ [10]) := by
  refine List.forall_mem_append.mpr ⟨fun c hc => ?_, by decide⟩
  have hascii := ascii_dumps _ _ _ c hc
  exact .inl (by omega)

lemma Compiled.decoded (h : Compiled codec repr backend deployment capability planText) :
    Decoded planText := by
  rw [h.planText_eq]
  exact decoded_dumps _ _

lemma ascii_backend (h : backend ∈ supportedBackends) : Ascii backend := by
  have hall : ∀ name ∈ supportedBackends, Ascii name := by decide
  exact hall backend h

lemma wellRead_deploymentPlan (hdeployment : WellRead codec (.obj deployment))
    (hcapability : WellRead codec (.obj capability)) (hbackend : backend ∈ supportedBackends) :
    WellRead codec (.obj (deploymentPlan deployment capability backend)) := by
  refine wellRead_record ["schema_version", "backend", "deployment", "capability"] rfl (by decide)
    (by decide) ?_
  simp only [deploymentPlan, List.forall_mem_cons]
  exact ⟨.int (by decide), wellRead_ascii (ascii_backend hbackend), hdeployment, hcapability,
    by simp⟩

/-- The planner on the file of the compiler. -/
lemma planReport_compiled (h : Compiled codec repr backend deployment capability planText)
    (hdeployment : WellRead codec (.obj deployment))
    (hcapability : WellRead codec (.obj capability))
    (unicode : PyStr.UnicodeData) (describe : PyStr → PyStr) {args : PlanArguments}
    (hargs : args.planFile = .ok planText) :
    planReport codec unicode describe args = (do
      let config ← loadConfigFile args.configPath args.configFile
      (buildPrelinkPlan unicode (deploymentPlan deployment capability backend) config args.target
        args.ddsrtSync).map ResourcePlan.sorted) := by
  have hplan := wellRead_deploymentPlan hdeployment hcapability h.backend_supported
  rw [planReport, hargs, h.planText_eq, loadJsonFile_written codec describe hplan, ok_bind]
  simp only [buildPrelinkPlan_sorted hdeployment hcapability]

end DeploymentPlan

/-! ## The second file

What the planner writes is read by the verifier, which takes from it what it compares and copies the
rest into its report.
-/

section ResourcePlan

variable {codec : FloatCodec} {unicode : PyStr.UnicodeData} {describe : PyStr → PyStr}
  {markdown : ResourcePlan → PyStr} {args : PlanArguments}

/-- What a file contains when a command has ended. -/
def CommandRun.file (run : CommandRun) (path : PyStr) : Option PyStr :=
  (PyDict.ofPairs run.files).lookup path

/-- The plan that the verify command works on.  A document without the members of a plan has none;
the command fails when it looks for them. -/
def loadResourcePlan (codec : FloatCodec) (describe : PyStr → PyStr) (path : PyStr)
    (contents : Except PyStr PyStr) : Except PyException ResourcePlan := do
  let document ← loadJsonFile codec describe path contents
  match ResourcePlan.ofJson (.obj document) with
  | some plan => .ok plan
  | none => .error .typeError

lemma loadResourcePlan_written {plan : ResourcePlan} (h : plan.Printable codec) (path : PyStr) :
    loadResourcePlan codec describe path
        (.ok (dumps codec.toFloatRepr 0 (.obj plan.toFields) ++ [10])) = .ok plan.asWritten := by
  have hread := ofJson_sorted plan
  rw [sorted_obj] at hread
  simp only [loadResourcePlan, loadJsonFile_written codec describe (wellRead_plan h),
    ok_bind, hread]

/-- The report on an image uses nothing that the file changes. -/
lemma buildPostlinkReport_asWritten (plan : ResourcePlan) (linked : Linked) :
    buildPostlinkReport plan.asWritten linked
      = (buildPostlinkReport plan linked).map fun report =>
        { report with plan := plan.asWritten } := by
  unfold buildPostlinkReport
  split
  next h =>
    rw [if_pos (show plan.status ≠ .pass from h)]
    rfl
  next h =>
    rw [if_neg (show ¬ plan.status ≠ .pass from h)]
    rfl

/-- The verify command ends in the same way. -/
lemma mainVerify_asWritten (plan : ResourcePlan) (inputs : VerifyInputs) :
    mainVerify { inputs with plan := .ok plan.asWritten }
      = mainVerify { inputs with plan := .ok plan } := by
  have hartifacts : ∀ p, readArtifacts { inputs with plan := p } = readArtifacts inputs :=
    fun _ => rfl
  simp only [mainVerify, postlinkReport, ok_bind, hartifacts]
  cases readArtifacts inputs with
  | error e => rfl
  | ok artifacts =>
      cases inputs.runtimeLog with
      | error e => rfl
      | ok _ =>
          simp only [ok_bind, buildPostlinkReport_asWritten]
          cases buildPostlinkReport plan (measureLinked artifacts) with
          | error e => rfl
          | ok report => rfl

/-- What a document was read from is the text of a file. -/
lemma loadJsonFile_eq_ok {path text : PyStr} {fields : Fields}
    (h : loadJsonFile codec describe path (.ok text) = .ok fields) :
    loads codec (PyRe.universalNewlines text) = .ok (.obj fields) := by
  unfold loadJsonFile at h
  split at h
  next hcontents => cases hcontents
  next hcontents =>
    cases hcontents
    split at h
    · cases h
      assumption
    all_goals cases h

/-- A plan comes from the parts of its document. -/
lemma planDeployment_of_buildPrelinkPlan {document : Fields} {config : Config}
    {target ddsrtSync : PyStr} {plan : ResourcePlan}
    (h : buildPrelinkPlan unicode document config target ddsrtSync = .ok plan) :
    ∃ (deployment capability resources : Fields) (backend : PyStr) (endpoints : List Json),
      document.member "deployment" = some (.obj deployment) ∧
      document.member "capability" = some (.obj capability) ∧
      document.member "backend" = some (.str backend) ∧
      deployment.member "resources" = some (.obj resources) ∧
      deployment.member "endpoints" = some (.arr endpoints) ∧
      planDeployment unicode deployment capability backend resources endpoints.length config target
        ddsrtSync = .ok plan := by
  unfold buildPrelinkPlan at h
  split at h
  · cases h
  · split at h
    next deployment capability backend hdeployment hcapability hbackend =>
      split at h
      · cases h
      · split at h
        next resources endpoints hresources hendpoints =>
          exact ⟨deployment, capability, resources, backend, endpoints, hdeployment, hcapability,
            hbackend, hresources, hendpoints, h⟩
        next => cases h
    next => cases h

lemma ascii_ddsrtSync {choice : PyStr} (h : choice ∈ ddsrtSyncChoices) : Ascii choice := by
  have hall : ∀ choice ∈ ddsrtSyncChoices, Ascii choice := by decide
  exact hall choice h

/-- **What the plan command makes of any file can be written**, if its integers can be
converted. -/
lemma printable_planReport {plan : ResourcePlan}
    (hdecoded : ∀ text, args.planFile = .ok text → Decoded text)
    (hsync : args.ddsrtSync ∈ ddsrtSyncChoices)
    (hplan : planReport codec unicode describe args = .ok plan)
    (hints : ∀ n ∈ plan.integers, Convertible n) : plan.Printable codec := by
  obtain ⟨document, hdocument, hplan⟩ := bind_eq_ok.mp hplan
  obtain ⟨config, -, hplan⟩ := bind_eq_ok.mp hplan
  cases hfile : args.planFile with
  | error message =>
      rw [hfile] at hdocument
      cases hdocument
  | ok text =>
      rw [hfile] at hdocument
      have hread : WellRead codec (.obj document) :=
        wellRead_of_loads (hdecoded text hfile).universalNewlines (loadJsonFile_eq_ok hdocument)
      obtain ⟨deployment, _, resources, backend, _, hdeployment, -, hbackend, hresources, -,
        hplan⟩ :=
        planDeployment_of_buildPrelinkPlan hplan
      have hname : WellRead codec (.str backend) := hread.member hbackend
      cases hname with
      | str hname =>
          have hread := hread.member hdeployment
          exact printable_planDeployment hplan hread (hread.member hresources) hname
            (readable_of_ascii (ascii_ddsrtSync hsync)) hints

lemma files_mainPlan {plan : ResourcePlan}
    (hplan : planReport codec unicode describe args = .ok plan)
    (hints : ∀ n ∈ plan.integers, Convertible n) :
    ∃ content, (mainPlan codec unicode describe markdown args).files
      = [(args.jsonPath, dumps codec.toFloatRepr 0 (.obj plan.toFields) ++ [10]),
        (args.markdownPath, content)] := by
  by_cases hutf8 : PyStr.HasUtf8 (markdown plan)
  · refine ⟨markdown plan, ?_⟩
    simp only [mainPlan, hplan, if_pos hints, planOutputs, writeOutputs, hutf8, if_true,
      hasUtf8_dumps]
  · refine ⟨[], ?_⟩
    simp only [mainPlan, hplan, if_pos hints, planOutputs, writeOutputs, hutf8, if_false, if_true,
      hasUtf8_dumps]

/-- A run that writes something has made a plan from its inputs. -/
lemma plan_of_files (h : (mainPlan codec unicode describe markdown args).files ≠ []) :
    ∃ plan, planReport codec unicode describe args = .ok plan ∧
      ∀ n ∈ plan.integers, Convertible n := by
  cases hreport : planReport codec unicode describe args with
  | error e =>
      refine absurd ?_ h
      rw [mainPlan, hreport]
      cases e <;> rfl
  | ok plan =>
      by_cases hints : ∀ n ∈ plan.integers, Convertible n
      · exact ⟨plan, rfl, hints⟩
      · refine absurd ?_ h
        simp only [mainPlan, hreport, if_neg hints]

/-- The first file of a run holds the plan, unless the other one is written over it. -/
lemma file_of_plan {plan : ResourcePlan} (hpaths : args.jsonPath ≠ args.markdownPath)
    (hplan : planReport codec unicode describe args = .ok plan)
    (hints : ∀ n ∈ plan.integers, Convertible n) :
    (mainPlan codec unicode describe markdown args).file args.jsonPath
      = some (dumps codec.toFloatRepr 0 (.obj plan.toFields) ++ [10]) := by
  have hne : (args.jsonPath == args.markdownPath) = false := beq_false_of_ne hpaths
  obtain ⟨content, hfiles⟩ := files_mainPlan hplan hints
  rw [CommandRun.file, PyDict.lookup_ofPairs, hfiles]
  simp [List.lookup_cons, hne]

lemma file_of_head {text : PyStr} (hpaths : args.jsonPath ≠ args.markdownPath)
    (h : (mainPlan codec unicode describe markdown args).files.head? = some (args.jsonPath, text)) :
    (mainPlan codec unicode describe markdown args).file args.jsonPath = some text := by
  obtain ⟨plan, hplan, hints⟩ := plan_of_files (List.ne_nil_of_mem (List.mem_of_head? h))
  obtain ⟨content, hfiles⟩ := files_mainPlan hplan hints
  rw [hfiles] at h
  cases h
  exact file_of_plan hpaths hplan hints

/-- **The verifier gets what the planner had.**  Whatever the plan command has read, the text that
it writes for its JSON file is read back as the plan that it has made, with the members of the
documents in it sorted; with another path for its second file it is what the first file contains.
Every image is judged with it as with the plan itself, and the verify command ends in the same
way. -/
theorem resource_plan_handed_over {resourceText : PyStr}
    (hdecoded : ∀ text, args.planFile = .ok text → Decoded text)
    (hsync : args.ddsrtSync ∈ ddsrtSyncChoices)
    (hwritten : (mainPlan codec unicode describe markdown args).files.head?
      = some (args.jsonPath, resourceText)) :
    ∃ plan, planReport codec unicode describe args = .ok plan ∧
      (args.jsonPath ≠ args.markdownPath →
        (mainPlan codec unicode describe markdown args).file args.jsonPath = some resourceText) ∧
      (∀ path, loadResourcePlan codec describe path (.ok resourceText) = .ok plan.asWritten) ∧
      (∀ linked, buildPostlinkReport plan.asWritten linked
        = (buildPostlinkReport plan linked).map fun report =>
            { report with plan := plan.asWritten }) ∧
      ∀ (inputs : VerifyInputs) (path : PyStr), mainVerify
          { inputs with plan := loadResourcePlan codec describe path (.ok resourceText) }
        = mainVerify { inputs with plan := .ok plan } := by
  have hfile := fun hpaths => file_of_head hpaths hwritten
  obtain ⟨plan, hplan, hints⟩ := plan_of_files (List.ne_nil_of_mem (List.mem_of_head? hwritten))
  obtain ⟨content, hcontent⟩ := files_mainPlan hplan hints
  rw [hcontent] at hwritten
  cases hwritten
  have hload : ∀ path, loadResourcePlan codec describe path
      (.ok (dumps codec.toFloatRepr 0 (.obj plan.toFields) ++ [10])) = .ok plan.asWritten :=
    loadResourcePlan_written (printable_planReport hdecoded hsync hplan hints)
  refine ⟨plan, hplan, hfile, hload,
    buildPostlinkReport_asWritten plan, fun inputs path => ?_⟩
  rw [hload]
  exact mainVerify_asWritten plan inputs

end ResourcePlan

/-! ## The whole chain

The three commands in a row.  The verdict of the last one is about the checks of a plan; going back
through the two files, they are conditions on the manifest, on the configuration and on the image.
-/

section Chain

variable {codec : FloatCodec} {unicode : PyStr.UnicodeData} {describe repr : PyStr → PyStr}
  {markdown : ResourcePlan → PyStr}

/-- **What a manifest asks** of the configuration and of the linked image. -/
structure Fulfilled (unicode : PyStr.UnicodeData) (config : Config) (backend : PyStr)
    (contract : Contract) (endpointCount : ℕ) (minimum : PyInteger) (budgets : Budgets)
    (artifacts : Artifacts) : Prop where
  flash : (flashBytes artifacts : ℤ) ≤ budgets.flashBytes.value
  ram : (staticRamBytes artifacts : ℤ) + contract.staticReserveBytes ≤ budgets.ramBytes.value
  flashRegion : ∀ region, artifacts.regions.lookup (PyStr.ofString "FLASH") = some region →
    budgets.flashBytes.value ≤ region.length
  ramRegion : ∀ region, budgetRegion artifacts.regions = some region →
    budgets.ramBytes.value ≤ region.length
  declared : endpointCount ≤ contract.localEndpoints
  localNode : Meets 1 (integerConfig unicode config "CONFIG_ROS2_ZEPHYR_GRAPH_MAX_LOCAL_NODES")
  localEndpoints : Meets endpointCount
    (integerConfig unicode config "CONFIG_ROS2_ZEPHYR_GRAPH_MAX_ENDPOINTS_PER_NODE")
  remote : ∀ kind, contract.remote kind ≠ 0 →
    Meets (contract.remote kind) (integerConfig unicode config kind.configKey)
  workers : ∃ n, configuredWorkers unicode config backend minimum = some n ∧
    minimum.value ≤ n.value ∧ n.value ≤ contract.maximumWorkers
  /-- The stacks, those of the workers among them, and the heaps of the configuration fit the budget
  together with the reserve. -/
  reserved : ∃ r, configuredReservations unicode config backend
      (contract.workerPlan unicode config backend minimum).stackCount = .ok r ∧
    reservedBytes r.threadStacks r.heaps + contract.staticReserveBytes ≤ budgets.ramBytes.value

/-- The verify command succeeds on an image that passes with its plan. -/
lemma passes_of_mainVerify {inputs : VerifyInputs} {stderr : PyStr}
    (h : mainVerify inputs = .returns 0 stderr) :
    ∃ plan artifacts, inputs.plan = .ok plan ∧ readArtifacts inputs = .ok artifacts ∧
      Passes plan artifacts := by
  unfold mainVerify at h
  split at h
  next report hreport =>
    split at h
    next => cases h
    next hnone =>
      obtain ⟨plan, hplan, hreport⟩ := bind_eq_ok.mp hreport
      obtain ⟨artifacts, hartifacts, hreport⟩ := bind_eq_ok.mp hreport
      obtain ⟨_, -, hreport⟩ := bind_eq_ok.mp hreport
      refine ⟨plan, artifacts, hplan, hartifacts, report, hreport, ?_⟩
      unfold buildPostlinkReport at hreport
      split at hreport
      · cases hreport
      · cases hreport
        rw [verdict_eq_pass_iff]
        intro c hc
        have hpass := List.find?_eq_none.mp hnone c hc
        cases hstatus : c.status with
        | pass => rfl
        | fail =>
            rw [hstatus] at hpass
            exact absurd rfl hpass
  next => cases h
  next => cases h

lemma passes_asWritten {plan : ResourcePlan} {artifacts : Artifacts} :
    Passes plan.sorted.asWritten artifacts ↔ Passes plan artifacts := by
  rw [passes_iff, passes_iff]
  rfl

/-- A capability with which a plan was made names a minimum number of workers. -/
lemma minimum_of_planDeployment {backend target ddsrtSync : PyStr} {config : Config}
    {deployment capability resources : Fields} {endpointCount : ℕ} {plan : ResourcePlan}
    (h : planDeployment unicode deployment capability backend resources endpointCount config target
      ddsrtSync = .ok plan) :
    ∃ (workers : Fields) (minimum : PyInteger), capability.member "workers" = some (.obj workers) ∧
      (workers.member "minimum").bind Json.asPyInt = some minimum := by
  rw [planDeployment] at h
  obtain ⟨_, -, h⟩ := bind_eq_ok.mp h
  split at h
  next =>
    obtain ⟨_, -, h⟩ := bind_eq_ok.mp h
    obtain ⟨_, hworkers, -⟩ := bind_eq_ok.mp h
    unfold planWorkers at hworkers
    split at hworkers
    next workers _ hmember _ =>
      split at hworkers
      next minimum _ hminimum _ => exact ⟨workers, minimum, hmember, hminimum⟩
      next => cases hworkers
    next => cases hworkers
  next => cases h

/-- What a plan for a compiled deployment says about its contract. -/
lemma contract_of_plan {backend planText : PyStr} {deployment capability : Fields}
    {config : Config} {target ddsrtSync : PyStr} {plan : ResourcePlan}
    (hcompiled : Compiled codec repr backend deployment capability planText)
    (hsync : ddsrtSync ∈ ddsrtSyncChoices)
    (hplan : buildPrelinkPlan unicode (deploymentPlan deployment capability backend) config target
      ddsrtSync = .ok plan) (hpass : plan.status = .pass) :
    ∃ (resources : Json) (endpoints : List Json) (contract : Contract) (workers : Fields)
        (minimum : PyInteger) (r : Reservations),
      deployment.member "resources" = some resources ∧
      deployment.member "endpoints" = some (.arr endpoints) ∧
      Contract.ofJson resources = some contract ∧ endpoints.length ≤ contract.localEndpoints ∧
      contract.budgetFor config target = some plan.budgets ∧
      plan.planned.staticReserveBytes = .int contract.staticReserveBytes ∧
      capability.member "workers" = some (.obj workers) ∧
      (workers.member "minimum").bind Json.asPyInt = some minimum ∧
      configuredReservations unicode config backend
        (contract.workerPlan unicode config backend minimum).stackCount = .ok r ∧
      Admissible unicode config contract endpoints.length
        (configuredWorkers unicode config backend minimum) minimum.value
        (reservedBytes r.threadStacks r.heaps + contract.staticReserveBytes)
        plan.budgets.ramBytes.value := by
  obtain ⟨resources, endpoints, contract, hresources, hendpoints, hcontract, hfits⟩ :=
    exists_contract hcompiled.valid
  have hread := Contract.readFrom_of_ofJson hcontract
  obtain ⟨remote, hremote, hbounds⟩ := hread.remote
  obtain ⟨targets, htargets, hbudgets⟩ := hread.targets
  simp only [Json.field] at hremote htargets
  have hchosen : DeclaredBudget targets (chooseTarget config (some (.obj targets)) target)
      (contract.budgetFor config target) := declaredBudget_chosen hbudgets
  rw [buildPrelinkPlan_eq hresources hendpoints hsync] at hplan
  obtain ⟨workers, minimum, hworkers, hminimum⟩ := minimum_of_planDeployment hplan
  rw [planDeployment_eq hread hremote hbounds hworkers hminimum, htargets] at hplan
  obtain ⟨fields, htarget, hplan⟩ := bind_eq_ok.mp hplan
  obtain ⟨r, hr, hplan⟩ := bind_eq_ok.mp hplan
  obtain ⟨budgets, hread', hplan⟩ := bind_eq_ok.mp hplan
  cases hplan
  have hbalanced : r.knownTotal = reservedBytes r.threadStacks r.heaps :=
    balanced_configuredReservations hr
  refine ⟨.obj resources, endpoints, contract, workers, minimum, r, hresources, hendpoints,
    hcontract, hfits, ?_, rfl, hworkers, hminimum, hr, ?_⟩
  swap
  · rw [← hbalanced]
    exact (inputs_checks_pass hread hfits).mp hpass
  rcases targetBudget_of_declared hchosen
    with ⟨-, message, herror⟩ | ⟨declared, fields', hsome, hok, hbudget⟩
  · rw [herror] at htarget
    cases htarget
  · rw [hok] at htarget
    cases htarget
    rw [hbudget] at hread'
    cases hread'
    exact hsome

/-- A document that was loaded from a file with the given text. -/
structure LoadedFrom (codec : FloatCodec) (text : PyStr) (value : Json) : Prop where
  decoded : Decoded text
  loads_eq : loads codec (PyRe.universalNewlines text) = .ok value

lemma LoadedFrom.wellRead {text : PyStr} {value : Json} (h : LoadedFrom codec text value) :
    WellRead codec value :=
  wellRead_of_loads h.decoded.universalNewlines h.loads_eq

section Runs

variable {deploymentText capabilityText deploymentPath capabilityPath backend planText : PyStr}
  {deployment capability : Json} {files : List (PyStr × PyStr)} {args : PlanArguments}

/-- **The planner gets what the compiler had.**  From the file that the compiler leaves, the planner
makes the plan that it would make of the two documents themselves, or reports the same error; only
the order of the members in the documents that it passes on is another. -/
theorem deployment_plan_handed_over (hdeployment : LoadedFrom codec deploymentText deployment)
    (hcapability : LoadedFrom codec capabilityText capability)
    (hcompile : compileDeployment repr codec.toFloatRepr deploymentPath capabilityPath backend
      (.ok deployment) (.ok capability) = ⟨files, .ok ()⟩)
    (hfile : files.lookup (PyStr.ofString "deployment-plan.json") = some planText)
    (hargs : args.planFile = .ok planText) (unicode : PyStr.UnicodeData)
    (describe : PyStr → PyStr) :
    ∃ d c, deployment = .obj d ∧ capability = .obj c ∧
      planReport codec unicode describe args = (do
        let config ← loadConfigFile args.configPath args.configFile
        (buildPrelinkPlan unicode (deploymentPlan d c backend) config args.target
          args.ddsrtSync).map ResourcePlan.sorted) := by
  obtain ⟨d, c, rfl, rfl, hcompiled⟩ := compiled_of_ok hcompile hfile
  exact ⟨d, c, rfl, rfl, planReport_compiled hcompiled hdeployment.wellRead hcapability.wellRead
    unicode describe hargs⟩

end Runs

end Chain

/-! ## The loopback sample

The chain is run once from the texts of its input files.
-/

section Loopback

def zeroText : PyStr := "0.0"

lemma zeroText_ascii (_ : ℚ) : ∀ c ∈ zeroText, c < 128 := by decide

def parseZero (s : PyStr) : PyFloat := if s = zeroText then .finite 0 else .nan

lemma parseZero_zeroText {s : PyStr} {q : ℚ} (h : parseZero s = .finite q) :
    parseZero zeroText = .finite q := by
  unfold parseZero at h
  split at h
  · cases h
    rfl
  · cases h

lemma zeroText_literal (_ : ℚ) :
    ∃ n : NumberText, readNumber zeroText = some (n, []) ∧ n.isFloat = true :=
  ⟨⟨[], ['0'.toNat], ['.'.toNat, '0'.toNat], []⟩, rfl, rfl⟩

/-- A spelling for documents without floats. -/
def zeroCodec : FloatCodec where
  text := fun _ => zeroText
  ascii := zeroText_ascii
  parse := parseZero
  parse_text := parseZero_zeroText
  literal := zeroText_literal

lemma loadedFrom_of_isPlain {fields : Fields} (h : (Json.obj fields).isPlain = true) :
    LoadedFrom zeroCodec (dumps zeroCodec.toFloatRepr 0 (.obj fields) ++ [10])
      (.obj (Fields.sorted fields)) := by
  refine ⟨decoded_dumps _ _, ?_⟩
  rw [loads_file (wellRead_of_isPlain h), sorted_obj]

def loopbackDocument : Fields := Fields.sorted loopbackDeployment
def loopbackCapability : Fields := Fields.sorted cycloneCapability

def loopbackConfigText : PyStr :=
  PyRe.unlines (loopbackConfig.map fun setting => setting.1 ++ "=" ++ setting.2)

def loopbackArguments (planText : PyStr) : PlanArguments where
  planPath := "deployment-plan.json"
  planFile := .ok planText
  configPath := ".config"
  configFile := .ok loopbackConfigText
  target := "native_sim"
  ddsrtSync := "posix"
  jsonPath := "resource-plan.json"
  markdownPath := "resource-plan.md"

lemma loopback_paths (planText : PyStr) :
    (loopbackArguments planText).jsonPath ≠ (loopbackArguments planText).markdownPath :=
  (by decide : PyStr.ofString "resource-plan.json" ≠ PyStr.ofString "resource-plan.md")

lemma loopback_sync (planText : PyStr) :
    (loopbackArguments planText).ddsrtSync ∈ ddsrtSyncChoices :=
  (by decide : PyStr.ofString "posix" ∈ ddsrtSyncChoices)

/-- The plan that the planner makes of the documents. -/
def loopbackOutcome : Except PyException ResourcePlan :=
  buildPrelinkPlan PyStr.asciiOnly
    (deploymentPlan loopbackDocument loopbackCapability cycloneBackend)
    (parseConfig loopbackConfigText) "native_sim" "posix"

/-- A small image, to be verified with a plan. -/
def loopbackInputs (plan : Except PyException ResourcePlan) : VerifyInputs where
  plan := plan
  missing := []
  elfPath := "zephyr.elf"
  elf := .ok ElfImage.sharedNamesFile
  others := .ok ([], loopbackConfig, some 4096)
  runtimeLog := .ok ()

/-- The compiler on the documents. -/
def loopbackCompilation : Compilation :=
  compileDeployment id zeroCodec.toFloatRepr "deployment.json" "rmw_cyclonedds_c.json"
    cycloneBackend
    (.ok (.obj loopbackDocument)) (.ok (.obj loopbackCapability))

lemma loopback_compiles : ∃ files planText, loopbackCompilation = ⟨files, .ok ()⟩ ∧
    files.lookup (PyStr.ofString "deployment-plan.json") = some planText := by
  have hvalid : (validateDeployment id loopbackDocument).toBool = true := by decide +kernel
  have hmet : (Manifest.ofFields loopbackDocument).any (fun manifest =>
      (findings manifest loopbackCapability cycloneBackend).all (· == .met)) = true := by
    decide +kernel
  obtain ⟨result, hresult⟩ := exists_ok_of_toBool hvalid
  obtain ⟨-, rfl⟩ := (checks_validateDeployment.ok_iff result).mp hresult
  obtain ⟨manifest, hmanifest, hfindings⟩ := (Option.any_eq_true _ _).mp hmet
  refine compile_of_findings_met hresult hmanifest fun finding hfinding => ?_
  exact beq_iff_eq.mp (List.all_eq_true.mp hfindings finding hfinding)

lemma loopback_planned : (match loopbackOutcome with
    | .ok plan => plan.integers.all (fun n => decide (Convertible n)) &&
        decide (mainVerify (loopbackInputs (.ok plan.sorted.asWritten)) = .returns 0 [])
    | .error _ => false) = true := by
  decide +kernel

lemma loopbackDocument_loaded : LoadedFrom zeroCodec
    (dumps zeroCodec.toFloatRepr 0 (.obj loopbackDeployment) ++ [10]) (.obj loopbackDocument) :=
  loadedFrom_of_isPlain (by decide +kernel)

lemma loopbackCapability_loaded : LoadedFrom zeroCodec
    (dumps zeroCodec.toFloatRepr 0 (.obj cycloneCapability) ++ [10]) (.obj loopbackCapability) :=
  loadedFrom_of_isPlain (by decide +kernel)

/-- The three commands on the sample: the compiler leaves its plan, the planner makes its own of it
and leaves it, and the image is verified with what is read back. -/
lemma loopback_runs : ∃ files planText plan resourceText,
    loopbackCompilation = ⟨files, .ok ()⟩ ∧
    files.lookup (PyStr.ofString "deployment-plan.json") = some planText ∧
    planReport zeroCodec PyStr.asciiOnly id (loopbackArguments planText) = .ok plan ∧
    (mainPlan zeroCodec PyStr.asciiOnly id (fun _ => []) (loopbackArguments planText)).files.head?
      = some ((loopbackArguments planText).jsonPath, resourceText) ∧
    Decoded planText ∧
    mainVerify (loopbackInputs (loadResourcePlan zeroCodec id "resource-plan.json"
      (.ok resourceText))) = .returns 0 [] := by
  obtain ⟨files, planText, hcompile, hfile⟩ := loopback_compiles
  obtain ⟨d, c, hd, hc, hcompiled⟩ := compiled_of_ok hcompile hfile
  cases hd
  cases hc
  have hplanned := loopback_planned
  cases houtcome : loopbackOutcome with
  | error e =>
      rw [houtcome] at hplanned
      cases hplanned
  | ok plan =>
      rw [houtcome, Bool.and_eq_true, List.all_eq_true] at hplanned
      have hints : ∀ n ∈ plan.integers, Convertible n :=
        fun n hn => of_decide_eq_true (hplanned.1 n hn)
      have hread := loopbackDocument_loaded.wellRead
      have hreport : planReport zeroCodec PyStr.asciiOnly id (loopbackArguments planText)
          = .ok plan.sorted := by
        rw [planReport_compiled hcompiled hread loopbackCapability_loaded.wellRead
          PyStr.asciiOnly id rfl]
        exact congrArg (Except.map ResourcePlan.sorted) houtcome
      have hprintable : plan.sorted.Printable zeroCodec :=
        printable_planReport (fun text htext => by cases htext; exact hcompiled.decoded)
          (loopback_sync planText) hreport hints
      obtain ⟨content, hfiles⟩ := files_mainPlan hreport hints
      refine ⟨files, planText, _, _, hcompile, hfile, hreport,
        congrArg List.head? hfiles, hcompiled.decoded, ?_⟩
      rw [loadResourcePlan_written hprintable]
      exact of_decide_eq_true hplanned.2

theorem deployment_plan_handed_over_loopback : ∃ planText plan,
    planReport zeroCodec PyStr.asciiOnly id (loopbackArguments planText) = .ok plan ∧
    planReport zeroCodec PyStr.asciiOnly id (loopbackArguments planText)
      = (buildPrelinkPlan PyStr.asciiOnly
          (deploymentPlan loopbackDocument loopbackCapability cycloneBackend)
          (parseConfig loopbackConfigText) "native_sim" "posix").map ResourcePlan.sorted := by
  obtain ⟨files, planText, plan, -, hcompile, hfile, hplan, -⟩ := loopback_runs
  have hargs : (loopbackArguments planText).planFile = .ok planText := rfl
  obtain ⟨d, c, hd, hc, hreport⟩ := deployment_plan_handed_over loopbackDocument_loaded
    loopbackCapability_loaded hcompile hfile hargs PyStr.asciiOnly id
  cases hd
  cases hc
  exact ⟨planText, plan, hplan, hreport⟩

theorem resource_plan_handed_over_loopback : ∃ planText plan resourceText,
    planReport zeroCodec PyStr.asciiOnly id (loopbackArguments planText) = .ok plan ∧
    (mainPlan zeroCodec PyStr.asciiOnly id (fun _ => []) (loopbackArguments planText)).file
      "resource-plan.json" = some resourceText ∧
    loadResourcePlan zeroCodec id "resource-plan.json" (.ok resourceText) = .ok plan.asWritten ∧
    mainVerify (loopbackInputs (.ok plan)) = .returns 0 [] := by
  obtain ⟨_, planText, _, resourceText, -, -, -, hwritten, hdecoded, hverify⟩ := loopback_runs
  obtain ⟨plan, hplan, hfile, hread, -, hends⟩ := resource_plan_handed_over
    (fun text htext => by cases htext; exact hdecoded) (loopback_sync planText) hwritten
  refine ⟨planText, plan, resourceText, hplan, hfile (loopback_paths planText), hread _, ?_⟩
  exact (hends (loopbackInputs (.ok plan)) _).symm.trans hverify

end Loopback

end Ros2Zephyr
