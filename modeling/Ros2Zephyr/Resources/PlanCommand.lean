import Ros2Zephyr.Deployment.Compile
import Ros2Zephyr.Resources.ConfigFile
import Ros2Zephyr.Resources.PlanFile
import Ros2Zephyr.Resources.VerifyCommand

/-!
# The plan command

`main` of `tools/verify_resources.py` with the command `plan`, from the texts of its two input files
to the two files that it writes.

* `loadJsonFile` — `load_json`; a document comes back from its file with its members sorted.
* `buildPrelinkPlan_sorted` — the planner reads the members by name, so it does not notice.
* `mainPlan` — the command.
-/

namespace Ros2Zephyr

open Fallible Json

/-! ## Inputs

`load_json` and `parse_config` on the texts of their files.  A file that cannot be read is an error
of the tool; one that is no document is too, but an integer with too many digits is not caught.
-/

section Inputs

variable (codec : FloatCodec) (describe : PyStr → PyStr)

/-- `load_json` of `verify_resources.py`, on the decoded text of the file or the text of the
`OSError`; `describe` is the text of a `JSONDecodeError`. -/
def loadJsonFile (path : PyStr) (contents : Except PyStr PyStr) : Except PyException Fields :=
  match contents with
  | .error error =>
      rejectResource "E_RESOURCE_INPUT"
        ("cannot read " ++ path ++ ": " ++ error)
  | .ok text =>
      match loads codec (PyRe.universalNewlines text) with
      | .ok (.obj fields) => .ok fields
      | .ok _ =>
          rejectResource "E_RESOURCE_INPUT" (path ++ " must contain a JSON object")
      | .error .decode =>
          rejectResource "E_RESOURCE_INPUT"
            ("cannot read " ++ path ++ ": " ++ describe text)
      | .error (.digits count) => .error (.valueError (PyStr.parseLimitMessage count))

/-- `parse_config` on the text of the file, or the text of the `OSError`. -/
def loadConfigFile (path : PyStr) (contents : Except PyStr PyStr) : Except PyException Config :=
  match contents with
  | .error error =>
      rejectResource "E_RESOURCE_INPUT"
        ("cannot read " ++ path ++ ": " ++ error)
  | .ok text => .ok (parseConfig text)

/-- A document that was written to a file is loaded from it. -/
lemma loadJsonFile_written {fields : Fields} (h : WellRead codec (.obj fields)) (path : PyStr) :
    loadJsonFile codec describe path (.ok (dumps codec.toFloatRepr 0 (.obj fields) ++ [10]))
      = .ok (Fields.sorted fields) := by
  simp only [loadJsonFile, loads_file h, sorted_obj]

end Inputs

/-! ## The planner on a sorted document

The planner reads a document that has been through a file.  Every part of it looks members up by
their keys and passes the values on, so each part gives the same result, with the documents in it
sorted.
-/

section Sorted

variable {codec : FloatCodec} {unicode : PyStr.UnicodeData} {config : Config}

/-- A plan with the documents in it sorted. -/
def ResourcePlan.sorted (plan : ResourcePlan) : ResourcePlan :=
  { plan with
    deployment := plan.deployment.map Json.sorted
    planned := { plan.planned with
      localCapacity := plan.planned.localCapacity.sorted
      remoteDiscoveryBounds := Fields.sorted plan.planned.remoteDiscoveryBounds } }

lemma asPyInt_sorted (value : Json) : Json.asPyInt value.sorted = Json.asPyInt value := by
  cases value with
  | arr items => rw [sorted_arr]; rfl
  | obj fields => rw [sorted_obj]; rfl
  | _ => rfl

variable {fields : Fields}

lemma member_of_sorted (h : WellRead codec (.obj fields)) (key : PyStr) :
    (Fields.sorted fields).member key = (fields.member key).map Json.sorted :=
  Fields.member_sorted h.nodup key

/-- An integer is the same in both. -/
lemma integer_of_sorted (h : WellRead codec (.obj fields)) (key : PyStr) :
    ((Fields.sorted fields).member key).bind Json.asPyInt
      = (fields.member key).bind Json.asPyInt := by
  rw [member_of_sorted h]
  cases fields.member key with
  | none => rfl
  | some value => exact asPyInt_sorted value

/-- The target is chosen by whether its key is there. -/
lemma chooseTarget_sorted {targets : Option Json} (h : ∀ v, targets = some v → WellRead codec v)
    (target : PyStr) :
    chooseTarget config (targets.map Json.sorted) target = chooseTarget config targets target := by
  unfold chooseTarget
  cases config.lookup (PyStr.ofString "CONFIG_BOARD_TARGET") with
  | none => rfl
  | some board =>
      cases targets with
      | none => rfl
      | some value =>
          cases value with
          | obj declared =>
              rw [Option.map_some, sorted_obj]
              simp only [member_of_sorted (h _ rfl), Option.isSome_map]
          | arr items => rw [Option.map_some, sorted_arr]
          | _ => rfl

/-- The budget of a target, or the same error. -/
lemma targetBudget_sorted {targets : Option Json} (h : ∀ v, targets = some v → WellRead codec v)
    (target : PyStr) :
    targetBudget (targets.map Json.sorted) target
      = (targetBudget targets target).map Fields.sorted := by
  cases targets with
  | none => rfl
  | some value =>
      cases value with
      | obj declared =>
          rw [Option.map_some, sorted_obj]
          simp only [targetBudget, member_of_sorted (h _ rfl)]
          cases Fields.member declared target with
          | none => rfl
          | some budget =>
              cases budget with
              | obj budget => rw [Option.map_some, sorted_obj]; rfl
              | arr items => rw [Option.map_some, sorted_arr]; rfl
              | _ => rfl
      | arr items => rw [Option.map_some, sorted_arr]; rfl
      | _ => rfl

/-- What `targetBudget` returns stands in the document. -/
lemma wellRead_targetBudget {targets : Option Json} (h : ∀ v, targets = some v → WellRead codec v)
    {target : PyStr} {budget : Fields} (hbudget : targetBudget targets target = .ok budget) :
    WellRead codec (.obj budget) ∧ Readable target := by
  unfold targetBudget at hbudget
  split at hbudget
  next declared =>
    split at hbudget
    next budget' hmember =>
      cases hbudget
      exact ⟨(h _ rfl).member hmember, (h _ rfl).key hmember⟩
    next => cases hbudget
    next => cases hbudget
  next => cases hbudget

lemma localChecks_sorted (h : WellRead codec (.obj fields)) (endpointCount : ℕ) :
    localChecks unicode config (Fields.sorted fields) endpointCount
      = localChecks unicode config fields endpointCount := by
  simp only [localChecks, integer_of_sorted h]

lemma remoteChecks_sorted (h : WellRead codec (.obj fields)) :
    remoteChecks unicode config (Fields.sorted fields) = remoteChecks unicode config fields := by
  simp only [remoteChecks, integer_of_sorted h]

lemma readBudgets_sorted (h : WellRead codec (.obj fields)) (target : PyStr) :
    readBudgets (Fields.sorted fields) target = readBudgets fields target := by
  simp only [readBudgets, integer_of_sorted h]

lemma getItem_sorted (h : WellRead codec (.obj fields)) (key : PyStr) :
    getItem (Fields.sorted fields) key = (getItem fields key).map Json.sorted := by
  simp only [getItem, member_of_sorted h]
  cases fields.member key <;> rfl

lemma staticReserve_sorted {application : Option Json}
    (h : ∀ v, application = some v → WellRead codec v) :
    staticReserve (application.map Json.sorted) = staticReserve application := by
  cases application with
  | none => rfl
  | some value =>
      cases value with
      | obj application =>
          rw [Option.map_some, sorted_obj]
          simp only [staticReserve, integer_of_sorted (h _ rfl)]
      | arr items => rw [Option.map_some, sorted_arr]; rfl
      | _ => rfl

/-- The planner of the workers, in terms of the two objects. -/
lemma planWorkers_eq_objects (backend : PyStr) (workers contract : Option Json) :
    planWorkers unicode config backend workers contract
      = match workers.bind Json.asFields, contract.bind Json.asFields with
        | some workers, some contract =>
            planWorkers unicode config backend (some (.obj workers)) (some (.obj contract))
        | _, _ =>
            rejectResource "E_RESOURCE_INPUT"
              "worker capability or resource contract is invalid" := by
  cases workers with
  | none => rfl
  | some workers =>
      cases workers with
      | obj workers =>
          cases contract with
          | none => rfl
          | some contract => cases contract <;> rfl
      | _ => rfl

lemma asFields_sorted (value : Json) :
    value.sorted.asFields = value.asFields.map Fields.sorted := by
  cases value with
  | arr items => rw [sorted_arr]; rfl
  | obj fields => rw [sorted_obj]; rfl
  | _ => rfl

lemma bind_asFields_sorted (value : Option Json) :
    (value.map Json.sorted).bind Json.asFields = (value.bind Json.asFields).map Fields.sorted := by
  cases value with
  | none => rfl
  | some value => exact asFields_sorted value

lemma wellRead_of_asFields {value : Option Json} (h : ∀ v, value = some v → WellRead codec v)
    {fields : Fields} (hfields : value.bind Json.asFields = some fields) :
    WellRead codec (.obj fields) := by
  obtain ⟨v, hv, hobj⟩ := Option.bind_eq_some_iff.mp hfields
  cases v with
  | obj =>
      cases hobj
      exact h _ hv
  | _ => cases hobj

/-- The numbers of workers are integers in both documents, and integers are not changed. -/
lemma planWorkers_sorted {backend : PyStr} {workers contract : Option Json}
    (hworkers : ∀ v, workers = some v → WellRead codec v)
    (hcontract : ∀ v, contract = some v → WellRead codec v) :
    planWorkers unicode config backend (workers.map Json.sorted) (contract.map Json.sorted)
      = planWorkers unicode config backend workers contract := by
  rw [planWorkers_eq_objects, planWorkers_eq_objects backend workers, bind_asFields_sorted,
    bind_asFields_sorted]
  cases hw : workers.bind Json.asFields with
  | none => rfl
  | some w =>
      cases hc : contract.bind Json.asFields with
      | none => rfl
      | some c =>
          simp only [Option.map_some, planWorkers,
            integer_of_sorted (wellRead_of_asFields hworkers hw),
            integer_of_sorted (wellRead_of_asFields hcontract hc)]

lemma wellRead_member (h : WellRead codec (.obj fields)) (key : PyStr) :
    ∀ v, fields.member key = some v → WellRead codec v :=
  fun _ hv => h.member hv

/-- **The planner does not notice the order of the members.** -/
lemma planDeployment_sorted {deployment capability resources : Fields}
    (hdeployment : WellRead codec (.obj deployment))
    (hcapability : WellRead codec (.obj capability))
    (hresources : WellRead codec (.obj resources)) (backend : PyStr) (endpointCount : ℕ)
    (target ddsrtSync : PyStr) :
    planDeployment unicode (Fields.sorted deployment) (Fields.sorted capability) backend
        (Fields.sorted resources) endpointCount config target ddsrtSync
      = (planDeployment unicode deployment capability backend resources endpointCount config target
          ddsrtSync).map ResourcePlan.sorted := by
  have htargets := wellRead_member hresources "targets"
  have hworkers : planWorkers unicode config backend ((capability.member "workers").map Json.sorted)
      ((resources.member "workers").map Json.sorted) = _ :=
    planWorkers_sorted (wellRead_member hcapability "workers")
      (wellRead_member hresources "workers")
  have hreserve : staticReserve ((resources.member "application").map Json.sorted) = _ :=
    staticReserve_sorted (wellRead_member hresources "application")
  simp only [planDeployment, member_of_sorted hresources, member_of_sorted hdeployment,
    member_of_sorted hcapability, chooseTarget_sorted htargets, targetBudget_sorted htargets]
  cases hbudget : targetBudget (resources.member "targets")
      (chooseTarget config (resources.member "targets") target) with
  | error e => rfl
  | ok budget =>
      obtain ⟨hbudget, -⟩ := wellRead_targetBudget htargets hbudget
      cases hremote : resources.member "remote" with
      | none => rfl
      | some remote =>
          cases remote with
          | obj remote =>
              have hread : WellRead codec (.obj remote) := hresources.member hremote
              simp only [Option.map_some, sorted_obj, Except.map, ok_bind]
              rw [remoteChecks_sorted hread, hworkers, hreserve, readBudgets_sorted hbudget,
                getItem_sorted hresources, localChecks_sorted hresources]
              simp only [← Except.map.eq_def, map_bind, bind_map]
              rfl
          | arr items => rw [Option.map_some, sorted_arr]; rfl
          | _ => rfl

/-- The planner on the plan of the compiler as it comes back from its file. -/
theorem buildPrelinkPlan_sorted {deployment capability : Fields}
    (hdeployment : WellRead codec (.obj deployment))
    (hcapability : WellRead codec (.obj capability))
    (backend target ddsrtSync : PyStr) :
    buildPrelinkPlan unicode (Fields.sorted (deploymentPlan deployment capability backend)) config
        target ddsrtSync
      = (buildPrelinkPlan unicode (deploymentPlan deployment capability backend) config target
          ddsrtSync).map ResourcePlan.sorted := by
  have hkeys : ((deploymentPlan deployment capability backend).map Prod.fst).Nodup :=
    (by decide : (["schema_version", "backend", "deployment", "capability"] : List PyStr).Nodup)
  have hmember : ∀ key, (Fields.sorted (deploymentPlan deployment capability backend)).member key
      = ((deploymentPlan deployment capability backend).member key).map Json.sorted :=
    fun key => Fields.member_sorted hkeys key
  have hversion : (deploymentPlan deployment capability backend).member "schema_version"
      = some (.int 2) := rfl
  have hd : (deploymentPlan deployment capability backend).member "deployment"
      = some (.obj deployment) := rfl
  have hc : (deploymentPlan deployment capability backend).member "capability"
      = some (.obj capability) := rfl
  have hb : (deploymentPlan deployment capability backend).member "backend"
      = some (.str backend) := rfl
  simp only [buildPrelinkPlan, hmember, hversion, hd, hc, hb, Option.map_some, sorted_obj,
    sorted_int,
    sorted_str, Option.any_some]
  have htwo : (!equalsInt (.int 2) 2) = false := rfl
  rw [htwo, if_neg Bool.false_ne_true, if_neg Bool.false_ne_true]
  by_cases hsync : backend = cycloneBackend ∧ ddsrtSync ∉ ddsrtSyncChoices
  · rw [if_pos hsync, if_pos hsync]
    rfl
  · rw [if_neg hsync, if_neg hsync, member_of_sorted hdeployment, member_of_sorted hdeployment]
    cases hresources : Fields.member deployment "resources" with
    | none => rfl
    | some resources =>
        cases resources with
        | obj resources =>
            cases Fields.member deployment "endpoints" with
            | none => rfl
            | some endpoints =>
                cases endpoints with
                | arr endpoints =>
                    have hread : WellRead codec (.obj resources) := hdeployment.member hresources
                    simp only [Option.map_some, sorted_obj, sorted_arr, List.length_map]
                    exact planDeployment_sorted hdeployment hcapability hread _ _ _ _
                | obj fields => rw [Option.map_some, sorted_obj]; rfl
                | _ => rfl
        | arr items => rw [Option.map_some, sorted_arr]; rfl
        | _ => rfl

end Sorted

/-! ## The plan can be written

All texts that the planner puts into a plan are ASCII, and the documents in it were read from texts.
Whether the plan can be written is therefore a matter of its integers.
-/

section Written

variable {codec : FloatCodec} {unicode : PyStr.UnicodeData} {config : Config}

/-- Rows whose texts are ASCII. -/
structure Reservations.Plain (r : Reservations) : Prop where
  threadStacks : ∀ row ∈ r.threadStacks, Ascii row.name ∧ Ascii row.source
  heaps : ∀ row ∈ r.heaps, Ascii row.name ∧ Ascii row.source

namespace Reservations

variable {r : Reservations} {name source : PyStr}

lemma Plain.addStack (h : r.Plain) (hname : Ascii name) (bytes : ℤ) (hsource : Ascii source) :
    (r.addStack name bytes source).Plain :=
  ⟨List.forall_mem_append.mpr ⟨h.threadStacks, List.forall_mem_singleton.mpr ⟨hname, hsource⟩⟩,
    h.heaps⟩

lemma Plain.addHeap (h : r.Plain) (hname : Ascii name) (bytes : ℤ) (hsource : Ascii source) :
    (r.addHeap name bytes source).Plain :=
  ⟨h.threadStacks,
    List.forall_mem_append.mpr ⟨h.heaps, List.forall_mem_singleton.mpr ⟨hname, hsource⟩⟩⟩

lemma Plain.addOpenHeap (h : r.Plain) (hname : Ascii name) (hsource : Ascii source) :
    (r.addOpenHeap name source).Plain :=
  ⟨h.threadStacks,
    List.forall_mem_append.mpr ⟨h.heaps, List.forall_mem_singleton.mpr ⟨hname, hsource⟩⟩⟩

end Reservations

open Reservations

lemma plain_fixedStacks {rows : List (PyStr × PyStr)}
    (hrows : ∀ row ∈ rows, Ascii row.1 ∧ Ascii row.2)
    {r : Reservations} (h : r.Plain) : (rows.foldl (reserveStack unicode config) r).Plain := by
  induction rows generalizing r with
  | nil => exact h
  | cons row rows ih =>
      rw [List.forall_mem_cons] at hrows
      refine ih hrows.2 ?_
      unfold reserveStack
      split
      · exact h.addStack hrows.1.1 _ hrows.1.2
      · exact h

/-- The text of an integer or of a boolean. -/
lemma ascii_formatInteger {value : PyInteger} {text : PyStr} (h : formatInteger value = .ok text) :
    Ascii text := by
  unfold formatInteger at h
  split at h
  · cases h
    cases value with
    | int n => exact ascii_ofInt n
    | bool b => cases b <;> decide
  · cases h

/-- The row of the workers, whose text is made of two numbers. -/
lemma plain_reserveWorkers {backend : PyStr} {workerCount : PyInteger} {r s : Reservations}
    (h : r.Plain) (hs : reserveWorkers unicode config backend workerCount r = .ok s) : s.Plain := by
  unfold reserveWorkers at hs
  split at hs
  · split at hs
    next stack _ =>
      obtain ⟨count, hcount, hs⟩ := bind_eq_ok.mp hs
      obtain ⟨size, hsize, hs⟩ := bind_eq_ok.mp hs
      cases hs
      refine h.addStack (by decide) _ ?_
      simp only [ascii_append]
      exact ⟨⟨ascii_formatInteger hcount, by decide⟩, ascii_formatInteger hsize⟩
    next =>
      cases hs
      exact h
  · cases hs
    exact h

/-- The rows of the configuration are plain text. -/
lemma plain_configuredReservations {backend : PyStr} {workerCount : PyInteger} {r : Reservations}
    (h : configuredReservations unicode config backend workerCount = .ok r) : r.Plain := by
  obtain ⟨s, hs, h⟩ := bind_eq_ok.mp h
  cases h
  have hworkers : s.Plain := plain_reserveWorkers
    (plain_fixedStacks (by decide) ⟨by simp [Reservations.empty], by simp [Reservations.empty]⟩) hs
  have hheap : (reserveZephyrHeap unicode config s).Plain := by
    unfold reserveZephyrHeap
    split
    · exact hworkers.addHeap (by decide) _ (by decide)
    · exact hworkers
  unfold reserveLibcHeap
  split
  · split
    · exact hheap.addHeap (by decide) _ (by decide)
    · exact hheap.addOpenHeap (by decide) (by decide)
  · exact hheap.addOpenHeap (by decide) (by decide)

/-- A check whose texts are ASCII. -/
def Check.Plain (c : Check) : Prop := Ascii c.id ∧ Ascii c.code ∧ Ascii c.detail

lemma plain_makeCheck {id code detail : PyStr} (h : Ascii id ∧ Ascii code ∧ Ascii detail)
    (required : PyInteger) (available : Option PyInteger) :
    (makeCheck id code required available detail).Plain :=
  h

/-- The check of a remote bound, with or without a capacity. -/
lemma plain_remoteCheck (kind : RemoteKind) (required : PyInteger) :
    (remoteCheck unicode config kind required).Plain := by
  have hcode : Ascii "E_RESOURCE_GRAPH_CAPACITY" := by decide
  have hzero : Ascii "deployment does not require inbound graph capacity" := by
    decide
  have hname : Ascii kind.name ∧ Ascii kind.configKey := by
    cases kind <;> decide
  have hid :
      Ascii ("configured_remote_" ++ kind.name ++ "_capacity") := by
    simp only [ascii_append]
    exact ⟨⟨by decide, hname.1⟩, by decide⟩
  have hdetail :
      Ascii ("declared remote " ++ kind.name ++ " must fit "
      ++ kind.configKey) := by
    simp only [ascii_append]
    exact ⟨⟨⟨by decide, hname.1⟩, by decide⟩, hname.2⟩
  unfold remoteCheck
  split
  · exact ⟨hid, hcode, hzero⟩
  · exact plain_makeCheck ⟨hid, hcode, hdetail⟩ _ _

lemma plain_remoteChecks {remote : Fields} {results : List Check}
    (h : remoteChecks unicode config remote = .ok results) : ∀ c ∈ results, c.Plain := by
  intro c hc
  obtain ⟨kind, -, hkind⟩ := exists_of_mem_mapM h c hc
  split at hkind
  · cases hkind
    exact plain_remoteCheck kind _
  · cases hkind

lemma plain_localChecks (resources : Fields) (endpointCount : ℕ) :
    ∀ c ∈ localChecks unicode config resources endpointCount, c.Plain := by
  simp only [localChecks, List.forall_mem_cons]
  exact ⟨plain_makeCheck (by decide) _ _, plain_makeCheck (by decide) _ _,
    plain_makeCheck (by decide) _ _, by simp⟩

lemma plain_checks {inputs : PlanInputs} (hlocal : ∀ c ∈ inputs.localResults, c.Plain)
    (hremote : ∀ c ∈ inputs.remoteResults, c.Plain) : ∀ c ∈ inputs.checks, c.Plain := by
  have hworkers : ∀ c ∈ workerChecks inputs.workers, c.Plain := by
    simp only [workerChecks, List.forall_mem_cons]
    exact ⟨plain_makeCheck (by decide) _ _, plain_makeCheck (by decide) _ _, by simp⟩
  simp only [PlanInputs.checks, List.forall_mem_append, List.forall_mem_singleton]
  exact ⟨⟨⟨hlocal, hremote⟩, hworkers⟩, plain_makeCheck (by decide) _ _⟩

/-- The buffers of a plan are among those that the planner asks for, each once. -/
lemma keys_staticBuffers :
    ((staticBuffers unicode config).map Prod.fst).Sublist staticBufferKeys := by
  have hfilter : (staticBuffers unicode config).map Prod.fst
      = staticBufferKeys.filter fun key => (integerConfig unicode config key).isSome := by
    rw [staticBuffers]
    induction staticBufferKeys with
    | nil => rfl
    | cons key keys ih =>
        rw [List.filterMap_cons, List.filter_cons]
        cases integerConfig unicode config key with
        | none => exact ih
        | some n => exact congrArg _ ih
  rw [hfilter]
  exact List.filter_sublist

/-- What the planner has read when it returns a plan. -/
lemma planDeployment_eq_ok {deployment capability resources : Fields} {backend : PyStr}
    {endpointCount : ℕ} {target ddsrtSync : PyStr} {plan : ResourcePlan}
    (h : planDeployment unicode deployment capability backend resources endpointCount config target
      ddsrtSync = .ok plan) :
    ∃ (budget : Fields) (inputs : PlanInputs), targetBudget (resources.member "targets")
        (chooseTarget config (resources.member "targets") target) = .ok budget ∧
      resources.member "remote" = some (.obj inputs.remote) ∧
      resources.member "local_endpoints" = some inputs.capacity ∧
      inputs.reservations.Plain ∧ (∀ c ∈ inputs.checks, c.Plain) ∧
      plan = inputs.plan unicode (deployment.member "name") config backend
        (chooseTarget config (resources.member "targets") target) ddsrtSync := by
  rw [planDeployment] at h
  obtain ⟨budget, hbudget, h⟩ := bind_eq_ok.mp h
  split at h
  next remote hremote =>
    obtain ⟨remoteResults, hresults, h⟩ := bind_eq_ok.mp h
    obtain ⟨workers, -, h⟩ := bind_eq_ok.mp h
    obtain ⟨reservations, hreservations, h⟩ := bind_eq_ok.mp h
    obtain ⟨reserve, -, h⟩ := bind_eq_ok.mp h
    obtain ⟨budgets, -, h⟩ := bind_eq_ok.mp h
    obtain ⟨capacity, hcapacity, h⟩ := bind_eq_ok.mp h
    cases h
    have hmember : resources.member "local_endpoints" = some capacity := by
      unfold getItem at hcapacity
      split at hcapacity
      · cases hcapacity
        assumption
      · cases hcapacity
    exact ⟨budget, _, hbudget, hremote, hmember, plain_configuredReservations hreservations,
      plain_checks (plain_localChecks _ _) (plain_remoteChecks hresults), rfl⟩
  next => cases h

/-- **What the planner returns can be written**, if its integers can be converted. -/
lemma printable_planDeployment {deployment capability resources : Fields} {backend : PyStr}
    {endpointCount : ℕ} {target ddsrtSync : PyStr} {plan : ResourcePlan}
    (h : planDeployment unicode deployment capability backend resources endpointCount config target
      ddsrtSync = .ok plan)
    (hdeployment : WellRead codec (.obj deployment)) (hresources : WellRead codec (.obj resources))
    (hbackend : Readable backend) (hsync : Readable ddsrtSync)
    (hints : ∀ n ∈ plan.integers, Convertible n) : plan.Printable codec := by
  obtain ⟨budget, inputs, hbudget, hremote, hcapacity, hrows, hchecks, rfl⟩ :=
    planDeployment_eq_ok h
  obtain ⟨-, htarget⟩ := wellRead_targetBudget (wellRead_member hresources "targets") hbudget
  have hkeys : ∀ key ∈ staticBufferKeys, Ascii key := by decide
  exact {
    target := htarget
    backend := hbackend
    ddsrtSync := hsync
    deployment := wellRead_member hdeployment "name"
    capacity := hresources.member hcapacity
    remote := hresources.member hremote
    threadStacks := hrows.threadStacks
    heaps := hrows.heaps
    buffers := keys_staticBuffers.nodup (by decide)
    bufferNames := fun b hb => hkeys _ (keys_staticBuffers.subset (List.mem_map_of_mem hb))
    checks := hchecks
    integers := hints }

end Written

/-! ## The command

The files are written after both texts were made, so a plan that cannot be printed leaves none.
-/

section Command

/-- The arguments of the command `plan`, with the texts of the two files that it reads. -/
structure PlanArguments where
  planPath : PyStr
  planFile : Except PyStr PyStr
  configPath : PyStr
  configFile : Except PyStr PyStr
  target : PyStr
  ddsrtSync : PyStr
  jsonPath : PyStr
  markdownPath : PyStr

/-- How a run of a command ends, and the files that it has written. -/
structure CommandRun where
  files : List (PyStr × PyStr)
  ended : CommandEnd

variable (codec : FloatCodec) (unicode : PyStr.UnicodeData) (describe : PyStr → PyStr)
  (markdown : ResourcePlan → PyStr)

def planReport (args : PlanArguments) : Except PyException ResourcePlan := do
  let document ← loadJsonFile codec describe args.planPath args.planFile
  let config ← loadConfigFile args.configPath args.configFile
  buildPrelinkPlan unicode document config args.target args.ddsrtSync

/-- The two files of a plan, in the order in which they are written. -/
def planOutputs (args : PlanArguments) (plan : ResourcePlan) : List (PyStr × PyStr) :=
  [(args.jsonPath, dumps codec.toFloatRepr 0 (.obj plan.toFields) ++ [10]),
    (args.markdownPath, markdown plan)]

/-- The status of a plan that was written. -/
def planStatus (plan : ResourcePlan) : CommandEnd :=
  match plan.checks.find? fun c => c.status == .fail with
  | some failed => .returns 2 (failedText failed)
  | none => .returns 0 []

/-- `main` with the command `plan`; `markdown` is `plan_markdown`.  An integer that is too large to
be printed ends the run before anything is written. -/
def mainPlan (args : PlanArguments) : CommandRun :=
  match planReport codec unicode describe args with
  | .ok plan =>
      if ∀ n ∈ plan.integers, Convertible n then
        let outputs := writeOutputs (planOutputs codec markdown args plan)
        match outputs.result with
        | .ok _ => ⟨outputs.files, planStatus plan⟩
        | .error exception => ⟨outputs.files, .raises exception⟩
      else ⟨[], .raises (.valueError PyStr.formatLimitMessage)⟩
  | .error (.resourceError code message) => ⟨[], .returns 2 (errorText code message)⟩
  | .error exception => ⟨[], .raises exception⟩

end Command

end Ros2Zephyr
