import Ros2Zephyr.Core.JsonScan
import Ros2Zephyr.Deployment.Capability

/-!
# The plan before the link

`build_prelink_plan` of `tools/verify_resources.py`.  The planner gets the document that the
compiler has validated, but looks at every part of it again, and has its own error for each part
that is not as it should be.

* `configuredReservations` — the stacks and heaps that the configuration fixes, with a running
  total; `Balanced` is the invariant that ties the total to the rows.
* `buildPrelinkPlan` — the planner, on the raw document.
* `prelink_exact` — for an accepted deployment nothing but a missing budget, or an integer with too
  many digits for the text of a row, stops the planner, and its verdict is the conjunction of the
  conditions in `Admissible`.
-/

namespace Ros2Zephyr

open Fallible

/-- The values of a `.config` file. -/
abbrev Config := List (PyStr × PyStr)

def cycloneBackend : PyStr := "rmw_cyclonedds_c"

/-- The choices of `--ddsrt-sync`. -/
def ddsrtSyncChoices : List PyStr := ["posix", "zephyr-native", "not-applicable"]

/-- `REMOTE_CONFIG_KEYS` -/
def RemoteKind.configKey : RemoteKind → PyStr
  | participants => "CONFIG_ROS2_ZEPHYR_GRAPH_CACHE_MAX_PARTICIPANTS"
  | nodes => "CONFIG_ROS2_ZEPHYR_GRAPH_CACHE_MAX_NODES"
  | endpoints => "CONFIG_ROS2_ZEPHYR_GRAPH_CACHE_MAX_ENDPOINTS"

def staticBufferKeys : List PyStr :=
  ["CONFIG_NET_PKT_RX_COUNT", "CONFIG_NET_PKT_TX_COUNT", "CONFIG_NET_BUF_RX_COUNT",
    "CONFIG_NET_BUF_TX_COUNT", "CONFIG_NET_BUF_DATA_SIZE", "CONFIG_NET_MAX_CONTEXTS",
    "CONFIG_MAX_PTHREAD_MUTEX_COUNT", "CONFIG_MAX_PTHREAD_COND_COUNT"]

/-! ## Reservations

`configured_reservations` keeps its rows and a total side by side.
-/

/-- The rows of `configured_reservations` so far, and `known_total`. -/
structure Reservations where
  threadStacks : List (Reservation ℤ)
  heaps : List (Reservation (Option ℤ))
  knownTotal : ℤ

namespace Reservations

def empty : Reservations := ⟨[], [], 0⟩

def addStack (r : Reservations) (name : PyStr) (bytes : ℤ) (source : PyStr) : Reservations :=
  { r with
    threadStacks := r.threadStacks ++ [⟨name, bytes, source⟩]
    knownTotal := r.knownTotal + bytes }

def addHeap (r : Reservations) (name : PyStr) (bytes : ℤ) (source : PyStr) : Reservations :=
  { r with heaps := r.heaps ++ [⟨name, some bytes, source⟩], knownTotal := r.knownTotal + bytes }

/-- A heap whose size the linker decides. -/
def addOpenHeap (r : Reservations) (name source : PyStr) : Reservations :=
  { r with heaps := r.heaps ++ [⟨name, none, source⟩] }

end Reservations

/-- The bytes of the rows of a plan, each once. -/
def reservedBytes (rows : List (Reservation ℤ)) (heaps : List (Reservation (Option ℤ))) : ℤ :=
  (rows.map Reservation.bytes).sum + (heaps.filterMap Reservation.bytes).sum

section Planner

variable (unicode : PyStr.UnicodeData)

/-- `integer_config`. -/
def integerConfig (config : Config) (key : PyStr) : Option ℤ :=
  match config.lookup key with
  | none => none
  | some value =>
      if value = "n" ∨ value = "y" then none
      else PyStr.toIntLiteral unicode value

def fixedStacks : List (PyStr × PyStr) :=
  [("main stack", "CONFIG_MAIN_STACK_SIZE"), ("idle stack", "CONFIG_IDLE_STACK_SIZE"),
    ("system workqueue stack", "CONFIG_SYSTEM_WORKQUEUE_STACK_SIZE")]

/-- One turn of the loop over the stacks. -/
def reserveStack (config : Config) (r : Reservations) (stack : PyStr × PyStr) : Reservations :=
  match integerConfig unicode config stack.2 with
  | some value => r.addStack stack.1 value stack.2
  | none => r

/-- `f"{value}"` -/
def formatInteger (value : PyInteger) : Except PyException PyStr :=
  if Json.Convertible value.value then .ok value.text
  else .error (.valueError PyStr.formatLimitMessage)

/-- The stack of one worker. -/
def workerStack (config : Config) : Option ℤ :=
  integerConfig unicode config "CONFIG_ROS2_ZEPHYR_CYCLONEDDS_THREAD_STACK_SIZE"

def reserveWorkers (config : Config) (backend : PyStr) (workerCount : PyInteger)
    (r : Reservations) : Except PyException Reservations :=
  if backend = cycloneBackend then
    match workerStack unicode config with
    | some stack => do
        let count ← formatInteger workerCount
        let size ← formatInteger (.int stack)
        .ok (r.addStack "Cyclone DDS worker stacks" (workerCount.value * stack)
          (count ++ " x " ++ size))
    | none => .ok r
  else .ok r

def reserveZephyrHeap (config : Config) (r : Reservations) : Reservations :=
  match integerConfig unicode config "CONFIG_HEAP_MEM_POOL_SIZE" with
  | some bytes => r.addHeap "Zephyr heap backing" bytes "CONFIG_HEAP_MEM_POOL_SIZE"
  | none => r

def reserveLibcHeap (config : Config) (r : Reservations) : Reservations :=
  match integerConfig unicode config "CONFIG_COMMON_LIBC_MALLOC_ARENA_SIZE" with
  | some bytes =>
      if 0 ≤ bytes then
        r.addHeap "libc heap backing" bytes "CONFIG_COMMON_LIBC_MALLOC_ARENA_SIZE"
      else r.addOpenHeap "libc heap backing" "target-resolved linker remainder"
  | none => r.addOpenHeap "libc heap backing" "target-resolved linker remainder"

/-- `configured_reservations`. -/
def configuredReservations (config : Config) (backend : PyStr) (workerCount : PyInteger) :
    Except PyException Reservations := do
  let fixed := fixedStacks.foldl (reserveStack unicode config) .empty
  let workers ← reserveWorkers unicode config backend workerCount fixed
  .ok (reserveLibcHeap unicode config (reserveZephyrHeap unicode config workers))

/-! ## The planner

The planner reads one part after the other and stops at the first that is not as it should be.  The
plan is put together when all parts are known.
-/

/-- The target whose budget counts: the one of the configuration, if it is declared. -/
def chooseTarget (config : Config) (targets : Option Json) (target : PyStr) : PyStr :=
  match config.lookup (PyStr.ofString "CONFIG_BOARD_TARGET"), targets with
  | some configured, some (.obj declared) =>
      if configured ≠ [] ∧ (Fields.member declared configured).isSome then configured else target
  | _, _ => target

def targetBudget (targets : Option Json) (target : PyStr) : Except PyException Fields :=
  match targets with
  | some (.obj declared) =>
      match Fields.member declared target with
      | some (.obj budget) => .ok budget
      | some _ =>
          rejectResource "E_RESOURCE_INPUT"
            ("invalid resource budget for target " ++ target)
      | none =>
          rejectResource "E_RESOURCE_TARGET"
            ("deployment has no resource budget for target " ++ target)
  | _ =>
      rejectResource "E_RESOURCE_TARGET"
        ("deployment has no resource budget for target " ++ target)

/-- A value of the configuration in a check. -/
def availableConfig (config : Config) (key : PyStr) : Option PyInteger :=
  (integerConfig unicode config key).map PyInteger.int

def localChecks (config : Config) (resources : Fields) (endpointCount : ℕ) : List Check :=
  [makeCheck "declared_local_endpoint_capacity" "E_RESOURCE_ENDPOINT_CAPACITY"
      (.int endpointCount) ((resources.member "local_endpoints").bind Json.asPyInt)
      "declared fixed endpoints must fit the deployment capacity",
    makeCheck "configured_local_node_capacity" "E_RESOURCE_GRAPH_CAPACITY" (.int 1)
      (availableConfig unicode config "CONFIG_ROS2_ZEPHYR_GRAPH_MAX_LOCAL_NODES")
      "one generated node must fit the configured outbound graph capacity",
    makeCheck "configured_local_endpoint_capacity" "E_RESOURCE_GRAPH_CAPACITY"
      (.int endpointCount)
      (availableConfig unicode config "CONFIG_ROS2_ZEPHYR_GRAPH_MAX_ENDPOINTS_PER_NODE")
      "generated endpoints must fit the configured per-node graph capacity"]

/-- The check of a remote bound; a bound of zero needs no capacity. -/
def remoteCheck (config : Config) (kind : RemoteKind) (required : PyInteger) : Check :=
  let id := "configured_remote_" ++ kind.name ++ "_capacity"
  if required.value = 0 then
    { id := id, code := "E_RESOURCE_GRAPH_CAPACITY", required := .int 0
      available := availableConfig unicode config kind.configKey, status := .pass
      detail := "deployment does not require inbound graph capacity" }
  else
    makeCheck id "E_RESOURCE_GRAPH_CAPACITY" required
      (availableConfig unicode config kind.configKey)
      ("declared remote " ++ kind.name ++ " must fit "
        ++ kind.configKey)

def remoteChecks (config : Config) (remote : Fields) : Except PyException (List Check) :=
  [RemoteKind.participants, .nodes, .endpoints].mapM fun kind =>
    match (remote.member kind.name).bind Json.asPyInt with
    | some required => .ok (remoteCheck unicode config kind required)
    | none =>
        rejectResource "E_RESOURCE_INPUT"
          ("invalid remote " ++ kind.name ++ " bound")

/-- `configured_workers`: the configuration decides for Cyclone DDS only. -/
def configuredWorkers (config : Config) (backend : PyStr) (minimum : PyInteger) :
    Option PyInteger :=
  if backend = cycloneBackend then
    availableConfig unicode config "CONFIG_ROS2_ZEPHYR_CYCLONEDDS_THREAD_COUNT"
  else some minimum

/-- The workers of the configuration and of the two documents. -/
def planWorkers (config : Config) (backend : PyStr) (workers contract : Option Json) :
    Except PyException WorkerPlan :=
  match workers, contract with
  | some (.obj workers), some (.obj contract) =>
      match (Fields.member workers "minimum").bind Json.asPyInt,
          (Fields.member contract "maximum").bind Json.asPyInt with
      | some minimum, some maximum =>
          .ok ⟨configuredWorkers unicode config backend minimum, minimum, maximum⟩
      | _, _ => rejectResource "E_RESOURCE_INPUT" "worker bounds must be integers"
  | _, _ =>
      rejectResource "E_RESOURCE_INPUT" "worker capability or resource contract is invalid"

def workerChecks (plan : WorkerPlan) : List Check :=
  [makeCheck "backend_minimum_workers" "E_RESOURCE_WORKERS" plan.minimumWorkers plan.workers
      "configured middleware worker count must meet the backend minimum",
    makeCheck "deployment_maximum_workers" "E_RESOURCE_WORKERS"
      (plan.workers.getD (.int (plan.maximumWorkers.value + 1))) (some plan.maximumWorkers)
      "configured middleware worker count must not exceed the deployment contract"]

/-- `configured_workers or minimum_workers` -/
def WorkerPlan.stackCount (plan : WorkerPlan) : PyInteger :=
  match plan.workers with
  | some n => if n.value = 0 then plan.minimumWorkers else n
  | none => plan.minimumWorkers

def staticReserve (application : Option Json) : Except PyException PyInteger :=
  match application with
  | some (.obj application) =>
      match (Fields.member application "static_reserve_bytes").bind Json.asPyInt with
      | some bytes => .ok bytes
      | none => rejectResource "E_RESOURCE_INPUT" "application static reserve is invalid"
  | _ => rejectResource "E_RESOURCE_INPUT" "application static reserve is invalid"

def readBudgets (budget : Fields) (target : PyStr) : Except PyException Budgets :=
  match (budget.member "ram_bytes").bind Json.asPyInt,
    (budget.member "flash_bytes").bind Json.asPyInt with
  | some ram, some flash => .ok ⟨flash, ram⟩
  | _, _ =>
      rejectResource "E_RESOURCE_INPUT" ("invalid target budget for " ++ target)

def staticBuffers (config : Config) : List (PyStr × ℤ) :=
  staticBufferKeys.filterMap fun key => (integerConfig unicode config key).map (key, ·)

/-- What the planner has read of its inputs when it puts the plan together. -/
structure PlanInputs where
  endpointCount : ℕ
  capacity : Json
  localResults : List Check
  remote : Fields
  remoteResults : List Check
  workers : WorkerPlan
  reservations : Reservations
  reserve : PyInteger
  budgets : Budgets

/-- `known_ram` -/
def PlanInputs.knownRam (inputs : PlanInputs) : ℤ :=
  inputs.reservations.knownTotal + inputs.reserve.value

def PlanInputs.checks (inputs : PlanInputs) : List Check :=
  inputs.localResults ++ inputs.remoteResults ++ workerChecks inputs.workers
    ++ [makeCheck "known_prelink_ram_slices" "E_RESOURCE_RAM_BUDGET"
      (.int inputs.knownRam) (some inputs.budgets.ramBytes)
      "known stack, heap, and application reservations must fit the RAM budget"]

/-- The plan that is returned. -/
def PlanInputs.plan (inputs : PlanInputs) (name : Option Json) (config : Config)
    (backend target ddsrtSync : PyStr) : ResourcePlan where
  status := verdict inputs.checks
  target := target
  backend := backend
  ddsrtSync := ddsrtSync
  deployment := name
  budgets := inputs.budgets
  planned := {
    localEndpoints := inputs.endpointCount
    localCapacity := inputs.capacity
    remoteDiscoveryBounds := inputs.remote
    threadStacks := inputs.reservations.threadStacks
    staticBuffers := staticBuffers unicode config
    heapBacking := inputs.reservations.heaps
    middleware := inputs.workers
    staticReserveBytes := inputs.reserve
    knownRamSlicesBytes := inputs.knownRam }
  checks := inputs.checks

/-- `build_prelink_plan` once the parts of the deployment plan are known. -/
def planDeployment (deployment capability : Fields) (backend : PyStr) (resources : Fields)
    (endpointCount : ℕ) (config : Config) (target ddsrtSync : PyStr) :
    Except PyException ResourcePlan := do
  let targets := resources.member "targets"
  let target := chooseTarget config targets target
  let budget ← targetBudget targets target
  match resources.member "remote" with
  | some (.obj remote) =>
      let remoteResults ← remoteChecks unicode config remote
      let workers ← planWorkers unicode config backend (capability.member "workers")
        (resources.member "workers")
      let reservations ← configuredReservations unicode config backend workers.stackCount
      let reserve ← staticReserve (resources.member "application")
      let budgets ← readBudgets budget target
      let capacity ← getItem resources "local_endpoints"
      let inputs : PlanInputs :=
        { endpointCount := endpointCount, capacity := capacity
          localResults := localChecks unicode config resources endpointCount
          remote := remote, remoteResults := remoteResults, workers := workers
          reservations := reservations, reserve := reserve, budgets := budgets }
      .ok (inputs.plan unicode (deployment.member "name") config backend target ddsrtSync)
  | _ => rejectResource "E_RESOURCE_INPUT" "deployment resource contract has no remote bounds"

/-- `build_prelink_plan`. -/
def buildPrelinkPlan (plan : Fields) (config : Config) (target ddsrtSync : PyStr) :
    Except PyException ResourcePlan :=
  if !(plan.member "schema_version").any (equalsInt · 2) then
    rejectResource "E_RESOURCE_INPUT" "deployment plan schema_version must be 2"
  else
    match plan.member "deployment", plan.member "capability", plan.member "backend" with
    | some (.obj deployment), some (.obj capability), some (.str backend) =>
        if backend = cycloneBackend ∧ ddsrtSync ∉ ddsrtSyncChoices then
          rejectResource "E_RESOURCE_INPUT"
            ("invalid DDSRT synchronization selection " ++ ddsrtSync)
        else
          match Fields.member deployment "resources", Fields.member deployment "endpoints" with
          | some (.obj resources), some (.arr endpoints) =>
              planDeployment unicode deployment capability backend resources endpoints.length
                config target ddsrtSync
          | _, _ =>
              rejectResource "E_RESOURCE_INPUT"
                "deployment plan has no validated resource contract"
    | _, _, _ =>
        rejectResource "E_RESOURCE_INPUT"
          "deployment plan is missing deployment, capability, or backend"

end Planner

/-! ## The total is the sum of the rows

Every addition to the total comes with a row of the same size; a heap without a size adds to
neither.
-/

namespace Reservations

/-- The running total is what the rows add up to. -/
def Balanced (r : Reservations) : Prop := r.knownTotal = reservedBytes r.threadStacks r.heaps

variable {r : Reservations}

lemma Balanced.addStack (h : r.Balanced) (name : PyStr) (bytes : ℤ) (source : PyStr) :
    (r.addStack name bytes source).Balanced := by
  simp only [Balanced, reservedBytes] at h
  simp only [Balanced, Reservations.addStack, reservedBytes, List.map_append, List.sum_append,
    List.map_cons, List.map_nil, List.sum_singleton]
  omega

lemma Balanced.addHeap (h : r.Balanced) (name : PyStr) (bytes : ℤ) (source : PyStr) :
    (r.addHeap name bytes source).Balanced := by
  have hrow :
      List.filterMap Reservation.bytes [(⟨name, some bytes, source⟩ : Reservation (Option ℤ))]
      = [bytes] := rfl
  simp only [Balanced, reservedBytes] at h
  simp only [Balanced, Reservations.addHeap, reservedBytes, List.filterMap_append, hrow,
    List.sum_append, List.sum_singleton]
  omega

lemma Balanced.addOpenHeap (h : r.Balanced) (name source : PyStr) :
    (r.addOpenHeap name source).Balanced := by
  have hrow : List.filterMap Reservation.bytes [(⟨name, none, source⟩ : Reservation (Option ℤ))]
      = [] := rfl
  simp only [Balanced, reservedBytes] at h
  simp only [Balanced, Reservations.addOpenHeap, reservedBytes, List.filterMap_append, hrow,
    List.append_nil]
  exact h

end Reservations

section Totals

open Reservations

variable {unicode : PyStr.UnicodeData} {config : Config} {r : Reservations}

lemma balanced_reserveStack (h : r.Balanced) (stack : PyStr × PyStr) :
    (reserveStack unicode config r stack).Balanced := by
  unfold reserveStack
  split
  · exact h.addStack _ _ _
  · exact h

lemma balanced_fixedStacks (h : r.Balanced) (stacks' : List (PyStr × PyStr)) :
    (stacks'.foldl (reserveStack unicode config) r).Balanced := by
  induction stacks' generalizing r with
  | nil => exact h
  | cons stack stacks' ih => exact ih (balanced_reserveStack h stack)

/-- The row of the worker stacks can be written: its text names the number of workers and the size
of a stack. -/
def WorkersPrintable (unicode : PyStr.UnicodeData) (config : Config) (backend : PyStr)
    (workerCount : PyInteger) : Prop :=
  backend = cycloneBackend → ∀ stack, workerStack unicode config = some stack →
    Json.Convertible workerCount.value ∧ Json.Convertible stack

/-- The worker stacks are added, or the text of their row has too many digits. -/
lemma reserveWorkers_cases {backend : PyStr} {workerCount : PyInteger} (h : r.Balanced) :
    (WorkersPrintable unicode config backend workerCount ∧
      ∃ s, reserveWorkers unicode config backend workerCount r = .ok s ∧ s.Balanced) ∨
    (¬ WorkersPrintable unicode config backend workerCount ∧
      reserveWorkers unicode config backend workerCount r
        = .error (.valueError PyStr.formatLimitMessage)) := by
  unfold reserveWorkers WorkersPrintable
  by_cases hbackend : backend = cycloneBackend
  · rw [if_pos hbackend]
    cases hstack : workerStack unicode config with
    | none =>
        left
        refine ⟨fun _ stack hsome => ?_, r, rfl, h⟩
        cases hsome
    | some stack =>
        by_cases hcount : Json.Convertible workerCount.value
        · by_cases hsize : Json.Convertible stack
          · left
            refine ⟨fun _ s hs => ?_, r.addStack "Cyclone DDS worker stacks"
              (workerCount.value * stack)
              (workerCount.text ++ " x " ++ PyStr.ofInt stack), ?_,
              h.addStack _ _ _⟩
            · cases hs
              exact ⟨hcount, hsize⟩
            · simp only [formatInteger, hcount, hsize, PyInteger.value_int, if_true, ok_bind]
              rfl
          · right
            refine ⟨fun hall => hsize (hall hbackend stack rfl).2, ?_⟩
            simp only [formatInteger, hcount, hsize, PyInteger.value_int, if_true, if_false,
              ok_bind,
              error_bind]
        · right
          refine ⟨fun hall => hcount (hall hbackend stack rfl).1, ?_⟩
          simp only [formatInteger, hcount, if_false, error_bind]
  · left
    rw [if_neg hbackend]
    exact ⟨fun hcyclone => absurd hcyclone hbackend, r, rfl, h⟩

lemma balanced_reserveZephyrHeap (h : r.Balanced) :
    (reserveZephyrHeap unicode config r).Balanced := by
  unfold reserveZephyrHeap
  split
  · exact h.addHeap _ _ _
  · exact h

lemma balanced_reserveLibcHeap (h : r.Balanced) :
    (reserveLibcHeap unicode config r).Balanced := by
  unfold reserveLibcHeap
  split
  · split
    · exact h.addHeap _ _ _
    · exact h.addOpenHeap _ _
  · exact h.addOpenHeap _ _

/-- **Each slice is counted once**, if the rows can be written. -/
theorem configuredReservations_cases (unicode : PyStr.UnicodeData) (config : Config)
    (backend : PyStr) (workerCount : PyInteger) :
    (WorkersPrintable unicode config backend workerCount ∧
      ∃ r, configuredReservations unicode config backend workerCount = .ok r ∧ r.Balanced) ∨
    (¬ WorkersPrintable unicode config backend workerCount ∧
      configuredReservations unicode config backend workerCount
        = .error (.valueError PyStr.formatLimitMessage)) := by
  have hfixed : (fixedStacks.foldl (reserveStack unicode config) .empty).Balanced :=
    balanced_fixedStacks (rfl : Reservations.empty.Balanced) fixedStacks
  rw [configuredReservations]
  rcases reserveWorkers_cases hfixed with ⟨hprintable, r, hr, hbalanced⟩ | ⟨hlong, herror⟩
  · left
    rw [hr, ok_bind]
    exact ⟨hprintable, _, rfl,
      balanced_reserveLibcHeap (balanced_reserveZephyrHeap hbalanced)⟩
  · right
    rw [herror, error_bind]
    exact ⟨hlong, rfl⟩

lemma balanced_configuredReservations {backend : PyStr} {workerCount : PyInteger}
    (h : configuredReservations unicode config backend workerCount = .ok r) : r.Balanced := by
  rcases configuredReservations_cases unicode config backend workerCount
    with ⟨-, s, hs, hbalanced⟩ | ⟨-, herror⟩
  · rw [h] at hs
    cases hs
    exact hbalanced
  · rw [h] at herror
    cases herror

end Totals

/-! ## The planner on an accepted deployment

On a document that the compiler has accepted each part is there and has the type that the planner
expects.  What is left to fail is the budget of the target and the text of a row.
-/

/-- The member of the configuration that names the target, if it names one. -/
def boardTarget (config : Config) : Option PyStr :=
  (config.lookup (PyStr.ofString "CONFIG_BOARD_TARGET")).filter (· ≠ [])

/-- The budget that is declared for a target. -/
def Contract.budget (contract : Contract) (target : PyStr) : Option Budgets :=
  contract.targets.lookup target

/-- The declared budget of the target of the configuration, or else of the given one. -/
def Contract.budgetFor (contract : Contract) (config : Config) (target : PyStr) : Option Budgets :=
  ((boardTarget config).bind contract.budget).or (contract.budget target)

section Accepted

variable {unicode : PyStr.UnicodeData} {config : Config} {contract : Contract} {target : PyStr}

/-- A declared budget is read; for a target without one the error is the tool's own. -/
lemma targetBudget_of_declared {targets : Fields} {declared : Option Budgets}
    (h : DeclaredBudget targets target declared) :
    (declared = none ∧ ∃ message, targetBudget (some (.obj targets)) target
      = .error (.resourceError "E_RESOURCE_TARGET" message)) ∨
    ∃ budget fields, declared = some budget ∧
      targetBudget (some (.obj targets)) target = .ok fields ∧
      readBudgets fields target = .ok budget := by
  cases declared with
  | none =>
      left
      simp only [DeclaredBudget] at h
      refine ⟨rfl, "deployment has no resource budget for target " ++ target, ?_⟩
      simp only [targetBudget, h, rejectResource]
  | some budget =>
      right
      obtain ⟨fields, hmember, hflash, hram⟩ := h
      refine ⟨budget, fields, rfl, ?_, ?_⟩
      · simp only [targetBudget, hmember]
      · simp only [readBudgets, hflash, hram, Option.bind_some, Json.asPyInt_toJson]

lemma isSome_member_iff {targets : Fields} {declared : Option Budgets}
    (h : DeclaredBudget targets target declared) :
    (targets.member target).isSome = declared.isSome := by
  cases declared with
  | none =>
      simp only [DeclaredBudget] at h
      rw [h]
      rfl
  | some budget =>
      obtain ⟨fields, hmember, -⟩ := h
      rw [hmember]
      rfl

/-- The chosen target has the budget that counts. -/
lemma declaredBudget_chosen {targets : Fields}
    (h : targets.mapM readBudget = some contract.targets) :
    DeclaredBudget targets (chooseTarget config (some (.obj targets)) target)
      (contract.budgetFor config target) := by
  have hdeclared : ∀ t, DeclaredBudget targets t (contract.budget t) :=
    fun t => declaredBudget_lookup t h
  unfold chooseTarget Contract.budgetFor boardTarget
  cases hboard : config.lookup (PyStr.ofString "CONFIG_BOARD_TARGET") with
  | none => exact hdeclared target
  | some board =>
      simp only [isSome_member_iff (hdeclared board)]
      split
      next hcond =>
        obtain ⟨budget, hbudget⟩ := Option.isSome_iff_exists.mp hcond.2
        have hsome := hdeclared board
        rw [hbudget] at hsome
        simpa [Option.filter, hcond.1, hbudget] using hsome
      next hcond =>
        have hnone : ((some board).filter (· ≠ [])).bind contract.budget = none := by
          by_cases hempty : board = []
          · simp [Option.filter, hempty]
          · have hlookup : ¬ (contract.budget board).isSome := fun hb => hcond ⟨hempty, hb⟩
            simpa [Option.filter, hempty] using hlookup
        rw [hnone, Option.none_or]
        exact hdeclared target

lemma remoteChecks_eq {remote : Fields}
    (h : ∀ kind, remote.member (RemoteKind.name kind) = some (.int (contract.remote kind))) :
    remoteChecks unicode config remote
      = .ok ([RemoteKind.participants, .nodes, .endpoints].map fun kind =>
          remoteCheck unicode config kind (.int (contract.remote kind))) := by
  refine mapM_eq_ok fun kind _ => ?_
  simp only [h kind, Option.bind_some, Json.asPyInt]

lemma planWorkers_eq {backend : PyStr} {workers limits : Fields} {minimum : PyInteger}
    {maximum : ℤ} (hminimum : (workers.member "minimum").bind Json.asPyInt = some minimum)
    (hmaximum : limits.member "maximum" = some (.int maximum)) :
    planWorkers unicode config backend (some (.obj workers)) (some (.obj limits))
      = .ok ⟨configuredWorkers unicode config backend minimum, minimum, .int maximum⟩ := by
  simp only [planWorkers, hminimum, hmaximum, Option.bind_some, Json.asPyInt]

lemma staticReserve_eq {application : Fields} {bytes : ℤ}
    (h : application.member "static_reserve_bytes" = some (.int bytes)) :
    staticReserve (some (.obj application)) = .ok (.int bytes) := by
  simp only [staticReserve, h, Option.bind_some, Json.asPyInt]

lemma remoteCheck_status_pass {kind : RemoteKind} {required : ℤ} :
    (remoteCheck unicode config kind (.int required)).status = .pass ↔
      (required ≠ 0 → Meets required (integerConfig unicode config kind.configKey)) := by
  unfold remoteCheck availableConfig
  by_cases h : required = 0
  · simp [h]
  · simp only [PyInteger.value_int, h, if_false, makeCheck_status_pass, map_value_int, ne_eq,
      not_false_eq_true, true_implies]

/-- The remote checks pass if every bound that is not zero has its capacity. -/
lemma remoteChecks_pass :
    (∀ c ∈ [RemoteKind.participants, .nodes, .endpoints].map (fun kind =>
        remoteCheck unicode config kind (.int (contract.remote kind))), c.status = .pass) ↔
      ∀ kind, contract.remote kind ≠ 0 →
        Meets (contract.remote kind) (integerConfig unicode config kind.configKey) := by
  simp only [List.forall_mem_map, remoteCheck_status_pass, Int.natCast_ne_zero]
  constructor
  · intro h kind
    exact h kind (by cases kind <;> decide)
  · intro h kind _
    exact h kind

/-- Endpoints that fit the contract are checked against the configuration only. -/
lemma localChecks_pass {resources : Fields} {endpointCount : ℕ}
    (hlocal : resources.member "local_endpoints" = some (.int contract.localEndpoints))
    (hfits : endpointCount ≤ contract.localEndpoints) :
    (∀ c ∈ localChecks unicode config resources endpointCount, c.status = .pass) ↔
      Meets 1 (integerConfig unicode config "CONFIG_ROS2_ZEPHYR_GRAPH_MAX_LOCAL_NODES") ∧
      Meets endpointCount
        (integerConfig unicode config "CONFIG_ROS2_ZEPHYR_GRAPH_MAX_ENDPOINTS_PER_NODE") := by
  have hdeclared : Meets endpointCount
      (((resources.member "local_endpoints").bind Json.asPyInt).map PyInteger.value) := by
    rw [hlocal]
    exact meets_some.mpr (Int.ofNat_le.mpr hfits)
  simp only [localChecks, availableConfig, List.forall_mem_cons, List.not_mem_nil, false_implies,
    implies_true, and_true, makeCheck_status_pass, map_value_int, PyInteger.value_int, hdeclared,
    true_and]

/-- The number of workers lies between the two bounds exactly if both checks pass. -/
lemma workerChecks_pass {plan : WorkerPlan} :
    (∀ c ∈ workerChecks plan, c.status = .pass) ↔
      ∃ n, plan.workers = some n ∧ plan.minimumWorkers.value ≤ n.value ∧
        n.value ≤ plan.maximumWorkers.value := by
  cases h : plan.workers with
  | none => simp [workerChecks, h, Meets]
  | some n => simp [workerChecks, h]

/-- **What a plan that passes says** about the configuration. -/
structure Admissible (unicode : PyStr.UnicodeData) (config : Config) (contract : Contract)
    (endpointCount : ℕ) (workers : Option PyInteger) (minimum ramSlices ramBudget : ℤ) :
    Prop where
  localNode : Meets 1 (integerConfig unicode config "CONFIG_ROS2_ZEPHYR_GRAPH_MAX_LOCAL_NODES")
  localEndpoints : Meets endpointCount
    (integerConfig unicode config "CONFIG_ROS2_ZEPHYR_GRAPH_MAX_ENDPOINTS_PER_NODE")
  remote : ∀ kind, contract.remote kind ≠ 0 →
    Meets (contract.remote kind) (integerConfig unicode config kind.configKey)
  workers : ∃ n, workers = some n ∧ minimum ≤ n.value ∧ n.value ≤ contract.maximumWorkers
  ram : ramSlices ≤ ramBudget

/-- The workers of an accepted deployment. -/
def Contract.workerPlan (contract : Contract) (unicode : PyStr.UnicodeData) (config : Config)
    (backend : PyStr) (minimum : PyInteger) : WorkerPlan :=
  ⟨configuredWorkers unicode config backend minimum, minimum, .int contract.maximumWorkers⟩

/-- What is read of an accepted deployment. -/
def Contract.inputs (contract : Contract) (unicode : PyStr.UnicodeData) (config : Config)
    (backend : PyStr) (resources remote : Fields) (endpointCount : ℕ) (minimum : PyInteger)
    (reservations : Reservations) (budgets : Budgets) : PlanInputs where
  endpointCount := endpointCount
  capacity := .int contract.localEndpoints
  localResults := localChecks unicode config resources endpointCount
  remote := remote
  remoteResults := [RemoteKind.participants, .nodes, .endpoints].map fun kind =>
    remoteCheck unicode config kind (.int (contract.remote kind))
  workers := contract.workerPlan unicode config backend minimum
  reservations := reservations
  reserve := .int contract.staticReserveBytes
  budgets := budgets

section Plans

variable {deployment capability resources remote : Fields} {backend ddsrtSync : PyStr}
  {endpointCount : ℕ} {minimum : PyInteger} {reservations : Reservations} {budgets : Budgets}

/-- Nothing but the budget and the text of a row can stop the planner. -/
lemma planDeployment_eq {workers : Fields} (hcontract : contract.ReadFrom (.obj resources))
    (hremote : resources.member "remote" = some (.obj remote))
    (hbounds : ∀ kind, remote.member (RemoteKind.name kind) = some (.int (contract.remote kind)))
    (hworkers : capability.member "workers" = some (.obj workers))
    (hminimum : (workers.member "minimum").bind Json.asPyInt = some minimum) :
    planDeployment unicode deployment capability backend resources endpointCount config target
        ddsrtSync
      = (do
          let target := chooseTarget config (resources.member "targets") target
          let budget ← targetBudget (resources.member "targets") target
          let reservations ← configuredReservations unicode config backend
            (contract.workerPlan unicode config backend minimum).stackCount
          let budgets ← readBudgets budget target
          .ok ((contract.inputs unicode config backend resources remote endpointCount minimum
            reservations budgets).plan unicode
              (deployment.member "name") config backend target ddsrtSync)) := by
  obtain ⟨limits, hlimits, hmaximum⟩ := hcontract.workers
  obtain ⟨application, happlication, hreserve⟩ := hcontract.application
  simp only [Json.field] at hlimits happlication
  have hcapacity : getItem resources "local_endpoints" = .ok (.int contract.localEndpoints) := by
    have hlocal : resources.member "local_endpoints" = some (.int contract.localEndpoints) :=
      hcontract.localEndpoints
    simp only [getItem, hlocal]
  simp only [planDeployment, hremote, remoteChecks_eq hbounds, hworkers, hlimits,
    planWorkers_eq hminimum hmaximum, happlication, staticReserve_eq hreserve, hcapacity, ok_bind]
  rfl

lemma inputs_checks_pass (hcontract : contract.ReadFrom (.obj resources))
    (hfits : endpointCount ≤ contract.localEndpoints) :
    verdict (contract.inputs unicode config backend resources remote endpointCount minimum
        reservations budgets).checks = .pass ↔
      Admissible unicode config contract endpointCount
        (configuredWorkers unicode config backend minimum) minimum.value
        (contract.inputs unicode config backend resources remote endpointCount minimum
          reservations budgets).knownRam budgets.ramBytes.value := by
  have hlocal : resources.member "local_endpoints" = some (.int contract.localEndpoints) :=
    hcontract.localEndpoints
  simp only [verdict_eq_pass_iff, PlanInputs.checks, List.forall_mem_append]
  simp only [Contract.inputs, Contract.workerPlan, localChecks_pass hlocal hfits, remoteChecks_pass,
    workerChecks_pass, List.forall_mem_singleton, makeCheck_status_pass, Option.map_some,
    PyInteger.value_int, meets_some]
  constructor
  · rintro ⟨⟨⟨⟨hnode, hendpoints⟩, hremote⟩, hworkers⟩, hram⟩
    exact ⟨hnode, hendpoints, hremote, hworkers, hram⟩
  · rintro ⟨hnode, hendpoints, hremote, hworkers, hram⟩
    exact ⟨⟨⟨⟨hnode, hendpoints⟩, hremote⟩, hworkers⟩, hram⟩

/-- For an accepted deployment the planner runs to the budget. -/
lemma buildPrelinkPlan_eq {endpoints : List Json}
    (hresources : deployment.member "resources" = some (.obj resources))
    (hendpoints : deployment.member "endpoints" = some (.arr endpoints))
    (hsync : ddsrtSync ∈ ddsrtSyncChoices) :
    buildPrelinkPlan unicode (deploymentPlan deployment capability backend) config target ddsrtSync
      = planDeployment unicode deployment capability backend resources endpoints.length
        config target
          ddsrtSync := by
  have hversion :
      (Fields.member (deploymentPlan deployment capability backend) "schema_version").any
      (equalsInt · 2) = true := rfl
  have hdeployment : Fields.member (deploymentPlan deployment capability backend) "deployment"
      = some (.obj deployment) := rfl
  have hcapability : Fields.member (deploymentPlan deployment capability backend) "capability"
      = some (.obj capability) := rfl
  have hbackend : Fields.member (deploymentPlan deployment capability backend) "backend"
      = some (.str backend) := rfl
  simp only [buildPrelinkPlan, hversion, hdeployment, hcapability, hbackend, hresources, hendpoints,
    hsync, Bool.not_true, Bool.false_eq_true, if_false, not_true_eq_false, and_false]

lemma budgetFor_eq_none_iff :
    contract.budgetFor config target = none ↔ contract.budget target = none ∧
      ∀ board, boardTarget config = some board → contract.budget board = none := by
  rw [Contract.budgetFor, Option.or_eq_none_iff, Option.bind_eq_none_iff]
  exact and_comm

/-- **The plan before the link is exact.**  For an accepted deployment and a capability with a
minimum number of workers, a missing budget is the only error that the planner reports, and the one
exception that it lets through is that of a row whose text has too many digits.  Otherwise the
reported RAM is the sum of the reported slices and of the reserve, and the verdict is the
conjunction of the conditions. -/
theorem prelink_exact {repr : PyStr → PyStr} {result workers : Fields}
    (hvalid : validateDeployment repr deployment = .ok result)
    (hworkers : capability.member "workers" = some (.obj workers))
    (hminimum : (workers.member "minimum").bind Json.asPyInt = some minimum)
    (hsync : ddsrtSync ∈ ddsrtSyncChoices) (unicode : PyStr.UnicodeData) (config : Config)
    (backend target : PyStr) :
    ∃ (resources : Json) (endpoints : List Json) (contract : Contract),
      deployment.member "resources" = some resources ∧
      deployment.member "endpoints" = some (.arr endpoints) ∧
      Contract.ofJson resources = some contract ∧
      let outcome := buildPrelinkPlan unicode (deploymentPlan deployment capability backend) config
        target ddsrtSync
      (∀ e, outcome = .error e → (∃ message, e = .resourceError "E_RESOURCE_TARGET" message) ∨
        e = .valueError PyStr.formatLimitMessage) ∧
      ((∃ message, outcome = .error (.resourceError "E_RESOURCE_TARGET" message)) ↔
        contract.budget target = none ∧
          ∀ board, boardTarget config = some board → contract.budget board = none) ∧
      (outcome = .error (.valueError PyStr.formatLimitMessage) ↔
        contract.budgetFor config target ≠ none ∧
          ¬ WorkersPrintable unicode config backend
            (contract.workerPlan unicode config backend minimum).stackCount) ∧
      ∀ plan, outcome = .ok plan → ∃ budgets, contract.budgetFor config target = some budgets ∧
        plan.planned.knownRamSlicesBytes
          = reservedBytes plan.planned.threadStacks plan.planned.heapBacking
            + contract.staticReserveBytes ∧
        (plan.status = .pass ↔ Admissible unicode config contract endpoints.length
          (configuredWorkers unicode config backend minimum) minimum.value
          plan.planned.knownRamSlicesBytes budgets.ramBytes.value) := by
  obtain ⟨resources, endpoints, contract, hresources, hendpoints, hcontract, hfits⟩ :=
    exists_contract hvalid
  have hread := Contract.readFrom_of_ofJson hcontract
  obtain ⟨remote, hremote, hbounds⟩ := hread.remote
  obtain ⟨targets, htargets, hbudgets⟩ := hread.targets
  simp only [Json.field] at hremote htargets
  refine ⟨.obj resources, endpoints, contract, hresources, hendpoints, hcontract, ?_⟩
  have hchosen : DeclaredBudget targets (chooseTarget config (some (.obj targets)) target)
      (contract.budgetFor config target) := declaredBudget_chosen hbudgets
  rw [buildPrelinkPlan_eq hresources hendpoints hsync,
    planDeployment_eq hread hremote hbounds hworkers hminimum, htargets, ← budgetFor_eq_none_iff]
  rcases targetBudget_of_declared hchosen
    with ⟨hnone, message, herror⟩ | ⟨budgets, fields, hsome, hok, hbudget⟩
  · simp only [herror, error_bind, Except.error.injEq, hnone]
    refine ⟨fun e he => .inl ⟨message, he.symm⟩, ⟨fun _ => trivial, fun _ => ⟨_, rfl⟩⟩, ?_, ?_⟩
    · simp
    · intro plan hplan
      cases hplan
  · rcases configuredReservations_cases unicode config backend
        (contract.workerPlan unicode config backend minimum).stackCount
      with ⟨hprintable, r, hr, hbalanced⟩ | ⟨hlong, herror⟩
    · simp only [hok, hr, hbudget, ok_bind, hsome, hprintable]
      refine ⟨fun e he => ?_, ?_, ?_, ?_⟩
      · cases he
      · simp
      · simp
      · intro plan hplan
        cases hplan
        refine ⟨budgets, rfl, ?_, inputs_checks_pass hread hfits⟩
        exact congrArg (· + _) hbalanced
    · simp only [hok, herror, ok_bind, error_bind, hsome, hlong, Except.error.injEq]
      refine ⟨fun e he => .inr he.symm, ?_, ?_, ?_⟩
      · simp
      · simp
      · intro plan hplan
        cases hplan

end Plans

end Accepted

section Loopback

def loopbackConfig : Config :=
  [("CONFIG_BOARD_TARGET", "native_sim/native/64"), ("CONFIG_MAIN_STACK_SIZE", "32768"),
    ("CONFIG_ROS2_ZEPHYR_CYCLONEDDS_THREAD_COUNT", "8"),
    ("CONFIG_ROS2_ZEPHYR_CYCLONEDDS_THREAD_STACK_SIZE", "0x4000"),
    ("CONFIG_COMMON_LIBC_MALLOC_ARENA_SIZE", "-1"), ("CONFIG_HEAP_MEM_POOL_SIZE", "262144"),
    ("CONFIG_ROS2_ZEPHYR_GRAPH_MAX_LOCAL_NODES", "1"),
    ("CONFIG_ROS2_ZEPHYR_GRAPH_MAX_ENDPOINTS_PER_NODE", "4")]

/-- The plan of the loopback sample. -/
def loopbackPlan : Except PyException ResourcePlan :=
  buildPrelinkPlan PyStr.asciiOnly
    (deploymentPlan loopbackDeployment cycloneCapability cycloneBackend) loopbackConfig
    "native_sim" "posix"

/-- The plan of the loopback sample: what is counted as known RAM are its rows and the reserve of
the application. -/
theorem prelink_exact_loopback :
    ∃ (contract : Contract) (plan : ResourcePlan), loopbackPlan = .ok plan ∧
      plan.planned.knownRamSlicesBytes
        = reservedBytes plan.planned.threadStacks plan.planned.heapBacking
          + contract.staticReserveBytes := by
  obtain ⟨result, hvalid⟩ := loopbackDeployment_returns
  have hworkers : Fields.member cycloneCapability "workers"
      = some (.obj [("minimum", .int 5)]) := rfl
  have hsync : PyStr.ofString "posix" ∈ ddsrtSyncChoices := by decide
  obtain ⟨_, _, contract, _, _, _, _, _, _, hplans⟩ :=
    prelink_exact hvalid hworkers rfl hsync PyStr.asciiOnly loopbackConfig cycloneBackend
      "native_sim"
  have hok : ∃ plan, loopbackPlan = .ok plan := exists_ok_of_toBool (by decide +kernel)
  obtain ⟨plan, hplan⟩ := hok
  obtain ⟨-, -, hknown, -⟩ := hplans plan hplan
  exact ⟨contract, plan, hplan, hknown⟩

/-- The loopback sample with a budget for the target with the empty name. -/
def unnamedTargetDeployment : Fields :=
  loopbackDeployment.map fun f =>
    if f.1 = PyStr.ofString "resources" then
      (f.1, .obj [
        ("local_endpoints", .int 2),
        ("remote", .obj [("participants", .int 0), ("nodes", .int 0), ("endpoints", .int 0)]),
        ("workers", .obj [("maximum", .int 8)]),
        ("application", .obj [("static_reserve_bytes", .int 16384)]),
        ("targets", .obj [
          ("", .obj [("flash_bytes", .int 1000000), ("ram_bytes", .int 1500000)])])])
    else f

/-- An empty `CONFIG_BOARD_TARGET` counts as none, even if the deployment declares a budget for the
empty name. -/
theorem empty_board_target_ignored :
    (validateDeployment id unnamedTargetDeployment).toBool = true ∧
    (Manifest.ofFields unnamedTargetDeployment).map
      (validateCapabilities · cycloneCapability cycloneBackend) = some (.ok ()) ∧
    (((Json.obj unnamedTargetDeployment).field "resources").bind Contract.ofJson).any
      (fun contract => (contract.budget []).isSome) = true ∧
    buildPrelinkPlan PyStr.asciiOnly
        (deploymentPlan unnamedTargetDeployment cycloneCapability cycloneBackend)
        [("CONFIG_BOARD_TARGET", [])] "native_sim" "posix"
      = .error (.resourceError "E_RESOURCE_TARGET"
          "deployment has no resource budget for target native_sim") := by
  refine ⟨by decide +kernel, by decide +kernel, by decide +kernel, ?_⟩
  rfl

/-- A stack size of 4302 digits.  `int` reads it, since the limit is for decimal literals only. -/
def longStackSize : PyStr := "0x1" ++ List.replicate 3572 '0'.toNat

example : (match buildPrelinkPlan PyStr.asciiOnly
      (deploymentPlan loopbackDeployment cycloneCapability cycloneBackend)
      [("CONFIG_ROS2_ZEPHYR_CYCLONEDDS_THREAD_STACK_SIZE", longStackSize)] "native_sim/native/64"
      "posix" with
    | .error e => e == .valueError PyStr.formatLimitMessage
    | .ok _ => false) = true := by
  decide +kernel

end Loopback

end Ros2Zephyr
