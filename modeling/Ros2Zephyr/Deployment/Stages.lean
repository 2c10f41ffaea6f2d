import Ros2Zephyr.Deployment.Rcl

/-!
# The stages of a setup

What the generated setup code is for.  Setting up is a list of stages, some of which make an entity
that must be finalised; when a stage fails, what was made before it is finalised in reverse order.

* `Entity`, `creation` — what is made, in the order in which it is made.
* `Stage`, `stages` — the calls of a setup.
* `made` — the entities that exist after some stages, always a first part of `creation`.
-/

namespace Ros2Zephyr

open CLang

section Stages

/-- What a setup makes. -/
inductive Entity
  | node
  | endpoint (endpoint : Endpoint)
  | executor
  deriving DecidableEq

def EndpointKind.handleKind : EndpointKind → HandleKind
  | .publisher => .publisher
  | .subscription _ => .subscription

namespace Entity

/-- The member of the context that says whether the entity exists. -/
def flag : Entity → PyStr
  | node => "node_initialized"
  | endpoint e => e.flag
  | executor => "executor_initialized"

def finiCall : Entity → RclCall
  | node => .nodeFini
  | endpoint e => .endpointFini e.kind.handleKind e.handle
  | executor => .executorFini

def finiStmt : Entity → Stmt
  | node => Ros2Zephyr.finiStmt "node_initialized" "rcl_node_fini" [.addr (contextMember "node")]
  | endpoint e => endpointFiniStmt e
  | executor =>
      Ros2Zephyr.finiStmt "executor_initialized" "rclc_executor_fini"
        [.addr (contextMember "executor")]

end Entity

/-- The entities in the order in which they are made. -/
def creation (deployment : Deployment) : List Entity :=
  .node :: (deployment.endpoints.map .endpoint ++ [.executor])

/-- A stage of the setup: a call, and what exists when it succeeded. -/
structure Stage where
  call : RclCall
  makes : Option Entity

/-- The entities that exist after some stages. -/
def made (done : List Stage) : List Entity := done.filterMap Stage.makes

/-- The finalisers of the entities that exist, last made first. -/
def finiCalls (existing : List Entity) : List RclCall := existing.reverse.map Entity.finiCall

def Reliability.policy : Reliability → PyStr
  | .bestEffort => "RMW_QOS_POLICY_RELIABILITY_BEST_EFFORT"
  | .reliable => "RMW_QOS_POLICY_RELIABILITY_RELIABLE"

def Durability.policy : Durability → PyStr
  | .volatile => "RMW_QOS_POLICY_DURABILITY_VOLATILE"
  | .transientLocal => "RMW_QOS_POLICY_DURABILITY_TRANSIENT_LOCAL"

variable (target : RclTarget)

/-- The profile that the code gives to rclc. -/
def Qos.profile (qos : Qos) : QosProfile where
  reliability := qos.reliability.policy
  durability := qos.durability.policy
  history := "RMW_QOS_POLICY_HISTORY_KEEP_LAST"
  depth := target.toSize qos.depth

def nodeStage (deployment : Deployment) : Stage where
  call := .nodeInit (cString deployment.nodeName) (cString (denoted deployment.nodeNamespace))
  makes := some .node

def endpointStage (endpoint : Endpoint) : Stage where
  call := .endpointInit endpoint.kind.handleKind endpoint.handle endpoint.type.package
    endpoint.type.message (cString (denoted endpoint.topic)) (endpoint.qos.profile target)
  makes := some (.endpoint endpoint)

def executorStage (subscriptions : ℕ) : Stage where
  call := .executorInit (target.toSize subscriptions)
  makes := some .executor

def addSubscriptionStage (subscription : Endpoint × Callback) : Stage where
  call := .addSubscription subscription.1.handle subscription.1.buffer subscription.2.name
  makes := none

def prepareStage : Stage where
  call := .prepare
  makes := none

def executorStages (deployment : Deployment) : List Stage :=
  if deployment.subscriptions.isEmpty then []
  else
    executorStage target deployment.subscriptions.length ::
      (deployment.subscriptions.map addSubscriptionStage ++ [prepareStage])

/-- The stages of a setup. -/
def stages (deployment : Deployment) : List Stage :=
  nodeStage deployment ::
    (deployment.endpoints.map (endpointStage target) ++ executorStages target deployment)

end Stages

section Entities

variable {deployment : Deployment} {target : RclTarget}

/-- The members before the flags. -/
def storage (deployment : Deployment) : List PyStr :=
  "node" :: (deployment.endpoints.flatMap (fun e => e.memberDecls.map MemberDecl.name) ++
    [PyStr.ofString "executor"])

lemma contextMembers_names (deployment : Deployment) :
    (contextMembers deployment).map MemberDecl.name =
      storage deployment ++ (creation deployment).map Entity.flag := by
  simp [contextMembers, storage, creation, List.map_flatMap, Entity.flag, Function.comp_def]

lemma flag_injective (h : DistinctMembers deployment) {entity entity' : Entity}
    (hmem : entity ∈ creation deployment) (hmem' : entity' ∈ creation deployment)
    (heq : entity.flag = entity'.flag) : entity = entity' := by
  rw [DistinctMembers, contextMembers_names] at h
  exact List.inj_on_of_nodup_map h.of_append_right hmem hmem' heq

lemma storage_ne_flag (h : DistinctMembers deployment) {name : PyStr} {entity : Entity}
    (hname : name ∈ storage deployment) (hmem : entity ∈ creation deployment) :
    entity.flag ≠ name := by
  rw [DistinctMembers, contextMembers_names] at h
  intro heq
  exact List.disjoint_of_nodup_append h hname (List.mem_map.mpr ⟨entity, hmem, heq⟩)

lemma handle_mem_storage {endpoint : Endpoint} (h : endpoint ∈ deployment.endpoints) :
    endpoint.handle ∈ storage deployment := by
  refine List.mem_cons_of_mem _ (List.mem_append_left _ (List.mem_flatMap.mpr ⟨endpoint, h, ?_⟩))
  simp [Endpoint.memberDecls]

lemma creation_nodup (deployment : Deployment) : (creation deployment).Nodup := by
  have hendpoints : (deployment.endpoints.map Entity.endpoint).Nodup :=
    deployment.ids_nodup.of_map.map fun _ _ h => Entity.endpoint.inj h
  simp [creation, List.nodup_append, hendpoints]

/-- The stages make the entities in the order of `creation`, and all but possibly the executor. -/
lemma made_stages_isPrefix (deployment : Deployment) :
    made (stages target deployment) <+: creation deployment := by
  have hadd : (deployment.subscriptions.map addSubscriptionStage ++ [prepareStage]).filterMap
      Stage.makes = [] := by
    simp [addSubscriptionStage, prepareStage, List.filterMap_map, Function.comp_def]
  have hendpoints : (deployment.endpoints.map (endpointStage target)).filterMap Stage.makes =
      deployment.endpoints.map Entity.endpoint := by
    simp [endpointStage, List.filterMap_map, Function.comp_def]
  have hnode : (nodeStage deployment).makes = some .node := rfl
  have hexecutor : (executorStage target deployment.subscriptions.length).makes =
    some .executor := rfl
  rw [made, stages, List.filterMap_cons_some hnode, List.filterMap_append, hendpoints, creation,
    List.cons_prefix_cons]
  refine ⟨rfl, (List.prefix_append_right_inj _).mpr ?_⟩
  unfold executorStages
  split
  · exact List.nil_prefix
  · rw [List.filterMap_cons_some hexecutor, hadd]

lemma made_isPrefix {done : List Stage} (h : done <+: stages target deployment) :
    made done <+: creation deployment :=
  (h.filterMap Stage.makes).trans (made_stages_isPrefix deployment)

/-- Going backwards through a list and keeping what is in a first part of it. -/
lemma reverse_filter_mem {α : Type} [DecidableEq α] {l first : List α} (hl : l.Nodup)
    (hfirst : first <+: l) : l.reverse.filter (· ∈ first) = first.reverse := by
  obtain ⟨rest, rfl⟩ := hfirst
  have hrest : rest.reverse.filter (· ∈ first) = [] := by
    rw [List.filter_eq_nil_iff]
    intro a ha hmem
    exact List.disjoint_of_nodup_append hl (of_decide_eq_true hmem) (List.mem_reverse.mp ha)
  have hkeep : first.reverse.filter (· ∈ first) = first.reverse := by
    rw [List.filter_eq_self]
    intro a ha
    exact decide_eq_true (List.mem_reverse.mp ha)
  rw [List.reverse_append, List.filter_append, hrest, hkeep, List.nil_append]

lemma finiCall_injective (hdistinct : DistinctMembers deployment) {entity entity' : Entity}
    (hmem : entity ∈ creation deployment) (hmem' : entity' ∈ creation deployment)
    (heq : entity.finiCall = entity'.finiCall) : entity = entity' := by
  cases entity <;> cases entity' <;> simp only [Entity.finiCall, reduceCtorEq] at heq
  · rfl
  · refine flag_injective hdistinct hmem hmem' ?_
    rw [RclCall.endpointFini.injEq] at heq
    rw [Entity.flag, Entity.flag, Endpoint.flag, Endpoint.flag, heq.2]
  · rfl

lemma finiCalls_nodup (hdistinct : DistinctMembers deployment) {existing : List Entity}
    (hexisting : existing <+: creation deployment) : (finiCalls existing).Nodup := by
  rw [finiCalls]
  refine List.Nodup.map_on (fun a ha b hb heq => ?_) ?_
  · exact finiCall_injective hdistinct (hexisting.subset (List.mem_reverse.mp ha))
      (hexisting.subset (List.mem_reverse.mp hb)) heq
  · exact List.nodup_reverse.mpr (hexisting.sublist.nodup (creation_nodup _))

end Entities

end Ros2Zephyr
