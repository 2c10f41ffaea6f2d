import Ros2Zephyr.Deployment.Cleanup

/-!
# The setup function

`ros2z_deployment_init` goes through the stages of its deployment.

* `After` — the state after some stages: the variables in scope, and the flags of what was made.
* `Failed` — the end of a setup in which a stage failed.
* `Running.ends_call` — one stage, and `ends_stages` a list of them.
* `runInit_finished` — a whole setup, up to its end or to the first failure.
-/

namespace Ros2Zephyr

open CLang

section Init

variable {run : SetupRun} {depth : ℕ} {s : State (List RclCall)} {done : List Stage} {stage : Stage}
  {existing : List Entity}

/-- The variables in scope in the setup function. -/
structure Scope (run : SetupRun) (s : State (List RclCall)) : Prop extends Frame run s where
  support : s.locals "support" = some (.object "support")
  allocator : s.locals "allocator" = some (.object "allocator")

/-- After the stages `done`, with the flags of the entities that exist. -/
structure Running (run : SetupRun) (done : List Stage) (existing : List Entity)
    (s : State (List RclCall)) : Prop where
  scope : Scope run s
  result : s.locals "result" = some (.int 0)
  flags : Flags run existing s
  world : s.world = done.map Stage.call
  ok : ∀ i < done.length, run.results i = 0

/-- The setup came to an end at a stage that failed, and what was made before it is finalised.  Its
flags stay. -/
def Failed (run : SetupRun) (v : Value) (s : State (List RclCall)) : Prop :=
  ∃ done stage, done ++ [stage] <+: stages run.target run.deployment ∧
    (∀ i < done.length, run.results i = 0) ∧ run.results done.length ≠ 0 ∧
    v = .int (run.results done.length) ∧
    s.world = (done ++ [stage]).map Stage.call ++ finiCalls (made done) ∧
    Flags run (made done) s

/-- The stages `done` are complete. -/
abbrev After (run : SetupRun) (done : List Stage) (s : State (List RclCall)) : Prop :=
  Running run done (made done) s

lemma Scope.setResult (h : Scope run s) (v : Value) :
    Scope run (s.setLocal "result" v) where
  toFrame := h.toFrame.setResult v
  support := by
    rw [State.setLocal_locals_of_ne (by decide)]
    exact h.support
  allocator := by
    rw [State.setLocal_locals_of_ne (by decide)]
    exact h.allocator

lemma Scope.of_locals {s₀ : State (List RclCall)} (h : Scope run s₀) (heq : s.locals = s₀.locals) :
    Scope run s where
  toFrame := h.toFrame.of_locals heq
  support := heq ▸ h.support
  allocator := heq ▸ h.allocator

/-- `result != RCL_RET_OK`. -/
lemma Frame.eval_failed (depth : ℕ) (h : Frame run s) {code : ℤ}
    (hresult : s.locals "result" = some (.int code)) :
    eval run.platform (run.call depth) (.binary .notEqual resultVariable retOk) s =
      some (.ofBool (decide (code ≠ 0)), s) := by
  have hequal : (Value.int code).equal (.int 0) = some (decide (code = 0)) := rfl
  rw [resultVariable, eval_notEqual (eval_local hresult) h.eval_retOk hequal, decide_not]

/-- The cleanup from within the setup function. -/
lemma Frame.eval_fini (h : Frame run s) (hexisting : existing <+: creation run.deployment)
    (hflags : Flags run existing s) :
    eval run.platform (run.call (depth + 1))
      (.toVoid (callOf "ros2z_deployment_fini"
        [.ident "context"])) s =
      some (.int (finiCode run.results s.world.length existing.length),
        { s with world := s.world ++ finiCalls existing }) := by
  rw [eval]
  exact eval_call (evalArgs_cons (eval_local h.context) evalArgs_nil) (h.global (by decide))
    (call_fini hexisting hflags)

lemma Frame.exec_failureStmt_ok (h : Frame run s)
    (hresult : s.locals "result" = some (.int 0)) :
    exec run.platform (run.call depth) failureStmt s = some (.next, s) :=
  exec_branch_false (h.eval_failed depth hresult) rfl rfl

lemma Frame.exec_failureStmt_failed (h : Frame run s) {code : ℤ}
    (hresult : s.locals "result" = some (.int code)) (hcode : code ≠ 0)
    (hexisting : existing <+: creation run.deployment) (hflags : Flags run existing s) :
    exec run.platform (run.call (depth + 1)) failureStmt s =
      some (.returned (.int code), { s with world := s.world ++ finiCalls existing }) := by
  have hcond := h.eval_failed (depth + 1) hresult
  rw [decide_eq_true hcode] at hcond
  rw [failureStmt, exec_branch_true hcond rfl rfl,
    execBlock_next (exec_expr (h.eval_fini hexisting hflags))]
  exact execBlock_returned (exec_ret (eval_local hresult))

/-- **One stage.**  The setup goes on after a call that succeeded; after one that failed it has
finalised what exists and returned the code of the call. -/
theorem Running.ends_call (h : After run done s)
    (hnext : done ++ [stage] <+: stages run.target run.deployment) {function : PyStr}
    {args : List Expr} {values : List Value}
    (hargs : evalArgs run.platform (run.call (depth + 1)) args s = some (values, s))
    (hcall : rclCall run.target function values = some stage.call) :
    Ends run.platform (run.call (depth + 1)) [callStmt function args, failureStmt] s
      (Post (Running run (done ++ [stage]) (made done)) (Failed run)) := by
  have hlength : s.world.length = done.length := by rw [h.world, List.length_map]
  have hworld : s.world ++ [stage.call] = (done ++ [stage]).map Stage.call := by
    rw [h.world, List.map_append, List.map_singleton]
  have heval := h.scope.toFrame.eval_rcl hargs hcall
  rw [hlength] at heval
  refine Ends.next (exec_assign h.result heval) ?_
  have hscope : Scope run (State.setLocal { s with world := s.world ++ [stage.call] }
      "result" (.int (run.results done.length))) :=
    (h.scope.setResult _).of_locals rfl
  by_cases hresult : run.results done.length = 0
  · rw [hresult] at hscope ⊢
    refine Ends.next (hscope.exec_failureStmt_ok State.setLocal_locals_self) (Ends.nil ?_)
    refine ⟨hscope, State.setLocal_locals_self, h.flags, hworld, ?_⟩
    rw [List.length_append, List.length_singleton, Nat.forall_lt_succ_right]
    exact ⟨h.ok, hresult⟩
  · have hexisting := made_isPrefix ((List.prefix_append done [stage]).trans hnext)
    refine Ends.returned (hscope.exec_failureStmt_failed State.setLocal_locals_self hresult
      hexisting h.flags) ⟨done, stage, hnext, h.ok, hresult, rfl, ?_, h.flags⟩
    exact congrArg (· ++ finiCalls (made done)) hworld

lemma flag_ne_depth (entity : Entity) : entity.flag ≠ "depth" := by
  cases entity with
  | node => decide
  | executor => decide
  | endpoint endpoint =>
      intro heq
      have hlength := congrArg List.length heq
      rw [Entity.flag, Endpoint.flag, List.length_append] at hlength
      have hflag : (PyStr.ofString "_initialized").length = 12 := rfl
      have hdepth : (PyStr.ofString "depth").length = 5 := rfl
      omega

lemma Running.exec_setFlag (depth : ℕ) (h : Running run done existing s)
    (hdistinct : DistinctMembers run.deployment) {entity : Entity}
    (hmem : entity ∈ creation run.deployment) :
    ∃ s', exec run.platform (run.call depth) (setFlag entity.flag) s = some (.next, s') ∧
      Running run done (existing ++ [entity]) s' := by
  have hconvert : run.platform.convert entity.flag (.int 1) = .int 1 := by
    simp [SetupRun.platform, rclPlatform, flag_ne_depth]
  have htrue : IsGlobal "true" := by decide
  have hexec : exec run.platform (run.call depth) (setFlag entity.flag) s = some (.next,
      s.setMember "context" entity.flag
        (run.platform.convert entity.flag (.int 1))) :=
    exec_assign_arrow (eval_local h.scope.context) (h.scope.eval_constant htrue rfl)
  rw [hconvert] at hexec
  refine ⟨_, hexec, h.scope.of_locals rfl, h.result, fun other hother => ?_, h.world, h.ok⟩
  by_cases heq : other = entity
  · subst heq
    rw [State.setMember_members_self]
    simp [Value.ofBool]
  · have hne : other.flag ≠ entity.flag := fun hflag =>
    heq (flag_injective hdistinct hother hmem hflag)
    rw [State.setMember_members_of_ne hne, h.flags other hother]
    simp [heq]

/-- A stage that makes an entity. -/
theorem Running.ends_making (h : After run done s)
    (hdistinct : DistinctMembers run.deployment)
    (hnext : done ++ [stage] <+: stages run.target run.deployment) {entity : Entity}
    (hmakes : stage.makes = some entity) {function : PyStr} {args : List Expr} {values : List Value}
    (hargs : evalArgs run.platform (run.call (depth + 1)) args s = some (values, s))
    (hcall : rclCall run.target function values = some stage.call) :
    Ends run.platform (run.call (depth + 1))
      [callStmt function args, failureStmt, setFlag entity.flag] s
      (Post (After run (done ++ [stage])) (Failed run)) := by
  have hmade : made (done ++ [stage]) = made done ++ [entity] := by simp [made, hmakes]
  have hmem : entity ∈ creation run.deployment := by
    refine (made_isPrefix hnext).subset ?_
    simp [hmade]
  change Ends _ _ ([callStmt function args, failureStmt] ++ [setFlag entity.flag]) _ _
  refine (h.ends_call hnext hargs hcall).append (fun t ht => ?_) (fun _ _ hfailed => hfailed)
  obtain ⟨t', hexec, ht'⟩ := ht.exec_setFlag (depth + 1) hdistinct hmem
  refine Ends.next hexec (Ends.nil (?_ : After run (done ++ [stage]) t'))
  rwa [After, hmade]

/-- A stage that makes nothing. -/
theorem Running.ends_plain (h : After run done s)
    (hnext : done ++ [stage] <+: stages run.target run.deployment) (hmakes : stage.makes = none)
    {function : PyStr} {args : List Expr} {values : List Value}
    (hargs : evalArgs run.platform (run.call (depth + 1)) args s = some (values, s))
    (hcall : rclCall run.target function values = some stage.call) :
    Ends run.platform (run.call (depth + 1)) [callStmt function args, failureStmt] s
      (Post (After run (done ++ [stage])) (Failed run)) := by
  have hmade : made (done ++ [stage]) = made done := by simp [made, hmakes]
  have hends := h.ends_call hnext hargs hcall
  rwa [← hmade] at hends

end Init

section Endpoints

variable {run : SetupRun} {depth : ℕ} {s : State (List RclCall)} {done : List Stage}
  {existing : List Entity} {endpoint : Endpoint}

lemma qosVariable_ne {name : PyStr} (hname : name.head? ≠ some 'q'.toNat) :
    name ≠ endpoint.qosVariable := by
  rintro rfl
  exact hname rfl

/-- The QoS variable of an endpoint is a variable of its own. -/
lemma Running.setQos (h : Running run done existing s) (hmem : endpoint ∈ run.deployment.endpoints)
    (v : Value) : Running run done existing (s.setLocal endpoint.qosVariable v) where
  scope :=
    { context := by
        rw [State.setLocal_locals_of_ne (qosVariable_ne (by decide))]
        exact h.scope.context
      free := fun name hname hqos => by
        rw [State.setLocal_locals_of_ne (hqos endpoint hmem)]
        exact h.scope.free name hname hqos
      support := by
        rw [State.setLocal_locals_of_ne (qosVariable_ne (by decide))]
        exact h.scope.support
      allocator := by
        rw [State.setLocal_locals_of_ne (qosVariable_ne (by decide))]
        exact h.scope.allocator }
  result := by
    rw [State.setLocal_locals_of_ne (qosVariable_ne (by decide))]
    exact h.result
  flags := h.flags
  world := h.world
  ok := h.ok

/-- One assignment to a member of the QoS variable. -/
lemma Running.exec_qosAssign (depth : ℕ) (member : PyStr) (h : Running run done existing s)
    (hmem : endpoint ∈ run.deployment.endpoints) {fields : PyStr → Value}
    (hlocal : s.locals endpoint.qosVariable = some (.struct fields)) {value : Expr} {v : Value}
    (hvalue : eval run.platform (run.call depth) value s = some (v, s)) :
    ∃ s', exec run.platform (run.call depth) (qosAssign endpoint member value) s =
        some (.next, s') ∧ Running run done existing s' ∧
      s'.locals endpoint.qosVariable =
        some (.struct (Function.update fields member (run.platform.convert member v))) :=
  ⟨_, exec_assign_dot hvalue hlocal, h.setQos hmem _, State.setLocal_locals_self⟩

lemma reliability_constant (target : RclTarget) (r : Reliability) :
    IsGlobal ("RMW_QOS_POLICY_RELIABILITY_" ++ r.text) ∧
      (rclConstants target).lookup ("RMW_QOS_POLICY_RELIABILITY_" ++ r.text) =
        some (.const r.policy) := by
  cases r with
  | bestEffort => exact ⟨by decide, rfl⟩
  | reliable => exact ⟨by decide, rfl⟩

lemma durability_constant (target : RclTarget) (d : Durability) :
    IsGlobal ("RMW_QOS_POLICY_DURABILITY_" ++ d.text) ∧
      (rclConstants target).lookup ("RMW_QOS_POLICY_DURABILITY_" ++ d.text) =
        some (.const d.policy) := by
  cases d with
  | volatile => exact ⟨by decide, rfl⟩
  | transientLocal => exact ⟨by decide, rfl⟩

/-- **The profile of an endpoint** has the four values that are declared for it. -/
lemma Running.ends_qosBody (h : Running run done existing s)
    (hmem : endpoint ∈ run.deployment.endpoints) :
    Ends run.platform (run.call depth) (qosBody endpoint) s
      (Post (fun t => Running run done existing t ∧ ∃ fields,
        t.locals endpoint.qosVariable = some (.struct fields) ∧
          profileOf fields = some (endpoint.qos.profile run.target)) fun _ _ => False) := by
  obtain ⟨hr, hreliability⟩ := reliability_constant run.target endpoint.qos.reliability
  obtain ⟨hd, hdurability⟩ := durability_constant run.target endpoint.qos.durability
  have hhistory : IsGlobal "RMW_QOS_POLICY_HISTORY_KEEP_LAST" := by decide
  have h₀ := h.setQos hmem (.struct run.target.qosDefault)
  refine Ends.next (exec_declare (h.scope.eval_constant (by decide) rfl)) ?_
  obtain ⟨s₁, hexec, h₁, hlocal⟩ := h₀.exec_qosAssign depth "reliability" hmem
    State.setLocal_locals_self (h₀.scope.eval_constant hr hreliability)
  refine Ends.next hexec ?_
  obtain ⟨s₂, hexec, h₂, hlocal⟩ := h₁.exec_qosAssign depth "durability" hmem hlocal
    (h₁.scope.eval_constant hd hdurability)
  refine Ends.next hexec ?_
  obtain ⟨s₃, hexec, h₃, hlocal⟩ := h₂.exec_qosAssign depth "history" hmem hlocal
    (h₂.scope.eval_constant hhistory rfl)
  refine Ends.next hexec ?_
  obtain ⟨s₄, hexec, h₄, hlocal⟩ := h₃.exec_qosAssign depth "depth" hmem hlocal
    (eval_number endpoint.qos.depth)
  exact Ends.next hexec (Ends.nil ⟨h₄, _, hlocal, rfl⟩)

/-- The type support handle of an endpoint is the one of its message type. -/
lemma eval_typeSupportExpr (type : MessageType) (builtin : Bool) :
    ∃ v, eval run.platform (run.call depth) (typeSupportExpr builtin type) s = some (v, s) ∧
      typeSupportOf v = some (type.package, type.message) := by
  unfold typeSupportExpr
  split
  next hbuiltin =>
    simp only [Bool.and_eq_true, beq_iff_eq] at hbuiltin
    obtain ⟨hpackage, hmessage⟩ :=
      MessageType.eq_of_text "std_msgs" (by decide) hbuiltin.2
    rw [hpackage, hmessage]
    exact ⟨_, rfl, rfl⟩
  next =>
    refine ⟨_, rfl, ?_⟩
    simp [typeSupportOf, word?_classify]

/-- The call that creates an endpoint is the one of its stage. -/
lemma rclCall_endpointInit {target : RclTarget} (endpoint : Endpoint) {type : Value}
    {fields : PyStr → Value}
    (htype : typeSupportOf type = some (endpoint.type.package, endpoint.type.message))
    (hqos : profileOf fields = some (endpoint.qos.profile target)) :
    rclCall target (fstring ["rclc_", endpoint.kind.text, "_init"])
      [.member "context" endpoint.handle,
        .member "context" "node", type,
          .str (denoted endpoint.topic),
        .pointer (.struct fields)] = some (endpointStage target endpoint).call := by
  have hread : ∀ kind, readEndpointInit kind
      [.member "context" endpoint.handle,
        .member "context" "node", type,
          .str (denoted endpoint.topic),
        .pointer (.struct fields)] =
      some (.endpointInit kind endpoint.handle endpoint.type.package endpoint.type.message
        (cString (denoted endpoint.topic)) (endpoint.qos.profile target)) := by
    intro kind
    simp [readEndpointInit, handleOf, expectHandle, htype, hqos]
  rw [endpointStage]
  cases endpoint.kind with
  | publisher => exact hread .publisher
  | subscription callback => exact hread .subscription

/-- **The setup of one endpoint.** -/
theorem Running.ends_endpointInitBody (h : After run done s)
    (hdistinct : DistinctMembers run.deployment)
    (hmem : endpoint ∈ run.deployment.endpoints) (builtin : Bool)
    (hnext : done ++ [endpointStage run.target endpoint] <+: stages run.target run.deployment) :
    Ends run.platform (run.call (depth + 1)) (endpointInitBody builtin endpoint) s
      (Post (After run (done ++ [endpointStage run.target endpoint])) (Failed run)) := by
  refine (h.ends_qosBody hmem).append (fun t ht => ?_) (fun _ _ hfalse => hfalse.elim)
  obtain ⟨ht, fields, hlocal, hqos⟩ := ht
  obtain ⟨type, htype, htypeSupport⟩ := eval_typeSupportExpr endpoint.type builtin
  refine ht.ends_making hdistinct hnext rfl ?_ (rclCall_endpointInit endpoint htypeSupport hqos)
  exact evalArgs_cons (ht.scope.eval_addr_contextMember _ _)
    (evalArgs_cons (ht.scope.eval_addr_contextMember _ _) (evalArgs_cons htype
      (evalArgs_cons (eval_str _) (evalArgs_cons (eval_addr_local hlocal) evalArgs_nil))))

end Endpoints

section Executor

variable {run : SetupRun} {depth : ℕ} {s : State (List RclCall)} {done : List Stage}
  {headers : RosHeaders}

/-- The setup of the executor. -/
theorem Running.ends_executorInitBody (h : After run done s)
    (hdistinct : DistinctMembers run.deployment) (subscriptions : ℕ)
    (hnext : done ++ [executorStage run.target subscriptions] <+:
      stages run.target run.deployment) :
    Ends run.platform (run.call (depth + 1)) (executorInitBody subscriptions) s
      (Post (After run (done ++ [executorStage run.target subscriptions])) (Failed run)) := by
  have hsupport : eval run.platform (run.call (depth + 1))
      (.addr (.arrow (.ident "support") "context")) s =
      some (.member "support" "context", s) := by
    simp [eval, h.scope.support]
  have hargs :=
    evalArgs_cons (h.scope.eval_addr_contextMember (depth + 1) "executor")
    (evalArgs_cons hsupport (evalArgs_cons (eval_number subscriptions)
      (evalArgs_cons (eval_local h.scope.allocator) evalArgs_nil)))
  have hmakes : (executorStage run.target subscriptions).makes = some .executor := rfl
  exact h.ends_making hdistinct hnext hmakes hargs rfl

lemma lookup_rclConstants {target : RclTarget} {name : PyStr} (hobject : name ∉ objectMacros)
    (hname : name ∉ usedNames) : (rclConstants target).lookup name = none := by
  have hsubset : (rclConstants target).map Prod.fst ⊆ objectMacros ++ usedNames :=
    show ([PyStr.ofString "RCL_RET_OK", "RCL_RET_ERROR", "RCL_RET_INVALID_ARGUMENT", "NULL", "true",
      "rmw_qos_profile_default"] ++ policies : List PyStr) ⊆ objectMacros ++ usedNames by decide
  rw [List.lookup_eq_none_iff]
  intro entry hentry
  rw [bne_iff_ne]
  rintro rfl
  exact (List.mem_append.mp (hsubset (List.mem_map_of_mem hentry))).elim hobject hname

/-- A callback is the function of its name. -/
lemma Frame.eval_callback (h : Frame run s)
    (hbuildable : Buildable headers run.deployment run.backend)
    {subscription : Endpoint × Callback} (hmem : subscription ∈ run.deployment.subscriptions) :
    eval run.platform (run.call depth) (.ident subscription.2.name) s =
      some (.function subscription.2.name, s) := by
  obtain ⟨-, ⟨hmacros, -, hnames⟩, ⟨-, -, hvariables⟩, hqos⟩ :=
    hbuildable.callbacks subscription hmem
  have hlocal : s.locals subscription.2.name = none := h.free _ hvariables hqos
  have hconstant : run.platform.constant subscription.2.name = none :=
    lookup_rclConstants (fun hobject => hmacros (headers.macros_used hobject))
      fun hname => hnames (headers.names_used hname)
  simp [eval, hlocal, hconstant]

/-- One subscription is added to the executor. -/
theorem Running.ends_addSubscriptionBody (h : After run done s)
    (hbuildable : Buildable headers run.deployment run.backend)
    {subscription : Endpoint × Callback} (hmem : subscription ∈ run.deployment.subscriptions)
    (hnext : done ++ [addSubscriptionStage subscription] <+: stages run.target run.deployment) :
    Ends run.platform (run.call (depth + 1)) (addSubscriptionBody subscription) s
      (Post (After run (done ++ [addSubscriptionStage subscription])) (Failed run)) := by
  have hhandle : subscription.1.handle = "subscription_" ++ subscription.1.id := by
    rw [Endpoint.handle, (mem_subscriptions.mp hmem).2]
    rfl
  have hmode : IsGlobal "ON_NEW_DATA" := by decide
  have hargs :=
    evalArgs_cons (h.scope.eval_addr_contextMember (depth + 1) "executor")
    (evalArgs_cons (h.scope.eval_addr_contextMember _ subscription.1.handle)
      (evalArgs_cons (h.scope.eval_addr_contextMember _ subscription.1.buffer)
        (evalArgs_cons (h.scope.eval_callback hbuildable hmem)
          (evalArgs_cons (h.scope.eval_constant hmode rfl) evalArgs_nil))))
  have hmakes : (addSubscriptionStage subscription).makes = none := rfl
  rw [addSubscriptionBody, ← hhandle]
  exact h.ends_plain hnext hmakes hargs rfl

theorem Running.ends_prepareBody (h : After run done s)
    (hnext : done ++ [prepareStage] <+: stages run.target run.deployment) :
    Ends run.platform (run.call (depth + 1)) prepareBody s
      (Post (After run (done ++ [prepareStage])) (Failed run)) := by
  have hargs :=
    evalArgs_cons (h.scope.eval_addr_contextMember (depth + 1) "executor")
    evalArgs_nil
  exact h.ends_plain hnext rfl hargs rfl

end Executor

section Start

variable {run : SetupRun} {depth : ℕ} {s : State (List RclCall)}

/-- Before the first call: every flag is cleared. -/
structure Started (run : SetupRun) (s : State (List RclCall)) : Prop where
  scope : Scope run s
  flags : Flags run [] s
  world : s.world = []

/-- Storing a handle does not touch the flags. -/
lemma Started.setMember (h : Started run s) (hdistinct : DistinctMembers run.deployment)
    {name : PyStr} (hname : name ∈ storage run.deployment) (v : Value) :
    Started run (s.setMember "context" name v) where
  scope := h.scope.of_locals rfl
  flags entity hentity := by
    rw [State.setMember_members_of_ne (storage_ne_flag hdistinct hname hentity)]
    exact h.flags entity hentity
  world := h.world

lemma zeroInitializers_outside : ∀ name ∈ zeroInitializers, IsGlobal name ∧
    name ≠ "memset" ∧ name ≠ "ros2z_deployment_fini" ∧
    name ≠ "ros2z_deployment_init" := by
  decide +kernel

lemma Started.exec_zero (depth : ℕ) (h : Started run s) (hdistinct : DistinctMembers run.deployment)
    {name function : PyStr} (hname : name ∈ storage run.deployment)
    (hfunction : function ∈ zeroInitializers) :
    ∃ s', exec run.platform (run.call depth)
        (.assign (contextMember name) (callOf function [])) s = some (.next, s') ∧
      Started run s' := by
  obtain ⟨hglobal, hmemset, hfini, hinit⟩ := zeroInitializers_outside function hfunction
  have hcall : run.call depth function [] s = some (.const function, s) := by
    rw [SetupRun.call, setupCall, callFile_outside (find?_program hfini hinit)]
    simp [rclHandler, hmemset, hfunction]
  exact ⟨_, exec_assign_arrow (eval_local h.scope.context)
    (eval_call evalArgs_nil (h.scope.global hglobal) hcall), h.setMember hdistinct hname _⟩

/-- The handles are zero-initialised one after the other. -/
lemma ends_zeroStmts (h : Started run s) (hdistinct : DistinctMembers run.deployment) :
    Ends run.platform (run.call depth) (run.deployment.endpoints.map zeroStmt) s
      (Post (Started run) fun _ _ => False) := by
  refine Ends.map (I := fun _ => Started run) (fun before endpoint after hsplit t ht => ?_) h
  have hmem : endpoint ∈ run.deployment.endpoints := by simp [hsplit]
  refine ht.exec_zero depth hdistinct (handle_mem_storage hmem) ?_
  have hpublisher : fstring ["rcl_get_zero_initialized_", "publisher"] ∈ zeroInitializers := by
    decide
  have hsubscription :
      fstring ["rcl_get_zero_initialized_", "subscription"] ∈ zeroInitializers := by
    decide
  cases endpoint.kind with
  | publisher => exact hpublisher
  | subscription callback => exact hsubscription

/-- The parameters are there, and nothing has been called yet. -/
lemma ends_initStartBody (h : Scope run s) (hworld : s.world = [])
    (hdistinct : DistinctMembers run.deployment) :
    Ends run.platform (run.call depth) initStartBody s
      (Post (Started run) fun _ _ => False) := by
  refine Ends.next
    (exec_branch_false (eval_disj_false (eval_disj_false (h.eval_isNull h.context) rfl
    (h.eval_isNull h.support) rfl) rfl (h.eval_isNull h.allocator) rfl) rfl rfl) ?_
  have hmemset : run.call depth "memset"
      [.object "context", .int 0, .size] s =
      some (.object "context", s.clear "context") := by
    rw [SetupRun.call, setupCall, callFile_outside (find?_program (by decide) (by decide))]
    rfl
  have hargs : evalArgs run.platform (run.call depth) [.ident "context", .number 0,
      .size (.deref (.ident "context"))] s =
      some ([.object "context", .int 0, .size], s) :=
    evalArgs_cons (eval_local h.context) (evalArgs_cons (eval_number 0)
      (evalArgs_cons (eval_size _) evalArgs_nil))
  refine Ends.next (exec_expr (eval_call hargs (h.global (by decide)) hmemset)) ?_
  have hstarted : Started run (s.clear "context") := by
    refine ⟨h.of_locals rfl, fun entity _ => ?_, hworld⟩
    simp [State.clear, Value.ofBool]
  obtain ⟨s₁, hexec, h₁⟩ := hstarted.exec_zero depth hdistinct List.mem_cons_self
    (by decide : PyStr.ofString "rcl_get_zero_initialized_node" ∈ zeroInitializers)
  refine Ends.next hexec ?_
  have hexecutor : PyStr.ofString "executor" ∈ storage run.deployment := by simp [storage]
  obtain ⟨s₂, hexec, h₂⟩ := h₁.exec_zero depth hdistinct hexecutor
    (by decide : PyStr.ofString "rclc_executor_get_zero_initialized_executor" ∈ zeroInitializers)
  exact Ends.next hexec (Ends.nil h₂)

/-- **The setup of the node**, the only stage whose failure leaves nothing to finalise. -/
theorem Started.ends_nodeInitBody (h : Started run s) (hdistinct : DistinctMembers run.deployment) :
    Ends run.platform (run.call depth) (nodeInitBody run.deployment) s
      (Post (After run [nodeStage run.deployment]) (Failed run)) := by
  have hnext : [nodeStage run.deployment] <+: stages run.target run.deployment := ⟨_, rfl⟩
  have hargs := evalArgs_cons (h.scope.eval_addr_contextMember depth "node")
    (evalArgs_cons (eval_str run.deployment.nodeName)
      (evalArgs_cons (eval_str (denoted run.deployment.nodeNamespace))
        (evalArgs_cons (eval_local h.scope.support) evalArgs_nil)))
  have hcall : rclCall run.target "rclc_node_init_default"
      [.member "context" "node", .str run.deployment.nodeName,
        .str (denoted run.deployment.nodeNamespace), .object "support"] =
      some (nodeStage run.deployment).call := rfl
  have heval := h.scope.eval_rcl hargs hcall
  rw [h.world, List.length_nil, List.nil_append] at heval
  refine Ends.next (exec_declare heval) ?_
  have hscope : Scope run (State.setLocal { s with world := [(nodeStage run.deployment).call] }
      "result" (.int (run.results 0))) :=
    (h.scope.setResult _).of_locals rfl
  have hcond := hscope.eval_failed depth State.setLocal_locals_self
  by_cases hresult : run.results 0 = 0
  · rw [hresult] at hscope hcond ⊢
    refine Ends.next (exec_branch_false hcond rfl rfl) ?_
    have hrunning : Running run [nodeStage run.deployment] [] _ :=
      ⟨hscope, State.setLocal_locals_self, h.flags, rfl, fun i hi => by
        rw [List.length_singleton, Nat.lt_one_iff] at hi
        rw [hi, hresult]⟩
    obtain ⟨t, hexec, ht⟩ := hrunning.exec_setFlag depth hdistinct List.mem_cons_self
    exact Ends.next hexec (Ends.nil ht)
  · rw [decide_eq_true hresult] at hcond
    refine Ends.returned ((exec_branch_true hcond rfl rfl).trans
      (execBlock_returned (exec_ret (eval_local State.setLocal_locals_self)))) ?_
    exact ⟨[], nodeStage run.deployment, hnext, by simp, hresult, rfl, rfl, h.flags⟩

end Start

section Whole

variable {run : SetupRun} {depth : ℕ} {s : State (List RclCall)} {done : List Stage}
  {headers : RosHeaders}

/-- **Stage after stage.** -/
theorem ends_stages {α : Type} {l : List α} {f : α → List Stmt} {stage : α → Stage}
    (hall : done ++ l.map stage <+: stages run.target run.deployment)
    (hstep : ∀ a ∈ l, ∀ done t, done ++ [stage a] <+: stages run.target run.deployment →
      After run done t → Ends run.platform (run.call depth) (f a) t
        (Post (After run (done ++ [stage a])) (Failed run)))
    (h : After run done s) :
    Ends run.platform (run.call depth) (l.flatMap f) s
      (Post (After run (done ++ l.map stage)) (Failed run)) := by
  refine Ends.flatMap (I := fun before => After run (done ++ before.map stage)) ?_
    (by simpa using h)
  intro before a after hsplit t ht
  have hnext : done ++ before.map stage ++ [stage a] <+: stages run.target run.deployment := by
    refine List.IsPrefix.trans ⟨after.map stage, ?_⟩ hall
    simp [hsplit]
  have hbody := hstep a (by simp [hsplit]) _ t hnext ht
  rwa [List.append_assoc, ← List.map_singleton, ← List.map_append] at hbody

lemma ends_endpoints (hdistinct : DistinctMembers run.deployment) (builtin : Bool)
    (h : After run [nodeStage run.deployment] s) :
    Ends run.platform (run.call (depth + 1))
      (run.deployment.endpoints.flatMap (endpointInitBody builtin)) s
      (Post (After run ([nodeStage run.deployment] ++
        run.deployment.endpoints.map (endpointStage run.target))) (Failed run)) := by
  refine ends_stages ⟨executorStages run.target run.deployment, by simp [stages]⟩ ?_ h
  intro endpoint hmem done t hnext ht
  exact ht.ends_endpointInitBody hdistinct hmem builtin hnext

/-- The executor's part of the setup: nothing without subscriptions, otherwise its three kinds of
stages. -/
lemma ends_executorBody (hdistinct : DistinctMembers run.deployment)
    (hbuildable : Buildable headers run.deployment run.backend)
    (hstages : stages run.target run.deployment = done ++ executorStages run.target run.deployment)
    (h : After run done s) :
    Ends run.platform (run.call (depth + 1)) (executorBody run.deployment) s
      (Post (After run (stages run.target run.deployment)) (Failed run)) := by
  unfold executorBody
  unfold executorStages at hstages
  split
  next hempty =>
    rw [if_pos hempty, List.append_nil] at hstages
    rw [hstages]
    exact Ends.nil h
  next hsubscriptions =>
    rw [if_neg hsubscriptions] at hstages
    rw [List.append_assoc]
    have hinit : done ++ [executorStage run.target run.deployment.subscriptions.length] <+:
        stages run.target run.deployment :=
      ⟨run.deployment.subscriptions.map addSubscriptionStage ++ [prepareStage], by simp [hstages]⟩
    refine (h.ends_executorInitBody hdistinct _ hinit).append (fun t ht => ?_)
      (fun _ _ hfailed => hfailed)
    have hadd : done ++ [executorStage run.target run.deployment.subscriptions.length] ++
        run.deployment.subscriptions.map addSubscriptionStage <+:
        stages run.target run.deployment :=
      ⟨[prepareStage], by simp [hstages]⟩
    refine (ends_stages hadd (fun _ hmem _ _ hnext ht =>
      ht.ends_addSubscriptionBody hbuildable hmem hnext) ht).append (fun t ht => ?_)
      (fun _ _ hfailed => hfailed)
    have hprepare : done ++ [executorStage run.target run.deployment.subscriptions.length] ++
        run.deployment.subscriptions.map addSubscriptionStage ++ [prepareStage] =
        stages run.target run.deployment := by
      simp [hstages]
    rw [← hprepare]
    exact ht.ends_prepareBody (hprepare ▸ List.prefix_rfl)

/-- What a setup returns and leaves behind. -/
def Finished (run : SetupRun) (v : Value) (s : State (List RclCall)) : Prop :=
  (v = .int 0 ∧ After run (stages run.target run.deployment) s) ∨ Failed run v s

/-- The whole body, from the tests of the parameters to the return. -/
lemma ends_initBody (depth : ℕ) (hdistinct : DistinctMembers run.deployment)
    (hbuildable : Buildable headers run.deployment run.backend) (builtin : Bool) (h : Scope run s)
    (hworld : s.world = []) :
    Ends run.platform (run.call (depth + 1)) (initBody run.deployment builtin) s
      (Post (fun _ => False) (Finished run)) := by
  simp only [initBody, List.append_assoc]
  refine (ends_initStartBody h hworld hdistinct).append (fun t ht => ?_) (fun _ _ hf => hf.elim)
  refine (ends_zeroStmts ht hdistinct).append (fun t ht => ?_) (fun _ _ hf => hf.elim)
  refine (ht.ends_nodeInitBody hdistinct).append (fun t ht => ?_) (fun _ _ hf => .inr hf)
  refine (ends_endpoints hdistinct builtin ht).append (fun t ht => ?_)
    (fun _ _ hf => .inr hf)
  refine (ends_executorBody hdistinct hbuildable rfl ht).append (fun t ht => ?_)
    (fun _ _ hf => .inr hf)
  exact Ends.returned (exec_ret ht.scope.eval_retOk) (.inl ⟨rfl, ht⟩)

/-- The parameters of the setup function. -/
lemma scope_start (run : SetupRun) (builtin : Bool) (members : PyStr → PyStr → Value) :
    Scope run ⟨fun x => ((initFunction run.deployment builtin).params.zip
      [.object "context", .object "support",
        .object "allocator"]).lookup x, members, []⟩ where
  context := rfl
  support := rfl
  allocator := rfl
  free name hname _ := by
    simp only [initVariables, List.mem_cons, List.not_mem_nil, or_false, not_or] at hname
    simp [initFunction, hname]

/-- **The setup function** on a context with any content. -/
theorem runInit_finished (run : SetupRun) (depth : ℕ) (hdistinct : DistinctMembers run.deployment)
    (hbuildable : Buildable headers run.deployment run.backend) (members : PyStr → PyStr → Value) :
    ∃ v s, Finished run v s ∧ runInit run.target run.results run.program depth members =
      some (v, { s with locals := fun _ => none }) := by
  have hfind : run.program.find? (·.name = PyStr.ofString "ros2z_deployment_init") =
      some (initFunction run.deployment (builtinUint32 run.deployment run.backend)) := rfl
  have hscope := scope_start run (builtinUint32 run.deployment run.backend) members
  have hends := ends_initBody depth hdistinct hbuildable
    (builtinUint32 run.deployment run.backend) hscope rfl
  exact callFile_of_ends (rclHandler run.target run.results) run.program
    ⟨fun _ => none, members, []⟩ hfind rfl hends

/-- The setup function when every call succeeds. -/
lemma runInit_ok (run : SetupRun) (depth : ℕ) (hdistinct : DistinctMembers run.deployment)
    (hbuildable : Buildable headers run.deployment run.backend) (members : PyStr → PyStr → Value)
    (hok : ∀ i < (stages run.target run.deployment).length, run.results i = 0) :
    ∃ s, runInit run.target run.results run.program depth members = some (.int 0, s) ∧
      s.world = (stages run.target run.deployment).map Stage.call ∧
      Flags run (made (stages run.target run.deployment)) s := by
  obtain ⟨v, s, hfinished, hinit⟩ := runInit_finished run depth hdistinct hbuildable members
  obtain ⟨rfl, hafter⟩ | ⟨done, stage, hall, -, hfail, -⟩ := hfinished
  · exact ⟨_, hinit, hafter.world, hafter.flags⟩
  · have hlength := hall.length_le
    rw [List.length_append, List.length_singleton] at hlength
    exact absurd (hok _ hlength) hfail

/-- Where the first failing call is known, so is everything that was called. -/
lemma Failed.at {v : Value} (h : Failed run v s) {k : ℕ} (hok : ∀ i < k, run.results i = 0)
    (hfail : run.results k ≠ 0) :
    v = .int (run.results k) ∧
      s.world = ((stages run.target run.deployment).take (k + 1)).map Stage.call ++
        finiCalls (made ((stages run.target run.deployment).take k)) ∧
      Flags run (made ((stages run.target run.deployment).take k)) s := by
  obtain ⟨done, stage, hall, hdone, hfailed, rfl, hworld, hflags⟩ := h
  have hk : done.length = k := by
    rcases Nat.lt_trichotomy done.length k with hlt | heq | hlt
    · exact absurd (hok _ hlt) hfailed
    · exact heq
    · exact absurd (hdone _ hlt) hfail
  have htake := List.prefix_iff_eq_take.mp ((List.prefix_append done [stage]).trans hall)
  have htake' := List.prefix_iff_eq_take.mp hall
  rw [List.length_append, List.length_singleton, hk] at htake'
  rw [hk] at htake
  rw [hworld, ← htake', ← htake, hk]
  exact ⟨rfl, rfl, hflags⟩

end Whole

section Accepted

/-- The reading of `samples/loopback/deployment.json`. -/
def loopback : Deployment := (Deployment.ofFields loopbackDeployment).get (by decide +kernel)

lemma ofFields_loopbackDeployment : Deployment.ofFields loopbackDeployment = some loopback :=
  (Option.some_get _).symm

lemma sampleWords_free : ∀ word ∈ fixedWords, word ∉ objectMacros := by decide +kernel

lemma sampleNames_free : ∀ name ∈ ownNames,
    name ∉ usedTypes ++ [PyStr.ofString "ros2_zephyr_test_msgs__msg__NestedFixed"] ∧
      name ∉ usedNames := by
  decide +kernel

/-- Headers with what the samples need and nothing else. -/
def sampleHeaders : RosHeaders where
  files := fixedFiles ++ ([introspectionPath, "ros2_zephyr_test_msgs/msg/nested_fixed.h",
    "p/msg/m.h"] : List PyStr)
  macros := objectMacros
  types := usedTypes ++ [PyStr.ofString "ros2_zephyr_test_msgs__msg__NestedFixed"]
  names := usedNames
  files_fixed := List.subset_append_left _ _
  macros_used := List.Subset.refl _
  types_used := List.subset_append_left _ _
  names_used := List.Subset.refl _
  words_free := sampleWords_free
  names_free := sampleNames_free

lemma loopback_quotable : Quotable loopback := by decide +kernel

lemma loopback_distinctMembers : DistinctMembers loopback := by decide +kernel

/-- The loopback sample can be built with the sample headers. -/
lemma loopback_buildable (backend : PyStr) : Buildable sampleHeaders loopback backend where
  files := by decide +kernel
  introspection _ := by decide +kernel
  messages := by decide +kernel
  words := by decide +kernel
  callbacks := by
    have hcallbacks : ∀ subscription ∈ loopback.subscriptions,
        IsName subscription.2.name ∧
        (subscription.2.name ∉ sampleHeaders.macros ∧ subscription.2.name ∉ sampleHeaders.types ∧
          subscription.2.name ∉ sampleHeaders.names) ∧
        (subscription.2.name ≠ guardMacro ∧ subscription.2.name ∉ ownNames ∧
          subscription.2.name ∉ initVariables) ∧
        ∀ endpoint ∈ loopback.endpoints, subscription.2.name ≠ endpoint.qosVariable := by
      decide +kernel
    intro subscription hmem
    obtain ⟨hname, houtside, hown, hqos⟩ := hcallbacks subscription hmem
    exact ⟨hname, houtside, hown, hqos⟩
  depths := by decide +kernel
  capacity := by decide +kernel

/-- A 32-bit target. -/
def target32 : RclTarget := ⟨32, fun _ => .null⟩

/-- A deployment with one publisher. -/
def publisherDeployment (topic : PyStr) : Fields :=
  [("schema_version", .int 2),
    ("name", .str "publisher"),
    ("domain_id", .int 0),
    ("node", .obj [("name", .str "n"), ("namespace", .str "")]),
    ("rmw", .arr [.str "rmw_cyclonedds_c"]),
    ("message_profile", .str "fixed_size"),
    ("graph", .obj [("outbound", .bool false), ("inbound", .bool false), ("api", .arr [])]),
    ("resources", .obj [
      ("local_endpoints", .int 1),
      ("remote", .obj [("participants", .int 0), ("nodes", .int 0), ("endpoints", .int 0)]),
      ("workers", .obj [("maximum", .int 8)]),
      ("application", .obj [("static_reserve_bytes", .int 0)]),
      ("targets", .obj [("t", .obj [("flash_bytes", .int 1), ("ram_bytes", .int 1)])])]),
    ("endpoints", .arr [.obj [
      ("id", .str "a"), ("kind", .str "publisher"), ("topic", .str topic), ("type", .str "p/msg/M"),
      ("qos", .obj [("reliability", .str "reliable"), ("durability", .str "volatile"),
        ("history", .str "keep_last"), ("depth", .int 5)]),
      ("lifetime", .str "fixed_startup")]])]

/-- A topic that ends its literal and goes on with code. -/
def injectingTopic : PyStr :=
  fstring ["t\", &qos_a); (void)ros2z_deployment_fini(context); ",
    "result = rclc_publisher_init(&context->publisher_a, &context->node, ",
    "ROSIDL_GET_MSG_TYPE_SUPPORT(p, msg, M), \"t"]

def injecting : Deployment :=
  (Deployment.ofFields (publisherDeployment injectingTopic)).get (by decide +kernel)

/-- The same deployment with another namespace. -/
def namespaceDeployment (ns topic : PyStr) : Fields :=
  (publisherDeployment topic).map fun field =>
    if field.1 = PyStr.ofString "node" then
      (field.1, .obj [("name", .str "n"), ("namespace", .str ns)])
    else field

/-- A namespace that writes out the code up to the topic and starts a comment, which the topic
ends. -/
def restatingNamespace : PyStr :=
  fstring ["/x\", support); if (result != RCL_RET_OK) \x7b return result; \x7d ",
    "context->node_initialized = true; rmw_qos_profile_t qos_a = rmw_qos_profile_default; ",
    "qos_a.reliability = RMW_QOS_POLICY_RELIABILITY_RELIABLE; ",
    "qos_a.durability = RMW_QOS_POLICY_DURABILITY_VOLATILE; ",
    "qos_a.history = RMW_QOS_POLICY_HISTORY_KEEP_LAST; qos_a.depth = 5U; ",
    "result = rclc_publisher_init(&context->publisher_a, &context->node, ",
    "ROSIDL_GET_MSG_TYPE_SUPPORT(p, msg, M), \"t\" /* x"]

def restating : Deployment :=
  (Deployment.ofFields (namespaceDeployment restatingNamespace "x */ \"")).get (by decide +kernel)

def restated : Deployment :=
  (Deployment.ofFields (namespaceDeployment "/x" "t")).get (by decide +kernel)

/-- The condition on the strings is not a necessary one: code in the strings may do the right thing.
Here neither string can be quoted, and the files are compiled to the program of a deployment with
ordinary strings. -/
theorem restating_compiles :
    (∃ result, validateDeployment id (namespaceDeployment restatingNamespace "x */ \"") =
        .ok result) ∧
      literals restating.nodeNamespace = none ∧
      (∀ endpoint ∈ restating.endpoints, literals endpoint.topic = none) ∧
      Quotable restated ∧
      compiled sampleHeaders restating "rmw_cyclonedds_c" =
        compiled sampleHeaders restated "rmw_cyclonedds_c" := by
  have hheader : generateHeader restating = generateHeader restated := by decide +kernel
  have hsource : lexUnit rosidlMacros (generateSource restating "rmw_cyclonedds_c") =
      lexUnit rosidlMacros (generateSource restated "rmw_cyclonedds_c") := by
    decide +kernel
  refine ⟨Fallible.exists_ok_of_toBool ?_, ?_, ?_, ?_, ?_⟩
  · decide +kernel
  · decide +kernel
  · decide +kernel
  · decide +kernel
  · rw [compiled, compiled, CLang.translate, CLang.translate, hheader]
    simp only [RosHeaders.toHeaders, hsource]

end Accepted

end Ros2Zephyr
