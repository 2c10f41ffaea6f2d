import Ros2Zephyr.Deployment.Stages

/-!
# The cleanup function

`ros2z_deployment_fini` finalises the entities whose flags are set, last made first.

* `SetupRun` — what a run of the generated code depends on.
* `Frame` — the variables in scope, which leaves every other name to the headers.
* `Finalising` — the state between two finalisers.
* `call_fini` — the whole function, whatever its calls answer.
-/

namespace Ros2Zephyr

open CLang

section Frame

/-- The parameters of a run of the generated code. -/
structure SetupRun where
  target : RclTarget
  results : ℕ → ℤ
  deployment : Deployment
  backend : PyStr

namespace SetupRun

def platform (run : SetupRun) : Platform := rclPlatform run.target

def program (run : SetupRun) : List Function := setupProgram run.deployment run.backend

/-- Calls from the code, up to a depth inside the file. -/
def call (run : SetupRun) (depth : ℕ) : Handler (List RclCall) :=
  setupCall run.target run.results run.program depth

end SetupRun

variable {run : SetupRun} {depth : ℕ} {s s₀ : State (List RclCall)}

/-- The variables in scope. -/
structure Frame (run : SetupRun) (s : State (List RclCall)) : Prop where
  context : s.locals "context" = some (.object "context")
  free : ∀ name, name ∉ initVariables → (∀ e ∈ run.deployment.endpoints, name ≠ e.qosVariable) →
    s.locals name = none

/-- A name that no variable of the code can have. -/
def IsGlobal (name : PyStr) : Prop := name ∉ initVariables ∧ name.head? ≠ some 'q'.toNat

instance {name : PyStr} : Decidable (IsGlobal name) := inferInstanceAs (Decidable (_ ∧ _))

namespace Frame

lemma global (h : Frame run s) {name : PyStr} (hname : IsGlobal name) : s.locals name = none := by
  refine h.free name hname.1 fun e _ heq => hname.2 ?_
  rw [heq]
  rfl

lemma setResult (h : Frame run s) (v : Value) :
    Frame run (s.setLocal "result" v) where
  context := by
    rw [State.setLocal_locals_of_ne (by decide)]
    exact h.context
  free name hname hqos := by
    have hne : name ≠ "result" := by
      rintro rfl
      exact hname (by decide)
    rw [State.setLocal_locals_of_ne hne]
    exact h.free name hname hqos

lemma of_locals (h : Frame run s₀) (heq : s.locals = s₀.locals) : Frame run s where
  context := heq ▸ h.context
  free := heq ▸ h.free

lemma eval_constant (h : Frame run s) {name : PyStr} {v : Value} (hname : IsGlobal name)
    (hv : (rclConstants run.target).lookup name = some v) :
    eval run.platform (run.call depth) (.ident name) s = some (v, s) := by
  have hconstant : run.platform.constant name = some v := hv
  simp [eval, h.global hname, hconstant]

lemma eval_retOk (h : Frame run s) :
    eval run.platform (run.call depth) retOk s = some (.int 0, s) :=
  h.eval_constant (by decide) rfl

lemma eval_contextMember (h : Frame run s) (member : PyStr) :
    eval run.platform (run.call depth) (contextMember member) s =
      some (s.members "context" member, s) := by
  simp [contextMember, eval, h.context]

lemma eval_addr_contextMember (h : Frame run s) (depth : ℕ) (member : PyStr) :
    eval run.platform (run.call depth) (.addr (contextMember member)) s =
      some (.member "context" member, s) := by
  simp [contextMember, eval, h.context]

end Frame

/-- The functions of rcl and rclc, by their names. -/
def rclNames : List PyStr :=
  ["rclc_node_init_default", "rclc_publisher_init", "rclc_subscription_init", "rclc_executor_init",
    "rclc_executor_add_subscription", "rclc_executor_prepare", "rclc_executor_fini",
    "rcl_publisher_fini", "rcl_subscription_fini", "rcl_node_fini"]

lemma mem_rclNames {target : RclTarget} {function : PyStr} {values : List Value} {c : RclCall}
    (h : rclCall target function values = some c) : function ∈ rclNames := by
  simp only [rclCall, Option.bind_eq_bind, Option.bind_eq_some_iff] at h
  obtain ⟨read, hlookup, -⟩ := h
  obtain ⟨before, after, heq, -⟩ := List.lookup_eq_some_iff.mp hlookup
  have hnames : (rclFunctions target).map Prod.fst = rclNames := rfl
  rw [← hnames, heq]
  simp

lemma rclNames_outside : ∀ name ∈ rclNames, IsGlobal name ∧ name ≠ "memset" ∧
    name ∉ zeroInitializers ∧ name ≠ "ros2z_deployment_fini" ∧
    name ≠ "ros2z_deployment_init" := by
  decide

lemma find?_program {name : PyStr} (hfini : name ≠ "ros2z_deployment_fini")
    (hinit : name ≠ "ros2z_deployment_init") :
    run.program.find? (·.name = name) = none := by
  simp [SetupRun.program, setupProgram, finiFunction, initFunction, hfini.symm, hinit.symm]

/-- **A call of rcl or rclc** is recorded and answered. -/
theorem Frame.eval_rcl (h : Frame run s) {function : PyStr} {args : List Expr} {values : List Value}
    {c : RclCall}
    (hargs : evalArgs run.platform (run.call depth) args s = some (values, s))
    (hcall : rclCall run.target function values = some c) :
    eval run.platform (run.call depth) (callOf function args) s =
      some (.int (run.results s.world.length), { s with world := s.world ++ [c] }) := by
  obtain ⟨hglobal, hmemset, hzero, hfini, hinit⟩ := rclNames_outside function (mem_rclNames hcall)
  refine eval_call hargs (h.global hglobal) ?_
  rw [SetupRun.call, setupCall, callFile_outside (find?_program hfini hinit)]
  simp [rclHandler, hmemset, hzero, hcall]

end Frame

section Fini

variable {run : SetupRun} {depth : ℕ} {s s₀ : State (List RclCall)} {calls : List RclCall}

/-- The flags say which entities exist. -/
def Flags (run : SetupRun) (existing : List Entity) (s : State (List RclCall)) : Prop :=
  ∀ entity ∈ creation run.deployment,
    s.members "context" entity.flag = .ofBool (decide (entity ∈ existing))

/-- What the cleanup returns: an error if one of its calls failed. -/
def finiCode (results : ℕ → ℤ) (start count : ℕ) : ℤ :=
  if ∀ i < count, results (start + i) = 0 then 0 else 1

lemma finiCode_succ (results : ℕ → ℤ) (start count : ℕ) :
    finiCode results start (count + 1) =
      if results (start + count) = 0 then finiCode results start count else 1 := by
  simp only [finiCode, Nat.forall_lt_succ_right]
  by_cases hlast : results (start + count) = 0
  · simp [hlast]
  · simp [hlast]

/-- The cleanup has made `calls`, from `s₀` on. -/
structure Finalising (run : SetupRun) (s₀ : State (List RclCall)) (calls : List RclCall)
    (s : State (List RclCall)) : Prop where
  frame : Frame run s
  result : s.locals "result" =
    some (.int (finiCode run.results s₀.world.length calls.length))
  members : s.members = s₀.members
  world : s.world = s₀.world ++ calls

/-- The state after a finaliser that was called. -/
lemma Finalising.called (h : Finalising run s₀ calls s) (c : RclCall) :
    let s' : State (List RclCall) := { s with world := s.world ++ [c] }
    (run.results s.world.length = 0 → Finalising run s₀ (calls ++ [c]) s') ∧
      (run.results s.world.length ≠ 0 →
        Finalising run s₀ (calls ++ [c]) (s'.setLocal "result" (.int 1))) := by
  have hlength : s.world.length = s₀.world.length + calls.length := by
    rw [h.world, List.length_append]
  have hcode : finiCode run.results s₀.world.length (calls ++ [c]).length =
      if run.results s.world.length = 0 then
        finiCode run.results s₀.world.length calls.length
      else 1 := by
    rw [List.length_append, List.length_singleton, finiCode_succ, hlength]
  have hworld : s.world ++ [c] = s₀.world ++ (calls ++ [c]) := by rw [h.world, List.append_assoc]
  refine ⟨fun hok => ⟨h.frame.of_locals rfl, ?_, h.members, hworld⟩,
    fun hfail => ⟨(h.frame.setResult _).of_locals rfl, ?_, h.members, hworld⟩⟩
  · rw [hcode, if_pos hok]
    exact h.result
  · rw [hcode, if_neg hfail]
    exact State.setLocal_locals_self

/-- One finaliser behind its flag. -/
lemma exec_finiStmt (h : Finalising run s₀ calls s) {flag function : PyStr} {args : List Expr}
    {values : List Value} {c : RclCall} {present : Bool}
    (hflag : s.members "context" flag = .ofBool present)
    (hargs : evalArgs run.platform (run.call depth) args s = some (values, s))
    (hcall : rclCall run.target function values = some c) :
    ∃ s', exec run.platform (run.call depth) (finiStmt flag function args) s = some (.next, s') ∧
      Finalising run s₀ (if present then calls ++ [c] else calls) s' := by
  have hcond : eval run.platform (run.call depth) (contextMember flag) s =
      some (.ofBool present, s) :=
    hflag ▸ h.frame.eval_contextMember flag
  cases present with
  | false => exact ⟨s, exec_branch_false (eval_conj_false hcond rfl) rfl rfl, h⟩
  | true =>
      have hframe : Frame run { s with world := s.world ++ [c] } := h.frame.of_locals rfl
      by_cases hresult : run.results s.world.length = 0
      · have hequal : (Value.int (run.results s.world.length)).equal (.int 0) = some true := by
          simp [Value.equal, hresult]
        have hcond' := eval_conj_true hcond rfl
          (eval_notEqual (h.frame.eval_rcl hargs hcall) hframe.eval_retOk hequal) rfl
        exact ⟨_, exec_branch_false hcond' rfl rfl, (h.called c).1 hresult⟩
      · have hequal : (Value.int (run.results s.world.length)).equal (.int 0) = some false := by
          simp [Value.equal, hresult]
        have hcond' := eval_conj_true hcond rfl
          (eval_notEqual (h.frame.eval_rcl hargs hcall) hframe.eval_retOk hequal) rfl
        refine ⟨_, ?_, (h.called c).2 hresult⟩
        rw [finiStmt, exec_branch_true hcond' rfl rfl]
        exact execBlock_next (exec_assign h.result (hframe.eval_constant (by decide) rfl))

lemma rclCall_endpointFini (target : RclTarget) (endpoint : Endpoint) :
    rclCall target (fstring ["rcl_", endpoint.kind.text, "_fini"])
      [.member "context" endpoint.handle,
        .member "context" "node"] =
      some (Entity.endpoint endpoint).finiCall := by
  rw [Entity.finiCall]
  cases endpoint.kind with
  | publisher => rfl
  | subscription callback => rfl

/-- The finaliser of one entity. -/
lemma exec_entity_finiStmt (depth : ℕ) {existing : List Entity} (hflags : Flags run existing s₀)
    (h : Finalising run s₀ calls s) {entity : Entity} (hmem : entity ∈ creation run.deployment) :
    ∃ s', exec run.platform (run.call depth) entity.finiStmt s = some (.next, s') ∧
      Finalising run s₀ (if entity ∈ existing then calls ++ [entity.finiCall] else calls) s' := by
  have hflag : s.members "context" entity.flag =
      .ofBool (decide (entity ∈ existing)) := by
    rw [h.members]
    exact hflags entity hmem
  have hargs : ∀ member, evalArgs run.platform (run.call depth) [.addr (contextMember member)] s =
      some ([.member "context" member], s) := fun member =>
    evalArgs_cons (h.frame.eval_addr_contextMember depth member) evalArgs_nil
  have hfini : ∃ s', exec run.platform (run.call depth) entity.finiStmt s = some (.next, s') ∧
      Finalising run s₀
        (if decide (entity ∈ existing) = true then calls ++ [entity.finiCall] else calls) s' := by
    cases entity with
    | node => exact exec_finiStmt h hflag (hargs _) rfl
    | executor => exact exec_finiStmt h hflag (hargs _) rfl
    | endpoint endpoint =>
        exact exec_finiStmt h hflag
          (evalArgs_cons (h.frame.eval_addr_contextMember _ _) (hargs _))
          (rclCall_endpointFini _ endpoint)
  simpa using hfini

lemma finiBody_eq (deployment : Deployment) :
    finiBody deployment =
      [.declare "rcl_ret_t" "result" retOk,
        .branch (isNull "context") [.ret (.ident "RCL_RET_INVALID_ARGUMENT")]] ++
      ((creation deployment).reverse.map Entity.finiStmt ++ [.ret resultVariable]) := by
  simp [finiBody, creation, Entity.finiStmt, Function.comp_def]

lemma Frame.eval_isNull (h : Frame run s) {name object : PyStr}
    (hlocal : s.locals name = some (.object object)) :
    eval run.platform (run.call depth) (isNull name) s = some (.ofBool false, s) :=
  eval_equal (eval_local hlocal) (h.eval_constant (by decide) rfl) rfl

/-- The state in which the cleanup starts to look at the flags. -/
lemma finalising_start (run : SetupRun) (s : State (List RclCall)) :
    let frame : State (List RclCall) :=
      { s with locals := fun x => ([PyStr.ofString "context"].zip
          [Value.object "context"]).lookup x }
    Frame run frame ∧
      Finalising run s [] (frame.setLocal (PyStr.ofString "result") (.int 0)) := by
  intro frame
  have hframe : Frame run frame := by
    refine ⟨rfl, fun name hname _ => ?_⟩
    have hne : name ≠ "context" := by
      rintro rfl
      exact hname (by decide)
    simp [frame, hne]
  refine ⟨hframe, hframe.setResult _, ?_, rfl, (List.append_nil _).symm⟩
  rw [State.setLocal_locals_self]
  rfl

/-- The finalisers of all entities, of which those with a flag are called. -/
lemma ends_finalisers {existing : List Entity} (hexisting : existing <+: creation run.deployment)
    (hflags : Flags run existing s₀) (h : Finalising run s₀ [] s) :
    Ends run.platform (run.call depth) ((creation run.deployment).reverse.map Entity.finiStmt) s
      (Post (Finalising run s₀ (finiCalls existing)) fun _ _ => False) := by
  have hcalls : finiCalls existing =
      ((creation run.deployment).reverse.filter (· ∈ existing)).map Entity.finiCall := by
    rw [reverse_filter_mem (creation_nodup _) hexisting, finiCalls]
  rw [hcalls]
  refine Ends.map (I := fun before =>
    Finalising run s₀ ((before.filter (· ∈ existing)).map Entity.finiCall)) ?_ h
  intro before entity after hsplit t ht
  have hmem : entity ∈ creation run.deployment := by
    rw [← List.mem_reverse, hsplit]
    simp
  obtain ⟨t', hexec, ht'⟩ := exec_entity_finiStmt depth hflags ht hmem
  refine ⟨t', hexec, ?_⟩
  by_cases hentity : entity ∈ existing
  · simpa [hentity] using ht'
  · simpa [hentity] using ht'

/-- **The cleanup function** finalises what the flags say and nothing else, last made first,
whatever its calls answer. -/
theorem call_fini {existing : List Entity} (hexisting : existing <+: creation run.deployment)
    (hflags : Flags run existing s) :
    run.call (depth + 1) "ros2z_deployment_fini"
        [.object "context"] s =
      some (.int (finiCode run.results s.world.length existing.length),
        { s with world := s.world ++ finiCalls existing }) := by
  obtain ⟨hframe, hstart⟩ := finalising_start run s
  have hbody : Ends run.platform (run.call depth) (finiFunction run.deployment).body
      { s with locals := fun x => ((finiFunction run.deployment).params.zip
        [.object "context"]).lookup x }
      (Post (fun _ => False) fun v t =>
        v = .int (finiCode run.results s.world.length existing.length) ∧ t.members = s.members ∧
          t.world = s.world ++ finiCalls existing) := by
    rw [finiFunction, finiBody_eq]
    refine Ends.next (exec_declare hframe.eval_retOk) ?_
    refine Ends.next (exec_branch_false (hstart.frame.eval_isNull hstart.frame.context) rfl rfl) ?_
    refine (ends_finalisers hexisting hflags hstart).append (fun t ht => ?_) (fun _ _ h => h.elim)
    have hresult := ht.result
    rw [finiCalls, List.length_map, List.length_reverse] at hresult
    exact Ends.returned (exec_ret (eval_local hresult)) ⟨rfl, ht.members, ht.world⟩
  have hfind : run.program.find? (·.name = PyStr.ofString "ros2z_deployment_fini") =
      some (finiFunction run.deployment) := rfl
  obtain ⟨v, t, ⟨rfl, hmembers, hworld⟩, hcall⟩ :=
    callFile_of_ends (rclHandler run.target run.results) run.program s hfind rfl hbody
  refine hcall.trans ?_
  rw [hmembers, hworld]

end Fini

end Ros2Zephyr
