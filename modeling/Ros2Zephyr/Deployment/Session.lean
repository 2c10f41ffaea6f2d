import Ros2Zephyr.Deployment.Setup

/-!
# Setting up and cleaning up, again and again

Any sequence of calls of `ros2z_deployment_init` and `ros2z_deployment_fini` on one context.  The
flags in the context are all that one call leaves to the next one: `init` clears them and sets those
of what it makes, `fini` reads them and lets them stand.

* `session` — the calls on the generated program, each with the answers that rcl gives it.
* `life` — what the session comes to: a call of `fini` finalises what the last `init` made, also
  when this has happened before.
* `session_eq_life` — the program does this, whatever the calls and their answers are.
-/

namespace Ros2Zephyr

open CLang

section Session

/-- The functions of the generated file. -/
inductive SetupFunction
  | init
  | fini
  deriving DecidableEq

/-- A call from the application, with what rcl and rclc will answer to the calls it makes. -/
structure Invocation where
  function : SetupFunction
  results : ℕ → ℤ

/-- What can be seen of a call: what it returned, and its calls of rcl and rclc. -/
structure CallRecord where
  function : SetupFunction
  code : Value
  calls : List RclCall

abbrev Members := PyStr → PyStr → Value

def zeroInitialised : Members := fun _ _ => .int 0

variable (target : RclTarget)

/-- One call on a context with the given content. -/
def invoke (program : List Function) (depth : ℕ) (members : Members) (i : Invocation) :
    Option (CallRecord × Members) :=
  match i.function with
  | .init => (runInit target i.results program depth members).map fun (code, s) =>
      (⟨.init, code, s.world⟩, s.members)
  | .fini => (runFini target i.results program depth ⟨fun _ => none, members, []⟩).map
      fun (code, s) => (⟨.fini, code, s.world⟩, s.members)

def session (program : List Function) (depth : ℕ) :
    Members → List Invocation → Option (List CallRecord)
  | _, [] => some []
  | members, i :: rest => do
      let (record, members) ← invoke target program depth members i
      let records ← session program depth members rest
      some (record :: records)

end Session

section Life

variable (target : RclTarget) (deployment : Deployment)

/-- The first stage that fails, if one does. -/
def firstFailure (results : ℕ → ℤ) : Option ℕ :=
  (List.range (stages target deployment).length).find? fun k => results k ≠ 0

/-- The entities that a setup makes. -/
def madeBy (results : ℕ → ℤ) : List Entity :=
  match firstFailure target deployment results with
  | some k => made ((stages target deployment).take k)
  | none => made (stages target deployment)

def initRecord (results : ℕ → ℤ) : CallRecord :=
  match firstFailure target deployment results with
  | some k => ⟨.init, .int (results k), ((stages target deployment).take (k + 1)).map Stage.call ++
      finiCalls (made ((stages target deployment).take k))⟩
  | none => ⟨.init, .int 0, (stages target deployment).map Stage.call⟩

def finiRecord (existing : List Entity) (results : ℕ → ℤ) : CallRecord :=
  ⟨.fini, .int (finiCode results 0 existing.length), finiCalls existing⟩

def recordOf (existing : List Entity) (i : Invocation) : CallRecord :=
  match i.function with
  | .init => initRecord target deployment i.results
  | .fini => finiRecord existing i.results

/-- The entities whose flags are set after a call. -/
def flaggedAfter (existing : List Entity) (i : Invocation) : List Entity :=
  match i.function with
  | .init => madeBy target deployment i.results
  | .fini => existing

/-- **The life of a context.** -/
def life : List Entity → List Invocation → List CallRecord
  | _, [] => []
  | existing, i :: rest =>
      recordOf target deployment existing i :: life (flaggedAfter target deployment existing i) rest

end Life

section Refinement

variable {target : RclTarget} {deployment : Deployment} {existing : List Entity} {members : Members}
  {headers : RosHeaders}

/-- The flags in a context say that the given entities exist. -/
def Flagged (deployment : Deployment) (existing : List Entity) (members : Members) : Prop :=
  ∀ entity ∈ creation deployment,
    members "context" entity.flag = .ofBool (decide (entity ∈ existing))

lemma flagged_zeroInitialised : Flagged deployment [] zeroInitialised := by
  intro entity _
  simp [zeroInitialised, Value.ofBool]

lemma firstFailure_eq_some {results : ℕ → ℤ} {k : ℕ}
    (h : firstFailure target deployment results = some k) :
    k < (stages target deployment).length ∧ results k ≠ 0 ∧ ∀ i < k, results i = 0 := by
  obtain ⟨hfail, hmem, hok⟩ := List.find?_range_eq_some.mp h
  refine ⟨List.mem_range.mp hmem, by simpa using hfail, fun i hi => ?_⟩
  simpa using hok i hi

lemma firstFailure_eq_none {results : ℕ → ℤ} (h : firstFailure target deployment results = none) :
    ∀ i < (stages target deployment).length, results i = 0 := by
  intro i hi
  have hnone := List.find?_eq_none.mp h i (List.mem_range.mpr hi)
  simpa using hnone

lemma madeBy_isPrefix (results : ℕ → ℤ) :
    madeBy target deployment results <+: creation deployment := by
  rw [madeBy]
  cases firstFailure target deployment results with
  | some k => exact made_isPrefix (List.take_prefix k _)
  | none => exact made_stages_isPrefix deployment

/-- A setup in which every call succeeds, or in which the call `k` is the first one that fails. -/
lemma runInit_flagged (run : SetupRun) (depth : ℕ) (hdistinct : DistinctMembers run.deployment)
    (hbuildable : Buildable headers run.deployment run.backend) (members : Members) :
    ∃ s, runInit run.target run.results run.program depth members =
        some ((initRecord run.target run.deployment run.results).code, s) ∧
      s.world = (initRecord run.target run.deployment run.results).calls ∧
      Flagged run.deployment (madeBy run.target run.deployment run.results) s.members := by
  rw [initRecord, madeBy]
  cases hfirst : firstFailure run.target run.deployment run.results with
  | none =>
      exact runInit_ok run depth hdistinct hbuildable members (firstFailure_eq_none hfirst)
  | some k =>
      obtain ⟨hk, hfail, hok⟩ := firstFailure_eq_some hfirst
      obtain ⟨v, s, hfinished, hinit⟩ := runInit_finished run depth hdistinct hbuildable members
      obtain ⟨-, hafter⟩ | hfailed := hfinished
      · exact absurd (hafter.ok k hk) hfail
      · obtain ⟨rfl, hworld, hflags⟩ := hfailed.at hok hfail
        exact ⟨_, hinit, hworld, hflags⟩

lemma runFini_flagged (run : SetupRun) (depth : ℕ)
    (hexisting : existing <+: creation run.deployment)
    (hflags : Flagged run.deployment existing members) :
    runFini run.target run.results run.program depth ⟨fun _ => none, members, []⟩ =
      some (.int (finiCode run.results 0 existing.length),
        ⟨fun _ => none, members, finiCalls existing⟩) :=
  call_fini hexisting hflags

lemma initRecord_eta (target : RclTarget) (deployment : Deployment) (results : ℕ → ℤ) :
    ⟨.init, (initRecord target deployment results).code,
      (initRecord target deployment results).calls⟩ = initRecord target deployment results := by
  rw [initRecord]
  cases firstFailure target deployment results <;> rfl

/-- A setup, wherever the context comes from. -/
lemma invoke_init {backend : PyStr} (depth : ℕ) (hdistinct : DistinctMembers deployment)
    (hbuildable : Buildable headers deployment backend) (members : Members) (results : ℕ → ℤ) :
    ∃ after, Flagged deployment (madeBy target deployment results) after ∧
      invoke target (setupProgram deployment backend) depth members ⟨.init, results⟩ =
        some (initRecord target deployment results, after) := by
  obtain ⟨s, hinit, hworld, hflags⟩ :=
    runInit_flagged ⟨target, results, deployment, backend⟩ depth hdistinct hbuildable members
  have hrun : runInit target results (setupProgram deployment backend) depth members =
    some ((initRecord target deployment results).code, s) := hinit
  refine ⟨s.members, hflags, ?_⟩
  rw [← initRecord_eta, ← hworld, invoke, hrun, Option.map_some]

lemma invoke_fini (backend : PyStr) (depth : ℕ) (hexisting : existing <+: creation deployment)
    (hflags : Flagged deployment existing members) (results : ℕ → ℤ) :
    invoke target (setupProgram deployment backend) depth members ⟨.fini, results⟩ =
      some (finiRecord existing results, members) := by
  have hfini : runFini target results (setupProgram deployment backend) depth
      ⟨fun _ => none, members, []⟩ = _ :=
    runFini_flagged ⟨target, results, deployment, backend⟩ depth hexisting hflags
  rw [invoke, hfini, Option.map_some, finiRecord]

/-- **The program refines the life of its context**, call after call. -/
theorem session_eq_life {backend : PyStr} (depth : ℕ) (hdistinct : DistinctMembers deployment)
    (hbuildable : Buildable headers deployment backend)
    (hexisting : existing <+: creation deployment)
    (hflags : Flagged deployment existing members) (invocations : List Invocation) :
    session target (setupProgram deployment backend) depth members invocations =
      some (life target deployment existing invocations) := by
  induction invocations generalizing existing members with
  | nil => rfl
  | cons i rest ih =>
      obtain ⟨function, results⟩ := i
      cases function with
      | init =>
          obtain ⟨after, hafter, hinvoke⟩ :=
            invoke_init depth hdistinct hbuildable members results
          rw [session, hinvoke]
          show (session _ _ _ after rest).bind _ = _
          rw [ih (madeBy_isPrefix results) hafter]
          rfl
      | fini =>
          rw [session, invoke_fini backend depth hexisting hflags]
          show (session _ _ _ members rest).bind _ = _
          rw [ih hexisting hflags]
          rfl

end Refinement

section Repeated

variable {target : RclTarget} {deployment : Deployment} {existing : List Entity}

/-- The call completed a finalisation: it is a cleanup, or a setup that failed. -/
def CallRecord.Finalises (r : CallRecord) : Prop :=
  r.function = .fini ∨ r.code ≠ .int 0

/-- The call after the one at position `n` is a cleanup that follows a completed finalisation. -/
def CleansAgain (records : List CallRecord) (n : ℕ) : Prop :=
  ∃ r r', records[n]? = some r ∧ records[n + 1]? = some r' ∧ r.Finalises ∧ r'.function = .fini

/-- **Finalisation is idempotent**: a cleanup that follows a completed finalisation calls no
finaliser and succeeds. -/
def FinalisesOnce (records : List CallRecord) : Prop :=
  ∀ n r, CleansAgain records n → records[n + 1]? = some r → r.calls = [] ∧ r.code = .int 0

/-- Nothing was made since the context was cleared: there was no setup, or the last one failed at
its first call. -/
def NothingMade (invocations : List Invocation) : Prop :=
  ∀ i, (invocations.filter (·.function = .init)).getLast? = some i → i.results 0 ≠ 0

/-- The entities whose flags are set after some calls. -/
def flaggedBy (target : RclTarget) (deployment : Deployment) (existing : List Entity)
    (invocations : List Invocation) : List Entity :=
  invocations.foldl (flaggedAfter target deployment) existing

lemma life_getElem? (invocations : List Invocation) (n : ℕ) :
    (life target deployment existing invocations)[n]? =
      invocations[n]?.map
        (recordOf target deployment
          (flaggedBy target deployment existing (invocations.take n))) := by
  induction invocations generalizing existing n with
  | nil => simp [life]
  | cons i rest ih =>
      cases n with
      | zero => simp [life, flaggedBy]
      | succ n => simp [life, ih, flaggedBy]

lemma life_functions (invocations : List Invocation) :
    (life target deployment existing invocations).map CallRecord.function =
      invocations.map Invocation.function := by
  induction invocations generalizing existing with
  | nil => rfl
  | cons i rest ih =>
      obtain ⟨function, results⟩ := i
      rw [life, List.map_cons, List.map_cons, ih]
      cases function with
      | init => rw [recordOf, ← initRecord_eta]
      | fini => rfl

/-- A setup makes nothing only when its first call, for the node, fails. -/
lemma madeBy_eq_nil_iff {results : ℕ → ℤ} :
    madeBy target deployment results = [] ↔ results 0 ≠ 0 := by
  have hnode : ∀ k, made ((stages target deployment).take (k + 1)) ≠ [] := by
    intro k
    rw [made, stages, List.take_succ_cons]
    exact List.cons_ne_nil _ _
  rw [madeBy]
  cases hfirst : firstFailure target deployment results with
  | none =>
      have hzero : results 0 = 0 := firstFailure_eq_none hfirst 0 (Nat.succ_pos _)
      have hmade := hnode (stages target deployment).length
      rw [List.take_of_length_le (Nat.le_succ _)] at hmade
      simp [hzero, hmade]
  | some k =>
      obtain ⟨-, hfail, hok⟩ := firstFailure_eq_some hfirst
      cases k with
      | zero => simp [made, hfail]
      | succ k => simp [hnode k, hok 0 (Nat.succ_pos k)]

lemma flaggedBy_eq_nil_iff {invocations : List Invocation} :
    flaggedBy target deployment [] invocations = [] ↔ NothingMade invocations := by
  induction invocations using List.reverseRecOn with
  | nil => simp [flaggedBy, NothingMade]
  | append_singleton before i ih =>
      rw [flaggedBy, List.foldl_append, List.foldl_cons, List.foldl_nil, ← flaggedBy, flaggedAfter]
      cases hfunction : i.function with
      | init =>
          rw [madeBy_eq_nil_iff]
          simp [NothingMade, hfunction]
      | fini =>
          rw [ih]
          simp [NothingMade, hfunction]

lemma finiCalls_eq_nil_iff : finiCalls existing = [] ↔ existing = [] := by
  simp [finiCalls]

/-- A cleanup is quiet exactly when no flag is set. -/
lemma finiRecord_quiet_iff {results : ℕ → ℤ} :
    (finiRecord existing results).calls = [] ∧ (finiRecord existing results).code = .int 0 ↔
      existing = [] := by
  rw [finiRecord, finiCalls_eq_nil_iff]
  refine ⟨fun h => h.1, fun h => ⟨h, ?_⟩⟩
  subst h
  rfl

/-- Where the call at a position is a cleanup, its record is that of the flags before it. -/
lemma life_fini {invocations : List Invocation} {n : ℕ} {r : CallRecord}
    (hr : (life target deployment existing invocations)[n]? = some r) (hfini : r.function = .fini) :
    ∃ results,
      r = finiRecord (flaggedBy target deployment existing (invocations.take n)) results := by
  rw [life_getElem?, Option.map_eq_some_iff] at hr
  obtain ⟨⟨function, results⟩, -, rfl⟩ := hr
  cases function with
  | init =>
      rw [recordOf, ← initRecord_eta] at hfini
      cases hfini
  | fini => exact ⟨results, rfl⟩

/-- The life of a zero-initialised context. -/
lemma life_finalisesOnce_iff (invocations : List Invocation) :
    FinalisesOnce (life target deployment [] invocations) ↔
      ∀ n, CleansAgain (life target deployment [] invocations) n →
        NothingMade (invocations.take (n + 1)) := by
  have hquiet : ∀ n r, (life target deployment [] invocations)[n + 1]? = some r →
      r.function = .fini →
      (r.calls = [] ∧ r.code = .int 0 ↔ NothingMade (invocations.take (n + 1))) := by
    intro n r hr hfini
    obtain ⟨results, rfl⟩ := life_fini hr hfini
    rw [finiRecord_quiet_iff, flaggedBy_eq_nil_iff]
  constructor
  · intro honce n hagain
    have ⟨r, r', _, hr', _, hfini⟩ := hagain
    exact (hquiet n r' hr' hfini).mp (honce n r' hagain hr')
  · intro hnothing n r hagain hr
    have ⟨_, r', _, hr', _, hfini⟩ := hagain
    rw [hr, Option.some.injEq] at hr'
    subst hr'
    exact (hquiet n r hr hfini).mpr (hnothing n hagain)

end Repeated

end Ros2Zephyr
