import Mathlib.Tactic.Common
import Ros2Zephyr.Core.CSwitch

/-!
# The rclc executor without actions

`patches/rclc-optional-actions.patch` puts the action cases of five `switch` statements of
`rclc/src/rclc/executor.c` into `#if RCLC_ENABLE_ACTIONS` regions.  Each `switch` decides what a
pass over the handles of the executor does with a handle of a given type.

The patch shows where the regions begin and end.  What it does not show of the file is a parameter:
`PatchedExecutor` has the lines around and inside the regions, and says of them what is assumed of
the file.  In four of the regions all labels are those of actions.  The one in `_rclc_take_new_data`
ends behind the statements of `RCLC_GUARD_CONDITION`.

* `pass` — a pass over the handles, which ends at the first one that fails.
* `actions_off_agrees_iff` — which lists of handles are treated alike by the two builds.
-/

namespace Ros2Zephyr

open CSwitch

section Executor

/-- `rclc_executor_handle_type_t` -/
inductive HandleType
  | subscription
  | subscriptionWithContext
  | timer
  | client
  | clientWithRequestId
  | service
  | serviceWithRequestId
  | serviceWithContext
  | actionClient
  | actionServer
  | guardCondition
  | none
  deriving DecidableEq

def HandleType.isAction : HandleType → Bool
  | actionClient | actionServer => true
  | _ => false

/-- The statements of the cases. -/
inductive Statement
  /-- what is done with a handle whose type has this first label in its case -/
  | serve (type : HandleType)
  | nothingToDo
  /-- `if (handle->data_available) …`, the default of `_rclc_check_handle_data_available` -/
  | testDataAvailable
  /-- the default of the others: a message about an unknown type, and an error -/
  | unknownType
  deriving DecidableEq

abbrev SwitchLine := Line HandleType Statement

/-- The passes over the handles, by the `switch` that decides. -/
inductive Pass
  /-- `_rclc_check_for_new_data` -/
  | checkForNewData
  /-- `_rclc_take_new_data` -/
  | takeNewData
  /-- `_rclc_check_handle_data_available` -/
  | checkHandleDataAvailable
  /-- `_rclc_execute` -/
  | execute
  /-- the `switch` of `rclc_executor_spin_some` that adds the handles to the wait set -/
  | spinSome
  deriving DecidableEq

/-- What the statements of a case come to for each handle: what they find ready, and the code that
rcl gives them. -/
abbrev Readiness := ℕ → List Statement → ℤ

def retOkCode : ℤ := 0

def retErrorCode : ℤ := 1

def statementCode (readiness : Readiness) (index : ℕ) : List Statement → ℤ
  | [.nothingToDo] => retOkCode
  | [.unknownType] => retErrorCode
  | statements => readiness index statements

/-- The handle with this index was served by these statements. -/
def servedBy (index : ℕ) (statements : List Statement) : List (ℕ × List Statement) :=
  if statements = [.unknownType] then [] else [(index, statements)]

/-- A pass over the handles from an index on: the code that ends it, and the handles it served. -/
def pass (lines : List SwitchLine) (goesOn : ℤ → Bool) (readiness : Readiness) :
    ℕ → List HandleType → ℤ × List (ℕ × List Statement)
  | _, [] => (retOkCode, [])
  | index, type :: rest =>
      let statements := select lines type
      let code := statementCode readiness index statements
      if goesOn code then
        let (last, served) := pass lines goesOn readiness (index + 1) rest
        (last, servedBy index statements ++ served)
      else (code, servedBy index statements)

/-- `executor.c` with the patch. -/
structure PatchedExecutor where
  switch : Pass → Guarded HandleType Statement
  /-- the codes after which a pass goes on -/
  goesOn : Pass → ℤ → Bool
  goesOn_ok : ∀ p, goesOn p retOkCode = true
  goesOn_error : ∀ p, goesOn p retErrorCode = false
  /-- the regions have the labels of actions -/
  region_labels : ∀ p, p ≠ .takeNewData → ∀ type, (switch p).region.any (Line.isLabel type) →
    type.isAction
  /-- and in `_rclc_take_new_data` also the case of guard conditions, at its end -/
  actionLines : List SwitchLine
  action_labels : ∀ type, actionLines.any (Line.isLabel type) → type.isAction
  take_region : (switch .takeNewData).region =
    actionLines ++ [.label .guardCondition, .run .nothingToDo, .leave]
  take_after : (switch .takeNewData).after = [.default, .run .unknownType, .leave]
  /-- the other types have their cases before the region -/
  take_labels : ∀ type, (switch .takeNewData).before.any (Line.isLabel type) ↔
    type.isAction = false ∧ type ≠ .guardCondition ∧ type ≠ .none
  take_default : (switch .takeNewData).before.any Line.isDefault = false
  take_known : ∀ line ∈ (switch .takeNewData).before, line ≠ .run .unknownType

/-- A pass of the executor that was built with or without actions. -/
def PatchedExecutor.run (rclc : PatchedExecutor) (actions : Bool) (p : Pass) (readiness : Readiness)
    (handles : List HandleType) : ℤ × List (ℕ × List Statement) :=
  pass ((rclc.switch p).compiled actions) (rclc.goesOn p) readiness 0 handles

end Executor

section Agreement

variable {lines lines' : List SwitchLine} {goesOn : ℤ → Bool} {readiness : Readiness}

lemma pass_congr {handles : List HandleType}
    (h : ∀ type ∈ handles, select lines type = select lines' type) (index : ℕ) :
    pass lines goesOn readiness index handles = pass lines' goesOn readiness index handles := by
  induction handles generalizing index with
  | nil => rfl
  | cons type rest ih =>
      rw [List.forall_mem_cons] at h
      simp only [pass, h.1, ih h.2]

/-- A pass in which nothing fails. -/
lemma pass_fst_of_ok (hok : goesOn retOkCode = true) {handles : List HandleType}
    (h : ∀ type ∈ handles, ∀ index, statementCode readiness index (select lines type) = retOkCode)
    (index : ℕ) : (pass lines goesOn readiness index handles).1 = retOkCode := by
  induction handles generalizing index with
  | nil => rfl
  | cons type rest ih =>
      rw [List.forall_mem_cons] at h
      simp only [pass, h.1 index, hok, if_true, ih h.2]

/-- A pass that meets a handle of an unknown type, and fails for no other reason. -/
lemma pass_fst_of_unknown (hok : goesOn retOkCode = true) (herror : goesOn retErrorCode = false)
    {handles : List HandleType}
    (h : ∀ type ∈ handles, select lines type = [.unknownType] ∨
      ∀ index, statementCode readiness index (select lines type) = retOkCode)
    {type : HandleType} (hmem : type ∈ handles) (hunknown : select lines type = [.unknownType])
    (index : ℕ) : (pass lines goesOn readiness index handles).1 = retErrorCode := by
  induction handles generalizing index with
  | nil => cases hmem
  | cons first rest ih =>
      rw [List.forall_mem_cons] at h
      by_cases hfirst : select lines first = [.unknownType]
      · simp only [pass, hfirst, statementCode, herror, Bool.false_eq_true, if_false]
      · have hcode := h.1.resolve_left hfirst
        have hrest : type ∈ rest := by
          rcases List.mem_cons.mp hmem with rfl | hrest
          · exact absurd hunknown hfirst
          · exact hrest
        simp only [pass, hcode index, hok, if_true, ih h.2 hrest]

/-- Nothing fails but a handle of an unknown type. -/
def alwaysOk : Readiness := fun _ _ => retOkCode

lemma statementCode_alwaysOk {statements : List Statement} (h : statements ≠ [.unknownType])
    (index : ℕ) : statementCode alwaysOk index statements = retOkCode := by
  unfold statementCode
  split
  · rfl
  · exact absurd rfl h
  · rfl

variable (rclc : PatchedExecutor)

namespace PatchedExecutor

lemma guardCondition_not_before :
    (rclc.switch .takeNewData).before.any (Line.isLabel .guardCondition) = false := by
  rw [← Bool.not_eq_true, rclc.take_labels]
  exact fun h => h.2.1 rfl

/-- Without actions a guard condition is a handle of an unknown type. -/
lemma select_guardCondition_off :
    select ((rclc.switch .takeNewData).compiled false) .guardCondition = [.unknownType] := by
  rw [Guarded.select_cut _ rclc.guardCondition_not_before (by rw [rclc.take_after]; rfl),
    enter_append_of_not_any rclc.take_default, rclc.take_after]
  rfl

lemma select_guardCondition_on :
    select ((rclc.switch .takeNewData).compiled true) .guardCondition = [.nothingToDo] := by
  have hactions : rclc.actionLines.any (Line.isLabel .guardCondition) = false := by
    rw [← Bool.not_eq_true]
    exact fun h => Bool.noConfusion (rclc.action_labels _ h)
  rw [Guarded.compiled_eq, if_pos rfl, select, rclc.take_region, rclc.take_after, if_pos]
  · rw [enter_append_of_not_any rclc.guardCondition_not_before, List.append_assoc,
      enter_append_of_not_any hactions]
    rfl
  · simp [Line.isLabel]

/-- The other types have their own statements in both builds. -/
lemma select_known {type : HandleType}
    (h : type.isAction = false ∧ type ≠ .guardCondition ∧ type ≠ .none) (actions : Bool) :
    select ((rclc.switch .takeNewData).compiled actions) type ≠ [.unknownType] := by
  have hbefore := (rclc.take_labels type).mpr h
  intro heq
  have hmem : Statement.unknownType ∈
      enter (Line.isLabel type) (rclc.switch .takeNewData).before := by
    rw [Guarded.compiled_eq, select, List.any_append, hbefore, Bool.true_or, if_pos rfl,
      enter_append_of_any (rclc.switch .takeNewData).closed hbefore] at heq
    rw [heq]
    exact List.mem_singleton_self _
  exact rclc.take_known _ (run_mem_of_mem_enter hmem) rfl

end PatchedExecutor

/-- The region has no label of a type of its own. -/
lemma region_not_labelled {p : Pass} {type : HandleType} (hplain : type.isAction = false)
    (h : p ≠ .takeNewData ∨ type ≠ .guardCondition) :
    (rclc.switch p).region.any (Line.isLabel type) = false := by
  rw [← Bool.not_eq_true]
  intro hlabel
  have haction : type.isAction = true := by
    by_cases hp : p = .takeNewData
    · subst hp
      have hguard := h.resolve_left (absurd rfl)
      rw [rclc.take_region, List.any_append, Bool.or_eq_true] at hlabel
      refine hlabel.elim (rclc.action_labels type) fun hlast => ?_
      simp [Line.isLabel] at hlast
      exact absurd hlast.symm hguard
    · exact rclc.region_labels p hp type hlabel
  rw [hplain] at haction
  cases haction

/-- **Building without actions.**  For every list of handles other than actions: all passes but one
return the same codes and serve the same handles in the same order in both builds, whatever is
ready. The pass that takes new data does so exactly for the lists without a guard condition. -/
theorem actions_off_agrees_iff (handles : List HandleType)
    (hplain : ∀ type ∈ handles, type.isAction = false ∧ type ≠ .none) :
    (∀ p, p ≠ .takeNewData → ∀ readiness,
      rclc.run true p readiness handles = rclc.run false p readiness handles) ∧
    ((∀ readiness, rclc.run true .takeNewData readiness handles =
        rclc.run false .takeNewData readiness handles) ↔ .guardCondition ∉ handles) := by
  refine ⟨fun p hp readiness => pass_congr (fun type hmem => ?_) 0, fun hagree hguard => ?_,
    fun hguard readiness => pass_congr (fun type hmem => ?_) 0⟩
  · exact Guarded.select_eq _ (region_not_labelled rclc (hplain type hmem).1 (.inl hp))
  · have hcases : ∀ type ∈ handles, type = .guardCondition ∨
        type.isAction = false ∧ type ≠ .guardCondition ∧ type ≠ .none := by
      intro type hmem
      have htype := hplain type hmem
      tauto
    have hon : (rclc.run true .takeNewData alwaysOk handles).1 = retOkCode := by
      refine pass_fst_of_ok (rclc.goesOn_ok _) (fun type hmem index => ?_) 0
      refine statementCode_alwaysOk ?_ index
      rcases hcases type hmem with rfl | hknown
      · rw [rclc.select_guardCondition_on]
        decide
      · exact rclc.select_known hknown true
    have hoff : (rclc.run false .takeNewData alwaysOk handles).1 = retErrorCode := by
      refine pass_fst_of_unknown (rclc.goesOn_ok _) (rclc.goesOn_error _)
        (fun type hmem => ?_) hguard
        rclc.select_guardCondition_off 0
      rcases hcases type hmem with rfl | hknown
      · exact .inl rclc.select_guardCondition_off
      · exact .inr (statementCode_alwaysOk (rclc.select_known hknown false))
    rw [hagree, hoff] at hon
    exact absurd hon (by decide)
  · refine Guarded.select_eq _ (region_not_labelled rclc (hplain type hmem).1 (.inr ?_))
    rintro rfl
    exact hguard hmem

end Agreement

section Sample

/-- A case with its labels. -/
def caseLines (types : List HandleType) (statement : Statement) : List SwitchLine :=
  types.map .label ++ [.run statement, .leave]

def otherCases (timer : Statement) : List SwitchLine :=
  caseLines [.subscription, .subscriptionWithContext] (.serve .subscription) ++
  caseLines [.timer] timer ++
  caseLines [.service, .serviceWithRequestId, .serviceWithContext] (.serve .service) ++
  caseLines [.client, .clientWithRequestId] (.serve .client)

def actionCases : List SwitchLine :=
  caseLines [.actionClient] (.serve .actionClient) ++
  caseLines [.actionServer] (.serve .actionServer)

/-- A file with the cases that the patch is about. -/
def samplePatched : PatchedExecutor where
  switch
    | .takeNewData => {
        before := otherCases .nothingToDo
        region := actionCases ++ [.label .guardCondition, .run .nothingToDo, .leave]
        after := [.default, .run .unknownType, .leave]
        plain := by decide
        closed := .inr rfl
        noDefault := rfl }
    | .checkHandleDataAvailable => {
        before := []
        region := actionCases
        after := [.default, .run .testDataAvailable, .leave]
        plain := by decide
        closed := .inl rfl
        noDefault := rfl }
    | .checkForNewData | .execute | .spinSome => {
        before := otherCases (.serve .timer) ++ caseLines [.guardCondition] (.serve .guardCondition)
        region := actionCases
        after := [.default, .run .unknownType, .leave]
        plain := by decide
        closed := .inr rfl
        noDefault := rfl }
  goesOn _ code := code == retOkCode
  goesOn_ok _ := rfl
  goesOn_error _ := rfl
  region_labels := by
    intro p hp type
    cases p with
    | takeNewData => exact absurd rfl hp
    | _ => cases type <;> decide
  actionLines := actionCases
  action_labels := by
    intro type
    cases type <;> decide
  take_region := rfl
  take_after := rfl
  take_labels := by
    intro type
    cases type <;> decide
  take_default := rfl
  take_known := by decide

/-- Subscriptions and timers are treated alike. -/
theorem actions_off_agrees_without_guards :
    samplePatched.run true .takeNewData (fun _ _ => 0) [.subscription, .timer] =
      samplePatched.run false .takeNewData (fun _ _ => 0) [.subscription, .timer] :=
  (actions_off_agrees_iff samplePatched [.subscription, .timer] (by decide)).2.mpr (by decide) _

/-- A guard condition before a subscription, with nothing else amiss: without actions the pass ends
with an error before it takes the data of the subscription. -/
theorem actions_off_guard_fails :
    samplePatched.run true .takeNewData (fun _ _ => 0) [.guardCondition, .subscription] =
      (0, [(0, [.nothingToDo]), (1, [.serve .subscription])]) ∧
    samplePatched.run false .takeNewData (fun _ _ => 0) [.guardCondition, .subscription] =
      (1, []) := by
  decide

end Sample

end Ros2Zephyr
