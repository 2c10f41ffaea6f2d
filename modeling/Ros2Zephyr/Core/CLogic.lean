import Ros2Zephyr.Core.CInterp

/-!
# Rules for running statements

`Ends` says that a block comes to its end and what holds then.  A block is verified statement by
statement, and a block that was made from a list with one invariant for the whole list.

* `Post` — what holds after a block that goes on, and after one that returns.
* `Ends.append`, `Ends.flatMap` — a block after a block, and a block for every element of a list.
* `eval_*` and `exec_*` — the single expressions and statements.
-/

namespace CLang

variable {ω : Type}

namespace State

variable {s : State ω} {name name' : PyStr} {v : Value}

@[simp] lemma setLocal_members : (s.setLocal name v).members = s.members := rfl

@[simp] lemma setLocal_world : (s.setLocal name v).world = s.world := rfl

@[simp] lemma setLocal_locals_self : (s.setLocal name v).locals name = some v :=
  Function.update_self ..

lemma setLocal_locals_of_ne (h : name' ≠ name) :
    (s.setLocal name v).locals name' = s.locals name' :=
  Function.update_of_ne h ..

@[simp] lemma setMember_locals {object : PyStr} :
    (s.setMember object name v).locals = s.locals := rfl

@[simp] lemma setMember_world {object : PyStr} : (s.setMember object name v).world = s.world := rfl

@[simp] lemma setMember_members_self {object : PyStr} :
    (s.setMember object name v).members object name = v := by
  simp [setMember]

lemma setMember_members_of_ne {object : PyStr} (h : name' ≠ name) :
    (s.setMember object name v).members object name' = s.members object name' := by
  simp [setMember, h]

end State

/-- What holds after a block. -/
def Post (next : State ω → Prop) (returned : Value → State ω → Prop) : Outcome → State ω → Prop
  | .next, s => next s
  | .returned v, s => returned v s

section Statements

variable {platform : Platform} {call : Handler ω} {s s₁ s₂ : State ω} {v w : Value} {name : PyStr}
  {e e' : Expr}

lemma eval_number (n : ℕ) : eval platform call (.number n) s = some (.int n, s) := by
  simp

lemma evalArgs_nil : evalArgs platform call [] s = some ([], s) := by
  simp

lemma exec_expr (h : eval platform call e s = some (v, s₁)) :
    exec platform call (.expr e) s = some (.next, s₁) := by
  simp [h]

lemma execBlock_next {stmt : Stmt} {block : List Stmt}
    (h : exec platform call stmt s = some (.next, s₁)) :
    execBlock platform call (stmt :: block) s = execBlock platform call block s₁ := by
  simp [h]

lemma eval_notEqual (h : eval platform call e s = some (v, s₁))
    (h' : eval platform call e' s₁ = some (w, s₂)) {b : Bool} (hequal : v.equal w = some b) :
    eval platform call (.binary .notEqual e e') s = some (.ofBool !b, s₂) := by
  simp [h, h', hequal]

lemma eval_equal (h : eval platform call e s = some (v, s₁))
    (h' : eval platform call e' s₁ = some (w, s₂)) {b : Bool} (hequal : v.equal w = some b) :
    eval platform call (.binary .equal e e') s = some (.ofBool b, s₂) := by
  simp [h, h', hequal]

lemma eval_conj_false (h : eval platform call e s = some (v, s₁)) (hv : v.truth = some false) :
    eval platform call (.binary .conj e e') s = some (.ofBool false, s₁) := by
  simp [h, hv]

lemma eval_conj_true (h : eval platform call e s = some (v, s₁)) (hv : v.truth = some true)
    (h' : eval platform call e' s₁ = some (w, s₂)) {b : Bool} (hw : w.truth = some b) :
    eval platform call (.binary .conj e e') s = some (.ofBool b, s₂) := by
  simp [h, hv, h', hw]

lemma eval_disj_false (h : eval platform call e s = some (v, s₁)) (hv : v.truth = some false)
    (h' : eval platform call e' s₁ = some (w, s₂)) {b : Bool} (hw : w.truth = some b) :
    eval platform call (.binary .disj e e') s = some (.ofBool b, s₂) := by
  simp [h, hv, h', hw]

lemma evalArgs_cons {es : List Expr} {vs : List Value}
    (h : eval platform call e s = some (v, s₁))
    (h' : evalArgs platform call es s₁ = some (vs, s₂)) :
    evalArgs platform call (e :: es) s = some (v :: vs, s₂) := by
  simp [h, h']

lemma eval_call {args : List Expr} {vs : List Value}
    (hargs : evalArgs platform call args s = some (vs, s₁)) (hlocal : s₁.locals name = none)
    (hcall : call name vs s₁ = some (v, s₂)) :
    eval platform call (.call (.ident name) args) s = some (v, s₂) := by
  simp [hargs, hlocal, hcall]

lemma eval_local (h : s.locals name = some v) :
    eval platform call (.ident name) s = some (v, s) := by
  simp [h]

lemma eval_str (text : PyStr) : eval platform call (.str text) s = some (.str text, s) := by
  simp

lemma eval_size (e : Expr) : eval platform call (.size e) s = some (.size, s) := by
  simp

lemma eval_addr_local (h : s.locals name = some v) :
    eval platform call (.addr (.ident name)) s = some (.pointer v, s) := by
  simp [h]

lemma exec_declare {type : PyStr} (h : eval platform call e s = some (v, s₁)) :
    exec platform call (.declare type name e) s = some (.next, s₁.setLocal name v) := by
  simp [h]

lemma exec_assign (hlocal : s.locals name = some w) (h : eval platform call e s = some (v, s₁)) :
    exec platform call (.assign (.ident name) e) s = some (.next, s₁.setLocal name v) := by
  simp [hlocal, h]

lemma exec_assign_arrow {object : PyStr}
    (hbase : eval platform call e s = some (.object object, s₁))
    (h : eval platform call e' s₁ = some (v, s₂)) :
    exec platform call (.assign (.arrow e name) e') s =
      some (.next, s₂.setMember object name (platform.convert name v)) := by
  simp [hbase, h]

lemma exec_assign_dot {member : PyStr} {fields : PyStr → Value}
    (h : eval platform call e s = some (v, s₁)) (hlocal : s₁.locals name = some (.struct fields)) :
    exec platform call (.assign (.dot (.ident name) member) e) s = some (.next,
      s₁.setLocal name (.struct (Function.update fields member (platform.convert member v)))) := by
  simp [h, hlocal]

lemma exec_branch_false {body : List Stmt} (h : eval platform call e s = some (v, s₁))
    (hv : v.truth = some false) (hbody : body.any Stmt.isDeclare = false) :
    exec platform call (.branch e body) s = some (.next, s₁) := by
  simp only [exec, h, Option.bind_eq_bind, Option.bind_some, hbody, hv, Bool.false_eq_true,
    if_false]

lemma exec_branch_true {body : List Stmt} (h : eval platform call e s = some (v, s₁))
    (hv : v.truth = some true) (hbody : body.any Stmt.isDeclare = false) :
    exec platform call (.branch e body) s = execBlock platform call body s₁ := by
  simp only [exec, h, Option.bind_eq_bind, Option.bind_some, hbody, hv, Bool.false_eq_true,
    if_false,
    if_true]

lemma exec_ret (h : eval platform call e s = some (v, s₁)) :
    exec platform call (.ret e) s = some (.returned v, s₁) := by
  simp [h]

lemma execBlock_returned {stmt : Stmt} {block : List Stmt}
    (h : exec platform call stmt s = some (.returned v, s₁)) :
    execBlock platform call (stmt :: block) s = some (.returned v, s₁) := by
  simp [h]

end Statements

section Rules

variable {platform : Platform} {call : Handler ω}

variable (platform call) in
/-- The block comes to an end, and `Q` holds there. -/
def Ends (block : List Stmt) (s : State ω) (Q : Outcome → State ω → Prop) : Prop :=
  ∃ outcome s', execBlock platform call block s = some (outcome, s') ∧ Q outcome s'

variable {s s' : State ω} {Q Q' : Outcome → State ω → Prop} {stmt : Stmt} {block rest : List Stmt}
  {v : Value}

lemma Ends.nil (h : Q .next s) : Ends platform call [] s Q := ⟨.next, s, by simp, h⟩

lemma Ends.next (hstmt : exec platform call stmt s = some (.next, s'))
    (h : Ends platform call block s' Q) : Ends platform call (stmt :: block) s Q := by
  obtain ⟨outcome, t, hexec, hpost⟩ := h
  exact ⟨outcome, t, (execBlock_next hstmt).trans hexec, hpost⟩

lemma Ends.returned (hstmt : exec platform call stmt s = some (.returned v, s'))
    (h : Q (.returned v) s') : Ends platform call (stmt :: block) s Q :=
  ⟨.returned v, s', execBlock_returned hstmt, h⟩

/-- **One block after the other.** -/
theorem Ends.append {P : State ω → Prop} {R : Value → State ω → Prop}
    (h : Ends platform call block s (Post P R))
    (hrest : ∀ t, P t → Ends platform call rest t Q)
    (hreturned : ∀ v t, R v t → Q (.returned v) t) :
    Ends platform call (block ++ rest) s Q := by
  induction block generalizing s with
  | nil =>
      obtain ⟨outcome, t, hexec, hpost⟩ := h
      simp only [execBlock, Option.some.injEq, Prod.mk.injEq] at hexec
      obtain ⟨rfl, rfl⟩ := hexec
      exact hrest _ hpost
  | cons stmt block ih =>
      obtain ⟨outcome, t, hexec, hpost⟩ := h
      simp only [execBlock, Option.bind_eq_bind, Option.bind_eq_some_iff] at hexec
      obtain ⟨⟨first, s₁⟩, hstmt, hexec⟩ := hexec
      cases first with
      | next => exact Ends.next hstmt (ih ⟨outcome, t, hexec, hpost⟩)
      | returned v =>
          simp only [Option.some.injEq, Prod.mk.injEq] at hexec
          obtain ⟨rfl, rfl⟩ := hexec
          exact Ends.returned hstmt (hreturned v _ hpost)

/-- **A block for every element of a list**, with an invariant that knows the elements before. -/
theorem Ends.flatMap {α : Type} {l : List α} {f : α → List Stmt} {I : List α → State ω → Prop}
    {R : Value → State ω → Prop}
    (hstep : ∀ before a after, l = before ++ a :: after → ∀ t, I before t →
      Ends platform call (f a) t (Post (I (before ++ [a])) R))
    (h : I [] s) : Ends platform call (l.flatMap f) s (Post (I l) R) := by
  suffices ∀ after before t, l = before ++ after → I before t →
      Ends platform call (after.flatMap f) t (Post (I l) R) from this l [] s rfl h
  intro after
  induction after with
  | nil =>
      intro before t hl hinv
      rw [List.append_nil] at hl
      exact Ends.nil (hl ▸ hinv)
  | cons a after ih =>
      intro before t hl hinv
      rw [List.flatMap_cons]
      refine (hstep before a after hl t hinv).append (fun t' hinv' => ?_) (fun _ _ hr => hr)
      exact ih (before ++ [a]) t' (by simp [hl]) hinv'

theorem Ends.map {α : Type} {l : List α} {f : α → Stmt} {I : List α → State ω → Prop}
    {R : Value → State ω → Prop}
    (hstep : ∀ before a after, l = before ++ a :: after → ∀ t, I before t →
      ∃ t', exec platform call (f a) t = some (.next, t') ∧ I (before ++ [a]) t')
    (h : I [] s) : Ends platform call (l.map f) s (Post (I l) R) := by
  rw [List.map_eq_flatMap]
  refine Ends.flatMap (fun before a after hl t hinv => ?_) h
  obtain ⟨t', hexec, hinv'⟩ := hstep before a after hl t hinv
  exact Ends.next hexec (Ends.nil hinv')

end Rules

section Calls

variable {platform : Platform} {outside : Handler ω} {functions : List Function} {depth : ℕ}
  {name : PyStr} {args : List Value} {s s' : State ω}

lemma callFile_outside (h : functions.find? (·.name = name) = none) :
    callFile platform outside functions depth name args s = outside name args s := by
  cases depth with
  | zero => simp [callFile, h]
  | succ depth => simp [callFile, h]

/-- A function of the file that returns. -/
lemma callFile_of_ends (outside : Handler ω) (functions : List Function) (s : State ω)
    {f : Function} {R : Value → State ω → Prop}
    (hfind : functions.find? (·.name = name) = some f) (hargs : f.params.length = args.length)
    (h : Ends platform (callFile platform outside functions depth) f.body
      { s with locals := fun x => (f.params.zip args).lookup x } (Post (fun _ => False) R)) :
    ∃ v s', R v s' ∧ callFile platform outside functions (depth + 1) name args s =
      some (v, { s' with locals := s.locals }) := by
  obtain ⟨outcome, s', hexec, hpost⟩ := h
  cases outcome with
  | next => exact hpost.elim
  | returned v => exact ⟨v, s', hpost, by simp [callFile, hfind, invoke, hargs, hexec]⟩

end Calls

end CLang
