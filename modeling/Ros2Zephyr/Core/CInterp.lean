import Mathlib.Logic.Function.Basic
import Ros2Zephyr.Core.CParser

/-!
# Running a fragment of C

An interpreter for `CLang`.  What is outside the file is a parameter: the value of a named constant,
the conversion that a member's type forces on what is stored in it, and the effect of a call to a
function that the file does not define.

* A structure outside the file is an object with members; pointers to it and to its members are
  values, and nothing else is known of its layout.
* The address of a local variable is passed with what the variable holds: the callee only reads it.
* A run that leaves the fragment has no result.
-/

namespace CLang

inductive Value
  | int (n : ℤ)
  | null
  | str (s : PyStr)
  | const (name : PyStr)
  | function (name : PyStr)
  | object (name : PyStr)
  | member (object member : PyStr)
  | struct (fields : PyStr → Value)
  | pointer (target : Value)
  | invocation (name : PyStr) (args : List Token)
  | size

namespace Value

def truth : Value → Option Bool
  | int n => some (n != 0)
  | null => some false
  | object _ => some true
  | member _ _ => some true
  | _ => none

def equal : Value → Value → Option Bool
  | int m, int n => some (m == n)
  | null, null => some true
  | object _, null => some false
  | null, object _ => some false
  | _, _ => none

def ofBool (b : Bool) : Value := int (if b then 1 else 0)

end Value

/-- `locals` are the variables of the running function, `members` those of the objects. -/
structure State (ω : Type) where
  locals : PyStr → Option Value
  members : PyStr → PyStr → Value
  world : ω

namespace State

variable {ω : Type}

def setLocal (s : State ω) (name : PyStr) (v : Value) : State ω :=
  { s with locals := Function.update s.locals name (some v) }

def setMember (s : State ω) (object member : PyStr) (v : Value) : State ω :=
  { s with members :=
    Function.update s.members object (Function.update (s.members object) member v) }

/-- Every member of an object becomes zero. -/
def clear (s : State ω) (object : PyStr) : State ω :=
  { s with members := Function.update s.members object fun _ => .int 0 }

end State

/-- The effect of a call. -/
abbrev Handler (ω : Type) := PyStr → List Value → State ω → Option (Value × State ω)

/-- What a file takes from its headers. -/
structure Platform where
  constant : PyStr → Option Value
  convert : PyStr → Value → Value

section Eval

variable {ω : Type} (platform : Platform) (call : Handler ω)

mutual

def eval : Expr → State ω → Option (Value × State ω)
  | .ident name, s =>
      match s.locals name with
      | some v => some (v, s)
      | none => some ((platform.constant name).getD (.function name), s)
  | .number n, s => some (.int n, s)
  | .str v, s => some (.str v, s)
  | .invocation name args, s => some (.invocation name args, s)
  | .call f args, s => do
      let (vs, s) ← evalArgs args s
      match f with
      | .ident name => if (s.locals name).isNone then call name vs s else none
      | .invocation name args => if vs.isEmpty then some (.invocation name args, s) else none
      | _ => none
  | .arrow base member, s => do
      match ← eval base s with
      | (.object o, s) => some (s.members o member, s)
      | _ => none
  | .dot base member, s => do
      match ← eval base s with
      | (.struct fields, s) => some (fields member, s)
      | _ => none
  | .addr (.arrow base member), s => do
      match ← eval base s with
      | (.object o, s) => some (.member o member, s)
      | _ => none
  | .addr (.ident name), s => do
      let v ← s.locals name
      some (.pointer v, s)
  | .addr _, _ => none
  | .deref _, _ => none
  | .size _, s => some (.size, s)
  | .toVoid e, s => eval e s
  | .binary .conj left right, s => do
      let (v, s) ← eval left s
      if ← v.truth then do
        let (w, s) ← eval right s
        some (.ofBool (← w.truth), s)
      else some (.ofBool false, s)
  | .binary .disj left right, s => do
      let (v, s) ← eval left s
      if ← v.truth then some (.ofBool true, s)
      else do
        let (w, s) ← eval right s
        some (.ofBool (← w.truth), s)
  | .binary .equal left right, s => do
      let (v, s) ← eval left s
      let (w, s) ← eval right s
      some (.ofBool (← v.equal w), s)
  | .binary .notEqual left right, s => do
      let (v, s) ← eval left s
      let (w, s) ← eval right s
      some (.ofBool !(← v.equal w), s)

def evalArgs : List Expr → State ω → Option (List Value × State ω)
  | [], s => some ([], s)
  | e :: es, s => do
      let (v, s) ← eval e s
      let (vs, s) ← evalArgs es s
      some (v :: vs, s)

end

/-- How a statement ends. -/
inductive Outcome
  | next
  | returned (v : Value)

def Stmt.isDeclare : Stmt → Bool
  | .declare _ _ _ => true
  | _ => false

mutual

def exec : Stmt → State ω → Option (Outcome × State ω)
  | .declare _ name value, s => do
      let (v, s) ← eval platform call value s
      some (.next, s.setLocal name v)
  | .assign (.ident name) value, s => do
      let _ ← s.locals name
      let (v, s) ← eval platform call value s
      some (.next, s.setLocal name v)
  | .assign (.arrow base member) value, s => do
      match ← eval platform call base s with
      | (.object o, s) => do
          let (v, s) ← eval platform call value s
          some (.next, s.setMember o member (platform.convert member v))
      | _ => none
  | .assign (.dot (.ident name) member) value, s => do
      let (v, s) ← eval platform call value s
      match s.locals name with
      | some (.struct fields) =>
          some (.next,
            s.setLocal name (.struct (Function.update fields member (platform.convert member v))))
      | _ => none
  | .assign _ _, _ => none
  | .expr e, s => do
      let (_, s) ← eval platform call e s
      some (.next, s)
  | .branch condition body, s => do
      let (v, s) ← eval platform call condition s
      -- a block has no variables of its own in the fragment
      if body.any Stmt.isDeclare then none
      else if ← v.truth then execBlock body s
      else some (.next, s)
  | .ret value, s => do
      let (v, s) ← eval platform call value s
      some (.returned v, s)

def execBlock : List Stmt → State ω → Option (Outcome × State ω)
  | [], s => some (.next, s)
  | stmt :: stmts, s => do
      match ← exec stmt s with
      | (.next, s) => execBlock stmts s
      | (.returned v, s) => some (.returned v, s)

end

attribute [simp] eval evalArgs exec execBlock

/-- Running a function on its arguments; the caller's variables come back after it. -/
def invoke (f : Function) (args : List Value) (s : State ω) : Option (Value × State ω) :=
  if f.params.length = args.length then do
    let frame := fun name => (f.params.zip args).lookup name
    match ← execBlock platform call f.body { s with locals := frame } with
    | (.returned v, s') => some (v, { s' with locals := s.locals })
    | (.next, _) => none
  else none

end Eval

/-- Calls up to a depth: the functions of the file first, then those outside. -/
def callFile {ω : Type} (platform : Platform) (outside : Handler ω) (functions : List Function) :
    ℕ → Handler ω
  | 0, name, args, s =>
    if (functions.find? (·.name = name)).isSome then none else outside name args s
  | depth + 1, name, args, s =>
      match functions.find? (·.name = name) with
      | some f => invoke platform (callFile platform outside functions depth) f args s
      | none => outside name args s

end CLang
