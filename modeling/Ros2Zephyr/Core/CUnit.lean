import Ros2Zephyr.Core.CParser

/-!
# A C file and the header it includes

What a compiler checks of a generated header and source before there is a program, for the fragment
of `CLang`.

* `Headers` — the files that can be included, and what they bring in as far as it can get in the way
  of a name: the macros and other words that do not stand for themselves, the types, and the
  remaining names.
* `FileScope.declare` — the declarations of the header, one after the other.  A name is declared
  once, but for a prototype `void f(const void *)` that may be repeated; the members of a structure
  have different names; the types are known.
* `FileScope.Accepts` — a function of the source: it is declared, its variables stand for themselves
  and hide no handler, its constants have a type, and no argument of a macro is replaced.
* `translate` — both files, from their texts.
-/

namespace CLang

/-- The headers outside: their paths, and what they bring in.  `macros` are all words that do not
stand for themselves: object-like macros, keywords of the dialect and predefined identifiers.
`names` are the identifiers declared at file scope as anything but a type or a function
`void f(const void *)`. -/
structure Headers where
  files : List PyStr
  functionMacros : List PyStr
  macros : List PyStr
  types : List PyStr
  names : List PyStr

inductive Declaration
  | define (name : PyStr)
  | record (name : PyStr) (members : List (PyStr × PyStr))
  | function (result name : PyStr) (params : List (PyStr × PyStr))
  | handler (name param : PyStr)

/-! ## The declarations of a header

The fragment has three of them, records, prototypes and handlers, and lines that define or include
something.
-/

section Declarations

/-- The word that a `#define` line defines. -/
def definedWord (directive : PyStr) : Option PyStr :=
  if "define " <+: directive then
    some ((directive.drop 7).takeWhile PyStr.isWordChar)
  else none

/-- The path of an `#include <path>` line. -/
def includedPath (directive : PyStr) : Option PyStr :=
  if "include <" <+: directive then
    some ((directive.drop 9).takeWhile (· ≠ '>'.toNat))
  else none

def Token.includes? : Token → Option PyStr
  | .directive text => includedPath text
  | _ => none

/-- The paths that a file includes. -/
def includedPaths (tokens : List Token) : List PyStr := tokens.filterMap Token.includes?

/-- Members of a structure, up to the closing brace. -/
def parseMembers : List Token → Option (List (PyStr × PyStr) × List Token)
  | .ident type :: .ident name :: .punct .semicolon :: rest => do
      let (members, rest) ← parseMembers rest
      some ((type, name) :: members, rest)
  | .punct .rbrace :: rest => some ([], rest)
  | _ => none

/-- Parameters with their types, after the opening parenthesis. -/
def parseTypedParams : List Token → Option (List (PyStr × PyStr) × List Token)
  | .ident type :: .punct .star :: .ident name :: .punct .comma :: rest => do
      let (params, rest) ← parseTypedParams rest
      some ((type, name) :: params, rest)
  | .ident type :: .punct .star :: .ident name :: .punct .rparen :: rest =>
    some ([(type, name)], rest)
  | _ => none

/-- The declarations of a header.  Its guard is taken as not defined before. -/
def parseDeclarations : ℕ → List Token → Option (List Declaration)
  | _, [] => some []
  | 0, _ => none
  | n + 1, .directive text :: rest =>
      match definedWord text with
      | some name => (parseDeclarations n rest).map (.define name :: ·)
      | none => parseDeclarations n rest
  | n + 1, .keyword .typedef :: .keyword .struct :: .ident _ :: .punct .lbrace :: rest => do
      match ← parseMembers rest with
      | (members, .ident name :: .punct .semicolon :: rest) =>
          (parseDeclarations n rest).map (.record name members :: ·)
      | _ => none
  | n + 1, .keyword .void :: .ident name :: .punct .lparen :: .keyword .const :: .keyword .void ::
      .punct .star :: .ident param :: .punct .rparen :: .punct .semicolon :: rest =>
      (parseDeclarations n rest).map (.handler name param :: ·)
  | n + 1, .ident result :: .ident name :: .punct .lparen :: rest => do
      match ← parseTypedParams rest with
      | (params, .punct .semicolon :: rest) =>
          (parseDeclarations n rest).map (.function result name params :: ·)
      | _ => none
  | _ + 1, _ => none

end Declarations

/-! ## Scopes

The declarations are taken in order, each in the scope of those before it and of the headers
outside.
-/

/-- What the names at file scope are. -/
structure FileScope where
  macros : List PyStr
  types : List PyStr
  names : List PyStr
  handlers : List PyStr

def Headers.scope (headers : Headers) : FileScope :=
  ⟨headers.macros, headers.types, headers.names, []⟩

namespace FileScope

/-- The name is not taken, unless by a handler. -/
def Free (scope : FileScope) (name : PyStr) : Prop :=
  name ∉ scope.macros ∧ name ∉ scope.types ∧ name ∉ scope.names

instance (scope : FileScope) (name : PyStr) : Decidable (scope.Free name) :=
  inferInstanceAs (Decidable (_ ∧ _))

/-- Members or parameters: their types are known and their names stand for themselves. -/
def Typed (scope : FileScope) (entries : List (PyStr × PyStr)) : Prop :=
  ∀ entry ∈ entries, entry.1 ∈ scope.types ∧ entry.2 ∉ scope.macros

instance (scope : FileScope) (entries : List (PyStr × PyStr)) : Decidable (scope.Typed entries) :=
  inferInstanceAs (Decidable (∀ _ ∈ _, _))

def declare (scope : FileScope) : Declaration → Option FileScope
  | .define name => some { scope with macros := name :: scope.macros }
  | .record name members =>
      if scope.Typed members ∧ (members.map Prod.snd).Nodup ∧ scope.Free name then
        some { scope with types := name :: scope.types }
      else none
  | .function result name params =>
      if result ∈ scope.types ∧ scope.Typed params ∧ scope.Free name ∧ name ∉ scope.handlers then
        some { scope with names := name :: scope.names }
      else none
  | .handler name param =>
      if param ∉ scope.macros ∧ scope.Free name then
        some { scope with handlers := name :: scope.handlers }
      else none

def declareAll (scope : FileScope) : List Declaration → Option FileScope
  | [] => some scope
  | declaration :: declarations => (scope.declare declaration).bind (·.declareAll declarations)

end FileScope

/-! ## The functions of the source

What is asked of a function is asked of every leaf of its expressions.  A variable may hide a name
of the file scope, but not that of a handler, which the function passes on.
-/

section Every

mutual

/-- A test of every expression that has no parts. -/
def Expr.every (test : Expr → Bool) : Expr → Bool
  | .call f args => f.every test && Expr.everyList test args
  | .arrow base _ => base.every test
  | .dot base _ => base.every test
  | .addr e => e.every test
  | .deref e => e.every test
  | .size e => e.every test
  | .toVoid e => e.every test
  | .binary _ left right => left.every test && right.every test
  | .ident name => test (.ident name)
  | .number value => test (.number value)
  | .str value => test (.str value)
  | .invocation name args => test (.invocation name args)

def Expr.everyList (test : Expr → Bool) : List Expr → Bool
  | [] => true
  | e :: es => e.every test && Expr.everyList test es

end

mutual

def Stmt.every (test : Expr → Bool) : Stmt → Bool
  | .declare _ _ value => value.every test
  | .assign target value => target.every test && value.every test
  | .expr e => e.every test
  | .branch condition body => condition.every test && Stmt.everyList test body
  | .ret value => value.every test

def Stmt.everyList (test : Expr → Bool) : List Stmt → Bool
  | [] => true
  | stmt :: stmts => stmt.every test && Stmt.everyList test stmts

end

lemma Stmt.everyList_eq_true_iff {test : Expr → Bool} {stmts : List Stmt} :
    Stmt.everyList test stmts = true ↔ ∀ stmt ∈ stmts, stmt.every test = true := by
  induction stmts with
  | nil => simp [Stmt.everyList]
  | cons stmt stmts ih => simp [Stmt.everyList, ih]

end Every

/-- The variable of a declaration. -/
def Stmt.variable? : Stmt → Option PyStr
  | .declare _ name _ => some name
  | _ => none

/-- The parameters and variables of a function; a block has none of its own in the fragment. -/
def Function.locals (f : Function) : List PyStr := f.params ++ f.body.filterMap Stmt.variable?

namespace FileScope

/-- A constant has a type, and the arguments of a macro are words that are not replaced. -/
def leaf (scope : FileScope) : Expr → Bool
  | .number n => decide (n < 2 ^ 64)
  | .invocation _ args => args.all fun arg => arg.word?.any fun word => decide (word ∉ scope.macros)
  | _ => true

def Accepts (scope : FileScope) (f : Function) : Prop :=
  f.name ∈ scope.names ∧ (∀ x ∈ f.locals, x ∉ scope.macros ∧ x ∉ scope.handlers) ∧
    Stmt.everyList scope.leaf f.body = true

instance (scope : FileScope) (f : Function) : Decidable (scope.Accepts f) :=
  inferInstanceAs (Decidable (_ ∧ _))

end FileScope

/-- The tokens of a file, with adjacent literals put together. -/
def lexUnit (macros : List PyStr) (text : PyStr) : Option (List Token) :=
  (lex macros text).map joinLiterals

/-- The functions of a source file, where it and the header that it includes can be compiled. -/
def translate (headers : Headers) (header source : PyStr) : Option (List Function) := do
  let headerTokens ← lexUnit headers.functionMacros header
  let declarations ← parseDeclarations headerTokens.length headerTokens
  let scope ← headers.scope.declareAll declarations
  let sourceTokens ← lexUnit headers.functionMacros source
  let functions ← parseUnit (sourceTokens.length + 64) sourceTokens
  if includedPaths headerTokens ⊆ headers.files ∧ includedPaths sourceTokens ⊆ headers.files ∧
      ∀ f ∈ functions, scope.Accepts f then
    some functions
  else none

section Includes

/-- The arguments of macros are words. -/
def wordArguments : Expr → Bool
  | .invocation _ args => args.all fun arg => arg.word?.isSome
  | _ => true

lemma includedPaths_append {tokens tokens' : List Token} :
    includedPaths (tokens ++ tokens') = includedPaths tokens ++ includedPaths tokens' :=
  List.filterMap_append

lemma includedPaths_cons {token : Token} (h : token.includes? = none) (tokens : List Token) :
    includedPaths (token :: tokens) = includedPaths tokens := by
  rw [includedPaths, List.filterMap_cons_none h, includedPaths]

lemma includedPaths_append_nil {tokens tokens' : List Token} (h : includedPaths tokens = [])
    (h' : includedPaths tokens' = []) : includedPaths (tokens ++ tokens') = [] := by
  rw [includedPaths_append, h, h', List.append_nil]

lemma includedPaths_flatMap {α : Type} {l : List α} {f : α → List Token}
    (h : ∀ a ∈ l, includedPaths (f a) = []) : includedPaths (l.flatMap f) = [] := by
  induction l with
  | nil => rfl
  | cons a l ih =>
      rw [List.forall_mem_cons] at h
      exact includedPaths_append_nil h.1 (ih h.2)

lemma includedPaths_separated {items : List (List Token)}
    (h : ∀ item ∈ items, includedPaths item = []) : includedPaths (separated items) = [] := by
  induction items with
  | nil => rfl
  | cons item items ih =>
      rw [List.forall_mem_cons] at h
      cases items with
      | nil => exact h.1
      | cons next items =>
          exact includedPaths_append_nil h.1 ((includedPaths_cons rfl _).trans (ih h.2))

lemma includes?_classify (macros : List PyStr) (word : PyStr) :
    (classify macros word).includes? = none := by
  have hword := word?_classify macros word
  cases hclass : classify macros word with
  | directive text =>
      rw [hclass] at hword
      cases hword
  | _ => rfl

mutual

/-- The tokens of an expression include nothing. -/
lemma Expr.includedPaths_tokens :
    ∀ e : Expr, e.every wordArguments = true → includedPaths e.tokens = []
  | .ident name, _ => rfl
  | .number value, _ => rfl
  | .str value, _ => rfl
  | .invocation name args, h => by
      have hargs : ∀ item ∈ args.map fun arg => [arg], includedPaths item = [] := by
        intro item hitem
        obtain ⟨arg, harg, rfl⟩ := List.mem_map.mp hitem
        have hword := List.all_eq_true.mp h arg harg
        cases arg with
        | directive text => cases hword
        | _ => rfl
      rw [Expr.tokens, includedPaths_cons rfl, includedPaths_cons rfl]
      exact includedPaths_append_nil (includedPaths_separated hargs) rfl
  | .call f args, h => by
      rw [Expr.every, Bool.and_eq_true] at h
      have hargs := includedPaths_separated (Expr.includedPaths_tokensList args h.2)
      refine includedPaths_append_nil (Expr.includedPaths_tokens f h.1) ?_
      exact (includedPaths_cons rfl _).trans (includedPaths_append_nil hargs rfl)
  | .arrow base member, h => includedPaths_append_nil (Expr.includedPaths_tokens base h) rfl
  | .dot base member, h => includedPaths_append_nil (Expr.includedPaths_tokens base h) rfl
  | .addr e, h => Expr.includedPaths_tokens e h
  | .deref e, h => Expr.includedPaths_tokens e h
  | .size e, h => by
      rw [Expr.tokens, includedPaths_cons rfl, includedPaths_cons rfl]
      exact includedPaths_append_nil (Expr.includedPaths_tokens e h) rfl
  | .toVoid e, h => Expr.includedPaths_tokens e h
  | .binary op left right, h => by
      rw [Expr.every, Bool.and_eq_true] at h
      have hop : op.token.includes? = none := by cases op <;> rfl
      refine includedPaths_append_nil (Expr.includedPaths_tokens left h.1) ?_
      exact (includedPaths_cons hop _).trans (Expr.includedPaths_tokens right h.2)

lemma Expr.includedPaths_tokensList :
    ∀ es : List Expr, Expr.everyList wordArguments es = true →
      ∀ item ∈ Expr.tokensList es, includedPaths item = []
  | [], _ => by simp [Expr.tokensList]
  | e :: es, h => by
      rw [Expr.everyList, Bool.and_eq_true] at h
      rw [Expr.tokensList, List.forall_mem_cons]
      exact ⟨Expr.includedPaths_tokens e h.1, Expr.includedPaths_tokensList es h.2⟩

end

mutual

lemma Stmt.includedPaths_tokens :
    ∀ stmt : Stmt, stmt.every wordArguments = true → includedPaths stmt.tokens = []
  | .declare type name value, h => by
      rw [Stmt.tokens, includedPaths_cons rfl, includedPaths_cons rfl, includedPaths_cons rfl]
      exact includedPaths_append_nil (Expr.includedPaths_tokens value h) rfl
  | .assign target value, h => by
      rw [Stmt.every, Bool.and_eq_true] at h
      refine includedPaths_append_nil (Expr.includedPaths_tokens target h.1) ?_
      rw [includedPaths_cons rfl]
      exact includedPaths_append_nil (Expr.includedPaths_tokens value h.2) rfl
  | .expr e, h => includedPaths_append_nil (Expr.includedPaths_tokens e h) rfl
  | .branch condition body, h => by
      rw [Stmt.every, Bool.and_eq_true] at h
      rw [Stmt.tokens, includedPaths_cons rfl, includedPaths_cons rfl]
      refine includedPaths_append_nil (Expr.includedPaths_tokens condition h.1) ?_
      rw [includedPaths_cons rfl, includedPaths_cons rfl]
      exact includedPaths_append_nil (Stmt.includedPaths_tokensList body h.2) rfl
  | .ret value, h => by
      rw [Stmt.tokens, includedPaths_cons rfl]
      exact includedPaths_append_nil (Expr.includedPaths_tokens value h) rfl

lemma Stmt.includedPaths_tokensList :
    ∀ stmts : List Stmt, Stmt.everyList wordArguments stmts = true →
      includedPaths (Stmt.tokensList stmts) = []
  | [], _ => rfl
  | stmt :: stmts, h => by
      rw [Stmt.everyList, Bool.and_eq_true] at h
      exact includedPaths_append_nil (Stmt.includedPaths_tokens stmt h.1)
        (Stmt.includedPaths_tokensList stmts h.2)

end

end Includes

section Read

/-- The tokens of one member. -/
def memberTokens (member : PyStr × PyStr) : List Token :=
  [.ident member.1, .ident member.2, .punct .semicolon]

lemma parseMembers_memberTokens (members : List (PyStr × PyStr)) (rest : List Token) :
    parseMembers (members.flatMap memberTokens ++ .punct .rbrace :: rest)
      = some (members, rest) := by
  induction members with
  | nil => rfl
  | cons member members ih =>
      simp only [List.flatMap_cons, memberTokens, List.cons_append, List.nil_append,
        parseMembers, ih]
      rfl

lemma parseDeclarations_record (n : ℕ) (tag name : PyStr) (members : List (PyStr × PyStr))
    (rest : List Token) :
    parseDeclarations (n + 1)
        (.keyword .typedef :: .keyword .struct :: .ident tag :: .punct .lbrace ::
          (members.flatMap memberTokens ++
            .punct .rbrace :: .ident name :: .punct .semicolon :: rest)) =
      (parseDeclarations n rest).map (.record name members :: ·) := by
  rw [parseDeclarations, parseMembers_memberTokens]
  rfl

lemma parseDeclarations_function (n : ℕ) (result name : PyStr) {params : List (PyStr × PyStr)}
    {tokens : List Token}
    (hparams : ∀ rest, parseTypedParams (tokens ++ rest) = some (params, rest))
    (rest : List Token) :
    parseDeclarations (n + 1)
        (.ident result :: .ident name :: .punct .lparen ::
          (tokens ++ .punct .semicolon :: rest)) =
      (parseDeclarations n rest).map (.function result name params :: ·) := by
  rw [parseDeclarations, hparams]
  rfl

/-- The tokens of a prototype `void name(const void *param);`, whatever word its name is. -/
def handlerTokens (name : Token) (param : PyStr) : List Token :=
  [.keyword .void, name, .punct .lparen, .keyword .const, .keyword .void, .punct .star,
    .ident param,
    .punct .rparen, .punct .semicolon]

/-- A prototype is read exactly if its name is a name. -/
lemma parseDeclarations_handler (n : ℕ) (name : Token) (param : PyStr) (rest : List Token) :
    parseDeclarations (n + 1) (handlerTokens name param ++ rest) =
      match name with
      | .ident name => (parseDeclarations n rest).map (.handler name param :: ·)
      | _ => none := by
  cases name <;> rfl

/-- Prototypes are read exactly if all their names are names. -/
lemma parseDeclarations_handlers {macros : List PyStr} {param : PyStr} {n : ℕ} {rest : List Token}
    {names : List PyStr} {declarations : List Declaration} :
    parseDeclarations (n + names.length)
        (names.flatMap (fun name => handlerTokens (classify macros name) param) ++ rest) =
      some declarations ↔
      (∀ name ∈ names, classify macros name = .ident name) ∧
        ∃ more, parseDeclarations n rest = some more ∧
          declarations = names.map (Declaration.handler · param) ++ more := by
  induction names generalizing declarations with
  | nil => simp
  | cons name names ih =>
      rw [List.flatMap_cons, List.append_assoc, List.length_cons, ← Nat.add_assoc,
        parseDeclarations_handler, List.forall_mem_cons]
      have hword := word?_classify macros name
      cases hclass : classify macros name with
      | ident word =>
          rw [hclass] at hword
          obtain rfl : word = name := Option.some.inj hword
          simp only [Option.map_eq_some_iff, true_and]
          constructor
          · rintro ⟨later, hlater, rfl⟩
            obtain ⟨hnames, more, hmore, rfl⟩ := ih.mp hlater
            exact ⟨hnames, more, hmore, rfl⟩
          · rintro ⟨hnames, more, hmore, rfl⟩
            exact ⟨_, ih.mpr ⟨hnames, more, hmore, rfl⟩, rfl⟩
      | _ => simp

lemma parseDeclarations_includes {α : Type} (l : List α) (text : α → PyStr)
    (h : ∀ a, definedWord (text a) = none) (n : ℕ) (rest : List Token) :
    parseDeclarations (n + l.length) (l.map (fun a => .directive (text a)) ++ rest) =
      parseDeclarations n rest := by
  induction l with
  | nil => rfl
  | cons a l ih =>
      rw [List.map_cons, List.cons_append, List.length_cons, ← Nat.add_assoc,
        parseDeclarations, h a]
      exact ih

end Read

section Declare

variable {scope scope' : FileScope}

lemma declareAll_cons_iff {declaration : Declaration} {declarations : List Declaration} :
    scope.declareAll (declaration :: declarations) = some scope' ↔
      ∃ next, scope.declare declaration = some next ∧
        next.declareAll declarations = some scope' := by
  rw [FileScope.declareAll, Option.bind_eq_some_iff]

lemma declareAll_of_declare {declaration : Declaration} (declarations : List Declaration)
    (h : scope.declare declaration = some scope') :
    scope.declareAll (declaration :: declarations) = scope'.declareAll declarations := by
  rw [FileScope.declareAll, h, Option.bind_some]

lemma declareAll_record_iff {name : PyStr} {members : List (PyStr × PyStr)}
    {declarations : List Declaration} :
    scope.declareAll (.record name members :: declarations) = some scope' ↔
      (scope.Typed members ∧ (members.map Prod.snd).Nodup ∧ scope.Free name) ∧
        { scope with types := name :: scope.types }.declareAll declarations = some scope' := by
  rw [declareAll_cons_iff, FileScope.declare]
  split
  next h => simp [h]
  next h => simp [h]

/-- Prototypes of handlers do not get in each other's way. -/
lemma declareAll_handlers_iff {param : PyStr} (hparam : param ∉ scope.macros) {names : List PyStr} :
    scope.declareAll (names.map fun name => .handler name param) = some scope' ↔
      (∀ name ∈ names, scope.Free name) ∧
        scope' = { scope with handlers := names.reverse ++ scope.handlers } := by
  induction names generalizing scope with
  | nil => simp [FileScope.declareAll, eq_comm]
  | cons name names ih =>
      rw [List.map_cons, declareAll_cons_iff]
      constructor
      · rintro ⟨next, hnext, hrest⟩
        rw [FileScope.declare] at hnext
        split at hnext
        next hfree =>
          cases hnext
          obtain ⟨hnames, rfl⟩ :=
            (@ih { scope with handlers := name :: scope.handlers } hparam).mp hrest
          exact ⟨List.forall_mem_cons.mpr ⟨hfree.2, hnames⟩, by simp⟩
        next => cases hnext
      · rintro ⟨hnames, rfl⟩
        rw [List.forall_mem_cons] at hnames
        refine ⟨{ scope with handlers := name :: scope.handlers }, ?_, ?_⟩
        · rw [FileScope.declare, if_pos ⟨hparam, hnames.1⟩]
        · exact (@ih { scope with handlers := name :: scope.handlers } hparam).mpr
            ⟨hnames.2, by simp⟩

end Declare

end CLang
