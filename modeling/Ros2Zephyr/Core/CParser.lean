import Ros2Zephyr.Core.CLiteral

/-!
# The syntax of a fragment of C

Functions over pointers, with declarations, assignments, conditional blocks, calls and returns: the
straight-line code that a generator of setup code writes.

* A declaration starts with two names, the type and the variable.
* The arguments of a function-like macro are single tokens and are kept as such.
* The parser is a recursive descent with fuel; a statement is read with any fuel above its depth.
-/

namespace CLang

inductive BinOp
  | equal
  | notEqual
  | conj
  | disj
  deriving DecidableEq

inductive Expr
  | ident (name : PyStr)
  | number (value : ℕ)
  | str (value : PyStr)
  | invocation (name : PyStr) (args : List Token)
  | call (function : Expr) (args : List Expr)
  | arrow (base : Expr) (member : PyStr)
  | dot (base : Expr) (member : PyStr)
  | addr (e : Expr)
  | deref (e : Expr)
  | size (e : Expr)
  | toVoid (e : Expr)
  | binary (op : BinOp) (left right : Expr)

inductive Stmt
  | declare (type name : PyStr) (value : Expr)
  | assign (target value : Expr)
  | expr (e : Expr)
  | branch (condition : Expr) (body : List Stmt)
  | ret (value : Expr)

/-- A parameter is a pointer. -/
structure Function where
  name : PyStr
  params : List PyStr
  body : List Stmt

/-! ## Adjacent literals -/

/-- String literals in a row are one. -/
def joinLiterals : List Token → List Token
  | [] => []
  | .str value :: rest =>
      match joinLiterals rest with
      | .str next :: rest' => .str (value ++ next) :: rest'
      | rest' => .str value :: rest'
  | token :: rest => token :: joinLiterals rest

section Join

lemma joinLiterals_cons {token : Token} (h : token.str? = none) (rest : List Token) :
    joinLiterals (token :: rest) = token :: joinLiterals rest := by
  cases token with
  | str value => cases h
  | _ => rfl

/-- A token that is no literal keeps what stands before it apart from what stands after it. -/
lemma joinLiterals_append {token : Token} (h : token.str? = none) (before after : List Token) :
    joinLiterals (before ++ token :: after) =
      joinLiterals before ++ token :: joinLiterals after := by
  induction before with
  | nil => exact joinLiterals_cons h after
  | cons first before ih =>
      cases first with
      | str value =>
          rw [List.cons_append, joinLiterals, joinLiterals, ih]
          cases joinLiterals before with
          | nil =>
              cases token with
              | str next => cases h
              | _ => rfl
          | cons second rest => cases second <;> rfl
      | _ =>
          rw [List.cons_append, joinLiterals_cons rfl, joinLiterals_cons rfl, ih, List.cons_append]

lemma joinLiterals_literals {values : List PyStr} (h : values ≠ []) :
    joinLiterals (values.map .str) = [.str values.flatten] := by
  induction values with
  | nil => exact absurd rfl h
  | cons value values ih =>
      cases values with
      | nil => simp [joinLiterals]
      | cons next values =>
          rw [List.map_cons, joinLiterals, ih (List.cons_ne_nil _ _)]
          rfl

/-- `tokens` are what becomes of `raw`, whatever follows. -/
def Joins (raw tokens : List Token) : Prop :=
  ∀ rest, joinLiterals (raw ++ rest) = tokens ++ joinLiterals rest

lemma Joins.eq {raw tokens : List Token} (h : Joins raw tokens) : joinLiterals raw = tokens := by
  simpa [joinLiterals] using h []

lemma Joins.nil : Joins [] [] := fun _ => rfl

lemma Joins.append {raw raw' tokens tokens' : List Token} (h : Joins raw tokens)
    (h' : Joins raw' tokens') : Joins (raw ++ raw') (tokens ++ tokens') := by
  intro rest
  rw [List.append_assoc, h, h', List.append_assoc]

lemma Joins.flatMap {α : Type*} {l : List α} {f g : α → List Token}
    (h : ∀ a ∈ l, Joins (f a) (g a)) : Joins (l.flatMap f) (l.flatMap g) := by
  induction l with
  | nil => exact .nil
  | cons a l ih =>
      rw [List.forall_mem_cons] at h
      exact h.1.append (ih h.2)

lemma Joins.cons {token : Token} (h : token.str? = none) {raw tokens : List Token}
    (hraw : Joins raw tokens) : Joins (token :: raw) (token :: tokens) := by
  intro rest
  rw [List.cons_append, joinLiterals_cons h, hraw, List.cons_append]

/-- Tokens that end with one that is no literal. -/
lemma Joins.concat {token : Token} (h : token.str? = none) {raw tokens : List Token}
    (hraw : joinLiterals raw = tokens) : Joins (raw ++ [token]) (tokens ++ [token]) := by
  intro rest
  rw [List.append_assoc, List.singleton_append, joinLiterals_append h, hraw, List.append_assoc,
    List.singleton_append]

lemma joins_self {tokens : List Token} (h : ∀ token ∈ tokens, token.str? = none) :
    Joins tokens tokens := by
  induction tokens with
  | nil => exact .nil
  | cons token tokens ih =>
      rw [List.forall_mem_cons] at h
      exact .cons h.1 (ih h.2)

end Join

/-! ## The tokens of a program -/

section Tokens

def BinOp.token : BinOp → Token
  | .equal => .punct .equal
  | .notEqual => .punct .notEqual
  | .conj => .punct .conj
  | .disj => .punct .disj

/-- Items with commas between them. -/
def separated : List (List Token) → List Token
  | [] => []
  | [item] => item
  | item :: items => item ++ .punct .comma :: separated items

mutual

/-- The tokens of an expression that needs no parentheses for grouping. -/
def Expr.tokens : Expr → List Token
  | .ident name => [.ident name]
  | .number value => [.number value]
  | .str value => [.str value]
  | .invocation name args =>
      .invocation name :: .punct .lparen :: (separated (args.map ([·])) ++ [.punct .rparen])
  | .call f args =>
    f.tokens ++ .punct .lparen :: (separated (Expr.tokensList args) ++ [.punct .rparen])
  | .arrow base member => base.tokens ++ [.punct .arrow, .ident member]
  | .dot base member => base.tokens ++ [.punct .dot, .ident member]
  | .addr e => .punct .amp :: e.tokens
  | .deref e => .punct .star :: e.tokens
  | .size e => .keyword .size :: .punct .lparen :: (e.tokens ++ [.punct .rparen])
  | .toVoid e => .punct .lparen :: .keyword .void :: .punct .rparen :: e.tokens
  | .binary op left right => left.tokens ++ op.token :: right.tokens

def Expr.tokensList : List Expr → List (List Token)
  | [] => []
  | e :: es => e.tokens :: Expr.tokensList es

end

mutual

def Stmt.tokens : Stmt → List Token
  | .declare type name value =>
      .ident type :: .ident name :: .punct .assign :: (value.tokens ++ [.punct .semicolon])
  | .assign target value =>
      target.tokens ++ .punct .assign :: (value.tokens ++ [.punct .semicolon])
  | .expr e => e.tokens ++ [.punct .semicolon]
  | .branch condition body =>
      .keyword .branch :: .punct .lparen :: (condition.tokens ++
        .punct .rparen :: .punct .lbrace :: (Stmt.tokensList body ++ [.punct .rbrace]))
  | .ret value => .keyword .ret :: (value.tokens ++ [.punct .semicolon])

def Stmt.tokensList : List Stmt → List Token
  | [] => []
  | stmt :: stmts => stmt.tokens ++ Stmt.tokensList stmts

end

lemma joinLiterals_separated {items : List (List Token)}
    (h : ∀ item ∈ items, joinLiterals item = item) :
    joinLiterals (separated items) = separated items := by
  induction items with
  | nil => rfl
  | cons item items ih =>
      rw [List.forall_mem_cons] at h
      cases items with
      | nil => exact h.1
      | cons next items => rw [separated, joinLiterals_append rfl, h.1, ih h.2]; simp

mutual

/-- In the tokens of an expression no two literals are adjacent. -/
lemma Expr.joinLiterals_tokens : ∀ e : Expr, joinLiterals e.tokens = e.tokens
  | .ident name => rfl
  | .number value => rfl
  | .str value => rfl
  | .invocation name args => by
      have hargs : ∀ item ∈ args.map fun arg => [arg], joinLiterals item = item := by
        intro item hitem
        obtain ⟨arg, -, rfl⟩ := List.mem_map.mp hitem
        cases arg <;> rfl
      rw [Expr.tokens, joinLiterals_cons rfl, joinLiterals_cons rfl, joinLiterals_append rfl,
        joinLiterals_separated hargs]
      rfl
  | .call f args => by
      have hargs := joinLiterals_separated (Expr.joinLiterals_tokensList args)
      rw [Expr.tokens, joinLiterals_append rfl, Expr.joinLiterals_tokens f,
        joinLiterals_append rfl, hargs]
      rfl
  | .arrow base member => by
      rw [Expr.tokens, joinLiterals_append rfl, Expr.joinLiterals_tokens base]
      rfl
  | .dot base member => by
      rw [Expr.tokens, joinLiterals_append rfl, Expr.joinLiterals_tokens base]
      rfl
  | .addr e => by rw [Expr.tokens, joinLiterals_cons rfl, Expr.joinLiterals_tokens e]
  | .deref e => by rw [Expr.tokens, joinLiterals_cons rfl, Expr.joinLiterals_tokens e]
  | .size e => by
      rw [Expr.tokens, joinLiterals_cons rfl, joinLiterals_cons rfl, joinLiterals_append rfl,
        Expr.joinLiterals_tokens e]
      rfl
  | .toVoid e => by
      rw [Expr.tokens, joinLiterals_cons rfl, joinLiterals_cons rfl, joinLiterals_cons rfl,
        Expr.joinLiterals_tokens e]
  | .binary op left right => by
      have hop : op.token.str? = none := by cases op <;> rfl
      rw [Expr.tokens, joinLiterals_append hop, Expr.joinLiterals_tokens left,
        Expr.joinLiterals_tokens right]

lemma Expr.joinLiterals_tokensList :
    ∀ es : List Expr, ∀ item ∈ Expr.tokensList es, joinLiterals item = item
  | [] => by simp [Expr.tokensList]
  | e :: es => by
      rw [Expr.tokensList, List.forall_mem_cons]
      exact ⟨Expr.joinLiterals_tokens e, Expr.joinLiterals_tokensList es⟩

end

mutual

/-- Nor are two literals adjacent in the tokens of a statement, which end with no literal. -/
lemma Stmt.joins_tokens : ∀ stmt : Stmt, Joins stmt.tokens stmt.tokens
  | .declare type name value =>
      .cons rfl (.cons rfl (.cons rfl (.concat rfl value.joinLiterals_tokens)))
  | .assign target value => by
      have htarget :
          Joins (target.tokens ++ [.punct .assign]) (target.tokens ++ [.punct .assign]) :=
        .concat rfl target.joinLiterals_tokens
      have hvalue :
          Joins (value.tokens ++ [.punct .semicolon]) (value.tokens ++ [.punct .semicolon]) :=
        .concat rfl value.joinLiterals_tokens
      simpa [Stmt.tokens] using htarget.append hvalue
  | .expr e => .concat rfl e.joinLiterals_tokens
  | .branch condition body => by
      have hcondition : Joins (condition.tokens ++ [.punct .rparen])
          (condition.tokens ++ [.punct .rparen]) :=
        .concat rfl condition.joinLiterals_tokens
      have hbrace : Joins [.punct .rbrace] [.punct .rbrace] := .cons rfl .nil
      have hbody := (Stmt.joins_tokensList body).append hbrace
      have hall : Joins (.keyword .branch :: .punct .lparen ::
            ((condition.tokens ++ [.punct .rparen]) ++
              .punct .lbrace :: (Stmt.tokensList body ++ [.punct .rbrace]))) _ :=
        .cons rfl (.cons rfl (hcondition.append (.cons rfl hbody)))
      simpa [Stmt.tokens] using hall
  | .ret value => .cons rfl (.concat rfl value.joinLiterals_tokens)

lemma Stmt.joins_tokensList :
    ∀ stmts : List Stmt, Joins (Stmt.tokensList stmts) (Stmt.tokensList stmts)
  | [] => .nil
  | stmt :: stmts => (Stmt.joins_tokens stmt).append (Stmt.joins_tokensList stmts)

end

end Tokens

section Parser

/-- The arguments of a macro, after its opening parenthesis. -/
def parseMacroArgs : List Token → Option (List Token × List Token)
  | token :: .punct .comma :: rest => do
      let (args, rest) ← parseMacroArgs rest
      some (token :: args, rest)
  | token :: .punct .rparen :: rest => some ([token], rest)
  | _ => none

/-- The binary operator of a token, and how strongly it binds. -/
def binOp : Token → Option (BinOp × ℕ)
  | .punct .equal => some (.equal, 3)
  | .punct .notEqual => some (.notEqual, 3)
  | .punct .conj => some (.conj, 2)
  | .punct .disj => some (.disj, 1)
  | _ => none

mutual

def parseUnary : ℕ → List Token → Option (Expr × List Token)
  | 0, _ => none
  | n + 1, .punct .amp :: rest => do
      let (e, rest) ← parseUnary n rest
      some (.addr e, rest)
  | n + 1, .punct .star :: rest => do
      let (e, rest) ← parseUnary n rest
      some (.deref e, rest)
  | n + 1, .keyword .size :: .punct .lparen :: rest => do
      let (e, rest) ← parseExpr n 0 rest
      match rest with
      | .punct .rparen :: rest => some (.size e, rest)
      | _ => none
  | n + 1, .punct .lparen :: .keyword .void :: .punct .rparen :: rest => do
      let (e, rest) ← parseUnary n rest
      some (.toVoid e, rest)
  | n + 1, .punct .lparen :: rest => do
      let (e, rest) ← parseExpr n 0 rest
      match rest with
      | .punct .rparen :: rest => parsePostfix n e rest
      | _ => none
  | n + 1, .ident name :: rest => parsePostfix n (.ident name) rest
  | n + 1, .invocation name :: .punct .lparen :: rest => do
      let (args, rest) ← parseMacroArgs rest
      parsePostfix n (.invocation name args) rest
  | _ + 1, .number value :: rest => some (.number value, rest)
  | _ + 1, .str value :: rest => some (.str value, rest)
  | _ + 1, _ => none

/-- Calls and member accesses after an expression. -/
def parsePostfix : ℕ → Expr → List Token → Option (Expr × List Token)
  | n + 1, e, .punct .arrow :: .ident member :: rest => parsePostfix n (.arrow e member) rest
  | n + 1, e, .punct .dot :: .ident member :: rest => parsePostfix n (.dot e member) rest
  | n + 1, e, .punct .lparen :: .punct .rparen :: rest => parsePostfix n (.call e []) rest
  | n + 1, e, .punct .lparen :: rest => do
      let (args, rest) ← parseArgs n rest
      parsePostfix n (.call e args) rest
  | _, e, rest => some (e, rest)

/-- The arguments of a call, after its opening parenthesis. -/
def parseArgs : ℕ → List Token → Option (List Expr × List Token)
  | 0, _ => none
  | n + 1, tokens => do
      let (e, rest) ← parseExpr n 0 tokens
      match rest with
      | .punct .comma :: rest => do
          let (args, rest) ← parseArgs n rest
          some (e :: args, rest)
      | .punct .rparen :: rest => some ([e], rest)
      | _ => none

/-- An expression whose binary operators bind more strongly than `level`. -/
def parseExpr : ℕ → ℕ → List Token → Option (Expr × List Token)
  | 0, _, _ => none
  | n + 1, level, tokens => do
      let (e, rest) ← parseUnary n tokens
      parseBinary n level e rest

/-- The operators after an operand, from left to right. -/
def parseBinary : ℕ → ℕ → Expr → List Token → Option (Expr × List Token)
  | n + 1, level, left, token :: rest =>
      match binOp token with
      | some (op, strength) =>
          if level < strength then do
            let (right, rest) ← parseExpr n strength rest
            parseBinary n level (.binary op left right) rest
          else some (left, token :: rest)
      | none => some (left, token :: rest)
  | _, _, left, rest => some (left, rest)

end

mutual

def parseStmt : ℕ → List Token → Option (Stmt × List Token)
  | 0, _ => none
  | n + 1, .keyword .branch :: .punct .lparen :: rest => do
      let (condition, rest) ← parseExpr n 0 rest
      match rest with
      | .punct .rparen :: .punct .lbrace :: rest => do
          let (body, rest) ← parseBlock n rest
          some (.branch condition body, rest)
      | _ => none
  | n + 1, .keyword .ret :: rest => do
      let (value, rest) ← parseExpr n 0 rest
      match rest with
      | .punct .semicolon :: rest => some (.ret value, rest)
      | _ => none
  | n + 1, .ident type :: .ident name :: .punct .assign :: rest => do
      let (value, rest) ← parseExpr n 0 rest
      match rest with
      | .punct .semicolon :: rest => some (.declare type name value, rest)
      | _ => none
  | n + 1, tokens => do
      let (target, rest) ← parseUnary n tokens
      match rest with
      | .punct .semicolon :: rest => some (.expr target, rest)
      | .punct .assign :: rest => do
          let (value, rest) ← parseExpr n 0 rest
          match rest with
          | .punct .semicolon :: rest => some (.assign target value, rest)
          | _ => none
      | _ => none

/-- Statements up to the closing brace. -/
def parseBlock : ℕ → List Token → Option (List Stmt × List Token)
  | 0, _ => none
  | _ + 1, .punct .rbrace :: rest => some ([], rest)
  | n + 1, tokens => do
      let (stmt, rest) ← parseStmt n tokens
      let (stmts, rest) ← parseBlock n rest
      some (stmt :: stmts, rest)

end

/-- The parameters of a function, after its opening parenthesis. -/
def parseParams : List Token → Option (List PyStr × List Token)
  | .ident _ :: .punct .star :: .ident name :: .punct .comma :: rest => do
      let (params, rest) ← parseParams rest
      some (name :: params, rest)
  | .ident _ :: .punct .star :: .ident name :: .punct .rparen :: rest => some ([name], rest)
  | _ => none

/-- The functions of a file; `#include` lines stand between them. -/
def parseUnit : ℕ → List Token → Option (List Function)
  | _, [] => some []
  | 0, _ => none
  | n + 1, .directive _ :: rest => parseUnit n rest
  | n + 1, .ident _ :: .ident name :: .punct .lparen :: rest => do
      let (params, rest) ← parseParams rest
      match rest with
      | .punct .lbrace :: rest => do
          let (body, rest) ← parseBlock (n + 1) rest
          let functions ← parseUnit n rest
          some (⟨name, params, body⟩ :: functions)
      | _ => none
  | _ + 1, _ => none

end Parser

section ReadBack

/-- The statement is read back from its tokens. -/
def Stmt.ReadsBack (stmt : Stmt) : Prop :=
  ∀ n rest, parseStmt (n + 24) (stmt.tokens ++ rest) = some (stmt, rest)

/-- A block is parsed statement by statement. -/
lemma parseBlock_cons {stmt : Stmt} (h : stmt.ReadsBack) (n : ℕ) (rest : List Token) :
    parseBlock (n + 26) (stmt.tokens ++ rest) =
      (parseBlock (n + 25) rest).map fun block => (stmt :: block.1, block.2) := by
  have hne : ∀ rest', stmt.tokens ++ rest ≠ .punct .rbrace :: rest' := by
    intro rest' heq
    have hstmt := h 0 rest
    rw [heq] at hstmt
    cases hstmt
  rw [parseBlock]
  · rw [h (n + 1) rest]
    cases hblock : parseBlock (n + 25) rest with
    | none => simp [hblock]
    | some block => simp [hblock]
  · exact hne

/-- **Statements are read back one after the other**, up to the brace that closes their block. -/
theorem parseBlock_tokensList {stmts : List Stmt} (h : ∀ stmt ∈ stmts, stmt.ReadsBack) (n : ℕ)
    (rest : List Token) :
    parseBlock (n + 25 + stmts.length) (Stmt.tokensList stmts ++ .punct .rbrace :: rest) =
      some (stmts, rest) := by
  induction stmts with
  | nil => rfl
  | cons stmt stmts ih =>
      rw [List.forall_mem_cons] at h
      have hfuel : n + 25 + (stmt :: stmts).length = (n + stmts.length) + 26 := by
        rw [List.length_cons]
        omega
      have hfuel' : n + stmts.length + 25 = n + 25 + stmts.length := by omega
      rw [Stmt.tokensList, List.append_assoc, hfuel, parseBlock_cons h.1, hfuel', ih h.2]
      rfl

/-- **A function is read back** and the rest of the file after it. -/
theorem parseUnit_function {type name : PyStr} {params : List PyStr} (head : List Token)
    {body : List Stmt} {rest : List Token} {n : ℕ}
    (hhead : ∀ after, parseParams (head ++ .punct .lbrace :: after) =
      some (params, .punct .lbrace :: after))
    (hbody : ∀ stmt ∈ body, stmt.ReadsBack) (hfuel : 25 + body.length ≤ n + 1) :
    parseUnit (n + 1) (.ident type :: .ident name :: .punct .lparen ::
        (head ++ .punct .lbrace :: (Stmt.tokensList body ++ .punct .rbrace :: rest))) =
      (parseUnit n rest).map (⟨name, params, body⟩ :: ·) := by
  obtain ⟨m, hm⟩ := Nat.exists_eq_add_of_le hfuel
  have hblock : parseBlock (n + 1) (Stmt.tokensList body ++ .punct .rbrace :: rest) =
      some (body, rest) := by
    have hn : n + 1 = m + 25 + body.length := by omega
    rw [hn]
    exact parseBlock_tokensList hbody m rest
  rw [parseUnit, hhead]
  simp only [Option.bind_eq_bind, Option.bind_some, hblock]
  cases parseUnit n rest with
  | none => rfl
  | some functions => rfl

lemma Stmt.ReadsBack.tokens_pos {stmt : Stmt} (h : stmt.ReadsBack) : 0 < stmt.tokens.length := by
  rw [List.length_pos_iff]
  intro heq
  have hnil := h 0 []
  rw [heq] at hnil
  cases hnil

lemma length_le_tokensList {stmts : List Stmt} (h : ∀ stmt ∈ stmts, stmt.ReadsBack) :
    stmts.length ≤ (Stmt.tokensList stmts).length := by
  induction stmts with
  | nil => exact Nat.le_refl _
  | cons stmt stmts ih =>
      rw [List.forall_mem_cons] at h
      have hpos := h.1.tokens_pos
      have hle := ih h.2
      rw [Stmt.tokensList, List.length_append, List.length_cons]
      omega

lemma Stmt.tokensList_append {stmts stmts' : List Stmt} :
    Stmt.tokensList (stmts ++ stmts') = Stmt.tokensList stmts ++ Stmt.tokensList stmts' := by
  induction stmts with
  | nil => rfl
  | cons stmt stmts ih =>
    rw [List.cons_append, Stmt.tokensList, ih, Stmt.tokensList, List.append_assoc]

end ReadBack

end CLang
