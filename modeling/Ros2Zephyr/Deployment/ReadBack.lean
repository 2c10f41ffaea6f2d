import Ros2Zephyr.Core.CUnit
import Ros2Zephyr.Deployment.Program

/-!
# The generated source is read as the intended program

`generate_source` writes text.  What a C compiler makes of it is another matter: the strings of the
deployment stand in the text as they are.  Where each of them is read as string literals
(`Quotable`), `lexUnit_generateSource` gives the tokens of the whole text, and
`parseUnit_sourceTokens` reads them as `setupProgram`.

* The lines are read piece by piece: the fixed pieces by running the automaton, the names, numbers
  and strings of the deployment by the lemmas of `CLexer` and `CLiteral`.
* A string may be several literals; the two statements that have one are put together from the
  tokens before it, the literals and the tokens after it.
* The statements are read back from their tokens, each with the same fuel.
-/

namespace Ros2Zephyr

open CLang

/-- Each string of the deployment is read as string literals between its quotes. -/
structure Quotable (deployment : Deployment) : Prop where
  nodeNamespace : (literals deployment.nodeNamespace).isSome
  topics : ∀ endpoint ∈ deployment.endpoints, (literals endpoint.topic).isSome

instance (deployment : Deployment) : Decidable (Quotable deployment) :=
  decidable_of_iff
    ((literals deployment.nodeNamespace).isSome ∧
      ∀ endpoint ∈ deployment.endpoints, (literals endpoint.topic).isSome)
    ⟨fun h => ⟨h.1, h.2⟩, fun h => ⟨h.nodeNamespace, h.topics⟩⟩

section Words

/-- An id is made of the characters of a word. -/
lemma Endpoint.id_word (endpoint : Endpoint) : ∀ c ∈ endpoint.id, PyStr.isWordChar c = true := by
  obtain ⟨c, cs, heq, hc, hcs⟩ := Pattern.fullmatch_word.mp endpoint.id_matches
  have hlower : ∀ d, PyStr.isLower d = true → PyStr.isWordChar d = true := by
    intro d hd
    simp only [PyStr.isLower] at hd
    simp [PyStr.isWordChar, PyStr.isLetter, hd]
  have hlowerWord : ∀ d, PyStr.isLowerWordChar d = true → PyStr.isWordChar d = true := by
    intro d hd
    simp only [PyStr.isLowerWordChar, Bool.or_eq_true] at hd
    obtain (hd | hd) | hd := hd
    · exact hlower d hd
    · simp [PyStr.isWordChar, hd]
    · simp [PyStr.isWordChar, hd]
  rw [heq]
  exact List.forall_mem_cons.mpr ⟨hlower c hc, fun d hd => hlowerWord d (hcs d hd)⟩

lemma identifier_chars {name : PyStr} (h : identifier.fullmatch name = true) :
    ∃ c cs, name = c :: cs ∧ isWordStart c = true ∧ ∀ d ∈ cs, PyStr.isWordChar d = true :=
  Pattern.fullmatch_word.mp h

lemma identifier_word {name : PyStr} (h : identifier.fullmatch name = true) :
    ∀ c ∈ name, PyStr.isWordChar c = true := by
  obtain ⟨c, cs, rfl, hc, hcs⟩ := identifier_chars h
  refine List.forall_mem_cons.mpr ⟨?_, hcs⟩
  simp only [isWordStart, Bool.or_eq_true] at hc
  obtain hc | hc := hc
  · simp [PyStr.isWordChar, hc]
  · simp [PyStr.isWordChar, hc]

lemma typePart_chars {part : PyStr} (h : typePart.fullmatch part = true) :
    ∃ c cs, part = c :: cs ∧ isWordStart c = true ∧ ∀ d ∈ cs, PyStr.isWordChar d = true := by
  obtain ⟨c, cs, heq, hc, hcs⟩ := Pattern.fullmatch_word.mp h
  exact ⟨c, cs, heq, by simp [isWordStart, hc], hcs⟩

lemma classify_subscription (x : PyStr) :
    classify rosidlMacros ("subscription_" ++ x) = .ident ("subscription_" ++ x) :=
  classify_append (by decide)

/-- The name of a member that starts with the kind of an endpoint. -/
lemma classify_kind (kind : EndpointKind) (x : PyStr) :
    classify rosidlMacros (kind.text ++ "_" ++ x) = .ident (kind.text ++ "_" ++ x) := by
  cases kind with
  | publisher => exact classify_append (by decide)
  | subscription callback => exact classify_subscription x

lemma classify_qos (x : PyStr) :
    classify rosidlMacros ("qos_" ++ x) = .ident ("qos_" ++ x) :=
  classify_append (by decide)

lemma classify_flag (kind : EndpointKind) (x suffix : PyStr) :
    classify rosidlMacros (kind.text ++ "_" ++ x ++ suffix) =
      .ident (kind.text ++ "_" ++ x ++ suffix) := by
  rw [List.append_assoc]
  exact classify_kind kind _

end Words

section Lines

-- the automaton runs over whole lines
set_option maxRecDepth 4000

abbrev ReadLines (lines : List PyStr) (stmts : List Stmt) : Prop :=
  LexesLines rosidlMacros lines (Stmt.tokensList stmts)

lemma readLines_zero (endpoint : Endpoint) : ReadLines [zeroLine endpoint] [zeroStmt endpoint] := by
  obtain ⟨id, kind, topic, type, qos, hid⟩ := endpoint
  have hword := Endpoint.id_word ⟨id, kind, topic, type, qos, hid⟩
  have hname := classify_kind kind id
  cases kind
  all_goals
    exact .cons (.piece rfl (.piece rfl (.piece rfl (.piece (.word hword)
      (.piece (.name rfl hname rfl) (.piece rfl (.piece rfl (.piece rfl .nil)))))))) .nil rfl

lemma readLines_fini (endpoint : Endpoint) :
    ReadLines [endpointFiniLine endpoint] [endpointFiniStmt endpoint] := by
  obtain ⟨id, kind, topic, type, qos, hid⟩ := endpoint
  have hword := Endpoint.id_word ⟨id, kind, topic, type, qos, hid⟩
  have hname := classify_kind kind id
  have hflag := classify_flag kind id
  cases kind
  all_goals
    exact .cons
      (.piece rfl (.piece rfl (.piece rfl (.piece (.word hword) (.piece (.word (by decide))
      (.piece (.name rfl (hflag _) rfl)
      (.piece rfl (.piece rfl (.piece rfl (.piece rfl (.piece rfl (.piece (.word hword)
      (.piece (.name rfl hname rfl) (.piece rfl (.piece rfl .nil)))))))))))))))
      .nil rfl

lemma lexes_qosVariable {s : LexState} {id : PyStr} (hword : ∀ c ∈ id, PyStr.isWordChar c = true)
    (hs : Lexes rosidlMacros s "qos_" (.word "qos_") []) :
    Lexes rosidlMacros s ("qos_" ++ id) (.word ("qos_" ++ id)) [] :=
  hs.append (.word hword)

/-- One assignment to the QoS variable; `value` is read as `e` and ended by the semicolon. -/
lemma readLines_qosLine (endpoint : Endpoint) {member value : PyStr} {e : Expr} {s : LexState}
    (hmember : Lexes rosidlMacros .start member (.word member) [])
    (hname : classify rosidlMacros member = .ident member)
    (hvalue : Lexes rosidlMacros .start value s [])
    (hend : Lexes rosidlMacros s ";" .start (e.tokens ++ [.punct .semicolon])) :
    ReadLines [qosLine endpoint member value] [qosAssign endpoint member e] := by
  refine .cons (.piece rfl (.piece (lexes_qosVariable endpoint.id_word rfl)
    (.piece (.name rfl (classify_qos endpoint.id) rfl) (.piece hmember (.piece (.name rfl hname rfl)
    (.piece hvalue (.piece hend (.piece rfl .nil)))))))) .nil ?_
  simp [qosAssign, Stmt.tokensList, Stmt.tokens, Expr.tokens, Endpoint.qosVariable]

lemma readLines_qos (endpoint : Endpoint) :
    ReadLines (qosInitializer endpoint) (qosBody endpoint) := by
  have hdeclare : ReadLines [fstring ["  rmw_qos_profile_t ", endpoint.qosVariable,
      " = rmw_qos_profile_default;"]] [.declare "rmw_qos_profile_t" endpoint.qosVariable
        (.ident "rmw_qos_profile_default")] :=
    .cons (.piece rfl (.piece (lexes_qosVariable endpoint.id_word rfl)
      (.piece (.name rfl (classify_qos endpoint.id) rfl) (.piece rfl .nil)))) .nil rfl
  have hreliability : ReadLines [qosLine endpoint "reliability"
      ("RMW_QOS_POLICY_RELIABILITY_" ++ endpoint.qos.reliability.text)]
      [qosAssign endpoint "reliability"
        (.ident ("RMW_QOS_POLICY_RELIABILITY_"
          ++ endpoint.qos.reliability.text))] := by
    cases endpoint.qos.reliability with
    | bestEffort => exact readLines_qosLine endpoint rfl rfl rfl rfl
    | reliable => exact readLines_qosLine endpoint rfl rfl rfl rfl
  have hdurability : ReadLines [qosLine endpoint "durability"
      ("RMW_QOS_POLICY_DURABILITY_" ++ endpoint.qos.durability.text)]
      [qosAssign endpoint "durability"
        (.ident ("RMW_QOS_POLICY_DURABILITY_"
          ++ endpoint.qos.durability.text))] := by
    cases endpoint.qos.durability with
    | volatile => exact readLines_qosLine endpoint rfl rfl rfl rfl
    | transientLocal => exact readLines_qosLine endpoint rfl rfl rfl rfl
  have hhistory : ReadLines [qosLine endpoint "history" "RMW_QOS_POLICY_HISTORY_KEEP_LAST"]
      [qosAssign endpoint "history" (.ident "RMW_QOS_POLICY_HISTORY_KEEP_LAST")] :=
    readLines_qosLine endpoint rfl rfl rfl rfl
  have hdepth : ReadLines [qosLine endpoint "depth" (unsignedText endpoint.qos.depth)]
      [qosAssign endpoint "depth" (.number endpoint.qos.depth)] :=
    readLines_qosLine endpoint rfl rfl (.unsigned _) (.endUnsigned rfl rfl)
  exact hdeclare.append (hreliability.append (hdurability.append (hhistory.append hdepth)))

lemma lexes_typeSupport (builtin : Bool) (type : MessageType) :
    Lexes rosidlMacros .lineStart (typeSupport builtin type) .start
      (typeSupportExpr builtin type).tokens := by
  unfold typeSupport typeSupportExpr
  split
  · rfl
  · have h : Lexes rosidlMacros .lineStart (fstring ["ROSIDL_GET_MSG_TYPE_SUPPORT(", type.package,
        ", msg, ", type.message, ")"]) .start _ :=
      .piece rfl (.piece (.startWord (typePart_chars type.package_matches))
        (.piece (.wordEnd rfl rfl) (.piece (.startWord (typePart_chars type.message_matches))
        (.piece (.wordEnd rfl rfl) .nil))))
    exact h

lemma readLines_failure : ReadLines [failureLine] [failureStmt] := rfl

lemma readLines_flag (endpoint : Endpoint) :
    ReadLines [fstring ["  context->", endpoint.kind.text, "_", endpoint.id, "_initialized",
      " = true;"]] [setFlag endpoint.flag] := by
  obtain ⟨id, kind, topic, type, qos, hid⟩ := endpoint
  have hword := Endpoint.id_word ⟨id, kind, topic, type, qos, hid⟩
  have hflag := classify_flag kind id
  cases kind
  all_goals
    exact .cons
      (.piece rfl (.piece rfl (.piece rfl (.piece (.word hword) (.piece (.word (by decide))
      (.piece (.name rfl (hflag _) rfl) (.piece rfl .nil))))))) .nil rfl

/-- The tokens of the first line of the call that initialises an endpoint. -/
def initCallTokens (endpoint : Endpoint) : List Token :=
  resultVariable.tokens ++ .punct .assign ::
    .ident (fstring ["rclc_", endpoint.kind.text, "_init"]) :: .punct .lparen ::
    ((Expr.addr (contextMember endpoint.handle)).tokens ++ .punct .comma ::
      ((Expr.addr (contextMember "node")).tokens ++ [.punct .comma]))

lemma lexesLines_initCall (endpoint : Endpoint) :
    LexesLines rosidlMacros [fstring ["  result = rclc_", endpoint.kind.text, "_init(&context->",
      endpoint.kind.text, "_", endpoint.id, ", &context->node,"]] (initCallTokens endpoint) := by
  obtain ⟨id, kind, topic, type, qos, hid⟩ := endpoint
  have hword := Endpoint.id_word ⟨id, kind, topic, type, qos, hid⟩
  have hname := classify_kind kind id
  cases kind
  all_goals
    exact .cons (.piece rfl (.piece rfl (.piece rfl (.piece rfl (.piece rfl (.piece (.word hword)
      (.piece (.name rfl hname rfl) (.piece rfl .nil)))))))) .nil rfl

/-- The tokens after the topic in the second line of that call. -/
def initCallEnd (endpoint : Endpoint) : List Token :=
  [.punct .amp, .ident endpoint.qosVariable, .punct .rparen, .punct .semicolon]

/-- The second line of that call, with the topic as literals. -/
lemma lexesLines_initArguments (builtin : Bool) (endpoint : Endpoint) {values : List PyStr}
    (htopic : literals endpoint.topic = some values) :
    LexesLines rosidlMacros
      [fstring ["      ", typeSupport builtin endpoint.type, ", \"", endpoint.topic, "\", &qos_",
        endpoint.id, ");"]]
      (((typeSupportExpr builtin endpoint.type).tokens ++ [.punct .comma]) ++
        ((values.map .str ++ [.punct .comma]) ++ initCallEnd endpoint)) := by
  refine .cons (.piece rfl (.piece (lexes_typeSupport builtin endpoint.type) (.piece rfl
    (.quote htopic (.piece rfl (.piece (.word endpoint.id_word)
    (.piece (.name rfl (classify_qos endpoint.id) rfl) (.piece rfl .nil)))))))) .nil ?_
  simp only [initCallEnd, List.nil_append, List.cons_append, List.append_nil, List.append_assoc]
  rfl

/-- The tokens of the lines that create an endpoint, with the topic as literals. -/
def endpointInitTokens (builtin : Bool) (endpoint : Endpoint) (values : List PyStr) : List Token :=
  Stmt.tokensList (qosBody endpoint) ++ (initCallTokens endpoint ++
    (((typeSupportExpr builtin endpoint.type).tokens ++ [.punct .comma]) ++
      ((values.map .str ++ [.punct .comma]) ++ (initCallEnd endpoint ++
        Stmt.tokensList [failureStmt, setFlag endpoint.flag]))))

lemma lexesLines_endpointInit (builtin : Bool) (endpoint : Endpoint) {values : List PyStr}
    (htopic : literals endpoint.topic = some values) :
    LexesLines rosidlMacros (endpointInitLines builtin endpoint)
      (endpointInitTokens builtin endpoint values) := by
  have hcall := (lexesLines_initCall endpoint).append
    (lexesLines_initArguments builtin endpoint htopic)
  have hlines := (readLines_qos endpoint).append
    (hcall.append (readLines_failure.append (readLines_flag endpoint)))
  refine Eq.mp (congrArg _ ?_) hlines
  simp [endpointInitTokens, Stmt.tokensList]

lemma tokensList_endpointInitWith (builtin : Bool) (endpoint : Endpoint) (topic : PyStr) :
    Stmt.tokensList (endpointInitWith builtin endpoint topic) =
      endpointInitTokens builtin endpoint [topic] := by
  rw [endpointInitWith, Stmt.tokensList_append]
  simp [endpointInitTokens, initCallTokens, initCallEnd, Stmt.tokensList, callStmt, callOf,
    Stmt.tokens, Expr.tokens, Expr.tokensList, separated]

/-- The tokens before the namespace in the call that creates the node. -/
def nodeInitStart (deployment : Deployment) : List Token :=
  [.ident "rcl_ret_t", .ident "result", .punct .assign,
    .ident "rclc_node_init_default", .punct .lparen, .punct .amp,
    .ident "context", .punct .arrow, .ident "node", .punct .comma,
    .str deployment.nodeName, .punct .comma]

/-- The tokens after it. -/
def nodeInitEnd : List Token :=
  [.ident "support", .punct .rparen, .punct .semicolon]

/-- The tokens of the lines that create the node, with the namespace as literals. -/
def nodeInitTokens (deployment : Deployment) (values : List PyStr) : List Token :=
  nodeInitStart deployment ++ ((values.map .str ++ [.punct .comma]) ++ (nodeInitEnd ++
    Stmt.tokensList
      [.branch (.binary .notEqual resultVariable retOk) [.ret resultVariable],
        setFlag "node_initialized"]))

/-- The lines that create the node, with the namespace as literals. -/
lemma lexesLines_nodeInit {deployment : Deployment} {values : List PyStr}
    (hns : literals deployment.nodeNamespace = some values) :
    LexesLines rosidlMacros (nodeInitLines deployment) (nodeInitTokens deployment values) := by
  have hname := literals_plain (plain_of_isWordChar (identifier_word deployment.nodeName_matches))
  have hcall : LexesLines rosidlMacros
      [fstring ["  rcl_ret_t result = rclc_node_init_default(&context->node, \"",
        deployment.nodeName, "\", \"", deployment.nodeNamespace, "\", support);"]]
      (nodeInitStart deployment ++ ((values.map .str ++ [.punct .comma]) ++ nodeInitEnd)) := by
    refine .cons
      (.piece rfl (.quote hname (.piece rfl (.quote hns (.piece rfl (.piece rfl .nil))))))
      .nil ?_
    simp only [nodeInitEnd, List.append_nil, List.append_assoc]
    rfl
  have hrest : ReadLines ["  if (result != RCL_RET_OK) \x7b return result; \x7d",
      "  context->node_initialized = true;"]
      [.branch (.binary .notEqual resultVariable retOk) [.ret resultVariable],
        setFlag "node_initialized"] :=
    rfl
  refine Eq.mp (congrArg _ ?_) (hcall.append hrest)
  simp [nodeInitTokens]

lemma tokensList_nodeInitWith (deployment : Deployment) (ns : PyStr) :
    Stmt.tokensList (nodeInitWith deployment ns) = nodeInitTokens deployment [ns] := rfl

lemma readLines_executorInit (n : ℕ) : ReadLines (executorInitLines n) (executorInitBody n) := by
  have hcall :
      ReadLines [fstring ["  result = rclc_executor_init(&context->executor, &support->context, ",
      unsignedText n, ", allocator);"]]
      [callStmt "rclc_executor_init" [.addr (contextMember "executor"),
        .addr (.arrow (.ident "support") "context"), .number n,
        .ident "allocator"]] :=
    .cons (.piece rfl (.piece (.unsigned n) (.piece (.endUnsigned rfl rfl)
      (.piece rfl .nil)))) .nil rfl
  have hflag : ReadLines ["  context->executor_initialized = true;"]
      [setFlag "executor_initialized"] :=
    rfl
  exact hcall.append (readLines_failure.append hflag)

/-- The tokens of the lines that add a subscription to the executor, whatever word its callback
is. -/
def addSubscriptionTokens (subscription : Endpoint × Callback) : List Token :=
  resultVariable.tokens ++ .punct .assign ::
    .ident "rclc_executor_add_subscription" :: .punct .lparen ::
    (separated [(Expr.addr (contextMember "executor")).tokens,
      (Expr.addr (contextMember ("subscription_" ++ subscription.1.id))).tokens,
      (Expr.addr (contextMember subscription.1.buffer)).tokens,
      [classify rosidlMacros subscription.2.name], [.ident "ON_NEW_DATA"]] ++
    [.punct .rparen, .punct .semicolon]) ++ failureStmt.tokens

/-- The lines that add a subscription to the executor. -/
lemma lexesLines_addSubscription (subscription : Endpoint × Callback) :
    LexesLines rosidlMacros (addSubscriptionLines subscription)
      (addSubscriptionTokens subscription) := by
  obtain ⟨endpoint, callback⟩ := subscription
  have hcall : LexesLines rosidlMacros
      [fstring ["  result = rclc_executor_add_subscription(&context->executor, ",
        "&context->subscription_", endpoint.id, ","],
      fstring ["      &context->subscription_", endpoint.id, "_message", ", ", callback.name,
        ", ON_NEW_DATA);"]] _ :=
    .cons (.piece rfl (.piece rfl (.piece (.word endpoint.id_word)
        (.piece (.name rfl (classify_subscription endpoint.id) rfl) (.piece rfl .nil)))))
      (.cons (.piece rfl (.piece (.word endpoint.id_word) (.piece (.word (by decide))
        (.piece (.name rfl (classify_flag (.subscription callback) endpoint.id _) rfl)
        (.piece (.startWord (identifier_chars callback.name_matches))
        (.piece (.wordEnd rfl rfl) (.piece rfl .nil))))))) .nil rfl) rfl
  exact hcall.append readLines_failure

/-- A word that is read as a name, neither a keyword nor a macro with arguments. -/
def IsName (word : PyStr) : Prop := classify rosidlMacros word = .ident word

instance (word : PyStr) : Decidable (IsName word) := inferInstanceAs (Decidable (_ = _))

lemma isName_iff {word : PyStr} : IsName word ↔ word ∉ keywords ∧ word ∉ rosidlMacros := by
  unfold IsName classify
  split
  next hkeyword => simp [hkeyword]
  next hkeyword =>
    split
    next hname => simp [hname]
    next hname => simp [hkeyword, hname]

lemma readLines_addSubscription (subscription : Endpoint × Callback)
    (hcallback : IsName subscription.2.name) :
    ReadLines (addSubscriptionLines subscription) (addSubscriptionBody subscription) := by
  have hlines := lexesLines_addSubscription subscription
  rw [addSubscriptionTokens, hcallback] at hlines
  exact hlines

lemma readLines_prepare : ReadLines prepareLines prepareBody := rfl

end Lines

section Statements

set_option maxRecDepth 4000

def paramTokens (params : List (PyStr × PyStr)) : List Token :=
  separated (params.map fun p => [.ident p.1, .punct .star, .ident p.2]) ++ [.punct .rparen]

/-- The tokens before the body of a function. -/
def headTokens (function : PyStr) (params : List (PyStr × PyStr)) : List Token :=
  .ident "rcl_ret_t" :: .ident function :: .punct .lparen ::
    (paramTokens params ++ [.punct .lbrace])

def finiParams : List (PyStr × PyStr) := [("ros2z_deployment_context_t", "context")]

def finiHead : List Token := headTokens "ros2z_deployment_fini" finiParams

def initParams : List (PyStr × PyStr) :=
  [("ros2z_deployment_context_t", "context"), ("rclc_support_t", "support"),
    ("rcl_allocator_t", "allocator")]

def initHead : List Token := headTokens "ros2z_deployment_init" initParams

def includeTokens (builtin : Bool) : List Token :=
  [.directive "include \"generated_ros_init.h\""] ++
  (if builtin then
    [.directive (PyStr.ofString
      "include <std_msgs/msg/detail/u_int32__rosidl_typesupport_introspection_c.h>")]
  else []) ++
  [.directive "include <string.h>"]

lemma lexesLines_includes (builtin : Bool) :
    LexesLines rosidlMacros (includeLines builtin) (includeTokens builtin) := by
  cases builtin <;> rfl

/-- The tokens of the whole file. -/
def sourceTokens (deployment : Deployment) (backend : PyStr) : List Token :=
  includeTokens (builtinUint32 deployment backend) ++
  (finiHead ++ (Stmt.tokensList (finiBody deployment) ++ [.punct .rbrace])) ++
  (initHead ++ (Stmt.tokensList (initBody deployment (builtinUint32 deployment backend)) ++
    [.punct .rbrace]))

lemma lexesLines_finiStart :
    LexesLines rosidlMacros finiStart (finiHead ++ Stmt.tokensList
      [.declare "rcl_ret_t" "result" retOk,
        .branch (isNull "context") [.ret (.ident "RCL_RET_INVALID_ARGUMENT")],
        finiStmt "executor_initialized" "rclc_executor_fini"
          [.addr (contextMember "executor")]]) := by
  decide

lemma lexesLines_finiEnd :
    LexesLines rosidlMacros finiEnd (Stmt.tokensList
      [finiStmt "node_initialized" "rcl_node_fini" [.addr (contextMember "node")],
        .ret resultVariable] ++ [.punct .rbrace]) :=
  rfl

lemma lexesLines_initStart :
    LexesLines rosidlMacros initStart (initHead ++ Stmt.tokensList initStartBody) := by
  decide

lemma tokensList_map {α : Type} {l : List α} {f : α → Stmt} :
    Stmt.tokensList (l.map f) = l.flatMap fun a => Stmt.tokensList [f a] := by
  induction l with
  | nil => rfl
  | cons a l ih => simp [Stmt.tokensList, ih]

lemma tokensList_flatMap {α : Type} {l : List α} {f : α → List Stmt} :
    Stmt.tokensList (l.flatMap f) = l.flatMap fun a => Stmt.tokensList (f a) := by
  induction l with
  | nil => rfl
  | cons a l ih => rw [List.flatMap_cons, Stmt.tokensList_append, ih, List.flatMap_cons]

lemma readLines_map {α : Type} {l : List α} {f : α → PyStr} {g : α → Stmt}
    (h : ∀ a ∈ l, ReadLines [f a] [g a]) : ReadLines (l.map f) (l.map g) := by
  rw [ReadLines, tokensList_map, List.map_eq_flatMap]
  exact LexesLines.flatMap h

lemma readLines_flatMap {α : Type} {l : List α} {f : α → List PyStr} {g : α → List Stmt}
    (h : ∀ a ∈ l, ReadLines (f a) (g a)) : ReadLines (l.flatMap f) (l.flatMap g) := by
  rw [ReadLines, tokensList_flatMap]
  exact LexesLines.flatMap h

lemma ReadLines.append {lines lines' : List PyStr} {stmts stmts' : List Stmt}
    (h : ReadLines lines stmts) (h' : ReadLines lines' stmts') :
    ReadLines (lines ++ lines') (stmts ++ stmts') := by
  rw [ReadLines, Stmt.tokensList_append]
  exact LexesLines.append h h'

lemma readLines_executor {deployment : Deployment}
    (h : ∀ subscription ∈ deployment.subscriptions, IsName subscription.2.name) :
    ReadLines (executorLines deployment) (executorBody deployment) := by
  unfold executorLines executorBody
  split
  · exact LexesLines.nil
  · exact ((readLines_executorInit _).append
      (readLines_flatMap fun s hs => readLines_addSubscription s (h s hs))).append readLines_prepare

/-- The tokens before the first string of the deployment. -/
def startTokens (deployment : Deployment) (builtin : Bool) : List Token :=
  includeTokens builtin ++
  (finiHead ++ (Stmt.tokensList (finiBody deployment) ++ [.punct .rbrace])) ++
  (initHead ++ Stmt.tokensList (initStartBody ++ deployment.endpoints.map zeroStmt))

/-- The includes, the cleanup function and the setup function up to the namespace. -/
lemma lexesLines_start (deployment : Deployment) (builtin : Bool) :
    LexesLines rosidlMacros
      (includeLines builtin ++
        (finiStart ++ deployment.endpoints.reverse.map endpointFiniLine ++ finiEnd) ++
        (initStart ++ deployment.endpoints.map zeroLine))
      (startTokens deployment builtin) := by
  have hfini : ReadLines (deployment.endpoints.reverse.map endpointFiniLine)
      (deployment.endpoints.reverse.map endpointFiniStmt) :=
    readLines_map fun endpoint _ => readLines_fini endpoint
  have hzero : ReadLines (deployment.endpoints.map zeroLine) (deployment.endpoints.map zeroStmt) :=
    readLines_map fun endpoint _ => readLines_zero endpoint
  have hlines := ((lexesLines_includes builtin).append
    ((lexesLines_finiStart.append hfini).append lexesLines_finiEnd)).append
    (lexesLines_initStart.append hzero)
  rw [startTokens, finiBody]
  simp only [Stmt.tokensList_append, List.append_assoc] at hlines ⊢
  exact hlines

lemma lexesLines_end :
    LexesLines rosidlMacros ["  return RCL_RET_OK;", "\x7d"]
      (Stmt.tokensList [.ret retOk] ++ [.punct .rbrace]) :=
  rfl

/-! ### Strings as literals

Only in two places does the text hold a string of the deployment.  There the tokens are literals
that are put together after reading; everywhere else nothing is put together.
-/

/-- Lines that are read as statements, once adjacent literals are put together. -/
def ReadsAs (lines : List PyStr) (stmts : List Stmt) : Prop :=
  ∃ raw, LexesLines rosidlMacros lines raw ∧ Joins raw (Stmt.tokensList stmts)

lemma readsAs_of_readLines {lines : List PyStr} {stmts : List Stmt} (h : ReadLines lines stmts) :
    ReadsAs lines stmts :=
  ⟨_, h, Stmt.joins_tokensList stmts⟩

lemma ReadsAs.append {lines lines' : List PyStr} {stmts stmts' : List Stmt}
    (h : ReadsAs lines stmts) (h' : ReadsAs lines' stmts') :
    ReadsAs (lines ++ lines') (stmts ++ stmts') := by
  obtain ⟨raw, hlex, hjoins⟩ := h
  obtain ⟨raw', hlex', hjoins'⟩ := h'
  refine ⟨raw ++ raw', hlex.append hlex', ?_⟩
  rw [Stmt.tokensList_append]
  exact hjoins.append hjoins'

lemma ReadsAs.flatMap {α : Type} {l : List α} {f : α → List PyStr} {g : α → List Stmt}
    (h : ∀ a ∈ l, ReadsAs (f a) (g a)) : ReadsAs (l.flatMap f) (l.flatMap g) := by
  induction l with
  | nil => exact ⟨[], .nil, .nil⟩
  | cons a l ih =>
      rw [List.forall_mem_cons] at h
      exact h.1.append (ih h.2)

/-- The string that a text denotes, from its literals. -/
lemma denoted_eq {text : PyStr} {values : List PyStr} (h : literals text = some values) :
    denoted text = values.flatten := by
  simp [denoted, literalValue, h]

lemma joins_literals {values : List PyStr} (h : values ≠ []) :
    Joins (values.map .str ++ [.punct .comma]) ([values.flatten].map .str ++ [.punct .comma]) :=
  .concat rfl (joinLiterals_literals h)

/-- The lines that create an endpoint, with the topic put together from its literals. -/
lemma readsAs_endpointInit (builtin : Bool) (endpoint : Endpoint)
    (h : (literals endpoint.topic).isSome) :
    ReadsAs (endpointInitLines builtin endpoint) (endpointInitBody builtin endpoint) := by
  obtain ⟨values, hvalues⟩ := Option.isSome_iff_exists.mp h
  refine ⟨_, lexesLines_endpointInit builtin endpoint hvalues, ?_⟩
  rw [endpointInitBody, denoted_eq hvalues, tokensList_endpointInitWith]
  have hcall : Joins (initCallTokens endpoint) (initCallTokens endpoint) := fun _ => rfl
  have htype : Joins ((typeSupportExpr builtin endpoint.type).tokens ++ [.punct .comma])
      ((typeSupportExpr builtin endpoint.type).tokens ++ [.punct .comma]) :=
    .concat rfl (Expr.joinLiterals_tokens _)
  have hend : Joins (initCallEnd endpoint) (initCallEnd endpoint) := fun _ => rfl
  exact (Stmt.joins_tokensList _).append (hcall.append (htype.append
    ((joins_literals (literals_ne_nil hvalues)).append
      (hend.append (Stmt.joins_tokensList _)))))

lemma readsAs_nodeInit {deployment : Deployment} (h : (literals deployment.nodeNamespace).isSome) :
    ReadsAs (nodeInitLines deployment) (nodeInitBody deployment) := by
  obtain ⟨values, hvalues⟩ := Option.isSome_iff_exists.mp h
  refine ⟨_, lexesLines_nodeInit hvalues, ?_⟩
  rw [nodeInitBody, denoted_eq hvalues, tokensList_nodeInitWith]
  have hstart : Joins (nodeInitStart deployment) (nodeInitStart deployment) := fun _ => rfl
  have hend : Joins nodeInitEnd nodeInitEnd := fun _ => rfl
  exact hstart.append ((joins_literals (literals_ne_nil hvalues)).append
    (hend.append (Stmt.joins_tokensList _)))

lemma joins_startTokens (deployment : Deployment) (builtin : Bool) :
    Joins (startTokens deployment builtin) (startTokens deployment builtin) := by
  have hincludes : Joins (includeTokens builtin) (includeTokens builtin) := by
    cases builtin <;> exact fun _ => rfl
  have hfini : Joins finiHead finiHead := fun _ => rfl
  have hinit : Joins initHead initHead := fun _ => rfl
  have hbrace : Joins [.punct .rbrace] [.punct .rbrace] := fun _ => rfl
  exact (hincludes.append (hfini.append ((Stmt.joins_tokensList _).append hbrace))).append
    (hinit.append (Stmt.joins_tokensList _))

/-- The text, token by token. -/
lemma lexUnit_generateSource {deployment : Deployment} (h : Quotable deployment)
    (hcallbacks : ∀ subscription ∈ deployment.subscriptions, IsName subscription.2.name)
    (backend : PyStr) :
    lexUnit rosidlMacros (generateSource deployment backend) =
      some (sourceTokens deployment backend) := by
  have hinit : ReadsAs
      (deployment.endpoints.flatMap (endpointInitLines (builtinUint32 deployment backend)))
      (deployment.endpoints.flatMap (endpointInitBody (builtinUint32 deployment backend))) :=
    ReadsAs.flatMap fun endpoint hmem => readsAs_endpointInit _ endpoint (h.topics endpoint hmem)
  obtain ⟨raw, hraw, hjoins⟩ := ((readsAs_nodeInit h.nodeNamespace).append hinit).append
    (readsAs_of_readLines (readLines_executor hcallbacks))
  have hend : Joins (Stmt.tokensList [.ret retOk] ++ [.punct .rbrace])
      (Stmt.tokensList [.ret retOk] ++ [.punct .rbrace]) := fun _ => rfl
  have hlines := ((lexesLines_start deployment (builtinUint32 deployment backend)).append
    hraw).append lexesLines_end
  have htokens := (((joins_startTokens deployment (builtinUint32 deployment backend)).append
    hjoins).append hend).eq
  have htext := lex_intercalate_iff.mpr hlines
  have hlex : lex rosidlMacros (generateSource deployment backend) =
      some (startTokens deployment (builtinUint32 deployment backend) ++ raw ++
        (Stmt.tokensList [.ret retOk] ++ [.punct .rbrace])) := by
    rw [← htext, generateSource, joinLines]
    simp only [List.append_assoc]
    rfl
  rw [lexUnit, hlex, Option.map_some, htokens, sourceTokens, initBody, startTokens]
  simp only [Stmt.tokensList_append, List.append_assoc]

lemma finiBody_readsBack (deployment : Deployment) :
    ∀ stmt ∈ finiBody deployment, stmt.ReadsBack := by
  intro stmt hstmt
  simp only [finiBody, List.mem_append, List.mem_cons, List.not_mem_nil, or_false,
    List.mem_map] at hstmt
  obtain ((rfl | rfl | rfl) | ⟨endpoint, -, rfl⟩) | (rfl | rfl) := hstmt
  all_goals exact fun _ _ => rfl

lemma executorBody_readsBack (deployment : Deployment) :
    ∀ stmt ∈ executorBody deployment, stmt.ReadsBack := by
  intro stmt hstmt
  unfold executorBody at hstmt
  split at hstmt
  · cases hstmt
  · simp only [executorInitBody, addSubscriptionBody, prepareBody, List.mem_append, List.mem_cons,
      List.not_mem_nil, or_false, List.mem_flatMap] at hstmt
    obtain ((rfl | rfl | rfl) | ⟨subscription, -, (rfl | rfl)⟩) | (rfl | rfl) := hstmt
    all_goals exact fun _ _ => rfl

lemma endpointInitBody_readsBack (builtin : Bool) (endpoint : Endpoint) :
    ∀ stmt ∈ endpointInitBody builtin endpoint, stmt.ReadsBack := by
  intro stmt hstmt
  simp only [endpointInitBody, endpointInitWith, qosBody, List.mem_append, List.mem_cons,
    List.not_mem_nil, or_false] at hstmt
  obtain (rfl | rfl | rfl | rfl | rfl) | (rfl | rfl | rfl) := hstmt
  case inr.inl =>
    unfold typeSupportExpr
    split
    · exact fun _ _ => rfl
    · exact fun _ _ => rfl
  all_goals exact fun _ _ => rfl

lemma initBody_readsBack (deployment : Deployment) (builtin : Bool) :
    ∀ stmt ∈ initBody deployment builtin, stmt.ReadsBack := by
  intro stmt hstmt
  simp only [initBody, initStartBody, nodeInitBody, nodeInitWith, List.mem_append, List.mem_cons,
    List.not_mem_nil, or_false, List.mem_map, List.mem_flatMap] at hstmt
  obtain (((((rfl | rfl | rfl | rfl) | ⟨endpoint, -, rfl⟩) | (rfl | rfl | rfl)) |
    ⟨endpoint, -, hstmt⟩) | hstmt) | rfl := hstmt
  case inl.inl.inr => exact endpointInitBody_readsBack builtin endpoint stmt hstmt
  case inl.inr => exact executorBody_readsBack deployment stmt hstmt
  all_goals exact fun _ _ => rfl

lemma parseUnit_includes (builtin : Bool) (n : ℕ) (rest : List Token) :
    parseUnit (n + (includeTokens builtin).length) (includeTokens builtin ++ rest) =
      parseUnit n rest := by
  cases builtin <;> rfl

/-- The tokens of the whole file are the two functions. -/
lemma parseUnit_sourceTokens (deployment : Deployment) (backend : PyStr) :
    parseUnit ((sourceTokens deployment backend).length + 64) (sourceTokens deployment backend) =
      some (setupProgram deployment backend) := by
  have hfini := finiBody_readsBack deployment
  have hinit := initBody_readsBack deployment (builtinUint32 deployment backend)
  have hfiniLength := length_le_tokensList hfini
  have hinitLength := length_le_tokensList hinit
  -- the fuel left after the two functions
  obtain ⟨n, hn, hfiniFuel, hinitFuel⟩ : ∃ n,
      (sourceTokens deployment backend).length + 64 =
        n + 1 + 1 + (includeTokens (builtinUint32 deployment backend)).length ∧
      25 + (finiBody deployment).length ≤ n + 1 + 1 ∧
      25 + (initBody deployment (builtinUint32 deployment backend)).length ≤ n + 1 := by
    refine ⟨(sourceTokens deployment backend).length + 62 -
      (includeTokens (builtinUint32 deployment backend)).length, ?_, ?_, ?_⟩
    all_goals
      rw [sourceTokens]
      simp only [List.length_append]
      omega
  rw [hn, sourceTokens, List.append_assoc, parseUnit_includes, List.append_assoc finiHead,
    List.append_assoc (Stmt.tokensList _)]
  have hrest : parseUnit (n + 1) (initHead ++
      (Stmt.tokensList (initBody deployment (builtinUint32 deployment backend)) ++
        [.punct .rbrace])) =
      some [initFunction deployment (builtinUint32 deployment backend)] := by
    refine (parseUnit_function (paramTokens initParams) (fun _ => rfl) hinit hinitFuel).trans ?_
    cases n <;> rfl
  refine (parseUnit_function (paramTokens finiParams) (fun _ => rfl) hfini hfiniFuel).trans ?_
  exact congrArg (Option.map (finiFunction deployment :: ·)) hrest

end Statements

end Ros2Zephyr
