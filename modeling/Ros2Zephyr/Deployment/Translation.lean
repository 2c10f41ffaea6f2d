import Ros2Zephyr.Deployment.Header

/-!
# When the generated files can be compiled

Where the strings of the deployment can be quoted, whether the two files can be compiled is a matter
of names, types and numbers, and of the files that are included.

* `declareAll_header_iff` — the declarations of the header.
* `accepts_finiFunction_iff`, `accepts_initFunction_iff` — the two functions of the source.
* `translate_eq_some_iff` — both files are translated exactly if the members of the context have
  different names and the deployment is buildable, and the result is the intended program.
-/

namespace Ros2Zephyr

open CLang

/-! ## The leaves of the two functions

The tests of the fragment look at numbers and at the arguments of macros only, and there are few of
either in the text. -/

section Leaves

variable {deployment : Deployment} {test : Expr → Bool}

lemma every_finiBody (hident : ∀ name, test (.ident name) = true) :
    Stmt.everyList test (finiBody deployment) = true := by
  rw [Stmt.everyList_eq_true_iff]
  intro stmt hstmt
  simp only [finiBody, List.mem_append, List.mem_cons, List.not_mem_nil, or_false,
    List.mem_map] at hstmt
  obtain ((rfl | rfl | rfl) | ⟨endpoint, -, rfl⟩) | (rfl | rfl) := hstmt
  all_goals
    simp [endpointFiniStmt, finiStmt, isNull, retOk, resultVariable, contextMember, callOf,
      Stmt.every, Stmt.everyList, Expr.every, Expr.everyList, hident]

lemma every_endpointInitBody (hident : ∀ name, test (.ident name) = true)
    (hstr : ∀ value, test (.str value) = true) (builtin : Bool) (endpoint : Endpoint) :
    Stmt.everyList test (endpointInitBody builtin endpoint) = true ↔
      test (.number endpoint.qos.depth) = true ∧
        (typeSupportExpr builtin endpoint.type).every test = true := by
  simp [endpointInitBody, endpointInitWith, qosBody, qosAssign, callStmt, failureStmt, setFlag,
    retOk, resultVariable, contextMember, callOf, Stmt.every, Stmt.everyList, Expr.every,
    Expr.everyList, hident, hstr]

/-- The number of subscriptions is the only constant of the executor's part. -/
lemma every_executorBody (hident : ∀ name, test (.ident name) = true) :
    Stmt.everyList test (executorBody deployment) = true ↔
      (deployment.subscriptions ≠ [] → test (.number deployment.subscriptions.length) = true) := by
  have hadd : ∀ subscription ∈ deployment.subscriptions,
      ∀ stmt ∈ addSubscriptionBody subscription, stmt.every test = true := by
    intro subscription _ stmt hstmt
    rw [addSubscriptionBody, List.mem_cons, List.mem_singleton] at hstmt
    obtain rfl | rfl := hstmt
    all_goals
      simp [callStmt, failureStmt, retOk, resultVariable, contextMember, callOf, Stmt.every,
        Stmt.everyList, Expr.every, Expr.everyList, hident]
  unfold executorBody
  split
  next hempty => simp [List.isEmpty_iff.mp hempty, Stmt.everyList]
  next hsome =>
    have hne : deployment.subscriptions ≠ [] := fun heq => hsome (by rw [heq]; rfl)
    rw [Stmt.everyList_eq_true_iff, List.forall_mem_append, List.forall_mem_append]
    simp only [List.mem_flatMap, forall_exists_index, and_imp]
    rw [and_iff_left, and_iff_left]
    · simp [executorInitBody, callStmt, failureStmt, setFlag, retOk, resultVariable, contextMember,
        callOf, Stmt.every, Stmt.everyList, Expr.every, Expr.everyList, hident, hne]
    · exact fun stmt subscription hmem hstmt => hadd subscription hmem stmt hstmt
    · simp [prepareBody, callStmt, failureStmt, retOk, resultVariable, contextMember, callOf,
        Stmt.every, Stmt.everyList, Expr.every, Expr.everyList, hident]

/-- The numbers and the type supports of the setup function. -/
lemma every_initBody (hident : ∀ name, test (.ident name) = true)
    (hstr : ∀ value, test (.str value) = true) (hzero : test (.number 0) = true) (builtin : Bool) :
    Stmt.everyList test (initBody deployment builtin) = true ↔
      (∀ endpoint ∈ deployment.endpoints, test (.number endpoint.qos.depth) = true ∧
        (typeSupportExpr builtin endpoint.type).every test = true) ∧
      (deployment.subscriptions ≠ [] → test (.number deployment.subscriptions.length) = true) := by
  have hfixed : ∀ stmt ∈ initStartBody ++ deployment.endpoints.map zeroStmt ++
      nodeInitBody deployment, stmt.every test = true := by
    intro stmt hstmt
    simp only [initStartBody, nodeInitBody, nodeInitWith, List.mem_append, List.mem_cons,
      List.not_mem_nil, or_false, List.mem_map] at hstmt
    obtain ((rfl | rfl | rfl | rfl) | ⟨endpoint, -, rfl⟩) | (rfl | rfl | rfl) := hstmt
    all_goals
      simp [zeroStmt, setFlag, isNull, retOk, resultVariable, contextMember, callOf, Stmt.every,
        Stmt.everyList, Expr.every, Expr.everyList, hident, hstr, hzero]
  have hret : ∀ stmt ∈ [Stmt.ret retOk], stmt.every test = true := by
    simp [Stmt.every, retOk, Expr.every, hident]
  rw [← every_executorBody hident, Stmt.everyList_eq_true_iff, Stmt.everyList_eq_true_iff, initBody,
    List.forall_mem_append, List.forall_mem_append, List.forall_mem_append, and_iff_left hret,
    and_iff_right hfixed]
  refine and_congr_left' ?_
  simp only [List.mem_flatMap, forall_exists_index, and_imp]
  constructor
  · intro h endpoint hmem
    refine (every_endpointInitBody hident hstr builtin endpoint).mp ?_
    exact Stmt.everyList_eq_true_iff.mpr fun stmt hstmt => h stmt endpoint hmem hstmt
  · intro h stmt endpoint hmem hstmt
    have hbody := (every_endpointInitBody hident hstr builtin endpoint).mpr (h endpoint hmem)
    exact Stmt.everyList_eq_true_iff.mp hbody stmt hstmt

/-- A type name has one package and one message. -/
lemma MessageType.eq_of_text {type : MessageType} (package : PyStr) {message : PyStr}
    (hpackage : ∀ c ∈ package, PyStr.isWordChar c = true)
    (h : type.text = package ++ ("/msg/" ++ message)) :
    type.package = package ∧ type.message = message := by
  have hhead : ∀ m : PyStr, ∀ c, ("/msg/" ++ m).head? = some c →
      PyStr.isWordChar c = false := by
    rintro m c hc
    cases hc
    decide
  obtain ⟨htake, hdrop⟩ := takeWhile_append_word
    (IsWord.isWordChar (Pattern.fullmatch_word.mp type.package_matches)) (hhead type.message)
  obtain ⟨htake', hdrop'⟩ := takeWhile_append_word hpackage (hhead message)
  rw [MessageType.text] at h
  rw [h] at htake hdrop
  exact ⟨htake.symm.trans htake', List.append_cancel_left (hdrop.symm.trans hdrop')⟩

/-- The type support of an endpoint hands its package and its message to a macro. -/
lemma every_typeSupportExpr (builtin : Bool) (type : MessageType) {word : PyStr → Bool}
    (hwords : ∀ text ∈ typeSupportWords, word text = true)
    (htest : ∀ name args, test (.invocation name args) = args.all fun arg => arg.word?.any word) :
    (typeSupportExpr builtin type).every test = true ↔
      word type.package = true ∧ word type.message = true := by
  have hmsg : word "msg" = true := hwords _ (by decide)
  have hsupport : word "rosidl_typesupport_introspection_c" = true :=
    hwords _ (by decide)
  have hpackage : word "std_msgs" = true := hwords _ (by decide)
  have hmessage : word "UInt32" = true := hwords _ (by decide)
  have hident : ∀ name, (Token.ident name).word? = some name := fun _ => rfl
  unfold typeSupportExpr
  split
  next hbuiltin =>
    simp only [Bool.and_eq_true, beq_iff_eq] at hbuiltin
    have htext : type.text = "std_msgs" ++
      ("/msg/" ++ "UInt32") := hbuiltin.2
    obtain ⟨hpackage', hmessage'⟩ := MessageType.eq_of_text _ (by decide) htext
    simp [Expr.every, Expr.everyList, htest, hident, hpackage', hmessage', hmsg, hsupport, hpackage,
      hmessage]
  next => simp [Expr.every, htest, word?_classify, hident, hmsg]

end Leaves

/-! ## Both files

The included files, the declarations of the header, and the two functions in their scope.  Each of
the three is an equivalence, and the conditions are put together at the end.
-/

section Files

variable {deployment : Deployment} {headers : RosHeaders}

/-- The path of a message header is read back from its line. -/
lemma includedPath_includeText {type : PyStr × PyStr} (h : type ∈ messageIncludes deployment) :
    includedPath (includeText type) = some (includePath type) := by
  have hchars : ∀ c ∈ includePath type, decide (c ≠ '>'.toNat) = true := by
    intro c hc
    rw [decide_eq_true_eq]
    rintro rfl
    obtain hword | hslash | hdot := includePath_chars h _ hc
    · cases hword
    · cases hslash
    · cases hdot
  have hpath : ((includeText type).drop 9).takeWhile (· ≠ '>'.toNat) = includePath type := by
    rw [includeText_eq]
    change (includePath type ++ ">").takeWhile _ = _
    rw [List.takeWhile_append_of_pos hchars]
    exact List.append_nil _
  rw [includedPath, if_pos, hpath]
  rw [includeText_eq]
  exact List.prefix_append _ _

/-- The header includes four fixed files and one for each message type. -/
lemma includedPaths_header (deployment : Deployment) :
    includedPaths (headerTokens deployment) =
      [PyStr.ofString "stdbool.h", PyStr.ofString "rcl/rcl.h", PyStr.ofString "rclc/executor.h",
        PyStr.ofString "rclc/rclc.h"] ++ (messageIncludes deployment).map includePath := by
  have hstart : includedPaths headerStartTokens =
      [PyStr.ofString "stdbool.h", PyStr.ofString "rcl/rcl.h", PyStr.ofString "rclc/executor.h",
        "rclc/rclc.h"] := by
    decide +kernel
  have hmessages : includedPaths ((messageIncludes deployment).map fun type =>
      .directive (includeText type)) = (messageIncludes deployment).map includePath := by
    rw [includedPaths, List.filterMap_map, ← List.filterMap_eq_map]
    exact List.filterMap_congr fun type htype => includedPath_includeText htype
  have hstruct : includedPaths structTokens = [] := rfl
  have hmembers : includedPaths ((contextEntries deployment).flatMap memberTokens) = [] :=
    includedPaths_flatMap fun _ _ => rfl
  have hprototypes : includedPaths prototypesTokens = [] := rfl
  have hhandlers : includedPaths ((callbackNames deployment).flatMap fun name =>
      handlerTokens (classify rosidlMacros name) "message") = [] := by
    refine includedPaths_flatMap fun name _ => ?_
    rw [handlerTokens, includedPaths_cons rfl, includedPaths_cons (includes?_classify _ _)]
    rfl
  have hend : includedPaths [.directive "endif"] = [] := by decide +kernel
  simp only [headerTokens, includedPaths_append, hstart, hmessages, hstruct, hmembers, hprototypes,
    hhandlers, hend, List.append_nil]

/-- The source includes the type support of the built-in message if it is used. -/
lemma includedPaths_source (deployment : Deployment) (backend : PyStr) :
    includedPaths (sourceTokens deployment backend) =
      (if builtinUint32 deployment backend then [introspectionPath] else []) ++
        [PyStr.ofString "string.h"] := by
  have hincludes : ∀ builtin, includedPaths (includeTokens builtin) =
      (if builtin then [introspectionPath] else []) ++ [PyStr.ofString "string.h"] := by
    decide +kernel
  have hident : ∀ name, wordArguments (.ident name) = true := fun _ => rfl
  have hstr : ∀ value, wordArguments (.str value) = true := fun _ => rfl
  have hfini := Stmt.includedPaths_tokensList _ (@every_finiBody deployment _ hident)
  have hinit : includedPaths (Stmt.tokensList
      (initBody deployment (builtinUint32 deployment backend))) = [] := by
    refine Stmt.includedPaths_tokensList _ ((every_initBody hident hstr rfl _).mpr
      ⟨fun endpoint _ => ⟨rfl, ?_⟩, fun _ => rfl⟩)
    have hall : ∀ name args, wordArguments (.invocation name args) =
        args.all fun arg => arg.word?.any fun _ => true := by
      simp [wordArguments]
    exact (every_typeSupportExpr _ endpoint.type (fun _ _ => rfl) hall).mpr ⟨rfl, rfl⟩
  have hfiniHead : includedPaths finiHead = [] := rfl
  have hinitHead : includedPaths initHead = [] := rfl
  have hbrace : includedPaths [.punct .rbrace] = [] := rfl
  simp only [sourceTokens, includedPaths_append, hincludes, hfini, hinit, hfiniHead, hinitHead,
    hbrace, List.append_nil]

/-- The names at file scope after the structure and some prototypes. -/
def RosHeaders.scopeWith (headers : RosHeaders) (names handlers : List PyStr) : FileScope where
  macros := guardMacro :: headers.macros
  types := "ros2z_deployment_context_t" :: headers.types
  names := names ++ headers.names
  handlers := handlers

/-- The names at file scope after the header. -/
def RosHeaders.fileScope (headers : RosHeaders) (deployment : Deployment) : FileScope :=
  headers.scopeWith ["ros2z_deployment_fini", "ros2z_deployment_init"]
    (callbackNames deployment).reverse

lemma RosHeaders.fixed_notMem (headers : RosHeaders) {word : PyStr} (h : word ∈ fixedWords)
    (hguard : word ≠ guardMacro) : word ∉ guardMacro :: headers.macros := by
  rw [List.mem_cons, not_or]
  exact ⟨hguard, headers.words_free word h⟩

lemma ownNames_fixed : ∀ name ∈ ownNames, name ∈ fixedWords ∧ name ≠ guardMacro := by decide

lemma initVariables_fixed : ∀ name ∈ initVariables, name ∈ fixedWords ∧ name ≠ guardMacro := by
  decide

/-- A prototype of the generated source, after some others. -/
lemma RosHeaders.declare_function (headers : RosHeaders) {names : List PyStr} {name : PyStr}
    {params : List (PyStr × PyStr)} (hown : name ∈ ownNames)
    (hnew : name ∉ PyStr.ofString "ros2z_deployment_context_t" :: names)
    (hparams : ∀ entry ∈ params, entry.2 ∈ initVariables ∧
      entry.1 ∈ PyStr.ofString "ros2z_deployment_context_t" :: usedTypes) :
    (headers.scopeWith names []).declare (prototypeOf name params) =
      some (headers.scopeWith (name :: names) []) := by
  have htypes : PyStr.ofString "ros2z_deployment_context_t" :: usedTypes ⊆
      (headers.scopeWith names []).types :=
    List.cons_subset_cons _ headers.types_used
  have hmacros : ∀ word, word ∈ fixedWords ∧ word ≠ guardMacro →
      word ∉ (headers.scopeWith names []).macros :=
    fun word h => headers.fixed_notMem h.1 h.2
  obtain ⟨htype, hname⟩ := headers.names_free name hown
  rw [List.mem_cons, not_or] at hnew
  refine if_pos ⟨htypes (by decide), fun entry hentry => ?_, ⟨?_, ?_, ?_⟩, List.not_mem_nil⟩
  · obtain ⟨hvariable, hused⟩ := hparams entry hentry
    exact ⟨htypes hused, hmacros _ (initVariables_fixed _ hvariable)⟩
  · exact hmacros name (ownNames_fixed name hown)
  · exact List.not_mem_cons_of_ne_of_not_mem hnew.1 htype
  · exact fun h => (List.mem_append.mp h).elim hnew.2 hname

/-- The subscriptions are the endpoints with a callback. -/
lemma mem_subscriptions {subscription : Endpoint × Callback} :
    subscription ∈ deployment.subscriptions ↔ subscription.1 ∈ deployment.endpoints ∧
      subscription.1.kind = .subscription subscription.2 := by
  obtain ⟨endpoint, callback⟩ := subscription
  simp only [Deployment.subscriptions, List.mem_filterMap, Option.map_eq_some_iff, Prod.mk.injEq]
  constructor
  · rintro ⟨e, hmem, c, hc, rfl, rfl⟩
    refine ⟨hmem, ?_⟩
    unfold Endpoint.callback? at hc
    split at hc
    next => cases hc
    next hkind =>
      cases hc
      exact hkind
  · rintro ⟨hmem, hkind⟩
    refine ⟨endpoint, hmem, callback, ?_, rfl, rfl⟩
    rw [Endpoint.callback?, hkind]

/-- The members of the context have known types, and names that stand for themselves. -/
lemma typed_contextEntries_iff (headers : RosHeaders) (scope : FileScope)
    (hmacros : scope.macros = guardMacro :: headers.macros) (htypes : scope.types = headers.types) :
    scope.Typed (contextEntries deployment) ↔
      (∀ subscription ∈ deployment.subscriptions,
        subscription.1.type.structName ∈ headers.types) ∧
      ∀ endpoint ∈ deployment.endpoints, ∀ word ∈ endpoint.memberDecls.map MemberDecl.name ++
        [endpoint.flag], word ∉ guardMacro :: headers.macros := by
  have htype : ∀ type ∈ usedTypes, type ∈ headers.types := fun _ h => headers.types_used h
  have hkind : ∀ endpoint : Endpoint,
      fstring ["rcl_", endpoint.kind.text, "_t"] ∈ headers.types := by
    intro endpoint
    cases endpoint.kind with
    | publisher => exact htype "rcl_publisher_t" (by decide)
    | subscription callback => exact htype "rcl_subscription_t" (by decide)
  have hentries : scope.Typed (contextEntries deployment) ↔
      ∀ decl ∈ contextMembers deployment,
        decl.type ∈ headers.types ∧ decl.name ∉ guardMacro :: headers.macros := by
    simp only [FileScope.Typed, contextEntries, List.forall_mem_map, hmacros, htypes]
  rw [hentries, forall_contextMembers_iff
    (P := fun type name => type ∈ headers.types ∧ name ∉ guardMacro :: headers.macros)]
  constructor
  · rintro ⟨-, hendpoints⟩
    refine ⟨fun subscription hmem => ?_, fun endpoint hmem => ?_⟩
    · obtain ⟨hendpoint, hsubscription⟩ := mem_subscriptions.mp hmem
      have hmembers := (hendpoints _ hendpoint).1
      rw [forall_memberDecls_iff (P := fun type name =>
        type ∈ headers.types ∧ name ∉ guardMacro :: headers.macros)] at hmembers
      exact (hmembers.2 _ hsubscription).1
    · rw [List.forall_mem_append, List.forall_mem_map, List.forall_mem_singleton]
      exact ⟨fun decl hdecl => ((hendpoints endpoint hmem).1 decl hdecl).2,
        (hendpoints endpoint hmem).2.2⟩
  · rintro ⟨hmessages, hwords⟩
    refine ⟨⟨⟨htype _ (by decide), ?_⟩, ⟨htype _ (by decide), ?_⟩, ⟨htype _ (by decide), ?_⟩,
      ⟨htype _ (by decide), ?_⟩⟩, fun endpoint hmem => ?_⟩
    iterate 4 exact headers.fixed_notMem (by decide) (by decide)
    have hmembers := hwords endpoint hmem
    rw [List.forall_mem_append, List.forall_mem_map, List.forall_mem_singleton] at hmembers
    refine ⟨fun decl hdecl => ⟨?_, hmembers.1 decl hdecl⟩, htype _ (by decide), hmembers.2⟩
    revert decl
    rw [forall_memberDecls_iff (P := fun type _ => type ∈ headers.types)]
    exact ⟨hkind endpoint, fun callback hsubscription =>
      hmessages (endpoint, callback) (mem_subscriptions.mpr ⟨hmem, hsubscription⟩)⟩

/-- **The declarations of the header** get in nobody's way exactly under these conditions. -/
lemma declareAll_header_iff {scope : FileScope} :
    headers.toHeaders.scope.declareAll (headerDeclarations deployment) = some scope ↔
      (DistinctMembers deployment ∧
        (∀ subscription ∈ deployment.subscriptions,
          subscription.1.type.structName ∈ headers.types) ∧
        ∀ endpoint ∈ deployment.endpoints, ∀ word ∈ endpoint.memberDecls.map MemberDecl.name ++
          [endpoint.flag], word ∉ guardMacro :: headers.macros) ∧
      (∀ name ∈ callbackNames deployment, (headers.fileScope deployment).Free name) ∧
      scope = headers.fileScope deployment := by
  have hnames : (contextEntries deployment).map Prod.snd =
      (contextMembers deployment).map MemberDecl.name := by
    simp [contextEntries]
  have hcontext : FileScope.Free ⟨guardMacro :: headers.macros, headers.types, headers.names, []⟩
      "ros2z_deployment_context_t" :=
    ⟨headers.fixed_notMem (by decide) (by decide), headers.names_free _ (by decide)⟩
  have hinit := @RosHeaders.declare_function headers [] "ros2z_deployment_init"
    initParams (by decide) (by decide) (by decide)
  have hfini := @RosHeaders.declare_function headers ["ros2z_deployment_init"]
    "ros2z_deployment_fini" finiParams (by decide) (by decide) (by decide)
  have hmessage : PyStr.ofString "message" ∉ (headers.scopeWith
      ["ros2z_deployment_fini", "ros2z_deployment_init"] []).macros :=
    headers.fixed_notMem (by decide) (by decide)
  have hrest : (headers.scopeWith [] []).declareAll
        (prototypeOf "ros2z_deployment_init" initParams ::
          prototypeOf "ros2z_deployment_fini" finiParams ::
          (callbackNames deployment).map (Declaration.handler · "message")) =
        some scope ↔
      (∀ name ∈ callbackNames deployment, (headers.fileScope deployment).Free name) ∧
        scope = headers.fileScope deployment := by
    rw [declareAll_of_declare _ hinit, declareAll_of_declare _ hfini,
      declareAll_handlers_iff hmessage, RosHeaders.scopeWith, List.append_nil]
    rfl
  rw [headerDeclarations, declareAll_of_declare _ rfl, declareAll_record_iff,
    typed_contextEntries_iff headers _ rfl rfl, hnames, ← DistinctMembers, ← hrest]
  refine and_congr_left' ?_
  constructor
  · rintro ⟨htyped, hdistinct, -⟩
    exact ⟨hdistinct, htyped⟩
  · rintro ⟨hdistinct, htyped⟩
    exact ⟨htyped, hdistinct, hcontext⟩

lemma locals_finiFunction (deployment : Deployment) :
    (finiFunction deployment).locals = ["context", "result"] := by
  have hendpoints :
      (deployment.endpoints.reverse.map endpointFiniStmt).filterMap Stmt.variable? = [] := by
    simp [List.filterMap_map, Function.comp_def, endpointFiniStmt, finiStmt, Stmt.variable?]
  simp only [Function.locals, finiFunction, finiBody, List.filterMap_append, hendpoints]
  rfl

/-- The variables of the setup function are its parameters, the result and the profiles. -/
lemma locals_initFunction (deployment : Deployment) (builtin : Bool) :
    (initFunction deployment builtin).locals =
      initVariables ++ deployment.endpoints.map Endpoint.qosVariable := by
  have hzero : (deployment.endpoints.map zeroStmt).filterMap Stmt.variable? = [] := by
    simp [List.filterMap_map, Function.comp_def, zeroStmt, Stmt.variable?]
  have hendpoints : (deployment.endpoints.flatMap (endpointInitBody builtin)).filterMap
      Stmt.variable? = deployment.endpoints.map Endpoint.qosVariable := by
    rw [List.filterMap_flatMap, List.map_eq_flatMap]
    rfl
  have hexecutor : (executorBody deployment).filterMap Stmt.variable? = [] := by
    unfold executorBody
    split
    · rfl
    · simp only [List.filterMap_append, List.filterMap_flatMap]
      simp [executorInitBody, addSubscriptionBody, prepareBody, callStmt, failureStmt, setFlag,
        Stmt.variable?]
  have hret : [Stmt.ret retOk].filterMap Stmt.variable? = [] := rfl
  simp only [Function.locals, initFunction, initBody, List.filterMap_append, hzero, hendpoints,
    hexecutor, hret, List.append_nil]
  rfl

/-- The cleanup function is accepted unless a callback is called like one of its variables. -/
lemma accepts_finiFunction_iff (headers : RosHeaders) (deployment : Deployment) :
    (headers.fileScope deployment).Accepts (finiFunction deployment) ↔
      ∀ x ∈ (["context", "result"] : List PyStr), x ∉ callbackNames deployment := by
  have hname : (finiFunction deployment).name ∈ (headers.fileScope deployment).names :=
    List.mem_append_left _ List.mem_cons_self
  have hbody : Stmt.everyList (headers.fileScope deployment).leaf (finiFunction deployment).body =
    true := every_finiBody fun _ => rfl
  have hmacros : ∀ x ∈ (["context", "result"] : List PyStr),
      x ∉ (headers.fileScope deployment).macros := by
    intro x hx
    have hvariable : x ∈ initVariables := by
      revert x
      decide
    obtain ⟨hfixed, hguard⟩ := initVariables_fixed x hvariable
    exact headers.fixed_notMem hfixed hguard
  rw [FileScope.Accepts, and_iff_right hname, and_iff_left hbody, locals_finiFunction]
  refine forall₂_congr fun x hx => ?_
  rw [and_iff_right (hmacros x hx), RosHeaders.fileScope, RosHeaders.scopeWith, List.mem_reverse]

/-- The leaves of the setup function: its numbers have a type and the words of its type supports are
not replaced. -/
lemma leaves_initFunction_iff (headers : RosHeaders) (deployment : Deployment) (builtin : Bool) :
    Stmt.everyList (headers.fileScope deployment).leaf
      (initFunction deployment builtin).body = true ↔
      (∀ endpoint ∈ deployment.endpoints, endpoint.qos.depth < 2 ^ 64 ∧
        endpoint.type.package ∉ guardMacro :: headers.macros ∧
        endpoint.type.message ∉ guardMacro :: headers.macros) ∧
      deployment.subscriptions.length < 2 ^ 64 := by
  have hwords : ∀ text ∈ typeSupportWords,
      decide (text ∉ (headers.fileScope deployment).macros) = true := by
    intro text htext
    have hfixed : text ∈ fixedWords ∧ text ≠ guardMacro := by
      revert text
      decide
    exact decide_eq_true (headers.fixed_notMem hfixed.1 hfixed.2)
  refine (every_initBody (fun _ => rfl) (fun _ => rfl) rfl builtin).trans (and_congr ?_ ?_)
  · refine forall₂_congr fun endpoint _ => and_congr decide_eq_true_iff ?_
    rw [every_typeSupportExpr builtin endpoint.type hwords fun _ _ => rfl, decide_eq_true_iff,
      decide_eq_true_iff]
    rfl
  · refine Iff.trans (imp_congr_right fun _ => decide_eq_true_iff) ⟨fun h => ?_, fun h _ => h⟩
    cases hsubscriptions : deployment.subscriptions with
    | nil => simp
    | cons subscription subscriptions => exact hsubscriptions ▸ h (by simp [hsubscriptions])

/-- The setup function is accepted exactly if its variables stand for themselves and hide no
callback, its numbers have a type and the words of its type supports are not replaced. -/
lemma accepts_initFunction_iff (headers : RosHeaders) (deployment : Deployment) (builtin : Bool) :
    (headers.fileScope deployment).Accepts (initFunction deployment builtin) ↔
      (∀ x ∈ initVariables, x ∉ callbackNames deployment) ∧
      (∀ endpoint ∈ deployment.endpoints,
        (endpoint.qosVariable ∉ guardMacro :: headers.macros ∧
          endpoint.qosVariable ∉ callbackNames deployment) ∧
        endpoint.qos.depth < 2 ^ 64 ∧
        endpoint.type.package ∉ guardMacro :: headers.macros ∧
        endpoint.type.message ∉ guardMacro :: headers.macros) ∧
      deployment.subscriptions.length < 2 ^ 64 := by
  have hname : (initFunction deployment builtin).name ∈ (headers.fileScope deployment).names :=
    List.mem_append_left _ (List.mem_cons_of_mem _ List.mem_cons_self)
  have hmacros : ∀ x ∈ initVariables, x ∉ guardMacro :: headers.macros := by
    intro x hx
    obtain ⟨hfixed, hguard⟩ := initVariables_fixed x hx
    exact headers.fixed_notMem hfixed hguard
  have hhandlers : ∀ x, x ∈ (headers.fileScope deployment).handlers ↔
      x ∈ callbackNames deployment := fun x => List.mem_reverse
  rw [FileScope.Accepts, and_iff_right hname, leaves_initFunction_iff, locals_initFunction,
    List.forall_mem_append, List.forall_mem_map]
  simp only [hhandlers]
  constructor
  · rintro ⟨⟨hvariables, hqos⟩, hendpoints, hlength⟩
    exact ⟨fun x hx => (hvariables x hx).2, fun endpoint hmem => ⟨hqos endpoint hmem,
      hendpoints endpoint hmem⟩, hlength⟩
  · rintro ⟨hvariables, hendpoints, hlength⟩
    exact ⟨⟨fun x hx => ⟨hmacros x hx, hvariables x hx⟩, fun endpoint hmem =>
      (hendpoints endpoint hmem).1⟩, fun endpoint hmem => (hendpoints endpoint hmem).2, hlength⟩

end Files

/-! ## The translation

`translate` checks one thing after the other.  Taken together, its conditions are `DistinctMembers`
and `Buildable`.
-/

section Translation

variable {deployment : Deployment} {headers : RosHeaders} {backend : PyStr}

/-- The files that are included exist exactly if the message headers and the built-in type support
do. -/
lemma includes_iff :
    includedPaths (headerTokens deployment) ⊆ headers.files ∧
        includedPaths (sourceTokens deployment backend) ⊆ headers.files ↔
      (∀ endpoint ∈ deployment.endpoints,
        includePath (endpoint.type.package, endpoint.type.message) ∈ headers.files) ∧
      (builtinUint32 deployment backend = true → introspectionPath ∈ headers.files) := by
  have hfixed : ∀ path ∈ fixedFiles, path ∈ headers.files := fun _ h => headers.files_fixed h
  rw [includedPaths_header, includedPaths_source]
  refine and_congr ?_ ?_
  · rw [List.append_subset, and_iff_right]
    · constructor
      · intro h endpoint hmem
        exact h (List.mem_map_of_mem (mem_messageIncludes.mpr ⟨endpoint, hmem, rfl⟩))
      · intro h path hpath
        obtain ⟨type, htype, rfl⟩ := List.mem_map.mp hpath
        obtain ⟨endpoint, hmem, rfl⟩ := mem_messageIncludes.mp htype
        exact h endpoint hmem
    · intro path hpath
      refine hfixed path ?_
      revert path
      decide
  · rw [List.append_subset, and_iff_left]
    · cases builtinUint32 deployment backend with
      | true => simp
      | false => simp
    · intro path hpath
      refine hfixed path ?_
      revert path
      decide

/-- The conditions that the translation checks, one stage after the other. -/
lemma translate_eq_some_iff_stages (h : Quotable deployment) {program : List Function} :
    CLang.translate headers.toHeaders (generateHeader deployment)
        (generateSource deployment backend) = some program ↔
      (∀ name ∈ callbackNames deployment, IsName name) ∧
      headers.toHeaders.scope.declareAll (headerDeclarations deployment) =
        some (headers.fileScope deployment) ∧
      (includedPaths (headerTokens deployment) ⊆ headers.files ∧
        includedPaths (sourceTokens deployment backend) ⊆ headers.files) ∧
      ((headers.fileScope deployment).Accepts (finiFunction deployment) ∧
        (headers.fileScope deployment).Accepts
          (initFunction deployment (builtinUint32 deployment backend))) ∧
      program = setupProgram deployment backend := by
  have hheader : lexUnit headers.toHeaders.functionMacros (generateHeader deployment) =
    some (headerTokens deployment) := lexUnit_generateHeader deployment
  have hsource : (∀ name ∈ callbackNames deployment, IsName name) →
      lexUnit headers.toHeaders.functionMacros (generateSource deployment backend) =
        some (sourceTokens deployment backend) :=
    fun hnames => lexUnit_generateSource h
      (fun subscription hmem => hnames _ (List.mem_map_of_mem hmem)) backend
  have haccepts : ∀ scope : FileScope, (∀ f ∈ setupProgram deployment backend, scope.Accepts f) ↔
      scope.Accepts (finiFunction deployment) ∧
        scope.Accepts (initFunction deployment (builtinUint32 deployment backend)) := by
    simp [setupProgram]
  simp only [CLang.translate, Option.bind_eq_bind, Option.bind_eq_some_iff, hheader,
    Option.some.injEq, exists_eq_left']
  constructor
  · rintro ⟨declarations, hparse, scope, hscope, tokens, htokens, functions, hfunctions, hall⟩
    obtain ⟨hnames, rfl⟩ := parseDeclarations_header.mp hparse
    obtain ⟨-, -, rfl⟩ := declareAll_header_iff.mp hscope
    obtain rfl := Option.some.inj (htokens.symm.trans (hsource hnames))
    obtain rfl := Option.some.inj
      (hfunctions.symm.trans (parseUnit_sourceTokens deployment backend))
    split at hall
    next hchecks =>
      cases hall
      exact ⟨hnames, hscope, ⟨hchecks.1, hchecks.2.1⟩, (haccepts _).mp hchecks.2.2, rfl⟩
    next => cases hall
  · rintro ⟨hnames, hscope, hfiles, hfunctions, rfl⟩
    refine ⟨_, parseDeclarations_header.mpr ⟨hnames, rfl⟩, _, hscope, _, hsource hnames, _,
      parseUnit_sourceTokens deployment backend, ?_⟩
    exact if_pos ⟨hfiles.1, hfiles.2, (haccepts _).mpr hfunctions⟩

/-- What is asked of the names of the callbacks, stage after stage, is that they are free. -/
lemma callbacks_free_iff :
    (∀ subscription ∈ deployment.subscriptions,
        headers.Free deployment subscription.2.name) ↔
      (∀ name ∈ callbackNames deployment, IsName name) ∧
      (∀ name ∈ callbackNames deployment, (headers.fileScope deployment).Free name) ∧
      (∀ x ∈ initVariables, x ∉ callbackNames deployment) ∧
      ∀ endpoint ∈ deployment.endpoints, endpoint.qosVariable ∉ callbackNames deployment := by
  have hscope : ∀ name, (headers.fileScope deployment).Free name ↔
      (name ∉ headers.macros ∧ name ∉ headers.types ∧ name ∉ headers.names) ∧
        name ≠ guardMacro ∧ name ∉ ownNames := by
    intro name
    simp only [FileScope.Free, RosHeaders.fileScope, RosHeaders.scopeWith, ownNames, List.mem_cons,
      List.mem_append, List.not_mem_nil, or_false, not_or]
    tauto
  have hcallbacks : (∀ subscription ∈ deployment.subscriptions,
      headers.Free deployment subscription.2.name) ↔
      ∀ name ∈ callbackNames deployment, headers.Free deployment name := by
    rw [callbackNames, List.forall_mem_map]
  rw [hcallbacks]
  constructor
  · intro h
    refine ⟨fun name hname => (h name hname).isName, fun name hname => (hscope name).mpr
      ⟨(h name hname).outside, (h name hname).own.1, (h name hname).own.2.1⟩, ?_, ?_⟩
    · exact fun x hx hname => (h x hname).own.2.2 hx
    · exact fun endpoint hmem hname => (h _ hname).qosVariables endpoint hmem rfl
  · rintro ⟨hnames, hfree, hvariables, hqos⟩ name hname
    obtain ⟨houtside, hguard, hown⟩ := (hscope name).mp (hfree name hname)
    refine ⟨hnames name hname, houtside, ⟨hguard, hown, fun h => hvariables name h hname⟩, ?_⟩
    rintro endpoint hmem rfl
    exact hqos endpoint hmem hname

/-- **The generated files can be compiled** exactly if the members of the context have names of
their own and the deployment is buildable, and what they are compiled to is the intended program. -/
theorem translate_eq_some_iff (h : Quotable deployment) {program : List Function} :
    CLang.translate headers.toHeaders (generateHeader deployment)
        (generateSource deployment backend) = some program ↔
      (DistinctMembers deployment ∧ Buildable headers deployment backend) ∧
        program = setupProgram deployment backend := by
  have hguard : ∀ word, word ∉ guardMacro :: headers.macros ↔
      word ≠ guardMacro ∧ word ∉ headers.macros := by
    simp
  rw [translate_eq_some_iff_stages h, declareAll_header_iff, includes_iff, accepts_finiFunction_iff,
    accepts_initFunction_iff]
  simp only [hguard]
  constructor
  · rintro ⟨hnames, ⟨⟨hdistinct, hmessages, hwords⟩, hfree, -⟩, ⟨hfiles, hintrospection⟩,
      ⟨-, hvariables, hendpoints, hlength⟩, rfl⟩
    refine ⟨⟨hdistinct, hfiles, hintrospection, hmessages, fun endpoint hmem => ?_, ?_,
      fun endpoint hmem => (hendpoints endpoint hmem).2.1, hlength⟩, rfl⟩
    · obtain ⟨⟨hqos, -⟩, -, hpackage, hmessage⟩ := hendpoints endpoint hmem
      have hmembers := hwords endpoint hmem
      simp only [Endpoint.words, List.forall_mem_append, List.forall_mem_cons] at hmembers ⊢
      exact ⟨hmembers.1, hmembers.2.1, hqos, hpackage, hmessage, by simp⟩
    · exact callbacks_free_iff.mpr ⟨hnames, hfree, hvariables,
        fun endpoint hmem => (hendpoints endpoint hmem).1.2⟩
  · rintro ⟨⟨hdistinct, hbuildable⟩, rfl⟩
    obtain ⟨hnames, hfree, hvariables, hqos⟩ := callbacks_free_iff.mp hbuildable.callbacks
    have hwords : ∀ endpoint ∈ deployment.endpoints, ∀ word ∈ endpoint.words,
        word ≠ guardMacro ∧ word ∉ headers.macros := hbuildable.words
    refine ⟨hnames, ⟨⟨hdistinct, hbuildable.messages, fun endpoint hmem word hword => ?_⟩, hfree,
      trivial⟩, ⟨hbuildable.files, hbuildable.introspection⟩, ⟨fun x hx => hvariables x ?_,
      hvariables, fun endpoint hmem => ⟨⟨?_, hqos endpoint hmem⟩, hbuildable.depths endpoint hmem,
      ?_, ?_⟩, hbuildable.capacity⟩, rfl⟩
    · refine hwords endpoint hmem word ?_
      simp only [Endpoint.words, List.mem_append, List.mem_cons] at hword ⊢
      tauto
    · revert x
      decide
    all_goals exact hwords endpoint hmem _ (by simp [Endpoint.words])

/-- The program that a C compiler makes of the two generated files. -/
def compiled (headers : RosHeaders) (deployment : Deployment) (backend : PyStr) :
    Option (List Function) :=
  CLang.translate headers.toHeaders (generateHeader deployment) (generateSource deployment backend)

lemma compiled_isSome_iff (h : Quotable deployment) :
    (compiled headers deployment backend).isSome ↔
      DistinctMembers deployment ∧ Buildable headers deployment backend := by
  rw [Option.isSome_iff_exists]
  constructor
  · rintro ⟨program, hprogram⟩
    exact ((translate_eq_some_iff h).mp hprogram).1
  · intro hconditions
    exact ⟨_, (translate_eq_some_iff h).mpr ⟨hconditions, rfl⟩⟩

end Translation

end Ros2Zephyr
