import Ros2Zephyr.Deployment.Setup

/-!
# The strings of a deployment in the generated text

`generate_source` puts the name and the namespace of the node and the topics of the endpoints
between quotes as they are.  A C compiler reads them back unchanged exactly if each is `Plain`: it
has no quote, no backslash, no end of line and no trigraph.

* `intendedTokens` — the text as the generator means it, with each string as one literal that
  denotes the declared string.
* `lex_generateSource_iff` — when the text is read like that.
-/

namespace Ros2Zephyr

open CLang

section Intended

/-- The creation of the node with the declared namespace. -/
def declaredNodeInit (deployment : Deployment) : List Stmt :=
  nodeInitWith deployment deployment.nodeNamespace

/-- The creation of an endpoint with the declared topic. -/
def declaredEndpointInit (builtin : Bool) (endpoint : Endpoint) : List Stmt :=
  endpointInitWith builtin endpoint endpoint.topic

def executorTokens (deployment : Deployment) : List Token :=
  if deployment.subscriptions.isEmpty then []
  else
    Stmt.tokensList (executorInitBody deployment.subscriptions.length) ++
    deployment.subscriptions.flatMap addSubscriptionTokens ++
    Stmt.tokensList prepareBody

/-- The tokens that the generated text is meant to have. -/
def intendedTokens (deployment : Deployment) (backend : PyStr) : List Token :=
  startTokens deployment (builtinUint32 deployment backend) ++
  Stmt.tokensList (declaredNodeInit deployment) ++
  deployment.endpoints.flatMap (fun endpoint =>
    Stmt.tokensList (declaredEndpointInit (builtinUint32 deployment backend) endpoint)) ++
  executorTokens deployment ++
  (Stmt.tokensList [.ret retOk] ++ [.punct .rbrace])

/-- Every string that is put between quotes means itself there. -/
structure PlainStrings (deployment : Deployment) : Prop where
  nodeNamespace : Plain deployment.nodeNamespace
  topics : ∀ endpoint ∈ deployment.endpoints, Plain endpoint.topic

end Intended

section Read

variable {deployment : Deployment}

lemma readLines_declaredNodeInit (h : Plain deployment.nodeNamespace) :
    ReadLines (nodeInitLines deployment) (declaredNodeInit deployment) := by
  rw [ReadLines, declaredNodeInit, tokensList_nodeInitWith]
  exact lexesLines_nodeInit (literals_plain h)

lemma readLines_declaredEndpointInit (builtin : Bool) {endpoint : Endpoint}
    (h : Plain endpoint.topic) :
    ReadLines (endpointInitLines builtin endpoint) (declaredEndpointInit builtin endpoint) := by
  rw [ReadLines, declaredEndpointInit, tokensList_endpointInitWith]
  exact lexesLines_endpointInit builtin endpoint (literals_plain h)

lemma lexesLines_executor (deployment : Deployment) :
    LexesLines rosidlMacros (executorLines deployment) (executorTokens deployment) := by
  unfold executorLines executorTokens
  split
  · exact LexesLines.nil
  · have hadd := LexesLines.flatMap (l := deployment.subscriptions)
      fun s _ => lexesLines_addSubscription s
    exact (LexesLines.append (readLines_executorInit _) hadd).append readLines_prepare

end Read

section Inverse

variable {lines : List PyStr} {tokens : List Token}

/-- The namespace, from the line it stands in. -/
lemma plain_nodeNamespace (deployment : Deployment)
    (h : LexesLines rosidlMacros (nodeInitLines deployment ++ lines)
      (Stmt.tokensList (declaredNodeInit deployment) ++ tokens)) :
    Plain deployment.nodeNamespace := by
  have hname := literals_plain (plain_of_isWordChar (identifier_word deployment.nodeName_matches))
  have hbefore : Lexes rosidlMacros .lineStart
      (fstring ["  rcl_ret_t result = rclc_node_init_default(&context->node, \"",
        deployment.nodeName, "\", \""]) (.string []) _ :=
    .piece rfl (.quote hname (.piece rfl .nil))
  have hline : fstring ["  rcl_ret_t result = rclc_node_init_default(&context->node, \"",
      deployment.nodeName, "\", \"", deployment.nodeNamespace, "\", support);"] =
      fstring ["  rcl_ret_t result = rclc_node_init_default(&context->node, \"",
        deployment.nodeName, "\", \""] ++ (deployment.nodeNamespace ++
          quote :: ", support);") := by
    simp only [fstring, List.flatten_cons, List.flatten_nil, List.append_nil, List.append_assoc]
    rfl
  rw [nodeInitLines, hline] at h
  exact plain_of_lexesLines hbefore (by decide) h

/-- Where the topic stands among the tokens. -/
lemma declaredEndpointInit_tokens (builtin : Bool) (endpoint : Endpoint) :
    ∃ rest, Stmt.tokensList (declaredEndpointInit builtin endpoint) =
      Stmt.tokensList (qosBody endpoint) ++ (initCallTokens endpoint ++
        (((typeSupportExpr builtin endpoint.type).tokens ++ [.punct .comma]) ++
          .str endpoint.topic :: rest)) := by
  refine ⟨.punct .comma :: (initCallEnd endpoint ++
    Stmt.tokensList [failureStmt, setFlag endpoint.flag]), ?_⟩
  rw [declaredEndpointInit, tokensList_endpointInitWith]
  rfl

/-- The topic of an endpoint, from the second line of the call it stands in. -/
lemma plain_topic (builtin : Bool) (endpoint : Endpoint)
    (h : LexesLines rosidlMacros (endpointInitLines builtin endpoint ++ lines)
      (Stmt.tokensList (declaredEndpointInit builtin endpoint) ++ tokens)) :
    Plain endpoint.topic := by
  have hbefore : Lexes rosidlMacros .lineStart
      (fstring ["      ", typeSupport builtin endpoint.type, ", \""]) (.string [])
      ([] ++ ((typeSupportExpr builtin endpoint.type).tokens ++ ([.punct .comma] ++ []))) :=
    .piece rfl (.piece (lexes_typeSupport builtin endpoint.type) (.piece rfl .nil))
  have hline : fstring ["      ", typeSupport builtin endpoint.type, ", \"", endpoint.topic,
      "\", &qos_", endpoint.id, ");"] =
      fstring ["      ", typeSupport builtin endpoint.type, ", \""] ++ (endpoint.topic ++
        quote :: (", &qos_" ++ (endpoint.id ++ ");"))) := by
    simp only [fstring, List.flatten_cons, List.flatten_nil, List.append_nil, List.append_assoc]
    rfl
  have hafter : ∀ c ∈ ", &qos_" ++ (endpoint.id ++ ");"),
      c ≠ quote ∧ ordinary c = true := by
    have hid : ∀ c ∈ endpoint.id, c ≠ quote ∧ ordinary c = true := by
      intro c hc
      have hword := endpoint.id_word c hc
      refine ⟨?_, ordinary_of_isWordChar hword⟩
      rintro rfl
      cases hword
    rw [List.forall_mem_append, List.forall_mem_append]
    exact ⟨by decide, hid, by decide⟩
  obtain ⟨tokens', htokens⟩ := declaredEndpointInit_tokens builtin endpoint
  rw [endpointInitLines, hline, htokens, List.append_assoc, List.append_assoc] at h
  have hcall := (readLines_qos endpoint).cancel h
  rw [List.append_assoc] at hcall
  have harguments := (lexesLines_initCall endpoint).cancel hcall
  rw [List.append_assoc] at harguments
  exact plain_of_lexesLines hbefore hafter harguments

/-- The topics, one endpoint after the other. -/
lemma plain_topics (builtin : Bool) (endpoints : List Endpoint)
    (h : LexesLines rosidlMacros (endpoints.flatMap (endpointInitLines builtin) ++ lines)
      (endpoints.flatMap (fun e => Stmt.tokensList (declaredEndpointInit builtin e)) ++ tokens)) :
    ∀ endpoint ∈ endpoints, Plain endpoint.topic := by
  induction endpoints with
  | nil => simp
  | cons endpoint endpoints ih =>
      rw [List.flatMap_cons, List.flatMap_cons, List.append_assoc, List.append_assoc] at h
      have hplain := plain_topic builtin endpoint h
      exact List.forall_mem_cons.mpr
        ⟨hplain, ih ((readLines_declaredEndpointInit builtin hplain).cancel h)⟩

end Inverse

section Text

variable {deployment : Deployment}

/-- **The text is read as it is meant exactly if every string is plain.** -/
theorem lex_generateSource_iff (backend : PyStr) :
    lex rosidlMacros (generateSource deployment backend) =
      some (intendedTokens deployment backend) ↔ PlainStrings deployment := by
  have hstart := lexesLines_start deployment (builtinUint32 deployment backend)
  have hlines : generateSource deployment backend =
      List.intercalate [newline]
        ((includeLines (builtinUint32 deployment backend) ++
            (finiStart ++ deployment.endpoints.reverse.map endpointFiniLine ++ finiEnd) ++
            (initStart ++ deployment.endpoints.map zeroLine)) ++
          (nodeInitLines deployment ++
            (deployment.endpoints.flatMap
                (endpointInitLines (builtinUint32 deployment backend)) ++
              (executorLines deployment ++
                (["  return RCL_RET_OK;", "\x7d"] : List PyStr)))) ++ [[]]) := by
    simp [generateSource, joinLines, newline]
  have htokens : intendedTokens deployment backend =
      startTokens deployment (builtinUint32 deployment backend) ++
        (Stmt.tokensList (declaredNodeInit deployment) ++
          (deployment.endpoints.flatMap (fun endpoint => Stmt.tokensList
              (declaredEndpointInit (builtinUint32 deployment backend) endpoint)) ++
            (executorTokens deployment
              ++ (Stmt.tokensList [.ret retOk] ++ [.punct .rbrace])))) := by
    simp only [intendedTokens, List.append_assoc]
  rw [hlines, htokens, lex_intercalate_iff]
  constructor
  · intro h
    have hnode := hstart.cancel h
    have hnamespace := plain_nodeNamespace deployment hnode
    have hendpoints := (readLines_declaredNodeInit hnamespace).cancel hnode
    exact ⟨hnamespace, plain_topics _ _ hendpoints⟩
  · intro h
    have htopics := LexesLines.flatMap fun e he =>
      readLines_declaredEndpointInit (builtinUint32 deployment backend) (h.topics e he)
    exact hstart.append (LexesLines.append (readLines_declaredNodeInit h.nodeNamespace)
      (htopics.append ((lexesLines_executor deployment).append lexesLines_end)))

end Text

section Accepted

/-- **The strings of an accepted deployment survive the generation** exactly if they are plain: the
generated text is then read with each of them as one literal of that value, and with everything
after it as it is meant. -/
theorem generated_strings_survive_iff {repr : PyStr → PyStr} {fields result : Fields}
    (haccepted : validateDeployment repr fields = .ok result) (backend : PyStr) :
    (∃ deployment, Deployment.ofFields fields = some deployment) ∧
      ∀ deployment, Deployment.ofFields fields = some deployment →
        (lex rosidlMacros (generateSource deployment backend) =
          some (intendedTokens deployment backend) ↔ PlainStrings deployment) :=
  ⟨exists_ofFields haccepted, fun _ _ => lex_generateSource_iff backend⟩

lemma loopback_plainStrings : PlainStrings loopback := by
  have htopics : ∀ endpoint ∈ loopback.endpoints,
      literalValue endpoint.topic = some endpoint.topic := by
    decide
  have hnamespace : literalValue loopback.nodeNamespace = some loopback.nodeNamespace := by
    decide
  exact ⟨literalValue_eq_self_iff.mp hnamespace,
    fun endpoint hmem => literalValue_eq_self_iff.mp (htopics endpoint hmem)⟩

theorem generated_strings_survive_loopback :
    lex rosidlMacros (generateSource loopback "rmw_zenoh_pico") =
      some (intendedTokens loopback "rmw_zenoh_pico") := by
  obtain ⟨result, haccepted⟩ := loopbackDeployment_returns
  exact ((generated_strings_survive_iff haccepted "rmw_zenoh_pico").2 loopback
    ofFields_loopbackDeployment).mpr loopback_plainStrings

/-- A topic with a quote in it. -/
def quotingTopic : PyStr := "a\"b"

def quoting : Deployment :=
  (Deployment.ofFields (publisherDeployment quotingTopic)).get (by decide +kernel)

/-- An accepted deployment whose generated text has an unterminated literal: the quote in the topic
ends the literal, and the quote after the topic starts another one. -/
theorem generated_strings_break :
    (∃ result, validateDeployment id (publisherDeployment quotingTopic) = .ok result) ∧
      Deployment.ofFields (publisherDeployment quotingTopic) = some quoting ∧
      lex rosidlMacros (generateSource quoting "rmw_cyclonedds_c") = none := by
  refine ⟨Fallible.exists_ok_of_toBool ?_, (Option.some_get _).symm, ?_⟩
  · decide
  · decide +kernel

end Accepted

end Ros2Zephyr
