import Mathlib.Data.List.Dedup
import Ros2Zephyr.Deployment.ReadBack

/-!
# The generated header, read

`generated_ros_init.h` uses names of the deployment beside names of its own and names of the headers
that it includes.

* `RosHeaders` — the headers of the C library, of rcl, rclc, rmw and rosidl and of the messages: any
  headers that have what the fixed part of the generated text needs.
* `Buildable` — what the deployment must meet: its message types have headers, its callbacks have
  names that nothing else has, no macro replaces one of its words, and its numbers are constants of
  C.
* `lexUnit_generateHeader`, `parseDeclarations_header` — the text of the header as tokens and as
  declarations.  It can be read unless a callback is called like a keyword or a macro.
-/

namespace Ros2Zephyr

open CLang

/-! ## The headers

Nothing is assumed of the headers but what is written here.  What they bring in beyond that is
arbitrary, so the conditions on the names of a deployment are conditions on both.
-/

section Headers

/-- The include guard of the generated header. -/
def guardMacro : PyStr := "ROS2_ZEPHYR_GENERATED_ROS_INIT_H"

/-- The macros without arguments that the text uses, and those that come with them. -/
def objectMacros : List PyStr :=
  ["NULL", "bool", "true", "false", "__bool_true_false_are_defined", "RCL_RET_OK", "RCL_RET_ERROR",
    "RCL_RET_INVALID_ARGUMENT"]

/-- The types that the text uses. -/
def usedTypes : List PyStr :=
  ["bool", "rcl_ret_t", "rcl_node_t", "rcl_publisher_t", "rcl_subscription_t", "rcl_allocator_t",
    "rclc_executor_t", "rclc_support_t", "rmw_qos_profile_t"]

/-- The functions and constants that the text uses. -/
def usedNames : List PyStr :=
  ["memset", "rcl_get_zero_initialized_node", "rcl_get_zero_initialized_publisher",
    "rcl_get_zero_initialized_subscription", "rclc_executor_get_zero_initialized_executor",
    "rclc_node_init_default", "rclc_publisher_init", "rclc_subscription_init", "rclc_executor_init",
    "rclc_executor_add_subscription", "rclc_executor_prepare", "rclc_executor_fini",
    "rcl_publisher_fini", "rcl_subscription_fini", "rcl_node_fini", "ON_NEW_DATA",
    "rmw_qos_profile_default", "RMW_QOS_POLICY_RELIABILITY_BEST_EFFORT",
    "RMW_QOS_POLICY_RELIABILITY_RELIABLE", "RMW_QOS_POLICY_DURABILITY_VOLATILE",
    "RMW_QOS_POLICY_DURABILITY_TRANSIENT_LOCAL", "RMW_QOS_POLICY_HISTORY_KEEP_LAST"]

/-- What the generated header declares. -/
def ownNames : List PyStr :=
  ["ros2z_deployment_context_t", "ros2z_deployment_init", "ros2z_deployment_fini"]

def initVariables : List PyStr := ["context", "support", "allocator", "result"]

/-- The words that the text hands to the macros of rosidl. -/
def typeSupportWords : List PyStr :=
  ["msg", "rosidl_typesupport_introspection_c", "std_msgs", "UInt32"]

/-- The words of the text that are to stand for themselves whatever the deployment is. -/
def fixedWords : List PyStr :=
  [guardMacro, "node", "executor", "node_initialized", "executor_initialized", "message"] ++
    typeSupportWords ++ ownNames ++ initVariables

/-- The files that are always included. -/
def fixedFiles : List PyStr :=
  ["stdbool.h", "rcl/rcl.h", "rclc/executor.h", "rclc/rclc.h", "string.h"]

/-- Headers with which the fixed part of the text can be compiled. -/
structure RosHeaders where
  files : List PyStr
  macros : List PyStr
  types : List PyStr
  names : List PyStr
  files_fixed : fixedFiles ⊆ files
  macros_used : objectMacros ⊆ macros
  types_used : usedTypes ⊆ types
  names_used : usedNames ⊆ names
  words_free : ∀ word ∈ fixedWords, word ∉ macros
  names_free : ∀ name ∈ ownNames, name ∉ types ∧ name ∉ names

def RosHeaders.toHeaders (headers : RosHeaders) : Headers where
  files := headers.files
  functionMacros := rosidlMacros
  macros := headers.macros
  types := headers.types
  names := headers.names

end Headers

/-! ## What the deployment must meet

`DistinctMembers` is about the deployment alone, `Buildable` about the deployment and the headers.
-/

section Buildable

/-- The members of the context have names of their own. -/
def DistinctMembers (deployment : Deployment) : Prop :=
  ((contextMembers deployment).map MemberDecl.name).Nodup

instance (deployment : Deployment) : Decidable (DistinctMembers deployment) :=
  inferInstanceAs (Decidable (List.Nodup _))

/-- The header of a message type. -/
def includePath (type : PyStr × PyStr) : PyStr :=
  fstring [type.1, "/msg/", snakeCase type.2, ".h"]

/-- The header of the type support that cyclonedds has built in. -/
def introspectionPath : PyStr := "std_msgs/msg/detail/u_int32__rosidl_typesupport_introspection_c.h"

/-- The words of an endpoint that are to stand for themselves. -/
def Endpoint.words (endpoint : Endpoint) : List PyStr :=
  endpoint.memberDecls.map MemberDecl.name ++
    [endpoint.flag, endpoint.qosVariable, endpoint.type.package, endpoint.type.message]

/-- A name that a callback can have. -/
structure RosHeaders.Free (headers : RosHeaders) (deployment : Deployment) (name : PyStr) :
    Prop where
  isName : IsName name
  outside : name ∉ headers.macros ∧ name ∉ headers.types ∧ name ∉ headers.names
  own : name ≠ guardMacro ∧ name ∉ ownNames ∧ name ∉ initVariables
  qosVariables : ∀ endpoint ∈ deployment.endpoints, name ≠ endpoint.qosVariable

/-- The deployment can be built with these headers. -/
structure Buildable (headers : RosHeaders) (deployment : Deployment) (backend : PyStr) : Prop where
  files : ∀ endpoint ∈ deployment.endpoints,
    includePath (endpoint.type.package, endpoint.type.message) ∈ headers.files
  introspection : builtinUint32 deployment backend = true → introspectionPath ∈ headers.files
  messages : ∀ subscription ∈ deployment.subscriptions,
    subscription.1.type.structName ∈ headers.types
  words : ∀ endpoint ∈ deployment.endpoints, ∀ word ∈ endpoint.words,
    word ≠ guardMacro ∧ word ∉ headers.macros
  callbacks : ∀ subscription ∈ deployment.subscriptions, headers.Free deployment subscription.2.name
  depths : ∀ endpoint ∈ deployment.endpoints, endpoint.qos.depth < 2 ^ 64
  capacity : deployment.subscriptions.length < 2 ^ 64

end Buildable

/-! ## The words of the header

A word of the text is a name if it is no keyword and no macro with arguments.  For most of them the
first characters decide.
-/

section Words

/-- A word that is read as a name. -/
structure CName (word : PyStr) : Prop where
  chars : ∃ c cs, word = c :: cs ∧ isWordStart c = true ∧ ∀ d ∈ cs, PyStr.isWordChar d = true
  isName : IsName word

lemma CName.of_fullmatch {word : PyStr} (h : identifier.fullmatch word = true)
    (hname : IsName word) : CName word :=
  ⟨identifier_chars h, hname⟩

/-- A name that starts like no keyword and no macro. -/
lemma CName.append {p x : PyStr} (hp : identifier.fullmatch p = true)
    (hfirst : p ∉ (keywords ++ rosidlMacros).map (List.take p.length))
    (hx : ∀ c ∈ x, PyStr.isWordChar c = true) : CName (p ++ x) := by
  obtain ⟨c, cs, rfl, hc, hcs⟩ := identifier_chars hp
  exact ⟨⟨c, cs ++ x, rfl, hc, List.forall_mem_append.mpr ⟨hcs, hx⟩⟩, classify_append hfirst⟩

/-- The names that start with the kind of an endpoint are names. -/
lemma cName_handle (endpoint : Endpoint) {suffix : PyStr}
    (hsuffix : ∀ c ∈ suffix, PyStr.isWordChar c = true) : CName (endpoint.handle ++ suffix) := by
  have hword := List.forall_mem_append.mpr ⟨endpoint.id_word, hsuffix⟩
  rw [Endpoint.handle]
  cases endpoint.kind with
  | publisher =>
      have hname : CName ("publisher_" ++ (endpoint.id ++ suffix)) :=
        .append (by decide) (by decide) hword
      rw [List.append_assoc, List.append_assoc]
      exact hname
  | subscription callback =>
      have hname : CName ("subscription_" ++ (endpoint.id ++ suffix)) :=
        .append (by decide) (by decide) hword
      rw [List.append_assoc, List.append_assoc]
      exact hname

/-- No keyword and no macro looks like the C type of a message. -/
lemma cName_structName (type : MessageType) : CName type.structName := by
  obtain ⟨c, cs, hpackage, hc, hcs⟩ := typePart_chars type.package_matches
  obtain ⟨d, ds, hmessage, hd, hds⟩ := typePart_chars type.message_matches
  have htext : type.structName = c :: (cs ++ ("__msg__" ++ (d :: ds))) := by
    simp [MessageType.structName, fstring, hpackage, hmessage]
  have hwords : ∀ word ∈ keywords ++ rosidlMacros, ¬ "__msg__" <:+: word := by
    decide +kernel
  have hmem : type.structName ∉ keywords ++ rosidlMacros := by
    intro hmem
    exact hwords _ hmem ⟨type.package, type.message, by simp [MessageType.structName, fstring]⟩
  refine ⟨⟨c, _, htext, hc, ?_⟩, ?_⟩
  · rw [List.forall_mem_append, List.forall_mem_append, List.forall_mem_cons]
    exact ⟨hcs, by decide, isWordChar_of_isWordStart hd, hds⟩
  · rw [List.mem_append, not_or] at hmem
    exact isName_iff.mpr hmem

/-- What holds of every member, from the fixed members and the endpoints. -/
lemma forall_contextMembers_iff {deployment : Deployment} {P : PyStr → PyStr → Prop} :
    (∀ decl ∈ contextMembers deployment, P decl.type decl.name) ↔
      (P "rcl_node_t" "node" ∧
        P "rclc_executor_t" "executor" ∧
        P "bool" "node_initialized" ∧
        P "bool" "executor_initialized") ∧
      ∀ endpoint ∈ deployment.endpoints,
        (∀ decl ∈ endpoint.memberDecls, P decl.type decl.name) ∧
          P "bool" endpoint.flag := by
  simp only [contextMembers, List.forall_mem_append, List.forall_mem_cons, List.mem_flatMap,
    List.mem_map, List.not_mem_nil, false_implies, implies_true, and_true, forall_exists_index,
    and_imp, forall_apply_eq_imp_iff₂]
  constructor
  · rintro ⟨⟨⟨⟨hnode, hmembers⟩, hexecutor, hflag⟩, hflags⟩, hlast⟩
    exact ⟨⟨hnode, hexecutor, hflag, hlast⟩, fun endpoint hmem =>
      ⟨fun decl hdecl => hmembers decl endpoint hmem hdecl, hflags endpoint hmem⟩⟩
  · rintro ⟨⟨hnode, hexecutor, hflag, hlast⟩, hendpoints⟩
    exact ⟨⟨⟨⟨hnode, fun decl endpoint hmem hdecl => (hendpoints endpoint hmem).1 decl hdecl⟩,
      hexecutor, hflag⟩, fun endpoint hmem => (hendpoints endpoint hmem).2⟩, hlast⟩

/-- The members of one endpoint before the flags. -/
lemma forall_memberDecls_iff {endpoint : Endpoint} {P : PyStr → PyStr → Prop} :
    (∀ decl ∈ endpoint.memberDecls, P decl.type decl.name) ↔
      P (fstring ["rcl_", endpoint.kind.text, "_t"]) endpoint.handle ∧
        ∀ callback, endpoint.kind = .subscription callback →
          P endpoint.type.structName endpoint.buffer := by
  unfold Endpoint.memberDecls
  cases endpoint.kind with
  | publisher => simp
  | subscription callback => simp

/-- Types and names of all members are names. -/
lemma cName_contextMembers (deployment : Deployment) :
    ∀ decl ∈ contextMembers deployment, CName decl.type ∧ CName decl.name := by
  have hfixed : ∀ word ∈ (["rcl_node_t", "rcl_publisher_t", "rcl_subscription_t", "rclc_executor_t",
      "bool", "node", "executor", "node_initialized", "executor_initialized"] : List PyStr),
      identifier.fullmatch word = true ∧ IsName word := by
    decide
  have hname : ∀ word ∈ (["rcl_node_t", "rcl_publisher_t", "rcl_subscription_t", "rclc_executor_t",
      "bool", "node", "executor", "node_initialized", "executor_initialized"] : List PyStr),
      CName word := fun word hword => .of_fullmatch (hfixed word hword).1 (hfixed word hword).2
  rw [forall_contextMembers_iff (P := fun type name => CName type ∧ CName name)]
  refine ⟨⟨⟨hname _ (by decide), hname _ (by decide)⟩, ⟨hname _ (by decide), hname _ (by decide)⟩,
    ⟨hname _ (by decide), hname _ (by decide)⟩, ⟨hname _ (by decide), hname _ (by decide)⟩⟩,
    fun endpoint _ => ⟨?_, hname _ (by decide), cName_handle endpoint (by decide)⟩⟩
  rw [forall_memberDecls_iff (P := fun type name => CName type ∧ CName name)]
  refine ⟨⟨?_, by simpa using @cName_handle endpoint [] (by simp)⟩, fun _ _ =>
    ⟨cName_structName endpoint.type, ?_⟩⟩
  · cases endpoint.kind with
    | publisher => exact hname "rcl_publisher_t" (by decide)
    | subscription callback => exact hname "rcl_subscription_t" (by decide)
  · rw [Endpoint.buffer, List.append_assoc]
    refine .append (by decide) (by decide) ?_
    exact List.forall_mem_append.mpr ⟨endpoint.id_word, by decide⟩

end Words

/-! ## The header, read

First the lines become tokens, then the tokens declarations.  Only the name of a callback can be any
word, so only there can the reading fail.
-/

section Header

variable (deployment : Deployment)

/-- What stands between `#` and the end of the line that includes the header of a message type. -/
def includeText (type : PyStr × PyStr) : PyStr :=
  fstring ["include <", type.1, "/msg/", snakeCase type.2, ".h>"]

def headerStartTokens : List Token :=
  [.directive "ifndef ROS2_ZEPHYR_GENERATED_ROS_INIT_H",
    .directive "define ROS2_ZEPHYR_GENERATED_ROS_INIT_H",
    .directive "include <stdbool.h>",
    .directive "include <rcl/rcl.h>",
    .directive "include <rclc/executor.h>",
    .directive "include <rclc/rclc.h>"]

def structTokens : List Token :=
  [.keyword .typedef, .keyword .struct, .ident "ros2z_deployment_context",
    .punct .lbrace]

/-- A prototype of the generated source. -/
def prototypeTokens (function : PyStr) (params : List (PyStr × PyStr)) : List Token :=
  .ident "rcl_ret_t" :: .ident function :: .punct .lparen ::
    (paramTokens params ++ [.punct .semicolon])

def prototypesTokens : List Token :=
  .punct .rbrace :: .ident "ros2z_deployment_context_t" :: .punct .semicolon ::
    (prototypeTokens "ros2z_deployment_init" initParams ++
      prototypeTokens "ros2z_deployment_fini" finiParams)

def contextEntries : List (PyStr × PyStr) :=
  (contextMembers deployment).map fun decl => (decl.type, decl.name)

def callbackNames : List PyStr :=
  deployment.subscriptions.map fun subscription => subscription.2.name

/-- The tokens of the header. -/
def headerTokens : List Token :=
  headerStartTokens ++
  ((messageIncludes deployment).map (fun type => .directive (includeText type)) ++
  (structTokens ++
  ((contextEntries deployment).flatMap memberTokens ++
  (prototypesTokens ++
  ((callbackNames deployment).flatMap
      (fun name => handlerTokens (classify rosidlMacros name) "message") ++
  [.directive "endif"])))))

variable {deployment}

lemma mem_messageIncludes {type : PyStr × PyStr} :
    type ∈ messageIncludes deployment ↔
      ∃ e ∈ deployment.endpoints, (e.type.package, e.type.message) = type := by
  rw [messageIncludes, (List.perm_insertionSort _ _).mem_iff, List.mem_dedup, List.mem_map]

/-- `snake_case` gives a word for a word. -/
lemma snakeCase_word {name : PyStr} (h : ∀ c ∈ name, PyStr.isWordChar c = true) :
    ∀ c ∈ snakeCase name, PyStr.isWordChar c = true := by
  have hlower : ∀ c, PyStr.isWordChar c = true →
      PyStr.isWordChar (if PyStr.inRange 'A' 'Z' c then c + 32 else c) = true := by
    intro c hc
    split
    next hcapital =>
      simp only [PyStr.inRange, Bool.and_eq_true, decide_eq_true_eq, Char.reduceToNat] at hcapital
      have hletter : PyStr.inRange 'a' 'z' (c + 32) = true := by
        simp only [PyStr.inRange, Bool.and_eq_true, decide_eq_true_eq, Char.reduceToNat]
        omega
      simp [PyStr.isWordChar, PyStr.isLetter, hletter]
    next => exact hc
  cases name with
  | nil => simp [snakeCase]
  | cons c cs =>
      rw [List.forall_mem_cons] at h
      refine List.forall_mem_cons.mpr ⟨hlower c h.1, fun e he => ?_⟩
      obtain ⟨d, hd, he⟩ := List.mem_flatMap.mp he
      split at he
      next hcapital =>
        rw [List.mem_cons, List.mem_singleton] at he
        obtain rfl | rfl := he
        · decide
        · exact hlower d (h.2 d hd)
      next =>
        rw [List.mem_singleton] at he
        exact he ▸ h.2 d hd

lemma includePath_chars {type : PyStr × PyStr} (h : type ∈ messageIncludes deployment) :
    ∀ c ∈ includePath type,
      PyStr.isWordChar c = true ∨ c = '/'.toNat ∨ c = '.'.toNat := by
  obtain ⟨e, -, rfl⟩ := mem_messageIncludes.mp h
  have hpackage := IsWord.isWordChar (Pattern.fullmatch_word.mp e.type.package_matches)
  have hmessage := snakeCase_word
    (IsWord.isWordChar (Pattern.fullmatch_word.mp e.type.message_matches))
  intro c hc
  simp only [includePath, fstring, List.flatten_cons, List.flatten_nil, List.append_nil,
    List.mem_append] at hc
  obtain hc | hc | hc | hc := hc
  · exact .inl (hpackage c hc)
  · revert hc c
    decide
  · exact .inl (hmessage c hc)
  · revert hc c
    decide

lemma includeText_eq (type : PyStr × PyStr) :
    includeText type = "include <" ++ (includePath type ++ ">") := by
  simp only [includeText, includePath, fstring, List.flatten_cons, List.flatten_nil,
    List.append_nil, List.append_assoc]
  rfl

/-- A line that includes the header of a message is one directive. -/
lemma lexesLines_include {type : PyStr × PyStr} (h : type ∈ messageIncludes deployment) :
    LexesLines rosidlMacros [includeLine snakeCase type] [.directive (includeText type)] := by
  have hpath : ∀ c ∈ includePath type, ordinary c = true ∧ c ≠ newline := by
    intro c hc
    obtain hword | rfl | rfl := includePath_chars h c hc
    · refine ⟨ordinary_of_isWordChar hword, ?_⟩
      rintro rfl
      cases hword
    · decide
    · decide
  have hline : includeLine snakeCase type =
      [PyStr.ofString "#include <", includePath type, PyStr.ofString ">"].flatten := by
    simp only [includeLine, includePath, fstring, List.flatten_cons, List.flatten_nil,
      List.append_nil, List.append_assoc]
    rfl
  have hstart : Lexes rosidlMacros .lineStart "#include <"
      (.directive (PyStr.ofString "include <")) [] := rfl
  rw [hline, includeText_eq]
  refine .cons (.piece hstart (.piece (.directive hpath) (.piece (.directive (by decide))
    (.piece rfl .nil)))) .nil ?_
  simp

lemma lexesLines_member {decl : MemberDecl} (htype : CName decl.type) (hname : CName decl.name) :
    LexesLines rosidlMacros [memberLine decl] (memberTokens (decl.type, decl.name)) :=
  .cons (.piece rfl (.piece (.lineWord htype.chars) (.piece (.name rfl htype.isName rfl)
    (.piece (.startWord hname.chars) (.piece (.name rfl hname.isName rfl) (.piece rfl .nil))))))
    .nil rfl

lemma lexesLines_handler (subscription : Endpoint × Callback) :
    LexesLines rosidlMacros [handlerLine subscription]
      (handlerTokens (classify rosidlMacros subscription.2.name) "message") :=
  .cons (.piece rfl (.piece (.startWord (identifier_chars subscription.2.name_matches))
    (.piece (.wordEnd rfl rfl) (.piece rfl .nil)))) .nil rfl

lemma lexesLines_headerStart : LexesLines rosidlMacros headerStart headerStartTokens := by
  decide +kernel

lemma lexesLines_struct :
    LexesLines rosidlMacros [[], "typedef struct ros2z_deployment_context \x7b"]
      structTokens := by
  decide

lemma lexesLines_prototypes : LexesLines rosidlMacros prototypes prototypesTokens := by
  decide +kernel

lemma lexesLines_headerEnd :
    LexesLines rosidlMacros [[], "#endif"]
      [.directive "endif"] := by
  decide

/-- The header has no literals, so nothing is put together. -/
lemma joins_headerTokens (deployment : Deployment) :
    Joins (headerTokens deployment) (headerTokens deployment) := by
  have hmembers : Joins ((contextEntries deployment).flatMap memberTokens)
      ((contextEntries deployment).flatMap memberTokens) :=
    .flatMap fun _ _ _ => rfl
  have hhandlers : Joins ((callbackNames deployment).flatMap
        (fun name => handlerTokens (classify rosidlMacros name) "message"))
      ((callbackNames deployment).flatMap
        (fun name => handlerTokens (classify rosidlMacros name) "message")) := by
    refine .flatMap fun name _ => joins_self ?_
    have hword := word?_classify rosidlMacros name
    simp only [handlerTokens, List.forall_mem_cons]
    refine ⟨rfl, ?_, by decide⟩
    cases hclass : classify rosidlMacros name with
    | str value =>
        rw [hclass] at hword
        cases hword
    | _ => rfl
  have hincludes : Joins
      ((messageIncludes deployment).map fun type => .directive (includeText type))
      ((messageIncludes deployment).map fun type => .directive (includeText type)) := by
    refine joins_self fun token htoken => ?_
    obtain ⟨type, -, rfl⟩ := List.mem_map.mp htoken
    rfl
  have hstart : Joins headerStartTokens headerStartTokens := fun _ => rfl
  have hstruct : Joins structTokens structTokens := fun _ => rfl
  have hprototypes : Joins prototypesTokens prototypesTokens := fun _ => rfl
  have hend : Joins [.directive "endif"] [.directive "endif"] :=
    fun _ => rfl
  exact hstart.append (hincludes.append (hstruct.append (hmembers.append
    (hprototypes.append (hhandlers.append hend)))))

/-- **The header, token by token.** -/
lemma lexUnit_generateHeader (deployment : Deployment) :
    lexUnit rosidlMacros (generateHeader deployment) = some (headerTokens deployment) := by
  have hincludes : LexesLines rosidlMacros
      ((messageIncludes deployment).map (includeLine snakeCase))
      ((messageIncludes deployment).map fun type => .directive (includeText type)) := by
    rw [List.map_eq_flatMap, List.map_eq_flatMap]
    exact LexesLines.flatMap fun type htype => lexesLines_include htype
  have hmembers : LexesLines rosidlMacros ((contextMembers deployment).map memberLine)
      ((contextEntries deployment).flatMap memberTokens) := by
    rw [contextEntries, List.map_eq_flatMap, List.flatMap_map]
    exact LexesLines.flatMap fun decl hdecl =>
      lexesLines_member (cName_contextMembers deployment decl hdecl).1
        (cName_contextMembers deployment decl hdecl).2
  have hhandlers : LexesLines rosidlMacros (deployment.subscriptions.map handlerLine)
      ((callbackNames deployment).flatMap
        (fun name => handlerTokens (classify rosidlMacros name) "message")) := by
    rw [callbackNames, List.map_eq_flatMap, List.flatMap_map]
    exact LexesLines.flatMap fun subscription _ => lexesLines_handler subscription
  have hlines := lexesLines_headerStart.append (hincludes.append (lexesLines_struct.append
    (hmembers.append (lexesLines_prototypes.append (hhandlers.append lexesLines_headerEnd)))))
  have hlex : lex rosidlMacros (generateHeader deployment) = some (headerTokens deployment) := by
    rw [headerTokens, ← lex_intercalate_iff.mpr hlines, generateHeader, headerWith, joinLines]
    simp only [List.append_assoc]
    rfl
  rw [lexUnit, hlex, Option.map_some, (joins_headerTokens deployment).eq]

end Header

section Parsed

variable {deployment : Deployment}

/-- The declaration of a function of the generated source. -/
def prototypeOf (function : PyStr) (params : List (PyStr × PyStr)) : Declaration :=
  .function "rcl_ret_t" function params

/-- What the header declares. -/
def headerDeclarations (deployment : Deployment) : List Declaration :=
  .define guardMacro ::
  .record "ros2z_deployment_context_t" (contextEntries deployment) ::
  prototypeOf "ros2z_deployment_init" initParams ::
  prototypeOf "ros2z_deployment_fini" finiParams ::
  (callbackNames deployment).map (Declaration.handler · "message")

lemma parseDeclarations_start (n : ℕ) (rest : List Token) :
    parseDeclarations (n + 6) (headerStartTokens ++ rest) =
      (parseDeclarations n rest).map (.define guardMacro :: ·) :=
  rfl

lemma definedWord_includeText (type : PyStr × PyStr) : definedWord (includeText type) = none := rfl

/-- The structure of the context, with its members. -/
lemma parseDeclarations_struct (n : ℕ) (members : List (PyStr × PyStr)) (rest : List Token) :
    parseDeclarations (n + 3) (structTokens ++ (members.flatMap memberTokens ++
        (prototypesTokens ++ rest))) =
      (parseDeclarations n rest).map fun more =>
        .record "ros2z_deployment_context_t" members ::
        prototypeOf "ros2z_deployment_init" initParams ::
        prototypeOf "ros2z_deployment_fini" finiParams :: more := by
  have hinit : ∀ rest,
    parseTypedParams (paramTokens initParams ++ rest) = some (initParams, rest) := fun _ => rfl
  have hfini : ∀ rest,
    parseTypedParams (paramTokens finiParams ++ rest) = some (finiParams, rest) := fun _ => rfl
  simp only [structTokens, prototypesTokens, prototypeTokens, List.cons_append, List.append_assoc,
    List.nil_append]
  rw [parseDeclarations_record (n + 2), parseDeclarations_function (n + 1) _ _ hinit,
    parseDeclarations_function n _ _ hfini, Option.map_map, Option.map_map]
  rfl

/-- There are more tokens than declarations, so the number of tokens is enough fuel. -/
lemma exists_fuel (deployment : Deployment) :
    ∃ n, (headerTokens deployment).length =
      n + 1 + (callbackNames deployment).length + 3 + (messageIncludes deployment).length + 6 := by
  refine ⟨(headerTokens deployment).length -
    (1 + (callbackNames deployment).length + 3 + (messageIncludes deployment).length + 6), ?_⟩
  have hhandlers : (callbackNames deployment).length ≤
      ((callbackNames deployment).flatMap (fun name =>
        handlerTokens (classify rosidlMacros name) "message")).length := by
    simp [List.length_flatMap, handlerTokens]
    omega
  have hstart : headerStartTokens.length = 6 := rfl
  have hstruct : structTokens.length = 4 := rfl
  simp only [headerTokens, List.length_append, List.length_map, List.length_cons, List.length_nil,
    hstart, hstruct]
  omega

/-- **The header, declaration by declaration.** -/
lemma parseDeclarations_header {declarations : List Declaration} :
    parseDeclarations (headerTokens deployment).length (headerTokens deployment) =
        some declarations ↔
      (∀ name ∈ callbackNames deployment, IsName name) ∧
        declarations = headerDeclarations deployment := by
  obtain ⟨n, hn⟩ := exists_fuel deployment
  have hend : parseDeclarations (n + 1) [.directive "endif"] = some [] := by
    cases n <;> rfl
  rw [hn, headerTokens, parseDeclarations_start,
    parseDeclarations_includes _ _ definedWord_includeText, parseDeclarations_struct,
    Option.map_map, Option.map_eq_some_iff]
  constructor
  · rintro ⟨handlers, hhandlers, rfl⟩
    obtain ⟨hnames, more, hmore, rfl⟩ := parseDeclarations_handlers.mp hhandlers
    obtain rfl : more = [] := Option.some.inj (hmore.symm.trans hend)
    rw [List.append_nil]
    exact ⟨hnames, rfl⟩
  · rintro ⟨hnames, rfl⟩
    refine ⟨_, parseDeclarations_handlers.mpr ⟨hnames, [], hend, rfl⟩, ?_⟩
    rw [List.append_nil]
    rfl

end Parsed

end Ros2Zephyr
