import Ros2Zephyr.Deployment.Setup

/-!
# The members of the generated context

`generate_header` builds the names of the members from the kind of an endpoint, its id and a suffix.
The ids of a deployment are distinct, but one of them may end like a suffix.

* `ContextMember` — what a member is for, before it has a name.
* `Unambiguous` — no id is another one of the same kind with a suffix.
* `distinctMembers_iff` — that is exactly when the names of the members are distinct.
-/

namespace Ros2Zephyr

open CLang

/-- The members that every context has. -/
inductive FixedMember
  | node
  | executor
  | nodeInitialized
  | executorInitialized
  deriving DecidableEq

/-- The members of one endpoint. -/
inductive EndpointPart
  | handle
  | buffer
  | flag
  deriving DecidableEq

inductive ContextMember
  | fixed (member : FixedMember)
  | part (endpoint : Endpoint) (part : EndpointPart)
  deriving DecidableEq

def FixedMember.name : FixedMember → PyStr
  | node => "node"
  | executor => "executor"
  | nodeInitialized => "node_initialized"
  | executorInitialized => "executor_initialized"

def EndpointPart.suffix : EndpointPart → PyStr
  | handle => []
  | buffer => "_message"
  | flag => "_initialized"

/-- The kind of an endpoint without its callback. -/
def Endpoint.side (endpoint : Endpoint) : HandleKind := endpoint.kind.handleKind

def ContextMember.name : ContextMember → PyStr
  | fixed member => member.name
  | part endpoint p => endpoint.handle ++ p.suffix

/-- The members of one endpoint before the flags. -/
def Endpoint.storageParts (endpoint : Endpoint) : List EndpointPart :=
  match endpoint.side with
  | .publisher => [.handle]
  | .subscription => [.handle, .buffer]

/-- The members in the order of the header. -/
def members (deployment : Deployment) : List ContextMember :=
  [.fixed .node] ++
  deployment.endpoints.flatMap (fun endpoint => endpoint.storageParts.map (.part endpoint)) ++
  [.fixed .executor, .fixed .nodeInitialized] ++
  deployment.endpoints.map (.part · .flag) ++
  [.fixed .executorInitialized]

/-- No id is another id of the same kind with the suffix of a flag, and no subscription is called
like the buffer of another. -/
def Unambiguous (deployment : Deployment) : Prop :=
  ∀ e ∈ deployment.endpoints, ∀ f ∈ deployment.endpoints, e.side = f.side →
    e.id ≠ f.id ++ "_initialized" ∧
      (f.side = .subscription → e.id ≠ f.id ++ "_message")

instance (deployment : Deployment) : Decidable (Unambiguous deployment) :=
  inferInstanceAs (Decidable (∀ _ ∈ _, ∀ _ ∈ _, _))

section Names

variable {deployment : Deployment}

lemma storageParts_names (endpoint : Endpoint) :
    endpoint.storageParts.map (fun p => (ContextMember.part endpoint p).name) =
      endpoint.memberDecls.map MemberDecl.name := by
  obtain ⟨id, kind, topic, type, qos, hid⟩ := endpoint
  cases kind with
  | publisher =>
      change [_ ++ []] = [_]
      rw [List.append_nil]
  | subscription callback =>
      change [_ ++ [], _] = [_, _]
      rw [List.append_nil]
      rfl

/-- The names are those of the header. -/
lemma members_names (deployment : Deployment) :
    (members deployment).map ContextMember.name =
      (contextMembers deployment).map MemberDecl.name := by
  have hstorage : (deployment.endpoints.flatMap fun e =>
        e.storageParts.map fun p => (ContextMember.part e p).name) =
      deployment.endpoints.flatMap fun e => e.memberDecls.map MemberDecl.name :=
    List.flatMap_congr fun e _ => storageParts_names e
  simp only [members, contextMembers, List.map_append, List.map_flatMap, List.map_map,
    Function.comp_def, hstorage, List.map_cons, List.map_nil]
  rfl

/-- The beginning of a name tells the kind of the endpoint. -/
lemma handle_append_inj {e f : Endpoint} {x y : PyStr} :
    e.handle ++ x = f.handle ++ y ↔ e.side = f.side ∧ e.id ++ x = f.id ++ y := by
  obtain ⟨id, kind, topic, type, qos, hid⟩ := e
  obtain ⟨id', kind', topic', type', qos', hid'⟩ := f
  cases kind with
  | publisher =>
      cases kind' with
      | publisher =>
        simp [Endpoint.handle, Endpoint.side, EndpointKind.handleKind, EndpointKind.text]
      | subscription callback =>
          constructor
          · intro heq
            cases congrArg List.head? heq
          · rintro ⟨hside, -⟩
            cases hside
  | subscription callback =>
      cases kind' with
      | publisher =>
          constructor
          · intro heq
            cases congrArg List.head? heq
          · rintro ⟨hside, -⟩
            cases hside
      | subscription callback' =>
          simp [Endpoint.handle, Endpoint.side, EndpointKind.handleKind, EndpointKind.text]

/-- No member of an endpoint is called like one of the others. -/
lemma fixed_name_ne_part (member : FixedMember) (e : Endpoint) (p : EndpointPart) :
    member.name ≠ (ContextMember.part e p).name := by
  intro heq
  have hhead := congrArg List.head? heq
  obtain ⟨id, kind, topic, type, qos, hid⟩ := e
  cases kind with
  | publisher => cases member <;> cases hhead
  | subscription callback => cases member <;> cases hhead

lemma FixedMember.name_injective : Function.Injective FixedMember.name := by
  intro a b
  cases a <;> cases b <;> decide

end Names

section Distinct

variable {deployment : Deployment}

lemma mem_storageParts {e : Endpoint} {p : EndpointPart} :
    p ∈ e.storageParts ↔ p = .handle ∨ p = .buffer ∧ e.side = .subscription := by
  rw [Endpoint.storageParts]
  cases e.side with
  | publisher => simp
  | subscription => simp

lemma storageParts_nodup (e : Endpoint) : e.storageParts.Nodup := by
  rw [Endpoint.storageParts]
  cases e.side with
  | publisher => decide
  | subscription => decide

lemma part_mem_members {e : Endpoint} {p : EndpointPart} :
    .part e p ∈ members deployment ↔
      e ∈ deployment.endpoints ∧ (p = .buffer → e.side = .subscription) := by
  simp only [members, List.mem_append, List.mem_flatMap, List.mem_map, List.mem_cons,
    ContextMember.part.injEq, List.not_mem_nil, or_false, reduceCtorEq, false_or]
  cases p with
  | handle => simp [mem_storageParts]
  | buffer => simp [mem_storageParts]
  | flag => simp [mem_storageParts]

lemma endpoint_ext_id {e f : Endpoint} (he : e ∈ deployment.endpoints)
    (hf : f ∈ deployment.endpoints) (hid : e.id = f.id) : e = f :=
  List.inj_on_of_nodup_map deployment.ids_nodup he hf hid

lemma part_injective (e : Endpoint) : Function.Injective (ContextMember.part e) := by
  intro p q heq
  cases heq
  rfl

/-- The members themselves are distinct: what can clash are their names. -/
lemma members_nodup (deployment : Deployment) : (members deployment).Nodup := by
  have hendpoints : deployment.endpoints.Nodup := deployment.ids_nodup.of_map
  have hstorage : (deployment.endpoints.flatMap fun e =>
      e.storageParts.map (ContextMember.part e)).Nodup := by
    rw [List.nodup_flatMap]
    refine ⟨fun e _ => (storageParts_nodup e).map (part_injective e),
      hendpoints.imp fun {e f} hne => ?_⟩
    intro member he hf
    obtain ⟨p, -, rfl⟩ := List.mem_map.mp he
    obtain ⟨q, -, heq⟩ := List.mem_map.mp hf
    cases heq
    exact hne rfl
  have hflags : (deployment.endpoints.map (ContextMember.part · .flag)).Nodup :=
    hendpoints.map fun e f heq => by cases heq; rfl
  -- the rest is that fixed members, storage and flags are different
  have hapart : ∀ member ∈ deployment.endpoints.flatMap
      (fun e => e.storageParts.map (ContextMember.part e)),
      member ∉ deployment.endpoints.map (ContextMember.part · .flag) := by
    intro member hmember hflag
    obtain ⟨e, -, hpart⟩ := List.mem_flatMap.mp hmember
    obtain ⟨p, hp, rfl⟩ := List.mem_map.mp hpart
    obtain ⟨f, -, heq⟩ := List.mem_map.mp hflag
    cases heq
    rcases mem_storageParts.mp hp with hhandle | ⟨hbuffer, -⟩
    · cases hhandle
    · cases hbuffer
  rw [members]
  refine ((((List.nodup_singleton _).append hstorage ?_).append (by decide) ?_).append
    hflags ?_).append (List.nodup_singleton _) ?_
  · simp
  · simp
  · intro member hmember hflag
    rw [List.mem_append, List.mem_append] at hmember
    rcases hmember with (hnode | hstored) | hfixed
    · obtain ⟨f, -, rfl⟩ := List.mem_map.mp hflag
      simp at hnode
    · exact hapart member hstored hflag
    · obtain ⟨f, -, rfl⟩ := List.mem_map.mp hflag
      simp at hfixed
  · simp

/-- The two suffixes end differently. -/
lemma message_ne_initialized (x y : PyStr) :
    x ++ "_message" ≠ y ++ "_initialized" := by
  intro heq
  have hlast := congrArg List.getLast? heq
  rw [List.getLast?_append, List.getLast?_append] at hlast
  cases hlast

/-- Where the deployment is unambiguous, the name of a member of an endpoint tells which one it
is. -/
lemma part_name_inj (h : Unambiguous deployment) {e f : Endpoint} {p q : EndpointPart}
    (he : .part e p ∈ members deployment) (hf : .part f q ∈ members deployment)
    (heq : (ContextMember.part e p).name = (ContextMember.part f q).name) :
    ContextMember.part e p = .part f q := by
  rw [part_mem_members] at he hf
  obtain ⟨hside, hid⟩ := handle_append_inj.mp heq
  have hef := h e he.1 f hf.1 hside
  have hfe := h f hf.1 e he.1 hside.symm
  cases p with
  | handle =>
      rw [EndpointPart.suffix, List.append_nil] at hid
      cases q with
      | handle =>
          rw [EndpointPart.suffix, List.append_nil] at hid
          rw [endpoint_ext_id he.1 hf.1 hid]
      | buffer => exact absurd hid (hef.2 (hf.2 rfl))
      | flag => exact absurd hid hef.1
  | buffer =>
      cases q with
      | handle =>
          rw [EndpointPart.suffix, EndpointPart.suffix, List.append_nil] at hid
          exact absurd hid.symm (hfe.2 (he.2 rfl))
      | buffer => rw [endpoint_ext_id he.1 hf.1 (List.append_cancel_right hid)]
      | flag => exact absurd hid (message_ne_initialized _ _)
  | flag =>
      cases q with
      | handle =>
          rw [EndpointPart.suffix, EndpointPart.suffix, List.append_nil] at hid
          exact absurd hid.symm hfe.1
      | buffer => exact absurd hid.symm (message_ne_initialized _ _)
      | flag => rw [endpoint_ext_id he.1 hf.1 (List.append_cancel_right hid)]

/-- **When the members of the context have names of their own.** -/
lemma distinctMembers_iff : DistinctMembers deployment ↔ Unambiguous deployment := by
  rw [DistinctMembers, ← members_names, List.nodup_map_iff_inj_on (members_nodup deployment)]
  constructor
  · intro hinj e he f hf hside
    have hhandle : .part e .handle ∈ members deployment := by
      refine part_mem_members.mpr ⟨he, ?_⟩
      rintro ⟨⟩
    constructor
    · intro hid
      have hflag : .part f .flag ∈ members deployment := by
        refine part_mem_members.mpr ⟨hf, ?_⟩
        rintro ⟨⟩
      have hname : (ContextMember.part e .handle).name = (ContextMember.part f .flag).name :=
        handle_append_inj.mpr ⟨hside, by rw [EndpointPart.suffix, List.append_nil, hid]; rfl⟩
      cases hinj _ hhandle _ hflag hname
    · intro hsub hid
      have hname : (ContextMember.part e .handle).name = (ContextMember.part f .buffer).name :=
        handle_append_inj.mpr ⟨hside, by rw [EndpointPart.suffix, List.append_nil, hid]; rfl⟩
      cases hinj _ hhandle _ (part_mem_members.mpr ⟨hf, fun _ => hsub⟩) hname
  · intro h a ha b hb heq
    cases a with
    | fixed member =>
        cases b with
        | fixed member' => rw [FixedMember.name_injective heq]
        | part f q => exact absurd heq (fixed_name_ne_part member f q)
    | part e p =>
        cases b with
        | fixed member' => exact absurd heq.symm (fixed_name_ne_part member' e p)
        | part f q => exact part_name_inj h ha hb heq

end Distinct

section Accepted

/-- **The members of a generated context.**  For an accepted deployment they have distinct names
exactly when it is unambiguous. -/
theorem context_members_distinct_iff {repr : PyStr → PyStr} {fields result : Fields}
    (haccepted : validateDeployment repr fields = .ok result) :
    (∃ deployment, Deployment.ofFields fields = some deployment) ∧
      ∀ deployment, Deployment.ofFields fields = some deployment →
        (DistinctMembers deployment ↔ Unambiguous deployment) :=
  ⟨exists_ofFields haccepted, fun _ _ => distinctMembers_iff⟩

theorem context_members_distinct_loopback :
    Unambiguous loopback ∧ DistinctMembers loopback := by
  obtain ⟨result, haccepted⟩ := loopbackDeployment_returns
  have hunambiguous : Unambiguous loopback := by decide
  exact ⟨hunambiguous, ((context_members_distinct_iff haccepted).2 loopback
    ofFields_loopbackDeployment).mpr hunambiguous⟩

/-- The loopback sample with two subscriptions, one of them called like the buffer of the other. -/
def clashingDeployment : Fields :=
  loopbackDeployment.map fun field =>
    if field.1 = PyStr.ofString "endpoints" then
      (field.1, .arr [
        loopbackEndpoint "a" "subscription" [("callback", .str "on_a")],
        loopbackEndpoint "a_message" "subscription" [("callback", .str "on_message")]])
    else field

def clashing : Deployment := (Deployment.ofFields clashingDeployment).get (by decide +kernel)

/-- An accepted deployment with two members of one name: the message buffer of the subscription `a`
and the handle of the subscription `a_message`. -/
theorem context_members_clash :
    (∃ result, validateDeployment id clashingDeployment = .ok result) ∧
      Deployment.ofFields clashingDeployment = some clashing ∧
      ((contextMembers clashing).map MemberDecl.name).count
        (PyStr.ofString "subscription_a_message") = 2 ∧
      ¬ DistinctMembers clashing := by
  refine ⟨Fallible.exists_ok_of_toBool ?_, (Option.some_get _).symm, ?_, ?_⟩
  · decide
  · decide
  · decide

end Accepted

end Ros2Zephyr
