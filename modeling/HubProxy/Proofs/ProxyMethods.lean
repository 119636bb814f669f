import HubProxy.Proofs.RepeatedResolution

/-!
# The methods of a proxy

A built proxy has one method for each operation, in the order of the operations. What the method of
an operation has to be is said here for the two directions (`Invokes`, `Subscribes`) without the
functions that make it: its parameters, its call and the types in both are tied to the parameters of
the operation, place by place, and the types are what resolution gives for them.
-/

namespace HubProxy.Proofs

/-- A type is resolved to a reference, on some registry. -/
def ResolvesTo (classes : ClassTable) (d : Descriptor) (t : TypeReference) : Prop :=
  ∃ visibility r r', runOn r (resolve classes visibility d) = (.ok t, r')

/-- A method that hands its parameters to an operation of the server and awaits the answer. -/
structure Invokes (classes : ClassTable) (connection : String) (o : Operation)
    (method : MethodDeclaration) : Prop where
  name_eq : method.name = o.name
  isAsync : method.isAsync = true
  returnType_eq : method.returnType = .named "Task"
  parameters : List.Forall₂ (fun p parameter => parameter.name = p.1 ∧
    ResolvesTo classes p.2 parameter.type) (callerParameters o.parameters) method.parameters
  body_eq : method.body = [{
    call := {
      target := connection
      method := "InvokeAsync"
      arguments := .literal o.name :: (callerParameters o.parameters).map fun p => .variable p.1
      typeArguments := [] }
    awaited := true
    returns := false }]

/-- A method that subscribes its handler to an operation and returns the subscription. -/
structure Subscribes (classes : ClassTable) (suffix connection : String) (o : Operation)
    (method : MethodDeclaration) : Prop where
  name_eq : method.name = Text.firstUpper o.name ++ suffix
  isAsync : method.isAsync = false
  returnType_eq : method.returnType = .named "IDisposable"
  arity : (callerParameters o.parameters).length ≤ 8
  handles : ∃ types,
    List.Forall₂ (fun p => ResolvesTo classes p.2) (callerParameters o.parameters) types ∧
    method.parameters = [⟨"handler", ⟨"Action", types, none⟩⟩] ∧
    method.body = [{
      call := {
        target := connection
        method := "On"
        arguments := [.literal o.name, .variable "handler"]
        typeArguments := types }
      awaited := false
      returns := true }]

/-- The method that an operation has to become, after its direction. -/
def Performs (classes : ClassTable) (suffix connection : String) (o : Operation)
    (method : MethodDeclaration) : Prop :=
  match o.direction with
  | .serverReceived => Invokes classes connection o method
  | .clientInvoked => Subscribes classes suffix connection o method

variable {classes : ClassTable} {visibility : String} {r : Registry} {d : Descriptor}
  {t t' : TypeReference}

/-! ## References -/

lemma ResolvesTo.eq_reference (h : ResolvesTo classes d t) : t = reference classes d := by
  obtain ⟨visibility, r, r', hrun⟩ := h
  exact givesOnly_resolveWith (givesOnly_expandClass _) d r t r' hrun

/-- A type has one reference, whatever the registry. -/
theorem ResolvesTo.unique (h : ResolvesTo classes d t) (h' : ResolvesTo classes d t') : t = t' :=
  h.eq_reference.trans h'.eq_reference.symm

/-- A type that a run has handled is resolved on the registry that the run leaves. -/
lemma Handled.resolvesTo (h : Handled classes [] r d) :
    ResolvesTo classes d (reference classes d) := by
  have hrun : ∃ r', runOn r (resolve classes "public" d) = (.ok (reference classes d), r') := by
    induction d using reference.induct with
    | case1 element ih =>
      rcases h with hv | ⟨helement, -⟩
      · exact absurd hv List.not_mem_nil
      · obtain ⟨mid, hmid⟩ := ih helement
        exact runOn_resolve_array hmid
    | case2 d hleaf =>
      cases d with
      | primitive name ns =>
        refine ⟨importing r ns, ?_⟩
        rw [resolve, resolveWith, runOn_bind, runOn_requireImport]
        rfl
      | array element => exact absurd rfl (hleaf element)
      | enum | cls =>
        -- nothing is left of the agenda, so the type is settled
        rcases h with hv | hsettled
        · exact absurd hv List.not_mem_nil
        · exact ⟨r, AtRest.runOn_resolve "public" hsettled⟩
      | generic | unknown => exact absurd h List.not_mem_nil
  obtain ⟨r', hrun⟩ := hrun
  exact ⟨"public", r, r', hrun⟩

/-! ## Methods -/

section Method

variable {o : Operation} (options : MethodOptions) (connection : String)
  (h : ∀ p ∈ callerParameters o.parameters, ResolvesTo classes p.2 (reference classes p.2))

include h

lemma serverMethod_invokes :
    Invokes classes connection o (serverMethod options connection o (parametersOf classes o)) where
  name_eq := rfl
  isAsync := rfl
  returnType_eq := rfl
  parameters := by
    rw [serverMethod, parametersOf, List.forall₂_map_right_iff, List.forall₂_same]
    exact fun p hp => ⟨rfl, h p hp⟩
  body_eq := by simp [serverMethod, parametersOf]

lemma clientMethod_subscribes (harity : (callerParameters o.parameters).length ≤ 8) :
    Subscribes classes options.clientSuffix connection o
      (clientMethod options connection o (parametersOf classes o)) where
  name_eq := rfl
  isAsync := rfl
  returnType_eq := rfl
  arity := harity
  handles := by
    refine ⟨(callerParameters o.parameters).map (reference classes ·.2), ?_, ?_, ?_⟩
    · rw [List.forall₂_map_right_iff, List.forall₂_same]
      exact h
    · simp [clientMethod, parametersOf]
    · simp [clientMethod, parametersOf]

end Method

variable {options : BuildOptions} {m : Metadata} {ns className : String} {existing : List String}
  {model : ApiModel}

/-- At the end of a build every operation has the method that its direction asks for. -/
lemma Ended.performs {operations : List Operation} (h : Ended options m existing operations r)
    (connection : String) {o : Operation} (ho : o ∈ operations) :
    Performs m.classes options.clientSuffix connection o
      (methodOf m.classes options.forMethods connection o) := by
  have hresolved : ∀ p ∈ callerParameters o.parameters,
      ResolvesTo m.classes p.2 (reference m.classes p.2) :=
    fun p hp => (h.handled_parameter ho hp).resolvesTo
  unfold Performs methodOf
  cases hd : o.direction with
  | serverReceived => exact serverMethod_invokes options.forMethods connection hresolved
  | clientInvoked =>
    exact clientMethod_subscribes options.forMethods connection hresolved (h.invoked ho hd)

/-- A proxy is built from the operations of the first hub that the server receives and from all
operations of the client API, in order, and its methods are those of its operations, one by one.
They call on the only property of the proxy. -/
theorem methods_of_build (h : (build options m ns className existing).1 = .ok model) :
    (∃ hub api, (m.ofRole .hub).head? = some hub ∧ m.ofRole .clientApi = [api] ∧
      model.operations =
        hub.operations.filter (·.direction = .serverReceived) ++ api.operations) ∧
    model.proxy.properties.map (·.name) = [model.connectionProperty] ∧
    model.methods.length = model.operations.length ∧
    List.Forall₂ (Performs m.classes options.clientSuffix model.connectionProperty)
      model.operations model.methods := by
  obtain ⟨operations, r, hend, rfl⟩ := ended_of_build h
  obtain ⟨hub, api, hhub, hapi, hoperations⟩ := builtOperations?_eq_some_iff.mp hend.built
  refine ⟨⟨hub, api, hhub, hapi, hoperations⟩, rfl, ?_, ?_⟩
  · simp [modelOf, ApiModel.methods]
  · rw [modelOf, ApiModel.methods, List.forall₂_map_right_iff, List.forall₂_same]
    exact fun o ho => hend.performs _ ho

/-- A contract in which both sides have operations of both directions. -/
def relayContract : Metadata where
  source := "relay"
  types := [
    ⟨"Hub", .hub, [
      ⟨"send", .serverReceived, [("who", connectionContext), ("note", .cls 0),
        ("copies", .primitive "int" none)], true, none⟩,
      ⟨"skipped", .clientInvoked, [("note", .cls 0)], true, none⟩]⟩,
    ⟨"Api", .clientApi, [
      ⟨"sent", .clientInvoked, [("notes", .array (.cls 0)), ("who", connectionContext),
        ("at", .primitive "Guid" (some "System"))], true, none⟩,
      ⟨"closed", .clientInvoked, [("who", connectionContext)], true, none⟩,
      ⟨"leave", .serverReceived, [], true, none⟩]⟩,
    ⟨"Other", .hub, [⟨"unused", .serverReceived, [], true, none⟩]⟩]
  classes := #[⟨"Note", [("text", .primitive "string" none), ("next", .cls 0)], false⟩]

theorem methods_relayContract : ∃ model,
    (build {} relayContract "Games" "Proxy" ["Note"]).1 = .ok model ∧
    model.operations.map (·.name) = ["send", "sent", "closed", "leave"] ∧
    model.methods.map (·.name) = ["send", "SentOn", "ClosedOn", "leave"] ∧
    List.Forall₂ (Performs relayContract.classes "On" "HubConnection") model.operations
      model.methods := by
  have hbuild : ∃ model, (build {} relayContract "Games" "Proxy" ["Note"]).1 = .ok model ∧
      model.operations.map (·.name) = ["send", "sent", "closed", "leave"] ∧
      model.methods.map (·.name) = ["send", "SentOn", "ClosedOn", "leave"] ∧
      model.connectionProperty = "HubConnection" := ⟨_, rfl, rfl, rfl, rfl⟩
  obtain ⟨model, hmodel, hoperations, hmethods, hconnection⟩ := hbuild
  have hall := (methods_of_build hmodel).2.2.2
  rw [hconnection] at hall
  exact ⟨model, hmodel, hoperations, hmethods, hall⟩

end HubProxy.Proofs
