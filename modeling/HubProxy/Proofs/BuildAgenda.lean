import HubProxy.Generation.Build
import HubProxy.Proofs.ResolutionSimulation

/-!
# Building follows an agenda

A build is one run of the machine of `ResolutionAgenda`: its agenda holds the connection property
and, operation by operation, the types of the parameters, the conditions on the operation and its
import. The model is a function of the contract and of the registry at the end of the run.
-/

namespace HubProxy.Proofs

def parametersOf (classes : ClassTable) (o : Operation) : List Parameter :=
  (callerParameters o.parameters).map fun p => ⟨p.1, reference classes p.2⟩

def methodOf (classes : ClassTable) (options : MethodOptions) (connection : String)
    (o : Operation) : MethodDeclaration :=
  match o.direction with
  | .serverReceived => serverMethod options connection o (parametersOf classes o)
  | .clientInvoked => clientMethod options connection o (parametersOf classes o)

def connectionOf (classes : ClassTable) (options : BuildOptions) : PropertyDeclaration :=
  memberDeclaration classes options.visibility (options.connectionProperty, connectionType)

/-- The model that is made of operations and of the registry at the end. -/
def modelOf (options : BuildOptions) (m : Metadata) (ns className : String)
    (operations : List Operation) (r : Registry) : ApiModel :=
  let connection := connectionOf m.classes options
  let methods := operations.map (methodOf m.classes options.forMethods connection.name)
  { ns
    className
    connectionProperty := connection.name
    imports := r.imports
    operations
    proxy := ⟨className, [connection], methods, true, false, "public"⟩
    declaredTypes := r.declaredTypes
    declarations := r.declarations }

def operationTasks (o : Operation) : List Task :=
  let parameters := callerParameters o.parameters
  let visits := parameters.map fun p => Task.visit p.2
  match o.direction with
  | .serverReceived =>
    .demand o.asyncVoid (.notAsyncVoid o.name o.returns) :: visits ++
      [.require "System.Threading.Tasks"]
  | .clientInvoked =>
    visits ++ [.demand (parameters.length ≤ maxHandlerArguments)
      (.tooManyParameters o.name parameters.length), .require "System"]

def buildTasks (options : BuildOptions) (operations : List Operation) : List Task :=
  .visit connectionType :: .demand (options.connectionProperty ≠ "") .emptyPropertyName ::
    operations.flatMap operationTasks

/-- The operations that are built from a hub and a client API, in order. -/
def operationsOf (hub api : ContractType) : List Operation :=
  hub.operations.filter (·.direction = .serverReceived) ++ api.operations

variable {classes : ClassTable} {visibility : String}

lemma follows_resolve (d : Descriptor) :
    Follows classes visibility classes.size (resolve classes visibility d) [.visit d]
      (reference classes d) :=
  fun r rest _ => resolve_follows d r rest

/-- A computation that fails unless a condition is met. -/
lemma follows_demand {bound : Nat} {x y : RegistryM α} {condition : Bool} {cause : BuildError}
    {ts : List Task} {value : α} (hfail : condition = false → ∀ r, runOn r x = (.error cause, r))
    (hmet : condition = true → x = y) (h : Follows classes visibility bound y ts value) :
    Follows classes visibility bound x (.demand condition cause :: ts) value := by
  intro r rest hr
  cases hc : condition with
  | false =>
    rw [hfail hc]
    exact ⟨_, ts ++ rest, r, .refl, by simp [perform]⟩
  | true =>
    have hrun : runOn r (perform classes visibility (.demand true cause)) = (.ok [], r) := by
      simp [perform]
    rw [hmet hc]
    exact (h r rest hr).of_steps (.single (.intro hrun))

lemma follows_resolveParameters (options : MethodOptions) (o : Operation) :
    Follows classes options.propertyVisibility classes.size (resolveParameters classes options o)
      ((callerParameters o.parameters).map fun p => .visit p.2) (parametersOf classes o) := by
  have hp : ∀ p ∈ callerParameters o.parameters,
      Follows classes options.propertyVisibility classes.size
        (do return (⟨p.1, ← resolve classes options.propertyVisibility p.2⟩ : Parameter))
        [.visit p.2] ⟨p.1, reference classes p.2⟩ :=
    fun p _ => follows_return (follows_resolve p.2) (Parameter.mk p.1)
  have h := follows_mapM _ hp
  rwa [← List.map_eq_flatMap] at h

lemma buildMethod_follows (options : MethodOptions) (connection : String) (o : Operation) :
    Follows classes options.propertyVisibility classes.size
      (buildMethod classes options connection o) (operationTasks o)
      (methodOf classes options connection o) := by
  have hp : Follows classes options.propertyVisibility _ _ _ _ := follows_resolveParameters options o
  unfold buildMethod operationTasks methodOf
  cases o.direction with
  | serverReceived =>
    refine follows_demand (y := do
        let parameters ← resolveParameters classes options o
        requireImport (some "System.Threading.Tasks")
        return serverMethod options connection o parameters) ?_ ?_ ?_
    · intro hc r
      simp [hc]
    · intro hc
      simp [hc]
    · exact follows_bind hp (follows_return (follows_task rfl)
        fun _ => serverMethod options connection o (parametersOf classes o))
  | clientInvoked =>
    have hn : (parametersOf classes o).length = (callerParameters o.parameters).length := by
      simp [parametersOf]
    refine follows_bind hp ?_
    refine follows_demand (y := do
        requireImport (some "System")
        return clientMethod options connection o (parametersOf classes o)) ?_ ?_ ?_
    · intro hc r
      have hlt : maxHandlerArguments < (callerParameters o.parameters).length := by simpa using hc
      simp [hlt, hn]
    · intro hc
      have hle : ¬ maxHandlerArguments < (callerParameters o.parameters).length := by
        simpa using hc
      simp [hle, hn]
    · exact follows_return (follows_task rfl)
        fun _ => clientMethod options connection o (parametersOf classes o)

variable (classes visibility)

/-- A step of a build does what tasks say, whatever is in the log. -/
def BuildFollows (step : BuildM α) (ts : List Task) (value : α) : Prop :=
  ∀ s rest, Arrives classes visibility ⟨ts ++ rest, s.registry⟩ rest value
    ((step.run.run s).1, (step.run.run s).2.registry)

variable {classes visibility}

lemma run_bind (x : BuildM α) (f : α → BuildM β) (s : BuildState) :
    (x >>= f).run.run s = match x.run.run s with
      | (.ok a, s') => (f a).run.run s'
      | (.error cause, s') => (.error cause, s') := by
  rw [ExceptT.run_bind, StateT.run_bind]
  rcases x.run.run s with ⟨cause | a, s'⟩ <;> rfl

lemma buildFollows_pure (value : α) : BuildFollows classes visibility (pure value) [] value :=
  fun _ _ => ⟨rfl, .refl⟩

lemma buildFollows_bind {x : BuildM α} {f : α → BuildM β} {t u : List Task} {v : α} {w : β}
    (hx : BuildFollows classes visibility x t v) (hf : BuildFollows classes visibility (f v) u w) :
    BuildFollows classes visibility (x >>= f) (t ++ u) w := by
  intro s rest
  have h := hx s (u ++ rest)
  rw [run_bind, List.append_assoc]
  rcases hrun : x.run.run s with ⟨cause | a, s'⟩
  · rw [hrun] at h
    exact h
  · rw [hrun] at h
    obtain ⟨rfl, hs⟩ := h
    exact (hf s' rest).of_steps hs

lemma buildFollows_return {x : BuildM α} {ts : List Task} {v : α}
    (hx : BuildFollows classes visibility x ts v) (g : α → β) :
    BuildFollows classes visibility (x >>= fun a => pure (g a)) ts (g v) := by
  have h := buildFollows_bind (f := fun a => pure (g a)) hx (buildFollows_pure (g v))
  rwa [List.append_nil] at h

lemma buildFollows_note (record : LogRecord) :
    BuildFollows classes visibility (note record) [] ⟨⟩ :=
  fun _ _ => ⟨rfl, .refl⟩

lemma buildFollows_onRegistry {step : RegistryM α} {ts : List Task} {value : α}
    (h : Follows classes visibility classes.size step ts value) :
    BuildFollows classes visibility (onRegistry step) ts value := by
  intro s rest
  exact h s.registry rest (freshCount_le_size classes s.registry)

lemma buildFollows_mapM {f : β → BuildM α} {tasks : β → List Task} {value : β → α} (l : List β)
    (h : ∀ x ∈ l, BuildFollows classes visibility (f x) (tasks x) (value x)) :
    BuildFollows classes visibility (l.mapM f) (l.flatMap tasks) (l.map value) := by
  induction l with
  | nil => exact buildFollows_pure []
  | cons x l ih =>
    rw [List.mapM_cons, List.flatMap_cons, List.map_cons]
    have htail := ih fun y hy => h y (by simp [hy])
    exact buildFollows_bind (h x (by simp)) (buildFollows_return htail (value x :: ·))

/-- The tasks of a list of which some members are passed over. -/
lemma buildFollows_filterMapM {f : β → BuildM (Option α)} {keep : β → Bool}
    {tasks : β → List Task} {value : β → α} (l : List β)
    (hk : ∀ x ∈ l, keep x = true →
      BuildFollows classes visibility (f x) (tasks x) (some (value x)))
    (hs : ∀ x ∈ l, keep x = false → BuildFollows classes visibility (f x) [] none) :
    BuildFollows classes visibility (l.filterMapM f) ((l.filter keep).flatMap tasks)
      ((l.filter keep).map value) := by
  induction l with
  | nil => exact buildFollows_pure []
  | cons x l ih =>
    have htail := ih (fun y hy => hk y (by simp [hy])) (fun y hy => hs y (by simp [hy]))
    rw [List.filterMapM_cons]
    cases hx : keep x with
    | true =>
      rw [List.filter_cons_of_pos hx, List.flatMap_cons, List.map_cons]
      exact buildFollows_bind (hk x (by simp) hx) (buildFollows_return htail (value x :: ·))
    | false =>
      rw [List.filter_cons_of_neg (by simp [hx])]
      exact buildFollows_bind (t := []) (hs x (by simp) hx) htail

lemma buildMethods_follows (options : MethodOptions) (connection : String)
    (hub api : ContractType) :
    BuildFollows classes options.propertyVisibility (buildMethods classes options connection hub api)
      ((operationsOf hub api).flatMap operationTasks)
      ((operationsOf hub api).map fun o => (o, methodOf classes options connection o)) := by
  have ho : ∀ o, BuildFollows classes options.propertyVisibility
      (onRegistry (buildMethod classes options connection o)) (operationTasks o)
      (methodOf classes options connection o) :=
    fun o => buildFollows_onRegistry (buildMethod_follows options connection o)
  unfold buildMethods operationsOf
  rw [List.flatMap_append, List.map_append]
  refine buildFollows_bind (buildFollows_filterMapM _ ?_ ?_)
    (buildFollows_return (buildFollows_mapM _ ?_) _)
  · intro o _ hd
    have hd' : o.direction = .serverReceived := by simpa using hd
    rw [if_pos hd']
    exact buildFollows_return (ho o) fun d => some (o, d)
  · intro o _ hd
    have hd' : ¬ o.direction = .serverReceived := by simpa using hd
    rw [if_neg hd']
    exact buildFollows_return (buildFollows_note _) fun _ => none
  · intro o _
    exact buildFollows_return (ho o) fun d => (o, d)

lemma buildConnection_follows (options : BuildOptions) :
    Follows classes options.forMethods.propertyVisibility classes.size
      (buildConnection classes options)
      [.visit connectionType, .demand (options.connectionProperty ≠ "") .emptyPropertyName]
      (connectionOf classes options) :=
  follows_bind (follows_resolve connectionType)
    (follows_buildProperty _ (options.connectionProperty, connectionType) options.visibility)

lemma chooseHub_follows {m : Metadata} {hub : ContractType} {others : List ContractType}
    (hh : m.ofRole .hub = hub :: others) :
    BuildFollows classes visibility (chooseHub m) [] hub := by
  unfold chooseHub
  rw [hh]
  cases others with
  | nil => exact buildFollows_pure hub
  | cons other rest => exact buildFollows_return (buildFollows_note _) fun _ => hub

lemma chooseClientApi_follows {m : Metadata} {api : ContractType}
    (ha : m.ofRole .clientApi = [api]) :
    BuildFollows classes visibility (chooseClientApi m) [] api := by
  unfold chooseClientApi
  rw [ha]
  exact buildFollows_pure api

variable (classes visibility)

/-- A step that does all that tasks say and yields a value that the registry left determines. -/
def BuildEnds (step : BuildM α) (ts : List Task) (value : Registry → α) : Prop :=
  ∀ s, match step.run.run s with
    | (.ok a, s') => a = value s'.registry ∧
        Steps classes visibility ⟨ts, s.registry⟩ ⟨[], s'.registry⟩
    | (.error cause, s') => Fails classes visibility ⟨ts, s.registry⟩ cause s'.registry

variable {classes visibility}

lemma buildEnds_get (value : Registry → α) :
    BuildEnds classes visibility (do return value (← get).registry) [] value :=
  fun _ => ⟨rfl, .refl⟩

lemma buildEnds_bind {x : BuildM α} {f : α → BuildM β} {t u : List Task} {v : α}
    {value : Registry → β} (hx : BuildFollows classes visibility x t v)
    (hf : BuildEnds classes visibility (f v) u value) :
    BuildEnds classes visibility (x >>= f) (t ++ u) value := by
  intro s
  have h := hx s u
  rw [run_bind]
  rcases hrun : x.run.run s with ⟨cause | a, s'⟩
  · rw [hrun] at h
    exact h
  · rw [hrun] at h
    obtain ⟨rfl, hs⟩ := h
    have hend := hf s'
    dsimp only at hend ⊢
    rcases hrest : (f a).run.run s' with ⟨cause | b, s''⟩
    · rw [hrest] at hend
      obtain ⟨t', rest, r, hsteps, hfail⟩ := hend
      exact ⟨t', rest, r, hs.trans hsteps, hfail⟩
    · rw [hrest] at hend
      exact ⟨hend.1, hs.trans hend.2⟩

/-- The operations of the proxy of a contract, if it has a hub and a single client API. -/
def builtOperations? (m : Metadata) : Option (List Operation) :=
  match m.ofRole .hub, m.ofRole .clientApi with
  | hub :: _, [api] => some (operationsOf hub api)
  | _, _ => none

lemma buildModel_ends (options : BuildOptions) (m : Metadata) (ns className : String)
    {operations : List Operation} (ho : builtOperations? m = some operations) :
    BuildEnds m.classes "public" (buildModel options m ns className)
      (buildTasks options operations) (modelOf options m ns className operations) := by
  obtain ⟨hub, others, api, hh, ha, rfl⟩ : ∃ hub others api, m.ofRole .hub = hub :: others ∧
      m.ofRole .clientApi = [api] ∧ operationsOf hub api = operations := by
    unfold builtOperations? at ho
    split at ho
    · simp_all
    · simp at ho
  have hconnection : BuildFollows m.classes "public" _ _ _ :=
    buildFollows_onRegistry (buildConnection_follows options)
  have hmethods : BuildFollows m.classes "public" _ _ _ :=
    buildMethods_follows options.forMethods (connectionOf m.classes options).name hub api
  have htasks : buildTasks options (operationsOf hub api) = [] ++ ([] ++ ([.visit connectionType,
      .demand (options.connectionProperty ≠ "") .emptyPropertyName] ++
      ((operationsOf hub api).flatMap operationTasks ++ ([] ++ [])))) := by simp [buildTasks]
  rw [htasks]
  unfold buildModel
  refine buildEnds_bind (chooseHub_follows hh) (buildEnds_bind (chooseClientApi_follows ha) ?_)
  refine buildEnds_bind hconnection (buildEnds_bind hmethods ?_)
  refine buildEnds_bind (buildFollows_note _) ?_
  have hmodel : BuildEnds m.classes "public" _ _ _ :=
    buildEnds_get (modelOf options m ns className (operationsOf hub api))
  simpa [modelOf, Function.comp_def] using hmodel

/-- A build comes out as its run does. -/
theorem build_outcome (options : BuildOptions) (m : Metadata) (ns className : String)
    (existing : List String) {operations : List Operation}
    (ho : builtOperations? m = some operations) :
    match (build options m ns className existing).1 with
    | .ok model => ∃ r, Steps m.classes "public"
        ⟨buildTasks options operations, .ofExisting existing⟩ ⟨[], r⟩ ∧
        model = modelOf options m ns className operations r
    | .error cause => ∃ r, Fails m.classes "public"
        ⟨buildTasks options operations, .ofExisting existing⟩ cause r := by
  have h := buildModel_ends options m ns className ho ⟨.ofExisting existing, []⟩
  have hb : (build options m ns className existing).1 =
      ((buildModel options m ns className).run.run ⟨.ofExisting existing, []⟩).1 := rfl
  rw [hb]
  rcases hrun : (buildModel options m ns className).run.run ⟨.ofExisting existing, []⟩ with
    ⟨cause | model, s⟩
  · rw [hrun] at h
    exact ⟨s.registry, h⟩
  · rw [hrun] at h
    exact ⟨s.registry, h.2, h.1⟩

/-- Why a contract is not one of a hub and a client API. -/
inductive Unpaired (m : Metadata) : BuildError → Prop
  | noHub : Unpaired m (.noHub m.source)
  | noClientApi : Unpaired m (.noClientApi m.source)
  | severalClientApis (names : List String) : Unpaired m (.severalClientApis names)

/-- A contract without a hub, without a client API or with several ones has no model. -/
theorem build_eq_error (options : BuildOptions) (m : Metadata) (ns className : String)
    (existing : List String) (ho : builtOperations? m = none) :
    ∃ cause, Unpaired m cause ∧ (build options m ns className existing).1 = .error cause := by
  have hb : (build options m ns className existing).1 =
      ((buildModel options m ns className).run.run ⟨.ofExisting existing, []⟩).1 := rfl
  rw [hb, buildModel, run_bind]
  cases hh : m.ofRole .hub with
  | nil =>
    have hrun : (chooseHub m).run.run ⟨.ofExisting existing, []⟩ =
        (.error (.noHub m.source), ⟨.ofExisting existing, []⟩) := by
      rw [chooseHub, hh]
      rfl
    rw [hrun]
    exact ⟨_, .noHub, rfl⟩
  | cons hub others =>
    obtain ⟨s, hs⟩ : ∃ s, (chooseHub m).run.run ⟨.ofExisting existing, []⟩ = (.ok hub, s) := by
      rw [chooseHub, hh]
      cases others <;> exact ⟨_, rfl⟩
    rw [hs]
    dsimp only
    rw [run_bind]
    cases ha : m.ofRole .clientApi with
    | nil =>
      have hapi : (chooseClientApi m).run.run s = (.error (.noClientApi m.source), s) := by
        rw [chooseClientApi, ha]
        rfl
      rw [hapi]
      exact ⟨_, .noClientApi, rfl⟩
    | cons api rest =>
      cases rest with
      | nil => simp [builtOperations?, hh, ha] at ho
      | cons api' rest =>
        have hapi : (chooseClientApi m).run.run s =
            (.error (.severalClientApis ((api :: api' :: rest).map (·.name))), s) := by
          rw [chooseClientApi, ha]
          rfl
        rw [hapi]
        exact ⟨_, .severalClientApis _, rfl⟩

end HubProxy.Proofs
