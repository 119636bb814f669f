import HubProxy.Generation.Generate
import HubProxy.Proofs.Blueprint
import HubProxy.Proofs.BuildAgenda

/-!
# Builds of the same contract

Contracts may say the same and still differ in the names of their source, their hub and their client
API, and in what they say of the results of operations. A build tells these apart in its log and in
why it fails only: two such builds go through the same registries, and end with the same text or both
fail.
-/

namespace HubProxy.Proofs

section Steps

/-- Two steps both fail, or leave the same registry and related values. -/
inductive SameEnd (R : α → β → Prop) :
    Except BuildError α × BuildState → Except BuildError β × BuildState → Prop
  | made {a : α} {b : β} {s s' : BuildState} (hR : R a b) (hs : s.registry = s'.registry) :
      SameEnd R (.ok a, s) (.ok b, s')
  | failed {e e' : BuildError} {s s' : BuildState} : SameEnd R (.error e, s) (.error e', s')

/-- Two steps of builds end the same from the same registry, whatever is in the logs. -/
def EndsAlike (R : α → β → Prop) (x : BuildM α) (y : BuildM β) : Prop :=
  ∀ s s', s.registry = s'.registry → SameEnd R (x.run.run s) (y.run.run s')

variable {R : α → β → Prop} {S : α' → β' → Prop}

lemma endsAlike_pure {a : α} {b : β} (h : R a b) : EndsAlike R (pure a) (pure b) :=
  fun _ _ hs => .made h hs

lemma EndsAlike.bind {x : BuildM α} {y : BuildM β} {f : α → BuildM α'} {g : β → BuildM β'}
    (h : EndsAlike R x y) (hf : ∀ a b, R a b → EndsAlike S (f a) (g b)) :
    EndsAlike S (x >>= f) (y >>= g) := by
  intro s s' hs
  have hend := h s s' hs
  rw [run_bind, run_bind]
  generalize x.run.run s = r at hend
  generalize y.run.run s' = r' at hend
  cases hend with
  | made hR hs => exact hf _ _ hR _ _ hs
  | failed => exact .failed

lemma endsAlike_note (record record' : LogRecord) : EndsAlike Eq (note record) (note record') :=
  fun _ _ hs => .made rfl hs

lemma endsAlike_onRegistry (step : RegistryM α) :
    EndsAlike Eq (onRegistry step) (onRegistry step) := by
  intro s s' hs
  have hrun : ∀ s, (onRegistry step).run.run s = ((step s.registry).1,
      ⟨(step s.registry).2, s.log ++ ((step s.registry).2.declarations.drop
        s.registry.declarations.length).map declaredRecord⟩) := fun _ => rfl
  rw [hrun, hrun, hs]
  rcases step s'.registry with ⟨cause | a, r⟩
  · exact .failed
  · exact .made rfl rfl

lemma endsAlike_mapM {f : α → BuildM α'} {g : β → BuildM β'} {l : List α} {l' : List β}
    (h : List.Forall₂ (fun a b => EndsAlike S (f a) (g b)) l l') :
    EndsAlike (List.Forall₂ S) (l.mapM f) (l'.mapM g) := by
  induction h with
  | nil => exact endsAlike_pure .nil
  | cons hhead _ ih =>
    rw [List.mapM_cons, List.mapM_cons]
    exact hhead.bind fun a b hab => ih.bind fun as bs hbs => endsAlike_pure (.cons hab hbs)

lemma endsAlike_filterMapM {f : α → BuildM (Option α')} {g : β → BuildM (Option β')} {l : List α}
    {l' : List β} (h : List.Forall₂ (fun a b => EndsAlike (Option.Rel S) (f a) (g b)) l l') :
    EndsAlike (List.Forall₂ S) (l.filterMapM f) (l'.filterMapM g) := by
  induction h with
  | nil => exact endsAlike_pure .nil
  | cons hhead _ ih =>
    rw [List.filterMapM_cons, List.filterMapM_cons]
    refine hhead.bind fun a b hab => ?_
    cases hab with
    | none => exact ih
    | some hS => exact ih.bind fun as bs hbs => endsAlike_pure (.cons hS hbs)

end Steps

section Operations

variable {classes : ClassTable} {options : MethodOptions} {connection : String}

/-- Operations that are the same up to their results get the same method. -/
lemma endsAlike_buildMethod {o o' : Operation} (h : SameOperation o o') :
    EndsAlike Eq (onRegistry (buildMethod classes options connection o))
      (onRegistry (buildMethod classes options connection o')) := by
  obtain ⟨name, direction, parameters, asyncVoid, returns⟩ := o
  rw [h]
  cases direction with
  | clientInvoked => exact endsAlike_onRegistry _
  | serverReceived =>
    cases asyncVoid with
    | false => exact fun _ _ _ => .failed
    | true => exact endsAlike_onRegistry _

/-- Operations with their methods that are the same up to their results. -/
def SameBuilt (p p' : Operation × MethodDeclaration) : Prop :=
  SameOperation p.1 p'.1 ∧ p.2 = p'.2

lemma endsAlike_buildMethods {hub hub' api api' : ContractType}
    (hhub : List.Forall₂ SameOperation hub.operations hub'.operations)
    (hapi : List.Forall₂ SameOperation api.operations api'.operations) :
    EndsAlike (List.Forall₂ SameBuilt) (buildMethods classes options connection hub api)
      (buildMethods classes options connection hub' api') := by
  unfold buildMethods
  refine EndsAlike.bind (endsAlike_filterMapM (S := SameBuilt) (hhub.imp fun o o' ho => ?_))
    fun os os' hos => EndsAlike.bind (endsAlike_mapM (S := SameBuilt) (hapi.imp fun o o' ho => ?_))
      fun is is' his => endsAlike_pure (List.rel_append hos his)
  · have hdirection : o'.direction = o.direction := by rw [ho]
    rw [hdirection]
    by_cases hreceived : o.direction = .serverReceived
    · rw [if_pos hreceived, if_pos hreceived]
      exact (endsAlike_buildMethod ho).bind fun d d' hd => endsAlike_pure (.some ⟨ho, hd⟩)
    · rw [if_neg hreceived, if_neg hreceived]
      exact (endsAlike_note _ _).bind fun _ _ _ => endsAlike_pure .none
  · exact (endsAlike_buildMethod ho).bind fun d d' hd => endsAlike_pure ⟨ho, hd⟩

end Operations

section Builds

variable {m m' : Metadata}

/-- A model that is the same up to the results of operations. -/
def SameModel (model model' : ApiModel) : Prop :=
  model' = { model with operations := model'.operations }

lemma SameModel.emit_eq {model model' : ApiModel} (h : SameModel model model') :
    CSharp.emit model' = CSharp.emit model := by
  rw [h]
  rfl

variable {received invoked : List Operation} {classes : ClassTable}

lemma ComesFrom.exists_hub (hm : ComesFrom m received invoked classes) :
    ∃ hub api, m.ofRole .hub = [hub] ∧ m.ofRole .clientApi = [api] ∧
      List.Forall₂ SameOperation received hub.operations ∧
      List.Forall₂ SameOperation invoked api.operations := by
  obtain ⟨hub, api, received', invoked', htypes, hreceived, hinvoked⟩ := hm.types
  refine ⟨⟨hub, .hub, received'⟩, ⟨api, .clientApi, invoked'⟩, ?_, ?_, hreceived, hinvoked⟩
  · rw [Metadata.ofRole, htypes]
    rfl
  · rw [Metadata.ofRole, htypes]
    rfl

lemma SameOperation.of_left {o o₁ o₂ : Operation} (h₁ : SameOperation o o₁)
    (h₂ : SameOperation o o₂) : SameOperation o₁ o₂ := by
  rw [SameOperation, h₁, h₂]

lemma forall₂_sameOperation {os os₁ os₂ : List Operation} (h₁ : List.Forall₂ SameOperation os os₁)
    (h₂ : List.Forall₂ SameOperation os os₂) : List.Forall₂ SameOperation os₁ os₂ := by
  induction h₁ generalizing os₂ with
  | nil =>
    cases h₂
    exact .nil
  | cons hhead₁ _ ih =>
    obtain ⟨o, os₂, hhead₂, htail₂, rfl⟩ := List.forall₂_cons_left_iff.mp h₂
    exact .cons (hhead₁.of_left hhead₂) (ih htail₂)

lemma chooseHub_eq {hub : ContractType} (h : m.ofRole .hub = [hub]) : chooseHub m = pure hub := by
  unfold chooseHub
  rw [h]
  rfl

lemma chooseClientApi_eq {api : ContractType} (h : m.ofRole .clientApi = [api]) :
    chooseClientApi m = pure api := by
  unfold chooseClientApi
  rw [h]

lemma endsAlike_buildModel (hm : ComesFrom m received invoked classes)
    (hm' : ComesFrom m' received invoked classes) (options : BuildOptions) (ns className : String) :
    EndsAlike SameModel (buildModel options m ns className) (buildModel options m' ns className) := by
  obtain ⟨hub, api, hhub, hapi, hreceived, hinvoked⟩ := hm.exists_hub
  obtain ⟨hub', api', hhub', hapi', hreceived', hinvoked'⟩ := hm'.exists_hub
  have hoperations := forall₂_sameOperation hreceived hreceived'
  have hoperations' := forall₂_sameOperation hinvoked hinvoked'
  unfold buildModel
  rw [chooseHub_eq hhub, chooseHub_eq hhub', chooseClientApi_eq hapi, chooseClientApi_eq hapi',
    hm.classes_eq, hm'.classes_eq]
  simp only [pure_bind]
  refine (endsAlike_onRegistry _).bind fun connection _ hconnection => ?_
  subst hconnection
  refine (endsAlike_buildMethods hoperations hoperations').bind fun built built' hbuilt => ?_
  refine (endsAlike_note _ _).bind fun _ _ _ => ?_
  have hmethods : built.map (·.2) = built'.map (·.2) := by
    rw [← List.forall₂_eq_eq_eq, List.forall₂_map_left_iff, List.forall₂_map_right_iff]
    exact hbuilt.imp fun _ _ h => h.2
  intro s s' hs
  refine .made ?_ hs
  simp only [SameModel, hs, hmethods]

/-- What the caller sees of two contracts that say the same is the same: the text, or a failure. -/
lemma ComesFrom.generate_text (hm : ComesFrom m received invoked classes)
    (hm' : ComesFrom m' received invoked classes) (options : BuildOptions) (ns className : String)
    (existing : List String) :
    (generate options m ns className existing).1.toOption.map (·.text) =
      (generate options m' ns className existing).1.toOption.map (·.text) := by
  have hend := endsAlike_buildModel hm hm' options ns className ⟨.ofExisting existing, []⟩ _ rfl
  have hgenerate : ∀ m, (generate options m ns className existing).1.toOption.map (·.text) =
      ((buildModel options m ns className).run.run ⟨.ofExisting existing, []⟩).1.toOption.map
        CSharp.emit := by
    intro m
    have hresult : (generate options m ns className existing).1 =
        ((buildModel options m ns className).run.run ⟨.ofExisting existing, []⟩).1.map
          fun model => ⟨m.classes, model, CSharp.emit model⟩ := rfl
    rw [hresult]
    generalize ((buildModel options m ns className).run.run ⟨.ofExisting existing, []⟩).1 = result
    cases result <;> simp only [Except.map, Except.toOption, Option.map_some, Option.map_none]
  rw [hgenerate, hgenerate]
  generalize (buildModel options m ns className).run.run ⟨.ofExisting existing, []⟩ = r at hend
  generalize (buildModel options m' ns className).run.run ⟨.ofExisting existing, []⟩ = r' at hend
  cases hend with
  | made hmodel _ =>
    dsimp only [Except.toOption, Option.map_some]
    rw [hmodel.emit_eq]
  | failed => rfl

end Builds

end HubProxy.Proofs
