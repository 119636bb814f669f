import HubProxy.Proofs.StableImports

/-!
# The imports of a proxy

A build imports what its connection and its operations ask for and the namespaces of the primitives
that it needs. A namespace once asked for stays imported or on the agenda, and only a class that is
entered adds to what is asked for.
-/

namespace HubProxy.Proofs

/-- The namespaces that the proxy of a contract needs. -/
inductive Imported (m : Metadata) (existing : List String) : String → Prop
  | connection : Imported m existing "Microsoft.AspNetCore.SignalR.Client"
  | received {operations : List Operation} {o : Operation}
      (hm : builtOperations? m = some operations) (ho : o ∈ operations)
      (hd : o.direction = .serverReceived) : Imported m existing "System.Threading.Tasks"
  | invoked {operations : List Operation} {o : Operation}
      (hm : builtOperations? m = some operations) (ho : o ∈ operations)
      (hd : o.direction = .clientInvoked) : Imported m existing "System"
  | primitive {name ns : String} (hd : Needed m existing (.primitive name (some ns)))
      (hns : ns ≠ "") : Imported m existing ns

lemma Needed.imported {m : Metadata} {existing : List String} {d : Descriptor} {ns : String}
    (hd : Needed m existing d) (hns : ns ∈ importsOf d) : Imported m existing ns := by
  induction d using importsOf.induct with
  | case1 name space =>
    obtain ⟨rfl, hne⟩ : space = some ns ∧ ns ≠ "" := by
      simpa [importsOf, Option.filter_eq_some_iff] using hns
    exact .primitive hd hne
  | case2 element ih => exact ih hd.element hns
  | case3 d hprimitive harray =>
    cases d with
    | primitive name space => exact absurd rfl (hprimitive name space)
    | array element => exact absurd rfl (harray element)
    | _ => exact absurd hns List.not_mem_nil

/-- A namespace is imported or asked for by a task. -/
def Provided (agenda : List Task) (r : Registry) (ns : String) : Prop :=
  ns ∈ r.imports ∨ ns ∈ agenda.flatMap taskImports

variable {classes : ClassTable} {visibility : String} {existing : List String} {t : Task}
  {rest more : List Task} {r r' : Registry} {ns : String}

lemma mem_imports_classTasks {id : ClassId} {c : ClassDef} :
    ns ∈ (classTasks id c).flatMap taskImports ↔ ∃ p ∈ c.properties, ns ∈ importsOf p.2 := by
  simp [classTasks, memberTasks, taskImports, List.flatMap_assoc]

/-- A task provides what was provided before and, if it enters a class, what the class holds. -/
theorem Effect.provided_iff (he : Effect classes visibility t r more r') :
    Provided (more ++ rest) r' ns ↔ Provided (t :: rest) r ns ∨
      ∃ id c, t = .visit (.cls id) ∧ classes[id]? = some c ∧ r.contains c.name = false ∧
        ∃ p ∈ c.properties, ns ∈ importsOf p.2 := by
  cases he with
  | primitive name space =>
    simp [Provided, imports_importing, mem_addAll, taskImports, importsOf, or_assoc]
  | require space => simp [Provided, imports_importing, mem_addAll, taskImports, or_assoc]
  | array element => simp [Provided, taskImports, importsOf]
  | @newClass id c _ hc hr =>
    have hentered : (∃ id' c', Task.visit (.cls id) = .visit (.cls id') ∧
        classes[id']? = some c' ∧ r.contains c'.name = false ∧
        ∃ p ∈ c'.properties, ns ∈ importsOf p.2) ↔ ∃ p ∈ c.properties, ns ∈ importsOf p.2 := by
      simp [hc, hr]
    have hvisit : taskImports (.visit (.cls id)) = [] := rfl
    rw [hentered, Provided, Provided, List.flatMap_append, List.mem_append, mem_imports_classTasks,
      List.flatMap_cons, hvisit, List.nil_append, ← or_assoc, or_right_comm]
    rfl
  | newEnum | newArray | close => simp [Provided, taskImports, importsOf, entering, releasing]
  | @knownClass id c _ hc hr => simp [Provided, taskImports, importsOf, hc, hr]
  | _ => simp [Provided, taskImports, importsOf]

/-- What the properties of declared and reserved classes need is provided. -/
def MembersProvided (classes : ClassTable) (agenda : List Task) (r : Registry) : Prop :=
  ∀ name id c, (name, .cls id) ∈ entries r → classes[id]? = some c →
    ∀ p ∈ c.properties, ∀ ns ∈ importsOf p.2, Provided agenda r ns

theorem MembersProvided.step (hm : MembersProvided classes (t :: rest) r)
    (h : Sound classes visibility existing (t :: rest) r)
    (he : Effect classes visibility t r more r') : MembersProvided classes (more ++ rest) r' := by
  intro name id c hp hc p hmem ns hns
  rcases h.mem_entries he hp with hp | ⟨-, hclaim⟩
  · exact he.provided_iff.mpr (.inl (hm name id c hp hc p hmem ns hns))
  · cases hclaim with
    | cls hc' =>
      obtain rfl := Option.some.inj (hc.symm.trans hc')
      refine .inr ?_
      rw [List.flatMap_append, List.mem_append, mem_imports_classTasks]
      exact .inl ⟨p, hmem, hns⟩

section AtEnd

variable {options : BuildOptions} {m : Metadata} {operations : List Operation}

lemma mem_imports_buildTasks : ns ∈ (buildTasks options operations).flatMap taskImports ↔
    ns = "Microsoft.AspNetCore.SignalR.Client" ∨ ∃ o ∈ operations,
      (∃ p ∈ callerParameters o.parameters, ns ∈ importsOf p.2) ∨
      (o.direction = .serverReceived ∧ ns = "System.Threading.Tasks") ∨
      (o.direction = .clientInvoked ∧ ns = "System") := by
  have hoperation : ∀ o : Operation, ns ∈ (operationTasks o).flatMap taskImports ↔
      (∃ p ∈ callerParameters o.parameters, ns ∈ importsOf p.2) ∨
      (o.direction = .serverReceived ∧ ns = "System.Threading.Tasks") ∨
      (o.direction = .clientInvoked ∧ ns = "System") := by
    intro o
    unfold operationTasks
    cases o.direction <;> simp [taskImports, List.flatMap_map, Option.filter]
  simp [buildTasks, hoperation, taskImports, connectionType, importsOf, Option.filter,
    List.flatMap_assoc]

lemma imported_of_mem_buildTasks (hm : builtOperations? m = some operations)
    (h : ns ∈ (buildTasks options operations).flatMap taskImports) : Imported m existing ns := by
  rcases mem_imports_buildTasks.mp h with rfl | ⟨o, ho, ⟨p, hp, hns⟩ | ⟨hd, rfl⟩ | ⟨hd, rfl⟩⟩
  · exact .connection
  · exact (Needed.parameter hm ho hp).imported hns
  · exact .received hm ho hd
  · exact .invoked hm ho hd

theorem Ended.imported (h : Ended options m existing operations r) (hns : ns ∈ r.imports) :
    Imported m existing ns := by
  have hrun := h.steps.preserve
    (I := fun agenda r => Ordered m.classes "public" existing (Met m existing) agenda r ∧
      ∀ ns, Provided agenda r ns → Imported m existing ns) ?_
    ⟨ordered_build options existing h.built, ?_⟩
  · exact hrun.2 ns (.inl hns)
  · rintro t rest r more r' he ⟨hord, hall⟩
    refine ⟨hord.step (closed_met m existing) he, fun ns hprovided => ?_⟩
    rcases he.provided_iff.mp hprovided with hprovided | ⟨id, c, rfl, hc, hr, p, hp, hns⟩
    · exact hall ns hprovided
    -- The class is needed and does not exist, so what its properties ask for is needed as well.
    · have hneeded := (hord.within.visits (.cls id) List.mem_cons_self).needed trivial
      have hfresh : c.name ∉ existing := fun hmem =>
        ((not_contains_iff r c.name).mp hr).1 ((hord.sound.existing_iff c.name).mpr hmem)
      exact (hneeded.member hc hfresh hp).imported hns
  · rintro ns (himports | htasks)
    · exact absurd himports List.not_mem_nil
    · exact imported_of_mem_buildTasks h.built htasks

lemma Ended.mem_imports_of_task (h : Ended options m existing operations r)
    (hns : ns ∈ (buildTasks options operations).flatMap taskImports) : ns ∈ r.imports := by
  have hrun := h.steps.preserve (I := fun agenda r => Provided agenda r ns)
    (fun he hi => he.provided_iff.mpr (.inl hi)) (.inr hns)
  exact hrun.resolve_right List.not_mem_nil

lemma Ended.membersProvided (h : Ended options m existing operations r) :
    MembersProvided m.classes [] r := by
  have hrun := h.steps.preserve
    (I := fun agenda r => Sound m.classes "public" existing agenda r ∧
      MembersProvided m.classes agenda r)
    (fun he hi => ⟨hi.1.step he, hi.2.step hi.1 he⟩)
    ⟨(ordered_build options existing h.built).sound, fun _ _ _ hp => absurd hp List.not_mem_nil⟩
  exact hrun.2

lemma Ended.mem_imports_of_needed (h : Ended options m existing operations r) (hu : OwnNames m)
    {d : Descriptor} (hd : Needed m existing d) (hns : ns ∈ importsOf d) : ns ∈ r.imports := by
  induction hd with
  | parameter hm ho hp =>
    obtain rfl := Option.some.inj (h.built.symm.trans hm)
    exact h.mem_imports_of_task (mem_imports_buildTasks.mpr (.inr ⟨_, ho, .inl ⟨_, hp, hns⟩⟩))
  | element _ ih => exact ih hns
  | @member id c p hcls hc hname hp _ =>
    have hn : (Descriptor.cls id).name? m.classes = some c.name := by simp [Descriptor.name?, hc]
    have hdeclared := h.mem_declared_of_owns hu hcls trivial hn
      (hu (.cls id) c.name hcls.mentioned trivial hn) hname
    have hprovided := h.membersProvided c.name id c (List.mem_append_right _ hdeclared) hc p hp ns hns
    exact hprovided.resolve_right List.not_mem_nil

/-- Where types have their names for themselves, a run imports just what is needed. -/
theorem Ended.mem_imports_iff (h : Ended options m existing operations r) (hu : OwnNames m) :
    ns ∈ r.imports ↔ Imported m existing ns := by
  refine ⟨h.imported, fun himported => ?_⟩
  cases himported with
  | connection => exact h.mem_imports_of_task (mem_imports_buildTasks.mpr (.inl rfl))
  | received hm ho hd =>
    obtain rfl := Option.some.inj (h.built.symm.trans hm)
    exact h.mem_imports_of_task (mem_imports_buildTasks.mpr (.inr ⟨_, ho, .inr (.inl ⟨hd, rfl⟩)⟩))
  | invoked hm ho hd =>
    obtain rfl := Option.some.inj (h.built.symm.trans hm)
    exact h.mem_imports_of_task (mem_imports_buildTasks.mpr (.inr ⟨_, ho, .inr (.inr ⟨hd, rfl⟩)⟩))
  | primitive hd hns =>
    exact h.mem_imports_of_needed hu hd (by simp [importsOf, Option.filter, hns])

end AtEnd

end HubProxy.Proofs
