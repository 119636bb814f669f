import HubProxy.Proofs.DeclaredTypes

/-!
# When a build succeeds

A build whose types have their names for themselves fails for no other reason than what the contract
says: no configuration that its run comes to is stuck on a name, so conflicts and declarations made
twice do not occur.
-/

namespace HubProxy.Proofs

/-- A type that a proxy can express, apart from what it holds. -/
def Expressible (classes : ClassTable) : Descriptor → Prop
  | .generic .. | .unknown _ => False
  | .cls id => classes[id]?.isSome = true
  | _ => True

/-- What a contract, existing names and options must be like for a proxy to be built. -/
structure Buildable (options : BuildOptions) (m : Metadata) (existing : List String)
    (hub api : ContractType) : Prop where
  connection : options.connectionProperty ≠ ""
  firstHub : (m.ofRole .hub).head? = some hub
  onlyApi : m.ofRole .clientApi = [api]
  received : ∀ o ∈ hub.operations ++ api.operations, o.direction = .serverReceived →
    o.asyncVoid = true
  invoked : ∀ o ∈ api.operations, o.direction = .clientInvoked →
    (callerParameters o.parameters).length ≤ 8
  expressible : ∀ d, Needed m existing d → Expressible m.classes d
  membersNamed : ∀ id c, Needed m existing (.cls id) → m.classes[id]? = some c →
    c.name ∉ existing → ∀ p ∈ c.properties, p.1 ≠ ""

variable {options : BuildOptions} {m : Metadata} {existing : List String} {hub api : ContractType}

lemma builtOperations?_eq_some_iff {operations : List Operation} :
    builtOperations? m = some operations ↔ ∃ hub api, (m.ofRole .hub).head? = some hub ∧
      m.ofRole .clientApi = [api] ∧ operations = operationsOf hub api := by
  unfold builtOperations?
  constructor
  · intro h
    split at h
    · next hub others api hh ha =>
      exact ⟨hub, api, by simp [hh], ha, (Option.some.inj h).symm⟩
    · cases h
  · rintro ⟨hub, api, hh, ha, rfl⟩
    obtain ⟨others, hh⟩ := List.head?_eq_some_iff.mp hh
    rw [hh, ha]

lemma mem_operationsOf {o : Operation} : o ∈ operationsOf hub api ↔
    (o ∈ hub.operations ∧ o.direction = .serverReceived) ∨ o ∈ api.operations := by
  simp [operationsOf]

section Necessary

variable {operations : List Operation} {r : Registry}

lemma Ended.expressible (h : Ended options m existing operations r) (hu : OwnNames m)
    {d : Descriptor} (hd : Needed m existing d) : Expressible m.classes d := by
  have hh := h.handled_of_ownNames hu hd
  cases d with
  | generic | unknown => exact absurd hh List.not_mem_nil
  | cls id =>
    obtain ⟨name, hn⟩ := hh.named
    obtain ⟨c, hc, -⟩ := Option.map_eq_some_iff.mp hn
    exact Option.isSome_iff_exists.mpr ⟨c, hc⟩
  | primitive | array | enum => trivial

lemma Ended.membersNamed (h : Ended options m existing operations r) (hu : OwnNames m)
    {id : ClassId} {c : ClassDef} (hd : Needed m existing (.cls id))
    (hc : m.classes[id]? = some c) (hname : c.name ∉ existing) : ∀ p ∈ c.properties, p.1 ≠ "" := by
  intro p hp hempty
  have hn : (Descriptor.cls id).name? m.classes = some c.name := by simp [Descriptor.name?, hc]
  have howns := hu (.cls id) c.name hd.mentioned trivial hn
  have hmem := h.mem_declared_of_owns hu hd trivial hn howns hname
  have hmembers := h.ordered.members _ id c (List.mem_append_right _ hmem) hc p hp
  exact absurd (hmembers.2 hempty) List.not_mem_nil

lemma Ended.demand (h : Ended options m existing operations r) {o : Operation}
    (ho : o ∈ operations) {holds : Bool} {cause : BuildError}
    (hd : .demand holds cause ∈ operationTasks o) : holds = true := by
  have hmem : .demand holds cause ∈ operations.flatMap operationTasks :=
    List.mem_flatMap.mpr ⟨o, ho, hd⟩
  exact demand_of_steps h.steps (List.mem_cons_of_mem _ (List.mem_cons_of_mem _ hmem))

lemma Ended.received (h : Ended options m existing operations r) {o : Operation}
    (ho : o ∈ operations) (hd : o.direction = .serverReceived) : o.asyncVoid = true := by
  have hmem : .demand o.asyncVoid (.notAsyncVoid o.name o.returns) ∈ operationTasks o := by
    simp [operationTasks, hd]
  exact h.demand ho hmem

lemma Ended.invoked (h : Ended options m existing operations r) {o : Operation}
    (ho : o ∈ operations) (hd : o.direction = .clientInvoked) :
    (callerParameters o.parameters).length ≤ 8 := by
  have hmem : .demand ((callerParameters o.parameters).length ≤ maxHandlerArguments)
      (.tooManyParameters o.name (callerParameters o.parameters).length) ∈ operationTasks o := by
    simp [operationTasks, hd]
  exact of_decide_eq_true (h.demand ho hmem)

lemma Ended.connection (h : Ended options m existing operations r) :
    options.connectionProperty ≠ "" := by
  have hmem : .demand (options.connectionProperty ≠ "") .emptyPropertyName ∈
      buildTasks options operations := by simp [buildTasks]
  exact of_decide_eq_true (demand_of_steps h.steps hmem)

end Necessary

section Sufficient

variable {agenda : List Task} {r : Registry}

lemma Buildable.name? (h : Buildable options m existing hub api) {d : Descriptor}
    (hd : Needed m existing d) : ∃ name, d.name? m.classes = some name := by
  have hexpr := h.expressible d hd
  induction d using reference.induct with
  | case1 element ih =>
    obtain ⟨name, hn⟩ := ih hd.element (h.expressible _ hd.element)
    exact ⟨name ++ "[]", by simp [Descriptor.name?, hn]⟩
  | case2 d hleaf =>
    cases d with
    | primitive name ns => exact ⟨name, rfl⟩
    | array element => exact absurd rfl (hleaf element)
    | enum name members => exact ⟨name, rfl⟩
    | generic | unknown => exact hexpr.elim
    | cls id =>
      obtain ⟨c, hc⟩ := Option.isSome_iff_exists.mp hexpr
      exact ⟨c.name, by simp [Descriptor.name?, hc]⟩

lemma Buildable.label? (h : Buildable options m existing hub api) {d : Descriptor}
    (hd : Needed m existing d) : ∃ label, d.label? m.classes = some label := by
  obtain ⟨name, hn⟩ := h.name? hd
  cases d with
  | generic => exact (h.expressible _ hd).elim
  | _ => exact ⟨name, hn⟩

lemma exists_mapM_eq_some {f : α → Option β} {l : List α} (h : ∀ x ∈ l, ∃ y, f x = some y) :
    ∃ ys, l.mapM f = some ys := by
  induction l with
  | nil => exact ⟨[], rfl⟩
  | cons x l ih =>
    obtain ⟨y, hy⟩ := h x List.mem_cons_self
    obtain ⟨ys, hys⟩ := ih fun x' hx' => h x' (List.mem_cons_of_mem x hx')
    exact ⟨y :: ys, by simp [List.mapM_cons, hy, hys]⟩

/-- A class has a shape if the types of its properties can be named. -/
lemma exists_shape_cls {classes : ClassTable} {id : ClassId} {c : ClassDef}
    (hc : classes[id]? = some c)
    (hlabels : ∀ p ∈ c.properties, ∃ label, p.2.label? classes = some label) :
    ∃ shape, (Descriptor.cls id).shape? classes = some shape := by
  have hmembers : ∀ p ∈ c.properties, ∃ member, (p.2.label? classes).map (p.1, ·) = some member := by
    intro p hp
    obtain ⟨label, hlabel⟩ := hlabels p hp
    exact ⟨(p.1, label), by simp [hlabel]⟩
  obtain ⟨members, hmembers⟩ := exists_mapM_eq_some hmembers
  exact ⟨.cls c.isInterface c.name members, by simp [Descriptor.shape?, hc, hmembers]⟩

/-- A class that is entered has a shape, so it can be told from other types. -/
lemma Buildable.agree_self (h : Buildable options m existing hub api) {id : ClassId} {c : ClassDef}
    (hd : Needed m existing (.cls id)) (hc : m.classes[id]? = some c) (hname : c.name ∉ existing) :
    agree m.classes (.cls id) (.cls id) = .ok true := by
  obtain ⟨s, hs⟩ := exists_shape_cls hc fun p hp => h.label? (hd.member hc hname hp)
  simp [agree, hs]

/-- A mention of a type that has its name for itself does not fail over the name. -/
lemma visitNamed_succeeds (h : Ordered m.classes "public" existing (Met m existing) agenda r)
    {d : Descriptor} {name : String} (hn : d.name? m.classes = some name) (hu : Owns m d name)
    {x : RegistryM (List Task)}
    (hfresh : r.contains name = false → ∃ more r', runOn r x = (.ok more, r')) :
    ∃ more r', runOn r (visitNamed m.classes d name x) = (.ok more, r') := by
  cases hr : r.contains name with
  | false => simpa [visitNamed, runOn_bind, hr] using hfresh hr
  | true =>
    refine ⟨[], r, ?_⟩
    simp only [visitNamed, runOn_bind, runOn_get, hr, ite_true, runOn_checkConsistent hn]
    cases hk : known? r name with
    | none => rfl
    | some known =>
      rw [h.known_eq hu hk]
      simp

lemma Buildable.class? (hb : Buildable options m existing hub api) {id : ClassId}
    (hd : Needed m existing (.cls id)) :
    ∃ c, m.classes[id]? = some c ∧ (Descriptor.cls id).name? m.classes = some c.name := by
  obtain ⟨c, hc⟩ := Option.isSome_iff_exists.mp (hb.expressible _ hd)
  exact ⟨c, hc, by simp [Descriptor.name?, hc]⟩

lemma runOn_require (classes : ClassTable) (visibility ns : String) (r : Registry) :
    runOn r (perform classes visibility (.require ns)) = (.ok [], importing r (some ns)) := by
  simp only [perform, runOn_bind, runOn_requireImport, runOn_pure]

/-- A condition fails with its own cause, and only if it does not hold. -/
lemma demand_error {classes : ClassTable} {visibility : String} {r' : Registry} {holds : Bool}
    {own cause : BuildError}
    (h : runOn r (perform classes visibility (.demand holds own)) = (.error cause, r')) :
    holds = false ∧ own = cause := by
  cases holds with
  | true => simp [perform] at h
  | false => exact ⟨rfl, (show own = cause ∧ r = r' by simpa [perform] using h).1⟩

/-- The failure over a type that no proxy can express. -/
inductive InexpressibleFault : BuildError → Prop
  | genericType (display : String) : InexpressibleFault (.genericType display)
  | unknownKind (display : String) : InexpressibleFault (.unknownKind display)

/-- A visit succeeds unless the type is none that a proxy can express. -/
lemma visit_outcome (hu : OwnNames m) {d : Descriptor}
    (h : Ordered m.classes "public" existing (Met m existing) (.visit d :: agenda) r) :
    (∃ more r', runOn r (perform m.classes "public" (.visit d)) = (.ok more, r')) ∨
      (¬Expressible m.classes d ∧ ∃ cause, InexpressibleFault cause ∧
        runOn r (perform m.classes "public" (.visit d)) = (.error cause, r)) := by
  have hmet : Met m existing d := h.within.visits d List.mem_cons_self
  cases d with
  | primitive name ns =>
    refine .inl ⟨[], importing r ns, ?_⟩
    simp only [perform, runOn_bind, runOn_requireImport, runOn_pure]
  | array element => exact .inl ⟨[.visit element, .wrap element], r, rfl⟩
  | enum name members =>
    have howns := hu (.enum name members) name (hmet.needed trivial).mentioned trivial rfl
    refine .inl (visitNamed_succeeds h rfl howns fun hr => ?_)
    exact ⟨[], _, by rw [runOn_bind, runOn_declare_fresh rfl _ hr]; rfl⟩
  | cls id =>
    cases hc : m.classes[id]? with
    | none =>
      exact .inr ⟨by simp [Expressible, hc], _, .unknownKind _, by simp only [perform, hc]; rfl⟩
    | some c =>
      have hn : (Descriptor.cls id).name? m.classes = some c.name := by simp [Descriptor.name?, hc]
      have howns := hu (.cls id) c.name (hmet.needed trivial).mentioned trivial hn
      simp only [perform, hc]
      refine .inl (visitNamed_succeeds h hn howns fun hr => ?_)
      exact ⟨classTasks id c, _, by rw [runOn_bind, runOn_reserve hn r hr]; rfl⟩
  | generic => exact .inr ⟨id, _, .genericType _, rfl⟩
  | unknown => exact .inr ⟨id, _, .unknownKind _, rfl⟩

/-- An array that is new can be declared if it has a name. -/
lemma wrap_outcome (classes : ClassTable) (visibility : String) (element : Descriptor)
    (r : Registry) :
    (∃ r', runOn r (perform classes visibility (.wrap element)) = (.ok [], r')) ∨
      (element.isBuiltin = false ∧ (Descriptor.array element).name? classes = none ∧
        runOn r (perform classes visibility (.wrap element)) = (.error .nameless, r)) := by
  by_cases hk : (element.isBuiltin || r.contains (reference classes (.array element)).name) = true
  · refine .inl ⟨r, ?_⟩
    simp only [perform, runOn_bind, runOn_get, hk, ite_true, runOn_pure]
  · simp only [perform, runOn_bind, runOn_get, hk, Bool.false_eq_true, ite_false]
    rw [Bool.not_eq_true, Bool.or_eq_false_iff] at hk
    cases hn : (Descriptor.array element).name? classes with
    | none =>
      refine .inr ⟨hk.1, rfl, ?_⟩
      simp only [declare, runOn_bind, runOn_named, hn]
    | some name =>
      rw [reference_name hn] at hk
      rw [runOn_declare_fresh hn none hk.2]
      exact .inl ⟨_, rfl⟩

/-- A class is closed if it has the shape of its reservation, which is its own. -/
lemma runOn_close {id : ClassId} {c : ClassDef}
    (h : Ordered m.classes "public" existing (Met m existing) (.close id :: agenda) r)
    (hc : m.classes[id]? = some c) :
    runOn r (perform m.classes "public" (.close id)) =
      match agree m.classes (.cls id) (.cls id) with
      | .ok true =>
        (.ok [], entering r c.name (.cls id) (declarationOf? m.classes "public" (.cls id)))
      | .ok false => (.error (.typeConflict c.name), releasing r c.name)
      | .error e => (.error e, releasing r c.name) := by
  have hn : (Descriptor.cls id).name? m.classes = some c.name := by simp [Descriptor.name?, hc]
  obtain ⟨hreserved, hfresh, hdeclared⟩ := h.sound.of_close hc
  have hex : r.existing.contains c.name = false := by
    simpa using fun hmem => hfresh ((h.sound.existing_iff c.name).mp hmem)
  have hdecl : r.isDeclared c.name = false := isDeclared_eq_false_iff.mpr hdeclared
  have hlookup : r.reserved.lookup c.name = some (.cls id) := by simp [hreserved]
  simp only [perform, runOn_bind, runOn_declare hn _ r hex hdecl, hlookup]
  rcases agree m.classes (.cls id) (.cls id) with e | b
  · rfl
  · cases b <;> rfl

lemma visit_succeeds (hb : Buildable options m existing hub api) (hu : OwnNames m)
    {d : Descriptor}
    (h : Ordered m.classes "public" existing (Met m existing) (.visit d :: agenda) r) :
    ∃ more r', runOn r (perform m.classes "public" (.visit d)) = (.ok more, r') := by
  rcases visit_outcome hu h with hok | ⟨hexpressible, -⟩
  · exact hok
  · rcases h.within.visits d List.mem_cons_self with rfl | hneeded
    · exact absurd trivial hexpressible
    · exact absurd (hb.expressible _ hneeded) hexpressible

lemma wrap_succeeds (hb : Buildable options m existing hub api) {element : Descriptor}
    (h : Ordered m.classes "public" existing (Met m existing) (.wrap element :: agenda) r) :
    ∃ more r', runOn r (perform m.classes "public" (.wrap element)) = (.ok more, r') := by
  rcases wrap_outcome m.classes "public" element r with ⟨r', hok⟩ | ⟨hbuiltin, hnone, -⟩
  · exact ⟨[], r', hok⟩
  · obtain ⟨name, hn⟩ := hb.name? ((h.within.wraps element List.mem_cons_self).needed hbuiltin)
    cases hn.symm.trans hnone

lemma close_succeeds (hb : Buildable options m existing hub api) {id : ClassId}
    (h : Ordered m.classes "public" existing (Met m existing) (.close id :: agenda) r) :
    ∃ more r', runOn r (perform m.classes "public" (.close id)) = (.ok more, r') := by
  have hneeded := (h.within.closes id List.mem_cons_self).needed trivial
  obtain ⟨c, hc, hn⟩ := hb.class? hneeded
  obtain ⟨-, hfresh, -⟩ := h.sound.of_close hc
  rw [runOn_close h hc, hb.agree_self hneeded hc hfresh]
  exact ⟨[], _, rfl⟩

/-- No task of a run is stuck on a name. -/
theorem perform_succeeds (hb : Buildable options m existing hub api) (hu : OwnNames m)
    {t : Task} (h : Ordered m.classes "public" existing (Met m existing) (t :: agenda) r)
    (hdemand : ∀ holds cause, t = .demand holds cause → holds = true) :
    ∃ more r', runOn r (perform m.classes "public" t) = (.ok more, r') := by
  cases t with
  | visit d => exact visit_succeeds hb hu h
  | wrap element => exact wrap_succeeds hb h
  | close id => exact close_succeeds hb h
  | demand holds cause =>
    obtain rfl := hdemand holds cause rfl
    exact ⟨[], r, by simp [perform]⟩
  | require ns => exact ⟨[], _, runOn_require m.classes "public" ns r⟩

/-- The conditions that a run of a build still has to meet hold. -/
theorem demand_step (hb : Buildable options m existing hub api) {t : Task} {more : List Task}
    {r' : Registry} (h : Ordered m.classes "public" existing (Met m existing) (t :: agenda) r)
    (he : Effect m.classes "public" t r more r')
    (hd : ∀ holds cause, .demand holds cause ∈ t :: agenda → holds = true) :
    ∀ holds cause, .demand holds cause ∈ more ++ agenda → holds = true := by
  intro holds cause hmem
  rcases List.mem_append.mp hmem with hmem | hmem
  · cases he with
    | @newClass id c _ hc hr =>
      have hneeded := (h.within.visits (.cls id) (by simp)).needed trivial
      have hfresh : c.name ∉ existing := fun hex =>
        ((not_contains_iff r c.name).mp hr).1 ((h.sound.existing_iff c.name).mpr hex)
      rcases mem_classTasks.mp hmem with ⟨p, hp, heq | heq⟩ | heq
      · cases heq
      · obtain ⟨rfl, -⟩ := Task.demand.inj heq
        exact decide_eq_true (hb.membersNamed id c hneeded hc hfresh p hp)
      · cases heq
    | array element => simp at hmem
    | _ => exact absurd hmem List.not_mem_nil
  · exact hd holds cause (List.mem_cons_of_mem _ hmem)

lemma Buildable.demand_start (h : Buildable options m existing hub api) {holds : Bool}
    {cause : BuildError}
    (hd : .demand holds cause ∈ buildTasks options (operationsOf hub api)) : holds = true := by
  cases starting_of_mem hd with
  | property => exact decide_eq_true h.connection
  | @received o ho hdir =>
    have hmem : o ∈ hub.operations ++ api.operations := by
      rw [List.mem_append]
      exact (mem_operationsOf.mp ho).imp_left And.left
    exact h.received o hmem hdir
  | @invoked o ho hdir =>
    have hapi : o ∈ api.operations := by
      rcases mem_operationsOf.mp ho with ⟨-, hserver⟩ | ho
      · cases hdir.symm.trans hserver
      · exact ho
    exact decide_eq_true (h.invoked o hapi hdir)

end Sufficient

/-- A contract for which a build has come to its end is buildable. -/
theorem Ended.buildable {operations : List Operation} {r : Registry}
    (h : Ended options m existing operations r) (hu : OwnNames m) :
    ∃ hub api, Buildable options m existing hub api := by
  obtain ⟨hub, api, hhub, hapi, rfl⟩ := builtOperations?_eq_some_iff.mp h.built
  refine ⟨hub, api, h.connection, hhub, hapi, ?_, ?_, fun d => h.expressible hu,
    fun id c => h.membersNamed hu⟩
  · intro o ho hd
    refine h.received (mem_operationsOf.mpr ?_) hd
    exact (List.mem_append.mp ho).imp_left fun h => ⟨h, hd⟩
  · exact fun o ho => h.invoked (mem_operationsOf.mpr (.inr ho))

/-- What a build fails with, given an invariant of its run: the contract has no hub and client API to
begin with, or a task fails that the invariant allows to come first. -/
theorem failure_of_build {I : List Task → Registry → Prop} {P : BuildError → Prop}
    {ns className : String} {cause : BuildError}
    (hunpaired : builtOperations? m = none → ∀ cause, Unpaired m cause → P cause)
    (hstart : ∀ operations, builtOperations? m = some operations →
      I (buildTasks options operations) (.ofExisting existing))
    (hstep : ∀ {t rest r more r'}, Effect m.classes "public" t r more r' → I (t :: rest) r →
      I (more ++ rest) r')
    (hfails : ∀ {t rest r r' cause}, I (t :: rest) r →
      runOn r (perform m.classes "public" t) = (.error cause, r') → P cause)
    (h : (build options m ns className existing).1 = .error cause) : P cause := by
  cases hm : builtOperations? m with
  | none =>
    obtain ⟨cause', hcause, hbuild⟩ := build_eq_error options m ns className existing hm
    obtain rfl := Except.error.inj (hbuild.symm.trans h)
    exact hunpaired hm cause' hcause
  | some operations =>
    have hout := build_outcome options m ns className existing hm
    rw [h] at hout
    obtain ⟨r', t, rest, r, hs, hfail⟩ := hout
    exact hfails (hs.preserve hstep (hstart operations hm)) hfail

/-- A build of a buildable contract does not fail. -/
theorem Buildable.build_succeeds (hb : Buildable options m existing hub api) (hu : OwnNames m)
    (ns className : String) : ∃ model, (build options m ns className existing).1 = .ok model := by
  have hm : builtOperations? m = some (operationsOf hub api) :=
    builtOperations?_eq_some_iff.mpr ⟨hub, api, hb.firstHub, hb.onlyApi, rfl⟩
  rcases hrun : (build options m ns className existing).1 with cause | model
  · refine (failure_of_build (P := fun _ => False) (I := fun agenda r =>
      Ordered m.classes "public" existing (Met m existing) agenda r ∧
        ∀ holds cause, .demand holds cause ∈ agenda → holds = true)
      (fun hnone => ?_) (fun operations hm' => ?_) (fun he hi => ?_) (fun hi hfail => ?_) hrun).elim
    · cases hnone.symm.trans hm
    · obtain rfl := Option.some.inj (hm.symm.trans hm')
      exact ⟨ordered_build options existing hm, fun _ _ => hb.demand_start⟩
    · exact ⟨hi.1.step (closed_met m existing) he, demand_step hb hi.1 he hi.2⟩
    · obtain ⟨more, r'', hok⟩ := perform_succeeds hb hu hi.1 fun holds cause heq =>
        hi.2 holds cause (heq ▸ List.mem_cons_self)
      cases hfail.symm.trans hok
  · exact ⟨model, rfl⟩

/-- What is buildable stays so where more types exist. -/
lemma Buildable.mono {existing' : List String} (hb : Buildable options m existing hub api)
    (hsub : existing ⊆ existing') : Buildable options m existing' hub api where
  connection := hb.connection
  firstHub := hb.firstHub
  onlyApi := hb.onlyApi
  received := hb.received
  invoked := hb.invoked
  expressible d hd := hb.expressible d (hd.mono hsub)
  membersNamed id c hd hc hname := hb.membersNamed id c (hd.mono hsub) hc fun hmem =>
    hname (hsub hmem)

/-- A build succeeds just when the contract is buildable. -/
theorem build_succeeds_iff (options : BuildOptions) {m : Metadata} (ns className : String)
    (existing : List String) (hu : SingleNames m) :
    (∃ model, (build options m ns className existing).1 = .ok model) ↔
      ∃ hub api, Buildable options m existing hub api := by
  constructor
  · rintro ⟨model, hmodel⟩
    obtain ⟨operations, r, hend, -⟩ := ended_of_build hmodel
    exact hend.buildable hu.ownNames
  · rintro ⟨hub, api, hb⟩
    exact hb.build_succeeds hu.ownNames ns className

/-- A property that no proxy can express stands in the way unless its class exists already. -/
theorem build_loopedContract_iff :
    SingleNames loopedContract ∧
      (∃ hub api, Buildable {} loopedContract ["Seen"] hub api) ∧
      ¬∃ hub api, Buildable {} loopedContract [] hub api := by
  have hiff := fun existing =>
    build_succeeds_iff {} "Games" "Proxy" existing singleNames_loopedContract
  have hsome : ∃ model, (build {} loopedContract "Games" "Proxy" ["Seen"]).1 = .ok model := ⟨_, rfl⟩
  have hnone : (build {} loopedContract "Games" "Proxy" []).1 = .error (.genericType "List<>") := rfl
  refine ⟨singleNames_loopedContract, (hiff ["Seen"]).mp hsome, fun hb => ?_⟩
  obtain ⟨model, hmodel⟩ := (hiff []).mpr hb
  cases hnone.symm.trans hmodel

end HubProxy.Proofs
