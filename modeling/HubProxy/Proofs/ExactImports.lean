import HubProxy.Proofs.DeclaredTypes
import HubProxy.Proofs.ImportLines
import HubProxy.Proofs.NeededImports

/-!
# The imports of a build are exact

A namespace is asked for by the first tasks or by a class that is entered. A class that is entered is
known from then on, so at the end it is declared, and what the declared classes hold has been asked
for. Whether types share their names plays no part.
-/

namespace HubProxy.Proofs

/-- A type is another one, or an array over it of whatever depth. -/
inductive ArrayOver (inner : Descriptor) : Descriptor → Prop
  | self : ArrayOver inner inner
  | array {d : Descriptor} (h : ArrayOver inner d) : ArrayOver inner (.array d)

lemma mem_importsOf_iff {d : Descriptor} {space : String} :
    space ∈ importsOf d ↔ space ≠ "" ∧ ∃ name, ArrayOver (.primitive name (some space)) d := by
  induction d using importsOf.induct with
  | case1 name ns =>
    constructor
    · intro h
      obtain ⟨rfl, hne⟩ : ns = some space ∧ space ≠ "" := by
        simpa [importsOf, Option.filter_eq_some_iff] using h
      exact ⟨hne, name, .self⟩
    · rintro ⟨hne, name, ⟨⟩⟩
      simp [importsOf, Option.filter, hne]
  | case2 element ih =>
    rw [importsOf, ih]
    refine and_congr_right fun _ => exists_congr fun name => ⟨.array, fun h => ?_⟩
    cases h with
    | array h => exact h
  | case3 d hprimitive harray =>
    constructor
    · intro h
      cases d with
      | primitive name ns => exact absurd rfl (hprimitive name ns)
      | array element => exact absurd rfl (harray element)
      | _ => exact absurd h List.not_mem_nil
    · rintro ⟨-, name, h⟩
      cases h with
      | self => exact absurd rfl (hprimitive name (some space))
      | @array element _ => exact absurd rfl (harray element)

/-- The namespaces that a model has reason to import. -/
inductive ProxyImport (m : Metadata) (model : ApiModel) : String → Prop
  | connection : ProxyImport m model "Microsoft.AspNetCore.SignalR.Client"
  | received {o : Operation} (ho : o ∈ model.operations) (hd : o.direction = .serverReceived) :
      ProxyImport m model "System.Threading.Tasks"
  | invoked {o : Operation} (ho : o ∈ model.operations) (hd : o.direction = .clientInvoked) :
      ProxyImport m model "System"
  | parameter {o : Operation} {p : String × Descriptor} {name space : String}
      (ho : o ∈ model.operations) (hp : p ∈ o.parameters) (hcontext : p.2 ≠ connectionContext)
      (hover : ArrayOver (.primitive name (some space)) p.2) (hspace : space ≠ "") :
      ProxyImport m model space
  | property {id : ClassId} {c : ClassDef} {p : String × Descriptor} {name space : String}
      (hd : .cls id ∈ model.declaredTypes) (hc : m.classes[id]? = some c) (hp : p ∈ c.properties)
      (hover : ArrayOver (.primitive name (some space)) p.2) (hspace : space ≠ "") :
      ProxyImport m model space

variable {classes : ClassTable} {visibility : String} {existing : List String} {t : Task}
  {rest more : List Task} {r r' : Registry} {ns : String}

/-- What is declared or reserved stays so. -/
lemma Sound.entries_subset (h : Sound classes visibility existing (t :: rest) r)
    (he : Effect classes visibility t r more r') : entries r ⊆ entries r' := by
  intro p hp
  have hknown : known? r p.1 = some p.2 := (known?_eq_some_iff h.distinct).mpr hp
  have hcontains : r.contains p.1 = true := (contains_iff r p.1).mpr (.inr (by simp [hknown]))
  exact mem_entries_of_known? ((h.known?_eq he hcontains).trans hknown)

/-- A namespace is asked for by a property of a class that is declared or reserved. -/
def HeldByClass (classes : ClassTable) (r : Registry) (ns : String) : Prop :=
  ∃ name id c, (name, .cls id) ∈ entries r ∧ classes[id]? = some c ∧
    ∃ p ∈ c.properties, ns ∈ importsOf p.2

/-- Whatever is provided was asked for at the start or is held by a class. -/
def Justified (classes : ClassTable) (start agenda : List Task) (r : Registry) : Prop :=
  ∀ ns, Provided agenda r ns → ns ∈ start.flatMap taskImports ∨ HeldByClass classes r ns

theorem Justified.step {start : List Task} (hj : Justified classes start (t :: rest) r)
    (h : Sound classes visibility existing (t :: rest) r)
    (he : Effect classes visibility t r more r') : Justified classes start (more ++ rest) r' := by
  intro ns hprovided
  rcases he.provided_iff.mp hprovided with hprovided | ⟨id, c, rfl, hc, hr, hmember⟩
  · refine (hj ns hprovided).imp_right ?_
    rintro ⟨name, id, c, hentry, hc, hmember⟩
    exact ⟨name, id, c, h.entries_subset he hentry, hc, hmember⟩
  · cases he with
    | knownClass hc' hr' =>
      obtain rfl := Option.some.inj (hc.symm.trans hc')
      rw [hr] at hr'
      cases hr'
    | newClass hc' hr' =>
      obtain rfl := Option.some.inj (hc.symm.trans hc')
      exact .inr ⟨c.name, id, c, List.mem_cons_self, hc, hmember⟩

section AtEnd

variable {options : BuildOptions} {m : Metadata} {operations : List Operation}

lemma Ended.justified (h : Ended options m existing operations r) :
    Justified m.classes (buildTasks options operations) [] r := by
  have hrun := h.steps.preserve
    (I := fun agenda r => Sound m.classes "public" existing agenda r ∧
      Justified m.classes (buildTasks options operations) agenda r)
    (fun he hi => ⟨hi.1.step he, hi.2.step hi.1 he⟩) ?_
  · exact hrun.2
  · refine ⟨(ordered_build options existing h.built).sound, fun ns hprovided => .inl ?_⟩
    exact hprovided.resolve_left List.not_mem_nil

lemma mem_callerParameters {parameters : List (String × Descriptor)} {p : String × Descriptor} :
    p ∈ callerParameters parameters ↔ p ∈ parameters ∧ p.2 ≠ connectionContext := by
  simp [callerParameters]

theorem Ended.mem_imports_iff_proxyImport (h : Ended options m existing operations r)
    (space className : String) :
    ns ∈ r.imports ↔ ProxyImport m (modelOf options m space className operations r) ns := by
  constructor
  · intro hns
    rcases h.justified ns (.inl hns) with hstart | ⟨name, id, c, hentry, hc, p, hp, hmember⟩
    · rcases mem_imports_buildTasks.mp hstart with
        rfl | ⟨o, ho, ⟨p, hp, hmember⟩ | ⟨hd, rfl⟩ | ⟨hd, rfl⟩⟩
      · exact .connection
      · obtain ⟨hmem, hcontext⟩ := mem_callerParameters.mp hp
        obtain ⟨hspace, name, hover⟩ := mem_importsOf_iff.mp hmember
        exact .parameter ho hmem hcontext hover hspace
      · exact .received ho hd
      · exact .invoked ho hd
    · rw [h.ordered.entries_eq] at hentry
      obtain ⟨hspace, inner, hover⟩ := mem_importsOf_iff.mp hmember
      exact .property (List.mem_map_of_mem hentry) hc hp hover hspace
  · intro himport
    cases himport with
    | connection => exact h.mem_imports_of_task (mem_imports_buildTasks.mpr (.inl rfl))
    | received ho hd =>
      exact h.mem_imports_of_task (mem_imports_buildTasks.mpr (.inr ⟨_, ho, .inr (.inl ⟨hd, rfl⟩)⟩))
    | invoked ho hd =>
      exact h.mem_imports_of_task (mem_imports_buildTasks.mpr (.inr ⟨_, ho, .inr (.inr ⟨hd, rfl⟩)⟩))
    | @parameter o p name _ ho hp hcontext hover hspace =>
      have hmember : ns ∈ importsOf p.2 := mem_importsOf_iff.mpr ⟨hspace, name, hover⟩
      have hcaller := mem_callerParameters.mpr ⟨hp, hcontext⟩
      exact h.mem_imports_of_task (mem_imports_buildTasks.mpr (.inr ⟨o, ho, .inl ⟨p, hcaller, hmember⟩⟩))
    | @property id c p name _ hd hc hp hover hspace =>
      obtain ⟨⟨known, d⟩, hentry, rfl⟩ := List.mem_map.mp hd
      have hmember : ns ∈ importsOf p.2 := mem_importsOf_iff.mpr ⟨hspace, name, hover⟩
      have hprovided := h.membersProvided known id c (List.mem_append_right _ hentry) hc p hp ns hmember
      exact hprovided.resolve_right List.not_mem_nil

lemma Effect.nodup_imports (he : Effect classes visibility t r more r') (h : r.imports.Nodup) :
    r'.imports.Nodup := by
  cases he with
  | primitive name space =>
    rw [imports_importing]
    exact nodup_addAll h _
  | require space =>
    rw [imports_importing]
    exact nodup_addAll h _
  | _ => exact h

lemma Ended.nodup_imports (h : Ended options m existing operations r) : r.imports.Nodup :=
  h.steps.preserve (I := fun _ r => r.imports.Nodup) (fun he hi => he.nodup_imports hi)
    List.nodup_nil

lemma visibilityOf_declarationOf? {d : Descriptor} {declaration : TypeDeclaration}
    (h : declarationOf? classes visibility d = some declaration) :
    visibilityOf declaration = "public" := by
  cases d with
  | enum name members =>
    obtain rfl := Option.some.inj h
    rfl
  | cls id =>
    obtain ⟨c, -, rfl⟩ := Option.map_eq_some_iff.mp h
    rfl
  | _ => cases h

lemma Ended.visibilityOf_declarations (h : Ended options m existing operations r) :
    ∀ declaration ∈ r.declarations, visibilityOf declaration = "public" := by
  intro declaration hmem
  rw [h.ordered.sound.declarations_eq, List.mem_filterMap] at hmem
  obtain ⟨p, -, hp⟩ := hmem
  exact visibilityOf_declarationOf? hp

end AtEnd

/-- A contract with an operation of the hub that is passed over and a class that may exist already,
both of which mention namespaces of their own. -/
def plottedContract : Metadata where
  source := "plot"
  types := [
    ⟨"Hub", .hub, [
      ⟨"plot", .serverReceived, [("who", connectionContext), ("curve", .cls 0)], true, none⟩,
      ⟨"skipped", .clientInvoked, [("file", .primitive "Path" (some "Files"))], true, none⟩]⟩,
    ⟨"Api", .clientApi, []⟩]
  classes := #[
    ⟨"Curve", [("points", .array (.array (.primitive "Point" (some "Geometry")))),
      ("owner", .cls 1)], false⟩,
    ⟨"Owner", [("id", .primitive "Key" (some "Keys"))], false⟩]

end HubProxy.Proofs
