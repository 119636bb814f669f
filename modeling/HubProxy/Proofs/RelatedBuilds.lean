import HubProxy.Proofs.BuildSuccess
import HubProxy.Proofs.GroundedReferences
import HubProxy.Proofs.NeededImports

/-!
# Builds that need less

Two builds go through different registries, yet what they declare and import depends only on what
they need. So a build that needs less than another one declares and imports less, and gives every
type the same declaration. Existing types reduce what is needed: they leave out declarations and
change nothing else.
-/

namespace HubProxy.Proofs

/-- A second contract with its existing types needs no more than a first one. -/
structure NeedsLess (m : Metadata) (existing : List String) (m' : Metadata)
    (existing' : List String) : Prop where
  classes_eq : m'.classes = m.classes
  existing_subset : existing ⊆ existing'
  needed : ∀ d, Needed m' existing' d → Needed m existing d
  imported : ∀ ns, Imported m' existing' ns → Imported m existing ns

lemma Imported.mono {m : Metadata} {existing existing' : List String} (hsub : existing ⊆ existing')
    {ns : String} (h : Imported m existing' ns) : Imported m existing ns := by
  cases h with
  | connection => exact .connection
  | received hm ho hd => exact .received hm ho hd
  | invoked hm ho hd => exact .invoked hm ho hd
  | primitive hd hns => exact .primitive (hd.mono hsub) hns

lemma needsLess_of_subset (m : Metadata) {existing existing' : List String}
    (hsub : existing ⊆ existing') : NeedsLess m existing m existing' where
  classes_eq := rfl
  existing_subset := hsub
  needed _ hd := hd.mono hsub
  imported _ h := h.mono hsub

section TwoRuns

variable {options : BuildOptions} {m m' : Metadata} {existing existing' : List String}
  {operations operations' : List Operation} {r r' : Registry}

lemma NeedsLess.declared_subset (hl : NeedsLess m existing m' existing') (hu : SingleNames m)
    (h : Ended options m existing operations r) (h' : Ended options m' existing' operations' r') :
    r'.declared ⊆ r.declared := by
  rintro ⟨name, d⟩ hp
  obtain ⟨hneeded, hdecl, hn, hname⟩ := h'.of_mem_declared hp
  rw [hl.classes_eq] at hn
  exact h.mem_declared hu (hl.needed d hneeded) hdecl hn fun hex => hname (hl.existing_subset hex)

lemma NeedsLess.declaredTypes_subset (hl : NeedsLess m existing m' existing') (hu : SingleNames m)
    (h : Ended options m existing operations r) (h' : Ended options m' existing' operations' r') :
    r'.declaredTypes ⊆ r.declaredTypes :=
  List.map_subset _ (hl.declared_subset hu h h')

/-- A declaration of the second build is the only one of its name in the first build. -/
lemma NeedsLess.filter_declarations (hl : NeedsLess m existing m' existing') (hu : SingleNames m)
    (h : Ended options m existing operations r) (h' : Ended options m' existing' operations' r')
    {declaration : TypeDeclaration} (hd : declaration ∈ r'.declarations) :
    r.declarations.filter (·.name == declaration.name) = [declaration] := by
  rw [h'.ordered.sound.declarations_eq, List.mem_filterMap, hl.classes_eq] at hd
  obtain ⟨⟨name, d⟩, hp, hd⟩ := hd
  have hmem : (name, d) ∈ r.declared := hl.declared_subset hu h h' hp
  have hn : d.name? m.classes = some name := h.ordered.sound.named _ hmem
  obtain rfl := Option.some.inj (hn.symm.trans (name_of_declarationOf? hd))
  have hdistinct : (r.declared.map (·.1)).Nodup := h.ordered.entries_eq ▸ h.ordered.sound.distinct
  rw [h.ordered.sound.declarations_eq]
  exact HubProxy.Proofs.filter_declarations hdistinct h.ordered.sound.named hmem hd

lemma NeedsLess.declarations_subset (hl : NeedsLess m existing m' existing') (hu : SingleNames m)
    (h : Ended options m existing operations r) (h' : Ended options m' existing' operations' r') :
    r'.declarations ⊆ r.declarations := by
  intro declaration hd
  have hmem : declaration ∈ r.declarations.filter (·.name == declaration.name) :=
    hl.filter_declarations hu h h' hd ▸ List.mem_singleton_self declaration
  exact (List.mem_filter.mp hmem).1

lemma NeedsLess.imports_subset (hl : NeedsLess m existing m' existing') (hu : OwnNames m)
    (h : Ended options m existing operations r) (h' : Ended options m' existing' operations' r') :
    r'.imports ⊆ r.imports :=
  fun ns hns => (h.mem_imports_iff hu).mpr (hl.imported ns (h'.imported hns))

end TwoRuns

/-- Where more types exist, a build still succeeds. It makes the same proxy, leaves declarations out,
also those of existing types, and imports no more. -/
theorem build_of_existing_subset {options : BuildOptions} {m : Metadata} {ns className : String}
    {existing existing' : List String} {model : ApiModel} (hu : SingleNames m)
    (hsub : existing ⊆ existing')
    (h : (build options m ns className existing).1 = .ok model) :
    ∃ model', (build options m ns className existing').1 = .ok model' ∧
      model'.connectionProperty = model.connectionProperty ∧
      model'.proxy.properties = model.proxy.properties ∧ model'.methods = model.methods ∧
      (∀ d ∈ model'.declaredTypes, d ∈ model.declaredTypes ∧
        ∃ name, d.name? m.classes = some name ∧ name ∉ existing') ∧
      (∀ declaration ∈ model'.declarations,
        model.declarations.filter (·.name == declaration.name) = [declaration]) ∧
      model'.imports ⊆ model.imports := by
  obtain ⟨hub, api, hbuildable⟩ := (build_succeeds_iff options ns className existing hu).mp ⟨model, h⟩
  obtain ⟨model', h'⟩ := (hbuildable.mono hsub).build_succeeds hu.ownNames ns className
  obtain ⟨operations, r, hend, rfl⟩ := ended_of_build h
  obtain ⟨operations', r', hend', rfl⟩ := ended_of_build h'
  obtain rfl : operations = operations' := Option.some.inj (hend.built.symm.trans hend'.built)
  have hl := needsLess_of_subset m hsub
  refine ⟨_, h', rfl, rfl, rfl, fun d hd => ⟨hl.declaredTypes_subset hu hend hend' hd, ?_⟩,
    fun declaration hd => hl.filter_declarations hu hend hend' hd,
    hl.imports_subset hu.ownNames hend hend'⟩
  obtain ⟨⟨name, d⟩, hp, rfl⟩ := List.mem_map.mp hd
  obtain ⟨-, -, hn, hname⟩ := hend'.of_mem_declared hp
  exact ⟨name, hn, hname⟩

/-- Where a class exists, also what only its properties lead to is left out. -/
theorem build_existing_loopedContract :
    SingleNames loopedContract ∧ ["Seen"] ⊆ ["Node", "Seen"] ∧
      ∃ model, (build {} loopedContract "Games" "Proxy" ["Seen"]).1 = .ok model ∧
        model.declarations.map (·.name) = ["Color", "Node"] ∧
      ∃ model', (build {} loopedContract "Games" "Proxy" ["Node", "Seen"]).1 = .ok model' ∧
        model'.methods = model.methods ∧ model'.declaredTypes ⊆ model.declaredTypes ∧
        model'.declarations = [] := by
  have hsub : ["Seen"] ⊆ ["Node", "Seen"] := by simp
  have hbuild : ∃ model, (build {} loopedContract "Games" "Proxy" ["Seen"]).1 = .ok model ∧
      model.declarations.map (·.name) = ["Color", "Node"] := ⟨_, rfl, rfl⟩
  have hmore : ∀ model', (build {} loopedContract "Games" "Proxy" ["Node", "Seen"]).1 = .ok model' →
      model'.declarations = [] := by
    intro model' hmodel'
    obtain rfl := Except.ok.inj (Eq.symm hmodel')
    rfl
  obtain ⟨model, hmodel, hnames⟩ := hbuild
  obtain ⟨model', hmodel', -, -, hmethods, htypes, -⟩ :=
    build_of_existing_subset singleNames_loopedContract hsub hmodel
  exact ⟨singleNames_loopedContract, hsub, model, hmodel, hnames, model', hmodel', hmethods,
    fun d hd => (htypes d hd).1, hmore model' hmodel'⟩

end HubProxy.Proofs
