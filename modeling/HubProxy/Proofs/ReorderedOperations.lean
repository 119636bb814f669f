import HubProxy.Proofs.RelatedBuilds

/-!
# The order of operations

Operations are built one after the other, each on the registry that those before it have left. The
order in which a hub and a client API list them is still only the order of the methods: what is
needed does not depend on it, so neither do the types and the imports.
-/

namespace HubProxy.Proofs

/-- A contract type with its operations in another order. -/
structure ReorderedType (t t' : ContractType) : Prop where
  name_eq : t'.name = t.name
  role_eq : t'.role = t.role
  operations : t'.operations.Perm t.operations

/-- A contract with the operations of its types in another order. -/
structure Reordered (m m' : Metadata) : Prop where
  source_eq : m'.source = m.source
  classes_eq : m'.classes = m.classes
  types : List.Forall₂ ReorderedType m.types m'.types

lemma ReorderedType.symm {t t' : ContractType} (h : ReorderedType t t') : ReorderedType t' t :=
  ⟨h.name_eq.symm, h.role_eq.symm, h.operations.symm⟩

section Contracts

variable {m m' : Metadata} {existing : List String} {operations : List Operation}

lemma Reordered.symm (h : Reordered m m') : Reordered m' m where
  source_eq := h.source_eq.symm
  classes_eq := h.classes_eq.symm
  types := List.Forall₂.flip (h.types.imp fun _ _ ht => ht.symm)

lemma exists_reorderedType {l l' : List ContractType} (h : List.Forall₂ ReorderedType l l')
    {t : ContractType} (ht : t ∈ l) : ∃ t' ∈ l', ReorderedType t t' := by
  induction h with
  | nil => exact absurd ht List.not_mem_nil
  | cons hhead _ ih =>
    rcases List.mem_cons.mp ht with rfl | ht
    · exact ⟨_, List.mem_cons_self, hhead⟩
    · obtain ⟨t', ht', hreordered⟩ := ih ht
      exact ⟨t', List.mem_cons_of_mem _ ht', hreordered⟩

lemma Reordered.ofRole (h : Reordered m m') (role : Role) :
    List.Forall₂ ReorderedType (m.ofRole role) (m'.ofRole role) :=
  List.rel_filter (fun _ _ ht => by simp only [ht.role_eq]) h.types

lemma Reordered.chosen (h : Reordered m m') {hub api : ContractType}
    (hhub : (m.ofRole .hub).head? = some hub) (hapi : m.ofRole .clientApi = [api]) :
    ∃ hub' api', (m'.ofRole .hub).head? = some hub' ∧ m'.ofRole .clientApi = [api'] ∧
      ReorderedType hub hub' ∧ ReorderedType api api' := by
  obtain ⟨others, hhub⟩ := List.head?_eq_some_iff.mp hhub
  have hhubs := h.ofRole .hub
  rw [hhub] at hhubs
  obtain ⟨hub', others', hreordered, -, hhub'⟩ := List.forall₂_cons_left_iff.mp hhubs
  have hapis := h.ofRole .clientApi
  rw [hapi] at hapis
  obtain ⟨api', rest, hreordered', hrest, hapi'⟩ := List.forall₂_cons_left_iff.mp hapis
  obtain rfl := List.forall₂_nil_left_iff.mp hrest
  exact ⟨hub', api', by simp [hhub'], hapi', hreordered, hreordered'⟩

lemma perm_operationsOf {hub hub' api api' : ContractType} (hhub : ReorderedType hub hub')
    (hapi : ReorderedType api api') : (operationsOf hub' api').Perm (operationsOf hub api) :=
  (hhub.operations.filter _).append hapi.operations

lemma Reordered.built (h : Reordered m m') (hm : builtOperations? m = some operations) :
    ∃ operations', builtOperations? m' = some operations' ∧ operations'.Perm operations := by
  obtain ⟨hub, api, hhub, hapi, rfl⟩ := builtOperations?_eq_some_iff.mp hm
  obtain ⟨hub', api', hhub', hapi', hh, ha⟩ := h.chosen hhub hapi
  exact ⟨operationsOf hub' api', builtOperations?_eq_some_iff.mpr ⟨hub', api', hhub', hapi', rfl⟩,
    perm_operationsOf hh ha⟩

lemma Mentioned.reordered (h : Reordered m m') {d : Descriptor} (hd : Mentioned m d) :
    Mentioned m' d := by
  induction hd with
  | parameter ht ho hp =>
    obtain ⟨t', ht', hreordered⟩ := exists_reorderedType h.types ht
    exact .parameter ht' (hreordered.operations.mem_iff.mpr ho) hp
  | element _ ih => exact ih.element
  | member _ hc hp ih => exact ih.member (h.classes_eq ▸ hc) hp

lemma SingleNames.reordered (hu : SingleNames m) (h : Reordered m m') : SingleNames m' := by
  intro d d' name hd hd' hdecl hdecl' hn hn'
  rw [h.classes_eq] at hn hn'
  exact hu d d' name (hd.reordered h.symm) (hd'.reordered h.symm) hdecl hdecl' hn hn'

lemma Needed.reordered (h : Reordered m m') {d : Descriptor} (hd : Needed m existing d) :
    Needed m' existing d := by
  induction hd with
  | parameter hm ho hp =>
    obtain ⟨operations', hm', hperm⟩ := h.built hm
    exact .parameter hm' (hperm.mem_iff.mpr ho) hp
  | element _ ih => exact ih.element
  | member _ hc hname hp ih => exact ih.member (h.classes_eq ▸ hc) hname hp

lemma Imported.reordered (h : Reordered m m') {ns : String} (hns : Imported m existing ns) :
    Imported m' existing ns := by
  cases hns with
  | connection => exact .connection
  | received hm ho hd =>
    obtain ⟨operations', hm', hperm⟩ := h.built hm
    exact .received hm' (hperm.mem_iff.mpr ho) hd
  | invoked hm ho hd =>
    obtain ⟨operations', hm', hperm⟩ := h.built hm
    exact .invoked hm' (hperm.mem_iff.mpr ho) hd
  | primitive hd hne => exact .primitive (hd.reordered h) hne

/-- Contracts that differ in the order of operations need the same. -/
lemma Reordered.needsLess (h : Reordered m m') (existing : List String) :
    NeedsLess m existing m' existing where
  classes_eq := h.classes_eq
  existing_subset := List.Subset.refl existing
  needed _ hd := hd.reordered h.symm
  imported _ hns := hns.reordered h.symm

lemma Buildable.reordered {options : BuildOptions} {hub api : ContractType}
    (hb : Buildable options m existing hub api) (h : Reordered m m') :
    ∃ hub' api', Buildable options m' existing hub' api' := by
  obtain ⟨hub', api', hhub', hapi', hh, ha⟩ := h.chosen hb.firstHub hb.onlyApi
  have hall : (hub'.operations ++ api'.operations).Perm (hub.operations ++ api.operations) :=
    hh.operations.append ha.operations
  refine ⟨hub', api', hb.connection, hhub', hapi', fun o ho => hb.received o (hall.mem_iff.mp ho),
    fun o ho => hb.invoked o (ha.operations.mem_iff.mp ho), fun d hd => ?_, fun id c hd hc => ?_⟩
  · rw [h.classes_eq]
    exact hb.expressible d (hd.reordered h.symm)
  · rw [h.classes_eq] at hc
    exact hb.membersNamed id c (hd.reordered h.symm) hc

end Contracts

/-- The models of two contracts differ only in the order of what they hold: the methods are in the
order of the operations. -/
structure SameUpToOrder (m m' : Metadata) (model model' : ApiModel) : Prop where
  connection : model'.connectionProperty = model.connectionProperty
  declaredTypes : model'.declaredTypes.Perm model.declaredTypes
  declarations : ∀ name, model'.declarations.filter (·.name == name) =
    model.declarations.filter (·.name == name)
  imports : ∀ ns, ns ∈ model'.imports ↔ ns ∈ model.imports
  built : builtOperations? m = some model.operations
  built' : builtOperations? m' = some model'.operations
  operations : model'.operations.Perm model.operations
  methods : ∃ method : Operation → MethodDeclaration,
    model.methods = model.operations.map method ∧ model'.methods = model'.operations.map method

section TwoRuns

variable {options : BuildOptions} {m m' : Metadata} {existing : List String}
  {operations operations' : List Operation} {r r' : Registry}

lemma Reordered.perm_declaredTypes (h : Reordered m m') (hu : SingleNames m)
    (hend : Ended options m existing operations r)
    (hend' : Ended options m' existing operations' r') :
    r'.declaredTypes.Perm r.declaredTypes := by
  refine (List.perm_ext_iff_of_nodup hend'.nodup_declaredTypes hend.nodup_declaredTypes).mpr ?_
  intro d
  exact ⟨fun hd => (h.needsLess existing).declaredTypes_subset hu hend hend' hd,
    fun hd => (h.symm.needsLess existing).declaredTypes_subset (hu.reordered h) hend' hend hd⟩

lemma Reordered.filter_declarations (h : Reordered m m') (hu : SingleNames m)
    (hend : Ended options m existing operations r)
    (hend' : Ended options m' existing operations' r') (name : String) :
    r'.declarations.filter (·.name == name) = r.declarations.filter (·.name == name) := by
  have hless := h.needsLess existing
  have hback := h.symm.needsLess existing
  have hu' := hu.reordered h
  -- One build declares what the other one does, and under one name just one thing.
  cases hl : r.declarations.filter (·.name == name) with
  | nil =>
    rw [List.filter_eq_nil_iff] at hl ⊢
    exact fun declaration hd => hl declaration (hless.declarations_subset hu hend hend' hd)
  | cons declaration others =>
    have hmem : declaration ∈ r.declarations.filter (·.name == name) := hl ▸ List.mem_cons_self
    obtain ⟨hd, hname⟩ := List.mem_filter.mp hmem
    obtain rfl := eq_of_beq hname
    rw [hback.filter_declarations hu' hend' hend hd, ← hl, hless.filter_declarations hu hend hend'
      (hback.declarations_subset hu' hend' hend hd)]

end TwoRuns

/-- A build does not depend on the order of the operations, apart from that of the methods. -/
theorem build_reordered {m m' : Metadata} (hu : SingleNames m) (h : Reordered m m')
    (options : BuildOptions) (ns className : String) (existing : List String) :
    ((∃ model, (build options m ns className existing).1 = .ok model) ↔
      ∃ model', (build options m' ns className existing).1 = .ok model') ∧
    ∀ model model', (build options m ns className existing).1 = .ok model →
      (build options m' ns className existing).1 = .ok model' → SameUpToOrder m m' model model' := by
  have hu' := hu.reordered h
  refine ⟨?_, fun model model' hmodel hmodel' => ?_⟩
  · rw [build_succeeds_iff options ns className existing hu,
      build_succeeds_iff options ns className existing hu']
    exact ⟨fun ⟨_, _, hb⟩ => hb.reordered h, fun ⟨_, _, hb⟩ => hb.reordered h.symm⟩
  · obtain ⟨operations, r, hend, rfl⟩ := ended_of_build hmodel
    obtain ⟨operations', r', hend', rfl⟩ := ended_of_build hmodel'
    obtain ⟨operations'', hbuilt, hperm⟩ := h.built hend.built
    obtain rfl := Option.some.inj (hend'.built.symm.trans hbuilt)
    have hless := h.needsLess existing
    have hback := h.symm.needsLess existing
    have hmethods : (modelOf options m' ns className operations' r').methods =
        operations'.map (methodOf m.classes options.forMethods (connectionOf m.classes options).name) :=
      h.classes_eq ▸ rfl
    exact {
      connection := rfl
      declaredTypes := h.perm_declaredTypes hu hend hend'
      declarations := h.filter_declarations hu hend hend'
      imports := fun ns => ⟨fun hns => hless.imports_subset hu.ownNames hend hend' hns,
        fun hns => hback.imports_subset hu'.ownNames hend' hend hns⟩
      built := hend.built
      built' := hend'.built
      operations := hperm
      methods := ⟨_, rfl, hmethods⟩ }

/-- A contract whose operations lead into a cycle of two classes. -/
def shopContract (hub api : List Operation) : Metadata where
  source := "shop"
  types := [⟨"Hub", .hub, hub⟩, ⟨"Api", .clientApi, api⟩]
  classes := #[
    ⟨"Order", [("lines", .array (.cls 1)), ("status", .enum "Status" ["Open"])], false⟩,
    ⟨"Line", [("order", .cls 0), ("id", .primitive "Guid" (some "System"))], false⟩]

def shopHub : List Operation :=
  [⟨"place", .serverReceived, [("order", .cls 0)], true, none⟩,
    ⟨"change", .serverReceived, [("line", .cls 1)], true, none⟩]

def shopApi : List Operation :=
  [⟨"placed", .clientInvoked, [("order", .cls 0)], true, none⟩,
    ⟨"removed", .clientInvoked, [("lines", .array (.cls 1))], true, none⟩]

lemma singleNames_shopContract : SingleNames (shopContract shopHub shopApi) :=
  singleNames_of_mem [.cls 0, .cls 1, .array (.cls 1), .enum "Status" ["Open"],
    .primitive "Guid" (some "System")] (by decide) (by decide) (by decide)

lemma reordered_shopContract {hub hub' api api' : List Operation} (hhub : hub'.Perm hub)
    (hapi : api'.Perm api) : Reordered (shopContract hub api) (shopContract hub' api') :=
  ⟨rfl, rfl, .cons ⟨rfl, rfl, hhub⟩ (.cons ⟨rfl, rfl, hapi⟩ .nil)⟩

/-- A cycle that is entered at another class is declared in another order. -/
theorem build_reordered_shopContract :
    SingleNames (shopContract shopHub shopApi) ∧
    Reordered (shopContract shopHub shopApi) (shopContract shopHub.reverse shopApi.reverse) ∧
    ∃ model model',
      (build {} (shopContract shopHub shopApi) "Shop" "Proxy" []).1 = .ok model ∧
      (build {} (shopContract shopHub.reverse shopApi.reverse) "Shop" "Proxy" []).1 = .ok model' ∧
      model.declaredTypes = [.cls 1, .array (.cls 1), .enum "Status" ["Open"], .cls 0] ∧
      model'.declaredTypes = [.array (.cls 1), .enum "Status" ["Open"], .cls 0, .cls 1] ∧
      SameUpToOrder (shopContract shopHub shopApi) (shopContract shopHub.reverse shopApi.reverse)
        model model' := by
  have hreordered : Reordered (shopContract shopHub shopApi)
      (shopContract shopHub.reverse shopApi.reverse) :=
    reordered_shopContract shopHub.reverse_perm shopApi.reverse_perm
  have hbuild : (build {} (shopContract shopHub shopApi) "Shop" "Proxy" []).1.toOption.map
      (·.declaredTypes) = some [.cls 1, .array (.cls 1), .enum "Status" ["Open"], .cls 0] := by
    decide +kernel
  have hbuild' : (build {} (shopContract shopHub.reverse shopApi.reverse) "Shop" "Proxy"
      []).1.toOption.map (·.declaredTypes) =
      some [.array (.cls 1), .enum "Status" ["Open"], .cls 0, .cls 1] := by
    decide +kernel
  obtain ⟨model, hmodel, htypes⟩ := Option.map_eq_some_iff.mp hbuild
  obtain ⟨model', hmodel', htypes'⟩ := Option.map_eq_some_iff.mp hbuild'
  have hok := eq_ok_of_toOption hmodel
  have hok' := eq_ok_of_toOption hmodel'
  have hsame := (build_reordered singleNames_shopContract hreordered {} "Shop" "Proxy" []).2
  exact ⟨singleNames_shopContract, hreordered, model, model', hok, hok', htypes, htypes',
    hsame model model' hok hok'⟩

end HubProxy.Proofs
