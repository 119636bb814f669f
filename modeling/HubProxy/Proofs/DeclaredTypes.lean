import HubProxy.Proofs.NeededTypes

/-!
# A build declares what is needed

The declared types are the needed types that can be declared and whose names do not exist, each
once, and every class and enumeration among them has its declaration.
-/

namespace HubProxy.Proofs

def isArray : Descriptor → Bool
  | .array _ => true
  | _ => false

/-- A declaration is that of a type. That of a class has a property for each property of the class,
of the type to which `reference` refers. -/
inductive Declares (classes : ClassTable) : Descriptor → TypeDeclaration → Prop
  | enum (name : String) (members : List String) (visibility : String) :
      Declares classes (.enum name members) (.enum ⟨name, members, visibility⟩)
  | cls {id : ClassId} {c : ClassDef} {declaration : ClassDeclaration}
      (hc : classes[id]? = some c) (hname : declaration.name = c.name)
      (hkind : declaration.isInterface = c.isInterface)
      (hproperties : List.Forall₂ (fun p q => q.name = Text.firstUpper p.1 ∧
        q.type = reference classes p.2 ∧ q.field.type = reference classes p.2)
        c.properties declaration.properties) :
      Declares classes (.cls id) (.cls declaration)

lemma declares_classDeclaration {classes : ClassTable} (visibility : String) {id : ClassId}
    {c : ClassDef} (hc : classes[id]? = some c) :
    Declares classes (.cls id) (.cls (classDeclaration classes visibility c)) := by
  refine .cls hc rfl rfl ?_
  simp only [classDeclaration, List.forall₂_map_right_iff]
  exact List.forall₂_same.mpr fun p _ => ⟨rfl, rfl, rfl⟩

lemma declares_declarationOf? {classes : ClassTable} (visibility : String) {l : List Descriptor}
    (h : ∀ d ∈ l, Declarable d ∧ ∃ name, d.name? classes = some name) :
    List.Forall₂ (Declares classes) (l.filter fun d => !isArray d)
      (l.filterMap (declarationOf? classes visibility)) := by
  induction l with
  | nil => exact .nil
  | cons d l ih =>
    have htail := ih fun d' hd' => h d' (List.mem_cons_of_mem d hd')
    obtain ⟨hd, name, hn⟩ := h d List.mem_cons_self
    cases d with
    | array element =>
      rw [List.filter_cons_of_neg (by simp [isArray]), List.filterMap_cons_none rfl]
      exact htail
    | enum name members =>
      have hdecl : declarationOf? classes visibility (.enum name members) =
          some (.enum ⟨name, members, "public"⟩) := rfl
      rw [List.filter_cons_of_pos rfl, List.filterMap_cons_some hdecl]
      exact .cons (.enum name members "public") htail
    | cls id =>
      obtain ⟨c, hc, rfl⟩ := Option.map_eq_some_iff.mp hn
      have hdecl : declarationOf? classes visibility (.cls id) =
          some (.cls (classDeclaration classes visibility c)) := by simp [declarationOf?, hc]
      rw [List.filter_cons_of_pos rfl, List.filterMap_cons_some hdecl]
      exact .cons (declares_classDeclaration visibility hc) htail
    | primitive | generic | unknown => exact hd.elim

/-- A build that succeeds has a run that ends, of which the model is made. -/
lemma ended_of_build {options : BuildOptions} {m : Metadata} {ns className : String}
    {existing : List String} {model : ApiModel}
    (h : (build options m ns className existing).1 = .ok model) :
    ∃ operations r, Ended options m existing operations r ∧
      model = modelOf options m ns className operations r := by
  cases hm : builtOperations? m with
  | none =>
    obtain ⟨cause, -, hc⟩ := build_eq_error options m ns className existing hm
    cases hc.symm.trans h
  | some operations =>
    have hout := build_outcome options m ns className existing hm
    rw [h] at hout
    obtain ⟨r, hs, hmodel⟩ := hout
    exact ⟨operations, r, ⟨hm, hs⟩, hmodel⟩

lemma Ended.nodup_declaredTypes {options : BuildOptions} {m : Metadata} {existing : List String}
    {operations : List Operation} {r : Registry} (h : Ended options m existing operations r) :
    r.declaredTypes.Nodup := by
  have hord := h.ordered
  have hnames : r.declaredTypes.map (·.name? m.classes) = (r.declared.map (·.1)).map some := by
    rw [Registry.declaredTypes, List.map_map, List.map_map]
    exact List.map_congr_left hord.sound.named
  have hdistinct : (r.declared.map (·.1)).Nodup := hord.entries_eq ▸ hord.sound.distinct
  apply List.Nodup.of_map (·.name? m.classes)
  rw [hnames]
  exact hdistinct.map fun _ _ => Option.some.inj

/-- Exactly the needed types are declared, each once. -/
theorem declaredTypes_of_build {options : BuildOptions} {m : Metadata} {ns className : String}
    {existing : List String} {model : ApiModel} (hu : SingleNames m)
    (h : (build options m ns className existing).1 = .ok model) :
    model.declaredTypes.Nodup ∧
      (∀ d, d ∈ model.declaredTypes ↔ Needed m existing d ∧ Declarable d ∧
        ∀ name, d.name? m.classes = some name → name ∉ existing) ∧
      List.Forall₂ (Declares m.classes) (model.declaredTypes.filter fun d => !isArray d)
        model.declarations := by
  obtain ⟨operations, r, hend, rfl⟩ := ended_of_build h
  have hord := hend.ordered
  have hentry : ∀ p ∈ r.declared, Needed m existing p.2 ∧ Declarable p.2 ∧ p.1 ∉ existing ∧
      p.2.name? m.classes = some p.1 := by
    intro p hp
    have hp' : p ∈ entries r := List.mem_append_right _ hp
    obtain ⟨hmet, hdecl⟩ := hord.within.entries p hp'
    exact ⟨hmet.needed hdecl, hdecl, hord.sound.fresh p hp', hord.sound.named p hp⟩
  refine ⟨hend.nodup_declaredTypes, fun d => ⟨fun hd => ?_, fun ⟨hd, hdecl, hfresh⟩ => ?_⟩, ?_⟩
  · obtain ⟨p, hp, rfl⟩ := List.mem_map.mp hd
    obtain ⟨hneeded, hdecl, hfresh, hn⟩ := hentry p hp
    refine ⟨hneeded, hdecl, fun name hname => ?_⟩
    obtain rfl := Option.some.inj (hn.symm.trans hname)
    exact hfresh
  · obtain ⟨name, hn⟩ := (hend.handled hu hd).named
    have hmem := hend.mem_declared hu hd hdecl hn (hfresh name hn)
    exact List.mem_map_of_mem (f := (·.2)) hmem
  · have hdecls : r.declarations =
        r.declaredTypes.filterMap (declarationOf? m.classes "public") := by
      rw [hord.sound.declarations_eq, Registry.declaredTypes, List.filterMap_map]
      rfl
    have hall : ∀ d ∈ r.declaredTypes, Declarable d ∧ ∃ name, d.name? m.classes = some name := by
      intro d hd
      obtain ⟨p, hp, rfl⟩ := List.mem_map.mp hd
      obtain ⟨-, hdecl, -, hn⟩ := hentry p hp
      exact ⟨hdecl, p.1, hn⟩
    rw [modelOf, hdecls]
    exact declares_declarationOf? "public" hall

/-- An existing class is not entered, and an existing array is left out while its element is not. -/
theorem declaredTypes_loopedContract :
    SingleNames loopedContract ∧ ∃ model,
      (build {} loopedContract "Games" "Proxy" ["Seen", "Node[]"]).1 = .ok model ∧
      model.declaredTypes = [.enum "Color" ["Red"], .array (.cls 1), .cls 0,
        .array (.array (.cls 0))] ∧
      ∀ d, d ∈ model.declaredTypes ↔ Needed loopedContract ["Seen", "Node[]"] d ∧ Declarable d ∧
        ∀ name, d.name? loopedContract.classes = some name → name ∉ ["Seen", "Node[]"] := by
  have hbuild : ∃ model, (build {} loopedContract "Games" "Proxy" ["Seen", "Node[]"]).1 = .ok model ∧
      model.declaredTypes = [.enum "Color" ["Red"], .array (.cls 1), .cls 0,
        .array (.array (.cls 0))] := ⟨_, rfl, rfl⟩
  obtain ⟨model, hmodel, htypes⟩ := hbuild
  have hdeclared := declaredTypes_of_build singleNames_loopedContract hmodel
  exact ⟨singleNames_loopedContract, model, hmodel, htypes, hdeclared.2.1⟩

end HubProxy.Proofs
