import HubProxy.Proofs.BuiltSource
import HubProxy.Proofs.ScanInversion
import HubProxy.Proofs.ScannedBlocks

/-!
# What the scanner finds in a build

Where the names in a contract are words, the scanner finds in the source of a build every type that it
declares and every array that it mentions. So each needed type is one that existed before or one that
is found. Types and members may be named by words of the language; the scanner may then find more.
-/

namespace HubProxy.Proofs

open CSharp

/-- The names in a contract are words, and those of its types start as the scanner expects. -/
structure WordNamed (m : Metadata) : Prop where
  operations : ∀ t ∈ m.types, ∀ o ∈ t.operations, IsWord o.name ∧ ∀ p ∈ o.parameters, IsWord p.1
  enums : ∀ name members, Mentioned m (.enum name members) →
    IsIdentifier name ∧ ∀ member ∈ members, IsWord member
  classes : ∀ c ∈ m.classes, IsIdentifier c.name ∧ ∀ p ∈ c.properties, IsWord p.1

section Names

lemma IsWord.looseName {s : String} (h : IsWord s) : LooseName s :=
  looseName_of_isWord h.1 h.2

lemma calm_of_loose {c : Char} (h : Loose c) : Calm c := by
  rcases h with hword | ⟨-, hmarks⟩
  · exact calm_of_isWord hword
  · refine ⟨fun h => hmarks (List.mem_append_left _ h), ?_, ?_⟩
    · exact ne_of_not_mem_reservedMarks hmarks (by decide)
    · exact ne_of_not_mem_reservedMarks hmarks (by decide)

lemma LooseName.calmText {s : String} (h : LooseName s) : CalmText s :=
  fun c hc => calm_of_loose (h.chars c hc)

lemma IsWord.calmText {s : String} (h : IsWord s) : CalmText s :=
  h.looseName.calmText

lemma wordReference_named {name : String} (h : IsIdentifier name) :
    WordReference (.named name) :=
  ⟨name, 0, rfl, h⟩

end Names

section Members

variable {classes : ClassTable} {options : MethodOptions} {connection : String} {o : Operation}

lemma wordProperty_memberDeclaration {visibility : String} {p : String × Descriptor}
    (hname : LooseName p.1) (hvisibility : CalmText visibility)
    (htype : WordReference (reference classes p.2)) :
    WordProperty (memberDeclaration classes visibility p) where
  type := htype
  name := hname.firstUpper.calmText
  visibility := hvisibility
  fieldType := htype
  fieldName := hname.field.calmText
  fieldVisibility := by
    have hprivate : CalmText "private" := by decide
    exact hprivate

lemma wordMethod_serverMethod {parameters : List Parameter} (hvisibility : CalmText options.visibility)
    (hconnection : CalmText connection) (hname : IsWord o.name)
    (hparameters : ∀ p ∈ parameters, WordReference p.type ∧ IsWord p.name) :
    WordMethod (serverMethod options connection o parameters) := by
  have hinvoke : CalmText "InvokeAsync" := by decide
  refine ⟨hname.calmText, hvisibility, wordReference_named (by decide), ?_, ?_⟩
  · exact fun p hp => ⟨.inl (hparameters p hp).1, (hparameters p hp).2.calmText⟩
  · intro statement hs
    obtain rfl := List.mem_singleton.mp hs
    refine ⟨hconnection, hinvoke, ?_, by simp⟩
    intro e he
    rcases List.mem_cons.mp he with rfl | he
    · exact hname.2
    · obtain ⟨p, hp, rfl⟩ := List.mem_map.mp he
      exact (hparameters p hp).2.calmText

lemma wordMethod_clientMethod {parameters : List Parameter} (hvisibility : CalmText options.visibility)
    (hconnection : CalmText connection) (hname : IsWord o.name)
    (hsuffix : CalmText options.clientSuffix) (hparameters : ∀ p ∈ parameters, WordReference p.type) :
    WordMethod (clientMethod options connection o parameters) := by
  have hwords : CalmText "On" ∧ CalmText "Action" ∧ CalmText "handler" := by decide
  obtain ⟨hon, haction, hhandler⟩ := hwords
  have htypes : ∀ type ∈ parameters.map (·.type), WordReference type := by
    intro type ht
    obtain ⟨p, hp, rfl⟩ := List.mem_map.mp ht
    exact hparameters p hp
  refine ⟨hname.looseName.firstUpper.calmText.append hsuffix, hvisibility,
    wordReference_named (by decide), ?_, ?_⟩
  · intro p hp
    obtain rfl := List.mem_singleton.mp hp
    exact ⟨.inr ⟨"Action", _, rfl, haction, htypes⟩, hhandler⟩
  · intro statement hs
    obtain rfl := List.mem_singleton.mp hs
    refine ⟨hconnection, hon, ?_, htypes⟩
    intro e he
    simp only [List.mem_cons, List.not_mem_nil, or_false] at he
    rcases he with rfl | rfl
    · exact hname.2
    · exact hhandler

lemma wordMethod_methodOf (hvisibility : CalmText options.visibility)
    (hconnection : CalmText connection) (hname : IsWord o.name)
    (hsuffix : CalmText options.clientSuffix)
    (hparameters : ∀ p ∈ callerParameters o.parameters,
      IsWord p.1 ∧ WordReference (reference classes p.2)) :
    WordMethod (methodOf classes options connection o) := by
  have hall : ∀ p ∈ parametersOf classes o, WordReference p.type ∧ IsWord p.name := by
    intro p hp
    obtain ⟨q, hq, rfl⟩ := List.mem_map.mp hp
    exact ⟨(hparameters q hq).2, (hparameters q hq).1⟩
  cases hd : o.direction with
  | serverReceived =>
    rw [methodOf, hd]
    exact wordMethod_serverMethod hvisibility hconnection hname hall
  | clientInvoked =>
    rw [methodOf, hd]
    exact wordMethod_clientMethod hvisibility hconnection hname hsuffix fun p hp => (hall p hp).1

end Members

section Model

variable {m : Metadata} {existing : List String} {operations : List Operation} {r : Registry}

lemma WordNamed.isIdentifier (hn : WordNamed m) {d : Descriptor} {name : String}
    (hd : Mentioned m d) (huser : UserType d) (hname : d.name? m.classes = some name) :
    IsIdentifier name := by
  cases d with
  | enum enumName members =>
    obtain rfl := Option.some.inj hname
    exact (hn.enums enumName members hd).1
  | cls id =>
    obtain ⟨c, hc, rfl⟩ := Option.map_eq_some_iff.mp hname
    exact (hn.classes c (Array.mem_of_getElem? hc)).1
  | _ => exact huser.elim

lemma wordReference_reference (hk : KnownContract m) (hn : WordNamed m) {d : Descriptor}
    (hd : Needed m existing d) (hh : Handled m.classes [] r d) :
    WordReference (reference m.classes d) :=
  exists_arrayReference
    (fun _ _ hp => (plain_of_knownPrimitives (hk.knownPrimitives hp)).1)
    (fun _ _ hd huser hname => hn.isIdentifier hd.mentioned huser hname) hd hh

lemma Ended.wordDeclaration {options : BuildOptions} (h : Ended options m existing operations r)
    (hk : KnownContract m) (hn : WordNamed m) {d : TypeDeclaration} (hd : d ∈ r.declarations) :
    WordDeclaration d := by
  have hpublic : CalmText "public" := by decide
  rcases h.declaration_cases hd with ⟨name, members, hneeded, -, rfl⟩ |
    ⟨id, c, hneeded, hc, hfresh, rfl, hhandled⟩
  · obtain ⟨hname, hmembers⟩ := hn.enums name members hneeded.mentioned
    exact ⟨hname.isWord.calmText, hpublic, fun member hm => (hmembers member hm).calmText⟩
  · obtain ⟨hname, hproperties⟩ := hn.classes c (Array.mem_of_getElem? hc)
    refine ⟨hname.isWord.calmText, hpublic, ?_, by simp [classDeclaration]⟩
    intro q hq
    obtain ⟨p, hp, rfl⟩ := List.mem_map.mp hq
    have htype := wordReference_reference hk hn (hneeded.member hc hfresh hp) (hhandled p hp)
    exact wordProperty_memberDeclaration (hproperties p hp).looseName hpublic htype

/-- Choices of the caller that keep to calm text. -/
structure CalmOptions (options : BuildOptions) : Prop where
  connection : LooseName options.connectionProperty
  visibility : CalmText options.visibility
  suffix : CalmText options.clientSuffix

lemma Ended.wordProxy {options : BuildOptions} (h : Ended options m existing operations r)
    (hk : KnownContract m) (hn : WordNamed m) (ho : CalmOptions options) {className : String}
    (hclass : CalmText className) (ns : String) :
    WordClass (modelOf options m ns className operations r).proxy := by
  have hpublic : CalmText "public" := by decide
  refine ⟨hclass, hpublic, ?_, ?_⟩
  · intro p hp
    obtain rfl := List.mem_singleton.mp hp
    have htype : WordReference (.named "HubConnection") := wordReference_named (by decide)
    exact wordProperty_memberDeclaration ho.connection ho.visibility htype
  · intro method hmethod
    obtain ⟨o, hmem, rfl⟩ := List.mem_map.mp hmethod
    obtain ⟨t, ht, hot⟩ := types_of_builtOperations? h.built hmem
    obtain ⟨hname, hparameters⟩ := hn.operations t ht o hot
    refine wordMethod_methodOf ho.visibility ho.connection.firstUpper.calmText hname ho.suffix ?_
    intro p hp
    have hneeded : Needed m existing p.2 := .parameter h.built hmem hp
    have htype := wordReference_reference hk hn hneeded (h.handled_parameter hmem hp)
    exact ⟨hparameters p (List.mem_filter.mp hp).1, htype⟩

variable {options : BuildOptions}

lemma Ended.exists_declaration (h : Ended options m existing operations r) {name : String}
    {d : Descriptor} (hd : (name, d) ∈ r.declared) (huser : UserType d) :
    ∃ declaration ∈ r.declarations, declarationOf? m.classes "public" d = some declaration ∧
      declaration.name = name ∧ ∃ opener ∈ declarationWords,
        declarationHeader declaration = "public " ++ opener ++ " " ++ declaration.name := by
  have hname := h.ordered.sound.named _ hd
  have hmem : ∀ declaration, declarationOf? m.classes "public" d = some declaration →
      declaration ∈ r.declarations := by
    intro declaration hdecl
    rw [h.ordered.sound.declarations_eq, List.mem_filterMap]
    exact ⟨_, hd, hdecl⟩
  cases d with
  | enum enumName members =>
    obtain rfl := Option.some.inj hname
    exact ⟨_, hmem _ rfl, rfl, rfl, "enum", by decide, rfl⟩
  | cls id =>
    obtain ⟨c, hc, rfl⟩ := Option.map_eq_some_iff.mp hname
    have hdecl : declarationOf? m.classes "public" (.cls id) =
        some (.cls (classDeclaration m.classes "public" c)) := by simp [declarationOf?, hc]
    refine ⟨_, hmem _ hdecl, hdecl, rfl, if c.isInterface then "interface" else "class", ?_, ?_⟩
    · cases c.isInterface <;> decide
    · have hspace : "public" ++ " " = "public " := rfl
      simp only [declarationHeader, classHeader, classDeclaration, TypeDeclaration.name,
        Bool.false_eq_true, if_false, hspace]
      rfl
  | _ => exact huser.elim

lemma mem_parameterTypes {classes : ClassTable} {methods : MethodOptions} {connection : String}
    {o : Operation} {p : String × Descriptor} (hp : p ∈ callerParameters o.parameters) :
    reference classes p.2 ∈ parameterTypes (methodOf classes methods connection o) := by
  cases hd : o.direction with
  | serverReceived =>
    simp only [methodOf, hd, serverMethod, parameterTypes, parametersOf, List.flatMap_map,
      List.mem_flatMap]
    exact ⟨p, hp, List.mem_cons_self⟩
  | clientInvoked =>
    simp only [methodOf, hd, clientMethod, parameterTypes, parametersOf, List.flatMap_cons,
      List.flatMap_nil, List.append_nil, List.map_map]
    exact List.mem_cons_of_mem _ (List.mem_map_of_mem (f := fun p => reference classes p.2) hp)

/-- What holds of the reference to a needed type, and of arrays over what it holds of, holds of the type
of some parameter or of some property of a declared class. -/
lemma Ended.exists_use (h : Ended options m existing operations r) (hu : OwnNames m)
    {P : TypeReference → Prop} (harray : ∀ type, P type → P (.arrayOf type)) {d : Descriptor}
    (hd : Needed m existing d) (hP : P (reference m.classes d)) :
    (∃ o ∈ operations, ∃ p ∈ callerParameters o.parameters, P (reference m.classes p.2)) ∨
      ∃ c, .cls (classDeclaration m.classes "public" c) ∈ r.declarations ∧
        ∃ p ∈ c.properties, P (reference m.classes p.2) := by
  induction hd with
  | @parameter _ o p hm ho hp =>
    obtain rfl := Option.some.inj (h.built.symm.trans hm)
    exact .inl ⟨o, ho, p, hp, hP⟩
  | element _ ih => exact ih (by rw [reference]; exact harray _ hP)
  | @member id c p hcls hc hname hp =>
    have hn : (Descriptor.cls id).name? m.classes = some c.name := by simp [Descriptor.name?, hc]
    have howns := hu (.cls id) c.name hcls.mentioned trivial hn
    have hdeclared := h.mem_declared_of_owns hu hcls trivial hn howns hname
    obtain ⟨declaration, hmem, hdecl, -⟩ := h.exists_declaration hdeclared trivial
    obtain rfl : .cls (classDeclaration m.classes "public" c) = declaration := by
      simpa [declarationOf?, hc] using hdecl
    exact .inr ⟨c, hmem, p, hp, hP⟩

/-- The arrays in the reference to a needed type are arrays of a type that the model mentions. -/
lemma Ended.exists_mentioned (h : Ended options m existing operations r) (hu : OwnNames m)
    (ns className : String) {d : Descriptor} (hd : Needed m existing d) {n : String}
    (hn : n ∈ arraysOf (reference m.classes d)) :
    ∃ type ∈ mentionedTypes (modelOf options m ns className operations r), n ∈ arraysOf type := by
  rcases h.exists_use hu (P := fun type => n ∈ arraysOf type)
    (fun _ hmem => List.mem_append_left _ hmem) hd hn with ⟨o, ho, p, hp, hmem⟩ | ⟨c, hc, p, hp, hmem⟩
  · refine ⟨_, List.mem_append_left _ ?_, hmem⟩
    exact List.mem_flatMap.mpr ⟨_, List.mem_map_of_mem ho, mem_parameterTypes hp⟩
  · refine ⟨_, List.mem_append_right _ (List.mem_flatMap.mpr ⟨_, hc, ?_⟩), hmem⟩
    simp only [propertyTypes, classDeclaration, List.map_map]
    exact List.mem_map_of_mem (f := fun p => reference m.classes p.2) hp

/-- Every needed type existed before, or the scanner finds its name in a block of the source. -/
theorem Ended.exists_block (h : Ended options m existing operations r) (hk : KnownContract m)
    (hu : OwnNames m) (hn : WordNamed m) (ho : CalmOptions options) {className : String}
    (hclass : CalmText className) (ns : String) {d : Descriptor} {name : String}
    (hd : Needed m existing d) (hdecl : Declarable d) (hname : d.name? m.classes = some name) :
    name ∈ existing ∨
      ∃ block ∈ .cls (modelOf options m ns className operations r).proxy :: r.declarations,
        name ∈ namesOf block := by
  have hproxy := h.wordProxy hk hn ho hclass ns
  have huser : UserType d → name ∈ existing ∨
      ∃ block ∈ .cls (modelOf options m ns className operations r).proxy :: r.declarations,
        name ∈ namesOf block := by
    intro huser
    by_cases hfresh : name ∈ existing
    · exact .inl hfresh
    · have howns := hu d name hd.mentioned huser hname
      have hdeclared := h.mem_declared_of_owns hu hd hdecl hname howns hfresh
      obtain ⟨block, hmem, -, rfl, opener, hopener, hheader⟩ := h.exists_declaration hdeclared huser
      have hfound := (h.wordDeclaration hk hn hmem).name_mem hopener hheader
        (hn.isIdentifier hd.mentioned huser hname)
      exact .inr ⟨block, List.mem_cons_of_mem _ hmem, hfound⟩
  cases d with
  | array element =>
    have hlast : name ∈ arraysOf (reference m.classes (.array element)) := by
      rw [← reference_name hname, reference, TypeReference.arrayOf, arraysOf]
      exact List.mem_append_right _ (List.mem_singleton_self _)
    have hmentioned := h.exists_mentioned hu ns className hd hlast
    refine .inr ?_
    rcases List.mem_append.mp ((h.mem_arrays name ns className).mpr hmentioned) with hin | hin
    · exact ⟨_, List.mem_cons_self, declarationArrays_subset (show WordDeclaration (.cls _) from hproxy) hin⟩
    · obtain ⟨block, hmem, hin⟩ := List.mem_flatMap.mp hin
      exact ⟨block, List.mem_cons_of_mem _ hmem,
        declarationArrays_subset (h.wordDeclaration hk hn hmem) hin⟩
  | enum | cls => exact huser trivial
  | primitive | generic | unknown => exact hdecl.elim

end Model

end HubProxy.Proofs
