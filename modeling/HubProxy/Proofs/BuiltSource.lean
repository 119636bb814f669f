import HubProxy.Settings
import HubProxy.Proofs.BuildSuccess
import HubProxy.Proofs.CasedNames
import HubProxy.Proofs.ContractPrimitives
import HubProxy.Proofs.EmittedFile
import HubProxy.Proofs.NeededImports

/-!
# The source of a build can be read

A build takes its names from the contract, refers to types by these names and by those of primitives,
and imports a few namespaces. Where the names in the contract are identifiers and no type is named by
a word that the scanner looks for, every model that a build makes can be read.
-/

namespace HubProxy.Proofs

open CSharp

/-- The name of a type: neither a reserved word nor `record`, which is none but opens a declaration. -/
def IsTypeName (name : String) : Prop :=
  IsIdentifier name ∧ name ∉ keywords ∧ name ≠ "record"

instance : DecidablePred IsTypeName :=
  fun name => inferInstanceAs
    (Decidable (IsIdentifier name ∧ name ∉ keywords ∧ name ≠ "record"))

lemma IsTypeName.plain {name : String} (h : IsTypeName name) : Plain name := by
  obtain ⟨-, hkeyword, hrecord⟩ := h
  have hwords : ∀ w ∈ declarationWords, w ∈ keywords ∨ w = "record" := by decide
  constructor
  · intro hmem
    exact (hwords name hmem).elim hkeyword hrecord
  · rintro rfl
    exact hkeyword (by decide)

/-- The names of what a build meets are identifiers. What an existing type holds is not met. -/
structure WellNamed (m : Metadata) (existing : List String) : Prop where
  operations : ∀ operations, builtOperations? m = some operations → ∀ o ∈ operations,
    IsIdentifier o.name ∧ ∀ p ∈ callerParameters o.parameters, IsIdentifier p.1
  enums : ∀ name members, Needed m existing (.enum name members) →
    IsTypeName name ∧ (name ∉ existing → ∀ member ∈ members, IsIdentifier member)
  classes : ∀ id c, Needed m existing (.cls id) → m.classes[id]? = some c →
    IsTypeName c.name ∧ (c.name ∉ existing → ∀ p ∈ c.properties, IsIdentifier p.1)

lemma KnownContract.knownPrimitives {m : Metadata} (h : KnownContract m) {d : Descriptor}
    (hd : Mentioned m d) : KnownPrimitives d := by
  induction hd with
  | parameter ht ho hp => exact h.types _ ht _ ho _ hp
  | element _ ih => exact ih
  | member _ hc hp _ => exact h.classes _ (Array.mem_of_getElem? hc) _ hp

/-- The namespaces that a build may import. -/
def knownSpaces : List String :=
  ["System", "System.Threading.Tasks", "Microsoft.AspNetCore.SignalR",
    "Microsoft.AspNetCore.SignalR.Client"]

lemma importable_known : ∀ ns ∈ knownSpaces, Importable ns := by
  have hdotted : ∀ first words, IsIdentifier first → (∀ w ∈ words, IsIdentifier w) →
      Importable (first ++ dotText words) := fun _ _ => importable_dotted
  intro ns hns
  simp only [knownSpaces, List.mem_cons, List.not_mem_nil, or_false] at hns
  rcases hns with rfl | rfl | rfl | rfl
  · exact hdotted "System" [] (by decide) (by decide)
  · exact hdotted "System" ["Threading", "Tasks"] (by decide) (by decide)
  · exact hdotted "Microsoft" ["AspNetCore", "SignalR"] (by decide) (by decide)
  · exact hdotted "Microsoft" ["AspNetCore", "SignalR", "Client"] (by decide) (by decide)

/-- A primitive has a plain name. -/
lemma plain_of_knownPrimitives {name : String} {ns : Option String}
    (h : KnownPrimitives (.primitive name ns)) : IsIdentifier name ∧ Plain name := by
  have hkeyword : ∀ name ∈ keywordTypes, IsIdentifier name ∧ Plain name := by decide
  have hsystem : ∀ name ∈ systemTypes, IsIdentifier name ∧ Plain name := by decide
  have hcontext : IsIdentifier "IClientProxy" ∧ Plain "IClientProxy" := by decide
  rcases knownPrimitives_cases h with ⟨hword, -⟩ | ⟨hmem, -⟩ | ⟨rfl, -⟩
  · exact hkeyword name hword
  · exact hsystem name hmem
  · exact hcontext

/-- The reference to a needed type that has been resolved is an array over the name of a type. -/
lemma exists_arrayReference {m : Metadata} {existing : List String} {r : Registry}
    {P : String → Prop} (hprimitive : ∀ name ns, Mentioned m (.primitive name ns) → P name)
    (huser : ∀ d name, Needed m existing d → UserType d → d.name? m.classes = some name → P name)
    {d : Descriptor} (hd : Needed m existing d) (hh : Handled m.classes [] r d) :
    ∃ base rank, reference m.classes d = arrayReference base rank ∧ P base := by
  induction d using reference.induct with
  | case1 element ih =>
    rcases hh with hv | ⟨hh, -⟩
    · exact absurd hv List.not_mem_nil
    · obtain ⟨base, rank, heq, hbase⟩ := ih hd.element hh
      refine ⟨base, rank + 1, ?_, hbase⟩
      rw [reference, heq, arrayReference]
  | case2 d hleaf =>
    cases d with
    | array element => exact absurd rfl (hleaf element)
    | primitive name ns => exact ⟨name, 0, rfl, hprimitive name ns hd.mentioned⟩
    | enum name members => exact ⟨name, 0, rfl, huser _ name hd trivial rfl⟩
    | cls id =>
      obtain ⟨name, hnamed⟩ := hh.named
      exact ⟨name, 0, by simp [reference, arrayReference, hnamed], huser _ name hd trivial hnamed⟩
    | generic | unknown => exact absurd hh List.not_mem_nil

lemma plainReference_reference {m : Metadata} {existing : List String} {r : Registry}
    (hk : KnownContract m) (hn : WellNamed m existing) {d : Descriptor} (hd : Needed m existing d)
    (hh : Handled m.classes [] r d) : PlainReference (reference m.classes d) := by
  refine exists_arrayReference
    (fun name ns hp => plain_of_knownPrimitives (hk.knownPrimitives hp)) ?_ hd hh
  intro d name hd huser hname
  cases d with
  | enum enumName members =>
    obtain rfl := Option.some.inj hname
    have htype := (hn.enums enumName members hd).1
    exact ⟨htype.1, htype.plain⟩
  | cls id =>
    obtain ⟨c, hc, rfl⟩ := Option.map_eq_some_iff.mp hname
    have htype := (hn.classes id c hd hc).1
    exact ⟨htype.1, htype.plain⟩
  | _ => exact huser.elim

lemma Ended.mem_knownSpaces {options : BuildOptions} {m : Metadata} {existing : List String}
    {operations : List Operation} {r : Registry} (h : Ended options m existing operations r)
    (hk : KnownContract m) : ∀ ns ∈ r.imports, ns ∈ knownSpaces := by
  intro ns hns
  cases h.imported hns with
  | primitive hd _ =>
    rcases knownPrimitives_cases (hk.knownPrimitives hd.mentioned) with ⟨-, hns⟩ | ⟨-, hns⟩ | ⟨-, hns⟩
    · cases hns
    · obtain rfl := Option.some.inj hns
      decide
    · obtain rfl := Option.some.inj hns
      decide
  | _ => decide

lemma Ended.importable {options : BuildOptions} {m : Metadata} {existing : List String}
    {operations : List Operation} {r : Registry} (h : Ended options m existing operations r)
    (hk : KnownContract m) : ∀ ns ∈ r.imports, Importable ns :=
  fun ns hns => importable_known ns (h.mem_knownSpaces hk ns hns)

section Members

variable {classes : ClassTable}

lemma modifier_word {w : String} (h : IsIdentifier w ∧ Plain w) : Modifier w :=
  reads_plain h

lemma modifier_public : Modifier "public" :=
  modifier_word (by decide)

lemma modifier_private : Modifier "private" :=
  modifier_word (by decide)

lemma modifier_of_mem {visibility : String} (h : visibility ∈ Settings.visibilities) :
    Modifier visibility := by
  simp only [Settings.visibilities, List.mem_cons, List.not_mem_nil, or_false] at h
  rcases h with rfl | rfl | rfl | rfl | rfl
  · exact modifier_public
  · exact modifier_word (by decide)
  · exact modifier_word (by decide)
  · exact modifier_private
  · have hfirst : Reads Solid "protected " [] [] Solid := reads_wordSpace (w := "protected") (by decide) rfl
    have hlast : Modifier "internal" := modifier_word (by decide)
    have hsplit : "protected " ++ "internal" = "protected internal" := rfl
    have hall := hfirst.append hlast id
    rw [hsplit] at hall
    exact hall

lemma plainReference_named {name : String} (h : IsIdentifier name ∧ Plain name) :
    PlainReference (.named name) :=
  ⟨name, 0, rfl, h⟩

lemma readableProperty_memberDeclaration {visibility : String} {p : String × Descriptor}
    (hname : LooseName p.1) (hvisibility : Modifier visibility)
    (htype : PlainReference (reference classes p.2)) :
    ReadableProperty (memberDeclaration classes visibility p) where
  type := htype
  name := hname.firstUpper.nameable
  visibility := hvisibility
  fieldType := htype
  fieldName := hname.field.nameable
  fieldVisibility := modifier_private

variable {options : MethodOptions} {connection : String} {o : Operation}
  {parameters : List Parameter}

lemma readableMethod_serverMethod (hvisibility : Modifier options.visibility)
    (hconnection : Nameable connection) (hname : IsIdentifier o.name)
    (hparameters : ∀ p ∈ parameters, PlainReference p.type ∧ Nameable p.name) :
    ReadableMethod (serverMethod options connection o parameters) := by
  have hmethod : IsIdentifier "InvokeAsync" ∧ Plain "InvokeAsync" := by decide
  refine ⟨hname.looseName.nameable, hvisibility, plainReference_named (by decide), ?_, ?_⟩
  · intro p hp
    exact ⟨.inl (hparameters p hp).1, (hparameters p hp).2⟩
  · intro statement hs
    obtain rfl := List.mem_singleton.mp hs
    refine ⟨hconnection, hmethod, ⟨o.name, parameters.map (·.name), ?_, hname, ?_⟩, by simp⟩
    · simp [Function.comp_def]
    · intro v hv
      obtain ⟨p, hp, rfl⟩ := List.mem_map.mp hv
      exact (hparameters p hp).2

lemma readableMethod_clientMethod (hvisibility : Modifier options.visibility)
    (hconnection : Nameable connection) (hname : IsIdentifier o.name)
    (hsuffix : ∀ c ∈ options.clientSuffix.toList, Loose c)
    (hparameters : ∀ p ∈ parameters, PlainReference p.type) :
    ReadableMethod (clientMethod options connection o parameters) := by
  have hmethod : IsIdentifier "On" ∧ Plain "On" := by decide
  have hhandler : IsIdentifier "handler" := by decide
  have htypes : ∀ type ∈ parameters.map (·.type), PlainReference type := by
    intro type ht
    obtain ⟨p, hp, rfl⟩ := List.mem_map.mp ht
    exact hparameters p hp
  refine ⟨(hname.looseName.firstUpper.append hsuffix).nameable, hvisibility,
    plainReference_named (by decide), ?_, ?_⟩
  · intro p hp
    obtain rfl := List.mem_singleton.mp hp
    exact ⟨.inr ⟨"Action", _, rfl, by decide, by decide, htypes⟩, hhandler.looseName.nameable⟩
  · intro statement hs
    obtain rfl := List.mem_singleton.mp hs
    refine ⟨hconnection, hmethod, ⟨o.name, ["handler"], rfl, hname, ?_⟩, htypes⟩
    intro v hv
    obtain rfl := List.mem_singleton.mp hv
    exact hhandler.looseName.nameable

lemma readableMethod_methodOf (hvisibility : Modifier options.visibility)
    (hconnection : Nameable connection) (hname : IsIdentifier o.name)
    (hsuffix : ∀ c ∈ options.clientSuffix.toList, Loose c)
    (hparameters : ∀ p ∈ callerParameters o.parameters,
      IsIdentifier p.1 ∧ PlainReference (reference classes p.2)) :
    ReadableMethod (methodOf classes options connection o) := by
  have hall : ∀ p ∈ parametersOf classes o, PlainReference p.type ∧ Nameable p.name := by
    intro p hp
    obtain ⟨q, hq, rfl⟩ := List.mem_map.mp hp
    have hread := hparameters q hq
    exact ⟨hread.2, hread.1.looseName.nameable⟩
  cases hd : o.direction with
  | serverReceived =>
    rw [methodOf, hd]
    exact readableMethod_serverMethod hvisibility hconnection hname hall
  | clientInvoked =>
    rw [methodOf, hd]
    exact readableMethod_clientMethod hvisibility hconnection hname hsuffix fun p hp =>
      (hall p hp).1

end Members

section Model

variable {options : BuildOptions} {m : Metadata} {existing : List String}
  {operations : List Operation} {r : Registry}

/-- What is declared comes from an enumeration or from a class whose properties are resolved. -/
lemma Ended.declaration_cases (h : Ended options m existing operations r) {d : TypeDeclaration}
    (hd : d ∈ r.declarations) :
    (∃ name members, Needed m existing (.enum name members) ∧ name ∉ existing ∧
      d = .enum ⟨name, members, "public"⟩) ∨
    ∃ id c, Needed m existing (.cls id) ∧ m.classes[id]? = some c ∧ c.name ∉ existing ∧
      d = .cls (classDeclaration m.classes "public" c) ∧
      ∀ p ∈ c.properties, Handled m.classes [] r p.2 := by
  have hord := h.ordered
  rw [hord.sound.declarations_eq, List.mem_filterMap] at hd
  obtain ⟨⟨name, type⟩, hp, hdecl⟩ := hd
  obtain ⟨hneeded, -, hname, hfresh⟩ := h.of_mem_declared hp
  cases type with
  | enum enumName members =>
    obtain rfl := Option.some.inj hname
    exact .inl ⟨enumName, members, hneeded, hfresh, (Option.some.inj hdecl).symm⟩
  | cls id =>
    obtain ⟨c, hc, rfl⟩ := Option.map_eq_some_iff.mp hname
    obtain ⟨c', hc', rfl⟩ := Option.map_eq_some_iff.mp hdecl
    obtain rfl := Option.some.inj (hc.symm.trans hc')
    refine .inr ⟨id, c, hneeded, hc, hfresh, rfl, fun p hmem => ?_⟩
    exact (hord.members _ id c (List.mem_append_right _ hp) hc p hmem).1
  | primitive | array | generic | unknown => cases hdecl

lemma Ended.readableDeclaration (h : Ended options m existing operations r) (hk : KnownContract m)
    (hn : WellNamed m existing) {d : TypeDeclaration} (hd : d ∈ r.declarations) :
    ReadableDeclaration d := by
  rcases h.declaration_cases hd with ⟨name, members, hneeded, hfresh, rfl⟩ |
    ⟨id, c, hneeded, hc, hfresh, rfl, hhandled⟩
  · obtain ⟨hname, hmembers⟩ := hn.enums name members hneeded
    have hnameable : ∀ member ∈ members, Nameable member := fun member hm =>
      (hmembers hfresh member hm).looseName.nameable
    exact ⟨⟨hname.1, hname.plain⟩, modifier_public, hnameable⟩
  · obtain ⟨hname, hproperties⟩ := hn.classes id c hneeded hc
    refine ⟨⟨hname.1, hname.plain⟩, modifier_public, ?_, by simp [classDeclaration]⟩
    intro q hq
    obtain ⟨p, hp, rfl⟩ := List.mem_map.mp hq
    have htype := plainReference_reference hk hn (hneeded.member hc hfresh hp) (hhandled p hp)
    exact readableProperty_memberDeclaration (hproperties hfresh p hp).looseName
      modifier_public htype

/-- The name of the connection property in the contract's options. -/
lemma Ended.looseName_connection (h : Ended options m existing operations r)
    (hconnection : ∀ c ∈ options.connectionProperty.toList, Text.isWord c = true) :
    LooseName options.connectionProperty := by
  refine looseName_of_isWord (fun hnil => h.connection ?_) hconnection
  rw [← String.ofList_toList (s := options.connectionProperty), hnil]

/-- The model of a build can be read. -/
theorem Ended.readableModel (h : Ended options m existing operations r) (hk : KnownContract m)
    (hn : WellNamed m existing) (hvisibility : options.visibility ∈ Settings.visibilities)
    (hconnection : ∀ c ∈ options.connectionProperty.toList, Text.isWord c = true)
    (hsuffix : ∀ c ∈ options.clientSuffix.toList, Text.isWord c = true) {className : String}
    (hclass : IsTypeName className) (ns : String) :
    ReadableModel (modelOf options m ns className operations r) := by
  have hmodifier := modifier_of_mem hvisibility
  have hloose := h.looseName_connection hconnection
  have htype : IsIdentifier "HubConnection" ∧ Plain "HubConnection" := by decide
  refine ⟨h.importable hk, ⟨⟨hclass.1, hclass.plain⟩, modifier_public, ?_, ?_⟩,
    fun d hd => h.readableDeclaration hk hn hd⟩
  · intro p hp
    obtain rfl := List.mem_singleton.mp hp
    exact readableProperty_memberDeclaration hloose hmodifier (plainReference_named htype)
  · intro method hmethod
    obtain ⟨o, ho, rfl⟩ := List.mem_map.mp hmethod
    obtain ⟨hname, hparameters⟩ := hn.operations operations h.built o ho
    refine readableMethod_methodOf hmodifier hloose.firstUpper.nameable hname
      (fun c hc => .inl (hsuffix c hc)) fun p hp => ⟨hparameters p hp, ?_⟩
    exact plainReference_reference hk hn (.parameter h.built ho hp) (h.handled_parameter ho hp)

end Model

end HubProxy.Proofs
