import HubProxy.Proofs.BuiltSource

/-!
# The scanner inverts the emitter

From the source of a model that was built for a contract the scanner recovers the proxy, the declared
types and the arrays in the types of the model, with the arrays inside them, and nothing else.
-/

namespace HubProxy.Proofs

open CSharp

/-- The types of parameters and those that their handlers take. -/
def parameterTypes (method : MethodDeclaration) : List TypeReference :=
  method.parameters.flatMap fun p => p.type :: p.type.arguments

def propertyTypes : TypeDeclaration → List TypeReference
  | .cls c => c.properties.map (·.type)
  | .enum _ => []

/-- The types that a model mentions in method parameters, handlers and declared properties. -/
def mentionedTypes (model : ApiModel) : List TypeReference :=
  model.methods.flatMap parameterTypes ++ model.declarations.flatMap propertyTypes

section Arrays

lemma mem_arrayNames {base n : String} {rank : Nat} :
    n ∈ arrayNames base rank ↔ ∃ k, 1 ≤ k ∧ k ≤ rank ∧ n = arrayName base k := by
  simp only [arrayNames, List.mem_map, List.mem_range]
  constructor
  · rintro ⟨k, hk, rfl⟩
    exact ⟨k + 1, by omega, by omega, rfl⟩
  · rintro ⟨k, hpos, hle, rfl⟩
    obtain ⟨k, rfl⟩ : ∃ j, k = j + 1 := ⟨k - 1, by omega⟩
    exact ⟨k, by omega, rfl⟩

lemma ParameterType.mem_arraysOf {type : TypeReference} (h : ParameterType type) (n : String) :
    n ∈ arraysOf type ↔ ∃ base rank k, type = arrayReference base rank ∧ 1 ≤ k ∧ k ≤ rank ∧
      n = arrayName base k := by
  constructor
  · intro hn
    rcases h with ⟨base, rank, rfl, -⟩ | ⟨name, arguments, rfl, -⟩
    · rw [arraysOf_arrayReference] at hn
      obtain ⟨k, hpos, hle, heq⟩ := mem_arrayNames.mp hn
      exact ⟨base, rank, k, rfl, hpos, hle, heq⟩
    · cases hn
  · rintro ⟨base, rank, k, rfl, hpos, hle, rfl⟩
    rw [arraysOf_arrayReference]
    exact mem_arrayNames.mpr ⟨k, hpos, hle, rfl⟩

lemma ParameterType.arguments {type : TypeReference} (h : ParameterType type) :
    ∀ argument ∈ type.arguments, PlainReference argument := by
  rcases h with ⟨base, rank, rfl, -⟩ | ⟨name, arguments, rfl, -, -, harguments⟩
  · cases rank <;> exact fun _ hmem => absurd hmem List.not_mem_nil
  · exact harguments

lemma ReadableModel.parameterType {model : ApiModel} (h : ReadableModel model)
    {type : TypeReference} (ht : type ∈ mentionedTypes model) : ParameterType type := by
  rcases List.mem_append.mp ht with ht | ht
  · obtain ⟨method, hmethod, ht⟩ := List.mem_flatMap.mp ht
    obtain ⟨p, hp, ht⟩ := List.mem_flatMap.mp ht
    have hparameter := ((h.proxy.methods method hmethod).parameters p hp).1
    rcases List.mem_cons.mp ht with rfl | ht
    · exact hparameter
    · exact .inl (hparameter.arguments type ht)
  · obtain ⟨d, hd, ht⟩ := List.mem_flatMap.mp ht
    have hread := h.declarations d hd
    cases d with
    | cls c =>
      obtain ⟨p, hp, rfl⟩ := List.mem_map.mp ht
      exact .inl (hread.properties p hp).type
    | enum e => cases ht

variable {classes : ClassTable} (n : String)

/-- A call has no type arguments that are not in the type of its handler. -/
lemma mem_methodArrays_methodOf (options : MethodOptions) (connection : String) (o : Operation) :
    n ∈ methodArrays (methodOf classes options connection o) ↔
      ∃ type ∈ parameterTypes (methodOf classes options connection o), n ∈ arraysOf type := by
  cases hd : o.direction with
  | serverReceived =>
    simp only [methodOf, hd, serverMethod, methodArrays, parameterTypes, parameterArrays,
      TypeReference.named, arraysOf, List.nil_append, List.flatMap_cons, List.flatMap_nil,
      List.append_nil, List.mem_flatMap, List.mem_append, List.mem_cons]
    constructor
    · rintro ⟨p, hp, hn | ⟨type, ht, hn⟩⟩
      · exact ⟨p.type, ⟨p, hp, .inl rfl⟩, hn⟩
      · exact ⟨type, ⟨p, hp, .inr ht⟩, hn⟩
    · rintro ⟨type, ⟨p, hp, rfl | ht⟩, hn⟩
      · exact ⟨p, hp, .inl hn⟩
      · exact ⟨p, hp, .inr ⟨type, ht, hn⟩⟩
  | clientInvoked =>
    simp [methodOf, hd, clientMethod, methodArrays, parameterTypes, parameterArrays,
      TypeReference.named, arraysOf]

lemma mem_classArrays_classDeclaration (visibility : String) (c : ClassDef) :
    n ∈ classArrays (classDeclaration classes visibility c) ↔
      ∃ p ∈ c.properties, n ∈ arraysOf (reference classes p.2) := by
  cases hi : c.isInterface <;>
    simp [classArrays, classDeclaration, memberDeclaration, hi, List.flatMap_map]

variable {options : BuildOptions} {m : Metadata} {existing : List String}
  {operations : List Operation} {r : Registry}

lemma Ended.mem_declarationArrays (h : Ended options m existing operations r) {d : TypeDeclaration}
    (hd : d ∈ r.declarations) :
    n ∈ declarationArrays d ↔ ∃ type ∈ propertyTypes d, n ∈ arraysOf type := by
  rcases h.declaration_cases hd with ⟨name, members, -, -, rfl⟩ | ⟨id, c, -, -, -, rfl, -⟩
  · simp [declarationArrays, propertyTypes]
  · rw [declarationArrays, mem_classArrays_classDeclaration]
    simp [propertyTypes, classDeclaration, memberDeclaration]

/-- The arrays in the source of a build are those of the types that its model mentions. -/
lemma Ended.mem_arrays (h : Ended options m existing operations r) (ns className : String) :
    n ∈ classArrays (modelOf options m ns className operations r).proxy ++
        r.declarations.flatMap declarationArrays ↔
      ∃ type ∈ mentionedTypes (modelOf options m ns className operations r), n ∈ arraysOf type := by
  have hproxy : n ∈ classArrays (modelOf options m ns className operations r).proxy ↔
      ∃ type ∈ (modelOf options m ns className operations r).methods.flatMap parameterTypes,
        n ∈ arraysOf type := by
    have hnone : arraysOf (reference m.classes connectionType) = [] := rfl
    simp only [modelOf, ApiModel.methods, classArrays, connectionOf, memberDeclaration, hnone,
      Bool.false_eq_true, ite_false, List.flatMap_cons, List.flatMap_nil, List.nil_append,
      List.append_nil, List.flatMap_map, List.mem_flatMap, mem_methodArrays_methodOf]
    constructor
    · rintro ⟨o, ho, type, ht, hn⟩
      exact ⟨type, ⟨o, ho, ht⟩, hn⟩
    · rintro ⟨type, ⟨o, ho, ht⟩, hn⟩
      exact ⟨o, ho, type, ht, hn⟩
  have hdeclarations : n ∈ r.declarations.flatMap declarationArrays ↔
      ∃ type ∈ r.declarations.flatMap propertyTypes, n ∈ arraysOf type := by
    simp only [List.mem_flatMap]
    constructor
    · rintro ⟨d, hd, hn⟩
      obtain ⟨type, ht, hn⟩ := (h.mem_declarationArrays n hd).mp hn
      exact ⟨type, ⟨d, hd, ht⟩, hn⟩
    · rintro ⟨type, ⟨d, hd, ht⟩, hn⟩
      exact ⟨d, hd, (h.mem_declarationArrays n hd).mpr ⟨type, ht, hn⟩⟩
  rw [List.mem_append, hproxy, hdeclarations]
  simp only [mentionedTypes, List.mem_append, or_and_right, exists_or]
  rfl

end Arrays

/-- What the scanner recovers from the source of a model that was built for a contract. -/
theorem mem_declaredTypes_of_build {text source ns className : String} {m : Metadata}
    {options : BuildOptions} {existing pieces : List String} {model : ApiModel}
    (hread : Contract.ofText text source = .ok m)
    (hbuild : (build options m ns className existing).1 = .ok model)
    (hvisibility : options.visibility ∈ Settings.visibilities)
    (hconnection : ∀ c ∈ options.connectionProperty.toList, Text.isWord c = true)
    (hsuffix : ∀ c ∈ options.clientSuffix.toList, Text.isWord c = true)
    (hclass : IsTypeName className) (hnames : WellNamed m existing)
    (hns : ns = ".".intercalate pieces) (hne : pieces ≠ [])
    (hpieces : ∀ piece ∈ pieces, IsIdentifier piece) (n : String) :
    n ∈ declaredTypes (emit model) model.ns ↔
      n = model.className ∨ n ∈ model.declarations.map (·.name) ∨
        ∃ type ∈ mentionedTypes model, ∃ base rank k, type = arrayReference base rank ∧
          1 ≤ k ∧ k ≤ rank ∧ n = arrayName base k := by
  obtain ⟨operations, r, hend, rfl⟩ := ended_of_build hbuild
  have hknown := knownContract_of_ofText hread
  have hreadable := hend.readableModel hknown hnames hvisibility hconnection hsuffix hclass ns
  obtain ⟨first, words, rfl⟩ := List.exists_cons_of_ne_nil hne
  have hdotted : (modelOf options m ns className operations r).ns = first ++ dotText words :=
    hns.trans (intercalate_dots first words)
  have hscan := mem_declaredTypes_emit hreadable hdotted (hpieces first List.mem_cons_self)
    (fun w hw => (hpieces w (List.mem_cons_of_mem first hw)).isWord) n
  have harrays : (∃ type ∈ mentionedTypes (modelOf options m ns className operations r),
      n ∈ arraysOf type) ↔ ∃ type ∈ mentionedTypes (modelOf options m ns className operations r),
        ∃ base rank k, type = arrayReference base rank ∧ 1 ≤ k ∧ k ≤ rank ∧ n = arrayName base k :=
    exists_congr fun type => and_congr_right fun ht =>
      (hreadable.parameterType ht).mem_arraysOf n
  have hdeclared : (∃ d ∈ (modelOf options m ns className operations r).declarations, n = d.name) ↔
      n ∈ (modelOf options m ns className operations r).declarations.map (·.name) := by
    simp [eq_comm]
  rw [hscan, ← harrays, ← hend.mem_arrays n ns className, hdeclared]
  rfl

deriving instance DecidableEq for ClassDef, Operation, ContractType, Metadata

/-- A contract with an operation and a parameter that are named by words of the language. -/
def verbatimText : String :=
  "\x7bhub: \x7boperations: [\x7bname: class, parameters: \x7brecord: 'N[][]'\x7d\x7d]\x7d, " ++
    "client_api: \x7b\x7d, types: \x7bN: \x7bproperties: \x7bn: N\x7d\x7d\x7d\x7d"

def verbatimContract : Metadata where
  source := "verbatim"
  types := [
    ⟨"hub", .hub, [⟨"class", .serverReceived, [("record", .array (.array (.cls 0)))], true,
      some "Task"⟩]⟩,
    ⟨"client_api", .clientApi, []⟩]
  classes := #[⟨"N", [("n", .cls 0)], false⟩]

lemma ofText_verbatimText : Contract.ofText verbatimText "verbatim" = .ok verbatimContract := by
  have hread : (Contract.ofText verbatimText "verbatim").toOption = some verbatimContract := by
    decide +kernel
  exact eq_ok_of_toOption hread

lemma wellNamed_verbatimContract : WellNamed verbatimContract [] := by
  have hmem : ∀ d, Needed verbatimContract [] d →
      d ∈ [.array (.array (.cls 0)), .array (.cls 0), Descriptor.cls 0] := fun d hd =>
    hd.mentioned.mem (by decide) (by decide)
  constructor
  · intro operations hm o ho
    obtain ⟨t, ht, hot⟩ := types_of_builtOperations? hm ho
    have hall : ∀ t ∈ verbatimContract.types, ∀ o ∈ t.operations, IsIdentifier o.name ∧
        ∀ p ∈ callerParameters o.parameters, IsIdentifier p.1 := by decide
    exact hall t ht o hot
  · intro name members hd
    simpa using hmem _ hd
  · intro id c hd hc
    obtain rfl : id = 0 := by simpa using hmem _ hd
    obtain rfl := Option.some.inj hc
    exact ⟨by decide, fun _ => by decide⟩

/-- The letter at the start of the connection property has two letters as its upper case. -/
theorem mem_declaredTypes_verbatimContract :
    ∃ model, Contract.ofText verbatimText "verbatim" = .ok verbatimContract ∧
      (build ⟨"ßlink", "protected internal", "On"⟩ verbatimContract "Games.Net" "Proxy" []).1 =
        .ok model ∧
      ∀ n, n ∈ declaredTypes (emit model) model.ns ↔
        n = "Proxy" ∨ n = "N" ∨ n = "N[]" ∨ n = "N[][]" := by
  have hbuild : ∃ model, (build ⟨"ßlink", "protected internal", "On"⟩ verbatimContract "Games.Net"
      "Proxy" []).1 = .ok model ∧ model.className = "Proxy" ∧
      model.declarations.map (·.name) = ["N"] ∧
      mentionedTypes model = [arrayReference "N" 2, arrayReference "N" 0] := ⟨_, rfl, rfl, rfl, rfl⟩
  obtain ⟨model, hmodel, hclass, hnames, htypes⟩ := hbuild
  have hns : "Games.Net" = ".".intercalate ["Games", "Net"] := by decide
  refine ⟨model, ofText_verbatimText, hmodel, fun n => ?_⟩
  have hscan := mem_declaredTypes_of_build ofText_verbatimText hmodel (by decide) (by decide)
    (by decide) (by decide) wellNamed_verbatimContract hns (by decide) (by decide) n
  have harrays : ∀ rank, (∃ base rank' k, arrayReference "N" rank = arrayReference base rank' ∧
      1 ≤ k ∧ k ≤ rank' ∧ n = arrayName base k) ↔ n ∈ arrayNames "N" rank := by
    intro rank
    have htype : ParameterType (arrayReference "N" rank) :=
      .inl ⟨"N", rank, rfl, by decide, by decide⟩
    rw [← htype.mem_arraysOf, arraysOf_arrayReference]
  have htwo : arrayNames "N" 2 = ["N[]", "N[][]"] := rfl
  have hzero : arrayNames "N" 0 = [] := rfl
  rw [hscan, hclass, hnames, htypes]
  simp only [List.mem_cons, List.not_mem_nil, or_false, or_and_right, exists_or, exists_eq_left,
    harrays, htwo, hzero]

end HubProxy.Proofs
