import HubProxy.Proofs.FinishedTypes
import HubProxy.Proofs.LosslessEmission
import HubProxy.Proofs.OwnTexts
import HubProxy.Proofs.WholeNames

/-!
# Reserved words

A reserved word gets its mark as the name of a field, a property, a method, a parameter, an argument or a
member of an enumeration. In a namespace, in the header of a type and in a reference to one it gets none.
So the text of a build is free of reserved words as names if and only if the names of its namespace, its
proxy and the types that it needs are.
-/

namespace HubProxy.Proofs

open CSharp

/-- No name on a line is written as a reserved word. -/
def Unreserved (pieces : List Piece) : Prop :=
  ∀ use text, .name use text ∈ pieces → (Piece.name use text).written ∉ keywords

section Lines

variable {pieces pieces' : List Piece} {s : String}

/-- A name that is given its mark where it needs one is no reserved word. -/
lemma escapeIdentifier_not_mem (name : String) : escapeIdentifier name ∉ keywords := by
  have hmark : ∀ word ∈ keywords, word.toList.head? ≠ some '@' := by decide +kernel
  unfold escapeIdentifier
  split
  · exact fun hmem => hmark _ hmem (by simp)
  · assumption

lemma written_not_mem_of_isMarked {use : NameUse} (huse : use.isMarked = true) (text : String) :
    (Piece.name use text).written ∉ keywords := by
  rw [written_name, if_pos huse]
  exact escapeIdentifier_not_mem text

@[simp] lemma unreserved_nil : Unreserved [] :=
  fun _ _ hmem => absurd hmem List.not_mem_nil

@[simp] lemma unreserved_code : Unreserved (.code s :: pieces) ↔ Unreserved pieces := by
  simp [Unreserved]

lemma unreserved_name {use : NameUse} {text : String} : Unreserved (.name use text :: pieces) ↔
    (Piece.name use text).written ∉ keywords ∧ Unreserved pieces := by
  constructor
  · exact fun h => ⟨h use text List.mem_cons_self, fun u t hmem => h u t (List.mem_cons_of_mem _ hmem)⟩
  · rintro ⟨hname, h⟩ u t hmem
    rcases List.mem_cons.mp hmem with heq | hmem
    · exact heq ▸ hname
    · exact h u t hmem

lemma unreserved_marked (use : NameUse) (huse : use.isMarked = true) {text : String} :
    Unreserved (.name use text :: pieces) ↔ Unreserved pieces :=
  unreserved_name.trans (and_iff_right (written_not_mem_of_isMarked huse text))

@[simp] lemma unreserved_append :
    Unreserved (pieces ++ pieces') ↔ Unreserved pieces ∧ Unreserved pieces' := by
  simp only [Unreserved, List.mem_append, or_imp, forall_and]

lemma unreserved_intercalate {items : List (List Piece)} :
    Unreserved ([.code s].intercalate items) ↔ ∀ item ∈ items, Unreserved item := by
  induction items with
  | nil => simp
  | cons item items ih =>
    cases items with
    | nil => simp
    | cons next items =>
      rw [List.intercalate_cons_cons, unreserved_append, unreserved_append, ih, unreserved_code,
        List.forall_mem_cons (a := item)]
      simp

@[simp] lemma unreserved_commaPieces {items : List (List Piece)} :
    Unreserved (commaPieces items) ↔ ∀ item ∈ items, Unreserved item :=
  unreserved_intercalate

lemma unreserved_memberPieces {visibility name : String} {type : TypeReference} (use : NameUse)
    (huse : use.isMarked = true) :
    Unreserved (memberPieces visibility type use name) ↔ Unreserved (typePieces type) := by
  simp [memberPieces, unreserved_marked use huse]

lemma unreserved_brace : ∀ brace ∈ ["\x7b", "\x7d"], Unreserved [.code brace] := by
  simp

end Lines

section Declarations

def methodTypes (m : MethodDeclaration) : List TypeReference :=
  m.returnType :: (m.parameters.map (·.type) ++ m.body.flatMap (·.call.typeArguments))

/-- The types that are written in a class, or in an interface, where there are no fields. -/
def classTypes (c : ClassDeclaration) : List TypeReference :=
  c.properties.map (·.type) ++ ((if c.isInterface then [] else c.properties.map (·.field.type)) ++
    c.methods.flatMap methodTypes)

def declarationTypes : TypeDeclaration → List TypeReference
  | .cls c => classTypes c
  | .enum _ => []

def fileTypes (m : ApiModel) : List TypeReference :=
  classTypes m.proxy ++ m.declarations.flatMap declarationTypes

lemma unreserved_propertyPieces {p : PropertyDeclaration} :
    (∀ line ∈ propertyPieces p, Unreserved line) ↔ Unreserved (typePieces p.type) := by
  have hfield : ∀ s, Unreserved [.code "this.", .name .field p.field.name, .code s] := by
    simp [unreserved_marked .field rfl]
  rw [forall_mem_propertyPieces unreserved_brace (by simp) (unreserved_code.mpr (hfield _)) (hfield _),
    unreserved_memberPieces _ rfl]

lemma unreserved_statementPieces {s : CallStatement} : Unreserved (statementPieces s) ↔
    ∀ type ∈ s.call.typeArguments, Unreserved (typePieces type) := by
  have harguments : ∀ item ∈ s.call.arguments.map argumentPieces, Unreserved item := by
    intro item hitem
    obtain ⟨e, -, rfl⟩ := List.mem_map.mp hitem
    cases e with
    | literal value => simp [argumentPieces]
    | «variable» name => simp [argumentPieces, unreserved_marked .argument rfl]
  have htypes : Unreserved (methodNamePieces s.call.method s.call.typeArguments) ↔
      ∀ type ∈ s.call.typeArguments, Unreserved (typePieces type) := by
    unfold methodNamePieces
    split
    · next hempty => simp [List.isEmpty_iff.mp hempty]
    · simp [forall_mem_typesPieces]
  rw [statementPieces, unreserved_code, unreserved_marked _ rfl, unreserved_append, unreserved_append,
    htypes]
  exact and_iff_left ⟨unreserved_commaPieces.mpr harguments, by simp⟩

lemma unreserved_methodPieces {m : MethodDeclaration} : (∀ line ∈ methodPieces m, Unreserved line) ↔
    ∀ type ∈ methodTypes m, Unreserved (typePieces type) := by
  have hheader : Unreserved (methodHeaderPieces m) ↔ Unreserved (typePieces m.returnType) ∧
      ∀ type ∈ m.parameters.map (·.type), Unreserved (typePieces type) := by
    rw [methodHeaderPieces, unreserved_append, unreserved_memberPieces _ rfl]
    simp [parameterPieces, unreserved_marked .parameter rfl]
  have hbody : (∀ s ∈ m.body, Unreserved (statementPieces s)) ↔
      ∀ type ∈ m.body.flatMap (·.call.typeArguments), Unreserved (typePieces type) := by
    simp only [unreserved_statementPieces, List.forall_mem_flatMap]
  rw [forall_mem_methodPieces unreserved_brace, hheader, hbody, methodTypes, List.forall_mem_cons,
    List.forall_mem_append, and_assoc]

lemma unreserved_memberBlockPieces {c : ClassDeclaration} :
    (∀ line ∈ memberBlockPieces c, Unreserved line) ↔
      (∀ type ∈ c.properties.map (·.type), Unreserved (typePieces type)) ∧
        ∀ type ∈ if c.isInterface then [] else c.properties.map (·.field.type),
          Unreserved (typePieces type) := by
  unfold memberBlockPieces
  split
  · simp [interfacePropertyPieces, unreserved_marked .property rfl]
  · rw [List.forall_mem_append, and_comm, List.forall_mem_flatMap]
    simp [unreserved_propertyPieces, fieldPieces, unreserved_memberPieces .field rfl]

lemma unreserved_classPieces {c : ClassDeclaration} : (∀ line ∈ classPieces c, Unreserved line) ↔
    c.name ∉ keywords ∧ ∀ type ∈ classTypes c, Unreserved (typePieces type) := by
  have hheader : Unreserved (classHeaderPieces c) ↔ c.name ∉ keywords := by
    simp [classHeaderPieces, unreserved_name, written_name, NameUse.isMarked]
  have hmethods : (∀ m ∈ c.methods, ∀ line ∈ methodPieces m, Unreserved line) ↔
      ∀ type ∈ c.methods.flatMap methodTypes, Unreserved (typePieces type) := by
    simp only [List.forall_mem_flatMap, unreserved_methodPieces]
  rw [forall_mem_classPieces unreserved_brace, hheader, unreserved_memberBlockPieces, hmethods,
    classTypes, List.forall_mem_append, List.forall_mem_append, and_assoc]

lemma unreserved_declarationPieces {d : TypeDeclaration} :
    (∀ line ∈ declarationPieces d, Unreserved line) ↔
      d.name ∉ keywords ∧ ∀ type ∈ declarationTypes d, Unreserved (typePieces type) := by
  cases d with
  | cls c => exact unreserved_classPieces
  | enum e =>
    have hmembers : ∀ line ∈ memberListPieces e.members, Unreserved line :=
      forall_mem_memberListPieces (by simp [unreserved_marked .enumMember rfl])
        (by simp [unreserved_marked .enumMember rfl]) e.members
    rw [declarationPieces, forall_mem_blockPieces unreserved_brace, iff_true_intro hmembers]
    simp [unreserved_name, written_name, NameUse.isMarked, TypeDeclaration.name, declarationTypes]

lemma unreserved_namespacePieces {ns : String} :
    Unreserved (namespacePieces ns) ↔ ∀ segment ∈ nameSegments ns, segment ∉ keywords := by
  rw [namespacePieces, unreserved_code, unreserved_intercalate]
  simp [unreserved_name, written_name, NameUse.isMarked]

/-- A file has no reserved word as a name if and only if neither the namespace nor the header of a type
nor a type that is written somewhere has one. -/
theorem unreserved_filePieces {m : ApiModel} : (∀ line ∈ filePieces m, Unreserved line) ↔
    (∀ segment ∈ nameSegments m.ns, segment ∉ keywords) ∧ m.proxy.name ∉ keywords ∧
      (∀ d ∈ m.declarations, d.name ∉ keywords) ∧
      ∀ type ∈ fileTypes m, Unreserved (typePieces type) := by
  have hempty : ∀ segment ∈ nameSegments "", segment ∉ keywords := by decide
  have hspace : (m.ns ≠ "" → Unreserved (namespacePieces m.ns)) ↔
      ∀ segment ∈ nameSegments m.ns, segment ∉ keywords := by
    by_cases hns : m.ns = ""
    · simpa [hns] using hempty
    · simp [hns, unreserved_namespacePieces]
  rw [forall_mem_filePieces unreserved_brace (by simp) (by simp), hspace, unreserved_classPieces,
    fileTypes, List.forall_mem_append, List.forall_mem_flatMap]
  simp only [unreserved_declarationPieces, forall_and]
  tauto

end Declarations

section Types

/-- The word for a type is none of its names. -/
lemma unreserved_generic (name : String) {types : List TypeReference}
    (hname : name ∈ keywordTypes ∨ name ∉ keywords)
    (htypes : ∀ type ∈ types, Unreserved (typePieces type)) :
    Unreserved (typePieces ⟨name, types, none⟩) := by
  have hbase : Unreserved [baseTypePiece name] := by
    unfold baseTypePiece
    split
    · simp
    · next hword =>
      have hfree := hname.resolve_left hword
      simpa [unreserved_name, written_name, NameUse.isMarked] using hfree
  cases types with
  | nil => exact hbase
  | cons type rest =>
    have hall := forall_mem_typesPieces.mpr htypes
    rw [typesPieces] at hall
    rw [typePieces, ← List.singleton_append, unreserved_append, unreserved_code, unreserved_append,
      unreserved_commaPieces]
    exact ⟨hbase, hall, by simp⟩

lemma unreserved_named (name : String) (hname : name ∈ keywordTypes ∨ name ∉ keywords) :
    Unreserved (typePieces (.named name)) :=
  unreserved_generic name hname (by simp)

lemma unreserved_arrayReference {base : String} (h : base ∈ keywordTypes ∨ base ∉ keywords)
    (rank : Nat) : Unreserved (typePieces (arrayReference base rank)) := by
  induction rank with
  | zero => exact unreserved_named base h
  | succ rank ih => simpa [arrayReference, TypeReference.arrayOf, typePieces] using ih

lemma not_reserved_of_knownPrimitives {name : String} {ns : Option String}
    (h : KnownPrimitives (.primitive name ns)) : name ∈ keywordTypes ∨ name ∉ keywords := by
  have hsystem : ∀ name ∈ systemTypes, name ∉ keywords := by decide
  have hcontext : "IClientProxy" ∉ keywords := by decide
  rcases knownPrimitives_cases h with ⟨hword, -⟩ | ⟨hmem, -⟩ | ⟨rfl, -⟩
  · exact .inl hword
  · exact .inr (hsystem name hmem)
  · exact .inr hcontext

variable {classes : ClassTable} {options : MethodOptions} {connection : String} {o : Operation}

/-- The types of the parameters are all that the types in a method take from the contract. -/
lemma unreserved_methodOf (h : ∀ p ∈ callerParameters o.parameters,
      Unreserved (typePieces (reference classes p.2))) :
    ∀ type ∈ methodTypes (methodOf classes options connection o), Unreserved (typePieces type) := by
  have hparameters : ∀ type ∈ (parametersOf classes o).map (·.type), Unreserved (typePieces type) := by
    intro type htype
    rw [parametersOf, List.map_map] at htype
    obtain ⟨p, hp, rfl⟩ := List.mem_map.mp htype
    exact h p hp
  cases hd : o.direction with
  | serverReceived =>
    have htask := unreserved_named "Task" (by decide)
    rw [methodOf, hd]
    exact List.forall_mem_cons.mpr ⟨htask, by simpa [serverMethod] using hparameters⟩
  | clientInvoked =>
    have hdisposable := unreserved_named "IDisposable" (by decide)
    have haction := unreserved_generic "Action" (by decide) hparameters
    rw [methodOf, hd]
    refine List.forall_mem_cons.mpr ⟨hdisposable, List.forall_mem_cons.mpr ⟨haction, ?_⟩⟩
    simpa [clientMethod] using hparameters

lemma mem_methodTypes {p : String × Descriptor} (hp : p ∈ callerParameters o.parameters) :
    reference classes p.2 ∈ methodTypes (methodOf classes options connection o) := by
  have hmem : reference classes p.2 ∈ (parametersOf classes o).map (·.type) := by
    rw [parametersOf, List.map_map]
    exact List.mem_map_of_mem (f := fun p => reference classes p.2) hp
  refine List.mem_cons_of_mem _ (List.mem_append.mpr ?_)
  cases hd : o.direction with
  | serverReceived =>
    rw [methodOf, hd]
    exact .inl hmem
  | clientInvoked =>
    rw [methodOf, hd]
    exact .inr (by simpa [clientMethod] using hmem)

/-- The types in a declared class are those of its properties. -/
lemma mem_classTypes {visibility : String} {c : ClassDef} {type : TypeReference} :
    type ∈ classTypes (classDeclaration classes visibility c) ↔
      ∃ p ∈ c.properties, reference classes p.2 = type := by
  cases hkind : c.isInterface <;> simp [classTypes, classDeclaration, memberDeclaration, hkind]

end Types

section Builds

variable {options : BuildOptions} {m : Metadata} {ns className : String} {existing : List String}
  {operations : List Operation} {r : Registry}

/-- The classes and enumerations that a proxy needs are not named by reserved words. -/
def FreeNames (m : Metadata) (existing : List String) : Prop :=
  ∀ d name, Needed m existing d → UserType d → d.name? m.classes = some name → name ∉ keywords

lemma FreeNames.unreserved_reference (hfree : FreeNames m existing) (hk : KnownContract m)
    {d : Descriptor} (hd : Needed m existing d) (hh : Handled m.classes [] r d) :
    Unreserved (typePieces (reference m.classes d)) := by
  obtain ⟨base, rank, heq, hbase⟩ := exists_arrayReference
    (P := fun base => base ∈ keywordTypes ∨ base ∉ keywords)
    (fun _ _ hp => not_reserved_of_knownPrimitives (hk.knownPrimitives hp))
    (fun d name hd huser hname => .inr (hfree d name hd huser hname)) hd hh
  rw [heq]
  exact unreserved_arrayReference hbase rank

lemma Ended.unreserved_fileTypes (h : Ended options m existing operations r) (hk : KnownContract m)
    (hfree : FreeNames m existing) : ∀ type ∈ fileTypes (modelOf options m ns className operations r),
      Unreserved (typePieces type) := by
  have hconnection : Unreserved (typePieces (reference m.classes connectionType)) :=
    unreserved_named "HubConnection" (by decide)
  have hmethods : ∀ method ∈ (modelOf options m ns className operations r).proxy.methods,
      ∀ type ∈ methodTypes method, Unreserved (typePieces type) := by
    intro method hmethod
    obtain ⟨o, ho, rfl⟩ := List.mem_map.mp hmethod
    exact unreserved_methodOf fun p hp =>
      hfree.unreserved_reference hk (.parameter h.built ho hp) (h.handled_parameter ho hp)
  refine List.forall_mem_append.mpr ⟨?_, List.forall_mem_flatMap.mpr fun d hd => ?_⟩
  · exact List.forall_mem_cons.mpr ⟨hconnection, List.forall_mem_cons.mpr ⟨hconnection,
      List.forall_mem_flatMap.mpr hmethods⟩⟩
  · rcases h.declaration_cases hd with ⟨name, members, -, -, rfl⟩ |
      ⟨id, c, hneeded, hc, hfresh, rfl, hhandled⟩
    · exact fun _ htype => absurd htype List.not_mem_nil
    · intro type htype
      obtain ⟨p, hp, rfl⟩ := mem_classTypes.mp htype
      exact hfree.unreserved_reference hk (hneeded.member hc hfresh hp) (hhandled p hp)

/-- The name of every declared type is that of a needed one. -/
lemma Ended.exists_needed (h : Ended options m existing operations r) {d : TypeDeclaration}
    (hd : d ∈ r.declarations) :
    ∃ type, Needed m existing type ∧ UserType type ∧ type.name? m.classes = some d.name := by
  rcases h.declaration_cases hd with ⟨name, members, hneeded, -, rfl⟩ |
    ⟨id, c, hneeded, hc, -, rfl, -⟩
  · exact ⟨_, hneeded, trivial, rfl⟩
  · have hname : (Descriptor.cls id).name? m.classes = some c.name := by simp [Descriptor.name?, hc]
    exact ⟨_, hneeded, trivial, hname⟩

/-- A reference to every needed class or enumeration is written somewhere. -/
lemma Ended.freeNames (h : Ended options m existing operations r) (hu : OwnNames m)
    (hwords : ∀ d name, Needed m existing d → UserType d → d.name? m.classes = some name →
      name ∉ keywordTypes)
    (htypes : ∀ type ∈ fileTypes (modelOf options m ns className operations r),
      Unreserved (typePieces type)) : FreeNames m existing := by
  intro d name hd huser hname
  have hreference : .name .reference name ∈ typePieces (reference m.classes d) := by
    have hnamed : reference m.classes d = .named name := by
      cases d with
      | cls | enum => simp [reference, hname]
      | _ => exact huser.elim
    rw [hnamed, TypeReference.named, typePieces, baseTypePiece, if_neg (hwords d name hd huser hname)]
    exact List.mem_singleton_self _
  obtain ⟨type, htype, hmem⟩ : ∃ type ∈ fileTypes (modelOf options m ns className operations r),
      .name .reference name ∈ typePieces type := by
    rcases h.exists_use hu (P := fun type => .name .reference name ∈ typePieces type)
      (fun _ hmem => List.mem_append_left _ hmem) hd hreference with ⟨o, ho, p, hp, hmem⟩ |
      ⟨c, hc, p, hp, hmem⟩
    · refine ⟨_, List.mem_append_left _ (List.mem_append_right _ (List.mem_append_right _ ?_)), hmem⟩
      exact List.mem_flatMap.mpr ⟨_, List.mem_map_of_mem ho, mem_methodTypes hp⟩
    · refine ⟨_, List.mem_append_right _ (List.mem_flatMap.mpr ⟨_, hc, ?_⟩), hmem⟩
      exact mem_classTypes.mpr ⟨p, hp, rfl⟩
  exact htypes type htype .reference name hmem

end Builds

/-- The text of a build is made of names, each a word of its own, and of the emitter's own texts. It is free
of reserved words wherever names get their mark, and everywhere if and only if the namespace, the proxy and
the needed types are not named by any. -/
theorem reserved_words_of_build {text source : String} {m : Metadata} {options : BuildOptions}
    {ns className : String} {existing : List String} {model : ApiModel}
    (hread : Contract.ofText text source = .ok m)
    (hbuild : (build options m ns className existing).1 = .ok model) :
    (filePieces model).map spell = contents (fileLines model) ∧
      (∀ line ∈ filePieces model, WholeNames line ∧ OwnTexts options.visibility line ∧
        ∀ use name, .name use name ∈ line → use.isMarked = true →
          (Piece.name use name).written ∉ keywords) ∧
      ((∀ line ∈ filePieces model, Unreserved line) ↔
        (∀ segment ∈ nameSegments ns, segment ∉ keywords) ∧ className ∉ keywords ∧
          FreeNames m existing) := by
  obtain ⟨operations, r, h, rfl⟩ := ended_of_build hbuild
  have hk := knownContract_of_ofText hread
  have hwords : ∀ d name, Needed m existing d → UserType d → d.name? m.classes = some name →
      name ∉ keywordTypes := by
    intro d name hd huser hname hmem
    have hnone := primitive?_eq_none_of_ofText hread ⟨hd.mentioned.occurs, huser, hname⟩
    rw [primitive?, if_pos hmem] at hnone
    cases hnone
  refine ⟨map_spell_filePieces _, fun line hline => ⟨wholeNames_filePieces _ line hline,
    h.ownTexts_filePieces hk ns className line hline,
    fun use name _ huse => written_not_mem_of_isMarked huse name⟩, ?_⟩
  rw [unreserved_filePieces]
  constructor
  · rintro ⟨hspace, hclass, -, htypes⟩
    exact ⟨hspace, hclass, h.freeNames (ownNames_of_ofText hread) hwords htypes⟩
  · rintro ⟨hspace, hclass, hfree⟩
    refine ⟨hspace, hclass, fun d hd => ?_, h.unreserved_fileTypes hk hfree⟩
    obtain ⟨type, hneeded, huser, hname⟩ := h.exists_needed hd
    exact hfree type _ hneeded huser hname

theorem reserved_words_of_build_pointContract :
    ∃ model, (build {} (pointContract "x") "Games.Net" "Proxy" []).1 = .ok model ∧
      ∀ line ∈ filePieces model, WholeNames line ∧ OwnTexts "protected" line ∧ Unreserved line := by
  have hbuild : ∃ model, (build {} (pointContract "x") "Games.Net" "Proxy" []).1 = .ok model :=
    ⟨_, rfl⟩
  have hfree : FreeNames (pointContract "x") [] := by
    intro d name hd huser hname
    have hmem := mem_pointContract hd.mentioned
    simp only [List.mem_cons, List.not_mem_nil, or_false] at hmem
    rcases hmem with rfl | rfl | rfl
    · exact huser.elim
    · obtain rfl : "Point" = name := Option.some.inj hname
      decide
    · exact huser.elim
  obtain ⟨model, hmodel⟩ := hbuild
  obtain ⟨-, hnames, hfile⟩ := reserved_words_of_build (ofText_pointText (by simp)) hmodel
  have hall := hfile.mpr ⟨by decide +kernel, by decide, hfree⟩
  refine ⟨model, hmodel, fun line hline => ?_⟩
  obtain ⟨hwhole, hown, -⟩ := hnames line hline
  exact ⟨hwhole, hown, hall line hline⟩

/-- A contract that names a class, a property and a parameter by a reserved word. -/
def eventText : String :=
  "\x7bhub: \x7boperations: [\x7bname: raise, parameters: \x7bevent: event\x7d\x7d]\x7d, " ++
    "client_api: \x7b\x7d, types: \x7bevent: \x7bproperties: \x7bevent: int\x7d\x7d\x7d\x7d"

def eventContract : Metadata where
  source := unnamedSource
  types := [
    ⟨"hub", .hub, [⟨"raise", .serverReceived, [("event", .cls 0)], true, some "Task"⟩]⟩,
    ⟨"client_api", .clientApi, []⟩]
  classes := #[⟨"event", [("event", .primitive "int" none)], false⟩]

lemma identifierNamed_eventContract : IdentifierNamed eventContract where
  operations := by decide
  enums name members hd := by
    have hmem : .enum name members ∈ [.cls 0, Descriptor.primitive "int" none] :=
      hd.mem (by decide) (by decide)
    simp at hmem
  classes := by decide

/-- The parameter has its mark, and the class has none, neither in its header nor where it is the type of
the parameter. -/
theorem reserved_words_eventContract : Contract.ofText eventText unnamedSource = .ok eventContract ∧
    IdentifierNamed eventContract ∧
    ∃ model, (build {} eventContract "Games.Net" "Proxy" []).1 = .ok model ∧
      "protected async Task raise(event @event)" ∈ contents (classLines model.proxy) ∧
      (∃ d ∈ model.declarations, "public class event" ∈ contents (declarationLines d) ∧
        d.name ∈ keywords) ∧
      ¬ ∀ line ∈ filePieces model, Unreserved line := by
  have hread : (Contract.ofText eventText unnamedSource).toOption = some eventContract := by
    decide +kernel
  have hbuild : ∃ model, (build {} eventContract "Games.Net" "Proxy" []).1 = .ok model ∧
      "protected async Task raise(event @event)" ∈ contents (classLines model.proxy) ∧
      ∃ d ∈ model.declarations, "public class event" ∈ contents (declarationLines d) ∧
        d.name ∈ keywords :=
    ⟨_, rfl, by decide +kernel, by decide +kernel⟩
  obtain ⟨model, hmodel, hproxy, hdeclared⟩ := hbuild
  refine ⟨eq_ok_of_toOption hread, identifierNamed_eventContract, model, hmodel, hproxy, hdeclared,
    fun hfree => ?_⟩
  obtain ⟨d, hd, -, hname⟩ := hdeclared
  exact (unreserved_filePieces.mp hfree).2.2.1 d hd hname

end HubProxy.Proofs
