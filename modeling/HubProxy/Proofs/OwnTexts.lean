import HubProxy.Proofs.BuiltSource
import HubProxy.Proofs.ImportLines
import HubProxy.Proofs.WrittenNames

/-!
# What the emitter writes of its own

Besides names, a file of a build holds only texts from a list that no contract has a part in, and quoted
strings. So `filePieces` overlooks no place where a name is written.
-/

namespace HubProxy.Proofs

open CSharp

/-- The texts that are in no contract. -/
def fixedTexts : List String :=
  banner ++ knownSpaces.map (fun space => "using " ++ space ++ ";") ++ keywordTypes ++
    ["\x7b", "\x7d", ".", ",", ", ", ";", " ", "(", ")", "<", ">", "[]", "namespace ",
      "public partial class ", "public class ", "public interface ", "public enum ", "public ",
      "private ", " \x7b get; set; \x7d", "get", "set", "return ", " = value;", "this.", "await this.",
      "return this.", ".InvokeAsync(", ".On(", ".On<", ">(", ");"]

/-- A fixed text, the visibility of a member of the proxy or a quoted string. -/
def OwnText (visibility text : String) : Prop :=
  text ∈ fixedTexts ++ [visibility ++ " ", visibility ++ " async "] ∨ ∃ value, text = renderLiteral value

/-- What stands on a line besides names is the emitter's own. -/
def OwnTexts (visibility : String) (pieces : List Piece) : Prop :=
  ∀ text, .code text ∈ pieces → OwnText visibility text

section Lines

variable {visibility : String} {pieces pieces' : List Piece} {s : String}

lemma ownText_fixed (h : s ∈ fixedTexts) : OwnText visibility s :=
  .inl (List.mem_append_left _ h)

@[simp] lemma ownTexts_nil : OwnTexts visibility [] :=
  fun _ hmem => absurd hmem List.not_mem_nil

@[simp] lemma ownTexts_name {use : NameUse} {text : String} :
    OwnTexts visibility (.name use text :: pieces) ↔ OwnTexts visibility pieces := by
  simp [OwnTexts]

@[simp] lemma ownTexts_code : OwnTexts visibility (.code s :: pieces) ↔
    OwnText visibility s ∧ OwnTexts visibility pieces := by
  simp only [OwnTexts, List.mem_cons, Piece.code.injEq, forall_eq_or_imp]

lemma ownTexts_fixed (hs : s ∈ fixedTexts) (h : OwnTexts visibility pieces) :
    OwnTexts visibility (.code s :: pieces) :=
  ownTexts_code.mpr ⟨ownText_fixed hs, h⟩

@[simp] lemma ownTexts_append : OwnTexts visibility (pieces ++ pieces') ↔
    OwnTexts visibility pieces ∧ OwnTexts visibility pieces' := by
  simp only [OwnTexts, List.mem_append, or_imp, forall_and]

lemma ownTexts_intercalate {items : List (List Piece)} (hs : OwnText visibility s)
    (h : ∀ item ∈ items, OwnTexts visibility item) :
    OwnTexts visibility ([.code s].intercalate items) := by
  induction items with
  | nil => simp
  | cons item items ih =>
    have htail := ih fun i hi => h i (List.mem_cons_of_mem item hi)
    cases items with
    | nil => simpa using h item List.mem_cons_self
    | cons next items =>
      rw [List.intercalate_cons_cons, ownTexts_append, ownTexts_append, ownTexts_code]
      exact ⟨⟨h item List.mem_cons_self, hs, ownTexts_nil⟩, htail⟩

lemma ownTexts_commaPieces {items : List (List Piece)} (h : ∀ item ∈ items, OwnTexts visibility item) :
    OwnTexts visibility (commaPieces items) :=
  ownTexts_intercalate (ownText_fixed (by decide)) h

lemma ownTexts_baseTypePiece (name : String) : OwnTexts visibility [baseTypePiece name] := by
  have hwords : ∀ word ∈ keywordTypes, word ∈ fixedTexts := by decide
  unfold baseTypePiece
  split
  · next hword => exact ownTexts_fixed (hwords name hword) ownTexts_nil
  · simp

mutual

lemma ownTexts_typePieces (type : TypeReference) : OwnTexts visibility (typePieces type) := by
  rcases type with ⟨name, arguments, element⟩
  cases element with
  | some element =>
    rw [typePieces, ownTexts_append]
    exact ⟨ownTexts_typePieces element, ownTexts_fixed (by decide) ownTexts_nil⟩
  | none =>
    cases arguments with
    | nil =>
      rw [typePieces]
      exact ownTexts_baseTypePiece name
    | cons argument rest =>
      have hlist := ownTexts_commaPieces
        (List.forall_mem_cons.mpr ⟨ownTexts_typePieces argument, ownTexts_typesPieces rest⟩)
      rw [typePieces, ← List.singleton_append, ownTexts_append]
      exact ⟨ownTexts_baseTypePiece name, ownTexts_fixed (by decide)
        (ownTexts_append.mpr ⟨hlist, ownTexts_fixed (by decide) ownTexts_nil⟩)⟩

lemma ownTexts_typesPieces (types : List TypeReference) :
    ∀ pieces ∈ typesPieces types, OwnTexts visibility pieces := by
  cases types with
  | nil =>
    rw [typesPieces]
    exact fun _ hmem => absurd hmem List.not_mem_nil
  | cons type rest =>
    rw [typesPieces]
    exact List.forall_mem_cons.mpr ⟨ownTexts_typePieces type, ownTexts_typesPieces rest⟩

end

/-- A type and a name with a space between them. -/
lemma ownTexts_typed (type : TypeReference) (use : NameUse) (name : String) :
    OwnTexts visibility (typePieces type ++ [.code " ", .name use name]) :=
  ownTexts_append.mpr ⟨ownTexts_typePieces type, ownTexts_fixed (by decide) (by simp)⟩

lemma ownTexts_memberPieces {modifiers name : String} {type : TypeReference} {use : NameUse}
    (hmodifiers : OwnText visibility (modifiers ++ " ")) :
    OwnTexts visibility (memberPieces modifiers type use name) :=
  ownTexts_code.mpr ⟨hmodifiers, ownTexts_typed type use name⟩

lemma ownTexts_argumentPieces (e : Expression) : OwnTexts visibility (argumentPieces e) := by
  cases e with
  | literal value => exact ownTexts_code.mpr ⟨.inr ⟨value, rfl⟩, ownTexts_nil⟩
  | «variable» name => simp [argumentPieces]

lemma ownTexts_brace : ∀ brace ∈ ["\x7b", "\x7d"], OwnTexts visibility [.code brace] := by
  have hall : ∀ brace ∈ ["\x7b", "\x7d"], brace ∈ fixedTexts := by decide
  exact fun brace hbrace => ownTexts_fixed (hall brace hbrace) ownTexts_nil

end Lines

section Members

variable {visibility modifiers : String} {classes : ClassTable} {p : String × Descriptor}

lemma ownTexts_fieldPieces :
    OwnTexts visibility (fieldPieces (memberDeclaration classes modifiers p).field) := by
  have hprivate : OwnText visibility ("private" ++ " ") := ownText_fixed (by decide)
  exact ownTexts_append.mpr ⟨ownTexts_memberPieces hprivate, ownTexts_fixed (by decide) ownTexts_nil⟩

lemma ownTexts_interfacePropertyPieces :
    OwnTexts visibility (interfacePropertyPieces (memberDeclaration classes modifiers p)) := by
  have haccessors : " \x7b " ++ " ".intercalate ["get;", "set;"] ++ " \x7d" ∈ fixedTexts := by
    decide +kernel
  refine ownTexts_append.mpr ⟨ownTexts_typePieces _, ownTexts_fixed (by decide) ?_⟩
  exact ownTexts_name.mpr (ownTexts_fixed haccessors ownTexts_nil)

lemma ownTexts_propertyPieces (hmodifiers : OwnText visibility (modifiers ++ " ")) :
    ∀ line ∈ propertyPieces (memberDeclaration classes modifiers p), OwnTexts visibility line := by
  have hwords : ∀ word ∈ ["get", "set"], word ∈ fixedTexts := by decide
  have hfield : ∀ (name s : String), s ∈ fixedTexts →
      OwnTexts visibility [.code "this.", .name .field name, .code s] := fun name s hs =>
    ownTexts_fixed (by decide) (ownTexts_name.mpr (ownTexts_fixed hs ownTexts_nil))
  exact (forall_mem_propertyPieces ownTexts_brace
    (fun word hword => ownTexts_fixed (hwords word hword) ownTexts_nil)
    (ownTexts_fixed (by decide) (hfield _ ";" (by decide))) (hfield _ " = value;" (by decide))).mpr
      (ownTexts_memberPieces hmodifiers)

/-- A statement that makes a call of a method which the emitter knows. -/
lemma ownTexts_statementPieces {s : CallStatement}
    (hstart : (if s.returns then "return " else "") ++ (if s.awaited then "await " else "") ++ "this." ∈
      fixedTexts)
    (hplain : s.call.typeArguments = [] → "." ++ s.call.method ++ "(" ∈ fixedTexts)
    (hgeneric : s.call.typeArguments ≠ [] → "." ++ s.call.method ++ "<" ∈ fixedTexts) :
    OwnTexts visibility (statementPieces s) := by
  have hmethod : OwnTexts visibility (methodNamePieces s.call.method s.call.typeArguments) := by
    unfold methodNamePieces
    split
    · next hempty => exact ownTexts_fixed (hplain (List.isEmpty_iff.mp hempty)) ownTexts_nil
    · next hempty =>
      refine ownTexts_fixed (hgeneric fun hnil => hempty (by rw [hnil]; rfl)) ?_
      exact ownTexts_append.mpr ⟨ownTexts_commaPieces (ownTexts_typesPieces _),
        ownTexts_fixed (by decide) ownTexts_nil⟩
  have harguments : OwnTexts visibility (commaPieces (s.call.arguments.map argumentPieces)) :=
    ownTexts_commaPieces (List.forall_mem_map.mpr fun e _ => ownTexts_argumentPieces e)
  refine ownTexts_fixed hstart (ownTexts_name.mpr (ownTexts_append.mpr ⟨hmethod, ?_⟩))
  exact ownTexts_append.mpr ⟨harguments, ownTexts_fixed (by decide) ownTexts_nil⟩

lemma ownTexts_methodPieces {m : MethodDeclaration}
    (hmodifiers : OwnText visibility (m.visibility ++ (if m.isAsync then " async" else "") ++ " "))
    (hbody : ∀ s ∈ m.body, OwnTexts visibility (statementPieces s)) :
    ∀ line ∈ methodPieces m, OwnTexts visibility line := by
  have hparameters : OwnTexts visibility (commaPieces (m.parameters.map parameterPieces)) :=
    ownTexts_commaPieces (List.forall_mem_map.mpr fun p _ => ownTexts_typed p.type .parameter p.name)
  refine (forall_mem_methodPieces ownTexts_brace).mpr ⟨?_, hbody⟩
  refine ownTexts_append.mpr ⟨ownTexts_memberPieces hmodifiers, ownTexts_fixed (by decide) ?_⟩
  exact ownTexts_append.mpr ⟨hparameters, ownTexts_fixed (by decide) ownTexts_nil⟩

variable {options : MethodOptions} {connection : String} {o : Operation}

lemma ownTexts_methodOf (hvisibility : options.visibility = visibility) :
    ∀ line ∈ methodPieces (methodOf classes options connection o), OwnTexts visibility line := by
  subst hvisibility
  have hasync : OwnText options.visibility (options.visibility ++ " async" ++ " ") := by
    rw [String.append_assoc]
    exact .inl (by simp)
  have hplain : OwnText options.visibility (options.visibility ++ "" ++ " ") := by
    rw [String.append_empty]
    exact .inl (by simp)
  cases hd : o.direction with
  | serverReceived =>
    rw [methodOf, hd]
    refine ownTexts_methodPieces hasync (List.forall_mem_singleton.mpr ?_)
    have htexts : "" ++ "await " ++ "this." ∈ fixedTexts ∧ "." ++ "InvokeAsync" ++ "(" ∈ fixedTexts := by
      decide
    exact ownTexts_statementPieces htexts.1 (fun _ => htexts.2) fun hnil => absurd rfl hnil
  | clientInvoked =>
    rw [methodOf, hd]
    refine ownTexts_methodPieces hplain (List.forall_mem_singleton.mpr ?_)
    have htexts : "return " ++ "" ++ "this." ∈ fixedTexts ∧ "." ++ "On" ++ "(" ∈ fixedTexts ∧
        "." ++ "On" ++ "<" ∈ fixedTexts := by
      decide
    exact ownTexts_statementPieces htexts.1 (fun _ => htexts.2.1) fun _ => htexts.2.2

end Members

section Files

variable {options : BuildOptions} {m : Metadata} {existing : List String}
  {operations : List Operation} {r : Registry}

lemma ownTexts_classDeclaration {visibility : String} {classes : ClassTable} (c : ClassDef) :
    ∀ line ∈ classPieces (classDeclaration classes "public" c), OwnTexts visibility line := by
  have hheader : ∀ flag : Bool,
      "public" ++ " " ++ (if flag then "interface" else "class") ++ " " ∈ fixedTexts := by decide
  have hpublic : OwnText visibility ("public" ++ " ") := ownText_fixed (by decide)
  refine (forall_mem_classPieces ownTexts_brace).mpr
    ⟨ownTexts_fixed (hheader c.isInterface) (by simp), ?_, by simp [classDeclaration]⟩
  rw [memberBlockPieces, classDeclaration, List.map_map, List.map_map, List.flatMap_map]
  split
  · exact List.forall_mem_map.mpr fun p _ => ownTexts_interfacePropertyPieces
  · exact List.forall_mem_append.mpr ⟨List.forall_mem_map.mpr fun p _ => ownTexts_fieldPieces,
      List.forall_mem_flatMap.mpr fun p _ => ownTexts_propertyPieces hpublic⟩

lemma Ended.ownTexts_declarationPieces (h : Ended options m existing operations r)
    {visibility : String} {d : TypeDeclaration} (hd : d ∈ r.declarations) :
    ∀ line ∈ declarationPieces d, OwnTexts visibility line := by
  rcases h.declaration_cases hd with ⟨name, members, -, -, rfl⟩ | ⟨id, c, -, -, -, rfl, -⟩
  · have hheader : "public" ++ " enum " ∈ fixedTexts := by decide
    refine (forall_mem_blockPieces ownTexts_brace).mpr ⟨ownTexts_fixed hheader (by simp), ?_⟩
    exact forall_mem_memberListPieces (by simp)
      (fun name => ownTexts_name.mpr (ownTexts_fixed (by decide) ownTexts_nil)) members
  · exact ownTexts_classDeclaration c

lemma ownTexts_proxy (ns className : String) :
    ∀ line ∈ classPieces (modelOf options m ns className operations r).proxy,
      OwnTexts options.visibility line := by
  have hheader : "public" ++ " partial " ++ "class" ++ " " ∈ fixedTexts := by decide
  have hmodifiers : OwnText options.visibility (options.visibility ++ " ") := .inl (by simp)
  refine (forall_mem_classPieces ownTexts_brace).mpr
    ⟨ownTexts_fixed hheader (by simp), ?_, List.forall_mem_map.mpr fun o _ => ownTexts_methodOf rfl⟩
  exact List.forall_mem_append.mpr ⟨List.forall_mem_singleton.mpr ownTexts_fieldPieces,
    List.forall_mem_flatMap.mpr (List.forall_mem_singleton.mpr (ownTexts_propertyPieces hmodifiers))⟩

/-- Besides names, a file of a build holds nothing but the emitter's own texts. -/
theorem Ended.ownTexts_filePieces (h : Ended options m existing operations r) (hk : KnownContract m)
    (ns className : String) : ∀ line ∈ filePieces (modelOf options m ns className operations r),
      OwnTexts options.visibility line := by
  have hbanner : ∀ text ∈ banner, text ∈ fixedTexts := by decide +kernel
  have hspaces : ∀ space ∈ knownSpaces, "using " ++ space ++ ";" ∈ fixedTexts := by decide +kernel
  refine (forall_mem_filePieces ownTexts_brace (fun text htext => ?_) fun space hspace => ?_).mpr
    ⟨fun _ => ?_, ownTexts_proxy ns className, fun d hd => h.ownTexts_declarationPieces hd⟩
  · exact ownTexts_fixed (hbanner text htext) ownTexts_nil
  · have hknown := h.mem_knownSpaces hk space (mem_sortImports.mp hspace)
    exact ownTexts_fixed (hspaces space hknown) ownTexts_nil
  · exact ownTexts_fixed (by decide)
      (ownTexts_intercalate (ownText_fixed (by decide)) (List.forall_mem_map.mpr fun _ _ => by simp))

end Files

end HubProxy.Proofs
