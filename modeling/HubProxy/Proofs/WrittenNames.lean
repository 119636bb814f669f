import HubProxy.CSharp.Emit
import HubProxy.Contract.Primitive
import HubProxy.Proofs.EmittedSource

/-!
# Where names are written

Every line of a file is made of text of the emitter's own and of names from the model, each of which
stands for something. `filePieces` takes a file apart in this way, and what its pieces spell is what the
file says. It shows in which places a reserved word gets its mark.
-/

namespace HubProxy.Proofs

open CSharp

/-- What a name stands for where it is written. -/
inductive NameUse where
  | nameSpace
  | header
  | reference
  | field
  | property
  | method
  | parameter
  | argument
  | enumMember
  deriving DecidableEq

/-- Whether a reserved word gets its mark there. -/
def NameUse.isMarked : NameUse → Bool
  | .nameSpace | .header | .reference => false
  | _ => true

/-- Text of the emitter's own, or a name. -/
inductive Piece where
  | code (text : String)
  | name (use : NameUse) (text : String)
  deriving DecidableEq

def Piece.written : Piece → String
  | .code text => text
  | .name use text => if use.isMarked then escapeIdentifier text else text

/-- What is written for pieces that stand side by side. -/
def spell (pieces : List Piece) : String :=
  String.join (pieces.map Piece.written)

def commaPieces (items : List (List Piece)) : List Piece :=
  [.code ", "].intercalate items

section Pieces

/-- The name of a type that is referred to. The words that the language has for types are no names. -/
def baseTypePiece (name : String) : Piece :=
  if name ∈ keywordTypes then .code name else .name .reference name

mutual

def typePieces : TypeReference → List Piece
  | ⟨_, _, some element⟩ => typePieces element ++ [.code "[]"]
  | ⟨name, [], none⟩ => [baseTypePiece name]
  | ⟨name, argument :: rest, none⟩ =>
    baseTypePiece name :: .code "<" ::
      (commaPieces (typePieces argument :: typesPieces rest) ++ [.code ">"])

def typesPieces : List TypeReference → List (List Piece)
  | [] => []
  | type :: rest => typePieces type :: typesPieces rest

end

/-- The visibility, the type and the name of a member. -/
def memberPieces (visibility : String) (type : TypeReference) (use : NameUse) (name : String) :
    List Piece :=
  .code (visibility ++ " ") :: (typePieces type ++ [.code " ", .name use name])

/-- A block: its header and, in braces, its body. -/
def blockPieces (header : List Piece) (body : List (List Piece)) : List (List Piece) :=
  header :: [.code "\x7b"] :: (body ++ [[.code "\x7d"]])

def fieldPieces (f : FieldDeclaration) : List Piece :=
  memberPieces f.visibility f.type .field f.name ++ [.code ";"]

def interfacePropertyPieces (p : PropertyDeclaration) : List Piece :=
  let accessors := (if p.hasGet then ["get;"] else []) ++ (if p.hasSet then ["set;"] else [])
  typePieces p.type ++
    [.code " ", .name .property p.name, .code (" \x7b " ++ " ".intercalate accessors ++ " \x7d")]

def propertyPieces (p : PropertyDeclaration) : List (List Piece) :=
  let field := Piece.name .field p.field.name
  let getter := if p.hasGet then
    blockPieces [.code "get"] [[.code "return ", .code "this.", field, .code ";"]] else []
  let setter := if p.hasSet then
    blockPieces [.code "set"] [[.code "this.", field, .code " = value;"]] else []
  blockPieces (memberPieces p.visibility p.type .property p.name) (getter ++ setter)

def parameterPieces (p : Parameter) : List Piece :=
  typePieces p.type ++ [.code " ", .name .parameter p.name]

def argumentPieces : Expression → List Piece
  | .literal value => [.code (renderLiteral value)]
  | .variable name => [.name .argument name]

/-- The dot, the method and the type arguments of a call, up to the parenthesis. -/
def methodNamePieces (method : String) (types : List TypeReference) : List Piece :=
  if types.isEmpty then [.code ("." ++ method ++ "(")]
  else .code ("." ++ method ++ "<") :: (commaPieces (typesPieces types) ++ [.code ">("])

/-- A statement. The member that its call goes to is a property of the proxy. -/
def statementPieces (s : CallStatement) : List Piece :=
  let start := (if s.returns then "return " else "") ++ (if s.awaited then "await " else "") ++ "this."
  let arguments := commaPieces (s.call.arguments.map argumentPieces)
  .code start :: .name .property s.call.target ::
    (methodNamePieces s.call.method s.call.typeArguments ++ (arguments ++ [.code ");"]))

def methodHeaderPieces (m : MethodDeclaration) : List Piece :=
  let modifiers := m.visibility ++ (if m.isAsync then " async" else "")
  memberPieces modifiers m.returnType .method m.name ++
    .code "(" :: (commaPieces (m.parameters.map parameterPieces) ++ [.code ")"])

def methodPieces (m : MethodDeclaration) : List (List Piece) :=
  blockPieces (methodHeaderPieces m) (m.body.map statementPieces)

def classHeaderPieces (c : ClassDeclaration) : List Piece :=
  let kind := if c.isInterface then "interface" else "class"
  [.code (c.visibility ++ (if c.isPartial then " partial " else " ") ++ kind ++ " "),
    .name .header c.name]

/-- The properties of an interface, or the fields and the properties of a class. -/
def memberBlockPieces (c : ClassDeclaration) : List (List Piece) :=
  if c.isInterface then c.properties.map interfacePropertyPieces
  else c.properties.map (fun p => fieldPieces p.field) ++ c.properties.flatMap propertyPieces

def classPieces (c : ClassDeclaration) : List (List Piece) :=
  blockPieces (classHeaderPieces c) (memberBlockPieces c ++ c.methods.flatMap methodPieces)

/-- The members of an enumeration, with a comma after each but the last. -/
def memberListPieces : List String → List (List Piece)
  | [] => []
  | [name] => [[.name .enumMember name]]
  | name :: rest => [.name .enumMember name, .code ","] :: memberListPieces rest

def declarationPieces : TypeDeclaration → List (List Piece)
  | .cls c => classPieces c
  | .enum e =>
    blockPieces [.code (e.visibility ++ " enum "), .name .header e.name] (memberListPieces e.members)

/-- The names between the dots of a namespace. -/
def nameSegments (ns : String) : List String :=
  (ns.toList.splitOn '.').map String.ofList

def namespacePieces (ns : String) : List Piece :=
  .code "namespace " ::
    [.code "."].intercalate ((nameSegments ns).map fun segment => [.name .nameSpace segment])

def contentPieces (m : ApiModel) : List (List Piece) :=
  (sortImports m.imports).map (fun space => [.code ("using " ++ space ++ ";")]) ++
    (classPieces m.proxy ++ m.declarations.flatMap declarationPieces)

/-- The pieces of a file, line by line. -/
def filePieces (m : ApiModel) : List (List Piece) :=
  banner.map (fun line => [.code line]) ++
    if m.ns = "" then contentPieces m else blockPieces (namespacePieces m.ns) (contentPieces m)

end Pieces

section Spelling

@[simp] lemma written_code (text : String) : (Piece.code text).written = text := rfl

lemma written_name (use : NameUse) (text : String) : (Piece.name use text).written =
    if use.isMarked then escapeIdentifier text else text := rfl

@[simp] lemma written_baseTypePiece (name : String) : (baseTypePiece name).written = name := by
  unfold baseTypePiece
  split <;> rfl

@[simp] lemma spell_nil : spell [] = "" := rfl

@[simp] lemma spell_cons (p : Piece) (pieces : List Piece) :
    spell (p :: pieces) = p.written ++ spell pieces := by
  simp [spell]

@[simp] lemma spell_append (pieces pieces' : List Piece) :
    spell (pieces ++ pieces') = spell pieces ++ spell pieces' := by
  simp [spell, String.join_append]

lemma spell_intercalate (separator : String) (items : List (List Piece)) :
    spell ([.code separator].intercalate items) = separator.intercalate (items.map spell) := by
  induction items with
  | nil => simp
  | cons item items ih =>
    cases items with
    | nil => simp [String.intercalate_singleton]
    | cons next items =>
      rw [List.intercalate_cons_cons, List.map_cons, List.map_cons, String.intercalate_cons_cons,
        ← List.map_cons, ← ih]
      simp [String.append_assoc]

@[simp] lemma spell_commaPieces (items : List (List Piece)) :
    spell (commaPieces items) = ", ".intercalate (items.map spell) :=
  spell_intercalate ", " items

mutual

@[simp] lemma spell_typePieces (type : TypeReference) : spell (typePieces type) = renderType type := by
  rcases type with ⟨name, arguments, element⟩
  cases element with
  | some element => simp [typePieces, renderType, spell_typePieces element]
  | none =>
    cases arguments with
    | nil => simp [typePieces, renderType]
    | cons argument rest =>
      simp [typePieces, renderType, spell_typePieces argument, map_spell_typesPieces rest,
        String.append_assoc]

@[simp] lemma map_spell_typesPieces (types : List TypeReference) :
    (typesPieces types).map spell = renderTypes types := by
  cases types with
  | nil => simp [typesPieces, renderTypes]
  | cons type rest =>
    simp [typesPieces, renderTypes, spell_typePieces type, map_spell_typesPieces rest]

end

lemma spell_memberPieces {visibility name : String} {type : TypeReference} {use : NameUse}
    (huse : use.isMarked = true) :
    spell (memberPieces visibility type use name) = memberHeader visibility type name := by
  simp [memberPieces, memberHeader, written_name, huse, String.append_assoc]

lemma spell_fieldPieces (f : FieldDeclaration) : spell (fieldPieces f) = fieldLine f := by
  rw [fieldPieces, spell_append, spell_memberPieces rfl]
  simp [fieldLine]

lemma spell_interfacePropertyPieces (p : PropertyDeclaration) :
    spell (interfacePropertyPieces p) = interfacePropertyLine p := by
  simp [interfacePropertyPieces, interfacePropertyLine, written_name, NameUse.isMarked,
    String.append_assoc]

lemma spell_parameterPieces (p : Parameter) : spell (parameterPieces p) = renderParameter p := by
  simp [parameterPieces, renderParameter, written_name, NameUse.isMarked, String.append_assoc]

lemma spell_argumentPieces (e : Expression) : spell (argumentPieces e) = renderExpression e := by
  cases e <;> simp [argumentPieces, renderExpression, written_name, NameUse.isMarked]

lemma spell_methodNamePieces (method : String) (types : List TypeReference) :
    spell (methodNamePieces method types) = "." ++ method ++
      (if types.isEmpty then "" else "<" ++ ", ".intercalate (renderTypes types) ++ ">") ++ "(" := by
  have hclose : ">(" = ">" ++ "(" := rfl
  unfold methodNamePieces
  split
  · simp
  · simp [hclose, String.append_assoc]

lemma spell_statementPieces (s : CallStatement) : spell (statementPieces s) = renderStatement s := by
  have harguments : (s.call.arguments.map argumentPieces).map spell =
      s.call.arguments.map renderExpression := by
    simp [Function.comp_def, spell_argumentPieces]
  have hend : ");" = ")" ++ ";" := rfl
  simp only [statementPieces, spell_append, spell_cons, spell_nil, written_code, written_name,
    spell_methodNamePieces, spell_commaPieces, harguments, renderStatement, renderCall,
    NameUse.isMarked, if_true, hend, String.append_assoc, String.append_empty]

end Spelling

section Lines

/-- What stands on a line, if it is not empty. -/
def content? : Line → Option String
  | .text _ content => some content
  | .gap => none

/-- What stands on the lines that are not empty. -/
def contents (lines : List Line) : List String :=
  lines.filterMap content?

@[simp] lemma contents_append (lines lines' : List Line) :
    contents (lines ++ lines') = contents lines ++ contents lines' :=
  List.filterMap_append

@[simp] lemma contents_text (depth : Nat) (content : String) (lines : List Line) :
    contents (.text depth content :: lines) = content :: contents lines := rfl

@[simp] lemma contents_gap (lines : List Line) : contents (.gap :: lines) = contents lines := rfl

@[simp] lemma contents_nil : contents [] = [] := rfl

lemma contents_map_text {l : List α} {f : α → String} :
    contents (l.map fun a => .text 0 (f a)) = l.map f := by
  induction l with
  | nil => rfl
  | cons a l ih => simp [ih]

@[simp] lemma contents_deepen (lines : List Line) :
    contents (lines.map Line.deepen) = contents lines := by
  induction lines with
  | nil => rfl
  | cons line lines ih => cases line <;> simp [Line.deepen, ih]

@[simp] lemma contents_braced (header : String) (body : List Line) :
    contents (braced header body) = header :: "\x7b" :: (contents body ++ ["\x7d"]) := by
  simp [braced]

@[simp] lemma contents_separate (groups : List (List Line)) :
    contents (separate groups) = groups.flatMap contents := by
  induction groups with
  | nil => rfl
  | cons group groups ih =>
    cases groups with
    | nil => simp [separate]
    | cons next groups =>
      have hsplit : separate (group :: next :: groups) =
        group ++ .gap :: separate (next :: groups) := rfl
      rw [hsplit, contents_append, contents_gap, ih]
      rfl

@[simp] lemma map_spell_blockPieces (header : List Piece) (body : List (List Piece)) :
    (blockPieces header body).map spell = spell header :: "\x7b" :: (body.map spell ++ ["\x7d"]) := by
  simp [blockPieces]

lemma map_spell_propertyPieces (p : PropertyDeclaration) :
    (propertyPieces p).map spell = contents (propertyLines p) := by
  have hheader : spell (memberPieces p.visibility p.type .property p.name) =
      memberHeader p.visibility p.type p.name := spell_memberPieces rfl
  cases hget : p.hasGet <;> cases hset : p.hasSet <;>
    simp [propertyPieces, propertyLines, hget, hset, hheader, written_name,
      NameUse.isMarked, String.append_assoc]

lemma map_spell_methodPieces (m : MethodDeclaration) :
    (methodPieces m).map spell = contents (methodLines m) := by
  have hheader : ∀ modifiers, spell (memberPieces modifiers m.returnType .method m.name) =
      memberHeader modifiers m.returnType m.name := fun _ => spell_memberPieces rfl
  have hparameters : (m.parameters.map parameterPieces).map spell =
      m.parameters.map renderParameter := by
    simp [Function.comp_def, spell_parameterPieces]
  have hbody : (m.body.map statementPieces).map spell = m.body.map renderStatement := by
    simp [Function.comp_def, spell_statementPieces]
  simp only [methodPieces, methodHeaderPieces, methodLines, map_spell_blockPieces, contents_braced, hbody, hheader,
    contents_map_text, spell_append, spell_cons, spell_nil, written_code, spell_commaPieces,
    hparameters, String.append_assoc, String.append_empty]

lemma map_spell_flatMap {f : α → List (List Piece)} {g : α → List Line} {l : List α}
    (h : ∀ a ∈ l, (f a).map spell = contents (g a)) :
    (l.flatMap f).map spell = (l.map g).flatMap contents := by
  rw [List.map_flatMap, List.flatMap_map]
  exact List.flatMap_congr h

lemma map_spell_memberBlockPieces (c : ClassDeclaration) : (memberBlockPieces c).map spell =
      (if c.isInterface then c.properties.map fun p => [.text 0 (interfacePropertyLine p)]
        else (if c.properties.isEmpty then []
          else [c.properties.map fun p => .text 0 (fieldLine p.field)]) ++
            c.properties.map propertyLines).flatMap contents := by
  have hproperties := map_spell_flatMap (l := c.properties) fun p _ => map_spell_propertyPieces p
  unfold memberBlockPieces
  cases c.isInterface with
  | true =>
    simp [Function.comp_def, spell_interfacePropertyPieces, List.flatMap_map, ← List.map_eq_flatMap]
  | false =>
    have hfields : ((if c.properties.isEmpty then []
        else [c.properties.map fun p => Line.text 0 (fieldLine p.field)]).flatMap contents) =
          c.properties.map fun p => fieldLine p.field := by
      cases c.properties <;> simp [contents_map_text]
    rw [if_neg (by decide), if_neg (by decide), List.map_append, hproperties, List.flatMap_append,
      hfields]
    simp [Function.comp_def, spell_fieldPieces]

lemma map_spell_classPieces (c : ClassDeclaration) :
    (classPieces c).map spell = contents (classLines c) := by
  have hmethods := map_spell_flatMap (l := c.methods) fun m _ => map_spell_methodPieces m
  have hproperties := map_spell_memberBlockPieces c
  simp only [classPieces, classHeaderPieces, classLines, map_spell_blockPieces, contents_braced, contents_separate,
    List.map_append, List.flatMap_append, hmethods, hproperties, spell_cons, spell_nil, written_code,
    written_name, NameUse.isMarked, String.append_assoc, String.append_empty, Bool.false_eq_true,
    if_false]

lemma map_spell_memberListPieces (members : List String) :
    (memberListPieces members).map spell = contents (memberLines members) := by
  induction members with
  | nil => rfl
  | cons name rest ih =>
    cases rest with
    | nil => simp [memberListPieces, memberLines, written_name, NameUse.isMarked]
    | cons next rest =>
      have hpieces : memberListPieces (name :: next :: rest) =
        [.name .enumMember name, .code ","] :: memberListPieces (next :: rest) := rfl
      have hlines : memberLines (name :: next :: rest) =
        .text 0 (escapeIdentifier name ++ ",") :: memberLines (next :: rest) := rfl
      rw [hpieces, hlines, List.map_cons, contents_text, ih]
      simp [written_name, NameUse.isMarked]

lemma map_spell_declarationPieces (d : TypeDeclaration) :
    (declarationPieces d).map spell = contents (declarationLines d) := by
  cases d with
  | cls c => exact map_spell_classPieces c
  | enum e =>
    simp [declarationPieces, declarationLines, enumLines, map_spell_memberListPieces, written_name,
      NameUse.isMarked, String.append_assoc]

lemma intercalate_nameSegments (ns : String) : ".".intercalate (nameSegments ns) = ns := by
  have hdots : ".".toList = ['.'] := rfl
  rw [← String.toList_inj, String.toList_intercalate, nameSegments, List.map_map, hdots]
  simp [Function.comp_def]

lemma spell_namespacePieces (ns : String) : spell (namespacePieces ns) = "namespace " ++ ns := by
  have hsegments : ((nameSegments ns).map fun segment => [Piece.name .nameSpace segment]).map spell =
      nameSegments ns := by
    simp [Function.comp_def, written_name, NameUse.isMarked]
  rw [namespacePieces, spell_cons, written_code, spell_intercalate, hsegments,
    intercalate_nameSegments]

lemma contents_importLines (imports : List String) :
    contents (importLines imports) = (sortImports imports).map fun space => "using " ++ space ++ ";" := by
  cases himports : sortImports imports <;> simp [importLines, himports, contents_map_text]

lemma map_spell_contentPieces (m : ApiModel) :
    (contentPieces m).map spell = contents (contentLines m) := by
  have hdeclarations := map_spell_flatMap (l := m.declarations) fun d _ => map_spell_declarationPieces d
  simp only [contentPieces, contentLines, contents_append, contents_importLines, contents_separate,
    List.map_append, List.flatMap_cons, map_spell_classPieces, hdeclarations, List.map_map]
  simp [Function.comp_def]

/-- What stands on the lines of a file is what its pieces spell. -/
theorem map_spell_filePieces (m : ApiModel) :
    (filePieces m).map spell = contents (fileLines m) := by
  have hbanner : contents (banner.map (.text 0)) = banner := contents_map_text.trans (List.map_id' _)
  have hpieces : (banner.map fun line => [Piece.code line]).map spell = banner := by
    simp [Function.comp_def]
  rw [filePieces, fileLines, List.map_append, hpieces, contents_append, contents_append, hbanner]
  by_cases hns : m.ns = ""
  · rw [if_pos hns, if_pos hns, map_spell_contentPieces]
    rfl
  · rw [if_neg hns, if_neg hns, map_spell_blockPieces, map_spell_contentPieces, contents_braced,
      spell_namespacePieces]
    rfl

end Lines

section Conditions

variable {P : List Piece → Prop}

lemma forall_mem_memberListPieces (hname : ∀ name, P [.name .enumMember name])
    (hcomma : ∀ name, P [.name .enumMember name, .code ","]) (members : List String) :
    ∀ line ∈ memberListPieces members, P line := by
  induction members with
  | nil => exact fun _ hmem => absurd hmem List.not_mem_nil
  | cons name rest ih =>
    cases rest with
    | nil => exact List.forall_mem_singleton.mpr (hname name)
    | cons next rest => exact List.forall_mem_cons.mpr ⟨hcomma name, ih⟩

lemma forall_mem_typesPieces {types : List TypeReference} :
    (∀ pieces ∈ typesPieces types, P pieces) ↔ ∀ type ∈ types, P (typePieces type) := by
  induction types with
  | nil => simp [typesPieces]
  | cons type rest ih => simp [typesPieces, ih]

variable (hbrace : ∀ brace ∈ ["\x7b", "\x7d"], P [.code brace])

include hbrace

/-- What holds of braces on lines of their own holds of a block if it does of the header and the body. -/
lemma forall_mem_blockPieces {header : List Piece} {body : List (List Piece)} :
    (∀ line ∈ blockPieces header body, P line) ↔ P header ∧ ∀ line ∈ body, P line := by
  have hopen := hbrace "\x7b" (by decide)
  have hclose := hbrace "\x7d" (by decide)
  simp [blockPieces, or_imp, forall_and, hopen, hclose]

lemma forall_mem_propertyPieces {p : PropertyDeclaration}
    (hwords : ∀ word ∈ ["get", "set"], P [.code word])
    (hget : P [.code "return ", .code "this.", .name .field p.field.name, .code ";"])
    (hset : P [.code "this.", .name .field p.field.name, .code " = value;"]) :
    (∀ line ∈ propertyPieces p, P line) ↔ P (memberPieces p.visibility p.type .property p.name) := by
  have hblock : ∀ (flag : Bool), ∀ word ∈ ["get", "set"], ∀ line, P line →
      ∀ l ∈ (if flag then blockPieces [.code word] [line] else []), P l := by
    intro flag word hword line hline
    cases flag with
    | true =>
      exact (forall_mem_blockPieces hbrace).mpr ⟨hwords word hword, List.forall_mem_singleton.mpr hline⟩
    | false => exact fun _ hmem => absurd hmem List.not_mem_nil
  rw [propertyPieces, forall_mem_blockPieces hbrace]
  refine and_iff_left fun line hline => ?_
  rcases List.mem_append.mp hline with hline | hline
  · exact hblock p.hasGet "get" (by decide) _ hget line hline
  · exact hblock p.hasSet "set" (by decide) _ hset line hline

lemma forall_mem_methodPieces {m : MethodDeclaration} : (∀ line ∈ methodPieces m, P line) ↔
    P (methodHeaderPieces m) ∧ ∀ s ∈ m.body, P (statementPieces s) := by
  rw [methodPieces, forall_mem_blockPieces hbrace, List.forall_mem_map]

lemma forall_mem_classPieces {c : ClassDeclaration} : (∀ line ∈ classPieces c, P line) ↔
    P (classHeaderPieces c) ∧ (∀ line ∈ memberBlockPieces c, P line) ∧
      ∀ m ∈ c.methods, ∀ line ∈ methodPieces m, P line := by
  rw [classPieces, forall_mem_blockPieces hbrace, List.forall_mem_append, List.forall_mem_flatMap]

/-- What holds of the banner and of the imports holds of all lines of a file if it does of the namespace,
the proxy and the declarations. -/
lemma forall_mem_filePieces {m : ApiModel} (hbanner : ∀ text ∈ banner, P [.code text])
    (himports : ∀ space ∈ sortImports m.imports, P [.code ("using " ++ space ++ ";")]) :
    (∀ line ∈ filePieces m, P line) ↔ (m.ns ≠ "" → P (namespacePieces m.ns)) ∧
      (∀ line ∈ classPieces m.proxy, P line) ∧
        ∀ d ∈ m.declarations, ∀ line ∈ declarationPieces d, P line := by
  have hcontent : (∀ line ∈ contentPieces m, P line) ↔ (∀ line ∈ classPieces m.proxy, P line) ∧
      ∀ d ∈ m.declarations, ∀ line ∈ declarationPieces d, P line := by
    rw [contentPieces, List.forall_mem_append, List.forall_mem_append, List.forall_mem_flatMap]
    exact and_iff_right (List.forall_mem_map.mpr himports)
  rw [filePieces, List.forall_mem_append, and_iff_right (List.forall_mem_map.mpr hbanner)]
  by_cases hns : m.ns = ""
  · simp [hns, hcontent]
  · simp [hns, hcontent, forall_mem_blockPieces hbrace]

end Conditions

end HubProxy.Proofs
