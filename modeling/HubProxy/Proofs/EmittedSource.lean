import HubProxy.CSharp.Emit
import HubProxy.Proofs.SourceReading

/-!
# Reading emitted source

What the scanner finds in each piece that the emitter writes: a type mentions its arrays, a class or
an enumeration declares its name, and nothing else declares or mentions anything. The names in a model
must be such that they can be read, and its types must be arrays over plain names.
-/

namespace HubProxy.Proofs

open CSharp

def arrayReference (base : String) : Nat → TypeReference
  | 0 => .named base
  | rank + 1 => .arrayOf (arrayReference base rank)

/-- The name of an array after those of the arrays inside it. -/
def arraysOf : TypeReference → List String
  | ⟨name, _, some element⟩ => arraysOf element ++ [name]
  | _ => []

lemma name_arrayReference (base : String) (rank : Nat) :
    (arrayReference base rank).name = arrayName base rank := by
  induction rank with
  | zero => rfl
  | succ rank ih => rw [arrayReference, TypeReference.arrayOf, ih, arrayName]

lemma arraysOf_arrayReference (base : String) (rank : Nat) :
    arraysOf (arrayReference base rank) = arrayNames base rank := by
  induction rank with
  | zero => rfl
  | succ rank ih =>
    have hlast : arrayNames base (rank + 1) = arrayNames base rank ++ [arrayName base (rank + 1)] := by
      simp [arrayNames, List.range_succ]
    rw [arrayReference, TypeReference.arrayOf, arraysOf, ih, name_arrayReference, hlast, arrayName]

lemma brackets_succ (rank : Nat) : brackets (rank + 1) = brackets rank ++ "[]" := by
  induction rank with
  | zero => rfl
  | succ rank ih =>
    calc brackets (rank + 1 + 1) = "[]" ++ brackets (rank + 1) := rfl
      _ = "[]" ++ (brackets rank ++ "[]") := by rw [ih]
      _ = brackets (rank + 1) ++ "[]" := by rw [← String.append_assoc]; rfl

lemma renderType_arrayReference (base : String) (rank : Nat) :
    renderType (arrayReference base rank) = base ++ brackets rank := by
  induction rank with
  | zero => simp [arrayReference, TypeReference.named, renderType, brackets]
  | succ rank ih =>
    rw [arrayReference, TypeReference.arrayOf, renderType, ih, brackets_succ, String.append_assoc]

/-- A reference to a plain name, or to an array over one. -/
def PlainReference (type : TypeReference) : Prop :=
  ∃ base rank, type = arrayReference base rank ∧ IsIdentifier base ∧ Plain base

lemma reads_renderType {type : TypeReference} (h : PlainReference type) :
    Reads Solid (renderType type) [] (arraysOf type) Apart := by
  obtain ⟨base, rank, rfl, hbase, hplain⟩ := h
  rw [renderType_arrayReference, arraysOf_arrayReference]
  exact reads_array hbase hplain rank

lemma reads_space : Reads Spaced " " [] [] Solid :=
  reads_spaces (by decide) (by decide)

lemma reads_comma : Reads Marked ", " [] [] Solid :=
  (reads_separator ',' (by decide)).append reads_space fun _ => trivial

/-- A word of the language before a mark. -/
lemma reads_wordMark {w s : String} (hw : IsIdentifier w ∧ Plain w) {c : Char}
    (hc : c ∈ separators) (hs : w ++ String.singleton c = s) : Reads Solid s [] [] Anything := by
  have h := (reads_plain hw).append (reads_separator c hc) Marked.apart
  rwa [hs] at h

/-- A word of the language before a space. -/
lemma reads_wordSpace {w s : String} (hw : IsIdentifier w ∧ Plain w) (hs : w ++ " " = s) :
    Reads Solid s [] [] Solid := by
  have h := (reads_plain hw).append reads_space Spaced.apart
  rwa [hs] at h

section Lists

variable {f : α → String} {a : α → List String} {C : List Token → Prop}

/-- Each item of a list after a comma. -/
lemma reads_commaItems (hC : ∀ {ts}, Marked ts → C ts) {l : List α}
    (h : ∀ x ∈ l, Reads Solid (f x) [] (a x) C) :
    Reads Marked (String.join (l.map fun x => ", " ++ f x)) [] (l.flatMap a) Marked := by
  induction l with
  | nil => exact reads_empty Marked
  | cons x l ih =>
    have hitem := (reads_comma.append (h x List.mem_cons_self) id).append
      (ih fun y hy => h y (List.mem_cons_of_mem x hy)) hC
    rw [List.map_cons, String.join_cons, List.flatMap_cons]
    exact hitem

lemma intercalate_cons (x : String) (l : List String) :
    ", ".intercalate (x :: l) = x ++ String.join (l.map (", " ++ ·)) := by
  induction l generalizing x with
  | nil => simp [String.intercalate_singleton]
  | cons y l ih => rw [String.intercalate_cons_cons, ih, List.map_cons, String.join_cons,
      String.append_assoc, String.append_assoc]

lemma reads_commaList (hC : ∀ {ts}, Marked ts → C ts) {x : α} {l : List α}
    {S : List Token → Prop} (hx : Reads S (f x) [] (a x) C)
    (h : ∀ y ∈ l, Reads Solid (f y) [] (a y) C) :
    Reads S (", ".intercalate (f x :: l.map f)) [] ((x :: l).flatMap a) Marked := by
  have hitems := reads_commaItems hC h
  rw [intercalate_cons, List.map_map, List.flatMap_cons]
  exact hx.append hitems hC

end Lists

section Lines

/-- A line some steps further in, with the line feed before it. -/
def lineText (n : Nat) : Line → String
  | .text depth content => "\n" ++ String.ofList (List.replicate (4 * (depth + n)) ' ') ++ content
  | .gap => "\n"

def linesText (n : Nat) (lines : List Line) : String :=
  String.join (lines.map (lineText n))

/-- White space before a mark, such as before the brace that closes a block. -/
def Closing (ts : List Token) : Prop :=
  Stop ts ∧ Spaced ts

/-- Reading lines at whatever depth. -/
def ReadsLines (lines : List Line) (names arrays : List String) (C : List Token → Prop) : Prop :=
  ∀ n, Reads Spaced (linesText n lines) names arrays C

lemma ReadsLines.mono {lines : List Line} {names arrays : List String} {C D : List Token → Prop}
    (h : ReadsLines lines names arrays C) (hC : ∀ {ts}, D ts → C ts) :
    ReadsLines lines names arrays D :=
  fun n => (h n).mono id hC

lemma readsLines_nil : ReadsLines [] [] [] Spaced :=
  fun _ => reads_empty Spaced

lemma ReadsLines.append {lines lines' : List Line} {n n' a a' : List String}
    {C : List Token → Prop} (h : ReadsLines lines n a Spaced) (h' : ReadsLines lines' n' a' C) :
    ReadsLines (lines ++ lines') (n ++ n') (a ++ a') C := by
  intro depth
  rw [linesText, List.map_append, String.join_append]
  exact (h depth).append (h' depth) id

lemma isSpace_indent (n : Nat) :
    ("\n" ++ String.ofList (List.replicate n ' ')).toList ≠ [] ∧
      ∀ c ∈ ("\n" ++ String.ofList (List.replicate n ' ')).toList, IsSpace c := by
  simp only [String.toList_append, String.toList_ofList]
  refine ⟨by simp, fun c hc => ?_⟩
  rcases List.mem_append.mp hc with hc | hc
  · exact .inr (by simpa using hc)
  · exact .inl (List.eq_of_mem_replicate hc)

lemma reads_indent (n : Nat) :
    Reads Spaced ("\n" ++ String.ofList (List.replicate n ' ')) [] [] Solid :=
  reads_spaces (isSpace_indent n).1 (isSpace_indent n).2

lemma reads_indent_marked (n : Nat) :
    Reads Closing ("\n" ++ String.ofList (List.replicate n ' ')) [] [] Marked :=
  reads_spaces_marked (isSpace_indent n).1 (isSpace_indent n).2

lemma linesText_singleton (n : Nat) (line : Line) : linesText n [line] = lineText n line := by
  rw [linesText, List.map_singleton, String.join_cons, String.join_nil, String.append_empty]

lemma readsLines_text {content : String} {names arrays : List String} {C : List Token → Prop}
    (depth : Nat) (h : Reads Solid content names arrays C) :
    ReadsLines [.text depth content] names arrays C := by
  intro n
  rw [linesText_singleton]
  exact (reads_indent (4 * (depth + n))).append h id

lemma readsLines_texts {f : α → String} {a : α → List String} {l : List α}
    (h : ∀ x ∈ l, Reads Solid (f x) [] (a x) Anything) :
    ReadsLines (l.map fun x => .text 0 (f x)) [] (l.flatMap a) Spaced := by
  induction l with
  | nil => exact readsLines_nil
  | cons x l ih =>
    have hline := readsLines_text 0 ((h x List.mem_cons_self).anywhere Spaced)
    exact hline.append (ih fun y hy => h y (List.mem_cons_of_mem x hy))

lemma readsLines_gap : ReadsLines [.gap] [] [] Spaced := by
  intro n
  refine ⟨[], fun rest h => ?_, fun _ h => h, scans_nil _⟩
  have hgap : linesText n [.gap] = "\n" := linesText_singleton n .gap
  rw [hgap, code_spaces (by decide) (by decide), consBlank_of_startsBlank h.startsBlank]
  rfl

lemma linesText_deepen (n : Nat) (lines : List Line) :
    linesText n (lines.map Line.deepen) = linesText (n + 1) lines := by
  have hline : ∀ line : Line, lineText n line.deepen = lineText (n + 1) line := by
    intro line
    cases line with
    | text depth content =>
      have hdepth : depth + 1 + n = depth + (n + 1) := by omega
      rw [Line.deepen, lineText, lineText, hdepth]
    | gap => rfl
  rw [linesText, linesText, List.map_map]
  exact congrArg String.join (List.map_congr_left fun line _ => hline line)

lemma linesText_braced (n : Nat) (header : String) (body : List Line) :
    linesText n (braced header body) =
      "\n" ++ String.ofList (List.replicate (4 * n) ' ') ++ header ++
        ("\n" ++ String.ofList (List.replicate (4 * n) ' ')) ++
        ("\x7b" ++ (linesText (n + 1) body ++
          ("\n" ++ String.ofList (List.replicate (4 * n) ' '))) ++ "\x7d") := by
  have hbody := linesText_deepen n body
  rw [linesText] at hbody
  simp only [braced, linesText, List.map_append, String.join_append, List.map_cons, List.map_nil,
    String.join_cons, String.join_nil, hbody, lineText, Nat.zero_add, String.append_empty,
    String.append_assoc]

lemma readsLines_braced {header : String} {body : List Line} {n n' a a' : List String}
    (hheader : Reads Solid header n a Stop) (hbody : ReadsLines body n' a' Closing) :
    ReadsLines (braced header body) (n ++ n') (a ++ a') Anything := by
  intro depth
  have hinside := (hbody (depth + 1)).append (reads_indent_marked (4 * depth)) id
  have hblock := reads_braces hinside fun _ => by simp [Marked]
  have hopen := (reads_indent (4 * depth)).append hheader id
  have hlines := (hopen.append (reads_indent_marked (4 * depth)) And.left).append hblock id
  rw [linesText_braced]
  simpa using hlines

/-- Reading groups of lines one by one. -/
inductive ReadsGroups : List (List Line) → List String → List String → Prop
  | nil : ReadsGroups [] [] []
  | cons {lines : List Line} {groups : List (List Line)} {n n' a a' : List String}
      (h : ReadsLines lines n a Spaced) (hs : ReadsGroups groups n' a') :
      ReadsGroups (lines :: groups) (n ++ n') (a ++ a')

lemma ReadsGroups.append {groups groups' : List (List Line)} {n n' a a' : List String}
    (h : ReadsGroups groups n a) (h' : ReadsGroups groups' n' a') :
    ReadsGroups (groups ++ groups') (n ++ n') (a ++ a') := by
  induction h with
  | nil => exact h'
  | cons hlines _ ih =>
    rw [List.cons_append, List.append_assoc, List.append_assoc]
    exact .cons hlines ih

lemma readsGroups_map {f : α → List Line} {n a : α → List String} {l : List α}
    (h : ∀ x ∈ l, ReadsLines (f x) (n x) (a x) Spaced) :
    ReadsGroups (l.map f) (l.flatMap n) (l.flatMap a) := by
  induction l with
  | nil => exact .nil
  | cons x l ih =>
    exact .cons (h x List.mem_cons_self) (ih fun y hy => h y (List.mem_cons_of_mem x hy))

lemma ReadsGroups.separate {groups : List (List Line)} {n a : List String}
    (h : ReadsGroups groups n a) : ReadsLines (separate groups) n a Spaced := by
  induction h with
  | nil => exact readsLines_nil
  | @cons lines groups n n' a a' hlines hs ih =>
    cases hs with
    | nil => simpa [CSharp.separate] using hlines
    | cons => exact hlines.append (readsLines_gap.append ih)

end Lines

section Members

/-- A name that can be read where it is introduced or used. -/
def Nameable (name : String) : Prop :=
  Reads Solid (escapeIdentifier name) [] [] Stop

/-- Words before a member or a type that open nothing. -/
def Modifier (words : String) : Prop :=
  Reads Solid words [] [] Apart

/-- The type of a parameter: a plain reference, or a plain name with such references as arguments. -/
def ParameterType (type : TypeReference) : Prop :=
  PlainReference type ∨ ∃ name arguments, type = ⟨name, arguments, none⟩ ∧ IsIdentifier name ∧
    Plain name ∧ ∀ argument ∈ arguments, PlainReference argument

def parameterArrays (type : TypeReference) : List String :=
  arraysOf type ++ type.arguments.flatMap arraysOf

structure ReadableProperty (p : PropertyDeclaration) : Prop where
  type : PlainReference p.type
  name : Nameable p.name
  visibility : Modifier p.visibility
  fieldType : PlainReference p.field.type
  fieldName : Nameable p.field.name
  fieldVisibility : Modifier p.field.visibility

/-- The arguments of a call are a literal, which holds a name, and variables after it. -/
structure ReadableCall (call : MethodCall) : Prop where
  target : Nameable call.target
  method : IsIdentifier call.method ∧ Plain call.method
  arguments : ∃ (name : String) (vars : List String),
    call.arguments = .literal name :: vars.map .variable ∧ IsIdentifier name ∧
      ∀ v ∈ vars, Nameable v
  typeArguments : ∀ argument ∈ call.typeArguments, PlainReference argument

structure ReadableMethod (m : MethodDeclaration) : Prop where
  name : Nameable m.name
  visibility : Modifier m.visibility
  returnType : PlainReference m.returnType
  parameters : ∀ p ∈ m.parameters, ParameterType p.type ∧ Nameable p.name
  body : ∀ statement ∈ m.body, ReadableCall statement.call

def methodArrays (m : MethodDeclaration) : List String :=
  arraysOf m.returnType ++ m.parameters.flatMap (fun p => parameterArrays p.type) ++
    m.body.flatMap fun statement => statement.call.typeArguments.flatMap arraysOf

lemma renderTypes_eq_map (types : List TypeReference) : renderTypes types = types.map renderType := by
  induction types with
  | nil => simp [renderTypes]
  | cons type types ih => rw [renderTypes, ih, List.map_cons]

lemma reads_typeArguments {types : List TypeReference} (h : ∀ type ∈ types, PlainReference type)
    (hne : types ≠ []) :
    Reads Marked ("<" ++ ", ".intercalate (renderTypes types) ++ ">") []
      (types.flatMap arraysOf) Anything := by
  obtain ⟨type, rest, rfl⟩ := List.exists_cons_of_ne_nil hne
  have hlist : Reads Solid (", ".intercalate (renderTypes (type :: rest))) []
      ((type :: rest).flatMap arraysOf) Marked := by
    rw [renderTypes_eq_map]
    exact reads_commaList Marked.apart (reads_renderType (h type List.mem_cons_self))
      fun t ht => reads_renderType (h t (List.mem_cons_of_mem type ht))
  have hopen := (reads_separator '<' (by decide)).append hlist fun _ => trivial
  have hblock := hopen.append (reads_separator '>' (by decide)) id
  simpa using hblock

lemma reads_parameterType {type : TypeReference} (h : ParameterType type) :
    Reads Solid (renderType type) [] (parameterArrays type) Apart := by
  rcases h with hplain | ⟨name, arguments, rfl, hname, hplain, harguments⟩
  · have hread := reads_renderType hplain
    obtain ⟨base, rank, rfl, -, -⟩ := hplain
    have hnone : (arrayReference base rank).arguments = [] := by cases rank <;> rfl
    rw [parameterArrays, hnone]
    simpa using hread
  · have hword : Reads Solid name [] [] Apart := reads_plain ⟨hname, hplain⟩
    cases arguments with
    | nil => simpa [renderType, parameterArrays, arraysOf] using hword
    | cons argument rest =>
      have hargs := reads_typeArguments harguments (by simp)
      have hread := (hword.append hargs Marked.apart).anywhere Apart
      rw [renderType, String.append_assoc, String.append_assoc]
      rw [renderTypes, String.append_assoc] at hread
      exact hread

lemma reads_renderParameter {p : Parameter} (h : ParameterType p.type ∧ Nameable p.name) :
    Reads Solid (renderParameter p) [] (parameterArrays p.type) Stop := by
  have htype := (reads_parameterType h.1).append reads_space Spaced.apart
  simpa [renderParameter] using htype.append h.2 id

/-- What follows the literal that a call starts with. -/
lemma reads_variables {vars : List String} (h : ∀ v ∈ vars, Nameable v) :
    Reads Marked (String.join (vars.map fun v => ", " ++ escapeIdentifier v)) [] [] Marked := by
  have hitems := reads_commaItems (a := fun _ => []) Marked.stop h
  rwa [List.flatMap_eq_nil_iff.mpr fun _ _ => rfl] at hitems

lemma renderLiteral_of_isWord {w : String} (hw : ∀ c ∈ w.toList, Text.isWord c = true) :
    renderLiteral w = "\"" ++ w ++ "\"" := by
  have hescape : ∀ cs : List Char, (∀ c ∈ cs, Text.isWord c = true) →
      cs.flatMap escapeLiteralChar = cs := by
    intro cs
    induction cs with
    | nil => exact fun _ => rfl
    | cons c cs ih =>
      intro hcs
      have hword := hcs c List.mem_cons_self
      have hne : ¬(c = '\\' ∨ c = '"') := by
        rintro (rfl | rfl) <;> (revert hword; decide)
      rw [List.flatMap_cons, escapeLiteralChar, if_neg hne,
        ih fun d hd => hcs d (List.mem_cons_of_mem c hd)]
      rfl
  rw [renderLiteral, hescape w.toList hw, String.ofList_toList]

lemma reads_renderLiteral {w : String} (hw : IsIdentifier w) :
    Reads Anything (renderLiteral w) [] [] Marked := by
  rw [renderLiteral_of_isWord hw.2]
  exact reads_literal hw.2

lemma reads_renderCall {call : MethodCall} (h : ReadableCall call) :
    Reads Solid (renderCall call) [] (call.typeArguments.flatMap arraysOf) Anything := by
  obtain ⟨name, vars, harguments, hname, hvariables⟩ := h.arguments
  have hthis : Reads Solid "this." [] [] Anything :=
    reads_wordMark (w := "this") (c := '.') (by decide) (by decide) rfl
  have htarget := (hthis.append h.target fun _ => trivial).append (reads_separator '.' (by decide))
    Marked.stop
  have hmethod := htarget.append (reads_plain h.method) fun _ => trivial
  have htypes : Reads Marked (if call.typeArguments.isEmpty then ""
      else "<" ++ ", ".intercalate (renderTypes call.typeArguments) ++ ">") []
      (call.typeArguments.flatMap arraysOf) Marked := by
    by_cases hempty : call.typeArguments = []
    · rw [hempty]
      exact reads_empty Marked
    · rw [if_neg (by simpa using hempty)]
      exact (reads_typeArguments h.typeArguments hempty).anywhere Marked
  have hlist : Reads Anything (", ".intercalate (call.arguments.map renderExpression)) [] []
      Marked := by
    have hitems := (reads_renderLiteral hname).append (reads_variables hvariables) id
    rw [harguments, List.map_cons, List.map_map, intercalate_cons, List.map_map]
    exact hitems
  have hcall := (hmethod.append htypes Marked.apart).append (reads_separator '(' (by decide)) id
  have hall := (hcall.append hlist id).append (reads_separator ')' (by decide)) id
  simpa [renderCall] using hall

lemma reads_renderStatement {statement : CallStatement} (h : ReadableCall statement.call) :
    Reads Solid (renderStatement statement) []
      (statement.call.typeArguments.flatMap arraysOf) Anything := by
  have hprefix : ∀ (b : Bool) (w : String), IsIdentifier w ∧ Plain w →
      Reads Solid (if b then w ++ " " else "") [] [] Solid := by
    intro b w hw
    cases b with
    | true => exact reads_wordSpace hw rfl
    | false => exact reads_empty Solid
  have hreturn := hprefix statement.returns "return" (by decide)
  have hawait := hprefix statement.awaited "await" (by decide)
  have hcall := (hreturn.append hawait id).append (reads_renderCall h) id
  have hall := hcall.append (reads_separator ';' (by decide)) fun _ => trivial
  simpa [renderStatement] using hall

lemma reads_memberHeader {visibility name : String} {type : TypeReference}
    (hvisibility : Modifier visibility) (htype : PlainReference type) (hname : Nameable name) :
    Reads Solid (memberHeader visibility type name) [] (arraysOf type) Stop := by
  have hopen := (hvisibility.append reads_space Spaced.apart).append (reads_renderType htype) id
  have hall := (hopen.append reads_space Spaced.apart).append hname id
  simpa [memberHeader] using hall

lemma reads_fieldLine {f : FieldDeclaration} (hvisibility : Modifier f.visibility)
    (htype : PlainReference f.type) (hname : Nameable f.name) :
    Reads Solid (fieldLine f) [] (arraysOf f.type) Anything := by
  have hall := (reads_memberHeader hvisibility htype hname).append
    (reads_separator ';' (by decide)) Marked.stop
  simpa [fieldLine] using hall

lemma reads_space_marked : Reads Closing " " [] [] Marked :=
  reads_spaces_marked (by decide) (by decide)

lemma reads_accessors (hasGet hasSet : Bool) :
    Reads Spaced (" " ++ " ".intercalate ((if hasGet then ["get;"] else []) ++
      (if hasSet then ["set;"] else [])) ++ " ") [] [] Marked := by
  have hget : Reads Solid "get;" [] [] Anything :=
    reads_wordMark (w := "get") (c := ';') (by decide) (by decide) rfl
  have hset : Reads Solid "set;" [] [] Anything :=
    reads_wordMark (w := "set") (c := ';') (by decide) (by decide) rfl
  have haround : ∀ {s : String}, Reads Solid s [] [] Anything →
      Reads Spaced (" " ++ s ++ " ") [] [] Marked := fun h =>
    (reads_space.append h id).append reads_space_marked fun _ => trivial
  cases hasGet with
  | true =>
    cases hasSet with
    | true => exact haround ((hget.append reads_space fun _ => trivial).append hset id)
    | false => exact haround hget
  | false =>
    cases hasSet with
    | true => exact haround hset
    | false => exact (reads_spaces (s := "  ") (by decide) (by decide)).mono id Marked.solid

/-- The accessors of a property stand between a pair of braces of their own. -/
lemma interfacePropertyLine_eq (p : PropertyDeclaration) :
    interfacePropertyLine p = renderType p.type ++ " " ++ escapeIdentifier p.name ++ " " ++
      ("\x7b" ++ (" " ++ " ".intercalate ((if p.hasGet then ["get;"] else []) ++
        (if p.hasSet then ["set;"] else [])) ++ " ") ++ "\x7d") := by
  have hopen : " \x7b " = " " ++ "\x7b" ++ " " := rfl
  have hclose : " \x7d" = " " ++ "\x7d" := rfl
  simp only [interfacePropertyLine, hopen, hclose, String.append_assoc]

lemma reads_interfacePropertyLine {p : PropertyDeclaration} (h : ReadableProperty p) :
    Reads Solid (interfacePropertyLine p) [] (arraysOf p.type) Anything := by
  have htype := (reads_renderType h.type).append reads_space Spaced.apart
  have hname := (htype.append h.name id).append reads_space_marked And.left
  have hblock := reads_braces (reads_accessors p.hasGet p.hasSet) fun _ => by simp [Marked]
  rw [interfacePropertyLine_eq]
  simpa using hname.append hblock id

lemma reads_this {name : String} (h : Nameable name) :
    Reads Solid ("this." ++ escapeIdentifier name) [] [] Stop := by
  have hthis : Reads Solid "this." [] [] Anything :=
    reads_wordMark (w := "this") (c := '.') (by decide) (by decide) rfl
  exact hthis.append h fun _ => trivial

lemma readsLines_getter {name : String} (h : Nameable name) (hasGet : Bool) :
    ReadsLines (if hasGet then braced "get" [.text 0 ("return " ++ ("this." ++
      escapeIdentifier name) ++ ";")] else []) [] [] Spaced := by
  cases hasGet with
  | true =>
    have hreturn : Reads Solid "return " [] [] Solid :=
      reads_wordSpace (w := "return") (by decide) rfl
    have hline := (hreturn.append (reads_this h) id).append (reads_separator ';' (by decide))
      Marked.stop
    have hheader : Reads Solid "get" [] [] Stop :=
      (reads_plain (w := "get") (by decide)).mono id Stop.apart
    exact (readsLines_braced hheader (readsLines_text 0 (hline.anywhere Closing))).mono
      fun _ => trivial
  | false => exact readsLines_nil

lemma readsLines_setter {name : String} (h : Nameable name) (hasSet : Bool) :
    ReadsLines (if hasSet then braced "set" [.text 0 ("this." ++ escapeIdentifier name ++
      " = value;")] else []) [] [] Spaced := by
  cases hasSet with
  | true =>
    have hvalue : Reads Solid "value;" [] [] Anything :=
      reads_wordMark (w := "value") (c := ';') (by decide) (by decide) rfl
    have hequals := (reads_space_marked.append (reads_separator '=' (by decide)) id).append
      reads_space fun _ => trivial
    have hsplit : " " ++ String.singleton '=' ++ " " ++ "value;" = " = value;" := rfl
    have hright := hequals.append hvalue id
    rw [hsplit] at hright
    have hline := (reads_this h).append hright And.left
    have hheader : Reads Solid "set" [] [] Stop :=
      (reads_plain (w := "set") (by decide)).mono id Stop.apart
    exact (readsLines_braced hheader (readsLines_text 0 (hline.anywhere Closing))).mono
      fun _ => trivial
  | false => exact readsLines_nil

lemma readsLines_property {p : PropertyDeclaration} (h : ReadableProperty p) :
    ReadsLines (propertyLines p) [] (arraysOf p.type) Spaced := by
  have hbody := (readsLines_getter h.fieldName p.hasGet).append
    (readsLines_setter h.fieldName p.hasSet)
  have hall := readsLines_braced (reads_memberHeader h.visibility h.type h.name)
    (hbody.mono (D := Closing) And.right)
  simpa [propertyLines] using hall.mono (D := Spaced) fun _ => trivial

lemma readsLines_method {m : MethodDeclaration} (h : ReadableMethod m) :
    ReadsLines (methodLines m) [] (methodArrays m) Spaced := by
  have hmodifiers : Modifier (m.visibility ++ (if m.isAsync then " async" else "")) := by
    cases m.isAsync with
    | true =>
      have hasync := reads_space.append (reads_plain (w := "async") (by decide)) id
      have hsplit : " " ++ "async" = " async" := rfl
      rw [hsplit] at hasync
      exact h.visibility.append hasync Spaced.apart
    | false => exact h.visibility.append (reads_empty Apart) id
  have hparameters : Reads Anything (", ".intercalate (m.parameters.map renderParameter)) []
      (m.parameters.flatMap fun p => parameterArrays p.type) Marked := by
    have hread : ∀ p ∈ m.parameters,
        Reads Solid (renderParameter p) [] (parameterArrays p.type) Stop :=
      fun p hp => reads_renderParameter (h.parameters p hp)
    cases hp : m.parameters with
    | nil => exact (reads_empty Marked).mono (fun _ => trivial) id
    | cons p rest =>
      rw [hp] at hread
      have hlist := reads_commaList (a := fun p : Parameter => parameterArrays p.type) Marked.stop
        (hread p List.mem_cons_self) fun q hq => hread q (List.mem_cons_of_mem p hq)
      exact hlist.mono (fun _ => trivial) id
  have hopen := (reads_memberHeader hmodifiers h.returnType h.name).append
    (reads_separator '(' (by decide)) Marked.stop
  have hheader := (hopen.append hparameters id).append (reads_separator ')' (by decide)) id
  have hbody := readsLines_texts (f := renderStatement)
    (a := fun s => s.call.typeArguments.flatMap arraysOf) fun s hs =>
      reads_renderStatement (h.body s hs)
  have hall := readsLines_braced (hheader.anywhere Stop) (hbody.mono (D := Closing) And.right)
  simpa [methodLines, methodArrays] using hall.mono (D := Spaced) fun _ => trivial

end Members

section Declarations

structure ReadableClass (c : ClassDeclaration) : Prop where
  name : IsIdentifier c.name ∧ Plain c.name
  visibility : Modifier c.visibility
  properties : ∀ p ∈ c.properties, ReadableProperty p
  methods : ∀ m ∈ c.methods, ReadableMethod m

structure ReadableEnum (e : EnumDeclaration) : Prop where
  name : IsIdentifier e.name ∧ Plain e.name
  visibility : Modifier e.visibility
  members : ∀ member ∈ e.members, Nameable member

def ReadableDeclaration : TypeDeclaration → Prop
  | .cls c => ReadableClass c
  | .enum e => ReadableEnum e

/-- The arrays that the lines of a class mention: the fields come first, and an interface has none. -/
def classArrays (c : ClassDeclaration) : List String :=
  (if c.isInterface then c.properties.flatMap fun p => arraysOf p.type
    else c.properties.flatMap (fun p => arraysOf p.field.type) ++
      c.properties.flatMap fun p => arraysOf p.type) ++ c.methods.flatMap methodArrays

def declarationArrays : TypeDeclaration → List String
  | .cls c => classArrays c
  | .enum _ => []

lemma readsGroups_properties {c : ClassDeclaration} (h : ∀ p ∈ c.properties, ReadableProperty p) :
    ReadsGroups
      (if c.isInterface then c.properties.map fun p => [.text 0 (interfacePropertyLine p)]
        else (if c.properties.isEmpty then []
          else [c.properties.map fun p => .text 0 (fieldLine p.field)]) ++
            c.properties.map propertyLines) []
      (if c.isInterface then c.properties.flatMap fun p => arraysOf p.type
        else c.properties.flatMap (fun p => arraysOf p.field.type) ++
          c.properties.flatMap fun p => arraysOf p.type) := by
  have hnone : c.properties.flatMap (fun _ => ([] : List String)) = [] :=
    List.flatMap_eq_nil_iff.mpr fun _ _ => rfl
  cases c.isInterface with
  | true =>
    have hgroups := readsGroups_map (l := c.properties) (n := fun _ => [])
      (f := fun p => [.text 0 (interfacePropertyLine p)]) fun p hp =>
        readsLines_text 0 ((reads_interfacePropertyLine (h p hp)).anywhere Spaced)
    rwa [hnone] at hgroups
  | false =>
    have hproperties := readsGroups_map (l := c.properties) (n := fun _ => [])
      (f := propertyLines) fun p hp => readsLines_property (h p hp)
    rw [hnone] at hproperties
    have hfields := readsLines_texts (f := fun p : PropertyDeclaration => fieldLine p.field)
      (a := fun p => arraysOf p.field.type) fun p hp =>
        reads_fieldLine (h p hp).fieldVisibility (h p hp).fieldType (h p hp).fieldName
    by_cases hempty : c.properties = []
    · rw [hempty]
      exact .nil
    · rw [if_neg (by simp), if_neg (by simpa using hempty), if_neg (by simp)]
      exact .cons hfields hproperties

lemma readsLines_class {c : ClassDeclaration} (h : ReadableClass c) :
    ReadsLines (classLines c) [c.name] (classArrays c) Spaced := by
  have hkind : (if c.isInterface then "interface" else "class") ∈ declarationWords := by
    cases c.isInterface <;> decide
  have hpartial : Reads Spaced (if c.isPartial then " partial " else " ") [] [] Solid := by
    cases c.isPartial with
    | true =>
      have hword : Reads Solid "partial " [] [] Solid :=
        reads_wordSpace (w := "partial") (by decide) rfl
      have hspaced := reads_space.append hword id
      have hsplit : " " ++ "partial " = " partial " := rfl
      rwa [hsplit] at hspaced
    | false => exact reads_space
  have hheader := (h.visibility.append hpartial Spaced.apart).append
    (reads_declaration hkind h.name.1 h.name.2) id
  have hmethods := readsGroups_map (l := c.methods) (n := fun _ => []) (f := methodLines)
    fun m hm => readsLines_method (h.methods m hm)
  rw [List.flatMap_eq_nil_iff.mpr fun _ _ => rfl] at hmethods
  have hbody := ((readsGroups_properties h.properties).append hmethods).separate
  have hall := readsLines_braced (hheader.mono id Stop.apart) (hbody.mono (D := Closing) And.right)
  have hspaced := hall.mono (D := Spaced) fun _ => trivial
  simp only [List.nil_append, List.append_nil, String.append_assoc] at hspaced
  simpa only [classLines, classArrays, String.append_assoc] using hspaced

lemma readsLines_members {members : List String} (h : ∀ member ∈ members, Nameable member) :
    ReadsLines (memberLines members) [] [] Closing := by
  induction members with
  | nil => exact readsLines_nil.mono And.right
  | cons name rest ih =>
    have hname := h name List.mem_cons_self
    cases rest with
    | nil => exact (readsLines_text 0 hname).mono And.left
    | cons next rest =>
      have hline := hname.append (reads_separator ',' (by decide)) Marked.stop
      have htail := ih fun member hm => h member (List.mem_cons_of_mem name hm)
      exact (readsLines_text 0 (hline.anywhere Spaced)).append htail

lemma readsLines_enum {e : EnumDeclaration} (h : ReadableEnum e) :
    ReadsLines (enumLines e) [e.name] [] Spaced := by
  have hheader := (h.visibility.append reads_space Spaced.apart).append
    (reads_declaration (show "enum" ∈ declarationWords by decide) h.name.1 h.name.2) id
  have hall := readsLines_braced (hheader.mono id Stop.apart) (readsLines_members h.members)
  have hsplit : " enum " = " " ++ ("enum" ++ " ") := rfl
  have hspaced := hall.mono (D := Spaced) fun _ => trivial
  simp only [List.nil_append, List.append_nil, String.append_assoc] at hspaced
  simpa only [enumLines, hsplit, String.append_assoc] using hspaced

lemma readsLines_declaration {d : TypeDeclaration} (h : ReadableDeclaration d) :
    ReadsLines (declarationLines d) [d.name] (declarationArrays d) Spaced := by
  cases d with
  | cls c => exact readsLines_class h
  | enum e => exact readsLines_enum h

/-- A namespace that can be imported. -/
def Importable (ns : String) : Prop :=
  Reads Solid ns [] [] Stop

structure ReadableModel (m : ApiModel) : Prop where
  imports : ∀ ns ∈ m.imports, Importable ns
  proxy : ReadableClass m.proxy
  declarations : ∀ d ∈ m.declarations, ReadableDeclaration d

lemma readsLines_imports {imports : List String} (h : ∀ ns ∈ imports, Importable ns) :
    ReadsLines (importLines imports) [] [] Spaced := by
  have hline : ∀ ns ∈ sortImports imports, Reads Solid ("using " ++ ns ++ ";") [] [] Anything := by
    intro ns hns
    have hmem : ns ∈ imports := by simpa [sortImports] using hns
    have husing : Reads Solid "using " [] [] Solid :=
      reads_wordSpace (w := "using") (by decide) rfl
    exact (husing.append (h ns hmem) id).append (reads_separator ';' (by decide)) Marked.stop
  have hlines := readsLines_texts (a := fun _ => []) hline
  rw [List.flatMap_eq_nil_iff.mpr fun _ _ => rfl] at hlines
  unfold importLines
  dsimp only
  split
  · exact readsLines_nil
  · exact hlines.append readsLines_gap

/-- What is found inside the namespace of a model. -/
lemma readsLines_content {m : ApiModel} (h : ReadableModel m) :
    ReadsLines (contentLines m) (m.proxy.name :: m.declarations.map (·.name))
      (classArrays m.proxy ++ m.declarations.flatMap declarationArrays) Spaced := by
  have hdeclarations := readsGroups_map (l := m.declarations) (f := declarationLines)
    (n := fun d => [d.name]) fun d hd => readsLines_declaration (h.declarations d hd)
  have hgroups := ReadsGroups.cons (readsLines_class h.proxy) hdeclarations
  rw [← List.map_eq_flatMap] at hgroups
  exact (readsLines_imports h.imports).append hgroups.separate

end Declarations

end HubProxy.Proofs
