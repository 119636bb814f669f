import Mathlib.Data.List.Forall2
import HubProxy.Proofs.EmittedSource
import HubProxy.Proofs.SourceSegments

/-!
# Segments of emitted source

Every member and every declaration that the emitter writes is a segment of source in which the arrays
of its types are found. Words of the language may stand for names here: what else they make the
scanner find does not matter.
-/

namespace HubProxy.Proofs

open CSharp

section Pieces

/-- Text of calm characters. -/
def CalmText (s : String) : Prop :=
  ∀ c ∈ s.toList, Calm c

instance : DecidablePred CalmText :=
  fun s => inferInstanceAs (Decidable (∀ c ∈ s.toList, Calm c))

lemma CalmText.append {s t : String} (hs : CalmText s) (ht : CalmText t) : CalmText (s ++ t) := by
  intro c hc
  rw [String.toList_append] at hc
  exact (List.mem_append.mp hc).elim (hs c) (ht c)

/-- A piece of source that becomes a segment behind any character that belongs to no word. -/
def Led (s : String) (arrays : List String) : Prop :=
  ∀ c, Calm c → Text.isWord c = false → Segment (String.singleton c ++ s) arrays

lemma Segment.led {s : String} {a : List String} (h : Segment s a) : Led s a := by
  intro c hc _
  have hfirst : CalmText (String.singleton c) := by
    intro d hd
    rw [String.toList_singleton, List.mem_singleton] at hd
    rwa [hd]
  exact (segment_calm hfirst).append h

lemma Led.append {s t : String} {a a' : List String} (h : Led s a) (h' : Segment t a') :
    Led (s ++ t) (a ++ a') := by
  intro c hc hword
  have hall := (h c hc hword).append h'
  rwa [String.append_assoc] at hall

lemma Led.spaced {s : String} {a : List String} (h : Led s a) : Segment (" " ++ s) a :=
  h ' ' (by decide) (by decide)

lemma segment_space : Segment " " [] :=
  segment_calm (by decide)

lemma Led.listed {s : String} {a : List String} (h : Led s a) : Segment (", " ++ s) a := by
  have hcomma : Segment "," [] := segment_calm (by decide)
  have hall := hcomma.append h.spaced
  have hsplit : ("," ++ " " : String) = ", " := rfl
  rwa [← String.append_assoc, hsplit] at hall

variable {f : α → String} {a : α → List String} {l : List α}

lemma segment_commaItems (h : ∀ x ∈ l, Led (f x) (a x)) :
    Segment (String.join (l.map fun x => ", " ++ f x)) (l.flatMap a) := by
  induction l with
  | nil => exact segment_empty
  | cons x l ih =>
    have hrest := ih fun y hy => h y (List.mem_cons_of_mem x hy)
    rw [List.map_cons, String.join_cons, List.flatMap_cons]
    exact (h x List.mem_cons_self).listed.append hrest

lemma led_commaList (h : ∀ x ∈ l, Led (f x) (a x)) :
    Led (", ".intercalate (l.map f)) (l.flatMap a) := by
  cases l with
  | nil => exact segment_empty.led
  | cons x l =>
    have hrest := segment_commaItems fun y hy => h y (List.mem_cons_of_mem x hy)
    rw [List.map_cons, intercalate_cons, List.map_map, List.flatMap_cons]
    exact (h x List.mem_cons_self).append hrest

end Pieces

section Types

/-- A reference to a type of any name, or to an array over one. -/
def WordReference (type : TypeReference) : Prop :=
  ∃ base rank, type = arrayReference base rank ∧ IsIdentifier base

/-- The type of a parameter, whatever its names. -/
def WordType (type : TypeReference) : Prop :=
  WordReference type ∨ ∃ name arguments, type = ⟨name, arguments, none⟩ ∧ CalmText name ∧
    ∀ argument ∈ arguments, WordReference argument

lemma led_renderType {type : TypeReference} (h : WordReference type) :
    Led (renderType type) (arraysOf type) := by
  obtain ⟨base, rank, rfl, hbase⟩ := h
  rw [renderType_arrayReference, arraysOf_arrayReference]
  exact fun c hc hword => segment_array hc hword hbase rank

lemma segment_typeArguments {types : List TypeReference} (h : ∀ type ∈ types, WordReference type) :
    Segment ("<" ++ ", ".intercalate (renderTypes types) ++ ">") (types.flatMap arraysOf) := by
  have hlist := led_commaList fun type ht => led_renderType (h type ht)
  have hclose : Segment ">" [] := segment_calm (by decide)
  have hall := (hlist '<' (by decide) (by decide)).append hclose
  rw [renderTypes_eq_map]
  rwa [List.append_nil] at hall

lemma led_parameterType {type : TypeReference} (h : WordType type) :
    Led (renderType type) (parameterArrays type) := by
  rcases h with href | ⟨name, arguments, rfl, hname, harguments⟩
  · have hled := led_renderType href
    obtain ⟨base, rank, rfl, -⟩ := href
    have hnone : (arrayReference base rank).arguments = [] := by cases rank <;> rfl
    rw [parameterArrays, hnone]
    simpa using hled
  · have hword : Segment name [] := segment_calm hname
    cases arguments with
    | nil => simpa [renderType, parameterArrays, arraysOf] using hword.led
    | cons argument rest =>
      have hall := (hword.append (segment_typeArguments harguments)).led
      rw [renderType, String.append_assoc, String.append_assoc]
      rw [renderTypes, String.append_assoc] at hall
      exact hall

end Types

section Lines

/-- Lines that are a segment at whatever depth. -/
def SegmentLines (lines : List Line) (arrays : List String) : Prop :=
  ∀ n, Segment (linesText n lines) arrays

lemma SegmentLines.append {lines lines' : List Line} {a a' : List String}
    (h : SegmentLines lines a) (h' : SegmentLines lines' a') :
    SegmentLines (lines ++ lines') (a ++ a') := by
  intro n
  rw [linesText, List.map_append, String.join_append]
  exact (h n).append (h' n)

lemma segmentLines_nil : SegmentLines [] [] :=
  fun _ => segment_empty

/-- The line feed and the spaces before a line. -/
def margin (n : Nat) : String :=
  "\n" ++ String.ofList (List.replicate n ' ')

lemma calmText_margin (n : Nat) : CalmText (margin n) := by
  intro c hc
  rcases (isSpace_indent n).2 c hc with rfl | rfl <;> decide

lemma Led.indented {s : String} {a : List String} (h : Led s a) (n : Nat) :
    Segment (margin n ++ s) a := by
  cases n with
  | zero => exact h '\n' (by decide) (by decide)
  | succ n =>
    have hmargin : margin (n + 1) = margin n ++ " " := by
      rw [margin, margin, List.replicate_succ', String.ofList_append, String.append_assoc]
    have hall := (segment_calm (calmText_margin n)).append h.spaced
    rwa [← String.append_assoc, ← hmargin] at hall

lemma segmentLines_text {content : String} {a : List String} (depth : Nat) (h : Led content a) :
    SegmentLines [.text depth content] a := by
  intro n
  rw [linesText_singleton]
  exact h.indented (4 * (depth + n))

lemma segmentLines_texts {f : α → String} {a : α → List String} {l : List α}
    (h : ∀ x ∈ l, Led (f x) (a x)) :
    SegmentLines (l.map fun x => .text 0 (f x)) (l.flatMap a) := by
  induction l with
  | nil => exact segmentLines_nil
  | cons x l ih =>
    have hline := segmentLines_text 0 (h x List.mem_cons_self)
    exact hline.append (ih fun y hy => h y (List.mem_cons_of_mem x hy))

lemma segmentLines_gap : SegmentLines [.gap] [] := by
  intro n
  have hfeed : CalmText "\n" := by decide
  rw [linesText_singleton]
  exact segment_calm hfeed

lemma segmentLines_separate {groups : List (List Line)} {arrays : List (List String)}
    (h : List.Forall₂ SegmentLines groups arrays) :
    SegmentLines (separate groups) arrays.flatten := by
  induction h with
  | nil => exact segmentLines_nil
  | cons hlines hs ih =>
    cases hs with
    | nil => simpa [separate] using hlines
    | cons => exact hlines.append (segmentLines_gap.append ih)

lemma forall₂_segmentLines_map {f : α → List Line} {a : α → List String} {l : List α}
    (h : ∀ x ∈ l, SegmentLines (f x) (a x)) :
    List.Forall₂ SegmentLines (l.map f) (l.map a) := by
  rw [List.forall₂_map_left_iff, List.forall₂_map_right_iff]
  exact List.forall₂_same.mpr h

lemma segmentLines_braced {header : String} {body : List Line} {a a' : List String}
    (hheader : Led header a) (hbody : SegmentLines body a') :
    SegmentLines (braced header body) (a ++ a') := by
  intro n
  have hmargin : Segment (margin (4 * n)) [] := segment_calm (calmText_margin _)
  have hblock := (segment_braces ((hbody (n + 1)).append hmargin)).1
  have hall := ((hheader.indented (4 * n)).append hmargin).append hblock
  rw [linesText_braced]
  simpa [margin] using hall

end Lines

section Members

structure WordProperty (p : PropertyDeclaration) : Prop where
  type : WordReference p.type
  name : CalmText p.name
  visibility : CalmText p.visibility
  fieldType : WordReference p.field.type
  fieldName : CalmText p.field.name
  fieldVisibility : CalmText p.field.visibility

/-- A literal holds word characters only. -/
def WordExpression : Expression → Prop
  | .literal value => ∀ c ∈ value.toList, Text.isWord c = true
  | .variable name => CalmText name

structure WordCall (call : MethodCall) : Prop where
  target : CalmText call.target
  method : CalmText call.method
  arguments : ∀ e ∈ call.arguments, WordExpression e
  typeArguments : ∀ argument ∈ call.typeArguments, WordReference argument

structure WordMethod (m : MethodDeclaration) : Prop where
  name : CalmText m.name
  visibility : CalmText m.visibility
  returnType : WordReference m.returnType
  parameters : ∀ p ∈ m.parameters, WordType p.type ∧ CalmText p.name
  body : ∀ statement ∈ m.body, WordCall statement.call

lemma segment_renderExpression {e : Expression} (h : WordExpression e) :
    Segment (renderExpression e) [] := by
  cases e with
  | literal value =>
    rw [renderExpression, renderLiteral_of_isWord h]
    exact segment_literal h
  | «variable» name => exact segment_escapeIdentifier h

lemma segment_renderCall {call : MethodCall} (h : WordCall call) :
    Segment (renderCall call) (call.typeArguments.flatMap arraysOf) := by
  have hthis : Segment "this." [] := segment_calm (by decide)
  have hdot : Segment "." [] := segment_calm (by decide)
  have hclose : Segment ")" [] := segment_calm (by decide)
  have htypes : Segment (if call.typeArguments.isEmpty then ""
      else "<" ++ ", ".intercalate (renderTypes call.typeArguments) ++ ">")
      (call.typeArguments.flatMap arraysOf) := by
    by_cases hempty : call.typeArguments = []
    · rw [hempty]
      exact segment_empty
    · rw [if_neg (by simpa using hempty)]
      exact segment_typeArguments h.typeArguments
  have harguments : Led (", ".intercalate (call.arguments.map renderExpression)) [] := by
    have hlist := led_commaList fun e he => (segment_renderExpression (h.arguments e he)).led
    rwa [List.flatMap_eq_nil_iff.mpr fun _ _ => rfl] at hlist
  have hmember := (hthis.append (segment_escapeIdentifier h.target)).append hdot
  have hmethod := (hmember.append (segment_calm h.method)).append htypes
  have hall := (hmethod.append (harguments '(' (by decide) (by decide))).append hclose
  have hopen : String.singleton '(' = "(" := rfl
  rw [hopen] at hall
  simpa [renderCall, String.append_assoc] using hall

lemma segment_renderStatement {statement : CallStatement} (h : WordCall statement.call) :
    Segment (renderStatement statement) (statement.call.typeArguments.flatMap arraysOf) := by
  have hprefix : ∀ (b : Bool) (s : String), CalmText s → Segment (if b then s else "") [] := by
    intro b s hs
    cases b with
    | true => exact segment_calm hs
    | false => exact segment_empty
  have hreturn := hprefix statement.returns "return " (by decide)
  have hawait := hprefix statement.awaited "await " (by decide)
  have hend : Segment ";" [] := segment_calm (by decide)
  have hall := ((hreturn.append hawait).append (segment_renderCall h)).append hend
  simpa [renderStatement] using hall

lemma segment_memberHeader {visibility name : String} {type : TypeReference}
    (hvisibility : CalmText visibility) (htype : WordReference type) (hname : CalmText name) :
    Segment (memberHeader visibility type name) (arraysOf type) := by
  have hopen := (segment_calm hvisibility).append (led_renderType htype).spaced
  have hall := (hopen.append segment_space).append (segment_escapeIdentifier hname)
  simpa [memberHeader, String.append_assoc] using hall

lemma segment_fieldLine {f : FieldDeclaration} (hvisibility : CalmText f.visibility)
    (htype : WordReference f.type) (hname : CalmText f.name) :
    Segment (fieldLine f) (arraysOf f.type) := by
  have hend : Segment ";" [] := segment_calm (by decide)
  simpa [fieldLine] using (segment_memberHeader hvisibility htype hname).append hend

lemma led_interfacePropertyLine {p : PropertyDeclaration} (h : WordProperty p) :
    Led (interfacePropertyLine p) (arraysOf p.type) := by
  have haccessors : CalmText (" " ++ " ".intercalate ((if p.hasGet then ["get;"] else []) ++
      (if p.hasSet then ["set;"] else [])) ++ " ") := by
    cases p.hasGet <;> cases p.hasSet <;> decide
  have hblock := (segment_braces (segment_calm haccessors)).1
  have hname := ((led_renderType h.type).append segment_space).append
    (segment_escapeIdentifier h.name)
  have hall := (hname.append segment_space).append hblock
  rw [interfacePropertyLine_eq]
  simpa using hall

lemma segmentLines_accessor {header content : String} (hheader : CalmText header)
    (hcontent : Segment content []) (present : Bool) :
    SegmentLines (if present then braced header [.text 0 content] else []) [] := by
  cases present with
  | true =>
    exact segmentLines_braced (segment_calm hheader).led (segmentLines_text 0 hcontent.led)
  | false => exact segmentLines_nil

lemma segmentLines_property {p : PropertyDeclaration} (h : WordProperty p) :
    SegmentLines (propertyLines p) (arraysOf p.type) := by
  have hthis : Segment "this." [] := segment_calm (by decide)
  have hreturn : Segment "return " [] := segment_calm (by decide)
  have hvalue : Segment " = value;" [] := segment_calm (by decide)
  have hend : Segment ";" [] := segment_calm (by decide)
  have hfield := hthis.append (segment_escapeIdentifier h.fieldName)
  have hget : CalmText "get" := by decide
  have hset : CalmText "set" := by decide
  have hgetter := segmentLines_accessor hget ((hreturn.append hfield).append hend) p.hasGet
  have hsetter := segmentLines_accessor hset (hfield.append hvalue) p.hasSet
  have hheader := segment_memberHeader h.visibility h.type h.name
  have hall := segmentLines_braced hheader.led (hgetter.append hsetter)
  simpa [propertyLines] using hall

lemma segmentLines_method {m : MethodDeclaration} (h : WordMethod m) :
    SegmentLines (methodLines m) (methodArrays m) := by
  have hmodifiers : CalmText (m.visibility ++ (if m.isAsync then " async" else "")) := by
    cases m.isAsync with
    | true => exact h.visibility.append (by decide)
    | false => exact h.visibility.append (by decide)
  have hparameter : ∀ p ∈ m.parameters, Led (renderParameter p) (parameterArrays p.type) := by
    intro p hp
    obtain ⟨htype, hname⟩ := h.parameters p hp
    have hall := ((led_parameterType htype).append segment_space).append
      (segment_escapeIdentifier hname)
    simpa [renderParameter] using hall
  have hclose : Segment ")" [] := segment_calm (by decide)
  have hparameters := (led_commaList hparameter) '(' (by decide) (by decide)
  have hheader := ((segment_memberHeader hmodifiers h.returnType h.name).append hparameters).append
    hclose
  have hbody := segmentLines_texts fun statement hs =>
    (segment_renderStatement (h.body statement hs)).led
  have hall := segmentLines_braced hheader.led hbody
  have hopen : String.singleton '(' = "(" := rfl
  rw [hopen] at hall
  simpa [methodLines, methodArrays, String.append_assoc] using hall

end Members

section Declarations

structure WordClass (c : ClassDeclaration) : Prop where
  name : CalmText c.name
  visibility : CalmText c.visibility
  properties : ∀ p ∈ c.properties, WordProperty p
  methods : ∀ m ∈ c.methods, WordMethod m

structure WordEnum (e : EnumDeclaration) : Prop where
  name : CalmText e.name
  visibility : CalmText e.visibility
  members : ∀ member ∈ e.members, CalmText member

def WordDeclaration : TypeDeclaration → Prop
  | .cls c => WordClass c
  | .enum e => WordEnum e

def classHeader (c : ClassDeclaration) : String :=
  c.visibility ++ (if c.isPartial then " partial " else " ") ++
    (if c.isInterface then "interface" else "class") ++ " " ++ c.name

def declarationHeader : TypeDeclaration → String
  | .cls c => classHeader c
  | .enum e => e.visibility ++ " enum " ++ e.name

lemma WordClass.calmText_header {c : ClassDeclaration} (h : WordClass c) :
    CalmText (classHeader c) := by
  have hpartial : CalmText (if c.isPartial then " partial " else " ") := by
    cases c.isPartial <;> decide
  have hkind : CalmText (if c.isInterface then "interface" else "class") := by
    cases c.isInterface <;> decide
  have hspace : CalmText " " := by decide
  exact (((h.visibility.append hpartial).append hkind).append hspace).append h.name

lemma WordEnum.calmText_header {e : EnumDeclaration} (h : WordEnum e) :
    CalmText (declarationHeader (.enum e)) := by
  have hword : CalmText " enum " := by decide
  exact (h.visibility.append hword).append h.name

/-- The body of a class: its backing fields, its properties and its methods. -/
lemma WordClass.exists_body {c : ClassDeclaration} (h : WordClass c) :
    ∃ body, classLines c = braced (classHeader c) body ∧ SegmentLines body (classArrays c) := by
  have hproperties : List.Forall₂ SegmentLines
      (if c.isInterface then c.properties.map fun p => [.text 0 (interfacePropertyLine p)]
        else (if c.properties.isEmpty then []
          else [c.properties.map fun p => .text 0 (fieldLine p.field)]) ++
            c.properties.map propertyLines)
      (if c.isInterface then c.properties.map fun p => arraysOf p.type
        else (if c.properties.isEmpty then []
          else [c.properties.flatMap fun p => arraysOf p.field.type]) ++
            c.properties.map fun p => arraysOf p.type) := by
    have hfields := segmentLines_texts fun p hp => (segment_fieldLine
      (h.properties p hp).fieldVisibility (h.properties p hp).fieldType
      (h.properties p hp).fieldName).led
    have hmembers := forall₂_segmentLines_map fun p hp =>
      segmentLines_property (h.properties p hp)
    have hlines := forall₂_segmentLines_map fun p hp =>
      segmentLines_text 0 (led_interfacePropertyLine (h.properties p hp))
    split
    · exact hlines
    split
    · exact hmembers
    · exact .cons hfields hmembers
  have hmethods := forall₂_segmentLines_map fun m hm => segmentLines_method (h.methods m hm)
  have hbody := segmentLines_separate (List.rel_append hproperties hmethods)
  refine ⟨_, rfl, ?_⟩
  have harrays : classArrays c = ((if c.isInterface then c.properties.map fun p => arraysOf p.type
        else (if c.properties.isEmpty then []
          else [c.properties.flatMap fun p => arraysOf p.field.type]) ++
            c.properties.map fun p => arraysOf p.type) ++ c.methods.map methodArrays).flatten := by
    cases hi : c.isInterface with
    | true => simp [classArrays, hi, List.flatMap_def]
    | false =>
      by_cases hempty : c.properties = []
      · simp [classArrays, hi, hempty, List.flatMap_def]
      · simp [classArrays, hi, hempty, List.flatMap_def]
  rw [harrays]
  exact hbody

lemma segmentLines_members {members : List String} (h : ∀ member ∈ members, CalmText member) :
    SegmentLines (memberLines members) [] := by
  induction members with
  | nil => exact segmentLines_nil
  | cons name rest ih =>
    have hname := segment_escapeIdentifier (h name List.mem_cons_self)
    cases rest with
    | nil => exact segmentLines_text 0 hname.led
    | cons next rest =>
      have hcomma : Segment "," [] := segment_calm (by decide)
      have htail := ih fun member hm => h member (List.mem_cons_of_mem name hm)
      exact (segmentLines_text 0 (hname.append hcomma).led).append htail

lemma WordDeclaration.exists_body {d : TypeDeclaration} (h : WordDeclaration d) :
    CalmText (declarationHeader d) ∧
      ∃ body, declarationLines d = braced (declarationHeader d) body ∧
        SegmentLines body (declarationArrays d) := by
  cases d with
  | cls c => exact ⟨WordClass.calmText_header h, WordClass.exists_body h⟩
  | enum e => exact ⟨WordEnum.calmText_header h, _, rfl, segmentLines_members h.members⟩

end Declarations

end HubProxy.Proofs
