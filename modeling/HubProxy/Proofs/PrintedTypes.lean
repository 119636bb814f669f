import HubProxy.Proofs.BuiltSegments
import HubProxy.Proofs.PrintedMembers

/-!
# Types that are read back

The methods and the declared types of a build are found in their lines. A class shows its properties
in their headers only up to the case of the first letter, and an interface says nothing of the fields
behind them; but both come from the name in the contract, and so are known from the header.
-/

namespace HubProxy.Proofs

open CSharp

section Casing

variable {s s' : String}

lemma ascii_of_isAlpha {c : Char} (h : c.isAlpha = true) : c.toNat < 128 := by
  have hend : ∀ last : Char, last.toNat < 128 → c.val ≤ last.val → c.toNat < 128 :=
    fun _ hlast hle => Nat.lt_of_le_of_lt (UInt32.le_iff_toNat_le.mp hle) hlast
  rcases (Bool.or_eq_true _ _).mp h with hupper | hlower
  · exact hend 'Z' (by decide) (of_decide_eq_true hupper).2
  · exact hend 'z' (by decide) (of_decide_eq_true ((Bool.and_eq_true _ _).mp hlower).2)

lemma IsIdentifier.exists_start (h : IsIdentifier s) :
    ∃ c rest, s.toList = c :: rest ∧ c.toNat < 128 ∧ (c.isAlpha || c == '_') = true := by
  obtain ⟨c, rest, heq⟩ := List.exists_cons_of_ne_nil h.ne_nil
  have hname := h.1
  rw [isName, heq] at hname
  refine ⟨c, rest, heq, ?_, hname⟩
  rcases (Bool.or_eq_true _ _).mp hname with halpha | hunderscore
  · exact ascii_of_isAlpha halpha
  · rw [eq_of_beq hunderscore]
    decide

lemma isIdentifier_of_start {c : Char} {rest : List Char} (heq : s.toList = c :: rest)
    (hc : (c.isAlpha || c == '_') = true) (hchars : ∀ d ∈ c :: rest, Text.isWord d = true) :
    IsIdentifier s := by
  refine ⟨?_, heq ▸ hchars⟩
  rw [isName, heq]
  exact hc

/-- A name of the language stays one when its first letter is raised. -/
lemma IsIdentifier.firstUpper (h : IsIdentifier s) : IsIdentifier (Text.firstUpper s) := by
  obtain ⟨c, rest, heq, hascii, hstart⟩ := h.exists_start
  have hall : ∀ n < 128, ((Char.ofNat n).isAlpha || Char.ofNat n == '_') = true →
      ((Char.ofNat n).toUpper.isAlpha || (Char.ofNat n).toUpper == '_') = true ∧
        Text.isWord (Char.ofNat n).toUpper = true := by decide +kernel
  obtain ⟨hupper, hword⟩ := forall_ascii (P := fun c => (c.isAlpha || c == '_') = true →
    (c.toUpper.isAlpha || c.toUpper == '_') = true ∧ Text.isWord c.toUpper = true) hall hascii hstart
  have hchars : (Text.firstUpper s).toList = c.toUpper :: rest := by
    simp [Text.firstUpper, heq, Text.raiseFirst, Text.upperChar, hascii]
  refine isIdentifier_of_start hchars hupper (List.forall_mem_cons.mpr ⟨hword, fun d hd => h.2 d ?_⟩)
  exact heq ▸ List.mem_cons_of_mem c hd

lemma IsIdentifier.firstLower_firstUpper (h : IsIdentifier s) :
    Text.firstLower (Text.firstUpper s) = Text.firstLower s := by
  obtain ⟨c, rest, heq, hascii, -⟩ := h.exists_start
  have hall : ∀ n < 128, (Char.ofNat n).toUpper.toNat < 128 ∧
      (Char.ofNat n).toUpper.toLower = (Char.ofNat n).toLower := by decide +kernel
  obtain ⟨hupper, hlower⟩ := forall_ascii
    (P := fun c => c.toUpper.toNat < 128 ∧ c.toUpper.toLower = c.toLower) hall hascii
  simp [Text.firstUpper, Text.firstLower, heq, Text.raiseFirst, Text.lowerFirst, Text.upperChar,
    Text.lowerChar, hascii, hupper, hlower]

/-- The field behind a property. -/
lemma IsIdentifier.isWord_field (h : IsIdentifier s) : IsWord ("_" ++ Text.firstLower s) := by
  obtain ⟨c, rest, heq, hascii, hstart⟩ := h.exists_start
  have hall : ∀ n < 128, ((Char.ofNat n).isAlpha || Char.ofNat n == '_') = true →
      Text.isWord (Char.ofNat n).toLower = true := by decide +kernel
  have hlower := forall_ascii (P := fun c => (c.isAlpha || c == '_') = true →
    Text.isWord c.toLower = true) hall hascii hstart
  have hchars : ("_" ++ Text.firstLower s).toList = '_' :: c.toLower :: rest := by
    simp [Text.firstLower, heq, Text.lowerFirst, Text.lowerChar, hascii]
  refine ⟨by simp [hchars], ?_⟩
  rw [hchars]
  refine List.forall_mem_cons.mpr ⟨by decide, List.forall_mem_cons.mpr ⟨hlower, fun d hd => h.2 d ?_⟩⟩
  exact heq ▸ List.mem_cons_of_mem c hd

end Casing

section Properties

variable {classes classes' : ClassTable} {visibility : String} {p p' : String × Descriptor}

/-- A property of a contract with a name of the language and a type that has one. -/
structure LegibleMember (classes : ClassTable) (p : String × Descriptor) : Prop where
  name : IsIdentifier p.1
  type : WordReference (reference classes p.2)

/-- The header of a property gives the property, its field included. -/
lemma memberDeclaration_inj (h : LegibleMember classes p) (h' : LegibleMember classes' p')
    (heq : renderType (reference classes p.2) ++ (" " ++ escapeIdentifier (Text.firstUpper p.1)) =
      renderType (reference classes' p'.2) ++ (" " ++ escapeIdentifier (Text.firstUpper p'.1))) :
    memberDeclaration classes visibility p = memberDeclaration classes' visibility p' := by
  obtain ⟨htype, hname⟩ := typed_inj h.type h'.type h.name.firstUpper.isWord
    h'.name.firstUpper.isWord heq
  have hfield : Text.firstLower p.1 = Text.firstLower p'.1 := by
    rw [← h.name.firstLower_firstUpper, hname, h'.name.firstLower_firstUpper]
  rw [memberDeclaration, memberDeclaration, htype, hname, hfield]

lemma propertyLines_inj (h : LegibleMember classes p) (h' : LegibleMember classes' p')
    (heq : propertyLines (memberDeclaration classes visibility p) =
      propertyLines (memberDeclaration classes' visibility p')) :
    memberDeclaration classes visibility p = memberDeclaration classes' visibility p' := by
  obtain ⟨hheader, -⟩ := braced_inj heq
  simp only [memberHeader, memberDeclaration, String.append_assoc, String.append_right_inj] at hheader
  exact memberDeclaration_inj h h' hheader

lemma interfacePropertyLine_inj (h : LegibleMember classes p) (h' : LegibleMember classes' p')
    (heq : interfacePropertyLine (memberDeclaration classes visibility p) =
      interfacePropertyLine (memberDeclaration classes' visibility p')) :
    memberDeclaration classes visibility p = memberDeclaration classes' visibility p' := by
  simp only [interfacePropertyLine, memberDeclaration, String.append_left_inj] at heq
  rw [String.append_assoc, String.append_assoc] at heq
  exact memberDeclaration_inj h h' heq

lemma sharp_memberHeader {type : TypeReference} {name : String} (hvisibility : Sharp visibility)
    (htype : WordReference type) (hname : IsWord name) : Sharp (memberHeader visibility type name) :=
  ((hvisibility.append (by decide)).append ((dense_renderType htype).not_mem (by decide))).append
    (by decide) |>.append ((dense_escapeIdentifier hname).not_mem (by decide))

lemma sharp_fieldLine (h : LegibleMember classes p) :
    Sharp (fieldLine (memberDeclaration classes visibility p).field) :=
  (sharp_memberHeader (by decide : Sharp "private") h.type h.name.isWord_field).append (by decide)

lemma sharp_of_dense {s : String} (h : Dense s) (hne : s.toList ≠ []) : Sharp s where
  nonempty := hne
  start := fun hhead => h.not_mem (by decide) (List.mem_of_mem_head? hhead)
  inLine := h.not_mem (by decide)

lemma sharp_interfacePropertyLine (h : LegibleMember classes p) :
    Sharp (interfacePropertyLine (memberDeclaration classes visibility p)) := by
  have htype := sharp_of_dense (dense_renderType h.type) (renderType_ne_empty h.type)
  have hname := (dense_escapeIdentifier h.name.firstUpper.isWord).not_mem (c := '\n') (by decide)
  have haccessors : '\n' ∉ (" ".intercalate (["get;"] ++ ["set;"])).toList := by decide
  exact (((htype.append (by decide)).append hname).append (by decide)).append haccessors |>.append
    (by decide)

lemma sharpLines_accessor {header content : String} (hheader : Sharp header)
    (hcontent : Sharp content) : ∀ line ∈ braced header [.text 0 content], SharpLine line :=
  sharpLines_braced hheader (List.forall_mem_singleton.mpr (show SharpLine (.text 0 content) from hcontent))

lemma sharpLines_propertyLines (hvisibility : Sharp visibility) (h : LegibleMember classes p) :
    ∀ line ∈ propertyLines (memberDeclaration classes visibility p), SharpLine line := by
  have hfield := (dense_escapeIdentifier h.name.isWord_field).not_mem (c := '\n') (by decide)
  have hget : Sharp ("return " ++ ("this." ++ escapeIdentifier ("_" ++ Text.firstLower p.1)) ++ ";") :=
    ((by decide : Sharp "return ").append (not_mem_append (by decide) hfield)).append (by decide)
  have hset : Sharp ("this." ++ escapeIdentifier ("_" ++ Text.firstLower p.1) ++ " = value;") :=
    ((by decide : Sharp "this.").append hfield).append (by decide)
  refine sharpLines_braced (sharp_memberHeader hvisibility h.type h.name.firstUpper.isWord) ?_
  intro line hline
  rcases List.mem_append.mp hline with hline | hline
  · exact sharpLines_accessor (by decide) hget line hline
  · exact sharpLines_accessor (by decide) hset line hline

lemma gapless_propertyLines : Gapless (propertyLines (memberDeclaration classes visibility p)) := by
  refine ⟨by simp [propertyLines, braced], gap_not_mem_braced ?_⟩
  simp [memberDeclaration, braced, Line.deepen]

end Properties

section Methods

variable {classes classes' : ClassTable} {options : MethodOptions} {connection : String}
  {o o' : Operation}

/-- An operation whose name and parameters can be told from what is around them. -/
structure LegibleOperation (classes : ClassTable) (o : Operation) : Prop where
  name : IsIdentifier o.name
  parameters : ∀ p ∈ parametersOf classes o, LegibleParameter p

lemma LegibleOperation.legibleCall (h : LegibleOperation classes o) (hconnection : IsWord connection) :
    ∀ s ∈ (methodOf classes options connection o).body, LegibleCall s.call := by
  intro s hs
  unfold methodOf at hs
  split at hs
  · have hinvoke : IsWord "InvokeAsync" := by decide
    obtain rfl := List.mem_singleton.mp hs
    refine ⟨hconnection, hinvoke, ?_, fun _ hmem => absurd hmem List.not_mem_nil⟩
    refine List.forall_mem_cons.mpr ⟨h.name.2, fun e he => ?_⟩
    obtain ⟨p, hp, rfl⟩ := List.mem_map.mp he
    exact (h.parameters p hp).name
  · have hon : IsWord "On" := by decide
    have hhandler : IsWord "handler" := by decide
    obtain rfl := List.mem_singleton.mp hs
    refine ⟨hconnection, hon, ?_, fun type htype => ?_⟩
    · exact List.forall_mem_cons.mpr ⟨h.name.2, List.forall_mem_singleton.mpr hhandler⟩
    · obtain ⟨p, hp, rfl⟩ := List.mem_map.mp htype
      exact (h.parameters p hp).type

lemma body_inj {body body' : List CallStatement} (h : ∀ s ∈ body, LegibleCall s.call)
    (h' : ∀ s ∈ body', LegibleCall s.call)
    (heq : (body.map fun s => Line.text 0 (renderStatement s)) =
      body'.map fun s => Line.text 0 (renderStatement s)) : body = body' :=
  eq_of_map_eq (fun s hs s' hs' hline =>
    renderStatement_inj (h s hs) (h' s' hs') (Line.text.inj hline).2) heq

lemma serverHeader_inj (h : LegibleOperation classes o) (h' : LegibleOperation classes' o')
    (heq : methodLines (serverMethod options connection o (parametersOf classes o)) =
      methodLines (serverMethod options connection o' (parametersOf classes' o'))) :
    parametersOf classes o = parametersOf classes' o' := by
  obtain ⟨hheader, -⟩ := braced_inj heq
  simp only [memberHeader, serverMethod, String.append_assoc, String.append_right_inj] at hheader
  obtain ⟨-, hlist⟩ := cut_inj (c := '(') rfl ((dense_escapeIdentifier h.name.isWord).not_mem (by decide))
    ((dense_escapeIdentifier h'.name.isWord).not_mem (by decide)) hheader
  exact parameters_inj h.parameters h'.parameters ((String.append_left_inj _).mp hlist)

/-- The lines of a method give the method. The statement tells the two kinds apart and quotes the name
of the operation; the types stand in the header or in the statement. -/
theorem methodLines_inj (hconnection : IsWord connection) (h : LegibleOperation classes o)
    (h' : LegibleOperation classes' o')
    (heq : methodLines (methodOf classes options connection o) =
      methodLines (methodOf classes' options connection o')) :
    methodOf classes options connection o = methodOf classes' options connection o' := by
  have hbody := body_inj (h.legibleCall hconnection) (h'.legibleCall hconnection) (braced_inj heq).2
  unfold methodOf at heq hbody ⊢
  cases hd : o.direction <;> cases hd' : o'.direction <;> simp only [hd, hd'] at heq hbody ⊢
  · have hname : o.name = o'.name := by
      simp only [serverMethod, List.cons.injEq, CallStatement.mk.injEq, MethodCall.mk.injEq,
        Expression.literal.injEq] at hbody
      exact hbody.1.1.2.2.1.1
    rw [serverHeader_inj h h' heq, serverMethod, serverMethod, hname]
  · simp [serverMethod, clientMethod] at hbody
  · simp [serverMethod, clientMethod] at hbody
  · simp only [clientMethod, List.cons.injEq, CallStatement.mk.injEq, MethodCall.mk.injEq,
      Expression.literal.injEq] at hbody
    obtain ⟨⟨⟨-, -, ⟨hname, -⟩, htypes⟩, -⟩, -⟩ := hbody
    rw [clientMethod, clientMethod, hname, htypes]

lemma renderType_generic (name : String) (types : List TypeReference) :
    renderType ⟨name, types, none⟩ = name ++ typeArgumentsText types := by
  cases types with
  | nil => simp [renderType, typeArgumentsText]
  | cons type types =>
    rw [renderType, renderTypes_eq_map]
    simp [typeArgumentsText, String.append_assoc]

lemma feed_not_mem_renderCall {call : MethodCall} (h : LegibleCall call) :
    '\n' ∉ (renderCall call).toList := by
  have htarget := (dense_escapeIdentifier h.target).not_mem (c := '\n') (by decide)
  have hmethod := (dense_of_isWord h.method.2).not_mem (c := '\n') (by decide)
  have htypes := not_mem_typeArgumentsText h.typeArguments (c := '\n') (by decide) (by decide)
  have harguments : '\n' ∉ (", ".intercalate (call.arguments.map renderExpression)).toList := by
    refine not_mem_commaList (by decide) fun s hs => ?_
    obtain ⟨e, he, rfl⟩ := List.mem_map.mp hs
    exact not_mem_renderExpression (h.arguments e he) (by decide) (by decide)
  rw [renderCall_eq]
  exact not_mem_append (by decide) (not_mem_append htarget (not_mem_append (by decide)
    (not_mem_append (not_mem_append hmethod htypes) (not_mem_append (by decide)
      (not_mem_append harguments (by decide))))))

lemma sharp_renderStatement {s : CallStatement} (h : LegibleCall s.call) : Sharp (renderStatement s) := by
  have hcall : Sharp (renderCall s.call) := by
    refine ⟨?_, ?_, feed_not_mem_renderCall h⟩ <;> simp [renderCall_eq]
  have hend : '\n' ∉ ";".toList := by decide
  unfold renderStatement
  cases s.returns <;> cases s.awaited
  · simpa using hcall.append hend
  · simpa using ((by decide : Sharp "await ").append hcall.inLine).append hend
  · simpa using ((by decide : Sharp "return ").append hcall.inLine).append hend
  · exact ((by decide : Sharp ("return " ++ "await ")).append hcall.inLine).append hend

lemma sharp_methodHeader {modifiers name list : String} {type : TypeReference}
    (hmodifiers : Sharp modifiers) (htype : WordReference type) (hname : IsWord name)
    (hlist : '\n' ∉ list.toList) : Sharp (memberHeader modifiers type name ++ "(" ++ list ++ ")") :=
  (((sharp_memberHeader hmodifiers htype hname).append (by decide)).append hlist).append (by decide)

lemma sharpLines_methodLines (hvisibility : Sharp options.visibility)
    (hsuffix : ∀ c ∈ options.clientSuffix.toList, Text.isWord c = true) (hconnection : IsWord connection)
    (h : LegibleOperation classes o) :
    ∀ line ∈ methodLines (methodOf classes options connection o), SharpLine line := by
  refine sharpLines_braced ?_ fun line hline => ?_
  · unfold methodOf
    split
    · have hasync : '\n' ∉ " async".toList := by decide
      have htask : IsIdentifier "Task" := by decide
      refine sharp_methodHeader (hvisibility.append hasync) (wordReference_named htask)
        h.name.isWord (not_mem_commaList (by decide) fun s hs => ?_)
      obtain ⟨p, hp, rfl⟩ := List.mem_map.mp hs
      exact not_mem_renderParameter (h.parameters p hp) (by decide) (by decide)
    · have hplain : '\n' ∉ "".toList := by decide
      have hdisposable : IsIdentifier "IDisposable" := by decide
      have hname : IsWord (Text.firstUpper o.name ++ options.clientSuffix) := by
        refine ⟨by simp [h.name.firstUpper.ne_nil], fun c hc => ?_⟩
        rw [String.toList_append] at hc
        exact (List.mem_append.mp hc).elim (h.name.firstUpper.2 c) (hsuffix c)
      refine sharp_methodHeader (hvisibility.append hplain) (wordReference_named hdisposable)
        hname (not_mem_commaList (by decide) (List.forall_mem_singleton.mpr ?_))
      have htypes : ∀ type ∈ (parametersOf classes o).map (·.type), WordReference type := by
        intro type htype
        obtain ⟨p, hp, rfl⟩ := List.mem_map.mp htype
        exact (h.parameters p hp).type
      have hhandler : '\n' ∉ (escapeIdentifier "handler").toList := by decide
      rw [renderParameter, renderType_generic]
      exact not_mem_append (not_mem_append (not_mem_append (by decide)
        (not_mem_typeArgumentsText htypes (by decide) (by decide))) (by decide)) hhandler
  · obtain ⟨s, hs, rfl⟩ := List.mem_map.mp hline
    exact sharp_renderStatement (h.legibleCall hconnection s hs)

lemma gapless_methodLines (m : MethodDeclaration) : Gapless (methodLines m) :=
  ⟨by simp [methodLines, braced], gap_not_mem_braced (by simp)⟩

end Methods

section Declarations

/-- A declaration that a build makes of legible names. -/
inductive LegibleDeclaration : TypeDeclaration → Prop
  | enum {name : String} {members : List String} (hname : IsIdentifier name)
      (hmembers : ∀ member ∈ members, IsIdentifier member) :
      LegibleDeclaration (.enum ⟨name, members, "public"⟩)
  | cls {classes : ClassTable} {c : ClassDef} (hname : IsIdentifier c.name)
      (hmembers : ∀ p ∈ c.properties, LegibleMember classes p) :
      LegibleDeclaration (.cls (classDeclaration classes "public" c))

lemma memberLines_cons (name : String) (rest : List String) : memberLines (name :: rest) =
    .text 0 (escapeIdentifier name ++ if rest.isEmpty then "" else ",") :: memberLines rest := by
  cases rest <;> simp [memberLines]

/-- The members of an enumeration are found, with commas or without. -/
lemma memberLines_inj {members members' : List String} (h : ∀ name ∈ members, IsIdentifier name)
    (h' : ∀ name ∈ members', IsIdentifier name) (heq : memberLines members = memberLines members') :
    members = members' := by
  induction members generalizing members' with
  | nil =>
    cases members' with
    | nil => rfl
    | cons name' members' =>
      rw [memberLines_cons] at heq
      cases heq
  | cons name members ih =>
    cases members' with
    | nil =>
      rw [memberLines_cons] at heq
      cases heq
    | cons name' members' =>
      rw [memberLines_cons, memberLines_cons] at heq
      obtain ⟨hline, hrest⟩ := List.cons.inj heq
      have hname := (h name List.mem_cons_self).isWord
      have hname' := (h' name' List.mem_cons_self).isWord
      have hlist := congrArg String.toList (Line.text.inj hline).2
      rw [String.toList_append, String.toList_append] at hlist
      have hcomma : ∀ flag : Bool, ∀ c ∈ (if flag then "" else ",").toList.head?, c = ',' := by
        intro flag
        cases flag <;> simp
      obtain ⟨hescaped, -⟩ := append_inj_of_head (P := (· = ','))
        (fun c hc heq => (dense_escapeIdentifier hname).not_mem (by decide) (heq ▸ hc))
        (fun c hc heq => (dense_escapeIdentifier hname').not_mem (by decide) (heq ▸ hc))
        (hcomma _) (hcomma _) hlist
      rw [escapeIdentifier_inj hname hname' (String.toList_inj.mp hescaped),
        ih (fun n hn => h n (List.mem_cons_of_mem name hn))
          (fun n hn => h' n (List.mem_cons_of_mem name' hn)) hrest]

/-- The groups of lines in the body of a class with properties only. -/
def propertyGroups (c : ClassDeclaration) : List (List Line) :=
  if c.isInterface then c.properties.map fun p => [.text 0 (interfacePropertyLine p)]
  else
    (if c.properties.isEmpty then [] else [c.properties.map fun p => .text 0 (fieldLine p.field)])
      ++ c.properties.map propertyLines

/-- The word that opens a declaration. -/
def openerOf : TypeDeclaration → String
  | .cls c => if c.isInterface then "interface" else "class"
  | .enum _ => "enum"

/-- The lines between the braces of a declaration without methods. -/
def bodyOf : TypeDeclaration → List Line
  | .cls c => separate (propertyGroups c)
  | .enum e => memberLines e.members

lemma LegibleDeclaration.lines_eq {d : TypeDeclaration} (h : LegibleDeclaration d) :
    declarationLines d = braced ("public " ++ (openerOf d ++ (" " ++ d.name))) (bodyOf d) := by
  cases h with
  | enum => rfl
  | cls =>
    simp [declarationLines, classLines, classDeclaration, openerOf, bodyOf, propertyGroups,
      TypeDeclaration.name, String.append_assoc]

variable {classes classes' : ClassTable} {c c' : ClassDef}

lemma gapless_propertyGroups : ∀ group ∈ propertyGroups (classDeclaration classes "public" c),
    Gapless group := by
  intro group hgroup
  unfold propertyGroups at hgroup
  split at hgroup
  · obtain ⟨p, -, rfl⟩ := List.mem_map.mp hgroup
    simp [Gapless]
  · rcases List.mem_append.mp hgroup with hfields | hproperties
    · split at hfields
      · exact absurd hfields List.not_mem_nil
      · next hne =>
        obtain rfl := List.mem_singleton.mp hfields
        exact ⟨by simpa using hne, by simp⟩
    · rw [classDeclaration, List.map_map] at hproperties
      obtain ⟨p, -, rfl⟩ := List.mem_map.mp hproperties
      exact gapless_propertyLines

/-- The list of fields stands in front of the properties if and only if there are any. -/
lemma fields_append_inj {first first' : List Line} {l l' : List PropertyDeclaration}
    (heq : (if l.isEmpty then [] else [first]) ++ l.map propertyLines =
      (if l'.isEmpty then [] else [first']) ++ l'.map propertyLines) :
    l.map propertyLines = l'.map propertyLines := by
  cases l <;> cases l' <;> simp_all

lemma properties_inj (h : ∀ p ∈ c.properties, LegibleMember classes p)
    (h' : ∀ p ∈ c'.properties, LegibleMember classes' p) (hkind : c.isInterface = c'.isInterface)
    (heq : propertyGroups (classDeclaration classes "public" c) =
      propertyGroups (classDeclaration classes' "public" c')) :
    (classDeclaration classes "public" c).properties =
      (classDeclaration classes' "public" c').properties := by
  by_cases hinterface : c.isInterface = true
  · have hd : (classDeclaration classes "public" c).isInterface = true := hinterface
    have hd' : (classDeclaration classes' "public" c').isInterface = true :=
      hkind.symm.trans hinterface
    rw [propertyGroups, propertyGroups, if_pos hd, if_pos hd', classDeclaration, classDeclaration,
      List.map_map, List.map_map] at heq
    refine map_eq_map (fun p hp p' hp' hline => ?_) heq
    exact interfacePropertyLine_inj (h p hp) (h' p' hp') (by simpa using hline)
  · have hd : ¬(classDeclaration classes "public" c).isInterface = true := hinterface
    have hd' : ¬(classDeclaration classes' "public" c').isInterface = true :=
      fun htrue => hinterface (hkind.trans htrue)
    rw [propertyGroups, propertyGroups, if_neg hd, if_neg hd'] at heq
    have hlines := fields_append_inj heq
    rw [classDeclaration, classDeclaration, List.map_map, List.map_map] at hlines
    exact map_eq_map (fun p hp p' hp' hline => propertyLines_inj (h p hp) (h' p' hp') hline) hlines

/-- The lines of a declaration give the declaration. -/
theorem declarationLines_inj {d d' : TypeDeclaration} (h : LegibleDeclaration d)
    (h' : LegibleDeclaration d') (heq : declarationLines d = declarationLines d') : d = d' := by
  rw [h.lines_eq, h'.lines_eq] at heq
  obtain ⟨hheader, hbody⟩ := braced_inj heq
  rw [String.append_right_inj] at hheader
  have hword : ∀ d, ' ' ∉ (openerOf d).toList := by
    intro d
    cases d with
    | cls c => cases hkind : c.isInterface <;> simp [openerOf, hkind]
    | enum e => simp [openerOf]
  obtain ⟨hopener, hname⟩ := cut_inj (c := ' ') rfl (hword d) (hword d') hheader
  have hkinds : ∀ flag : Bool, (if flag then "interface" else "class") ≠ "enum" := by decide
  cases h with
  | enum _ hmembers =>
    cases h' with
    | enum _ hmembers' =>
      have hmembers := memberLines_inj hmembers hmembers' hbody
      simp_all [TypeDeclaration.name]
    | cls => exact absurd hopener.symm (hkinds _)
  | @cls classes c _ hmembers =>
    cases h' with
    | enum => exact absurd hopener (hkinds _)
    | @cls classes' c' _ hmembers' =>
      have hflags : ∀ flag flag' : Bool, (if flag then "interface" else "class") =
          (if flag' then "interface" else "class") → flag = flag' := by decide
      have hkind : c.isInterface = c'.isInterface := hflags _ _ hopener
      have hgroups := separate_inj separable_gapless gapless_propertyGroups gapless_propertyGroups hbody
      have hproperties := properties_inj hmembers hmembers' hkind hgroups
      have hname : c.name = c'.name := hname
      simp_all [classDeclaration]

lemma sharpLines_memberLines {members : List String} (h : ∀ name ∈ members, IsIdentifier name) :
    ∀ line ∈ memberLines members, SharpLine line := by
  induction members with
  | nil => exact fun line hline => absurd hline List.not_mem_nil
  | cons name members ih =>
    have hname := (h name List.mem_cons_self).isWord
    have hmark : ∀ flag : Bool, '\n' ∉ (if flag then "" else ",").toList := by decide
    have hline : Sharp (escapeIdentifier name ++ if members.isEmpty then "" else ",") :=
      (sharp_of_dense (dense_escapeIdentifier hname) (escapeIdentifier_ne_empty hname)).append (hmark _)
    rw [memberLines_cons]
    exact List.forall_mem_cons.mpr ⟨hline, ih fun n hn => h n (List.mem_cons_of_mem name hn)⟩

lemma sharpLines_propertyGroups (h : ∀ p ∈ c.properties, LegibleMember classes p) :
    ∀ group ∈ propertyGroups (classDeclaration classes "public" c), ∀ line ∈ group, SharpLine line := by
  intro group hgroup
  unfold propertyGroups at hgroup
  split at hgroup
  · rw [classDeclaration, List.map_map] at hgroup
    obtain ⟨p, hp, rfl⟩ := List.mem_map.mp hgroup
    exact List.forall_mem_singleton.mpr (sharp_interfacePropertyLine (h p hp))
  · rcases List.mem_append.mp hgroup with hfields | hproperties
    · split at hfields
      · exact absurd hfields List.not_mem_nil
      · obtain rfl := List.mem_singleton.mp hfields
        intro line hline
        rw [classDeclaration, List.map_map] at hline
        obtain ⟨p, hp, rfl⟩ := List.mem_map.mp hline
        exact sharp_fieldLine (h p hp)
    · rw [classDeclaration, List.map_map] at hproperties
      obtain ⟨p, hp, rfl⟩ := List.mem_map.mp hproperties
      exact sharpLines_propertyLines (by decide) (h p hp)

lemma LegibleDeclaration.sharpLines {d : TypeDeclaration} (h : LegibleDeclaration d) :
    ∀ line ∈ declarationLines d, SharpLine line := by
  have hheader : ∀ d : TypeDeclaration, IsIdentifier d.name →
      Sharp ("public " ++ (openerOf d ++ (" " ++ d.name))) := by
    intro d hname
    have hopener : '\n' ∉ (openerOf d).toList := by
      cases d with
      | cls c => cases hkind : c.isInterface <;> simp [openerOf, hkind]
      | enum e => simp [openerOf]
    exact (by decide : Sharp "public ").append (not_mem_append hopener
      (not_mem_append (by decide) ((dense_of_isWord hname.2).not_mem (by decide))))
  rw [h.lines_eq]
  cases h with
  | enum hname hmembers => exact sharpLines_braced (hheader _ hname) (sharpLines_memberLines hmembers)
  | cls hname hmembers =>
    exact sharpLines_braced (hheader _ hname)
      (sharpLines_separate (sharpLines_propertyGroups hmembers))

end Declarations

end HubProxy.Proofs
