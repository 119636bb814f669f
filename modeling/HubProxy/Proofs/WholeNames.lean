import HubProxy.Proofs.WrittenNames

/-!
# Names are words of their own

Nothing that could belong to a word stands beside a name in an emitted file. So the name that a piece
spells is what a reader of the text finds there.
-/

namespace HubProxy.Proofs

open CSharp

/-- A character that belongs to no word, if there is one at all. -/
def Outside (c : Option Char) : Prop :=
  ∀ d ∈ c, Text.isWord d = false

/-- In a line, no character of a word stands right before or right after a name. -/
def WholeNames (pieces : List Piece) : Prop :=
  ∀ before use text after, pieces = before ++ .name use text :: after →
    Outside (spell before).toList.getLast? ∧ Outside (spell after).toList.head?

/-- A text that a word cannot go on with. -/
def StartsOutside (s : String) : Prop :=
  s.toList ≠ [] ∧ Outside s.toList.head?

/-- A text that no word can go on. -/
def EndsOutside (s : String) : Prop :=
  s.toList ≠ [] ∧ Outside s.toList.getLast?

instance : DecidablePred Outside
  | none => isTrue (by simp [Outside])
  | some c => decidable_of_iff (Text.isWord c = false) (by simp [Outside])

instance : DecidablePred StartsOutside := fun s =>
  inferInstanceAs (Decidable (s.toList ≠ [] ∧ Outside s.toList.head?))

instance : DecidablePred EndsOutside := fun s =>
  inferInstanceAs (Decidable (s.toList ≠ [] ∧ Outside s.toList.getLast?))

variable {pieces pieces' : List Piece} {s t : String}

lemma StartsOutside.append (h : StartsOutside s) (t : String) : StartsOutside (s ++ t) := by
  obtain ⟨c, cs, hs⟩ := List.exists_cons_of_ne_nil h.1
  have hstart := h.2
  rw [hs] at hstart
  rw [StartsOutside, String.toList_append, hs]
  exact ⟨by simp, hstart⟩

lemma EndsOutside.append (h : EndsOutside t) (s : String) : EndsOutside (s ++ t) := by
  refine ⟨by simp [h.1], ?_⟩
  rw [String.toList_append, List.getLast?_append_of_ne_nil _ h.1]
  exact h.2

lemma StartsOutside.outside (h : StartsOutside t) (hs : Outside s.toList.head?) :
    Outside (s ++ t).toList.head? := by
  rw [String.toList_append]
  cases hlist : s.toList with
  | nil => exact h.2
  | cons c cs => simpa [hlist] using hs

lemma EndsOutside.outside (h : EndsOutside s) (ht : Outside t.toList.getLast?) :
    Outside (s ++ t).toList.getLast? := by
  rw [String.toList_append]
  by_cases hempty : t.toList = []
  · rw [hempty, List.append_nil]
    exact h.2
  · rwa [List.getLast?_append_of_ne_nil _ hempty]

/-- Pieces on both sides of a text that keeps their words apart. -/
lemma WholeNames.sep (h : WholeNames pieces) (h' : WholeNames pieces')
    (hstart : pieces = [] ∨ StartsOutside s) (hend : pieces' = [] ∨ EndsOutside s) :
    WholeNames (pieces ++ .code s :: pieces') := by
  intro before use text after heq
  rcases List.append_eq_append_iff.mp heq with ⟨rest, rfl, hrest⟩ | ⟨rest, rfl, hrest⟩
  · cases rest with
    | nil => cases hrest
    | cons p rest =>
      obtain ⟨rfl, rfl⟩ := List.cons.inj hrest
      obtain ⟨hbefore, hafter⟩ := h' rest use text after rfl
      have hs : EndsOutside (spell pieces ++ s) := (hend.resolve_left (by simp)).append _
      refine ⟨?_, hafter⟩
      simpa [String.append_assoc] using hs.outside hbefore
  · cases rest with
    | nil => cases hrest
    | cons p rest =>
      obtain ⟨rfl, rfl⟩ := List.cons.inj hrest
      obtain ⟨hbefore, hafter⟩ := h before use text rest rfl
      have hs : StartsOutside (s ++ spell pieces') := (hstart.resolve_left (by simp)).append _
      refine ⟨hbefore, ?_⟩
      simpa using hs.outside hafter

lemma wholeNames_nil : WholeNames [] := by
  intro before use text after heq
  simp at heq

lemma wholeNames_name (use : NameUse) (text : String) : WholeNames [.name use text] := by
  intro before use' text' after heq
  obtain ⟨rfl, hrest⟩ := List.append_eq_singleton_iff.mp heq.symm |>.resolve_right (by simp)
  obtain ⟨-, rfl⟩ := List.cons.inj hrest
  simp [Outside]

lemma wholeNames_code (s : String) : WholeNames [.code s] :=
  wholeNames_nil.sep wholeNames_nil (.inl rfl) (.inl rfl)

lemma WholeNames.after (h : WholeNames pieces) (hs : EndsOutside s) : WholeNames (.code s :: pieces) :=
  wholeNames_nil.sep h (.inl rfl) (.inr hs)

lemma WholeNames.before (h : WholeNames pieces) (hs : StartsOutside s) :
    WholeNames (pieces ++ [.code s]) :=
  h.sep wholeNames_nil (.inr hs) (.inl rfl)

lemma wholeNames_intercalate {items : List (List Piece)} (hstart : StartsOutside s)
    (hend : EndsOutside s) (h : ∀ item ∈ items, WholeNames item) :
    WholeNames ([.code s].intercalate items) := by
  induction items with
  | nil => exact wholeNames_nil
  | cons item items ih =>
    have htail := ih fun i hi => h i (List.mem_cons_of_mem item hi)
    cases items with
    | nil => simpa using h item List.mem_cons_self
    | cons next items =>
      rw [List.intercalate_cons_cons, List.append_assoc]
      exact (h item List.mem_cons_self).sep htail (.inr hstart) (.inr hend)

lemma wholeNames_commaPieces {items : List (List Piece)} (h : ∀ item ∈ items, WholeNames item) :
    WholeNames (commaPieces items) :=
  wholeNames_intercalate (by decide) (by decide) h

lemma wholeNames_baseTypePiece (name : String) : WholeNames [baseTypePiece name] := by
  unfold baseTypePiece
  split
  · exact wholeNames_code name
  · exact wholeNames_name .reference name

mutual

lemma wholeNames_typePieces (type : TypeReference) : WholeNames (typePieces type) := by
  rcases type with ⟨name, arguments, element⟩
  cases element with
  | some element =>
    rw [typePieces]
    exact (wholeNames_typePieces element).before (by decide)
  | none =>
    cases arguments with
    | nil =>
      rw [typePieces]
      exact wholeNames_baseTypePiece name
    | cons argument rest =>
      have hlist := wholeNames_commaPieces
        (List.forall_mem_cons.mpr ⟨wholeNames_typePieces argument, wholeNames_typesPieces rest⟩)
      rw [typePieces]
      exact (wholeNames_baseTypePiece name).sep (hlist.before (by decide)) (.inr (by decide))
        (.inr (by decide))

lemma wholeNames_typesPieces (types : List TypeReference) :
    ∀ pieces ∈ typesPieces types, WholeNames pieces := by
  cases types with
  | nil =>
    rw [typesPieces]
    exact fun _ hmem => absurd hmem List.not_mem_nil
  | cons type rest =>
    rw [typesPieces]
    exact List.forall_mem_cons.mpr ⟨wholeNames_typePieces type, wholeNames_typesPieces rest⟩

end

/-- A type and a name with a space between them. -/
lemma wholeNames_typed (type : TypeReference) (use : NameUse) (name : String) :
    WholeNames (typePieces type ++ [.code " ", .name use name]) :=
  (wholeNames_typePieces type).sep (wholeNames_name use name) (.inr (by decide)) (.inr (by decide))

lemma wholeNames_memberPieces (visibility : String) (type : TypeReference) (use : NameUse)
    (name : String) : WholeNames (memberPieces visibility type use name) :=
  (wholeNames_typed type use name).after (EndsOutside.append (by decide) visibility)

lemma wholeNames_statementPieces (s : CallStatement) : WholeNames (statementPieces s) := by
  have hend : WholeNames (commaPieces (s.call.arguments.map argumentPieces) ++ [.code ");"]) := by
    refine (wholeNames_commaPieces fun item hitem => ?_).before (by decide)
    obtain ⟨e, -, rfl⟩ := List.mem_map.mp hitem
    cases e with
    | literal value => exact wholeNames_code _
    | «variable» name => exact wholeNames_name .argument name
  have hname := wholeNames_name .property s.call.target
  have hdot : ∀ t, StartsOutside ("." ++ s.call.method ++ t) := fun t =>
    (StartsOutside.append (by decide) _).append t
  have hcall : WholeNames (.name .property s.call.target ::
      (methodNamePieces s.call.method s.call.typeArguments ++
        (commaPieces (s.call.arguments.map argumentPieces) ++ [.code ");"]))) := by
    unfold methodNamePieces
    split
    · exact hname.sep hend (.inr (hdot "(")) (.inr (EndsOutside.append (by decide) _))
    · have htypes := (wholeNames_commaPieces (wholeNames_typesPieces s.call.typeArguments)).sep hend
        (s := ">(") (.inr (by decide)) (.inr (by decide))
      have hall := hname.sep htypes (.inr (hdot "<")) (.inr (EndsOutside.append (by decide) _))
      simpa using hall
  exact hcall.after (EndsOutside.append (by decide) _)

lemma wholeNames_brace : ∀ brace ∈ ["\x7b", "\x7d"], WholeNames [.code brace] :=
  fun brace _ => wholeNames_code brace

lemma wholeNames_propertyPieces (p : PropertyDeclaration) :
    ∀ line ∈ propertyPieces p, WholeNames line := by
  have hfield := wholeNames_name .field p.field.name
  have hget : WholeNames [.code "return ", .code "this.", .name .field p.field.name, .code ";"] :=
    ((hfield.after (by decide)).after (by decide)).before (by decide)
  have hset : WholeNames [.code "this.", .name .field p.field.name, .code " = value;"] :=
    (hfield.after (by decide)).before (by decide)
  exact (forall_mem_propertyPieces wholeNames_brace (fun word _ => wholeNames_code word) hget hset).mpr
    (wholeNames_memberPieces _ _ _ _)

lemma wholeNames_methodPieces (m : MethodDeclaration) : ∀ line ∈ methodPieces m, WholeNames line := by
  have hparameters : WholeNames (commaPieces (m.parameters.map parameterPieces) ++ [.code ")"]) := by
    refine (wholeNames_commaPieces (List.forall_mem_map.mpr fun p _ => ?_)).before (by decide)
    exact wholeNames_typed p.type .parameter p.name
  refine (forall_mem_methodPieces wholeNames_brace).mpr ⟨?_, fun s _ => wholeNames_statementPieces s⟩
  exact (wholeNames_memberPieces _ _ _ _).sep hparameters (.inr (by decide)) (.inr (by decide))

lemma wholeNames_interfacePropertyPieces (p : PropertyDeclaration) :
    WholeNames (interfacePropertyPieces p) := by
  have hname := (wholeNames_typed p.type .property p.name).before
    (StartsOutside.append (by decide : StartsOutside " \x7b ")
      (" ".intercalate ((if p.hasGet then ["get;"] else []) ++ (if p.hasSet then ["set;"] else [])) ++
        " \x7d"))
  simpa [interfacePropertyPieces, String.append_assoc] using hname

lemma wholeNames_memberBlockPieces (c : ClassDeclaration) :
    ∀ line ∈ memberBlockPieces c, WholeNames line := by
  unfold memberBlockPieces
  split
  · exact List.forall_mem_map.mpr fun p _ => wholeNames_interfacePropertyPieces p
  · refine List.forall_mem_append.mpr ⟨List.forall_mem_map.mpr fun p _ => ?_,
      List.forall_mem_flatMap.mpr fun p _ => wholeNames_propertyPieces p⟩
    exact (wholeNames_memberPieces _ _ _ _).before (by decide)

lemma wholeNames_classPieces (c : ClassDeclaration) : ∀ line ∈ classPieces c, WholeNames line := by
  have hheader : WholeNames (classHeaderPieces c) :=
    (wholeNames_name .header c.name).after (EndsOutside.append (by decide) _)
  exact (forall_mem_classPieces wholeNames_brace).mpr
    ⟨hheader, wholeNames_memberBlockPieces c, fun m _ => wholeNames_methodPieces m⟩

lemma wholeNames_declarationPieces (d : TypeDeclaration) :
    ∀ line ∈ declarationPieces d, WholeNames line := by
  cases d with
  | cls c => exact wholeNames_classPieces c
  | enum e =>
    have hmember := wholeNames_name .enumMember
    exact (forall_mem_blockPieces wholeNames_brace).mpr
      ⟨(wholeNames_name .header e.name).after (EndsOutside.append (by decide) _),
        forall_mem_memberListPieces hmember (fun name => (hmember name).before (by decide)) e.members⟩

lemma wholeNames_namespacePieces (ns : String) : WholeNames (namespacePieces ns) := by
  refine (wholeNames_intercalate (by decide) (by decide) ?_).after (by decide)
  exact List.forall_mem_map.mpr fun segment _ => wholeNames_name .nameSpace segment

/-- In a file every name is a word of its own. -/
theorem wholeNames_filePieces (m : ApiModel) : ∀ line ∈ filePieces m, WholeNames line :=
  (forall_mem_filePieces wholeNames_brace (fun text _ => wholeNames_code text)
    fun _ _ => wholeNames_code _).mpr ⟨fun _ => wholeNames_namespacePieces m.ns,
      wholeNames_classPieces m.proxy, fun d _ => wholeNames_declarationPieces d⟩

end HubProxy.Proofs
