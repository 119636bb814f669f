import HubProxy.Proofs.EmittedSegments
import HubProxy.Proofs.PrintedLines

/-!
# Members that are read back

Names and types are written without spaces, and between them stand marks that are in none of them. So
the header of a member gives its type and its name, a list in parentheses what it lists, and a
statement the call that it makes.
-/

namespace HubProxy.Proofs

open CSharp

section Words

variable {s s' : String} {type type' : TypeReference}

/-- A text of the characters of identifiers and of arrays. -/
def Dense (s : String) : Prop :=
  ∀ c ∈ s.toList, Text.isWord c = true ∨ c ∈ ['@', '[', ']']

/-- A character that is in no dense text. -/
def Parting (c : Char) : Prop :=
  Text.isWord c = false ∧ c ∉ ['@', '[', ']']

instance : DecidablePred Parting :=
  fun c => inferInstanceAs (Decidable (Text.isWord c = false ∧ c ∉ ['@', '[', ']']))

lemma Dense.not_mem (h : Dense s) {c : Char} (hc : Parting c) : c ∉ s.toList := by
  intro hmem
  rcases h c hmem with hword | hmark
  · exact absurd (hc.1.symm.trans hword) (by decide)
  · exact hc.2 hmark

lemma not_mem_append {c : Char} (h : c ∉ s.toList) (h' : c ∉ s'.toList) : c ∉ (s ++ s').toList := by
  rw [String.toList_append]
  exact fun hmem => (List.mem_append.mp hmem).elim h h'

lemma dense_of_isWord (h : ∀ c ∈ s.toList, Text.isWord c = true) : Dense s :=
  fun c hc => .inl (h c hc)

lemma dense_escapeIdentifier (h : IsWord s) : Dense (escapeIdentifier s) := by
  unfold escapeIdentifier
  split
  · intro c hc
    rw [String.toList_append] at hc
    rcases List.mem_append.mp hc with hc | hc
    · exact .inr (by simp_all)
    · exact .inl (h.2 c hc)
  · exact dense_of_isWord h.2

lemma escapeIdentifier_ne_empty (h : IsWord s) : (escapeIdentifier s).toList ≠ [] := by
  unfold escapeIdentifier
  split
  · simp
  · exact h.1

lemma at_append_ne (h' : IsWord s') : "@" ++ s ≠ s' := by
  rintro rfl
  exact absurd (h'.2 '@' (by simp)) (by decide)

/-- The mark of a reserved word is in no name, so the name is found. -/
lemma escapeIdentifier_inj (h : IsWord s) (h' : IsWord s')
    (heq : escapeIdentifier s = escapeIdentifier s') : s = s' := by
  unfold escapeIdentifier at heq
  split at heq <;> split at heq
  · exact (String.append_right_inj "@").mp heq
  · exact absurd heq (at_append_ne h')
  · exact absurd heq.symm (at_append_ne h)
  · exact heq

lemma dense_brackets (rank : Nat) : ∀ c ∈ (brackets rank).toList, c ∈ ['[', ']'] := by
  induction rank with
  | zero => simp [brackets]
  | succ rank ih =>
    rw [brackets_toList_succ]
    intro c hc
    simp only [List.mem_cons] at hc ⊢
    rcases hc with rfl | rfl | hc
    · exact .inl rfl
    · exact .inr (.inl rfl)
    · simpa using ih c hc

lemma brackets_inj {rank rank' : Nat} (h : (brackets rank).toList = (brackets rank').toList) :
    rank = rank' := by
  induction rank generalizing rank' with
  | zero =>
    cases rank' with
    | zero => rfl
    | succ rank' =>
      rw [brackets_toList_succ] at h
      cases h
  | succ rank ih =>
    cases rank' with
    | zero =>
      rw [brackets_toList_succ] at h
      cases h
    | succ rank' =>
      rw [brackets_toList_succ, brackets_toList_succ] at h
      rw [ih (List.cons.inj (List.cons.inj h).2).2]

lemma dense_renderType (h : WordReference type) : Dense (renderType type) := by
  obtain ⟨base, rank, rfl, hbase⟩ := h
  intro c hc
  rw [renderType_arrayReference, String.toList_append] at hc
  rcases List.mem_append.mp hc with hc | hc
  · exact .inl (hbase.2 c hc)
  · exact .inr (List.mem_cons_of_mem '@' (dense_brackets rank c hc))

lemma renderType_ne_empty (h : WordReference type) : (renderType type).toList ≠ [] := by
  obtain ⟨base, rank, rfl, hbase⟩ := h
  simp [renderType_arrayReference, hbase.ne_nil]

/-- A type is found by its name, which ends where the brackets start. -/
lemma renderType_inj (h : WordReference type) (h' : WordReference type')
    (heq : renderType type = renderType type') : type = type' := by
  obtain ⟨base, rank, rfl, hbase⟩ := h
  obtain ⟨base', rank', rfl, hbase'⟩ := h'
  have hlist := congrArg String.toList heq
  rw [renderType_arrayReference, renderType_arrayReference, String.toList_append,
    String.toList_append] at hlist
  have hhead : ∀ rank, ∀ c ∈ (brackets rank).toList.head?, ¬Text.isWord c = true := by
    intro rank c hc
    have hmarks : ∀ c ∈ ['[', ']'], ¬Text.isWord c = true := by decide
    exact hmarks c (dense_brackets rank c (List.mem_of_mem_head? hc))
  obtain ⟨hname, hbrackets⟩ := append_inj_of_head (P := fun c => ¬Text.isWord c = true)
    (fun c hc hn => hn (hbase.2 c hc)) (fun c hc hn => hn (hbase'.2 c hc)) (hhead rank) (hhead rank')
    hlist
  rw [String.toList_inj.mp hname, brackets_inj hbrackets]

end Words

section Lists

variable {c : Char} {items items' : List String}

/-- A text that can stand in a list. -/
def Item (s : String) : Prop :=
  s.toList ≠ [] ∧ ',' ∉ s.toList

lemma not_mem_commaList (hc : c ∉ ", ".toList) (h : ∀ s ∈ items, c ∉ s.toList) :
    c ∉ (", ".intercalate items).toList := by
  induction items with
  | nil => simp
  | cons s items ih =>
    have htail := ih fun t ht => h t (List.mem_cons_of_mem s ht)
    cases items with
    | nil => simpa [String.intercalate_singleton] using h s List.mem_cons_self
    | cons t items =>
      rw [String.intercalate_cons_cons]
      exact not_mem_append (not_mem_append (h s List.mem_cons_self) hc) htail

/-- The items of a list, each after a comma. -/
lemma commaItems_head (items : List String) :
    ∀ c ∈ (String.join (items.map (", " ++ ·))).toList.head?, c = ',' := by
  cases items <;> simp

lemma commaItems_inj (h : ∀ s ∈ items, ',' ∉ s.toList) (h' : ∀ s ∈ items', ',' ∉ s.toList)
    (heq : String.join (items.map (", " ++ ·)) = String.join (items'.map (", " ++ ·))) :
    items = items' := by
  induction items generalizing items' with
  | nil =>
    cases items' with
    | nil => rfl
    | cons s' items' => simpa using congrArg String.toList heq
  | cons s items ih =>
    cases items' with
    | nil => simpa using congrArg String.toList heq
    | cons s' items' =>
      simp only [List.map_cons, String.join_cons, String.append_assoc, String.append_right_inj] at heq
      have hlist := congrArg String.toList heq
      rw [String.toList_append, String.toList_append] at hlist
      obtain ⟨hs, hrest⟩ := append_inj_of_head (P := (· = ','))
        (fun c hc hcomma => h s List.mem_cons_self (hcomma ▸ hc))
        (fun c hc hcomma => h' s' List.mem_cons_self (hcomma ▸ hc))
        (commaItems_head items) (commaItems_head items') hlist
      rw [String.toList_inj.mp hs, ih (fun t ht => h t (List.mem_cons_of_mem s ht))
        (fun t ht => h' t (List.mem_cons_of_mem s' ht)) (String.toList_inj.mp hrest)]

lemma intercalate_eq_empty (h : ∀ s ∈ items, Item s) (heq : ", ".intercalate items = "") :
    items = [] := by
  cases items with
  | nil => rfl
  | cons s items =>
    rw [intercalate_cons] at heq
    have hlist := congrArg String.toList heq
    rw [String.toList_append] at hlist
    exact absurd (List.append_eq_nil_iff.mp hlist).1 (h s List.mem_cons_self).1

/-- The items are found between the commas. -/
theorem commaList_inj (h : ∀ s ∈ items, Item s) (h' : ∀ s ∈ items', Item s)
    (heq : ", ".intercalate items = ", ".intercalate items') : items = items' := by
  cases items with
  | nil => exact (intercalate_eq_empty h' heq.symm).symm
  | cons s items =>
    cases items' with
    | nil => exact intercalate_eq_empty h heq
    | cons s' items' =>
      refine commaItems_inj (fun t ht => (h t ht).2) (fun t ht => (h' t ht).2) ?_
      rw [intercalate_cons, intercalate_cons] at heq
      simp only [List.map_cons, String.join_cons, String.append_assoc, heq]

lemma map_eq_map {f : α → β} {f' : α' → β} {g : α → γ} {g' : α' → γ} {l : List α} {l' : List α'}
    (h : ∀ a ∈ l, ∀ a' ∈ l', f a = f' a' → g a = g' a') (heq : l.map f = l'.map f') :
    l.map g = l'.map g' := by
  induction l generalizing l' with
  | nil =>
    obtain rfl := List.map_eq_nil_iff.mp heq.symm
    rfl
  | cons a l ih =>
    cases l' with
    | nil => cases heq
    | cons a' l' =>
      obtain ⟨ha, hl⟩ := List.cons.inj heq
      rw [List.map_cons, List.map_cons, h a List.mem_cons_self a' List.mem_cons_self ha,
        ih (fun b hb b' hb' => h b (List.mem_cons_of_mem a hb) b' (List.mem_cons_of_mem a' hb')) hl]

lemma eq_of_map_eq {f : α → β} {l l' : List α} (h : ∀ a ∈ l, ∀ a' ∈ l', f a = f a' → a = a')
    (heq : l.map f = l'.map f) : l = l' := by
  have hid : l.map id = l'.map id := map_eq_map h heq
  rwa [List.map_id, List.map_id] at hid

end Lists

section Calls

/-- A literal of word characters, or a variable that is named by them. -/
def LegibleArgument : Expression → Prop
  | .literal value => ∀ c ∈ value.toList, Text.isWord c = true
  | .variable name => IsWord name

structure LegibleCall (call : MethodCall) : Prop where
  target : IsWord call.target
  method : IsWord call.method
  arguments : ∀ e ∈ call.arguments, LegibleArgument e
  typeArguments : ∀ argument ∈ call.typeArguments, WordReference argument

lemma item_renderType {type : TypeReference} (h : WordReference type) : Item (renderType type) :=
  ⟨renderType_ne_empty h, (dense_renderType h).not_mem (by decide)⟩

lemma not_mem_renderExpression {e : Expression} (h : LegibleArgument e) {c : Char} (hc : Parting c)
    (hquote : c ≠ '"') : c ∉ (renderExpression e).toList := by
  cases e with
  | literal value =>
    have hmark : c ∉ "\"".toList := by simpa using hquote
    rw [renderExpression, renderLiteral_of_isWord h]
    exact not_mem_append (not_mem_append hmark ((dense_of_isWord h).not_mem hc)) hmark
  | «variable» name => exact (dense_escapeIdentifier h).not_mem hc

lemma item_renderExpression {e : Expression} (h : LegibleArgument e) : Item (renderExpression e) := by
  refine ⟨?_, not_mem_renderExpression h (by decide) (by decide)⟩
  cases e with
  | literal value => simp [renderExpression, renderLiteral]
  | «variable» name => exact escapeIdentifier_ne_empty h

lemma renderLiteral_ne_escapeIdentifier {value name : String} (h : IsWord name) :
    renderLiteral value ≠ escapeIdentifier name := by
  intro heq
  refine (dense_escapeIdentifier h).not_mem (c := '"') (by decide) ?_
  rw [← heq]
  simp [renderLiteral]

/-- An argument starts with a quote if and only if it is a literal. -/
lemma renderExpression_inj {e e' : Expression} (h : LegibleArgument e) (h' : LegibleArgument e')
    (heq : renderExpression e = renderExpression e') : e = e' := by
  cases e with
  | literal value =>
    cases e' with
    | literal value' =>
      rw [renderExpression, renderExpression, renderLiteral_of_isWord h,
        renderLiteral_of_isWord h', String.append_left_inj, String.append_right_inj] at heq
      rw [heq]
    | «variable» name' => exact absurd heq (renderLiteral_ne_escapeIdentifier h')
  | «variable» name =>
    cases e' with
    | literal value' => exact absurd heq.symm (renderLiteral_ne_escapeIdentifier h)
    | «variable» name' => rw [escapeIdentifier_inj h h' heq]

def typeArgumentsText (types : List TypeReference) : String :=
  if types.isEmpty then "" else "<" ++ ", ".intercalate (types.map renderType) ++ ">"

lemma not_mem_typeArgumentsText {types : List TypeReference}
    (h : ∀ type ∈ types, WordReference type) {c : Char} (hc : Parting c)
    (hmarks : c ∉ "<, >".toList) : c ∉ (typeArgumentsText types).toList := by
  unfold typeArgumentsText
  split
  · simp
  · have hopen : c ∉ "<".toList := fun hmem => hmarks (by simp_all)
    have hclose : c ∉ ">".toList := fun hmem => hmarks (by simp_all)
    have hcomma : c ∉ ", ".toList := fun hmem => hmarks (by simp_all)
    refine not_mem_append (not_mem_append hopen (not_mem_commaList hcomma ?_)) hclose
    intro s hs
    obtain ⟨type, htype, rfl⟩ := List.mem_map.mp hs
    exact (dense_renderType (h type htype)).not_mem hc

lemma types_inj {types types' : List TypeReference} (h : ∀ type ∈ types, WordReference type)
    (h' : ∀ type ∈ types', WordReference type)
    (heq : ", ".intercalate (types.map renderType) = ", ".intercalate (types'.map renderType)) :
    types = types' := by
  have hitems : ∀ types : List TypeReference, (∀ type ∈ types, WordReference type) →
      ∀ s ∈ types.map renderType, Item s := by
    intro types h s hs
    obtain ⟨type, htype, rfl⟩ := List.mem_map.mp hs
    exact item_renderType (h type htype)
  exact eq_of_map_eq (fun type ht type' ht' => renderType_inj (h type ht) (h' type' ht'))
    (commaList_inj (hitems types h) (hitems types' h') heq)

lemma typeArgumentsText_inj {types types' : List TypeReference}
    (h : ∀ type ∈ types, WordReference type) (h' : ∀ type ∈ types', WordReference type)
    (heq : typeArgumentsText types = typeArgumentsText types') : types = types' := by
  unfold typeArgumentsText at heq
  split at heq <;> split at heq
  · simp_all
  · simpa using congrArg String.toList heq
  · simpa using congrArg String.toList heq
  · rw [String.append_left_inj, String.append_right_inj] at heq
    exact types_inj h h' heq

lemma typeArgumentsText_head (types : List TypeReference) :
    ∀ c ∈ (typeArgumentsText types).toList.head?, ¬Text.isWord c = true := by
  unfold typeArgumentsText
  split
  · simp
  · intro c hc
    obtain rfl : '<' = c := by simpa using hc
    decide

lemma renderCall_eq (call : MethodCall) :
    renderCall call = "this." ++ (escapeIdentifier call.target ++ ("." ++
      ((call.method ++ typeArgumentsText call.typeArguments) ++ ("(" ++
        (", ".intercalate (call.arguments.map renderExpression) ++ ")"))))) := by
  simp only [renderCall, typeArgumentsText, renderTypes_eq_map, String.append_assoc]

/-- A call is found by the dot before its method and by the parentheses. -/
theorem renderCall_inj {call call' : MethodCall} (h : LegibleCall call) (h' : LegibleCall call')
    (heq : renderCall call = renderCall call') : call = call' := by
  rw [renderCall_eq, renderCall_eq, String.append_right_inj] at heq
  obtain ⟨htarget, heq⟩ := cut_inj (c := '.') rfl
    ((dense_escapeIdentifier h.target).not_mem (by decide))
    ((dense_escapeIdentifier h'.target).not_mem (by decide)) heq
  have hnone : ∀ call : MethodCall, LegibleCall call →
      '(' ∉ (call.method ++ typeArgumentsText call.typeArguments).toList := fun call h =>
    not_mem_append ((dense_of_isWord h.method.2).not_mem (by decide))
      (not_mem_typeArgumentsText h.typeArguments (by decide) (by decide))
  obtain ⟨hmethod, heq⟩ := cut_inj (c := '(') rfl (hnone call h) (hnone call' h') heq
  have hlist := congrArg String.toList hmethod
  rw [String.toList_append, String.toList_append] at hlist
  obtain ⟨hname, htypes⟩ := append_inj_of_head (P := fun c => ¬Text.isWord c = true)
    (fun c hc hn => hn (h.method.2 c hc)) (fun c hc hn => hn (h'.method.2 c hc))
    (typeArgumentsText_head _) (typeArgumentsText_head _) hlist
  have hitems : ∀ call : MethodCall, LegibleCall call →
      ∀ s ∈ call.arguments.map renderExpression, Item s := by
    intro call h s hs
    obtain ⟨e, he, rfl⟩ := List.mem_map.mp hs
    exact item_renderExpression (h.arguments e he)
  have harguments := eq_of_map_eq
    (fun e he e' he' => renderExpression_inj (h.arguments e he) (h'.arguments e' he'))
    (commaList_inj (hitems call h) (hitems call' h') ((String.append_left_inj _).mp heq))
  have htypes := typeArgumentsText_inj h.typeArguments h'.typeArguments (String.toList_inj.mp htypes)
  have htarget := escapeIdentifier_inj h.target h'.target htarget
  cases call
  cases call'
  simp_all [String.toList_inj]

/-- A word in front of a text is there or not, if the text itself starts otherwise. -/
lemma flag_inj {word s s' : String} {c : Char} {cs : List Char} {flag flag' : Bool}
    (hword : word.toList = c :: cs) (hs : s.toList.head? ≠ some c) (hs' : s'.toList.head? ≠ some c)
    (heq : (if flag then word else "") ++ s = (if flag' then word else "") ++ s') :
    flag = flag' ∧ s = s' := by
  cases flag <;> cases flag'
  · exact ⟨rfl, (String.append_right_inj _).mp heq⟩
  · have hhead := congrArg (fun t => t.toList.head?) heq
    exact absurd (by simpa [hword] using hhead) hs
  · have hhead := congrArg (fun t => t.toList.head?) heq
    exact absurd (by simpa [hword] using hhead.symm) hs'
  · exact ⟨rfl, (String.append_right_inj _).mp heq⟩

/-- A statement starts with what it does with the result of its call. -/
theorem renderStatement_inj {s s' : CallStatement} (h : LegibleCall s.call) (h' : LegibleCall s'.call)
    (heq : renderStatement s = renderStatement s') : s = s' := by
  simp only [renderStatement, String.append_assoc] at heq
  have hcall : ∀ call : MethodCall, (renderCall call ++ ";").toList.head? ≠ some 'a' := by
    intro call
    simp [renderCall_eq]
  have hawait : ∀ s : CallStatement,
      ((if s.awaited then "await " else "") ++ (renderCall s.call ++ ";")).toList.head? ≠ some 'r' := by
    intro s
    cases s.awaited <;> simp [renderCall_eq]
  obtain ⟨hreturns, heq⟩ := flag_inj rfl (hawait s) (hawait s') heq
  obtain ⟨hawaited, heq⟩ := flag_inj rfl (hcall s.call) (hcall s'.call) heq
  have hcalls := renderCall_inj h h' ((String.append_left_inj _).mp heq)
  cases s
  cases s'
  simp_all

end Calls

section Parameters

variable {p p' : Parameter}

structure LegibleParameter (p : Parameter) : Prop where
  type : WordReference p.type
  name : IsWord p.name

lemma not_mem_renderParameter (h : LegibleParameter p) {c : Char} (hc : Parting c)
    (hspace : c ≠ ' ') : c ∉ (renderParameter p).toList :=
  not_mem_append (not_mem_append ((dense_renderType h.type).not_mem hc) (by simpa using hspace))
    ((dense_escapeIdentifier h.name).not_mem hc)

lemma item_renderParameter (h : LegibleParameter p) : Item (renderParameter p) :=
  ⟨by simp [renderParameter, renderType_ne_empty h.type],
    not_mem_renderParameter h (by decide) (by decide)⟩

/-- A type and a name with a space between them. -/
lemma typed_inj {type type' : TypeReference} {name name' : String} (htype : WordReference type)
    (htype' : WordReference type') (hname : IsWord name) (hname' : IsWord name')
    (heq : renderType type ++ (" " ++ escapeIdentifier name) =
      renderType type' ++ (" " ++ escapeIdentifier name')) : type = type' ∧ name = name' := by
  obtain ⟨ht, hn⟩ := cut_inj (c := ' ') rfl ((dense_renderType htype).not_mem (by decide))
    ((dense_renderType htype').not_mem (by decide)) heq
  exact ⟨renderType_inj htype htype' ht, escapeIdentifier_inj hname hname' hn⟩

lemma renderParameter_inj (h : LegibleParameter p) (h' : LegibleParameter p')
    (heq : renderParameter p = renderParameter p') : p = p' := by
  simp only [renderParameter, String.append_assoc] at heq
  obtain ⟨htype, hname⟩ := typed_inj h.type h'.type h.name h'.name heq
  cases p
  cases p'
  simp_all

lemma parameters_inj {l l' : List Parameter} (h : ∀ p ∈ l, LegibleParameter p)
    (h' : ∀ p ∈ l', LegibleParameter p)
    (heq : ", ".intercalate (l.map renderParameter) = ", ".intercalate (l'.map renderParameter)) :
    l = l' := by
  have hitems : ∀ l : List Parameter, (∀ p ∈ l, LegibleParameter p) →
      ∀ s ∈ l.map renderParameter, Item s := by
    intro l h s hs
    obtain ⟨p, hp, rfl⟩ := List.mem_map.mp hs
    exact item_renderParameter (h p hp)
  exact eq_of_map_eq (fun p hp p' hp' => renderParameter_inj (h p hp) (h' p' hp'))
    (commaList_inj (hitems l h) (hitems l' h') heq)

end Parameters

end HubProxy.Proofs
