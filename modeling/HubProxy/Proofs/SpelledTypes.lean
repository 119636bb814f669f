import HubProxy.Proofs.FinishedTypes

/-!
# Type expressions as trees

A `TypeTree` is a type expression apart from how it is written, and `SpelledType` says which texts write it:
white space may stand around names, suffixes, commas and angle brackets. Reading any such text comes to
reading the names in the tree. The commas that cut the arguments of a generic type are those outside
angle brackets, and a spelled tree keeps its own commas inside them.
-/

namespace HubProxy.Proofs

open Contract (ReadM TypeTable)
open Document (ValueId)

/-- A type expression apart from how it is written. -/
inductive TypeTree where
  | name (text : List Char)
  | array (element : TypeTree)
  | nullable (inner : TypeTree)
  | generic (base : List Char) (arguments : List TypeTree)

section Meaning

variable {m : Type → Type} [Monad m] (named : String → m Descriptor)

mutual

/-- The type that a tree stands for, where `named` yields the type of a name. -/
def TypeTree.read : TypeTree → m Descriptor
  | .name text => named (String.ofList text)
  | .array element => return .array (← element.read)
  | .nullable inner => return .generic "Nullable" [← inner.read]
  | .generic base arguments => return .generic (String.ofList base) (← readAll arguments)

/-- The types that several trees stand for, in order. -/
def TypeTree.readAll : List TypeTree → m (List Descriptor)
  | [] => return []
  | tree :: rest => return (← tree.read) :: (← readAll rest)

end

lemma mapM_eq_readAll [LawfulMonad m] {f : List Char → m Descriptor} {trees : List TypeTree}
    {texts : List (List Char)} (h : List.Forall₂ (fun tree text => f text = tree.read named) trees texts) :
    texts.mapM f = TypeTree.readAll named trees := by
  induction h with
  | nil => rfl
  | cons htree _ ih => rw [List.mapM_cons, htree, ih, TypeTree.readAll]

end Meaning

section Spelling

/-- The characters of suffixes and arguments. -/
def expressionMarks : List Char :=
  ['<', '>', ',', '?', '[', ']']

/-- A name without white space around it and without the characters of suffixes and arguments. -/
structure CleanName (text : List Char) : Prop where
  nonempty : text ≠ []
  trimmed : Text.trimChars text = text
  unmarked : ∀ c ∈ text, c ∉ expressionMarks

/-- A text writes a tree, whose names are among the given ones. White space may stand around names,
suffixes, commas and angle brackets, but not inside the brackets of an array. -/
inductive SpelledType (isName : List Char → Prop) : TypeTree → List Char → Prop
  | name {text before after : List Char} (hname : isName text) (hbefore : Blank before)
      (hafter : Blank after) : SpelledType isName (.name text) (before ++ text ++ after)
  | array {element : TypeTree} {cs after : List Char} (h : SpelledType isName element cs)
      (hafter : Blank after) : SpelledType isName (.array element) (cs ++ ['[', ']'] ++ after)
  | nullable {inner : TypeTree} {cs after : List Char} (h : SpelledType isName inner cs)
      (hafter : Blank after) : SpelledType isName (.nullable inner) (cs ++ ['?'] ++ after)
  | generic {base before between after : List Char} {arguments : List TypeTree}
      {texts : List (List Char)} (hbase : CleanName base) (hbefore : Blank before)
      (hbetween : Blank between) (hafter : Blank after) (hsome : arguments ≠ [])
      (hlength : arguments.length = texts.length)
      (h : ∀ argument cs, (argument, cs) ∈ arguments.zip texts → SpelledType isName argument cs) :
      SpelledType isName (.generic base arguments)
        (before ++ (base ++ between ++ '<' :: [','].intercalate texts ++ ['>']) ++ after)

/-- White space in front of a spelled tree does not matter. -/
lemma SpelledType.blank_append {isName : List Char → Prop} {tree : TypeTree} {cs blank : List Char}
    (h : SpelledType isName tree cs) (hblank : Blank blank) : SpelledType isName tree (blank ++ cs) := by
  have hboth : ∀ {before : List Char}, Blank before → Blank (blank ++ before) := fun hbefore c hc =>
    (List.mem_append.mp hc).elim (hblank c) (hbefore c)
  induction h with
  | name hname hbefore hafter => simpa using SpelledType.name hname (hboth hbefore) hafter
  | array _ hafter ih => simpa using SpelledType.array ih hafter
  | nullable _ hafter ih => simpa using SpelledType.nullable ih hafter
  | generic hbase hbefore hbetween hafter hsome hlength h _ =>
    simpa using SpelledType.generic hbase (hboth hbefore) hbetween hafter hsome hlength h

end Spelling

section Commas

/-- A text stands in front of the first of several parts. -/
def prepend (cs : List Char) : List (List Char) → List (List Char)
  | [] => [cs]
  | part :: more => (cs ++ part) :: more

lemma prepend_append (cs cs' : List Char) (parts : List (List Char)) :
    prepend (cs ++ cs') parts = prepend cs (prepend cs' parts) := by
  cases parts with
  | nil => rfl
  | cons part more => simp [prepend]

lemma splitCommas_ne_nil (depth : Int) (cs : List Char) : splitCommas depth cs ≠ [] := by
  cases cs with
  | nil => simp [splitCommas]
  | cons c rest =>
    unfold splitCommas
    split
    · simp
    · dsimp only
      split <;> simp

/-- The depth behind a character. -/
def depthAfter (c : Char) (depth : Int) : Int :=
  if c = '<' then depth + 1 else if c = '>' then depth - 1 else depth

lemma splitCommas_cons {c : Char} {depth : Int} (h : ¬(c = ',' ∧ depth = 0)) (rest : List Char) :
    splitCommas depth (c :: rest) = prepend [c] (splitCommas (depthAfter c depth) rest) := by
  rw [splitCommas, if_neg h]
  dsimp only [depthAfter]
  split
  · next hsplit =>
    rw [hsplit]
    rfl
  · next hsplit =>
    rw [hsplit]
    rfl

/-- From some depth on, a text ends at the depth at which it starts and is not cut. -/
def Uncut (low : Int) (cs : List Char) : Prop :=
  ∀ depth ≥ low, ∀ rest, splitCommas depth (cs ++ rest) = prepend cs (splitCommas depth rest)

lemma uncut_nil (low : Int) : Uncut low [] := by
  intro depth _ rest
  obtain ⟨part, more, hsplit⟩ := List.exists_cons_of_ne_nil (splitCommas_ne_nil depth rest)
  rw [List.nil_append, hsplit, prepend, List.nil_append]

lemma Uncut.append {low : Int} {cs cs' : List Char} (h : Uncut low cs) (h' : Uncut low cs') :
    Uncut low (cs ++ cs') := by
  intro depth hdepth rest
  rw [List.append_assoc, h depth hdepth, h' depth hdepth, prepend_append]

lemma Uncut.mono {low low' : Int} (h : Uncut low cs) (hlow : low ≤ low') : Uncut low' cs :=
  fun depth hdepth => h depth (Int.le_trans hlow hdepth)

lemma uncut_singleton {low : Int} {c : Char} (hangle : c ≠ '<' ∧ c ≠ '>') (hcomma : c = ',' → 0 < low) :
    Uncut low [c] := by
  intro depth hdepth rest
  have hdepthAfter : depthAfter c depth = depth := by simp [depthAfter, hangle.1, hangle.2]
  rw [List.singleton_append, splitCommas_cons, hdepthAfter]
  rintro ⟨hc, rfl⟩
  exact absurd (hcomma hc) (by omega)

lemma uncut_of_forall {low : Int} {cs : List Char} (h : ∀ c ∈ cs, c ≠ '<' ∧ c ≠ '>' ∧ c ≠ ',') :
    Uncut low cs := by
  induction cs with
  | nil => exact uncut_nil low
  | cons c cs ih =>
    obtain ⟨hopen, hclose, hcomma⟩ := h c List.mem_cons_self
    have hc : Uncut low [c] := uncut_singleton ⟨hopen, hclose⟩ fun h => absurd h hcomma
    exact hc.append (ih fun d hd => h d (List.mem_cons_of_mem c hd))

/-- Angle brackets protect the commas between them. -/
lemma Uncut.angles {cs : List Char} (h : Uncut 1 cs) : Uncut 0 ('<' :: cs ++ ['>']) := by
  intro depth hdepth rest
  have hopen : depthAfter '<' depth = depth + 1 := rfl
  have hclose : depthAfter '>' (depth + 1) = depth := by simp [depthAfter]
  calc splitCommas depth ('<' :: cs ++ ['>'] ++ rest)
      = splitCommas depth ('<' :: (cs ++ ('>' :: rest))) := by simp
    _ = prepend ['<'] (splitCommas (depth + 1) (cs ++ ('>' :: rest))) := by
      rw [splitCommas_cons (by simp), hopen]
    _ = prepend ['<'] (prepend cs (splitCommas (depth + 1) ('>' :: rest))) := by
      rw [h _ (by omega)]
    _ = prepend ['<'] (prepend cs (prepend ['>'] (splitCommas depth rest))) := by
      rw [splitCommas_cons (by simp), hclose]
    _ = prepend ('<' :: cs ++ ['>']) (splitCommas depth rest) := by
      rw [← prepend_append, ← prepend_append]
      simp

lemma uncut_intercalate {texts : List (List Char)} (h : ∀ text ∈ texts, Uncut 0 text) :
    Uncut 1 ([','].intercalate texts) := by
  induction texts with
  | nil => exact uncut_nil 1
  | cons text texts ih =>
    have htext : Uncut 1 text := (h text List.mem_cons_self).mono (by omega)
    cases texts with
    | nil => rwa [List.intercalate_singleton]
    | cons next texts =>
      have hcomma : Uncut 1 [','] := uncut_singleton (by decide) fun _ => by omega
      have hrest := ih fun text ht => h text (List.mem_cons_of_mem _ ht)
      rw [List.intercalate_cons_cons]
      exact (htext.append hcomma).append hrest

/-- Texts that are not cut are what is found between the commas that join them. -/
lemma splitCommas_intercalate {texts : List (List Char)} (hsome : texts ≠ [])
    (h : ∀ text ∈ texts, Uncut 0 text) : splitCommas 0 ([','].intercalate texts) = texts := by
  induction texts with
  | nil => exact absurd rfl hsome
  | cons text texts ih =>
    have htext := h text List.mem_cons_self 0 (Int.le_refl 0)
    cases texts with
    | nil => simpa [List.intercalate_singleton, splitCommas, prepend] using htext []
    | cons next texts =>
      have hrest := ih (by simp) fun text ht => h text (List.mem_cons_of_mem _ ht)
      rw [List.intercalate_cons_cons, List.append_assoc, htext, List.singleton_append, splitCommas,
        if_pos ⟨rfl, rfl⟩, hrest, prepend, List.append_nil]

end Commas

section Reading

variable {isName : List Char → Prop}

lemma CleanName.ne_of_mem {text : List Char} (h : CleanName text) {mark : Char}
    (hmark : mark ∈ expressionMarks) {c : Char} (hc : c ∈ text) : c ≠ mark := by
  rintro rfl
  exact h.unmarked c hc hmark

lemma CleanName.ofTrimmed {text : List Char} (h : CleanName text) :
    Outer.ofTrimmed text = .name text := by
  have hmarks : [']', '?', '>'] ⊆ expressionMarks := by decide
  exact ofTrimmed_of_not_mem fun mark hmark hmem => h.unmarked mark hmem (hmarks hmark)

lemma isBlank_ne_mark {c mark : Char} (hc : Text.isBlank c = true) (hmark : mark ∈ expressionMarks) :
    c ≠ mark := by
  have hmarks : expressionMarks.all (!Text.isBlank ·) = true := by decide
  rintro rfl
  simpa [hc] using List.all_eq_true.mp hmarks c hmark

lemma uncut_blank {low : Int} {cs : List Char} (h : Blank cs) : Uncut low cs :=
  uncut_of_forall fun c hc => ⟨isBlank_ne_mark (h c hc) (by decide),
    isBlank_ne_mark (h c hc) (by decide), isBlank_ne_mark (h c hc) (by decide)⟩

lemma CleanName.uncut {low : Int} {text : List Char} (h : CleanName text) : Uncut low text :=
  uncut_of_forall fun _ hc => ⟨h.ne_of_mem (by decide) hc, h.ne_of_mem (by decide) hc,
    h.ne_of_mem (by decide) hc⟩

/-- What writes a tree is not cut where it is an argument. -/
lemma SpelledType.uncut (hclean : ∀ text, isName text → CleanName text) {tree : TypeTree} {cs : List Char}
    (h : SpelledType isName tree cs) : Uncut 0 cs := by
  induction h with
  | name hname hbefore hafter =>
    exact ((uncut_blank hbefore).append (hclean _ hname).uncut).append (uncut_blank hafter)
  | array _ hafter ih =>
    exact (ih.append (uncut_of_forall (by decide))).append (uncut_blank hafter)
  | nullable _ hafter ih =>
    exact (ih.append (uncut_of_forall (by decide))).append (uncut_blank hafter)
  | @generic _ _ _ _ _ texts hbase hbefore hbetween hafter _ hlength _ ih =>
    have htexts : ∀ text ∈ texts, Uncut 0 text := by
      intro text htext
      obtain ⟨argument, -, hargument⟩ :=
        exists_of_forall₂ (List.forall₂_iff_zip.mpr ⟨hlength, ih _ _⟩) htext
      exact hargument
    have hinside := (uncut_intercalate htexts).angles
    have hall := (uncut_blank hbefore).append
      (((hbase.uncut.append (uncut_blank hbetween)).append hinside).append (uncut_blank hafter))
    simpa using hall

/-- A text that ends in another character does not end in a suffix. -/
lemma beforeSuffix?_concat_ne (cs suffix : List Char) {c d : Char} (hcd : c ≠ d) :
    beforeSuffix? (suffix ++ [d]) (cs ++ [c]) = none := by
  cases h : beforeSuffix? (suffix ++ [d]) (cs ++ [c]) with
  | none => rfl
  | some before =>
    have hlast := congrArg List.getLast? (beforeSuffix?_eq_some.mp h)
    rw [← List.append_assoc, List.getLast?_concat, List.getLast?_concat] at hlast
    exact absurd (Option.some.inj hlast) hcd

lemma ofTrimmed_question (cs : List Char) : Outer.ofTrimmed (cs ++ ['?']) = .nullable cs := by
  have hbrackets : beforeSuffix? ['[', ']'] (cs ++ ['?']) = none :=
    beforeSuffix?_concat_ne cs ['['] (by decide)
  simp only [Outer.ofTrimmed, hbrackets, beforeSuffix?_eq_some.mpr (rfl : cs ++ ['?'] = cs ++ ['?'])]

lemma ofTrimmed_angles {base : List Char} (hbase : '<' ∉ base) (cs : List Char) :
    Outer.ofTrimmed (base ++ '<' :: cs ++ ['>']) = .generic (Text.trimChars base) (splitArguments cs) := by
  have hbrackets : beforeSuffix? ['[', ']'] (base ++ '<' :: cs ++ ['>']) = none :=
    beforeSuffix?_concat_ne _ ['['] (by decide)
  have hquestion : beforeSuffix? ['?'] (base ++ '<' :: cs ++ ['>']) = none :=
    beforeSuffix?_concat_ne _ [] (by decide)
  have hbefore : beforeSuffix? ['>'] (base ++ '<' :: cs ++ ['>']) = some (base ++ '<' :: cs) :=
    beforeSuffix?_eq_some.mpr rfl
  have htake : (base ++ '<' :: cs).takeWhile (· ≠ '<') = base := by
    rw [List.takeWhile_append_of_pos fun c hc => by simpa using ne_of_mem_of_not_mem hc hbase]
    simp
  rw [Outer.ofTrimmed, hbrackets]
  simp only [hquestion, hbefore]
  rw [if_pos (by simp)]
  simp only [htake, List.drop_length_add_append, List.drop_succ_cons, List.drop_zero]

/-- A text writes a tree up to white space around it. -/
def Writes (isName : List Char → Prop) (tree : TypeTree) (cs : List Char) : Prop :=
  ∃ cs', SpelledType isName tree cs' ∧ Text.trimChars cs' = Text.trimChars cs

/-- What the outermost part of a text that writes a tree is. -/
inductive OuterWrites (isName : List Char → Prop) : TypeTree → Outer → Prop
  | name {text : List Char} (hname : isName text) : OuterWrites isName (.name text) (.name text)
  | array {element : TypeTree} {cs : List Char} (h : Writes isName element cs) :
      OuterWrites isName (.array element) (.array cs)
  | nullable {inner : TypeTree} {cs : List Char} (h : Writes isName inner cs) :
      OuterWrites isName (.nullable inner) (.nullable cs)
  | generic {base : List Char} {arguments : List TypeTree} {texts : List (List Char)}
      (h : List.Forall₂ (Writes isName) arguments texts) :
      OuterWrites isName (.generic base arguments) (.generic base texts)

lemma SpelledType.trimChars_ne_nil (hclean : ∀ text, isName text → CleanName text) {tree : TypeTree}
    {cs : List Char} (h : SpelledType isName tree cs) : Text.trimChars cs ≠ [] := by
  cases h with
  | name hname hbefore hafter =>
    rw [hafter.append_trimChars, hbefore.trimChars_append, (hclean _ hname).trimmed]
    exact (hclean _ hname).nonempty
  | array _ hafter =>
    rw [hafter.append_trimChars, List.append_cons, trimChars_concat _ (by decide)]
    simp
  | nullable _ hafter =>
    rw [hafter.append_trimChars, trimChars_concat _ (by decide)]
    simp
  | generic _ hbefore _ hafter =>
    rw [hafter.append_trimChars, hbefore.trimChars_append, trimChars_concat _ (by decide)]
    simp

/-- Arguments that are joined by commas are found again. -/
lemma writes_splitArguments (hclean : ∀ text, isName text → CleanName text) {arguments : List TypeTree}
    {texts : List (List Char)} (hsome : arguments ≠ [])
    (h : List.Forall₂ (SpelledType isName) arguments texts) :
    List.Forall₂ (Writes isName) arguments (splitArguments ([','].intercalate texts)) := by
  have htexts : ∀ text ∈ texts, ∃ argument, SpelledType isName argument text := fun text htext => by
    obtain ⟨argument, -, hargument⟩ := exists_of_forall₂ h htext
    exact ⟨argument, hargument⟩
  have hne : texts ≠ [] := by
    rintro rfl
    exact hsome (List.forall₂_nil_right_iff.mp h)
  have hsplit : splitArguments ([','].intercalate texts) = texts.map Text.trimChars := by
    rw [splitArguments, splitCommas_intercalate hne fun text ht => (htexts text ht).choose_spec.uncut hclean]
    refine List.filter_eq_self.mpr fun part hpart => ?_
    obtain ⟨text, ht, rfl⟩ := List.mem_map.mp hpart
    simpa using (htexts text ht).choose_spec.trimChars_ne_nil hclean
  rw [hsplit, List.forall₂_map_right_iff]
  exact h.imp fun _ text hs => ⟨text, hs, (trimChars_trimChars text).symm⟩

/-- The outermost part of a text that writes a tree is that of the tree. -/
lemma SpelledType.outerWrites (hclean : ∀ text, isName text → CleanName text) {tree : TypeTree}
    {cs : List Char} (h : SpelledType isName tree cs) :
    OuterWrites isName tree (Outer.ofTrimmed (Text.trimChars cs)) := by
  cases h with
  | name hname hbefore hafter =>
    rw [hafter.append_trimChars, hbefore.trimChars_append, (hclean _ hname).trimmed,
      (hclean _ hname).ofTrimmed]
    exact .name hname
  | @array _ cs _ h hafter =>
    rw [hafter.append_trimChars, List.append_cons, trimChars_concat _ (by decide),
      dropWhile_append_cons _ _ (by decide), List.append_assoc, List.singleton_append, ofTrimmed_brackets]
    exact .array ⟨cs, h, (trimChars_dropWhile cs).symm⟩
  | @nullable _ cs _ h hafter =>
    rw [hafter.append_trimChars, trimChars_concat _ (by decide), ofTrimmed_question]
    exact .nullable ⟨cs, h, (trimChars_dropWhile cs).symm⟩
  | @generic base _ between _ _ texts hbase hbefore hbetween hafter hsome hlength h =>
    have hopen : '<' ∉ base ++ between := by
      intro hmem
      rcases List.mem_append.mp hmem with hmem | hmem
      · exact hbase.unmarked _ hmem (by decide)
      · exact isBlank_ne_mark (hbetween _ hmem) (by decide) rfl
    have hstart := dropWhile_trimChars_append base (between ++ '<' :: [','].intercalate texts)
      (by rw [hbase.trimmed]; exact hbase.nonempty)
    rw [hbase.trimmed, ← List.append_assoc] at hstart
    rw [hafter.append_trimChars, hbefore.trimChars_append, trimChars_concat _ (by decide), hstart,
      ofTrimmed_angles hopen, hbetween.append_trimChars, hbase.trimmed]
    exact .generic (writes_splitArguments hclean hsome (List.forall₂_iff_zip.mpr ⟨hlength, h _ _⟩))

/-- Reading a text that writes a tree comes to reading the tree, if the names in it are read as `given`
says. -/
lemma Writes.readExpression (hclean : ∀ text, isName text → CleanName text)
    {named given : String → ReadM Descriptor} {isDefined : String → Bool} {place : String}
    (hprimitive : ∀ text d, primitive? (String.ofList text) = some d → given (String.ofList text) = pure d)
    (hnamed : ∀ text, isName text → primitive? (String.ofList text) = none →
      isDefined (String.ofList text) = true ∧ named (String.ofList text) = given (String.ofList text))
    (bound : Nat) : ∀ {tree : TypeTree} {cs : List Char}, Writes isName tree cs → cs.length < bound →
      Contract.readExpression named isDefined place bound cs = tree.read given := by
  induction bound with
  | zero => exact fun _ hbound => absurd hbound (Nat.not_lt_zero _)
  | succ bound ih =>
    intro tree cs ⟨cs', hspelled, htrim⟩ hbound
    have hne : (Text.trimChars cs).isEmpty = false := by
      simpa [← htrim] using hspelled.trimChars_ne_nil hclean
    have houter := hspelled.outerWrites hclean
    have hinside : ∀ part ∈ inside (Outer.ofTrimmed (Text.trimChars cs)), part.length < bound :=
      fun part hpart => by
        have hlength := (length_lt_of_mem_inside hpart).trans_le (length_trimChars_le cs)
        omega
    unfold Contract.readExpression
    dsimp only
    rw [if_neg (by simp [hne])]
    rw [htrim] at houter
    generalize Outer.ofTrimmed (Text.trimChars cs) = outer at houter hinside
    cases houter with
    | @name text hname =>
      dsimp only
      rw [TypeTree.read]
      cases hd : primitive? (String.ofList text) with
      | some d => exact (hprimitive text d hd).symm
      | none =>
        obtain ⟨hdefined, hread⟩ := hnamed text hname hd
        simp only [hdefined, if_true, hread]
    | array h =>
      dsimp only
      rw [TypeTree.read, ih h (hinside _ (by simp [inside]))]
    | nullable h =>
      dsimp only
      rw [TypeTree.read, ih h (hinside _ (by simp [inside]))]
    | generic h =>
      dsimp only
      have hall := (forall₂_mem_right h).imp fun argument text htext => ih htext.2 (hinside text htext.1)
      rw [TypeTree.read, mapM_eq_readAll given hall]

end Reading

section Documents

variable (doc : Document) (types : Section)

/-- A text is the name of a type: of a primitive one or of one that is defined. -/
def NamesType (text : List Char) : Prop :=
  (primitive? (String.ofList text)).isSome = true ∨
    (Document.findKey types (String.ofList text)).isSome = true

/-- The type of a name: a primitive one, or else the one that the table has for it or its definition
gives. -/
def typeOfName (name : String) : ReadM Descriptor :=
  match primitive? name with
  | some d => return d
  | none => readName doc types (Contract.readType doc types types.length) name

variable {doc types}

/-- Reading a value that writes a tree comes to reading the tree. -/
lemma readType_of_spelled {id : ValueId} {text : String} (hvalue : doc.value id = .scalar (.text text))
    {tree : TypeTree}
    (h : SpelledType (fun name => CleanName name ∧ NamesType types name) tree text.toList) (place : String) :
    Contract.readType doc types types.length id place = tree.read (typeOfName doc types) := by
  unfold Contract.readType
  simp only [hvalue]
  refine Writes.readExpression (fun _ hname => hname.1) (fun name d hd => ?_)
    (fun name hname hd => ?_) _ ⟨_, h, rfl⟩ (Nat.lt_succ_self _)
  · rw [typeOfName, hd]
  · have hdefined : (Document.findKey types (String.ofList name)).isSome = true :=
      hname.2.resolve_left (by simp [hd])
    refine ⟨hdefined, ?_⟩
    rw [typeOfName, hd]
    funext t
    refine ((coincide_readName hdefined fun k hk => ?_) t (missing_le_length t)).1.symm
    rw [hk]
    exact coincide_readDefinition
      (fun id place => coincide_readType_depths (Nat.le_succ k) le_rfl id place) hdefined

/-- A type that is not generic, at whatever rank, is written by a name and pairs of brackets. -/
lemma Means.spelled {named : String → Descriptor → Prop} {cs : List Char} {d : Descriptor}
    (h : Means named cs d) (hd : ∀ base arguments, d.innermost ≠ .generic base arguments) :
    ∃ k name e, SpelledType (· = name) (TypeTree.array^[k] (.name name)) cs ∧ d = Descriptor.array^[k] e ∧
      (primitive? (String.ofList name) = some e ∨
        primitive? (String.ofList name) = none ∧ named (String.ofList name) e) := by
  have hname : ∀ {cs name : List Char}, Outer.ofTrimmed (Text.trimChars cs) = .name name →
      SpelledType (· = name) (.name name) cs := by
    intro cs name houter
    obtain ⟨before, after, hbefore, hafter, hcs⟩ := exists_trimChars cs
    rw [hcs, ofTrimmed_eq_name houter]
    exact .name rfl hbefore hafter
  induction h with
  | @array cs element d houter _ ih =>
    obtain ⟨k, name, e, hspelled, rfl, he⟩ := ih hd
    refine ⟨k + 1, name, e, ?_, (Function.iterate_succ_apply' _ _ _).symm, he⟩
    obtain ⟨before, after, hbefore, hafter, hcs⟩ := exists_trimChars cs
    have hbrackets : Text.trimChars cs = element ++ ['[', ']'] := by
      have houterSpelling := outerSpelling_ofTrimmed (Text.trimChars cs)
      rw [houter] at houterSpelling
      generalize Text.trimChars cs = trimmed at houterSpelling
      cases houterSpelling
      rfl
    rw [Function.iterate_succ_apply', hcs, hbrackets, ← List.append_assoc]
    exact .array (hspelled.blank_append hbefore) hafter
  | nullable | generic => exact absurd rfl (hd _ _)
  | primitive houter hprimitive => exact ⟨0, _, _, hname houter, rfl, .inl hprimitive⟩
  | named houter hother hknown => exact ⟨0, _, _, hname houter, rfl, .inr ⟨hother, hknown⟩⟩

end Documents

/-- Reading an expression gives what its tree means, however the tree is written. An expression whose type
is not generic, at whatever rank, is a name with pairs of brackets behind it, and the type is that of the
name at this rank. -/
theorem type_expressions_round_trip (doc : Document) (types : Section) {id : ValueId} {text : String}
    (hvalue : doc.value id = .scalar (.text text)) (place : String) :
    (∀ tree, SpelledType (fun name => CleanName name ∧ NamesType types name) tree text.toList →
      Contract.readType doc types types.length id place = tree.read (typeOfName doc types)) ∧
    ∀ t d t', (Contract.readType doc types types.length id place).run t = .ok (d, t') →
      (∀ base arguments, d.innermost ≠ .generic base arguments) →
      ∃ k name e, SpelledType (· = name) (TypeTree.array^[k] (.name name)) text.toList ∧
        d = Descriptor.array^[k] e ∧
        (primitive? (String.ofList name) = some e ∨
          primitive? (String.ofList name) = none ∧ Known types t' (String.ofList name) e) := by
  refine ⟨fun tree htree => readType_of_spelled hvalue htree place, fun t d t' hrun hd => ?_⟩
  obtain ⟨-, -, text', hvalue', hmeans⟩ :=
    advances_readType doc types types.length id place t d t' trivial trivial hrun
  rw [hvalue] at hvalue'
  cases hvalue'
  exact hmeans.spelled hd

/-- Arguments with suffixes and white space. -/
def indexTree : TypeTree :=
  .generic "Index".toList [.name "string".toList,
    .nullable (.generic "List".toList [.array (.name "Node".toList)])]

def indexDocument : Document where
  values := #[.scalar (.text " Index < string ,List<Node []> ? >"), .mapping []]
  top := 0

lemma spelled_indexTree : SpelledType (fun name => CleanName name ∧ NamesType [(.text "Node", 1)] name)
    indexTree " Index < string ,List<Node []> ? >".toList := by
  have hclean : ∀ name ∈ ["Index".toList, "string".toList, "List".toList, "Node".toList],
      CleanName name := by
    intro name hname
    have hall : ∀ name ∈ ["Index".toList, "string".toList, "List".toList, "Node".toList],
        name ≠ [] ∧ Text.trimChars name = name ∧ ∀ c ∈ name, c ∉ expressionMarks := by decide
    exact ⟨(hall name hname).1, (hall name hname).2.1, (hall name hname).2.2⟩
  have hblank : Blank [' '] := by decide
  have hnil : Blank [] := by decide
  have hstring : SpelledType (fun name => CleanName name ∧ NamesType [(.text "Node", 1)] name)
      (.name "string".toList) " string ".toList :=
    .name ⟨hclean _ (by decide), .inl (by decide)⟩ hblank hblank
  have hnode : SpelledType (fun name => CleanName name ∧ NamesType [(.text "Node", 1)] name)
      (.array (.name "Node".toList)) "Node []".toList :=
    .array (.name ⟨hclean _ (by decide), .inr (by decide)⟩ hnil hblank) hnil
  have hnodes := List.Forall₂.cons hnode .nil
  have hlist : SpelledType (fun name => CleanName name ∧ NamesType [(.text "Node", 1)] name)
      (.nullable (.generic "List".toList [.array (.name "Node".toList)])) "List<Node []> ? ".toList :=
    .nullable (.generic (hclean _ (by decide)) hnil hnil hblank (by simp) hnodes.length_eq
      fun _ _ => List.forall₂_zip hnodes) hblank
  have harguments := List.Forall₂.cons hstring (.cons hlist .nil)
  exact .generic (hclean _ (by decide)) hblank hblank hnil (by simp) harguments.length_eq
    fun _ _ => List.forall₂_zip harguments

theorem type_expressions_round_trip_indexDocument :
    Contract.readType indexDocument [(.text "Node", 1)] 1 0 "here" =
      indexTree.read (typeOfName indexDocument [(.text "Node", 1)]) ∧
    ((Contract.readType indexDocument [(.text "Node", 1)] 1 0 "here").run ⟨#[], []⟩).toOption.map (·.1) =
      some (.generic "Index" [.primitive "string" none,
        .generic "Nullable" [.generic "List" [.array (.cls 0)]]]) :=
  ⟨(type_expressions_round_trip indexDocument [(.text "Node", 1)] rfl "here").1 indexTree spelled_indexTree,
    by decide +kernel⟩

end HubProxy.Proofs
