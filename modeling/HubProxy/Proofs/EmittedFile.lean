import HubProxy.Proofs.EmittedSource

/-!
# Scanning an emitted file

The scanner finds one namespace in an emitted file, that of the model, and in it the names and arrays
of the lines between the braces.
-/

namespace HubProxy.Proofs

open CSharp

/-- The tokens of a name with dots after its first word. -/
def dotTokens (words : List String) : List Token :=
  words.flatMap fun w => [.mark '.', .word w]

def dotText (words : List String) : String :=
  String.join (words.map ("." ++ ·))

lemma intercalate_dots (first : String) (words : List String) :
    ".".intercalate (first :: words) = first ++ dotText words := by
  induction words generalizing first with
  | nil => simp [dotText]
  | cons w words ih =>
    rw [String.intercalate_cons_cons, ih]
    simp [dotText, String.append_assoc]

lemma scans_dotted (first : String) (words : List String) :
    Scans (.word first :: dotTokens words) [] [] Stop := by
  induction words generalizing first with
  | nil => exact scans_word first
  | cons w words ih =>
    have hdot : Scans [.mark '.'] [] [] Anything := scans_mark (by decide) (by decide) _
    have htail : Scans ([.mark '.'] ++ (.word w :: dotTokens words)) ([] ++ []) ([] ++ []) Stop :=
      hdot.append (ih w) fun _ _ => trivial
    exact (scans_word first).append htail fun _ _ => by simp [Stop]

lemma dotText_cons (w : String) (words : List String) :
    (dotText (w :: words)).toList = '.' :: (w ++ dotText words).toList := by
  simp [dotText]

lemma length_dotText_cons (w : String) (words : List String) :
    (dotText (w :: words)).length = w.length + 1 + (dotText words).length := by
  have hcons := congrArg List.length (dotText_cons w words)
  rw [String.length_toList, List.length_cons, String.length_toList, String.length_append] at hcons
  omega

lemma length_dotText_concat (words : List String) (w : String) :
    (dotText (words ++ [w])).length = (dotText words).length + (w.length + 1) := by
  induction words with
  | nil =>
    rw [List.nil_append, length_dotText_cons]
    exact Nat.add_comm _ _
  | cons v words ih =>
    rw [List.cons_append, length_dotText_cons, length_dotText_cons, ih]
    omega

lemma length_intercalate_concat (words : List String) (w : String) :
    (".".intercalate (words ++ [w])).length = (dotText words).length + w.length := by
  cases words with
  | nil => simp [dotText]
  | cons first words =>
    rw [List.cons_append, intercalate_dots, String.length_append, length_dotText_concat,
      length_dotText_cons]
    omega

lemma tokens_dotted {first : String} {words : List String} (hfirst : IsWord first)
    (hwords : ∀ w ∈ words, IsWord w) {rest : List Char} (hrest : startsWord (tokens rest) = false) :
    tokens ((first ++ dotText words).toList ++ rest) =
      .word first :: (dotTokens words ++ tokens rest) := by
  induction words generalizing first with
  | nil =>
    have hempty : first ++ dotText [] = first := by simp [dotText]
    rw [hempty, tokens_word hfirst.1 hfirst.2 hrest, String.ofList_toList]
    rfl
  | cons w words ih =>
    have htail := ih (hwords w List.mem_cons_self) fun v hv => hwords v (List.mem_cons_of_mem w hv)
    have hdot : tokens ((dotText (w :: words)).toList ++ rest) =
        .mark '.' :: .word w :: (dotTokens words ++ tokens rest) := by
      rw [dotText_cons, List.cons_append, tokens, if_neg (by decide), if_neg (by decide), htail]
    rw [String.toList_append, List.append_assoc, tokens_word hfirst.1 hfirst.2 (by rw [hdot]; rfl),
      hdot, String.ofList_toList]
    rfl

lemma dotted_not_opening {first : String} {words : List String} (hfirst : IsWord first)
    (hwords : ∀ w ∈ words, IsWord w) : ∀ c ∈ (first ++ dotText words).toList, c ∉ opening := by
  induction words generalizing first with
  | nil => simpa [dotText] using fun c hc => not_mem_opening_of_isWord (hfirst.2 c hc)
  | cons w words ih =>
    have htail := ih (hwords w List.mem_cons_self) fun v hv => hwords v (List.mem_cons_of_mem w hv)
    intro c hc
    rw [String.toList_append, List.mem_append, dotText_cons, List.mem_cons] at hc
    rcases hc with hc | rfl | hc
    · exact not_mem_opening_of_isWord (hfirst.2 c hc)
    · decide
    · exact htail c hc

lemma code_dotted {first : String} {words : List String} (hfirst : IsWord first)
    (hwords : ∀ w ∈ words, IsWord w) {rest : List Char} (hrest : Stop (code rest)) :
    code ((first ++ dotText words).toList ++ rest) =
      .word first :: dotTokens words ++ code rest := by
  rw [code, stripFrom_append (dotted_not_opening hfirst hwords),
    tokens_dotted hfirst hwords hrest.apart.1]
  rfl

lemma importable_dotted {first : String} {words : List String} (hfirst : IsIdentifier first)
    (hwords : ∀ w ∈ words, IsIdentifier w) : Importable (first ++ dotText words) :=
  ⟨_, fun _ h => code_dotted hfirst.isWord (fun w hw => (hwords w hw).isWord) h,
    fun _ _ => trivial, scans_dotted first words⟩

lemma dottedTail_dotTokens (words : List String) {after : List Token}
    (h : dottedTail after = ("", after)) :
    dottedTail (dotTokens words ++ after) = (dotText words, after) := by
  induction words with
  | nil => exact h
  | cons w words ih =>
    have hcons : dotTokens (w :: words) ++ after =
        .mark '.' :: .word w :: (dotTokens words ++ after) := rfl
    rw [hcons, dottedTail, dottedTail, ih]
    simp [dotText, String.append_assoc]

lemma header?_dotted {first : String} (hfirst : isName first = true) (words : List String)
    (body : List Token) :
    header? (.word "namespace" :: .blank :: (.word first :: dotTokens words ++
      .blank :: .mark '\x7b' :: body)) = some ⟨first ++ dotText words, true, body⟩ := by
  have htail : dottedTail (dotTokens words ++ .blank :: .mark '\x7b' :: body) =
      (dotText words, .blank :: .mark '\x7b' :: body) := dottedTail_dotTokens words rfl
  rw [List.cons_append, header?, if_pos hfirst, htail]
  rfl

/-- A block of a namespace whose inside holds no other namespace is its only region. -/
lemma regionsFrom_namespace {first : String} (hfirst : isName first = true) (words : List String)
    {ts : List Token} {names arrays : List String} (hts : Scans ts names arrays Spaced) :
    ∃ start stop, regionsFrom [] (.blank :: .word "namespace" :: .blank ::
        (.word first :: dotTokens words ++ .blank :: .mark '\x7b' ::
          (ts ++ [.blank, .mark '\x7d', .blank]))) =
      [⟨first ++ dotText words, ts ++ [.blank], start, stop⟩] := by
  have hheader := header?_dotted hfirst words (ts ++ [.blank, .mark '\x7d', .blank])
  have hblock : block 0 (ts ++ [.blank, .mark '\x7d', .blank]) = ts ++ [.blank] := by
    rw [hts.block]
    rfl
  have hrest : ∀ found, regionsFrom found (.blank :: (.word first :: dotTokens words ++
      .blank :: .mark '\x7b' :: (ts ++ [.blank, .mark '\x7d', .blank]))) = found.reverse := by
    intro found
    rw [regionsFrom_cons rfl, (scans_dotted first words).regions _ _ (by simp [Stop]),
      regionsFrom_cons rfl, regionsFrom_cons rfl, hts.regions _ _ (by simp [Spaced, Solid])]
    rfl
  rw [regionsFrom_cons rfl, regionsFrom, hheader]
  dsimp only
  rw [hrest]
  simp only [Region.ofHeader, ite_true, hblock]
  exact ⟨_, _, rfl⟩

lemma lineText_zero (line : Line) : lineText 0 line = "\n" ++ line.render := by
  cases line with
  | text depth content => simp [lineText, Line.render, String.append_assoc]
  | gap => rfl

/-- Lines that end with line feeds after one are lines that start with line feeds before one. -/
lemma join_render (lines : List Line) :
    "\n" ++ String.join (lines.map fun line => line.render ++ "\n") = linesText 0 lines ++ "\n" := by
  induction lines with
  | nil => rfl
  | cons line lines ih =>
    have hcons : linesText 0 (line :: lines) = lineText 0 line ++ linesText 0 lines := by
      rw [linesText, List.map_cons, String.join_cons]
      rfl
    rw [List.map_cons, String.join_cons, hcons, lineText_zero]
    simp only [String.append_assoc, ih]

/-- The lines of the banner are white space. -/
lemma code_banner {rest : List Char} (hrest : startsBlank (code rest) = true) :
    code ((String.join (banner.map fun line => (Line.text 0 line).render ++ "\n")).toList ++ rest) =
      code rest := by
  have hcomments : ∀ lines : List String,
      (∀ line ∈ lines, line.toList.take 2 = ['/', '/'] ∧ '\n' ∉ line.toList.drop 2) →
      code ((String.join (lines.map fun line => (Line.text 0 line).render ++ "\n")).toList ++ rest) =
        code rest := by
    intro lines
    induction lines with
    | nil => exact fun _ => rfl
    | cons line lines ih =>
      intro hlines
      obtain ⟨hslashes, hfeed⟩ := hlines line List.mem_cons_self
      have hline : line.toList = '/' :: '/' :: line.toList.drop 2 := by
        have hparts := List.take_append_drop 2 line.toList
        rw [hslashes] at hparts
        exact hparts.symm
      have hrender : (Line.text 0 line).render = line := by simp [Line.render]
      have htail := ih fun l hl => hlines l (List.mem_cons_of_mem line hl)
      have hsplit : (String.join ((line :: lines).map fun l => (Line.text 0 l).render ++ "\n")).toList ++
          rest = '/' :: '/' :: (line.toList.drop 2 ++ '\n' ::
            ((String.join (lines.map fun l => (Line.text 0 l).render ++ "\n")).toList ++ rest)) := by
        rw [List.map_cons, String.join_cons, hrender, String.toList_append, String.toList_append, hline]
        simp
      rw [hsplit, code_comment hfeed, htail, consBlank_of_startsBlank hrest]
  exact hcomments banner (by decide +kernel)

lemma emit_eq {m : ApiModel} (hns : m.ns ≠ "") :
    emit m = String.join (banner.map fun line => (Line.text 0 line).render ++ "\n") ++
      (linesText 0 (braced ("namespace " ++ m.ns) (contentLines m)) ++ "\n") := by
  rw [emit, fileLines, if_neg hns, List.map_append, List.map_append, String.join_append,
    String.join_append, List.map_map, String.append_assoc, ← join_render]
  simp [Line.render, Function.comp_def]

lemma code_space_cons {c : Char} (hc : IsSpace c) (rest : List Char) :
    code (c :: rest) = Token.consBlank (code rest) :=
  @code_spaces [c] (List.cons_ne_nil c []) (fun _ hd => List.mem_singleton.mp hd ▸ hc) rest

/-- The braces of a namespace with lines between them. -/
lemma code_body {inside : List Char} {ts : List Token}
    (hts : ∀ rest, Spaced (code rest) → code (inside ++ rest) = ts ++ code rest) :
    code ('\n' :: '\x7b' :: (inside ++ ['\n', '\x7d', '\n'])) =
      .blank :: .mark '\x7b' :: (ts ++ [.blank, .mark '\x7d', .blank]) := by
  have hend : code ['\n', '\x7d', '\n'] = [.blank, .mark '\x7d', .blank] := by decide
  have hinside := hts ['\n', '\x7d', '\n'] (by rw [hend]; simp [Spaced, Solid])
  rw [code_space_cons (by decide), code_mark (by decide) (by decide), hinside, hend]
  rfl

lemma code_header {first : String} {words : List String} (hfirst : IsWord first)
    (hwords : ∀ w ∈ words, IsWord w) {rest : List Char} (hrest : Stop (code rest)) :
    code ("\nnamespace ".toList ++ ((first ++ dotText words).toList ++ rest)) =
      .blank :: .word "namespace" :: .blank :: (.word first :: dotTokens words ++ code rest) := by
  have hname := code_dotted hfirst hwords hrest
  have hspace : code (' ' :: ((first ++ dotText words).toList ++ rest)) =
      .blank :: (.word first :: dotTokens words ++ code rest) := by
    rw [code_space_cons (by decide), hname]
    rfl
  have hword : code ("namespace".toList ++ ' ' :: ((first ++ dotText words).toList ++ rest)) =
      .word "namespace" :: .blank :: (.word first :: dotTokens words ++ code rest) := by
    rw [code_word_of_startsWord (by decide) (by decide) (by rw [hspace]; rfl), hspace]
  have hfeed := code_space_cons (c := '\n') (by decide)
    ("namespace".toList ++ ' ' :: ((first ++ dotText words).toList ++ rest))
  rw [hword] at hfeed
  exact hfeed

lemma code_emit {m : ApiModel} {first : String} {words : List String}
    (hns : m.ns = first ++ dotText words) (hfirst : IsWord first)
    (hwords : ∀ w ∈ words, IsWord w) {ts : List Token}
    (hts : ∀ rest, Spaced (code rest) → code ((linesText 1 (contentLines m)).toList ++ rest) =
      ts ++ code rest) :
    code (emit m).toList = .blank :: .word "namespace" :: .blank ::
      (.word first :: dotTokens words ++ .blank :: .mark '\x7b' ::
        (ts ++ [.blank, .mark '\x7d', .blank])) := by
  have hne : m.ns ≠ "" := by
    intro hempty
    have hnil : (first ++ dotText words).toList = [] := by rw [← hns, hempty]; rfl
    rw [String.toList_append, List.append_eq_nil_iff] at hnil
    exact hfirst.1 hnil.1
  have hbody := code_body hts
  have hheader := code_header hfirst hwords (by rw [hbody]; simp [Stop])
  rw [hbody] at hheader
  have htext : (linesText 0 (braced ("namespace " ++ m.ns) (contentLines m)) ++ "\n").toList =
      "\nnamespace ".toList ++ ((first ++ dotText words).toList ++
        '\n' :: '\x7b' :: ((linesText 1 (contentLines m)).toList ++ ['\n', '\x7d', '\n'])) := by
    rw [linesText_braced, hns]
    simp
  rw [emit_eq hne, String.toList_append, htext, code_banner (by rw [hheader]; rfl), hheader]

/-- What the scanner recovers from an emitted file. -/
theorem mem_declaredTypes_emit {m : ApiModel} (h : ReadableModel m) {first : String}
    {words : List String} (hns : m.ns = first ++ dotText words) (hfirst : IsIdentifier first)
    (hwords : ∀ w ∈ words, IsWord w) (n : String) :
    n ∈ declaredTypes (emit m) m.ns ↔ n = m.proxy.name ∨ (∃ d ∈ m.declarations, n = d.name) ∨
      n ∈ classArrays m.proxy ++ m.declarations.flatMap declarationArrays := by
  obtain ⟨ts, hcode, -, hscan⟩ := readsLines_content h 1
  obtain ⟨start, stop, hregions⟩ := regionsFrom_namespace hfirst.1 words hscan
  have htokens := code_emit hns hfirst.isWord hwords hcode
  have hnames : namesIn (ts ++ [.blank]) = (m.proxy.name :: m.declarations.map (·.name)) ++
      (classArrays m.proxy ++ m.declarations.flatMap declarationArrays) := by
    have hspaced : Spaced [.blank] := trivial
    have hend : declarationsFrom 0 [.blank] = [] ∧ arraysFrom [.blank] = [] := ⟨rfl, rfl⟩
    rw [namesIn, hscan.declarations _ hspaced, hscan.arrays _ hspaced, hend.1, hend.2,
      List.append_nil, List.append_nil]
  unfold code at htokens
  unfold declaredTypes
  rw [htokens, hregions, ← hns]
  simp [sortNames, hnames, eq_comm]

end HubProxy.Proofs
