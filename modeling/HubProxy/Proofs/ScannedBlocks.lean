import HubProxy.Proofs.EmittedFile
import HubProxy.Proofs.EmittedSegments

/-!
# Scanning a file of blocks

The proxy and the declared types are blocks between the braces of a namespace. What the scanner finds
in an emitted file is what it finds in each of them: a declared type by its header, arrays by the types
of its members, and perhaps other names where words of the language are names. A further namespace that
such words seem to open lies within the one of the file, so its full name is another one.
-/

namespace HubProxy.Proofs

open CSharp

section Regions

lemma length_lt_dotText {words : List String} {w : String} (h : w ∈ words) :
    w.length < (dotText words).length := by
  induction words with
  | nil => cases h
  | cons v words ih =>
    have hcons := length_dotText_cons v words
    rcases List.mem_cons.mp h with rfl | h
    · omega
    · have := ih h
      omega

lemma intercalate_ne {around : List String} {ns : String} (h : ns ∈ around) (name : String) :
    ".".intercalate (around ++ [name]) ≠ ns := by
  intro heq
  have hlength := congrArg String.length heq
  have hlt := length_lt_dotText h
  rw [length_intercalate_concat] at hlength
  omega

/-- The regions that start within a region have other names. -/
lemma filter_regionsFrom {main : Region} {tail : List Token}
    (htail : ∀ found, regionsFrom found tail = found.reverse)
    (hends : main.endsBefore = tail.length) (inside : List Token)
    (hstarts : (inside ++ tail).length ≤ main.startsBefore) {found : List Region}
    (hfound : main ∈ found) :
    (regionsFrom found (inside ++ tail)).filter (·.name == main.name) =
      found.reverse.filter (·.name == main.name) := by
  induction inside generalizing found with
  | nil => rw [List.nil_append, htail]
  | cons t inside ih =>
    have hlength : (inside ++ tail).length ≤ main.startsBefore := by
      rw [List.cons_append, List.length_cons] at hstarts
      omega
    rw [List.cons_append, regionsFrom]
    split
    · next h heq =>
      have hin : main ∈ found.reverse.filter (·.encloses ((inside ++ tail).length + 1)) := by
        rw [List.mem_filter, List.mem_reverse]
        refine ⟨hfound, ?_⟩
        rw [List.cons_append, List.length_cons] at hstarts
        simp only [Region.encloses, Bool.and_eq_true, decide_eq_true_eq, hends, List.length_append]
          at hstarts ⊢
        omega
      have hne := intercalate_ne (List.mem_map_of_mem (f := (·.name)) hin) h.name
      rw [ih hlength (List.mem_cons_of_mem _ hfound), List.reverse_cons, List.filter_append,
        List.filter_cons_of_neg (by simpa [Region.ofHeader] using hne), List.filter_nil,
        List.append_nil]
    · exact ih hlength hfound

end Regions

section Blocks

variable {d : TypeDeclaration}

def blockText (n : Nat) (d : TypeDeclaration) : String :=
  linesText n (declarationLines d)

/-- A block is its header on a line of its own and what stands in braces after it. -/
lemma WordDeclaration.exists_bare (h : WordDeclaration d) (n : Nat) :
    ∃ inside, bare (blockText n d) =
      (margin (4 * n) ++ declarationHeader d ++ margin (4 * n)).toList ++
        ('\x7b' :: inside ++ ['\x7d']) := by
  obtain ⟨hheader, body, hlines, hbody⟩ := h.exists_body
  have hmargin := calmText_margin (4 * n)
  have hfront := (hmargin.append hheader).append hmargin
  have hinside := (hbody (n + 1)).append (segment_calm hmargin)
  have htext : blockText n d = margin (4 * n) ++ declarationHeader d ++ margin (4 * n) ++
      ("\x7b" ++ (linesText (n + 1) body ++ margin (4 * n)) ++ "\x7d") := by
    rw [blockText, hlines, linesText_braced]
    rfl
  exact ⟨_, by rw [htext, bare_append (segment_calm hfront), bare_calm hfront,
    (segment_braces hinside).2]⟩

lemma WordDeclaration.segmentLines (h : WordDeclaration d) :
    SegmentLines (declarationLines d) (declarationArrays d) := by
  obtain ⟨hheader, body, hlines, hbody⟩ := h.exists_body
  have hblock := segmentLines_braced (segment_calm hheader).led hbody
  rwa [List.nil_append, ← hlines] at hblock

/-- The names that the scanner finds in a declaration inside a namespace. -/
def namesOf (d : TypeDeclaration) : List String :=
  namesIn (tokens (bare (blockText 1 d)))

lemma declarationArrays_subset (h : WordDeclaration d) : declarationArrays d ⊆ namesOf d := by
  intro n hn
  have hshows := (h.segmentLines 1).shows [] [] n hn
  rw [List.nil_append, List.append_nil] at hshows
  exact List.mem_append_right _ hshows

/-- The brace that ends a block ends what is found in it. -/
lemma WordDeclaration.exists_closed (h : WordDeclaration d) :
    ∃ before, bare (blockText 1 d) = before ++ ['\x7d'] ∧
      ∀ n, n ∈ namesIn (tokens before) ↔ n ∈ namesOf d := by
  obtain ⟨inside, hbare⟩ := h.exists_bare 1
  obtain ⟨before, hbefore⟩ : ∃ before, bare (blockText 1 d) = before ++ ['\x7d'] :=
    ⟨_, hbare.trans (List.append_assoc _ _ _).symm⟩
  have hend : namesIn (tokens []) = [] := rfl
  refine ⟨before, hbefore, fun n => ?_⟩
  rw [namesOf, hbefore, tokens_append_mark (by decide), mem_namesIn_append_mark (by decide), hend]
  simp

lemma mem_namesIn_feed (cs : List Char) (n : String) :
    n ∈ namesIn (tokens ('\n' :: cs)) ↔ n ∈ namesIn (tokens cs) := by
  rw [tokens, if_neg (by decide), if_pos (by decide), mem_namesIn_consBlank]

def blocksText (ds : List TypeDeclaration) : String :=
  linesText 1 (separate (ds.map declarationLines))

lemma blocksText_cons (d d' : TypeDeclaration) (ds : List TypeDeclaration) :
    blocksText (d :: d' :: ds) = blockText 1 d ++ ("\n" ++ blocksText (d' :: ds)) := by
  rw [blocksText, List.map_cons, separate, linesText, List.map_append, String.join_append,
    List.map_cons, String.join_cons]
  · rfl
  · exact List.cons_ne_nil _ _

lemma segment_blocksText {ds : List TypeDeclaration} (hds : ∀ d ∈ ds, WordDeclaration d) :
    Segment (blocksText ds) (ds.map declarationArrays).flatten := by
  have hblocks : List.Forall₂ SegmentLines (ds.map declarationLines) (ds.map declarationArrays) := by
    exact forall₂_segmentLines_map fun d hd => (hds d hd).segmentLines
  exact segmentLines_separate hblocks 1

/-- In blocks one after another is found what is found in each. -/
lemma exists_closed_blocks {ds : List TypeDeclaration} (hds : ∀ d ∈ ds, WordDeclaration d)
    (hne : ds ≠ []) : ∃ before, bare (blocksText ds) = before ++ ['\x7d'] ∧
      ∀ n, n ∈ namesIn (tokens before) ↔ ∃ d ∈ ds, n ∈ namesOf d := by
  induction ds with
  | nil => exact absurd rfl hne
  | cons d ds ih =>
    obtain ⟨first, hfirst, hnames⟩ := (hds d List.mem_cons_self).exists_closed
    cases ds with
    | nil => exact ⟨first, hfirst, by simpa using hnames⟩
    | cons d' ds =>
      obtain ⟨rest, hrest, hnames'⟩ :=
        ih (fun e he => hds e (List.mem_cons_of_mem d he)) (List.cons_ne_nil d' ds)
      have hseg : Segment (blockText 1 d) _ := (hds d List.mem_cons_self).segmentLines 1
      have hfeed : CalmText "\n" := by decide
      have hall : bare (blocksText (d :: d' :: ds)) = first ++ '\x7d' :: '\n' :: rest ++ ['\x7d'] := by
        rw [blocksText_cons, bare_append hseg, bare_append (segment_calm hfeed), bare_calm hfeed,
          hfirst, hrest]
        simp
      refine ⟨_, hall, fun n => ?_⟩
      rw [tokens_append_mark (by decide), mem_namesIn_append_mark (by decide), mem_namesIn_feed,
        hnames, hnames']
      simp

lemma tokens_spaced {spaces : List Char} (hne : spaces ≠ []) (hspaces : ∀ c ∈ spaces, IsSpace c)
    {w : String} (hw : IsWord w) {rest : List Char} (hrest : startsWord (tokens rest) = false) :
    tokens (spaces ++ (w.toList ++ rest)) = .blank :: .word w :: tokens rest := by
  rw [tokens_spaces hne hspaces, tokens_word hw.1 hw.2 hrest, String.ofList_toList]
  rfl

/-- A header declares its name, also a name that could be the second word of a record. -/
lemma mem_namesIn_header {opener w : String} (ho : opener ∈ declarationWords) (hw : IsIdentifier w)
    (n : Nat) : w ∈ namesIn (tokens
      (margin n ++ ("public " ++ opener ++ " " ++ w) ++ margin n).toList) := by
  have hopener : IsWord opener := by
    have hall : ∀ opener ∈ declarationWords, IsWord opener := by decide
    exact hall opener ho
  have hmargin : (margin n).toList ≠ [] ∧ ∀ c ∈ (margin n).toList, IsSpace c := isSpace_indent n
  have hend : tokens ((margin n).toList ++ []) = [.blank] := by
    rw [tokens_spaces hmargin.1 hmargin.2]
    rfl
  have hlast : tokens ([' '] ++ (w.toList ++ ((margin n).toList ++ []))) =
      [.blank, .word w, .blank] := by
    rw [tokens_spaced (by decide) (by decide) hw.isWord (by rw [hend]; rfl), hend]
  have hmiddle : tokens ([' '] ++ (opener.toList ++ ([' '] ++ (w.toList ++ ((margin n).toList ++ []))))) =
      [.blank, .word opener, .blank, .word w, .blank] := by
    rw [tokens_spaced (by decide) (by decide) hopener (by rw [hlast]; rfl), hlast]
  have htext : (margin n ++ ("public " ++ opener ++ " " ++ w) ++ margin n).toList =
      (margin n).toList ++ ("public".toList ++ ([' '] ++ (opener.toList ++ ([' '] ++
        (w.toList ++ ((margin n).toList ++ [])))))) := by
    have hpublic : "public ".toList = "public".toList ++ [' '] := by decide
    simp [hpublic]
  have htokens : tokens (margin n ++ ("public " ++ opener ++ " " ++ w) ++ margin n).toList =
      [.blank, .word "public", .blank, .word opener, .blank, .word w, .blank] := by
    rw [htext, tokens_spaced hmargin.1 hmargin.2 (by decide) (by rw [hmiddle]; rfl), hmiddle]
  have hdeclares : declaration? [.word opener, .blank, .word w, .blank] = some (w, [.blank]) := by
    simp [declaration?, ho, name?, hw.1]
  have hskip : declarationsFrom 0 [.blank, .word "public", .blank, .word opener, .blank, .word w,
      .blank] = declarationsFrom 0 [.word opener, .blank, .word w, .blank] := by
    rw [declarationsFrom_cons rfl, declarationsFrom_cons (declaration?_plain (by decide) _),
      declarationsFrom_cons rfl]
  rw [htokens, namesIn, hskip, declarationsFrom, hdeclares]
  exact List.mem_append_left _ List.mem_cons_self

lemma WordDeclaration.name_mem (h : WordDeclaration d) {opener : String}
    (ho : opener ∈ declarationWords) (hheader : declarationHeader d = "public " ++ opener ++ " " ++ d.name)
    (hname : IsIdentifier d.name) : d.name ∈ namesOf d := by
  obtain ⟨inside, hbare⟩ := h.exists_bare 1
  have hfront := mem_namesIn_header ho hname (4 * 1)
  rw [← hheader] at hfront
  rw [namesOf, hbare, List.cons_append, tokens_append_mark (by decide),
    mem_namesIn_append_mark (by decide)]
  exact .inl hfront

end Blocks

section File

lemma exists_bare_blocks {d : TypeDeclaration} {ds : List TypeDeclaration}
    (hds : ∀ e ∈ d :: ds, WordDeclaration e) : ∃ rest, bare (blocksText (d :: ds)) =
      (margin 4).toList ++ ((declarationHeader d).toList ++ rest) := by
  have hd := hds d List.mem_cons_self
  obtain ⟨inside, hbare⟩ := hd.exists_bare 1
  have hfirst : ∃ rest, bare (blockText 1 d) =
      (margin 4).toList ++ ((declarationHeader d).toList ++ rest) :=
    ⟨_, by simp only [hbare, String.toList_append, List.append_assoc, Nat.mul_one]; rfl⟩
  obtain ⟨rest, hfirst⟩ := hfirst
  cases ds with
  | nil => exact ⟨rest, hfirst⟩
  | cons d' ds =>
    have hseg : Segment (blockText 1 d) _ := hd.segmentLines 1
    refine ⟨rest ++ bare ("\n" ++ blocksText (d' :: ds)), ?_⟩
    rw [blocksText_cons, bare_append hseg, hfirst]
    simp

lemma exists_tokens_blocks {c : ClassDeclaration} {ds : List TypeDeclaration}
    (hds : ∀ e ∈ .cls c :: ds, WordDeclaration e) (hpublic : c.visibility = "public")
    (cs : List Char) : ∃ w ts, tokens (bare (blocksText (.cls c :: ds)) ++ cs) =
      .blank :: .word w :: ts := by
  obtain ⟨rest, hbare⟩ := exists_bare_blocks hds
  obtain ⟨header, hheader⟩ : ∃ header, (declarationHeader (.cls c)).toList = 'p' :: header := by
    have hlist : "public".toList = 'p' :: "ublic".toList := by decide
    simp only [declarationHeader, classHeader, hpublic, String.toList_append, hlist,
      List.cons_append]
    exact ⟨_, rfl⟩
  have hword : ∀ ts, ∃ w us, Token.consBlank (Token.consWord 'p' ts) = .blank :: .word w :: us := by
    intro ts
    cases ts with
    | nil => exact ⟨_, _, rfl⟩
    | cons t ts => cases t <;> exact ⟨_, _, rfl⟩
  have hspaces := isSpace_indent 4
  rw [hbare, hheader, List.append_assoc, margin, tokens_spaces hspaces.1 hspaces.2,
    List.cons_append, List.cons_append, tokens, if_pos (by decide)]
  exact hword _

/-- The tokens that end a file after its blocks. -/
def fileEnd : List Token :=
  [.mark '\x7d', .blank]

/-- Of the namespaces that the scanner finds in a file only that around the blocks has its name. -/
lemma filter_regionsFrom_namespace {first : String} (hfirst : isName first = true)
    (words : List String) {ts us : List Token} {names arrays : List String}
    (hts : Scans ts names arrays Spaced) (hus : Spaced (us ++ fileEnd))
    (hnesting : nesting 0 us = some 0) :
    ∃ start stop, (regionsFrom [] (.blank :: .word "namespace" :: .blank ::
        (.word first :: dotTokens words ++ .blank :: .mark '\x7b' ::
          (ts ++ us ++ fileEnd)))).filter (·.name == first ++ dotText words) =
      [⟨first ++ dotText words, ts ++ us, start, stop⟩] := by
  have hheader := header?_dotted hfirst words (ts ++ us ++ fileEnd)
  have hblock : block 0 (ts ++ us ++ fileEnd) = ts ++ us := by
    rw [List.append_assoc, hts.block, fileEnd, block_of_nesting hnesting]
  have hrest : ∀ found, regionsFrom found (.blank :: (.word first :: dotTokens words ++
      .blank :: .mark '\x7b' :: (ts ++ us ++ fileEnd))) =
        regionsFrom found (us ++ fileEnd) := by
    intro found
    rw [regionsFrom_cons rfl, (scans_dotted first words).regions _ _ (by simp [Stop]),
      regionsFrom_cons rfl, regionsFrom_cons rfl, List.append_assoc, hts.regions _ _ hus]
  have htail : ∀ found, regionsFrom found fileEnd = found.reverse := fun _ => rfl
  have hends : (ts ++ us ++ fileEnd).length - (ts ++ us).length = 2 := by
    rw [List.length_append, Nat.add_sub_cancel_left]
    rfl
  have hmain : Region.ofHeader (first ++ dotText words)
      ⟨first ++ dotText words, true, ts ++ us ++ fileEnd⟩ =
        ⟨first ++ dotText words, ts ++ us, (ts ++ us ++ fileEnd).length, 2⟩ := by
    simp only [Region.ofHeader, ite_true, hblock, hends]
  have hstarts : (us ++ fileEnd).length ≤
      (ts ++ us ++ fileEnd).length := by
    simp only [List.length_append]
    omega
  have hinside := filter_regionsFrom htail (Eq.refl 2) us hstarts (List.mem_singleton_self
    ⟨first ++ dotText words, ts ++ us, (ts ++ us ++ fileEnd).length, 2⟩)
  refine ⟨(ts ++ us ++ fileEnd).length, 2, ?_⟩
  rw [regionsFrom_cons rfl, regionsFrom, hheader]
  simp only [List.reverse_nil, List.filter_nil, List.map_nil, List.nil_append,
    String.intercalate_singleton]
  rw [hrest, hmain, hinside]
  simp

/-- The tokens of blocks do not depend on what follows. -/
lemma exists_tokens_of_blocks {c : ClassDeclaration} {ds : List TypeDeclaration}
    (hds : ∀ e ∈ .cls c :: ds, WordDeclaration e) (hpublic : c.visibility = "public") :
    ∃ ts, (∀ rest, code ((blocksText (.cls c :: ds)).toList ++ rest) = ts ++ code rest) ∧
      (∀ after, Spaced (ts ++ after)) ∧ nesting 0 (ts ++ [.blank]) = some 0 ∧
      ∀ n, n ∈ namesIn (ts ++ [.blank]) ↔ ∃ d ∈ .cls c :: ds, n ∈ namesOf d := by
  obtain ⟨before, hbefore, hnames⟩ := exists_closed_blocks hds (List.cons_ne_nil _ _)
  have hseg := segment_blocksText hds
  have hcut : ∀ cs, tokens (bare (blocksText (.cls c :: ds)) ++ cs) =
      tokens before ++ [.mark '\x7d'] ++ tokens cs := by
    intro cs
    rw [hbefore, List.append_assoc, List.singleton_append, tokens_append_mark (by decide),
      List.append_assoc]
    rfl
  obtain ⟨w, us, hstart⟩ := exists_tokens_blocks hds hpublic []
  have hword := (hcut []).symm.trans hstart
  rw [tokens, List.append_nil] at hword
  refine ⟨tokens before ++ [.mark '\x7d'], fun rest => ?_, fun after => ?_, ?_, fun n => ?_⟩
  · rw [code, hseg.strips, hcut]
    rfl
  · rw [hword]
    trivial
  · have hblank : tokens before ++ [.mark '\x7d'] ++ [.blank] =
        tokens (bare (blocksText (.cls c :: ds)) ++ [' ']) := (hcut [' ']).symm
    rw [hblank, nesting_append, hseg.balanced]
    rfl
  · have hnone : namesIn [.blank] = [] := rfl
    rw [List.append_assoc, List.singleton_append, mem_namesIn_append_mark (by decide), hnone, hnames]
    simp

/-- In an emitted file the scanner finds what it finds in the proxy and in the declarations. -/
theorem mem_declaredTypes_blocks {m : ApiModel} (himports : ∀ ns ∈ m.imports, Importable ns)
    (hblocks : ∀ d ∈ .cls m.proxy :: m.declarations, WordDeclaration d)
    (hpublic : m.proxy.visibility = "public") {first : String} {words : List String}
    (hns : m.ns = first ++ dotText words) (hfirst : IsIdentifier first)
    (hwords : ∀ w ∈ words, IsWord w) (n : String) :
    n ∈ declaredTypes (emit m) m.ns ↔ ∃ d ∈ .cls m.proxy :: m.declarations, n ∈ namesOf d := by
  obtain ⟨ts, hts, -, hscan⟩ := readsLines_imports himports 1
  obtain ⟨us, hus, hspaced, hnesting, hnames⟩ := exists_tokens_of_blocks hblocks hpublic
  have hcontent : linesText 1 (contentLines m) = linesText 1 (importLines m.imports) ++
      blocksText (.cls m.proxy :: m.declarations) := by
    rw [contentLines, linesText, List.map_append, String.join_append]
    rfl
  have hcode : ∀ rest, Spaced (code rest) →
      code ((linesText 1 (contentLines m)).toList ++ rest) = ts ++ us ++ code rest := by
    intro rest _
    have hstart := hspaced (code rest)
    rw [← hus] at hstart
    rw [hcontent, String.toList_append, List.append_assoc, hts _ hstart, hus, List.append_assoc]
  have htokens := code_emit hns hfirst.isWord hwords hcode
  have hend : Spaced (us ++ [.blank] ++ fileEnd) := by
    rw [List.append_assoc]
    exact hspaced _
  obtain ⟨start, stop, hregions⟩ := filter_regionsFrom_namespace hfirst.1 words hscan hend hnesting
  have hfile : ts ++ us ++ [.blank, .mark '\x7d', .blank] = ts ++ (us ++ [.blank]) ++ fileEnd := by
    simp [fileEnd]
  have hinside : namesIn (ts ++ (us ++ [.blank])) = namesIn (us ++ [.blank]) := by
    rw [namesIn, hscan.declarations _ (hspaced _), hscan.arrays _ (hspaced _)]
    rfl
  unfold code at htokens
  unfold declaredTypes
  rw [htokens, hfile, hns]
  dsimp only
  rw [hregions]
  simpa [sortNames, hinside] using hnames n

end File

end HubProxy.Proofs
