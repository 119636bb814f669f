import HubProxy.Proofs.ScannedPieces

/-!
# Scanning a forest

The scanner reads the namespaces of a forest in the order in which they open, and finds in each the
names of its subtree. The full name that it gives to a namespace is put together from the full names
of those around it, so a namespace inside two others is found under another name than its path.
-/

namespace HubProxy.Proofs

open CSharp

section Regions

/-- The full names that the scanner gives to namespaces each of which is inside those before it. -/
def fullNames (around : List String) : List String :=
  around.foldl (fun full name => full ++ [".".intercalate (full ++ [name])]) []

lemma fullNames_concat (around : List String) (name : String) :
    fullNames (around ++ [name]) =
      fullNames around ++ [".".intercalate (fullNames around ++ [name])] := by
  rw [fullNames, List.foldl_append]
  rfl

/-- The name under which the scanner finds a namespace. -/
def NamespaceNode.foundAs (node : NamespaceNode) : String :=
  ".".intercalate (fullNames node.around ++ [node.name])

variable {ts mid after : List Token} {found rs rs' : List Region}
  {nodes nodes' : List NamespaceNode} {around : List String} {k : Nat}

/-- What the scanner finds in the tokens in front of others: the regions of namespaces, none of
which goes on behind them. -/
structure Gathers (found : List Region) (ts after : List Token) (nodes : List NamespaceNode)
    (rs : List Region) : Prop where
  regions : regionsFrom found ts = regionsFrom (rs.reverse ++ found) after
  ends : ∀ r ∈ rs, after.length ≤ r.endsBefore
  seen : rs.map (fun r => (r.name, namesIn r.body)) =
    nodes.map fun node => (node.foundAs, node.names)

lemma Gathers.trans (h : Gathers found ts mid nodes rs)
    (h' : Gathers (rs.reverse ++ found) mid after nodes' rs') (hle : after.length ≤ mid.length) :
    Gathers found ts after (nodes ++ nodes') (rs ++ rs') where
  regions := by rw [h.regions, h'.regions, List.reverse_append, List.append_assoc]
  ends r hr := by
    rcases List.mem_append.mp hr with hr | hr
    · exact hle.trans (h.ends r hr)
    · exact h'.ends r hr
  seen := by rw [List.map_append, List.map_append, h.seen, h'.seen]

/-- From `ts` on to `after` the regions found before give the full names of the namespaces around. -/
def Inside (found : List Region) (around : List String) (ts after : List Token) : Prop :=
  ∀ k, after.length < k → k ≤ ts.length → enclosing found k = fullNames around

lemma Inside.mono {us vs : List Token} (h : Inside found around ts after)
    (hus : us.length ≤ ts.length) (hvs : after.length ≤ vs.length) : Inside found around us vs :=
  fun k hk hle => h k (Nat.lt_of_le_of_lt hvs hk) (hle.trans hus)

/-- Regions that have ended enclose nothing. -/
lemma Inside.after_regions (h : Inside found around ts after)
    (hrs : ∀ r ∈ rs, ts.length ≤ r.endsBefore) : Inside (rs.reverse ++ found) around ts after := by
  intro k hk hle
  have hnone : rs.filter (·.encloses k) = [] := by
    refine List.filter_eq_nil_iff.mpr fun r hr => ?_
    have := hrs r hr
    simp only [Region.encloses, Bool.and_eq_true, decide_eq_true_eq]
    omega
  rw [← h k hk hle, enclosing, List.reverse_append, List.reverse_reverse, List.filter_append, hnone,
    List.append_nil]
  rfl

/-- Inside a namespace its full name comes after those around it. -/
lemma Inside.enter (h : Inside found around ts after) (name : String) (r : Region)
    (hname : r.name = ".".intercalate (fullNames around ++ [name]))
    (hstart : ts.length ≤ r.startsBefore) (hends : r.endsBefore ≤ after.length) :
    Inside (r :: found) (around ++ [name]) ts after := by
  intro k hk hle
  have hin : [r].filter (·.encloses k) = [r] := by
    have hencloses : k ≤ r.startsBefore ∧ r.endsBefore < k := ⟨hle.trans hstart, by omega⟩
    simp [Region.encloses, hencloses]
  rw [enclosing, List.reverse_cons, List.filter_append, hin, List.map_append, fullNames_concat,
    ← hname, ← h k hk hle]
  rfl

lemma Gathers.behind (h' : Gathers found mid after nodes rs)
    (h : regionsFrom found ts = regionsFrom found mid) : Gathers found ts after nodes rs :=
  ⟨h.trans h'.regions, h'.ends, h'.seen⟩

lemma Gathers.close {c : Char} (h : Gathers found ts (.mark c :: after) nodes rs) :
    Gathers found ts after nodes rs :=
  ⟨h.regions.trans (regionsFrom_cons rfl _), fun r hr => Nat.le_of_succ_le (h.ends r hr), h.seen⟩

lemma Gathers.cons {r : Region} (h : Gathers (r :: found) mid after nodes rs) (node : NamespaceNode)
    (hts : regionsFrom found ts = regionsFrom (r :: found) mid)
    (hends : after.length ≤ r.endsBefore)
    (hseen : (r.name, namesIn r.body) = (node.foundAs, node.names)) :
    Gathers found ts after (node :: nodes) (r :: rs) where
  regions := by rw [hts, h.regions, List.reverse_cons, List.append_assoc]; rfl
  ends := List.forall_mem_cons.mpr ⟨hends, h.ends⟩
  seen := by rw [List.map_cons, List.map_cons, hseen, h.seen]

end Regions

/-- The region of a block, given the tokens in it and those behind its last brace. -/
def blockRegion (full : String) (inside rest : List Token) : Region :=
  ⟨full, inside, (inside ++ .mark '\x7d' :: rest).length, rest.length + 1⟩

namespace Forest

variable {ts after : List Token} {around : List String} {found : List Region}

lemma unranked {forest : Forest} (h : Laid after forest.lexemes ts) (hafter : Unranked after) :
    Unranked ts := by
  cases forest with
  | done => rwa [Unranked, h.nil]
  | word w rest =>
    obtain ⟨us, hts, -⟩ := h.cons_dotted
    exact unranked_word hts
  | mark c rest =>
    obtain ⟨us, hts, -⟩ := h.cons_mark
    exact unranked_mark (fun hc => c.free (by simp [hc])) hts
  | declares kind name rest =>
    obtain ⟨us, -, hts, -⟩ := h.read_declares
    exact unranked_word hts
  | array base rank rest =>
    obtain ⟨us, hts, -⟩ := h.cons_dotted
    exact unranked_word hts
  | block body rest =>
    obtain ⟨us, hts, -⟩ := h.cons_mark
    exact unranked_mark (by decide) hts
  | scope name body rest =>
    obtain ⟨vs, us, hts, -⟩ := h.read_header
    exact unranked_word hts

/-- The scanner finds in the tokens of a forest what is declared and mentioned in it. -/
lemma finds (forest : Forest) (h : Laid after forest.lexemes ts) (hafter : Unranked after) :
    Finds ts after forest.declared forest.arrays := by
  induction forest generalizing ts after with
  | done => exact h.passes_nil.toFinds
  | word w rest ih =>
    obtain ⟨us, hlaid, hpass⟩ := h.read_word
    exact (hpass (unranked hlaid hafter)).toFinds.trans (ih hlaid hafter)
  | mark c rest ih =>
    obtain ⟨us, hlaid, hpass⟩ := h.read_mark
    exact hpass.toFinds.trans (ih hlaid hafter)
  | declares kind name rest ih =>
    obtain ⟨us, hlaid, -, hpass⟩ := h.read_declares
    exact (hpass (unranked hlaid hafter)).toFinds.trans (ih hlaid hafter)
  | array base rank rest ih =>
    obtain ⟨us, hlaid, hpass⟩ := h.read_array
    exact (hpass (unranked hlaid hafter)).toFinds.trans (ih hlaid hafter)
  | block body rest ihbody ihrest =>
    obtain ⟨us, hts, hlaid⟩ := h.cons_mark
    obtain ⟨vs, hbody, hrest⟩ := hlaid.split_mark
    have hinside := ihbody hbody (unranked_mark (by decide) rfl)
    exact (finds_braces hts hinside).trans (ihrest hrest hafter)
  | scope name body rest ihbody ihrest =>
    obtain ⟨vs, us, hts, hvs, hlaid⟩ := h.read_header
    obtain ⟨ws, hbody, hrest⟩ := hlaid.split_mark
    have hheader := finds_header (by decide) hvs hts
    have hinside := ihbody hbody (unranked_mark (by decide) rfl)
    exact hheader.trans ((finds_braces hvs hinside).trans (ihrest hrest hafter))

lemma namesIn_eq {forest : Forest} (h : Laid [] forest.lexemes ts) : namesIn ts = forest.names := by
  have hfinds := forest.finds h (by simp [Unranked, skipBlank])
  rw [namesIn, hfinds.declarations, hfinds.arrays, declarationsFrom, arraysFrom, List.append_nil,
    List.append_nil, names]

lemma ofHeader_block {forest : Forest} {front : List Token} (h : Laid [] forest.lexemes front)
    (name full : String) (us : List Token) :
    Region.ofHeader full ⟨name, '\x7b' == '\x7b', front ++ .mark '\x7d' :: us⟩ =
      blockRegion full front us := by
  have hnesting : nesting 0 front = some 0 :=
    (forest.finds h (by simp [Unranked, skipBlank])).nesting 0
  simp only [Region.ofHeader, beq_self_eq_true, if_true, block_of_nesting hnesting, blockRegion,
    List.length_append, Nat.add_sub_cancel_left, List.length_cons]

/-- The regions that the scanner finds in the tokens of a forest are those of its namespaces. The
induction carries that the regions found before give the full names around the forest. -/
lemma exists_gathers (forest : Forest) (h : Laid after forest.lexemes ts) (hafter : Unranked after)
    (haround : Inside found around ts after) :
    ∃ rs, Gathers found ts after (forest.nodes around) rs := by
  induction forest generalizing ts after found around with
  | done => exact ⟨[], h.passes_nil.regions found, by simp, rfl⟩
  | word w rest ih =>
    obtain ⟨us, hlaid, hpass⟩ := h.read_word
    have hword := hpass (unranked hlaid hafter)
    obtain ⟨rs, hrs⟩ := ih hlaid hafter (haround.mono hword.length_le (Nat.le_refl _))
    exact ⟨rs, hrs.behind (hword.regions found)⟩
  | mark c rest ih =>
    obtain ⟨us, hlaid, hmark⟩ := h.read_mark
    obtain ⟨rs, hrs⟩ := ih hlaid hafter (haround.mono hmark.length_le (Nat.le_refl _))
    exact ⟨rs, hrs.behind (hmark.regions found)⟩
  | declares kind name rest ih =>
    obtain ⟨us, hlaid, -, hpass⟩ := h.read_declares
    have hhead := hpass (unranked hlaid hafter)
    obtain ⟨rs, hrs⟩ := ih hlaid hafter (haround.mono hhead.length_le (Nat.le_refl _))
    exact ⟨rs, hrs.behind (hhead.regions found)⟩
  | array base rank rest ih =>
    obtain ⟨us, hlaid, hpass⟩ := h.read_array
    have harray := hpass (unranked hlaid hafter)
    obtain ⟨rs, hrs⟩ := ih hlaid hafter (haround.mono harray.length_le (Nat.le_refl _))
    exact ⟨rs, hrs.behind (harray.regions found)⟩
  | block body rest ihbody ihrest =>
    obtain ⟨us, hts, hlaid⟩ := h.cons_mark
    obtain ⟨vs, hbody, hrest⟩ := hlaid.split_mark
    have hus : us.length ≤ ts.length := length_le_of_skipBlank hts
    have hvs : vs.length < us.length := hbody.length_le
    have hlength := hrest.length_le
    -- a block is no namespace: the same names are around its body and what is behind it
    obtain ⟨rs, hrs⟩ := ihbody hbody (unranked_mark (by decide) rfl)
      (haround.mono hus (Nat.le_succ_of_le hlength))
    obtain ⟨rs', hrs'⟩ := ihrest hrest hafter
      ((haround.mono (by omega) (Nat.le_refl _)).after_regions hrs.close.ends)
    exact ⟨rs ++ rs', (hrs.close.trans hrs' hlength).behind (regionsFrom_mark hts found)⟩
  | scope name body rest ihbody ihrest =>
    obtain ⟨vs, us, hts, hvs, hlaid⟩ := h.read_header
    obtain ⟨ws, hbody, hrest⟩ := hlaid.split_mark
    have hws : ws.length < us.length := hbody.length_le
    have hlength := hrest.length_le
    obtain ⟨k, hlt, hle, hregions⟩ := regionsFrom_header (by decide) hvs hts found
    obtain ⟨front, rfl, hfront⟩ := hbody.alone
    rw [haround k (by omega) hle, ofHeader_block hfront] at hregions
    have hbetween : Inside found around (front ++ .mark '\x7d' :: ws) (.mark '\x7d' :: ws) :=
      haround.mono (by omega) (Nat.le_succ_of_le hlength)
    -- the new region encloses what is between the braces and has ended behind them
    have hinside := hbetween.enter name.text (blockRegion _ front ws) rfl (Nat.le_refl _)
      (Nat.le_refl _)
    obtain ⟨rs, hrs⟩ := ihbody hbody (unranked_mark (by decide) rfl) hinside
    have hnode := hrs.close.cons ⟨around, name.text, body.names⟩ hregions (Nat.le_succ _)
      (congrArg (Prod.mk _) (namesIn_eq hfront))
    obtain ⟨rs', hrs'⟩ := ihrest hrest hafter
      ((haround.mono (by omega) (Nat.le_refl _)).after_regions hnode.ends)
    exact ⟨_, hnode.trans hrs' hlength⟩

end Forest

/-- The region of a namespace that goes on to the end of the file. -/
def fileRegion (full : String) (inside : List Token) : Region :=
  ⟨full, inside, inside.length, 0⟩

lemma ofHeader_file (name full : String) (us : List Token) :
    Region.ofHeader full ⟨name, ';' == '\x7b', us⟩ = fileRegion full us := by
  have hsemicolon : (';' == '\x7b') = false := rfl
  simp only [Region.ofHeader, hsemicolon, Bool.false_eq_true, if_false, Nat.sub_self, fileRegion]

lemma SourceFile.exists_gathers (file : SourceFile) {ts : List Token}
    (h : Laid [] file.lexemes ts) : ∃ rs, Gathers [] ts [] file.nodes rs := by
  have hend : Unranked [] := by simp [Unranked, skipBlank]
  cases file with
  | blocks body => exact body.exists_gathers h hend fun _ _ _ => rfl
  | headed front name body =>
    obtain ⟨mid, hfront, hback⟩ := h.split
    obtain ⟨vs, us, hmid, hvs, hbody⟩ := hback.read_header
    have hstart : Inside [] [] ts mid := fun _ _ _ => rfl
    obtain ⟨rs, hrs⟩ := front.exists_gathers hfront (unranked_word hmid) hstart
    have hnone : Inside (rs.reverse ++ []) [] mid [] :=
      Inside.after_regions (fun _ _ _ => rfl) hrs.ends
    obtain ⟨k, hlt, hle, hregions⟩ := regionsFrom_header (by decide) hvs hmid (rs.reverse ++ [])
    rw [hnone k (Nat.zero_lt_of_lt hlt) hle, ofHeader_file] at hregions
    have hbehind : Inside (rs.reverse ++ []) [] us [] := hnone.mono (by omega) (Nat.le_refl _)
    have hinside := hbehind.enter name.text (fileRegion _ us) rfl (Nat.le_refl _) (Nat.le_refl _)
    obtain ⟨rs', hrs'⟩ := body.exists_gathers hbody hend hinside
    have hnode := hrs'.cons ⟨[], name.text, body.names⟩ hregions (Nat.zero_le _)
      (congrArg (Prod.mk _) (Forest.namesIn_eq hbody))
    exact ⟨_, hrs.trans hnode (Nat.zero_le _)⟩

section Paths

lemma length_fullNames_concat (around : List String) (name : String) :
    (dotText (fullNames (around ++ [name]))).length =
      2 * (dotText (fullNames around)).length + (name.length + 1) := by
  rw [fullNames_concat, length_dotText_concat, length_intercalate_concat]
  omega

lemma length_le_fullNames (around : List String) :
    (dotText around).length ≤ (dotText (fullNames around)).length := by
  induction around using List.reverseRecOn with
  | nil => exact Nat.le_refl _
  | append_singleton around name ih =>
    rw [length_fullNames_concat, length_dotText_concat]
    omega

variable {node : NamespaceNode}

lemma NamespaceNode.foundAs_eq_path (h : node.around.length ≤ 1) : node.foundAs = node.path := by
  have hfull : fullNames node.around = node.around := by
    match node.around, h with
    | [], _ => rfl
    | [name], _ => simp [fullNames]
  rw [foundAs, path, hfull]

/-- The full names around a namespace inside two others repeat the outermost one. -/
lemma NamespaceNode.foundAs_ne_path (h : 2 ≤ node.around.length) : node.foundAs ≠ node.path := by
  intro heq
  have hlength := congrArg String.length heq
  rw [foundAs, path, length_intercalate_concat, length_intercalate_concat] at hlength
  rcases List.eq_nil_or_concat' node.around with hnil | ⟨front, last, haround⟩
  · simp [hnil] at h
  rw [haround] at h hlength
  -- the full name of the last one around holds those in front of it once more
  have hle := length_le_fullNames front
  have hpos : 0 < (dotText front).length := by
    cases front with
    | nil => simp at h
    | cons first words =>
      rw [length_dotText_cons]
      omega
  rw [length_fullNames_concat, length_dotText_concat] at hlength
  omega

end Paths

/-- In a file of namespaces the scanner finds in each the names of its whole subtree. A namespace
inside at most one other is found under its path. One further inside is not: it is found under a
longer name. -/
theorem mem_declaredTypes_file {file : SourceFile} {text : String} (hcode : CodeOnly text.toList)
    (htext : Spelled file.lexemes text.toList) (ns n : String) :
    (n ∈ declaredTypes text ns ↔ ∃ node ∈ file.nodes, node.foundAs = ns ∧ n ∈ node.names) ∧
    ((∀ node ∈ file.nodes, 2 ≤ node.around.length → node.path ≠ ns ∧ node.foundAs ≠ ns) →
      (n ∈ declaredTypes text ns ↔ ∃ node ∈ file.nodes, node.path = ns ∧ n ∈ node.names)) ∧
    ∀ node ∈ file.nodes, node.foundAs = node.path ↔ node.around.length ≤ 1 := by
  obtain ⟨rs, hrs⟩ := file.exists_gathers (htext.laid file.wellFormed)
  have hregions : regionsFrom [] (tokens (stripFrom .code text.toList)) = rs := by
    rw [stripFrom_eq_self hcode, hrs.regions, regionsFrom, List.append_nil, List.reverse_reverse]
  have hfound : n ∈ declaredTypes text ns ↔
      ∃ node ∈ file.nodes, node.foundAs = ns ∧ n ∈ node.names := by
    have hseen : (∃ r ∈ rs, r.name = ns ∧ n ∈ namesIn r.body) ↔
        ∃ p ∈ rs.map (fun r => (r.name, namesIn r.body)), p.1 = ns ∧ n ∈ p.2 := by simp
    rw [hrs.seen] at hseen
    unfold declaredTypes
    rw [hregions]
    simp only [sortNames, List.mem_mergeSort, List.mem_eraseDups, List.mem_flatMap, List.mem_filter,
      beq_iff_eq, and_assoc]
    simpa using hseen
  have hpath : ∀ node : NamespaceNode, node.foundAs = node.path ↔ node.around.length ≤ 1 := by
    intro node
    refine ⟨fun heq => ?_, NamespaceNode.foundAs_eq_path⟩
    by_contra hdeep
    exact NamespaceNode.foundAs_ne_path (by omega) heq
  refine ⟨hfound, fun hdeep => hfound.trans ?_, fun node _ => hpath node⟩
  refine exists_congr fun node => and_congr_right fun hnode => and_congr_left fun _ => ?_
  by_cases hshallow : node.around.length ≤ 1
  · rw [(hpath node).mpr hshallow]
  · have hne := hdeep node hnode (by omega)
    exact ⟨fun h => absurd h hne.2, fun h => absurd h hne.1⟩

/-- A class with an array and two namespaces of one name, all in a namespace of the whole file. -/
def mapsFile : SourceFile :=
  .headed (.word ⟨"using", by decide, by decide⟩ (.word ⟨"System", by decide, by decide⟩
      (.mark ⟨';', by decide, by decide⟩ .done))) ⟨"Maps", ["Client"], by decide⟩
    (.declares .cls ⟨"Grid", by decide, by decide⟩
      (.block (.array ⟨"Cell", by decide, by decide⟩ 2
        (.word ⟨"cells", by decide, by decide⟩ .done))
      (.scope ⟨"Data", [], by decide⟩ (.declares .recordStruct ⟨"Span", by decide, by decide⟩ .done)
      (.scope ⟨"Data", [], by decide⟩ (.declares .enum ⟨"Mode", by decide, by decide⟩
        (.block .done .done)) .done))))

def mapsText : String :=
  "using System ; namespace Maps.Client ; class Grid \x7b Cell [ ] [ ] cells \x7d " ++
    "namespace Data \x7b record struct Span \x7d namespace Data \x7b enum Mode \x7b \x7d \x7d "

theorem mem_declaredTypes_mapsFile : CodeOnly mapsText.toList ∧
    Spelled mapsFile.lexemes mapsText.toList ∧
    ∀ n, (n ∈ declaredTypes mapsText "Maps.Client.Data" ↔ n = "Span" ∨ n = "Mode") ∧
      (n ∈ declaredTypes mapsText "Maps.Client" ↔
        n ∈ ["Grid", "Span", "Mode", "Cell[]", "Cell[][]"]) := by
  have hcode : CodeOnly mapsText.toList := by decide +kernel
  have htext : Spelled mapsFile.lexemes mapsText.toList := by
    have hspaced : spaced mapsFile.lexemes = mapsText.toList := by decide +kernel
    exact hspaced ▸ spelled_spaced mapsFile.lexemes
  have hnodes : mapsFile.nodes = [
      ⟨[], "Maps.Client", ["Grid", "Span", "Mode", "Cell[]", "Cell[][]"]⟩,
      ⟨["Maps.Client"], "Data", ["Span"]⟩, ⟨["Maps.Client"], "Data", ["Mode"]⟩] := rfl
  have hpath : mapsFile.nodes.map (·.path) =
      ["Maps.Client", "Maps.Client.Data", "Maps.Client.Data"] := by decide
  simp only [hnodes, List.map_cons, List.map_nil, List.cons.injEq, and_true] at hpath
  refine ⟨hcode, htext, fun n => ⟨?_, ?_⟩⟩
  · rw [(mem_declaredTypes_file hcode htext "Maps.Client.Data" n).2.1 (by decide), hnodes]
    simp [hpath]
  · rw [(mem_declaredTypes_file hcode htext "Maps.Client" n).2.1 (by decide), hnodes]
    simp [hpath]

/-- A class in the innermost of three namespaces. -/
def nestedFile : SourceFile :=
  .blocks (.scope ⟨"A", [], by decide⟩ (.scope ⟨"B", [], by decide⟩ (.scope ⟨"C", [], by decide⟩
    (.declares .cls ⟨"X", by decide, by decide⟩ (.block .done .done)) .done) .done) .done)

def nestedText : String :=
  "namespace A \x7b namespace B \x7b namespace C \x7b class X \x7b \x7d \x7d \x7d \x7d "

theorem not_mem_declaredTypes_nestedFile : CodeOnly nestedText.toList ∧
    Spelled nestedFile.lexemes nestedText.toList ∧
    (∃ node ∈ nestedFile.nodes, node.path = "A.B.C" ∧ "X" ∈ node.names) ∧
    "X" ∉ declaredTypes nestedText "A.B.C" := by
  have hspaced : spaced nestedFile.lexemes = nestedText.toList := by decide +kernel
  refine ⟨by decide +kernel, hspaced ▸ spelled_spaced _, ?_, by decide +kernel⟩
  have hnodes : nestedFile.nodes = [⟨[], "A", ["X"]⟩, ⟨["A"], "B", ["X"]⟩,
      ⟨["A", "B"], "C", ["X"]⟩] := rfl
  exact ⟨⟨["A", "B"], "C", ["X"]⟩, by simp [hnodes], by decide, by decide⟩

end HubProxy.Proofs
