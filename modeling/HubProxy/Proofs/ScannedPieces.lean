import HubProxy.Proofs.SourceForest
import HubProxy.Proofs.SourceSegments

/-!
# Scanning pieces of a forest

What the scanner finds in a word, a mark, a declaration, an array or the header of a namespace, read
off the tokens that the piece starts and those behind it.
-/

namespace HubProxy.Proofs

open CSharp

section Passing

variable {ts us after : List Token} {ls : List Lexeme} {n n' a a' : List String}

/-- What is found in the tokens in front of others, and that their braces match. -/
structure Finds (ts after : List Token) (names arrays : List String) : Prop where
  declarations : declarationsFrom 0 ts = names ++ declarationsFrom 0 after
  arrays : arraysFrom ts = arrays ++ arraysFrom after
  nesting : ∀ depth, nesting depth ts = nesting depth after
  length_le : after.length ≤ ts.length

/-- In the tokens in front of others there is also no namespace. -/
structure Passes (ts after : List Token) (names arrays : List String) : Prop extends
    Finds ts after names arrays where
  regions : ∀ found, regionsFrom found ts = regionsFrom found after

lemma Finds.trans (h : Finds ts us n a) (h' : Finds us after n' a') :
    Finds ts after (n ++ n') (a ++ a') where
  declarations := by rw [h.declarations, h'.declarations, List.append_assoc]
  arrays := by rw [h.arrays, h'.arrays, List.append_assoc]
  nesting depth := by rw [h.nesting, h'.nesting]
  length_le := h'.length_le.trans h.length_le

lemma Passes.trans (h : Passes ts us n a) (h' : Passes us after n' a') :
    Passes ts after (n ++ n') (a ++ a') where
  toFinds := h.toFinds.trans h'.toFinds
  regions found := by rw [h.regions, h'.regions]

lemma passes_refl (ts : List Token) : Passes ts ts [] [] :=
  ⟨⟨rfl, rfl, fun _ => rfl, Nat.le_refl _⟩, fun _ => rfl⟩

lemma nesting_front (hts : ∀ t ∈ ts, t ≠ .mark '\x7b' ∧ t ≠ .mark '\x7d') (depth : Nat) :
    nesting depth (ts ++ after) = nesting depth after := by
  induction ts with
  | nil => rfl
  | cons t ts ih =>
    obtain ⟨hopen, hclose⟩ := hts t List.mem_cons_self
    rw [List.cons_append, nesting_cons hopen hclose,
      ih fun u hu => hts u (List.mem_cons_of_mem t hu)]

lemma Scans.passes {C : List Token → Prop} (h : Scans ts n a C)
    (hts : ∀ t ∈ ts, t ≠ .mark '\x7b' ∧ t ≠ .mark '\x7d') (hafter : C after) :
    Passes (ts ++ after) after n a where
  declarations := h.declarations after hafter
  arrays := h.arrays after hafter
  nesting := nesting_front hts
  length_le := by simp
  regions found := h.regions found after hafter

lemma passes_blank (ts : List Token) : Passes (.blank :: ts) ts [] [] :=
  (scans_blank Anything).passes (by simp) trivial

lemma passes_mark {c : Char} (hopen : c ≠ '\x7b') (hclose : c ≠ '\x7d') (ts : List Token) :
    Passes (.mark c :: ts) ts [] [] :=
  (scans_mark hopen hclose Anything).passes (by simp [hopen, hclose]) trivial

lemma eq_or_eq_of_skipBlank (h : skipBlank ts = us) : ts = us ∨ ts = .blank :: us := by
  subst h
  cases ts with
  | nil => exact .inl rfl
  | cons t ts => cases t <;> simp [skipBlank]

lemma passes_skipBlank (ts : List Token) : Passes ts (skipBlank ts) [] [] := by
  rcases eq_or_eq_of_skipBlank (Eq.refl (skipBlank ts)) with h | h
  · rw [← h]
    exact passes_refl ts
  · have hpass := passes_blank (skipBlank ts)
    rwa [← h] at hpass

lemma Passes.behind_blank (hts : skipBlank ts = us) (h : Passes us after n a) :
    Passes ts after n a :=
  (hts ▸ passes_skipBlank ts).trans h

/-- Tokens that do not go on with a pair of brackets. -/
def Unranked (ts : List Token) : Prop :=
  (skipBlank ts).head? ≠ some (.mark '[')

lemma Unranked.rankOf_eq_zero (h : Unranked ts) : rankOf ts = 0 := by
  rw [rankOf]
  all_goals
    rintro rest rfl
    exact h rfl

lemma unranked_word {w : String} (h : skipBlank ts = .word w :: us) : Unranked ts := by
  simp [Unranked, h]

lemma unranked_mark {c : Char} (hc : c ≠ '[') (h : skipBlank ts = .mark c :: us) :
    Unranked ts := by
  simp [Unranked, h, hc]

end Passing

section Pieces

variable {ts us vs after : List Token} {ls : List Lexeme}

lemma Laid.read_word {w : CodeWord} (h : Laid after (.word w.text :: ls) ts) :
    ∃ us, Laid after ls us ∧ (Unranked us → Passes ts us [] []) := by
  obtain ⟨us, hts, hstart, hlaid⟩ := h.cons_dotted
  refine ⟨us, hlaid, fun hus => ?_⟩
  have hword := (scans_plain w.plain).passes (by simp) ⟨hstart, hus.rankOf_eq_zero⟩
  exact Passes.behind_blank hts hword

lemma Laid.read_mark {c : CodeMark} (h : Laid after (.mark c.char :: ls) ts) :
    ∃ us, Laid after ls us ∧ Passes ts us [] [] := by
  obtain ⟨us, hts, hlaid⟩ := h.cons_mark
  have hfree := c.free
  simp only [List.mem_cons, List.not_mem_nil, or_false, not_or] at hfree
  exact ⟨us, hlaid, .behind_blank hts (passes_mark hfree.1 hfree.2.1 us)⟩

lemma rankOf_pair (hts : skipBlank ts = .mark '[' :: us) (hus : skipBlank us = .mark ']' :: vs) :
    rankOf ts = rankOf vs + 1 := by
  rcases eq_or_eq_of_skipBlank hts with rfl | rfl <;>
    rcases eq_or_eq_of_skipBlank hus with rfl | rfl <;> rw [rankOf]

lemma Laid.read_brackets {rank : Nat} (h : Laid after (bracketLexemes rank ++ ls) ts) :
    ∃ us, Laid after ls us ∧ Passes ts us [] [] ∧ (Unranked us → rankOf ts = rank) := by
  induction rank generalizing ts with
  | zero => exact ⟨ts, h, passes_refl ts, Unranked.rankOf_eq_zero⟩
  | succ rank ih =>
    obtain ⟨us, hts, hlaid⟩ := h.cons_mark
    obtain ⟨vs, hus, hlaid⟩ := hlaid.cons_mark
    obtain ⟨ws, hlaid, hpass, hrank⟩ := ih hlaid
    have hclose := Passes.behind_blank hus (passes_mark (by decide) (by decide) vs)
    have hopen := Passes.behind_blank hts (passes_mark (by decide) (by decide) us)
    refine ⟨ws, hlaid, (hopen.trans hclose).trans hpass, fun hws => ?_⟩
    rw [rankOf_pair hts hus, hrank hws]

lemma Laid.read_array {base : SourceName} {rank : Nat}
    (h : Laid after (.word base.text :: (bracketLexemes rank ++ ls)) ts) :
    ∃ us, Laid after ls us ∧ (Unranked us → Passes ts us [] (arrayNames base.text rank)) := by
  obtain ⟨us, hts, -, hlaid⟩ := h.cons_dotted
  obtain ⟨vs, hlaid, hpass, hrank⟩ := hlaid.read_brackets
  -- only the arrays depend on the brackets that follow, all else is as for a word
  refine ⟨vs, hlaid, fun hvs => .behind_blank hts ⟨⟨?_, ?_, fun depth => ?_, ?_⟩, fun found => ?_⟩⟩
  · exact (declarationsFrom_cons (declaration?_plain base.plain us)).trans hpass.declarations
  · have hname : arraysFrom (.word base.text :: us) =
        arrayNames base.text rank ++ arraysFrom us := by
      rw [arraysFrom, if_pos base.identifier.1, hrank hvs]
      rfl
    exact hname.trans (congrArg _ hpass.arrays)
  · exact (nesting_cons (by simp) (by simp) depth us).trans (hpass.nesting depth)
  · exact Nat.le_succ_of_le hpass.length_le
  · exact (regionsFrom_cons (header?_plain base.plain us) found).trans (hpass.regions found)

def TypeKind.tokens (kind : TypeKind) : List Token :=
  .word kind.opener :: .blank :: kind.second?.toList.flatMap fun second => [.word second, .blank]

lemma TypeKind.second_cases {kind : TypeKind} {second : String} (h : kind.second? = some second) :
    second = "class" ∨ second = "struct" := by
  cases kind <;> cases h <;> simp

lemma TypeKind.opener_mem (kind : TypeKind) : kind.opener ∈ declarationWords := by
  cases kind <;> decide

lemma declaration?_kind (kind : TypeKind) (name : SourceName) (after : List Token) :
    declaration? (kind.tokens ++ .word name.text :: after) = some (name.text, after) := by
  rw [TypeKind.tokens]
  cases hsecond : kind.second? with
  | none => exact declaration?_declares kind.opener_mem name.plain name.identifier.1 after
  | some second =>
    have hname : name? (.word name.text :: after) = some (name.text, after) := by
      simp [name?, name.identifier.1]
    have hopen : declaration? (.word kind.opener :: .blank :: .word second :: .blank ::
        .word name.text :: after) = some (name.text, after) := by
      rw [declaration?, if_pos kind.opener_mem]
      simp only [if_pos (TypeKind.second_cases hsecond), hname]
      rfl
    exact hopen

lemma passes_kind (kind : TypeKind) (name : SourceName) (hafter : Unranked after) :
    Passes (kind.tokens ++ .word name.text :: after) after [name.text] [] := by
  have hopener : kind.opener ≠ "namespace" := by cases kind <;> decide
  have hdecl := declaration?_kind kind name after
  have hlast : arraysFrom (.word name.text :: after) = arraysFrom after :=
    arraysFrom_word hafter.rankOf_eq_zero
  have hregions := regionsFrom_cons (header?_plain name.plain after)
  refine ⟨⟨?_, ?_, fun depth => ?_, ?_⟩, fun found => ?_⟩
  · have hsplit : kind.tokens ++ .word name.text :: after = .word kind.opener ::
        (kind.tokens.tail ++ [.word name.text] ++ after) := by simp [TypeKind.tokens]
    rw [hsplit] at hdecl ⊢
    exact declarationsFrom_declares hdecl
  · rw [TypeKind.tokens]
    cases kind.second? with
    | none => exact (arraysFrom_word_word _ _ _).trans hlast
    | some second =>
      exact (arraysFrom_word_word _ _ _).trans ((arraysFrom_word_word _ _ _).trans hlast)
  · have hnone : ∀ t ∈ kind.tokens ++ [.word name.text], t ≠ .mark '\x7b' ∧ t ≠ .mark '\x7d' := by
      cases kind <;> simp [TypeKind.tokens, TypeKind.second?]
    have hfront : nesting depth (kind.tokens ++ [.word name.text] ++ after) = nesting depth after :=
      nesting_front hnone depth
    rwa [List.append_assoc] at hfront
  · simp only [List.length_append, List.length_cons]
    omega
  · rw [TypeKind.tokens]
    cases hsecond : kind.second? with
    | none => exact (regionsFrom_word_word hopener found _ _).trans (hregions found)
    | some second =>
      have hne : second ≠ "namespace" := by
        rcases TypeKind.second_cases hsecond with rfl | rfl <;> decide
      exact (regionsFrom_word_word hopener found _ _).trans
        ((regionsFrom_word_word hne found _ _).trans (hregions found))

lemma Laid.read_declares {kind : TypeKind} {name : SourceName}
    (h : Laid after (kind.lexemes ++ .word name.text :: ls) ts) :
    ∃ us, Laid after ls us ∧ skipBlank ts = kind.tokens ++ .word name.text :: us ∧
      (Unranked us → Passes ts us [name.text] []) := by
  have htokens : ∃ us, Laid after ls us ∧ skipBlank ts = kind.tokens ++ .word name.text :: us := by
    rw [TypeKind.lexemes] at h
    rw [TypeKind.tokens]
    obtain ⟨us, hts, hstart, hlaid⟩ := Laid.cons_dotted h
    rw [hts]
    cases hsecond : kind.second? with
    | none =>
      rw [hsecond] at hlaid
      obtain ⟨vs, rfl, -, hlaid⟩ := Laid.apart_dotted hlaid hstart
      exact ⟨vs, hlaid, rfl⟩
    | some second =>
      rw [hsecond] at hlaid
      obtain ⟨vs, rfl, hstart, hlaid⟩ := Laid.apart_dotted hlaid hstart
      obtain ⟨ws, rfl, -, hlaid⟩ := Laid.apart_dotted hlaid hstart
      exact ⟨ws, hlaid, rfl⟩
  obtain ⟨us, hlaid, hts⟩ := htokens
  exact ⟨us, hlaid, hts, fun hus => .behind_blank hts (passes_kind kind name hus)⟩

lemma Laid.passes_nil (h : Laid after [] ts) : Passes ts after [] [] := by
  cases h with
  | done => exact passes_refl ts
  | blank hts h => cases h with
    | done => exact passes_blank after
    | blank => cases hts

lemma regionsFrom_mark {c : Char} (hts : skipBlank ts = .mark c :: us) (found : List Region) :
    regionsFrom found ts = regionsFrom found us := by
  rw [(passes_skipBlank ts).regions, hts]
  exact regionsFrom_cons rfl found

lemma length_le_of_skipBlank {t : Token} (hts : skipBlank ts = t :: us) :
    us.length ≤ ts.length := by
  have hle := (passes_skipBlank ts).length_le
  rw [hts, List.length_cons] at hle
  omega

lemma finds_braces {n a : List String} (hts : skipBlank ts = .mark '\x7b' :: us)
    (h : Finds us (.mark '\x7d' :: vs) n a) : Finds ts vs n a := by
  have hskip := passes_skipBlank ts
  rw [hts] at hskip
  refine ⟨?_, hskip.arrays.trans h.arrays, fun depth => ?_, ?_⟩
  · calc declarationsFrom 0 ts = declarationsFrom 0 (.mark '\x7b' :: us) := hskip.declarations
      _ = declarationsFrom 0 us := declarationsFrom_cons rfl
      _ = n ++ declarationsFrom 0 (.mark '\x7d' :: vs) := h.declarations
      _ = n ++ declarationsFrom 0 vs := congrArg (n ++ ·) (declarationsFrom_cons rfl)
  · rw [hskip.nesting, nesting, h.nesting, nesting]
  · have hle := h.length_le
    rw [List.length_cons] at hle
    exact (Nat.le_of_succ_le hle).trans (length_le_of_skipBlank hts)

end Pieces

section Headers

variable {ts us vs after : List Token} {ls : List Lexeme} {c : Char} {name : NamespaceName}

/-- The marks that end the header of a namespace: its block opens or the file is its block. -/
def headerEnds : List Char :=
  ['\x7b', ';']

lemma stop_of_skipBlank (hc : c ∈ headerEnds) (hts : skipBlank ts = .mark c :: us) : Stop ts := by
  have hall : ∀ c ∈ headerEnds, c ≠ '[' ∧ c ≠ '@' := by decide
  rcases eq_or_eq_of_skipBlank hts with rfl | rfl <;> exact hall c hc

/-- The tokens of a header in front of others. -/
def NamespaceName.header (name : NamespaceName) (ts : List Token) : List Token :=
  .word "namespace" :: .blank :: .word name.first :: (dotTokens name.more ++ ts)

lemma header?_name (hc : c ∈ headerEnds) (hts : skipBlank ts = .mark c :: us) :
    header? (name.header ts) = some ⟨name.text, c == '\x7b', us⟩ := by
  have hstop : dottedTail ts = ("", ts) := by
    have hall : ∀ c ∈ headerEnds, c ≠ '.' := by decide
    have hdot := hall c hc
    rcases eq_or_eq_of_skipBlank hts with rfl | rfl
    · rw [dottedTail] <;> simp [hdot]
    · rfl
  have hfirst := (name.identifiers _ List.mem_cons_self).1
  rw [NamespaceName.header, header?, if_pos hfirst, dottedTail_dotTokens name.more hstop]
  simp only [hts]
  simp only [headerEnds, List.mem_cons, List.not_mem_nil, or_false] at hc
  rcases hc with rfl | rfl <;> rfl

lemma Laid.read_header
    (h : Laid after (.word "namespace" :: .dotted name.first name.more :: .mark c :: ls) ts) :
    ∃ vs us, skipBlank ts = name.header vs ∧ skipBlank vs = .mark c :: us ∧ Laid after ls us := by
  obtain ⟨ws, hts, hstart, hlaid⟩ := Laid.cons_dotted h
  obtain ⟨vs, rfl, -, hlaid⟩ := hlaid.apart_dotted hstart
  obtain ⟨us, hvs, hlaid⟩ := hlaid.cons_mark
  exact ⟨vs, us, hts, hvs, hlaid⟩

lemma passes_name (hc : c ∈ headerEnds) (hvs : skipBlank vs = .mark c :: us) :
    Passes (.word name.first :: (dotTokens name.more ++ vs)) vs [] [] := by
  refine (scans_dotted name.first name.more).passes (fun t ht => ?_) (stop_of_skipBlank hc hvs)
  simp only [dotTokens, List.mem_cons, List.mem_flatMap, List.not_mem_nil, or_false] at ht
  rcases ht with rfl | ⟨w, -, rfl | rfl⟩ <;> simp

lemma finds_header (hc : c ∈ headerEnds) (hvs : skipBlank vs = .mark c :: us)
    (hts : skipBlank ts = name.header vs) : Finds ts vs [] [] := by
  have hnone : declaration? (name.header vs) = none := by
    simp [NamespaceName.header, declaration?, declarationWords]
  have hword : Finds (name.header vs) (.word name.first :: (dotTokens name.more ++ vs)) [] [] := by
    refine ⟨?_, arraysFrom_word_word _ _ _, fun depth => ?_, Nat.le_add_right _ 2⟩
    · exact (declarationsFrom_cons hnone).trans (declarationsFrom_cons rfl)
    · exact (nesting_cons (by simp) (by simp) depth _).trans
        (nesting_cons (by simp) (by simp) depth _)
  have hskip := (passes_skipBlank ts).toFinds
  rw [hts] at hskip
  exact (hskip.trans hword).trans (passes_name hc hvs).toFinds

/-- The full names of the namespaces around a position, outermost first. -/
def enclosing (found : List Region) (remaining : Nat) : List String :=
  (found.reverse.filter (·.encloses remaining)).map (·.name)

/-- A header opens a region, and the scanner goes on behind it. -/
lemma regionsFrom_header (hc : c ∈ headerEnds) (hvs : skipBlank vs = .mark c :: us)
    (hts : skipBlank ts = name.header vs) (found : List Region) :
    ∃ k, us.length < k ∧ k ≤ ts.length ∧ regionsFrom found ts = regionsFrom
      (.ofHeader (".".intercalate (enclosing found k ++ [name.text]))
        ⟨name.text, c == '\x7b', us⟩ :: found) us := by
  have hus : us.length ≤ vs.length := length_le_of_skipBlank hvs
  have hle := (passes_skipBlank ts).length_le
  rw [hts] at hle
  refine ⟨(name.header vs).length, ?_, hle, ?_⟩
  · simp only [NamespaceName.header, List.length_cons, List.length_append]
    omega
  · have hregion : ∀ found, regionsFrom found (name.header vs).tail = regionsFrom found us := by
      intro found
      calc regionsFrom found (name.header vs).tail
          = regionsFrom found (.word name.first :: (dotTokens name.more ++ vs)) :=
            regionsFrom_cons rfl found
        _ = regionsFrom found vs := (passes_name hc hvs).regions found
        _ = regionsFrom found us := regionsFrom_mark hvs found
    have hheader : header? (name.header vs) = some ⟨name.text, c == '\x7b', us⟩ :=
      header?_name hc hvs
    rw [NamespaceName.header] at hheader
    rw [(passes_skipBlank ts).regions, hts, NamespaceName.header, regionsFrom, hheader]
    exact hregion _

end Headers

end HubProxy.Proofs
