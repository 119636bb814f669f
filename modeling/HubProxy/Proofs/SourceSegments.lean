import HubProxy.Proofs.SourceReading

/-!
# Segments of source

The scanner never looks past a mark that is neither an at sign nor a bracket, so what it finds in a
text is what it finds in the segments between such marks. `Segment` says of a piece of text that it can
be stripped by itself, that its braces match and that certain arrays are found in it wherever it
stands.
-/

namespace HubProxy.Proofs

open CSharp

section Tokens

lemma consBlank_append {ts after : List Token} (h : startsBlank after = false) :
    Token.consBlank (ts ++ after) = Token.consBlank ts ++ after := by
  cases ts with
  | nil => rw [List.nil_append, consBlank_eq_cons h]; rfl
  | cons t ts => cases t <;> rfl

/-- A mark cuts the tokens of a text. -/
lemma tokens_append_mark {c : Char} (hc : isMark c = true) (s t : List Char) :
    tokens (s ++ c :: t) = tokens s ++ .mark c :: tokens t := by
  have hmark : tokens (c :: t) = .mark c :: tokens t := by
    simp only [isMark, Bool.and_eq_true, Bool.not_eq_true'] at hc
    rw [tokens, if_neg (by simp [hc.1]), if_neg (by simp [hc.2])]
  induction s with
  | nil => exact hmark
  | cons d s ih =>
    rw [List.cons_append, tokens, ih, tokens]
    split
    · exact consWord_append rfl d
    split
    · exact consBlank_append rfl
    · rfl

/-- Text in front of one that starts with no word leaves its tokens as they are. -/
lemma exists_tokens_append (s : List Char) {t : List Char} (ht : startsWord (tokens t) = false) :
    ∃ ts, tokens (s ++ t) = ts ++ tokens t := by
  induction s with
  | nil => exact ⟨[], rfl⟩
  | cons c s ih =>
    obtain ⟨ts, hts⟩ := ih
    rw [List.cons_append, tokens, hts]
    split
    · exact ⟨Token.consWord c ts, consWord_append ht c⟩
    split
    · cases hb : startsBlank (ts ++ tokens t) with
      | true => exact ⟨ts, consBlank_of_startsBlank hb⟩
      | false => exact ⟨.blank :: ts, consBlank_eq_cons hb⟩
    · exact ⟨.mark c :: ts, rfl⟩

end Tokens

section Cuts

/-- A mark that the scanner does not look past. -/
def Cutting (c : Char) : Prop :=
  isMark c = true ∧ c ≠ '@' ∧ c ≠ '[' ∧ c ≠ ']'

instance : DecidablePred Cutting :=
  fun c => inferInstanceAs (Decidable (isMark c = true ∧ c ≠ '@' ∧ c ≠ '[' ∧ c ≠ ']'))

variable {c : Char}

lemma name?_append_mark (hc : c ≠ '@') (ts us : List Token) :
    name? (ts ++ .mark c :: us) = (name? ts).map fun p => (p.1, p.2 ++ .mark c :: us) := by
  rcases ts with _ | ⟨t, ts⟩
  · simp [name?, hc]
  · cases t with
    | word w => by_cases hw : isName w = true <;> simp [name?, hw]
    | blank => rfl
    | mark d =>
      by_cases hd : d = '@'
      · subst hd
        rcases ts with _ | ⟨t, ts⟩
        · rfl
        · cases t with
          | word w => by_cases hw : isName w = true <;> simp [name?, hw]
          | _ => rfl
      · simp [name?, hd]

/-- Only a second word with white space behind it may be no name. -/
lemma declaration?_eq_name? {opener : String} (ho : opener ∈ declarationWords) {rest : List Token}
    (hrest : ∀ second after, rest ≠ .word second :: .blank :: after) :
    declaration? (.word opener :: .blank :: rest) = name? rest := by
  rw [declaration?, if_pos ho]
  exact hrest

lemma declaration?_append_mark (hc : c ≠ '@') (ts us : List Token) :
    declaration? (ts ++ .mark c :: us) =
      (declaration? ts).map fun p => (p.1, p.2 ++ .mark c :: us) := by
  rcases ts with _ | ⟨_ | _ | d, _ | ⟨_ | _ | d, rest⟩⟩
  all_goals try rfl
  rename_i opener
  by_cases ho : opener ∈ declarationWords
  · by_cases hsecond : ∃ second after, rest = .word second :: .blank :: after
    · obtain ⟨second, after, rfl⟩ := hsecond
      have hafter := name?_append_mark hc after us
      have hrest := name?_append_mark hc (.word second :: .blank :: after) us
      simp only [List.cons_append] at hrest
      simp only [List.cons_append, declaration?, if_pos ho]
      split
      · rw [hafter, hrest]
        cases name? after <;> rfl
      · exact hrest
    · have hnone : ∀ second after, rest ≠ .word second :: .blank :: after :=
        fun second after h => hsecond ⟨second, after, h⟩
      have hnone' : ∀ second after, rest ++ .mark c :: us ≠ .word second :: .blank :: after := by
        intro second after h
        rcases rest with _ | ⟨t, _ | ⟨t', rest⟩⟩
        · cases h
        · cases h
        · obtain ⟨rfl, htail⟩ := List.cons.inj h
          obtain ⟨rfl, -⟩ := List.cons.inj htail
          exact hnone second rest rfl
      have happ : .word opener :: .blank :: rest ++ .mark c :: us =
        .word opener :: .blank :: (rest ++ .mark c :: us) := rfl
      rw [happ, declaration?_eq_name? ho hnone, declaration?_eq_name? ho hnone',
        name?_append_mark hc]
  · simp [declaration?, ho]

/-- A mark ends a declaration that is being passed over. -/
lemma declarationsFrom_append_mark (hc : c ≠ '@') (ts us : List Token) {skip : Nat}
    (hskip : skip ≤ ts.length) :
    declarationsFrom skip (ts ++ .mark c :: us) =
      declarationsFrom skip ts ++ declarationsFrom 0 us := by
  induction ts generalizing skip with
  | nil =>
    obtain rfl : skip = 0 := by simpa using hskip
    exact declarationsFrom_cons rfl
  | cons t ts ih =>
    have hdecl := declaration?_append_mark hc (t :: ts) us
    rw [List.cons_append] at hdecl ⊢
    cases skip with
    | succ skip => exact ih (by simpa using hskip)
    | zero =>
      rw [declarationsFrom, declarationsFrom, hdecl]
      cases hd : declaration? (t :: ts) with
      | none => exact ih (Nat.zero_le _)
      | some p =>
        have hlength : (ts ++ .mark c :: us).length - (p.2 ++ .mark c :: us).length =
            ts.length - p.2.length := by
          simp only [List.length_append]
          omega
        simp only [Option.map_some, hlength, ih (Nat.sub_le _ _), List.cons_append]

/-- The ways in which a pair of brackets can be written. -/
def bracketPairs : List (List Token) :=
  [[.blank, .mark '[', .blank, .mark ']'], [.blank, .mark '[', .mark ']'],
    [.mark '[', .blank, .mark ']'], [.mark '[', .mark ']']]

lemma rankOf_eq_zero {ts : List Token} (h : ∀ pair ∈ bracketPairs, ¬pair <+: ts) :
    rankOf ts = 0 := by
  rw [rankOf]
  all_goals
    rintro rest rfl
    simp [bracketPairs] at h

lemma prefix_of_append_cons {l s t : List Token} {x : Token} (h : l <+: s ++ x :: t) (hx : x ∉ l) :
    l <+: s := by
  rcases Nat.lt_or_ge s.length l.length with hlt | hle
  · have hlong : s ++ [x] <+: s ++ x :: t := ⟨t, by simp⟩
    have hlength : (s ++ [x]).length ≤ l.length := by simpa [Nat.succ_le_iff] using hlt
    have hin : s ++ [x] <+: l := List.prefix_of_prefix_length_le hlong h hlength
    exact absurd (hin.subset (by simp)) hx
  · exact List.prefix_of_prefix_length_le h (List.prefix_append s _) hle

lemma rankOf_append_mark (hopen : c ≠ '[') (hclose : c ≠ ']') (ts us : List Token) :
    rankOf (ts ++ .mark c :: us) = rankOf ts := by
  induction ts using rankOf.induct with
  | case1 rest ih | case2 rest ih | case3 rest ih | case4 rest ih =>
    rw [rankOf, ← ih]
    rfl
  | case5 ts h₁ h₂ h₃ h₄ =>
    have hnone : rankOf ts = 0 := by rw [rankOf] <;> assumption
    have hmark : ∀ pair ∈ bracketPairs, Token.mark c ∉ pair := by simp [bracketPairs, hopen, hclose]
    rw [hnone]
    refine rankOf_eq_zero fun pair hpair hprefix => ?_
    obtain ⟨rest, rfl⟩ := prefix_of_append_cons hprefix (hmark pair hpair)
    simp only [bracketPairs, List.mem_cons, List.not_mem_nil, or_false] at hpair
    rcases hpair with rfl | rfl | rfl | rfl
    · exact h₁ rest rfl
    · exact h₂ rest rfl
    · exact h₃ rest rfl
    · exact h₄ rest rfl

lemma arraysFrom_append_mark (hopen : c ≠ '[') (hclose : c ≠ ']') (ts us : List Token) :
    arraysFrom (ts ++ .mark c :: us) = arraysFrom ts ++ arraysFrom us := by
  induction ts with
  | nil => rfl
  | cons t ts ih =>
    cases t with
    | word w =>
      rw [List.cons_append, arraysFrom, arraysFrom, rankOf_append_mark hopen hclose, ih,
        List.append_assoc]
    | _ => exact ih

/-- What is found in a text is found before or behind a mark that the scanner does not look past. -/
lemma mem_namesIn_append_mark (hc : Cutting c) (ts us : List Token) (n : String) :
    n ∈ namesIn (ts ++ .mark c :: us) ↔ n ∈ namesIn ts ∨ n ∈ namesIn us := by
  obtain ⟨-, hat, hopen, hclose⟩ := hc
  simp only [namesIn, declarationsFrom_append_mark hat ts us (Nat.zero_le _),
    arraysFrom_append_mark hopen hclose, List.mem_append]
  exact or_or_or_comm

lemma mem_namesIn_consBlank (ts : List Token) (n : String) :
    n ∈ namesIn (Token.consBlank ts) ↔ n ∈ namesIn ts := by
  have hblank : ∀ us, namesIn (.blank :: us) = namesIn us := by
    intro us
    rw [namesIn, namesIn, declarationsFrom_cons rfl]
    rfl
  cases h : startsBlank ts with
  | true => rw [consBlank_of_startsBlank h]
  | false => rw [consBlank_eq_cons h, hblank]

end Cuts

section Nesting

/-- How many blocks are open behind tokens in front of which some are, if none closes that is not
open. -/
def nesting : Nat → List Token → Option Nat
  | depth, [] => some depth
  | depth, .mark '\x7b' :: rest => nesting (depth + 1) rest
  | 0, .mark '\x7d' :: _ => none
  | depth + 1, .mark '\x7d' :: rest => nesting depth rest
  | depth, _ :: rest => nesting depth rest

lemma nesting_cons {t : Token} (ho : t ≠ .mark '\x7b') (hc : t ≠ .mark '\x7d') (depth : Nat)
    (rest : List Token) : nesting depth (t :: rest) = nesting depth rest := by
  cases depth <;> rw [nesting] <;> simp_all

lemma nesting_consWord (depth : Nat) (c : Char) (ts : List Token) :
    nesting depth (Token.consWord c ts) = nesting depth ts := by
  have hword : ∀ w us, nesting depth (.word w :: us) = nesting depth us :=
    fun _ _ => nesting_cons (by simp) (by simp) _ _
  unfold Token.consWord
  split
  · rw [hword, hword]
  · rw [hword]

lemma nesting_consBlank (depth : Nat) (ts : List Token) :
    nesting depth (Token.consBlank ts) = nesting depth ts := by
  cases h : startsBlank ts with
  | true => rw [consBlank_of_startsBlank h]
  | false =>
    rw [consBlank_eq_cons h]
    exact nesting_cons (by simp) (by simp) _ _

/-- Whether words or white space join where two texts meet makes no difference to the nesting. -/
lemma nesting_append (s t : List Char) (depth : Nat) :
    nesting depth (tokens (s ++ t)) =
      (nesting depth (tokens s)).bind fun inner => nesting inner (tokens t) := by
  induction s generalizing depth with
  | nil => simp [tokens, nesting]
  | cons c s ih =>
    rw [List.cons_append, tokens, tokens]
    split
    · rw [nesting_consWord, nesting_consWord, ih]
    split
    · rw [nesting_consBlank, nesting_consBlank, ih]
    · by_cases ho : c = '\x7b'
      · subst ho
        simp only [nesting, ih]
      by_cases hc : c = '\x7d'
      · subst hc
        cases depth with
        | zero => rfl
        | succ depth => simp only [nesting, ih]
      · rw [nesting_cons (by simpa using ho) (by simpa using hc),
          nesting_cons (by simpa using ho) (by simpa using hc), ih]

/-- A block reaches to the brace in front of which no other block is open. -/
lemma block_of_nesting {ts : List Token} {depth : Nat} (h : nesting depth ts = some 0)
    (us : List Token) : block depth (ts ++ .mark '\x7d' :: us) = ts := by
  induction ts generalizing depth with
  | nil =>
    obtain rfl : depth = 0 := Option.some.inj h
    rfl
  | cons t ts ih =>
    by_cases ho : t = .mark '\x7b'
    · subst ho
      rw [nesting] at h
      have hblock : ∀ rest, block depth (.mark '\x7b' :: rest) =
          .mark '\x7b' :: block (depth + 1) rest := fun rest => by cases depth <;> rfl
      rw [List.cons_append, hblock, ih h]
    by_cases hc : t = .mark '\x7d'
    · subst hc
      cases depth with
      | zero => cases h
      | succ depth =>
        rw [nesting] at h
        rw [List.cons_append, block, ih h]
    · rw [nesting_cons ho hc] at h
      have hblock : block depth (t :: (ts ++ .mark '\x7d' :: us)) =
          t :: block depth (ts ++ .mark '\x7d' :: us) := by
        cases depth <;> rw [block] <;> simp_all
      rw [List.cons_append, hblock, ih h]

end Nesting

section Segments

/-- Text without its comments and literals. -/
def bare (s : String) : List Char :=
  stripFrom .code s.toList

/-- A piece of source that starts and ends in code and whose braces match. The arrays are found in
it whatever stands around it. -/
structure Segment (s : String) (arrays : List String) : Prop where
  strips : ∀ rest, stripFrom .code (s.toList ++ rest) = bare s ++ stripFrom .code rest
  balanced : ∀ depth, nesting depth (tokens (bare s)) = some depth
  shows : ∀ before after, ∀ n ∈ arrays, n ∈ arraysFrom (tokens (before ++ (bare s ++ after)))

lemma bare_append {s t : String} {a : List String} (h : Segment s a) :
    bare (s ++ t) = bare s ++ bare t := by
  rw [bare, String.toList_append, h.strips, bare, bare]

lemma segment_empty : Segment "" [] where
  strips _ := rfl
  balanced _ := rfl
  shows _ _ _ hn := absurd hn List.not_mem_nil

lemma Segment.append {s t : String} {a a' : List String} (h : Segment s a) (h' : Segment t a') :
    Segment (s ++ t) (a ++ a') where
  strips rest := by
    rw [bare_append h, String.toList_append, List.append_assoc, h.strips, h'.strips,
      List.append_assoc]
  balanced depth := by
    rw [bare_append h, nesting_append, h.balanced]
    exact h'.balanced depth
  shows before after n hn := by
    rw [bare_append h, List.append_assoc]
    rcases List.mem_append.mp hn with hn | hn
    · exact h.shows before (bare t ++ after) n hn
    · have hshows := h'.shows (before ++ bare s) after n hn
      rwa [List.append_assoc] at hshows

/-- A character that opens neither a comment nor a literal and is no brace. -/
def Calm (c : Char) : Prop :=
  c ∉ opening ∧ c ≠ '\x7b' ∧ c ≠ '\x7d'

instance : DecidablePred Calm :=
  fun c => inferInstanceAs (Decidable (c ∉ opening ∧ c ≠ '\x7b' ∧ c ≠ '\x7d'))

lemma nesting_of_no_brace {cs : List Char} (h : ∀ c ∈ cs, c ≠ '\x7b' ∧ c ≠ '\x7d')
    (depth : Nat) : nesting depth (tokens cs) = some depth := by
  induction cs with
  | nil => rfl
  | cons c cs ih =>
    have hrest := ih fun d hd => h d (List.mem_cons_of_mem c hd)
    obtain ⟨ho, hc⟩ := h c List.mem_cons_self
    rw [tokens]
    split
    · rw [nesting_consWord, hrest]
    split
    · rw [nesting_consBlank, hrest]
    · rw [nesting_cons (by simpa using ho) (by simpa using hc), hrest]

lemma segment_of_no_brace {s : String} {cs : List Char} (hcs : ∀ c ∈ cs, c ≠ '\x7b' ∧ c ≠ '\x7d')
    (hs : ∀ rest, stripFrom .code (s.toList ++ rest) = cs ++ stripFrom .code rest) :
    Segment s [] := by
  have hbare : bare s = cs := by simpa [bare, stripFrom] using hs []
  refine ⟨?_, ?_, fun _ _ _ hn => absurd hn List.not_mem_nil⟩
  · rw [hbare]
    exact hs
  · rw [hbare]
    exact nesting_of_no_brace hcs

lemma segment_calm {s : String} (h : ∀ c ∈ s.toList, Calm c) : Segment s [] :=
  segment_of_no_brace (fun c hc => (h c hc).2) (stripFrom_append fun c hc => (h c hc).1)

lemma bare_calm {s : String} (h : ∀ c ∈ s.toList, Calm c) : bare s = s.toList := by
  have hstrip := stripFrom_append (fun c hc => (h c hc).1) []
  simpa [bare, stripFrom] using hstrip

lemma calm_of_isWord {c : Char} (hc : Text.isWord c = true) : Calm c := by
  refine ⟨not_mem_opening_of_isWord hc, ?_, ?_⟩ <;> (rintro rfl; revert hc; decide)

/-- A name that is marked where it is a reserved word. -/
lemma segment_escapeIdentifier {s : String} (h : ∀ c ∈ s.toList, Calm c) :
    Segment (escapeIdentifier s) [] := by
  have hwords : ∀ w ∈ keywords, w.toList ≠ [] ∧ ∀ c ∈ w.toList, Text.isWord c = true := by
    decide +kernel
  unfold escapeIdentifier
  split
  · next hmem =>
    obtain ⟨hne, hs⟩ := hwords s hmem
    have hlist : ("@" ++ s).toList = '@' :: s.toList := by simp
    have hcs : ∀ c ∈ '@' :: s.toList, c ≠ '\x7b' ∧ c ≠ '\x7d' := by
      intro c hc
      rcases List.mem_cons.mp hc with rfl | hc
      · decide
      · exact (h c hc).2
    refine segment_of_no_brace hcs fun rest => ?_
    rw [hlist, List.cons_append, stripFrom_escaped hs hne, stripFrom_append fun c hc => (h c hc).1,
      List.cons_append]
  · exact segment_calm h

lemma segment_literal {s : String} (h : ∀ c ∈ s.toList, Text.isWord c = true) :
    Segment ("\"" ++ s ++ "\"") [] := by
  have hcs : ∀ c ∈ ' ' :: (s.toList.map CSharp.blank ++ [' ']), c ≠ '\x7b' ∧ c ≠ '\x7d' := by
    intro c hc
    rcases isSpace_blanked (by decide) c hc with rfl | rfl <;> decide
  refine segment_of_no_brace hcs fun rest => ?_
  have hsplit : ("\"" ++ s ++ "\"").toList ++ rest = '"' :: (s.toList ++ '"' :: rest) := by simp
  rw [hsplit, stripFrom_literal h]

lemma segment_braces {s : String} {a : List String} (h : Segment s a) :
    Segment ("\x7b" ++ s ++ "\x7d") a ∧ bare ("\x7b" ++ s ++ "\x7d") = '\x7b' :: bare s ++ ['\x7d'] := by
  have hstrip : ∀ rest, stripFrom .code (("\x7b" ++ s ++ "\x7d").toList ++ rest) =
      '\x7b' :: bare s ++ ['\x7d'] ++ stripFrom .code rest := by
    intro rest
    have hsplit : ("\x7b" ++ s ++ "\x7d").toList ++ rest = '\x7b' :: (s.toList ++ '\x7d' :: rest) := by
      simp
    rw [hsplit, stripFrom_cons (by decide), h.strips, stripFrom_cons (by decide)]
    simp
  have hbare : bare ("\x7b" ++ s ++ "\x7d") = '\x7b' :: bare s ++ ['\x7d'] := by
    simpa [bare, stripFrom] using hstrip []
  refine ⟨⟨by rw [hbare]; exact hstrip, fun depth => ?_, fun before after n hn => ?_⟩, hbare⟩
  · have hopen : tokens ('\x7b' :: bare s ++ ['\x7d']) = .mark '\x7b' :: tokens (bare s ++ ['\x7d']) := by
      rw [List.cons_append, tokens, if_neg (by decide), if_neg (by decide)]
    rw [hbare, hopen, nesting, nesting_append, h.balanced]
    rfl
  · have hshows := h.shows (before ++ ['\x7b']) ('\x7d' :: after) n hn
    rw [hbare]
    simpa using hshows

lemma mem_arraysFrom_append {us : List Token} {n : String} (h : n ∈ arraysFrom us)
    (ts : List Token) : n ∈ arraysFrom (ts ++ us) := by
  induction ts with
  | nil => exact h
  | cons t ts ih =>
    cases t with
    | word w => exact List.mem_append_right _ ih
    | _ => exact ih

lemma arraysFrom_consBlank (ts : List Token) : arraysFrom (Token.consBlank ts) = arraysFrom ts := by
  cases h : startsBlank ts with
  | true => rw [consBlank_of_startsBlank h]
  | false =>
    rw [consBlank_eq_cons h, arraysFrom]
    rintro w ⟨⟩

lemma startsWord_consBlank (ts : List Token) : startsWord (Token.consBlank ts) = false := by
  cases ts with
  | nil => rfl
  | cons t ts => cases t <;> rfl

lemma le_rankOf_bracketTokens (rank : Nat) (us : List Token) :
    rank ≤ rankOf (bracketTokens rank ++ us) := by
  induction rank with
  | zero => exact Nat.zero_le _
  | succ rank ih =>
    rw [bracketTokens, List.cons_append, List.cons_append, rankOf]
    exact Nat.succ_le_succ ih

/-- A type after a character that belongs to no word mentions its arrays. -/
lemma mem_arraysFrom_tokens {c : Char} (hc : Text.isWord c = false) {w : String}
    (hw : IsIdentifier w) {rank : Nat} {n : String} (hn : n ∈ arrayNames w rank)
    (before after : List Char) :
    n ∈ arraysFrom (tokens (before ++ c :: (w.toList ++ ((brackets rank).toList ++ after)))) := by
  have hword : tokens (w.toList ++ ((brackets rank).toList ++ after)) =
      .word w :: (bracketTokens rank ++ tokens after) := by
    have hbrackets := tokens_brackets rank after
    cases rank with
    | zero => exact absurd hn List.not_mem_nil
    | succ rank =>
      rw [tokens_word hw.ne_nil hw.2 (by rw [hbrackets]; rfl), String.ofList_toList, hbrackets]
  have hmem : n ∈ arraysFrom (.word w :: (bracketTokens rank ++ tokens after)) := by
    have hsub : List.range rank ⊆ List.range (rankOf (bracketTokens rank ++ tokens after)) :=
      List.range_subset.mpr (le_rankOf_bracketTokens rank _)
    rw [arraysFrom, if_pos hw.1]
    exact List.mem_append_left _ (List.map_subset _ hsub hn)
  have hstart : ∀ rest, startsWord (tokens (c :: rest)) = false ∧
      arraysFrom (tokens (c :: rest)) = arraysFrom (tokens rest) := by
    intro rest
    rw [tokens, if_neg (by simp [hc])]
    split
    · exact ⟨startsWord_consBlank _, arraysFrom_consBlank _⟩
    · exact ⟨rfl, rfl⟩
  obtain ⟨ts, hts⟩ := exists_tokens_append before (hstart _).1
  rw [hts]
  refine mem_arraysFrom_append ?_ ts
  rwa [(hstart _).2, hword]

lemma calm_brackets (rank : Nat) : ∀ c ∈ (brackets rank).toList, Calm c := by
  intro c hc
  rcases mem_brackets hc with rfl | rfl <;> decide

lemma segment_array {c : Char} (hc : Calm c) (hword : Text.isWord c = false) {w : String}
    (hw : IsIdentifier w) (rank : Nat) :
    Segment (String.singleton c ++ (w ++ brackets rank)) (arrayNames w rank) := by
  have hlist : (String.singleton c ++ (w ++ brackets rank)).toList =
      c :: (w.toList ++ (brackets rank).toList) := by simp
  have hcalm : ∀ d ∈ (String.singleton c ++ (w ++ brackets rank)).toList, Calm d := by
    intro d hd
    rw [hlist, List.mem_cons, List.mem_append] at hd
    rcases hd with rfl | hd | hd
    · exact hc
    · exact calm_of_isWord (hw.2 d hd)
    · exact calm_brackets rank d hd
  refine { segment_calm hcalm with shows := fun before after n hn => ?_ }
  rw [bare_calm hcalm, hlist, List.cons_append, List.append_assoc]
  exact mem_arraysFrom_tokens hword hw hn before after

end Segments

end HubProxy.Proofs
