import HubProxy.CSharp.Token
import HubProxy.Proofs.Basic
import HubProxy.Proofs.LexicalSegments

/-!
# Tokens of source text

What the scanner sees of a text in front of another one: words, marks, white space, literals and
comments are read here one at a time, each under a condition on the tokens that come after it.
-/

namespace HubProxy.Proofs

open CSharp (Token Lexical stripFrom tokens)

/-- The tokens of source text without its comments and literals. -/
def code (cs : List Char) : List Token :=
  tokens (stripFrom .code cs)

/-- The characters at which a comment or a literal may start. -/
def opening : List Char := ['/', '"', '\'', '@']

lemma stripFrom_cons {c : Char} (hc : c ∉ opening) (rest : List Char) :
    stripFrom .code (c :: rest) = c :: stripFrom .code rest := by
  simp only [opening, List.mem_cons, List.not_mem_nil, or_false, not_or] at hc
  obtain ⟨hslash, hquote, hsingle, hat⟩ := hc
  rw [stripFrom]
  · simp [hquote, hsingle]
  · exact fun _ h => absurd h hslash
  · exact fun _ h => absurd h hslash
  · exact fun _ h => absurd h hat

lemma stripFrom_append {cs : List Char} (hcs : ∀ c ∈ cs, c ∉ opening) (rest : List Char) :
    stripFrom .code (cs ++ rest) = cs ++ stripFrom .code rest := by
  induction cs with
  | nil => rfl
  | cons c cs ih =>
    rw [List.cons_append, stripFrom_cons (hcs c List.mem_cons_self),
      ih fun d hd => hcs d (List.mem_cons_of_mem c hd), List.cons_append]

lemma not_mem_opening_of_isWord {c : Char} (hc : Text.isWord c = true) : c ∉ opening := by
  intro hmem
  have hnone : ∀ d ∈ opening, Text.isWord d = false := by decide
  rw [hnone c hmem] at hc
  cases hc

lemma code_wordChar {c : Char} (hc : Text.isWord c = true) (rest : List Char) :
    code (c :: rest) = Token.consWord c (code rest) := by
  rw [code, stripFrom_cons (not_mem_opening_of_isWord hc), tokens, if_pos hc]
  rfl

/-- A mark is a character that belongs to no word and is no white space. -/
def isMark (c : Char) : Bool :=
  !Text.isWord c && !Text.isBlank c

lemma code_mark {c : Char} (hc : isMark c = true) (ho : c ∉ opening) (rest : List Char) :
    code (c :: rest) = .mark c :: code rest := by
  simp only [isMark, Bool.and_eq_true, Bool.not_eq_true'] at hc
  rw [code, stripFrom_cons ho, tokens, if_neg (by simp [hc.1]), if_neg (by simp [hc.2])]
  rfl

/-- The white space of generated source. -/
def IsSpace (c : Char) : Prop :=
  c = ' ' ∨ c = '\n'

instance : DecidablePred IsSpace :=
  fun c => inferInstanceAs (Decidable (c = ' ' ∨ c = '\n'))

def startsWord : List Token → Bool
  | .word _ :: _ => true
  | _ => false

def startsBlank : List Token → Bool
  | .blank :: _ => true
  | _ => false

lemma consWord_append {ts after : List Token} (h : startsWord after = false) (c : Char) :
    Token.consWord c (ts ++ after) = Token.consWord c ts ++ after := by
  cases ts with
  | nil =>
    cases after with
    | nil => rfl
    | cons t after =>
      cases t with
      | word => cases h
      | _ => rfl
  | cons t ts => cases t <;> rfl

lemma consBlank_of_startsBlank {ts : List Token} (h : startsBlank ts = true) :
    Token.consBlank ts = ts := by
  cases ts with
  | nil => cases h
  | cons t ts =>
    cases t with
    | blank => rfl
    | _ => cases h

lemma consBlank_eq_cons {ts : List Token} (h : startsBlank ts = false) :
    Token.consBlank ts = .blank :: ts := by
  cases ts with
  | nil => rfl
  | cons t ts =>
    cases t with
    | blank => cases h
    | _ => rfl

lemma startsBlank_consBlank (ts : List Token) : startsBlank (Token.consBlank ts) = true := by
  cases h : startsBlank ts with
  | true => rw [consBlank_of_startsBlank h, h]
  | false =>
    rw [consBlank_eq_cons h]
    rfl

lemma tokens_spaces {cs : List Char} (hne : cs ≠ []) (hcs : ∀ c ∈ cs, IsSpace c)
    (rest : List Char) : tokens (cs ++ rest) = Token.consBlank (tokens rest) := by
  induction cs with
  | nil => exact absurd rfl hne
  | cons c cs ih =>
    have hclass : Text.isWord c = false ∧ Text.isBlank c = true := by
      rcases hcs c List.mem_cons_self with rfl | rfl <;> decide
    rw [List.cons_append, tokens, if_neg (by simp [hclass.1]), if_pos hclass.2]
    by_cases hempty : cs = []
    · rw [hempty]
      rfl
    · rw [ih hempty fun d hd => hcs d (List.mem_cons_of_mem c hd),
        consBlank_of_startsBlank (startsBlank_consBlank _)]

lemma code_spaces {cs : List Char} (hne : cs ≠ []) (hcs : ∀ c ∈ cs, IsSpace c)
    (rest : List Char) : code (cs ++ rest) = Token.consBlank (code rest) := by
  have ho : ∀ c ∈ cs, c ∉ opening := fun c hc => by rcases hcs c hc with rfl | rfl <;> decide
  rw [code, stripFrom_append ho, tokens_spaces hne hcs]
  rfl

lemma tokens_word {cs : List Char} (hne : cs ≠ []) (hcs : ∀ c ∈ cs, Text.isWord c = true)
    {rest : List Char} (hrest : startsWord (tokens rest) = false) :
    tokens (cs ++ rest) = .word (String.ofList cs) :: tokens rest := by
  induction cs with
  | nil => exact absurd rfl hne
  | cons c cs ih =>
    rw [List.cons_append, tokens, if_pos (hcs c List.mem_cons_self)]
    by_cases hempty : cs = []
    · subst hempty
      have hcons : Token.consWord c ([] ++ tokens rest) = Token.consWord c [] ++ tokens rest :=
        consWord_append hrest c
      exact hcons.trans (by rw [← String.singleton_eq_ofList]; rfl)
    · rw [ih hempty fun d hd => hcs d (List.mem_cons_of_mem c hd), Token.consWord,
        String.ofList_cons]

lemma code_word {cs : List Char} (hne : cs ≠ []) (hcs : ∀ c ∈ cs, Text.isWord c = true)
    {rest : List Char} (hrest : startsWord (code rest) = false) :
    code (cs ++ rest) = .word (String.ofList cs) :: code rest := by
  rw [code, stripFrom_append fun c hc => not_mem_opening_of_isWord (hcs c hc)]
  exact tokens_word hne hcs hrest

lemma stripFrom_escaped {cs : List Char} (hcs : ∀ c ∈ cs, Text.isWord c = true) (hne : cs ≠ [])
    (rest : List Char) :
    stripFrom .code ('@' :: (cs ++ rest)) = '@' :: stripFrom .code (cs ++ rest) := by
  obtain ⟨c, cs, rfl⟩ := List.exists_cons_of_ne_nil hne
  have hc : c ≠ '"' := by
    rintro rfl
    have := hcs '"' List.mem_cons_self
    revert this
    decide
  rw [List.cons_append, stripFrom]
  · rfl
  · intro _ h
    cases h
  · intro _ h
    cases h
  · intro _ _ h
    exact hc (List.cons.inj h).1

lemma code_escaped {cs : List Char} (hcs : ∀ c ∈ cs, Text.isWord c = true) (rest : List Char)
    (hne : cs ≠ []) : code ('@' :: (cs ++ rest)) = .mark '@' :: code (cs ++ rest) := by
  rw [code, stripFrom_escaped hcs hne, tokens, if_neg (by decide), if_neg (by decide)]
  rfl

/-- What is left of a literal or a comment is white space. -/
lemma isSpace_blanked {cs : List Char} {d : Char} (hd : IsSpace d) :
    ∀ c ∈ ' ' :: (cs.map CSharp.blank ++ [d]), IsSpace c := by
  intro c hc
  rcases List.mem_cons.mp hc with rfl | hc
  · decide
  rcases List.mem_append.mp hc with hc | hc
  · obtain ⟨e, -, rfl⟩ := List.mem_map.mp hc
    rcases blank_cases e with ⟨-, hblank⟩ | ⟨-, hblank⟩ <;> rw [hblank] <;> decide
  · rwa [List.mem_singleton.mp hc]

lemma isLiteralBody_word {cs : List Char} (hcs : ∀ c ∈ cs, Text.isWord c = true) :
    isLiteralBody '"' cs = true := by
  induction cs with
  | nil => rfl
  | cons c cs ih =>
    have hc := hcs c List.mem_cons_self
    have hne : c ≠ '"' ∧ c ≠ '\\' ∧ c ≠ '\n' := by
      refine ⟨?_, ?_, ?_⟩ <;> (rintro rfl; revert hc; decide)
    rw [isLiteralBody]
    · simp [hne, ih fun d hd => hcs d (List.mem_cons_of_mem c hd)]
    · exact fun _ _ hslash => absurd hslash hne.2.1

lemma stripFrom_literal {cs : List Char} (hcs : ∀ c ∈ cs, Text.isWord c = true)
    (rest : List Char) : stripFrom .code ('"' :: (cs ++ '"' :: rest)) =
      ' ' :: (cs.map CSharp.blank ++ [' ']) ++ stripFrom .code rest := by
  rw [stripFrom, if_pos (by simp), stripFrom_literalBody rest (.inl rfl) (isLiteralBody_word hcs)]
  · simp
  all_goals
    intro _ h
    cases h

/-- A literal of word characters is white space. -/
lemma code_literal {cs : List Char} (hcs : ∀ c ∈ cs, Text.isWord c = true) (rest : List Char) :
    code ('"' :: (cs ++ '"' :: rest)) = Token.consBlank (code rest) := by
  rw [code, stripFrom_literal hcs, tokens_spaces (by simp) (isSpace_blanked (by decide))]
  rfl

/-- A comment that reaches to the end of its line is white space. -/
lemma code_comment {cs : List Char} (hcs : '\n' ∉ cs) (rest : List Char) :
    code ('/' :: '/' :: (cs ++ '\n' :: rest)) = Token.consBlank (code rest) := by
  have hstrip : stripFrom .code ('/' :: '/' :: (cs ++ '\n' :: rest)) =
      ' ' :: (((' ' :: cs).map CSharp.blank) ++ ['\n']) ++ stripFrom .code rest := by
    rw [stripFrom, stripFrom_lineComment rest hcs]
    simp [CSharp.blank]
  rw [code, hstrip, tokens_spaces (by simp) (isSpace_blanked (by decide))]
  rfl

end HubProxy.Proofs
