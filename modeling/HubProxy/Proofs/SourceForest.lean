import HubProxy.Proofs.EmittedFile
import HubProxy.Proofs.StrippedSource

/-!
# Source as a forest

Source is a forest of namespaces with declarations, arrays, blocks and other code in them. It is
written as lexemes with any white space between them. Its tokens are known but for white space.
-/

namespace HubProxy.Proofs

open CSharp

section Lexemes

/-- A piece of source with no white space inside it. A dotted name is one piece. -/
inductive Lexeme where
  | dotted (first : String) (more : List String)
  | mark (c : Char)

namespace Lexeme

def word (w : String) : Lexeme :=
  .dotted w []

def WellFormed : Lexeme → Prop
  | .dotted first more => IsWord first ∧ ∀ w ∈ more, IsWord w
  | .mark c => isMark c = true

end Lexeme

/-- The texts of lexemes with white space between them. No word character follows a word. -/
inductive Spelled : List Lexeme → List Char → Prop
  | done : Spelled [] []
  | blank {c : Char} {ls : List Lexeme} {cs : List Char} (hc : Text.isBlank c = true)
      (h : Spelled ls cs) : Spelled ls (c :: cs)
  | mark {c : Char} {ls : List Lexeme} {cs : List Char} (h : Spelled ls cs) :
      Spelled (.mark c :: ls) (c :: cs)
  | dotted {first : String} {more : List String} {ls : List Lexeme} {cs : List Char}
      (hcs : ∀ c ∈ cs.head?, Text.isWord c = false) (h : Spelled ls cs) :
      Spelled (.dotted first more :: ls) ((first ++ dotText more).toList ++ cs)

def spaced : List Lexeme → List Char
  | [] => []
  | .mark c :: ls => c :: ' ' :: spaced ls
  | .dotted first more :: ls => (first ++ dotText more).toList ++ ' ' :: spaced ls

lemma spelled_spaced (ls : List Lexeme) : Spelled ls (spaced ls) := by
  induction ls with
  | nil => exact .done
  | cons l ls ih =>
    have hspace : Spelled ls (' ' :: spaced ls) := ih.blank (by decide)
    cases l with
    | mark c => exact hspace.mark
    | dotted first more =>
      refine hspace.dotted fun c hc => ?_
      obtain rfl : ' ' = c := Option.some.inj hc
      decide

/-- The tokens of lexemes in front of others, with white space between them or not. -/
inductive Laid (after : List Token) : List Lexeme → List Token → Prop
  | done : Laid after [] after
  | blank {ls : List Lexeme} {ts : List Token} (hts : startsBlank ts = false)
      (h : Laid after ls ts) : Laid after ls (.blank :: ts)
  | mark {c : Char} {ls : List Lexeme} {ts : List Token} (h : Laid after ls ts) :
      Laid after (.mark c :: ls) (.mark c :: ts)
  | dotted {first : String} {more : List String} {ls : List Lexeme} {ts : List Token}
      (hts : startsWord ts = false) (h : Laid after ls ts) :
      Laid after (.dotted first more :: ls) (.word first :: (dotTokens more ++ ts))

lemma not_isWord_of_isBlank {c : Char} (hc : Text.isBlank c = true) : Text.isWord c = false := by
  have hall : ∀ range ∈ Text.blankRanges, ∀ k < range.2 + 1 - range.1,
      Text.isWord (Char.ofNat (range.1 + k)) = false := by decide +kernel
  rw [Text.isBlank, Text.inRanges, List.any_eq_true] at hc
  obtain ⟨⟨low, high⟩, hrange, hin⟩ := hc
  simp only [Bool.and_eq_true, decide_eq_true_eq] at hin
  have hchar := hall _ hrange (c.toNat - low) (by simp only; omega)
  rwa [Nat.add_sub_cancel' hin.1, Char.ofNat_toNat] at hchar

lemma startsWord_tokens {cs : List Char} (hcs : ∀ c ∈ cs.head?, Text.isWord c = false) :
    startsWord (tokens cs) = false := by
  cases cs with
  | nil => rfl
  | cons c cs =>
    rw [tokens, if_neg (by simp [hcs c rfl])]
    split
    · have hblank := startsBlank_consBlank (tokens cs)
      cases hts : Token.consBlank (tokens cs) with
      | nil => rfl
      | cons t ts =>
        cases t with
        | word w =>
          rw [hts] at hblank
          cases hblank
        | _ => rfl
    · rfl

variable {after ts : List Token} {ls ms : List Lexeme}

lemma Spelled.laid {cs : List Char} (h : Spelled ls cs) (hls : ∀ l ∈ ls, l.WellFormed) :
    Laid [] ls (tokens cs) := by
  induction h with
  | done => exact .done
  | blank hc h ih =>
    rw [tokens, if_neg (by simp [not_isWord_of_isBlank hc]), if_pos hc]
    have hlaid := ih hls
    cases hstart : startsBlank (tokens _) with
    | true => rwa [consBlank_of_startsBlank hstart]
    | false =>
      rw [consBlank_eq_cons hstart]
      exact hlaid.blank hstart
  | @mark c _ _ h ih =>
    have hc : isMark c = true := hls _ List.mem_cons_self
    simp only [isMark, Bool.and_eq_true, Bool.not_eq_true'] at hc
    rw [tokens, if_neg (by simp [hc.1]), if_neg (by simp [hc.2])]
    exact (ih fun l hl => hls l (List.mem_cons_of_mem _ hl)).mark
  | @dotted first more _ _ hcs h ih =>
    have hword : IsWord first ∧ ∀ w ∈ more, IsWord w := hls _ List.mem_cons_self
    have hstart := startsWord_tokens hcs
    rw [tokens_dotted hword.1 hword.2 hstart]
    exact (ih fun l hl => hls l (List.mem_cons_of_mem _ hl)).dotted hstart

lemma Laid.split (h : Laid after (ls ++ ms) ts) : ∃ mid, Laid mid ls ts ∧ Laid after ms mid := by
  generalize hall : ls ++ ms = all at h
  induction h generalizing ls with
  | done =>
    obtain ⟨rfl, rfl⟩ := List.append_eq_nil_iff.mp hall
    exact ⟨after, .done, .done⟩
  | blank hts h ih =>
    obtain ⟨mid, hfront, hback⟩ := ih hall
    exact ⟨mid, hfront.blank hts, hback⟩
  | mark h ih =>
    cases ls with
    | nil =>
      obtain rfl : ms = _ := hall
      exact ⟨_, .done, h.mark⟩
    | cons l ls =>
      obtain ⟨rfl, hrest⟩ := List.cons.inj hall
      obtain ⟨mid, hfront, hback⟩ := ih hrest
      exact ⟨mid, hfront.mark, hback⟩
  | dotted hts h ih =>
    cases ls with
    | nil =>
      obtain rfl : ms = _ := hall
      exact ⟨_, .done, h.dotted hts⟩
    | cons l ls =>
      obtain ⟨rfl, hrest⟩ := List.cons.inj hall
      obtain ⟨mid, hfront, hback⟩ := ih hrest
      exact ⟨mid, hfront.dotted hts, hback⟩

lemma startsBlank_of_append {us : List Token} (h : startsBlank (us ++ after) = false) :
    startsBlank us = false := by
  cases us with
  | nil => rfl
  | cons u us => cases u <;> first | rfl | exact h

lemma startsWord_of_append {us : List Token} (h : startsWord (us ++ after) = false) :
    startsWord us = false := by
  cases us with
  | nil => rfl
  | cons u us => cases u <;> first | rfl | exact h

lemma Laid.alone (h : Laid after ls ts) : ∃ front, ts = front ++ after ∧ Laid [] ls front := by
  induction h with
  | done => exact ⟨[], rfl, .done⟩
  | blank hts h ih =>
    obtain ⟨front, rfl, hfront⟩ := ih
    exact ⟨.blank :: front, rfl, hfront.blank (startsBlank_of_append hts)⟩
  | mark h ih =>
    obtain ⟨front, rfl, hfront⟩ := ih
    exact ⟨_, rfl, hfront.mark⟩
  | dotted hts h ih =>
    obtain ⟨front, rfl, hfront⟩ := ih
    refine ⟨_, ?_, hfront.dotted (startsWord_of_append hts)⟩
    rw [List.cons_append, List.append_assoc]

lemma Laid.absorb (h : Laid (.blank :: after) ls ts) (hafter : startsBlank after = false) :
    Laid after ls ts := by
  induction h with
  | done => exact Laid.done.blank hafter
  | blank hts _ ih => exact ih.blank hts
  | mark _ ih => exact ih.mark
  | dotted hts _ ih => exact ih.dotted hts

lemma Laid.length_le (h : Laid after ls ts) : after.length ≤ ts.length := by
  obtain ⟨front, rfl, -⟩ := h.alone
  rw [List.length_append]
  exact Nat.le_add_left _ _

lemma skipBlank_of_startsBlank (h : startsBlank ts = false) : skipBlank ts = ts := by
  cases ts with
  | nil => rfl
  | cons t ts => cases t <;> first | rfl | cases h

lemma Laid.cons_mark {c : Char} (h : Laid after (.mark c :: ls) ts) :
    ∃ us, skipBlank ts = .mark c :: us ∧ Laid after ls us := by
  cases h with
  | mark h => exact ⟨_, rfl, h⟩
  | blank hts h => cases h with
    | mark h => exact ⟨_, rfl, h⟩
    | blank => cases hts

lemma Laid.split_mark {c : Char} (h : Laid after (ls ++ .mark c :: ms) ts) :
    ∃ us, Laid (.mark c :: us) ls ts ∧ Laid after ms us := by
  obtain ⟨mid, hfront, hback⟩ := h.split
  -- white space in front of the mark goes with the lexemes before it
  cases hback with
  | mark hback => exact ⟨_, hfront, hback⟩
  | blank hmid hback => cases hback with
    | mark hback => exact ⟨_, hfront.absorb rfl, hback⟩
    | blank => cases hmid

lemma Laid.nil (h : Laid after [] ts) : skipBlank ts = skipBlank after := by
  cases h with
  | done => rfl
  | blank hts h => cases h with
    | done => exact (skipBlank_of_startsBlank hts).symm
    | blank => cases hts

lemma Laid.cons_dotted {first : String} {more : List String}
    (h : Laid after (.dotted first more :: ls) ts) :
    ∃ us, skipBlank ts = .word first :: (dotTokens more ++ us) ∧ startsWord us = false ∧
      Laid after ls us := by
  cases h with
  | dotted hus h => exact ⟨_, rfl, hus, h⟩
  | blank hts h => cases h with
    | dotted hus h => exact ⟨_, rfl, hus, h⟩
    | blank => cases hts

lemma Laid.apart_dotted {first : String} {more : List String}
    (h : Laid after (.dotted first more :: ls) ts) (hstart : startsWord ts = false) :
    ∃ us, ts = .blank :: .word first :: (dotTokens more ++ us) ∧ startsWord us = false ∧
      Laid after ls us := by
  cases h with
  | dotted => cases hstart
  | blank hts h => cases h with
    | dotted hus h => exact ⟨_, rfl, hus, h⟩
    | blank => cases hts

end Lexemes

section Forests

/-- A name that a type or the base of an array may have. -/
structure SourceName where
  text : String
  identifier : IsIdentifier text
  plain : Plain text

/-- A word of other code: it opens nothing. -/
structure CodeWord where
  text : String
  isWord : IsWord text
  plain : Plain text

/-- A mark of other code, neither a brace nor a bracket. -/
structure CodeMark where
  char : Char
  isMark : isMark char = true
  free : char ∉ ['\x7b', '\x7d', '[', ']']

structure NamespaceName where
  first : String
  more : List String
  identifiers : ∀ w ∈ first :: more, IsIdentifier w

def NamespaceName.text (name : NamespaceName) : String :=
  name.first ++ dotText name.more

inductive TypeKind where
  | cls
  | interface
  | struct
  | enum
  | record
  | recordClass
  | recordStruct

namespace TypeKind

def opener : TypeKind → String
  | .cls => "class"
  | .interface => "interface"
  | .struct => "struct"
  | .enum => "enum"
  | .record | .recordClass | .recordStruct => "record"

def second? : TypeKind → Option String
  | .recordClass => some "class"
  | .recordStruct => some "struct"
  | _ => none

def lexemes (kind : TypeKind) : List Lexeme :=
  .word kind.opener :: kind.second?.toList.map .word

end TypeKind

def bracketLexemes : Nat → List Lexeme
  | 0 => []
  | rank + 1 => .mark '[' :: .mark ']' :: bracketLexemes rank

/-- Pieces of source one after another. The body of a type is a block after its head. -/
inductive Forest where
  | done
  | word (w : CodeWord) (rest : Forest)
  | mark (c : CodeMark) (rest : Forest)
  | declares (kind : TypeKind) (name : SourceName) (rest : Forest)
  | array (base : SourceName) (rank : Nat) (rest : Forest)
  | block (body rest : Forest)
  | scope (name : NamespaceName) (body rest : Forest)

/-- A namespace of a forest: the namespaces around it, outermost first, its own name and the names
in its whole subtree. -/
structure NamespaceNode where
  around : List String
  name : String
  names : List String

def NamespaceNode.path (node : NamespaceNode) : String :=
  ".".intercalate (node.around ++ [node.name])

namespace Forest

def lexemes : Forest → List Lexeme
  | .done => []
  | .word w rest => .word w.text :: rest.lexemes
  | .mark c rest => .mark c.char :: rest.lexemes
  | .declares kind name rest => kind.lexemes ++ .word name.text :: rest.lexemes
  | .array base rank rest => .word base.text :: (bracketLexemes rank ++ rest.lexemes)
  | .block body rest => .mark '\x7b' :: (body.lexemes ++ .mark '\x7d' :: rest.lexemes)
  | .scope name body rest => .word "namespace" :: .dotted name.first name.more ::
      .mark '\x7b' :: (body.lexemes ++ .mark '\x7d' :: rest.lexemes)

/-- The names of the types that are declared anywhere in the forest. -/
def declared : Forest → List String
  | .done => []
  | .word _ rest | .mark _ rest | .array _ _ rest => rest.declared
  | .declares _ name rest => name.text :: rest.declared
  | .block body rest | .scope _ body rest => body.declared ++ rest.declared

/-- The arrays anywhere in the forest, each with those of lower rank. -/
def arrays : Forest → List String
  | .done => []
  | .word _ rest | .mark _ rest | .declares _ _ rest => rest.arrays
  | .array base rank rest => arrayNames base.text rank ++ rest.arrays
  | .block body rest | .scope _ body rest => body.arrays ++ rest.arrays

def names (forest : Forest) : List String :=
  forest.declared ++ forest.arrays

/-- The namespaces of a forest that stands inside others. -/
def nodes (around : List String) : Forest → List NamespaceNode
  | .done => []
  | .word _ rest | .mark _ rest | .declares _ _ rest | .array _ _ rest => rest.nodes around
  | .block body rest => body.nodes around ++ rest.nodes around
  | .scope name body rest =>
    ⟨around, name.text, body.names⟩ :: (body.nodes (around ++ [name.text]) ++ rest.nodes around)

end Forest

/-- A source file: a forest, or one with a namespace from some place on to the end of the file. -/
inductive SourceFile where
  | blocks (body : Forest)
  | headed (front : Forest) (name : NamespaceName) (body : Forest)

namespace SourceFile

def lexemes : SourceFile → List Lexeme
  | .blocks body => body.lexemes
  | .headed front name body => front.lexemes ++ .word "namespace" ::
      .dotted name.first name.more :: .mark ';' :: body.lexemes

def nodes : SourceFile → List NamespaceNode
  | .blocks body => body.nodes []
  | .headed front name body =>
    front.nodes [] ++ ⟨[], name.text, body.names⟩ :: body.nodes [name.text]

end SourceFile

lemma NamespaceName.wellFormed (name : NamespaceName) :
    (Lexeme.dotted name.first name.more).WellFormed :=
  ⟨(name.identifiers _ List.mem_cons_self).isWord,
    fun w hw => (name.identifiers w (List.mem_cons_of_mem _ hw)).isWord⟩

lemma wellFormed_word {w : String} (hw : IsWord w) : (Lexeme.word w).WellFormed :=
  ⟨hw, fun _ h => absurd h List.not_mem_nil⟩

lemma TypeKind.wellFormed (kind : TypeKind) : ∀ l ∈ kind.lexemes, l.WellFormed := by
  have hopener : IsWord kind.opener := by cases kind <;> decide
  have hsecond : ∀ s ∈ kind.second?, IsWord s := by cases kind <;> decide
  intro l hl
  rcases List.mem_cons.mp hl with rfl | hl
  · exact wellFormed_word hopener
  · obtain ⟨s, hs, rfl⟩ := List.mem_map.mp hl
    exact wellFormed_word (hsecond s (by simpa using hs))

lemma wellFormed_brackets (rank : Nat) : ∀ l ∈ bracketLexemes rank, l.WellFormed := by
  have hmarks : isMark '[' = true ∧ isMark ']' = true := by decide
  induction rank with
  | zero => exact fun _ h => absurd h List.not_mem_nil
  | succ rank ih =>
    intro l hl
    rcases List.mem_cons.mp hl with rfl | hl
    · exact hmarks.1
    rcases List.mem_cons.mp hl with rfl | hl
    · exact hmarks.2
    · exact ih l hl

lemma Forest.wellFormed (forest : Forest) : ∀ l ∈ forest.lexemes, l.WellFormed := by
  have hbraces : isMark '\x7b' = true ∧ isMark '\x7d' = true := by decide
  have hkeyword : (Lexeme.word "namespace").WellFormed := wellFormed_word (by decide)
  induction forest with
  | done => exact fun _ h => absurd h List.not_mem_nil
  | word w rest ih => exact List.forall_mem_cons.mpr ⟨wellFormed_word w.isWord, ih⟩
  | mark c rest ih => exact List.forall_mem_cons.mpr ⟨c.isMark, ih⟩
  | declares kind name rest ih =>
    exact List.forall_mem_append.mpr ⟨kind.wellFormed,
      List.forall_mem_cons.mpr ⟨wellFormed_word name.identifier.isWord, ih⟩⟩
  | array base rank rest ih =>
    exact List.forall_mem_cons.mpr ⟨wellFormed_word base.identifier.isWord,
      List.forall_mem_append.mpr ⟨wellFormed_brackets rank, ih⟩⟩
  | block body rest ihbody ihrest =>
    exact List.forall_mem_cons.mpr ⟨hbraces.1, List.forall_mem_append.mpr
      ⟨ihbody, List.forall_mem_cons.mpr ⟨hbraces.2, ihrest⟩⟩⟩
  | scope name body rest ihbody ihrest =>
    exact List.forall_mem_cons.mpr ⟨hkeyword, List.forall_mem_cons.mpr ⟨name.wellFormed,
      List.forall_mem_cons.mpr ⟨hbraces.1, List.forall_mem_append.mpr
        ⟨ihbody, List.forall_mem_cons.mpr ⟨hbraces.2, ihrest⟩⟩⟩⟩⟩

lemma SourceFile.wellFormed (file : SourceFile) : ∀ l ∈ file.lexemes, l.WellFormed := by
  cases file with
  | blocks body => exact body.wellFormed
  | headed front name body =>
    have hend : isMark ';' = true := by decide
    exact List.forall_mem_append.mpr ⟨front.wellFormed, List.forall_mem_cons.mpr
      ⟨wellFormed_word (by decide), List.forall_mem_cons.mpr ⟨name.wellFormed,
        List.forall_mem_cons.mpr ⟨hend, body.wellFormed⟩⟩⟩⟩

end Forests

end HubProxy.Proofs
