import HubProxy.Proofs.StrippedSource

/-!
# Lexical segments

Source is a sequence of comments, literals and stretches of code. Stripping finds the end of every
segment: code stays, and each other segment becomes white space of the same shape.
-/

namespace HubProxy.Proofs

open CSharp

/-- A stretch of source that is lexed as a whole. The bodies are given as they are written, with
their escapes. -/
inductive LexicalSegment where
  | lineComment (body : List Char) (ended : Bool)
  | blockComment (body : List Char)
  | literal (delimiter : Char) (body : List Char)
  | verbatim (body : List Char)
  | code (text : List Char)
  deriving DecidableEq

/-- What may stand in a regular literal. A backslash takes the next character with it. -/
def isLiteralBody (q : Char) : List Char → Bool
  | [] => true
  | '\\' :: c :: rest => c != '\n' && isLiteralBody q rest
  | c :: rest => c != q && c != '\\' && c != '\n' && isLiteralBody q rest

/-- What may stand in a verbatim literal, in which quotes are doubled. -/
def isVerbatimBody : List Char → Bool
  | [] => true
  | '"' :: '"' :: rest => isVerbatimBody rest
  | c :: rest => c != '"' && isVerbatimBody rest

namespace LexicalSegment

def text : LexicalSegment → List Char
  | lineComment body ended => '/' :: '/' :: (body ++ if ended then ['\n'] else [])
  | blockComment body => '/' :: '*' :: (body ++ ['*', '/'])
  | literal delimiter body => delimiter :: (body ++ [delimiter])
  | verbatim body => '@' :: '"' :: (body ++ ['"'])
  | code text => text

/-- What stripping is to leave of a segment. -/
def stripped : LexicalSegment → List Char
  | code text => text
  | s => s.text.map blank

/-- Whether a segment ends where it seems to. -/
def WellFormed : LexicalSegment → Prop
  | lineComment body _ => '\n' ∉ body
  | blockComment body => ¬['*', '/'] <:+: body
  | literal delimiter body =>
    (delimiter = '"' ∨ delimiter = '\'') ∧ isLiteralBody delimiter body = true
  | verbatim body => isVerbatimBody body = true
  | code text => CodeOnly text

/-- Whether a segment is told apart from those that come after it. -/
def EndsBefore (rest : List LexicalSegment) : LexicalSegment → Prop
  | lineComment _ ended => ended = true ∨ rest.flatMap text = []
  | verbatim _ => (rest.flatMap text).head? ≠ some '"'
  | code text => rest = [] ∨ text.getLast? ≠ some '/' ∧ text.getLast? ≠ some '@'
  | _ => True

instance : DecidablePred WellFormed
  | lineComment body _ => inferInstanceAs (Decidable ('\n' ∉ body))
  | blockComment body => inferInstanceAs (Decidable ¬['*', '/'] <:+: body)
  | literal delimiter body => inferInstanceAs
    (Decidable ((delimiter = '"' ∨ delimiter = '\'') ∧ isLiteralBody delimiter body = true))
  | verbatim body => inferInstanceAs (Decidable (isVerbatimBody body = true))
  | code text => inferInstanceAs (Decidable (CodeOnly text))

instance (rest : List LexicalSegment) : DecidablePred (EndsBefore rest)
  | lineComment _ ended => inferInstanceAs (Decidable (ended = true ∨ rest.flatMap text = []))
  | verbatim _ => inferInstanceAs (Decidable ((rest.flatMap text).head? ≠ some '"'))
  | code text => inferInstanceAs
    (Decidable (rest = [] ∨ text.getLast? ≠ some '/' ∧ text.getLast? ≠ some '@'))
  | blockComment _ => .isTrue trivial
  | literal _ _ => .isTrue trivial

end LexicalSegment

/-- Segments of which each is well-formed and told apart from the next ones. -/
def Delimited : List LexicalSegment → Prop
  | [] => True
  | s :: rest => s.WellFormed ∧ s.EndsBefore rest ∧ Delimited rest

instance decidableDelimited : DecidablePred Delimited
  | [] => .isTrue trivial
  | s :: rest =>
    have := decidableDelimited rest
    inferInstanceAs (Decidable (s.WellFormed ∧ s.EndsBefore rest ∧ Delimited rest))

section Segments

variable {body : List Char} (rest : List Char)

lemma stripFrom_lineComment (hbody : '\n' ∉ body) :
    stripFrom .lineComment (body ++ '\n' :: rest) =
      body.map blank ++ '\n' :: stripFrom .code rest := by
  induction body with
  | nil => rw [List.nil_append, stripFrom, if_pos rfl]; rfl
  | cons c body ih =>
    rw [List.mem_cons, not_or] at hbody
    rw [List.cons_append, stripFrom, if_neg (Ne.symm hbody.1), ih hbody.2, List.map_cons, blank,
      if_neg (Ne.symm hbody.1)]
    rfl

/-- A comment in the last line may have no line feed. -/
lemma stripFrom_lastComment (hbody : '\n' ∉ body) :
    stripFrom .lineComment body = body.map blank := by
  induction body with
  | nil => rfl
  | cons c body ih =>
    rw [List.mem_cons, not_or] at hbody
    rw [stripFrom, if_neg (Ne.symm hbody.1), ih hbody.2, List.map_cons, blank,
      if_neg (Ne.symm hbody.1)]

lemma stripFrom_blockComment (hbody : ¬['*', '/'] <:+: body) :
    stripFrom .blockComment (body ++ '*' :: '/' :: rest) =
      body.map blank ++ ' ' :: ' ' :: stripFrom .code rest := by
  induction body with
  | nil => rw [List.nil_append, stripFrom]; rfl
  | cons c body ih =>
    rw [pair_infix_cons, not_or] at hbody
    rw [List.cons_append, stripFrom, ih hbody.2]
    · rfl
    · rintro after rfl hafter
      cases body with
      | nil => cases hafter
      | cons d body => exact hbody.1 ⟨rfl, congrArg some (List.cons.inj hafter).1⟩

lemma stripFrom_literalBody {q : Char} (hq : q = '"' ∨ q = '\'')
    (hbody : isLiteralBody q body = true) :
    stripFrom (.quoted q) (body ++ q :: rest) =
      body.map blank ++ ' ' :: stripFrom .code rest := by
  have hne : q ≠ '\\' ∧ blank q = ' ' := by
    rcases hq with rfl | rfl <;> decide
  fun_induction isLiteralBody q body with
  | case1 =>
    rw [List.nil_append, stripFrom, if_pos (.inl rfl), hne.2]
    · rfl
    · exact fun _ _ hc => absurd hc hne.1
  | case2 c body ih =>
    rw [Bool.and_eq_true] at hbody
    rw [List.cons_append, List.cons_append, stripFrom, ih hbody.2]
    rfl
  | case3 c body hescape ih =>
    simp only [Bool.and_eq_true, bne_iff_ne] at hbody
    obtain ⟨⟨⟨hquote, hslash⟩, hfeed⟩, hbody⟩ := hbody
    rw [List.cons_append, stripFrom, if_neg (by simp [hquote, hfeed]), ih hbody]
    · rfl
    · exact fun _ _ hc => absurd hc hslash

lemma stripFrom_verbatim (hbody : isVerbatimBody body = true) (hrest : rest.head? ≠ some '"') :
    stripFrom .verbatim (body ++ '"' :: rest) = body.map blank ++ ' ' :: stripFrom .code rest := by
  fun_induction isVerbatimBody body with
  | case1 =>
    rw [List.nil_append, stripFrom]
    · rfl
    · rintro after rfl
      exact hrest rfl
  | case2 body ih =>
    rw [List.cons_append, List.cons_append, stripFrom, ih hbody]
    rfl
  | case3 c body hdouble ih =>
    rw [Bool.and_eq_true, bne_iff_ne] at hbody
    rw [List.cons_append, stripFrom, ih hbody.2]
    · rfl
    · exact fun _ hc => absurd hc hbody.1
    · exact fun hc => absurd hc hbody.1

/-- Code before other text stays as it is, unless its last character opens something with that. -/
lemma stripFrom_code_append {cs : List Char} (hcs : CodeOnly cs)
    (hlast : rest = [] ∨ cs.getLast? ≠ some '/' ∧ cs.getLast? ≠ some '@') :
    stripFrom .code (cs ++ rest) = cs ++ stripFrom .code rest := by
  rcases hlast with rfl | hlast
  · rw [List.append_nil, stripFrom_eq_self hcs]
    exact (List.append_nil cs).symm
  induction cs with
  | nil => rfl
  | cons c cs ih =>
    have hc := hcs.not_opens
    cases cs with
    | nil =>
      have hkeep : opens c rest.head? = false := by
        have hquotes : c ≠ '"' ∧ c ≠ '\'' := by
          constructor <;> (rintro rfl; cases hc)
        have hmarks : c ≠ '/' ∧ c ≠ '@' := by simpa using hlast
        simp [opens, hquotes, hmarks]
      exact stripFrom_keep hkeep
    | cons d cs =>
      have htail := ih hcs.tail (by simpa [List.getLast?_cons_cons] using hlast)
      have hkeep : stripFrom .code (c :: (d :: cs ++ rest)) =
          c :: stripFrom .code (d :: cs ++ rest) := stripFrom_keep hc
      rw [List.cons_append, hkeep, htail]
      rfl

end Segments

namespace LexicalSegment

lemma stripFrom_append {s : LexicalSegment} {rest : List LexicalSegment} (hs : s.WellFormed)
    (hend : s.EndsBefore rest) :
    stripFrom .code (s.text ++ rest.flatMap text) =
      s.stripped ++ stripFrom .code (rest.flatMap text) := by
  cases s with
  | lineComment body ended =>
    cases ended with
    | true =>
      have hbody := stripFrom_lineComment (rest.flatMap text) hs
      simp [text, stripped, stripFrom, hbody, blank]
    | false =>
      have hempty : rest.flatMap text = [] := by simpa [EndsBefore] using hend
      have hbody := stripFrom_lastComment hs
      simp [text, stripped, stripFrom, hempty, hbody, blank]
  | blockComment body =>
    have hbody := stripFrom_blockComment (rest.flatMap text) hs
    simp [text, stripped, stripFrom, hbody, blank]
  | literal q body =>
    have hbody := stripFrom_literalBody (rest.flatMap text) hs.1 hs.2
    rcases hs.1 with rfl | rfl <;> simp [text, stripped, stripFrom, hbody, blank]
  | verbatim body =>
    have hbody := stripFrom_verbatim (rest.flatMap text) hs hend
    simp [text, stripped, stripFrom, hbody, blank]
  | code cs =>
    refine stripFrom_code_append _ hs (hend.imp_left ?_)
    rintro rfl
    rfl

end LexicalSegment

theorem strip_segments {segments : List LexicalSegment} (h : Delimited segments) :
    strip (String.ofList (segments.flatMap (·.text))) =
      String.ofList (segments.flatMap (·.stripped)) := by
  rw [strip, String.toList_ofList]
  congr 1
  induction segments with
  | nil => rfl
  | cons s segments ih =>
    obtain ⟨hs, hend, hrest⟩ := h
    rw [List.flatMap_cons, LexicalSegment.stripFrom_append hs hend, ih hrest, List.flatMap_cons]

/-- Segments that hold the marks of one another. -/
def mixedSegments : List LexicalSegment :=
  [.code "a = ".toList, .literal '"' "\\\"// \\\\".toList, .code "; ".toList,
    .lineComment " it's @\"open".toList true, .code "b = ".toList, .literal '\'' "\\'".toList,
    .code " / ".toList, .verbatim "C:\\\"\"\n/*".toList, .blockComment "/ \"* //\n*".toList,
    .code "* c".toList, .lineComment "/ /*".toList false]

def mixedText : String :=
  "a = \"\\\"// \\\\\"; // it's @\"open\n" ++
  "b = '\\'' / @\"C:\\\"\"\n" ++
  "/*\"/*/ \"* //\n" ++
  "**/* c/// /*"

theorem strip_mixedSegments : Delimited mixedSegments ∧
    mixedText = String.ofList (mixedSegments.flatMap (·.text)) ∧
    strip mixedText =
      "a =          ;               \n" ++
      "b =      /        \n" ++
      "            \n" ++
      "   * c      " := by
  have hdelimited : Delimited mixedSegments := by decide
  have htext : mixedText = String.ofList (mixedSegments.flatMap (·.text)) := by decide
  refine ⟨hdelimited, htext, ?_⟩
  rw [htext, strip_segments hdelimited]
  decide

end HubProxy.Proofs
