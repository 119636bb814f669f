import HubProxy.CSharp.Emit
import HubProxy.Proofs.LexicalSegments

/-!
# Rendered literals

In a literal every backslash and every quote has a backslash in front of it, and who reads a literal
takes a backslash together with the character after it. Both keep in step, however many backslashes
stand before a quote or at the end of the text: a literal ends at its own last quote, whatever comes
after it, and the text is read back from it.
-/

namespace HubProxy.Proofs

open CSharp

/-- A text with a backslash in front of every occurrence of a character. -/
def slashBefore (mark : Char) (cs : List Char) : List Char :=
  cs.flatMap fun c => if c = mark then ['\\', c] else [c]

/-- Undoes escapes: a backslash stands for the character after it. -/
def unescape : List Char → List Char
  | [] => []
  | '\\' :: c :: rest => c :: unescape rest
  | c :: rest => c :: unescape rest

/-- The body of the literal of a text: backslashes are escaped first, quotes after them. -/
def literalBody (cs : List Char) : List Char :=
  slashBefore '"' (slashBefore '\\' cs)

lemma slashBefore_cons (mark c : Char) (cs : List Char) :
    slashBefore mark (c :: cs) = (if c = mark then ['\\', c] else [c]) ++ slashBefore mark cs := rfl

/-- The two passes come to one. The second one leaves alone what the first one has added. -/
lemma literalBody_eq (cs : List Char) : literalBody cs = cs.flatMap escapeLiteralChar := by
  induction cs with
  | nil => rfl
  | cons c cs ih =>
    rw [List.flatMap_cons, ← ih, literalBody, slashBefore_cons, escapeLiteralChar]
    by_cases hslash : c = '\\'
    · simp [hslash, slashBefore_cons, literalBody]
    · by_cases hquote : c = '"' <;> simp [hslash, hquote, slashBefore_cons, literalBody]

lemma literalBody_cons_escaped {c : Char} (hc : c = '\\' ∨ c = '"') (cs : List Char) :
    literalBody (c :: cs) = '\\' :: c :: literalBody cs := by
  rw [literalBody_eq, literalBody_eq, List.flatMap_cons, escapeLiteralChar, if_pos hc]
  rfl

lemma literalBody_cons_plain {c : Char} (hc : ¬(c = '\\' ∨ c = '"')) (cs : List Char) :
    literalBody (c :: cs) = c :: literalBody cs := by
  rw [literalBody_eq, literalBody_eq, List.flatMap_cons, escapeLiteralChar, if_neg hc]
  rfl

lemma toList_renderLiteral (value : String) :
    (renderLiteral value).toList = '"' :: (literalBody value.toList ++ ['"']) := by
  simp [renderLiteral, literalBody_eq]

lemma unescape_cons_of_ne {c : Char} (hc : c ≠ '\\') (cs : List Char) :
    unescape (c :: cs) = c :: unescape cs := by
  rw [unescape]
  exact fun _ _ hslash => absurd hslash hc

lemma unescape_literalBody (cs : List Char) : unescape (literalBody cs) = cs := by
  induction cs with
  | nil => rfl
  | cons c cs ih =>
    by_cases hc : c = '\\' ∨ c = '"'
    · rw [literalBody_cons_escaped hc, unescape, ih]
    · rw [literalBody_cons_plain hc, unescape_cons_of_ne (not_or.mp hc).1, ih]

lemma isLiteralBody_literalBody {cs : List Char} (hcs : '\n' ∉ cs) :
    isLiteralBody '"' (literalBody cs) = true := by
  induction cs with
  | nil => rfl
  | cons c cs ih =>
    rw [List.mem_cons, not_or] at hcs
    by_cases hc : c = '\\' ∨ c = '"'
    · rw [literalBody_cons_escaped hc, isLiteralBody, ih hcs.2]
      simpa using Ne.symm hcs.1
    · rw [literalBody_cons_plain hc, isLiteralBody, ih hcs.2]
      · simpa [Ne.symm hcs.1, and_comm] using hc
      · exact fun _ _ hslash => absurd hslash (not_or.mp hc).1

lemma feed_not_mem_literalBody {cs : List Char} (hcs : '\n' ∉ cs) : '\n' ∉ literalBody cs := by
  induction cs with
  | nil => exact List.not_mem_nil
  | cons c cs ih =>
    rw [List.mem_cons, not_or] at hcs
    by_cases hc : c = '\\' ∨ c = '"'
    · rw [literalBody_cons_escaped hc]
      simpa using ⟨hcs.1, ih hcs.2⟩
    · rw [literalBody_cons_plain hc]
      simpa using ⟨hcs.1, ih hcs.2⟩

lemma map_blank_of_feedless {cs : List Char} (hcs : '\n' ∉ cs) :
    cs.map blank = List.replicate cs.length ' ' := by
  rw [List.map_eq_replicate_iff]
  exact fun c hc => if_neg (ne_of_mem_of_not_mem hc hcs)

/-- Stripping turns a literal into spaces and goes on behind it as if the source started there. -/
lemma strip_renderLiteral_append {value : String} (hvalue : '\n' ∉ value.toList) (s : String) :
    strip (renderLiteral value ++ s) =
      String.ofList (List.replicate (renderLiteral value).length ' ') ++ strip s := by
  have hbody := stripFrom_literalBody s.toList (.inl rfl) (isLiteralBody_literalBody hvalue)
  have hlength : (renderLiteral value).length = (literalBody value.toList).length + 2 := by
    rw [← String.length_toList, toList_renderLiteral]
    simp
  have hopen : stripFrom .code ('"' :: (literalBody value.toList ++ '"' :: s.toList)) =
      ' ' :: stripFrom (.quoted '"') (literalBody value.toList ++ '"' :: s.toList) := by
    simp [stripFrom]
  have hspaces : List.replicate ((literalBody value.toList).length + 2) ' ' =
      ' ' :: (List.replicate (literalBody value.toList).length ' ' ++ [' ']) := by
    rw [List.replicate_succ, List.replicate_succ']
  rw [strip, strip, String.toList_append, toList_renderLiteral, hlength, hspaces, List.cons_append,
    List.append_assoc, List.singleton_append, hopen, hbody,
    map_blank_of_feedless (feed_not_mem_literalBody hvalue), ← String.ofList_append,
    List.cons_append, List.append_assoc, List.singleton_append]

/-- The literal of a text is the text with its escapes between quotes. The escapes can be undone, so
different texts have different literals, and without a line feed the literal is lexed as one. -/
theorem literal_is_lexed_alone (value : String) :
    (renderExpression (.literal value)).toList = '"' :: (literalBody value.toList ++ ['"']) ∧
    unescape (literalBody value.toList) = value.toList ∧
    (∀ other, renderExpression (.literal other) = renderExpression (.literal value) →
      other = value) ∧
    ('\n' ∉ value.toList → ∀ s, strip (renderExpression (.literal value) ++ s) =
      String.ofList (List.replicate (renderExpression (.literal value)).length ' ') ++ strip s) := by
  simp only [renderExpression]
  refine ⟨toList_renderLiteral value, unescape_literalBody _, fun other heq => ?_,
    strip_renderLiteral_append⟩
  have hbodies : literalBody other.toList = literalBody value.toList := by
    have hlists := congrArg String.toList heq
    rw [toList_renderLiteral, toList_renderLiteral] at hlists
    exact List.append_cancel_right (List.cons.inj hlists).2
  have hvalues := congrArg unescape hbodies
  rw [unescape_literalBody, unescape_literalBody] at hvalues
  exact String.toList_inj.mp hvalues

/-- A text with backslashes before a quote and at its end. -/
def slashedText : String := "C:\\\\\"x\\"

theorem literal_is_lexed_alone_slashedText : '\n' ∉ slashedText.toList ∧
    renderExpression (.literal slashedText) = "\"C:\\\\\\\\\\\"x\\\\\"" ∧
    unescape (literalBody slashedText.toList) = slashedText.toList ∧
    strip (renderExpression (.literal slashedText) ++ ", \"a\"); // b") =
      "             " ++ ",    );     " := by
  obtain ⟨-, hunescape, -, hstrip⟩ := literal_is_lexed_alone slashedText
  have hfeed : '\n' ∉ slashedText.toList := by decide
  refine ⟨hfeed, by decide, hunescape, ?_⟩
  rw [hstrip hfeed]
  decide

end HubProxy.Proofs
