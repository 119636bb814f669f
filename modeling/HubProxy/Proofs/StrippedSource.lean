import Mathlib.Data.List.Infix
import Mathlib.Tactic.Lemma
import HubProxy.CSharp.Strip

/-!
# Stripped source

Stripping goes through a text character by character. A character at which no comment and no literal
starts may stay, any other one becomes a space, and line feeds always stay. Hence what is left has no
quote and no mark of a comment, and a second pass finds nothing more to blank.
-/

namespace HubProxy.Proofs

open CSharp

/-- Whether a comment or a literal starts at a character, given the one after it. -/
def opens (c : Char) (next : Option Char) : Bool :=
  c == '"' || c == '\'' || (c == '/' && (next == some '/' || next == some '*')) ||
    (c == '@' && next == some '"')

lemma stripFrom_keep {c : Char} {rest : List Char} (h : opens c rest.head? = false) :
    stripFrom .code (c :: rest) = c :: stripFrom .code rest := by
  rw [stripFrom, if_neg]
  · rintro (rfl | rfl) <;> simp [opens] at h
  all_goals
    rintro _ rfl rfl
    simp [opens] at h

/-- How a text is related to what stripping leaves of it. -/
inductive Strips : List Char → List Char → Prop
  | nil : Strips [] []
  | keep {c : Char} {cs ds : List Char} (hc : opens c cs.head? = false) (h : Strips cs ds) :
      Strips (c :: cs) (c :: ds)
  | blank {c : Char} {cs ds : List Char} (h : Strips cs ds) : Strips (c :: cs) (blank c :: ds)

lemma strips_stripFrom (mode : Lexical) (cs : List Char) : Strips cs (stripFrom mode cs) := by
  fun_induction stripFrom mode cs with
  | case1 => exact .nil
  | case2 rest ih | case3 rest ih | case4 rest ih => exact ih.blank.blank
  | case5 c rest _ _ _ hquote ih => rcases hquote with rfl | rfl <;> exact ih.blank
  | case6 c rest hline hblock hverbatim hquote ih =>
    refine .keep ?_ ih
    rw [not_or] at hquote
    cases rest with
    | nil => simp [opens, hquote]
    | cons d rest =>
      have hmarks : (c = '/' → d ≠ '/' ∧ d ≠ '*') ∧ (c = '@' → d ≠ '"') := by
        refine ⟨fun hc => ⟨?_, ?_⟩, fun hc => ?_⟩
        · exact fun hd => hline rest hc (by rw [hd])
        · exact fun hd => hblock rest hc (by rw [hd])
        · exact fun hd => hverbatim rest hc (by rw [hd])
      simpa [opens, hquote] using hmarks
  | case7 rest ih => exact ih.blank
  | case8 c rest hfeed ih =>
    have hspace : blank c = ' ' := if_neg hfeed
    exact hspace ▸ ih.blank
  | case9 rest ih => exact ih.blank.blank
  | case10 c rest _ ih => exact ih.blank
  | case11 rest ih => exact ih.blank.blank
  | case12 rest _ ih => exact ih.blank
  | case13 c rest _ _ ih => exact ih.blank
  | case14 q c rest ih => exact ih.blank.blank
  | case15 q c rest _ _ ih | case16 q c rest _ _ ih => exact ih.blank

lemma blank_cases (c : Char) : c = '\n' ∧ blank c = '\n' ∨ c ≠ '\n' ∧ blank c = ' ' := by
  by_cases hc : c = '\n'
  · exact .inl ⟨hc, if_pos hc⟩
  · exact .inr ⟨hc, if_neg hc⟩

section Positions

variable {cs ds : List Char}

lemma Strips.length_eq (h : Strips cs ds) : ds.length = cs.length := by
  induction h with
  | nil => rfl
  | keep _ _ ih | blank _ ih => simpa using ih

lemma Strips.feed_iff (h : Strips cs ds) (k : Nat) : ds[k]? = some '\n' ↔ cs[k]? = some '\n' := by
  induction h generalizing k with
  | nil => rfl
  | keep _ _ ih => cases k with
    | zero => rfl
    | succ k => exact ih k
  | @blank c _ _ _ ih => cases k with
    | zero =>
      rcases blank_cases c with ⟨rfl, hblank⟩ | ⟨hc, hblank⟩
      · rw [hblank]
        rfl
      · simp [hblank, hc]
    | succ k => exact ih k

lemma Strips.kept (h : Strips cs ds) {k : Nat} {d : Char} (hd : ds[k]? = some d) :
    d = ' ' ∨ cs[k]? = some d := by
  induction h generalizing k with
  | nil => simp at hd
  | keep _ _ ih => cases k with
    | zero => exact .inr hd
    | succ k => exact ih hd
  | @blank c _ _ _ ih => cases k with
    | zero =>
      obtain rfl : CSharp.blank c = d := Option.some.inj hd
      rcases blank_cases c with ⟨rfl, hblank⟩ | ⟨-, hblank⟩
      · exact .inr (congrArg some hblank.symm)
      · exact .inl hblank
    | succ k => exact ih hd

end Positions

/-- Source without quotes and without the marks that open comments. -/
structure CodeOnly (cs : List Char) : Prop where
  double : '"' ∉ cs
  single : '\'' ∉ cs
  line : ¬['/', '/'] <:+: cs
  block : ¬['/', '*'] <:+: cs

instance : DecidablePred CodeOnly := fun cs =>
  decidable_of_iff ('"' ∉ cs ∧ '\'' ∉ cs ∧ ¬['/', '/'] <:+: cs ∧ ¬['/', '*'] <:+: cs)
    ⟨fun ⟨hdouble, hsingle, hline, hblock⟩ => ⟨hdouble, hsingle, hline, hblock⟩,
      fun h => ⟨h.double, h.single, h.line, h.block⟩⟩

section CodeOnly

variable {c : Char} {cs ds : List Char}

lemma pair_infix_cons (a b : Char) :
    [a, b] <:+: c :: cs ↔ (c = a ∧ cs.head? = some b) ∨ [a, b] <:+: cs := by
  rw [List.infix_cons_iff, List.cons_prefix_cons]
  cases cs with
  | nil => simp
  | cons d cs => simp [eq_comm]

lemma CodeOnly.tail (h : CodeOnly (c :: cs)) : CodeOnly cs :=
  ⟨fun hmem => h.double (List.mem_cons_of_mem c hmem),
    fun hmem => h.single (List.mem_cons_of_mem c hmem),
    fun hmem => h.line ((pair_infix_cons _ _).mpr (.inr hmem)),
    fun hmem => h.block ((pair_infix_cons _ _).mpr (.inr hmem))⟩

lemma CodeOnly.not_opens (h : CodeOnly (c :: cs)) : opens c cs.head? = false := by
  have hquotes : c ≠ '"' ∧ c ≠ '\'' :=
    ⟨fun hc => h.double (hc ▸ List.mem_cons_self), fun hc => h.single (hc ▸ List.mem_cons_self)⟩
  have hline : ¬(c = '/' ∧ cs.head? = some '/') := fun hc =>
    h.line ((pair_infix_cons _ _).mpr (.inl hc))
  have hblock : ¬(c = '/' ∧ cs.head? = some '*') := fun hc =>
    h.block ((pair_infix_cons _ _).mpr (.inl hc))
  have hverbatim : cs.head? ≠ some '"' := fun hhead =>
    h.tail.double (List.mem_of_mem_head? hhead)
  simp only [opens, Bool.or_eq_false_iff, Bool.and_eq_false_imp, beq_iff_eq, beq_eq_false_iff_ne]
  exact ⟨⟨hquotes, fun hc => ⟨fun hhead => hline ⟨hc, hhead⟩, fun hhead => hblock ⟨hc, hhead⟩⟩⟩,
    fun _ => hverbatim⟩

lemma CodeOnly.cons (h : CodeOnly cs) (hc : opens c cs.head? = false) : CodeOnly (c :: cs) := by
  simp only [opens, Bool.or_eq_false_iff, Bool.and_eq_false_imp, beq_iff_eq, beq_eq_false_iff_ne] at hc
  obtain ⟨⟨⟨hdouble, hsingle⟩, hslash⟩, -⟩ := hc
  refine ⟨?_, ?_, ?_, ?_⟩
  · simp [h.double, hdouble.symm]
  · simp [h.single, hsingle.symm]
  · rw [pair_infix_cons]
    exact fun hpair => hpair.elim (fun ⟨hc, hhead⟩ => (hslash hc).1 hhead) h.line
  · rw [pair_infix_cons]
    exact fun hpair => hpair.elim (fun ⟨hc, hhead⟩ => (hslash hc).2 hhead) h.block

/-- Code stays as it is. -/
lemma stripFrom_eq_self (h : CodeOnly cs) : stripFrom .code cs = cs := by
  induction cs with
  | nil => rfl
  | cons c cs ih => rw [stripFrom_keep h.not_opens, ih h.tail]

/-- A character that stays makes no mark with what is blanked after it. -/
lemma Strips.not_opens (h : Strips cs ds) (hc : opens c cs.head? = false) :
    opens c ds.head? = false := by
  cases h with
  | nil => exact hc
  | keep => exact hc
  | @blank d =>
    have hquotes : c ≠ '"' ∧ c ≠ '\'' := by
      constructor <;> (rintro rfl; cases hc)
    rcases blank_cases d with ⟨-, hblank⟩ | ⟨-, hblank⟩ <;> simp [hblank, opens, hquotes]

lemma Strips.codeOnly (h : Strips cs ds) : CodeOnly ds := by
  induction h with
  | nil => exact ⟨by simp, by simp, by simp, by simp⟩
  | keep hc h ih => exact ih.cons (h.not_opens hc)
  | @blank c _ _ _ ih =>
    refine ih.cons ?_
    rcases blank_cases c with ⟨-, hblank⟩ | ⟨-, hblank⟩ <;> rw [hblank] <;> rfl

end CodeOnly

/-- Whatever the text is, stripping keeps its length and its line feeds in place, leaves each
character or a space, leaves neither quotes nor marks of comments, and changes nothing if done again. -/
theorem strip_keeps_positions (text : String) :
    (strip text).length = text.length ∧
    (∀ k : Nat, (strip text).toList[k]? = some '\n' ↔ text.toList[k]? = some '\n') ∧
    (∀ (k : Nat) (c : Char), (strip text).toList[k]? = some c → c = ' ' ∨ text.toList[k]? = some c) ∧
    CodeOnly (strip text).toList ∧ strip (strip text) = strip text := by
  have hstrips := strips_stripFrom .code text.toList
  have hcode : (strip text).toList = stripFrom .code text.toList := String.toList_ofList
  rw [← hcode] at hstrips
  refine ⟨?_, hstrips.feed_iff, fun _ _ => hstrips.kept, hstrips.codeOnly, ?_⟩
  · rw [← String.length_toList, hstrips.length_eq, String.length_toList]
  · rw [strip, stripFrom_eq_self hstrips.codeOnly, String.ofList_toList]

end HubProxy.Proofs
