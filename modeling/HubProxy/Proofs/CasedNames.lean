import HubProxy.Proofs.CaseMapping
import HubProxy.Proofs.EmittedSource

/-!
# Names in another case

A letter that changes its case may yield several characters, and some of them belong to no word. None
of them is white space or a mark that the scanner looks for, so a name is read as one whatever becomes
of its first letter.
-/

namespace HubProxy.Proofs

open CSharp

/-- The marks that mean something to the scanner. -/
def reservedMarks : List Char :=
  opening ++ ['[', ']', '\x7b', '\x7d']

/-- A character that may stand in a name, if not as part of a word then as a mark without meaning. -/
def Loose (c : Char) : Prop :=
  Text.isWord c = true ∨ (Text.isBlank c = false ∧ c ∉ reservedMarks)

instance : DecidablePred Loose :=
  fun c => inferInstanceAs
    (Decidable (Text.isWord c = true ∨ (Text.isBlank c = false ∧ c ∉ reservedMarks)))

section Reading

/-- Words and marks without meaning, no word beside another one. -/
inductive LooseTokens : List Token → Prop
  | nil : LooseTokens []
  | mark {c : Char} {ts : List Token} (hc : c ∉ reservedMarks) (h : LooseTokens ts) :
      LooseTokens (.mark c :: ts)
  | word {w : String} {ts : List Token} (hts : startsWord ts = false) (h : LooseTokens ts) :
      LooseTokens (.word w :: ts)

lemma ne_of_not_mem_reservedMarks {c d : Char} (hc : c ∉ reservedMarks) (hd : d ∈ reservedMarks) :
    c ≠ d :=
  fun h => hc (h ▸ hd)

lemma LooseTokens.stop {ts : List Token} (h : LooseTokens ts) (hts : startsWord ts = false)
    {after : List Token} (hafter : Stop after) : Stop (ts ++ after) := by
  cases h with
  | nil => exact hafter
  | mark hc _ =>
    exact ⟨ne_of_not_mem_reservedMarks hc (by decide), ne_of_not_mem_reservedMarks hc (by decide)⟩
  | word => cases hts

lemma LooseTokens.scans {ts : List Token} (h : LooseTokens ts) : Scans ts [] [] Stop := by
  induction h with
  | nil => exact scans_nil Stop
  | @mark c ts hc _ ih =>
    have hmark : Scans [.mark c] [] [] Anything :=
      scans_mark (ne_of_not_mem_reservedMarks hc (by decide))
        (ne_of_not_mem_reservedMarks hc (by decide)) _
    exact hmark.append ih fun _ _ => trivial
  | @word w ts hts h ih => exact (scans_word w).append ih fun _ hafter => h.stop hts hafter

lemma LooseTokens.solid {ts : List Token} (h : LooseTokens ts) (hne : ts ≠ [])
    (after : List Token) : Solid (ts ++ after) := by
  cases h with
  | nil => exact absurd rfl hne
  | mark hc _ => exact ne_of_not_mem_reservedMarks hc (by decide)
  | word => trivial

lemma LooseTokens.consWord {ts : List Token} (h : LooseTokens ts) (c : Char) :
    LooseTokens (Token.consWord c ts) := by
  cases h with
  | nil => exact .word rfl .nil
  | mark hc h => exact .word rfl (.mark hc h)
  | word hts h => exact .word hts h

lemma consWord_ne_nil (c : Char) (ts : List Token) : Token.consWord c ts ≠ [] := by
  unfold Token.consWord
  split <;> simp

lemma code_loose {cs : List Char} (hcs : ∀ c ∈ cs, Loose c) :
    ∃ ts, LooseTokens ts ∧ (cs ≠ [] → ts ≠ []) ∧
      ∀ rest, Stop (code rest) → code (cs ++ rest) = ts ++ code rest := by
  induction cs with
  | nil => exact ⟨[], .nil, fun h => absurd rfl h, fun _ _ => rfl⟩
  | cons c cs ih =>
    obtain ⟨ts, hts, -, hcode⟩ := ih fun d hd => hcs d (List.mem_cons_of_mem c hd)
    by_cases hword : Text.isWord c = true
    · refine ⟨Token.consWord c ts, hts.consWord c, fun _ => consWord_ne_nil c ts, fun rest h => ?_⟩
      rw [List.cons_append, code_wordChar hword, hcode rest h, consWord_append h.apart.1]
    · obtain ⟨hblank, hmarks⟩ := (hcs c List.mem_cons_self).resolve_left hword
      have hmark : isMark c = true := by simp [isMark, hword, hblank]
      have hopen : c ∉ opening := fun h => hmarks (List.mem_append_left _ h)
      refine ⟨.mark c :: ts, .mark hmarks hts, by simp, fun rest h => ?_⟩
      rw [List.cons_append, code_mark hmark hopen, hcode rest h]
      rfl

/-- A text of characters that may stand in a name can be read as a name. -/
lemma nameable_of_loose {s : String} (hne : s.toList ≠ []) (hs : ∀ c ∈ s.toList, Loose c) :
    Nameable s := by
  by_cases hkeyword : s ∈ keywords
  · have hwords : ∀ w ∈ keywords, ∀ c ∈ w.toList, Text.isWord c = true := by decide +kernel
    exact reads_escapeIdentifier hne (hwords s hkeyword)
  · obtain ⟨ts, hts, htsne, hcode⟩ := code_loose hs
    rw [Nameable, escapeIdentifier, if_neg hkeyword]
    exact ⟨ts, hcode, fun after _ => hts.solid (htsne hne) after, hts.scans⟩

end Reading

section Casing

/-- The code points that no name may hold outside a word. -/
def reservedCodes : List (Nat × Nat) :=
  Text.blankRanges ++ reservedMarks.map fun c => (c.toNat, c.toNat)

lemma loose_of_reservedCodes {c : Char} (h : Text.inRanges reservedCodes c.toNat = false) :
    Loose c := by
  have hout := inRanges_eq_false_iff.mp h
  have hblank : Text.isBlank c = false :=
    inRanges_eq_false_iff.mpr fun p hp => hout p (List.mem_append_left _ hp)
  refine .inr ⟨hblank, fun hmem => ?_⟩
  have hself := hout (c.toNat, c.toNat)
    (List.mem_append_right _ (List.mem_map_of_mem (f := fun c => (c.toNat, c.toNat)) hmem))
  omega

lemma loose_landing {rows : List Text.CaseRun}
    (hr : ∀ run ∈ rows, LandsOutside reservedCodes run) :
    ∀ run ∈ rows, ∀ n, run.covers n = true → Loose (Char.ofNat (landing run n)) :=
  fun run hmem _ hn => loose_of_reservedCodes ((hr run hmem).inRanges_eq_false (by decide) hn)

lemma loose_expanded {expansions : List (Nat × List Nat)}
    (he : ∀ e ∈ expansions, ∀ n ∈ e.2, Text.inRanges reservedCodes n = false) :
    ∀ e ∈ expansions, ∀ n ∈ e.2, Loose (Char.ofNat n) :=
  fun e hmem n hn => loose_of_reservedCodes (inRanges_ofNat (by decide) (he e hmem n hn))

lemma loose_upperChar {c : Char} (hc : Loose c) : ∀ d ∈ Text.upperChar c, Loose d :=
  (caseOutcome_upperChar c).forall_mem (loose_expanded (by decide +kernel))
    (loose_landing (by decide +kernel)) hc

lemma loose_lowerChar {c : Char} (hc : Loose c) : ∀ d ∈ Text.lowerChar c, Loose d :=
  (caseOutcome_lowerChar c).forall_mem (loose_expanded (by decide +kernel))
    (loose_landing (by decide +kernel)) hc

end Casing

/-- A text that can stand as a name in any case. -/
structure LooseName (s : String) : Prop where
  nonempty : s.toList ≠ []
  chars : ∀ c ∈ s.toList, Loose c

lemma looseName_of_isWord {s : String} (hne : s.toList ≠ [])
    (hs : ∀ c ∈ s.toList, Text.isWord c = true) : LooseName s :=
  ⟨hne, fun c hc => .inl (hs c hc)⟩

lemma IsIdentifier.looseName {s : String} (h : IsIdentifier s) : LooseName s :=
  looseName_of_isWord h.ne_nil h.2

lemma LooseName.nameable {s : String} (h : LooseName s) : Nameable s :=
  nameable_of_loose h.nonempty h.chars

lemma LooseName.append {s t : String} (h : LooseName s) (ht : ∀ c ∈ t.toList, Loose c) :
    LooseName (s ++ t) := by
  constructor
  · simp [h.nonempty]
  · intro c hc
    rw [String.toList_append] at hc
    exact (List.mem_append.mp hc).elim (h.chars c) (ht c)

lemma LooseName.firstUpper {s : String} (h : LooseName s) : LooseName (Text.firstUpper s) := by
  obtain ⟨hne, hs⟩ := h
  obtain ⟨c, rest, heq⟩ := List.exists_cons_of_ne_nil hne
  rw [heq] at hs
  have hchars : (Text.firstUpper s).toList = Text.upperChar c ++ rest := by
    simp [Text.firstUpper, heq, Text.raiseFirst]
  constructor
  · simp [hchars, upperChar_ne_nil]
  · intro d hd
    rw [hchars] at hd
    exact (List.mem_append.mp hd).elim (loose_upperChar (hs c List.mem_cons_self) d)
      fun hd => hs d (List.mem_cons_of_mem c hd)

/-- The name of the field behind a property. -/
lemma LooseName.field {s : String} (h : LooseName s) : LooseName ("_" ++ Text.firstLower s) := by
  obtain ⟨hne, hs⟩ := h
  obtain ⟨c, rest, heq⟩ := List.exists_cons_of_ne_nil hne
  rw [heq] at hs
  have hchars : (Text.firstLower s).toList = Text.lowerChar c ++ rest := by
    simp [Text.firstLower, heq, Text.lowerFirst]
  refine LooseName.append ⟨by decide, by decide⟩ fun d hd => ?_
  rw [hchars] at hd
  exact (List.mem_append.mp hd).elim (loose_lowerChar (hs c List.mem_cons_self) d)
    fun hd => hs d (List.mem_cons_of_mem c hd)

end HubProxy.Proofs
