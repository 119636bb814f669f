import HubProxy.Proofs.CaseMapping

/-!
# Names in Pascal case

A separator between two texts cuts their words apart, so a name in Pascal case is put together from
the names in Pascal case of the parts between its separators. It holds no separator and starts with a
character that is its own upper case; a name of this kind is its own Pascal case.
-/

namespace HubProxy.Proofs

section Runs

variable {isSeparator : Char → Bool} {c d : Char}

lemma splitRuns_separator (hc : isSeparator c = true) (cs : List Char) :
    Text.splitRuns isSeparator (c :: cs) = Text.splitRuns isSeparator cs :=
  if_pos hc

lemma splitRuns_cons (hc : isSeparator c = false) (cs : List Char) :
    Text.splitRuns isSeparator (c :: cs) =
      match cs, Text.splitRuns isSeparator cs with
      | d :: _, run :: runs =>
        if isSeparator d = true then [c] :: run :: runs else (c :: run) :: runs
      | _, _ => [c] :: Text.splitRuns isSeparator cs :=
  if_neg (Bool.eq_false_iff.mp hc)

lemma exists_splitRuns_cons (hc : isSeparator c = false) (cs : List Char) :
    ∃ run runs, Text.splitRuns isSeparator (c :: cs) = (c :: run) :: runs := by
  rw [splitRuns_cons hc]
  split
  · split
    · exact ⟨_, _, rfl⟩
    · exact ⟨_, _, rfl⟩
  · exact ⟨_, _, rfl⟩

/-- A character in front of a separator, or of nothing, is a run by itself. -/
lemma splitRuns_alone (hc : isSeparator c = false) {cs : List Char}
    (hcs : ∀ d ∈ cs.head?, isSeparator d = true) :
    Text.splitRuns isSeparator (c :: cs) = [c] :: Text.splitRuns isSeparator cs := by
  rw [splitRuns_cons hc]
  split
  · next d rest run more heq => rw [if_pos (hcs d rfl), heq]
  · rfl

/-- A character in front of a run extends it. -/
lemma splitRuns_extend (hc : isSeparator c = false) (hd : isSeparator d = false)
    {cs run : List Char} {runs : List (List Char)}
    (heq : Text.splitRuns isSeparator (d :: cs) = run :: runs) :
    Text.splitRuns isSeparator (c :: d :: cs) = (c :: run) :: runs := by
  rw [splitRuns_cons hc, heq]
  exact if_neg (Bool.eq_false_iff.mp hd)

lemma splitRuns_append_cons (hc : isSeparator c = true) (cs ds : List Char) :
    Text.splitRuns isSeparator (cs ++ c :: ds) =
      Text.splitRuns isSeparator cs ++ Text.splitRuns isSeparator ds := by
  induction cs with
  | nil => exact splitRuns_separator hc ds
  | cons x cs ih =>
    cases hx : isSeparator x with
    | true =>
      rw [List.cons_append, splitRuns_separator hx, splitRuns_separator hx, ih]
    | false =>
      cases cs with
      | nil =>
        rw [List.singleton_append, splitRuns_alone hx (by simpa using hc), splitRuns_separator hc,
          splitRuns_alone hx (by simp)]
        rfl
      | cons y cs =>
        cases hy : isSeparator y with
        | true =>
          rw [List.cons_append, splitRuns_alone hx (by simpa using hy), ih,
            splitRuns_alone hx (by simpa using hy), List.cons_append]
        | false =>
          obtain ⟨run, runs, heq⟩ := exists_splitRuns_cons hy cs
          rw [heq] at ih
          rw [splitRuns_extend hx hy heq, List.cons_append]
          exact splitRuns_extend hx hy ih

lemma splitRuns_separators {s : List Char} (hs : ∀ c ∈ s, isSeparator c = true) (cs : List Char) :
    Text.splitRuns isSeparator (s ++ cs) = Text.splitRuns isSeparator cs := by
  induction s with
  | nil => rfl
  | cons c s ih =>
    obtain ⟨hc, hs⟩ := List.forall_mem_cons.mp hs
    rw [List.cons_append, splitRuns_separator hc, ih hs]

/-- A text without separators is one run. -/
lemma splitRuns_run {cs : List Char} (hne : cs ≠ []) (hcs : ∀ c ∈ cs, isSeparator c = false) :
    Text.splitRuns isSeparator cs = [cs] := by
  induction cs with
  | nil => exact absurd rfl hne
  | cons c cs ih =>
    obtain ⟨hc, hcs⟩ := List.forall_mem_cons.mp hcs
    cases cs with
    | nil => exact splitRuns_alone hc (by simp)
    | cons d cs => exact splitRuns_extend hc (hcs d List.mem_cons_self) (ih (by simp) hcs)

end Runs

section FirstCharacter

variable {cs : List Char}

lemma not_isWordSeparator_raiseFirst (hcs : ∀ c ∈ cs, Text.isWordSeparator c = false) :
    ∀ d ∈ Text.raiseFirst cs, Text.isWordSeparator d = false := by
  cases cs with
  | nil => exact hcs
  | cons c cs =>
    obtain ⟨hc, hcs⟩ := List.forall_mem_cons.mp hcs
    exact List.forall_mem_append.mpr ⟨not_isWordSeparator_upperChar hc, hcs⟩

lemma not_isWordSeparator_lowerFirst (hcs : ∀ c ∈ cs, Text.isWordSeparator c = false) :
    ∀ d ∈ Text.lowerFirst cs, Text.isWordSeparator d = false := by
  cases cs with
  | nil => exact hcs
  | cons c cs =>
    obtain ⟨hc, hcs⟩ := List.forall_mem_cons.mp hcs
    exact List.forall_mem_append.mpr ⟨not_isWordSeparator_lowerChar hc, hcs⟩

lemma raiseFirst_eq_nil_iff : Text.raiseFirst cs = [] ↔ cs = [] := by
  cases cs with
  | nil => exact Iff.rfl
  | cons c cs => simp [Text.raiseFirst, upperChar_ne_nil]

lemma raiseFirst_append (hne : cs ≠ []) (ds : List Char) :
    Text.raiseFirst (cs ++ ds) = Text.raiseFirst cs ++ ds := by
  obtain ⟨c, cs, rfl⟩ := List.exists_cons_of_ne_nil hne
  rw [List.cons_append, Text.raiseFirst, Text.raiseFirst, List.append_assoc]

lemma raiseFirst_eq_self_iff : Text.raiseFirst cs = cs ↔ ∀ c ∈ cs.head?, Text.upperChar c = [c] := by
  cases cs with
  | nil => simp [Text.raiseFirst]
  | cons c cs =>
    have hhead : c :: cs = [c] ++ cs := rfl
    rw [Text.raiseFirst, hhead, List.append_cancel_right_eq]
    simp

lemma raiseFirst_raiseFirst (cs : List Char) :
    Text.raiseFirst (Text.raiseFirst cs) = Text.raiseFirst cs := by
  cases cs with
  | nil => rfl
  | cons c cs =>
    obtain ⟨d, ds, heq, hd⟩ := exists_upperChar_eq c
    rw [raiseFirst_eq_self_iff, Text.raiseFirst, heq]
    simpa using hd

end FirstCharacter

section Pascal

variable {cs : List Char}

/-- What holds of texts without separators, and of two texts with a separator between them if it holds
of both, holds of all texts. -/
@[elab_as_elim]
lemma separated_induction {P : List Char → Prop}
    (word : ∀ cs, (∀ c ∈ cs, Text.isWordSeparator c = false) → P cs)
    (apart : ∀ cs c ds, Text.isWordSeparator c = true → P cs → P ds → P (cs ++ c :: ds))
    (cs : List Char) : P cs := by
  -- The characters before the text belong to a run that is not yet at its end.
  suffices h : ∀ run, (∀ c ∈ run, Text.isWordSeparator c = false) → P (run ++ cs) from
    h [] fun _ hc => absurd hc List.not_mem_nil
  induction cs with
  | nil =>
    intro run hrun
    rw [List.append_nil]
    exact word run hrun
  | cons c cs ih =>
    intro run hrun
    cases hc : Text.isWordSeparator c with
    | true => exact apart run c cs hc (word run hrun) (ih [] fun _ hd => absurd hd List.not_mem_nil)
    | false =>
      rw [List.append_cons]
      refine ih (run ++ [c]) fun d hd => ?_
      rcases List.mem_append.mp hd with hd | hd
      · exact hrun d hd
      · rwa [List.mem_singleton.mp hd]

/-- Separators between two texts come to nothing, and the words on either side stay apart. -/
lemma pascalChars_append {s : List Char} (hne : s ≠ [])
    (hs : ∀ c ∈ s, Text.isWordSeparator c = true) (cs ds : List Char) :
    Text.pascalChars (cs ++ s ++ ds) = Text.pascalChars cs ++ Text.pascalChars ds := by
  obtain ⟨c, s, rfl⟩ := List.exists_cons_of_ne_nil hne
  obtain ⟨hc, hs⟩ := List.forall_mem_cons.mp hs
  rw [Text.pascalChars, Text.words, List.append_assoc, List.cons_append, splitRuns_append_cons hc,
    splitRuns_separators hs, List.flatMap_append]
  rfl

lemma pascalChars_append_cons {c : Char} (hc : Text.isWordSeparator c = true) (cs ds : List Char) :
    Text.pascalChars (cs ++ c :: ds) = Text.pascalChars cs ++ Text.pascalChars ds := by
  have happart := pascalChars_append (List.cons_ne_nil c []) (by simpa using hc) cs ds
  rwa [List.append_assoc, List.singleton_append] at happart

lemma pascalChars_word (hcs : ∀ c ∈ cs, Text.isWordSeparator c = false) :
    Text.pascalChars cs = Text.raiseFirst cs := by
  cases cs with
  | nil => rfl
  | cons c cs =>
    rw [Text.pascalChars, Text.words, splitRuns_run (List.cons_ne_nil c cs) hcs,
      List.flatMap_singleton]

lemma not_isWordSeparator_pascalChars (cs : List Char) :
    ∀ d ∈ Text.pascalChars cs, Text.isWordSeparator d = false := by
  induction cs using separated_induction with
  | word cs hcs =>
    rw [pascalChars_word hcs]
    exact not_isWordSeparator_raiseFirst hcs
  | apart cs c ds hc ihcs ihds =>
    rw [pascalChars_append_cons hc]
    exact List.forall_mem_append.mpr ⟨ihcs, ihds⟩

lemma pascalChars_eq_nil_iff (cs : List Char) :
    Text.pascalChars cs = [] ↔ ∀ c ∈ cs, Text.isWordSeparator c = true := by
  induction cs using separated_induction with
  | word cs hcs =>
    rw [pascalChars_word hcs, raiseFirst_eq_nil_iff]
    constructor
    · rintro rfl
      exact fun c hc => absurd hc List.not_mem_nil
    · refine fun hall => List.eq_nil_iff_forall_not_mem.mpr fun c hc => ?_
      exact Bool.false_ne_true ((hcs c hc).symm.trans (hall c hc))
  | apart cs c ds hc ihcs ihds =>
    rw [pascalChars_append_cons hc, List.append_eq_nil_iff, ihcs, ihds, List.forall_mem_append,
      List.forall_mem_cons]
    simp only [hc, true_and]

/-- A name in Pascal case starts with a character that is its own upper case. -/
lemma raiseFirst_pascalChars (cs : List Char) :
    Text.raiseFirst (Text.pascalChars cs) = Text.pascalChars cs := by
  induction cs using separated_induction with
  | word cs hcs => rw [pascalChars_word hcs, raiseFirst_raiseFirst]
  | apart cs c ds hc ihcs ihds =>
    rw [pascalChars_append_cons hc]
    by_cases hne : Text.pascalChars cs = []
    · rwa [hne, List.nil_append]
    · rw [raiseFirst_append hne, ihcs]

lemma pascalChars_eq_self_iff : Text.pascalChars cs = cs ↔
    (∀ c ∈ cs, Text.isWordSeparator c = false) ∧ ∀ c ∈ cs.head?, Text.upperChar c = [c] := by
  constructor
  · intro hself
    have hraised := raiseFirst_pascalChars cs
    have hwhole := not_isWordSeparator_pascalChars cs
    rw [hself] at hraised hwhole
    exact ⟨hwhole, raiseFirst_eq_self_iff.mp hraised⟩
  · rintro ⟨hwhole, hraised⟩
    rw [pascalChars_word hwhole, raiseFirst_eq_self_iff.mpr hraised]

lemma pascalChars_pascalChars (cs : List Char) :
    Text.pascalChars (Text.pascalChars cs) = Text.pascalChars cs := by
  rw [pascalChars_word (not_isWordSeparator_pascalChars cs), raiseFirst_pascalChars]

end Pascal

section Names

/-- The underscore, the hyphen and white space stand between the words of a name. -/
def Separates (c : Char) : Prop :=
  c = '_' ∨ c = '-' ∨ Text.isBlank c = true

instance : DecidablePred Separates :=
  fun c => inferInstanceAs (Decidable (c = '_' ∨ c = '-' ∨ Text.isBlank c = true))

lemma isWordSeparator_iff {c : Char} : Text.isWordSeparator c = true ↔ Separates c := by
  simp only [Text.isWordSeparator, Separates, Bool.or_eq_true, beq_iff_eq, or_assoc]

lemma isWordSeparator_eq_false_iff {c : Char} :
    Text.isWordSeparator c = false ↔ ¬ Separates c := by
  rw [← isWordSeparator_iff, Bool.not_eq_true]

/-- A name in Pascal case: a single word that starts with a character that is its own upper case. -/
structure IsPascal (s : String) : Prop where
  whole : ∀ c ∈ s.toList, ¬ Separates c
  raised : ∀ c ∈ s.toList.head?, Text.upperChar c = [c]

lemma toList_pascalCase (s : String) :
    (Text.pascalCase s).toList = Text.pascalChars s.toList :=
  String.toList_ofList

lemma pascalCase_eq_self_iff {s : String} : Text.pascalCase s = s ↔ IsPascal s := by
  rw [← String.toList_inj, toList_pascalCase, pascalChars_eq_self_iff]
  simp only [isWordSeparator_eq_false_iff]
  exact ⟨fun h => ⟨h.1, h.2⟩, fun h => ⟨h.whole, h.raised⟩⟩

lemma pascalCase_append {s : String} (hne : s ≠ "") (hs : ∀ c ∈ s.toList, Separates c)
    (a b : String) :
    Text.pascalCase (a ++ s ++ b) = Text.pascalCase a ++ Text.pascalCase b := by
  have hchars : s.toList ≠ [] := fun h => hne (String.toList_eq_nil_iff.mp h)
  have hall : ∀ c ∈ s.toList, Text.isWordSeparator c = true :=
    fun c hc => isWordSeparator_iff.mpr (hs c hc)
  rw [← String.toList_inj]
  simp only [toList_pascalCase, String.toList_append]
  exact pascalChars_append hchars hall a.toList b.toList

lemma not_separates_pascalCase (s : String) : ∀ c ∈ (Text.pascalCase s).toList, ¬ Separates c := by
  intro c hc
  rw [toList_pascalCase] at hc
  exact isWordSeparator_eq_false_iff.mp (not_isWordSeparator_pascalChars s.toList c hc)

lemma pascalCase_eq_empty_iff {s : String} :
    Text.pascalCase s = "" ↔ ∀ c ∈ s.toList, Separates c := by
  rw [← String.toList_eq_nil_iff, toList_pascalCase, pascalChars_eq_nil_iff]
  simp only [isWordSeparator_iff]

lemma pascalCase_pascalCase (s : String) :
    Text.pascalCase (Text.pascalCase s) = Text.pascalCase s := by
  rw [← String.toList_inj]
  simp only [toList_pascalCase, pascalChars_pascalChars]

/-- A name in Pascal case holds no underscore. -/
lemma underscore_not_mem_pascalCase (s : String) : '_' ∉ (Text.pascalCase s).toList :=
  fun hmem => not_separates_pascalCase s '_' hmem (.inl rfl)

/-- A name in camel case holds no underscore. -/
lemma underscore_not_mem_camelCase (s : String) : '_' ∉ (Text.camelCase s).toList := by
  rw [Text.camelCase, Text.firstLower, String.toList_ofList, toList_pascalCase]
  have hlower := not_isWordSeparator_lowerFirst (not_isWordSeparator_pascalChars s.toList)
  exact fun hmem => absurd (hlower '_' hmem) (by decide)

/-- Pascal case takes a name apart at its separators and drops these, so nothing is left of a name
that consists only of them. The result is in Pascal case, and just the names of this kind pass through
unchanged. -/
theorem pascalCase_laws (a b : String) :
    (∀ s : String, s ≠ "" → (∀ c ∈ s.toList, Separates c) →
      Text.pascalCase (a ++ s ++ b) = Text.pascalCase a ++ Text.pascalCase b) ∧
    (∀ c ∈ (Text.pascalCase a).toList, ¬ Separates c) ∧
    (Text.pascalCase a = "" ↔ ∀ c ∈ a.toList, Separates c) ∧
    Text.pascalCase (Text.pascalCase a) = Text.pascalCase a ∧
    (Text.pascalCase a = a ↔ IsPascal a) := by
  refine ⟨fun s hne hs => ?_, ?_, ?_, ?_, ?_⟩
  · exact pascalCase_append hne hs a b
  · exact not_separates_pascalCase a
  · exact pascalCase_eq_empty_iff
  · exact pascalCase_pascalCase a
  · exact pascalCase_eq_self_iff

-- The first letters are a ligature, a sharp s and a letter with an apostrophe before it: each one
-- becomes several characters, and the first of these is left as it is by a second pass.
theorem pascalCase_laws_ligatureName :
    ("_\u2003-" ≠ "" ∧ ∀ c ∈ "_\u2003-".toList, Separates c) ∧
      Text.pascalCase ("\ufb01n-\u00dfe" ++ "_\u2003-" ++ "\u0149ew") = "FInSSe" ++ "\u02bcNew" ∧
      Text.pascalCase "FInSSe" = "FInSSe" := by
  have hs : "_\u2003-" ≠ "" ∧ ∀ c ∈ "_\u2003-".toList, Separates c := by decide +kernel
  have ha : Text.pascalCase "\ufb01n-\u00dfe" = "FInSSe" := by decide +kernel
  have hb : Text.pascalCase "\u0149ew" = "\u02bcNew" := by decide +kernel
  obtain ⟨happart, -, -, hagain, -⟩ := pascalCase_laws "\ufb01n-\u00dfe" "\u0149ew"
  refine ⟨hs, ?_, ?_⟩
  · rw [happart _ hs.1 hs.2, ha, hb]
  · rwa [ha] at hagain

end Names

end HubProxy.Proofs
