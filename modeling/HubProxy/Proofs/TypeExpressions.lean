import HubProxy.Contract.Primitive
import HubProxy.Contract.TypeExpression
import Mathlib.Data.List.Infix
import Mathlib.Data.List.Forall2

/-!
# Type expressions

The outermost part of a type expression, and what the expression as a whole `Means` once every name in
it stands for a type. The expressions inside another one are shorter than it.
-/

namespace HubProxy.Proofs

section Blanks

/-- Nothing but white space. -/
def Blank (cs : List Char) : Prop :=
  ∀ c ∈ cs, Text.isBlank c = true

instance (cs : List Char) : Decidable (Blank cs) :=
  inferInstanceAs (Decidable (∀ c ∈ cs, Text.isBlank c = true))

lemma blank_takeWhile (cs : List Char) : Blank (cs.takeWhile Text.isBlank) := fun c hc => by
  simpa using List.all_eq_true.mp List.all_takeWhile c hc

lemma trimChars_eq {cs : List Char} (h : ∀ c ∈ cs, Text.isBlank c = false) :
    Text.trimChars cs = cs := by
  have hdrop : ∀ l : List Char, (∀ c ∈ l, Text.isBlank c = false) → l.dropWhile Text.isBlank = l := by
    intro l hl
    cases l with
    | nil => rfl
    | cons c l => rw [List.dropWhile_cons, hl c List.mem_cons_self]; rfl
  rw [Text.trimChars, hdrop cs h, hdrop cs.reverse (by simpa using h), List.reverse_reverse]

/-- Trimming takes white space off both ends. -/
lemma exists_trimChars (cs : List Char) :
    ∃ before after, Blank before ∧ Blank after ∧ cs = before ++ Text.trimChars cs ++ after := by
  refine ⟨cs.takeWhile Text.isBlank,
    ((cs.dropWhile Text.isBlank).reverse.takeWhile Text.isBlank).reverse, blank_takeWhile cs,
    fun c hc => blank_takeWhile _ c (List.mem_reverse.mp hc), ?_⟩
  rw [Text.trimChars, List.append_assoc, ← List.reverse_append, List.takeWhile_append_dropWhile,
    List.reverse_reverse, List.takeWhile_append_dropWhile]

lemma length_trimChars_le (cs : List Char) : (Text.trimChars cs).length ≤ cs.length := by
  obtain ⟨before, after, -, -, hcs⟩ := exists_trimChars cs
  calc (Text.trimChars cs).length ≤ (before ++ Text.trimChars cs ++ after).length := by
        simp only [List.length_append]
        omega
    _ = cs.length := by rw [← hcs]

lemma Blank.trimChars_append {before : List Char} (h : Blank before) (cs : List Char) :
    Text.trimChars (before ++ cs) = Text.trimChars cs := by
  rw [Text.trimChars, List.dropWhile_append_of_pos h, Text.trimChars]

lemma Blank.trimChars_eq_nil {cs : List Char} (h : Blank cs) : Text.trimChars cs = [] := by
  have hnil := h.trimChars_append []
  rwa [List.append_nil] at hnil

lemma Blank.append_trimChars {after : List Char} (h : Blank after) (cs : List Char) :
    Text.trimChars (cs ++ after) = Text.trimChars cs := by
  have hreverse : ∀ c ∈ after.reverse, Text.isBlank c = true := fun c hc => h c (List.mem_reverse.mp hc)
  rw [Text.trimChars, List.dropWhile_append]
  split
  · next hnil =>
    have hcs : cs.dropWhile Text.isBlank = [] := by simpa using hnil
    rw [Text.trimChars, hcs]
    exact h.trimChars_eq_nil
  · rw [List.reverse_append, List.dropWhile_append_of_pos hreverse, Text.trimChars]

lemma trimChars_trimChars (cs : List Char) : Text.trimChars (Text.trimChars cs) = Text.trimChars cs := by
  obtain ⟨before, after, hbefore, hafter, hcs⟩ := exists_trimChars cs
  conv_rhs => rw [hcs, hafter.append_trimChars, hbefore.trimChars_append]

lemma dropWhile_append_cons (cs rest : List Char) {c : Char} (hc : Text.isBlank c = false) :
    (cs ++ c :: rest).dropWhile Text.isBlank = cs.dropWhile Text.isBlank ++ c :: rest := by
  rw [List.dropWhile_append]
  split
  · next hnil =>
    have hcs : cs.dropWhile Text.isBlank = [] := by simpa using hnil
    simp [hcs, hc]
  · rfl

lemma trimChars_concat (cs : List Char) {c : Char} (hc : Text.isBlank c = false) :
    Text.trimChars (cs ++ [c]) = cs.dropWhile Text.isBlank ++ [c] := by
  simp [Text.trimChars, dropWhile_append_cons cs [] hc, hc]

lemma trimChars_dropWhile (cs : List Char) :
    Text.trimChars (cs.dropWhile Text.isBlank) = Text.trimChars cs := by
  rw [← (blank_takeWhile cs).trimChars_append, List.takeWhile_append_dropWhile]

/-- What is left of a text does not start with white space. -/
lemma dropWhile_trimChars_append (cs rest : List Char) (h : Text.trimChars cs ≠ []) :
    (Text.trimChars cs ++ rest).dropWhile Text.isBlank = Text.trimChars cs ++ rest := by
  have hprefix : Text.trimChars cs <+: cs.dropWhile Text.isBlank := by
    rw [Text.trimChars, ← List.reverse_suffix, List.reverse_reverse]
    exact List.dropWhile_suffix _
  obtain ⟨c, tail, htrim⟩ := List.exists_cons_of_ne_nil h
  obtain ⟨more, hmore⟩ := hprefix
  have hne : cs.dropWhile Text.isBlank ≠ [] := by
    rw [← hmore]
    exact List.append_ne_nil_of_left_ne_nil h more
  have hc : Text.isBlank c = false := by
    have hhead := List.head_dropWhile_not Text.isBlank hne
    simpa [← hmore, htrim] using hhead
  rw [htrim]
  simp [hc]

end Blanks

section Outermost

lemma beforeSuffix?_eq_some {suffix cs before : List Char} :
    beforeSuffix? suffix cs = some before ↔ cs = before ++ suffix := by
  unfold beforeSuffix?
  constructor
  · intro h
    split at h
    · next hs =>
      obtain ⟨l, rfl⟩ := List.isSuffixOf_iff_suffix.mp hs
      obtain rfl : l = before := by simpa using h
      rfl
    · cases h
  · rintro rfl
    simp

lemma beforeSuffix?_eq_none {suffix cs : List Char} {c : Char} (hc : c ∈ suffix) (hcs : c ∉ cs) :
    beforeSuffix? suffix cs = none := by
  rw [beforeSuffix?, if_neg]
  intro h
  exact hcs ((List.isSuffixOf_iff_suffix.mp h).subset hc)

/-- A text with none of the marks that end suffixes and arguments is a name. -/
lemma ofTrimmed_of_not_mem {cs : List Char} (h : ∀ mark ∈ [']', '?', '>'], mark ∉ cs) :
    Outer.ofTrimmed cs = .name cs := by
  rw [Outer.ofTrimmed, beforeSuffix?_eq_none (c := ']') (by simp) (h _ (by decide))]
  dsimp only
  rw [beforeSuffix?_eq_none (c := '?') (by simp) (h _ (by decide))]
  dsimp only
  rw [beforeSuffix?_eq_none (c := '>') (by simp) (h _ (by decide))]

lemma ofTrimmed_brackets (cs : List Char) : Outer.ofTrimmed (cs ++ ['[', ']']) = .array cs := by
  simp [Outer.ofTrimmed, beforeSuffix?]

/-- What the outermost part of an expression can be, and which text it then is. -/
inductive OuterSpelling : List Char → Outer → Prop
  | array (element : List Char) : OuterSpelling (element ++ ['[', ']']) (.array element)
  | nullable (inner : List Char) : OuterSpelling (inner ++ ['?']) (.nullable inner)
  | generic {base : List Char} (hbase : '<' ∉ base) (inside : List Char) :
      OuterSpelling (base ++ '<' :: inside ++ ['>'])
        (.generic (Text.trimChars base) (splitArguments inside))
  | name (text : List Char) : OuterSpelling text (.name text)

lemma outerSpelling_ofTrimmed (cs : List Char) : OuterSpelling cs (Outer.ofTrimmed cs) := by
  unfold Outer.ofTrimmed
  split
  · next element h =>
    rw [beforeSuffix?_eq_some.mp h]
    exact .array element
  split
  · next inner h =>
    rw [beforeSuffix?_eq_some.mp h]
    exact .nullable inner
  split
  · next body h =>
    split
    · next hopen =>
      obtain ⟨base, inside, rfl, hbase⟩ := List.eq_append_cons_of_mem (a := '<') (by simpa using hopen)
      have htake : (base ++ '<' :: inside).takeWhile (· ≠ '<') = base := by
        rw [List.takeWhile_append_of_pos fun c hc => by simpa using ne_of_mem_of_not_mem hc hbase]
        simp
      rw [beforeSuffix?_eq_some.mp h]
      simp only [htake, List.drop_length_add_append, List.drop_succ_cons, List.drop_zero]
      exact .generic hbase inside
    · exact .name cs
  · exact .name cs

/-- The expressions inside the outermost part of one. -/
def inside : Outer → List (List Char)
  | .array element => [element]
  | .nullable inner => [inner]
  | .generic _ arguments => arguments
  | .name _ => []

lemma length_le_of_mem_splitCommas {part : List Char} (depth : Int) (cs : List Char)
    (h : part ∈ splitCommas depth cs) : part.length ≤ cs.length := by
  induction cs generalizing depth part with
  | nil => simp_all [splitCommas]
  | cons c rest ih =>
    unfold splitCommas at h
    split at h
    · rcases List.mem_cons.mp h with rfl | h
      · exact Nat.zero_le _
      · exact (ih _ h).trans (Nat.le_succ _)
    · dsimp only at h
      split at h
      · next first more hsplit =>
        rcases List.mem_cons.mp h with rfl | h
        · exact Nat.succ_le_succ (ih _ (hsplit ▸ List.mem_cons_self))
        · exact (ih _ (hsplit ▸ List.mem_cons_of_mem _ h)).trans (Nat.le_succ _)
      · obtain rfl := List.mem_singleton.mp h
        exact Nat.succ_le_succ (Nat.zero_le _)

lemma length_le_of_mem_splitArguments {part cs : List Char} (h : part ∈ splitArguments cs) :
    part.length ≤ cs.length := by
  obtain ⟨hmem, -⟩ := List.mem_filter.mp h
  obtain ⟨raw, hraw, rfl⟩ := List.mem_map.mp hmem
  exact (length_trimChars_le raw).trans (length_le_of_mem_splitCommas 0 cs hraw)

lemma length_lt_of_mem_inside {part cs : List Char} (h : part ∈ inside (Outer.ofTrimmed cs)) :
    part.length < cs.length := by
  have hspelled := outerSpelling_ofTrimmed cs
  generalize Outer.ofTrimmed cs = outer at h hspelled
  cases hspelled with
  | array element =>
    obtain rfl := List.mem_singleton.mp h
    simp
  | nullable inner =>
    obtain rfl := List.mem_singleton.mp h
    simp
  | generic _ inside =>
    have hle : part.length ≤ inside.length := length_le_of_mem_splitArguments h
    simp only [List.length_append, List.length_cons, List.length_nil]
    omega
  | name text => exact absurd h List.not_mem_nil

end Outermost

/-- The type that an expression stands for, where `named` says which names stand for which types. -/
inductive Means (named : String → Descriptor → Prop) : List Char → Descriptor → Prop
  | array {cs element : List Char} {d : Descriptor}
      (houter : Outer.ofTrimmed (Text.trimChars cs) = .array element) (hd : Means named element d) :
      Means named cs (.array d)
  | nullable {cs inner : List Char} {d : Descriptor}
      (houter : Outer.ofTrimmed (Text.trimChars cs) = .nullable inner) (hd : Means named inner d) :
      Means named cs (.generic "Nullable" [d])
  | generic {cs base : List Char} {arguments : List (List Char)} {ds : List Descriptor}
      (houter : Outer.ofTrimmed (Text.trimChars cs) = .generic base arguments)
      (hlength : arguments.length = ds.length)
      (hds : ∀ argument d, (argument, d) ∈ arguments.zip ds → Means named argument d) :
      Means named cs (.generic (String.ofList base) ds)
  | primitive {cs text : List Char} {d : Descriptor}
      (houter : Outer.ofTrimmed (Text.trimChars cs) = .name text)
      (hd : primitive? (String.ofList text) = some d) : Means named cs d
  | named {cs text : List Char} {d : Descriptor}
      (houter : Outer.ofTrimmed (Text.trimChars cs) = .name text)
      (hother : primitive? (String.ofList text) = none) (hd : named (String.ofList text) d) :
      Means named cs d

lemma Means.mono {named named' : String → Descriptor → Prop}
    (hnamed : ∀ name d, named name d → named' name d) {cs : List Char} {d : Descriptor}
    (h : Means named cs d) : Means named' cs d := by
  induction h with
  | array houter _ ih => exact .array houter ih
  | nullable houter _ ih => exact .nullable houter ih
  | generic houter hlength _ ih => exact .generic houter hlength ih
  | primitive houter hd => exact .primitive houter hd
  | named houter hother hd => exact .named houter hother (hnamed _ _ hd)

end HubProxy.Proofs
