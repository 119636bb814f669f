import HubProxy.Path
import HubProxy.Proofs.AtomicWrites

/-!
# Paths and their texts

A path that has been read from a text has names without slashes, and none that says nothing. Such a path
is read back from its own text, so it may be written down and read again any number of times.
-/

namespace HubProxy.Proofs

/-- A name that stands between two slashes and says something. -/
def IsPart (part : String) : Prop :=
  '/' ∉ part.toList ∧ part ≠ "" ∧ part ≠ "."

/-- A path has no other names than a text can give it. -/
def IsWritten (p : Path) : Prop :=
  ∀ part ∈ p.parts, IsPart part

instance : DecidablePred IsPart := fun part =>
  inferInstanceAs (Decidable ('/' ∉ part.toList ∧ part ≠ "" ∧ part ≠ "."))

instance : DecidablePred IsWritten := fun p =>
  inferInstanceAs (Decidable (∀ part ∈ p.parts, IsPart part))

variable {p : Path} {cs piece : List Char} {parts : List String}

/-! ## Between slashes -/

lemma splitSlashes_cons (c : Char) (cs : List Char) : ∃ first more,
    Path.splitSlashes cs = first :: more ∧
    Path.splitSlashes (c :: cs) =
      if c = '/' then [] :: first :: more else (c :: first) :: more := by
  obtain ⟨front, last, -, hcs, -⟩ := splitSlashes_append List.not_mem_nil cs
  cases front with
  | nil => exact ⟨last, [], hcs, by rw [Path.splitSlashes, hcs]; rfl⟩
  | cons first front => exact ⟨first, front ++ [last], hcs, by rw [Path.splitSlashes, hcs]; rfl⟩

lemma splitSlashes_append_slash (h : '/' ∉ piece) (cs : List Char) :
    Path.splitSlashes (piece ++ '/' :: cs) = piece :: Path.splitSlashes cs := by
  induction piece with
  | nil =>
    obtain ⟨first, more, hcs, hslash⟩ := splitSlashes_cons '/' cs
    rw [List.nil_append, hslash, hcs, if_pos rfl]
  | cons c piece ih =>
    rw [List.mem_cons, not_or] at h
    obtain ⟨first, more, hrest, hcons⟩ := splitSlashes_cons c (piece ++ '/' :: cs)
    rw [ih h.2] at hrest
    cases hrest
    rw [List.cons_append, hcons, if_neg (Ne.symm h.1)]

lemma slash_not_mem_of_mem_splitSlashes (h : piece ∈ Path.splitSlashes cs) : '/' ∉ piece := by
  induction cs generalizing piece with
  | nil =>
    rw [List.mem_singleton.mp h]
    exact List.not_mem_nil
  | cons c cs ih =>
    obtain ⟨first, more, hcs, hcons⟩ := splitSlashes_cons c cs
    rw [hcs] at ih
    rw [hcons] at h
    split at h
    · rcases List.mem_cons.mp h with rfl | h
      · exact List.not_mem_nil
      · exact ih h
    · next hc =>
      rcases List.mem_cons.mp h with rfl | h
      · simpa [Ne.symm hc] using ih List.mem_cons_self
      · exact ih (List.mem_cons_of_mem first h)

lemma isWritten_ofText (s : String) : IsWritten (Path.ofText s) := by
  intro part hpart
  obtain ⟨hmem, hsays⟩ := List.mem_filter.mp hpart
  obtain ⟨piece, hpiece, rfl⟩ := List.mem_map.mp hmem
  rw [Bool.and_eq_true, bne_iff_ne, bne_iff_ne] at hsays
  refine ⟨?_, hsays⟩
  rw [String.toList_ofList]
  exact slash_not_mem_of_mem_splitSlashes hpiece

/-! ## Reading a path back -/

lemma splitSlashes_joined (h : ∀ part ∈ parts, IsPart part) (hsome : parts ≠ []) :
    Path.splitSlashes ("/".intercalate parts).toList = parts.map String.toList := by
  induction parts with
  | nil => exact absurd rfl hsome
  | cons part parts ih =>
    obtain ⟨⟨hslash, -⟩, hrest⟩ := List.forall_mem_cons.mp h
    cases parts with
    | nil => simp [splitSlashes_of_not_mem hslash]
    | cons next parts =>
      have hjoined : ("/".intercalate (part :: next :: parts)).toList =
          part.toList ++ '/' :: ("/".intercalate (next :: parts)).toList := by simp
      rw [hjoined, splitSlashes_append_slash hslash, ih hrest (List.cons_ne_nil _ _)]
      rfl

lemma partsOf_joined (h : ∀ part ∈ parts, IsPart part) :
    Path.partsOf ("/".intercalate parts).toList = parts := by
  by_cases hsome : parts = []
  · subst hsome
    rfl
  rw [Path.partsOf, splitSlashes_joined h hsome, List.map_map]
  have hsame : parts.map (String.ofList ∘ String.toList) = parts := by
    simp [Function.comp_def]
  rw [hsame, List.filter_eq_self]
  intro part hpart
  obtain ⟨-, hempty, hdot⟩ := h part hpart
  simp [hempty, hdot]

lemma partsOf_slash (cs : List Char) : Path.partsOf ('/' :: cs) = Path.partsOf cs := by
  have hsplit := splitSlashes_append_slash (List.not_mem_nil (a := '/')) cs
  rw [List.nil_append] at hsplit
  simp [Path.partsOf, hsplit]

/-- The first character of a list of names is no slash. -/
lemma head?_joined (h : ∀ part ∈ parts, IsPart part) :
    ("/".intercalate parts).toList.head? ≠ some '/' := by
  cases parts with
  | nil => simp
  | cons part parts =>
    obtain ⟨hslash, hempty, -⟩ := h part List.mem_cons_self
    obtain ⟨c, cs, hcs⟩ := List.exists_cons_of_ne_nil fun hnil => hempty (String.toList_eq_nil_iff.mp hnil)
    rw [hcs, List.mem_cons, not_or] at hslash
    cases parts <;> simp [hcs, Ne.symm hslash.1]

lemma startOf_of_head? (h : cs.head? ≠ some '/') :
    Path.startOf cs = .here ∧ Path.startOf ('/' :: cs) = .root ∧
      Path.startOf ('/' :: '/' :: cs) = .network := by
  cases cs with
  | nil => exact ⟨rfl, rfl, rfl⟩
  | cons c cs =>
    have hc : c ≠ '/' := by simpa using h
    refine ⟨?_, ?_, ?_⟩ <;> simp [Path.startOf, hc]

lemma toList_text (start : PathStart) (h : start ≠ .here ∨ parts ≠ []) :
    (Path.text ⟨start, parts⟩).toList = start.text.toList ++ ("/".intercalate parts).toList := by
  rw [Path.text, if_neg (not_and_or.mpr h), String.toList_append]

/-- A path is what its text says. -/
theorem ofText_text (h : IsWritten p) : Path.ofText p.text = p := by
  obtain ⟨start, parts⟩ := p
  obtain ⟨hhere, hroot, hnetwork⟩ := startOf_of_head? (head?_joined h)
  have hparts := partsOf_joined h
  dsimp only at hhere hroot hnetwork hparts
  by_cases hsome : start ≠ .here ∨ parts ≠ []
  · rw [Path.ofText, toList_text start hsome]
    cases start with
    | here => exact congrArg₂ Path.mk hhere hparts
    | root => exact congrArg₂ Path.mk hroot ((partsOf_slash _).trans hparts)
    | network =>
      exact congrArg₂ Path.mk hnetwork ((partsOf_slash _).trans ((partsOf_slash _).trans hparts))
  · rw [not_or, not_not, not_not] at hsome
    obtain ⟨rfl, rfl⟩ := hsome
    rfl

end HubProxy.Proofs
