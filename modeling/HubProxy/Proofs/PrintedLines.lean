import HubProxy.CSharp.Emit
import Mathlib.Data.List.Basic
import Mathlib.Tactic.Lemma

/-!
# Lines that are read back

A file is written line by line, blocks in braces and groups of lines with empty lines between them. Each
of these can be undone: the text gives the lines, a block its header and its body, and a sequence of
groups the groups, if no group can be mistaken for the start of another one.
-/

namespace HubProxy.Proofs

open CSharp

/-- Two lists are parted at the same place if what follows starts, in both, with the first entry of
some kind. -/
lemma append_inj_of_head {P : α → Prop} {xs xs' ys ys' : List α} (h : ∀ a ∈ xs, ¬P a)
    (h' : ∀ a ∈ xs', ¬P a) (hys : ∀ a ∈ ys.head?, P a) (hys' : ∀ a ∈ ys'.head?, P a)
    (heq : xs ++ ys = xs' ++ ys') : xs = xs' ∧ ys = ys' := by
  induction xs generalizing xs' with
  | nil =>
    cases xs' with
    | nil => exact ⟨rfl, heq⟩
    | cons a xs' =>
      have hhead : ys = a :: (xs' ++ ys') := heq
      exact absurd (hys a (by simp [hhead])) (h' a List.mem_cons_self)
  | cons a xs ih =>
    cases xs' with
    | nil =>
      have hhead : a :: (xs ++ ys) = ys' := heq
      exact absurd (hys' a (by simp [← hhead])) (h a List.mem_cons_self)
    | cons a' xs' =>
      obtain ⟨rfl, htail⟩ := List.cons.inj heq
      obtain ⟨rfl, hrest⟩ := ih (fun b hb => h b (List.mem_cons_of_mem a hb))
        (fun b hb => h' b (List.mem_cons_of_mem a hb)) htail
      exact ⟨rfl, hrest⟩

lemma append_cons_inj {a : α} {xs xs' ys ys' : List α} (h : a ∉ xs) (h' : a ∉ xs')
    (heq : xs ++ a :: ys = xs' ++ a :: ys') : xs = xs' ∧ ys = ys' := by
  obtain ⟨hxs, hys⟩ := append_inj_of_head (P := (· = a)) (fun b hb hba => h (hba ▸ hb))
    (fun b hb hba => h' (hba ▸ hb)) (by simp) (by simp) heq
  exact ⟨hxs, (List.cons.inj hys).2⟩

section Texts

variable {c : Char} {cs : List Char} {s s' t t' sep : String}

/-- A text is cut at a separator that starts with a character which is not before it. -/
lemma cut_inj (hsep : sep.toList = c :: cs) (hs : c ∉ s.toList) (hs' : c ∉ s'.toList)
    (h : s ++ (sep ++ t) = s' ++ (sep ++ t')) : s = s' ∧ t = t' := by
  have hlist := congrArg String.toList h
  simp only [String.toList_append, hsep, List.cons_append] at hlist
  obtain ⟨hhead, htail⟩ := append_cons_inj hs hs' hlist
  exact ⟨String.toList_inj.mp hhead, String.toList_inj.mp (List.append_cancel_left htail)⟩

/-- Texts differ if neither of their starts goes on with the other one. -/
lemma append_ne_append (h : ¬s.toList <+: s'.toList) (h' : ¬s'.toList <+: s.toList) :
    s ++ t ≠ s' ++ t' := by
  intro heq
  have hlist := congrArg String.toList heq
  rw [String.toList_append, String.toList_append] at hlist
  have hprefix : s'.toList <+: s.toList ++ t.toList := hlist ▸ List.prefix_append _ _
  exact (List.prefix_or_prefix_of_prefix (List.prefix_append _ _) hprefix).elim h h'

end Texts

section Lines

/-- A text that stands on a line of its own and shows where the line starts. -/
structure Sharp (content : String) : Prop where
  nonempty : content.toList ≠ []
  start : content.toList.head? ≠ some ' '
  inLine : '\n' ∉ content.toList

instance : DecidablePred Sharp := fun content =>
  decidable_of_iff
    (content.toList ≠ [] ∧ content.toList.head? ≠ some ' ' ∧ '\n' ∉ content.toList)
    ⟨fun ⟨hne, hstart, hline⟩ => ⟨hne, hstart, hline⟩, fun h => ⟨h.nonempty, h.start, h.inLine⟩⟩

/-- An empty line, or one with text that shows where it starts. -/
def SharpLine : Line → Prop
  | .text _ content => Sharp content
  | .gap => True

lemma Sharp.append {s t : String} (hs : Sharp s) (ht : '\n' ∉ t.toList) : Sharp (s ++ t) := by
  obtain ⟨c, cs, heq⟩ := List.exists_cons_of_ne_nil hs.nonempty
  refine ⟨by simp [heq], ?_, ?_⟩
  · have hstart := hs.start
    rw [heq] at hstart
    simpa [heq] using hstart
  · rw [String.toList_append]
    exact fun hmem => (List.mem_append.mp hmem).elim hs.inLine ht

lemma not_mem_render {line : Line} (h : SharpLine line) : '\n' ∉ line.render.toList := by
  cases line with
  | gap => simp [Line.render]
  | text depth content => simpa [Line.render] using h.inLine

/-- The spaces in front of a text and the text are found in the line. -/
lemma replicate_append_inj {n n' : Nat} {cs cs' : List Char} (hcs : cs.head? ≠ some ' ')
    (hcs' : cs'.head? ≠ some ' ') (h : List.replicate n ' ' ++ cs = List.replicate n' ' ' ++ cs') :
    n = n' ∧ cs = cs' := by
  induction n generalizing n' with
  | zero =>
    cases n' with
    | zero => exact ⟨rfl, h⟩
    | succ n' => exact absurd (congrArg List.head? h) hcs
  | succ n ih =>
    cases n' with
    | zero => exact absurd (congrArg List.head? h).symm hcs'
    | succ n' =>
      obtain ⟨hn, hrest⟩ := ih (List.cons.inj h).2
      exact ⟨congrArg (· + 1) hn, hrest⟩

lemma render_inj {line line' : Line} (h : SharpLine line) (h' : SharpLine line')
    (heq : line.render = line'.render) : line = line' := by
  have hlist := congrArg String.toList heq
  cases line with
  | gap =>
    cases line' with
    | gap => rfl
    | text depth content =>
      have hne : content.toList ≠ [] := h'.nonempty
      simp [Line.render, hne] at hlist
  | text depth content =>
    cases line' with
    | gap =>
      have hne : content.toList ≠ [] := h.nonempty
      simp [Line.render, hne] at hlist
    | text depth' content' =>
      simp only [Line.render, String.toList_append, String.toList_ofList] at hlist
      obtain ⟨hn, hcontent⟩ := replicate_append_inj h.start h'.start hlist
      obtain rfl : depth = depth' := by omega
      rw [String.toList_inj.mp hcontent]

/-- A text gives the lines that it was written from. -/
theorem join_render_inj {lines lines' : List Line} (h : ∀ line ∈ lines, SharpLine line)
    (h' : ∀ line ∈ lines', SharpLine line)
    (heq : String.join (lines.map fun line => line.render ++ "\n") =
      String.join (lines'.map fun line => line.render ++ "\n")) : lines = lines' := by
  induction lines generalizing lines' with
  | nil =>
    cases lines' with
    | nil => rfl
    | cons line' lines' => simpa [String.join_cons] using congrArg String.toList heq
  | cons line lines ih =>
    cases lines' with
    | nil => simpa [String.join_cons] using congrArg String.toList heq
    | cons line' lines' =>
      simp only [List.map_cons, String.join_cons, String.append_assoc] at heq
      obtain ⟨hline, hrest⟩ := cut_inj (c := '\n') rfl (not_mem_render (h line List.mem_cons_self))
        (not_mem_render (h' line' List.mem_cons_self)) heq
      rw [render_inj (h line List.mem_cons_self) (h' line' List.mem_cons_self) hline,
        ih (fun l hl => h l (List.mem_cons_of_mem line hl))
          (fun l hl => h' l (List.mem_cons_of_mem line' hl)) hrest]

end Lines

section Blocks

variable {header header' : String} {body body' rest rest' : List Line}

lemma deepen_inj {line line' : Line} (h : line.deepen = line'.deepen) : line = line' := by
  cases line <;> cases line' <;> simp_all [Line.deepen]

/-- Nothing inside a block stands as far out as its braces. -/
lemma text_zero_not_mem_deepen (content : String) : .text 0 content ∉ body.map Line.deepen := by
  intro hmem
  obtain ⟨line, -, heq⟩ := List.mem_map.mp hmem
  cases line <;> simp [Line.deepen] at heq

/-- A block ends at the first brace that stands as far out as its header. -/
lemma braced_append_inj (h : braced header body ++ rest = braced header' body' ++ rest') :
    header = header' ∧ body = body' ∧ rest = rest' := by
  simp only [braced, List.append_assoc, List.cons_append, List.nil_append] at h
  obtain ⟨hheader, h⟩ := List.cons.inj h
  obtain ⟨-, h⟩ := List.cons.inj h
  obtain ⟨hbody, hrest⟩ := append_cons_inj (text_zero_not_mem_deepen _) (text_zero_not_mem_deepen _) h
  exact ⟨(Line.text.inj hheader).2, List.map_injective_iff.mpr (fun _ _ => deepen_inj) hbody, hrest⟩

lemma braced_inj (h : braced header body = braced header' body') : header = header' ∧ body = body' := by
  have happend : braced header body ++ [] = braced header' body' ++ [] := by rw [h]
  obtain ⟨hheader, hbody, -⟩ := braced_append_inj happend
  exact ⟨hheader, hbody⟩

lemma sharpLine_deepen {line : Line} (h : SharpLine line) : SharpLine line.deepen := by
  cases line with
  | gap => exact h
  | text depth content => exact h

lemma sharpLines_braced (hheader : Sharp header) (hbody : ∀ line ∈ body, SharpLine line) :
    ∀ line ∈ braced header body, SharpLine line := by
  intro line hline
  simp only [braced, List.mem_append, List.mem_cons, List.not_mem_nil, or_false,
    List.mem_map] at hline
  rcases hline with ((rfl | rfl) | ⟨inner, hinner, rfl⟩) | rfl
  · exact hheader
  · exact (by decide : Sharp "\x7b")
  · exact sharpLine_deepen (hbody inner hinner)
  · exact (by decide : Sharp "\x7d")

end Blocks

section Groups

/-- Nothing, or lines that start with an empty one. -/
def Gapped (lines : List Line) : Prop :=
  ∀ line ∈ lines.head?, line = .gap

/-- Groups that are told from what comes after an empty line. -/
structure Separable (P : List Line → Prop) : Prop where
  nonempty : ∀ group, P group → group ≠ []
  cut : ∀ group group' rest rest', P group → P group' → Gapped rest → Gapped rest' →
    group ++ rest = group' ++ rest' → group = group' ∧ rest = rest'

lemma separate_cons (group : List Line) (groups : List (List Line)) :
    ∃ rest, Gapped rest ∧ separate (group :: groups) = group ++ rest ∧
      (rest = [] ↔ groups = []) ∧ (groups ≠ [] → rest = .gap :: separate groups) := by
  cases groups with
  | nil => exact ⟨[], by simp [Gapped], (List.append_nil group).symm, by simp, by simp⟩
  | cons next groups =>
    exact ⟨.gap :: separate (next :: groups), by simp [Gapped], rfl, by simp, by simp⟩

/-- The groups are found between the empty lines. -/
theorem separate_inj {P : List Line → Prop} (hP : Separable P) {groups groups' : List (List Line)}
    (h : ∀ group ∈ groups, P group) (h' : ∀ group ∈ groups', P group)
    (heq : separate groups = separate groups') : groups = groups' := by
  induction groups generalizing groups' with
  | nil =>
    cases groups' with
    | nil => rfl
    | cons group' groups' =>
      obtain ⟨rest', -, hsplit', -⟩ := separate_cons group' groups'
      rw [hsplit', separate] at heq
      exact absurd (List.append_eq_nil_iff.mp heq.symm).1
        (hP.nonempty group' (h' group' List.mem_cons_self))
  | cons group groups ih =>
    obtain ⟨rest, hgap, hsplit, hnil, hnext⟩ := separate_cons group groups
    cases groups' with
    | nil =>
      rw [hsplit, separate] at heq
      exact absurd (List.append_eq_nil_iff.mp heq).1 (hP.nonempty group (h group List.mem_cons_self))
    | cons group' groups' =>
      obtain ⟨rest', hgap', hsplit', hnil', hnext'⟩ := separate_cons group' groups'
      rw [hsplit, hsplit'] at heq
      obtain ⟨rfl, hrest⟩ := hP.cut group group' rest rest' (h group List.mem_cons_self)
        (h' group' List.mem_cons_self) hgap hgap' heq
      have hends : groups = [] ↔ groups' = [] := by rw [← hnil, ← hnil', hrest]
      by_cases hempty : groups = []
      · rw [hempty, hends.mp hempty]
      · rw [hnext hempty, hnext' (mt hends.mpr hempty)] at hrest
        rw [ih (fun g hg => h g (List.mem_cons_of_mem group hg))
          (fun g hg => h' g (List.mem_cons_of_mem group hg)) (List.cons.inj hrest).2]

/-- Groups without empty lines. -/
def Gapless (lines : List Line) : Prop :=
  lines ≠ [] ∧ .gap ∉ lines

lemma separable_gapless : Separable Gapless where
  nonempty _ h := h.1
  cut _ _ _ _ h h' := append_inj_of_head (P := (· = Line.gap)) (fun _ hline heq => h.2 (heq ▸ hline))
    (fun _ hline heq => h'.2 (heq ▸ hline))

/-- Groups that are blocks, whatever is inside them. -/
def IsBlock (lines : List Line) : Prop :=
  ∃ header body, lines = braced header body

lemma separable_isBlock : Separable IsBlock where
  nonempty := by
    rintro _ ⟨header, body, rfl⟩
    simp [braced]
  cut := by
    rintro _ _ rest rest' ⟨header, body, rfl⟩ ⟨header', body', rfl⟩ - - heq
    obtain ⟨rfl, rfl, hrest⟩ := braced_append_inj heq
    exact ⟨rfl, hrest⟩

lemma sharpLines_separate {groups : List (List Line)}
    (h : ∀ group ∈ groups, ∀ line ∈ group, SharpLine line) :
    ∀ line ∈ separate groups, SharpLine line := by
  induction groups with
  | nil => exact fun line hline => absurd hline List.not_mem_nil
  | cons group groups ih =>
    have htail := ih fun g hg => h g (List.mem_cons_of_mem group hg)
    have hgroup := h group List.mem_cons_self
    cases groups with
    | nil => exact hgroup
    | cons next groups =>
      intro line hline
      rcases List.mem_append.mp hline with hline | hline
      · exact hgroup line hline
      · rcases List.mem_cons.mp hline with rfl | hline
        · trivial
        · exact htail line hline

lemma gap_not_mem_braced {header : String} {body : List Line} (h : .gap ∉ body) :
    .gap ∉ braced header body := by
  intro hmem
  simp only [braced, List.mem_append, List.mem_cons, List.not_mem_nil, or_false,
    List.mem_map] at hmem
  rcases hmem with ((heq | heq) | ⟨line, hline, heq⟩) | heq
  · cases heq
  · cases heq
  · cases line with
    | gap => exact h hline
    | text depth content => cases heq
  · cases heq

end Groups

end HubProxy.Proofs
