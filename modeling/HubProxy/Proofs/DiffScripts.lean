import Mathlib.Data.List.Infix
import HubProxy.Diff.Unified

/-!
# Diffs tell texts apart

A script starts from the one text and ends with the other, whichever runs it is aligned by, so it
has a change if the texts differ. A change is shown in a hunk. The diff is empty for equal texts
only, since the lines of a text are the text again when they are joined.
-/

namespace HubProxy.Proofs

open Diff

/-! ## Lines -/

lemma splitLines_flatten (cs : List Char) : (Text.splitLines cs).flatten = cs := by
  fun_induction Text.splitLines cs with
  | case1 => rfl
  | case2 rest ih => simp [ih]
  | case3 c rest _ hbreak ih => simp [ih]
  | case4 c rest _ hbreak hlines ih =>
    rw [hlines] at ih
    simp [← ih]
  | case5 c rest _ hbreak line more hlines ih =>
    rw [hlines] at ih
    simp [← ih]

lemma join_linesOf (s : String) : String.join (linesOf s) = s := by
  rw [← String.toList_inj, linesOf, String.toList_join, List.flatMap_map]
  simpa [List.flatMap_id'] using splitLines_flatten s.toList

lemma linesOf_inj {s t : String} : linesOf s = linesOf t ↔ s = t :=
  ⟨fun h => by rw [← join_linesOf s, h, join_linesOf], fun h => h ▸ rfl⟩

/-! ## Scripts -/

lemma commonStart_prefix_left (xs ys : List String) : commonStart xs ys <+: xs := by
  fun_induction commonStart xs ys with
  | case1 x xs ys ih => exact List.cons_prefix_cons.mpr ⟨rfl, ih⟩
  | case2 => exact List.nil_prefix
  | case3 => exact List.nil_prefix

lemma commonStart_prefix_right (xs ys : List String) : commonStart xs ys <+: ys := by
  fun_induction commonStart xs ys with
  | case1 x xs ys ih => exact List.cons_prefix_cons.mpr ⟨rfl, ih⟩
  | case2 => exact List.nil_prefix
  | case3 => exact List.nil_prefix

/-- What stands before a run, the run and what stands behind it are all there is. -/
lemma take_append_run {xs run : List String} {i : Nat} (h : run <+: xs.drop i) :
    xs.take i ++ run ++ xs.drop (i + run.length) = xs := by
  obtain ⟨rest, hrest⟩ := h
  rw [← List.drop_drop, ← hrest, List.drop_left, List.append_assoc, hrest, List.take_append_drop]

lemma before_append (s t : List Edit) : before (s ++ t) = before s ++ before t :=
  List.filterMap_append

lemma after_append (s t : List Edit) : after (s ++ t) = after s ++ after t :=
  List.filterMap_append

@[simp] lemma before_map_keep (lines : List String) : before (lines.map .keep) = lines := by
  simp [before, Edit.before?, Function.comp_def]

@[simp] lemma after_map_keep (lines : List String) : after (lines.map .keep) = lines := by
  simp [after, Edit.after?, Function.comp_def]

lemma before_replace (xs ys : List String) : before (xs.map .remove ++ ys.map .add) = xs := by
  simp [before, Edit.before?, Function.comp_def]

lemma after_replace (xs ys : List String) : after (xs.map .remove ++ ys.map .add) = ys := by
  simp [after, Edit.after?, Function.comp_def]

/-- A script starts from the first text, -/
lemma before_scriptWith (isAnchor : String → Bool) (depth : Nat) (xs ys : List String) :
    before (scriptWith isAnchor depth xs ys) = xs := by
  induction depth generalizing xs ys with
  | zero => exact before_replace xs ys
  | succ depth ih =>
    unfold scriptWith
    dsimp only
    split
    · exact before_replace xs ys
    · rw [before_append, before_append, ih, ih, before_map_keep]
      exact take_append_run (commonStart_prefix_left _ _)

/-- and it ends with the second one. -/
lemma after_scriptWith (isAnchor : String → Bool) (depth : Nat) (xs ys : List String) :
    after (scriptWith isAnchor depth xs ys) = ys := by
  induction depth generalizing xs ys with
  | zero => exact after_replace xs ys
  | succ depth ih =>
    unfold scriptWith
    dsimp only
    split
    · exact after_replace xs ys
    · rw [after_append, after_append, ih, ih, after_map_keep]
      exact take_append_run (commonStart_prefix_right _ _)

theorem before_script (xs ys : List String) : before (script xs ys) = xs :=
  before_scriptWith _ _ xs ys

theorem after_script (xs ys : List String) : after (script xs ys) = ys :=
  after_scriptWith _ _ xs ys

lemma before_eq_after {edits : List Edit} (h : ∀ e ∈ edits, e.isKeep = true) :
    before edits = after edits := by
  apply List.filterMap_congr
  intro e he
  cases e with
  | keep line => rfl
  | remove | add => cases h _ he

/-- A script of a text that becomes another one changes a line. -/
lemma exists_change {xs ys : List String} (h : xs ≠ ys) :
    ∃ e ∈ script xs ys, e.isKeep = false := by
  by_contra hnone
  have hkeep : ∀ e ∈ script xs ys, e.isKeep = true := by
    intro e he
    by_contra hchange
    exact hnone ⟨e, he, by simpa using hchange⟩
  have heq := before_eq_after hkeep
  rw [before_script, after_script] at heq
  exact h heq

/-! ## Hunks -/

lemma length_nearPrevious (near : Nat) (edits : List Edit) :
    (nearPrevious near edits).length = edits.length := by
  induction edits generalizing near with
  | nil => rfl
  | cons e edits ih =>
    unfold nearPrevious
    split <;> simp [ih]

/-- A change is near itself. -/
lemma getElem?_nearPrevious {near k : Nat} {edits : List Edit} {e : Edit} (hk : edits[k]? = some e)
    (he : e.isKeep = false) : (nearPrevious near edits)[k]? = some true := by
  induction edits generalizing near k with
  | nil => simp at hk
  | cons first edits ih =>
    unfold nearPrevious
    cases k with
    | zero =>
      obtain rfl : first = e := by simpa using hk
      simp [he]
    | succ k =>
      rw [List.getElem?_cons_succ] at hk
      split
      · rw [List.getElem?_cons_succ, ih hk]
      · rw [List.getElem?_cons_succ, ih hk]

lemma mem_marked {edits : List Edit} {e : Edit} (he : e ∈ edits) (hchange : e.isKeep = false) :
    (e, true) ∈ edits.zip (nearChange edits) := by
  obtain ⟨k, hk⟩ := List.mem_iff_getElem?.mp he
  have hfirst : (nearPrevious 0 edits)[k]? = some true := getElem?_nearPrevious hk hchange
  have hlt : k < (nearPrevious 0 edits.reverse).reverse.length := by
    rw [List.length_reverse, length_nearPrevious, List.length_reverse]
    exact (List.getElem?_eq_some_iff.mp hk).1
  refine List.mem_iff_getElem?.mpr ⟨k, ?_⟩
  rw [List.getElem?_zip_eq_some]
  refine ⟨hk, ?_⟩
  rw [nearChange, List.getElem?_zipWith, hfirst, List.getElem?_eq_getElem hlt]
  rfl

lemma cutHunks_ne_nil {first second : Nat} {marked : List (Edit × Bool)} {e : Edit}
    (h : (e, true) ∈ marked) : cutHunks first second marked ≠ [] := by
  induction marked generalizing first second with
  | nil => exact absurd h List.not_mem_nil
  | cons p marked ih =>
    obtain ⟨edit, shown⟩ := p
    unfold cutHunks
    cases shown with
    | true =>
      dsimp only
      rw [if_pos rfl]
      split <;> exact List.cons_ne_nil _ _
    | false => exact ih ((List.mem_cons.mp h).resolve_left fun heq => by cases heq)

/-- Texts that differ have a diff that is not empty. -/
theorem unified_ne_empty {old new : String} (name : String) (h : old ≠ new) :
    unified name old new ≠ "" := by
  obtain ⟨e, he, hchange⟩ := exists_change fun heq => h (linesOf_inj.mp heq)
  have hhunks : hunks (script (linesOf old) (linesOf new)) ≠ [] :=
    cutHunks_ne_nil (mem_marked he hchange)
  rw [unified, render, if_neg (by simpa using hhunks), String.join_cons]
  intro hempty
  have hlength := congrArg String.length hempty
  simp at hlength

end HubProxy.Proofs
