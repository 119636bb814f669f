import HubProxy.Proofs.Patches
import HubProxy.Proofs.SelfAlignment

/-!
# Diffs are patches

The diff of two texts, read as a patch and applied to the one, makes the other of it. The hunks follow
from the marks on the script: whatever is not shown is kept, so that between two hunks both texts have
the same lines.
-/

namespace HubProxy.Proofs

open Diff

section Hunks

/-- Hunks that lead from lines to other ones, given how many lines of either text are behind. Between
hunks lines are kept. -/
inductive Patches : Nat → Nat → List Hunk → List String → List String → Prop
  | done {old new : Nat} (lines : List String) : Patches old new [] lines lines
  | hunk {old new : Nat} {h : Hunk} {hunks : List Hunk} {xs ys : List String} (kept : List String)
      (hfirst : h.first = old + kept.length) (hsecond : h.second = new + kept.length)
      (hrest : Patches (h.first + (before h.edits).length) (h.second + (after h.edits).length)
        hunks xs ys) :
      Patches old new (h :: hunks) (kept ++ before h.edits ++ xs) (kept ++ after h.edits ++ ys)

lemma Patches.applyHunks {old new : Nat} {hunks : List Hunk} {xs ys : List String}
    (h : Patches old new hunks xs ys) : applyHunks old new (hunks.map stated) xs = some ys := by
  induction h with
  | done lines => rfl
  | @hunk old new h hunks xs ys kept hfirst hsecond _ ih =>
    have hold : (stated h).old.offset = old + kept.length := by
      rw [stated, offset_statedRange, hfirst]
    have hnew : (stated h).new.offset = new + kept.length := by
      rw [stated, offset_statedRange, hsecond]
    have hcount : (stated h).old.count = (before h.edits).length ∧
        (stated h).new.count = (after h.edits).length ∧ (stated h).edits = h.edits :=
      ⟨rfl, rfl, rfl⟩
    have hgap : old + kept.length - old = kept.length := Nat.add_sub_cancel_left _ _
    have hdrop : (kept ++ before h.edits ++ xs).drop (kept.length + (before h.edits).length) = xs := by
      rw [← List.length_append, List.drop_left]
    rw [hfirst, hsecond] at ih
    rw [List.map_cons, Proofs.applyHunks, hold, hnew, hcount.1, hcount.2.1, hcount.2.2, hgap, hdrop, ih,
      List.append_assoc, List.drop_left, List.take_left, if_pos]
    · rfl
    · exact ⟨by omega, by simp, rfl, rfl, rfl, List.prefix_append _ _⟩

/-- A line that is kept in front of the next hunk. -/
lemma Patches.keep {old new : Nat} {hunks : List Hunk} {xs ys : List String}
    (h : Patches (old + 1) (new + 1) hunks xs ys) (line : String) :
    Patches old new hunks (line :: xs) (line :: ys) := by
  cases h with
  | done => exact .done _
  | hunk kept hfirst hsecond hrest =>
    refine .hunk (line :: kept) ?_ ?_ hrest
    · rw [hfirst, List.length_cons]
      omega
    · rw [hsecond, List.length_cons]
      omega

/-- An edit in front of a hunk that starts at once becomes part of it. -/
lemma Patches.extend {old new : Nat} {e : Edit} {h : Hunk} {hunks : List Hunk} {xs ys : List String}
    (hpatch : Patches (old + e.before?.toList.length) (new + e.after?.toList.length) (h :: hunks) xs ys)
    (hfirst : h.first = old + e.before?.toList.length) :
    Patches old new (⟨old, new, e :: h.edits⟩ :: hunks) (e.before?.toList ++ xs)
      (e.after?.toList ++ ys) := by
  cases hpatch with
  | @hunk _ _ _ _ xs ys kept hfirst' hsecond hrest =>
    obtain rfl : kept = [] := by
      apply List.eq_nil_of_length_eq_zero
      omega
    have hall : Patches old new (⟨old, new, e :: h.edits⟩ :: hunks)
        ([] ++ before (e :: h.edits) ++ xs) ([] ++ after (e :: h.edits) ++ ys) := by
      refine .hunk [] rfl rfl ?_
      simp only [before_cons, after_cons, List.length_append, ← Nat.add_assoc]
      rw [hfirst, hsecond] at hrest
      exact hrest
    simpa [before_cons, after_cons] using hall

/-- What is not shown is kept. -/
def HidesKept (marked : List (Edit × Bool)) : Prop :=
  ∀ p ∈ marked, p.2 = false → p.1.isKeep = true

/-- A hunk starts where the first edit is that is shown. -/
lemma head_cutHunks {first second : Nat} {edit : Edit} {rest : List (Edit × Bool)} {h : Hunk}
    {hunks : List Hunk} (hcut : cutHunks first second ((edit, true) :: rest) = h :: hunks) :
    h.first = first ∧ h.second = second := by
  unfold cutHunks at hcut
  dsimp only at hcut
  rw [if_pos rfl] at hcut
  split at hcut
  all_goals
    obtain ⟨rfl, -⟩ := List.cons.inj hcut
    exact ⟨rfl, rfl⟩

/-- How an edit that is shown goes on: it becomes part of the hunk after it or ends its own. -/
lemma cutHunks_shown (first second : Nat) (edit : Edit) (rest : List (Edit × Bool)) :
    (∃ h hunks, cutHunks (first + edit.before?.toList.length) (second + edit.after?.toList.length)
        rest = h :: hunks ∧ h.first = first + edit.before?.toList.length ∧
        h.second = second + edit.after?.toList.length ∧
        cutHunks first second ((edit, true) :: rest) = ⟨first, second, edit :: h.edits⟩ :: hunks) ∨
      (∀ e, rest.head? ≠ some (e, true)) ∧
        cutHunks first second ((edit, true) :: rest) = ⟨first, second, [edit]⟩ ::
          cutHunks (first + edit.before?.toList.length) (second + edit.after?.toList.length) rest := by
  cases rest with
  | nil => exact .inr ⟨by simp, rfl⟩
  | cons p rest =>
    obtain ⟨e, shown⟩ := p
    cases shown with
    | false => exact .inr ⟨by simp, rfl⟩
    | true =>
      have hne : cutHunks (first + edit.before?.toList.length)
          (second + edit.after?.toList.length) ((e, true) :: rest) ≠ [] :=
        cutHunks_ne_nil List.mem_cons_self
      obtain ⟨h, hunks, hcut⟩ := List.exists_cons_of_ne_nil hne
      obtain ⟨hfirst, hsecond⟩ := head_cutHunks hcut
      refine .inl ⟨h, hunks, hcut, hfirst, hsecond, ?_⟩
      rw [cutHunks]
      exacts [rfl, hcut]

lemma patches_cutHunks {marked : List (Edit × Bool)} (hkept : HidesKept marked)
    (first second : Nat) :
    Patches first second (cutHunks first second marked) (before (marked.map (·.1)))
      (after (marked.map (·.1))) := by
  induction marked generalizing first second with
  | nil => exact .done []
  | cons p marked ih =>
    obtain ⟨edit, shown⟩ := p
    have hlater := ih (fun q hq => hkept q (List.mem_cons_of_mem _ hq))
      (first + edit.before?.toList.length) (second + edit.after?.toList.length)
    rw [List.map_cons, before_cons, after_cons]
    cases shown with
    | false =>
      have hkeep : edit.isKeep = true := hkept _ List.mem_cons_self rfl
      cases edit with
      | keep line => exact hlater.keep line
      | remove | add => cases hkeep
    | true =>
      rcases cutHunks_shown first second edit marked with
        ⟨h, hunks, hcut, hfirst, -, hall⟩ | ⟨-, hall⟩
      · rw [hcut] at hlater
        rw [hall]
        exact hlater.extend hfirst
      · have hone : Patches first second (cutHunks first second ((edit, true) :: marked))
            ([] ++ before [edit] ++ before (marked.map (·.1)))
            ([] ++ after [edit] ++ after (marked.map (·.1))) := by
          rw [hall]
          refine .hunk [] rfl rfl ?_
          simpa [before_cons, after_cons] using hlater
        simpa [before_cons, after_cons] using hone

/-- Whether a hunk lies in front of another one in both texts, with lines between them. -/
def Precedes (h k : Hunk) : Prop :=
  h.first + (before h.edits).length < k.first ∧ h.second + (after h.edits).length < k.second

/-- The lines that are surely in front of the first hunk. -/
def hiddenFirst : List (Edit × Bool) → Nat
  | (_, false) :: _ => 1
  | _ => 0

lemma hiddenFirst_eq_one {marked : List (Edit × Bool)} {first second : Nat} {h : Hunk}
    (hh : h ∈ cutHunks first second marked) (hhead : ∀ e, marked.head? ≠ some (e, true)) :
    hiddenFirst marked = 1 := by
  cases marked with
  | nil => exact absurd hh List.not_mem_nil
  | cons p marked =>
    obtain ⟨edit, shown⟩ := p
    cases shown with
    | false => rfl
    | true => exact absurd rfl (hhead edit)

lemma ordered_cutHunks {marked : List (Edit × Bool)} (hkept : HidesKept marked)
    (first second : Nat) :
    (cutHunks first second marked).Pairwise Precedes ∧
      ∀ h ∈ cutHunks first second marked,
        first + hiddenFirst marked ≤ h.first ∧ second + hiddenFirst marked ≤ h.second := by
  induction marked generalizing first second with
  | nil => exact ⟨.nil, fun h hh => absurd hh List.not_mem_nil⟩
  | cons p marked ih =>
    obtain ⟨edit, shown⟩ := p
    obtain ⟨hpairs, hlater⟩ := ih (fun q hq => hkept q (List.mem_cons_of_mem _ hq))
      (first + edit.before?.toList.length) (second + edit.after?.toList.length)
    cases shown with
    | false =>
      have hkeep : edit.isKeep = true := hkept _ List.mem_cons_self rfl
      cases edit with
      | keep line =>
        refine ⟨hpairs, fun h hh => ?_⟩
        obtain ⟨hfirst, hsecond⟩ := hlater h hh
        exact ⟨Nat.le_trans (Nat.le_add_right _ _) hfirst, Nat.le_trans (Nat.le_add_right _ _) hsecond⟩
      | remove | add => cases hkeep
    | true =>
      rcases cutHunks_shown first second edit marked with
        ⟨h, hunks, hcut, hfirst, hsecond, hall⟩ | ⟨hnext, hall⟩
      · rw [hcut, List.pairwise_cons] at hpairs
        rw [hall, List.pairwise_cons]
        refine ⟨⟨fun k hk => ?_, hpairs.2⟩, fun k hk => ?_⟩
        · obtain ⟨hbefore, hafter⟩ := hpairs.1 k hk
          simp only [Precedes, before_cons, after_cons, List.length_append]
          omega
        · rcases List.mem_cons.mp hk with rfl | hk
          · exact ⟨Nat.le_refl _, Nat.le_refl _⟩
          · obtain ⟨hbefore, hafter⟩ := hlater k (hcut ▸ List.mem_cons_of_mem h hk)
            simp only [hiddenFirst]
            omega
      · have hhidden : ∀ k ∈ cutHunks (first + edit.before?.toList.length)
            (second + edit.after?.toList.length) marked,
            first + edit.before?.toList.length < k.first ∧
              second + edit.after?.toList.length < k.second := by
          intro k hk
          obtain ⟨hbefore, hafter⟩ := hlater k hk
          rw [hiddenFirst_eq_one hk hnext] at hbefore hafter
          exact ⟨hbefore, hafter⟩
        rw [hall, List.pairwise_cons]
        refine ⟨⟨fun k hk => ?_, hpairs⟩, fun k hk => ?_⟩
        · simpa [Precedes, before_cons, after_cons] using hhidden k hk
        · rcases List.mem_cons.mp hk with rfl | hk
          · exact ⟨Nat.le_refl _, Nat.le_refl _⟩
          · have := hhidden k hk
            simp only [hiddenFirst]
            omega

lemma length_nearChange (edits : List Edit) : (nearChange edits).length = edits.length := by
  simp [nearChange, length_nearPrevious]

lemma hidesKept_nearChange (edits : List Edit) : HidesKept (edits.zip (nearChange edits)) := by
  rintro ⟨e, shown⟩ hmem hhidden
  obtain rfl : shown = false := hhidden
  obtain ⟨k, hk⟩ := List.mem_iff_getElem?.mp hmem
  rw [List.getElem?_zip_eq_some] at hk
  by_contra hchange
  have hmarked : (nearPrevious 0 edits)[k]? = some true :=
    getElem?_nearPrevious hk.1 (by simpa using hchange)
  have hshown := hk.2
  rw [nearChange, List.getElem?_zipWith, hmarked] at hshown
  cases hother : (nearPrevious 0 edits.reverse).reverse[k]? with
  | none => simp [hother] at hshown
  | some other => simp [hother] at hshown

/-- The hunks of a script are a patch for the text that it starts from. -/
lemma patches_hunks (edits : List Edit) : Patches 0 0 (hunks edits) (before edits) (after edits) := by
  have hpatch := patches_cutHunks (hidesKept_nearChange edits) 0 0
  rwa [List.map_fst_zip (Nat.le_of_eq (length_nearChange edits).symm)] at hpatch

end Hunks

/-- The lines that the diff of two texts is joined from. -/
def diffLines (name old new : String) : List String :=
  render name (hunks (script (linesOf old) (linesOf new)))

theorem unified_patches (name old new : String) :
    unified name old new = String.join (diffLines name old new) ∧
    (∃ patch, readPatch (diffLines name old new) = some patch ∧
      applyHunks 0 0 patch (linesOf old) = some (linesOf new) ∧
      (∀ h ∈ patch, h.old.count = (before h.edits).length ∧
        h.new.count = (after h.edits).length) ∧
      patch.Pairwise fun h k => h.old.offset + h.old.count < k.old.offset ∧
        h.new.offset + h.new.count < k.new.offset) ∧
    String.join (linesOf old) = old ∧ String.join (linesOf new) = new ∧
    (unified name old new = "" ↔ old = new) := by
  have hpatch := (patches_hunks (script (linesOf old) (linesOf new))).applyHunks
  rw [before_script, after_script] at hpatch
  have hordered := (ordered_cutHunks (hidesKept_nearChange (script (linesOf old) (linesOf new)))
    0 0).1
  refine ⟨rfl, ⟨_, readPatch_render _ _, hpatch, fun h hh => ?_, ?_⟩, join_linesOf old,
    join_linesOf new, ?_⟩
  · obtain ⟨h, -, rfl⟩ := List.mem_map.mp hh
    exact ⟨rfl, rfl⟩
  · refine List.pairwise_map.mpr (hordered.imp fun {h k} hprecedes => ?_)
    simp only [stated, offset_statedRange]
    exact hprecedes
  · constructor
    · intro hempty
      by_contra hne
      exact unified_ne_empty name hne hempty
    · rintro rfl
      exact unified_self name old

end HubProxy.Proofs
