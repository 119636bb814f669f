import HubProxy.Proofs.DiffScripts

/-!
# A text compared with itself

The longest run that a text has in common with itself lies along the text: no run that ends at a line
is longer than the one that does so in both copies at once, and a run against an earlier line was met
before, the other way round. So the text is aligned with itself, its script keeps every line, and there
is nothing to show.
-/

namespace HubProxy.Proofs

open Diff

section Alignment

variable (isAnchor : String → Bool) (xs : List String)

/-- Whether two lines of a text are one and the same anchor. -/
def sameAnchor (i j : Nat) : Bool :=
  match xs[i]?, xs[j]? with
  | some x, some y => x == y && isAnchor y
  | _, _ => false

/-- The length of the run of anchors that ends at two lines of a text. -/
def runAt : Nat → Nat → Nat
  | i + 1, j + 1 => if sameAnchor isAnchor xs (i + 1) (j + 1) then runAt i j + 1 else 0
  | i, j => if sameAnchor isAnchor xs i j then 1 else 0

lemma sameAnchor_comm (i j : Nat) : sameAnchor isAnchor xs i j = sameAnchor isAnchor xs j i := by
  unfold sameAnchor
  cases xs[i]? <;> cases xs[j]? <;> try rfl
  next x y =>
    by_cases h : x = y
    · rw [h]
    · dsimp only
      rw [beq_false_of_ne h, beq_false_of_ne (Ne.symm h), Bool.false_and, Bool.false_and]

lemma sameAnchor_self {i j : Nat} (h : sameAnchor isAnchor xs i j = true) :
    sameAnchor isAnchor xs i i = true := by
  unfold sameAnchor at h ⊢
  split at h
  · next x y hx hy =>
    rw [Bool.and_eq_true, beq_iff_eq] at h
    simp [hx, h]
  · cases h

lemma runAt_comm (i j : Nat) : runAt isAnchor xs i j = runAt isAnchor xs j i := by
  induction i generalizing j with
  | zero => cases j with
    | zero => rfl
    | succ j =>
      simp only [runAt]
      rw [sameAnchor_comm]
  | succ i ih => cases j with
    | zero =>
      simp only [runAt]
      rw [sameAnchor_comm]
    | succ j => rw [runAt, runAt, sameAnchor_comm, ih j]

/-- No run that ends at a line is longer than that along the text itself. -/
lemma runAt_le_self (i j : Nat) : runAt isAnchor xs i j ≤ runAt isAnchor xs i i := by
  induction i generalizing j with
  | zero =>
    cases h : sameAnchor isAnchor xs 0 j with
    | false => simp [runAt, h]
    | true => simp [runAt, h, sameAnchor_self isAnchor xs h]
  | succ i ih =>
    cases j with
    | zero =>
      cases h : sameAnchor isAnchor xs (i + 1) 0 with
      | false => simp [runAt, h]
      | true => simp [runAt, h, sameAnchor_self isAnchor xs h]
    | succ j =>
      cases h : sameAnchor isAnchor xs (i + 1) (j + 1) with
      | false => simp [runAt, h]
      | true => simpa [runAt, h, sameAnchor_self isAnchor xs h] using ih j

/-- The lengths of the runs that end at a line, for each line that they are compared with. -/
def runRow (i : Nat) : List Nat :=
  (List.range xs.length).map (runAt isAnchor xs i)

/-- The lengths that are known when a line is reached. -/
def rowBefore : Nat → List Nat
  | 0 => xs.map fun _ => 0
  | i + 1 => runRow isAnchor xs i

lemma runLengths_rowBefore {i : Nat} {line : String} (hline : xs[i]? = some line) :
    runLengths isAnchor line xs (rowBefore isAnchor xs i) = runRow isAnchor xs i := by
  apply List.ext_getElem?
  intro j
  rw [runLengths, List.getElem?_zipWith, runRow, List.getElem?_map]
  cases hj : xs[j]? with
  | none =>
    have hlength : xs.length ≤ j := List.getElem?_eq_none_iff.mp hj
    simp [hlength]
  | some other =>
    have hlength : j < xs.length := (List.getElem?_eq_some_iff.mp hj).1
    have hsame : sameAnchor isAnchor xs i j = (line == other && isAnchor other) := by
      simp [sameAnchor, hline, hj]
    rw [List.getElem?_range hlength]
    cases i with
    | zero => cases j with
      | zero => simp [runAt, hsame]
      | succ j =>
        have hprevious : j < xs.length := by omega
        simp [runAt, hsame, rowBefore, hprevious]
    | succ i => cases j with
      | zero => simp [runAt, hsame]
      | succ j =>
        have hprevious : j < xs.length := by omega
        simp [runAt, hsame, rowBefore, runRow, hprevious]

/-- Runs that are no longer than the best one leave it. -/
lemma improve_of_le {best : Run} {lengths : List Nat} (first : Nat)
    (h : ∀ l ∈ lengths, l ≤ best.length) (start : Nat) :
    (lengths.zipIdx start).foldl (fun best (length, second) =>
      if best.length < length then ⟨first + 1 - length, second + 1 - length, length⟩ else best)
      best = best := by
  induction lengths generalizing start with
  | nil => rfl
  | cons l lengths ih =>
    have hl : ¬best.length < l := Nat.not_lt.mpr (h l List.mem_cons_self)
    rw [List.zipIdx_cons, List.foldl_cons]
    dsimp only
    rw [if_neg hl]
    exact ih (fun l' hl' => h l' (List.mem_cons_of_mem l hl')) (start + 1)

/-- Among the runs that end at a line the first longest one counts, if it is better. -/
lemma improve_eq {best : Run} {front back : List Nat} {longest : Nat} (first : Nat)
    (hfront : ∀ l ∈ front, l ≤ best.length) (hback : ∀ l ∈ back, l ≤ longest) :
    best.improve first (front ++ longest :: back) =
      if best.length < longest then
        ⟨first + 1 - longest, front.length + 1 - longest, longest⟩ else best := by
  rw [Run.improve, List.zipIdx_append, List.foldl_append, improve_of_le first hfront,
    List.zipIdx_cons, List.foldl_cons, Nat.zero_add]
  dsimp only
  split
  · exact improve_of_le first hback _
  · next hbest => exact improve_of_le first (fun l hl => (hback l hl).trans (Nat.not_lt.mp hbest)) _

/-- What is known of the best run when a line is reached. -/
structure Diagonal (i : Nat) (best : Run) : Prop where
  same : best.first = best.second
  le : best.first ≤ i
  longest : ∀ i' < i, ∀ j, runAt isAnchor xs i' j ≤ best.length

lemma Diagonal.improve {i : Nat} {best : Run} (h : Diagonal isAnchor xs i best)
    (hi : i < xs.length) : Diagonal isAnchor xs (i + 1) (best.improve i (runRow isAnchor xs i)) := by
  obtain ⟨back, hback⟩ : ∃ back, List.range xs.length = List.range i ++ i :: back := by
    obtain ⟨k, hk⟩ : ∃ k, xs.length = i + 1 + k := ⟨xs.length - (i + 1), by omega⟩
    refine ⟨(List.range k).map (i + 1 + ·), ?_⟩
    rw [hk, List.range_add, List.range_succ]
    simp
  -- The run along the text is a longest one, and one against an earlier line was met there before.
  have hfront : ∀ l ∈ (List.range i).map (runAt isAnchor xs i), l ≤ best.length := by
    intro l hl
    obtain ⟨j, hj, rfl⟩ := List.mem_map.mp hl
    rw [runAt_comm]
    exact h.longest j (List.mem_range.mp hj) i
  have hmost : ∀ l ∈ back.map (runAt isAnchor xs i), l ≤ runAt isAnchor xs i i := by
    intro l hl
    obtain ⟨j, -, rfl⟩ := List.mem_map.mp hl
    exact runAt_le_self isAnchor xs i j
  rw [runRow, hback, List.map_append, List.map_cons, improve_eq i hfront hmost, List.length_map,
    List.length_range]
  split
  · refine ⟨rfl, Nat.sub_le _ _, fun i' hi' j => ?_⟩
    rcases Nat.lt_succ_iff_lt_or_eq.mp hi' with hlt | rfl
    · exact (h.longest i' hlt j).trans (by dsimp only; omega)
    · exact runAt_le_self isAnchor xs i' j
  · next hbest =>
    refine ⟨h.same, h.le.trans (Nat.le_succ i), fun i' hi' j => ?_⟩
    rcases Nat.lt_succ_iff_lt_or_eq.mp hi' with hlt | rfl
    · exact h.longest i' hlt j
    · exact (runAt_le_self isAnchor xs i' j).trans (Nat.not_lt.mp hbest)

/-- What one line does to the best run so far and the lengths of the runs that end at the line
before. -/
def runStep (state : Run × List Nat) (entry : String × Nat) : Run × List Nat :=
  (state.1.improve entry.2 (runLengths isAnchor entry.1 xs state.2),
    runLengths isAnchor entry.1 xs state.2)

lemma diagonal_longestRun : Diagonal isAnchor xs xs.length (longestRun isAnchor xs xs) := by
  have hrun : ∀ (front back : List String) (best : Run), xs = front ++ back →
      Diagonal isAnchor xs front.length best →
      Diagonal isAnchor xs xs.length ((back.zipIdx front.length).foldl (runStep isAnchor xs)
        (best, rowBefore isAnchor xs front.length)).1 := by
    intro front back
    induction back generalizing front with
    | nil =>
      intro best heq hbest
      have hlength : xs.length = front.length := by rw [heq, List.append_nil]
      rw [hlength]
      exact hbest
    | cons line back ih =>
      intro best heq hbest
      have hline : xs[front.length]? = some line := by
        rw [heq, List.getElem?_append_right (Nat.le_refl _), Nat.sub_self]
        rfl
      have hlt : front.length < xs.length := (List.getElem?_eq_some_iff.mp hline).1
      have hlength : (front ++ [line]).length = front.length + 1 := List.length_append
      have hnext := ih (front ++ [line])
        (best.improve front.length (runRow isAnchor xs front.length)) (by simp [heq])
        (by rw [hlength]; exact hbest.improve isAnchor xs hlt)
      rw [List.zipIdx_cons, List.foldl_cons, runStep]
      dsimp only
      rw [runLengths_rowBefore isAnchor xs hline]
      rwa [hlength] at hnext
  exact hrun [] xs ⟨0, 0, 0⟩ rfl ⟨rfl, Nat.le_refl 0, fun _ hi' => absurd hi' (Nat.not_lt_zero _)⟩

lemma commonStart_self (xs : List String) : commonStart xs xs = xs := by
  induction xs with
  | nil => rfl
  | cons x xs ih => rw [commonStart, if_pos rfl, ih]

/-- A text is aligned with itself from its first line on. -/
lemma alignment_self : alignment isAnchor xs xs = (0, 0) := by
  have hrun := diagonal_longestRun isAnchor xs
  unfold alignment commonEnd
  dsimp only
  rw [← hrun.same, commonStart_self, List.length_reverse, List.length_take,
    Nat.min_eq_left hrun.le, Nat.sub_self]

lemma scriptWith_nil (depth : Nat) : scriptWith isAnchor depth [] [] = [] := by
  cases depth with
  | zero => rfl
  | succ depth => simp [scriptWith, commonStart]

/-- A script from a text to itself keeps every line. -/
lemma script_self : script xs xs = xs.map .keep := by
  unfold script scriptWith
  dsimp only
  rw [alignment_self]
  dsimp only
  rw [List.drop_zero, commonStart_self, List.take_zero, scriptWith_nil, Nat.zero_add,
    List.drop_length, scriptWith_nil, List.append_nil, List.nil_append]
  cases xs <;> rfl

end Alignment

lemma nearPrevious_keep (lines : List String) :
    nearPrevious 0 (lines.map .keep) = lines.map fun _ => false := by
  induction lines with
  | nil => rfl
  | cons line lines ih =>
    have hkeep : (Edit.keep line).isKeep = true := rfl
    rw [List.map_cons, nearPrevious, if_pos hkeep, List.map_cons, ← ih]
    rfl

lemma cutHunks_hidden {marked : List (Edit × Bool)} (h : ∀ p ∈ marked, p.2 = false)
    (first second : Nat) : cutHunks first second marked = [] := by
  induction marked generalizing first second with
  | nil => rfl
  | cons p marked ih =>
    obtain ⟨edit, shown⟩ := p
    obtain rfl : shown = false := h _ List.mem_cons_self
    exact ih (fun q hq => h q (List.mem_cons_of_mem _ hq)) _ _

lemma hunks_keep (lines : List String) : hunks (lines.map .keep) = [] := by
  refine cutHunks_hidden (fun p hp => ?_) 0 0
  have hnear : nearChange (lines.map .keep) = lines.map fun _ => false := by
    rw [nearChange, ← List.map_reverse, nearPrevious_keep, nearPrevious_keep, ← List.map_reverse,
      List.reverse_reverse, List.zipWith_self, List.map_map]
    rfl
  have hshown := (List.of_mem_zip hp).2
  rw [hnear] at hshown
  obtain ⟨_, -, hfalse⟩ := List.mem_map.mp hshown
  exact hfalse.symm

lemma unified_self (name text : String) : unified name text text = "" := by
  rw [unified, script_self, hunks_keep]
  rfl

end HubProxy.Proofs
