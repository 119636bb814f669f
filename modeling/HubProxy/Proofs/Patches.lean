import Mathlib.Data.List.Basic
import Mathlib.Tactic.Lemma
import HubProxy.Diff.Unified

/-!
# Patches

A unified diff is read line by line: a header states which lines a hunk covers in both texts, and as
many lines follow as it states. A patch is applied to a text only where its hunks say it matches. The
lines that a diff consists of are read as the hunks that they were made from.
-/

namespace HubProxy.Proofs

open Diff

/-- The lines that a hunk covers in a text, as its header states them. -/
structure LineRange where
  start : Nat
  count : Nat
  deriving DecidableEq, Repr

/-- The number of lines in front of a range. A range without lines is named by the line before it. -/
def LineRange.offset (r : LineRange) : Nat :=
  if r.count = 0 then r.start else r.start - 1

structure PatchHunk where
  old : LineRange
  new : LineRange
  edits : List Edit
  deriving DecidableEq, Repr

section Reading

def readNumber (cs : List Char) : Option (Nat × List Char) :=
  let digits := cs.takeWhile Char.isDigit
  if digits.isEmpty then none
  else some (Nat.ofDigitChars 10 digits 0, cs.dropWhile Char.isDigit)

/-- A range at the start of a text. A count of one line may be left out. -/
def readRange (cs : List Char) : Option (LineRange × List Char) := do
  let (start, rest) ← readNumber cs
  match rest with
  | ',' :: rest =>
    let (count, rest) ← readNumber rest
    some (⟨start, count⟩, rest)
  | rest => some (⟨start, 1⟩, rest)

/-- The ranges in the header of a hunk. -/
def readHeader (line : String) : Option (LineRange × LineRange) :=
  match line.toList with
  | '@' :: '@' :: ' ' :: '-' :: cs => do
    let (old, cs) ← readRange cs
    match cs with
    | ' ' :: '+' :: cs =>
      let (new, cs) ← readRange cs
      if cs = [' ', '@', '@', '\n'] then some (old, new) else none
    | _ => none
  | _ => none

def readEdit (line : String) : Option Edit :=
  match line.toList with
  | ' ' :: cs => some (.keep (String.ofList cs))
  | '-' :: cs => some (.remove (String.ofList cs))
  | '+' :: cs => some (.add (String.ofList cs))
  | _ => none

/-- The edits that are left of a hunk and the hunks after it, given how many lines of the old and of
the new text the hunk still has to cover. -/
def readHunks (old new : Nat) : List String → Option (List Edit × List PatchHunk)
  | [] => if old = 0 ∧ new = 0 then some ([], []) else none
  | line :: rest =>
    if old = 0 ∧ new = 0 then do
      let (old, new) ← readHeader line
      let (edits, hunks) ← readHunks old.count new.count rest
      some ([], ⟨old, new, edits⟩ :: hunks)
    else do
      let edit ← readEdit line
      let covered := edit.before?.toList.length
      let covered' := edit.after?.toList.length
      if covered ≤ old ∧ covered' ≤ new then do
        let (edits, hunks) ← readHunks (old - covered) (new - covered') rest
        some (edit :: edits, hunks)
      else none

/-- The hunks of a diff. A diff without hunks has no lines at all. -/
def readPatch : List String → Option (List PatchHunk)
  | [] => some []
  | old :: new :: rest =>
    if "--- ".toList <+: old.toList ∧ "+++ ".toList <+: new.toList then do
      let (_, hunks) ← readHunks 0 0 rest
      some hunks
    else none
  | _ => none

end Reading

/-- The lines that hunks make of those left of a text, given how many lines of the old and of the new
text are behind. Every hunk has to start where it says in both texts, to cover as many lines as it
says, and to find the lines that it keeps or removes. -/
def applyHunks (old new : Nat) : List PatchHunk → List String → Option (List String)
  | [], lines => some lines
  | h :: hunks, lines =>
    let gap := h.old.offset - old
    if old ≤ h.old.offset ∧ gap ≤ lines.length ∧ h.new.offset = new + gap ∧
        h.old.count = (before h.edits).length ∧ h.new.count = (after h.edits).length ∧
        before h.edits <+: lines.drop gap then do
      let rest ← applyHunks (h.old.offset + h.old.count) (h.new.offset + h.new.count) hunks
        (lines.drop (gap + h.old.count))
      some (lines.take gap ++ after h.edits ++ rest)
    else none

/-- The range that the header of a hunk states. -/
def statedRange (first length : Nat) : LineRange :=
  ⟨if length = 0 then first else first + 1, length⟩

/-- A hunk with the ranges that its header states. -/
def stated (h : Hunk) : PatchHunk :=
  ⟨statedRange h.first (before h.edits).length, statedRange h.second (after h.edits).length, h.edits⟩

lemma offset_statedRange (first length : Nat) : (statedRange first length).offset = first := by
  unfold statedRange LineRange.offset
  by_cases h : length = 0 <;> simp [h]

@[simp] lemma before_nil : before [] = [] := rfl

@[simp] lemma after_nil : after [] = [] := rfl

lemma before_cons (e : Edit) (edits : List Edit) :
    before (e :: edits) = e.before?.toList ++ before edits := by
  cases e <;> rfl

lemma after_cons (e : Edit) (edits : List Edit) :
    after (e :: edits) = e.after?.toList ++ after edits := by
  cases e <;> rfl

section ReadingBack

lemma readNumber_toString (n : Nat) {rest : List Char}
    (hrest : ∀ c, rest.head? = some c → c.isDigit = false) :
    readNumber ((toString n).toList ++ rest) = some (n, rest) := by
  have hdigits : (toString n).toList = Nat.toDigits 10 n := by
    rw [Nat.toString_eq_ofList_toDigits, String.toList_ofList]
  have hall : ∀ c ∈ Nat.toDigits 10 n, c.isDigit = true := fun c hc =>
    Nat.isDigit_of_mem_toDigits (by decide) (by decide) hc
  have hends : rest.takeWhile Char.isDigit = [] ∧ rest.dropWhile Char.isDigit = rest := by
    cases rest with
    | nil => exact ⟨rfl, rfl⟩
    | cons c rest => simp [hrest c rfl]
  have hne : (Nat.toDigits 10 n).isEmpty = false := by
    simp [Nat.toDigits_ne_nil]
  rw [readNumber, hdigits, List.takeWhile_append_of_pos hall, List.dropWhile_append_of_pos hall,
    hends.1, hends.2, List.append_nil, hne, Nat.ofDigitChars_toDigits (by decide) (by decide)]
  rfl

lemma readRange_count (start count : Nat) {rest : List Char}
    (hrest : ∀ c, rest.head? = some c → c.isDigit = false) :
    readRange ((toString start).toList ++ ',' :: ((toString count).toList ++ rest)) =
      some (⟨start, count⟩, rest) := by
  have hcomma : ∀ c, (',' :: ((toString count).toList ++ rest)).head? = some c →
      c.isDigit = false := fun c hc => Option.some.inj hc ▸ rfl
  simp only [readRange, readNumber_toString start hcomma, readNumber_toString count hrest,
    Option.bind_eq_bind, Option.bind_some]

/-- A range is told from what follows it by a blank. -/
lemma readRange_rangeText (first length : Nat) (rest : List Char) :
    readRange ((rangeText first length).toList ++ ' ' :: rest) =
      some (statedRange first length, ' ' :: rest) := by
  have hblank : ∀ c, (' ' :: rest).head? = some c → c.isDigit = false :=
    fun c hc => Option.some.inj hc ▸ rfl
  unfold rangeText statedRange
  by_cases hone : length = 1
  · subst hone
    rw [if_pos rfl, readRange, readNumber_toString _ hblank]
    rfl
  rw [if_neg hone]
  by_cases hzero : length = 0
  · subst hzero
    have htext : (toString first ++ ",0").toList ++ ' ' :: rest =
        (toString first).toList ++ ',' :: ((toString 0).toList ++ ' ' :: rest) := by
      rw [String.toList_append, List.append_assoc]
      rfl
    rw [if_pos rfl, htext, readRange_count _ _ hblank]
    rfl
  · have htext : (toString (first + 1) ++ "," ++ toString length).toList ++ ' ' :: rest =
        (toString (first + 1)).toList ++ ',' :: ((toString length).toList ++ ' ' :: rest) := by
      simp only [String.toList_append, List.append_assoc]
      rfl
    rw [if_neg hzero, htext, readRange_count _ _ hblank, if_neg hzero]

lemma readHeader_header (h : Hunk) :
    readHeader h.header = some ((stated h).old, (stated h).new) := by
  have hlist : h.header.toList = '@' :: '@' :: ' ' :: '-' ::
      ((rangeText h.first (before h.edits).length).toList ++ ' ' :: '+' ::
        ((rangeText h.second (after h.edits).length).toList ++ ' ' :: ['@', '@', '\n'])) := by
    simp [Hunk.header]
  rw [readHeader, hlist]
  simp [readRange_rangeText, stated]

lemma readEdit_text (e : Edit) : readEdit e.text = some e := by
  cases e <;> simp [readEdit, Edit.text]

/-- The edits of a hunk end where its counts are used up. -/
lemma readHunks_edits (edits : List Edit) {lines : List String} {hunks : List PatchHunk}
    (hlines : readHunks 0 0 lines = some ([], hunks)) :
    readHunks (before edits).length (after edits).length (edits.map Edit.text ++ lines) =
      some (edits, hunks) := by
  induction edits with
  | nil => exact hlines
  | cons e edits ih =>
    have hopen : ¬((before (e :: edits)).length = 0 ∧ (after (e :: edits)).length = 0) := by
      cases e <;> simp [before_cons, after_cons, Edit.before?, Edit.after?]
    rw [List.map_cons, List.cons_append, readHunks, if_neg hopen, readEdit_text]
    simp [before_cons, after_cons, ih]

lemma readHunks_lines (hunks : List Hunk) :
    readHunks 0 0 (hunks.flatMap Hunk.lines) = some ([], hunks.map stated) := by
  induction hunks with
  | nil => rfl
  | cons h hunks ih =>
    have hedits := readHunks_edits h.edits ih
    have hcounts : (stated h).old.count = (before h.edits).length ∧
        (stated h).new.count = (after h.edits).length := ⟨rfl, rfl⟩
    rw [List.flatMap_cons, Hunk.lines, List.cons_append, readHunks, if_pos ⟨rfl, rfl⟩,
      readHeader_header]
    simp only [Option.bind_eq_bind, Option.bind_some, hcounts, hedits]
    rfl

lemma readPatch_render (name : String) (hunks : List Hunk) :
    readPatch (render name hunks) = some (hunks.map stated) := by
  cases hunks with
  | nil => rfl
  | cons h hunks =>
    have hold : "--- ".toList <+: ("--- a/" ++ name ++ "\n").toList :=
      ⟨['a', '/'] ++ name.toList ++ ['\n'], by simp⟩
    have hnew : "+++ ".toList <+: ("+++ b/" ++ name ++ "\n").toList :=
      ⟨['b', '/'] ++ name.toList ++ ['\n'], by simp⟩
    rw [render, if_neg (by simp), readPatch, if_pos ⟨hold, hnew⟩, readHunks_lines]
    rfl

end ReadingBack

end HubProxy.Proofs
