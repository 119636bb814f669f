import HubProxy.Diff.Script
import HubProxy.Text.Lines

/-!
# Unified diffs

A diff shows the changes of a script with the lines around them. The hunks are the longest runs of
lines that are near a change; each is headed by the line numbers that it covers in both texts. A
script without changes has no hunks, and its diff is empty.
-/

namespace HubProxy.Diff

/-- How many unchanged lines are shown on either side of a change. -/
def contextLines : Nat := 3

/-- For each edit whether it is a change or has one among the few edits before it. The first
argument tells how many more edits count as near. -/
def nearPrevious : Nat → List Edit → List Bool
  | _, [] => []
  | near, edit :: rest =>
    if edit.isKeep then decide (0 < near) :: nearPrevious (near - 1) rest
    else true :: nearPrevious contextLines rest

/-- For each edit whether it is near a change on either side. -/
def nearChange (script : List Edit) : List Bool :=
  List.zipWith (· || ·) (nearPrevious 0 script) (nearPrevious 0 script.reverse).reverse

/-- A run of edits, with the number of lines in front of it in both texts. -/
structure Hunk where
  first : Nat
  second : Nat
  edits : List Edit
  deriving DecidableEq, Repr

/-- The hunks of edits that are marked as shown or not. The numbers count the lines in front. -/
def cutHunks (first second : Nat) : List (Edit × Bool) → List Hunk
  | [] => []
  | (edit, shown) :: rest =>
    let later := cutHunks (first + edit.before?.toList.length) (second + edit.after?.toList.length)
      rest
    if shown then
      match rest, later with
      | (_, true) :: _, hunk :: more => ⟨first, second, edit :: hunk.edits⟩ :: more
      | _, _ => ⟨first, second, [edit]⟩ :: later
    else later

def hunks (script : List Edit) : List Hunk :=
  cutHunks 0 0 (script.zip (nearChange script))

/-- The line numbers of a range: its first line and its length, unless that is one. A range without
lines is named by the line before it. -/
def rangeText (start length : Nat) : String :=
  if length = 1 then toString (start + 1)
  else if length = 0 then toString start ++ ",0"
  else toString (start + 1) ++ "," ++ toString length

def Edit.text : Edit → String
  | .keep line => " " ++ line
  | .remove line => "-" ++ line
  | .add line => "+" ++ line

def Hunk.header (h : Hunk) : String :=
  "@@ -" ++ rangeText h.first (before h.edits).length ++ " +"
    ++ rangeText h.second (after h.edits).length ++ " @@\n"

def Hunk.lines (h : Hunk) : List String :=
  h.header :: h.edits.map Edit.text

def render (name : String) (hunks : List Hunk) : List String :=
  if hunks.isEmpty then []
  else ("--- a/" ++ name ++ "\n") :: ("+++ b/" ++ name ++ "\n") :: hunks.flatMap Hunk.lines

/-- The lines of a text, each with its break. -/
def linesOf (s : String) : List String :=
  (Text.splitLines s.toList).map String.ofList

def unified (name old new : String) : String :=
  String.join (render name (hunks (script (linesOf old) (linesOf new))))

end HubProxy.Diff
