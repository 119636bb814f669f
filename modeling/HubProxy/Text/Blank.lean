import HubProxy.Text.Ranges

/-!
# White space

The white-space characters of every script, and the two operations that depend on them: trimming
both ends of a text and cutting it into words.
-/

namespace HubProxy.Text

/-- The white-space characters, in increasing closed ranges of code points. -/
def blankRanges : List (Nat × Nat) :=
  [(0x9, 0xd), (0x1c, 0x20), (0x85, 0x85), (0xa0, 0xa0), (0x1680, 0x1680), (0x2000, 0x200a),
  (0x2028, 0x2029), (0x202f, 0x202f), (0x205f, 0x205f), (0x3000, 0x3000)]

def isBlank (c : Char) : Bool :=
  inRanges blankRanges c.toNat

/-- The characters without the white space at either end. -/
def trimChars (cs : List Char) : List Char :=
  ((cs.dropWhile isBlank).reverse.dropWhile isBlank).reverse

/-- The text without the white space at either end. -/
def trim (s : String) : String :=
  String.ofList (trimChars s.toList)

/-- Whether the text holds nothing but white space. -/
def isBlankText (s : String) : Bool :=
  s.toList.all isBlank

/-- The maximal runs of characters that are no separators, in order. -/
def splitRuns (isSeparator : Char → Bool) : List Char → List (List Char)
  | [] => []
  | c :: rest =>
    let runs := splitRuns isSeparator rest
    if isSeparator c then runs
    else
      match rest, runs with
      | d :: _, run :: more => if isSeparator d then [c] :: run :: more else (c :: run) :: more
      | _, _ => [c] :: runs

end HubProxy.Text
