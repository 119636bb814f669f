import HubProxy.Text.Blank

/-!
# Type expressions

A document names a type by a name and suffixes: brackets for an array, a question mark for a value
that may be missing, and arguments in angle brackets. Only the outermost part of an expression is
looked at at a time; `Outer` holds it together with the expressions inside.
-/

namespace HubProxy

/-- The outermost part of a type expression. The expressions inside are shorter than the whole. -/
inductive Outer where
  | array (element : List Char)
  | nullable (inner : List Char)
  | generic (base : List Char) (arguments : List (List Char))
  | name (text : List Char)
  deriving DecidableEq, Repr

/-- The text before a suffix, if it ends so. -/
def beforeSuffix? (suffix cs : List Char) : Option (List Char) :=
  if suffix.isSuffixOf cs then some (cs.take (cs.length - suffix.length)) else none

/-- The parts of a text between the commas that lie outside angle brackets. -/
def splitCommas : Int → List Char → List (List Char)
  | _, [] => [[]]
  | depth, c :: rest =>
    if c = ',' ∧ depth = 0 then [] :: splitCommas depth rest
    else
      let depth := if c = '<' then depth + 1 else if c = '>' then depth - 1 else depth
      match splitCommas depth rest with
      | part :: more => (c :: part) :: more
      | [] => [[c]]

/-- The arguments between angle brackets, without empty ones. -/
def splitArguments (cs : List Char) : List (List Char) :=
  ((splitCommas 0 cs).map Text.trimChars).filter (!·.isEmpty)

/-- The outermost part of an expression without white space around it. -/
def Outer.ofTrimmed (cs : List Char) : Outer :=
  match beforeSuffix? ['[', ']'] cs with
  | some element => .array element
  | none =>
    match beforeSuffix? ['?'] cs with
    | some inner => .nullable inner
    | none =>
      match beforeSuffix? ['>'] cs with
      | some body =>
        if body.contains '<' then
          let base := body.takeWhile (· ≠ '<')
          .generic (Text.trimChars base) (splitArguments (body.drop (base.length + 1)))
        else .name cs
      | none => .name cs

end HubProxy
