import HubProxy.Text.Blank
import HubProxy.Text.CaseMap

/-!
# Identifier casing

Names reach the generator in snake case, in kebab case or already in the form the proxy uses.
`pascalCase` joins the words of a name, each with its first letter raised, and `camelCase` lowers
the first letter of the result. Only the first character of a word changes.
-/

namespace HubProxy.Text

/-- The characters with the first one in upper case. -/
def raiseFirst : List Char → List Char
  | [] => []
  | c :: rest => upperChar c ++ rest

/-- The characters with the first one in lower case. -/
def lowerFirst : List Char → List Char
  | [] => []
  | c :: rest => lowerChar c ++ rest

/-- Underscores, hyphens and white space separate the words of a name. -/
def isWordSeparator (c : Char) : Bool :=
  c == '_' || c == '-' || isBlank c

def words (cs : List Char) : List (List Char) :=
  splitRuns isWordSeparator cs

/-- The words of a name joined, each with its first letter raised. -/
def pascalChars (cs : List Char) : List Char :=
  (words cs).flatMap raiseFirst

/-- The text with its first letter raised. -/
def firstUpper (s : String) : String :=
  String.ofList (raiseFirst s.toList)

/-- The text with its first letter lowered. -/
def firstLower (s : String) : String :=
  String.ofList (lowerFirst s.toList)

def pascalCase (s : String) : String :=
  String.ofList (pascalChars s.toList)

def camelCase (s : String) : String :=
  firstLower (pascalCase s)

end HubProxy.Text
