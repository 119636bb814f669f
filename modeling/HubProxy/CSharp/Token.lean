import HubProxy.Text.Blank
import HubProxy.Text.Word

/-!
# Tokens of stripped source

Source without comments and literals is a sequence of words, runs of white space and single other
characters. No two words and no two runs of white space are neighbours.
-/

namespace HubProxy.CSharp

inductive Token where
  | word (text : String)
  | blank
  | mark (c : Char)
  deriving DecidableEq, Repr

/-- One more word character in front of tokens: it extends a word that comes first. -/
def Token.consWord (c : Char) : List Token → List Token
  | .word text :: rest => .word (String.singleton c ++ text) :: rest
  | rest => .word (String.singleton c) :: rest

/-- One more white-space character in front of tokens: it joins a run that comes first. -/
def Token.consBlank : List Token → List Token
  | .blank :: rest => .blank :: rest
  | rest => .blank :: rest

def tokens : List Char → List Token
  | [] => []
  | c :: rest =>
    if Text.isWord c then Token.consWord c (tokens rest)
    else if Text.isBlank c then Token.consBlank (tokens rest)
    else .mark c :: tokens rest

/-- A word that the scanner takes for a name: it starts with an ASCII letter or an underscore. -/
def isName (text : String) : Bool :=
  match text.toList with
  | c :: _ => c.isAlpha || c == '_'
  | [] => false

def skipBlank : List Token → List Token
  | .blank :: rest => rest
  | rest => rest

end HubProxy.CSharp
