/-!
# Blanking comments and literals

`strip` turns every comment and every string or character literal of C# source into spaces and
leaves the rest as it is, so that a later pass can look for declarations without being misled by
quoted text. Line feeds stay, hence every position keeps its line and column.
-/

namespace HubProxy.CSharp

/-- What the text at a position belongs to. A regular literal remembers its delimiter. -/
inductive Lexical where
  | code
  | lineComment
  | blockComment
  | verbatim
  | quoted (delimiter : Char)
  deriving DecidableEq, Repr

/-- A space in place of a character, except that a line feed stays. -/
def blank (c : Char) : Char :=
  if c = '\n' then '\n' else ' '

/-- The text with comments and literals blanked, given what its start belongs to. A regular
literal ends at its delimiter or at the end of the line; a backslash in it hides the next
character. A doubled quote does not end a verbatim literal. -/
def stripFrom : Lexical → List Char → List Char
  | _, [] => []
  | .code, '/' :: '/' :: rest => ' ' :: ' ' :: stripFrom .lineComment rest
  | .code, '/' :: '*' :: rest => ' ' :: ' ' :: stripFrom .blockComment rest
  | .code, '@' :: '"' :: rest => ' ' :: ' ' :: stripFrom .verbatim rest
  | .code, c :: rest =>
    if c = '"' ∨ c = '\'' then ' ' :: stripFrom (.quoted c) rest else c :: stripFrom .code rest
  | .lineComment, c :: rest =>
    if c = '\n' then c :: stripFrom .code rest else ' ' :: stripFrom .lineComment rest
  | .blockComment, '*' :: '/' :: rest => ' ' :: ' ' :: stripFrom .code rest
  | .blockComment, c :: rest => blank c :: stripFrom .blockComment rest
  | .verbatim, '"' :: '"' :: rest => ' ' :: ' ' :: stripFrom .verbatim rest
  | .verbatim, '"' :: rest => ' ' :: stripFrom .code rest
  | .verbatim, c :: rest => blank c :: stripFrom .verbatim rest
  | .quoted q, '\\' :: c :: rest => ' ' :: blank c :: stripFrom (.quoted q) rest
  | .quoted q, c :: rest =>
    if c = q ∨ c = '\n' then blank c :: stripFrom .code rest
    else blank c :: stripFrom (.quoted q) rest

/-- C# source with every comment and every literal blanked. -/
def strip (source : String) : String :=
  String.ofList (stripFrom .code source.toList)

end HubProxy.CSharp
