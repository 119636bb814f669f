import HubProxy.CSharp.Strip
import HubProxy.CSharp.Token

/-!
# Declared type names

`declaredTypes` recovers, from C# source, the names of the types declared inside a namespace and of
the arrays mentioned there. A namespace counts with the path of the namespaces around it.
-/

namespace HubProxy.CSharp

/-- A namespace header at the start of the tokens: its name, its closing mark (a brace or a
semicolon) and what follows. -/
structure Header where
  name : String
  isBlock : Bool
  rest : List Token

/-- The dots and words at the start of the tokens, as text, and what follows them. -/
def dottedTail : List Token → String × List Token
  | .word w :: rest =>
    let (tail, after) := dottedTail rest
    (w ++ tail, after)
  | .mark '.' :: rest =>
    let (tail, after) := dottedTail rest
    ("." ++ tail, after)
  | rest => ("", rest)

/-- The namespace header that the tokens start with, if they do. -/
def header? : List Token → Option Header
  | .word "namespace" :: .blank :: .word first :: rest =>
    if isName first then
      let (tail, after) := dottedTail rest
      match skipBlank after with
      | .mark '\x7b' :: body => some ⟨first ++ tail, true, body⟩
      | .mark ';' :: body => some ⟨first ++ tail, false, body⟩
      | _ => none
    else none
  | _ => none

/-- The tokens of a block up to the brace that closes it, `depth` further blocks being open. A
block that is never closed reaches to the end. -/
def block : Nat → List Token → List Token
  | _, [] => []
  | depth, .mark '\x7b' :: rest => .mark '\x7b' :: block (depth + 1) rest
  | 0, .mark '\x7d' :: _ => []
  | depth + 1, .mark '\x7d' :: rest => .mark '\x7d' :: block depth rest
  | depth, t :: rest => t :: block depth rest

/-- A namespace found in a text: its name with the names of the namespaces around it, and its
tokens. The body is located by how many tokens follow its header and how many follow its end. -/
structure Region where
  name : String
  body : List Token
  startsBefore : Nat
  endsBefore : Nat

/-- Whether a position, given by the number of tokens from it on, lies in the region. -/
def Region.encloses (r : Region) (remaining : Nat) : Bool :=
  remaining ≤ r.startsBefore && r.endsBefore < remaining

def Region.ofHeader (name : String) (h : Header) : Region :=
  let body := if h.isBlock then block 0 h.rest else h.rest
  ⟨name, body, h.rest.length, h.rest.length - body.length⟩

/-- The namespaces from a position on, `found` being those before it, latest first. -/
def regionsFrom (found : List Region) : List Token → List Region
  | [] => found.reverse
  | t :: rest =>
    match header? (t :: rest) with
    | some h =>
      let remaining := rest.length + 1
      let around := (found.reverse.filter (·.encloses remaining)).map (·.name)
      -- the search goes on right behind this word, so a namespace inside this one is met too
      regionsFrom (Region.ofHeader (".".intercalate (around ++ [h.name])) h :: found) rest
    | none => regionsFrom found rest

def declarationWords : List String :=
  ["class", "interface", "struct", "enum", "record"]

/-- The name at the start of the tokens, possibly marked as verbatim, and what follows. -/
def name? : List Token → Option (String × List Token)
  | .mark '@' :: .word w :: rest => if isName w then some (w, rest) else none
  | .word w :: rest => if isName w then some (w, rest) else none
  | _ => none

/-- The name that a declaration at the start of the tokens introduces, and what follows it. The
second word of `record class` and `record struct` is no name where another name follows. -/
def declaration? : List Token → Option (String × List Token)
  | .word opener :: .blank :: rest =>
    if opener ∈ declarationWords then
      match rest with
      | .word second :: .blank :: after =>
        if second = "class" ∨ second = "struct" then name? after <|> name? rest else name? rest
      | _ => name? rest
    else none
  | _ => none

/-- The names declared in the tokens, in order. The tokens of a declaration up to its name belong
to no other; `skip` counts those still to pass over. -/
def declarationsFrom : Nat → List Token → List String
  | _, [] => []
  | skip + 1, _ :: rest => declarationsFrom skip rest
  | 0, t :: rest =>
    match declaration? (t :: rest) with
    | some (name, after) => name :: declarationsFrom (rest.length - after.length) rest
    | none => declarationsFrom 0 rest

/-- How many pairs of brackets the tokens start with, white space apart. -/
def rankOf : List Token → Nat
  | .blank :: .mark '[' :: .blank :: .mark ']' :: rest => rankOf rest + 1
  | .blank :: .mark '[' :: .mark ']' :: rest => rankOf rest + 1
  | .mark '[' :: .blank :: .mark ']' :: rest => rankOf rest + 1
  | .mark '[' :: .mark ']' :: rest => rankOf rest + 1
  | _ => 0

def arrayName (base : String) : Nat → String
  | 0 => base
  | rank + 1 => arrayName base rank ++ "[]"

/-- The arrays mentioned in the tokens, an array of arrays with those inside it. -/
def arraysFrom : List Token → List String
  | [] => []
  | .word w :: rest =>
    (if isName w then (List.range (rankOf rest)).map fun k => arrayName w (k + 1) else [])
      ++ arraysFrom rest
  | _ :: rest => arraysFrom rest

/-- The names declared or mentioned as arrays in the tokens of a namespace. -/
def namesIn (body : List Token) : List String :=
  declarationsFrom 0 body ++ arraysFrom body

def sortNames (names : List String) : List String :=
  names.eraseDups.mergeSort fun a b => decide (a ≤ b)

/-- The names of the types that a source declares, or mentions as arrays, inside a namespace. -/
def declaredTypes (source ns : String) : List String :=
  let regions := regionsFrom [] (tokens (stripFrom .code source.toList))
  sortNames ((regions.filter (·.name == ns)).flatMap fun r => namesIn r.body)

end HubProxy.CSharp
