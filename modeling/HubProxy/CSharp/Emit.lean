import HubProxy.Code.Model
import HubProxy.CSharp.Keyword
import HubProxy.CSharp.Scan

/-!
# Emitting C# source

`emit` writes a code model as C# source, line by line. Every line ends with a line feed, so equal
models give equal text on every system.
-/

namespace HubProxy.CSharp

mutual

def renderType : TypeReference → String
  | ⟨_, _, some element⟩ => renderType element ++ "[]"
  | ⟨name, [], none⟩ => name
  | ⟨name, argument :: rest, none⟩ =>
    name ++ "<" ++ ", ".intercalate (renderType argument :: renderTypes rest) ++ ">"

def renderTypes : List TypeReference → List String
  | [] => []
  | r :: rest => renderType r :: renderTypes rest

end

/-- A character inside a string literal: quotes and backslashes are escaped. -/
def escapeLiteralChar (c : Char) : List Char :=
  if c = '\\' ∨ c = '"' then ['\\', c] else [c]

def renderLiteral (value : String) : String :=
  "\"" ++ String.ofList (value.toList.flatMap escapeLiteralChar) ++ "\""

def renderExpression : Expression → String
  | .literal value => renderLiteral value
  | .variable name => escapeIdentifier name

def renderCall (call : MethodCall) : String :=
  let typeArguments :=
    if call.typeArguments.isEmpty then ""
    else "<" ++ ", ".intercalate (renderTypes call.typeArguments) ++ ">"
  "this." ++ escapeIdentifier call.target ++ "." ++ call.method ++ typeArguments ++ "("
    ++ ", ".intercalate (call.arguments.map renderExpression) ++ ")"

def renderStatement (s : CallStatement) : String :=
  (if s.returns then "return " else "") ++ (if s.awaited then "await " else "")
    ++ renderCall s.call ++ ";"

/-- Whether a namespace is `System` or lies in it. -/
def isSystem (ns : String) : Bool :=
  ns == "System" || "System.".toList.isPrefixOf ns.toList

/-- The order of imports: those of `System` first, each group by name. -/
def importBefore (a b : String) : Bool :=
  if isSystem a = isSystem b then decide (a ≤ b) else isSystem a

def sortImports (imports : List String) : List String :=
  imports.eraseDups.mergeSort importBefore

/-- A line of output: text at a depth, or an empty line. -/
inductive Line where
  | text (depth : Nat) (content : String)
  | gap
  deriving DecidableEq, Repr

def Line.deepen : Line → Line
  | .text depth content => .text (depth + 1) content
  | .gap => .gap

/-- The line as it is written, four spaces a step. -/
def Line.render : Line → String
  | .text depth content => String.ofList (List.replicate (4 * depth) ' ') ++ content
  | .gap => ""

/-- A block: its header and, in braces, its body one step further in. -/
def braced (header : String) (body : List Line) : List Line :=
  [.text 0 header, .text 0 "\x7b"] ++ body.map Line.deepen ++ [.text 0 "\x7d"]

/-- Groups of lines with an empty line between neighbours. -/
def separate : List (List Line) → List Line
  | [] => []
  | [lines] => lines
  | lines :: rest => lines ++ .gap :: separate rest

/-- The header of a member with a type: its visibility, its type and its name. -/
def memberHeader (visibility : String) (type : TypeReference) (name : String) : String :=
  visibility ++ " " ++ renderType type ++ " " ++ escapeIdentifier name

def fieldLine (f : FieldDeclaration) : String :=
  memberHeader f.visibility f.type f.name ++ ";"

def interfacePropertyLine (p : PropertyDeclaration) : String :=
  let accessors := (if p.hasGet then ["get;"] else []) ++ (if p.hasSet then ["set;"] else [])
  renderType p.type ++ " " ++ escapeIdentifier p.name ++ " \x7b " ++ " ".intercalate accessors
    ++ " \x7d"

def propertyLines (p : PropertyDeclaration) : List Line :=
  let field := "this." ++ escapeIdentifier p.field.name
  let getter := if p.hasGet then braced "get" [.text 0 ("return " ++ field ++ ";")] else []
  let setter := if p.hasSet then braced "set" [.text 0 (field ++ " = value;")] else []
  braced (memberHeader p.visibility p.type p.name) (getter ++ setter)

def renderParameter (p : Parameter) : String :=
  renderType p.type ++ " " ++ escapeIdentifier p.name

def methodLines (m : MethodDeclaration) : List Line :=
  let modifiers := m.visibility ++ (if m.isAsync then " async" else "")
  braced
    (memberHeader modifiers m.returnType m.name ++ "("
      ++ ", ".intercalate (m.parameters.map renderParameter) ++ ")")
    (m.body.map fun s => .text 0 (renderStatement s))

/-- The lines of a class or an interface. A class lists its backing fields first. -/
def classLines (c : ClassDeclaration) : List Line :=
  let kind := if c.isInterface then "interface" else "class"
  let header := c.visibility ++ (if c.isPartial then " partial " else " ") ++ kind ++ " " ++ c.name
  let properties :=
    if c.isInterface then c.properties.map fun p => [.text 0 (interfacePropertyLine p)]
    else
      (if c.properties.isEmpty then [] else [c.properties.map fun p => .text 0 (fieldLine p.field)])
        ++ c.properties.map propertyLines
  braced header (separate (properties ++ c.methods.map methodLines))

/-- The members of an enumeration, with a comma after each but the last. -/
def memberLines : List String → List Line
  | [] => []
  | [name] => [.text 0 (escapeIdentifier name)]
  | name :: rest => .text 0 (escapeIdentifier name ++ ",") :: memberLines rest

def enumLines (e : EnumDeclaration) : List Line :=
  braced (e.visibility ++ " enum " ++ e.name) (memberLines e.members)

def declarationLines : TypeDeclaration → List Line
  | .cls c => classLines c
  | .enum e => enumLines e

/-- The comment at the head of every generated file. -/
def banner : List String :=
  ["//------------------------------------------------------------------------------",
    "// <auto-generated>",
    "//     This code was generated by hubgen.",
    "//",
    "//     Changes to this file may cause incorrect behavior and will be lost if",
    "//     the code is regenerated.",
    "// </auto-generated>",
    "//------------------------------------------------------------------------------"]

/-- The import lines, with an empty line after them if there are any. -/
def importLines (imports : List String) : List Line :=
  let lines := (sortImports imports).map fun ns => Line.text 0 ("using " ++ ns ++ ";")
  if lines.isEmpty then [] else lines ++ [.gap]

/-- The lines inside the namespace: the imports, the proxy and the declared types. -/
def contentLines (m : ApiModel) : List Line :=
  importLines m.imports ++ separate (classLines m.proxy :: m.declarations.map declarationLines)

def fileLines (m : ApiModel) : List Line :=
  banner.map (.text 0) ++ [.gap] ++
    if m.ns = "" then contentLines m else braced ("namespace " ++ m.ns) (contentLines m)

def emit (m : ApiModel) : String :=
  String.join ((fileLines m).map fun line => line.render ++ "\n")

end HubProxy.CSharp
