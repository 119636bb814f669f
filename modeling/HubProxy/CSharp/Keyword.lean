/-!
# Reserved words

A reserved word can still name something if it is marked with `@`. Words that are reserved only in
some contexts need no mark.
-/

namespace HubProxy.CSharp

def keywords : List String :=
  ["abstract", "as", "base", "bool", "break", "byte", "case", "catch", "char", "checked", "class",
    "const", "continue", "decimal", "default", "delegate", "do", "double", "else", "enum", "event",
    "explicit", "extern", "false", "finally", "fixed", "float", "for", "foreach", "goto", "if",
    "implicit", "in", "int", "interface", "internal", "is", "lock", "long", "namespace", "new",
    "null", "object", "operator", "out", "override", "params", "private", "protected", "public",
    "readonly", "ref", "return", "sbyte", "sealed", "short", "sizeof", "stackalloc", "static",
    "string", "struct", "switch", "this", "throw", "true", "try", "typeof", "uint", "ulong",
    "unchecked", "unsafe", "ushort", "using", "virtual", "void", "volatile", "while"]

/-- A name as an identifier: a reserved word gets its mark. -/
def escapeIdentifier (name : String) : String :=
  if name ∈ keywords then "@" ++ name else name

end HubProxy.CSharp
