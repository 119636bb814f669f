import HubProxy.Contract.Descriptor

/-!
# Types of the target language

The names that a contract may use without declaring them.
-/

namespace HubProxy

/-- The types that the language itself has a word for. -/
def keywordTypes : List String :=
  ["string", "int", "long", "short", "byte", "sbyte", "uint", "ulong", "ushort", "float",
    "double", "decimal", "bool", "char", "object"]

/-- The types that need the `System` namespace. -/
def systemTypes : List String :=
  ["DateTime", "DateTimeOffset", "TimeSpan", "Guid", "Uri"]

def primitive? (name : String) : Option Descriptor :=
  if name ∈ keywordTypes then some (.primitive name none)
  else if name ∈ systemTypes then some (.primitive name (some "System"))
  else if name = "IClientProxy" then some connectionContext
  else none

end HubProxy
