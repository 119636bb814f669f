/-!
# JSON values

A number keeps its literal, so that a whole number and a fraction stay apart and no digit is lost.
-/

namespace HubProxy.Json

inductive Value where
  | null
  | bool (value : Bool)
  | number (literal : String)
  | string (text : String)
  /-- A text that holds half of a surrogate pair, which is no character. -/
  | unpaired
  | array (items : List Value)
  | object (members : List (String × Value))
  deriving Inhabited

/-- The value of the last member of that name. -/
def Value.member? (v : Value) (name : String) : Option Value :=
  match v with
  | .object members => members.reverse.lookup name
  | _ => none

/-- Whether a number literal has neither a fraction nor an exponent. -/
def isWholeLiteral (literal : String) : Bool :=
  literal.toList.all fun c => c.isDigit || c == '-'

/-- The members of an object that count: of several with one name the last one does. -/
def lastMembers : List (String × Value) → List (String × Value)
  | [] => []
  | (name, item) :: rest =>
    if rest.any (·.1 == name) then lastMembers rest else (name, item) :: lastMembers rest

end HubProxy.Json
