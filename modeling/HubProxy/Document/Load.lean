import HubProxy.Document.Node.Reader
import HubProxy.Document.Token.Reader
import HubProxy.Document.Value.Reader

/-!
# Loading a document

`load` takes a text through tokens and nodes to values.
-/

namespace HubProxy.Document

/-- The document that a text holds. A text without one stands for nothing. -/
def load (text : String) : Result Document := do
  let (tokens, fault) := tokens text.toList
  match ← graph? tokens fault with
  | none => return ⟨#[.scalar .null], 0⟩
  | some g => values? g

end HubProxy.Document
