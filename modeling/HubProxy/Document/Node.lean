import HubProxy.Document.Tag

/-!
# Nodes of a document

A document is a graph: an alias makes a node a child of several others, or of itself. Nodes are
therefore kept in a table and refer to their children by place.
-/

namespace HubProxy.Document

/-- The place of a node in the table. -/
abbrev NodeId := Nat

inductive Content where
  | scalar (text : String)
  | sequence (items : List NodeId)
  | mapping (entries : List (NodeId × NodeId))
  deriving Inhabited

structure Node where
  tag : Tag
  content : Content

instance : Inhabited Node := ⟨⟨.null, .scalar ""⟩⟩

/-- The nodes of a document and the one that is the document. -/
structure Graph where
  nodes : Array Node
  top : NodeId

end HubProxy.Document
