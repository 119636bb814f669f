/-!
# Tokens of a document

The marks, properties and scalars that a document's text consists of. Indentation is made explicit:
a block opens with a start token and closes with `blockEnd`.
-/

namespace HubProxy.Document

/-- A tag as it is written: a handle, if any, and the rest. -/
structure WrittenTag where
  handle : Option String
  suffix : String
  deriving DecidableEq, Repr

/-- A line before a document that concerns how it is read. -/
inductive Directive where
  | version (major minor : Nat)
  | tag (handle tagStart : String)
  | other
  deriving DecidableEq, Repr

inductive Token where
  | directive (d : Directive)
  | documentStart
  | documentEnd
  | blockSequenceStart
  | blockMappingStart
  | blockEnd
  | flowSequenceStart
  | flowSequenceEnd
  | flowMappingStart
  | flowMappingEnd
  | entry
  | flowEntry
  | key
  | value
  | alias (name : String)
  | anchor (name : String)
  | tag (t : WrittenTag)
  | scalar (text : String) (isPlain : Bool)
  | streamEnd
  deriving DecidableEq, Repr

end HubProxy.Document
