/-!
# Why a document cannot be loaded

A text that is no document has one cause, whatever the place and kind of the fault. The other causes
are scalars that a document marks as numbers, truth values or times but that do not read as such.
-/

namespace HubProxy.Document

inductive LoadError where
  /-- The text breaks the rules of the document format. -/
  | malformed
  /-- A number or a time does not read, has too many digits or lies outside the calendar. -/
  | badNumber
  /-- A scalar marked as a truth value is no word for one. -/
  | unknownWord (word : String)
  /-- A scalar marked as a whole number or a fraction is empty. -/
  | emptyNumber
  /-- A scalar marked as a time does not look like one. -/
  | noTimestamp
  /-- A mapping is marked as a time. -/
  | timeInMapping
  /-- The code of a character is too large for one, or a place in base sixty for a fraction. -/
  | tooLarge
  /-- Nodes lie too deep inside each other, or the text of a node is sought in a circle. -/
  | tooDeep
  deriving DecidableEq, Repr

abbrev Result := Except LoadError

end HubProxy.Document
