import HubProxy.Text.Hex
import HubProxy.Text.Printable

/-!
# Quoted text

Messages show a text between quotes. Single quotes are used unless the text holds a single quote and
no double one. Inside, the quote and the backslash are escaped, and characters without a visible
form are given by a short escape or by their code.
-/

namespace HubProxy.Text

/-- The quote that fits a text. -/
def quoteFor (cs : List Char) : Char :=
  if cs.contains '\'' && !cs.contains '"' then '"' else '\''

def quotedChar (quote c : Char) : String :=
  if c = quote ∨ c = '\\' then String.ofList ['\\', c]
  else if c = '\n' then "\\n"
  else if c = '\r' then "\\r"
  else if c = '\t' then "\\t"
  else if isPrintable c then String.singleton c
  else if c.toNat < 0x100 then "\\x" ++ hexDigits 2 c.toNat
  else if c.toNat < 0x10000 then "\\u" ++ hexDigits 4 c.toNat
  else "\\U" ++ hexDigits 8 c.toNat

def quoted (s : String) : String :=
  let quote := quoteFor s.toList
  String.singleton quote ++ String.join (s.toList.map (quotedChar quote)) ++ String.singleton quote

def quotedByte (quote : Char) (b : UInt8) : String :=
  if b.toNat < 0x7f then quotedChar quote (Char.ofNat b.toNat) else "\\x" ++ hexDigits 2 b.toNat

/-- A sequence of bytes between quotes, marked as such. -/
def quotedBytes (bytes : List UInt8) : String :=
  let quote := quoteFor (bytes.map fun b => Char.ofNat b.toNat)
  "b" ++ String.singleton quote ++ String.join (bytes.map (quotedByte quote))
    ++ String.singleton quote

end HubProxy.Text
