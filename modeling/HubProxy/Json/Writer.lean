import HubProxy.Json.Value
import HubProxy.Text.Hex

/-!
# Writing JSON

Values are written without spaces. A string escapes quotes, backslashes and control characters and
keeps every other character.
-/

namespace HubProxy.Json

def escapeChar (c : Char) : String :=
  if c = '"' then "\\\""
  else if c = '\\' then "\\\\"
  else if c = '\n' then "\\n"
  else if c = '\r' then "\\r"
  else if c = '\t' then "\\t"
  else if c.toNat < 32 then "\\u" ++ Text.hexDigits 4 c.toNat
  else String.singleton c

def quote (s : String) : String :=
  "\"" ++ s.foldl (fun out c => out ++ escapeChar c) "" ++ "\""

mutual

def write : Value → String
  | .null => "null"
  | .bool b => if b then "true" else "false"
  | .number literal => literal
  | .string s => quote s
  | .unpaired => quote "\ufffd"
  | .array items => "[" ++ ",".intercalate (writeItems items) ++ "]"
  | .object members => "\x7b" ++ ",".intercalate (writeMembers members) ++ "\x7d"

def writeItems : List Value → List String
  | [] => []
  | item :: rest => write item :: writeItems rest

def writeMembers : List (String × Value) → List String
  | [] => []
  | (name, item) :: rest => (quote name ++ ":" ++ write item) :: writeMembers rest

end

end HubProxy.Json
