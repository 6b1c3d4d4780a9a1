import ContractAudit.Json.Value
import ContractAudit.Number.Shortest
import ContractAudit.Text.Quoted

/-!
# Writing JSON

Written texts are ASCII only: every other character, and every control character without a short
escape, is written as one or two code units in hexadecimal. `pretty` indents by two spaces a level
and keeps empty arrays and objects on one line.
-/
namespace ContractAudit.Json

/-- The escapes of a character: one code unit, or two halves. -/
def unitEscapes (n : Nat) : Text :=
  if n < 0x10000 then '\\' :: 'u' :: Text.hex 4 n
  else
    '\\' :: 'u' :: Text.hex 4 (0xd800 + (n - 0x10000) / 0x400) ++
      '\\' :: 'u' :: Text.hex 4 (0xdc00 + (n - 0x10000) % 0x400)

def escapeChar (c : Char) : Text :=
  if c = '\x22' then ['\\', '\x22']
  else if c = '\\' then ['\\', '\\']
  else if c = '\n' then ['\\', 'n']
  else if c = '\r' then ['\\', 'r']
  else if c = '\t' then ['\\', 't']
  else if c = '\x08' then ['\\', 'b']
  else if c = '\x0c' then ['\\', 'f']
  else if 32 ≤ c.toNat && c.toNat < 127 then [c]
  else unitEscapes c.toNat

def writeString (s : String) : String :=
  "\"" ++ String.ofList (s.toList.flatMap escapeChar) ++ "\""

def writeDouble : Number.Double → String
  | .infinite true => "-Infinity"
  | .infinite false => "Infinity"
  | .nan => "NaN"
  | x => x.text

def writeScalar : Json → String
  | null => "null"
  | bool true => "true"
  | bool false => "false"
  | int n => toString n
  | float x => writeDouble x
  | str s => writeString s
  | arr _ => "[]"
  | obj _ => "\x7b\x7d"

mutual

def compact : Json → String
  | arr items => "[" ++ compactItems items ++ "]"
  | obj members => "\x7b" ++ compactMembers members ++ "\x7d"
  | scalar => writeScalar scalar

def compactItems : List Json → String
  | [] => ""
  | [item] => compact item
  | item :: rest => compact item ++ "," ++ compactItems rest

def compactMembers : List (String × Json) → String
  | [] => ""
  | [(key, value)] => writeString key ++ ":" ++ compact value
  | (key, value) :: rest =>
    writeString key ++ ":" ++ compact value ++ "," ++ compactMembers rest

end

def newLine (depth : Nat) : String :=
  "\n" ++ String.ofList (List.replicate (2 * depth) ' ')

mutual

def prettyAt (depth : Nat) : Json → String
  | arr [] => "[]"
  | obj [] => "\x7b\x7d"
  | arr items => "[" ++ prettyItems (depth + 1) items ++ newLine depth ++ "]"
  | obj members => "\x7b" ++ prettyMembers (depth + 1) members ++ newLine depth ++ "\x7d"
  | scalar => writeScalar scalar

def prettyItems (depth : Nat) : List Json → String
  | [] => ""
  | [item] => newLine depth ++ prettyAt depth item
  | item :: rest => newLine depth ++ prettyAt depth item ++ "," ++ prettyItems depth rest

def prettyMembers (depth : Nat) : List (String × Json) → String
  | [] => ""
  | [(key, value)] => newLine depth ++ writeString key ++ ": " ++ prettyAt depth value
  | (key, value) :: rest =>
    newLine depth ++ writeString key ++ ": " ++ prettyAt depth value ++ "," ++
      prettyMembers depth rest

end

def pretty (v : Json) : String :=
  prettyAt 0 v

end ContractAudit.Json
