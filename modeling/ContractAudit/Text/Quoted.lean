import ContractAudit.Text.Basic
import ContractAudit.Text.Printable

/-!
# Quoted text

How a text is shown inside a message: between single quotes, or between double quotes if it holds a
single one and no double one. The backslash, the quote itself and characters that do not print are
written as escapes.
-/
namespace ContractAudit.Text

def hexDigit (n : Nat) : Char :=
  if n < 10 then Char.ofNat ('0'.toNat + n) else Char.ofNat ('a'.toNat + n - 10)

def hex : (width n : Nat) → Text
  | 0, _ => []
  | width + 1, n => hex width (n / 16) ++ [hexDigit (n % 16)]

/-- An unprintable character as an escape with two, four or eight digits. -/
def escapeCode (c : Char) : Text :=
  if c.toNat < 0x100 then '\\' :: 'x' :: hex 2 c.toNat
  else if c.toNat < 0x10000 then '\\' :: 'u' :: hex 4 c.toNat
  else '\\' :: 'U' :: hex 8 c.toNat

def quoteChar (quote c : Char) : Text :=
  if c = '\\' || c = quote then ['\\', c]
  else if c = '\n' then ['\\', 'n']
  else if c = '\r' then ['\\', 'r']
  else if c = '\t' then ['\\', 't']
  else if isPrintable c then [c]
  else escapeCode c

def quoteFor (t : Text) : Char :=
  if t.contains '\x27' && !t.contains '\x22' then '\x22' else '\x27'

def quoted (t : Text) : Text :=
  let quote := quoteFor t
  quote :: t.flatMap (quoteChar quote) ++ [quote]

end ContractAudit.Text

namespace ContractAudit

def quoteString (s : String) : String :=
  String.ofList (Text.quoted s.toList)

def trimString (s : String) : String :=
  String.ofList (Text.trim s.toList)

end ContractAudit
