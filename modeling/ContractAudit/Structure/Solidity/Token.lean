import ContractAudit.Text.Basic

/-!
# Solidity tokens

Words, numbers, string literals and symbols; white space and comments stand between them. A pragma
directive is one token, since what it may hold is decided character by character. A text with a
character that starts no token, or with a comment or string literal that does not end, has no
tokens at all.
-/
namespace ContractAudit.Structure.Solidity

inductive Token where
  | word (name : String)
  | number (written : Text)
  | string (written : Text)
  | hexString
  | unicodeString
  | symbol (mark : String)
  | pragma
deriving DecidableEq, Repr

def isNameStart (c : Char) : Bool :=
  c.isAlpha || c == '_' || c == '$'

def isNamePart (c : Char) : Bool :=
  c.isAlphanum || c == '_' || c == '$'

def isGap (c : Char) : Bool :=
  let n := c.toNat
  n == 32 || (9 ≤ n && n ≤ 13) || (0x2000 ≤ n && n ≤ 0x200b) ||
    [0x85, 0xa0, 0x1680, 0x2028, 0x2029, 0x202f, 0x205f, 0x2060, 0x3000, 0xfeff].contains n

def isHexDigit (c : Char) : Bool :=
  c.isDigit || ('a' ≤ c && c ≤ 'f') || ('A' ≤ c && c ≤ 'F')

def isQuote (c : Char) : Bool :=
  c == '\x22' || c == '\x27'

/-- Symbols, a longer one before those that it starts with. -/
def symbols : List String :=
  ["<<=", ">>=", "**", "=>", "->", ":=", "++", "--", "+=", "-=", "*=", "/=", "%=", "|=", "&=",
    "^=", "==", "!=", "<=", ">=", "&&", "||", "<<", ">>", "(", ")", "[", "]", "\x7b", "\x7d", ";",
    ",", ".", "?", ":", "=", "<", ">", "+", "-", "*", "/", "%", "!", "~", "&", "|", "^"]

/-! ## Gaps -/

def afterBlockComment? : Text → Option Text
  | [] => none
  | '*' :: '/' :: rest => some rest
  | _ :: rest => afterBlockComment? rest

def afterGap? : Text → Option Text
  | '/' :: '/' :: rest => some (rest.dropWhile fun c => c != '\n' && c != '\r')
  | '/' :: '*' :: rest => afterBlockComment? rest
  | c :: rest => if isGap c then some rest else none
  | [] => none

def dropGaps : (bound : Nat) → Text → Text
  | 0, t => t
  | bound + 1, t =>
    match afterGap? t with
    | some rest => dropGaps bound rest
    | none => t

/-! ## String literals -/

/-- The number of characters of a string literal that has been opened, its closing quote included.
A line ends in it only after a backslash, and a numbered escape has all its digits. -/
def stringLength? (quote : Char) : Text → Option Nat
  | [] => none
  | '\\' :: 'x' :: a :: b :: rest =>
    if isHexDigit a && isHexDigit b then (stringLength? quote rest).map (· + 4) else none
  | '\\' :: 'u' :: a :: b :: c :: d :: rest =>
    if [a, b, c, d].all isHexDigit then (stringLength? quote rest).map (· + 6)
    else if a == '\x7b' && isHexDigit b &&
        ((c :: d :: rest).dropWhile isHexDigit).head? == some '\x7d' then
      (stringLength? quote (c :: d :: rest)).map (· + 4)
    else none
  | '\\' :: c :: rest =>
    if c = 'x' || c = 'u' then none else (stringLength? quote rest).map (· + 2)
  | c :: rest =>
    if c = quote then some 1
    else if c = '\n' || c = '\\' then none
    else (stringLength? quote rest).map (· + 1)

/-- What follows a hexadecimal string literal that has been opened: pairs of digits, where one
underscore may stand between two pairs. -/
def afterHexString? (quote : Char) (paired : Bool) : Text → Option Text
  | '_' :: a :: b :: rest =>
    if paired && isHexDigit a && isHexDigit b then afterHexString? quote true rest else none
  | c :: rest =>
    if c = quote then some rest
    else if isGap c then afterHexString? quote paired rest
    else
      match rest with
      | d :: more =>
        if isHexDigit c && isHexDigit d then afterHexString? quote true more else none
      | [] => none
  | [] => none

/-! ## Numbers -/

def isNumberPart (c : Char) : Bool :=
  c.isDigit || c == '_'

def exponentLength : Text → Nat
  | e :: rest =>
    let sign := if rest.head? == some '-' then 1 else 0
    let digits := rest.drop sign
    if (e == 'e' || e == 'E') && (digits.head?.map Char.isDigit).getD false then
      1 + sign + (digits.takeWhile isNumberPart).length
    else 0
  | [] => 0

def fractionLength : Text → Nat
  | '.' :: rest =>
    if (rest.head?.map Char.isDigit).getD false then 1 + (rest.takeWhile isNumberPart).length
    else 0
  | _ => 0

def decimalLength (t : Text) : Nat :=
  let whole := (t.takeWhile isNumberPart).length
  let fraction := fractionLength (t.drop whole)
  whole + fraction + exponentLength (t.drop (whole + fraction))

def numberLength : Text → Nat
  | '0' :: x :: rest =>
    if x == 'x' || x == 'X' then
      2 + (rest.takeWhile fun c => isHexDigit c || c == '_').length
    else decimalLength ('0' :: x :: rest)
  | t => decimalLength t

def singleUnderscores : Text → Bool
  | '_' :: '_' :: _ => false
  | _ :: rest => singleUnderscores rest
  | [] => true

/-- Whether a number can be an operand: one in hexadecimal has a digit first, and single
underscores. -/
def isOperandNumber : Text → Bool
  | '0' :: x :: rest =>
    if x == 'x' || x == 'X' then (rest.head?.map isHexDigit).getD false && singleUnderscores rest
    else true
  | _ => true

/-- Whether a number can stand in inline assembly: digits without zeros in front, or a number in
hexadecimal. -/
def isAssemblyNumber : Text → Bool
  | ['0'] => true
  | '0' :: 'x' :: rest => rest.all isHexDigit
  | '0' :: _ => false
  | t => t.all Char.isDigit

/-! ## Pragma directives -/

def isVersionPart (c : Char) : Bool :=
  c.isDigit || c == '*'

def dropMark (mark : Char) : Text → Text
  | c :: rest => if c = mark then rest else c :: rest
  | [] => []

def afterVersionPart? (t : Text) : Option Text :=
  if (t.head?.map isVersionPart).getD false then some (t.dropWhile isVersionPart) else none

def afterVersionPoint? (blank : Bool) (t : Text) : Option Text :=
  match t with
  | '.' :: rest => afterVersionPart? (if blank then dropMark ' ' rest else rest)
  | _ => none

def afterVersion? (t : Text) : Option Text := do
  let rest ← afterVersionPart? (dropMark ' ' (dropMark '.' (dropMark '\x22' t)))
  let rest := match afterVersionPoint? true rest with
    | some more => (afterVersionPoint? false (dropMark ' ' more)).getD (dropMark ' ' more)
    | none => rest
  return dropMark '\x22' rest

def dropAnyOf (marks : List String) (t : Text) : Text :=
  (marks.findSome? fun mark => Text.dropOpening? mark.toList t).getD t

/-- What follows version constraints and a semicolon. -/
def afterConstraints? : (bound : Nat) → Text → Option Text
  | 0, _ => none
  | bound + 1, t =>
    match dropGaps bound t with
    | ';' :: rest => some rest
    | t => do
      let rest ← afterVersion? (dropGaps bound (dropAnyOf ["<=", "<", "^", ">=", ">", "~", "="] t))
      afterConstraints? bound (dropAnyOf ["||", "-"] (dropGaps bound rest))

/-- What follows a pragma directive whose first word has been read: constraints on the version of
the language, or a name with any value. -/
def afterPragma? (t : Text) : Option Text :=
  let t := dropGaps t.length t
  let name := t.takeWhile isNamePart
  let rest := t.dropWhile isNamePart
  if !(name.head?.map isNameStart).getD false then none
  else if name = "solidity".toList then afterConstraints? (rest.length + 1) rest
  else
    match rest.takeWhile (· != ';'), rest.dropWhile (· != ';') with
    | _ :: _, ';' :: rest => some rest
    | _, _ => none

/-! ## Tokens -/

def wordToken? (t : Text) : Option (Token × Text) :=
  let name := String.ofList (t.takeWhile isNamePart)
  let rest := t.dropWhile isNamePart
  let literal := dropGaps rest.length rest
  match name, literal.head?.filter isQuote with
  | "hex", some quote => (afterHexString? quote false literal.tail).map fun r => (.hexString, r)
  | "unicode", some quote =>
    (stringLength? quote literal.tail).map fun n => (.unicodeString, literal.drop (n + 1))
  | "pragma", none =>
    match afterPragma? rest with
    | some rest => some (.pragma, rest)
    | none => some (.word name, rest)
  | _, _ => some (.word name, rest)

def symbolToken? (t : Text) : Option (Token × Text) :=
  symbols.findSome? fun mark =>
    (Text.dropOpening? mark.toList t).map fun rest => (.symbol mark, rest)

def nextToken? (c : Char) (rest : Text) : Option (Token × Text) :=
  let t := c :: rest
  if isNameStart c then wordToken? t
  else if c.isDigit || (c == '.' && (rest.head?.map Char.isDigit).getD false) then
    some (.number (t.take (numberLength t)), t.drop (numberLength t))
  else if isQuote c then
    (stringLength? c rest).map fun n => (.string (t.take (n + 1)), t.drop (n + 1))
  else symbolToken? t

def tokensWithin? : (bound : Nat) → Text → Option (List Token)
  | 0, _ => none
  | _ + 1, [] => some []
  | bound + 1, c :: rest =>
    match afterGap? (c :: rest) with
    | some rest => tokensWithin? bound rest
    | none => do
      let (token, rest) ← nextToken? c rest
      return token :: (← tokensWithin? bound rest)

def tokens? (t : Text) : Option (List Token) :=
  tokensWithin? (t.length + 1) t

end ContractAudit.Structure.Solidity
