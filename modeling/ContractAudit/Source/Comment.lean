import ContractAudit.Pattern.Search

/-!
# Comments

Comments are removed from a source so that patterns see code only. Every newline stays, so line
numbers of the bare text are line numbers of the source.

Block comments go first, wherever they stand; the line comments of what is left go next, except
inside a string literal. A block comment that is never closed, and a quote that has no partner on
its line, are ordinary text.
-/
namespace ContractAudit.Source

/-! ## Slash comments -/

def closesBlock : Text → Bool
  | [] => false
  | '*' :: '/' :: _ => true
  | _ :: rest => closesBlock rest

def opensBlock (c : Char) (rest : Text) : Bool :=
  c == '/' && rest.head? == some '*' && closesBlock rest.tail

inductive BlockScan where
  | code
  | opening
  | comment
  | closing
deriving DecidableEq

/-- Replaces block comments by their newlines. -/
def dropBlockComments : BlockScan → Text → Text
  | _, [] => []
  | .code, c :: rest =>
    if opensBlock c rest then dropBlockComments .opening rest else c :: dropBlockComments .code rest
  | .opening, _ :: rest => dropBlockComments .comment rest
  | .comment, c :: rest =>
    if c = '\n' then '\n' :: dropBlockComments .comment rest
    else if c == '*' && rest.head? == some '/' then dropBlockComments .closing rest
    else dropBlockComments .comment rest
  | .closing, _ :: rest => dropBlockComments .code rest

/-- Does a string literal that `quote` has opened end on its line? A backslash, which `escaped`
remembers, protects the character after it. -/
def closesQuote (quote : Char) (escaped : Bool) : Text → Bool
  | [] => false
  | c :: rest =>
    if c = '\n' then false
    else if escaped then closesQuote quote false rest
    else if c = '\\' then closesQuote quote true rest
    else c == quote || closesQuote quote false rest

def opensQuote (c : Char) (rest : Text) : Bool :=
  (c == '\x22' || c == '\x27') && closesQuote c false rest

inductive LineScan where
  | code
  | quoted (quote : Char)
  | escaped (quote : Char)
  | comment
deriving DecidableEq

/-- Removes line comments up to their newline and copies string literals as they are. -/
def dropLineComments : LineScan → Text → Text
  | _, [] => []
  | .code, c :: rest =>
    if c == '/' && rest.head? == some '/' then dropLineComments .comment rest
    else c :: dropLineComments (if opensQuote c rest then .quoted c else .code) rest
  | .quoted quote, c :: rest =>
    c :: dropLineComments
      (if c = quote then .code else if c = '\\' then .escaped quote else .quoted quote) rest
  | .escaped quote, c :: rest => c :: dropLineComments (.quoted quote) rest
  | .comment, c :: rest =>
    if c = '\n' then '\n' :: dropLineComments .code rest else dropLineComments .comment rest

def bare (code : Text) : Text :=
  dropLineComments .code (dropBlockComments .code code)

/-! ## Hash comments -/

/-- What follows a hash keeps it: an attribute or a version declaration. -/
def keepsHash (rest : Text) : Bool :=
  rest.startsWith ['['] || rest.trimStart.startsWith "@version".toList ||
    rest.trimStart.startsWith "pragma".toList

/-- Removes hash comments up to their newline. `inside` tells whether one is open. -/
def dropHashComments (inside : Bool) : Text → Text
  | [] => []
  | c :: rest =>
    if c = '\n' then '\n' :: dropHashComments false rest
    else if inside || (c == '#' && !keepsHash rest) then dropHashComments true rest
    else c :: dropHashComments false rest

def hashless (code : Text) : Text :=
  dropHashComments false code

/-! ## Comment lines -/

open Pattern in
def versionLine : Pattern :=
  inOrder [text "#", blanks, anyText ["@version", "pragma"], wordEdge]

/-- A line with nothing but a comment, going by how it starts. With `hashes`, a hash starts a
comment too, unless it declares a version. -/
def isCommentLine (hashes : Bool) (line : Text) : Bool :=
  let start := line.trimStart
  start.startsWith ['/', '/'] || start.startsWith ['/', '*'] || start.startsWith ['*'] ||
    (hashes && start.startsWith ['#'] && !versionLine.opens start)

/-! ## Line numbers -/

def lineNumberAt (t : Text) (offset : Nat) : Nat :=
  Text.newlines (t.take offset) + 1

/-- The same with an offset that counts from the end when it is negative. -/
def lineNumberFrom (t : Text) (offset : Int) : Nat :=
  lineNumberAt t (if offset < 0 then t.length + offset else offset).toNat

end ContractAudit.Source
