import ContractAudit.Yaml.Cursor
import ContractAudit.Yaml.Fault

/-!
# Tokens of a settings file

What the text of a document is made of, and how a single token with text of its own is read. Where
tokens stand to each other is not decided here.
-/
namespace ContractAudit.Yaml

inductive Directive where
  | version (major : Text)
  /-- An abbreviation for the front of tags. -/
  | tag (handle opening : Text)
  | other
deriving DecidableEq, Repr

inductive Token where
  | directive (d : Directive)
  | documentStart
  | documentEnd
  | listStart
  | mappingStart
  | blockEnd
  | openBracket
  | closeBracket
  | openBrace
  | closeBrace
  | item
  | comma
  | key
  | value
  | alias (name : Text)
  | anchor (name : Text)
  | tag (handle : Option Text) (rest : Text)
  | scalar (text : Text) (plain : Bool)
deriving DecidableEq, Repr

/-! ## Names, tags and directives -/

def isNamePart (c : Char) : Bool :=
  c.isAlphanum || c == '-' || c == '_'

def readName (c : Cursor) : Except Fault (Text × Cursor) :=
  match c.span isNamePart with
  | ([], _) => .error .malformed
  | (name, c) => .ok (name, c)

def readAnchor (c : Cursor) : Except Fault (Text × Cursor) := do
  let (name, c) ← readName c.next
  let ends := match c.rest with
    | [] => true
    | ch :: _ => atBlank c.rest || ['?', ':', ',', ']', '\x7d', '%', '@', '\x60'].contains ch
  if ends then .ok (name, c) else .error .malformed

def isAddressPart (c : Char) : Bool :=
  c.isAlphanum || "-;/?:@&=+$,_.!~*\x27()[]%".toList.contains c

def hexValue? (c : Char) : Option Nat :=
  if c.isDigit then some (c.toNat - '0'.toNat)
  else if 'a' ≤ c && c ≤ 'f' then some (c.toNat - 'a'.toNat + 10)
  else if 'A' ≤ c && c ≤ 'F' then some (c.toNat - 'A'.toNat + 10)
  else none

def hexNumber? (digits : Text) : Option Nat :=
  digits.foldlM (fun n c => (hexValue? c).map (16 * n + ·)) 0

def expandBytes : (bytes : List UInt8) → Text → Option Text
  | bytes, '%' :: a :: b :: rest => do
    expandBytes (bytes ++ [UInt8.ofNat (← hexNumber? [a, b])]) rest
  | bytes, c :: rest => do
    if c = '%' then none
    else
      let front ← String.fromUTF8? ⟨bytes.toArray⟩
      return front.toList ++ c :: (← expandBytes [] rest)
  | bytes, [] => (String.fromUTF8? ⟨bytes.toArray⟩).map String.toList

def readAddress (c : Cursor) : Except Fault (Text × Cursor) :=
  match c.span isAddressPart with
  | ([], _) => .error .malformed
  | (address, c) =>
    match expandBytes [] address with
    | some t => .ok (t, c)
    | none => .error .malformed

def readHandle (c : Cursor) : Except Fault (Text × Cursor) :=
  match c.rest with
  | '!' :: ' ' :: _ => .ok (['!'], c.next)
  | '!' :: _ =>
    let (name, c) := c.next.span isNamePart
    match c.rest with
    | '!' :: _ => .ok ('!' :: name ++ ['!'], c.next)
    | _ => .error .malformed
  | _ => .error .malformed

def readTag (c : Cursor) : Except Fault (Token × Cursor) := do
  let (token, c) ← match c.rest.tail with
    | '<' :: _ => do
      let (address, c) ← readAddress (c.skip 2)
      match c.rest with
      | '>' :: _ => pure (Token.tag none address, c.next)
      | _ => throw .malformed
    | rest =>
      if atBlank rest then pure (Token.tag none ['!'], c.next)
      else
        let word := rest.takeWhile fun ch => ch != ' ' && !isBreak ch
        let (handle, c) ← if word.contains '!' then readHandle c else pure (['!'], c.next)
        let (address, c) ← readAddress c
        pure (Token.tag (some handle) address, c)
  if atSpace c.rest then .ok (token, c) else .error .malformed

def finishLine (c : Cursor) : Except Fault Cursor :=
  let c := c.skipSpaces.skipComment
  if atLineEnd c.rest then .ok c.lineBreak.2 else .error .malformed

def readVersion (c : Cursor) : Except Fault (Directive × Cursor) := do
  let (major, c) := c.skipSpaces.span Char.isDigit
  if major.isEmpty || c.rest.head? != some '.' then throw .malformed
  let (minor, c) := c.next.span Char.isDigit
  if minor.isEmpty || !atSpace c.rest then throw .malformed
  return (.version major, c)

def readAbbreviation (c : Cursor) : Except Fault (Directive × Cursor) := do
  let (handle, c) ← readHandle c.skipSpaces
  if c.rest.head? != some ' ' then throw .malformed
  let (opening, c) ← readAddress c.skipSpaces
  if !atSpace c.rest then throw .malformed
  return (.tag handle opening, c)

def readDirective (c : Cursor) : Except Fault (Directive × Cursor) := do
  let (name, c) ← readName c.next
  if !atSpace c.rest then throw .malformed
  let (directive, c) ← match String.ofList name with
    | "YAML" => readVersion c
    | "TAG" => readAbbreviation c
    | _ => pure (.other, c.skipLine)
  return (directive, ← finishLine c)

/-! ## Quoted scalars -/

def namedEscape? : Char → Option Nat
  | '0' => some 0
  | 'a' => some 7
  | 'b' => some 8
  | 't' => some 9
  | '\t' => some 9
  | 'n' => some 10
  | 'v' => some 11
  | 'f' => some 12
  | 'r' => some 13
  | 'e' => some 27
  | ' ' => some 32
  | '\x22' => some 34
  | '/' => some 47
  | '\\' => some 92
  | 'N' => some 0x85
  | '_' => some 0xa0
  | 'L' => some 0x2028
  | 'P' => some 0x2029
  | _ => none

def codeWidth? : Char → Option Nat
  | 'x' => some 2
  | 'u' => some 4
  | 'U' => some 8
  | _ => none

def quotedBreaks : (bound : Nat) → Cursor → Except Fault (Text × Cursor)
  | 0, _ => .error .malformed
  | bound + 1, c => do
    if c.atSeparator then throw .malformed
    let c := c.skipBlanks
    match c.lineBreak with
    | ([], c) => return ([], c)
    | (ending, c) =>
      let (more, c) ← quotedBreaks bound c
      return (ending ++ more, c)

/-- White space inside quotes: as it is in a line, while a line break becomes a space. -/
def quotedBlanks (bound : Nat) (c : Cursor) : Except Fault (Text × Cursor) := do
  let (blanks, c) := c.span isSpaceOrTab
  match c.lineBreak with
  | ([], c) => return (blanks, c)
  | (ending, c) =>
    let (breaks, c) ← quotedBreaks bound c
    let glue := if ending != ['\n'] then ending else if breaks.isEmpty then [' '] else []
    return (glue ++ breaks, c)

def characterOf (code : Nat) : Char :=
  if code.isValidChar then Char.ofNat code else '\ufffd'

def readEscape (bound : Nat) (c : Cursor) : Except Fault (Text × Cursor) :=
  match c.rest with
  | [] => .error .malformed
  | ch :: rest =>
    match namedEscape? ch, codeWidth? ch with
    | some code, _ => .ok ([Char.ofNat code], c.next)
    | none, some width =>
      match hexNumber? (rest.take width) with
      | some code =>
        if rest.length < width then .error .malformed
        else if 0x10ffff < code then .error (.character code)
        else .ok ([characterOf code], c.skip (width + 1))
      | none => .error .malformed
    | none, none =>
      if isBreak ch then quotedBreaks bound c.next else .error .malformed

def quotedFrom (quote : Char) : (bound : Nat) → Cursor → Except Fault (Text × Cursor)
  | 0, _ => .error .malformed
  | bound + 1, c => do
    match c.rest with
    | [] => throw .malformed
    | ch :: rest =>
      if ch = quote then
        if quote = '\x27' && rest.head? == some quote then
          let (more, c) ← quotedFrom quote bound (c.skip 2)
          return (quote :: more, c)
        else return ([], c.next)
      else
        let (front, c) ←
          if isSpaceOrTab ch || isBreak ch then quotedBlanks bound c
          else if quote = '\x22' && ch = '\\' then readEscape bound c.next
          else pure ([ch], c.next)
        let (more, c) ← quotedFrom quote bound c
        return (front ++ more, c)

def readQuoted (quote : Char) (c : Cursor) : Except Fault (Token × Cursor) := do
  let (text, c) ← quotedFrom quote (c.rest.length + 1) c.next
  return (.scalar text false, c)

/-! ## Plain scalars -/

def isFlowMark (c : Char) : Bool :=
  c == ',' || c == '[' || c == ']' || c == '\x7b' || c == '\x7d'

def plainPart (inFlow : Bool) : Text → Text
  | [] => []
  | c :: rest =>
    if isSpaceOrTab c || isBreak c then []
    else if c = ':' && (atBlank rest || (inFlow && (rest.head?.map isFlowMark).getD false)) then []
    else if inFlow && (isFlowMark c || c = '?') then []
    else c :: plainPart inFlow rest

def plainBreaks : (bound : Nat) → Cursor → Option Text × Cursor
  | 0, c => (none, c)
  | bound + 1, c =>
    if c.atSeparator then (none, c)
    else
      let c := c.skipSpaces
      match c.lineBreak with
      | ([], c) => (some [], c)
      | (ending, c) =>
        let (more, c) := plainBreaks bound c
        (more.map (ending ++ ·), c)

/-- White space after a part of a plain scalar, nothing where the scalar cannot go on, and whether a
line ended. -/
def plainBlanks (c : Cursor) : Text × Bool × Cursor :=
  let (spaces, c) := c.span (· == ' ')
  match c.lineBreak with
  | ([], c) => (spaces, false, c)
  | (ending, c) =>
    match plainBreaks (c.rest.length + 1) c with
    | (none, c) => ([], true, c)
    | (some breaks, c) =>
      let glue := if ending != ['\n'] then ending else if breaks.isEmpty then [' '] else []
      (glue ++ breaks, true, c)

/-- The rest of a plain scalar after white space, and whether a line ended last. -/
def plainFrom (inFlow : Bool) (indent : Nat) :
    (bound : Nat) → (blanks : Text) → (ended : Bool) → Cursor → Text × Bool × Cursor
  | 0, _, ended, c => ([], ended, c)
  | bound + 1, blanks, ended, c =>
    let part := if c.rest.head? == some '#' then [] else plainPart inFlow c.rest
    if part.isEmpty then ([], ended, c)
    else
      let (after, ended, c) := plainBlanks (c.skip part.length)
      if after.isEmpty || c.rest.head? == some '#' || (!inFlow && c.column < indent) then
        (blanks ++ part, ended, c)
      else
        let (more, ended, c) := plainFrom inFlow indent bound after ended c
        (blanks ++ part ++ more, ended, c)

/-- A plain scalar whose lines are indented by `indent` at least, and whether it ends with its
line. -/
def readPlain (inFlow : Bool) (indent : Nat) (c : Cursor) : Token × Bool × Cursor :=
  let (text, ended, c) := plainFrom inFlow indent (c.rest.length + 1) [] false c
  (.scalar text true, ended, c)

/-! ## Texts that keep their lines -/

inductive Chomping where
  | strip
  | clip
  | keep
deriving DecidableEq, Repr

def chomping? : Char → Option Chomping
  | '+' => some .keep
  | '-' => some .strip
  | _ => none

def increment (c : Char) : Except Fault (Option Nat) :=
  if c = '0' then .error .malformed
  else if c.isDigit then .ok (some (c.toNat - '0'.toNat))
  else .ok none

def readHeader (c : Cursor) : Except Fault ((Chomping × Option Nat) × Cursor) := do
  let at? (c : Cursor) := c.rest.head?.getD ' '
  let (header, c) ← match chomping? (at? c) with
    | some chomping => do
      match ← increment (at? c.next) with
      | some n => pure ((chomping, some n), c.skip 2)
      | none => pure ((chomping, none), c.next)
    | none => do
      match ← increment (at? c) with
      | some n =>
        match chomping? (at? c.next) with
        | some chomping => pure ((chomping, some n), c.skip 2)
        | none => pure ((.clip, some n), c.next)
      | none => pure ((.clip, none), c)
  if atSpace c.rest then return (header, c) else throw .malformed

/-- The breaks before the first line with text, and the deepest indentation on the way. -/
def leadingBreaks : (bound : Nat) → (deepest : Nat) → Cursor → Text × Nat × Cursor
  | 0, deepest, c => ([], deepest, c)
  | bound + 1, deepest, c =>
    let c := c.skipSpaces
    let deepest := max deepest c.column
    match c.lineBreak with
    | ([], c) => ([], deepest, c)
    | (ending, c) =>
      let (more, deepest, c) := leadingBreaks bound deepest c
      (ending ++ more, deepest, c)

def skipIndent (indent : Nat) (c : Cursor) : Cursor :=
  c.skip (min (indent - c.column) (c.rest.takeWhile (· == ' ')).length)

def indentedBreaks (indent : Nat) : (bound : Nat) → Cursor → Text × Cursor
  | 0, c => ([], c)
  | bound + 1, c =>
    let c := skipIndent indent c
    match c.lineBreak with
    | ([], c) => ([], c)
    | (ending, c) =>
      let (more, c) := indentedBreaks indent bound c
      (ending ++ more, c)

/-- The lines of a text, each after the breaks before it, then its last break and the breaks that
follow. When it is folded, a break between two lines that start with text becomes a space. -/
def blockLines (folded : Bool) (indent : Nat) :
    (bound : Nat) → (breaks : Text) → Cursor → Text × Text × Text × Cursor
  | 0, breaks, c => ([], [], breaks, c)
  | bound + 1, breaks, c =>
    if c.column != indent || c.rest.isEmpty then ([], [], breaks, c)
    else
      let startsText (c : Cursor) := !(c.rest.head?.map isSpaceOrTab).getD false
      let (line, after) := c.span fun ch => !isBreak ch
      let (ending, after) := after.lineBreak
      let (between, after) := indentedBreaks indent (after.rest.length + 1) after
      if after.column == indent && !after.rest.isEmpty then
        let glue :=
          if folded && ending == ['\n'] && startsText c && startsText after then
            if between.isEmpty then [' '] else []
          else ending
        let (more, last, breaks', after) := blockLines folded indent bound between after
        (breaks ++ line ++ glue ++ more, last, breaks', after)
      else (breaks ++ line, ending, between, after)

/-- A text that keeps its lines, inside a collection whose indentation is one less than `least`. -/
def readBlockText (folded : Bool) (least : Nat) (c : Cursor) : Except Fault (Token × Cursor) := do
  let ((chomping, step), c) ← readHeader c.next
  let c ← finishLine c
  let bound := c.rest.length + 1
  let least := max 1 least
  let (breaks, indent, c) := match step with
    | none =>
      let (breaks, deepest, c) := leadingBreaks bound 0 c
      (breaks, max least deepest, c)
    | some n =>
      let (breaks, c) := indentedBreaks (least + n - 1) bound c
      (breaks, least + n - 1, c)
  let (lines, last, after, c) := blockLines folded indent bound breaks c
  let ending := match chomping with
    | .strip => []
    | .clip => last
    | .keep => last ++ after
  return (.scalar (lines ++ ending) false, c)

end ContractAudit.Yaml
