import ContractAudit.Yaml.Token

/-!
# Layout

Indentation and brackets decide how tokens belong together. A token that may turn out to be the name
of an entry is remembered until a colon confirms it; such a name stands on one line and is short.
-/
namespace ContractAudit.Yaml

structure PendingKey where
  token : Nat
  required : Bool
  index : Nat
  line : Nat
  column : Nat
deriving Repr

def maxKeyLength : Nat := 1024

structure Layout where
  cursor : Cursor
  tokens : List Token := []
  count : Nat := 0
  /-- The pending name of every open bracket, the innermost first, and of the block around them. -/
  keys : List (Option PendingKey) := [none]
  /-- The column of the innermost list or mapping by indentation, if there is one. -/
  indents : List Nat := []
  allowsKey : Bool := true

namespace Layout

def inFlow (l : Layout) : Bool :=
  1 < l.keys.length

def innerColumn (l : Layout) : Nat :=
  match l.indents with
  | [] => 0
  | column :: _ => column + 1

def push (l : Layout) (t : Token) : Layout :=
  { l with tokens := t :: l.tokens, count := l.count + 1 }

def insertAt (l : Layout) (place : Nat) (t : Token) : Layout :=
  let after := l.count - place
  { l with
    tokens := l.tokens.take after ++ t :: l.tokens.drop after
    count := l.count + 1 }

def moveTo (l : Layout) (c : Cursor) : Layout :=
  { l with cursor := c }

def allow (l : Layout) (b : Bool) : Layout :=
  { l with allowsKey := b }

/-! ## Pending names -/

/-- A name that has to be there must not be given up. -/
def giveUp (key : Option PendingKey) : Except Fault (Option PendingKey) :=
  match key with
  | some k => if k.required then .error .malformed else .ok none
  | none => .ok none

def dropStale (l : Layout) : Except Fault Layout := do
  let keys ← l.keys.mapM fun key =>
    match key with
    | some k =>
      if k.line != l.cursor.line || maxKeyLength < l.cursor.index - k.index then giveUp key
      else .ok key
    | none => .ok none
  return { l with keys }

def dropKey (l : Layout) : Except Fault Layout :=
  match l.keys with
  | key :: rest => return { l with keys := (← giveUp key) :: rest }
  | [] => .ok l

def saveKey (l : Layout) : Except Fault Layout := do
  if !l.allowsKey then return l
  let l ← l.dropKey
  let c := l.cursor
  let required := !l.inFlow && l.indents.head? == some c.column
  return { l with keys := some ⟨l.count, required, c.index, c.line, c.column⟩ :: l.keys.drop 1 }

/-! ## Indentation -/

/-- Ends the collections whose column is beyond a limit. -/
def unwindTo (ends : Nat → Bool) (l : Layout) : Layout :=
  let ended := l.indents.takeWhile ends
  { l with
    tokens := List.replicate ended.length .blockEnd ++ l.tokens
    count := l.count + ended.length
    indents := l.indents.drop ended.length }

def unwind (l : Layout) : Layout :=
  if l.inFlow then l else l.unwindTo (l.cursor.column < ·)

def unwindAll (l : Layout) : Layout :=
  if l.inFlow then l else l.unwindTo fun _ => true

def isDeeper (l : Layout) (column : Nat) : Bool :=
  match l.indents with
  | [] => true
  | innermost :: _ => innermost < column

def openBlock (l : Layout) (start : Token) : Layout :=
  if l.isDeeper l.cursor.column then
    { l.push start with indents := l.cursor.column :: l.indents }
  else l

/-! ## Tokens -/

def toNext : (bound : Nat) → Layout → Layout
  | 0, l => l
  | bound + 1, l =>
    match l.cursor.skipSpaces.skipComment.lineBreak with
    | ([], c) => l.moveTo c
    | (_, c) => toNext bound ((l.moveTo c).allow (l.allowsKey || !l.inFlow))

def mark (l : Layout) (t : Token) (width : Nat) : Layout :=
  (l.push t).moveTo (l.cursor.skip width)

def openFlow (l : Layout) (t : Token) : Except Fault Layout := do
  let l ← l.saveKey
  return ({ l with keys := none :: l.keys, allowsKey := true }).mark t 1

def closeFlow (l : Layout) (t : Token) : Except Fault Layout := do
  if !l.inFlow then throw .malformed
  let l ← l.dropKey
  return ({ l with keys := l.keys.drop 1, allowsKey := false }).mark t 1

def comma (l : Layout) : Except Fault Layout := do
  return (← (l.allow true).dropKey).mark .comma 1

def item (l : Layout) : Except Fault Layout := do
  if !l.inFlow && !l.allowsKey then throw .malformed
  let l := if l.inFlow then l else l.openBlock .listStart
  return (← (l.allow true).dropKey).mark .item 1

def explicitKey (l : Layout) : Except Fault Layout := do
  if !l.inFlow && !l.allowsKey then throw .malformed
  let l := if l.inFlow then l else l.openBlock .mappingStart
  return (← (l.allow !l.inFlow).dropKey).mark .key 1

/-- A colon makes the pending name one, or follows a name of another kind. -/
def value (l : Layout) : Except Fault Layout := do
  match l.keys with
  | some k :: rest =>
    let opens := !l.inFlow && l.isDeeper k.column
    let l := { l with keys := none :: rest, allowsKey := false }
    let l := l.insertAt k.token .key
    let l :=
      if opens then { l.insertAt k.token .mappingStart with indents := k.column :: l.indents }
      else l
    return l.mark .value 1
  | _ =>
    if !l.inFlow && !l.allowsKey then throw .malformed
    let l := if l.inFlow then l else l.openBlock .mappingStart
    return (← (l.allow !l.inFlow).dropKey).mark .value 1

def named (l : Layout) (read : Cursor → Except Fault (Token × Cursor)) : Except Fault Layout := do
  let l ← l.saveKey
  let (t, c) ← read l.cursor
  return ((l.allow false).push t).moveTo c

def plain (l : Layout) : Except Fault Layout := do
  let l ← l.saveKey
  let (t, ended, c) := readPlain l.inFlow l.innerColumn l.cursor
  return ((l.allow ended).push t).moveTo c

def blockText (l : Layout) (folded : Bool) : Except Fault Layout := do
  let l ← (l.allow true).dropKey
  let (t, c) ← readBlockText folded l.innerColumn l.cursor
  return (l.push t).moveTo c

def separator (l : Layout) (read : Cursor → Except Fault (Token × Cursor)) :
    Except Fault Layout := do
  let l ← l.unwindAll.dropKey
  let (t, c) ← read l.cursor
  return ((l.allow false).push t).moveTo c

def indicators : List Char :=
  ['-', '?', ':', ',', '[', ']', '\x7b', '\x7d', '#', '&', '*', '!', '|', '>', '\x27', '\x22', '%',
    '@', '\x60']

/-- Can a plain scalar start here? -/
def startsPlain (inFlow : Bool) (c : Char) (rest : Text) : Bool :=
  (!atBlank [c] && !indicators.contains c) ||
    (!atBlank rest && (c == '-' || (!inFlow && (c == '?' || c == ':'))))

def token (l : Layout) (c : Char) (rest : Text) : Except Fault Layout :=
  let first := l.cursor.column == 0
  if c = '%' && first then
    l.separator fun c => (readDirective c).map fun (d, c) => (.directive d, c)
  else if first && l.cursor.atSeparator then
    l.separator fun cursor =>
      .ok (if c = '-' then .documentStart else .documentEnd, cursor.skip 3)
  else if c = '[' then l.openFlow .openBracket
  else if c = '\x7b' then l.openFlow .openBrace
  else if c = ']' then l.closeFlow .closeBracket
  else if c = '\x7d' then l.closeFlow .closeBrace
  else if c = ',' then l.comma
  else if c = '-' && atBlank rest then l.item
  else if c = '?' && (l.inFlow || atBlank rest) then l.explicitKey
  else if c = ':' && (l.inFlow || atBlank rest) then l.value
  else if c = '*' then
    l.named fun c => (readAnchor c).map fun (name, c) => (.alias name, c)
  else if c = '&' then
    l.named fun c => (readAnchor c).map fun (name, c) => (.anchor name, c)
  else if c = '!' then l.named readTag
  else if c = '|' && !l.inFlow then l.blockText false
  else if c = '>' && !l.inFlow then l.blockText true
  else if c = '\x27' || c = '\x22' then l.named (readQuoted c)
  else if startsPlain l.inFlow c rest then l.plain
  else .error .malformed

def finish : (bound : Nat) → Layout → Except Fault (List Token)
  | 0, _ => .error .malformed
  | bound + 1, l => do
    let l ← (l.toNext (l.cursor.rest.length + 1)).dropStale
    let l := l.unwind
    match l.cursor.rest with
    | [] => return (← l.unwindAll.dropKey).tokens.reverse
    | c :: rest => finish bound (← l.token c rest)

end Layout

def tokens (t : Text) : Except Fault (List Token) :=
  let start : Cursor := ⟨t, 0, 0, 0⟩
  let start := if (t.head?.map Char.toNat) == some 0xfeff then start.next else start
  Layout.finish (t.length + 1) { cursor := start }

end ContractAudit.Yaml
