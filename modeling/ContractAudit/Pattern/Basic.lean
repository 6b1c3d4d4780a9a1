import ContractAudit.Text.Casing
import ContractAudit.Text.Word

/-!
# Text patterns

A pattern is a value, and `Pattern.run` tries its ways to match at a place one after the other: the
earlier branch of a choice before the later one, more repetitions before fewer. What follows the
pattern is a continuation, so the first way that lets the rest succeed is the one taken.

A place knows the text that is left and the one character before it, which is all that a word edge
and a line start look at.
-/
namespace ContractAudit

inductive Pattern where
  | nothing
  | exactly (text : Text)
  | one (accepts : Char → Bool)
  /-- Any number of characters of a class, as many as possible first. -/
  | many (accepts : Char → Bool)
  | seq (first second : Pattern)
  /-- `first`, and only when that leads nowhere `second`. -/
  | alt (first second : Pattern)
  /-- Any number of repetitions, as many as possible first. -/
  | star (body : Pattern)
  | textStart
  | lineStart
  /-- The text ends here, or after one last newline. -/
  | textEnd
  /-- A word character on exactly one side. -/
  | wordEdge
  | ahead (body : Pattern)
  | notAhead (body : Pattern)
  | capture (group : Nat) (body : Pattern)

namespace Pattern

/-- What a numbered part of a pattern matched: the text from its start and the text from its end. -/
structure Capture where
  group : Nat
  opening : Text
  closing : Text

def Capture.text (c : Capture) : Text :=
  c.opening.take (c.opening.length - c.closing.length)

/-- A position in a text, with the captures made on the way to it, latest first. -/
structure Place where
  before : Option Char
  rest : Text
  captures : List Capture := []

def isWordAt (c : Option Char) : Bool :=
  (c.map Text.isWord).getD false

def Place.isWordEdge (s : Place) : Bool :=
  isWordAt s.before != isWordAt s.rest.head?

def Place.isLineStart (s : Place) : Bool :=
  s.before == none || s.before == some '\n'

def Place.isTextEnd (s : Place) : Bool :=
  s.rest == [] || s.rest == ['\n']

def stops (accepts : Char → Bool) (captures : List Capture) :
    Option Char → Text → List Place → List Place
  | before, [], nearer => ⟨before, [], captures⟩ :: nearer
  | before, c :: rest, nearer =>
    if accepts c then stops accepts captures (some c) rest (⟨before, c :: rest, captures⟩ :: nearer)
    else ⟨before, c :: rest, captures⟩ :: nearer

/-- Repeats `body`, at most once for each character of `bound`, before going on with `next`. -/
def repeatFrom (body : Place → (Place → Option Place) → Option Place) :
    Text → Place → (Place → Option Place) → Option Place
  | [], s, next => next s
  | _ :: bound, s, next =>
    match body s fun s' => repeatFrom body bound s' next with
    | some r => some r
    | none => next s

/-- Matches the pattern at a place in every way, in order, until `next` succeeds. -/
def run : Pattern → Place → (Place → Option Place) → Option Place
  | nothing, s, next => next s
  | exactly text, s, next =>
    match Text.dropOpening? text s.rest with
    | some rest => next ⟨text.getLast?.or s.before, rest, s.captures⟩
    | none => none
  | one accepts, s, next =>
    match s.rest with
    | [] => none
    | c :: rest => if accepts c then next ⟨some c, rest, s.captures⟩ else none
  | many accepts, s, next => (stops accepts s.captures s.before s.rest []).findSome? next
  | seq first second, s, next => first.run s fun s' => second.run s' next
  | alt first second, s, next =>
    match first.run s next with
    | some r => some r
    | none => second.run s next
  | star body, s, next => repeatFrom (fun s' next' => body.run s' next') s.rest s next
  | textStart, s, next => if s.before == none then next s else none
  | lineStart, s, next => if s.isLineStart then next s else none
  | textEnd, s, next => if s.isTextEnd then next s else none
  | wordEdge, s, next => if s.isWordEdge then next s else none
  | ahead body, s, next => if (body.run s some).isSome then next s else none
  | notAhead body, s, next => if (body.run s some).isSome then none else next s
  | capture group body, s, next =>
    body.run s fun s' => next { s' with captures := ⟨group, s.rest, s'.rest⟩ :: s'.captures }

/-! ## Building patterns -/

def text (s : String) : Pattern :=
  exactly s.toList

def anyCase (s : String) : Pattern :=
  s.toList.foldr (fun letter p => seq (one (Text.sameLetter letter)) p) nothing

def inOrder : List Pattern → Pattern
  | [] => nothing
  | [p] => p
  | p :: ps => seq p (inOrder ps)

def anyOf : List Pattern → Pattern
  | [] => one fun _ => false
  | [p] => p
  | p :: ps => alt p (anyOf ps)

def anyText (texts : List String) : Pattern :=
  anyOf (texts.map text)

def optional (p : Pattern) : Pattern :=
  alt p nothing

def plus (p : Pattern) : Pattern :=
  seq p (star p)

def many1 (accepts : Char → Bool) : Pattern :=
  seq (one accepts) (many accepts)

def among (chars : List Char) (c : Char) : Bool :=
  chars.contains c

def except (chars : List Char) (c : Char) : Bool :=
  !chars.contains c

def blanks : Pattern :=
  many Text.isBlank

def blanks1 : Pattern :=
  many1 Text.isBlank

def wordChars : Pattern :=
  many Text.isWord

def word : Pattern :=
  many1 Text.isWord

def keyword (words : List String) : Pattern :=
  inOrder [wordEdge, anyText words, wordEdge]

def lineRest : Pattern :=
  many (· != '\n')

def openBrace : Pattern :=
  one (· == '{')

def braced : Pattern :=
  inOrder [openBrace, many (except ['}']), one (· == '}')]

def callOf (name : String) : Pattern :=
  inOrder [text name, blanks, text "("]

def callOfWord (name : String) : Pattern :=
  seq wordEdge (callOf name)

def equality : Pattern :=
  seq (one (among ['!', '='])) (text "=")

def indexing : Pattern :=
  inOrder [text "[", many (except [']']), text "]"]

def arguments : Pattern :=
  inOrder [text "(", many (except [')']), text ")"]

end Pattern

end ContractAudit
