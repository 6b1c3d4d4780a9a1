import ContractAudit.Yaml.Layout
import ContractAudit.Yaml.Scalar

/-!
# Nodes

The tokens of a document form a tree of scalars, lists and mappings, each with a tag that says what
it stands for. A tag is given in the text, or follows from the form of the node. An alias stands for
the node that its anchor marks.
-/
namespace ContractAudit.Yaml

inductive Tag where
  | null
  | bool
  | int
  | float
  | binary
  | timestamp
  | omap
  | pairs
  | set
  | str
  | seq
  | map
  /-- The name of an entry that takes over the entries of another mapping. -/
  | merge
  /-- The name of the entry that a mapping stands for where a scalar is needed. -/
  | value
  | unknown
deriving DecidableEq, Repr

namespace Tag

def standard : String := "tag:yaml.org,2002:"

def ofName (name : String) : Tag :=
  match (Text.dropOpening? standard.toList name.toList).map String.ofList with
  | some "null" => null
  | some "bool" => bool
  | some "int" => int
  | some "float" => float
  | some "binary" => binary
  | some "timestamp" => timestamp
  | some "omap" => omap
  | some "pairs" => pairs
  | some "set" => set
  | some "str" => str
  | some "seq" => seq
  | some "map" => map
  | some "merge" => merge
  | some "value" => value
  | _ => unknown

def ofPlain (t : Text) : Tag :=
  let t := dropFinalBreak t
  let s := String.ofList t
  if trueWords.contains s || falseWords.contains s then bool
  else if isReal t then float
  else if isWhole t then int
  else if s == "<<" then merge
  else if nullWords.contains s then null
  else if isMoment t then timestamp
  else if s == "=" then value
  else if ["!", "&", "*"].contains s then unknown
  else str

end Tag

inductive Node where
  | scalar (tag : Tag) (text : Text)
  | list (tag : Tag) (items : List Node)
  | mapping (tag : Tag) (entries : List (Node × Node))
  /-- An alias of a collection that it stands in. -/
  | enclosing (isMapping : Bool)
deriving Inhabited

namespace Node

def missing : Node :=
  scalar .null []

/-- What an anchor marks: a node, or a collection that is still open. -/
inductive Anchored where
  | node (n : Node)
  | unfinished (isMapping : Bool)

structure State where
  tokens : List Token
  anchors : List (Text × Anchored) := []

abbrev Build := StateT State (Except Fault)

def fail {α : Type} : Build α :=
  throw Fault.malformed

def peek : Build (Option Token) :=
  return (← get).tokens.head?

def advance : Build Unit :=
  modify fun s => { s with tokens := s.tokens.tail }

def next (choices : List Token) : Build Bool :=
  return match ← peek with
    | some t => choices.contains t
    | none => false

def take (t : Token) : Build Bool := do
  let found ← next [t]
  if found then advance
  return found

def expect (t : Token) : Build Unit := do
  if !(← take t) then fail

def mark (anchor : Option Text) (target : Anchored) : Build Unit := do
  match anchor with
  | none => return
  | some name =>
    if (← get).anchors.any (·.1 == name) then fail
    modify fun s => { s with anchors := (name, target) :: s.anchors }

def close (anchor : Option Text) (n : Node) : Build Node := do
  match anchor with
  | none => return n
  | some name =>
    modify fun s => { s with
      anchors := s.anchors.map fun a => if a.1 == name then (name, .node n) else a }
    return n

def resolveAlias (name : Text) : Build Node := do
  match (← get).anchors.find? (·.1 == name) with
  | some (_, .node n) => return n
  | some (_, .unfinished isMapping) => return enclosing isMapping
  | none => fail

abbrev Handles := List (Text × Text)

def standardHandles : Handles :=
  [(['!'], ['!']), (['!', '!'], Tag.standard.toList)]

def tagName (handles : Handles) (handle : Option Text) (rest : Text) : Build Text :=
  match handle with
  | none => return rest
  | some h =>
    match handles.find? (·.1 == h) with
    | some (_, opening) => return opening ++ rest
    | none => fail

def takeTag (handles : Handles) : Build (Option Text) := do
  match ← peek with
  | some (.tag handle rest) =>
    advance
    return some (← tagName handles handle rest)
  | _ => return none

def takeAnchor : Build (Option Text) := do
  match ← peek with
  | some (.anchor name) =>
    advance
    return some name
  | _ => return none

def properties (handles : Handles) : Build (Option Text × Option Text) := do
  match ← takeAnchor with
  | some anchor => return (some anchor, ← takeTag handles)
  | none =>
    match ← takeTag handles with
    | some tag => return (← takeAnchor, some tag)
    | none => return (none, none)

/-- The tag that is given, where a single exclamation mark gives none. -/
def given (tag : Option Text) (otherwise : Tag) : Tag :=
  match tag with
  | none => otherwise
  | some name => if name = ['!'] then otherwise else Tag.ofName (String.ofList name)

/-- The tag of a scalar; one in quotes is a text unless an exclamation mark stands before it. -/
def scalarTag (tag : Option Text) (text : Text) (plain : Bool) : Tag :=
  given tag (if plain || tag.isSome then Tag.ofPlain text else .str)

mutual

/-- A node. Collections by indentation are allowed in a block, and lists without indentation of
their own as values of its entries. -/
def build (handles : Handles) : (bound : Nat) → (block indentless : Bool) → Build Node
  | 0, _, _ => fail
  | bound + 1, block, indentless => do
    match ← peek with
    | some (.alias name) =>
      advance
      resolveAlias name
    | _ =>
      let (anchor, tag) ← properties handles
      match ← peek with
      | some (.scalar text plain) =>
        advance
        let n := scalar (scalarTag tag text plain) text
        mark anchor (.node n)
        return n
      | some .openBracket =>
        advance
        mark anchor (.unfinished false)
        let items ← flowItems handles bound true
        close anchor (list (given tag .seq) items)
      | some .openBrace =>
        advance
        mark anchor (.unfinished true)
        let entries ← flowEntries handles bound true
        close anchor (mapping (given tag .map) entries)
      | token =>
        if indentless && token == some .item then
          mark anchor (.unfinished false)
          let items ← indentlessItems handles bound
          close anchor (list (given tag .seq) items)
        else if block && token == some .listStart then
          advance
          mark anchor (.unfinished false)
          let items ← blockItems handles bound
          close anchor (list (given tag .seq) items)
        else if block && token == some .mappingStart then
          advance
          mark anchor (.unfinished true)
          let entries ← blockEntries handles bound
          close anchor (mapping (given tag .map) entries)
        else if anchor.isSome || tag.isSome then
          let n := scalar (scalarTag tag [] true) []
          mark anchor (.node n)
          return n
        else fail

def blockItems (handles : Handles) : (bound : Nat) → Build (List Node)
  | 0 => fail
  | bound + 1 => do
    if ← take .item then
      let n ← if ← next [.item, .blockEnd] then pure missing else build handles bound true false
      return n :: (← blockItems handles bound)
    else
      expect .blockEnd
      return []

def indentlessItems (handles : Handles) : (bound : Nat) → Build (List Node)
  | 0 => fail
  | bound + 1 => do
    if ← take .item then
      let n ←
        if ← next [.item, .key, .value, .blockEnd] then pure missing
        else build handles bound true false
      return n :: (← indentlessItems handles bound)
    else return []

def blockEntries (handles : Handles) : (bound : Nat) → Build (List (Node × Node))
  | 0 => fail
  | bound + 1 => do
    if ← take .key then
      let name ← blockPart handles bound
      let content ← if ← take .value then blockPart handles bound else pure missing
      return (name, content) :: (← blockEntries handles bound)
    else
      expect .blockEnd
      return []

def blockPart (handles : Handles) : (bound : Nat) → Build Node
  | 0 => fail
  | bound + 1 => do
    if ← next [.key, .value, .blockEnd] then return missing else build handles bound true true

/-- The items of a list in brackets. An item may be a single entry of a mapping. -/
def flowItems (handles : Handles) : (bound : Nat) → (first : Bool) → Build (List Node)
  | 0, _ => fail
  | bound + 1, first => do
    if ← take .closeBracket then return []
    if !first then expect .comma
    if ← take .closeBracket then return []
    let n ←
      if ← take .key then do
        let name ← flowPart handles bound [.value, .comma, .closeBracket]
        let content ←
          if ← take .value then flowPart handles bound [.comma, .closeBracket] else pure missing
        pure (mapping .map [(name, content)])
      else build handles bound false false
    return n :: (← flowItems handles bound false)

def flowEntries (handles : Handles) : (bound : Nat) → (first : Bool) → Build (List (Node × Node))
  | 0, _ => fail
  | bound + 1, first => do
    if ← take .closeBrace then return []
    if !first then expect .comma
    if ← take .closeBrace then return []
    let entry ←
      if ← take .key then do
        let name ← flowPart handles bound [.value, .comma, .closeBrace]
        let content ←
          if ← take .value then flowPart handles bound [.comma, .closeBrace] else pure missing
        pure (name, content)
      else do
        pure (← build handles bound false false, missing)
    return entry :: (← flowEntries handles bound false)

/-- A part of an entry in brackets, which is missing before one of some tokens. -/
def flowPart (handles : Handles) : (bound : Nat) → (ends : List Token) → Build Node
  | 0, _ => fail
  | bound + 1, ends => do
    if ← next ends then return missing else build handles bound false false

end

/-! ## Documents -/

def directives : (bound : Nat) → (versioned : Bool) → Handles → Build Handles
  | 0, _, _ => fail
  | bound + 1, versioned, handles => do
    match ← peek with
    | some (.directive (.version major)) =>
      advance
      if versioned || Text.numeralValue major != 1 then fail
      directives bound true handles
    | some (.directive (.tag handle opening)) =>
      advance
      if handles.any (·.1 == handle) then fail
      directives bound versioned ((handle, opening) :: handles)
    | some (.directive .other) =>
      advance
      directives bound versioned handles
    | _ => return handles

def skipDocumentEnds : (bound : Nat) → Build Unit
  | 0 => return
  | bound + 1 => do
    if ← take .documentEnd then skipDocumentEnds bound

def atDocumentEnd : Build Bool := do
  match ← peek with
  | none => return true
  | some (.directive _) => return true
  | some t => return t == .documentStart || t == .documentEnd

def document (bound : Nat) : Build (Option Node) := do
  let n ← match ← peek with
    | none => return none
    | some t =>
      let announced : Bool := match t with
        | .directive _ => true
        | t => t == .documentStart
      if announced then
        let handles ← directives bound false []
        expect .documentStart
        if ← atDocumentEnd then pure missing
        else build (handles ++ standardHandles) bound true false
      else build standardHandles bound true false
  skipDocumentEnds bound
  if (← peek).isSome then fail
  return some n

def ofTokens (tokens : List Token) : Except Fault (Option Node) := do
  let (n, _) ← (document (4 * tokens.length + 4)).run { tokens }
  return n

end Node

end ContractAudit.Yaml
