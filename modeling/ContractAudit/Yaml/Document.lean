import ContractAudit.Text.Base64
import ContractAudit.Text.LineBreak
import ContractAudit.Yaml.Node

/-!
# Documents

The value of the only document of a text. A mapping may take over entries of others, which its own
entries replace. Where several nodes are at fault, the one that is nested least counts, and among
those the first.
-/
namespace ContractAudit.Yaml

/-- A fault and how deeply the node is nested that has it. -/
abbrev Nested := Nat × Fault

def leastNested : List Nested → Option Nested
  | [] => none
  | fault :: rest =>
    match leastNested rest with
    | some other => some (if other.1 < fault.1 then other else fault)
    | none => some fault

def faultOf? {α : Type} : Except Nested α → Option Nested
  | .error fault => some fault
  | .ok _ => none

def allValues {α : Type} (results : List (Except Nested α)) : Except Nested (List α) :=
  match leastNested (results.filterMap faultOf?) with
  | some fault => .error fault
  | none => .ok (results.filterMap (·.toOption))

/-- An entry, in its place if its name is there already. -/
def setEntry (entries : List (Setting × Setting)) (key value : Setting) :
    List (Setting × Setting) :=
  match key, entries with
  | .str name, (.str known, v) :: rest =>
    if known == name then (.str name, value) :: rest
    else (.str known, v) :: setEntry rest (.str name) value
  | key, entry :: rest => entry :: setEntry rest key value
  | key, [] => [(key, value)]

namespace Node

def tag : Node → Tag
  | scalar t _ => t
  | list t _ => t
  | mapping t _ => t
  | enclosing isMapping => if isMapping then .map else .seq

def isCollection (n : Node) : Bool :=
  [Tag.seq, Tag.map, Tag.set, Tag.omap, Tag.pairs].contains n.tag

def text : (bound : Nat) → Node → Except Fault Text
  | _, scalar _ t => .ok t
  | bound + 1, mapping _ entries =>
    match entries.find? fun entry => entry.1.tag == .value with
    | some (_, content) => text bound content
    | none => .error .malformed
  | _, _ => .error .malformed

def asName : Node → Node
  | scalar .value t => scalar .str t
  | n => n

/-- The entries of a mapping after those that it takes over. Of several mappings that are taken over
by one entry, the last comes first. -/
def flatten : (bound : Nat) → List (Node × Node) → Except Fault (List (Node × Node))
  | 0, _ => .error .malformed
  | bound + 1, entries => do
    let merged ← (entries.filter fun entry => entry.1.tag == .merge).mapM fun entry =>
      match entry.2 with
      | mapping _ inner => flatten bound inner
      | enclosing true => .ok []
      | list _ items => do
        let parts ← items.mapM fun item =>
          match item with
          | mapping _ inner => flatten bound inner
          | enclosing true => .ok []
          | _ => .error .malformed
        return parts.reverse.flatten
      | _ => .error .malformed
    let own := (entries.filter fun entry => entry.1.tag != .merge).map fun entry =>
      (entry.1.asName, entry.2)
    return merged.flatten ++ own

def nestedAt {α : Type} (depth : Nat) (result : Except Fault α) : Except Nested α :=
  result.mapError fun fault => (depth, fault)

def ofScalar (tag : Tag) (t : Text) : Except Fault Setting :=
  match tag with
  | .null => .ok .null
  | .bool => (truthValue t).map .bool
  | .int => (whole t).map .int
  | .float => (real t).map .float
  | .timestamp => momentOf t
  | .str => .ok (.str (String.ofList t))
  | .binary =>
    if t.all fun c => c.toNat < 128 then
      match Text.decodeBase64? t with
      | some content => .ok (.bytes content)
      | none => .error .malformed
    else .error .malformed
  | _ => .error .malformed

def single (value : Node → Except Nested Setting) (depth : Nat) : Node → Except Nested Setting
  | mapping _ [(key, content)] => do return .list (← allValues [value key, value content])
  | _ => .error (depth, .malformed)

/-- The value that a node at some depth stands for. A collection that stands inside itself is kept
as one that is not empty. -/
def toSetting : (bound : Nat) → (depth : Nat) → Node → Except Nested Setting
  | 0, depth, _ => .error (depth, .malformed)
  | _ + 1, _, enclosing isMapping =>
    .ok (if isMapping then .map [(.null, .null)] else .list [.null])
  | bound + 1, depth, n =>
    let inner := depth + 1
    let name (key : Node) : Except Nested Setting :=
      if key.isCollection then .error (inner, .malformed) else toSetting bound inner key
    let pair (entry : Node × Node) : Except Nested (Setting × Setting) :=
      match name entry.1, toSetting bound inner entry.2 with
      | .ok key, .ok content => .ok (key, content)
      | .ok _, .error fault => .error fault
      | .error fault, .ok _ => .error fault
      | .error a, .error b => .error (if b.1 < a.1 then b else a)
    match n.tag, n with
    | .seq, list _ items => do
      return .list (← allValues (items.map (toSetting bound inner)))
    | .map, mapping _ entries => do
      let entries ← nestedAt inner (flatten bound entries)
      let pairs ← allValues (entries.map pair)
      return .map (pairs.foldl (fun known entry => setEntry known entry.1 entry.2) [])
    | .set, mapping _ entries => do
      let entries ← nestedAt inner (flatten bound entries)
      return .set ((← allValues (entries.map pair)).map (·.1))
    | .omap, list _ items => do
      return .list (← allValues (items.map (single (toSetting bound inner) inner)))
    | .pairs, list _ items => do
      return .list (← allValues (items.map (single (toSetting bound inner) inner)))
    | tag, n =>
      if n.isCollection then .error (inner, .malformed)
      else nestedAt depth (do ofScalar tag (← text bound n))

end Node

def isAllowed (c : Char) : Bool :=
  let n := c.toNat
  n == 9 || n == 10 || n == 13 || (32 ≤ n && n ≤ 126) || n == 0x85 ||
    (0xa0 ≤ n && n ≤ 0xd7ff) || (0xe000 ≤ n && n ≤ 0xfffd) || 0x10000 ≤ n

def read (t : Text) : Except Fault Setting := do
  let t := Text.unifyNewlines t
  if !t.all isAllowed then throw .malformed
  let tokens ← tokens t
  match ← Node.ofTokens tokens with
  | none => return .null
  | some n => (n.toSetting (tokens.length + 2) 0).mapError (·.2)

end ContractAudit.Yaml
