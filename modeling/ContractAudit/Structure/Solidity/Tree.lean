import ContractAudit.Structure.Basic
import ContractAudit.Text.Utf8

/-!
# Names in a syntax tree

The structure of a Solidity source is read off a syntax tree, whoever made it. All nodes are visited
in the order of the source, and a node of a kind that declares something adds its name to the
outline. A tree with errors counts as a failure, but only after the visit, so the names in the parts
that could be parsed are kept.
-/
namespace ContractAudit.Structure.Solidity

inductive DeclarationKind where
  | contract
  | function
  | stateVariable
  | modifier
  | event
deriving DecidableEq, Repr

structure Declaration where
  kind : DeclarationKind
  name : String
deriving DecidableEq, Repr

def addDeclaration (o : Outline) (d : Declaration) : Outline :=
  match d.kind with
  | .contract => o.nameIfUnknown d.name
  | .function => { o with functions := addName o.functions d.name }
  | .stateVariable => { o with stateVariables := addName o.stateVariables d.name }
  | .modifier => { o with modifiers := addName o.modifiers d.name }
  | .event => { o with events := addName o.events d.name }

/-- A node of a syntax tree: its kind, the bytes that it covers if they are kept, the node that the
grammar labels as its name if there is one, and the nodes right below it. -/
inductive SyntaxNode where
  | node (kind : String) (bytes : Option (List UInt8)) (label : Option SyntaxNode)
    (children : List SyntaxNode)

namespace SyntaxNode

def kind : SyntaxNode → String
  | node kind _ _ _ => kind

def bytes? : SyntaxNode → Option (List UInt8)
  | node _ bytes _ _ => bytes

def label? : SyntaxNode → Option SyntaxNode
  | node _ _ label _ => label

def children : SyntaxNode → List SyntaxNode
  | node _ _ _ children => children

/-- The node that holds the name: the labelled one, else the first identifier below. -/
def nameNode? (n : SyntaxNode) : Option SyntaxNode :=
  n.label?.or (n.children.find? fun child => child.kind == "identifier")

def name? (n : SyntaxNode) : Option String :=
  (n.nameNode?.bind bytes?).map Text.decodeRepaired

def declarationKind? (n : SyntaxNode) : Option DeclarationKind :=
  match n.kind with
  | "contract_declaration" => some .contract
  | "interface_declaration" => some .contract
  | "library_declaration" => some .contract
  | "function_definition" => some .function
  | "state_variable_declaration" => some .stateVariable
  | "modifier_definition" => some .modifier
  | "event_definition" => some .event
  | _ => none

def declaration? (n : SyntaxNode) : Option Declaration := do
  return ⟨← n.declarationKind?, ← n.name?⟩

mutual

/-- The node and all nodes below it, in the order of the source. -/
def preorder : SyntaxNode → List SyntaxNode
  | node kind bytes label children => node kind bytes label children :: preorderAll children

def preorderAll : List SyntaxNode → List SyntaxNode
  | [] => []
  | n :: rest => preorder n ++ preorderAll rest

end

end SyntaxNode

structure SyntaxTree where
  root : SyntaxNode
  /-- Some node stands for a place that could not be parsed. -/
  hasError : Bool

namespace SyntaxTree

def declarations (t : SyntaxTree) : List Declaration :=
  t.root.preorder.filterMap SyntaxNode.declaration?

def outline (t : SyntaxTree) : Outline :=
  t.declarations.foldl addDeclaration {}

end SyntaxTree

/-- Anything that makes a tree of a source, or raises something instead. -/
abbrev Parser := Text → Except Interruption SyntaxTree

def extraction (parse : Parser) (code : Text) : Extraction :=
  match parse code with
  | .error i => ⟨{}, some i⟩
  | .ok tree =>
    ⟨tree.outline,
      if tree.hasError then some (.ofText "syntax tree contains error nodes") else none⟩

def extractor (parse : Parser) : Extractor :=
  ⟨"builtin-solidity", .solidity, extraction parse⟩

end ContractAudit.Structure.Solidity
