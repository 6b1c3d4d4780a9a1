import ContractAudit.Structure.Solidity.Grammar

/-!
# The grammar of Solidity

A parser of its own for a program that runs without another one. A source is recognised from its
front, and what comes after the last element that is recognised is an error. Operators have no
precedence here, since only whether a text is an expression matters. A word is a keyword wherever
that keyword could stand, and a name everywhere else, so that names such as `error` or `from` may be
declared.
-/
namespace ContractAudit.Structure.Solidity

inductive Rule where
  | expression
  | operand
  | arguments
  | type
  | parameters
  | statement
  | block
  | assembly
  | assemblyExpression
deriving DecidableEq, Repr

open Grammar

abbrev Syn := Grammar Rule

def semicolon : Syn := symbol ";"

def members : Syn :=
  star (seq (symbol ".") name)

def pathExcept (keywords : List String) : Syn :=
  seq (nameExcept keywords) members

def path : Syn :=
  pathExcept []

/-! ## Elementary types -/

def plainNumber? (t : Text) : Option Nat :=
  if t.isEmpty || !t.all Char.isDigit || t.head? == some '0' then none
  else some (t.foldl (fun n c => 10 * n + (c.toNat - '0'.toNat)) 0)

/-- Whether a word is a stem followed by a size that passes a test. -/
def isSized (stem : String) (accepts : Nat → Bool) (w : String) : Bool :=
  match (Text.dropOpening? stem.toList w.toList).bind plainNumber? with
  | some size => accepts size
  | none => false

def isFixedPoint (stem : String) (w : String) : Bool :=
  match Text.dropOpening? stem.toList w.toList with
  | some sizes =>
    let whole := sizes.takeWhile Char.isDigit
    let rest := sizes.dropWhile Char.isDigit
    !whole.isEmpty && rest.head? == some 'x' && !rest.tail.isEmpty && rest.tail.all Char.isDigit
  | none => false

def isElementaryType (w : String) : Bool :=
  ["address", "bool", "string", "var", "byte", "bytes", "int", "uint", "fixed", "ufixed"].contains w
    || isSized "int" isWidth w || isSized "uint" isWidth w
    || isSized "bytes" (· ≤ 32) w || isFixedPoint "fixed" w || isFixedPoint "ufixed" w
where
  isWidth (size : Nat) : Bool := size % 8 == 0 && size ≤ 256

def elementaryType : Syn :=
  alt (seq (word "address") (optional (word "payable")))
    (token fun
      | .word w => isElementaryType w
      | _ => false)

/-! ## Expressions -/

def operandKeywords : List String :=
  ["new", "delete", "type", "payable", "hex", "unicode"]

def unaryOperator : Syn :=
  alt (anySymbol ["!", "~", "-", "++", "--"]) (word "delete")

def binaryOperator : Syn :=
  anySymbol ["+", "-", "*", "/", "%", "**", "<<", ">>", "&", "|", "^", "&&", "||", "==",
    "!=", "<", ">", "<=", ">=", "=", "+=", "-=", "*=", "/=", "%=", "|=", "&=", "^=", "<<=", ">>="]

def unit : Syn :=
  anyWord ["wei", "gwei", "szabo", "finney", "ether", "seconds", "minutes", "hours", "days",
    "weeks", "years"]

def number : Syn :=
  token fun
    | .number written => isOperandNumber written
    | _ => false

def hexString : Syn :=
  token (· == .hexString)

def unicodeString : Syn :=
  token (· == .unicodeString)

def namedValues : Syn :=
  commaList1 (inOrder [name, symbol ":", rule .expression])

def primary : Syn :=
  anyOf [
    seq number (optional unit),
    plus string,
    plus hexString,
    plus unicodeString,
    inParentheses (seq (optional (rule .expression))
      (star (seq (symbol ",") (optional (rule .expression))))),
    between "[" (commaList (rule .expression)) "]",
    seq (word "new") (rule .type),
    seq (word "type") (inParentheses (rule .type)),
    seq (word "payable") (rule .arguments),
    elementaryType,
    nameExcept operandKeywords]

/-- Braces with nothing between them, where the expression goes on after them. -/
def noNamedValues : Syn :=
  inOrder [symbol "\x7b", symbol "\x7d",
    absent (absent (token fun
      | .symbol mark => mark != "\x7b" && mark != "\x7d"
      | _ => false))]

def selection : Syn :=
  anyOf [
    seq (symbol ".") name,
    between "[" (seq (optional (rule .expression))
      (optional (seq (symbol ":") (optional (rule .expression))))) "]",
    inBraces namedValues,
    noNamedValues,
    symbol "++",
    symbol "--"]

def operand : Syn :=
  inOrder [star unaryOperator, primary, star (alt (rule .arguments) selection)]

def expression : Syn :=
  inOrder [
    rule .operand,
    star (seq binaryOperator (rule .operand)),
    optional (inOrder [symbol "?", rule .expression, symbol ":", rule .expression])]

def arguments : Syn :=
  inParentheses (commaList (alt (inBraces (optional namedValues)) (rule .expression)))

/-! ## Types and parameters -/

def visibility : Syn :=
  anyWord ["public", "private", "internal", "external"]

def mutability : Syn :=
  anyWord ["pure", "view", "payable"]

def namedType : Syn :=
  seq (absent elementaryType) (pathExcept ["mapping", "function"])

def mappingType : Syn :=
  inOrder [word "mapping", inParentheses (inOrder [alt elementaryType namedType, optional name,
    symbol "=>", rule .type, optional name])]

def dataLocations : List String :=
  ["memory", "storage", "calldata"]

def dataLocation : Syn :=
  anyWord dataLocations

def functionType : Syn :=
  inOrder [word "function", rule .parameters, star (alt visibility mutability),
    optional (seq (word "returns")
      (inParentheses (commaList1 (seq (rule .type) (optional dataLocation)))))]

def typeName : Syn :=
  seq (anyOf [mappingType, functionType, elementaryType, namedType])
    (star (between "[" (optional (rule .expression)) "]"))

def parameters : Syn :=
  inParentheses (commaList (inOrder [rule .type, optional dataLocation, optional name]))

def returnTypes : Syn :=
  seq (word "returns") (rule .parameters)

/-! ## Statements -/

def variableDeclaration : Syn :=
  inOrder [absent (anyWord operandKeywords), rule .type, optional dataLocation, name]

def variableDeclarationTuple : Syn :=
  let tuple (part : Syn) : Syn :=
    inParentheses (seq (optional part) (star (seq (symbol ",") (optional part))))
  alt (seq (word "var") (tuple name)) (tuple variableDeclaration)

def variableDeclarationStatement : Syn :=
  anyOf [
    inOrder [variableDeclaration, optional (seq (symbol "=") (rule .expression)), semicolon],
    inOrder [variableDeclarationTuple, symbol "=", rule .expression, semicolon]]

def expressionStatement : Syn :=
  seq (rule .expression) semicolon

def ifStatement : Syn :=
  inOrder [word "if", inParentheses (rule .expression), rule .statement,
    optional (seq (word "else") (rule .statement))]

def forStatement : Syn :=
  inOrder [
    word "for",
    inParentheses (inOrder [
      anyOf [variableDeclarationStatement, expressionStatement, semicolon],
      alt expressionStatement semicolon,
      optional (rule .expression)]),
    rule .statement]

def whileStatement : Syn :=
  inOrder [word "while", inParentheses (rule .expression), rule .statement]

def doStatement : Syn :=
  inOrder [word "do", rule .statement, word "while", inParentheses (rule .expression), semicolon]

def catchClause : Syn :=
  inOrder [word "catch", optional (seq (optional name) (rule .parameters)), rule .block]

def tryStatement : Syn :=
  inOrder [word "try", rule .expression, optional returnTypes, rule .block, plus catchClause]

def assemblyStatement : Syn :=
  inOrder [word "assembly", optional (token (· == .string "\x22evmasm\x22".toList)),
    optional (inParentheses (commaList1 string)), rule .assembly]

def returnStatement : Syn :=
  inOrder [word "return", optional (rule .expression), semicolon]

def revertStatement : Syn :=
  inOrder [word "revert", optional (rule .expression), optional (rule .arguments), semicolon]

def emitStatement : Syn :=
  inOrder [word "emit", primary, plus (seq (star selection) (rule .arguments)), semicolon]

def statementKeywords : List String :=
  ["unchecked", "if", "for", "while", "do", "try", "assembly", "return", "emit", "revert", "break",
    "continue"]

def statement : Syn :=
  anyOf [
    rule .block,
    ifStatement,
    forStatement,
    whileStatement,
    doStatement,
    tryStatement,
    assemblyStatement,
    returnStatement,
    emitStatement,
    revertStatement,
    seq (anyWord ["break", "continue"]) semicolon,
    seq (absent (anyWord statementKeywords))
      (alt variableDeclarationStatement expressionStatement)]

def body : Syn :=
  inBraces (star (rule .statement))

def block : Syn :=
  seq (optional (word "unchecked")) body

/-! ## Inline assembly -/

def assemblyCall : Syn :=
  seq name (inParentheses (commaList (rule .assemblyExpression)))

def assemblyLiteral : Syn :=
  anyOf [
    token fun
      | .number written => isAssemblyNumber written
      | _ => false,
    string,
    hexString,
    anyWord ["true", "false"]]

def assemblyExpression : Syn :=
  anyOf [assemblyCall, assemblyLiteral, path]

def assemblyVariables : Syn :=
  inOrder [word "let", name,
    alt
      (seq (plus (seq (symbol ",") name)) (optional (seq (symbol ":=") assemblyCall)))
      (optional (seq (symbol ":=") (rule .assemblyExpression)))]

def assemblySwitch : Syn :=
  let otherwise := seq (word "default") (rule .assembly)
  inOrder [word "switch", rule .assemblyExpression,
    alt
      (seq (plus (inOrder [word "case", assemblyLiteral, rule .assembly])) (optional otherwise))
      otherwise]

def assemblyFunction : Syn :=
  inOrder [word "function", name, inParentheses (commaList name),
    optional (seq (symbol "->") (commaList1 name)), rule .assembly]

def assemblyAssignment : Syn :=
  alt (inOrder [path, symbol ":=", rule .assemblyExpression])
    (inOrder [path, plus (seq (symbol ",") path), symbol ":=", assemblyCall])

def assemblyKeywords : List String :=
  ["let", "if", "for", "switch", "function", "leave", "break", "continue"]

def assemblyStatementOf : Syn :=
  anyOf [
    rule .assembly,
    assemblyVariables,
    inOrder [word "if", rule .assemblyExpression, rule .assembly],
    inOrder [word "for", rule .assembly, rule .assemblyExpression, rule .assembly, rule .assembly],
    assemblySwitch,
    anyWord ["leave", "break", "continue"],
    assemblyFunction,
    seq (absent (anyWord assemblyKeywords))
      (anyOf [assemblyAssignment, assemblyCall, seq name (symbol ":"), path])]

def assembly : Syn :=
  inBraces (star assemblyStatementOf)

def definition : Rule → Syn
  | .expression => expression
  | .operand => operand
  | .arguments => arguments
  | .type => typeName
  | .parameters => parameters
  | .statement => statement
  | .block => block
  | .assembly => assembly
  | .assemblyExpression => assemblyExpression

/-! ## Declarations -/

def overrideWord : Syn :=
  seq (word "override") (optional (inParentheses (commaList1 path)))

def modifierInvocation (attributes : List String) : Syn :=
  seq (pathExcept attributes) (optional (rule .arguments))

def functionAttribute : Syn :=
  anyOf [visibility, mutability, word "virtual", overrideWord,
    modifierInvocation ["public", "private", "internal", "external", "pure", "view", "payable",
      "virtual", "override", "returns"]]

def bodyOrSemicolon : Syn :=
  alt body semicolon

def functionDefinition : Syn :=
  inOrder [word "function", declares .function, rule .parameters, star functionAttribute,
    optional returnTypes, bodyOrSemicolon]

def fallbackDefinition : Syn :=
  inOrder [anyWord ["fallback", "receive", "function"], rule .parameters, star functionAttribute,
    optional returnTypes, bodyOrSemicolon]

def constructorDefinition : Syn :=
  let attributes := ["payable", "internal", "public"]
  inOrder [word "constructor", rule .parameters,
    star (alt (anyWord attributes) (modifierInvocation attributes)), body]

def modifierDefinition : Syn :=
  inOrder [word "modifier", declares .modifier, optional (rule .parameters),
    star (alt (word "virtual") overrideWord), bodyOrSemicolon]

def eventDefinition : Syn :=
  inOrder [word "event", declares .event,
    inParentheses (commaList (inOrder [rule .type, optional (word "indexed"), optional name])),
    optional (word "anonymous"), semicolon]

def errorDefinition : Syn :=
  inOrder [word "error", name,
    inParentheses (commaList (seq (rule .type) (optional name))), semicolon]

def structDefinition : Syn :=
  inOrder [word "struct", name, inBraces (plus (inOrder [rule .type, name, semicolon]))]

def enumDefinition : Syn :=
  inOrder [word "enum", name, inBraces (commaList name)]

def typeDefinition : Syn :=
  inOrder [word "type", name, word "is", elementaryType, semicolon]

def attachedFunction : Syn :=
  seq path (optional (seq (word "as")
    (anySymbol ["&", "~", "|", "^", "+", "/", "%", "*", "-", "==", ">", ">=", "<", "<=", "!="])))

def usingDirective : Syn :=
  inOrder [word "using", alt (inBraces (commaList1 attachedFunction)) path, word "for",
    alt (symbol "*") (rule .type), optional (word "global"), semicolon]

def stateVariable : Syn :=
  inOrder [rule .type,
    star (anyOf [visibility, overrideWord, anyWord ["constant", "immutable", "transient"]]),
    declares .stateVariable, optional (seq (symbol "=") (rule .expression)), semicolon]

def constantDefinition : Syn :=
  inOrder [rule .type, word "constant", name, symbol "=", rule .expression, semicolon]

def memberKeywords : List String :=
  ["modifier", "error", "struct", "enum", "event", "using", "constructor", "fallback", "receive",
    "type"]

def contractBody : Syn :=
  inBraces (star (anyOf [functionDefinition, constructorDefinition, modifierDefinition,
    eventDefinition, errorDefinition, structDefinition, enumDefinition, typeDefinition,
    usingDirective, seq (absent (anyWord memberKeywords)) stateVariable, fallbackDefinition]))

def heritage : Syn :=
  seq (word "is") (commaList1 (seq path (optional (rule .arguments))))

def storageLayout : Syn :=
  inOrder [word "layout", word "at", rule .expression]

def contractDefinition : Syn :=
  anyOf [
    inOrder [optional (word "abstract"), word "contract", declares .contract,
      anyOf [seq heritage (optional storageLayout), seq storageLayout (optional heritage), empty],
      contractBody],
    inOrder [word "interface", declares .contract, optional heritage, contractBody],
    inOrder [word "library", declares .contract, contractBody]]

def importNames : Syn :=
  let renamed := optional (seq (word "as") name)
  anyOf [seq (alt (symbol "*") name) renamed, inBraces (commaList (seq name renamed))]

def importDirective : Syn :=
  inOrder [word "import",
    anyOf [
      seq string (optional (seq (word "as") name)),
      inOrder [importNames, word "from", string]],
    semicolon]

def elementKeywords : List String :=
  ["pragma", "import", "abstract", "contract", "interface", "library", "error", "struct", "enum",
    "event", "using", "type"]

def sourceElement : Syn :=
  anyOf [token (· == .pragma), importDirective, contractDefinition, errorDefinition,
    structDefinition, enumDefinition, functionDefinition, eventDefinition, typeDefinition,
    usingDirective, seq (absent (anyWord elementKeywords)) constantDefinition]

/-! ## Trees -/

/-- The declarations up to the first place that is not recognised, and whether there is one. -/
def recognised (code : Text) : List Declaration × Bool :=
  match tokens? code with
  | none => ([], true)
  | some input =>
    let depth := 8 * input.length + 8
    match recognise (recogniseRule definition depth) (star sourceElement) input with
    | none => ([], true)
    | some (names, rest) => (names, !rest.isEmpty)

def DeclarationKind.nodeKind : DeclarationKind → String
  | contract => "contract_declaration"
  | function => "function_definition"
  | stateVariable => "state_variable_declaration"
  | modifier => "modifier_definition"
  | event => "event_definition"

def Declaration.toNode (d : Declaration) : SyntaxNode :=
  .node d.kind.nodeKind none (some (.node "identifier" (some d.name.toUTF8.toList) none [])) []

def parse : Parser := fun code =>
  let (declarations, hasError) := recognised code
  .ok ⟨.node "source_file" none none (declarations.map Declaration.toNode), hasError⟩

end ContractAudit.Structure.Solidity
