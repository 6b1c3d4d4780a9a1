import ContractAudit.Catalog.Detector
import ContractAudit.Source.Block

/-!
# Cairo entry points and triggers

All triggers scan lines. A guard is looked for in a window of fixed size after a declaration, so it
is missed when it stands far away and borrowed when it belongs to the next function.
-/
namespace ContractAudit.Catalog.Cairo

open Pattern Source

def codeLines (code : Text) : List Text :=
  (bare code).lines

/-! ## Entry points -/

def functionDeclaration : Pattern :=
  inOrder [wordEdge, text "fn", blanks1, word]

def implWord : Pattern :=
  keyword ["impl"]

def externalAttribute : Pattern :=
  seq (text "#[") (anyText ["external", "abi(embed_v0)"])

inductive EntryScan where
  | outside
  | awaitingBlock
  /-- Inside a block of entry points, with its brace balance. -/
  | inBlock (depth : Int)
deriving DecidableEq

def nextCode? : Nat → List Text → Option (Nat × Text)
  | _, [] => none
  | index, line :: rest =>
    if Text.isBlankText line then nextCode? (index + 1) rest else some (index, line)

/-- A line outside any block: an attribute makes the next line of code an entry point, or announces
a block if that line starts one. -/
def stepOutside (state : EntryScan) (index : Nat) (line : Text) (rest : List Text) :
    EntryScan × List Nat :=
  if externalAttribute.occursIn line then
    match nextCode? (index + 1) rest with
    | none => (state, [])
    | some (following, next) =>
      if implWord.occursIn next then (.awaitingBlock, []) else (state, [following])
  else (state, [])

def entryStep (state : EntryScan) (index : Nat) (line : Text) (rest : List Text) :
    EntryScan × List Nat :=
  match state with
  | .inBlock depth =>
    let depth := depth + braceBalance line
    (if depth ≤ 0 && line.contains '}' then .outside else .inBlock depth,
      if functionDeclaration.occursIn line then [index] else [])
  | .awaitingBlock =>
    if implWord.occursIn line then (.inBlock (braceBalance line), [])
    else stepOutside .awaitingBlock index line rest
  | .outside => stepOutside .outside index line rest

def entryPointsFrom : EntryScan → Nat → List Text → List Nat
  | _, _, [] => []
  | state, index, line :: rest =>
    let (state', found) := entryStep state index line rest
    found ++ entryPointsFrom state' (index + 1) rest

/-- The indexes, from 0, of lines that declare functions others can call. -/
def entryPoints (lines : List Text) : List Nat :=
  entryPointsFrom .outside 0 lines

/-! ## Windows -/

def window (lines : List Text) (start size : Nat) : List Text :=
  (lines.drop start).take size

/-- Does a line in the window of an index hold the pattern? -/
def guardedBy (guard : Pattern) (size : Nat) (lines : List Text) (index : Nat) : Bool :=
  (window lines index size).any guard.occursIn

def lineAt (lines : List Text) (index : Nat) : Text :=
  lines.getD index []

def indexesWhere (condition : Text → Bool) (lines : List Text) : List Nat :=
  (List.range lines.length).filter fun i => condition (lineAt lines i)

/-! ## Calls -/

def externalCall : Pattern :=
  anyText ["call_contract", "library_call"]

def libraryCall : Pattern :=
  text "library_call"

def externalCallStart : Pattern :=
  inOrder [anyText ["call_contract", "library_call"], wordChars, text "("]

/-- Does a storage write follow an external call in the same function? -/
def writesAfterCall (inFunction called : Bool) : List Text → Bool
  | [] => false
  | line :: rest =>
    let declares := functionDeclaration.occursIn line
    let inFunction := inFunction || declares
    let called := (called && !declares) || (inFunction && externalCall.occursIn line)
    (inFunction && called && line.mentions ".write(") || writesAfterCall inFunction called rest

def hasReentrancy (code : Text) : Bool :=
  writesAfterCall false false (codeLines code)

def callHandling : Pattern :=
  anyOf [seq (text "match") blanks1, text ".unwrap(", text ".expect(", text "assert", text "panic"]

def isHandled (lines : List Text) (index : Nat) : Bool :=
  (window lines (index - 3) (index + 4 - (index - 3))).any callHandling.occursIn

def hasUncheckedCall (code : Text) : Bool :=
  let lines := codeLines code
  (indexesWhere externalCall.occursIn lines).any fun i => !isHandled lines i

def keptResult : Pattern :=
  inOrder [text "let", blanks1, optional (seq (text "mut") blanks1), word, lineRest, text "=",
    lineRest, anyText ["call_contract", "library_call"]]

def hasUnusedReturn (code : Text) : Bool :=
  (codeLines code).any fun line => externalCallStart.occursIn line && !keptResult.occursIn line

/-! ## Arithmetic -/

def arithmeticSign : Pattern :=
  one (among ['-', '+', '*'])

def feltType : Pattern :=
  inOrder [text ":", blanks, text "felt252"]

def feltArithmetic : Pattern :=
  inOrder [text "felt252", lineRest, arithmeticSign]

def checkedOperation : Pattern :=
  seq (text "checked_") (anyText ["add", "sub", "mul"])

def hasFeltOverflow (code : Text) : Bool :=
  (codeLines code).any fun line =>
    feltType.occursIn line && arithmeticSign.occursIn line && !checkedOperation.occursIn line

def assignedArithmetic : Pattern :=
  inOrder [text "let", blanks1, word, blanks, text "=", lineRest, arithmeticSign]

def numberType : Pattern :=
  anyText ["felt252", "u256"]

def checkedOperationOrDivision : Pattern :=
  seq (text "checked_") (anyText ["add", "sub", "mul", "div"])

def hasUncheckedMath (code : Text) : Bool :=
  (codeLines code).any fun line =>
    assignedArithmetic.occursIn line && numberType.occursIn line &&
      !checkedOperationOrDivision.occursIn line

def hasUnsafeConversion (code : Text) : Bool :=
  (codeLines code).any fun line =>
    line.mentions ".into()" && !line.mentions ".try_into()" && line.mentions "felt252"

/-! ## Access and events -/

def sensitiveFunction : Pattern :=
  inOrder [wordEdge, text "fn", blanks1,
    anyText ["transfer", "withdraw", "mint", "burn", "set_", "update_"], wordChars]

def accessGuard : Pattern :=
  anyOf [
    text "only_owner",
    inOrder [text "assert", lineRest, text "==", lineRest, text "get_caller_address"],
    text "Ownable::",
    seq (text "assert_only_") word]

def lacksAccessControl (code : Text) : Bool :=
  let lines := codeLines code
  (entryPoints lines).any fun i =>
    sensitiveFunction.occursIn (lineAt lines i) && !guardedBy accessGuard 15 lines i

def eventfulFunction : Pattern :=
  inOrder [wordEdge, text "fn", blanks1,
    anyText ["transfer", "mint", "burn", "withdraw", "set_", "update_"], wordChars]

def eventEmission : Pattern :=
  anyText [".emit(", "emit_event"]

def lacksEvent (code : Text) : Bool :=
  let lines := codeLines code
  (entryPoints lines).any fun i =>
    eventfulFunction.occursIn (lineAt lines i) && !guardedBy eventEmission 25 lines i

/-! ## Parameters -/

def addressFunction : Pattern :=
  inOrder [wordEdge, text "fn", blanks1, word, lineRest, text ":", blanks, text "ContractAddress"]

def zeroTest : Pattern :=
  anyOf [text "assert", text "is_zero()", text "is_non_zero()",
    inOrder [text "!=", lineRest, one (among ['Z', 'z']), text "ero"]]

def lacksZeroAddressCheck (code : Text) : Bool :=
  let lines := codeLines code
  (indexesWhere addressFunction.occursIn lines).any fun i => !guardedBy zeroTest 10 lines i

def amountFunction : Pattern :=
  inOrder [wordEdge, text "fn", blanks1, word, blanks, text "(", lineRest, text ":", blanks,
    text "u256"]

def inputTest : Pattern :=
  anyOf [text "assert", text "require", text "is_zero",
    seq (one (among ['<', '>'])) (optional (text "="))]

def hasUnvalidatedInput (code : Text) : Bool :=
  let lines := codeLines code
  (entryPoints lines).any fun i =>
    amountFunction.occursIn (lineAt lines i) &&
      !(window lines i 8).any fun line => inputTest.occursIn line && !line.mentions "->"

def constructorTest : Pattern :=
  anyText ["assert", "is_zero", "is_non_zero"]

def lacksConstructorValidation (code : Text) : Bool :=
  let lines := codeLines code
  (indexesWhere (·.mentions "#[constructor]") lines).any fun i =>
    !guardedBy constructorTest 10 lines i

/-! ## Everything else -/

def timestampTest : Pattern :=
  inOrder [anyText ["if", "assert"], lineRest, text "get_block_timestamp"]

def dependsOnTimestamp (code : Text) : Bool :=
  timestampTest.occursIn (bare code)

def storageMap : Pattern :=
  inOrder [word, blanks, text ":", blanks, anyText ["LegacyMap", "Map"], wordEdge]

def storageMapName : Pattern :=
  inOrder [capture 1 word, blanks, text ":", blanks, anyText ["LegacyMap", "Map"], wordEdge]

def storageMapOf? (line : Text) : Option Text :=
  (storageMapName.find? line).map (·.group 1)

def repeats : List Text → Bool
  | [] => false
  | name :: rest => rest.contains name || repeats rest

def hasStorageCollision (code : Text) : Bool :=
  repeats ((codeLines code).filterMap storageMapOf?)

def boundTest : Pattern :=
  inOrder [anyText ["if", "assert"], lineRest, text "<", lineRest, text ".len("]

def hasUncheckedIndex (code : Text) : Bool :=
  (codeLines code).any fun line => line.mentions ".at(" && !boundTest.occursIn line

end ContractAudit.Catalog.Cairo
