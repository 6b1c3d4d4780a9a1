import ContractAudit.Pattern.Search
import ContractAudit.Text.Digit

/-!
# Shapes of Solidity code

The patterns that the Solidity detectors look for. Those that start at the beginning of a line take
that anchor as an argument: a source is searched line by line, a single line only from its start.
-/
namespace ContractAudit.Catalog.Solidity

open Pattern
open Text (isWord isBlank isDecimal)

/-! ## Calls and transfers -/

def valueCall : Pattern :=
  anyOf [
    inOrder [text ".call", blanks, openBrace, many (except ['}']), wordEdge, text "value", blanks,
      text ":"],
    callOf ".call.value"]

def plainTransfer : Pattern :=
  inOrder [text ".", anyText ["transfer", "send"], blanks, text "("]

def externalTransfer : Pattern :=
  alt plainTransfer valueCall

def ownBalance : Pattern :=
  inOrder [text "address", blanks, text "(", blanks, text "this", blanks, text ").balance"]

def balanceTransfer : Pattern :=
  anyOf [
    inOrder [plainTransfer, blanks, ownBalance],
    inOrder [text ".call", blanks, openBrace, many (except ['}']), text "value", blanks, text ":",
      blanks, ownBalance]]

def delegateCall : Pattern :=
  callOf ".delegatecall"

/-- A statement that makes a low-level call and drops its result. -/
def uncheckedCall (start : Pattern) : Pattern :=
  inOrder [start, blanks,
    notAhead (anyOf [seq (text "require") wordEdge, seq (text "if") wordEdge,
      seq (text "return") wordEdge, seq (text "assert") wordEdge]),
    many1 (fun c => isWord c || among ['.', '[', ']', '(', ')'] c),
    text ".", anyText ["call", "send", "delegatecall", "staticcall"], blanks, optional braced,
    blanks, text "("]

def loopCall : Pattern :=
  inOrder [text ".", anyText ["transfer", "send", "call", "delegatecall"], blanks,
    one (among ['(', '{'])]

def dataCall : Pattern :=
  inOrder [text ".call", blanks, optional braced, blanks, text "(", blanks, optional (text "_"),
    wordChars, one (among ['d', 'D']), text "ata", wordEdge]

def fixedGas : Pattern :=
  anyOf [
    inOrder [text ".call", blanks, openBrace, many (except ['}']), wordEdge, text "gas", blanks,
      text ":", blanks, one isDecimal],
    inOrder [text ".gas", blanks, text "(", blanks, many1 isDecimal, blanks, text ")"],
    inOrder [plainTransfer, blanks, many (except [',', '(', ')']), text ")"]]

def tokenTransfer (start : Pattern) : Pattern :=
  inOrder [start, blanks, word, optional arguments, text ".transfer", optional (text "From"),
    blanks, text "(", many (except [';']), text ",", many (except [';']), text ")", blanks,
    text ";"]

/-! ## State -/

/-- A statement that changes state: an assignment, a deletion, or a step up or down. -/
def stateWrite : Pattern :=
  anyOf [
    inOrder [textStart, blanks,
      anyOf [
        inOrder [word, plus indexing, star (seq (text ".") word)],
        inOrder [word, star (seq (text ".") word)]],
      blanks,
      optional (anyOf [one (among ['-', '+', '*', '/', '%', '|', '&', '^']), text "<<", text ">>"]),
      text "=", notAhead (text "=")],
    inOrder [textStart, blanks, text "delete", blanks1, word],
    inOrder [wordEdge, word, star indexing, blanks, anyText ["++", "--"]]]

def storageWrite : Pattern :=
  anyOf [
    inOrder [text ".length", blanks,
      anyOf [text "--", text "-=", text "+=", seq (text "=") (notAhead (text "="))]],
    inOrder [wordEdge, text "sstore", blanks, text "(", blanks, notAhead (text "0x"),
      one (fun c => c.isLower || c == '_'), wordChars, blanks, text ","]]

def storagePointer (start : Pattern) : Pattern :=
  inOrder [start, blanks, word, star (text "[]"), blanks1, text "storage", blanks1, word, blanks,
    text ";"]

def privateSecret : Pattern :=
  inOrder [wordEdge, anyCase "private", blanks1, wordChars,
    anyOf (["password", "secret", "seed", "passphrase", "privatekey"].map anyCase), wordChars]

/-- A state variable without a visibility, indented by a tab or by two or four spaces. -/
def hiddenVisibility : Pattern :=
  inOrder [textStart, anyText ["\t", "  ", "    "],
    alt (inOrder [text "mapping", blanks, text "(", lineRest, text ")"])
      (inOrder [
        anyOf [
          inOrder [optional (text "u"), text "int", many isDecimal],
          inOrder [text "address", optional (seq blanks1 (text "payable"))],
          text "bool",
          seq (text "bytes") (many isDecimal),
          text "string",
          seq (one fun c => c.isUpper) wordChars],
        star (inOrder [text "[", wordChars, text "]"])]),
    blanks1,
    notAhead (seq (anyText ["public", "private", "internal", "constant", "immutable"]) wordEdge),
    word, blanks, optional (seq (text "=") (many (except [';']))), text ";"]

def balanceEquality : Pattern :=
  let balance := seq
    (alt (inOrder [text "address", blanks, text "(", blanks, text "this", blanks, text ")"])
      (seq wordEdge (text "this")))
    (text ".balance")
  alt (inOrder [balance, blanks, equality]) (inOrder [equality, blanks, balance])

/-! ## Functions and guards -/

def visibility : Pattern :=
  keyword ["public", "private", "internal", "external"]

def publicEntry : Pattern :=
  keyword ["public", "external"]

def readOnly : Pattern :=
  keyword ["view", "pure"]

/-- A visibility that a state variable may have, or a word that makes one needless. -/
def stateVisibility : Pattern :=
  keyword ["public", "private", "internal", "constant", "immutable"]

def nonReentrant : Pattern :=
  anyOf [keyword ["nonReentrant"], keyword ["noReentrancy"], keyword ["lock"]]

def guardHeader : Pattern :=
  anyOf [
    inOrder [wordEdge, text "only", wordChars, wordEdge],
    keyword ["auth"], keyword ["requiresAuth"], keyword ["whenOwner"]]

def guardBody : Pattern :=
  anyOf [
    inOrder [text "msg.sender", blanks, equality],
    inOrder [equality, blanks, text "msg.sender"],
    callOf "_checkOwner", callOf "_checkRole", callOf "hasRole", callOf "isOwner",
    callOf "_onlyOwner"]

def signature : Pattern :=
  inOrder [wordEdge, text "function", blanks1, word, blanks, arguments, many (except ['{', ';'])]

def unscopedFunction : Pattern :=
  inOrder [wordEdge, text "function", blanks1, word, blanks, arguments,
    notAhead (seq (many (except ['{', ';'])) visibility)]

def functionNamed (name : String) : Pattern :=
  inOrder [wordEdge, text "function", blanks1, text name, blanks, text "("]

/-- A function named after its contract, or named like the keyword. -/
def constructorOf (contract : Text) : Pattern :=
  inOrder [wordEdge, text "function", blanks1, alt (exactly contract) (text "constructor"), blanks,
    text "("]

def constructorLike : Pattern :=
  inOrder [wordEdge, text "function", blanks1,
    alt (text "constructor") (seq (one fun c => c.isUpper) wordChars), blanks, text "("]

def functionVariable : Pattern :=
  inOrder [wordEdge, text "function", blanks, arguments, blanks, anyText ["internal", "external"],
    many (except [';', '{', '=']), one isBlank, word, blanks, text ";"]

def addressParameter : Pattern :=
  inOrder [wordEdge, text "address", optional (seq blanks1 (text "payable")), blanks1,
    capture 1 word]

def zeroAddress : Pattern :=
  inOrder [text "address", blanks, text "(", blanks, text "0", blanks, text ")"]

def storesParameter (parameter : Text) : Pattern :=
  inOrder [lineStart, blanks, word, star indexing, blanks, text "=", blanks, exactly parameter,
    blanks, text ";"]

def accountAssignment : Pattern :=
  inOrder [textStart, blanks, wordChars,
    anyText ["owner", "admin", "Owner", "Admin", "treasury", "Treasury", "recipient", "Recipient",
      "Address"],
    wordChars, blanks, text "=", blanks, word, blanks, text ";"]

/-! ## Loops -/

def loopStart : Pattern :=
  inOrder [textStart, blanks, anyText ["for", "while"], blanks, text "("]

def lengthLoop : Pattern :=
  inOrder [wordEdge, text "for", blanks, text "(", many (except [';']), text ";",
    many (except [';']), text "<", optional (text "="), blanks, word, star (seq (text ".") word),
    text ".length"]

/-! ## Signatures and hashes -/

def recoverCall : Pattern :=
  callOfWord "ecrecover"

def anyRecoverCall : Pattern :=
  alt (callOfWord "ecrecover") (callOf ".recover")

/-- The largest signature half that cannot be mirrored. -/
def halfOrder : Pattern :=
  anyCase "0x7fffffffffffffffffffffffffffffff5d576e7357a4501ddfe92f46681b20a0"

def zeroAddressTest : Pattern :=
  inOrder [equality, blanks, zeroAddress]

def nonce : Pattern :=
  anyCase "nonce"

def packedArguments : Pattern :=
  inOrder [text "abi.encodePacked", blanks, text "(", many (except [';', ')']), text ","]

def dynamicParameter : Pattern :=
  anyOf [
    inOrder [wordEdge, anyText ["string", "bytes"], blanks1, anyText ["memory", "calldata"],
      wordEdge],
    inOrder [text "[]", blanks1, anyText ["memory", "calldata"], wordEdge]]

/-! ## Block data -/

def originTest : Pattern :=
  anyOf [
    inOrder [wordEdge, text "tx.origin", blanks, equality],
    inOrder [equality, blanks, text "tx.origin", wordEdge]]

def blockAttribute : Pattern :=
  alt
    (seq (text "block.") (anyText ["timestamp", "difficulty", "prevrandao", "coinbase", "number"]))
    (callOf "blockhash")

def weakRandomness : Pattern :=
  anyOf [
    inOrder [text "keccak256", blanks, text "(", many (except [';']), blockAttribute],
    inOrder [
      alt (seq (text "block.") (anyText ["difficulty", "prevrandao"]))
        (inOrder [text "blockhash", blanks, text "(", many (except [';']), text ")"]),
      many (except [';']), text "%"]]

def weakRandomnessLine : Pattern :=
  anyOf [
    inOrder [text "keccak256", blanks, text "(", lineRest, blockAttribute],
    seq (text "block.") (anyText ["difficulty", "prevrandao"])]

def comparison : Pattern :=
  alt (seq (one (among ['<', '>'])) (optional (text "="))) (text "==")

def timeTest : Pattern :=
  anyOf [
    inOrder [keyword ["block.timestamp", "now"], blanks,
      anyOf [seq (one (among ['<', '>'])) (optional (text "=")), text "==", text "%"]],
    inOrder [comparison, blanks, anyText ["block.timestamp", "now"], wordEdge]]

/-! ## Everything else -/

/-- Unsigned arithmetic in place, or a sum, difference or product that is assigned. -/
def plainArithmetic : Pattern :=
  anyOf [
    anyText ["+=", "-=", "*="],
    inOrder [text "=", many (except [';', '=']), wordEdge, word, blanks,
      one (among ['+', '*', '-']), blanks, one isWord]]

def selfDestruct : Pattern :=
  inOrder [wordEdge, anyText ["selfdestruct", "suicide"], blanks, text "("]

def spotPrice : Pattern :=
  alt (callOfWord "getReserves") (callOfWord "slot0")

def uncheckedBlock : Pattern :=
  inOrder [wordEdge, text "unchecked", blanks, openBrace]

def assemblyBlock : Pattern :=
  inOrder [wordEdge, text "assembly", blanks,
    optional (inOrder [text "(", blanks, text "\"", many (except ['\x22']), text "\"", blanks,
      text ")", blanks]),
    openBrace]

def solidityPragma : Pattern :=
  inOrder [text "pragma", blanks1, text "solidity"]

def floatingPragmaLine : Pattern :=
  inOrder [text "pragma", blanks1, text "solidity", blanks1, many (except [';']),
    one (among ['^', '>', '<', '~', '*'])]

def childContract : Pattern :=
  inOrder [wordEdge, text "contract", blanks1, word, blanks1, text "is", wordEdge]

def mistypedOperator : Pattern :=
  inOrder [one isWord, optional (one isBlank), text "=", one (among ['+', '-']),
    ahead (seq blanks (one isWord))]

def freshnessTest : Pattern :=
  anyOf [
    inOrder [text "updatedAt", blanks, one (among ['<', '>'])],
    inOrder [text "-", blanks, text "updatedAt"],
    inOrder [text "answeredInRound", blanks, text ">="]]

def roundDataCall : Pattern :=
  callOfWord "latestRoundData"

def divisionFirst : Pattern :=
  inOrder [one isWord, blanks, text "/", blanks,
    many1 (fun c => isWord c || among ['.', '(', ')'] c), blanks, text "*", blanks, one isWord]

def deprecatedFunction : Pattern :=
  anyOf [
    callOfWord "suicide", callOfWord "sha3", callOf ".callcode",
    inOrder [wordEdge, text "throw", blanks, text ";"],
    callOfWord "block.blockhash", keyword ["msg.gas"],
    inOrder [wordEdge, text "constant", blanks1, text "returns", wordEdge]]

def assertion : Pattern :=
  callOfWord "assert"

/-- A comparison used as a statement, or a call that is prepared and never made. -/
def withoutEffect (start : Pattern) : Pattern :=
  anyOf [
    inOrder [start, blanks, word, optional indexing, blanks, text "==", blanks,
      many1 (except [';']), text ";"],
    inOrder [callOf ".call.value", many (except [')']), text ")", blanks, text ";"]]

def twoStepOwnership : Pattern :=
  anyText ["pendingOwner", "acceptOwnership", "Ownable2Step"]

end ContractAudit.Catalog.Solidity
