import ContractAudit.Structure.Solidity.Token
import ContractAudit.Structure.Solidity.Tree

/-!
# Grammars over tokens

A grammar is a value: terminals, sequences, ordered choices, repetitions and calls of named rules.
Recognition takes the first branch of a choice that succeeds and as many repetitions as possible,
and collects the names that are declared on the way. Calls of rules nest only to a given depth.
-/
namespace ContractAudit.Structure.Solidity

inductive Grammar (ρ : Type) where
  | empty
  | token (accepts : Token → Bool)
  | declares (kind : DeclarationKind)
  | seq (first second : Grammar ρ)
  | alt (first second : Grammar ρ)
  | star (body : Grammar ρ)
  /-- The body does not stand here. -/
  | absent (body : Grammar ρ)
  | rule (name : ρ)

namespace Grammar

variable {ρ : Type}

abbrev Outcome := Option (List Declaration × List Token)

/-- Repeats a recogniser, at most once for each token of `bound`, as long as it takes something. -/
def repeatFrom (body : List Token → Outcome) : List Token → List Token → Outcome
  | [], input => some ([], input)
  | _ :: bound, input =>
    match body input with
    | none => some ([], input)
    | some (names, rest) =>
      match repeatFrom body bound rest with
      | none => none
      | some (more, rest') => some (names ++ more, rest')

def recognise (call : ρ → List Token → Outcome) : Grammar ρ → List Token → Outcome
  | empty, input => some ([], input)
  | token accepts, input =>
    match input with
    | t :: rest => if accepts t then some ([], rest) else none
    | [] => none
  | declares kind, input =>
    match input with
    | .word w :: rest => some ([⟨kind, w⟩], rest)
    | _ => none
  | seq first second, input =>
    match recognise call first input with
    | none => none
    | some (names, rest) =>
      match recognise call second rest with
      | none => none
      | some (more, rest') => some (names ++ more, rest')
  | alt first second, input =>
    match recognise call first input with
    | some outcome => some outcome
    | none => recognise call second input
  | star body, input => repeatFrom (fun rest => recognise call body rest) input input
  | absent body, input =>
    match recognise call body input with
    | some _ => none
    | none => some ([], input)
  | rule name, input => call name input

/-- Recognises a rule, with calls nested at most to a depth. -/
def recogniseRule (definition : ρ → Grammar ρ) : (depth : Nat) → ρ → List Token → Outcome
  | 0, _, _ => none
  | depth + 1, name, input => recognise (recogniseRule definition depth) (definition name) input

/-! ## Building grammars -/

def word (name : String) : Grammar ρ :=
  token fun
    | .word w => w == name
    | _ => false

def anyWord (names : List String) : Grammar ρ :=
  token fun
    | .word w => names.contains w
    | _ => false

def nameExcept (keywords : List String) : Grammar ρ :=
  token fun
    | .word w => !keywords.contains w
    | _ => false

def name : Grammar ρ :=
  nameExcept []

def symbol (mark : String) : Grammar ρ :=
  token (· == .symbol mark)

def anySymbol (marks : List String) : Grammar ρ :=
  token fun
    | .symbol m => marks.contains m
    | _ => false

def string : Grammar ρ :=
  token fun
    | .string _ => true
    | _ => false

def inOrder : List (Grammar ρ) → Grammar ρ
  | [] => empty
  | [g] => g
  | g :: gs => seq g (inOrder gs)

def anyOf : List (Grammar ρ) → Grammar ρ
  | [] => absent empty
  | [g] => g
  | g :: gs => alt g (anyOf gs)

def optional (g : Grammar ρ) : Grammar ρ :=
  alt g empty

def plus (g : Grammar ρ) : Grammar ρ :=
  seq g (star g)

def commaList1 (g : Grammar ρ) : Grammar ρ :=
  inOrder [g, star (seq (symbol ",") g), optional (symbol ",")]

def commaList (g : Grammar ρ) : Grammar ρ :=
  optional (commaList1 g)

def between (opening : String) (g : Grammar ρ) (closing : String) : Grammar ρ :=
  inOrder [symbol opening, g, symbol closing]

def inParentheses (g : Grammar ρ) : Grammar ρ :=
  between "(" g ")"

def inBraces (g : Grammar ρ) : Grammar ρ :=
  between "\x7b" g "\x7d"

end Grammar

end ContractAudit.Structure.Solidity
