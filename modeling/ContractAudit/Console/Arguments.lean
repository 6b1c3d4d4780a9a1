import ContractAudit.Audit.Request
import ContractAudit.Files

/-!
# The command line

Words are options, their values and operands. Options may stand anywhere behind the command; the
last one of a name counts unless it may be repeated. Everything wrong with the words is one kind
of error, found before anything is done.
-/
namespace ContractAudit.Console

inductive UsageError where
  | unknownCommand (name : String)
  | commandMissing
  | unknownOption (name : String)
  | valueMissing (option : String)
  | valueUnexpected (option : String)
  | badChoice (option value : String)
  | operandMissing (name : String)
  | operandUnexpected (value : String)
  | noFile (path : String)
deriving DecidableEq, Repr

def UsageError.message : UsageError → String
  | unknownCommand name => "No such command '" ++ name ++ "'."
  | commandMissing => "Missing command."
  | unknownOption name => "No such option: " ++ name
  | valueMissing option => "Option '" ++ option ++ "' requires an argument."
  | valueUnexpected option => "Option '" ++ option ++ "' does not take a value."
  | badChoice option value => "Invalid value for '" ++ option ++ "': '" ++ value ++ "'."
  | operandMissing name => "Missing argument '" ++ name ++ "'."
  | operandUnexpected value => "Got unexpected extra argument (" ++ value ++ ")"
  | noFile path => "Path '" ++ path ++ "' is not a readable file."

/-- An error that is shown by itself, without the usage of the command. -/
def UsageError.isBare : UsageError → Bool
  | valueMissing _ => true
  | valueUnexpected _ => true
  | _ => false

structure OptionNames where
  valued : List String
  flags : List String

structure Words where
  values : List (String × String) := []
  flags : List String := []
  operands : List String := []

def splitOption (word : String) : String × Option String :=
  let name := word.toList.takeWhile (· != '=')
  match word.toList.drop name.length with
  | [] => (word, none)
  | _ :: value => (String.ofList name, some (String.ofList value))

def isOption (word : String) : Bool :=
  match word.toList with
  | '-' :: _ :: _ => true
  | _ => false

/-- Sorts the words into options and operands; behind two dashes there are only operands. -/
def sortWords (known : OptionNames) (sofar : Words) : List String → Except UsageError Words
  | [] => .ok sofar
  | word :: rest =>
    if word == "--" then .ok { sofar with operands := sofar.operands ++ rest }
    else if isOption word then
      let (name, value) := splitOption word
      if known.flags.contains name then
        match value with
        | some _ => .error (.valueUnexpected name)
        | none => sortWords known { sofar with flags := sofar.flags ++ [name] } rest
      else if known.valued.contains name then
        match value, rest with
        | some v, rest => sortWords known { sofar with values := sofar.values ++ [(name, v)] } rest
        | none, v :: rest =>
          sortWords known { sofar with values := sofar.values ++ [(name, v)] } rest
        | none, [] => .error (.valueMissing name)
      else .error (.unknownOption name)
    else sortWords known { sofar with operands := sofar.operands ++ [word] } rest

namespace Words

def all (w : Words) (option : String) : List String :=
  (w.values.filter fun v => v.1 == option).map (·.2)

def last? (w : Words) (option : String) : Option String :=
  (w.all option).getLast?

def has (w : Words) (flag : String) : Bool :=
  w.flags.contains flag

end Words

inductive Format where
  | text
  | json
deriving DecidableEq, Repr

def choose {α : Type} (option value : String) (choices : List (String × α)) :
    Except UsageError α :=
  match choices.find? fun choice => choice.1 == value with
  | some (_, meaning) => .ok meaning
  | none => .error (.badChoice option value)

def formatOf (w : Words) : Except UsageError Format :=
  choose "--format" ((w.last? "--format").getD "text") [("text", .text), ("json", .json)]

def dialectChoices : List (String × Dialect) :=
  Dialect.all.map fun d => (d.name, d)

structure AnalyzeCommand where
  path : String
  format : Format
  severity : String
  facets : List Facet
  language : Option Dialect
  config : Option String
  checklist : Bool
deriving DecidableEq, Repr

inductive Standard where
  | swc
  | csr
  | scsvs
deriving DecidableEq, Repr

inductive Command where
  | analyze (c : AnalyzeCommand)
  | standards (standard : Standard) (format : Format) (category : Option String)
  | detectors (dialect : Dialect) (format : Format)
  | version
  | help
deriving DecidableEq, Repr

def helpOption : String := "--help"

def existingFile (files : Files) (path : String) : Except UsageError Unit :=
  match files path with
  | some (.file _) => .ok ()
  | _ => .error (.noFile path)

def possibleFile (files : Files) (path : String) : Except UsageError Unit :=
  match files path with
  | some .directory => .error (.noFile path)
  | _ => .ok ()

def severityOf (w : Words) : Except UsageError String :=
  let value := (w.last? "--severity").getD Filter.keepAll
  choose "--severity" (String.ofList (Text.lower value.toList))
    (Filter.names.map fun name => (name, name))

def facetsOf (w : Words) : Except UsageError (List Facet) := do
  let facets ← (w.all "--type").mapM fun name =>
    choose "--type" name (Facet.all.map fun facet => (facet.name, facet))
  return if facets.isEmpty then Facet.all else facets

def onlyOperand (name : String) : List String → Except UsageError String
  | [] => .error (.operandMissing name)
  | [operand] => .ok operand
  | _ :: extra :: _ => .error (.operandUnexpected extra)

def analyzeOptions : OptionNames :=
  ⟨["--format", "--severity", "--type", "--language", "--config"], ["--checklist", helpOption]⟩

def parseAnalyze (files : Files) (args : List String) : Except UsageError Command := do
  let w ← sortWords analyzeOptions {} args
  if w.has helpOption then return .help
  let path ← onlyOperand "CONTRACT_PATH" w.operands
  existingFile files path
  let format ← formatOf w
  let severity ← severityOf w
  let facets ← facetsOf w
  let language ← (w.last? "--language").mapM fun name => choose "--language" name dialectChoices
  let config := w.last? "--config"
  match config with
  | some path => possibleFile files path
  | none => pure ()
  return .analyze ⟨path, format, severity, facets, language, config, w.has "--checklist"⟩

def standardsOptions : OptionNames :=
  ⟨["--format", "--category"], [helpOption]⟩

def parseStandards (args : List String) : Except UsageError Command := do
  let w ← sortWords standardsOptions {} args
  if w.has helpOption then return .help
  let name ← onlyOperand "REGISTRY" (if w.operands.isEmpty then ["swc"] else w.operands)
  let standard ← choose "REGISTRY" name [("swc", .swc), ("csr", .csr), ("scsvs", .scsvs)]
  return .standards standard (← formatOf w) (w.last? "--category")

def detectorsOptions : OptionNames :=
  ⟨["--dialect", "--format"], [helpOption]⟩

def parseDetectors (args : List String) : Except UsageError Command := do
  let w ← sortWords detectorsOptions {} args
  if w.has helpOption then return .help
  match w.operands with
  | extra :: _ => .error (.operandUnexpected extra)
  | [] =>
    let dialect ←
      choose "--dialect" ((w.last? "--dialect").getD Dialect.solidity.name) dialectChoices
    return .detectors dialect (← formatOf w)

def command? (files : Files) : String → Option (List String → Except UsageError Command)
  | "analyze" => some (parseAnalyze files)
  | "standards" => some parseStandards
  | "detectors" => some parseDetectors
  | _ => none

/-- The options before the command: what the first of them asks for, if it asks for anything, and
the words after them. Short options stand in one word, and only the one for more messages is
known. -/
def leadingOptions (wanted : Option Command) :
    List String → Except UsageError (Option Command × List String)
  | [] => .ok (wanted, [])
  | word :: rest =>
    if word == "--" then .ok (wanted, rest)
    else if !isOption word then .ok (wanted, word :: rest)
    else
      match splitOption word with
      | ("--version", none) => leadingOptions (wanted.or (some .version)) rest
      | ("--help", none) => leadingOptions (wanted.or (some .help)) rest
      | ("--verbose", none) => leadingOptions wanted rest
      | (name, value) =>
        if ["--version", "--help", "--verbose"].contains name && value.isSome then
          .error (.valueUnexpected name)
        else if (word.toList.drop 1).all (· == 'v') then leadingOptions wanted rest
        else .error (.unknownOption name)

/-- The command that the words make. A word in the place of a command that is none may still be an
option. -/
def parse (files : Files) (args : List String) : Except UsageError Command := do
  let (wanted, rest) ← leadingOptions none args
  match wanted, rest with
  | some command, _ => return command
  | none, [] => throw .commandMissing
  | none, name :: more =>
    match command? files name with
    | some parser => parser more
    | none =>
      match ← leadingOptions none rest with
      | (some command, _) => return command
      | (none, _) => throw (.unknownCommand name)

end ContractAudit.Console
