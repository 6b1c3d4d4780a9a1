import ContractAudit.Dialect
import ContractAudit.Interruption
import ContractAudit.Text.Basic

/-!
# The structure of a source

Names that a source declares, as far as they can be told. An extractor never fails as a whole: when
something goes wrong it keeps what it had found and says why it stopped.
-/
namespace ContractAudit

def unknownName : String := "Unknown"

structure Outline where
  name : String := unknownName
  functions : List String := []
  stateVariables : List String := []
  modifiers : List String := []
  events : List String := []
deriving DecidableEq, Repr

/-- Adds a name at the end unless it is empty or there already. -/
def addName (names : List String) (name : String) : List String :=
  if name.isEmpty || names.contains name then names else names ++ [name]

def Outline.nameIfUnknown (o : Outline) (name : String) : Outline :=
  if o.name == unknownName && !name.isEmpty then { o with name := name } else o

structure Structure where
  dialect : Dialect
  outline : Outline
  /-- Why the extraction stopped early, if it did. -/
  failure : Option String := none
deriving DecidableEq, Repr

def Structure.isExtracted (s : Structure) : Bool :=
  s.failure.isNone

structure Extraction where
  outline : Outline
  failure : Option Interruption := none
deriving DecidableEq, Repr

structure Extractor where
  name : String
  dialect : Dialect
  run : Text → Extraction

/-- Runs the extractor. A failure keeps the names found before it. -/
def Extractor.extract (e : Extractor) (code : Text) : Structure :=
  let result := e.run code
  { dialect := e.dialect
    outline := result.outline
    failure := result.failure.map Interruption.reason }

end ContractAudit
