import ContractAudit.Structure.Lines
import ContractAudit.Structure.Solidity.Tree

/-!
# Extractors by dialect

A registry holds at most one extractor for each dialect; registering another replaces it.
-/
namespace ContractAudit

def Structure.extractorOf (parse : Structure.Solidity.Parser) : Dialect → Extractor
  | .solidity => Structure.Solidity.extractor parse
  | .cairo => Structure.Cairo.extractor
  | .vyper => Structure.Vyper.extractor

structure ExtractorRegistry where
  extractors : List Extractor := []

namespace ExtractorRegistry

def empty : ExtractorRegistry := {}

def register (r : ExtractorRegistry) (e : Extractor) : ExtractorRegistry :=
  ⟨r.extractors.filter (fun known => known.dialect != e.dialect) ++ [e]⟩

def get? (r : ExtractorRegistry) (d : Dialect) : Option Extractor :=
  r.extractors.find? fun e => e.dialect == d

def names (r : ExtractorRegistry) : List String :=
  (r.extractors.map (·.name)).mergeSort fun a b => !(b < a)

def builtin (parse : Structure.Solidity.Parser) : ExtractorRegistry :=
  (Dialect.all.map (Structure.extractorOf parse)).foldl register empty

end ExtractorRegistry

end ContractAudit
