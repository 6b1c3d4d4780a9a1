import ContractAudit.Files
import ContractAudit.Settings.Document
import ContractAudit.Yaml.Document

/-!
# A reader of its own

Settings files in the usual notation, for a program that runs without another reader.
-/
namespace ContractAudit.Yaml

def reader : DocumentReader := fun content =>
  match decodeText? content with
  | none => .error (.interrupted ⟨"UnicodeDecodeError", "", by decide⟩)
  | some text =>
    match read text.toList with
    | .error .malformed => .error .refused
    | .error fault => .error (.interrupted fault.interruption)
    | .ok document => .ok document

end ContractAudit.Yaml
