import ContractAudit.Interruption
import ContractAudit.Settings.Value

/-!
# Documents of settings

A settings file holds a document, which a reader makes a value of. Nothing is known of the notation
but how reading can end.
-/
namespace ContractAudit

inductive ReadFault where
  /-- The file cannot be opened, or it breaks the rules of the notation. -/
  | refused
  | interrupted (i : Interruption)
deriving DecidableEq, Repr

abbrev DocumentReader := (content : ByteArray) → Except ReadFault Setting

end ContractAudit
