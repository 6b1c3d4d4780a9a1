/-!
# Interruptions

What a collaborator raises when it has to stop: a kind of failure, which has a name, and a text,
which may be empty.
-/
namespace ContractAudit

structure Interruption where
  kind : String
  text : String
  named : kind ≠ ""
deriving DecidableEq, Repr

namespace Interruption

/-- The text, or the kind where there is no text. -/
def reason (i : Interruption) : String :=
  if i.text.isEmpty then i.kind else i.text

def ofText (text : String) : Interruption :=
  ⟨"ExtractionError", text, by decide⟩

instance : Coe String Interruption := ⟨ofText⟩

end Interruption

end ContractAudit
