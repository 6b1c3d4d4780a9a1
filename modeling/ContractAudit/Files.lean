import ContractAudit.Text.Basic
import ContractAudit.Text.LineBreak

/-!
# Files

A working directory as far as a run looks at it: what stands under a path. Every step of a path but
the last leads through a directory, and so does a path that ends with a slash.
-/
namespace ContractAudit

inductive Entry where
  | file (content : ByteArray)
  | directory

abbrev Files := String → Option Entry

namespace Path

def steps (path : String) : List String :=
  (path.splitOn "/").filter fun step => !step.isEmpty && step != "."

def normal (path : String) : String :=
  let body := "/".intercalate (steps path)
  if path.startsWith "/" then "/" ++ body
  else if body.isEmpty then "."
  else body

def name (path : String) : String :=
  (steps path).getLast?.getD ""

end Path

namespace Files

def atSteps (contents : List (List String × ByteArray)) (steps : List String) : Option Entry :=
  match contents.find? fun file => file.1 == steps with
  | some (_, content) => some (.file content)
  | none =>
    if steps.isEmpty || contents.any fun file => steps.isPrefixOf file.1 then some .directory
    else none

/-- Where the steps of a path lead from a directory, which is given by its own steps. Nothing is
known above the working directory. -/
def follow (contents : List (List String × ByteArray)) (place : List String) :
    List String → Option Entry
  | [] => atSteps contents place
  | step :: rest =>
    match atSteps contents place with
    | some .directory =>
      if step.isEmpty || step == "." then follow contents place rest
      else if step != ".." then follow contents (place ++ [step]) rest
      else if place.isEmpty then
        if rest.all fun step => step.isEmpty || step == "." || step == ".." then some .directory
        else none
      else follow contents place.dropLast rest
    | _ => none

def ofList (contents : List (String × ByteArray)) : Files := fun path =>
  if path.isEmpty then none
  else if path.startsWith "/" then (if (Path.steps path).isEmpty then some .directory else none)
  else follow (contents.map fun file => (Path.steps file.1, file.2)) [] (path.splitOn "/")

end Files

/-- The text of a file with every line break as a newline, unless its bytes are no text. -/
def decodeText? (content : ByteArray) : Option String :=
  (String.fromUTF8? content).map fun s => String.ofList (Text.unifyNewlines s.toList)

end ContractAudit
