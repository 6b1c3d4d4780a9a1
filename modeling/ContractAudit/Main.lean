import ContractAudit.Audit.Moment
import ContractAudit.Console.Run
import ContractAudit.Enhancement.Post
import ContractAudit.Structure.Solidity.Rules
import ContractAudit.Yaml.Reader
import Std.Time.DateTime

/-!
# The command

Reads what a run looks at, runs it and writes its output. There is no network here, so the chat
service counts as unreachable.
-/
namespace ContractAudit.Console

def lookUp (path : String) : IO (Option (String × Entry)) := do
  try
    return some (path, .file (← IO.FS.readBinFile path))
  catch _ =>
    if ← (← IO.FS.realPath path).isDir then return some (path, .directory) else return none

/-- Every file that the words can mean, and the usual settings file. -/
def readFiles (args : List String) : IO Files := do
  let named := args.map fun word => (splitOption word).2.getD word
  let paths := Settings.defaultFile :: named ++ named.map Path.normal
  let found ← paths.filterMapM lookUp
  return fun path => (found.find? fun entry => entry.1 == path).map (·.2)

def readEnvironment : IO Environment :=
  Settings.watched.filterMapM fun v => do
    return (← IO.getEnv v.name).map fun value => (v.name, value)

def identifier (bytes : ByteArray) : String :=
  let versioned := bytes.set! 6 (bytes.get! 6 &&& 0x0f ||| 0x40)
  let marked := versioned.set! 8 (bytes.get! 8 &&& 0x3f ||| 0x80)
  let digits := marked.toList.flatMap fun b => Text.hex 2 b.toNat
  let group := fun start stop => String.ofList ((digits.take stop).drop start)
  "-".intercalate [group 0 8, group 8 12, group 12 16, group 16 20, group 20 32]

def randomIdentifier : IO String := do
  return identifier (← IO.getRandomBytes 16)

def createStamp (elapsed count : Nat) : IO Stamp := do
  let now ← Std.Time.Timestamp.now
  let ids ← (List.range count).mapM fun _ => randomIdentifier
  let moment := Moment.ofMilliseconds now.toMillisecondsSinceUnixEpoch.val.toNat
  return ⟨← randomIdentifier, moment.text, elapsed, fun i => ids.getD i ""⟩

def Stage.findingCount : Stage → Nat
  | .ended _ => 0
  | .reported r _ _ => r.findings.length

def conclude : Exit → IO UInt32
  | .usage e => do
    if !e.isBare then IO.eprintln usageLine
    IO.eprintln ("Error: " ++ e.message)
    return 2
  | .done status out err => do
    IO.print out
    IO.eprint err
    return status.toUInt32
  | .fault _ => do
    IO.eprintln "Error: the settings cannot be used"
    return 1

end ContractAudit.Console

open ContractAudit.Console in
def main (args : List String) : IO UInt32 := do
  let world : World :=
    { files := ← readFiles args
      environment := ← readEnvironment
      read := ContractAudit.Yaml.reader
      parse := ContractAudit.Structure.Solidity.parse
      client := fun _ => ContractAudit.Post.client fun _ => .failed }
  let started ← IO.monoMsNow
  let stage := start world args
  let count := stage.findingCount
  let ended ← IO.monoMsNow
  conclude (stage.finish (← createStamp (ended - started) count))
