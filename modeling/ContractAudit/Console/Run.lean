import ContractAudit.Console.Arguments
import ContractAudit.Console.Output
import ContractAudit.Json.Printer
import ContractAudit.Registry.Query
import ContractAudit.Settings.Load

/-!
# Running a command

A command line either fails as such, or is done. An audit is done in two steps, so that the time
it took is known when its report is written.

The status of an audit is 1 if a critical or high finding remains and 2 if the input or the
settings are turned down.
-/
namespace ContractAudit.Console

inductive Fault where
  | unnamedKey
  | interrupted (i : Interruption)
  | unwritableNumber
  | invalidAddress (a : InvalidAddress)
  | unusableNumber
  | unusableRequest
deriving DecidableEq, Repr

inductive Exit where
  | usage (e : UsageError)
  | done (status : Nat) (out err : String)
  | fault (f : Fault)
deriving DecidableEq, Repr

structure World where
  files : Files
  environment : Environment
  read : DocumentReader
  parse : Structure.Solidity.Parser
  /-- The client for each numbered call. -/
  client : Nat → HttpClient

/-- A command that is done, or an audit whose report is still to be written. -/
inductive Stage where
  | ended (e : Exit)
  | reported (r : Report) (format : Format) (checklist : Bool)

def textOut (lines : List String) : Exit :=
  .done 0 (String.join (lines.map (· ++ "\n"))) ""

def jsonOut (v : Json) : Exit :=
  .done 0 (v.pretty ++ "\n") ""

def refuse (format : Format) (message : String) : Exit :=
  match format with
  | .json => .done 2 ("\x7b\"error\": " ++ Json.writeString message ++ "\x7d\n") ""
  | .text => .done 2 "" ("Error: " ++ message ++ "\n")

/-- A fault of the settings file that no message is made of, if it is one. -/
def settingsExit (format : Format) : SettingsError → Exit
  | .unnamedKey => .fault .unnamedKey
  | .interrupted i => .fault (.interrupted i)
  | .invalid .unwritable => .fault .unwritableNumber
  | e => refuse format e.message

def auditExit (format : Format) : AuditError → Exit
  | .request (.rejected reason) => refuse format reason.message
  | .request _ => .fault .unusableRequest
  | .unusableLimit => .fault .unusableNumber
  | .unusableThreshold => .fault .unusableNumber

def auditorOf (w : World) (s : Settings) (service : Option ChatService) : Auditor where
  extractor := Structure.extractorOf w.parse
  enhancer := service.map fun service => service.enhancer w.client
  options := s.options

def requestOf (c : AnalyzeCommand) (code : String) : Request where
  code := .str code
  fileName := .str (Path.name c.path)
  facets := c.facets.map .member
  severity := .str c.severity
  language := c.language

def analyze (w : World) (c : AnalyzeCommand) : Stage :=
  match Settings.load w.read w.files c.config w.environment with
  | .error e => .ended (settingsExit c.format e)
  | .ok settings =>
    match w.files (Path.normal c.path) with
    | some (.file content) =>
      match decodeText? content with
      | none => .ended (refuse c.format ("Cannot read " ++ c.path))
      | some code =>
        match settings.chatService? with
        | .error a => .ended (.fault (.invalidAddress a))
        | .ok service =>
          match ((auditorOf w settings service).audit 0 (requestOf c code)).report with
          | .error e => .ended (auditExit c.format e)
          | .ok report => .reported report c.format c.checklist
    | _ => .ended (refuse c.format ("Cannot read " ++ c.path))

def controlsOf (category : Option String) : List Registry.Control :=
  match category with
  | none => Registry.controls
  | some name =>
    if name.isEmpty then Registry.controls
    else Registry.controlsByCategory name

def showStandard (standard : Standard) (format : Format) (category : Option String) : Exit :=
  match standard, format with
  | .swc, .text => textOut (weaknessTable "SWC Registry" Registry.swcEntries).lines
  | .swc, .json => jsonOut (.arr (Registry.swcEntries.map weaknessJson))
  | .csr, .text => textOut (weaknessTable "Cairo Security Registry" Registry.csrEntries).lines
  | .csr, .json => jsonOut (.arr (Registry.csrEntries.map weaknessJson))
  | .scsvs, .text => textOut (controlTable (controlsOf category)).lines
  | .scsvs, .json => jsonOut (.arr ((controlsOf category).map controlJson))

def showDetectors (dialect : Dialect) : Format → Exit
  | .text => textOut (detectorTable dialect (Catalog.of dialect)).lines
  | .json => jsonOut (.arr ((Catalog.of dialect).map detectorJson))

def usageLine : String :=
  "Usage: chainaudit [OPTIONS] COMMAND [ARGS]..."

def helpLines : List String := [
  usageLine,
  "",
  "Commands:",
  "  analyze    Analyze the smart contract at a path.",
  "  standards  List entries of the SWC, CSR or SCSVS v2 registry.",
  "  detectors  List the detectors run for one contract language."]

def start (w : World) (args : List String) : Stage :=
  match parse w.files args with
  | .error e => .ended (.usage e)
  | .ok command =>
    match command with
    | .analyze c => analyze w c
    | .standards standard format category => .ended (showStandard standard format category)
    | .detectors dialect format => .ended (showDetectors dialect format)
    | .version => .ended (textOut ["chainaudit, version " ++ toolVersion])
    | .help => .ended (textOut helpLines)

def writeReport (r : Report) (format : Format) (checklist : Bool) (stamp : Stamp) : String :=
  match format with
  | .json => (r.toJson stamp).pretty ++ "\n"
  | .text => String.join ((reportLines r stamp.elapsed checklist).map (· ++ "\n"))

def Stage.finish (stamp : Stamp) : Stage → Exit
  | .ended e => e
  | .reported r format checklist =>
    .done (if r.isBlocking then 1 else 0) (writeReport r format checklist stamp) ""

def run (w : World) (args : List String) (stamp : Stamp) : Exit :=
  (start w args).finish stamp

end ContractAudit.Console
