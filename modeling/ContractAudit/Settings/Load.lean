import ContractAudit.Files
import ContractAudit.Settings.Basic
import ContractAudit.Settings.Document

/-!
# Loading settings

Settings come in layers: defaults, then a file, then the environment. What the file says is up to a
reader of documents. A variable that cannot be converted counts as absent. The result is checked as
a whole, so a value of the file that a variable replaces is never looked at.
-/
namespace ContractAudit

inductive SettingsError where
  | notFound (path : String)
  | unreadable (path : String)
  | interrupted (i : Interruption)
  | notMapping (path : String)
  | unknownKeys (path : String) (keys : List String)
  /-- A key that is unknown and no text. -/
  | unnamedKey
  | invalid (e : InvalidSetting)
deriving DecidableEq, Repr

def SettingsError.message : SettingsError → String
  | notFound path => "Config file not found: " ++ path
  | unreadable path => "Cannot read config file " ++ path
  | interrupted i => i.reason
  | notMapping path => "Config file " ++ path ++ " must contain a mapping"
  | unknownKeys path keys => "Unknown config keys in " ++ path ++ ": " ++ ", ".intercalate keys
  | unnamedKey => "A config key is no text"
  | invalid e => e.message

abbrev Environment := List (String × String)

inductive Conversion where
  | text
  | whole
  | real
deriving DecidableEq, Repr

def Conversion.convert? (c : Conversion) (raw : String) : Option Setting :=
  match c with
  | text => some (.str raw)
  | whole => (Text.readInteger? raw.toList).map .int
  | real => (Text.readDouble? raw.toList).map .float

structure Variable where
  name : String
  setting : String
  conversion : Conversion
deriving DecidableEq, Repr

namespace Settings

def watched : List Variable := [
  ⟨"GROQ_API_KEY", "api_key", .text⟩,
  ⟨"GROQ_MODEL", "model", .text⟩,
  ⟨"GROQ_BASE_URL", "base_url", .text⟩,
  ⟨"CHAINAUDIT_AI_TIMEOUT", "ai_timeout", .real⟩,
  ⟨"CHAINAUDIT_AI_MAX_FINDINGS", "ai_max_findings", .whole⟩,
  ⟨"CHAINAUDIT_COMPLIANCE_THRESHOLD", "compliance_threshold", .whole⟩]

/-- The value that an environment gives to a setting, if its variable is set and can be
converted. -/
def override? (env : Environment) (v : Variable) : Option (String × Setting) := do
  let entry ← env.find? fun entry => entry.1 == v.name
  let value ← v.conversion.convert? entry.2
  return (v.setting, value)

def overrides (env : Environment) : List (String × Setting) :=
  watched.filterMap (override? env)

def knownEntries (entries : List (Setting × Setting)) : List (String × Setting) :=
  entries.filterMap fun
    | (.str name, value) => some (name, value)
    | _ => none

/-- The names that are no settings, in alphabetical order. -/
def unknownNames (entries : List (String × Setting)) : List String :=
  ((entries.map (·.1)).filter fun name => !names.contains name).mergeSort fun a b => !(b < a)

/-- The settings that a document gives; an empty one gives none. -/
def ofDocument (path : String) (document : Setting) :
    Except SettingsError (List (String × Setting)) :=
  if document.isEmpty then .ok []
  else
    match document with
    | .map entries =>
      let known := knownEntries entries
      let unknown := unknownNames known
      if entries.any fun entry => !entry.1.isText then .error .unnamedKey
      else if unknown.isEmpty then .ok known
      else .error (.unknownKeys path unknown)
    | _ => .error (.notMapping path)

def ofFile (read : DocumentReader) (path : String) (content : ByteArray) :
    Except SettingsError (List (String × Setting)) :=
  match read content with
  | .error .refused => .error (.unreadable path)
  | .error (.interrupted i) => .error (.interrupted i)
  | .ok document => ofDocument path document

def defaultFile : String := ".chainaudit.yml"

/-- The settings of the file that is named, or of the usual one if it is there. -/
def fileLayer (read : DocumentReader) (files : Files) :
    Option String → Except SettingsError (List (String × Setting))
  | some path =>
    match files (Path.normal path) with
    | some (.file content) => ofFile read (Path.normal path) content
    | _ => .error (.notFound (Path.normal path))
  | none =>
    match files defaultFile with
    | some (.file content) => ofFile read defaultFile content
    | _ => .ok []

def layered (file environment : List (String × Setting)) : Settings :=
  (({} : Settings).setAll file).setAll environment

def load (read : DocumentReader) (files : Files) (path : Option String) (env : Environment) :
    Except SettingsError Settings := do
  let file ← fileLayer read files path
  let settings := layered file (overrides env)
  match settings.validate with
  | .ok () => return settings
  | .error e => .error (.invalid e)

end Settings

end ContractAudit
