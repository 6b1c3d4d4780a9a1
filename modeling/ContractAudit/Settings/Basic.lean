import ContractAudit.Audit.Run
import ContractAudit.Enhancement.Chat
import ContractAudit.Settings.Value

/-!
# Settings

The settings of a run. A setting may hold any value until it is checked, and the check looks at
ranges: numbers of every kind are accepted where a number is needed.
-/
namespace ContractAudit

structure Settings where
  apiKey : Setting := .str ""
  model : Setting := .str Chat.defaultModel
  baseUrl : Setting := .str Chat.defaultUrl
  timeout : Setting := .float (.ofDecimal false 20 0)
  maxFindings : Setting := .int 3
  threshold : Setting := .int 80
deriving Inhabited

inductive InvalidSetting where
  | timeout (shown : String)
  | maxFindings (shown : String)
  | threshold (shown : String)
  | model
  | notNumber
  /-- A number out of range has too many digits to be shown. -/
  | unwritable
deriving DecidableEq, Repr

def maxEnhanced : Int := 3

def InvalidSetting.message : InvalidSetting → String
  | timeout shown => "ai_timeout must be positive, got " ++ shown
  | maxFindings shown =>
    "ai_max_findings must be in [0, " ++ toString maxEnhanced ++ "], got " ++ shown
  | threshold shown => "compliance_threshold must be in [0, 100], got " ++ shown
  | model => "model must not be empty"
  | notNumber => "Invalid configuration value type"
  | unwritable => Text.numeralLimitMessage none

inductive InvalidAddress where
  | notText
  | bytes
deriving DecidableEq, Repr

namespace Settings

def named (s : Settings) : List (String × Setting) :=
  [("api_key", s.apiKey), ("model", s.model), ("base_url", s.baseUrl), ("ai_timeout", s.timeout),
    ("ai_max_findings", s.maxFindings), ("compliance_threshold", s.threshold)]

def names : List String :=
  ["api_key", "model", "base_url", "ai_timeout", "ai_max_findings", "compliance_threshold"]

/-- Gives a value to the setting of this name; other names change nothing. -/
def set (s : Settings) (name : String) (value : Setting) : Settings :=
  match name with
  | "api_key" => { s with apiKey := value }
  | "model" => { s with model := value }
  | "base_url" => { s with baseUrl := value }
  | "ai_timeout" => { s with timeout := value }
  | "ai_max_findings" => { s with maxFindings := value }
  | "compliance_threshold" => { s with threshold := value }
  | _ => s

def setAll (s : Settings) (values : List (String × Setting)) : Settings :=
  values.foldl (fun s entry => s.set entry.1 entry.2) s

def quantity (value : Setting) : Except InvalidSetting Number.Quantity :=
  match value.quantity? with
  | some q => .ok q
  | none => .error .notNumber

/-- A number is out of range; the error shows it if it can be written. -/
def refuse (value : Setting) (error : String → InvalidSetting) : Except InvalidSetting Unit :=
  .error (if value.isUnwritable then .unwritable else error value.numberText)

def checkRange (value : Setting) (last : Int) (error : String → InvalidSetting) :
    Except InvalidSetting Unit := do
  let q ← quantity value
  if q.atLeast 0 && q.atMost last then return () else refuse value error

def validate (s : Settings) : Except InvalidSetting Unit := do
  let timeout ← quantity s.timeout
  if timeout.atMost 0 then refuse s.timeout .timeout
  checkRange s.maxFindings maxEnhanced .maxFindings
  checkRange s.threshold 100 .threshold
  if s.model.isEmpty then .error .model

def aiEnabled (s : Settings) : Bool :=
  !s.apiKey.isEmpty

def limit (s : Settings) : Enhancement.Limit :=
  match s.maxFindings with
  | .int n => .first n
  | .bool b => .first (if b then 1 else 0)
  | .null => .unlimited
  | _ => .unusable

def options (s : Settings) : AuditOptions :=
  ⟨s.limit, s.threshold.quantity?⟩

def textOf : Setting → String
  | .str s => s
  | value => value.numberText

/-- The service to ask, if there is a key for it; the root of its address has to be a text. -/
def chatService? (s : Settings) : Except InvalidAddress (Option ChatService) :=
  if !s.aiEnabled then .ok none
  else
    match s.baseUrl with
    | .str url =>
      .ok (some ⟨textOf s.apiKey, textOf s.model, url,
        s.timeout.quantity?.getD Chat.defaultTimeout⟩)
    | .bytes _ => .error .bytes
    | _ => .error .notText

end Settings

end ContractAudit
