import ContractAudit.Enhancement.Basic
import ContractAudit.Interruption
import ContractAudit.Json.Body
import ContractAudit.Json.Shown
import ContractAudit.Number.Quantity

/-!
# The chat service

One finding is described in a message to a chat completion service, which is asked for a JSON
object. The message is posted by an HTTP client, of which nothing is known but what can come of a
post. Everything that can go wrong has a cause of its own: the client, the status, the body, the
message inside it and the text of that message.
-/
namespace ContractAudit

def toolVersion : String := "0.1.0"

inductive ChatError where
  | keyMissing
  | timedOut (limit : Number.Quantity)
  | refused (status : Int)
  /-- The post cannot be written, the service was not reached, or its body cannot be decoded. -/
  | requestFailed
  | bodyNotObject (kind : String)
  | noContent
  | contentNotJson
  | contentNotObject
  | contentNotText
  | numeralTooLong (digits : Nat)
  /-- A number that the post or a message has to show is too long to be written. -/
  | unwritable
  | interrupted (i : Interruption)
deriving DecidableEq, Repr

def ChatError.message : ChatError → String
  | keyMissing => "An API key is required for AI enhancement"
  | timedOut limit => "Timed out after " ++ limit.text ++ "s"
  | refused status => "HTTP " ++ toString status ++ " from collaborator"
  | requestFailed => "Request failed"
  | bodyNotObject kind => "Expected a JSON object, got " ++ kind
  | noContent => "Response has no message content"
  | contentNotJson => "Message content is not JSON"
  | contentNotObject => "Message content is not a JSON object"
  | contentNotText => "Message content is not a text"
  | numeralTooLong digits => Text.numeralLimitMessage (some digits)
  | unwritable => Text.numeralLimitMessage none
  | interrupted i => i.reason

/-- Is it a failure of the collaborator, as callers expect one? The other errors pass through as
they are. -/
def ChatError.isFailure : ChatError → Bool
  | contentNotText | numeralTooLong _ | unwritable | interrupted _ => false
  | _ => true

/-! ## Posts -/

inductive Outcome where
  | timeout
  | failed
  | interrupted (i : Interruption)
  | reply (status : Int) (body : List UInt8)
deriving DecidableEq, Repr

/-- A client that posts JSON to an address, with headers and a limit in seconds. -/
abbrev HttpClient :=
  (address : String) → (headers : List (String × String)) → (payload : Json) →
    (limit : Number.Quantity) → Outcome

namespace Http

def senderHeader : String := "User-Agent"

def sender : String := "chainaudit/" ++ toolVersion

def userHeader : String := "Authorization"

def setHeader (headers : List (String × String)) (name value : String) : List (String × String) :=
  match headers with
  | [] => [(name, value)]
  | (n, v) :: rest =>
    if n == name then (name, value) :: rest else (n, v) :: setHeader rest name value

/-- The headers of a post, which name its sender unless the given ones do. -/
def headersWith (given : List (String × String)) : List (String × String) :=
  given.foldl (fun all h => setHeader all h.1 h.2) [(senderHeader, sender)]

def decodeBody (body : List UInt8) : Except ChatError (List (String × Json)) :=
  match (Json.bodyText? body).map Json.read with
  | some (.ok (.obj members)) => .ok members
  | some (.ok other) => .error (.bodyNotObject other.kindName)
  | _ => .error .requestFailed

/-- An error that shows a number, if the number can be written. -/
def showing (error : ChatError) (isWritable : Bool) : ChatError :=
  if isWritable then error else .unwritable

def answerOf (limit : Number.Quantity) : Outcome → Except ChatError (List (String × Json))
  | .timeout => .error (showing (.timedOut limit) limit.isWritable)
  | .failed => .error .requestFailed
  | .interrupted i => .error (.interrupted i)
  | .reply status body =>
    if 200 ≤ status && status < 300 then decodeBody body
    else .error (showing (.refused status) (Text.isWritable status))

def postJson (client : HttpClient) (address : String) (headers : List (String × String))
    (payload : Json) (limit : Number.Quantity) : Except ChatError (List (String × Json)) :=
  answerOf limit (client address (headersWith headers) payload limit)

end Http

/-! ## Messages -/

namespace Chat

def content? (members : List (String × Json)) : Option Json :=
  match Json.member? members "choices" with
  | some (.arr (first :: _)) => (first.get? "message").bind (·.get? "content")
  | _ => none

def decodeText (text : String) : Except ChatError (List (String × Json)) :=
  match Json.read text.toList with
  | .error .malformed => .error .contentNotJson
  | .error (.numeralTooLong digits) => .error (.numeralTooLong digits)
  | .ok (.obj members) => .ok members
  | .ok _ => .error .contentNotObject

/-- An empty content offers nothing. -/
def decodeContent (content : Json) : Except ChatError (List (String × Json)) :=
  if content.isEmpty then .ok []
  else
    match content with
    | .str text => decodeText text
    | _ => .error .contentNotText

def responseOf (members : List (String × Json)) : Except ChatError EnhancementResponse :=
  match content? members with
  | none => .error .noContent
  | some content => (decodeContent content).map .ofPayload

def prompt (r : EnhancementRequest) : Except ChatError String :=
  if Text.isWritable r.lineNumber then
    .ok ("Enhance this vulnerability report:\n\nVulnerability: " ++ r.name ++
      "\nType: " ++ r.type ++ "\nLine: " ++ toString r.lineNumber ++ "\nCode: " ++ r.snippet ++
      "\n\nProvide JSON with: enhancedDescription, exploitationScenario, recommendation")
  else .error .unwritable

def systemPrompt : String :=
  "You are a smart contract security expert. Enhance vulnerability descriptions with clear, " ++
    "actionable insights. Return JSON only."

def defaultUrl : String := "https://api.groq.com/openai/v1"

def defaultModel : String := "llama-3.3-70b-versatile"

def defaultTimeout : Number.Quantity := .real (.ofDecimal false 20 0)

end Chat

/-! ## The service -/

structure ChatService where
  apiKey : String
  model : String := Chat.defaultModel
  baseUrl : String := Chat.defaultUrl
  timeout : Number.Quantity := Chat.defaultTimeout
deriving DecidableEq, Repr

namespace ChatService

def validate (s : ChatService) : Except ChatError Unit :=
  if s.apiKey.isEmpty then .error .keyMissing else .ok ()

/-- The address of the service; slashes at the end of the root do not count. -/
def url (s : ChatService) : String :=
  String.ofList (s.baseUrl.toList.reverse.dropWhile (· == '/')).reverse ++ "/chat/completions"

def headers (s : ChatService) : List (String × String) :=
  [(Http.userHeader, "Bearer " ++ s.apiKey)]

def payload (s : ChatService) (prompt : String) : Json :=
  .obj [("model", .str s.model),
    ("messages", .arr [
      .obj [("role", .str "system"), ("content", .str Chat.systemPrompt)],
      .obj [("role", .str "user"), ("content", .str prompt)]]),
    ("temperature", .float (.ofDecimal false 2 (-1))),
    ("max_tokens", .int 1000),
    ("response_format", .obj [("type", .str "json_object")])]

def ask (s : ChatService) (client : HttpClient) (r : EnhancementRequest) :
    Except ChatError EnhancementResponse := do
  let prompt ← Chat.prompt r
  let members ← Http.postJson client s.url s.headers (s.payload prompt) s.timeout
  Chat.responseOf members

def enhancer (s : ChatService) (client : Nat → HttpClient) : Enhancer := fun call r =>
  (s.ask (client call) r).toOption

end ChatService

end ContractAudit
