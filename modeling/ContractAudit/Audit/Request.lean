import ContractAudit.Audit.Filter
import ContractAudit.Json.Shown
import ContractAudit.Language

/-!
# Requests

A request holds what its sender wrote. Reading one already settles the facets and the language;
whether the other values make sense is decided when the request is accepted, and an accepted
request is a `Task`.
-/
namespace ContractAudit

inductive Facet where
  | static
  | ai
  | standards
deriving DecidableEq, Repr

namespace Facet

def name : Facet → String
  | static => "static"
  | ai => "ai"
  | standards => "standards"

def all : List Facet :=
  [static, ai, standards]

def ofName? (name : String) : Option Facet :=
  all.find? fun facet => facet.name == name

/-- A facet as a request lists it. A plain name is no facet, whatever it says. -/
inductive Entry where
  | member (facet : Facet)
  | plain (name : String)
deriving DecidableEq, Repr

namespace Entry

def facet? : Entry → Option Facet
  | member facet => some facet
  | plain _ => none

def name : Entry → String
  | member facet => facet.name
  | plain name => name

def ofName (name : String) : Entry :=
  match Facet.ofName? name with
  | some facet => member facet
  | none => plain name

end Entry

end Facet

inductive Rejection where
  | codeRequired
  | unknownFacet (name : String)
  /-- A facet, in lower case, that a request as it arrives asks for. -/
  | unknownFacetName (name : String)
  | unwritableFacet
  | unknownLanguage (name : String)
  | unknownFilter (e : Filter.Unknown)
deriving DecidableEq, Repr

def Rejection.message : Rejection → String
  | codeRequired => "Contract code is required"
  | unknownFacet name => "Unknown analysis type '" ++ name ++ "'"
  | unknownFacetName name =>
    "Unknown analysis type: " ++ quoteString name ++ " is not a valid AnalysisType"
  | unwritableFacet => "Unknown analysis type: " ++ Text.numeralLimitMessage none
  | unknownLanguage name => "Unknown language '" ++ name ++ "'"
  | unknownFilter e => e.message

inductive RequestError where
  | rejected (reason : Rejection)
  | facetsNotListed
  | notText (field : String)
  /-- A value that a message has to show is too long for that. -/
  | unwritable
deriving DecidableEq, Repr

structure Request where
  code : Json
  fileName : Json := .null
  facets : List Facet.Entry := Facet.all.map .member
  severity : Json := .str Filter.keepAll
  language : Option Dialect := none

namespace Request

/-- The value, or `fallback` if it counts as missing. -/
def orElse (value : Option Json) (fallback : Json) : Json :=
  match value with
  | some v => if v.isEmpty then fallback else v
  | none => fallback

/-- The names that a list of facets holds, in lower case; nothing for a value without a text. -/
def facetNames : Json → Except RequestError (List (Option String))
  | .arr items =>
    .ok (items.map fun item => item.shown?.map fun s => String.ofList (Text.lower s.toList))
  | .str s => .ok (s.toList.map fun c => some (String.ofList (Text.lower [c])))
  | .obj members => .ok (members.map fun m => some (String.ofList (Text.lower m.1.toList)))
  | _ => .error .facetsNotListed

def settleFacets : (sofar : List Facet) → List (Option String) → Except RequestError (List Facet)
  | sofar, [] => .ok sofar
  | _, none :: _ => .error (.rejected .unwritableFacet)
  | sofar, some name :: rest =>
    match Facet.ofName? name with
    | none => .error (.rejected (.unknownFacetName name))
    | some facet => settleFacets (if sofar.contains facet then sofar else sofar ++ [facet]) rest

def readFacets : Option Json → Except RequestError (List Facet)
  | none => .ok Facet.all
  | some .null => .ok Facet.all
  | some listed => do settleFacets [] (← facetNames listed)

def readLanguage (value : Json) : Except RequestError (Option Dialect) :=
  if value.isEmpty then .ok none
  else
    match value.shown? with
    | none => .error .unwritable
    | some name =>
      match Dialect.ofName (String.ofList (Text.lower name.toList)) with
      | .ok d => .ok (some d)
      | .error _ => .error (.rejected (.unknownLanguage name))

def ofJson (data : Json) : Except RequestError Request := do
  let facets ← readFacets (data.get? "analysisTypes")
  let language ← readLanguage (Json.orNull (data.get? "language"))
  return {
    code := orElse (data.get? "contractCode") (.str "")
    fileName := orElse (data.get? "fileName") .null
    facets := facets.map .member
    severity := orElse (data.get? "severity") (.str Filter.keepAll)
    language := language }

def defaultFileName : String := "contract.sol"

def displayName (r : Request) : Json :=
  if r.fileName.isEmpty then .str defaultFileName else r.fileName

def codeText (r : Request) : Except RequestError String :=
  match r.code with
  | .str s => if Text.isBlankText s.toList then .error (.rejected .codeRequired) else .ok s
  | _ => .error (.rejected .codeRequired)

def checkFacets : List Facet.Entry → Except RequestError (List Facet)
  | [] => .ok []
  | entry :: rest =>
    match entry.facet? with
    | none => .error (.rejected (.unknownFacet entry.name))
    | some facet => do return facet :: (← checkFacets rest)

def checkSeverity (r : Request) : Except RequestError (Option Severity) :=
  match r.severity with
  | .str filter =>
    match Filter.threshold filter with
    | .ok least => .ok least
    | .error e => .error (.rejected (.unknownFilter e))
  | _ => .error (.notText "severity")

/-- The dialect that the sender insists on, else the one that the source looks like, else
Solidity. -/
def resolveDialect (r : Request) (code : String) : Except RequestError Dialect :=
  match r.language with
  | some d => .ok d
  | none =>
    if r.fileName.isEmpty then .ok ((Language.guess code.toList "").dialect.getD .solidity)
    else
      match r.fileName with
      | .str name => .ok ((Language.guess code.toList name).dialect.getD .solidity)
      | _ => .error (.notText "file name")

end Request

structure ValidRequest where
  code : String
  facets : List Facet
  threshold : Option Severity
deriving DecidableEq, Repr

/-- Turns a request down, or says what it asks for. The code is looked at first, then the facets,
then the severity. -/
def Request.validate (r : Request) : Except RequestError ValidRequest := do
  let code ← r.codeText
  let facets ← Request.checkFacets r.facets
  let threshold ← r.checkSeverity
  return ⟨code, facets, threshold⟩

structure Task where
  code : String
  fileName : Json
  dialect : Dialect
  facets : List Facet
  threshold : Option Severity

def Request.accept (r : Request) : Except RequestError Task := do
  let valid ← r.validate
  let dialect ← r.resolveDialect valid.code
  return ⟨valid.code, r.displayName, dialect, valid.facets, valid.threshold⟩

end ContractAudit
