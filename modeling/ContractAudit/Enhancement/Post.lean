import ContractAudit.Enhancement.Chat
import ContractAudit.Url.Basic

/-!
# A client of its own

An HTTP client up to the network: it reads the address, writes the headers and passes the post on to
a transport.
-/
namespace ContractAudit

structure Post where
  url : Url
  headers : List (String × String)
  payload : Json

namespace Post

def isNamed (name : String) (header : String × String) : Bool :=
  Text.lower header.1.toList == Text.lower name.toList

def isPlain (s : String) : Bool :=
  s.toList.all fun c => c.toNat < 128

def withUser (url : Url) (headers : List (String × String)) : List (String × String) :=
  match url.credentials? with
  | some value =>
    (headers.filter fun h => !isNamed Http.userHeader h) ++ [(Http.userHeader, value)]
  | none => headers

/-- A post, or what comes of an attempt to write one. Headers are in ASCII, and what is posted has
no numbers without digits and none that are too long to be written. -/
def create (address : String) (headers : List (String × String)) (payload : Json) :
    Except Outcome Post :=
  if !headers.all fun h => isPlain h.1 && isPlain h.2 then .error .failed
  else
    match Url.parse? address.toList with
    | none => .error (.interrupted ⟨"InvalidURL", "", by decide⟩)
    | some url =>
      let url := url.target
      if isPlain url.text && payload.isFinite && payload.isShowable then
        .ok ⟨url, withUser url headers, payload⟩
      else .error .failed

/-- No reply can be used that comes from an address without a host. -/
def received (p : Post) : Outcome → Outcome
  | .reply status body => if p.url.isAbsolute then .reply status body else .failed
  | outcome => outcome

def header? (p : Post) (name : String) : Option String :=
  let named := p.headers.filter (isNamed name)
  if named.isEmpty then none else some (", ".intercalate (named.map (·.2)))

def client (transport : Post → Outcome) : HttpClient := fun address headers payload _ =>
  match create address headers payload with
  | .error outcome => outcome
  | .ok p => p.received (transport p)

end Post

end ContractAudit
