import ContractAudit.Text.Base64
import ContractAudit.Text.Numeral
import ContractAudit.Text.Quoted
import ContractAudit.Text.Utf8
import ContractAudit.Url.Address
import ContractAudit.Url.HostName

/-!
# Addresses of resources

An address has a scheme, a host with a user and a number, a path, a query and a fragment, most of
which may be missing. Reading brings it into a normal form: small letters in scheme and host, no
number of the host that goes without saying, no steps in the path that lead nowhere, and percent
signs for characters that may not stand for themselves.
-/
namespace ContractAudit

structure Url where
  scheme : Text := []
  user : Text := []
  host : Text := []
  portNumber : Option Int := none
  path : Text := []
  query : Option Text := none
  fragment : Option Text := none
deriving DecidableEq, Repr

namespace Url

def maxLength : Nat := 65536

/-! ## Percent signs -/

def percentByte (b : UInt8) : Text :=
  '%' :: (Text.hex 2 b.toNat).map Char.toUpper

def percentEncode (isSafe : Char → Bool) (t : Text) : Text :=
  t.flatMap fun c =>
    if isSafe c then [c] else (String.singleton c).toUTF8.toList.flatMap percentByte

def isVisibleExcept (others : List Char) (c : Char) : Bool :=
  0x21 ≤ c.toNat && c.toNat ≤ 0x7e && !others.contains c

def isFragmentSafe : Char → Bool :=
  isVisibleExcept ['\x22', '<', '>', '\x60']

def isQuerySafe : Char → Bool :=
  isVisibleExcept ['\x22', '#', '<', '>']

def isPathSafe : Char → Bool :=
  isVisibleExcept ['\x22', '#', '<', '>', '?', '\x60', '\x7b', '\x7d']

def isUserSafe (c : Char) : Bool :=
  isPathSafe c && !"/;=@[\\]^|".toList.contains c

def isHostSafe (c : Char) : Bool :=
  c.isAlphanum || "-._~!$&\x27()*+,;=\x22\x60\x7b\x7d%|\\".toList.contains c

def hexValue (c : Char) : Nat :=
  if c.isDigit then c.toNat - '0'.toNat else c.toLower.toNat - 'a'.toNat + 10

def percentDecode : Text → List UInt8
  | '%' :: a :: b :: rest =>
    if isHexDigit a && isHexDigit b then
      UInt8.ofNat (16 * hexValue a + hexValue b) :: percentDecode rest
    else '%'.toNat.toUInt8 :: percentDecode (a :: b :: rest)
  | c :: rest => (String.singleton c).toUTF8.toList ++ percentDecode rest
  | [] => []

/-! ## Parts -/

def isSchemePart (c : Char) : Bool :=
  c.isAlphanum || c == '+' || c == '.' || c == '-'

def takeScheme (t : Text) : Text × Text :=
  let name := t.takeWhile isSchemePart
  match name, t.drop name.length with
  | [], ':' :: rest => ([], rest)
  | c :: _, ':' :: rest => if c.isAlpha then (name, rest) else ([], t)
  | _, _ => ([], t)

def takeAuthority : Text → Text × Text
  | '/' :: '/' :: rest => rest.span fun c => c != '/' && c != '?' && c != '#'
  | t => ([], t)

/-- What follows a mark, if the text starts with it, up to another mark. -/
def takePart (mark : Char) (stops : Char → Bool) (t : Text) : Option Text × Text :=
  match t with
  | c :: rest =>
    if c = mark then
      let (part, rest) := rest.span fun c => !stops c
      (some part, rest)
    else (none, t)
  | [] => (none, [])

def takeUser (authority : Text) : Text × Text :=
  let rest := (authority.reverse.takeWhile (· != '@')).reverse
  if rest.length = authority.length then ([], authority)
  else (authority.take (authority.length - rest.length - 1), rest)

def takeHost (t : Text) : Text × Text :=
  let bracketed := match t with
    | '[' :: _ => (t.reverse.dropWhile (· != ']')).reverse
    | _ => []
  let host := if bracketed.isEmpty then t.takeWhile (· != ':') else bracketed
  match t.drop host.length with
  | ':' :: portNumber => (host, portNumber)
  | portNumber => (host, portNumber)

def normalHost? (host : Text) : Option Text :=
  if host.isEmpty then some []
  else if looksLikeOctets host then (if isFourOctets host then some host else none)
  else if host.head? == some '[' && host.getLast? == some ']' then
    let address := (host.drop 1).dropLast
    if isGroupAddress address then some address else none
  else if host.all fun c => c.toNat < 128 then
    some (percentEncode isHostSafe (host.map Char.toLower))
  else encodeHostName? host

def usualPortNumber? (scheme : Text) : Option Int :=
  match String.ofList scheme with
  | "ftp" => some 21
  | "http" => some 80
  | "https" => some 443
  | "ws" => some 80
  | "wss" => some 443
  | _ => none

def normalPortNumber? (scheme portNumber : Text) : Option (Option Int) :=
  if portNumber.isEmpty then some none
  else
    (Text.readInteger? portNumber).map fun n =>
      if usualPortNumber? scheme = some n then none else some n

def followSteps (sofar : List Text) : List Text → List Text
  | [] => sofar
  | ['.'] :: rest => followSteps sofar rest
  | ['.', '.'] :: rest =>
    followSteps (if sofar.isEmpty || sofar == [[]] then sofar else sofar.dropLast) rest
  | step :: rest => followSteps (sofar ++ [step]) rest

def normalPath (path : Text) : Text :=
  Text.join ['/'] (followSteps [] (splitAt '/' path))

def parse? (t : Text) : Option Url := do
  if maxLength < t.length then none
  if t.any fun c => c.toNat < 32 || c.toNat = 127 then none
  let (scheme, rest) := takeScheme t
  let (authority, rest) := takeAuthority rest
  let (path, rest) := rest.span fun c => c != '?' && c != '#'
  let (query, rest) := takePart '?' (· == '#') rest
  let (fragment, _) := takePart '#' (fun _ => false) rest
  let (user, place) := takeUser authority
  let (host, portNumber) := takeHost place
  let host ← normalHost? host
  let portNumber ← normalPortNumber? scheme portNumber
  let placed := !user.isEmpty || !host.isEmpty || portNumber.isSome
  if placed && !path.isEmpty && path.head? != some '/' then none
  let free := scheme.isEmpty && !placed
  if free && (path.take 2 == ['/', '/'] || path.head? == some ':') then none
  return {
    scheme := scheme.map Char.toLower
    user := percentEncode isUserSafe user
    host
    portNumber
    path := percentEncode isPathSafe (if free then path else normalPath path)
    query := query.map (percentEncode isQuerySafe)
    fragment := fragment.map (percentEncode isFragmentSafe) }

def isAbsolute (u : Url) : Bool :=
  !u.scheme.isEmpty && !u.host.isEmpty

/-- The address that is asked: an absolute one itself, and of another one its path from the root and
its query. -/
def target (u : Url) : Url :=
  if u.isAbsolute then u
  else { path := '/' :: u.path.dropWhile (· == '/'), query := u.query }

def authority (u : Url) : Text :=
  (if u.user.isEmpty then [] else u.user ++ ['@']) ++
    (if u.host.contains ':' then '[' :: u.host ++ [']'] else u.host) ++
    (match u.portNumber with
    | some n => ':' :: (toString n).toList
    | none => [])

def text (u : Url) : String :=
  let marked (mark : Char) (part : Option Text) : Text :=
    match part with
    | some t => mark :: t
    | none => []
  String.ofList ((if u.scheme.isEmpty then [] else u.scheme ++ [':']) ++
    (if u.authority.isEmpty then [] else '/' :: '/' :: u.authority) ++ u.path ++
    marked '?' u.query ++ marked '#' u.fragment)

def credentials? (u : Url) : Option String :=
  let name := u.user.takeWhile (· != ':')
  let password := u.user.drop (name.length + 1)
  if name.isEmpty && password.isEmpty then none
  else
    let part (t : Text) := Text.repair (percentDecode t)
    let bytes := part name ++ ':'.toNat.toUInt8 :: part password
    some ("Basic " ++ String.ofList (Text.encodeBase64 bytes))

end Url

end ContractAudit
