import ContractAudit.Text.Basic

/-!
# Internet addresses

Addresses of four numbers with dots between them, and addresses of eight groups of hexadecimal
digits with colons, where two colons may stand for a run of zeros.
-/
namespace ContractAudit.Url

def splitAt (mark : Char) : Text → List Text
  | [] => [[]]
  | c :: rest =>
    if c = mark then [] :: splitAt mark rest
    else
      match splitAt mark rest with
      | [] => [[c]]
      | piece :: more => (c :: piece) :: more

/-! ## Four numbers -/

def isOctet (t : Text) : Bool :=
  !t.isEmpty && t.length ≤ 3 && t.all Char.isDigit && (t.length == 1 || t.head? != some '0') &&
    t.foldl (fun n c => 10 * n + (c.toNat - '0'.toNat)) 0 ≤ 255

def isFourOctets (t : Text) : Bool :=
  let octets := splitAt '.' t
  octets.length == 4 && octets.all isOctet

def digitsThen (test : Text → Bool) : Text → Bool
  | [] => false
  | c :: rest => c.isDigit && (test rest || digitsThen test rest)

def anyThen (test : Text → Bool) : Text → Bool
  | [] => false
  | _ :: rest => test rest

/-- A host that looks like four numbers, whatever stands between them, has to be such an address. -/
def looksLikeOctets (t : Text) : Bool :=
  digitsThen (anyThen (digitsThen (anyThen (digitsThen (anyThen (digitsThen List.isEmpty)))))) t

/-! ## Eight groups -/

def isHexDigit (c : Char) : Bool :=
  c.isDigit || ('a' ≤ c && c ≤ 'f') || ('A' ≤ c && c ≤ 'F')

def isGroup (t : Text) : Bool :=
  !t.isEmpty && t.length ≤ 4 && t.all isHexDigit

/-- The groups of an address, where four numbers at the end count as two groups. -/
def groups? (parts : List Text) : Option (List Text) :=
  match parts.getLast? with
  | some last =>
    if !last.contains '.' then some parts
    else if isFourOctets last then some (parts.dropLast ++ [['0'], ['0']])
    else none
  | none => none

/-- Groups before and after a run of zeros; a run at an end has an empty group beside it. -/
def isShortened (before after : List Text) : Bool :=
  let before := if before == [[]] then [] else before
  let after := if after == [[]] then [] else after
  before.length + after.length < 8 && before.all isGroup && after.all isGroup

def isEightGroups (t : Text) : Bool :=
  let parts := splitAt ':' t
  if parts.length < 3 then false
  else
    match groups? parts with
    | none => false
    | some groups =>
      let inner := (groups.drop 1).dropLast
      match inner.findIdx? List.isEmpty with
      | none => groups.length == 8 && groups.all isGroup
      | some i =>
        groups.length ≤ 9 && (inner.filter List.isEmpty).length == 1 &&
          isShortened (groups.take (i + 1)) (groups.drop (i + 2))

def isGroupAddress (t : Text) : Bool :=
  let address := t.takeWhile (· != '%')
  match t.drop address.length with
  | [] => isEightGroups address
  | _ :: zone => !zone.isEmpty && !zone.contains '%' && isEightGroups address

end ContractAudit.Url
