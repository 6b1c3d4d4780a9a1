import ContractAudit.Text.Casing
import ContractAudit.Text.Composed
import ContractAudit.Url.HostTable
import ContractAudit.Url.Punycode

/-!
# Host names beyond ASCII

A host name is made of labels. A label may hold letters and digits of all scripts, some characters
only between certain others, and letters of both directions only in certain orders. It is sent as
ASCII, with an opening that marks it as encoded.
-/
namespace ContractAudit.Url

/-! ## Characters in context -/

/-- A letter that passes a test, across characters that letters join through. -/
def joinsAcross (accepts : CharRanges) : Text → Bool
  | [] => false
  | c :: rest =>
    if transparentRanges.contains c then joinsAcross accepts rest else accepts.contains c

def silencerClass : Nat := 9

def followsSilencer (before : Text) : Bool :=
  (before.head?.map fun c => Text.markClass c == silencerClass).getD false

/-- A character that may stand only between certain others; `before` is reversed. -/
def isAllowedBetween (label before : Text) (c : Char) (after : Text) : Bool :=
  let n := c.toNat
  let holds (first last : Nat) := label.any fun d => first ≤ d.toNat && d.toNat ≤ last
  if n = 0x200c then
    followsSilencer before ||
      (joinsAcross joinsNextRanges before && joinsAcross joinsPreviousRanges after)
  else if n = 0x200d then followsSilencer before
  else if n = 0xb7 then before.head? == some 'l' && after.head? == some 'l'
  else if n = 0x375 then (after.head?.map greekRanges.contains).getD false
  else if n = 0x5f3 || n = 0x5f4 then (before.head?.map hebrewRanges.contains).getD false
  else if n = 0x30fb then label.any fun d => d != c && japaneseRanges.contains d
  else if 0x660 ≤ n && n ≤ 0x669 then !holds 0x6f0 0x6f9
  else if 0x6f0 ≤ n && n ≤ 0x6f9 then !holds 0x660 0x669
  else false

def allAllowed (label before : Text) : Text → Bool
  | [] => true
  | c :: rest =>
    (hostRanges.contains c || isAllowedBetween label before c rest) &&
      allAllowed label (c :: before) rest

/-! ## Directions -/

inductive Direction where
  | leftToRight
  | rightToLeft
  | europeanNumber
  | arabicNumber
  | nonspacing
  | neutral
deriving DecidableEq, Repr

def Direction.of (c : Char) : Direction :=
  if rightToLeftRanges.contains c then .rightToLeft
  else if arabicNumberRanges.contains c then .arabicNumber
  else if europeanNumberRanges.contains c then .europeanNumber
  else if nonspacingRanges.contains c then .nonspacing
  else if neutralRanges.contains c then .neutral
  else .leftToRight

def lastDirection? (ds : List Direction) : Option Direction :=
  (ds.filter (· != .nonspacing)).getLast?

/-- A label with characters from right to left starts with a letter; it keeps to the direction of
that letter, ends with a letter or digit, and has digits of one kind. -/
def directionsAgree (label : Text) : Bool :=
  let ds := label.map Direction.of
  if !ds.any fun d => d == .rightToLeft || d == .arabicNumber then true
  else
    match ds.head?, lastDirection? ds with
    | some .rightToLeft, some last =>
      !ds.contains .leftToRight && last != .neutral &&
        !(ds.contains .europeanNumber && ds.contains .arabicNumber)
    | some .leftToRight, some last =>
      !ds.contains .rightToLeft && !ds.contains .arabicNumber &&
        (last == .leftToRight || last == .europeanNumber)
    | _, _ => false

/-! ## Labels -/

def isValidLabel (label : Text) : Bool :=
  !label.isEmpty && label.length ≤ 254 &&
    Text.isComposed label &&
    (label.drop 2).take 2 != ['-', '-'] && label.head? != some '-' && label.getLast? != some '-' &&
    !(label.head?.map markRanges.contains).getD false &&
    allAllowed label [] label && directionsAgree label

def encodedMark : Text := "xn--".toList

def isAsciiLabel (label : Text) : Bool :=
  match Text.dropOpening? encodedMark label with
  | none => isValidLabel label
  | some encoded =>
    !encoded.isEmpty && encoded.getLast? != some '-' &&
      match Punycode.decode? encoded with
      | some t => isValidLabel t
      | none => false

def encodeLabel? (label : Text) : Option Text :=
  let sent :=
    if label.all fun c => c.toNat < 128 then (if isAsciiLabel label then some label else none)
    else if isValidLabel label then some (encodedMark ++ Punycode.encode label)
    else none
  sent.filter fun t => t.length ≤ 63

def isLabelDot (c : Char) : Bool :=
  [0x2e, 0x3002, 0xff0e, 0xff61].contains c.toNat

def splitLabels : Text → List Text
  | [] => [[]]
  | c :: rest =>
    if isLabelDot c then [] :: splitLabels rest
    else
      match splitLabels rest with
      | [] => [[c]]
      | label :: more => (c :: label) :: more

def encodeHostName? (name : Text) : Option Text := do
  let labels := splitLabels (Text.lower name)
  let dotted := labels.getLast? == some []
  let named := if dotted then labels.dropLast else labels
  if named.isEmpty || 254 < name.length then none
  let sent ← named.mapM encodeLabel?
  let whole := Text.join ['.'] (if dotted then sent ++ [[]] else sent)
  if whole.length ≤ (if dotted then 254 else 253) then some whole else none

end ContractAudit.Url
