import ContractAudit.Text.Basic

/-!
# Bytes that are almost text

Bytes that write no character are replaced by the bytes of one that stands for such a fault, one for
each longest run that could have started a character.
-/
namespace ContractAudit.Text

def faultBytes : List UInt8 := [0xef, 0xbf, 0xbd]

/-- A character whose bytes are not all read: those that are, how many are missing, and where the
next one has to lie. -/
structure Started where
  read : List UInt8
  missing : Nat
  least : UInt8
  greatest : UInt8
deriving DecidableEq, Repr

def started? (b : UInt8) : Option Started :=
  if 0xc2 ≤ b && b ≤ 0xdf then some ⟨[b], 1, 0x80, 0xbf⟩
  else if b == 0xe0 then some ⟨[b], 2, 0xa0, 0xbf⟩
  else if b == 0xed then some ⟨[b], 2, 0x80, 0x9f⟩
  else if 0xe1 ≤ b && b ≤ 0xef then some ⟨[b], 2, 0x80, 0xbf⟩
  else if b == 0xf0 then some ⟨[b], 3, 0x90, 0xbf⟩
  else if 0xf1 ≤ b && b ≤ 0xf3 then some ⟨[b], 3, 0x80, 0xbf⟩
  else if b == 0xf4 then some ⟨[b], 3, 0x80, 0x8f⟩
  else none

def firstByte (b : UInt8) : List UInt8 × Option Started :=
  match started? b with
  | some s => ([], some s)
  | none => (if b < 0x80 then [b] else faultBytes, none)

def nextByte (s : Option Started) (b : UInt8) : List UInt8 × Option Started :=
  match s with
  | none => firstByte b
  | some s =>
    if s.least ≤ b && b ≤ s.greatest then
      if s.missing ≤ 1 then (s.read ++ [b], none)
      else ([], some ⟨s.read ++ [b], s.missing - 1, 0x80, 0xbf⟩)
    else
      let (written, next) := firstByte b
      (faultBytes ++ written, next)

def repairFrom (s : Option Started) : List UInt8 → List UInt8
  | [] => if s.isSome then faultBytes else []
  | b :: rest => (nextByte s b).1 ++ repairFrom (nextByte s b).2 rest

def repair : List UInt8 → List UInt8 :=
  repairFrom none

def decodeRepaired (bytes : List UInt8) : String :=
  (String.fromUTF8? ⟨(repair bytes).toArray⟩).getD ""

end ContractAudit.Text
