import ContractAudit.Text.Basic

/-!
# Base 64

Bytes as digits to the base 64, four digits for three bytes, filled up with equals signs. Reading
passes over characters that are no digits, and what follows the filling.
-/
namespace ContractAudit.Text

def base64Digits : Text :=
  "ABCDEFGHIJKLMNOPQRSTUVWXYZabcdefghijklmnopqrstuvwxyz0123456789+/".toList

def base64Digit (n : Nat) : Char :=
  base64Digits.getD (n % 64) 'A'

def base64Value? (c : Char) : Option Nat :=
  base64Digits.idxOf? c

def encodeBase64 : List UInt8 → Text
  | [] => []
  | [a] =>
    let n := a.toNat * 16
    [base64Digit (n / 64), base64Digit n, '=', '=']
  | [a, b] =>
    let n := (a.toNat * 256 + b.toNat) * 4
    [base64Digit (n / 4096), base64Digit (n / 64), base64Digit n, '=']
  | a :: b :: c :: rest =>
    let n := (a.toNat * 256 + b.toNat) * 256 + c.toNat
    base64Digit (n / 262144) :: base64Digit (n / 4096) :: base64Digit (n / 64) :: base64Digit n ::
      encodeBase64 rest

/-- Reads digits after `place` digits of a group, whose last one is `held`, and after `fill` signs
that fill the group up. -/
def decodeBase64From (place held fill : Nat) : Text → Option (List UInt8)
  | [] => if place = 0 then some [] else none
  | c :: rest =>
    if c = '=' then
      if 2 ≤ place && 4 ≤ place + fill + 1 then some []
      else decodeBase64From place held (if 2 ≤ place then fill + 1 else fill) rest
    else
      match base64Value? c with
      | none => decodeBase64From place held fill rest
      | some n =>
        match place with
        | 0 => decodeBase64From 1 n 0 rest
        | 1 => (decodeBase64From 2 n 0 rest).map (UInt8.ofNat (held * 4 + n / 16) :: ·)
        | 2 => (decodeBase64From 3 n 0 rest).map (UInt8.ofNat (held % 16 * 16 + n / 4) :: ·)
        | _ => (decodeBase64From 0 0 0 rest).map (UInt8.ofNat (held % 4 * 64 + n) :: ·)

def decodeBase64? (t : Text) : Option (List UInt8) :=
  decodeBase64From 0 0 0 t

end ContractAudit.Text
