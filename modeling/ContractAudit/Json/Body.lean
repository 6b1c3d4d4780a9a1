import ContractAudit.Json.Reader

/-!
# Documents as bytes

A document may come in units of one, two or four bytes. A byte order mark tells which, and without
one the zeros among the first bytes do, since a document starts with ASCII characters.
-/
namespace ContractAudit.Json

def pairUnits (highFirst : Bool) : List UInt8 → Option (List Nat)
  | [] => some []
  | a :: b :: rest => do
    let (high, low) := if highFirst then (a, b) else (b, a)
    return (256 * high.toNat + low.toNat) :: (← pairUnits highFirst rest)
  | _ => none

def joinUnits (highFirst : Bool) : List Nat → Option (List Nat)
  | [] => some []
  | a :: b :: rest => do
    let (high, low) := if highFirst then (a, b) else (b, a)
    return (65536 * high + low) :: (← joinUnits highFirst rest)
  | _ => none

/-- A character by its number. One half of a character stands for a fault. -/
def character? (n : Nat) : Option Char :=
  if isHighHalf n || isLowHalf n then some (Char.ofNat 0xfffd)
  else if n.isValidChar then some (Char.ofNat n)
  else none

def ofPairUnits : List Nat → Option Text
  | [] => some []
  | high :: low :: rest => do
    if isHighHalf high && isLowHalf low then
      let c ← character? (0x10000 + (high - 0xd800) * 0x400 + (low - 0xdc00))
      return c :: (← ofPairUnits rest)
    else
      let c ← character? high
      return c :: (← ofPairUnits (low :: rest))
  | [unit] => do
    return [← character? unit]

def ofPairs (highFirst : Bool) (bytes : List UInt8) : Option Text := do
  ofPairUnits (← pairUnits highFirst bytes)

def ofQuads (highFirst : Bool) (bytes : List UInt8) : Option Text := do
  (← joinUnits highFirst (← pairUnits highFirst bytes)).mapM character?

/-- The character of several bytes: what the first one adds, the least number that needs as many
bytes, and the other bytes with six bits each. -/
def joined? (lead least : Nat) (more : List UInt8) : Option Char :=
  if more.all fun b => 0x80 ≤ b && b < 0xc0 then
    let n := more.foldl (fun n b => 64 * n + (b.toNat - 0x80)) lead
    if least ≤ n then character? n else none
  else none

def ofBytes : List UInt8 → Option Text
  | [] => some []
  | a :: rest =>
    if a < 0x80 then return Char.ofNat a.toNat :: (← ofBytes rest)
    else if a < 0xc0 then none
    else if a < 0xe0 then
      match rest with
      | b :: rest => return (← joined? (a.toNat - 0xc0) 0x80 [b]) :: (← ofBytes rest)
      | _ => none
    else if a < 0xf0 then
      match rest with
      | b :: c :: rest => return (← joined? (a.toNat - 0xe0) 0x800 [b, c]) :: (← ofBytes rest)
      | _ => none
    else
      match rest with
      | b :: c :: d :: rest =>
        return (← joined? (a.toNat - 0xf0) 0x10000 [b, c, d]) :: (← ofBytes rest)
      | _ => none

def dropMark : Text → Text
  | c :: rest => if c.toNat = 0xfeff then rest else c :: rest
  | [] => []

def bodyText? (body : List UInt8) : Option Text :=
  match body with
  | 0 :: 0 :: 0xfe :: 0xff :: rest => ofQuads true rest
  | 0xff :: 0xfe :: 0 :: 0 :: rest => ofQuads false rest
  | 0xfe :: 0xff :: rest => ofPairs true rest
  | 0xff :: 0xfe :: rest => ofPairs false rest
  | 0 :: 0 :: _ :: _ :: _ => ofQuads true body
  | 0 :: _ :: _ :: _ :: _ => ofPairs true body
  | _ :: 0 :: 0 :: 0 :: _ => ofQuads false body
  | _ :: 0 :: _ :: _ :: _ => ofPairs false body
  | [0, _] => ofPairs true body
  | [_, 0] => ofPairs false body
  | _ => (ofBytes body).map dropMark

end ContractAudit.Json
