/-!
# Ranges of characters

A property of characters beyond ASCII is a table of ranges of code points, in increasing order.
Membership is a search by halves.
-/
namespace ContractAudit

/-- Disjoint ranges of code points, both ends included, in increasing order. -/
abbrev CharRanges := Array (Nat × Nat)

namespace CharRanges

def search (rs : CharRanges) (n : Nat) : Nat → Nat → Nat → Bool
  | 0, _, _ => false
  | fuel + 1, lo, hi =>
    if lo < hi then
      let mid := (lo + hi) / 2
      match rs[mid]? with
      | none => false
      | some (first, last) =>
        if n < first then search rs n fuel lo mid
        else if last < n then search rs n fuel (mid + 1) hi
        else true
    else false

def contains (rs : CharRanges) (c : Char) : Bool :=
  rs.search c.toNat rs.size 0 rs.size

end CharRanges

end ContractAudit
