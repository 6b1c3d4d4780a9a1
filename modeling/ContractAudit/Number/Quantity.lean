import ContractAudit.Number.Shortest
import ContractAudit.Text.Digit

/-!
# Quantities

A number as a user gave it: whole, or in double precision. The two are written differently.
-/
namespace ContractAudit.Number

inductive Quantity where
  | whole (n : Int)
  | real (x : Double)
deriving DecidableEq, Repr

namespace Quantity

def text : Quantity → String
  | whole n => toString n
  | real x => x.text

def isWritable : Quantity → Bool
  | whole n => Text.isWritable n
  | real _ => true

def atMost (q : Quantity) (n : Int) : Bool :=
  match q with
  | whole m => m ≤ n
  | real x => x.atMost n

def atLeast (q : Quantity) (n : Int) : Bool :=
  match q with
  | whole m => n ≤ m
  | real x => x.atLeast n

def exceeds (q : Quantity) (n : Int) : Bool :=
  q.atLeast n && !q.atMost n

end Quantity

end ContractAudit.Number
