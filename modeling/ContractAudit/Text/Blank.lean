/-!
# White space

White space is the same set everywhere: the ASCII blanks, the four information separators, and the
blanks and line separators beyond ASCII.
-/
namespace ContractAudit.Text

def wideBlanks : List Nat :=
  [0x85, 0xa0, 0x1680, 0x2000, 0x2001, 0x2002, 0x2003, 0x2004, 0x2005, 0x2006, 0x2007, 0x2008,
    0x2009, 0x200a, 0x2028, 0x2029, 0x202f, 0x205f, 0x3000]

def isAsciiBlank (c : Char) : Bool :=
  c.toNat == 32 || (9 ≤ c.toNat && c.toNat ≤ 13) || (28 ≤ c.toNat && c.toNat ≤ 31)

def isBlank (c : Char) : Bool :=
  if c.toNat < 128 then isAsciiBlank c else wideBlanks.contains c.toNat

end ContractAudit.Text
