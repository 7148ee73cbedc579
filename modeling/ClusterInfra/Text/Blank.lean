/-!
White space: the characters that have the Unicode property of that name.
-/

namespace ClusterInfra.Text

/-- The code points of white space outside the basic controls, in order. -/
def blankCodes : List Nat :=
  [0x20, 0x85, 0xA0, 0x1680, 0x2000, 0x2001, 0x2002, 0x2003, 0x2004, 0x2005, 0x2006, 0x2007,
   0x2008, 0x2009, 0x200A, 0x2028, 0x2029, 0x202F, 0x205F, 0x3000]

/-- Whether a character is white space: a tab or line control, or one of `blankCodes`. -/
def isBlank (c : Char) : Bool :=
  (9 ≤ c.toNat && c.toNat ≤ 13) || blankCodes.contains c.toNat

/-- The characters after leading white space. -/
def skipBlanks (cs : List Char) : List Char :=
  cs.dropWhile isBlank

end ClusterInfra.Text
