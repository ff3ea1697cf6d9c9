/-
  White space, in the sense of the Unicode property of that name.
-/

namespace ProfileSync

/-- Whether a character is white space. -/
def isBlank (c : Char) : Bool :=
  let n := c.toNat
  (9 ≤ n && n ≤ 13) || n == 0x20 || n == 0x85 || n == 0xa0 || n == 0x1680 ||
    (0x2000 ≤ n && n ≤ 0x200a) || n == 0x2028 || n == 0x2029 || n == 0x202f ||
    n == 0x205f || n == 0x3000

/-- Whether a text is white space only. -/
def isBlankText (cs : List Char) : Bool := cs.all isBlank

end ProfileSync
