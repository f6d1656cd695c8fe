/-
# PartitionedRollout.Text.Blank -- blank characters and trimming

A character is blank exactly when it carries the Unicode property `White_Space`: six ASCII
characters, two Latin-1 characters, and the space, line and paragraph separators further up.
`trim` removes blanks at both ends and nowhere else.
-/

namespace PartitionedRollout.Text

/-- The Unicode property `White_Space`. -/
def isBlank (c : Char) : Bool :=
  let n := c.toNat
  (9 ≤ n && n ≤ 13) || n == 0x20 || n == 0x85 || n == 0xA0 || n == 0x1680 ||
    (0x2000 ≤ n && n ≤ 0x200A) || n == 0x2028 || n == 0x2029 || n == 0x202F || n == 0x205F ||
    n == 0x3000

/-- The text without the blanks in front of it. -/
def trimStart (s : List Char) : List Char :=
  s.dropWhile isBlank

/-- The text without the blanks at its end. -/
def trimEnd (s : List Char) : List Char :=
  (s.reverse.dropWhile isBlank).reverse

/-- The text without the blanks at either end. -/
def trim (s : List Char) : List Char :=
  trimEnd (trimStart s)

/-- A text is blank when every character of it is; the empty text is blank. -/
def isBlankText (s : String) : Bool :=
  s.toList.all isBlank

end PartitionedRollout.Text
