/-
  SuiteExplorer/Text/Blank.lean
  =============================
  The blank characters: what may stand before an import entry, and what an
  empty setting may be made of. The set is the Unicode white space together
  with the four information separators U+001C to U+001F.
-/

namespace SuiteExplorer.Text

/-- A blank character: Unicode white space or an information separator. -/
def isBlank (c : Char) : Bool :=
  let n := c.toNat
  (9 ≤ n && n ≤ 13) || (28 ≤ n && n ≤ 32) || n == 0x85 || n == 0xA0 || n == 0x1680 ||
    (0x2000 ≤ n && n ≤ 0x200A) || n == 0x2028 || n == 0x2029 || n == 0x202F || n == 0x205F ||
    n == 0x3000

/-- A text that holds nothing but blanks (the empty text included). -/
def allBlank (s : String) : Bool := s.toList.all isBlank

/-- A text without the blanks at its end. -/
def trimEnd (s : List Char) : List Char := (s.reverse.dropWhile isBlank).reverse

/-- A text without the blanks at its ends. -/
def trim (s : List Char) : List Char := trimEnd (s.dropWhile isBlank)

end SuiteExplorer.Text
