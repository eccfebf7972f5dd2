/-
  SuiteExplorer/Text/Lines.lean
  =============================
  Two ways of cutting a text into lines. Source files are cut at line feeds
  alone, so that a carriage return stays on its line; program output is cut at
  every line boundary a terminal may show.
-/

namespace SuiteExplorer.Text

/-- One line of a source file, without its line feed. -/
abbrev Line := List Char

/-! ## 1. Cutting at a separator -/

/-- Cut at every occurrence of a separator. The result is never empty: without
    a separator it is the whole text, and a final separator opens a last, empty
    piece. -/
def cutAt (separator : Char) : List Char → List (List Char)
  | [] => [[]]
  | c :: rest =>
    if c = separator then [] :: cutAt separator rest
    else match cutAt separator rest with
      | [] => [[c]]
      | piece :: more => (c :: piece) :: more

theorem cutAt_ne_nil (separator : Char) (s : List Char) : cutAt separator s ≠ [] := by
  cases s with
  | nil => simp [cutAt]
  | cons c rest =>
    rw [cutAt]
    split
    · simp
    · split <;> simp

/-- The lines of a source file, one more than there are line feeds. -/
def splitLines (s : List Char) : List Line := cutAt '\n' s

theorem splitLines_ne_nil (s : List Char) : splitLines s ≠ [] := cutAt_ne_nil _ s

/-- The lines from one on. A negative number counts from the end, and all lines
    follow the ones it leads to; there is nothing if it leads to none. -/
def linesFrom? (lines : List Line) : Int → Option (List Line)
  | .ofNat n => some (lines.drop n)
  | .negSucc n =>
    if n < lines.length then some (lines.drop (lines.length - (n + 1)) ++ lines) else none

/-- A text stands somewhere in another one. -/
def holds (word : List Char) : List Char → Bool
  | [] => word.isEmpty
  | c :: rest => word.isPrefixOf (c :: rest) || holds word rest

/-! ## 2. Lines of program output -/

/-- A character that ends a line of program output: the line and paragraph
    separators of ASCII and Unicode. -/
def isLineBoundary (c : Char) : Bool :=
  let n := c.toNat
  (10 ≤ n && n ≤ 13) || (28 ≤ n && n ≤ 30) || n == 0x85 || n == 0x2028 || n == 0x2029

/-- Cut at every line boundary, a carriage return and line feed counting as
    one. A boundary at the very end opens no further line. `line` is the
    current line, last character first. -/
def outputLinesFrom (line : List Char) : List Char → List (List Char)
  | [] => if line.isEmpty then [] else [line.reverse]
  | '\r' :: '\n' :: rest => line.reverse :: outputLinesFrom [] rest
  | c :: rest =>
    if isLineBoundary c then line.reverse :: outputLinesFrom [] rest
    else outputLinesFrom (c :: line) rest

def outputLines (s : String) : List String :=
  (outputLinesFrom [] s.toList).map String.ofList

/-- Bring every line end of a log to carriage return and line feed. -/
def withCrLf (s : String) : String :=
  String.ofList (go s.toList)
where
  go : List Char → List Char
    | [] => []
    | '\r' :: '\n' :: rest => '\r' :: '\n' :: go rest
    | '\n' :: rest => '\r' :: '\n' :: go rest
    | c :: rest => c :: go rest

/-- Bring every carriage return with line feed to a line feed alone. -/
def withLf (s : String) : String :=
  String.ofList (go s.toList)
where
  go : List Char → List Char
    | [] => []
    | '\r' :: '\n' :: rest => '\n' :: go rest
    | c :: rest => c :: go rest

/-- Bring every line end, also a carriage return alone, to a line feed. -/
def plainLf (s : String) : String :=
  String.ofList (go s.toList)
where
  go : List Char → List Char
    | [] => []
    | '\r' :: '\n' :: rest => '\n' :: go rest
    | '\r' :: rest => '\n' :: go rest
    | c :: rest => c :: go rest

end SuiteExplorer.Text
