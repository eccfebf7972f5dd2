/-
  SuiteExplorer/Display/Wrap.lean
  ===============================
  Cutting a text into lines that fit a screen. Lines are broken before words; a
  word that is wider than the screen is broken anywhere. Tabs lead to every
  eighth cell.
-/
import SuiteExplorer.Display.Width
import SuiteExplorer.Text.Blank
import SuiteExplorer.Text.Lines

namespace SuiteExplorer.Display

/-! ## 1. Tabs -/

def tabWidth : Nat := 8

/-- A text with blanks for tabs, from some cell on. -/
def expandFrom (cell : Nat) : List Char → List Char
  | [] => []
  | c :: rest =>
    if c = '\t' then
      let stop := (cell + 1 + (tabWidth - 1)) / tabWidth * tabWidth
      List.replicate (stop - cell) ' ' ++ expandFrom stop rest
    else c :: expandFrom (cell + width c) rest

def expandTabs (s : List Char) : List Char := expandFrom 0 s

/-! ## 2. Words -/

/-- Cut a text before every word but the first, so that the blanks after a word
    belong to it. `word` is the word so far, its last character first, and
    `ended` says whether blanks follow it. -/
def wordsFrom (word : List Char) (ended : Bool) : List Char → List (List Char)
  | [] => if word.all Text.isBlank then [] else [word.reverse]
  | c :: rest =>
    if Text.isBlank c then wordsFrom (c :: word) (!word.all Text.isBlank) rest
    else if ended then word.reverse :: wordsFrom [c] false rest
    else wordsFrom (c :: word) false rest

/-- The words of a line, with the blanks after each, the first one also with
    those before it. A line of blanks has no words. -/
def wordsWithBlanks (s : List Char) : List (List Char) := wordsFrom [] false s

/-! ## 3. Breaks -/

/-- Where a word that is wider than the screen is broken, if it begins at a
    place: at its beginning, unless that is the beginning of the line, and
    between its pieces. Also how many cells its last piece takes. -/
def breaksWithin (start : Nat) : List (List Char) → List Nat × Nat
  | [] => ([], 0)
  | [last] => (if start = 0 then [] else [start], cells last)
  | piece :: rest =>
    let (more, used) := breaksWithin (start + piece.length) rest
    (if start = 0 then more else start :: more, used)

/-- Where a line is broken, as places in it. `start` is where the next word
    begins and `used` the number of cells before it in its line. -/
def breaks (room start used : Nat) : List (List Char) → List Nat
  | [] => []
  | word :: rest =>
    let size := cells (Text.trimEnd word)
    let next := start + word.length
    if used + size ≤ room then breaks room next (used + cells word) rest
    else if room < size then
      let (here, used) := breaksWithin start (chop room word)
      here ++ breaks room next used rest
    else if 0 < used && 0 < start then start :: breaks room next (cells word) rest
    else breaks room next used rest

/-- Cut a text at places, in ascending order, of which `start` is the first. -/
def cutAtPlaces (start : Nat) (s : List Char) : List Nat → List (List Char)
  | [] => [s]
  | place :: rest => s.take (place - start) :: cutAtPlaces place (s.drop (place - start)) rest

/-- Blanks at the end of a line are left out as far as the line has more
    characters than there are cells. -/
def trimTo (room : Nat) (s : List Char) : List Char :=
  let blanks := s.length - (Text.trimEnd s).length
  s.take (s.length - min blanks (s.length - room))

/-! ## 4. Lines -/

/-- One line of a text as it is shown on a screen of `room` cells, on several
    lines if need be. -/
def wrapLine (room : Nat) (s : List Char) : List (List Char) :=
  let s := expandTabs s
  (cutAtPlaces 0 s (breaks room 0 0 (wordsWithBlanks s))).map fun line => crop room (trimTo room line)

/-- A text as it is shown on a screen of `room` cells. -/
def wrap (room : Nat) (s : List Char) : List (List Char) :=
  (Text.cutAt '\n' s).flatMap (wrapLine room)

/-- A text as it is shown where lines may leave the screen. -/
def unwrapped (room : Nat) (s : List Char) : List (List Char) :=
  (Text.cutAt '\n' s).map fun line => trimTo room (expandTabs line)

end SuiteExplorer.Display
