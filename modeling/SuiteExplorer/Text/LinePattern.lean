/-
  SuiteExplorer/Text/LinePattern.lean
  ===================================
  Patterns for single source lines. A pattern is a list of pieces; some pieces
  leave a choice (how many characters to take, whether to be present), and each
  such piece prefers its choices in a fixed order. The reading of a line is the
  first one when the choices are compared from left to right.

  `first` states this order as plain backtracking. `read?` finds the same
  reading from a table with one column per piece and one row per rest of the
  line, so that its cost is the length of the line times that of the pattern.
-/
import SuiteExplorer.Text.Blank
import SuiteExplorer.Text.Lines

namespace SuiteExplorer.Text

/-- One piece of a line pattern. The free text of `few`, `fewSome` and
    `fewThen` never holds a line feed. -/
inductive Piece where
  /-- exactly these characters -/
  | lit (word : List Char)
  /-- as few characters as possible, perhaps none -/
  | few
  /-- as few characters as possible, at least one -/
  | fewSome
  /-- this character, preferably present -/
  | maybe (c : Char)
  /-- as many blanks as possible -/
  | blanks
  /-- preferably present: as few characters as possible, then these -/
  | fewThen (word : List Char)
  /-- the end of the text, or the place just before a final line feed -/
  | finish
deriving Repr, DecidableEq

abbrev LinePattern := List Piece

/-- What one piece with a choice took: how many characters are free text, or
    `none` for an absent `fewThen`. -/
abbrev Choice := Option Nat

/-- The choices of all pieces that have one, from left to right. -/
abbrev Reading := List Choice

namespace LinePattern

/-- What is left of a text after the word it starts with. -/
def afterWord? (word s : List Char) : Option (List Char) :=
  if word.isPrefixOf s then some (s.drop word.length) else none

/-- Nothing is left, or one line feed. -/
def atFinish : List Char → Bool
  | [] => true
  | ['\n'] => true
  | _ => false

/-! ## 1. Readings in order of preference -/

/-- The ways to take as few characters as possible: none, one, two, ... each
    with what is left. -/
def fewSteps : List Char → List (Nat × List Char)
  | [] => [(0, [])]
  | c :: s =>
    (0, c :: s) :: if c = '\n' then [] else (fewSteps s).map fun p => (p.1 + 1, p.2)

/-- The ways to take as many blanks as possible. -/
def blankSteps : List Char → List (Nat × List Char)
  | [] => [(0, [])]
  | c :: s =>
    (if isBlank c then (blankSteps s).map fun p => (p.1 + 1, p.2) else []) ++ [(0, c :: s)]

/-- All ways in which one piece can take from the front of a text, the
    preferred first: what is recorded, and what is left. -/
def steps (s : List Char) : Piece → List (Reading × List Char)
  | .lit word => (afterWord? word s).toList.map fun rest => ([], rest)
  | .few => (fewSteps s).map fun p => ([some p.1], p.2)
  | .fewSome => ((fewSteps s).filter (0 < ·.1)).map fun p => ([some p.1], p.2)
  | .maybe c =>
    (match s with
      | d :: rest => if d = c then [([some 1], rest)] else []
      | [] => []) ++ [([some 0], s)]
  | .blanks => (blankSteps s).map fun p => ([some p.1], p.2)
  | .fewThen word =>
    ((fewSteps s).filterMap fun p =>
        (afterWord? word p.2).map fun rest => ([some p.1], rest)) ++ [([none], s)]
  | .finish => if atFinish s then [([], s)] else []

/-- **The reading of a text**: the first in the order of preference, earlier
    pieces deciding before later ones. -/
def first : LinePattern → List Char → Option Reading
  | [], _ => some []
  | p :: ps, s => (steps s p).findSome? fun q => (first ps q.2).map (q.1 ++ ·)

/-! ## 2. The table

A column holds, for every rest of the line (the whole line first, the empty
rest last), the reading of that rest by the pieces from some piece on. -/

abbrev Column := List (Option Reading)

/-- Take one more character into the first choice of a reading. -/
def extend : Reading → Reading
  | some n :: rest => some (n + 1) :: rest
  | other => other

def Column.top (column : Column) : Option Reading := column.headD none

/-- `later` is the next column without its first `word.length` entries. -/
def wordColumn (word : List Char) : List Char → Column → Column
  | [], later => [if word.isPrefixOf [] then later.top else none]
  | c :: s, later =>
    (if word.isPrefixOf (c :: s) then later.top else none) :: wordColumn word s later.tail

def fewColumn : List Char → Column → Column
  | [], next => [next.top.map (some 0 :: ·)]
  | c :: s, next =>
    let below := fewColumn s next.tail
    (match next.top with
      | some reading => some (some 0 :: reading)
      | none => if c = '\n' then none else below.top.map extend) :: below

def fewSomeColumn : List Char → Column → Column
  | [], _ => [none]
  | c :: s, few =>
    (if c = '\n' then none else (Column.top few.tail).map extend) :: fewSomeColumn s few.tail

def maybeColumn (c : Char) : List Char → Column → Column
  | [], next => [next.top.map (some 0 :: ·)]
  | d :: s, next =>
    ((if d = c then (Column.top next.tail).map (some 1 :: ·) else none)
      <|> next.top.map (some 0 :: ·)) :: maybeColumn c s next.tail

def blanksColumn : List Char → Column → Column
  | [], next => [next.top.map (some 0 :: ·)]
  | c :: s, next =>
    let below := blanksColumn s next.tail
    ((if isBlank c then below.top.map extend else none)
      <|> next.top.map (some 0 :: ·)) :: below

def finishColumn : List Char → Column → Column
  | [], next => [next.top]
  | c :: s, next => (if atFinish (c :: s) then next.top else none) :: finishColumn s next.tail

/-- The column of one piece, from that of the pieces after it. -/
def column (s : List Char) (next : Column) : Piece → Column
  | .lit word => wordColumn word s (next.drop word.length)
  | .few => fewColumn s next
  | .fewSome => fewSomeColumn s (fewColumn s next)
  | .maybe c => maybeColumn c s next
  | .blanks => blanksColumn s next
  | .fewThen word =>
    List.zipWith (fun present absent => present <|> absent.map (none :: ·))
      (fewColumn s (wordColumn word s (next.drop word.length))) next
  | .finish => finishColumn s next

/-- The column of a whole pattern. -/
def table (s : List Char) : LinePattern → Column
  | [] => List.replicate (s.length + 1) (some [])
  | p :: ps => column s (table s ps) p

/-- The reading of a line, if the pattern matches at its start. Leading words
    are compared before any table is built. -/
def read? : LinePattern → List Char → Option Reading
  | .lit word :: ps, s => (afterWord? word s).bind (read? ps)
  | ps, s => (table s ps).top

/-! ## 3. What a reading takes -/

/-- The free texts of a reading, and the rest of the line after the match. -/
def texts : LinePattern → Reading → List Char → List (Option (List Char)) × List Char
  | [], _, s => ([], s)
  | .lit word :: ps, reading, s => texts ps reading (s.drop word.length)
  | .finish :: ps, reading, s => texts ps reading s
  | .fewThen word :: ps, some n :: reading, s =>
    let more := texts ps reading (s.drop (n + word.length))
    (some (s.take n) :: more.1, more.2)
  | .fewThen _ :: ps, none :: reading, s =>
    let more := texts ps reading s
    (none :: more.1, more.2)
  | _ :: ps, some n :: reading, s =>
    let more := texts ps reading (s.drop n)
    (some (s.take n) :: more.1, more.2)
  | _ :: _, _, s => ([], s)

/-- A successful match: its free texts in order, and how much of the line the
    whole match covers. -/
structure Match where
  texts : List (Option (List Char))
  length : Nat
deriving Repr, DecidableEq

/-- Match a pattern at the start of a line. -/
def match? (pattern : LinePattern) (line : Line) : Option Match :=
  (read? pattern line).map fun reading =>
    let (found, rest) := texts pattern reading line
    ⟨found, line.length - rest.length⟩

/-- The pattern matches at the start of the line. -/
def accepts (pattern : LinePattern) (line : Line) : Bool := (read? pattern line).isSome

end LinePattern
end SuiteExplorer.Text
