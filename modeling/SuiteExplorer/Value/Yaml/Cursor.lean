/-
  SuiteExplorer/Value/Yaml/Cursor.lean
  ====================================
  A place in a document: what is still to be read, and where that stands. Also
  the classes of characters by which documents are read, and what can be wrong
  with a document.
-/

namespace SuiteExplorer.Yaml

/-- Why a document has no value. -/
inductive Fault where
  /-- it is not written by the rules -/
  | malformed
  /-- a text is not what its tag says -/
  | invalid (message : String)
  /-- a word stands for no truth value -/
  | unknownWord (word : String)
  /-- a number without any character -/
  | emptyNumber
  /-- a text that is no moment -/
  | noMoment
  | notText
  | tooLarge
deriving Repr, DecidableEq

/-! ## 1. Characters -/

/-- What is seen at the end of a document. -/
def endMark : Char := '\x00'

def isBreak (c : Char) : Bool := c = '\n' || c = '\u0085' || c = '\u2028' || c = '\u2029'

def isBreakOrEnd (c : Char) : Bool := isBreak c || c = endMark

def isBlankOrEnd (c : Char) : Bool := c = ' ' || isBreakOrEnd c

/-- A character that ends a word: a blank, a tab, a break or the end. -/
def isGap (c : Char) : Bool := c = '\t' || isBlankOrEnd c

def isNameChar (c : Char) : Bool := c.isAlphanum || c = '-' || c = '_'

/-- A character that may stand in a document. -/
def isAllowed (c : Char) : Bool :=
  let n := c.toNat
  n = 9 || n = 10 || n = 13 || (0x20 ≤ n && n ≤ 0x7E) || n = 0x85 || (0xA0 ≤ n && n ≤ 0xFFFD) ||
    0x10000 ≤ n

/-- A break is written back as a line feed, unless it is one of the two breaks
    that are kept. -/
def breakText (c : Char) : Char := if c = '\u0085' then '\n' else c

/-! ## 2. Places -/

structure Cursor where
  rest : List Char
  index : Nat := 0
  line : Nat := 0
  column : Nat := 0

namespace Cursor

def peek (c : Cursor) : Char := c.rest.headD endMark

def peekAt (c : Cursor) (n : Nat) : Char := (c.rest.drop n).headD endMark

/-- Go on by one character. A byte order mark takes no room. -/
def advance (c : Cursor) : Cursor :=
  match c.rest with
  | [] => c
  | x :: rest =>
    if isBreak x then ⟨rest, c.index + 1, c.line + 1, 0⟩
    else ⟨rest, c.index + 1, c.line, if x = '\ufeff' then c.column else c.column + 1⟩

def skip : Nat → Cursor → Cursor
  | 0, c => c
  | n + 1, c => skip n c.advance

/-- The characters at the front that are accepted, and the place behind them. -/
def span (accept : Char → Bool) (c : Cursor) : List Char × Cursor :=
  let front := c.rest.takeWhile accept
  (front, c.skip front.length)

def skipBlanks (c : Cursor) : Cursor := (c.span (· = ' ')).2

def skipLine (c : Cursor) : Cursor := (c.span (!isBreakOrEnd ·)).2

/-- Read a break, if there is one. -/
def lineBreak? (c : Cursor) : Option (Char × Cursor) :=
  if isBreak c.peek then some (breakText c.peek, c.advance) else none

def skipBreak (c : Cursor) : Cursor := if isBreak c.peek then c.advance else c

/-- Three of the same mark, which divide documents, with a gap behind them. -/
def atMark (mark : Char) (c : Cursor) : Bool :=
  [mark, mark, mark].isPrefixOf c.rest && isGap (c.peekAt 3)

def atDivider (c : Cursor) : Bool := c.atMark '-' || c.atMark '.'

/-- Skip blanks and a comment, up to the end of the line. -/
def skipRemark (c : Cursor) : Except Fault Cursor :=
  let c := c.skipBlanks
  let c := if c.peek = '#' then c.skipLine else c
  if isBreakOrEnd c.peek then .ok c.skipBreak else .error .malformed

end Cursor
end SuiteExplorer.Yaml
