/-
  SuiteExplorer/Value/Yaml/Scalar.lean
  ====================================
  Texts in documents: plain ones, ones between quotes, and blocks of lines. Each
  reader takes a text off the front and gives back the place behind it. A single
  break within a text that is not a block reads as a blank.
-/
import SuiteExplorer.Text.Digit
import SuiteExplorer.Value.Yaml.Cursor

namespace SuiteExplorer.Yaml

/-- What breaks read as: the first one as a blank, unless it is kept or others
    follow it. -/
def folded (first : Char) (more : List Char) : List Char :=
  (if first ≠ '\n' then [first] else if more.isEmpty then [' '] else []) ++ more

/-! ## 1. Plain texts -/

/-- The characters of a plain text up to a gap. Within brackets, their marks end
    it as well. -/
def plainChars (inFlow : Bool) : List Char → List Char
  | [] => []
  | c :: rest =>
    let next := rest.headD endMark
    if isGap c || (inFlow && ",?[]\x7b\x7d".toList.contains c)
        || (c = ':' && (isGap next || (inFlow && ",[]\x7b\x7d".toList.contains next))) then []
    else c :: plainChars inFlow rest

/-- What lies between two parts of a plain text. -/
structure PlainGap where
  /-- what it reads as; nothing ends the text -/
  text : List Char
  crossed : Bool
  after : Cursor

/-- Skip blanks and breaks, unless a divider of documents comes up. -/
def plainBreaks : Nat → Cursor → Option (List Char) × Cursor
  | 0, c => (some [], c)
  | fuel + 1, c =>
    if c.atDivider && c.column = 0 then (none, c)
    else
      let c := c.skipBlanks
      match c.lineBreak? with
      | none => (some [], c)
      | some (b, c) =>
        let (more, c) := plainBreaks fuel c
        (more.map (b :: ·), c)

def plainGap (c : Cursor) : PlainGap :=
  let (blanks, c) := c.span (· = ' ')
  match c.lineBreak? with
  | none => ⟨blanks, false, c⟩
  | some (b, c) =>
    let (more, c) := plainBreaks (c.rest.length + 1) c
    ⟨(more.map (folded b)).getD [], true, c⟩

/-- The parts of a plain text, and whether its last gap passed a break. What
    goes on on another line stands deeper than what the text belongs to. -/
def plainParts (inFlow : Bool) (indent : Nat) : Nat → Cursor → List Char × Bool × Cursor
  | 0, c => ([], false, c)
  | fuel + 1, c =>
    let part := plainChars inFlow c.rest
    let gap := plainGap (c.skip part.length)
    if gap.text.isEmpty || gap.after.peek = '#' || (!inFlow && gap.after.column < indent) then
      (part, gap.crossed, gap.after)
    else if (plainChars inFlow gap.after.rest).isEmpty then (part, gap.crossed, gap.after)
    else
      let (more, crossed, after) := plainParts inFlow indent fuel gap.after
      (part ++ gap.text ++ more, crossed, after)

def plain (inFlow : Bool) (indent : Nat) (c : Cursor) : String × Bool × Cursor :=
  let (s, crossed, after) := plainParts inFlow indent (c.rest.length + 1) c
  (String.ofList s, crossed, after)

/-! ## 2. Texts between quotes -/

def escaped? : Char → Option Char
  | '0' => some '\x00'
  | 'a' => some '\x07'
  | 'b' => some '\x08'
  | 't' | '\t' => some '\t'
  | 'n' => some '\n'
  | 'v' => some '\x0b'
  | 'f' => some '\x0c'
  | 'r' => some '\r'
  | 'e' => some '\x1b'
  | ' ' => some ' '
  | '"' => some '"'
  | '\\' => some '\\'
  | '/' => some '/'
  | 'N' => some '\u0085'
  | '_' => some '\u00a0'
  | 'L' => some '\u2028'
  | 'P' => some '\u2029'
  | _ => none

/-- How many hexadecimal digits follow a letter behind a backslash. -/
def escapeWidth? : Char → Option Nat
  | 'x' => some 2
  | 'u' => some 4
  | 'U' => some 8
  | _ => none

/-- The character of a number. Half of a pair stands for no character. -/
def charOf (n : Nat) : Except Fault Char :=
  if 0x80000000 ≤ n then .error .tooLarge
  else if 0x110000 ≤ n then .error (.invalid "chr() arg not in range(0x110000)")
  else .ok (if 0xD800 ≤ n && n < 0xE000 then '\ufffd' else Char.ofNat n)

/-- The breaks at the start of a line between quotes, with the blanks around
    them. No divider of documents may stand there. -/
def quotedBreaks : Nat → Cursor → Except Fault (List Char × Cursor)
  | 0, c => .ok ([], c)
  | fuel + 1, c =>
    if c.atDivider then .error .malformed
    else
      let c := (c.span fun x => x = ' ' || x = '\t').2
      match c.lineBreak? with
      | none => .ok ([], c)
      | some (b, c) => do
        let (more, c) ← quotedBreaks fuel c
        return (b :: more, c)

/-- Read what a backslash stands for, the backslash being gone. -/
def escape (c : Cursor) : Except Fault (List Char × Cursor) :=
  match escaped? c.peek, escapeWidth? c.peek with
  | some x, _ => .ok ([x], c.advance)
  | none, some width =>
    let digits := c.advance.rest.take width
    match Text.hexNumber? digits with
    | some n =>
      if digits.length < width then .error .malformed
      else (charOf n).map fun x => ([x], c.advance.skip width)
    | none => .error .malformed
  | none, none =>
    match c.lineBreak? with
    | some (_, c) => quotedBreaks (c.rest.length + 1) c
    | none => .error .malformed

/-- A text up to its closing quote, which is taken off too. -/
def quotedParts (quote : Char) : Nat → Cursor → Except Fault (List Char × Cursor)
  | 0, _ => .error .malformed
  | fuel + 1, c =>
    let go (text : List Char) (c : Cursor) : Except Fault (List Char × Cursor) := do
      let (more, after) ← quotedParts quote fuel c
      return (text ++ more, after)
    if c.rest.isEmpty then .error .malformed
    else if c.peek = quote then
      if quote = '\'' && c.peekAt 1 = quote then go [quote] (c.skip 2) else .ok ([], c.advance)
    else if quote = '"' && c.peek = '\\' then do
      let (text, c) ← escape c.advance
      go text c
    else if c.peek = ' ' || c.peek = '\t' || isBreak c.peek then
      let (blanks, c) := c.span fun x => x = ' ' || x = '\t'
      match c.lineBreak? with
      | none => if c.rest.isEmpty then .error .malformed else go blanks c
      | some (b, c) => do
        let (more, c) ← quotedBreaks (c.rest.length + 1) c
        go (folded b more) c
    else go [c.peek] c.advance

/-- A text between quotes. -/
def quoted (c : Cursor) : Except Fault (String × Cursor) := do
  let (s, after) ← quotedParts c.peek (c.rest.length + 1) c.advance
  return (String.ofList s, after)

/-! ## 3. Blocks of lines -/

/-- How a block is read. -/
structure BlockStyle where
  folds : Bool
  /-- what becomes of the breaks at its end: kept (`true`), dropped (`false`), or
      all but the first dropped -/
  keepsEnd : Option Bool := none
  /-- how much deeper it stands than what it belongs to, if that is said -/
  indent : Option Nat := none

/-- Which of the breaks at the end a sign asks for. -/
def endSign? : Char → Option Bool
  | '+' => some true
  | '-' => some false
  | _ => none

/-- A digit that says how deep a block stands; there is no depth of zero. -/
def depthSign (c : Cursor) : Except Fault (Option Nat × Cursor) :=
  if c.peek = '0' then .error .malformed
  else if c.peek.isDigit then .ok (some (c.peek.toNat - 48), c.advance)
  else .ok (none, c)

def endSign (c : Cursor) : Option Bool × Cursor :=
  match endSign? c.peek with
  | some b => (some b, c.advance)
  | none => (none, c)

/-- Read the signs behind the mark of a block: one for its end and one for its
    depth, in either order. -/
def blockStyle (folds : Bool) (c : Cursor) : Except Fault (BlockStyle × Cursor) := do
  let (ending, c) := endSign c
  let (depth, c) ← depthSign c
  let (ending, c) := if ending.isNone && depth.isSome then endSign c else (ending, c)
  if isBlankOrEnd c.peek then return (⟨folds, ending, depth⟩, c) else throw .malformed

/-- The empty lines at the start of a block, and how deep its blanks reach. -/
def leadingBreaks : Nat → Nat → Cursor → List Char × Nat × Cursor
  | 0, deep, c => ([], deep, c)
  | fuel + 1, deep, c =>
    let c := c.skipBlanks
    let deep := max deep c.column
    match c.lineBreak? with
    | none => ([], deep, c)
    | some (b, c) =>
      let (more, deep, c) := leadingBreaks fuel deep c
      (b :: more, deep, c)

/-- Skip blanks, but not deeper than `indent`. -/
def skipIndent (indent : Nat) (c : Cursor) : Cursor :=
  c.skip ((c.rest.take (indent - c.column)).takeWhile (· = ' ')).length

def blockBreaks (indent : Nat) : Nat → Cursor → List Char × Cursor
  | 0, c => ([], c)
  | fuel + 1, c =>
    let c := skipIndent indent c
    match c.lineBreak? with
    | none => ([], c)
    | some (b, c) =>
      let (more, c) := blockBreaks indent fuel c
      (b :: more, c)

/-- The lines of a block, and the breaks at its end: that of the last line and
    those of the empty lines behind it. -/
def blockLines (folds : Bool) (indent : Nat) :
    Nat → Cursor → List Char → List Char × List Char × List Char × Cursor
  | 0, c, breaks => ([], [], breaks, c)
  | fuel + 1, c, breaks =>
    if c.column ≠ indent || c.rest.isEmpty then ([], [], breaks, c)
    else
      let isText (x : Char) : Bool := x ≠ ' ' && x ≠ '\t'
      let (line, after) := c.span (!isBreakOrEnd ·)
      let (ending, after) := match after.lineBreak? with
        | some (b, after) => ([b], after)
        | none => ([], after)
      let (next, after) := blockBreaks indent (after.rest.length + 1) after
      if after.column = indent && !after.rest.isEmpty then
        let joint :=
          if folds && ending = ['\n'] && isText c.peek && isText after.peek then
            if next.isEmpty then [' '] else []
          else ending
        let (more, ending, last, after) := blockLines folds indent fuel after next
        (breaks ++ line ++ joint ++ more, ending, last, after)
      else (breaks ++ line, ending, next, after)

/-- A block of lines, given how deep what it belongs to stands. -/
def block (folds : Bool) (minIndent : Nat) (c : Cursor) : Except Fault (String × Cursor) := do
  let (style, c) ← blockStyle folds c.advance
  let c ← c.skipRemark
  let fuel := c.rest.length + 1
  let (breaks, indent, c) := match style.indent with
    | none =>
      let (breaks, deep, c) := leadingBreaks fuel 0 c
      (breaks, max minIndent deep, c)
    | some n =>
      let (breaks, c) := blockBreaks (minIndent + n - 1) fuel c
      (breaks, minIndent + n - 1, c)
  let (lines, ending, last, after) := blockLines folds indent fuel c breaks
  let kept := match style.keepsEnd with
    | some true => ending ++ last
    | some false => []
    | none => ending
  return (String.ofList (lines ++ kept), after)

end SuiteExplorer.Yaml
