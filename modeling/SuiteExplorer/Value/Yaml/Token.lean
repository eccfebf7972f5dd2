/-
  SuiteExplorer/Value/Yaml/Token.lean
  ===================================
  The tokens of a document. Most of them stand in the text; where a block of
  entries or items begins and ends is told by how deep the lines stand, and
  that something is a key only by the colon behind it, so the tokens for these
  are put in.

  A document is cut into tokens up to its first fault. What could still become
  a key when the fault came up is not given out.
-/
import SuiteExplorer.Text.Digit
import SuiteExplorer.Value.Yaml.Scalar

namespace SuiteExplorer.Yaml

/-- What a line at the start of a document says about it. -/
inductive Directive where
  | version (major : Nat)
  | tag (handle start : String)
  | other
deriving Repr, DecidableEq

inductive Token where
  | directive (d : Directive)
  | documentStart
  | documentEnd
  | blockSequence
  | blockMapping
  | blockEnd
  | openSequence
  | closeSequence
  | openMapping
  | closeMapping
  | item
  | comma
  | key
  | value
  | alias (name : String)
  | anchor (name : String)
  | tag (handle : Option String) (suffix : String)
  | scalar (text : String) (isPlain : Bool)
  | streamEnd
deriving Repr, DecidableEq

/-! ## 1. Names and tags -/

/-- A name behind `&` or `*`. -/
def anchorName (c : Cursor) : Except Fault (String × Cursor) :=
  let (name, after) := c.advance.span isNameChar
  if name.isEmpty || !(isGap after.peek || "?:,]\x7d%@`".toList.contains after.peek) then .error .malformed
  else .ok (String.ofList name, after)

def isTagChar (c : Char) : Bool := c.isAlphanum || "-;/?:@&=+$,_.!~*'()[]%".toList.contains c

/-- Bytes of a tag, each behind a percent sign. -/
def percentBytes : Nat → Cursor → Except Fault (List UInt8 × Cursor)
  | 0, c => .ok ([], c)
  | fuel + 1, c =>
    if c.peek ≠ '%' then .ok ([], c)
    else
      let digits := c.advance.rest.take 2
      match Text.hexNumber? digits with
      | some n =>
        if digits.length < 2 then .error .malformed
        else do
          let (more, after) ← percentBytes fuel (c.skip 3)
          return (UInt8.ofNat n :: more, after)
      | none => .error .malformed

def tagChars : Nat → Cursor → Except Fault (List Char × Cursor)
  | 0, c => .ok ([], c)
  | fuel + 1, c =>
    if c.peek = '%' then do
      let (bytes, c) ← percentBytes (c.rest.length + 1) c
      let some s := String.fromUTF8? ⟨bytes.toArray⟩ | throw .malformed
      let (more, after) ← tagChars fuel c
      return (s.toList ++ more, after)
    else if isTagChar c.peek then do
      let (more, after) ← tagChars fuel c.advance
      return (c.peek :: more, after)
    else .ok ([], c)

/-- The end of a tag, which is not empty. -/
def tagSuffix (c : Cursor) : Except Fault (String × Cursor) := do
  let (s, after) ← tagChars (c.rest.length + 1) c
  if c.peek ≠ '%' && s.isEmpty then throw .malformed
  return (String.ofList s, after)

/-- The handle of a tag: `!`, `!!` or a name between two of them. -/
def tagHandle (c : Cursor) : Except Fault (String × Cursor) :=
  if c.peek ≠ '!' then .error .malformed
  else
    let (name, after) := c.advance.span isNameChar
    if c.peekAt 1 = ' ' then .ok ("!", c.advance)
    else if after.peek ≠ '!' then .error .malformed
    else .ok (String.ofList ('!' :: name ++ ['!']), after.advance)

def tag (c : Cursor) : Except Fault (Token × Cursor) := do
  let (token, after) ←
    if c.peekAt 1 = '<' then do
      let (suffix, c) ← tagSuffix (c.skip 2)
      if c.peek ≠ '>' then throw .malformed
      pure (Token.tag none suffix, c.advance)
    else if isGap (c.peekAt 1) then pure (Token.tag none "!", c.advance)
    else if (c.advance.rest.takeWhile (!isBlankOrEnd ·)).contains '!' then do
      let (handle, c) ← tagHandle c
      let (suffix, c) ← tagSuffix c
      pure (Token.tag (some handle) suffix, c)
    else do
      let (suffix, c) ← tagSuffix c.advance
      pure (Token.tag (some "!") suffix, c)
  if isBlankOrEnd after.peek then return (token, after) else throw .malformed

/-! ## 2. Directives -/

/-- How many digits a number may have. -/
def digitLimit : Nat := 4300

def tooManyDigits (count : Nat) : Fault :=
  .invalid (s!"Exceeds the limit ({digitLimit} digits) for integer string conversion: value has " ++
    s!"{count} digits; use sys.set_int_max_str_digits() to increase the limit")

def directiveNumber (c : Cursor) : Except Fault (Nat × Cursor) :=
  let (digits, after) := c.span (·.isDigit)
  if digits.isEmpty then .error .malformed
  else if digitLimit < digits.length then .error (tooManyDigits digits.length)
  else .ok (digits.foldl (fun n d => 10 * n + (d.toNat - 48)) 0, after)

/-- A line that begins with a percent sign. -/
def directive (c : Cursor) : Except Fault (Directive × Cursor) := do
  let (name, c) := c.advance.span isNameChar
  if name.isEmpty || !isBlankOrEnd c.peek then throw .malformed
  let (d, c) ← match String.ofList name with
    | "YAML" => do
      let (major, c) ← directiveNumber c.skipBlanks
      if c.peek ≠ '.' then throw .malformed
      let (_, c) ← directiveNumber c.advance
      if !isBlankOrEnd c.peek then throw .malformed
      pure (Directive.version major, c)
    | "TAG" => do
      let (handle, c) ← tagHandle c.skipBlanks
      if c.peek ≠ ' ' then throw .malformed
      let (start, c) ← tagSuffix c.skipBlanks
      if !isBlankOrEnd c.peek then throw .malformed
      pure (Directive.tag handle start, c)
    | _ => pure (Directive.other, c.skipLine)
  let c ← c.skipRemark
  return (d, c)

/-! ## 3. Cutting a document -/

/-- Something that becomes a key if a colon follows it on its line. -/
structure KeyStart where
  /-- how many tokens stand before it -/
  token : Nat
  /-- nothing else can stand there -/
  needed : Bool
  place : Cursor

structure Lexer where
  place : Cursor
  /-- the tokens so far, the last one first -/
  taken : List Token := []
  count : Nat := 0
  /-- the depths at which blocks stand, the innermost first -/
  blocks : List Nat := []
  /-- for each open bracket, and for the block around them at the end, what may
      become a key there -/
  keys : List (Option KeyStart) := [none]
  /-- a key may begin here -/
  allowsKey : Bool := true
  done : Bool := false

namespace Lexer

/-- Between brackets. -/
def inFlow (l : Lexer) : Bool := 1 < l.keys.length

def deeper (l : Lexer) (column : Nat) : Bool := l.blocks.head?.all (· < column)

def add (t : Token) (l : Lexer) : Lexer := { l with taken := t :: l.taken, count := l.count + 1 }

/-- Put tokens in so that `before` tokens stand before them. -/
def insert (before : Nat) (ts : List Token) (l : Lexer) : Lexer :=
  let behind := l.count - before
  { l with taken := l.taken.take behind ++ ts.reverse ++ l.taken.drop behind
           count := l.count + ts.length }

/-- Go on with a token that is read off the text. -/
def addAt (t : Token) (after : Cursor) (l : Lexer) : Lexer := { l.add t with place := after }

/-- A token of one character. -/
def addMark (t : Token) (l : Lexer) : Lexer := l.addAt t l.place.advance

/-- A key has to begin and end on one line, within 1024 characters. -/
def isStale (l : Lexer) (k : KeyStart) : Bool :=
  k.place.line ≠ l.place.line || 1024 < l.place.index - k.place.index

/-- Forget what can no longer become a key. -/
def dropStale (l : Lexer) : Except Fault Lexer :=
  if l.keys.any fun k? => k?.any fun k => l.isStale k && k.needed then .error .malformed
  else .ok { l with keys := l.keys.map fun k? => k?.filter fun k => !l.isStale k }

/-- Nothing on this level becomes a key any more. -/
def dropKey (l : Lexer) : Except Fault Lexer :=
  match l.keys with
  | some k :: rest => if k.needed then .error .malformed else .ok { l with keys := none :: rest }
  | _ => .ok l

/-- What begins here may become a key. -/
def saveKey (l : Lexer) : Except Fault Lexer :=
  if l.allowsKey then do
    let needed := !l.inFlow && l.blocks.head? = some l.place.column
    let l ← l.dropKey
    return { l with keys := some ⟨l.count, needed, l.place⟩ :: l.keys.tail }
  else .ok l

/-- Close the blocks that stand deeper than a column. -/
def closeBlocks (deeper : Nat → Bool) (l : Lexer) : Lexer :=
  if l.inFlow then l
  else (l.blocks.takeWhile deeper).foldl
    (fun l _ => { l.add .blockEnd with blocks := l.blocks.tail }) l

/-- Begin a block at a column, if the place stands deeper than the innermost
    one. -/
def openBlock (column : Nat) (before : Nat) (t : Token) (l : Lexer) : Lexer :=
  if l.deeper column then { l.insert before [t] with blocks := column :: l.blocks } else l

/-- Skip blanks, comments and breaks. Behind a break, a block may have a key. -/
def skipGaps : Nat → Lexer → Lexer
  | 0, l => l
  | fuel + 1, l =>
    let c := l.place.skipBlanks
    let c := if c.peek = '#' then c.skipLine else c
    match c.lineBreak? with
    | none => { l with place := c }
    | some (_, c) => skipGaps fuel { l with place := c, allowsKey := l.allowsKey || !l.inFlow }

/-! ### The tokens by their first characters -/

/-- A divider, a directive or the end closes all blocks. -/
def closeAll (l : Lexer) : Except Fault Lexer := do
  let l ← (l.closeBlocks fun _ => true).dropKey
  return { l with allowsKey := false }

/-- A sequence or mapping between brackets begins. -/
def openFlow (t : Token) (l : Lexer) : Except Fault Lexer := do
  let l ← l.saveKey
  return { l.addMark t with keys := none :: l.keys, allowsKey := true }

def closeFlow (t : Token) (l : Lexer) : Except Fault Lexer := do
  let l ← l.dropKey
  if !l.inFlow then throw .malformed
  return { l.addMark t with keys := l.keys.tail, allowsKey := false }

/-- Where a key may begin, a mark of a block may stand. -/
def openBlockHere (t : Token) (l : Lexer) : Except Fault Lexer :=
  if l.inFlow then .ok l
  else if l.allowsKey then .ok (l.openBlock l.place.column l.count t)
  else .error .malformed

def item (l : Lexer) : Except Fault Lexer := do
  let l ← l.openBlockHere .blockSequence
  let l ← { l with allowsKey := true }.dropKey
  return l.addMark .item

def key (l : Lexer) : Except Fault Lexer := do
  let l ← l.openBlockHere .blockMapping
  let l ← { l with allowsKey := !l.inFlow }.dropKey
  return l.addMark .key

/-- A colon before a value: what could become a key on this level becomes one. -/
def value (l : Lexer) : Except Fault Lexer :=
  match l.keys with
  | some k :: rest =>
    let l := { l with keys := none :: rest, allowsKey := false }.insert k.token [.key]
    let l := if l.inFlow then l else l.openBlock k.place.column k.token .blockMapping
    .ok (l.addMark .value)
  | _ => do
    let l ← l.openBlockHere .blockMapping
    let l ← { l with allowsKey := !l.inFlow }.dropKey
    return l.addMark .value

/-- A token that may be the beginning of a key. -/
def inKey (read : Cursor → Except Fault (Token × Cursor)) (l : Lexer) : Except Fault Lexer := do
  let l ← l.saveKey
  let (t, after) ← read l.place
  return { l.addAt t after with allowsKey := false }

/-- A plain text. Behind a break that it passed, a block may have a key. -/
def plainText (l : Lexer) : Except Fault Lexer := do
  let l ← l.saveKey
  let (s, crossed, after) := plain l.inFlow ((l.blocks.head?.map (· + 1)).getD 0) l.place
  return { l.addAt (.scalar s true) after with allowsKey := crossed }

def blockText (folds : Bool) (l : Lexer) : Except Fault Lexer := do
  let l ← { l with allowsKey := true }.dropKey
  let (s, after) ← block folds ((l.blocks.head?.map (· + 1)).getD 1) l.place
  return l.addAt (.scalar s false) after

/-- A character that begins no plain text, unless something follows it. -/
def isIndicator (c : Char) : Bool := "-?:,[]\x7b\x7d#&*!|>'\"%@`".toList.contains c

def startsPlain (l : Lexer) : Bool :=
  let c := l.place.peek
  !(isGap c || isIndicator c) ||
    (!isGap (l.place.peekAt 1) && (c = '-' || (!l.inFlow && (c = '?' || c = ':'))))

/-- Read the next token, with those that are put in because of it. -/
def next (l : Lexer) : Except Fault Lexer := do
  let l ← (skipGaps (l.place.rest.length + 1) l).dropStale
  let column := l.place.column
  let l := l.closeBlocks (column < ·)
  let c := l.place
  let alone := isGap (c.peekAt 1)
  if c.rest.isEmpty then
    let l ← l.closeAll
    return { l.add .streamEnd with done := true }
  else if c.peek = '%' && column = 0 then
    let l ← l.closeAll
    let (d, after) ← directive c
    return l.addAt (.directive d) after
  else if column = 0 && c.atMark '-' then
    return (← l.closeAll).addAt .documentStart (c.skip 3)
  else if column = 0 && c.atMark '.' then
    return (← l.closeAll).addAt .documentEnd (c.skip 3)
  else match c.peek with
    | '[' => l.openFlow .openSequence
    | '\x7b' => l.openFlow .openMapping
    | ']' => l.closeFlow .closeSequence
    | '\x7d' => l.closeFlow .closeMapping
    | ',' => return (← { l with allowsKey := true }.dropKey).addMark .comma
    | '*' => l.inKey fun c => (anchorName c).map fun (s, c) => (.alias s, c)
    | '&' => l.inKey fun c => (anchorName c).map fun (s, c) => (.anchor s, c)
    | '!' => l.inKey tag
    | '\'' | '"' => l.inKey fun c => (quoted c).map fun (s, c) => (.scalar s false, c)
    | x =>
      if x = '-' && alone then l.item
      else if x = '?' && (l.inFlow || alone) then l.key
      else if x = ':' && (l.inFlow || alone) then l.value
      else if x = '|' && !l.inFlow then l.blockText false
      else if x = '>' && !l.inFlow then l.blockText true
      else if l.startsPlain then l.plainText
      else throw .malformed

/-- The tokens before everything that could still become a key. -/
def settled (l : Lexer) : List Token :=
  let open? := (l.keys.filterMap fun k? => k?.map (·.token)).min?
  (l.taken.drop (l.count - (open?.getD l.count))).reverse

def run : Nat → Lexer → List Token × Option Fault
  | 0, l => (l.settled, none)
  | fuel + 1, l =>
    if l.done then (l.taken.reverse, none)
    else
      match l.dropStale with
      | .error e => (l.settled, some e)
      | .ok l =>
        match l.next with
        | .error e => (l.settled, some e)
        | .ok l => run fuel l

end Lexer

/-- The tokens of a document up to its first fault. A byte order mark at the
    start is passed over. -/
def tokens (s : List Char) : List Token × Option Fault :=
  let c : Cursor := { rest := s }
  Lexer.run (s.length + 2) { place := if c.peek = '\ufeff' then c.advance else c }

end SuiteExplorer.Yaml
