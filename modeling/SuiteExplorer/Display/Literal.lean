/-
  SuiteExplorer/Display/Literal.lean
  ==================================
  What may be given to a handler: numbers, quoted texts, the three words `None`,
  `True` and `False`, the ellipsis, and collections of them in parentheses or
  braces. Nothing is made of the values; it is only read whether a text writes
  one. Each reader takes what it reads off the front and gives back the rest.
-/
import SuiteExplorer.Text.Blank
import SuiteExplorer.Text.Digit
import SuiteExplorer.Text.Lines

namespace SuiteExplorer.Display

/-- What kind of value a text writes, as far as it matters to what may stand
    around it. -/
inductive LiteralKind where
  | real
  | imaginary
  | signed
  | text
  | bytes
  /-- any other that may be an element of a set -/
  | firm
  /-- a set or a mapping, or a row that holds one -/
  | loose
deriving Repr, DecidableEq

namespace Literal

/-! ## 1. Gaps and words -/

/-- Go past blanks and remarks, within brackets past line ends as well. -/
def skipGap (inBrackets inRemark : Bool) : List Char → List Char
  | [] => []
  | c :: rest =>
    let endsLine := c = '\n' || c = '\r'
    if inRemark && !endsLine then skipGap inBrackets true rest
    else if c = ' ' || c = '\t' || c = '\x0c' || (inBrackets && endsLine) then
      skipGap inBrackets false rest
    else if c = '#' then skipGap inBrackets true rest
    else c :: rest

def isWordChar (c : Char) : Bool := c.isAlphanum || c = '_' || 0x80 ≤ c.toNat

/-! ## 2. Texts -/

/-- What follows a backslash is right, the backslash not being part of the text. -/
def checksEscape (isBytes : Bool) (c : Char) (rest : List Char) : Bool :=
  let hex := fun n => (rest.take n).length = n && (Text.hexNumber? (rest.take n)).isSome
  if c = 'x' then hex 2
  else if isBytes then c.toNat < 0x80
  else if c = 'u' then hex 4
  else if c = 'U' then hex 8 && (Text.hexNumber? (rest.take 8)).any (· < 0x110000)
  else c ≠ 'N'

/-- Go past a text up to its closing quotes: one, or three. -/
def skipText (isRaw isBytes isLong : Bool) (quote : Char) : List Char → Option (List Char)
  | [] => none
  | [c] => if c = quote && !isLong then some [] else none
  | '\\' :: c :: rest =>
    if isRaw || checksEscape isBytes c rest then skipText isRaw isBytes isLong quote rest else none
  | c :: rest =>
    if c = quote && !isLong then some rest
    else if c = quote && [quote, quote].isPrefixOf rest then some (rest.drop 2)
    else if (c = '\n' && !isLong) || (isBytes && 0x80 ≤ c.toNat) then none
    else skipText isRaw isBytes isLong quote rest

/-- The letters that may stand before a quote: which say that the text is raw,
    that it is made of bytes, or nothing. -/
def textMarks : List (String × Bool × Bool) :=
  [("", false, false), ("r", true, false), ("b", false, true), ("u", false, false),
    ("br", true, true), ("rb", true, true)]

def quotedText? (s : List Char) : Option (LiteralKind × List Char) := do
  let mark := s.takeWhile fun c => c.isAlpha
  let (_, isRaw, isBytes) ← textMarks.find? fun m => m.1.toList = mark.map (·.toLower)
  let quote :: rest := s.drop mark.length | none
  if quote ≠ '\'' && quote ≠ '"' then none
  else
    let isLong := [quote, quote].isPrefixOf rest
    let rest ← skipText isRaw isBytes isLong quote (if isLong then rest.drop 2 else rest)
    some (if isBytes then .bytes else .text, rest)

/-! ## 3. Numbers -/

/-- Digits, in which single underscores may stand. -/
def areDigits (s : List Char) : Bool :=
  (Text.cutAt '_' s).all fun part => !part.isEmpty && part.all (·.isDigit)

def skipFraction : List Char → List Char × Bool × Bool
  | '.' :: rest =>
    let digits := rest.takeWhile fun c => c.isDigit || c = '_'
    (rest.drop digits.length, true, digits.isEmpty || areDigits digits)
  | s => (s, false, true)

def skipExponent (s : List Char) : List Char × Bool × Bool :=
  match s with
  | e :: rest =>
    if e = 'e' || e = 'E' then
      let unsigned := match rest with
        | '+' :: more | '-' :: more => more
        | _ => rest
      let digits := unsigned.takeWhile fun c => c.isDigit || c = '_'
      (unsigned.drop digits.length, true, areDigits digits)
    else (s, false, true)
  | [] => (s, false, true)

def basedNumber? (base : Nat) (s : List Char) : Option (LiteralKind × List Char) :=
  let digits := s.takeWhile isWordChar
  let parts := Text.cutAt '_' digits
  let parts := if digits.head? = some '_' then parts.drop 1 else parts
  if parts.all fun part => !part.isEmpty && part.all fun c => (Text.hexValue? c).any (· < base) then
    some (.real, s.drop digits.length)
  else none

/-- The longest integer that is read, in digits. -/
def integerLimit : Nat := 4300

def decimalNumber? (s : List Char) : Option (LiteralKind × List Char) :=
  let digits := s.takeWhile fun c => c.isDigit || c = '_'
  let (rest, hasPoint, fractionFits) := skipFraction (s.drop digits.length)
  let hasFraction := (s.drop (digits.length + 1)).head?.any (·.isDigit)
  let (rest, hasExponent, exponentFits) := skipExponent rest
  let isImaginary := rest.head? = some 'j' || rest.head? = some 'J'
  let rest := if isImaginary then rest.drop 1 else rest
  let wholeFits := if digits.isEmpty then hasPoint && hasFraction else areDigits digits
  let counted := digits.filter (·.isDigit)
  let isWhole := !hasPoint && !hasExponent && !isImaginary
  let isPlain := counted.head? ≠ some '0' || counted.all (· = '0')
  if !wholeFits || !fractionFits || !exponentFits || rest.head?.any isWordChar then none
  else if isWhole && (!isPlain || integerLimit < counted.length) then none
  else some (if isImaginary then .imaginary else .real, rest)

def number? : List Char → Option (LiteralKind × List Char)
  | '0' :: c :: rest =>
    if c = 'x' || c = 'X' then basedNumber? 16 rest
    else if c = 'o' || c = 'O' then basedNumber? 8 rest
    else if c = 'b' || c = 'B' then basedNumber? 2 rest
    else decimalNumber? ('0' :: c :: rest)
  | s => decimalNumber? s

/-! ## 4. Values -/

def rowKind (kinds : List LiteralKind) : LiteralKind :=
  if kinds.contains .loose then .loose else .firm

mutual

/-- Read a value that is no sum and has no sign. `fuel` bounds the steps. -/
def atom? : Nat → Bool → List Char → Option (LiteralKind × List Char)
  | 0, _, _ => none
  | fuel + 1, inBrackets, s =>
    match s with
    | '(' :: rest => do
      let (kinds, isRow, rest) ← row? fuel true [] false (skipGap true false rest)
      match rest, kinds with
      | ')' :: rest, [kind] => some (if isRow then rowKind [kind] else kind, rest)
      | ')' :: rest, kinds => some (rowKind kinds, rest)
      | _, _ => none
    | '{' :: rest => braces? fuel none (skipGap true false rest)
    | '.' :: '.' :: '.' :: rest => some (.firm, rest)
    | c :: _ =>
      if c.isDigit || c = '.' then number? s
      else match quotedText? s with
        | some (kind, rest) => texts? fuel inBrackets kind rest
        | none =>
          let word := s.takeWhile isWordChar
          let rest := s.drop word.length
          if ["None", "True", "False"].contains (String.ofList word) then some (.firm, rest)
          else if word = "set".toList then
            match skipGap inBrackets false rest with
            | '(' :: rest =>
              match skipGap true false rest with
              | ')' :: rest => some (.loose, rest)
              | _ => none
            | _ => none
          else none
    | [] => none

/-- Read the quoted texts that follow another one and make one text with it. -/
def texts? : Nat → Bool → LiteralKind → List Char → Option (LiteralKind × List Char)
  | 0, _, _, _ => none
  | fuel + 1, inBrackets, kind, s =>
    match quotedText? (skipGap inBrackets false s) with
    | some (next, rest) => if next = kind then texts? fuel inBrackets kind rest else none
    | none => some (kind, s)

/-- Read a value: with a sign, if it is a number, or the sum of a real and an
    imaginary number. -/
def value? : Nat → Bool → List Char → Option (LiteralKind × List Char)
  | 0, _, _ => none
  | fuel + 1, inBrackets, s => do
    let (kind, rest) ← match s with
      | c :: rest =>
        if c = '+' || c = '-' then do
          let (kind, rest) ← atom? fuel inBrackets (skipGap inBrackets false rest)
          match kind with
          | .real => some (.signed, rest)
          | .imaginary => some (.firm, rest)
          | _ => none
        else atom? fuel inBrackets s
      | [] => none
    match skipGap inBrackets false rest with
    | c :: more =>
      if c = '+' || c = '-' then do
        let (right, rest) ← atom? fuel inBrackets (skipGap inBrackets false more)
        if (kind = .real || kind = .signed) && right = .imaginary then some (.firm, rest) else none
      else some (kind, rest)
    | [] => some (kind, rest)

/-- Read values with commas between them, up to what is neither. `kinds` are
    those read so far, `isRow` says whether there was a comma. -/
def row? : Nat → Bool → List LiteralKind → Bool → List Char →
    Option (List LiteralKind × Bool × List Char)
  | 0, _, _, _, _ => none
  | fuel + 1, inBrackets, kinds, isRow, s =>
    if s.isEmpty || s.head? = some ')' then some (kinds, isRow, s)
    else do
      let (kind, rest) ← value? fuel inBrackets s
      match skipGap inBrackets false rest with
      | ',' :: rest => row? fuel inBrackets (kinds ++ [kind]) true (skipGap inBrackets false rest)
      | rest => some (kinds ++ [kind], isRow, rest)

/-- Read the inside of braces and the closing one. It is known from the first
    element on whether it is a mapping. -/
def braces? : Nat → Option Bool → List Char → Option (LiteralKind × List Char)
  | 0, _, _ => none
  | fuel + 1, isMap?, s =>
    match s with
    | '}' :: rest => some (.loose, rest)
    | _ => do
      let (kind, rest) ← value? fuel true s
      let rest := skipGap true false rest
      let (isMap, rest) ← match rest with
        | ':' :: more => do
          let (_, rest) ← value? fuel true (skipGap true false more)
          some (true, skipGap true false rest)
        | _ => some (false, rest)
      if kind = .loose || isMap?.any (· ≠ isMap) then none
      else match rest with
        | ',' :: more => braces? fuel (some isMap) (skipGap true false more)
        | '}' :: more => some (.loose, more)
        | _ => none

end

end Literal

/-- A text writes a value, or several with commas between them. -/
def isLiteral (s : List Char) : Bool :=
  match Literal.row? (2 * s.length + 2) false [] false (Literal.skipGap false false s) with
  | some (kinds, _, rest) => !kinds.isEmpty && rest.isEmpty
  | none => false

end SuiteExplorer.Display
