/-
  SuiteExplorer/Text/Format.lean
  ==============================
  Formats of texts, such as `*^10.3`: a fill character and an alignment, a
  width, and the greatest number of characters that are kept. What only numbers
  can have (a sign, separators, padding after the sign) is read as well, so that
  it can be turned down by name.
-/
import SuiteExplorer.Text.Digit
import SuiteExplorer.Text.Quoted

namespace SuiteExplorer.Text

inductive FormatFault where
  | invalid (format : String)
  | tooManyDigits
  | noPrecision
  | bothSeparators
  | badSeparator (separator letter : Char)
  | unknownLetter (letter : Char)
  | space
  | sign
  | negativeZero
  | alternate
  | equals
deriving Repr, DecidableEq

namespace FormatFault

/-- A character in a message: one between the blank and `bound` as it is, any
    other one by its number. -/
def shown (c : Char) (bound : Nat := 128) : String :=
  if 32 < c.toNat && c.toNat < bound then String.singleton c
  else
    let digits := (hexDigits 8 c.toNat).dropWhile (· = '0')
    "\\x" ++ String.ofList (if digits.isEmpty then ['0'] else digits)

def message : FormatFault → String
  | invalid format => s!"Invalid format specifier '{format}' for object of type 'str'"
  | tooManyDigits => "Too many decimal digits in format string"
  | noPrecision => "Format specifier missing precision"
  | bothSeparators => "Cannot specify both ',' and '_'."
  | badSeparator s c => "Cannot specify '" ++ String.singleton s ++ "' with '" ++ shown c ++ "'."
  | unknownLetter c => "Unknown format code '" ++ shown c ++ "' for object of type 'str'"
  | space => "Space not allowed in string format specifier"
  | sign => "Sign not allowed in string format specifier"
  | negativeZero => "Negative zero coercion (z) not allowed in string format specifier"
  | alternate => "Alternate form (#) not allowed in string format specifier"
  | equals => "'=' alignment not allowed in string format specifier"

end FormatFault

/-! ## 1. Numbers -/

def numberBound : Nat := 0x8000000000000000

/-! ## 2. Reading a format -/

structure Format where
  fill : Char := ' '
  alignment : Option Char := none
  sign : Option Char := none
  negativeZero : Bool := false
  alternate : Bool := false
  width : Option Nat := none
  separator : Option Char := none
  precision : Option Nat := none
  letter : Char := 's'
deriving Repr, DecidableEq

namespace Format

abbrev Result := Except FormatFault

def isAlignment (c : Char) : Bool := c = '<' || c = '>' || c = '^' || c = '='

def isSign (c : Char) : Bool := c = ' ' || c = '+' || c = '-'

/-- Take a character off the front, if it is one that is accepted. -/
def takeIf (accept : Char → Bool) : List Char → Option Char × List Char
  | c :: rest => if accept c then (some c, rest) else (none, c :: rest)
  | [] => (none, [])

/-- The fill character, if one is given, and the alignment. -/
def readAlignment (s : List Char) : Option Char × Option Char × List Char :=
  match s with
  | c :: d :: rest =>
    if isAlignment d then (some c, some d, rest) else (none, takeIf isAlignment s)
  | _ => (none, takeIf isAlignment s)

def readNumber (s : List Char) : Result (Option Nat × List Char) :=
  let digits := s.takeWhile isDecimal
  let n? := decimal? digits
  if n?.any (numberBound ≤ ·) then .error .tooManyDigits else .ok (n?, s.drop digits.length)

/-- A separator of thousands; there is no more than one. -/
def readSeparator (s : List Char) : Result (Option Char × List Char) :=
  let (comma, s) := takeIf (· = ',') s
  let (line, s) := takeIf (· = '_') s
  if line.isSome && (comma.isSome || s.head? = some ',') then .error .bothSeparators
  else .ok (comma.or line, s)

def readPrecision : List Char → Result (Option Nat × List Char)
  | '.' :: rest => do
    match ← readNumber rest with
    | (none, _) => throw .noPrecision
    | found => return found
  | s => .ok (none, s)

/-- The letters that go with a separator. -/
def takesSeparator (separator letter : Char) : Bool :=
  "defgEG%F".toList.contains letter || (separator = '_' && "boxX".toList.contains letter)

def ofChars (whole : List Char) : Result Format := do
  let (fill, alignment, s) := readAlignment whole
  let (sign, s) := takeIf isSign s
  let (z, s) := takeIf (· = 'z') s
  let (hash, s) := takeIf (· = '#') s
  let (zero, s) := if fill.isSome then (none, s) else takeIf (· = '0') s
  let (width, s) ← readNumber s
  let (separator, s) ← readSeparator s
  let (precision, s) ← readPrecision s
  let letter ← match s with
    | [] => pure 's'
    | [c] => pure c
    | _ => throw (.invalid (String.ofList whole))
  if let some c := separator then
    if !takesSeparator c letter then throw (.badSeparator c letter)
  return { fill := fill.getD (zero.getD ' '), alignment := alignment, sign := sign
           negativeZero := z.isSome, alternate := hash.isSome, width := width
           separator := separator, precision := precision, letter := letter }

/-! ## 3. Applying a format -/

/-- What a format asks for that a text cannot have. -/
def fault? (f : Format) : Option FormatFault :=
  if f.letter ≠ 's' then some (.unknownLetter f.letter)
  else if f.sign = some ' ' then some .space
  else if f.sign.isSome then some .sign
  else if f.negativeZero then some .negativeZero
  else if f.alternate then some .alternate
  else if f.alignment = some '=' then some .equals
  else none

def pad (fill : Char) (alignment : Option Char) (width : Nat) (s : List Char) : List Char :=
  let missing := width - s.length
  let before := match alignment with
    | some '>' => missing
    | some '^' => missing / 2
    | _ => 0
  List.replicate before fill ++ s ++ List.replicate (missing - before) fill

def apply (f : Format) (s : List Char) : List Char :=
  let kept := match f.precision with
    | some n => s.take n
    | none => s
  pad f.fill f.alignment (f.width.getD 0) kept

/-- A text in a format as written. The empty format changes nothing. -/
def format (written : List Char) (s : List Char) : Result (List Char) :=
  if written.isEmpty then .ok s
  else do
    let f ← ofChars written
    match f.fault? with
    | some fault => throw fault
    | none => return f.apply s

end Format
end SuiteExplorer.Text
