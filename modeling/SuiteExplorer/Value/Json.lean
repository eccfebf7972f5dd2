/-
  SuiteExplorer/Value/Json.lean
  =============================
  Reading a value from JSON text, as settings in the environment give it. The
  whole text has to be one value; a repeated key keeps its last value. Each
  reader takes what it reads off the front and gives back the rest.
-/
import SuiteExplorer.Text.Digit
import SuiteExplorer.Value.Basic

namespace SuiteExplorer.Json

/-- Blanks between the parts of a value. -/
def isBlank (c : Char) : Bool := c = ' ' || c = '\t' || c = '\n' || c = '\r'

def skipBlanks (s : List Char) : List Char := s.dropWhile isBlank

def unit? : List Char → Option (Nat × List Char)
  | a :: b :: c :: d :: rest => do
    let a ← Text.hexValue? a
    let b ← Text.hexValue? b
    let c ← Text.hexValue? c
    let d ← Text.hexValue? d
    some (((a * 16 + b) * 16 + c) * 16 + d, rest)
  | _ => none

/-- The character behind `\u`, two units making one if they belong together. -/
def escapedUnit? (s : List Char) : Option (Char × List Char) := do
  let (n, rest) ← unit? s
  let single := (Char.ofNat n, rest)
  if 0xD800 ≤ n && n < 0xDC00 then
    match rest with
    | '\\' :: 'u' :: more =>
      match unit? more with
      | some (m, rest') =>
        if 0xDC00 ≤ m && m < 0xE000 then
          some (Char.ofNat (0x10000 + (n - 0xD800) * 0x400 + (m - 0xDC00)), rest')
        else some single
      | none => some single
    | _ => some single
  else some single

/-- The character behind a backslash other than `u`. -/
def escaped? : Char → Option Char
  | '"' => some '"'
  | '\\' => some '\\'
  | '/' => some '/'
  | 'b' => some (Char.ofNat 8)
  | 'f' => some (Char.ofNat 12)
  | 'n' => some '\n'
  | 'r' => some '\r'
  | 't' => some '\t'
  | _ => none

def string? : Nat → List Char → Option (List Char × List Char)
  | 0, _ => none
  | _, [] => none
  | fuel + 1, c :: rest =>
    if c = '"' then some ([], rest)
    else if c.toNat < 32 then none
    else if c = '\\' then
      match rest with
      | 'u' :: more => do
        let (c, rest) ← escapedUnit? more
        let (s, rest) ← string? fuel rest
        some (c :: s, rest)
      | e :: more => do
        let c ← escaped? e
        let (s, rest) ← string? fuel more
        some (c :: s, rest)
      | [] => none
    else do
      let (s, rest) ← string? fuel rest
      some (c :: s, rest)

def numberOf (digits : List Char) : Nat :=
  digits.foldl (fun n c => n * 10 + (c.toNat - 48)) 0

/-- The digits behind a decimal point, with the point. -/
def fraction : List Char → List Char × List Char
  | '.' :: rest =>
    match rest.takeWhile (·.isDigit) with
    | [] => ([], '.' :: rest)
    | digits => ('.' :: digits, rest.dropWhile (·.isDigit))
  | s => ([], s)

/-- An exponent, with its letter. -/
def exponent (s : List Char) : List Char × List Char :=
  match s with
  | e :: rest =>
    if e = 'e' || e = 'E' then
      let sign := match rest with
        | '+' :: _ | '-' :: _ => rest.take 1
        | _ => []
      let body := rest.drop sign.length
      match body.takeWhile (·.isDigit) with
      | [] => ([], s)
      | digits => (e :: sign ++ digits, body.dropWhile (·.isDigit))
    else ([], s)
  | [] => ([], [])

/-- How many digits an integer may have. -/
def digitLimit : Nat := 4300

def numberValue? (negative : Bool) (whole frac exp : List Char) : Option Value :=
  if frac.isEmpty && exp.isEmpty then
    let n : Int := numberOf whole
    if digitLimit < whole.length then none else some (.int (if negative then -n else n))
  else
    let places := frac.drop 1
    let size : Int := numberOf (exp.filter (·.isDigit))
    some (.float (.ofDecimal negative (numberOf (whole ++ places))
      ((if exp.contains '-' then -size else size) - places.length)))

/-- A number: no leading zeros, no leading plus. -/
def number? (s : List Char) : Option (Value × List Char) :=
  let (sign, body) := match s with
    | '-' :: rest => (['-'], rest)
    | _ => ([], s)
  let digits := body.takeWhile (·.isDigit)
  let whole := match digits with
    | '0' :: _ => ['0']
    | _ => digits
  if whole.isEmpty then none
  else
    let (frac, rest) := fraction (body.drop whole.length)
    let (exp, rest) := exponent rest
    (numberValue? (!sign.isEmpty) whole frac exp).map fun v => (v, rest)

/-- A word that stands for a value. -/
def word? (word : String) (value : Value) (s : List Char) : Option (Value × List Char) :=
  if word.toList.isPrefixOf s then some (value, s.drop word.length) else none

mutual

/-- A value at the front of a text. -/
def value? : Nat → List Char → Option (Value × List Char)
  | 0, _ => none
  | fuel + 1, s =>
    match s with
    | '"' :: rest => do
      let (chars, rest) ← string? (rest.length + 1) rest
      some (.text (String.ofList chars), rest)
    | '[' :: rest =>
      match skipBlanks rest with
      | ']' :: rest => some (.list [], rest)
      | more => do
        let (items, rest) ← items? fuel more
        some (.list items, rest)
    | '\x7b' :: rest =>
      match skipBlanks rest with
      | '\x7d' :: rest => some (.map [], rest)
      | more => do
        let (entries, rest) ← entries? fuel more
        some (.ofEntries entries, rest)
    | 'n' :: _ => word? "null" .null s
    | 't' :: _ => word? "true" (.bool true) s
    | 'f' :: _ => word? "false" (.bool false) s
    | 'N' :: _ => word? "NaN" (.float .nan) s
    | 'I' :: _ => word? "Infinity" (.float (.infinite false)) s
    | '-' :: 'I' :: _ => word? "-Infinity" (.float (.infinite true)) s
    | _ => number? s

def items? : Nat → List Char → Option (List Value × List Char)
  | 0, _ => none
  | fuel + 1, s => do
    let (v, rest) ← value? fuel (skipBlanks s)
    match skipBlanks rest with
    | ',' :: rest =>
      let (more, rest) ← items? fuel rest
      some (v :: more, rest)
    | ']' :: rest => some ([v], rest)
    | _ => none

def entries? : Nat → List Char → Option (Entries × List Char)
  | 0, _ => none
  | fuel + 1, s =>
    match skipBlanks s with
    | '"' :: rest => do
      let (key, rest) ← string? (rest.length + 1) rest
      match skipBlanks rest with
      | ':' :: rest =>
        let (v, rest) ← value? fuel (skipBlanks rest)
        match skipBlanks rest with
        | ',' :: rest =>
          let (more, rest) ← entries? fuel rest
          some ((.text (String.ofList key), v) :: more, rest)
        | '\x7d' :: rest => some ([(.text (String.ofList key), v)], rest)
        | _ => none
      | _ => none
    | _ => none

end

/-- Read a text that is one value from end to end. -/
def ofString? (s : String) : Option Value := do
  let chars := skipBlanks s.toList
  let (v, rest) ← value? (2 * chars.length + 2) chars
  if (skipBlanks rest).isEmpty then some v else none

end SuiteExplorer.Json
