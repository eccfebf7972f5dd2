/-
  SuiteExplorer/Value/Yaml/Number.lean
  ====================================
  Numbers of documents: integers to the bases 2, 8, 10 and 16, numbers with a
  point, and both of them to base 60 between colons. What looks like no number
  can still be tagged as one, and is then turned down by its wording.
-/
import SuiteExplorer.Number.Binary64
import SuiteExplorer.Text.Blank
import SuiteExplorer.Text.Digit
import SuiteExplorer.Text.Lower
import SuiteExplorer.Text.Quoted
import SuiteExplorer.Value.Yaml.Tag
import SuiteExplorer.Value.Yaml.Token

namespace SuiteExplorer.Yaml

/-- A number with its sign, the sign being one of `+` and `-`. -/
def splitSign (s : List Char) : Bool × List Char := (s.head? = some '-', unsigned s)

/-! ## 1. Integers -/

/-- A digit to a base, in any script. -/
def digit? (base : Nat) (c : Char) : Option Nat :=
  ((Text.digitValue? c).or (Text.hexValue? c)).filter (· < base)

/-- The letter that may mark a base. -/
def baseLetter (base : Nat) : List Char :=
  if base = 2 then ['b', 'B'] else if base = 8 then ['o', 'O'] else if base = 16 then ['x', 'X'] else []

def integer (base : Nat) (s : List Char) : Except Fault Int :=
  let wrong : Fault :=
    let literal := Text.quoted (String.ofList s)
    .invalid (s!"invalid literal for int() with base {base}: " ++
      String.ofList (literal.toList.take 200))
  let (negative, body) := splitSign (Text.trim s)
  let digits := match body with
    | '0' :: letter :: rest => if (baseLetter base).contains letter then rest else body
    | _ => body
  match digits.mapM (digit? base) with
  | none => .error wrong
  | some ds =>
    if ds.isEmpty then .error wrong
    else if base = 10 && digitLimit < ds.length then .error (tooManyDigits ds.length)
    else
      let n : Nat := ds.foldl (fun n d => base * n + d) 0
      .ok (if negative then -n else n)

/-- The parts of a number to base 60 put together, the first one counting most. -/
def sexagesimal (parts : List Int) : Int := parts.foldl (fun n d => 60 * n + d) 0

def readInt (text : String) : Except Fault Int := do
  let s := text.toList.filter (· ≠ '_')
  if s.isEmpty then throw .emptyNumber
  let (negative, s) := splitSign s
  let n ← match s with
    | [] => throw .emptyNumber
    | ['0'] => pure 0
    | '0' :: 'b' :: rest => integer 2 rest
    | '0' :: 'x' :: rest => integer 16 rest
    | '0' :: _ => integer 8 s
    | _ =>
      if s.contains ':' then sexagesimal <$> (colonParts s).mapM (integer 10)
      else integer 10 s
  return if negative then -n else n

/-! ## 2. Numbers with a point -/

/-- The digits at the front, of any script. -/
def digitsOf (s : List Char) : List Nat := (s.takeWhile Text.isDecimal).filterMap Text.digitValue?

def exponent? (s : List Char) : Option Int :=
  match s with
  | [] => some 0
  | e :: rest =>
    let (negative, digits) := splitSign rest
    let ds := digitsOf digits
    if e = 'e' && !ds.isEmpty && ds.length = digits.length then
      let n : Nat := ds.foldl (fun n d => 10 * n + d) 0
      some (if negative then -n else n)
    else none

/-- A number in digits, perhaps with a point and an exponent; or its name. -/
def unsignedFloat? (negative : Bool) (s : List Char) : Option Binary64 :=
  match String.ofList s with
  | "inf" | "infinity" => some (.infinite negative)
  | "nan" => some .nan
  | _ => do
    let whole := digitsOf s
    let rest := s.drop whole.length
    let places := match rest with
      | '.' :: rest => digitsOf rest
      | _ => []
    let rest := match rest with
      | '.' :: rest => rest.drop places.length
      | _ => rest
    if whole.isEmpty && places.isEmpty then none
    else
      let e ← exponent? rest
      some (.ofDecimal negative ((whole ++ places).foldl (fun n d => 10 * n + d) 0)
        (e - places.length))

def decimal (s : List Char) : Except Fault Binary64 :=
  let (negative, body) := splitSign (Text.trim s)
  match unsignedFloat? negative body with
  | some x => .ok x
  | none => .error (.invalid
      ("could not convert string to float: " ++ Text.quoted (String.ofList s)))

/-- Parts of a number to base 60 put together: each is multiplied by its power
    of 60, and they are added up from the last one on. -/
def sexagesimalSum : Nat → Binary64 → List Binary64 → Except Fault Binary64
  | _, sum, [] => .ok sum
  | base, sum, part :: rest =>
    match Binary64.ofInt base with
    | .infinite _ => .error .tooLarge
    | scale => sexagesimalSum (60 * base) (sum.add (part.mul scale)) rest

def readFloat (text : String) : Except Fault Binary64 := do
  let s := (Text.lower (String.ofList (text.toList.filter (· ≠ '_')))).toList
  if s.isEmpty then throw .emptyNumber
  let (negative, s) := splitSign s
  let x ← match String.ofList s with
    | ".inf" => pure (.infinite false)
    | ".nan" => pure .nan
    | _ =>
      if s.contains ':' then do
        sexagesimalSum 1 (.ofInt 0) (← (colonParts s).mapM decimal).reverse
      else decimal s
  return if negative then x.neg else x

end SuiteExplorer.Yaml
