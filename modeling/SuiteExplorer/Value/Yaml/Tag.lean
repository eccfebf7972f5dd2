/-
  SuiteExplorer/Value/Yaml/Tag.lean
  =================================
  Tags say what a node of a document means. A plain text without a tag is taken
  for what it looks like: a number, a truth value, a moment, nothing, or one of
  the two marks that mappings know; else it is a text.
-/
import SuiteExplorer.Text.Digit
import SuiteExplorer.Value.Moment
import SuiteExplorer.Value.Yaml.Cursor

namespace SuiteExplorer.Yaml

inductive Tag where
  | null
  | bool
  | int
  | float
  | binary
  | timestamp
  | omap
  | pairs
  | set
  | str
  | seq
  | map
  /-- entries of other mappings are put in here -/
  | merge
  /-- the key of the value that stands for the whole mapping -/
  | value
  | unknown
deriving Repr, DecidableEq, Inhabited

namespace Tag

/-- How the tags begin that every document knows. -/
def commonStart : String := "tag:yaml.org,2002:"

def names : List (String × Tag) :=
  [("null", null), ("bool", bool), ("int", int), ("float", float), ("binary", binary),
    ("timestamp", timestamp), ("omap", omap), ("pairs", pairs), ("set", set), ("str", str),
    ("seq", seq), ("map", map), ("merge", merge), ("value", value)]

def ofString (s : String) : Tag :=
  if s.startsWith commonStart then
    (names.lookup (String.ofList (s.toList.drop commonStart.length))).getD unknown
  else unknown

end Tag

/-! ## 1. Numbers by their looks -/

/-- A text without its sign. -/
def unsigned (s : List Char) : List Char :=
  match s with
  | '+' :: rest | '-' :: rest => rest
  | _ => s

def isDigitOrLine (c : Char) : Bool := c.isDigit || c = '_'

/-- A number that begins with a digit, underscores between its digits. -/
def isSpaced (s : List Char) : Bool :=
  (s.head?.map (·.isDigit)).getD false && s.all isDigitOrLine

/-- A part of a number to base 60 behind its first part: below 60, in one or two
    digits. -/
def isSixtieth (s : List Char) : Bool :=
  match s with
  | [a] => a.isDigit
  | [a, b] => '0' ≤ a && a ≤ '5' && b.isDigit
  | _ => false

/-- The parts of a text between colons. -/
def colonParts (s : List Char) : List (List Char) :=
  match s with
  | [] => [[]]
  | ':' :: rest => [] :: colonParts rest
  | c :: rest =>
    match colonParts rest with
    | [] => [[c]]
    | part :: more => (c :: part) :: more

def isSexagesimal (s : List Char) : Bool :=
  match colonParts s with
  | first :: second :: more => isSpaced first && (second :: more).all isSixtieth
  | _ => false

/-- An exponent with its letter and its sign, or nothing. -/
def isExponent (s : List Char) : Bool :=
  match s with
  | [] => true
  | e :: sign :: digits =>
    (e = 'e' || e = 'E') && (sign = '+' || sign = '-') && !digits.isEmpty && digits.all (·.isDigit)
  | _ => false

def isInt (s : List Char) : Bool :=
  let s := unsigned s
  match s with
  | '0' :: 'b' :: rest => !rest.isEmpty && rest.all fun c => c = '0' || c = '1' || c = '_'
  | '0' :: 'x' :: rest => !rest.isEmpty && rest.all fun c => (Text.hexValue? c).isSome || c = '_'
  | '0' :: rest => rest.all fun c => ('0' ≤ c && c ≤ '7') || c = '_'
  | _ => isSpaced s || isSexagesimal s

def isFloat (signed : List Char) : Bool :=
  let s := unsigned signed
  let before := s.takeWhile (· ≠ '.')
  match s.drop before.length with
  | [] => false
  | _ :: after =>
    let places := after.takeWhile isDigitOrLine
    let ending := after.drop places.length
    if before.isEmpty then
      (s == signed && (places.head?.map (·.isDigit)).getD false && isExponent ending) ||
        ["inf", "Inf", "INF"].contains (String.ofList after) ||
        (s == signed && ["nan", "NaN", "NAN"].contains (String.ofList after))
    else (isSpaced before && isExponent ending) || (isSexagesimal before && ending.isEmpty)

/-! ## 2. Moments by their looks -/

/-- A moment as it is written: the numbers are not yet checked. -/
structure WrittenMoment where
  moment : Moment
  /-- month and day have two digits each -/
  isFull : Bool

/-- Digits at the front, between `least` and `most` of them. -/
def digitsBetween? (least most : Nat) (s : List Char) : Option (List Char × List Char) :=
  let digits := (s.take most).takeWhile (·.isDigit)
  if least ≤ digits.length then some (digits, s.drop digits.length) else none

def numberOf (digits : List Char) : Nat := digits.foldl (fun n d => 10 * n + (d.toNat - 48)) 0

/-- A character at the front that has to be there. -/
def after? (c : Char) : List Char → Option (List Char)
  | x :: rest => if x = c then some rest else none
  | [] => none

/-- How far a time is ahead of universal time, in seconds: to the end of the
    text, or nothing. -/
def ahead? (s : List Char) : Option (Option Int) :=
  match s, s.dropWhile fun c => c = ' ' || c = '\t' with
  | [], _ => some none
  | _, ['Z'] => some (some 0)
  | _, sign :: rest => do
    if sign ≠ '+' && sign ≠ '-' then none
    else
      let (hours, rest) ← digitsBetween? 1 2 rest
      let minutes ← match rest with
        | [] => some []
        | _ => do
          let (minutes, rest) ← digitsBetween? 2 2 (← after? ':' rest)
          if rest.isEmpty then some minutes else none
      let seconds : Int := (60 * numberOf hours + numberOf minutes) * 60
      some (some (if sign = '-' then -seconds else seconds))
  | _, [] => none

/-- The time of a moment: to the end of the text. -/
def clock? (s : List Char) : Option Clock := do
  let (hour, s) ← digitsBetween? 1 2 s
  let (minute, s) ← digitsBetween? 2 2 (← after? ':' s)
  let (second, s) ← digitsBetween? 2 2 (← after? ':' s)
  let places := match s with
    | '.' :: rest => rest.takeWhile (·.isDigit)
    | _ => []
  let rest := match s with
    | '.' :: rest => rest.drop places.length
    | _ => s
  let ahead ← ahead? rest
  let micro := (places ++ List.replicate 6 '0').take 6
  some ⟨numberOf hour, numberOf minute, numberOf second, numberOf micro, ahead⟩

/-- A moment: a day, then perhaps a time behind a `T` or blanks. -/
def moment? (s : List Char) : Option WrittenMoment := do
  let (year, s) ← digitsBetween? 4 4 s
  let (month, s) ← digitsBetween? 1 2 (← after? '-' s)
  let (day, s) ← digitsBetween? 1 2 (← after? '-' s)
  let date : Moment := ⟨numberOf year, numberOf month, numberOf day, none⟩
  let full := month.length = 2 && day.length = 2
  match s with
  | [] => some ⟨date, full⟩
  | c :: rest =>
    let time ← if c = 'T' || c = 't' then some rest
      else if c = ' ' || c = '\t' then some (rest.dropWhile fun c => c = ' ' || c = '\t')
      else none
    let clock ← clock? time
    some ⟨{ date with clock := some clock }, full⟩

/-- What looks for the end of a text also finds it before a last line feed. -/
def withoutLastFeed (s : List Char) : List Char :=
  if s.getLast? = some '\n' then s.dropLast else s

/-- A moment by its looks: a day alone is written with two digits each for
    month and day. -/
def isMoment (s : List Char) : Bool :=
  match moment? s with
  | some w => w.isFull || w.moment.clock.isSome
  | none => false

/-! ## 3. Plain texts -/

/-- The words that stand for a truth value. -/
def truthWords : List String :=
  ["yes", "Yes", "YES", "no", "No", "NO", "true", "True", "TRUE", "false", "False", "FALSE",
    "on", "On", "ON", "off", "Off", "OFF"]

def Tag.ofPlain (text : String) : Tag :=
  let s := withoutLastFeed text.toList
  let word := String.ofList s
  if text = "" then .null
  else if s.isEmpty then .str
  else if truthWords.contains word then .bool
  else if isFloat s then .float
  else if isInt s then .int
  else if word = "<<" then .merge
  else if ["~", "null", "Null", "NULL"].contains word then .null
  else if isMoment s then .timestamp
  else if word = "=" then .value
  else if ["!", "&", "*"].contains word then .unknown
  else .str

end SuiteExplorer.Yaml
