/-
  SuiteExplorer/Text/Template.lean
  ================================
  Templates such as `^{qualified}$`: text with named fields between braces. A
  doubled brace stands for itself. A field may ask to be quoted (`!r`), for one
  of its characters (`[0]`), for what is known about it (`.__class__`) or for a
  format (`:>8`), which may be a template itself.

  A template is expanded from left to right, so the first thing wrong with it
  decides the error, and a fault behind a missing field is never seen.
-/
import SuiteExplorer.Text.Described
import SuiteExplorer.Text.Format

namespace SuiteExplorer.Text

inductive TemplateFault where
  | loneOpening
  | loneClosing
  | nestedOpening
  | unfinishedField
  | unfinishedConversion
  | badConversion (c : Char)
  | afterConversion
  | unfinishedFormat
  | emptyPart
  | unfinishedIndex
  | afterIndex
  | tooDeep
  | format (fault : FormatFault)
deriving Repr, DecidableEq

/-- Why a template could not be expanded. -/
inductive TemplateError where
  /-- there is no field of this name -/
  | missing (field : String)
  /-- a field without name, or with a number: there are no positional values -/
  | positional
  /-- there is no part of this name -/
  | noPart
  /-- a character was asked for by something other than a number -/
  | noIndex
  /-- a format was given for something other than a text -/
  | noFormat
  /-- a character beyond the end of the text was asked for -/
  | outOfRange
  | malformed (fault : TemplateFault)
deriving Repr, DecidableEq

def TemplateFault.message : TemplateFault → String
  | loneOpening => "Single '\x7b' encountered in format string"
  | loneClosing => "Single '\x7d' encountered in format string"
  | nestedOpening => "unexpected '\x7b' in field name"
  | unfinishedField => "expected '\x7d' before end of string"
  | unfinishedConversion => "end of string while looking for conversion specifier"
  | badConversion c => "Unknown conversion specifier " ++ FormatFault.shown c 127
  | afterConversion => "expected ':' after conversion specifier"
  | unfinishedFormat => "unmatched '\x7b' in format spec"
  | emptyPart => "Empty attribute in format string"
  | unfinishedIndex => "Missing ']' in format string"
  | afterIndex => "Only '.' or '[' may follow ']' in format field specifier"
  | tooDeep => "Max string recursion exceeded"
  | format f => f.message

/-- The wording of an error; of a missing field its name between quotes. -/
def TemplateError.message : TemplateError → String
  | missing field => quoted field
  | positional => "Replacement index 0 out of range for positional args tuple"
  | noPart => "a text has no parts with names"
  | noIndex => "string indices must be integers"
  | noFormat => "only a text has a format"
  | outOfRange => "string index out of range"
  | malformed f => f.message

namespace Template

abbrev Result := Except TemplateError

def fault (f : TemplateFault) : Result α := .error (.malformed f)

/-! ## 1. The parts of a field -/

/-- Cut a field's name off: up to a closing brace, a colon or an exclamation
    mark outside brackets. Returns the name, the character that ended it and
    the rest. -/
def fieldName (inBrackets : Bool) : List Char → Result (List Char × Char × List Char)
  | [] => fault .unfinishedField
  | c :: rest =>
    if inBrackets then
      (fieldName (c != ']') rest).map fun (name, stop) => (c :: name, stop)
    else if c = '\x7b' then fault .nestedOpening
    else if c = '\x7d' ∨ c = ':' ∨ c = '!' then .ok ([], c, rest)
    else (fieldName (c == '[') rest).map fun (name, stop) => (c :: name, stop)

/-- Cut a field's format off: up to the closing brace that matches. -/
def fieldFormat (depth : Nat) : List Char → Result (List Char × List Char)
  | [] => fault .unfinishedFormat
  | c :: rest =>
    if c = '\x7d' then
      match depth with
      | 0 => .ok ([], rest)
      | d + 1 => (fieldFormat d rest).map fun (format, after) => (c :: format, after)
    else
      (fieldFormat (if c = '\x7b' then depth + 1 else depth) rest).map
        fun (format, after) => (c :: format, after)

/-- A field as written: its name with selectors, its conversion, its format. -/
structure Field where
  name : List Char
  conversion : Option Char
  format : List Char
deriving Repr

def field (s : List Char) : Result (Field × List Char) := do
  let (name, stop, rest) ← fieldName false s
  if stop = '\x7d' then return (⟨name, none, []⟩, rest)
  if stop = ':' then
    let (format, after) ← fieldFormat 0 rest
    return (⟨name, none, format⟩, after)
  match rest with
  | [] => fault .unfinishedConversion
  | c :: '\x7d' :: after => return (⟨name, some c, []⟩, after)
  | c :: ':' :: more =>
    let (format, after) ← fieldFormat 0 more
    return (⟨name, some c, format⟩, after)
  | [_] => fault .unfinishedFormat
  | _ :: _ :: _ => fault .afterConversion

/-! ## 2. The value of a field -/

def number? (digits : List Char) : Result (Option Nat) :=
  match decimal? digits with
  | none => .ok none
  | some n => if numberBound ≤ n then fault (.format .tooManyDigits) else .ok (some n)

/-- The item of a number. A kind has no items. -/
def item (value : Described) (n : Nat) : Result Described :=
  match value with
  | .text s => ((s.toList[n]?).map (Described.text ∘ String.singleton)).elim (.error .outOfRange) .ok
  | .kinds ks => (ks[n]?.map Described.kind).elim (.error .outOfRange) .ok
  | .kind _ => .error .noIndex

/-- Follow the selectors behind a field's name: names behind dots, numbers
    between brackets. `fuel` bounds the number of selectors. -/
def select (value : Described) : Nat → List Char → Result Described
  | 0, _ => .ok value
  | _, [] => .ok value
  | fuel + 1, '[' :: rest =>
    let index := rest.takeWhile (· != ']')
    match rest.drop index.length with
    | [] => fault .unfinishedIndex
    | _ :: after =>
      if index.isEmpty then fault .emptyPart
      else do
        let some n ← number? index | throw .noIndex
        select (← item value n) fuel after
  | fuel + 1, '.' :: rest =>
    let name := rest.takeWhile fun c => c != '.' && c != '['
    if name.isEmpty then fault .emptyPart
    else match value.part? (String.ofList name) with
      | none => .error .noPart
      | some part => select part fuel (rest.drop name.length)
  | _, _ => fault .afterIndex

def lookup (fields : List (String × String)) (name : List Char) : Result Described := do
  let first := name.takeWhile fun c => c != '.' && c != '['
  let number ← number? first
  if first.isEmpty || number.isSome then throw .positional
  match fields.lookup (String.ofList first) with
  | none => throw (.missing (String.ofList first))
  | some value => select (.text value) (name.length + 1) (name.drop first.length)

def ascii (s : String) : String :=
  String.ofList (s.toList.flatMap fun c => if c.toNat < 128 then [c] else numericEscape c)

def convert (value : Described) : Option Char → Result Described
  | none => .ok value
  | some 's' => .ok (.text value.display)
  | some 'r' => .ok (.text value.literal)
  | some 'a' => .ok (.text (ascii value.literal))
  | some c => fault (.badConversion c)

def formatted (format : List Char) : Described → Result (List Char)
  | .text s => (Format.format format s.toList).mapError fun e => .malformed (.format e)
  | d => if format.isEmpty then .ok d.display.toList else .error .noFormat

/-! ## 3. Expansion -/

/-- How deep a template may be: itself, and the formats of its fields. -/
def depthLimit : Nat := 2

/-- Expand a template, given what expands the templates in its formats. There are
    no more steps than characters. -/
def expandWith (inner : List Char → Result (List Char)) (fields : List (String × String))
    (fuel : Nat) (s : List Char) : Result (List Char) :=
  match fuel, s with
  | 0, _ => .ok []
  | _, [] => .ok []
  | fuel + 1, c :: rest =>
    if c = '\x7b' then
      match rest with
      | [] => fault .loneOpening
      | '\x7b' :: after => ('\x7b' :: ·) <$> expandWith inner fields fuel after
      | _ => do
        let (f, after) ← field rest
        let value ← convert (← lookup fields f.name) f.conversion
        let format ← if f.format.contains '\x7b' then inner f.format else pure f.format
        let text ← formatted format value
        (text ++ ·) <$> expandWith inner fields fuel after
    else if c = '\x7d' then
      match rest with
      | '\x7d' :: after => ('\x7d' :: ·) <$> expandWith inner fields fuel after
      | _ => fault .loneClosing
    else (c :: ·) <$> expandWith inner fields fuel rest

/-- Expand a template whose formats may nest to a depth. -/
def expandFrom (fields : List (String × String)) : Nat → List Char → Result (List Char)
  | 0, _ => fault .tooDeep
  | depth + 1, s => expandWith (expandFrom fields depth) fields (s.length + 1) s

def expand (template : String) (fields : List (String × String)) : Result String :=
  String.ofList <$> expandFrom fields depthLimit template.toList

end Template
end SuiteExplorer.Text
