/-
  SuiteExplorer/Value/Document.lean
  =================================
  Writing values as documents. Documents are ASCII: every other character, and
  the delete character, is written by its UTF-16 units.
-/
import SuiteExplorer.Value.Basic

namespace SuiteExplorer.Document

open Text

def unitEscape (n : Nat) : List Char := '\\' :: 'u' :: hexDigits 4 n

/-- One character between double quotes. -/
def escaped (c : Char) : List Char :=
  let n := c.toNat
  if c = '"' then ['\\', '"']
  else if c = '\\' then ['\\', '\\']
  else if c = '\n' then ['\\', 'n']
  else if c = '\r' then ['\\', 'r']
  else if c = '\t' then ['\\', 't']
  else if n = 8 then ['\\', 'b']
  else if n = 12 then ['\\', 'f']
  else if 32 ≤ n && n < 127 then [c]
  else if n < 0x10000 then unitEscape n
  else unitEscape (0xD800 + (n - 0x10000) / 0x400) ++ unitEscape (0xDC00 + (n - 0x10000) % 0x400)

/-- A text between double quotes. -/
def string (s : String) : String :=
  String.ofList ('"' :: s.toList.flatMap escaped ++ ['"'])

/-- A number with a fraction; what is no number or no finite one has a name. -/
def number : Binary64 → String
  | .nan => "NaN"
  | .infinite negative => if negative then "-Infinity" else "Infinity"
  | x => x.text

/-- An atom. Where documents have no form for it, it is written as a text. -/
def atom : Atom → String
  | .null => "null"
  | .bool true => "true"
  | .bool false => "false"
  | .int n => toString n
  | .float x => number x
  | .text s => string s
  | a => string a.display

/-- The key of an entry, which is always a text. -/
def key : Atom → String
  | .text s => string s
  | .bytes b => string (Atom.bytes b).literal
  | a => string (atom a)

/-- A value that holds no other values, or that is not followed any further. -/
def scalar : Value → String
  | .atom a => atom a
  | .map _ | .again _ true => "\x7b\x7d"
  | _ => "[]"

/-- The start of a line below `depth` opened brackets. -/
def newLine (depth : Nat) : String := "\n" ++ String.ofList (List.replicate (2 * depth) ' ')

mutual

/-- A value with each item and entry on a line of its own, two blanks deeper
    than what holds it. -/
def indented (depth : Nat) : Value → String
  | .list (v :: rest) | .tuple (v :: rest) =>
    "[" ++ ",".intercalate (indentedItems (depth + 1) (v :: rest)) ++ newLine depth ++ "]"
  | .map (e :: rest) =>
    "\x7b" ++ ",".intercalate (indentedEntries (depth + 1) (e :: rest)) ++ newLine depth ++ "\x7d"
  | v => scalar v

def indentedItems (depth : Nat) : List Value → List String
  | [] => []
  | v :: rest => (newLine depth ++ indented depth v) :: indentedItems depth rest

def indentedEntries (depth : Nat) : List (Atom × Value) → List String
  | [] => []
  | (k, v) :: rest =>
    (newLine depth ++ key k ++ ": " ++ indented depth v) :: indentedEntries depth rest

end

def render (v : Value) : String := indented 0 v

mutual

def line : Value → String
  | .list items | .tuple items => "[" ++ ", ".intercalate (lineItems items) ++ "]"
  | .map entries => "\x7b" ++ ", ".intercalate (lineEntries entries) ++ "\x7d"
  | v => scalar v

def lineItems : List Value → List String
  | [] => []
  | v :: rest => line v :: lineItems rest

def lineEntries : List (Atom × Value) → List String
  | [] => []
  | (k, v) :: rest => (key k ++ ": " ++ line v) :: lineEntries rest

end

end SuiteExplorer.Document
