/-
  SuiteExplorer/Value/Basic.lean
  ==============================
  The values that settings, launch configurations and journal fields are made
  of. A mapping keeps the order in which its keys were first given. A value
  that was written to hold itself is cut where it comes round to itself.
-/
import SuiteExplorer.Value.Atom

namespace SuiteExplorer

inductive Value where
  | atom (a : Atom)
  | list (items : List Value)
  | tuple (items : List Value)
  | set (items : List Atom)
  | map (entries : List (Atom × Value))
  /-- what holds this, so many steps further out (0: the nearest one) -/
  | again (steps : Nat) (isMap : Bool)
deriving Repr, BEq, Inhabited

abbrev Entries := List (Atom × Value)

namespace Value

@[match_pattern] abbrev null : Value := atom .null
@[match_pattern] abbrev bool (b : Bool) : Value := atom (.bool b)
@[match_pattern] abbrev int (n : Int) : Value := atom (.int n)
@[match_pattern] abbrev float (x : Binary64) : Value := atom (.float x)
@[match_pattern] abbrev text (s : String) : Value := atom (.text s)

instance : Coe String Value := ⟨.text⟩

end Value

/-! ## 1. Entries -/

namespace Entries

def get? (entries : Entries) (key : Atom) : Option Value :=
  (entries.find? fun e => e.1.same key).map (·.2)

/-- Give a key a value: in its place if the key is there, else at the end. -/
def set (key : Atom) (value : Value) : Entries → Entries
  | [] => [(key, value)]
  | (k, v) :: rest => if k.same key then (k, value) :: rest else (k, v) :: set key value rest

/-- Read entries in which a key may come twice: it keeps its first place and
    its last value. -/
def ofList (entries : Entries) : Entries :=
  entries.foldl (fun acc e => set e.1 e.2 acc) []

end Entries

namespace Value

/-- A mapping from its entries, a repeated key keeping its first place and its
    last value. -/
def ofEntries (entries : Entries) : Value := map (Entries.ofList entries)

/-- The entries, if this is a mapping. -/
def entries : Value → Entries
  | map es => es
  | _ => []

/-- The value of a key, if this is a mapping that has it. -/
def get? (v : Value) (key : Atom) : Option Value := Entries.get? v.entries key

/-- A value that counts as nothing where something is expected. -/
def isBlank : Value → Bool
  | atom a => a.isBlank
  | list [] | tuple [] | set [] | map [] => true
  | _ => false

/-! ## 2. Layering -/

mutual

/-- Lay one value over another. Two mappings are merged key by key; anything
    else replaces what is below it. -/
def overlay (below : Value) : Value → Value
  | map es =>
    match below with
    | map base => map (overlayEntries base es)
    | _ => map es
  | v => v

/-- Lay entries over others, one after the other. -/
def overlayEntries (base : Entries) : Entries → Entries
  | [] => base
  | (k, v) :: rest =>
    overlayEntries (Entries.set k (match Entries.get? base k with
      | some b => overlay b v
      | none => v) base) rest

end

/-! ## 3. Values that hold themselves -/

mutual

/-- Put `outer` where a value, `depth` steps inside of it, comes round to it. -/
def unroll (outer : Value) (depth : Nat) : Value → Value
  | again steps isMap => if steps = depth then outer else again steps isMap
  | list items => list (unrollItems outer (depth + 1) items)
  | tuple items => tuple (unrollItems outer (depth + 1) items)
  | map es => map (unrollEntries outer (depth + 1) es)
  | v => v

def unrollItems (outer : Value) (depth : Nat) : List Value → List Value
  | [] => []
  | v :: rest => unroll outer depth v :: unrollItems outer depth rest

def unrollEntries (outer : Value) (depth : Nat) : List (Atom × Value) → List (Atom × Value)
  | [] => []
  | (k, v) :: rest => (k, unroll outer depth v) :: unrollEntries outer depth rest

end

/-- The entries of a mapping, each complete in itself. -/
def wholeEntries (v : Value) : Entries := unrollEntries v 0 v.entries

/-- The items of a list, tuple or set, each complete in itself. -/
def wholeItems? (v : Value) : Option (List Value) :=
  match v with
  | list items | tuple items => some (unrollItems v 0 items)
  | set items => some (items.map atom)
  | _ => none

/-- A mapping with entries that are complete in themselves, and so the mappings in it, as
    many inside of each other as `depth` says. -/
def wholeTo : Nat → Value → Value
  | depth + 1, map es => map ((wholeEntries (map es)).map fun e => (e.1, wholeTo depth e.2))
  | _, v => v

/-! ## 4. In messages -/

mutual

/-- A value as it appears inside another one. -/
def literal : Value → String
  | atom a => a.literal
  | list items => "[" ++ ", ".intercalate (literals items) ++ "]"
  | tuple [v] => "(" ++ literal v ++ ",)"
  | tuple items => "(" ++ ", ".intercalate (literals items) ++ ")"
  | set [] => "set()"
  | set items => "\x7b" ++ ", ".intercalate (items.map Atom.literal) ++ "\x7d"
  | map entries => "\x7b" ++ ", ".intercalate (entryLiterals entries) ++ "\x7d"
  | again _ true => "\x7b...\x7d"
  | again _ false => "[...]"

def literals : List Value → List String
  | [] => []
  | v :: rest => literal v :: literals rest

def entryLiterals : List (Atom × Value) → List String
  | [] => []
  | (k, v) :: rest => (k.literal ++ ": " ++ literal v) :: entryLiterals rest

end

/-- A value in a message: an atom as it is told, everything else literally. -/
def display : Value → String
  | atom a => a.display
  | v => v.literal

end Value
end SuiteExplorer
