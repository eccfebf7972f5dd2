/-
  SuiteExplorer/Value/Yaml/Meaning.lean
  =====================================
  What the nodes of a document mean. First all nodes are gone through, those
  that hold others level by level from the root: the first of them without a
  meaning decides the fault. On the way, what a mapping is to be merged with is
  put before its own entries. Then the values are put together.
-/
import SuiteExplorer.Text.Base64
import SuiteExplorer.Value.Basic
import SuiteExplorer.Value.Yaml.Node
import SuiteExplorer.Value.Yaml.Number

namespace SuiteExplorer.Yaml

structure Table where
  nodes : Nodes
  /-- the values of the nodes that hold no others -/
  atoms : Array (Option Atom)
  /-- the nodes that have been met -/
  met : Array Bool
  /-- nodes that hold others and have not been gone through, the next one first -/
  waiting : List Nat := []

abbrev Meaning := StateT Table (Except Fault)

namespace Meaning

def node (id : Nat) : Meaning Node := do return (← get).nodes.getD id default

def content (id : Nat) : Meaning Content := do return (← node id).content

def setNode (id : Nat) (n : Node) : Meaning Unit :=
  modify fun t => { t with nodes := t.nodes.setIfInBounds id n }

/-! ## 1. Nodes that hold no others -/

/-- The text of a node. A mapping has the text of its value, if one of its keys
    is marked as that. -/
def textOf : Nat → Nat → Meaning String
  | 0, _ => throw .malformed
  | fuel + 1, id => do
    match ← content id with
    | .scalar s => return s
    | .sequence _ => throw .malformed
    | .mapping entries =>
      let t ← get
      match entries.find? fun e => (t.nodes.getD e.1 default).tag = .value with
      | some e => textOf fuel e.2
      | none => throw .malformed

def truths : List (String × Bool) :=
  [("yes", true), ("no", false), ("true", true), ("false", false), ("on", true), ("off", false)]

def truthOf (s : String) : Except Fault Bool :=
  let word := Text.lower s
  match truths.lookup word with
  | some b => .ok b
  | none => .error (.unknownWord word)

def bytesOf (s : String) : Except Fault (List UInt8) :=
  if s.toList.any fun c => 128 ≤ c.toNat then .error .malformed
  else match Text.Base64.decode? s.toList with
    | some b => .ok b
    | none => .error .malformed

def momentOf (s : String) : Except Fault Moment :=
  match moment? (withoutLastFeed s.toList) with
  | none => .error .noMoment
  | some w => match w.moment.fault? with
    | some f => .error (.invalid f.message)
    | none => .ok w.moment

/-- The value of a node that holds no others. -/
def atomOf (id : Nat) (tag : Tag) : Meaning Atom := do
  let s ← textOf ((← get).nodes.size + 1) id
  match tag with
  | .null => return .null
  | .bool => return .bool (← truthOf s)
  | .int => return .int (← readInt s)
  | .float => return .float (← readFloat s)
  | .binary => return .bytes (← bytesOf s)
  | .timestamp =>
    if let .mapping _ ← content id then throw .notText
    return .moment (← momentOf s)
  | _ => return .text s

/-- Meet a node: one that holds others has to wait. -/
def meet (id : Nat) : Meaning Unit := do
  let t ← get
  if t.met.getD id true then return
  set { t with met := t.met.setIfInBounds id true }
  match (← node id).tag with
  | .merge | .value | .unknown => throw .malformed
  | .seq | .map | .set | .omap | .pairs =>
    modify fun t => { t with waiting := t.waiting ++ [id] }
  | tag =>
    let a ← atomOf id tag
    modify fun t => { t with atoms := t.atoms.setIfInBounds id (some a) }

/-! ## 2. Nodes that hold others -/

/-- The entries of a mapping that others are merged with. -/
def entriesOf (id : Nat) : Meaning (List (Nat × Nat)) := do
  match ← content id with
  | .mapping entries => return entries
  | _ => throw .malformed

mutual

/-- Put what a mapping is to be merged with before its own entries. -/
def merge : Nat → Nat → Meaning Unit
  | 0, _ => throw .malformed
  | fuel + 1, id => do
    let merged ← mergeFrom fuel id 0
    if !merged.isEmpty then
      setNode id { (← node id) with content := .mapping (merged ++ (← entriesOf id)) }

/-- Take the marks for merging out of a mapping from an entry on, and gather
    what they lead to. A key that marks a value is a key like others. -/
def mergeFrom : Nat → Nat → Nat → Meaning (List (Nat × Nat))
  | 0, _, _ => throw .malformed
  | fuel + 1, id, n => do
    let entries ← entriesOf id
    match entries[n]? with
    | none => return []
    | some (key, value) =>
      match (← node key).tag with
      | .merge =>
        setNode id { (← node id) with content := .mapping (entries.eraseIdx n) }
        let first ← match ← content value with
          | .mapping _ => mergeFor fuel [value]
          | .sequence items => mergeFor fuel items
          | .scalar _ => throw .malformed
        return first ++ (← mergeFrom fuel id n)
      | .value =>
        setNode key { (← node key) with tag := .str }
        mergeFrom fuel id (n + 1)
      | _ => mergeFrom fuel id (n + 1)

/-- The entries of mappings, those of the last one first. -/
def mergeFor : Nat → List Nat → Meaning (List (Nat × Nat))
  | 0, _ => throw .malformed
  | _, [] => return []
  | fuel + 1, id :: rest => do
    let _ ← entriesOf id
    merge fuel id
    let entries ← entriesOf id
    return (← mergeFor fuel rest) ++ entries

end

def meetEntry (e : Nat × Nat) : Meaning Unit := do
  meet e.1
  meet e.2

/-- Meet the nodes of an entry whose key has to be one that holds no others. -/
def meetKeyed (e : Nat × Nat) : Meaning Unit := do
  meet e.1
  if ((← get).atoms.getD e.1 none).isNone then throw .malformed
  meet e.2

def singleEntry (id : Nat) : Meaning (Nat × Nat) := do
  match ← entriesOf id with
  | [e] => return e
  | _ => throw .malformed

def visit (fuel id : Nat) : Meaning Unit := do
  let n ← node id
  match n.tag, n.content with
  | .seq, .sequence items => items.forM meet
  | .omap, .sequence items | .pairs, .sequence items =>
    items.forM fun item => do meetEntry (← singleEntry item)
  | .map, .mapping _ | .set, .mapping _ =>
    merge fuel id
    (← entriesOf id).forM meetKeyed
  | _, _ => throw .malformed

/-- Go through all nodes that wait. -/
def visitAll (fuel : Nat) : Nat → Meaning Unit
  | 0 => throw .malformed
  | steps + 1 => do
    match (← get).waiting with
    | [] => return
    | id :: rest =>
      modify fun t => { t with waiting := rest }
      visit fuel id
      visitAll fuel steps

end Meaning

/-! ## 3. Values -/

/-- A value, and how many of those around it have to be kept for it: none if it
    does not come round to them. -/
structure Built where
  value : Value
  needs : Nat := 0

/-- Putting values together. Those that stand for themselves are kept. -/
abbrev Building := StateM (Array (Option Value))

namespace Building

/-- Values put together to one around them. -/
def around (parts : List Built) (value : List Value → Value) : Built :=
  ⟨value (parts.map (·.value)), (parts.map (·.needs)).foldl max 0 - 1⟩

/-- The value of a node that holds others, from the values of what it holds. A pair of a list
    of pairs is a step of its own around its two values. -/
def compound (t : Table) (held paired : Nat → Building Built) (n : Node) : Building Built :=
  match n.tag, n.content with
  | .seq, .sequence items => return around (← items.mapM held) Value.list
  | .map, .mapping entries => do
    let keys := entries.map fun e => (t.atoms.getD e.1 none).getD .null
    return around (← entries.mapM fun e => held e.2) fun vs => Value.ofEntries (keys.zip vs)
  | .set, .mapping entries => do
    let keys := entries.map fun e => ((t.atoms.getD e.1 none).getD .null, Value.null)
    return ⟨.set ((Entries.ofList keys).map (·.1)), 0⟩
  | _, .sequence items => do
    let pairs ← items.mapM fun item =>
      match (t.nodes.getD item default).content with
      | .mapping ((k, v) :: _) => return around (← [k, v].mapM paired) Value.tuple
      | _ => return ⟨.null, 0⟩
    return around pairs Value.list
  | _, _ => return ⟨.null, 0⟩

/-- Keep a value that stands for itself. -/
def keep (id : Nat) (built : Built) : Building Built := do
  if built.needs = 0 then modify fun known => known.setIfInBounds id (some built.value)
  return built

/-- The value of a node. The nodes around it are known, the nearest first; steps
    that are no nodes are `none`. -/
def value (t : Table) : Nat → List (Option Nat) → Nat → Building Built
  | 0, _, _ => return ⟨.null, 0⟩
  | fuel + 1, outer, id => do
    if let some a := t.atoms.getD id none then return ⟨.atom a, 0⟩
    if let some v := (← get).getD id none then return ⟨v, 0⟩
    let n := t.nodes.getD id default
    if let some steps := outer.findIdx? (· = some id) then
      return ⟨.again steps (n.tag = .map), steps + 1⟩
    let inner := some id :: outer
    keep id (← compound t (value t fuel inner) (value t fuel (none :: inner)) n)

end Building

/-! ## 4. Documents -/

/-- The breaks that a file may have within its lines, as one. -/
def plainBreaksOnly : List Char → List Char
  | '\r' :: '\n' :: rest => '\n' :: plainBreaksOnly rest
  | '\r' :: rest => '\n' :: plainBreaksOnly rest
  | c :: rest => c :: plainBreaksOnly rest
  | [] => []

def meant (root : Nat) (nodes : Nodes) : Except Fault Value := do
  let size := nodes.size
  let start : Table :=
    { nodes := nodes, atoms := Array.replicate size none, met := Array.replicate size false }
  let fuel := (size + 2) * (size + 2) * (size + 2)
  let go : Meaning Unit := do
    Meaning.meet root
    Meaning.visitAll fuel (size + 1)
  let (_, t) ← go.run start
  let (built, _) := (Building.value t (2 * size + 2) [] root).run (Array.replicate size none)
  return built.value

/-- The value of a document. A text without a document has no value. -/
def ofString (s : String) : Except Fault Value := do
  let chars := plainBreaksOnly s.toList
  if !chars.all isAllowed then throw .malformed
  let (root?, nodes) ← composed chars
  match root? with
  | none => return .null
  | some root => meant root nodes

end SuiteExplorer.Yaml
