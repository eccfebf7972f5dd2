/-
  SuiteExplorer/Value/Yaml/Node.lean
  ==================================
  The nodes of a document. Each node has a number, and what holds other nodes
  names them by their numbers: a node can so stand in several places, even
  inside itself.

  Tokens are only looked at when they are needed, so a fault of the text counts
  when it is reached.
-/
import SuiteExplorer.Value.Yaml.Tag
import SuiteExplorer.Value.Yaml.Token

namespace SuiteExplorer.Yaml

inductive Content where
  | scalar (text : String)
  | sequence (items : List Nat)
  | mapping (entries : List (Nat × Nat))
deriving Repr, DecidableEq, Inhabited

structure Node where
  tag : Tag
  content : Content
deriving Repr, DecidableEq, Inhabited

abbrev Nodes := Array Node

/-- What has been read of a document, and what is still to come. -/
structure Reader where
  tokens : List Token
  fault : Fault
  nodes : Nodes := #[]
  anchors : List (String × Nat) := []
  /-- the handles of tags, and how the tags begin that they stand for -/
  handles : List (String × String) := []

/-- Something that is read. -/
abbrev Reading := StateT Reader (Except Fault)

namespace Reading

/-- The handles that every document has. -/
def commonHandles : List (String × String) := [("!", "!"), ("!!", Tag.commonStart)]

def peek : Reading Token := do
  let r ← get
  match r.tokens with
  | [] => throw r.fault
  | t :: _ => return t

def drop : Reading Unit := modify fun r => { r with tokens := r.tokens.tail }

/-- Take the next token if it is this one. -/
def take (t : Token) : Reading Bool := do
  if (← peek) = t then
    drop
    return true
  else return false

/-- Take this token, or there is a fault. -/
def expect (t : Token) : Reading Unit := do
  if !(← take t) then throw .malformed

def add (n : Node) : Reading Nat := do
  let r ← get
  set { r with nodes := r.nodes.push n }
  return r.nodes.size

def fill (id : Nat) (content : Content) : Reading Unit :=
  modify fun r => { r with nodes := r.nodes.modify id fun n => { n with content := content } }

/-- A node that is not written at all. -/
def absent : Reading Nat := add ⟨.null, .scalar ""⟩

/-! ## 1. Properties -/

/-- What may stand before a node. -/
structure Properties where
  anchor : Option String := none
  tag : Option (Option String × String) := none

/-- An anchor and a tag, in either order. -/
def properties : Reading Properties := do
  match ← peek with
  | .anchor name =>
    drop
    match ← peek with
    | .tag handle suffix =>
      drop
      return ⟨name, some (handle, suffix)⟩
    | _ => return ⟨name, none⟩
  | .tag handle suffix =>
    drop
    match ← peek with
    | .anchor name =>
      drop
      return ⟨name, some (handle, suffix)⟩
    | _ => return ⟨none, some (handle, suffix)⟩
  | _ => return {}

def fullTag (handle : Option String) (suffix : String) : Reading String := do
  match handle with
  | none => return suffix
  | some h =>
    match (← get).handles.lookup h with
    | none => throw .malformed
    | some start => return start ++ suffix

/-- Give a node a name. A name is given once. -/
def name (anchor : Option String) (id : Nat) : Reading Unit := do
  if let some a := anchor then
    if ((← get).anchors.lookup a).isSome then throw .malformed
    modify fun r => { r with anchors := (a, id) :: r.anchors }

/-! ## 2. Nodes -/

/-- Where a node stands: between brackets, in a block, or in the entry of a
    block, where a list need not stand deeper. -/
inductive Setting where
  | flow
  | block
  | entry
deriving DecidableEq

mutual

def node : Nat → Setting → Reading Nat
  | 0, _ => throw .malformed
  | fuel + 1, setting => do
    if let .alias a := ← peek then
      drop
      match (← get).anchors.lookup a with
      | some id => return id
      | none => throw .malformed
    let p ← properties
    let full? ← p.tag.mapM fun (handle, suffix) => fullTag handle suffix
    let tag? := (full?.filter (· ≠ "!")).map Tag.ofString
    let begun (meant : Tag) : Reading Nat := do
      let id ← add ⟨tag?.getD meant, .scalar ""⟩
      name p.anchor id
      return id
    match ← peek with
    | .scalar text isPlain =>
      drop
      let plain := if (isPlain && full?.isNone) || full? = some "!" then Tag.ofPlain text else .str
      let id ← begun plain
      fill id (.scalar text)
      return id
    | .openSequence =>
      let id ← begun .seq
      drop
      fill id (.sequence (← flowItems fuel true))
      return id
    | .openMapping =>
      let id ← begun .map
      drop
      fill id (.mapping (← flowEntries fuel true))
      return id
    | t =>
      if t = .item && setting = .entry then
        let id ← begun .seq
        fill id (.sequence (← looseItems fuel))
        return id
      else if t = .blockSequence && setting ≠ .flow then
        let id ← begun .seq
        drop
        fill id (.sequence (← blockItems fuel))
        return id
      else if t = .blockMapping && setting ≠ .flow then
        let id ← begun .map
        drop
        fill id (.mapping (← blockEntries fuel))
        return id
      else if p.anchor.isSome || full?.isSome then begun .null
      else throw .malformed
/-- A node, unless a token follows before which nothing is written. -/
def nodeUnless : Nat → Setting → List Token → Reading Nat
  | 0, _, _ => throw .malformed
  | fuel + 1, setting, ends => do
    if ends.contains (← peek) then absent else node fuel setting

def blockItems : Nat → Reading (List Nat)
  | 0 => throw .malformed
  | fuel + 1 => do
    if ← take .item then
      let first ← nodeUnless fuel .block [.item, .blockEnd]
      return first :: (← blockItems fuel)
    expect .blockEnd
    return []

/-- Items that stand no deeper than the entry they belong to. -/
def looseItems : Nat → Reading (List Nat)
  | 0 => throw .malformed
  | fuel + 1 => do
    if ← take .item then
      let first ← nodeUnless fuel .block [.item, .key, .value, .blockEnd]
      return first :: (← looseItems fuel)
    return []

def blockEntries : Nat → Reading (List (Nat × Nat))
  | 0 => throw .malformed
  | fuel + 1 => do
    let ends : List Token := [.key, .value, .blockEnd]
    if ← take .key then
      let key ← nodeUnless fuel .entry ends
      let value ← if ← take .value then nodeUnless fuel .entry ends else absent
      return (key, value) :: (← blockEntries fuel)
    expect .blockEnd
    return []

/-- The value of an entry between brackets, if it has one. -/
def flowValue : Nat → Token → Reading Nat
  | 0, _ => throw .malformed
  | fuel + 1, close => do
    if ← take .value then nodeUnless fuel .flow [.comma, close] else absent

/-- The items between brackets, up to the closing one. A single entry among them
    is a mapping of its own. -/
def flowItems : Nat → Bool → Reading (List Nat)
  | 0, _ => throw .malformed
  | fuel + 1, isFirst => do
    if ← take .closeSequence then return []
    if !isFirst then expect .comma
    if ← take .key then
      let id ← add ⟨.map, .mapping []⟩
      let key ← nodeUnless fuel .flow [.value, .comma, .closeSequence]
      let value ← flowValue fuel .closeSequence
      fill id (.mapping [(key, value)])
      return id :: (← flowItems fuel false)
    if ← take .closeSequence then return []
    let first ← node fuel .flow
    return first :: (← flowItems fuel false)

/-- The entries between braces, up to the closing one. -/
def flowEntries : Nat → Bool → Reading (List (Nat × Nat))
  | 0, _ => throw .malformed
  | fuel + 1, isFirst => do
    if ← take .closeMapping then return []
    if !isFirst then expect .comma
    if ← take .key then
      let key ← nodeUnless fuel .flow [.value, .comma, .closeMapping]
      let value ← flowValue fuel .closeMapping
      return (key, value) :: (← flowEntries fuel false)
    if ← take .closeMapping then return []
    let key ← node fuel .flow
    return (key, ← absent) :: (← flowEntries fuel false)

end

/-! ## 3. Documents -/

/-- Read what is said about a document: its version once and a first number of
    one, and each handle once. -/
def directives : Nat → Bool → Reading Unit
  | 0, _ => throw .malformed
  | fuel + 1, hasVersion => do
    if let .directive d := ← peek then
      drop
      match d with
      | .version major =>
        if hasVersion || major ≠ 1 then throw .malformed
        directives fuel true
      | .tag handle start =>
        if ((← get).handles.lookup handle).isSome then throw .malformed
        modify fun r => { r with handles := (handle, start) :: r.handles }
        directives fuel hasVersion
      | .other => directives fuel hasVersion

def skipEnds : Nat → Reading Unit
  | 0 => pure ()
  | fuel + 1 => do if ← take .documentEnd then skipEnds fuel

/-- The start of a document that says what it is. -/
def documentStart (fuel : Nat) : Reading Unit := do
  modify fun r => { r with handles := [] }
  directives fuel false
  modify fun r => { r with handles := r.handles ++ commonHandles }
  expect .documentStart

/-- The one document of a text; its root, if there is a document at all. -/
def document (fuel : Nat) : Reading (Option Nat) := do
  let first ← peek
  let isBare : Bool := match first with
    | .directive _ | .documentStart | .streamEnd => false
    | _ => true
  let root ← if isBare then
      modify fun r => { r with handles := commonHandles }
      node fuel .block
    else
      skipEnds fuel
      if (← peek) = .streamEnd then return none
      documentStart fuel
      let isEmpty : Bool := match ← peek with
        | .directive _ | .documentStart | .documentEnd | .streamEnd => true
        | _ => false
      if isEmpty then absent else node fuel .block
  skipEnds fuel
  if (← peek) = .streamEnd then return some root
  documentStart fuel
  throw .malformed

end Reading

def composed (s : List Char) : Except Fault (Option Nat × Nodes) := do
  let (tokens, fault?) := tokens s
  let (root, r) ← (Reading.document (4 * tokens.length + 8)).run
    { tokens := tokens, fault := fault?.getD .malformed }
  return (root, r.nodes)

end SuiteExplorer.Yaml
