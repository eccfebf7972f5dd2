/-
  SuiteExplorer/CommandLine/TreeText.lean
  =======================================
  The catalog as a drawn tree, below the workspace root. A label that needs
  several lines has them below each other; where the branches leave no room, a
  label is left out.
-/
import SuiteExplorer.Catalog.Basic
import SuiteExplorer.Display.Markup
import SuiteExplorer.Display.Wrap

namespace SuiteExplorer

namespace TreeText

def branch (isLast : Bool) : String := if isLast then "└── " else "├── "

/-- The branch past a node, to those that follow it. -/
def trunk (isLast : Bool) : String := if isLast then "    " else "│   "

/-- The lines of a label with style tags on a screen of `room` cells, the first
    one to the right of `first` and the others to the right of `below`. -/
def ofLabel (room : Nat) (first below label : String) :
    Except Markup.MarkupError (List String) := do
  let room := room - first.length
  if room = 0 then return []
  let lines := (Display.wrap room (← Markup.plain label)).map String.ofList
  return lines.zipIdx.map fun (line, i) => (if i = 0 then first else below) ++ line

mutual

def ofTree (label : NodeInfo → String) (room : Nat) (lead : String) (isLast : Bool) :
    Subtree → Except Markup.MarkupError (List String)
  | .node i cs => do
    let below := lead ++ trunk isLast
    let here ← ofLabel room (lead ++ branch isLast) below (label i)
    return here ++ (← ofTrees label room below cs)

def ofTrees (label : NodeInfo → String) (room : Nat) (lead : String) :
    List Subtree → Except Markup.MarkupError (List String)
  | [] => return []
  | t :: rest => do
    let here ← ofTree label room lead rest.isEmpty t
    return here ++ (← ofTrees label room lead rest)

end

end TreeText

namespace Catalog

/-- How a node is labelled. Tests show their line, counted from one. -/
def treeLabel (c : Catalog) (i : NodeInfo) : String :=
  match c.meaning? i.ref with
  | some .package => s!"[cyan]{i.label}[/cyan]"
  | some .file => s!"[dim]{i.label}[/dim]"
  | some (.runnable (.suite _)) => s!"[bold]{i.label}[/bold]"
  | _ =>
    let line := match i.span with
      | some s => toString (s.startLine + 1)
      | none => "?"
    s!"{i.label} [dim]:{line}[/dim]"

def treeText (c : Catalog) (room : Nat) (root : Path) :
    Except Markup.MarkupError (List String) := do
  let here ← TreeText.ofLabel room "" "" s!"[bold]{root.text}[/bold]"
  if room = 0 then return []
  return here ++ (← TreeText.ofTrees c.treeLabel room "" c.trees)

end Catalog
end SuiteExplorer
