/-
  SuiteExplorer/Text/Described.lean
  =================================
  What a template can say about a text beside the text itself: of which kind it
  is, how that kind is called and described, and which kinds it descends from.
-/
import SuiteExplorer.Text.Quoted

namespace SuiteExplorer.Text

/-- The kinds that a template can name: texts, everything, and kinds. -/
inductive Kind where
  | text
  | anything
  | kind
deriving Repr, DecidableEq

namespace Kind

def name : Kind → String
  | text => "str"
  | anything => "object"
  | kind => "type"

/-- The kinds a kind descends from, beginning with itself. -/
def lineage : Kind → List Kind
  | text => [text, anything]
  | anything => [anything]
  | kind => [kind, anything]

def description : Kind → String
  | text => "\n".intercalate
    ["str(object='') -> str", "str(bytes_or_buffer[, encoding[, errors]]) -> str", "",
      "Create a new string object from the given object. If encoding or",
      "errors is specified, then the object must expose a data buffer",
      "that will be decoded using the given encoding and error handler.",
      "Otherwise, returns the result of object.__str__() (if defined)", "or repr(object).",
      "encoding defaults to sys.getdefaultencoding().", "errors defaults to 'strict'."]
  | anything => "\n".intercalate
    ["The base class of the class hierarchy.", "",
      "When called, it accepts no arguments and returns a new featureless",
      "instance that has no instance attributes and cannot be given any.", ""]
  | kind => "type(object) -> the object's type\ntype(name, bases, dict, **kwds) -> a new type"

def literal (k : Kind) : String := s!"<class '{k.name}'>"

end Kind

/-- What a field of a template can lead to. -/
inductive Described where
  | text (s : String)
  | kind (k : Kind)
  | kinds (ks : List Kind)
deriving Repr, DecidableEq

namespace Described

def part? (name : String) : Described → Option Described
  | text _ =>
    match name with
    | "__class__" => some (kind .text)
    | "__doc__" => some (text Kind.text.description)
    | _ => none
  | kind k =>
    match name with
    | "__class__" => some (kind .kind)
    | "__doc__" => some (text k.description)
    | "__name__" | "__qualname__" => some (text k.name)
    | "__module__" => some (text "builtins")
    | "__mro__" => some (kinds k.lineage)
    | "__bases__" => some (kinds k.lineage.tail)
    | "__base__" => k.lineage.tail.head?.map kind
    | _ => none
  | kinds _ => none

/-- A value as it appears between others. -/
def literal : Described → String
  | text s => quoted s
  | kind k => k.literal
  | kinds [k] => "(" ++ k.literal ++ ",)"
  | kinds ks => "(" ++ ", ".intercalate (ks.map Kind.literal) ++ ")"

def display : Described → String
  | text s => s
  | d => d.literal

end Described
end SuiteExplorer.Text
