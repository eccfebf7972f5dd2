/-
  SuiteExplorer/Display/Style.lean
  ================================
  The styles that tags name. A style is written as words: attributes, each with
  another name or two, `not` before an attribute, a colour, `on` before the
  colour of the ground, and `link` before an address. Tags belong together if
  they name the same style, however it is written.
-/
import SuiteExplorer.Display.Color
import SuiteExplorer.Text.Blank
import SuiteExplorer.Text.Lower

namespace SuiteExplorer.Display

/-! ## 1. Attributes -/

/-- What text can be besides coloured, in the order in which it is written. -/
inductive Attribute where
  | bold
  | dim
  | italic
  | underline
  | blink
  | blinkFast
  | reverse
  | conceal
  | strike
  | underlineTwice
  | frame
  | encircle
  | overline
deriving Repr, DecidableEq

namespace Attribute

def all : List Attribute :=
  [bold, dim, italic, underline, blink, blinkFast, reverse, conceal, strike, underlineTwice, frame,
    encircle, overline]

/-- The names of an attribute. It is written by the first one. -/
def names : Attribute → List String
  | bold => ["bold", "b"]
  | dim => ["dim", "d"]
  | italic => ["italic", "i"]
  | underline => ["underline", "u"]
  | blink => ["blink"]
  | blinkFast => ["blink2"]
  | reverse => ["reverse", "r"]
  | conceal => ["conceal", "c"]
  | strike => ["strike", "s"]
  | underlineTwice => ["underline2", "uu"]
  | frame => ["frame"]
  | encircle => ["encircle"]
  | overline => ["overline", "o"]

def name (a : Attribute) : String := a.names.headD ""

def ofName? (s : String) : Option Attribute := all.find? (·.names.contains s)

@[simp] theorem ofName?_name (a : Attribute) : ofName? a.name = some a := by
  cases a <;> decide

end Attribute

/-! ## 2. Styles -/

/-- A style. The last word on a matter counts. -/
structure Style where
  attributes : List (Attribute × Bool) := []
  color : Option String := none
  ground : Option String := none
  link : Option String := none
deriving Repr, DecidableEq

inductive StyleFault where
  | unreadable
  /-- a part of a colour has no digit -/
  | emptyPart
deriving Repr, DecidableEq

/-- The colour that a word names. -/
def colorOf (word : String) : Except StyleFault String :=
  let small := Text.lower word
  match checkColor small with
  | .ok () => .ok small
  | .error .unknown => .error .unreadable
  | .error .emptyPart => .error .emptyPart

namespace Style

def read (s : Style) : List String → Except StyleFault Style
  | [] => .ok s
  | word :: rest =>
    match Text.lower word, rest with
    | "on", next :: more => do
      let color ← colorOf next
      read { s with ground := some color } more
    | "not", next :: more =>
      match Attribute.ofName? next with
      | some a => read { s with attributes := (a, false) :: s.attributes } more
      | none => .error .unreadable
    | "link", next :: more => read { s with link := some next } more
    | small, rest =>
      match Attribute.ofName? small with
      | some a => read { s with attributes := (a, true) :: s.attributes } rest
      | none => do
        let color ← colorOf small
        read { s with color := some color } rest

def text (s : Style) : String :=
  let attributes := Attribute.all.filterMap fun a =>
    (s.attributes.lookup a).map fun isSet => if isSet then a.name else "not " ++ a.name
  let ground := s.ground.toList.flatMap fun color => ["on", color]
  let link := s.link.toList.flatMap fun address => ["link", address]
  let words := attributes ++ s.color.toList ++ ground ++ link
  if words.isEmpty then "none" else " ".intercalate words

end Style

/-! ## 3. Names of styles -/

def wordsOf (s : List Char) : List (List Char) :=
  (s.splitBy fun a b => Text.isBlank a == Text.isBlank b).filter fun w => !w.all Text.isBlank

/-- A style by its name, if it is one. The empty name is that of no style. -/
def styleOf (name : List Char) : Except StyleFault Style :=
  if Text.trim name = "none".toList then .ok {}
  else Style.read {} ((wordsOf name).map String.ofList)

/-- The name by which a style is compared: as it is written, and for what is no
    style, the text itself in small letters. Only a colour that lacks a part has
    no such name. -/
def styleName (name : List Char) : Except StyleFault String :=
  match styleOf name with
  | .ok s => .ok s.text
  | .error .unreadable => .ok (Text.lower (String.ofList (Text.trim name)))
  | .error .emptyPart => .error .emptyPart

end SuiteExplorer.Display
