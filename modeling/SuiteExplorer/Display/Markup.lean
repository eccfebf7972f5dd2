/-
  SuiteExplorer/Display/Markup.lean
  =================================
  Text with style tags, as it is shown where there are no styles. `[name]` opens
  a style and `[/name]` closes the last one that is the same, `[/]` the last one
  of all. A bracket is a tag only when a lower-case letter, `#`, `/` or `@`
  follows, so that `[T]` is text; a backslash before a tag makes it text as well.
-/
import SuiteExplorer.Display.Emoji
import SuiteExplorer.Display.Literal
import SuiteExplorer.Display.Style
import SuiteExplorer.Text.Word

namespace SuiteExplorer.Markup

/-! ## 1. Pieces -/

inductive Piece where
  | text (chars : List Char)
  | tag (content : List Char)
deriving Repr, DecidableEq

/-- The first character of a tag. -/
def startsTag (c : Char) : Bool := ('a' ≤ c && c ≤ 'z') || c = '#' || c = '/' || c = '@'

/-- The content of the tag at the front, and what follows it. -/
def tagAt? : List Char → Option (List Char × List Char)
  | '[' :: c :: rest =>
    if startsTag c then
      let more := rest.takeWhile fun d => d ≠ '[' && d ≠ ']'
      match rest.drop more.length with
      | ']' :: after => some (c :: more, after)
      | _ => none
    else none
  | _ => none

/-- A tag reaches over its content and two brackets. -/
theorem length_of_tagAt? {s content after : List Char} (h : tagAt? s = some (content, after)) :
    after.length + content.length + 2 = s.length := by
  unfold tagAt? at h
  split at h
  · next c rest =>
    split at h
    · dsimp only at h
      split at h
      · next d heq =>
        simp only [Option.some.injEq, Prod.mk.injEq] at h
        obtain ⟨rfl, rfl⟩ := h
        have := congrArg List.length heq
        simp only [List.length_drop, List.length_cons] at this ⊢
        omega
      · simp at h
    · simp at h
  · simp at h

/-- Text that is not empty, as a piece. -/
def ofText (chars : List Char) : List Piece := if chars.isEmpty then [] else [.text chars]

/-- Cut a text into pieces. `read` is the text since the last tag, its last
    character first. -/
def pieces (read : List Char) (s : List Char) : List Piece :=
  match s with
  | [] => ofText read.reverse
  | c :: rest =>
    let slashes := ((c :: rest).takeWhile (· = '\\')).length
    match h : tagAt? ((c :: rest).drop slashes) with
    | none => pieces (c :: read) rest
    | some (content, after) =>
      have := length_of_tagAt? h
      let tag := if slashes % 2 = 1 then .text ('[' :: content ++ [']']) else .tag content
      ofText read.reverse ++ ofText (List.replicate (slashes / 2) '\\') ++ tag :: pieces [] after
termination_by s.length
decreasing_by
  · simp
  · simp only [List.length_drop, List.length_cons] at this ⊢
    omega

/-! ## 2. Tags -/

inductive MarkupError where
  /-- no style is open that a tag would close -/
  | unopened (tag : String)
  | nothingOpen
  /-- what is given to a handler is no value -/
  | badHandler (tag : String)
  /-- a part of a colour has no digit -/
  | emptyPart
deriving Repr, DecidableEq

def MarkupError.message : MarkupError → String
  | unopened tag => s!"the tag '[{tag}]' closes a style that is not open"
  | nothingOpen => "the tag '[/]' has nothing to close"
  | badHandler tag => s!"the tag '[{tag}]' gives its handler what is no value"
  | emptyPart => "invalid literal for int() with base 10: ''"

/-- An open style: its name, and what its tag gave to it. -/
structure OpenTag where
  name : String
  given : Option (List Char) := none
deriving Repr, DecidableEq

def nameOf (chars : List Char) : Except MarkupError String :=
  match Display.styleName chars with
  | .ok name => .ok name
  | .error _ => .error .emptyPart

/-- The name in a tag, and what stands behind an equals sign. -/
def splitTag (content : List Char) : List Char × Option (List Char) :=
  let name := content.takeWhile (· ≠ '=')
  match content.drop name.length with
  | _ :: given => (name, some given)
  | [] => (name, none)

/-- The values behind the name of a handler, in parentheses. Without a name in
    front, the whole text is to be the values. -/
def handlerValues (s : List Char) : List Char :=
  let rest := s.dropWhile fun c => Text.isWordChar c || c = '.'
  if rest.isEmpty then "()".toList
  else if rest.head? = some '(' && rest.getLast? = some ')' && 1 < rest.length &&
      !rest.contains '\n' then rest
  else s

/-- What a tag gives to a handler is right. -/
def OpenTag.isSound (t : OpenTag) : Bool :=
  match t.name.startsWith "@", t.given with
  | true, some given => given.isEmpty || Display.isLiteral (handlerValues (Text.trim given))
  | _, _ => true

/-- The style of a tag, with what the tag gives to it. -/
def OpenTag.style (t : OpenTag) : List Char :=
  match t.given with
  | none => t.name.toList
  | some given => t.name.toList ++ ' ' :: given

def OpenTag.check (t : OpenTag) : Except MarkupError Unit :=
  match Display.styleOf t.style with
  | .error .emptyPart => .error .emptyPart
  | _ => .ok ()

/-- Take the last of the open tags with a name, the last one first. -/
def takeOpen? (name : String) : List OpenTag → Option (OpenTag × List OpenTag)
  | [] => none
  | t :: rest =>
    if t.name = name then some (t, rest)
    else (takeOpen? name rest).map fun (found, others) => (found, t :: others)

def closeTag (content name : List Char) (opened : List OpenTag) :
    Except MarkupError (OpenTag × List OpenTag) := do
  let (t, opened) ← match Text.trim name, opened with
    | [], [] => .error .nothingOpen
    | [], t :: rest => pure (t, rest)
    | style, opened => do
      let style ← nameOf style
      match takeOpen? style opened with
      | some found => pure found
      | none => .error (.unopened (String.ofList content))
  if t.isSound then .ok (t, opened) else .error (.badHandler (String.ofList content))

/-! ## 3. Plain text -/

/-- A bracket that belongs to no tag loses a backslash before it. -/
def unescape : List Char → List Char
  | '\\' :: '[' :: rest => '[' :: unescape rest
  | c :: rest => c :: unescape rest
  | [] => []

/-- The controls that are not shown: those that ring or move the cursor. -/
def isHidden (c : Char) : Bool :=
  let n := c.toNat
  n = 7 || n = 8 || n = 11 || n = 12 || n = 13

def shownText (chars : List Char) : List Char :=
  (Display.withEmoji (unescape chars)).filter (!isHidden ·)

/-- The text of pieces while styles are open, and the tags in it. -/
def shown (opened : List OpenTag) : List Piece → Except MarkupError (List Char × List OpenTag)
  | [] => .ok ([], opened)
  | .text chars :: rest => do
    let (more, tags) ← shown opened rest
    return (shownText chars ++ more, tags)
  | .tag content :: rest =>
    let (name, given) := splitTag content
    match name with
    | '/' :: name => do
      let (t, opened) ← closeTag content name opened
      let (more, tags) ← shown opened rest
      return (more, t :: tags)
    | name => do
      let name ← nameOf name
      shown (⟨name, given⟩ :: opened) rest

def plain (s : String) : Except MarkupError (List Char) := do
  let (text, tags) ← shown [] (pieces [] s.toList)
  tags.forM (·.check)
  return text

end SuiteExplorer.Markup
