/-
  SuiteExplorer/Display/Emoji.lean
  ================================
  Pictures by their names. A name between two colons is shown as its picture; a
  name may end in `-emoji` or `-text`, which say how the picture is drawn. What
  no picture is called stays as it is.
-/
import SuiteExplorer.Display.EmojiNames
import SuiteExplorer.Text.Blank
import SuiteExplorer.Text.Digit
import SuiteExplorer.Text.Lines
import SuiteExplorer.Text.Lower

namespace SuiteExplorer.Display

/-! ## 1. Pictures -/

def afterName? (name : List Char) : List (List Char) → Option (List Char)
  | n :: made :: rest => if n = name then some made else afterName? name rest
  | _ => none

/-- What the picture with a name is made of, if it is in one of some rows. -/
def lookUp? (rows : List String) (name : List Char) : Option (List Char) :=
  rows.findSome? fun row => afterName? name (Text.cutAt ' ' row.toList)

/-- The flag of a region, by its two letters. -/
def flag (letters : List Char) : List Char :=
  letters.map fun c => Char.ofNat (c.toNat - 'a'.toNat + 0x1F1E6)

/-- The picture that is made of some characters, by their numbers. -/
def picture (numbers : List Char) : List Char :=
  (Text.cutAt '-' numbers).filterMap fun digits => (Text.hexNumber? digits).map Char.ofNat

/-- Draw a picture in colours. -/
def drawnMark : Char := Char.ofNat 0xFE0F

/-- Draw a picture as a letter. -/
def writtenMark : Char := Char.ofNat 0xFE0E

/-- How the name of a picture ends in one of the skin tones, and the character
    that gives it the tone. -/
def skinTones : List (String × Nat) :=
  [("_light_skin_tone", 0x1F3FB), ("_medium-light_skin_tone", 0x1F3FC),
    ("_medium_skin_tone", 0x1F3FD), ("_medium-dark_skin_tone", 0x1F3FE),
    ("_dark_skin_tone", 0x1F3FF)]

/-- A text without an ending that it has. -/
def withoutEnding? (ending : String) (s : List Char) : Option (List Char) :=
  if ending.toList.isSuffixOf s then some (s.take (s.length - ending.length)) else none

def inTone (tone : Nat) : List Char → List Char
  | [] => []
  | c :: rest => c :: Char.ofNat tone :: rest.dropWhile (· = drawnMark)

def tonedPicture? (name : List Char) : Option (List Char) :=
  skinTones.findSome? fun (ending, tone) => do
    let person ← withoutEnding? ending name
    let numbers ← lookUp? personRows person
    some (inTone tone (picture numbers))

def namedFlag? (name : List Char) : Option (List Char) :=
  let lead := "flag_for_".toList
  let region := if lead.isPrefixOf name then name.drop lead.length else name
  ((lookUp? flagRows name).or (lookUp? regionRows region)).map flag

def emoji? (name : List Char) : Option (List Char) :=
  (((lookUp? pictureRows name).or (lookUp? personRows name)).map picture).or
    ((tonedPicture? name).or (namedFlag? name))

/-! ## 2. Names in a text -/

/-- A name that may end in how its picture is drawn. -/
def drawing (s : List Char) : List Char × List Char :=
  match withoutEnding? "-emoji" s, withoutEnding? "-text" s with
  | some name, _ => (name, [drawnMark])
  | none, some name => (name, [writtenMark])
  | none, none => (s, [])

/-- What is shown for a name between colons. -/
def shownName (s : List Char) : List Char :=
  let (name, mark) := drawing s
  match emoji? (Text.lower (String.ofList name)).toList with
  | some found => found ++ mark
  | none => ':' :: s ++ [':']

/-- What stands before the next colon, if no blank does, and what follows it. -/
def upToColon? (s : List Char) : Option (List Char × List Char) :=
  let name := s.takeWhile fun c => c ≠ ':' && !Text.isBlank c
  match s.drop name.length with
  | ':' :: rest => some (name, rest)
  | _ => none

/-- What follows a name is shorter than what the name began. -/
theorem length_of_upToColon? {s name rest : List Char} (h : upToColon? s = some (name, rest)) :
    rest.length < s.length := by
  unfold upToColon? at h
  dsimp only at h
  split at h
  · next heq =>
    simp only [Option.some.injEq, Prod.mk.injEq] at h
    obtain ⟨-, rfl⟩ := h
    have := congrArg List.length heq
    simp only [List.length_drop, List.length_cons] at this
    omega
  · simp at h

def withEmoji : List Char → List Char
  | [] => []
  | c :: s =>
    if c = ':' then
      match h : upToColon? s with
      | some (name, rest) =>
        have := length_of_upToColon? h
        shownName name ++ withEmoji rest
      | none => c :: withEmoji s
    else c :: withEmoji s
termination_by s => s.length

end SuiteExplorer.Display
