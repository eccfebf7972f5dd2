/-
  SuiteExplorer/Text/Glob.lean
  ============================
  Shell-style patterns over whole texts: `*` for any stretch of characters,
  also across separators and line ends, `?` for one character, and `[...]` for
  one character out of a set.

  Inside a set, a hyphen between two characters makes a range, except directly
  behind the end of another range; a range that runs backwards disappears
  together with its two ends. What then remains decides: a set that opens with
  `!` is negated, and a set without characters matches nothing. A bracket that
  is never closed is an ordinary character.
-/
import SuiteExplorer.Text.Lines

namespace SuiteExplorer.Text

/-! ## 1. Sets of characters -/

/-- The characters from the first to the last. -/
structure CharRange where
  first : Char
  last : Char
deriving Repr, DecidableEq

def CharRange.has (r : CharRange) (c : Char) : Bool := r.first ≤ c && c ≤ r.last

/-- A set of characters, or everything else. -/
structure CharSet where
  negated : Bool
  ranges : List CharRange
deriving Repr, DecidableEq

def CharSet.has (s : CharSet) (c : Char) : Bool := s.negated != s.ranges.any (·.has c)

namespace CharSet

def all : CharSet := ⟨true, []⟩

/-- One character alone. -/
def only (c : Char) : CharSet := ⟨false, [⟨c, c⟩]⟩

@[simp] theorem has_all (c : Char) : all.has c = true := rfl

theorem only_has {a c : Char} : (only a).has c = true ↔ c = a := by
  simp only [only, has, CharRange.has, List.any_cons, List.any_nil, Bool.or_false, Bool.false_bne,
    Bool.and_eq_true, decide_eq_true_eq]
  constructor
  · rintro ⟨h, k⟩
    exact Char.le_antisymm k h
  · rintro rfl
    exact ⟨Char.le_refl _, Char.le_refl _⟩

/-! ### Reading a set -/

/-- What stands between the brackets after `[`, and the text behind the closing
    one. The bracket may stand for itself at the front. -/
def body? (s : List Char) : Option (List Char × List Char) :=
  let bang := if s.head? = some '!' then 1 else 0
  let bracket := if (s.drop bang).head? = some ']' then 1 else 0
  let front := bang + bracket
  match (s.drop front).dropWhile (· ≠ ']') with
  | [] => none
  | _ :: rest => some (s.take front ++ (s.drop front).takeWhile (· ≠ ']'), rest)

/-- Cut at hyphens, never within the first `skip` characters of a piece: a
    hyphen that directly follows the end of a range is an ordinary character. -/
def rangeParts : Nat → Nat → List Char → List (List Char)
  | 0, _, s => [s]
  | fuel + 1, skip, s =>
    let head := s.take skip ++ (s.drop skip).takeWhile (· ≠ '-')
    match (s.drop skip).dropWhile (· ≠ '-') with
    | [] => [s]
    | _ :: [] => [head ++ ['-']]
    | _ :: rest => head :: rangeParts fuel 2 rest

/-- Drop each range that runs backwards, from the last one on. -/
def dropBackward : List (List Char) → List (List Char)
  | [] => []
  | part :: rest =>
    match dropBackward rest with
    | [] => [part]
    | next :: more =>
      match part.getLast?, next.head? with
      | some a, some b =>
        if b < a then (part.dropLast ++ next.tail) :: more else part :: next :: more
      | _, _ => part :: next :: more

/-- A character of a set, or the hyphen of a range. -/
inductive Mark where
  | char (c : Char)
  | through
deriving Repr, DecidableEq

/-- Put the parts together again, the hyphens between them marked. -/
def marks : List (List Char) → List Mark
  | [] => []
  | [part] => part.map .char
  | part :: rest => part.map .char ++ .through :: marks rest

/-- The ranges that marked characters form. A range without a start or an end
    leaves its hyphen as a character. -/
def rangesOf : List Mark → List CharRange
  | .char a :: .through :: .char b :: rest => ⟨a, b⟩ :: rangesOf rest
  | .char a :: rest => ⟨a, a⟩ :: rangesOf rest
  | .through :: rest => ⟨'-', '-'⟩ :: rangesOf rest
  | [] => []

/-- The set written between the brackets. -/
def ofBody (body : List Char) : CharSet :=
  let skip := if body.head? = some '!' then 2 else 1
  let parts := if body.contains '-' then dropBackward (rangeParts body.length skip body) else [body]
  match marks parts with
  | .char '!' :: rest => ⟨true, rangesOf rest⟩
  | all => ⟨false, rangesOf all⟩

end CharSet

/-! ## 2. Patterns -/

inductive GlobPiece where
  | stretch
  | one (set : CharSet)
deriving Repr, DecidableEq

abbrev Glob := List GlobPiece

namespace Glob

/-- Read a pattern. Stars next to each other are one. -/
def ofChars : Nat → List Char → Glob
  | 0, _ => []
  | _, [] => []
  | fuel + 1, c :: rest =>
    if c = '*' then
      match ofChars fuel rest with
      | .stretch :: more => .stretch :: more
      | more => .stretch :: more
    else if c = '?' then .one .all :: ofChars fuel rest
    else if c = '[' then
      match CharSet.body? rest with
      | none => .one (.only '[') :: ofChars fuel rest
      | some (body, after) => .one (.ofBody body) :: ofChars fuel after
    else .one (.only c) :: ofChars fuel rest

def ofString (s : String) : Glob := ofChars s.length s.toList

/-- The text is one that the pattern describes, from its first to its last
    character. -/
inductive Describes : Glob → List Char → Prop
  | nil : Describes [] []
  | one {set : CharSet} {c : Char} {pieces : Glob} {s : List Char} :
      set.has c → Describes pieces s → Describes (.one set :: pieces) (c :: s)
  | stretch (before : List Char) {pieces : Glob} {s : List Char} :
      Describes pieces s → Describes (.stretch :: pieces) (before ++ s)

/-! ### Deciding

For each piece of a pattern, from the last one back, a row tells of every rest
of the text, the whole of it first, whether the pieces from there on describe
it. So a text is decided in as many steps as it has characters times pieces. -/

/-- Without pieces, the empty rest alone is described. -/
def lastRow : List Char → List Bool
  | [] => [true]
  | _ :: s => false :: lastRow s

/-- The row of a piece for one character, from the row of the pieces behind it. -/
def oneRow (set : CharSet) : List Char → List Bool → List Bool
  | c :: s, _ :: row => (set.has c && row.headD false) :: oneRow set s row
  | _, _ => [false]

/-- The row of a stretch, from the row of the pieces behind it. -/
def stretchRow : List Bool → List Bool
  | [] => []
  | b :: row =>
    let rest := stretchRow row
    (b || rest.headD false) :: rest

def row : Glob → List Char → List Bool
  | [], s => lastRow s
  | .one set :: pieces, s => oneRow set s (row pieces s)
  | .stretch :: pieces, s => stretchRow (row pieces s)

/-- Decide whether the pattern describes a text. -/
def accepts (pieces : Glob) (s : List Char) : Bool := (row pieces s).headD false

/-- The row of a text goes on with the row of its rest. -/
theorem row_cons (pieces : Glob) (c : Char) (s : List Char) :
    row pieces (c :: s) = accepts pieces (c :: s) :: row pieces s := by
  induction pieces with
  | nil => rfl
  | cons piece pieces ih =>
    cases piece with
    | stretch =>
      change stretchRow (row pieces (c :: s)) =
        (stretchRow (row pieces (c :: s))).headD false :: stretchRow (row pieces s)
      rw [ih]
      rfl
    | one set =>
      change oneRow set (c :: s) (row pieces (c :: s)) =
        (oneRow set (c :: s) (row pieces (c :: s))).headD false :: oneRow set s (row pieces s)
      rw [ih]
      rfl

/-- The row of the empty text holds one answer. -/
theorem row_nil (pieces : Glob) : row pieces [] = [accepts pieces []] := by
  induction pieces with
  | nil => rfl
  | cons piece pieces ih =>
    cases piece with
    | stretch =>
      change stretchRow (row pieces []) = [(stretchRow (row pieces [])).headD false]
      rw [ih]
      rfl
    | one set => rfl

@[simp] theorem accepts_nil (s : List Char) : accepts [] s = s.isEmpty := by
  cases s <;> rfl

@[simp] theorem accepts_one_nil (set : CharSet) (pieces : Glob) :
    accepts (.one set :: pieces) [] = false := by
  simp [accepts, row, oneRow]

@[simp] theorem accepts_one_cons (set : CharSet) (pieces : Glob) (c : Char) (s : List Char) :
    accepts (.one set :: pieces) (c :: s) = (set.has c && accepts pieces s) := by
  have h := row_cons pieces c s
  rw [accepts, row, h, oneRow]
  rfl

@[simp] theorem accepts_stretch_nil (pieces : Glob) :
    accepts (.stretch :: pieces) [] = accepts pieces [] := by
  rw [accepts, row, row_nil]
  simp [stretchRow]

@[simp] theorem accepts_stretch_cons (pieces : Glob) (c : Char) (s : List Char) :
    accepts (.stretch :: pieces) (c :: s) =
      (accepts pieces (c :: s) || accepts (.stretch :: pieces) s) := by
  rw [accepts, row, row_cons, stretchRow]
  rfl

/-- A stretch may take any part of the front. -/
theorem accepts_stretch_append (pieces : Glob) (before s : List Char)
    (h : accepts pieces s = true) : accepts (.stretch :: pieces) (before ++ s) = true := by
  induction before with
  | nil => cases s <;> simp_all
  | cons c before ih => simp [ih]

/-- What a stretch takes can be told. -/
theorem describes_of_accepts_stretch {pieces : Glob}
    (ih : ∀ s, accepts pieces s = true → Describes pieces s) (s : List Char)
    (h : accepts (.stretch :: pieces) s = true) : Describes (.stretch :: pieces) s := by
  induction s with
  | nil => exact .stretch [] (ih [] (by simpa using h))
  | cons c s ihs =>
    rw [accepts_stretch_cons, Bool.or_eq_true] at h
    rcases h with h | h
    · exact .stretch [] (ih _ h)
    · generalize hp : GlobPiece.stretch :: pieces = all at ihs
      cases ihs (hp ▸ h) with
      | nil => cases hp
      | one => cases hp
      | stretch before hd =>
        cases hp
        exact .stretch (c :: before) hd

theorem accepts_iff (pieces : Glob) (s : List Char) :
    accepts pieces s = true ↔ Describes pieces s := by
  constructor
  · intro h
    induction pieces generalizing s with
    | nil =>
      obtain rfl : s = [] := by simpa using h
      exact .nil
    | cons piece pieces ih =>
      cases piece with
      | stretch => exact describes_of_accepts_stretch ih s h
      | one set =>
        cases s with
        | nil => simp at h
        | cons c s =>
          rw [accepts_one_cons, Bool.and_eq_true] at h
          exact .one h.1 (ih s h.2)
  · intro h
    induction h with
    | nil => simp
    | one hc _ ih => simp [hc, ih]
    | stretch before _ ih => exact accepts_stretch_append _ before _ ih

end Glob
end SuiteExplorer.Text
