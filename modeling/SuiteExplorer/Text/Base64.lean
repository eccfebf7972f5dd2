/-
  SuiteExplorer/Text/Base64.lean
  ==============================
  Bytes written with 64 characters, four for three bytes. Everything else
  between them is passed over. An equals sign fills a group up; a group that is
  full of them ends the text.
-/

namespace SuiteExplorer.Text.Base64

/-- The number that a character writes. -/
def value? (c : Char) : Option Nat :=
  let n := c.toNat
  if 'A' ≤ c && c ≤ 'Z' then some (n - 65)
  else if 'a' ≤ c && c ≤ 'z' then some (n - 71)
  else if c.isDigit then some (n + 4)
  else if c = '+' then some 62
  else if c = '/' then some 63
  else none

/-- The bytes of the rest of a text. A group has begun with `filled` characters,
    `pads` equals signs have been seen in it, and `left` is what its last
    character leaves for the next byte. -/
def decodeFrom (filled pads left : Nat) : List Char → Option (List UInt8)
  | [] => if filled = 0 then some [] else none
  | c :: rest =>
    if c = '=' then
      if filled < 2 then decodeFrom filled pads left rest
      else if 4 ≤ filled + pads + 1 then some []
      else decodeFrom filled (pads + 1) left rest
    else match value? c with
      | none => decodeFrom filled pads left rest
      | some n =>
        match filled with
        | 0 => decodeFrom 1 0 n rest
        | 1 => (decodeFrom 2 0 (n % 16) rest).map (UInt8.ofNat (4 * left + n / 16) :: ·)
        | 2 => (decodeFrom 3 0 (n % 4) rest).map (UInt8.ofNat (16 * left + n / 4) :: ·)
        | _ => (decodeFrom 0 0 0 rest).map (UInt8.ofNat (64 * left + n) :: ·)

/-- The bytes of a text; none if its last group is not full. -/
def decode? (s : List Char) : Option (List UInt8) := decodeFrom 0 0 0 s

-- a group of four characters, and one that is filled up
example : decode? "TWFu".toList = some [77, 97, 110] := by decide +kernel
example : decode? "TQ==".toList = some [77] := by decide +kernel

end SuiteExplorer.Text.Base64
