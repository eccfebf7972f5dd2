/-
  SuiteExplorer/Text/Utf8.lean
  ============================
  Decoding bytes as UTF-8, byte by byte. What cannot be decoded becomes one
  replacement character for each longest stretch that could still have begun a
  character. A decoder that is fed piece by piece keeps the beginning of a
  character until its other bytes arrive, so it does not matter where the bytes
  are cut.
-/

namespace SuiteExplorer.Text.Utf8

/-- What a decoder has seen of the character it is in the middle of: the bits
    so far, how many bytes are missing, and the range of the next one. Nothing
    is missing between two characters. -/
structure Pending where
  bits : Nat := 0
  missing : Nat := 0
  low : Nat := 0x80
  high : Nat := 0xBF
deriving Repr, DecidableEq

/-- The character that stands for what cannot be decoded. -/
def replacement : Char := Char.ofNat 0xFFFD

/-- A byte at the start of a character. The ranges exclude longer forms than
    needed, surrogates, and numbers beyond the last character. -/
def start (b : Nat) : Pending × List Char :=
  if b < 0x80 then ({}, [Char.ofNat b])
  else if 0xC2 ≤ b && b ≤ 0xDF then ({ bits := b - 0xC0, missing := 1 }, [])
  else if b = 0xE0 then ({ bits := 0, missing := 2, low := 0xA0 }, [])
  else if b = 0xED then ({ bits := 0xD, missing := 2, high := 0x9F }, [])
  else if 0xE1 ≤ b && b ≤ 0xEF then ({ bits := b - 0xE0, missing := 2 }, [])
  else if b = 0xF0 then ({ bits := 0, missing := 3, low := 0x90 }, [])
  else if b = 0xF4 then ({ bits := 4, missing := 3, high := 0x8F }, [])
  else if 0xF1 ≤ b && b ≤ 0xF3 then ({ bits := b - 0xF0, missing := 3 }, [])
  else ({}, [replacement])

/-- One more byte. A byte that cannot continue a character ends it, and begins
    the next one. -/
def step (p : Pending) (byte : UInt8) : Pending × List Char :=
  let b := byte.toNat
  if p.missing = 0 then start b
  else if p.low ≤ b && b ≤ p.high then
    let bits := p.bits * 64 + (b - 0x80)
    if p.missing = 1 then ({}, [Char.ofNat bits])
    else ({ bits := bits, missing := p.missing - 1 }, [])
  else
    let (next, out) := start b
    (next, replacement :: out)

def feed (p : Pending) : List UInt8 → Pending × List Char
  | [] => (p, [])
  | b :: rest =>
    let (next, out) := step p b
    let (last, more) := feed next rest
    (last, out ++ more)

/-- The end of the bytes: a character that is not complete is replaced. -/
def finish (p : Pending) : List Char := if p.missing = 0 then [] else [replacement]

def decode (bytes : List UInt8) : String :=
  let (p, out) := feed {} bytes
  String.ofList (out ++ finish p)

/-- Feeding in two pieces is feeding the whole. -/
theorem feed_append (p : Pending) (a b : List UInt8) :
    feed p (a ++ b) = ((feed (feed p a).1 b).1, (feed p a).2 ++ (feed (feed p a).1 b).2) := by
  induction a generalizing p with
  | nil => simp [feed]
  | cons x a ih => simp [feed, ih]

end SuiteExplorer.Text.Utf8
