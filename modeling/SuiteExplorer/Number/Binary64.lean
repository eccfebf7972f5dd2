/-
  SuiteExplorer/Number/Binary64.lean
  ==================================
  Numbers with 53 binary digits and an exponent, as documents hold fractions.
  All arithmetic is exact on quotients of integers, followed by one rounding:
  to the nearest number, of two equally near ones to that whose last digit is
  even.
-/

namespace SuiteExplorer

/-- A number with 53 binary digits. A finite one is `significand * 2 ^ exponent`,
    with an exponent as small as the 53 digits and the least exponent allow. -/
inductive Binary64 where
  | nan
  | infinite (negative : Bool)
  | finite (negative : Bool) (significand : Nat) (exponent : Int)
deriving Repr, DecidableEq

namespace Binary64

def leastExponent : Int := -1074

def greatestExponent : Int := 971

/-- A quotient rounded to the nearest integer, halves to the even one. -/
def roundDiv (num den : Nat) : Nat :=
  let q := num / den
  let twice := 2 * (num % den)
  if den < twice || (twice = den && q % 2 = 1) then q + 1 else q

/-- The quotient as a numerator and a denominator times a power of two. -/
def scaled (num den : Nat) (exponent : Int) : Nat × Nat :=
  (num * Nat.pow 2 (-exponent).toNat, den * Nat.pow 2 exponent.toNat)

/-- The exponent at which a quotient has 53 digits before the point, unless that
    is below the least one. -/
def exponentFor (num den : Nat) : Int :=
  let guess : Int := Nat.log2 num - Nat.log2 den - 53
  let (n, d) := scaled num den guess
  max leastExponent (if n < d * 0x20000000000000 then guess else guess + 1)

def ofQuotient (negative : Bool) (num den : Nat) : Binary64 :=
  if num = 0 then finite negative 0 leastExponent
  else
    let e := exponentFor num den
    let (n, d) := scaled num den e
    let m := roundDiv n d
    let (m, e) := if m = 0x20000000000000 then (0x10000000000000, e + 1) else (m, e)
    if greatestExponent < e then infinite negative else finite negative m e

/-- The number nearest to `digits * 10 ^ exponent`. No number is that far from
    one that an exponent of more than a few thousand beyond the count of digits
    made a difference. -/
def ofDecimal (negative : Bool) (digits : Nat) (exponent : Int) : Binary64 :=
  if digits = 0 then finite negative 0 leastExponent
  else
    let size : Int := Nat.log2 digits
    if 5000 < exponent then infinite negative
    else if 3 * exponent + size < -5000 then finite negative 0 leastExponent
    else ofQuotient negative (digits * Nat.pow 10 exponent.toNat) (Nat.pow 10 (-exponent).toNat)

def ofInt (n : Int) : Binary64 := ofQuotient (n < 0) n.natAbs 1

def isNegative : Binary64 → Bool
  | nan => false
  | infinite negative | finite negative _ _ => negative

def neg : Binary64 → Binary64
  | nan => nan
  | infinite negative => infinite !negative
  | finite negative m e => finite (!negative) m e

/-- A finite number as a quotient, without its sign. -/
def quotient (m : Nat) (e : Int) : Nat × Nat := (m * Nat.pow 2 e.toNat, Nat.pow 2 (-e).toNat)

/-- The integer that a number is, if it is one. -/
def toInt? : Binary64 → Option Int
  | finite negative m e =>
    let (n, d) := quotient m e
    if n % d = 0 then some (if negative then -(n / d : Nat) else (n / d : Nat)) else none
  | _ => none

def add : Binary64 → Binary64 → Binary64
  | finite s m e, finite t n f =>
    let (a, b) := quotient m e
    let (c, d) := quotient n f
    let x : Int := (if s then -1 else 1) * (a * d : Nat) + (if t then -1 else 1) * (c * b : Nat)
    ofQuotient (if x = 0 then s && t else x < 0) x.natAbs (b * d)
  | nan, _ | _, nan => nan
  | infinite s, infinite t => if s = t then infinite s else nan
  | infinite s, _ | _, infinite s => infinite s

def mul : Binary64 → Binary64 → Binary64
  | finite s m e, finite t n f =>
    let (a, b) := quotient m e
    let (c, d) := quotient n f
    ofQuotient (s != t) (a * c) (b * d)
  | nan, _ | _, nan => nan
  | infinite s, infinite t => infinite (s != t)
  | infinite s, finite t m _ | finite s m _, infinite t =>
    if m = 0 then nan else infinite (s != t)

/-! ## In digits -/

/-- The greatest `k` with `10 ^ k ≤ num / den`, searched upwards from `k`; the
    first guess falls short by few. -/
def decimalExponent (num den : Nat) : Nat → Int → Int
  | 0, k => k
  | fuel + 1, k =>
    if den * Nat.pow 10 (k + 1).toNat ≤ num * Nat.pow 10 (-(k + 1)).toNat then
      decimalExponent num den fuel (k + 1)
    else k

/-- The fewest digits, and the exponent of the last one, that read back as the
    number; of two such texts the nearer one. `count` digits are tried, and then
    one more as long as `fuel` lasts: seventeen always do. -/
def fewest (x : Binary64) (num den : Nat) (k : Int) : Nat → Nat → Nat × Int
  | 0, _ => (0, 0)
  | fuel + 1, count =>
    let last : Int := k - (count - 1 : Nat)
    let n := num * Nat.pow 10 (-last).toNat
    let d := den * Nat.pow 10 last.toNat
    let below := n / d
    let reads (digits : Nat) : Bool := ofDecimal x.isNegative digits last = x
    let nearest := roundDiv n d
    if reads nearest then (nearest, last)
    else if reads below then (below, last)
    else if reads (below + 1) then (below + 1, last)
    else fewest x num den k fuel (count + 1)

def trimmed : Nat → Nat × Int → Nat × Int
  | 0, d => d
  | fuel + 1, (digits, last) =>
    if digits ≠ 0 && digits % 10 = 0 then trimmed fuel (digits / 10, last + 1) else (digits, last)

/-- The digits of a finite number and the exponent of the last one. -/
def digits (x : Binary64) (m : Nat) (e : Int) : Nat × Int :=
  if m = 0 then (0, 0)
  else
    let (num, den) := quotient m e
    let guess : Int := (((Nat.log2 num : Int) - Nat.log2 den - 1) * 30103) / 100000 - 1
    trimmed 20 (fewest x num den (decimalExponent num den 5 guess) 17 1)

/-- An exponent with its sign and at least two digits. -/
def exponentText (k : Int) : String :=
  let n := toString k.natAbs
  "e" ++ (if k < 0 then "-" else "+") ++ (if n.length < 2 then "0" ++ n else n)

/-- A number in the fewest digits that read back: with a point below 10 ^ 16 and
    from 10 ^ -4 on, else with an exponent. -/
def text : Binary64 → String
  | nan => "nan"
  | infinite false => "inf"
  | infinite true => "-inf"
  | finite negative m e =>
    let (digits, last) := digits (finite negative m e) m e
    let written := toString digits
    let point : Int := written.length + last
    let unsigned :=
      if -4 < point && point ≤ 16 then
        if point ≤ 0 then "0." ++ "".pushn '0' (-point).toNat ++ written
        else if last < 0 then
          String.ofList (written.toList.take point.toNat) ++ "." ++
            String.ofList (written.toList.drop point.toNat)
        else written ++ "".pushn '0' last.toNat ++ ".0"
      else
        let fraction := String.ofList (written.toList.drop 1)
        String.ofList (written.toList.take 1) ++ (if fraction.isEmpty then "" else "." ++ fraction) ++
          exponentText (point - 1)
    (if negative then "-" else "") ++ unsigned

end Binary64
end SuiteExplorer
