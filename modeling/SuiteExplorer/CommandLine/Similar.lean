/-
  SuiteExplorer/CommandLine/Similar.lean
  ======================================
  Which of several names someone may have meant. Two names are compared by the
  characters they share: those of their longest common block, and then those
  shared to the left and to the right of it.
-/

namespace SuiteExplorer.Similar

/-- How many characters two texts share at their start. -/
def common : List Char → List Char → Nat
  | a :: s, b :: t => if a = b then common s t + 1 else 0
  | _, _ => 0

/-- A block that two texts share: where it begins in each, and its length. -/
structure Block where
  first : Nat
  second : Nat
  size : Nat
deriving Repr, DecidableEq

/-- The longest block of two texts; the leftmost one in the first text, then in
    the second. -/
def longest (s t : List Char) : Block :=
  (List.range s.length).foldl
    (fun best i => (List.range t.length).foldl
      (fun best j =>
        let size := common (s.drop i) (t.drop j)
        if best.size < size then ⟨i, j, size⟩ else best)
      best)
    ⟨0, 0, 0⟩

/-- How many characters two texts share, block by block. The fuel bounds the
    number of cuts, and the length of one of the texts is enough. -/
def sharedCount : Nat → List Char → List Char → Nat
  | 0, _, _ => 0
  | fuel + 1, s, t =>
    let b := longest s t
    if b.size = 0 then 0
    else b.size + sharedCount fuel (s.take b.first) (t.take b.second)
      + sharedCount fuel (s.drop (b.first + b.size)) (t.drop (b.second + b.size))

/-- A name and how many characters it shares with what was meant. -/
structure Candidate where
  name : String
  shared : Nat
  total : Nat
deriving Repr, DecidableEq

def Candidate.of (meant name : String) : Candidate :=
  ⟨name, sharedCount (name.length + 1) name.toList meant.toList, name.length + meant.length⟩

/-- At least six tenths of all characters are shared. -/
def Candidate.isClose (c : Candidate) : Bool := 6 * c.total ≤ 20 * c.shared

/-- A candidate is at least as close as another one; among equals the name that
    is later in the alphabet counts as closer. -/
def Candidate.before (a b : Candidate) : Bool :=
  let left := a.shared * b.total
  let right := b.shared * a.total
  right < left || (left = right && b.name ≤ a.name)

def limit : Nat := 3

/-- The names that are close to what was meant, the closest first. -/
def closest (meant : String) (names : List String) : List String :=
  ((((names.map (Candidate.of meant)).filter (·.isClose)).mergeSort Candidate.before).take
    limit).map (·.name)

end SuiteExplorer.Similar
