/-
  SuiteExplorer/Value/Atom.lean
  =============================
  Values that hold no other values. They can also be the keys of mappings, and
  as keys they are told apart by what they stand for: a truth value is the same
  key as its number, a number with a fraction of zero the same as the integer,
  and a time the same as the same instant elsewhere.
-/
import SuiteExplorer.Number.Binary64
import SuiteExplorer.Text.Quoted
import SuiteExplorer.Value.Moment

namespace SuiteExplorer

/-- A value that holds no other values. -/
inductive Atom where
  | null
  | bool (b : Bool)
  | int (n : Int)
  | float (x : Binary64)
  | text (s : String)
  | bytes (b : List UInt8)
  | moment (m : Moment)
deriving Repr, DecidableEq, Inhabited

instance : Coe String Atom := ⟨.text⟩

/-- What a key stands for. -/
inductive Identity where
  | null
  | integer (n : Int)
  | number (x : Binary64)
  | text (s : String)
  | bytes (b : List UInt8)
  | moment (m : Moment)
  | instant (micros : Int)
deriving Repr, DecidableEq

namespace Atom

def identity : Atom → Identity
  | null => .null
  | bool b => .integer b.toNat
  | int n => .integer n
  | float x => match x.toInt? with
    | some n => .integer n
    | none => .number x
  | text s => .text s
  | bytes b => .bytes b
  | moment m => match m.clock with
    | some c => match c.ahead with
      | some ahead => .instant (m.instant c ahead)
      | none => .moment m
    | none => .moment m

def same (a b : Atom) : Bool := a.identity = b.identity

theorem same_refl (a : Atom) : a.same a = true := by simp [same]

theorem same_comm (a b : Atom) : a.same b = b.same a := by
  simp only [same]
  exact decide_eq_decide.2 eq_comm

theorem same_trans {a b c : Atom} (hab : a.same b = true) (hbc : b.same c = true) :
    a.same c = true := by
  simp_all [same]

/-- Texts are the same key only if they are equal. -/
@[simp] theorem same_text (s t : String) : (text s).same (text t) = decide (s = t) := by
  simp [same, identity]

/-- An atom as it appears inside a value. -/
def literal : Atom → String
  | null => "None"
  | bool true => "True"
  | bool false => "False"
  | int n => toString n
  | float x => x.text
  | text s => Text.quoted s
  | bytes b => Text.quotedBytes b
  | moment m => m.literal

/-- An atom in a message. -/
def display : Atom → String
  | text s => s
  | moment m => m.display
  | a => a.literal

/-- The atom counts as nothing where something is expected. -/
def isBlank : Atom → Bool
  | null | bool false | int 0 | text "" | bytes [] => true
  | float x => x.toInt? = some 0
  | _ => false

end Atom
end SuiteExplorer
