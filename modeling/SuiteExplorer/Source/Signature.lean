/-
  SuiteExplorer/Source/Signature.lean
  ===================================
  Recognising the signature of a suite-style test method on one line:

      func (s *SomeSuite) TestSomething(c *gocheck.C) {

  The four parts that matter are the receiver's type, the method's name, the
  argument's package qualifier (which may be absent) and its type. A line with
  several readings takes the first one in the pattern's order of preference.
-/
import SuiteExplorer.Source.Basic
import SuiteExplorer.Text.LinePattern

namespace SuiteExplorer

open Text

structure Signature where
  receiver : String
  name : String
  /-- `none` when the argument's type has no qualifier at all -/
  qualifier : Option String
  argument : String
  /-- how many characters of the line the signature covers -/
  width : Nat
deriving Repr, DecidableEq

namespace Signature

/-- The signature as a line pattern: receiver name, receiver type, method
    name, argument name, argument type. -/
def pattern : LinePattern :=
  [.lit "func (".toList, .few, .lit [' '], .maybe '*', .few, .lit ") Test".toList, .few,
    .lit ['('], .few, .lit [' '], .maybe '*', .fewThen ['.'], .few, .lit ") \x7b".toList]

/-- The signature that the start of a line forms, if any. -/
def ofLine? (line : Line) : Option Signature :=
  (pattern.match? line).bind fun m =>
    match m.texts with
    | [_, _, some receiver, some name, _, _, qualifier, some argument] =>
      some
        { receiver := String.ofList receiver
          name := String.ofList ("Test".toList ++ name)
          qualifier := qualifier.map String.ofList
          argument := String.ofList argument
          width := m.length }
    | _ => none

end Signature
end SuiteExplorer
