import WireSchema.Version.Range

/-!
Tests that decide whether a version lies in a range. `Condition.within range parent` is the least test for
versions that are already known to lie in `parent`: a bound that the parent has too is not tested.
-/

namespace WireSchema.Version

open WireSchema.Text

inductive Condition where
  | always
  | never
  | atLeast (min : Int16)
  | atMost (max : Int16)
  | between (min max : Int16)
  deriving DecidableEq, Repr

namespace Condition

def holds : Condition → Int16 → Bool
  | .always, _ => true
  | .never, _ => false
  | .atLeast min, v => min ≤ v
  | .atMost max, v => v ≤ max
  | .between min max, v => min ≤ v && v ≤ max

/-- The test as an expression over the variable `var`. -/
def render (var : String) : Condition → String
  | .always => "true"
  | .never => "false"
  | .atLeast min => var ++ " >= " ++ Numeral.decimal min.toInt
  | .atMost max => var ++ " <= " ++ Numeral.decimal max.toInt
  | .between min max =>
    var ++ " >= " ++ Numeral.decimal min.toInt ++ " && " ++ var ++ " <= " ++
      Numeral.decimal max.toInt

/-- The opposite of the test. -/
def renderNegated (var : String) : Condition → String
  | .always => "false"
  | .never => "true"
  | .atLeast min => var ++ " < " ++ Numeral.decimal min.toInt
  | .atMost max => var ++ " > " ++ Numeral.decimal max.toInt
  | .between min max =>
    var ++ " < " ++ Numeral.decimal min.toInt ++ " || " ++ var ++ " > " ++
      Numeral.decimal max.toInt

/-- An unset range has no versions. -/
def within (range parent : Option Range) : Condition :=
  match range with
  | none => .never
  | some r =>
    if r.isEmpty then .never
    else
      match parent with
      | none => if r.isOpen then .atLeast r.min else .between r.min r.max
      | some p =>
        if r.isOpen || r.max == p.max then
          if r.min == p.min then .always else .atLeast r.min
        else if r.min == p.min then .atMost r.max
        else .between r.min r.max

end Condition

end WireSchema.Version
