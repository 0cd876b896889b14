import ClassMetrics.Prelude

/-!
How strongly one resource depends on another: it uses it, implements it, or extends it. The
kinds are ordered in that way, and where several dependencies are merged the strongest wins.
-/

namespace ClassMetrics

/-- The kind of a dependency, from weakest to strongest. -/
inductive Usage
  | uses
  | implements
  | extends
  deriving DecidableEq, Repr

namespace Usage

/-- The rank of a kind; stronger ranks higher. -/
def rank : Usage → Nat
  | .uses => 0
  | .implements => 1
  | .extends => 2

/-- The stronger of two kinds. -/
def strongest (a b : Usage) : Usage := if a.rank ≤ b.rank then b else a

/-- The kind's name in data. -/
def name : Usage → String
  | .uses => "USES"
  | .implements => "IMPLEMENTS"
  | .extends => "EXTENDS"

/-- The kind's name in text reports. -/
def title : Usage → String
  | .uses => "Uses"
  | .implements => "Implements"
  | .extends => "Extends"

/-- The kind a name stands for. -/
def ofName? : String → Option Usage
  | "USES" => some .uses
  | "IMPLEMENTS" => some .implements
  | "EXTENDS" => some .extends
  | _ => none

end Usage

end ClassMetrics
