/-!
# Positions

A column is an integer, or infinite where a range runs to the end of its line. Positions that a
lookup answers may lack any of their parts; the position that lacks all of them says that nothing
was found.

Sources have names of a type `σ`, as a rule `String`.
-/

namespace Remap

inductive Column where
  | finite (n : Int)
  | infinite (negative : Bool)
deriving Repr, DecidableEq

namespace Column

instance : Coe Int Column := ⟨finite⟩

/-- The order of columns: minus infinity, the integers, infinity. -/
def compare : Column → Column → Ordering
  | finite a, finite b => Ord.compare a b
  | finite _, infinite negative => if negative then .gt else .lt
  | infinite negative, finite _ => if negative then .lt else .gt
  | infinite a, infinite b => if a = b then .eq else if a then .lt else .gt

instance : Ord Column := ⟨compare⟩

/-- The column one to the left. -/
def pred : Column → Column
  | finite n => finite (n - 1)
  | infinite negative => infinite negative

end Column

/-- Which way a lookup looks when no point fits exactly. -/
inductive Bias where
  | atOrBefore
  | atOrAfter
deriving Repr, DecidableEq

def Bias.name : Bias → String
  | atOrBefore => "greatest_lower_bound"
  | atOrAfter => "least_upper_bound"

def Bias.ofName? (name : String) : Option Bias :=
  [Bias.atOrBefore, .atOrAfter].find? (·.name == name)

/-- A position in an original text. -/
structure OriginalPosition (σ : Type) where
  source : Option σ := none
  line : Option Int := none
  column : Option Column := none
  name : Option String := none
deriving Repr, DecidableEq

/-- An original position that has a line. -/
structure Located (σ : Type) where
  source : Option σ
  line : Int
  column : Option Column
  name : Option String := none
deriving Repr, DecidableEq

def OriginalPosition.located? (position : OriginalPosition σ) : Option (Located σ) :=
  position.line.map fun line => ⟨position.source, line, position.column, position.name⟩

/-- A position in the generated text. -/
structure GeneratedPosition where
  line : Option Int := none
  column : Option Column := none
deriving Repr, DecidableEq

/-- What mapping ranges needs from a source map: the nearest mapped point in each direction.
Lines count from one, columns from zero. -/
structure Lookup (σ : Type) where
  original : Int → Column → Bias → OriginalPosition σ
  generated : σ → Int → Int → Bias → GeneratedPosition

end Remap
