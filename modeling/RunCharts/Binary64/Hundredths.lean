import RunCharts.Binary64.Basic

/-!
# Hundredths

Numbers for charts are rounded to hundredths, a half going up. A number too large to be scaled is
whole already and stays.
-/

namespace RunCharts.Binary64

def hundred : Binary64 := ofInt 100

def half : Binary64 := ofRatio 1 2

/-- The number of hundredths nearest to a number, a half going up, as far as it can be scaled. -/
def hundredths? (x : Binary64) : Option Int := ((x.mul hundred).add half).floor?

def toHundredths (x : Binary64) : Binary64 :=
  match hundredths? x with
  | some n => ofRatio n 100
  | none => x

end RunCharts.Binary64
