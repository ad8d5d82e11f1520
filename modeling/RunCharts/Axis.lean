import RunCharts.Binary64.Hundredths

/-!
# The upper end of the axis

The axis of a chart ends some headroom above the greatest of the data and the thresholds. The rule
is stated over any kind of numbers that has an order, a product and hundredths: binary64 numbers,
which are charted, and rational numbers, in which the rule is exact.
-/

namespace RunCharts

/-- What the rule of the axis needs of a kind of numbers. -/
class AxisNumber (α : Type) where
  lt : α → α → Bool
  isOrdered : α → Bool
  /-- Whether a number can end an axis. -/
  isFinite : α → Bool
  mul : α → α → α
  toHundredths : α → α

namespace AxisNumber

instance : AxisNumber Binary64 where
  lt := Binary64.lt
  isOrdered x := x ≠ .nan
  isFinite := Binary64.isFinite
  mul := Binary64.mul
  toHundredths := Binary64.toHundredths

instance : AxisNumber Rat where
  lt x y := x < y
  isOrdered _ := true
  isFinite _ := true
  mul x y := x * y
  toHundredths x := (x * 100 + 1 / 2).floor / 100

end AxisNumber

namespace Axis

variable {α : Type} [AxisNumber α]

/-- The greater of two numbers, none being below every number of the order. Of two that are level,
and of two that are not in order, the first. -/
def greater : Option α → Option α → Option α
  | m, none => m
  | none, some y => if AxisNumber.isOrdered y then some y else none
  | some x, some y => if AxisNumber.lt x y then some y else some x

/-- The greatest of some thresholds, from left to right; a first one out of order is kept. -/
def greatest : List α → Option α
  | [] => none
  | x :: xs => xs.foldl (fun m y => greater m (some y)) (some x)

def top (value : Option α) (fail success : List α) : Option α :=
  greater (greater value (greatest fail)) (greatest success)

def upper (headroom : α) (value : Option α) (fail success : List α) : Option α :=
  match top value fail success with
  | none => none
  | some t =>
    if AxisNumber.isFinite t then some (AxisNumber.toHundredths (AxisNumber.mul t headroom))
    else none

end Axis

end RunCharts
