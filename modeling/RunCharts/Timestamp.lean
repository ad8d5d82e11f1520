import RunCharts.Calendar.Iso
import RunCharts.Calendar.Prose
import RunCharts.Calendar.Shorthand
import RunCharts.Fault
import RunCharts.Text.Surrogate

/-!
# Time stamps

The milliseconds from the start of 1970 that a text stands for, rounded down. A text is read with
the year in front, else in a short form, else in words. Instants are kept as nanoseconds in 64 bits:
of what lies outside, a text that needs nanoseconds has no value and any other is a fault.

No text is read by the clock here. Where the instant would depend on the day of the reading, as with
"now", "today" and a time without its whole date, there is none; the century of a year of two digits
is fixed.
-/

namespace RunCharts.Timestamp

open Text

/-- The greatest number of nanoseconds, either way from the start of 1970: `2 ^ 63 - 1`. -/
def instantLimit : Nat := 9223372036854775807

def InRange (instant : Int) : Prop := instant.natAbs ≤ instantLimit

instance (instant : Int) : Decidable (InRange instant) := inferInstanceAs (Decidable (_ ≤ _))

def millisOfInstant (instant : Int) : Int := Int.fdiv instant 1000000

/-- Whether a date-time is in range as it is written, its zone left aside. What is cut from the
fraction counts at the very end of the range. -/
def IsWrittenInRange (t : DateTime) (fraction : List Nat) : Prop :=
  InRange t.localInstant ∧ ¬(t.localInstant = instantLimit ∧ (fraction.drop 9).any (· ≠ 0))

instance (t : DateTime) (fraction : List Nat) : Decidable (IsWrittenInRange t fraction) :=
  inferInstanceAs (Decidable (_ ∧ _))

/-- What an instant out of range comes to: no value if it needs nanoseconds. -/
def beyondRange (fraction : List Nat) : Except Fault (Option Int) :=
  if 6 < fraction.length then .ok none else .error .instantRange

def millisOfDateTime (t : DateTime) (fraction : List Nat) : Except Fault (Option Int) :=
  if InRange t.instant ∧ (6 < fraction.length → IsWrittenInRange t fraction) then
    .ok (some (millisOfInstant t.instant))
  else beyondRange fraction

/-- Whether a text is a number below a thousand, with a sign or not, between blanks. A text with a
zero in front is none. -/
def isSmallNumber (cs : List Char) : Bool :=
  let number := match trim isAsciiBlank cs with
    | '-' :: cs | '+' :: cs => cs
    | cs => cs
  let whole := number.takeWhile isAsciiDigit
  let fraction := match number.dropWhile isAsciiDigit with
    | [] => some []
    | '.' :: cs => if cs.all isAsciiDigit then some cs else none
    | _ => none
  cs.head? != some '0' && (valueOfAscii whole < 1000 || (trim isAsciiBlank cs).head? == some '-') &&
    fraction.any fun fraction => !(whole.isEmpty && fraction.isEmpty)

def startsWithTime : List Char → Bool
  | h :: ':' :: m :: n :: _ => isTime [h] [m, n]
  | g :: h :: ':' :: m :: n :: _ => isTime [g, h] [m, n]
  | _ => false
where
  isTime (hour minute : List Char) : Bool :=
    hour.all isAsciiDigit && minute.all isAsciiDigit &&
      valueOfAscii hour < 24 && valueOfAscii minute < 60

/-- What a text is, read in each form in turn. A time in front needs a whole date after it: one that
takes its date from the clock is not read. -/
def read (cs : List Char) : Reading :=
  if cs.any isStandIn then .noInstant
  else (Iso.read cs).orElse fun _ =>
    if isSmallNumber cs then .noInstant
    else if startsWithTime cs then Prose.read true cs
    else (Shorthand.read cs).orElse fun _ => Prose.read false cs

def millis? : Option String → Except Fault (Option Int)
  | none => .ok none
  | some s =>
    match read s.toList with
    | .stamp t fraction => millisOfDateTime t fraction
    | .early fraction => beyondRange fraction
    | .unread | .noInstant => .ok none

def latest (times : List (Option Int)) : Option Int := (times.filterMap id).max?

end RunCharts.Timestamp
