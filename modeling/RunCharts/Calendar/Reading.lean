import RunCharts.Calendar.DateTime

/-!
# Readings

Date-times are written in several forms, which are tried one after another. A reading is what one
form makes of a text. A text of a form that names no instant, such as a quarter five, is not tried
in the forms after it. Nor is one that names an instant before year 1, where the calendar ends.
-/

namespace RunCharts

inductive Reading where
  /-- The text is not of this form. -/
  | unread
  | noInstant
  /-- A date-time, with the digits after the point of its seconds. -/
  | stamp (t : DateTime) (fraction : List Nat)
  /-- An instant before year 1, with the digits after the point of its seconds. -/
  | early (fraction : List Nat)
deriving DecidableEq, Repr

namespace Reading

def orElse (r : Reading) (next : Unit → Reading) : Reading :=
  match r with
  | unread => next ()
  | r => r

def ofDate (d : Date) : Reading := if d.Valid then stamp ⟨d, .midnight, none⟩ [] else noInstant

end Reading

end RunCharts
