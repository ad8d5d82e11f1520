/-!
# Hexadecimal digits

Fixed-width lower-case numerals for escapes, and the value of a digit in either case.
-/

namespace RunCharts.Text

def hexDigits (width n : Nat) : List Char :=
  match width with
  | 0 => []
  | w + 1 => hexDigits w (n / 16) ++ [Nat.digitChar (n % 16)]

@[simp] theorem length_hexDigits (width n : Nat) : (hexDigits width n).length = width := by
  induction width generalizing n with
  | zero => rfl
  | succ w ih => simp [hexDigits, ih]

def hexValue? (c : Char) : Option Nat :=
  if '0' ≤ c && c ≤ '9' then some (c.toNat - '0'.toNat)
  else if 'a' ≤ c && c ≤ 'f' then some (c.toNat - 'a'.toNat + 10)
  else if 'A' ≤ c && c ≤ 'F' then some (c.toNat - 'A'.toNat + 10)
  else none

theorem hexValue?_digitChar {d : Nat} (h : d < 16) : hexValue? (Nat.digitChar d) = some d := by
  have : ∀ d : Fin 16, hexValue? (Nat.digitChar d) = some d.val := by decide
  exact this ⟨d, h⟩

/-- The number that hexadecimal digits denote, the first digit leading, from a value on. -/
def hexNumber? (n : Nat) : List Char → Option Nat
  | [] => some n
  | c :: cs => (hexValue? c).bind fun d => hexNumber? (16 * n + d) cs

theorem hexNumber?_append (n : Nat) (cs ds : List Char) :
    hexNumber? n (cs ++ ds) = (hexNumber? n cs).bind fun m => hexNumber? m ds := by
  induction cs generalizing n with
  | nil => rfl
  | cons c cs ih =>
    simp only [List.cons_append, hexNumber?, Option.bind_assoc]
    cases hexValue? c <;> simp [ih]

/-- Reading fixed-width digits gives the number modulo their range. -/
theorem hexNumber?_hexDigits (width n m : Nat) :
    hexNumber? m (hexDigits width n) = some (m * Nat.pow 16 width + n % Nat.pow 16 width) := by
  induction width generalizing n m with
  | zero => simp [hexDigits, hexNumber?, Nat.mod_one]
  | succ w ih =>
    rw [hexDigits, hexNumber?_append, ih, Option.bind_some, hexNumber?,
      hexValue?_digitChar (Nat.mod_lt _ (by decide)), Option.bind_some, hexNumber?]
    congr 1
    simp only [Nat.pow_eq, Nat.pow_succ]
    rw [Nat.mul_comm (16 ^ w) 16, Nat.mod_mul, Nat.mul_add,
      Nat.mul_comm 16 (m * 16 ^ w), Nat.mul_assoc m, Nat.mul_comm 16 (16 ^ w)]
    omega

end RunCharts.Text
