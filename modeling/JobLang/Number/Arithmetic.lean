import JobLang.Number.Binary64

/-!
# Remainder and power of doubles

Addition, subtraction, multiplication and division are the operations of the double type itself.
The remainder is computed exactly in integers, and the power fixes the two cases that hold for
every other operand: any number to the zero, and one to any number, are one.
-/
namespace JobLang.Number

/-- What is left of the dividend after as many whole divisors as fit, with the dividend's sign. -/
def Binary64.remainder (x y : Binary64) : Binary64 :=
  let exponent := min x.exponent y.exponent
  let dividend := x.mantissa <<< (x.exponent - exponent).toNat
  let divisor := y.mantissa <<< (y.exponent - exponent).toNat
  ⟨x.negative, dividend % divisor, exponent⟩

/-- The value that is not a number. -/
def nan : Float := 0 / 0

/-- The remainder of division toward zero. It is not a number if the dividend is infinite or the
divisor is zero, and the dividend itself if the divisor is infinite. -/
def remainder (x y : Float) : Float :=
  match Binary64.ofFloat? x, Binary64.ofFloat? y with
  | some a, some b => if b.mantissa = 0 then nan else (a.remainder b).toFloat
  | some _, none => if y.isNaN then nan else x
  | none, _ => nan

/-- One number to the power of another. -/
def power (x y : Float) : Float :=
  if y == 0 then 1
  else if x == 1 then 1
  else x.pow y

theorem power_of_zero {x y : Float} (zero : (y == 0) = true) : power x y = 1 := by
  simp [power, zero]

theorem power_of_one {x y : Float} (one : (x == 1) = true) : power x y = 1 := by
  simp [power, one]

end JobLang.Number
