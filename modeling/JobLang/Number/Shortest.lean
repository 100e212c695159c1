import JobLang.Number.Binary64

/-!
# The shortest decimal of a double

The shortest decimal of a double is the one with the fewest digits among those that read back as
that double; of several it is the nearest to the exact value, and of two equally near ones the
larger. All comparisons are between natural numbers: the value and the ends of the interval of
reals that round to it are counted in quarters of the unit of its last bit.
-/
namespace JobLang.Number

/-- The positive number `coefficient · 10 ^ exponent`. -/
structure Decimal where
  coefficient : Nat
  exponent : Int
deriving DecidableEq, Repr

namespace Shortest

/-- A positive ratio, and the interval around it, over one denominator. -/
structure Target where
  low : Nat
  value : Nat
  high : Nat
  denominator : Nat
  /-- The ends of the interval belong to it. -/
  closed : Bool

/-- The interval of the reals that round to a positive double. It is half as wide below a power of
two, where the spacing of doubles changes, and a double with an even mantissa takes its ends. -/
def Target.ofBinary64 (x : Binary64) : Target :=
  let below :=
    if x.mantissa = Binary64.leadingBit ∧ x.exponent ≠ Binary64.leastExponent then 1 else 2
  let shift := (x.exponent - 2).toNat
  { low := (4 * x.mantissa - below) <<< shift
    value := (4 * x.mantissa) <<< shift
    high := (4 * x.mantissa + 2) <<< shift
    denominator := 1 <<< (2 - x.exponent).toNat
    closed := x.mantissa % 2 = 0 }

/-- The number of decimal digits of a natural number. -/
def digitCount (n : Nat) : Nat := (Nat.toDigits 10 n).length

/-- The exponent `k` for which the value lies from `10 ^ (k - 1)` up to, but not including,
`10 ^ k`. -/
def Target.magnitude (t : Target) : Int :=
  if t.denominator ≤ t.value then digitCount (t.value / t.denominator)
  else 1 - digitCount ((t.denominator + t.value - 1) / t.value - 1)

/-- The two neighbours of the value among the multiples of `10 ^ exponent`, as far as they lie in
the interval, and of two the nearer one. -/
def Target.onGrid? (t : Target) (exponent : Int) : Option Nat :=
  let unit := Nat.pow 10 exponent.toNat * t.denominator
  let factor := Nat.pow 10 (-exponent).toNat
  let value := t.value * factor
  let lower := value / unit
  let inside (n : Nat) : Bool :=
    if t.closed then t.low * factor ≤ n * unit && n * unit ≤ t.high * factor
    else t.low * factor < n * unit && n * unit < t.high * factor
  let nearer := if 2 * (value % unit) < unit then lower else lower + 1
  let farther := if 2 * (value % unit) < unit then lower + 1 else lower
  if inside nearer then some nearer
  else if inside farther then some farther
  else none

/-- The first grid that has a point in the interval, tried from coarse to fine. Every double is
told apart by seventeen digits, so one more grid is never needed. -/
def Target.search (t : Target) (exponent : Int) : Nat → Decimal
  | 0 => ⟨0, 0⟩
  | grids + 1 =>
    match t.onGrid? exponent with
    | some coefficient => ⟨coefficient, exponent⟩
    | none => t.search (exponent - 1) grids

end Shortest

/-- The shortest decimal of a positive double; only the magnitude counts. -/
def Binary64.shortest (x : Binary64) : Decimal :=
  let target := Shortest.Target.ofBinary64 x
  target.search (target.magnitude - 1) 17

end JobLang.Number
